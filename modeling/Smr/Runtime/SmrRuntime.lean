import Smr.Node.Sound
import Smr.Storage.CommandLog

set_option autoImplicit false

namespace Smr

class StateMachine (S : Type) (C : outParam Type) where
  Output : Type
  apply : S → C → Except Fault Output × S

-- Where the background loop of a runtime stands. After `committed` come, in the
-- loop's order, append, apply, set_last_applied, send and the count.
inductive Point (C Output : Type) where
  | listening
  | checking
  | committed (command : C) (sender : Option (Oneshot C))
  | appended (command : C) (sender : Option (Oneshot C))
  | applied (output : Output) (sender : Option (Oneshot C))
  | marked (output : Output) (sender : Option (Oneshot C))
  | counting

structure SmrRuntime (S C : Type) [StateMachine S C] where
  algorithm : MultiPaxosNode C
  stateMachine : S
  lastAppliedCommandId : Nat
  commandLog : Option (CommandLog C)
  point : Point C (StateMachine.Output S)
  -- Not in the source: the commands apply was given so far, and what was sent to the
  -- channels of propose.
  passed : List C
  answers : List (Oneshot C × StateMachine.Output S)

variable {S C : Type} [StateMachine S C]

def applyEntries : S → List (Nat × C) → Except Fault S
  | stateMachine, [] => .ok stateMachine
  | stateMachine, (_, cmd) :: rest =>
    match StateMachine.apply stateMachine cmd with
    | (.ok _, stateMachine) => applyEntries stateMachine rest
    | (.error fault, _) => .error fault

namespace SmrRuntime

def new (config : SmrConfig) (stateMachine : S) : SmrRuntime S C :=
  { algorithm := MultiPaxosNode.new config
    stateMachine := stateMachine
    lastAppliedCommandId := 0
    commandLog := none
    point := .listening
    passed := []
    answers := [] }

section Recovery

variable [DecidableEq C] [Serde Nat] [Serde C] [Serde (AcceptedValue C)]

def withStorage (config : SmrConfig) (stateMachine : S) (paxosStorage : PaxosStorage C)
    (commandLog : CommandLog C) : Except Fault (SmrRuntime S C) := do
  let entries ← commandLog.replay
  let lastApplied ← commandLog.lastApplied
  let stateMachine ← applyEntries stateMachine entries
  let algorithm ← MultiPaxosNode.withStorage config paxosStorage
  pure
    { algorithm := algorithm
      stateMachine := stateMachine
      lastAppliedCommandId := lastApplied
      commandLog := some commandLog
      point := .listening
      passed := []
      answers := [] }

-- What with_storage makes of the storage a crash leaves behind.
def recover (config : SmrConfig) (initial : S) (self : SmrRuntime S C) :
    Except Fault (SmrRuntime S C) :=
  match self.algorithm.storage, self.commandLog with
  | some paxosStorage, some commandLog => withStorage config initial paxosStorage commandLog
  | _, _ => .error .failed

end Recovery

section Loop

variable [Serde Nat] [Serde C]

-- One step of the loop over the committed commands; none waits for a message, or is a panic.
def advance (self : SmrRuntime S C) : Option (SmrRuntime S C) :=
  match self.point with
  | .listening => none
  | .checking =>
    match self.algorithm.getCommitId self.lastAppliedCommandId with
    | (some (command, sender), algorithm) =>
      some { self with algorithm := algorithm, point := .committed command sender }
    | (none, algorithm) => some { self with algorithm := algorithm, point := .listening }
  | .committed command sender =>
    some
      { self with
        commandLog := self.commandLog.map fun log =>
          (log.append self.lastAppliedCommandId command).2
        point := .appended command sender }
  | .appended command sender =>
    match StateMachine.apply self.stateMachine command with
    | (.ok output, stateMachine) =>
      some
        { self with
          stateMachine := stateMachine
          point := .applied output sender
          passed := self.passed ++ [command] }
    | (.error _, stateMachine) =>
      some
        { self with
          stateMachine := stateMachine
          point := .counting
          passed := self.passed ++ [command] }
  | .applied output sender =>
    match self.commandLog with
    | none => some { self with point := .marked output sender }
    | some log =>
      match u64Add self.lastAppliedCommandId 1 with
      | .error _ => none
      | .ok id =>
        some
          { self with
            commandLog := some (log.setLastApplied id).2
            point := .marked output sender }
  | .marked output sender =>
    some
      { self with
        answers := self.answers ++ sender.toList.map fun channel => (channel, output)
        point := .counting }
  | .counting =>
    match u64Add self.lastAppliedCommandId 1 with
    | .error _ => none
    | .ok id => some { self with lastAppliedCommandId := id, point := .checking }

inductive Advances (self : SmrRuntime S C) : SmrRuntime S C → Prop where
  | fetch {command : C} {sender : Option (Oneshot C)} {algorithm : MultiPaxosNode C}
      (stands : self.point = .checking)
      (found : self.algorithm.getCommitId self.lastAppliedCommandId =
        (some (command, sender), algorithm)) :
      Advances self { self with algorithm := algorithm, point := .committed command sender }
  | drain {algorithm : MultiPaxosNode C} (stands : self.point = .checking)
      (missing : self.algorithm.getCommitId self.lastAppliedCommandId = (none, algorithm)) :
      Advances self { self with algorithm := algorithm, point := .listening }
  | append {command : C} {sender : Option (Oneshot C)}
      (stands : self.point = .committed command sender) :
      Advances self
        { self with
          commandLog := self.commandLog.map fun log =>
            (log.append self.lastAppliedCommandId command).2
          point := .appended command sender }
  | apply {command : C} {sender : Option (Oneshot C)} {output : StateMachine.Output S}
      {stateMachine : S} (stands : self.point = .appended command sender)
      (done : StateMachine.apply self.stateMachine command = (.ok output, stateMachine)) :
      Advances self
        { self with
          stateMachine := stateMachine
          point := .applied output sender
          passed := self.passed ++ [command] }
  | reject {command : C} {sender : Option (Oneshot C)} {fault : Fault} {stateMachine : S}
      (stands : self.point = .appended command sender)
      (failed : StateMachine.apply self.stateMachine command = (.error fault, stateMachine)) :
      Advances self
        { self with
          stateMachine := stateMachine
          point := .counting
          passed := self.passed ++ [command] }
  | mark {output : StateMachine.Output S} {sender : Option (Oneshot C)}
      (stands : self.point = .applied output sender)
      (bounded : self.commandLog.isSome → self.lastAppliedCommandId + 1 ≤ u64Max) :
      Advances self
        { self with
          commandLog := self.commandLog.map fun log =>
            (log.setLastApplied (self.lastAppliedCommandId + 1)).2
          point := .marked output sender }
  | send {output : StateMachine.Output S} {sender : Option (Oneshot C)}
      (stands : self.point = .marked output sender) :
      Advances self
        { self with
          answers := self.answers ++ sender.toList.map fun channel => (channel, output)
          point := .counting }
  | count (stands : self.point = .counting) (bounded : self.lastAppliedCommandId + 1 ≤ u64Max) :
      Advances self
        { self with lastAppliedCommandId := self.lastAppliedCommandId + 1, point := .checking }

theorem advance_some {self after : SmrRuntime S C} (next : self.advance = some after) :
    self.Advances after := by
  unfold advance at next
  split at next
  next => simp at next
  next stands =>
    split at next
    next command sender algorithm found =>
      obtain rfl := Option.some.inj next
      exact .fetch stands found
    next algorithm missing =>
      obtain rfl := Option.some.inj next
      exact .drain stands missing
  next command sender stands =>
    obtain rfl := Option.some.inj next
    exact .append stands
  next command sender stands =>
    split at next
    next output stateMachine done =>
      obtain rfl := Option.some.inj next
      exact .apply stands done
    next fault stateMachine failed =>
      obtain rfl := Option.some.inj next
      exact .reject stands failed
  next output sender stands =>
    split at next
    next unlogged =>
      obtain rfl := Option.some.inj next
      have marks := Advances.mark stands (by simp [unlogged])
      rwa [unlogged, Option.map_none, ← unlogged] at marks
    next log logged =>
      split at next
      next => simp at next
      next id counted =>
        obtain ⟨bounded, rfl⟩ := u64Add_ok.mp counted
        obtain rfl := Option.some.inj next
        have marks := Advances.mark stands fun _ => bounded
        rw [logged] at marks
        exact marks
  next output sender stands =>
    obtain rfl := Option.some.inj next
    exact .send stands
  next stands =>
    split at next
    next => simp at next
    next id counted =>
      obtain ⟨bounded, rfl⟩ := u64Add_ok.mp counted
      obtain rfl := Option.some.inj next
      exact .count stands bounded

end Loop

end SmrRuntime

namespace Runtime

inductive Action (C : Type) where
  | deliver (message : Message C)
  | propose (command : C)
  | advance
  | crash

variable [DecidableEq C] [Serde Nat] [Serde C] [Serde (AcceptedValue C)]

-- The lock on the algorithm is held until the loop listens again. A call that does
-- not return Ok ends its task.
def step (config : SmrConfig) (initial : S) (s : SmrRuntime S C) :
    Action C → Option (SmrRuntime S C)
  | .deliver message =>
    match s.point, (s.algorithm.handleMessage message).result with
    | .listening, .ok _ =>
      some
        { s with algorithm := (s.algorithm.handleMessage message).after, point := .checking }
    | _, _ => none
  | .propose command =>
    match s.point, (s.algorithm.propose command).result with
    | .listening, .ok _ => some { s with algorithm := (s.algorithm.propose command).after }
    | _, _ => none
  | .advance => s.advance
  | .crash => (s.recover config initial).toOption

structure Blank (paxosStorage : PaxosStorage C) (commandLog : CommandLog C) : Prop where
  acceptors : paxosStorage.storage.map.scanPrefix (Text.asBytes acceptorRoot) = []
  entries : commandLog.storage.map.scanPrefix (Text.asBytes logRoot) = []
  mark : commandLog.storage.map.get lastAppliedKey = none

inductive Boots (config : SmrConfig) (initial : S) : SmrRuntime S C → Prop where
  | new : Boots config initial (SmrRuntime.new config initial)
  | withStorage {paxosStorage : PaxosStorage C} {commandLog : CommandLog C}
      {s : SmrRuntime S C} (blank : Blank paxosStorage commandLog)
      (built : SmrRuntime.withStorage config initial paxosStorage commandLog = .ok s) :
      Boots config initial s

def system (config : SmrConfig) (initial : S) : Run.System (SmrRuntime S C) (Action C) :=
  { init := Boots config initial, step := fun s a t => step config initial s a = some t }

def loggedSystem (config : SmrConfig) (initial : S) : Run.System (SmrRuntime S C) (Action C) :=
  { init := fun s => ∃ (paxosStorage : PaxosStorage C) (commandLog : CommandLog C),
      Blank paxosStorage commandLog ∧ commandLog.storage.Reliable ∧
      SmrRuntime.withStorage config initial paxosStorage commandLog = .ok s
    step := fun s a t => step config initial s a = some t }

end Runtime

end Smr
