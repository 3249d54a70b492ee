import Smr.Shared.Machine
import Smr.Synod.Cascade

set_option autoImplicit false

namespace Smr

variable {C : Type}

inductive ProposerCall (C : Type) where
  | newPrepare (value : C)
  | newAccept (ballot : Nat) (value : C)
  | handleMessage (message : MessageKind C)
  deriving DecidableEq, Repr

def ProposerCall.Ordinary : ProposerCall C → Prop
  | .newAccept _ _ => False
  | _ => True

instance : (call : ProposerCall C) → Decidable call.Ordinary
  | .newAccept _ _ => .isFalse id
  | .newPrepare _ | .handleMessage _ => .isTrue trivial

namespace InnerState

inductive Answers (self : InnerState C) :
    ProposerCall C → Option (MessageKind C) → InnerState C → Prop where
  | prepared (value : C) (positive : self.header.totalNodes ≠ 0)
      (fits : self.header.nextBallot ≤ u32Max) :
      Answers self (.newPrepare value)
        (some (.prepareMsg
          { sender := self.header.proposerId, ballot := self.header.nextBallot }))
        (.proposal (self.header.enter self.header.nextBallot (ProposalState.new value)))
  | accepted (ballot : Nat) (value : C) :
      Answers self (.newAccept ballot value)
        (some (.acceptMsg
          { sender := self.header.proposerId, ballot := ballot, command := value }))
        (.accepting (self.header.enter ballot (AcceptingState.new value)))
  | stepped {message : MessageKind C} {response : Option (MessageKind C)} {next : InnerState C}
      (step : self.Step message response next) : Answers self (.handleMessage message) response next

end InnerState

namespace Proposer

def call (self : Proposer C) : ProposerCall C → Except Fault (Option (MessageKind C) × Proposer C)
  | .newPrepare value => do
    let (msg, next) ← self.newPrepare value
    pure (some msg, next)
  | .newAccept ballot value => do
    let (msg, next) ← self.newAccept ballot value
    pure (some msg, next)
  | .handleMessage message => self.handleMessage message

abbrev Past (C : Type) : Type :=
  List (Machine.Call (Proposer C) (ProposerCall C) (Option (MessageKind C)))

def Run (start : Proposer C) (past : Past C) (self : Proposer C) : Prop :=
  Machine.Run (fun s input output t => s.call input = .ok (output, t)) start past self

theorem newPrepare_answers {self after : Proposer C} {value : C} {msg : MessageKind C}
    (done : self.newPrepare value = .ok (msg, after)) :
    self.innerState.Answers (.newPrepare value) (some msg) after.innerState := by
  obtain ⟨⟨response, next⟩, prepared, done⟩ := bind_ok.mp done
  obtain ⟨state⟩ := self
  cases state <;>
    obtain ⟨positive, fits, rfl, rfl⟩ := StateWrapper.newPrepare_ok prepared <;>
    simp only [pure, Except.pure, Except.ok.injEq, Prod.mk.injEq] at done <;>
    obtain ⟨rfl, rfl⟩ := done <;>
    exact .prepared value positive fits

theorem newAccept_answers {self after : Proposer C} {ballot : Nat} {value : C}
    {msg : MessageKind C} (done : self.newAccept ballot value = .ok (msg, after)) :
    self.innerState.Answers (.newAccept ballot value) (some msg) after.innerState := by
  obtain ⟨⟨response, next⟩, accepted, done⟩ := bind_ok.mp done
  obtain ⟨state⟩ := self
  cases state <;>
    simp only [InnerState.newAccept, StateWrapper.newAccept, Except.ok.injEq, Prod.mk.injEq,
      reduceCtorEq] at accepted <;>
    obtain ⟨rfl, rfl⟩ := accepted <;>
    simp only [pure, Except.pure, Except.ok.injEq, Prod.mk.injEq] at done <;>
    obtain ⟨rfl, rfl⟩ := done <;>
    exact .accepted ballot value

theorem handleMessage_answers {self after : Proposer C} {message : MessageKind C}
    {response : Option (MessageKind C)}
    (done : self.handleMessage message = .ok (response, after)) :
    self.innerState.Answers (.handleMessage message) response after.innerState := by
  obtain ⟨⟨answer, next⟩, handled, done⟩ := bind_ok.mp done
  simp only [pure, Except.pure, Except.ok.injEq, Prod.mk.injEq] at done
  obtain ⟨rfl, rfl⟩ := done
  exact .stepped (InnerState.handleMessage_step handled)

theorem call_answers {self after : Proposer C} {input : ProposerCall C}
    {response : Option (MessageKind C)} (done : self.call input = .ok (response, after)) :
    self.innerState.Answers input response after.innerState := by
  cases input with
  | newPrepare value =>
    obtain ⟨⟨msg, next⟩, prepared, done⟩ := bind_ok.mp done
    simp only [pure, Except.pure, Except.ok.injEq, Prod.mk.injEq] at done
    obtain ⟨rfl, rfl⟩ := done
    exact newPrepare_answers prepared
  | newAccept ballot value =>
    obtain ⟨⟨msg, next⟩, accepted, done⟩ := bind_ok.mp done
    simp only [pure, Except.pure, Except.ok.injEq, Prod.mk.injEq] at done
    obtain ⟨rfl, rfl⟩ := done
    exact newAccept_answers accepted
  | handleMessage message => exact handleMessage_answers done

def promisesFor (ballot : Nat) (calls : Past C) : List (Promise C) :=
  calls.filterMap fun call =>
    match call.input with
    | .handleMessage (.promiseMsg m) => if m.ballot = ballot then some m else none
    | _ => none

def acksFor (ballot : Nat) (calls : Past C) : List AckAccept :=
  calls.filterMap fun call =>
    match call.input with
    | .handleMessage (.ackAcceptMsg m) => if m.ballot = ballot then some m else none
    | _ => none

def opensRound : Option (MessageKind C) → Bool
  | some (.prepareMsg _) => true
  | _ => false

def opensPhase : Option (MessageKind C) → Bool
  | some (.prepareMsg _) | some (.acceptMsg _) => true
  | _ => false

def heldAfter (held : Option C) (input : ProposerCall C) : Option (MessageKind C) → Option C
  | some (.acceptMsg a) => some a.command
  | some (.prepareMsg _) =>
    match input with
    | .newPrepare value => some value
    | .handleMessage (.requestCommandToLeader cmd _) => some cmd
    | _ => held
  | _ => held

def heldValue (past : Past C) : Option C :=
  past.foldl (fun held call => heldAfter held call.input call.output) none

open Machine (since)

-- What a proposer has counted in its round is what came in since the Prepare went out.
structure Collected (past : Past C) (w : StateWrapper (ProposalState C)) : Prop where
  short : w.state.promises < max w.quorumSize 1
  promises : w.state.promises = (promisesFor w.ballot (since opensRound past)).length
  proposals : w.state.maxAcceptedProposals =
    (promisesFor w.ballot (since opensRound past)).filterMap Promise.maxAccepted
  held : heldValue past = some w.state.value
  opened : ∃ before opening p, past = before ++ opening :: since opensRound past ∧
    opening.output = some (.prepareMsg p) ∧ p.ballot = w.ballot ∧
    heldValue (before ++ [opening]) = some w.state.value

structure Acknowledged (past : Past C) (w : StateWrapper (AcceptingState C)) : Prop where
  short : w.state.accepts < max w.quorumSize 1
  accepts : w.state.accepts = (acksFor w.ballot (since opensPhase past)).length
  held : heldValue past = some w.state.value

def Tallied (past : Past C) : InnerState C → Prop
  | .proposal w => Collected past w
  | .accepting w => Acknowledged past w
  | _ => True

section Calls

variable {past : Past C} {call : Machine.Call (Proposer C) (ProposerCall C) (Option (MessageKind C))}

theorem promisesFor_call (ballot : Nat) :
    promisesFor ballot (past ++ [call]) = promisesFor ballot past ++ promisesFor ballot [call] :=
  List.filterMap_append

theorem acksFor_call (ballot : Nat) :
    acksFor ballot (past ++ [call]) = acksFor ballot past ++ acksFor ballot [call] :=
  List.filterMap_append

theorem heldValue_call :
    heldValue (past ++ [call]) = heldAfter (heldValue past) call.input call.output := by
  simp [heldValue]

theorem promises_silent (past : Past C) {ballot : Nat} (silent : call.output = none)
    (others : promisesFor ballot [call] = []) :
    promisesFor ballot (since opensRound (past ++ [call])) =
      promisesFor ballot (since opensRound past) := by
  rw [Machine.since_call, silent]
  simp only [opensRound, Bool.false_eq_true, if_false]
  rw [promisesFor_call, others, List.append_nil]

theorem promises_counted (past : Past C) {ballot : Nat} {m : Promise C} (silent : call.output = none)
    (input : call.input = .handleMessage (.promiseMsg m)) (same : m.ballot = ballot) :
    promisesFor ballot (since opensRound (past ++ [call])) =
      promisesFor ballot (since opensRound past) ++ [m] := by
  rw [Machine.since_call, silent]
  simp only [opensRound, Bool.false_eq_true, if_false]
  rw [promisesFor_call]
  simp [promisesFor, input, same]

theorem acks_silent (past : Past C) {ballot : Nat} (silent : call.output = none)
    (others : acksFor ballot [call] = []) :
    acksFor ballot (since opensPhase (past ++ [call])) =
      acksFor ballot (since opensPhase past) := by
  rw [Machine.since_call, silent]
  simp only [opensPhase, Bool.false_eq_true, if_false]
  rw [acksFor_call, others, List.append_nil]

theorem acks_counted (past : Past C) {ballot : Nat} {m : AckAccept} (silent : call.output = none)
    (input : call.input = .handleMessage (.ackAcceptMsg m)) (same : m.ballot = ballot) :
    acksFor ballot (since opensPhase (past ++ [call])) =
      acksFor ballot (since opensPhase past) ++ [m] := by
  rw [Machine.since_call, silent]
  simp only [opensPhase, Bool.false_eq_true, if_false]
  rw [acksFor_call]
  simp [acksFor, input, same]

theorem since_prepare (past : Past C) {p : Prepare} (prepares : call.output = some (.prepareMsg p)) :
    since opensRound (past ++ [call]) = [] := by
  rw [Machine.since_call, prepares]
  rfl

theorem since_accept (past : Past C) {a : Accept C} (accepts : call.output = some (.acceptMsg a)) :
    since opensPhase (past ++ [call]) = [] := by
  rw [Machine.since_call, accepts]
  rfl

theorem promises_ignored {w : StateWrapper (ProposalState C)} {message : MessageKind C}
    (input : call.input = .handleMessage message)
    (ignores : (InnerState.proposal w).Ignores message) : promisesFor w.ballot [call] = [] := by
  cases message with
  | promiseMsg m =>
    have differs : m.ballot ≠ w.ballot := ignores
    simp [promisesFor, input, differs]
  | _ => simp [promisesFor, input]

theorem acks_ignored {w : StateWrapper (AcceptingState C)} {message : MessageKind C}
    (input : call.input = .handleMessage message)
    (ignores : (InnerState.accepting w).Ignores message) : acksFor w.ballot [call] = [] := by
  cases message with
  | ackAcceptMsg m =>
    have differs : m.ballot ≠ w.ballot := ignores
    simp [acksFor, input, differs]
  | _ => simp [acksFor, input]

theorem Collected.silent {w : StateWrapper (ProposalState C)} (collected : Collected past w)
    (silent : call.output = none) (others : promisesFor w.ballot [call] = []) (nacks : Nat) :
    Collected (past ++ [call]) { w with state := { w.state with nacks := nacks } } := by
  have later : since opensRound (past ++ [call]) = since opensRound past ++ [call] := by
    rw [Machine.since_call, silent]
    rfl
  have same := promises_silent past silent others
  obtain ⟨before, opening, p, whole, opens, ballot, started⟩ := collected.opened
  exact
    { short := collected.short
      promises := same ▸ collected.promises
      proposals := same ▸ collected.proposals
      held := by rw [heldValue_call, silent]; exact collected.held
      opened := ⟨before, opening, p, by rw [later, ← List.cons_append, ← List.append_assoc, ← whole],
        opens, ballot, started⟩ }

theorem Acknowledged.silent {w : StateWrapper (AcceptingState C)}
    (acknowledged : Acknowledged past w) (silent : call.output = none)
    (others : acksFor w.ballot [call] = []) (nacks : Nat) :
    Acknowledged (past ++ [call]) { w with state := { w.state with nacks := nacks } } where
  short := acknowledged.short
  accepts := acks_silent past silent others ▸ acknowledged.accepts
  held := by rw [heldValue_call, silent]; exact acknowledged.held

theorem Collected.opens {w : StateWrapper (ProposalState C)} {p : Prepare}
    (prepares : call.output = some (.prepareMsg p)) (ballot : p.ballot = w.ballot)
    (fresh : w.state = ProposalState.new w.state.value)
    (held : heldAfter (heldValue past) call.input call.output = some w.state.value) :
    Collected (past ++ [call]) w := by
  have none_yet := since_prepare past prepares
  exact
    { short := by rw [fresh]; exact Nat.lt_of_lt_of_le Nat.zero_lt_one (Nat.le_max_right _ _)
      promises := by rw [none_yet, fresh]; rfl
      proposals := by rw [none_yet, fresh]; rfl
      held := by rw [heldValue_call, held]
      opened := ⟨past, call, p, by rw [none_yet], prepares, ballot, by rw [heldValue_call, held]⟩ }

theorem Acknowledged.opens {w : StateWrapper (AcceptingState C)} {a : Accept C}
    (accepts : call.output = some (.acceptMsg a)) (command : a.command = w.state.value)
    (fresh : w.state = AcceptingState.new w.state.value) : Acknowledged (past ++ [call]) w := by
  have none_yet := since_accept past accepts
  exact
    { short := by rw [fresh]; exact Nat.lt_of_lt_of_le Nat.zero_lt_one (Nat.le_max_right _ _)
      accepts := by rw [none_yet, fresh]; rfl
      held := by rw [heldValue_call, accepts, heldAfter, command] }

theorem Collected.promise {w : StateWrapper (ProposalState C)} (collected : Collected past w)
    {m : Promise C} (input : call.input = .handleMessage (.promiseMsg m))
    (silent : call.output = none) (same : m.ballot = w.ballot)
    (below : w.state.promises + 1 < w.quorumSize) :
    Collected (past ++ [call])
      { w with
        state :=
          { w.state with
            promises := w.state.promises + 1
            maxAcceptedProposals := w.state.maxAcceptedProposals ++ m.maxAccepted.toList } } := by
  have later : since opensRound (past ++ [call]) = since opensRound past ++ [call] := by
    rw [Machine.since_call, silent]
    rfl
  have counted := promises_counted past silent input same
  obtain ⟨before, opening, p, whole, opens, ballot, started⟩ := collected.opened
  exact
    { short := Nat.lt_of_lt_of_le below (Nat.le_max_left _ _)
      promises := by simp [counted, collected.promises]
      proposals := by
        rw [counted, List.filterMap_append, ← collected.proposals]
        cases reported : m.maxAccepted <;> simp [reported]
      held := by rw [heldValue_call, silent]; exact collected.held
      opened := ⟨before, opening, p, by rw [later, ← List.cons_append, ← List.append_assoc, ← whole],
        opens, ballot, started⟩ }

theorem Acknowledged.ack {w : StateWrapper (AcceptingState C)} (acknowledged : Acknowledged past w)
    {m : AckAccept} (input : call.input = .handleMessage (.ackAcceptMsg m))
    (silent : call.output = none) (same : m.ballot = w.ballot)
    (below : w.state.accepts + 1 < w.quorumSize) :
    Acknowledged (past ++ [call])
      { w with state := { w.state with accepts := w.state.accepts + 1 } } := by
  have counted := acks_counted past silent input same
  exact
    { short := Nat.lt_of_lt_of_le below (Nat.le_max_left _ _)
      accepts := by simp [counted, acknowledged.accepts]
      held := by rw [heldValue_call, silent]; exact acknowledged.held }

theorem Tallied.ignored {state : InnerState C} (tallied : Tallied past state)
    {message : MessageKind C} (input : call.input = .handleMessage message)
    (silent : call.output = none) (ignores : state.Ignores message) :
    Tallied (past ++ [call]) state := by
  cases state with
  | initial w => trivial
  | learning w => trivial
  | proposal w => exact Collected.silent tallied silent (promises_ignored input ignores) _
  | accepting w => exact Acknowledged.silent tallied silent (acks_ignored input ignores) _

theorem Tallied.answers {state next : InnerState C} (tallied : Tallied past state)
    (answers : state.Answers call.input call.output next) : Tallied (past ++ [call]) next := by
  generalize given : call.input = input, answered : call.output = output at answers
  cases answers with
  | prepared value positive fits =>
    exact Collected.opens answered rfl rfl (by rw [given, answered]; rfl)
  | accepted ballot value => exact Acknowledged.opens answered rfl rfl
  | stepped step =>
    cases step with
    | request w cmd forwardId positive fits =>
      exact Collected.opens answered rfl rfl (by rw [given, answered]; rfl)
    | promise w m same below => exact Collected.promise tallied given answered same below
    | quorum w m value same reached chosen => exact Acknowledged.opens answered rfl rfl
    | nackPrepare w m tolerated =>
      exact Collected.silent tallied answered (by simp [promisesFor, given]) _
    | retryPrepare w m refused positive fits =>
      have held : heldValue past = some w.state.value := Collected.held tallied
      exact Collected.opens answered rfl rfl (by rw [given, answered, held]; rfl)
    | ack w m same below => exact Acknowledged.ack tallied given answered same below
    | won w m same reached => trivial
    | nackAccept w m tolerated =>
      exact Acknowledged.silent tallied answered (by simp [acksFor, given]) _
    | retryAccept w m refused positive fits =>
      have held : heldValue past = some w.state.value := Acknowledged.held tallied
      exact Collected.opens answered rfl rfl (by rw [given, answered, held]; rfl)
    | ignored state message ignores => exact tallied.ignored given answered ignores

end Calls

theorem Tallied.run {start self : Proposer C} {prior past : Past C}
    (tallied : Tallied prior start.innerState) (run : Run start past self) :
    Tallied (prior ++ past) self.innerState :=
  Machine.Run.keeps (fun past s => Tallied past s.innerState) run tallied Machine.each_true
    fun _ _ before now _ => before.answers (call_answers now)

end Proposer

end Smr
