import Smr.Node.Calls
import Smr.Synod.Protocol

set_option autoImplicit false

namespace Smr

open Text

-- The nodes stand at their ids. A message in `sent` is known by its place there;
-- the last four fields are history and steer nothing.
structure Cluster (C : Type) where
  nodes : Nat → MultiPaxosNode C
  sent : List (Message C)
  delivered : List (Nat × Nat)
  trace : List (TraceEvent C)
  calls : List (Nat × C)
  placed : List (Placement C)

inductive Action (C : Type) where
  | propose (nodeId : Nat) (cmd : C)
  | deliver (nodeId broadcast : Nat)
  | getCommitId (nodeId instanceId : Nat)
  | crash (nodeId : Nat)
  deriving DecidableEq, Repr

variable {C : Type}

namespace Cluster

def config (total nodeId : Nat) : SmrConfig :=
  { nodeId := nodeId, totalNodes := total }

def placement (s : Cluster C) : Action C → Option (Placement C)
  | .propose p cmd =>
    if (s.nodes p).forwards then none
    else some
      { nodeId := p, instanceId := (s.nodes p).nextInstanceId, command := cmd, request := none }
  | .deliver p k =>
    match s.sent[k]? with
    | some { senderId := sender, msg := .requestCommandToLeader cmd forwardId, .. } =>
      if (s.nodes p).isLeader then
        some
          { nodeId := p, instanceId := (s.nodes p).nextInstanceId, command := cmd
            request := some (sender, forwardId) }
      else none
    | _ => none
  | _ => none

def record (s : Cluster C) (a : Action C) (p : Nat) (node : MultiPaxosNode C)
    (msgs : List (Message C)) (trace : List (TraceEvent C)) : Cluster C :=
  { s with
    nodes := Function.update s.nodes p node
    sent := s.sent ++ msgs
    trace := s.trace ++ trace
    placed := s.placed ++ (s.placement a).toList }

variable [DecidableEq C] [Serde Nat] [Serde (AcceptedValue C)]

-- A call that ends in a fault ends the run; a message that is never delivered is lost.
def step (total : Nat) (s : Cluster C) : Action C → Option (Cluster C)
  | .propose p cmd =>
    if p < total then
      let called := (s.nodes p).propose cmd
      match called.result with
      | .ok (msgs, _) =>
        some { s.record (.propose p cmd) p called.after msgs called.trace with
          calls := s.calls ++ [(p, cmd)] }
      | .error _ => none
    else none
  | .deliver p k =>
    match s.sent[k]? with
    | none => none
    | some m =>
      if p < total ∧ m.senderId ≠ p then
        let called := (s.nodes p).handleMessage m
        match called.result with
        | .ok msgs =>
          some { s.record (.deliver p k) p called.after msgs called.trace with
            delivered := (k, p) :: s.delivered }
        | .error _ => none
      else none
  | .getCommitId p instanceId =>
    if p < total then
      some { s with nodes := Function.update s.nodes p ((s.nodes p).getCommitId instanceId).2 }
    else none
  | .crash p =>
    if p < total then
      match (s.nodes p).storage with
      | none => none
      | some storage =>
        match MultiPaxosNode.withStorage (s.nodes p).config storage with
        | .ok node => some { s with nodes := Function.update s.nodes p node }
        | .error _ => none
    else none

def Empty (storage : PaxosStorage C) : Prop :=
  storage.storage.map.scanPrefix (asBytes acceptorRoot) = []

inductive Boots (total p : Nat) : MultiPaxosNode C → Prop where
  | new : Boots total p (MultiPaxosNode.new (config total p))
  | withStorage (storage : PaxosStorage C) (node : MultiPaxosNode C) (empty : Empty storage)
      (built : MultiPaxosNode.withStorage (config total p) storage = .ok node) :
      Boots total p node

structure Init (total : Nat) (s : Cluster C) : Prop where
  boots : ∀ p < total, Boots total p (s.nodes p)
  sent : s.sent = []
  delivered : s.delivered = []
  trace : s.trace = []
  calls : s.calls = []
  placed : s.placed = []

def system (total : Nat) : Run.System (Cluster C) (Action C) :=
  { init := Init total, step := fun s a t => step total s a = some t }

def storedSystem (total : Nat) : Run.System (Cluster C) (Action C) :=
  { init := fun s => Init total s ∧ ∀ p < total, (s.nodes p).storage.isSome
    step := fun s a t => step total s a = some t }

def boot (total : Nat) : Cluster C :=
  { nodes := fun p => MultiPaxosNode.new (config total p)
    sent := []
    delivered := []
    trace := []
    calls := []
    placed := [] }

omit [DecidableEq C] in
theorem boot_init (total : Nat) : Init total (boot total : Cluster C) where
  boots _ _ := .new
  sent := rfl
  delivered := rfl
  trace := rfl
  calls := rfl
  placed := rfl

def emptyStorage : PaxosStorage C :=
  { storage := { map := .new, written := [], fails := fun _ => false } }

def bootStored (total : Nat) : Cluster C :=
  { boot total with
    nodes := fun p =>
      { MultiPaxosNode.new (config total p) with storage := some emptyStorage } }

omit [DecidableEq C] in
theorem withStorage_empty (config : SmrConfig) :
    MultiPaxosNode.withStorage config (emptyStorage : PaxosStorage C) =
      .ok { MultiPaxosNode.new config with storage := some emptyStorage } :=
  rfl

theorem bootStored_init (total : Nat) : (storedSystem total).init (bootStored total : Cluster C) :=
  ⟨{ boots := fun p _ => .withStorage emptyStorage _ rfl (withStorage_empty (config total p))
     sent := rfl
     delivered := rfl
     trace := rfl
     calls := rfl
     placed := rfl }, fun _ _ => rfl⟩

def Once (s : Cluster C) : Action C → Prop
  | .deliver p k => (k, p) ∉ s.delivered
  | _ => True

def NoCrash : Action C → Prop
  | .crash _ => False
  | _ => True

instance (s : Cluster C) : (a : Action C) → Decidable (s.Once a)
  | .deliver p k => inferInstanceAs (Decidable ((k, p) ∉ s.delivered))
  | .propose _ _ | .getCommitId _ _ | .crash _ => .isTrue trivial

instance : (a : Action C) → Decidable (NoCrash a)
  | .crash _ => .isFalse id
  | .propose _ _ | .deliver _ _ | .getCommitId _ _ => .isTrue trivial

end Cluster

end Smr
