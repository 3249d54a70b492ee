import Mathlib

set_option autoImplicit false

namespace Smr

-- Ballots and node ids are u32 in the source, instance and forward ids u64. Here
-- they are Nat, and every sum that could leave its width is checked.

-- How a call can end without a value: `panicked` is an overflow check, a
-- division by zero or an unwrap of None, `failed` an error handed up with `?`,
-- `diverged` the fuel of a loop running out.
inductive Fault where
  | panicked
  | failed
  | diverged
  deriving DecidableEq, Repr

def u32Max : Nat := 4294967295

def u64Max : Nat := 18446744073709551615

def checked (limit value : Nat) : Except Fault Nat :=
  if value ≤ limit then .ok value else .error .panicked

@[simp] theorem checked_ok {limit value result : Nat} :
    checked limit value = .ok result ↔ value ≤ limit ∧ result = value := by
  unfold checked
  split <;> simp_all [eq_comm]

@[simp] theorem checked_done (limit value : Nat) : checked limit value ≠ .error .diverged := by
  unfold checked
  split <;> simp

def u32Add (a b : Nat) : Except Fault Nat := checked u32Max (a + b)

def u32Mul (a b : Nat) : Except Fault Nat := checked u32Max (a * b)

def u32Sub (a b : Nat) : Except Fault Nat :=
  if b ≤ a then .ok (a - b) else .error .panicked

def u32Div (a b : Nat) : Except Fault Nat :=
  if b = 0 then .error .panicked else .ok (a / b)

def u64Add (a b : Nat) : Except Fault Nat := checked u64Max (a + b)

@[simp] theorem u32Add_ok {a b result : Nat} :
    u32Add a b = .ok result ↔ a + b ≤ u32Max ∧ result = a + b := by
  simp [u32Add]

@[simp] theorem u32Mul_ok {a b result : Nat} :
    u32Mul a b = .ok result ↔ a * b ≤ u32Max ∧ result = a * b := by
  simp [u32Mul]

@[simp] theorem u32Sub_ok {a b result : Nat} :
    u32Sub a b = .ok result ↔ b ≤ a ∧ result = a - b := by
  unfold u32Sub
  split <;> simp_all [eq_comm]

@[simp] theorem u32Div_ok {a b result : Nat} :
    u32Div a b = .ok result ↔ b ≠ 0 ∧ result = a / b := by
  unfold u32Div
  split <;> simp_all [eq_comm]

@[simp] theorem u64Add_ok {a b result : Nat} :
    u64Add a b = .ok result ↔ a + b ≤ u64Max ∧ result = a + b := by
  simp [u64Add]

@[simp] theorem u32Add_done (a b : Nat) : u32Add a b ≠ .error .diverged := by
  simp [u32Add]

@[simp] theorem u32Mul_done (a b : Nat) : u32Mul a b ≠ .error .diverged := by
  simp [u32Mul]

@[simp] theorem u32Sub_done (a b : Nat) : u32Sub a b ≠ .error .diverged := by
  unfold u32Sub
  split <;> simp

@[simp] theorem u32Div_done (a b : Nat) : u32Div a b ≠ .error .diverged := by
  unfold u32Div
  split <;> simp

theorem bind_ok {α β : Type} {x : Except Fault α} {f : α → Except Fault β} {result : β} :
    (x >>= f) = .ok result ↔ ∃ value, x = .ok value ∧ f value = .ok result := by
  cases x <;> simp [bind, Except.bind]

theorem map_ok {α β : Type} {x : Except Fault α} {f : α → β} {result : β} :
    x.map f = .ok result ↔ ∃ value, x = .ok value ∧ f value = result := by
  cases x <;> simp [Except.map]

theorem toOption_some {α : Type} {x : Except Fault α} {result : α} :
    x.toOption = some result ↔ x = .ok result := by
  cases x <;> simp [Except.toOption]

theorem bind_diverged {α β : Type} {x : Except Fault α} {f : α → Except Fault β} :
    (x >>= f) = .error .diverged ↔
      x = .error .diverged ∨ ∃ value, x = .ok value ∧ f value = .error .diverged := by
  cases x <;> simp [bind, Except.bind]

structure MaxAcceptedProposal (C : Type) where
  ballot : Nat
  command : C
  deriving DecidableEq, Repr

structure Prepare where
  sender : Nat
  ballot : Nat
  deriving DecidableEq, Repr

structure Promise (C : Type) where
  sender : Nat
  ballot : Nat
  maxAccepted : Option (MaxAcceptedProposal C)
  deriving DecidableEq, Repr

structure Accept (C : Type) where
  sender : Nat
  ballot : Nat
  command : C
  deriving DecidableEq, Repr

structure AckAccept where
  sender : Nat
  ballot : Nat
  deriving DecidableEq, Repr

structure NackPrepare where
  sender : Nat
  maxBallot : Nat
  deriving DecidableEq, Repr

structure NackAccept where
  sender : Nat
  maxBallot : Nat
  deriving DecidableEq, Repr

structure Learn (C : Type) where
  sender : Nat
  ballot : Nat
  command : C
  deriving DecidableEq, Repr

inductive MessageKind (C : Type) where
  | requestCommandToLeader (cmd : C) (forwardId : Nat)
  | forwardAck (forwardId instanceId : Nat)
  | prepareMsg (prepare : Prepare)
  | promiseMsg (promise : Promise C)
  | acceptMsg (accept : Accept C)
  | ackAcceptMsg (ack : AckAccept)
  | nackPrepareMsg (nack : NackPrepare)
  | nackAcceptMsg (nack : NackAccept)
  | learnMsg (learn : Learn C)
  | learnedCommand (cmd : C)
  deriving DecidableEq, Repr

-- What MultiPaxosNode::handle_message hands on to an instance: everything but
-- the two forwarding messages, which it answers itself.
def MessageKind.IsSynod {C : Type} : MessageKind C → Prop
  | .requestCommandToLeader _ _ | .forwardAck _ _ => False
  | _ => True

def MessageKind.ForProposer {C : Type} : MessageKind C → Prop
  | .promiseMsg _ | .ackAcceptMsg _ | .nackPrepareMsg _ | .nackAcceptMsg _ => True
  | _ => False

structure Message (C : Type) where
  senderId : Nat
  paxosInstance : Nat
  msg : MessageKind C
  deriving DecidableEq, Repr

-- The events trace.rs emits, one per linearization point of an instance.
inductive TraceEvent (C : Type) where
  | phase1a (nodeId instanceId ballot : Nat)
  | phase1b (nodeId instanceId ballot sender maxBal : Nat)
      (accepted : Option (MaxAcceptedProposal C))
  | nackPrepare (nodeId instanceId ballot sender maxBal : Nat)
  | phase2a (nodeId instanceId ballot : Nat) (value : C)
  | phase2b (nodeId instanceId ballot sender maxBal : Nat)
      (accepted : MaxAcceptedProposal C)
  | nackAccept (nodeId instanceId ballot sender maxBal : Nat)
  | learn (nodeId instanceId ballot : Nat) (value : C)
  deriving DecidableEq, Repr

def TraceEvent.instanceId {C : Type} : TraceEvent C → Nat
  | .phase1a _ instanceId _ | .phase1b _ instanceId _ _ _ _ | .nackPrepare _ instanceId _ _ _
  | .phase2a _ instanceId _ _ | .phase2b _ instanceId _ _ _ _ | .nackAccept _ instanceId _ _ _
  | .learn _ instanceId _ _ => instanceId

end Smr
