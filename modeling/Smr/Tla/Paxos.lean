import Smr.Shared.Run

set_option autoImplicit false

namespace Smr

namespace Paxos

variable {C : Type}

structure Report (C : Type) where
  sender : Nat
  ballot : Nat
  maxVBal : Int
  maxVal : Option C

inductive Msg (C : Type) where
  | phase1a (sender ballot : Nat)
  | phase1b (report : Report C)
  | phase2a (sender ballot : Nat) (value : C)
  | phase2b (sender ballot : Nat) (value : C)

end Paxos

-- The variables of Paxos.tla; "None" is `none`, and Values is the type of the commands.
structure Paxos (C : Type) where
  maxBal : Nat → Int
  maxVBal : Nat → Int
  maxVal : Nat → Option C
  msgs : Set (Paxos.Msg C)

namespace Paxos

variable {C : Type}

def Phase1a (p b : Nat) (s t : Paxos C) : Prop :=
  t = { s with msgs := insert (.phase1a p b) s.msgs }

def Phase1b (a : Nat) (s t : Paxos C) : Prop :=
  ∃ sender ballot : Nat, .phase1a sender ballot ∈ s.msgs ∧ s.maxBal a < ballot ∧
    t =
      { s with
        maxBal := Function.update s.maxBal a ballot
        msgs := insert (.phase1b ⟨a, ballot, s.maxVBal a, s.maxVal a⟩) s.msgs }

def Phase2a (quorum p b : Nat) (v : C) (s t : Paxos C) : Prop :=
  (¬∃ sender value, .phase2a sender b value ∈ s.msgs) ∧
  (∃ reports : Set (Report C), (∀ m ∈ reports, .phase1b m ∈ s.msgs ∧ m.ballot = b) ∧
    quorum ≤ (Set.image Report.sender reports).ncard ∧
    ((∀ m ∈ reports, m.maxVBal = -1) ∨
      ∃ m ∈ reports, 0 ≤ m.maxVBal ∧ m.maxVal = some v ∧
        ∀ other ∈ reports, other.maxVBal ≤ m.maxVBal)) ∧
  t = { s with msgs := insert (.phase2a p b v) s.msgs }

def Phase2b (a : Nat) (s t : Paxos C) : Prop :=
  ∃ (sender ballot : Nat) (value : C), .phase2a sender ballot value ∈ s.msgs ∧
    s.maxBal a ≤ ballot ∧
    t =
      { maxBal := Function.update s.maxBal a ballot
        maxVBal := Function.update s.maxVBal a ballot
        maxVal := Function.update s.maxVal a (some value)
        msgs := insert (.phase2b a ballot value) s.msgs }

structure Init (nodes : Finset Nat) (s : Paxos C) : Prop where
  maxBal : ∀ a ∈ nodes, s.maxBal a = -1
  maxVBal : ∀ a ∈ nodes, s.maxVBal a = -1
  maxVal : ∀ a ∈ nodes, s.maxVal a = none
  msgs : s.msgs = ∅

inductive Next (nodes : Finset Nat) (quorum : Nat) (s t : Paxos C) : Prop where
  | phase1a (p b : Nat) (member : p ∈ nodes) (taken : Phase1a p b s t)
  | phase1b (a : Nat) (member : a ∈ nodes) (taken : Phase1b a s t)
  | phase2a (p b : Nat) (v : C) (member : p ∈ nodes) (taken : Phase2a quorum p b v s t)
  | phase2b (a : Nat) (member : a ∈ nodes) (taken : Phase2b a s t)

-- Spec: every step is one of Next or a stuttering step.
def spec (nodes : Finset Nat) (quorum : Nat) : Run.System (Paxos C) Unit :=
  { init := Init nodes, step := fun s _ t => Next nodes quorum s t ∨ t = s }

end Paxos

end Smr
