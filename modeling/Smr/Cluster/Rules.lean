import Smr.Cluster.Cluster

set_option autoImplicit false

namespace Smr

variable {C : Type}

-- An Accept a call is about to send, `fast` where no Phase 1 comes before it.
structure Issue (C : Type) where
  instanceId : Nat
  ballot : Nat
  value : C
  fast : Bool
  deriving DecidableEq, Repr

namespace MultiPaxosNode

def fastIssue (self : MultiPaxosNode C) (cmd : C) : Option (Issue C) :=
  if self.forwards then none
  else self.leaderBallot.map fun ballot =>
    { instanceId := self.nextInstanceId, ballot := ballot, value := cmd, fast := true }

def wonIssue (self : MultiPaxosNode C) (m : Message C) : Option (Issue C) :=
  match (self.instanceAt m.paxosInstance).proposer.innerState, m.msg with
  | .proposal wrapper, .promiseMsg promise =>
    if promise.ballot = wrapper.ballot ∧ wrapper.quorumSize ≤ wrapper.state.promises + 1 then
      some
        { instanceId := m.paxosInstance, ballot := wrapper.ballot
          value := wrapper.chosenWith promise, fast := false }
    else none
  | _, _ => none

end MultiPaxosNode

namespace Cluster

def view (s : Cluster C) (id : Nat) : Synod C :=
  { inst := fun p => (s.nodes p).instanceAt id
    sent := s.sent
    handled := {x | x ∈ s.delivered ∨ ∃ m, s.sent[x.1]? = some m ∧ m.senderId = x.2}
    trace := s.trace
    placed := s.placed }

def issue (s : Cluster C) : Action C → Option (Issue C)
  | .propose p cmd => (s.nodes p).fastIssue cmd
  | .deliver p k =>
    s.sent[k]?.bind fun m =>
      match m.msg with
      | .requestCommandToLeader cmd _ =>
        if (s.nodes p).isLeader then (s.nodes p).fastIssue cmd else none
      | _ => (s.nodes p).wonIssue m
  | _ => none

def acceptsIn (s : Cluster C) (id : Nat) : List (Accept C) :=
  s.sent.filterMap fun m =>
    match m.msg with
    | .acceptMsg a => if m.paxosInstance = id then some a else none
    | _ => none

def preparedIn (s : Cluster C) (id : Nat) : List Nat :=
  s.sent.filterMap fun m =>
    match m.msg with
    | .prepareMsg p => if m.paxosInstance = id then some p.ballot else none
    | _ => none

def Choosable (s : Cluster C) (total id ballot : Nat) (value : C) : Prop :=
  ((s.view id).election total id).Choosable ballot value

-- No Accept by the fast path meets an Accept of another value in its instance while
-- a quorum may still accept the lower one of the two.
def RaceFree (total : Nat) (s : Cluster C) (a : Action C) : Prop :=
  ∀ new ∈ s.issue a, ∀ out ∈ s.acceptsIn new.instanceId,
    (new.fast = true → out.ballot < new.ballot → out.command = new.value ∨
      ¬s.Choosable total new.instanceId out.ballot out.command) ∧
    (new.ballot < out.ballot → out.ballot ∈ s.preparedIn new.instanceId ∨
      new.value = out.command ∨ ¬s.Choosable total new.instanceId new.ballot new.value)

def Ordinary (s : Cluster C) (a : Action C) : Prop :=
  ∀ placement ∈ s.placement a, (s.nodes placement.nodeId).leaderBallot = none

def Follows (rules : Synod.Rules) (total : Nat) (s : Cluster C) (a : Action C) : Prop :=
  (rules.once → s.Once a) ∧ (rules.raceFree → s.RaceFree total a) ∧
    (rules.ordinary → s.Ordinary a)

section Decisions

variable [DecidableEq C]

instance (s : Cluster C) (total id ballot : Nat) (value : C) :
    DecidablePred (((s.view id).election total id).CanVote ballot value) := fun a => by
  unfold Voting.Election.CanVote Synod.election Synod.Voted
  infer_instance

instance (s : Cluster C) (total id ballot : Nat) (value : C) :
    Decidable (s.Choosable total id ballot value) :=
  decidable_of_iff _ Voting.Election.choosable_iff.symm

instance (total : Nat) (s : Cluster C) (a : Action C) : Decidable (s.RaceFree total a) := by
  unfold RaceFree
  infer_instance

instance (s : Cluster C) (a : Action C) : Decidable (s.Ordinary a) := by
  unfold Ordinary
  infer_instance

end Decisions

theorem mem_acceptsIn {s : Cluster C} {id : Nat} {a : Accept C} :
    a ∈ s.acceptsIn id ↔ ∃ k q, (s.view id).Sent id k q (.acceptMsg a) := by
  unfold acceptsIn Synod.Sent view
  rw [List.mem_filterMap]
  constructor
  · rintro ⟨⟨senderId, instanceId, message⟩, member, found⟩
    obtain ⟨k, found'⟩ := List.mem_iff_getElem?.mp member
    cases message with
    | acceptMsg a' =>
      simp only [Option.ite_none_right_eq_some, Option.some.injEq] at found
      obtain ⟨rfl, rfl⟩ := found
      exact ⟨k, senderId, found'⟩
    | _ => simp at found
  · rintro ⟨k, q, sent⟩
    exact ⟨_, List.mem_of_getElem? sent, by simp⟩

theorem mem_preparedIn {s : Cluster C} {id ballot : Nat} :
    ballot ∈ s.preparedIn id ↔ (s.view id).Prepared id ballot := by
  unfold preparedIn Synod.Prepared Synod.Sent view
  rw [List.mem_filterMap]
  constructor
  · rintro ⟨⟨senderId, instanceId, message⟩, member, found⟩
    obtain ⟨k, found'⟩ := List.mem_iff_getElem?.mp member
    cases message with
    | prepareMsg p =>
      simp only [Option.ite_none_right_eq_some, Option.some.injEq] at found
      obtain ⟨rfl, rfl⟩ := found
      exact ⟨k, senderId, p, found', rfl⟩
    | _ => simp at found
  · rintro ⟨k, q, p, sent, rfl⟩
    exact ⟨_, List.mem_of_getElem? sent, by simp⟩

section Views

variable {total id ballot : Nat} {s : Cluster C} {a : Action C} {value : C}

theorem RaceFree.accept (raceFree : s.RaceFree total a)
    (issued : s.issue a = some ⟨id, ballot, value, true⟩) (p : Nat) :
    (s.view id).RaceFree total id (.accept p ballot value) := by
  rintro b v ⟨k, q, out, sent, rfl, rfl⟩
  have free := raceFree _ issued out (mem_acceptsIn.mpr ⟨k, q, sent⟩)
  exact ⟨free.1 rfl, fun less => (free.2 less).imp_left mem_preparedIn.mp⟩

theorem RaceFree.handle (raceFree : s.RaceFree total a) {p k : Nat} {out : Accept C}
    (issued : s.issue a = some ⟨id, out.ballot, out.command, false⟩) :
    (s.view id).RaceFree total id (.handle p k (some (.acceptMsg out))) := by
  rintro b v ⟨place, q, other, sent, rfl, rfl⟩ less
  have free := raceFree _ issued other (mem_acceptsIn.mpr ⟨place, q, sent⟩)
  exact (free.2 less).imp_left mem_preparedIn.mp

end Views

end Cluster

end Smr
