import Smr.Shared.Machine
import Smr.Synod.Acceptor

set_option autoImplicit false

namespace Smr

variable {C : Type}

inductive AcceptorCall (C : Type) where
  | handlePrepare (p : Prepare)
  | handleAccept (a : Accept C)
  deriving DecidableEq, Repr

def AcceptorCall.message : AcceptorCall C → MessageKind C
  | .handlePrepare p => .prepareMsg p
  | .handleAccept a => .acceptMsg a

-- A list's last proposal of the highest ballot, if the list has any.
def LatestHighest (proposals : List (MaxAcceptedProposal C)) :
    Option (MaxAcceptedProposal C) → Prop
  | none => proposals = []
  | some p => ∃ before after, proposals = before ++ p :: after ∧
      (∀ q ∈ before, q.ballot ≤ p.ballot) ∧ ∀ q ∈ after, q.ballot < p.ballot

namespace Acceptor

abbrev Past (C : Type) : Type :=
  List (Machine.Call (Acceptor C) (AcceptorCall C) (MessageKind C))

def call (self : Acceptor C) : AcceptorCall C → MessageKind C × Acceptor C
  | .handlePrepare p => self.handlePrepare p
  | .handleAccept a => self.handleAccept a

def Run (start : Acceptor C) (past : Past C) (self : Acceptor C) : Prop :=
  Machine.Run (fun s input output t => s.call input = (output, t)) start past self

theorem call_step {self after : Acceptor C} {input : AcceptorCall C} {response : MessageKind C}
    (done : self.call input = (response, after)) : self.Step input.message response after := by
  cases input with
  | handlePrepare p =>
    rcases Nat.lt_or_ge self.maxBallot p.ballot with higher | lower
    · obtain ⟨rfl, rfl⟩ := Prod.mk.inj ((self.handlePrepare_promise p higher).symm.trans done)
      exact .promise p higher
    · obtain ⟨rfl, rfl⟩ := Prod.mk.inj ((self.handlePrepare_nack p lower).symm.trans done)
      exact .nackPrepare p lower
  | handleAccept a =>
    rcases Nat.lt_or_ge a.ballot self.maxBallot with stale | current
    · obtain ⟨rfl, rfl⟩ := Prod.mk.inj ((self.handleAccept_nack a stale).symm.trans done)
      exact .nackAccept a stale
    · obtain ⟨rfl, rfl⟩ := Prod.mk.inj ((self.handleAccept_ack a current).symm.trans done)
      exact .ackAccept a current

def promised (calls : Past C) : List Nat :=
  calls.filterMap fun call =>
    match call.output with
    | .promiseMsg m => some m.ballot
    | _ => none

def acked (calls : Past C) : List (MaxAcceptedProposal C) :=
  calls.filterMap fun call =>
    match call.input, call.output with
    | .handleAccept a, .ackAcceptMsg _ => some { ballot := a.ballot, command := a.command }
    | _, _ => none

structure Keeps (past : Past C) (acceptor : Acceptor C) : Prop where
  accepted : acceptor.maxAccepted = (acked past).getLast?
  rising : (acked past).Pairwise (fun p q => p.ballot ≤ q.ballot)
  below : ∀ p ∈ acked past, p.ballot ≤ acceptor.maxBallot
  promises : ∀ ballot ∈ promised past, ballot ≤ acceptor.maxBallot
  once : (promised past).Nodup

section Calls

variable {past : Past C} {self after : Acceptor C}
  {call : Machine.Call (Acceptor C) (AcceptorCall C) (MessageKind C)}

theorem promised_call (past : Past C)
    (call : Machine.Call (Acceptor C) (AcceptorCall C) (MessageKind C)) :
    promised (past ++ [call]) = promised past ++ promised [call] :=
  List.filterMap_append

theorem acked_call (past : Past C)
    (call : Machine.Call (Acceptor C) (AcceptorCall C) (MessageKind C)) :
    acked (past ++ [call]) = acked past ++ acked [call] :=
  List.filterMap_append

theorem Keeps.latest (keeps : Keeps past self) :
    LatestHighest (acked past) self.maxAccepted := by
  have rising := keeps.rising
  rw [keeps.accepted]
  rcases List.eq_nil_or_concat (acked past) with empty | ⟨before, last, whole⟩
  · simp [empty, LatestHighest]
  · rw [whole, List.concat_eq_append] at rising ⊢
    rw [List.getLast?_concat]
    refine ⟨before, [], rfl, fun q member => ?_, by simp⟩
    exact (List.pairwise_append.mp rising).2.2 q member last (by simp)

theorem Keeps.accepted_below (keeps : Keeps past self) :
    ∀ p ∈ self.maxAccepted, p.ballot ≤ self.maxBallot := by
  rw [keeps.accepted]
  exact fun p last => keeps.below p (List.mem_of_getLast? last)

theorem Keeps.step {response : MessageKind C} (keeps : Keeps past self)
    (step : self.Step call.input.message response after) (answered : call.output = response) :
    Keeps (past ++ [call]) after := by
  generalize given : call.input.message = message at step
  cases step with
  | promise p higher =>
    have promises : promised [call] = [p.ballot] := by simp [promised, answered]
    have acks : acked [call] = [] := by simp [acked, answered]
    have fresh : p.ballot ∉ promised past := fun older =>
      absurd (keeps.promises _ older) (Nat.not_le.mpr higher)
    constructor
    · simpa [acked_call, acks] using keeps.accepted
    · simpa [acked_call, acks] using keeps.rising
    · rw [acked_call, acks, List.append_nil]
      exact fun q member => Nat.le_trans (keeps.below q member) (Nat.le_of_lt higher)
    · rw [promised_call, promises]
      intro ballot member
      rcases List.mem_append.mp member with older | new
      · exact Nat.le_trans (keeps.promises ballot older) (Nat.le_of_lt higher)
      · exact Nat.le_of_eq (List.mem_singleton.mp new)
    · rw [promised_call, promises]
      simpa using keeps.once.concat fresh
  | ackAccept a current =>
    have input : call.input = .handleAccept a := by
      cases shape : call.input <;> simp_all [AcceptorCall.message]
    have promises : promised [call] = [] := by simp [promised, answered]
    have acks : acked [call] = [{ ballot := a.ballot, command := a.command }] := by
      simp [acked, answered, input]
    constructor
    · rw [acked_call, acks, List.getLast?_concat]
    · rw [acked_call, acks]
      refine List.pairwise_append.mpr ⟨keeps.rising, List.pairwise_singleton _ _, ?_⟩
      intro p older q new
      rw [List.mem_singleton.mp new]
      exact Nat.le_trans (keeps.below p older) current
    · rw [acked_call, acks]
      intro p member
      rcases List.mem_append.mp member with older | new
      · exact Nat.le_trans (keeps.below p older) current
      · rw [List.mem_singleton.mp new]
    · rw [promised_call, promises, List.append_nil]
      exact fun ballot member => Nat.le_trans (keeps.promises ballot member) current
    · simpa [promised_call, promises] using keeps.once
  | nackPrepare | nackAccept =>
    have promises : promised [call] = [] := by simp [promised, answered]
    have acks : acked [call] = [] := by simp [acked, answered]
    constructor
    · simpa [acked_call, acks] using keeps.accepted
    · simpa [acked_call, acks] using keeps.rising
    · simpa [acked_call, acks] using keeps.below
    · simpa [promised_call, promises] using keeps.promises
    · simpa [promised_call, promises] using keeps.once

end Calls

section Runs

variable {past : Past C} {self : Acceptor C} {myId : Nat}

theorem Run.keeps (run : Run (Acceptor.new myId) past self) : Keeps past self := by
  induction run with
  | start =>
    exact
      { accepted := rfl
        rising := List.Pairwise.nil
        below := by simp [acked]
        promises := by simp [promised]
        once := List.nodup_nil }
  | @call past s t input output earlier now ih =>
    refine ih.step ?_ rfl
    exact call_step now

structure Contract (past : Past C) : Prop where
  rises : Machine.Each (fun _ call => call.before.maxBallot ≤ call.after.maxBallot) past
  accepted : Machine.Each (fun _ call =>
    (∀ p ∈ call.before.maxAccepted, ∃ q ∈ call.after.maxAccepted, p.ballot ≤ q.ballot) ∧
    ∀ q ∈ call.after.maxAccepted, q.ballot ≤ call.after.maxBallot) past
  once : (promised past).Nodup
  promises : Machine.Each (fun earlier call =>
    ∀ p ∈ acked [call], ∀ ballot ∈ promised earlier, ballot ≤ p.ballot) past
  reports : Machine.Each (fun earlier call => ∀ m, call.output = .promiseMsg m →
    LatestHighest (acked earlier) m.maxAccepted ∧ ∀ p ∈ m.maxAccepted, p.ballot ≤ m.ballot) past

theorem Step.accepted {after : Acceptor C} {message response : MessageKind C}
    (step : self.Step message response after)
    (below : ∀ p ∈ self.maxAccepted, p.ballot ≤ self.maxBallot) :
    ∀ p ∈ self.maxAccepted, ∃ q ∈ after.maxAccepted, p.ballot ≤ q.ballot := by
  intro p accepted
  cases step with
  | ackAccept a current => exact ⟨_, rfl, Nat.le_trans (below p accepted) current⟩
  | promise | nackPrepare | nackAccept => exact ⟨p, accepted, Nat.le_refl _⟩

theorem Step.acked {after : Acceptor C}
    {call : Machine.Call (Acceptor C) (AcceptorCall C) (MessageKind C)}
    (step : self.Step call.input.message call.output after) :
    ∀ p ∈ acked [call], self.maxBallot ≤ p.ballot := by
  generalize given : call.input.message = message, answered : call.output = response at step
  cases step with
  | ackAccept a current =>
    have input : call.input = .handleAccept a := by
      cases shape : call.input <;> simp_all [AcceptorCall.message]
    simpa [Acceptor.acked, answered, input] using current
  | promise | nackPrepare | nackAccept => simp [Acceptor.acked, answered]

theorem Step.reports {after : Acceptor C} {message : MessageKind C} {m : Promise C}
    (step : self.Step message (.promiseMsg m) after) :
    m.maxAccepted = self.maxAccepted ∧ self.maxBallot < m.ballot := by
  cases step with
  | promise p higher => exact ⟨rfl, higher⟩

theorem acceptor_contract (myId : Nat) (inputs : List (AcceptorCall C)) :
    Contract (Machine.trace Acceptor.call (Acceptor.new myId) inputs).1 := by
  have run := Machine.trace_run Acceptor.call (Acceptor.new myId) inputs
  generalize Machine.trace Acceptor.call (Acceptor.new myId) inputs = traced at run ⊢
  have at_call {earlier later : Past C}
      {call : Machine.Call (Acceptor C) (AcceptorCall C) (MessageKind C)}
      (whole : traced.1 = earlier ++ call :: later) :
      Keeps earlier call.before ∧
        call.before.Step call.input.message call.output call.after := by
    rw [whole] at run
    obtain ⟨before, now, -⟩ := Machine.Run.at_call run
    exact ⟨Run.keeps before, call_step now⟩
  constructor
  · intro earlier call later whole
    obtain ⟨-, step⟩ := at_call whole
    exact step.maxBallot_le
  · intro earlier call later whole
    obtain ⟨keeps, step⟩ := at_call whole
    exact ⟨step.accepted keeps.accepted_below, (keeps.step step rfl).accepted_below⟩
  · exact (Run.keeps run).once
  · intro earlier call later whole p acks ballot promised
    obtain ⟨keeps, step⟩ := at_call whole
    exact Nat.le_trans (keeps.promises ballot promised) (step.acked p acks)
  · intro earlier call later whole m promises
    obtain ⟨keeps, step⟩ := at_call whole
    rw [promises] at step
    obtain ⟨reported, higher⟩ := step.reports
    rw [reported]
    exact ⟨keeps.latest, fun p accepted =>
      Nat.le_trans (keeps.accepted_below p accepted) (Nat.le_of_lt higher)⟩

end Runs

end Acceptor

end Smr
