import Smr.Synod.Votes

set_option autoImplicit false

namespace Smr

variable {C : Type}

def TraceEvent.adopted (p : Nat) : TraceEvent C → Option Nat
  | .phase1b nodeId _ ballot sender _ _ =>
    if nodeId = p ∧ sender ≠ p then some ballot else none
  | .phase2b nodeId _ ballot sender _ _ =>
    if nodeId = p ∧ sender ≠ p then some ballot else none
  | _ => none

namespace PaxosInstance

variable [DecidableEq C] [Serde Nat] [Serde (AcceptedValue C)]

theorem Step.adopts {self after : PaxosInstance C} {storage kept : Option (PaxosStorage C)}
    {message : MessageKind C} {response : Option (MessageKind C)} {events : List (TraceEvent C)}
    (step : self.Step storage message response after kept events) {p ballot : Nat}
    {event : TraceEvent C} (happened : event ∈ events) (adopts : event.adopted p = some ballot) :
    p = self.acceptor.myId ∧ message.sender ≠ some p ∧
      ((∃ m, response = some (.promiseMsg m) ∧ m.ballot = ballot ∧
          ∃ asked, message = .prepareMsg asked) ∨
        ∃ a, message = .acceptMsg a ∧ a.ballot = ballot ∧ self.acceptor.maxBallot ≤ ballot) := by
  cases step with
  | promise m kept higher saved =>
    rw [List.mem_singleton.mp happened] at adopts
    simp only [TraceEvent.adopted, Option.ite_none_right_eq_some, Option.some.injEq] at adopts
    obtain ⟨⟨rfl, foreign⟩, rfl⟩ := adopts
    exact ⟨rfl, by simpa [MessageKind.sender] using foreign, .inl ⟨_, rfl, rfl, _, rfl⟩⟩
  | ackAccept a kept current saved =>
    rw [List.mem_singleton.mp happened] at adopts
    simp only [TraceEvent.adopted, Option.ite_none_right_eq_some, Option.some.injEq] at adopts
    obtain ⟨⟨rfl, foreign⟩, rfl⟩ := adopts
    exact ⟨rfl, by simpa [MessageKind.sender] using foreign, .inr ⟨a, rfl, rfl, current⟩⟩
  | nackPrepare m lower =>
    rw [List.mem_singleton.mp happened] at adopts
    simp [TraceEvent.adopted] at adopts
  | nackAccept a stale =>
    rw [List.mem_singleton.mp happened] at adopts
    simp [TraceEvent.adopted] at adopts
  | learn m learner reply heard =>
    unfold learnTrace at happened
    split at happened <;> simp at happened
    subst happened
    simp [TraceEvent.adopted] at adopts
  | proposer message response next addressed asked =>
    unfold proposerTrace at happened
    split at happened <;> simp at happened
    all_goals
      subst happened
      simp [TraceEvent.adopted] at adopts
  | ignored cmd => simp at happened

theorem Cascade.adopts {self after : PaxosInstance C} {storage kept : Option (PaxosStorage C)}
    {message : MessageKind C} {responses : List (MessageKind C)} {events : List (TraceEvent C)}
    (cascade : self.Cascade storage message responses after kept events)
    {nodeId quorumSize totalNodes instanceId : Nat}
    (configured : self.Configured nodeId quorumSize totalNodes instanceId) {p ballot : Nat}
    {event : TraceEvent C} (happened : event ∈ events) (adopts : event.adopted p = some ballot) :
    p = nodeId ∧ message.sender ≠ some p ∧
      ((∃ m, responses.head? = some (.promiseMsg m) ∧ m.ballot = ballot ∧
          ∃ asked, message = .prepareMsg asked) ∨
        ∃ a, message = .acceptMsg a ∧ a.ballot = ballot ∧ self.acceptor.maxBallot ≤ ballot) := by
  induction cascade with
  | last step =>
    have adopted := step.adopts happened adopts
    rw [configured.acceptor] at adopted
    exact adopted
  | more step rest ih =>
    rcases List.mem_append.mp happened with now | later
    · have adopted := step.adopts now adopts
      rw [configured.acceptor] at adopted
      exact adopted
    · obtain ⟨rfl, foreign, -⟩ := ih (step.configured configured) later
      exact absurd (step.response_sender configured) foreign

end PaxosInstance

namespace Synod

def Accounted (s : Synod C) (total a : Nat) : Prop :=
  (s.inst a).acceptor.maxBallot = 0 ∨ (s.inst a).acceptor.maxBallot % total = a ∨
    ∃ event ∈ s.trace, event.adopted a = some (s.inst a).acceptor.maxBallot

theorem Accounted.same {s t : Synod C} {total a : Nat} (accounted : s.Accounted total a)
    (still : (t.inst a).acceptor.maxBallot = (s.inst a).acceptor.maxBallot)
    (grows : s.trace ⊆ t.trace) : t.Accounted total a := by
  unfold Accounted
  rw [still]
  exact accounted.imp_right (.imp_right fun ⟨event, happened, adopts⟩ =>
    ⟨event, grows happened, adopts⟩)

variable [DecidableEq C] [Serde Nat] [Serde (AcceptedValue C)]

theorem Accounted.handle {total id a k q : Nat} {s : Synod C} {message : MessageKind C}
    {response : Option (MessageKind C)} {after : PaxosInstance C}
    {storage kept : Option (PaxosStorage C)} {events : List (TraceEvent C)}
    {handled : Set (Nat × Nat)} (identity : Identity total id s) (proposals : Proposals total id s)
    (accounted : s.Accounted total a) (member : a < total) (arrived : s.Sent id k q message)
    (step : (s.inst a).Step storage message response after kept events) :
    (s.act id a after response events handled s.placed).Accounted total a := by
  have owner (ballot : Nat) (asks : message.asks = some ballot) : ballot % total = q :=
    (proposals.owned k q message ballot arrived asks).1
  have myId := (identity.configured a member).acceptor
  have adopting {ballot sender : Nat} {event : TraceEvent C} (asks : message.asks = some ballot)
      (signed : sender = q) (bound : after.acceptor.maxBallot = ballot) (traced : event ∈ events)
      (adopts : sender ≠ a → event.adopted a = some ballot) :
      (s.act id a after response events handled s.placed).Accounted total a := by
    refine .inr ?_
    rw [act_inst_self, bound]
    by_cases own : sender = a
    · exact .inl (by rw [owner ballot asks, ← signed, own])
    · exact .inr ⟨event, List.mem_append_right _ traced, adopts own⟩
  rcases step.acceptor_cases with ⟨p, rfl, -, -, acceptor, rfl⟩ | ⟨p, rfl, -, -, acceptor, rfl⟩ |
    ⟨acceptor, -⟩
  · have signed : p.sender = q := Option.some.inj (identity.signed k q _ arrived trivial).2
    exact adopting rfl signed (by rw [acceptor]) (List.mem_singleton_self _) fun other => by
      simp [TraceEvent.adopted, myId, other]
  · have signed : p.sender = q := Option.some.inj (identity.signed k q _ arrived trivial).2
    exact adopting rfl signed (by rw [acceptor]) (List.mem_singleton_self _) fun other => by
      simp [TraceEvent.adopted, myId, other]
  · exact accounted.same (by rw [act_inst_self, acceptor]) (List.subset_append_left _ _)

theorem Accounted.step {total id : Nat} {s t : Synod C} {event : Event C}
    (identity : Identity total id s) (proposals : Proposals total id s)
    (before : ∀ a < total, s.Accounted total a) (step : Step total id s event t) (a : Nat)
    (member : a < total) : t.Accounted total a := by
  have opened {p : Nat} {state : InnerState C} {response : Option (MessageKind C)}
      {events : List (TraceEvent C)} {placed : List (Placement C)}
      (isFresh : s.inst p = fresh total p id) :
      (s.act id p (launched total p id state) response events s.handled placed).Accounted total
        a := by
    refine (before a member).same ?_ (List.subset_append_left _ _)
    by_cases here : a = p
    · subst here
      rw [act_inst_self, isFresh]
      rfl
    · rw [act_inst_other here]
  cases step with
  | @handle p k q message response after storage kept events inside arrived step =>
    by_cases here : a = p
    · subst here
      exact (before a member).handle identity proposals member arrived step
    · exact (before a member).same (by rw [act_inst_other here]) (List.subset_append_left _ _)
  | prepare inside isFresh => exact opened isFresh
  | accept inside isFresh => exact opened isFresh
  | @restart p inside =>
    refine (before a member).same ?_ (List.Subset.refl _)
    by_cases here : a = p
    · subst here
      simp
    · simp [here]
  | elsewhere => exact (before a member).same rfl (List.subset_append_left _ _)

end Synod

end Smr
