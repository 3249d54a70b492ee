import Smr.Synod.Votes

set_option autoImplicit false

namespace Smr

variable {C : Type}

theorem PaxosInstance.Step.learner_cases [DecidableEq C] [Serde Nat] [Serde (AcceptedValue C)]
    {self after : PaxosInstance C} {storage kept : Option (PaxosStorage C)}
    {message : MessageKind C} {response : Option (MessageKind C)} {events : List (TraceEvent C)}
    (step : self.Step storage message response after kept events) :
    (∃ m, message = .learnMsg m ∧
      (∀ value, after.learner.value = some value →
        self.learner.value = some value ∨ value = m.command) ∧
      (∀ reply, response = some reply → reply = .learnMsg
        { sender := self.acceptor.myId, ballot := m.ballot, command := m.command }) ∧
      ∀ event ∈ events, ∀ id a ballot value, event.Learns id a ballot value →
        ballot = m.ballot ∧ value = m.command) ∨
    (after.learner = self.learner ∧
      ∀ event ∈ events, ∀ id a ballot value, ¬event.Learns id a ballot value) := by
  cases step with
  | learn m learner reply heard =>
    refine .inl ⟨m, rfl, ?_, ?_, ?_⟩
    · intro value holds
      rcases Learner.handleLearn_value heard with same | ⟨-, learned⟩
      · exact .inl (same ▸ holds)
      · exact .inr (Option.some.inj (holds.symm.trans learned))
    · intro reply answer
      exact (echo_some answer).2
    · unfold learnTrace
      split
      · simp only [List.mem_singleton, TraceEvent.Learns, forall_eq]
        rintro id a ballot value ⟨-, -, rfl, rfl⟩
        exact ⟨rfl, rfl⟩
      · simp
  | proposer message response next addressed asked =>
    refine .inr ⟨rfl, ?_⟩
    unfold proposerTrace
    split <;> simp [TraceEvent.Learns]
  | ignored cmd => exact .inr ⟨rfl, by simp⟩
  | promise | nackPrepare | ackAccept | nackAccept =>
    exact .inr ⟨rfl, by simp [TraceEvent.Learns]⟩

namespace Synod

def Tally (s : Synod C) (total id p : Nat) : InnerState C → Prop
  | .proposal w =>
    (∃ quorum : Finset Nat, quorum.card = w.state.promises ∧ quorum ⊆ Finset.range total ∧
      ∀ a ∈ quorum, ∃ k m, s.Sent id k a (.promiseMsg m) ∧ m.ballot = w.ballot ∧
        (k, p) ∈ s.handled ∧ ∀ x, m.maxAccepted = some x → x ∈ w.state.maxAcceptedProposals) ∧
    ∀ x ∈ w.state.maxAcceptedProposals, ∃ k a m, a < total ∧ s.Sent id k a (.promiseMsg m) ∧
      m.ballot = w.ballot ∧ m.maxAccepted = some x
  | .accepting w =>
    ∃ quorum : Finset Nat, quorum.card = w.state.accepts ∧ quorum ⊆ Finset.range total ∧
      ∀ a ∈ quorum, ∃ k m, s.Sent id k a (.ackAcceptMsg m) ∧ m.ballot = w.ballot ∧
        (k, p) ∈ s.handled
  | _ => True

structure Counting (total id : Nat) (s : Synod C) : Prop where
  distinct : ∀ k k' a m m', s.Sent id k a (.ackAcceptMsg m) → s.Sent id k' a (.ackAcceptMsg m') →
    m.ballot = m'.ballot → k = k'
  tallies : ∀ p < total, s.Tally total id p (s.inst p).proposer.innerState
  announced : ∀ k q m, s.Sent id k q (.learnMsg m) → s.Chosen total id m.ballot m.command
  held : ∀ p < total, ∀ value, (s.inst p).learner.value = some value →
    ∃ ballot, s.Chosen total id ballot value
  told : ∀ a ballot value, (∃ event ∈ s.trace, event.Learns id a ballot value) →
    s.Chosen total id ballot value

theorem Tally.grow {s t : Synod C} {total id p : Nat} {state : InnerState C}
    (tally : s.Tally total id p state)
    (kept : ∀ k q message, message.IsSynod → s.Sent id k q message → t.Sent id k q message)
    (grows : s.handled ⊆ t.handled) : t.Tally total id p state := by
  cases state with
  | initial w => trivial
  | learning w => trivial
  | proposal w =>
    obtain ⟨⟨quorum, card, inside, heard⟩, origin⟩ := tally
    refine ⟨⟨quorum, card, inside, fun a member => ?_⟩, fun x member => ?_⟩
    · obtain ⟨k, m, sent, same, handled, reported⟩ := heard a member
      exact ⟨k, m, kept k a _ trivial sent, same, grows handled, reported⟩
    · obtain ⟨k, a, m, member, sent, same⟩ := origin x member
      exact ⟨k, a, m, member, kept k a _ trivial sent, same⟩
  | accepting w =>
    obtain ⟨quorum, card, inside, heard⟩ := tally
    refine ⟨quorum, card, inside, fun a member => ?_⟩
    obtain ⟨k, m, sent, same, handled⟩ := heard a member
    exact ⟨k, m, kept k a _ trivial sent, same, grows handled⟩

theorem Counting.act {total id : Nat} {s : Synod C} (counting : Counting total id s) {p : Nat}
    {after : PaxosInstance C} {response : Option (MessageKind C)} {events : List (TraceEvent C)}
    {handled : Set (Nat × Nat)} {placed : List (Placement C)}
    (advances : (s.election total id).Advances
      ((s.act id p after response events handled placed).election total id))
    (grows : s.handled ⊆ handled)
    (new_ack : ∀ m k m', response = some (.ackAcceptMsg m) → s.Sent id k p (.ackAcceptMsg m') →
      m.ballot ≠ m'.ballot)
    (tally : (s.act id p after response events handled placed).Tally total id p
      after.proposer.innerState)
    (announced : ∀ m, response = some (.learnMsg m) →
      (s.act id p after response events handled placed).Chosen total id m.ballot m.command)
    (held : ∀ value, after.learner.value = some value → ∃ ballot,
      (s.act id p after response events handled placed).Chosen total id ballot value)
    (told : ∀ event ∈ events, ∀ a ballot value, event.Learns id a ballot value →
      (s.act id p after response events handled placed).Chosen total id ballot value) :
    Counting total id (s.act id p after response events handled placed) where
  distinct k k' a m m' sent sent' same := by
    rcases sent_act.mp sent with old | ⟨last, rfl, new⟩ <;>
      rcases sent_act.mp sent' with old' | ⟨last', here', new'⟩
    · exact counting.distinct k k' a m m' old old' same
    · subst here'
      exact absurd same.symm (new_ack m' k m new' old)
    · exact absurd same (new_ack m k' m' new old')
    · rw [last, last']
  tallies q member := by
    by_cases same : q = p
    · subst same
      rw [act_inst_self]
      exact tally
    · rw [act_inst_other same]
      exact (counting.tallies q member).grow act_keeps grows
  announced k q m sent := by
    rcases sent_act.mp sent with old | ⟨-, -, new⟩
    · exact (counting.announced k q m old).persists advances
    · exact announced m new
  held q member value holds := by
    by_cases same : q = p
    · subst same
      rw [act_inst_self] at holds
      exact held value holds
    · rw [act_inst_other same] at holds
      obtain ⟨ballot, chosen⟩ := counting.held q member value holds
      exact ⟨ballot, chosen.persists advances⟩
  told a ballot value learns := by
    obtain ⟨event, happened, learns⟩ := learns
    rcases List.mem_append.mp happened with old | new
    · exact (counting.told a ballot value ⟨event, old, learns⟩).persists advances
    · exact told event new a ballot value learns

theorem Tally.promise {s t : Synod C} {total id p k q : Nat}
    {w : StateWrapper (ProposalState C)} {m : Promise C} (acceptors : Acceptors total id s)
    (tally : s.Tally total id p (.proposal w)) (member : q < total)
    (arrived : s.Sent id k q (.promiseMsg m)) (same : m.ballot = w.ballot)
    (unheard : (k, p) ∉ s.handled) (handled : t.handled = insert (k, p) s.handled)
    (kept : ∀ k q message, message.IsSynod → s.Sent id k q message → t.Sent id k q message) :
    t.Tally total id p (.proposal
      { w with
        state :=
          { w.state with
            promises := w.state.promises + 1
            maxAcceptedProposals := w.state.maxAcceptedProposals ++ m.maxAccepted.toList } }) := by
  obtain ⟨⟨quorum, card, inside, heard⟩, origin⟩ := tally
  have new : q ∉ quorum := by
    intro counted
    obtain ⟨k', m', sent, same', handled', -⟩ := heard q counted
    have place := acceptors.distinct k k' q m m' arrived sent (same.trans same'.symm)
    exact unheard (place ▸ handled')
  refine ⟨⟨insert q quorum, ?_, ?_, ?_⟩, ?_⟩
  · rw [Finset.card_insert_of_notMem new, card]
  · exact Finset.insert_subset (Finset.mem_range.mpr member) inside
  · intro a counted
    rcases Finset.mem_insert.mp counted with rfl | counted
    · refine ⟨k, m, kept k a _ trivial arrived, same, handled ▸ .inl rfl, fun x told => ?_⟩
      simp [told]
    · obtain ⟨k', m', sent, same', handled', reported⟩ := heard a counted
      exact ⟨k', m', kept k' a _ trivial sent, same', handled ▸ .inr handled', fun x told =>
        List.mem_append_left _ (reported x told)⟩
  · intro x listed
    rcases List.mem_append.mp listed with old | new
    · obtain ⟨k', a, m', member', sent, same', told⟩ := origin x old
      exact ⟨k', a, m', member', kept k' a _ trivial sent, same', told⟩
    · exact ⟨k, q, m, member, kept k q _ trivial arrived, same, by simpa using new⟩

theorem Tally.ack {s t : Synod C} {total id p k q : Nat} {w : StateWrapper (AcceptingState C)}
    {m : AckAccept} (counting : Counting total id s) (tally : s.Tally total id p (.accepting w))
    (member : q < total) (arrived : s.Sent id k q (.ackAcceptMsg m)) (same : m.ballot = w.ballot)
    (unheard : (k, p) ∉ s.handled) (handled : t.handled = insert (k, p) s.handled)
    (kept : ∀ k q message, message.IsSynod → s.Sent id k q message → t.Sent id k q message) :
    t.Tally total id p (.accepting
      { w with state := { w.state with accepts := w.state.accepts + 1 } }) := by
  obtain ⟨quorum, card, inside, heard⟩ := tally
  have new : q ∉ quorum := by
    intro counted
    obtain ⟨k', m', sent, same', handled'⟩ := heard q counted
    have place := counting.distinct k k' q m m' arrived sent (same.trans same'.symm)
    exact unheard (place ▸ handled')
  refine ⟨insert q quorum, ?_, ?_, ?_⟩
  · rw [Finset.card_insert_of_notMem new, card]
  · exact Finset.insert_subset (Finset.mem_range.mpr member) inside
  · intro a counted
    rcases Finset.mem_insert.mp counted with rfl | counted
    · exact ⟨k, m, kept k a _ trivial arrived, same, handled ▸ .inl rfl⟩
    · obtain ⟨k', m', sent, same', handled'⟩ := heard a counted
      exact ⟨k', m', kept k' a _ trivial sent, same', handled ▸ .inr handled'⟩

theorem majority_of_quorum {total : Nat} {quorum : Finset Nat}
    (inside : quorum ⊆ Finset.range total) (large : quorumOf total ≤ quorum.card) :
    Voting.Majority (Finset.range total) quorum := by
  refine ⟨inside, ?_⟩
  rw [Finset.card_range]
  unfold quorumOf at large
  omega

theorem Tally.chosen {s : Synod C} {total id p : Nat} {w : StateWrapper (AcceptingState C)}
    (proposals : Proposals total id s) (acceptors : Acceptors total id s)
    (tally : s.Tally total id p (.accepting w)) (round : s.Round total id p (.accepting w))
    (large : quorumOf total ≤ w.state.accepts) : s.Chosen total id w.ballot w.state.value := by
  obtain ⟨quorum, card, inside, heard⟩ := tally
  obtain ⟨-, -, ⟨k, a, sent, ballot, value⟩, -⟩ := round
  refine ⟨quorum, majority_of_quorum inside (by omega), fun q counted => ?_⟩
  obtain ⟨k', m, acked, same, -⟩ := heard q counted
  obtain ⟨place, r, accept, asked, ballot', -, vote⟩ :=
    acceptors.acked k' q m (Finset.mem_range.mp (inside counted)) acked
  have own : s.Proposed id w.ballot w.state.value := ⟨k, p, a, sent, ballot, value⟩
  have one := proposals.single own ⟨place, r, accept, asked, by rw [ballot', same], rfl⟩
  rw [ballot', same] at vote
  exact one ▸ vote

variable [DecidableEq C] [Serde Nat] [Serde (AcceptedValue C)]

theorem Counting.tally_handle {total id : Nat} {s : Synod C} (identity : Identity total id s)
    (acceptors : Acceptors total id s) (counting : Counting total id s) {p k q : Nat}
    {message : MessageKind C} {response : Option (MessageKind C)} {after : PaxosInstance C}
    {storage kept : Option (PaxosStorage C)} {events : List (TraceEvent C)} (member : p < total)
    (arrived : s.Sent id k q message) (unheard : (k, p) ∉ s.handled)
    (step : (s.inst p).Step storage message response after kept events) :
    (s.act id p after response events (insert (k, p) s.handled) s.placed).Tally total id p
      after.proposer.innerState := by
  have sender (synod : message.IsSynod) : q < total :=
    (identity.signed k q message arrived synod).1
  have before := counting.tallies p member
  rcases step.proposer_cases with ⟨next, addressed, asked, rfl⟩ | ⟨same, -⟩
  · have grown (state : InnerState C) (tally : s.Tally total id p state) :=
      tally.grow (t := s.act id p { s.inst p with proposer := { innerState := next } } response
        events (insert (k, p) s.handled) s.placed) act_keeps (Set.subset_insert _ _)
    generalize state : (s.inst p).proposer.innerState = current at asked before
    cases asked with
    | request => exact addressed.elim
    | promise w m same below =>
      exact before.promise acceptors (sender trivial) arrived same unheard rfl act_keeps
    | ack w m same below =>
      exact before.ack counting (sender trivial) arrived same unheard rfl act_keeps
    | quorum w m value same reached chosen => exact ⟨∅, rfl, by simp, by simp⟩
    | retryPrepare w m refused positive fits =>
      exact ⟨⟨∅, rfl, by simp, by simp⟩, fun x listed => (List.not_mem_nil listed).elim⟩
    | retryAccept w m refused positive fits =>
      exact ⟨⟨∅, rfl, by simp, by simp⟩, fun x listed => (List.not_mem_nil listed).elim⟩
    | won w m same reached => trivial
    | nackPrepare w m tolerated => exact grown _ before
    | nackAccept w m tolerated => exact grown _ before
    | ignored current message ignores => exact grown _ before
  · rw [same]
    exact before.grow act_keeps (Set.subset_insert _ _)

theorem Counting.announced_handle {total id : Nat} {s : Synod C} (identity : Identity total id s)
    (proposals : Proposals total id s) (acceptors : Acceptors total id s)
    (counting : Counting total id s) {p k q : Nat} {message : MessageKind C}
    {response : Option (MessageKind C)} {after : PaxosInstance C}
    {storage kept : Option (PaxosStorage C)} {events : List (TraceEvent C)} (member : p < total)
    (arrived : s.Sent id k q message) (unheard : (k, p) ∉ s.handled)
    (step : (s.inst p).Step storage message response after kept events) (m : Learn C)
    (answer : response = some (.learnMsg m)) :
    (s.act id p after response events (insert (k, p) s.handled) s.placed).Chosen total id m.ballot
      m.command := by
  have taken : Step total id s (.handle p k response) _ := .handle member arrived step
  subst answer
  rcases step.announces with ⟨heard, rfl, ballot, command⟩ |
    ⟨w, ack, state, rfl, same, reached, ballot, command⟩
  · rw [ballot, command]
    exact (counting.announced k q heard arrived).persists (taken.advances identity)
  · have before := counting.tallies p member
    have round := proposals.rounds p member
    have quorum := (identity.configured p member).proposer.quorumSize
    rw [state] at before round quorum
    have counted := before.ack (t := s.act id p after (some (.learnMsg m)) events
      (insert (k, p) s.handled) s.placed) counting (identity.signed k q _ arrived trivial).1
      arrived same unheard rfl act_keeps
    have kept := round.grow (t := s.act id p after (some (.learnMsg m)) events
      (insert (k, p) s.handled) s.placed) (fun k message => act_keeps k p message)
      fun place a sent => (sent_act.mp sent).resolve_right fun new => by simp at new
    have large : quorumOf total ≤ w.state.accepts + 1 := by
      rw [← quorum]
      exact reached
    have chosen := counted.chosen (proposals.step identity taken) (acceptors.step identity taken)
      kept large
    rw [ballot, command]
    exact chosen

theorem Counting.handle {total id : Nat} {s : Synod C} (identity : Identity total id s)
    (proposals : Proposals total id s) (acceptors : Acceptors total id s)
    (counting : Counting total id s) {p k q : Nat} {message : MessageKind C}
    {response : Option (MessageKind C)} {after : PaxosInstance C}
    {storage kept : Option (PaxosStorage C)} {events : List (TraceEvent C)} (member : p < total)
    (arrived : s.Sent id k q message) (unheard : (k, p) ∉ s.handled)
    (step : (s.inst p).Step storage message response after kept events) :
    Counting total id
      (s.act id p after response events (insert (k, p) s.handled) s.placed) := by
  have advances := Step.advances identity (.handle member arrived step)
  refine counting.act advances (Set.subset_insert _ _) ?_
    (counting.tally_handle identity acceptors member arrived unheard step)
    (counting.announced_handle identity proposals acceptors member arrived unheard step) ?_ ?_
  -- The Accept acked before is the one being acked now, and that one is unhandled.
  · rintro m place m' rfl sent same
    rcases step.acceptor_cases with ⟨_, -, -, answer, -⟩ | ⟨asked, rfl, -, answer, -⟩ |
      ⟨-, -, -, no_ack, -⟩
    · simp at answer
    · cases answer
      obtain ⟨source, r, accept, accepted, ballot, handled, -⟩ :=
        acceptors.acked place p m' member sent
      have place' := proposals.unique k source q r asked accept arrived accepted
        (same.trans ballot.symm)
      exact unheard (place' ▸ handled)
    · exact no_ack m rfl
  · intro value holds
    rcases step.learner_cases with ⟨m, rfl, source, -, -⟩ | ⟨same, -⟩
    · rcases source value holds with old | rfl
      · obtain ⟨ballot, chosen⟩ := counting.held p member value old
        exact ⟨ballot, chosen.persists advances⟩
      · exact ⟨m.ballot, (counting.announced k q m arrived).persists advances⟩
    · rw [same] at holds
      obtain ⟨ballot, chosen⟩ := counting.held p member value holds
      exact ⟨ballot, chosen.persists advances⟩
  · intro event happened a ballot value learns
    rcases step.learner_cases with ⟨m, rfl, -, -, source⟩ | ⟨-, silent⟩
    · obtain ⟨rfl, rfl⟩ := source event happened id a ballot value learns
      exact (counting.announced k q m arrived).persists advances
    · exact absurd learns (silent event happened id a ballot value)

theorem Counting.step {total id : Nat} {s t : Synod C} {event : Event C}
    (identity : Identity total id s) (proposals : Proposals total id s)
    (acceptors : Acceptors total id s) (counting : Counting total id s) (once : s.Once event)
    (step : Step total id s event t) : Counting total id t := by
  have advances := step.advances identity
  cases step with
  | @handle p k q message response after storage kept events member arrived step =>
    exact counting.handle identity proposals acceptors member arrived once step
  | @prepare p ballot cmd request member isFresh unopened residue positive =>
    exact counting.act advances (subset_refl _) (by simp)
      ⟨⟨∅, rfl, by simp, by simp⟩, fun x listed => (List.not_mem_nil listed).elim⟩ (by simp)
      (by simp [launched, fresh, PaxosInstance.fresh, Learner.new]) (by simp [TraceEvent.Learns])
  | @accept p ballot cmd request member isFresh unopened residue positive =>
    exact counting.act advances (subset_refl _) (by simp) ⟨∅, rfl, by simp, by simp⟩ (by simp)
      (by simp [launched, fresh, PaxosInstance.fresh, Learner.new]) (by simp [TraceEvent.Learns])
  | @restart p member =>
    refine
      { distinct := counting.distinct
        tallies := fun q inside => ?_
        announced := fun k q m sent => (counting.announced k q m sent).persists advances
        held := fun q inside value holds => ?_
        told := fun a ballot value learns =>
          (counting.told a ballot value learns).persists advances }
    · by_cases same : q = p
      · subst same
        simp only [Function.update_self]
        trivial
      · simp only [Function.update_of_ne same]
        exact counting.tallies q inside
    · by_cases same : q = p
      · subst same
        simp [fresh, PaxosInstance.fresh, Learner.new] at holds
      · simp only [Function.update_of_ne same] at holds
        obtain ⟨ballot, chosen⟩ := counting.held q inside value holds
        exact ⟨ballot, chosen.persists advances⟩
  | @elsewhere msgs handled events placed others grows only outside away =>
    refine
      { distinct := fun k k' a m m' sent sent' same => counting.distinct k k' a m m'
          ((sent_append (by trivial) others).mp sent) ((sent_append (by trivial) others).mp sent')
          same
        tallies := fun q inside => (counting.tallies q inside).grow
          (fun k q message synod sent => (sent_append synod others).mpr sent) grows
        announced := fun k q m sent =>
          (counting.announced k q m ((sent_append (by trivial) others).mp sent)).persists advances
        held := fun q inside value holds => ?_
        told := ?_ }
    · obtain ⟨ballot, chosen⟩ := counting.held q inside value holds
      exact ⟨ballot, chosen.persists advances⟩
    · rintro a ballot value ⟨event, happened, learns⟩
      rcases List.mem_append.mp happened with old | new
      · exact (counting.told a ballot value ⟨event, old, learns⟩).persists advances
      · exact absurd learns.instanceId (outside event new)

omit [DecidableEq C] [Serde Nat] [Serde (AcceptedValue C)] in
theorem Init.counting {total id : Nat} {s : Synod C} (starts : Init total id s) :
    Counting total id s where
  distinct k k' a m m' sent := by simp [Sent, starts.sent] at sent
  tallies p member := by
    rw [starts.inst p member]
    trivial
  announced k q m sent := by simp [Sent, starts.sent] at sent
  held p member value holds := by
    simp [starts.inst p member, fresh, PaxosInstance.fresh, Learner.new] at holds
  told a ballot value learns := by simp [starts.trace] at learns

theorem counting_reachable {total id : Nat} {guard : Synod C → Event C → Prop} {s : Synod C}
    (once : ∀ s event, guard s event → s.Once event)
    (reachable : (system total id).Reachable guard s) : Counting total id s :=
  reachable.invariant (Counting total id) (fun _ starts => Init.counting starts)
    fun _ _ _ reached before allowed next =>
      Counting.step (identity_reachable reached) (proposals_reachable reached)
        (acceptors_reachable reached) before (once _ _ allowed) next

end Synod

end Smr
