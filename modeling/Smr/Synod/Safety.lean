import Smr.Synod.Learning

set_option autoImplicit false

namespace Smr

variable {C : Type}

namespace Synod

structure Safety (total id : Nat) (s : Synod C) : Prop where
  prepared : ∀ ballot value, s.Proposed id ballot value → s.Prepared id ballot →
    ∃ quorum, Voting.Majority (Finset.range total) quorum ∧
      ∀ a ∈ quorum, ballot ≤ (s.inst a).acceptor.maxBallot
  safe : (s.election total id).Safe (s.Proposed id)

theorem proposed_act {s : Synod C} {id p ballot : Nat} {after : PaxosInstance C}
    {response : Option (MessageKind C)} {events : List (TraceEvent C)}
    {handled : Set (Nat × Nat)} {placed : List (Placement C)} {value : C}
    (proposed : (s.act id p after response events handled placed).Proposed id ballot value) :
    s.Proposed id ballot value ∨
      ∃ a, response = some (.acceptMsg a) ∧ a.ballot = ballot ∧ a.command = value := by
  obtain ⟨k, q, a, sent, same⟩ := proposed
  rcases sent_act.mp sent with old | ⟨-, -, new⟩
  · exact .inl ⟨k, q, a, old, same⟩
  · exact .inr ⟨a, new, same⟩

theorem prepared_act {s : Synod C} {id p ballot : Nat} {after : PaxosInstance C}
    {response : Option (MessageKind C)} {events : List (TraceEvent C)}
    {handled : Set (Nat × Nat)} {placed : List (Placement C)}
    (prepared : (s.act id p after response events handled placed).Prepared id ballot) :
    s.Prepared id ballot ∨ ∃ m, response = some (.prepareMsg m) ∧ m.ballot = ballot := by
  obtain ⟨k, q, m, sent, same⟩ := prepared
  rcases sent_act.mp sent with old | ⟨-, -, new⟩
  · exact .inl ⟨k, q, m, old, same⟩
  · exact .inr ⟨m, new, same⟩

theorem Safety.below {total id : Nat} {s : Synod C} (safety : Safety total id s)
    (acceptors : Acceptors total id s) {low high : Nat} {value other : C} (less : low < high)
    (unproposed : ¬s.Proposed id low value) (phigh : s.Proposed id high other)
    (prepared : s.Prepared id high) : ¬(s.election total id).Choosable low value := by
  obtain ⟨quorum, majority, past⟩ := safety.prepared high other phigh prepared
  refine Voting.Election.passed_over majority
    (fun a member => Nat.lt_of_lt_of_le less (past a member)) fun a member vote => ?_
  exact unproposed (acceptors.voted a (Finset.mem_range.mp (majority.1 member)) low value vote).1

theorem Safety.quiet {total id : Nat} {s t : Synod C} (safety : Safety total id s)
    (advances : (s.election total id).Advances (t.election total id))
    (no_proposal : ∀ ballot value, t.Proposed id ballot value → s.Proposed id ballot value)
    (no_prepare : ∀ ballot value, s.Proposed id ballot value → t.Prepared id ballot →
      s.Prepared id ballot) : Safety total id t where
  prepared ballot value proposed prepared := by
    have old := no_proposal ballot value proposed
    obtain ⟨quorum, majority, past⟩ :=
      safety.prepared ballot value old (no_prepare ballot value old prepared)
    exact ⟨quorum, majority, fun a member =>
      Nat.le_trans (past a member) (advances.bound a (majority.1 member))⟩
  safe low high value other less plow phigh :=
    safety.safe.persists advances low high value other less (no_proposal _ _ plow)
      (no_proposal _ _ phigh)

theorem Safety.propose {total id : Nat} {s : Synod C} (safety : Safety total id s)
    (acceptors : Acceptors total id s) {p : Nat} {after : PaxosInstance C} {a : Accept C}
    {events : List (TraceEvent C)} {handled : Set (Nat × Nat)} {placed : List (Placement C)}
    (advances : (s.election total id).Advances
      ((s.act id p after (some (.acceptMsg a)) events handled placed).election total id))
    (unproposed : ∀ value, ¬s.Proposed id a.ballot value)
    (quorum : s.Prepared id a.ballot → ∃ quorum, Voting.Majority (Finset.range total) quorum ∧
      ∀ a' ∈ quorum, a.ballot ≤ (s.inst a').acceptor.maxBallot)
    (above : ∀ low other, low < a.ballot → s.Proposed id low other →
      other = a.command ∨ ¬(s.election total id).Choosable low other)
    (below : ∀ high other, a.ballot < high → s.Proposed id high other →
      s.Prepared id high ∨ a.command = other ∨
        ¬(s.election total id).Choosable a.ballot a.command) :
    Safety total id (s.act id p after (some (.acceptMsg a)) events handled placed) where
  prepared ballot value proposed prepared := by
    have earlier : s.Prepared id ballot := by
      rcases prepared_act prepared with old | ⟨m, new, -⟩
      · exact old
      · simp at new
    have past : ∃ quorum, Voting.Majority (Finset.range total) quorum ∧
        ∀ a' ∈ quorum, ballot ≤ (s.inst a').acceptor.maxBallot := by
      rcases proposed_act proposed with old | ⟨a', new, same, -⟩
      · exact safety.prepared ballot value old earlier
      · cases new
        subst same
        exact quorum earlier
    obtain ⟨quorum, majority, past⟩ := past
    exact ⟨quorum, majority, fun a' member =>
      Nat.le_trans (past a' member) (advances.bound a' (majority.1 member))⟩
  safe := by
    refine (safety.safe.propose above (fun high other less phigh => ?_) _
      fun ballot value proposed => ?_).persists advances
    · rcases below high other less phigh with prepared | settled
      · exact .inr (safety.below acceptors less (unproposed _) phigh prepared)
      · exact settled
    · rcases proposed_act proposed with old | ⟨a', new, rfl, rfl⟩
      · exact .inl old
      · cases new
        exact .inr ⟨rfl, rfl⟩

theorem Tally.above {total id p : Nat} {s t : Synod C} {w : StateWrapper (ProposalState C)}
    {value : C} (proposals : Proposals total id s) (acceptors : Acceptors total id s)
    (safety : Safety total id s) (tally : t.Tally total id p (.proposal w))
    (same_sent : t.sent = s.sent) (large : quorumOf total ≤ w.state.promises)
    (chosen : value =
      ((maxByBallot w.state.maxAcceptedProposals).map (·.command)).getD w.state.value) :
    (∃ quorum, Voting.Majority (Finset.range total) quorum ∧
      ∀ a ∈ quorum, w.ballot ≤ (s.inst a).acceptor.maxBallot) ∧
    ∀ low other, low < w.ballot → s.Proposed id low other →
      other = value ∨ ¬(s.election total id).Choosable low other := by
  obtain ⟨⟨quorum, card, inside, heard⟩, origin⟩ := tally
  simp only [Sent, same_sent] at heard origin
  have majority := majority_of_quorum inside (card ▸ large)
  have promised (a : Nat) (member : a ∈ quorum) :
      w.ballot ≤ (s.inst a).acceptor.maxBallot := by
    obtain ⟨k, m, sent, same, -⟩ := heard a member
    exact same ▸ (acceptors.promised k a m (Finset.mem_range.mp (inside member)) sent).1
  refine ⟨⟨quorum, majority, promised⟩, fun low other less plow => ?_⟩
  refine Voting.Election.promised_safe (lawful proposals acceptors) safety.safe majority
    ((maxByBallot w.state.maxAcceptedProposals).map fun x => (x.ballot, x.command)) promised
    (fun a member low other less vote => ?_) (fun report best => ?_) less plow
  · obtain ⟨k, m, sent, same, -, reported⟩ := heard a member
    obtain ⟨best, told, higher⟩ :=
      (acceptors.promised k a m (Finset.mem_range.mp (inside member)) sent).2.2 low other
        (same ▸ less) vote
    have listed := reported best told
    cases found : maxByBallot w.state.maxAcceptedProposals with
    | none =>
      rw [maxByBallot_none.mp found] at listed
      exact absurd listed List.not_mem_nil
    | some top =>
      exact ⟨_, rfl, Nat.le_trans higher ((maxByBallot_some found).2 best listed)⟩
  · cases found : maxByBallot w.state.maxAcceptedProposals with
    | none => simp [found] at best
    | some top =>
      simp only [found, Option.map_some, Option.some.injEq] at best
      subst best
      obtain ⟨k, a, m, member, sent, -, told⟩ := origin top (maxByBallot_some found).1
      have vote := (acceptors.promised k a m member sent).2.1 top told
      exact ⟨(acceptors.voted a member _ _ vote).1, by simp [chosen, found]⟩

variable [DecidableEq C] [Serde Nat] [Serde (AcceptedValue C)]

theorem Safety.handle {total id : Nat} {s : Synod C} (identity : Identity total id s)
    (proposals : Proposals total id s) (acceptors : Acceptors total id s)
    (counting : Counting total id s) (safety : Safety total id s) {p k q : Nat}
    {message : MessageKind C} {response : Option (MessageKind C)} {after : PaxosInstance C}
    {storage kept : Option (PaxosStorage C)} {events : List (TraceEvent C)} (member : p < total)
    (arrived : s.Sent id k q message) (unheard : (k, p) ∉ s.handled)
    (raceFree : s.RaceFree total id (.handle p k response))
    (step : (s.inst p).Step storage message response after kept events) :
    Safety total id (s.act id p after response events (insert (k, p) s.handled) s.placed) := by
  have taken : Step total id s (.handle p k response) _ := .handle member arrived step
  have advances := taken.advances identity
  have tally := counting.tallies p member
  have round := proposals.rounds p member
  have owner (ballot : Nat) (value : C) (proposed : s.Proposed id ballot value)
      (mine : ballot % total = p) : ∃ place a, s.Sent id place p (.acceptMsg a) ∧
        a.ballot = ballot := by
    obtain ⟨place, r, a, sent, same, -⟩ := proposed
    have residue := (proposals.owned place r _ _ sent rfl).1
    have here : r = p := by rw [← residue, same, mine]
    exact ⟨place, a, here ▸ sent, same⟩
  have silent (no_accept : ∀ a, response ≠ some (.acceptMsg a))
      (above : ∀ m place a, response = some (.prepareMsg m) → s.Sent id place p (.acceptMsg a) →
        a.ballot < m.ballot)
      (mine : ∀ m, response = some (.prepareMsg m) → m.ballot % total = p) :
      Safety total id
        (s.act id p after response events (insert (k, p) s.handled) s.placed) := by
    refine safety.quiet advances (fun ballot value proposed => ?_)
      fun ballot value proposed prepared => ?_
    · rcases proposed_act proposed with old | ⟨a, new, -⟩
      · exact old
      · exact absurd new (no_accept a)
    · rcases prepared_act prepared with old | ⟨m, new, rfl⟩
      · exact old
      · obtain ⟨place, a, sent, same⟩ := owner m.ballot value proposed (mine m new)
        exact absurd same (Nat.ne_of_lt (above m place a new sent))
  rcases step.proposer_cases with ⟨next, addressed, asked, rfl⟩ | ⟨-, quiet⟩
  · have configured := (identity.configured p member).proposer
    generalize state : (s.inst p).proposer.innerState = current at asked tally round configured
    have proposerId := configured.proposerId
    have totalNodes := configured.totalNodes
    cases asked with
    | request => exact addressed.elim
    | quorum w m value same reached chosen =>
      obtain ⟨residue, -, ⟨place, m', opened, opens⟩, older⟩ := round
      have heard := tally.promise (t := { s with handled := insert (k, p) s.handled }) acceptors
        (identity.signed k q _ arrived trivial).1 arrived same unheard rfl
        (fun _ _ _ _ sent => sent)
      have quorum : w.quorumSize = quorumOf total := configured.quorumSize
      obtain ⟨promised, above⟩ :=
        heard.above proposals acceptors safety rfl (by dsimp only; omega) chosen
      refine safety.propose acceptors advances (fun other proposed => ?_) (fun _ => promised) above
        (fun high other less phigh => raceFree high other phigh less)
      obtain ⟨place', a, sent, same'⟩ := owner w.ballot other proposed residue
      exact absurd same' (Nat.ne_of_lt (older place' a sent))
    | retryPrepare w m refused positive fits =>
      obtain ⟨residue, higher⟩ := retry_ballot (w := w) m.maxBallot proposerId totalNodes member
      refine silent (by simp) ?_ ?_
      · rintro _ place a ⟨⟩ sent
        exact Nat.lt_trans (round.2.2.2 place a sent) higher
      · rintro _ ⟨⟩
        exact residue
    | retryAccept w m refused positive fits =>
      obtain ⟨residue, higher⟩ := retry_ballot (w := w) m.maxBallot proposerId totalNodes member
      refine silent (by simp) ?_ ?_
      · rintro _ place a ⟨⟩ sent
        exact Nat.lt_of_le_of_lt (round.2.2.2 place a sent) higher
      · rintro _ ⟨⟩
        exact residue
    | promise | nackPrepare | ack | won | nackAccept | ignored =>
      exact silent (by simp) (by simp) (by simp)
  · refine silent (fun a new => ?_) (fun m place a new => ?_) (fun m new => ?_)
    · simpa [MessageKind.asks] using quiet _ new
    · simpa [MessageKind.asks] using quiet _ new
    · simpa [MessageKind.asks] using quiet _ new

theorem Safety.step {total id : Nat} {s t : Synod C} {event : Event C}
    (identity : Identity total id s) (proposals : Proposals total id s)
    (acceptors : Acceptors total id s) (counting : Counting total id s)
    (safety : Safety total id s) (once : s.Once event) (raceFree : s.RaceFree total id event)
    (step : Step total id s event t) : Safety total id t := by
  have advances := step.advances identity
  cases step with
  | @handle p k q message response after storage kept events member arrived step =>
    exact safety.handle identity proposals acceptors counting member arrived once raceFree step
  | @prepare p ballot cmd request member isFresh unopened residue positive =>
    refine safety.quiet advances (fun b v proposed => ?_) fun b v proposed prepared => ?_
    · rcases proposed_act proposed with old | ⟨a, new, -⟩
      · exact old
      · simp at new
    · rcases prepared_act prepared with old | ⟨m, new, rfl⟩
      · exact old
      · cases new
        obtain ⟨place, q, a, sent, same, -⟩ := proposed
        have owner := (proposals.owned place q _ _ sent rfl).1
        have here : q = p := by rw [← owner, same, residue]
        have silent := unopened place _ (here ▸ sent)
        simp [MessageKind.asks] at silent
  | @accept p ballot cmd request member isFresh unopened residue positive =>
    have mine (place q : Nat) (message : MessageKind C) (sent : s.Sent id place q message)
        (asks : message.asks = some ballot) : False := by
      have owner := (proposals.owned place q _ _ sent asks).1
      have here : q = p := by rw [← owner, residue]
      simp [unopened place message (here ▸ sent)] at asks
    refine safety.propose acceptors advances ?_ ?_
      (fun low other less plow => (raceFree low other plow).1 less)
      (fun high other less phigh => (raceFree high other phigh).2 less)
    · rintro value ⟨place, q, a, sent, same, -⟩
      exact mine place q _ sent (by rw [MessageKind.asks, same])
    · rintro ⟨place, q, m, sent, same⟩
      exact (mine place q _ sent (by rw [MessageKind.asks, same])).elim
  | @restart p member =>
    exact safety.quiet advances (fun _ _ proposed => proposed) (fun _ _ _ prepared => prepared)
  | @elsewhere msgs handled events placed others grows only outside away =>
    refine safety.quiet advances ?_ ?_
    · rintro ballot value ⟨place, q, a, sent, same⟩
      exact ⟨place, q, a, (sent_append (by trivial) others).mp sent, same⟩
    · rintro ballot value - ⟨place, q, m, sent, same⟩
      exact ⟨place, q, m, (sent_append (by trivial) others).mp sent, same⟩

omit [DecidableEq C] [Serde Nat] [Serde (AcceptedValue C)] in
theorem Init.safety {total id : Nat} {s : Synod C} (starts : Init total id s) :
    Safety total id s where
  prepared ballot value proposed := by
    obtain ⟨k, q, a, sent, -⟩ := proposed
    simp [Sent, starts.sent] at sent
  safe low high value other _ proposed := by
    obtain ⟨k, q, a, sent, -⟩ := proposed
    simp [Sent, starts.sent] at sent

theorem safety_reachable {total id : Nat} {guard : Synod C → Event C → Prop} {s : Synod C}
    (once : ∀ s event, guard s event → s.Once event)
    (raceFree : ∀ s event, (system total id).Reachable guard s → guard s event →
      s.RaceFree total id event)
    (reachable : (system total id).Reachable guard s) : Safety total id s :=
  reachable.invariant (Safety total id) (fun _ starts => Init.safety starts)
    fun _ _ _ reached before allowed next =>
      Safety.step (identity_reachable reached) (proposals_reachable reached)
        (acceptors_reachable reached) (counting_reachable once reached) before
        (once _ _ allowed) (raceFree _ _ reached allowed) next

omit [DecidableEq C] [Serde Nat] [Serde (AcceptedValue C)] in
theorem Safety.agreement {total id : Nat} {s : Synod C} (proposals : Proposals total id s)
    (acceptors : Acceptors total id s) (safety : Safety total id s) (several : 0 < total)
    {left right : Nat} {value other : C} (hleft : s.Chosen total id left value)
    (hright : s.Chosen total id right other) : value = other :=
  Voting.Election.agreement (lawful proposals acceptors) safety.safe
    ⟨0, Finset.mem_range.mpr several⟩ hleft hright

theorem prepared_step {total id : Nat} {s t : Synod C} {event : Event C}
    (proposals : Proposals total id s) (ordinary : Ordinary event)
    (step : Step total id s event t)
    (before : ∀ ballot value, s.Proposed id ballot value → s.Prepared id ballot) (ballot : Nat)
    (value : C) (proposed : t.Proposed id ballot value) : t.Prepared id ballot := by
  have kept {p : Nat} {after : PaxosInstance C} {response : Option (MessageKind C)}
      {events : List (TraceEvent C)} {handled : Set (Nat × Nat)} {placed : List (Placement C)}
      (prepared : s.Prepared id ballot) :
      (s.act id p after response events handled placed).Prepared id ballot := by
    obtain ⟨place, q, m, sent, same⟩ := prepared
    exact ⟨place, q, m, sent_act.mpr (.inl sent), same⟩
  cases step with
  | @handle p k q message response after storage stored events member arrived step =>
    rcases proposed_act proposed with old | ⟨a, rfl, rfl, rfl⟩
    · exact kept (before ballot value old)
    · rcases step.proposer_cases with ⟨next, addressed, asked, rfl⟩ | ⟨-, quiet⟩
      · have round := proposals.rounds p member
        generalize state : (s.inst p).proposer.innerState = current at asked round
        cases asked with
        | quorum w m value same reached chosen =>
          obtain ⟨-, -, ⟨place, m', opened, opens⟩, -⟩ := round
          exact kept ⟨place, p, m', opened, opens⟩
      · simpa [MessageKind.asks] using quiet _ rfl
  | @prepare p ballot cmd request member isFresh unopened residue positive =>
    rcases proposed_act proposed with old | ⟨a, new, -⟩
    · exact kept (before _ value old)
    · simp at new
  | accept => exact ordinary.elim
  | restart member => exact before ballot value proposed
  | elsewhere others grows only outside away =>
    obtain ⟨place, q, a, sent, same⟩ := proposed
    obtain ⟨place, q, m, sent, same⟩ :=
      before ballot value ⟨place, q, a, (sent_append (by trivial) others).mp sent, same⟩
    exact ⟨place, q, m, (sent_append (by trivial) others).mpr sent, same⟩

theorem ordinary_raceFree {total id : Nat} {guard : Synod C → Event C → Prop} {s : Synod C}
    {event : Event C} (ordinary : ∀ s event, guard s event → Ordinary event)
    (reachable : (system total id).Reachable guard s) (allowed : guard s event) :
    s.RaceFree total id event := by
  have prepared : ∀ ballot value, s.Proposed id ballot value → s.Prepared id ballot :=
    reachable.invariant (fun s => ∀ ballot value, s.Proposed id ballot value →
        s.Prepared id ballot)
      (fun s starts ballot value proposed => by
        obtain ⟨k, q, a, sent, -⟩ := proposed
        simp [Sent, starts.sent] at sent)
      fun _ _ _ reached before allowed next =>
        prepared_step (proposals_reachable reached) (ordinary _ _ allowed) next before
  have ordinary := ordinary s event allowed
  cases event with
  | accept p ballot cmd => exact ordinary.elim
  | handle p k response =>
    cases response with
    | none => trivial
    | some reply =>
      cases reply with
      | acceptMsg a => exact fun b v proposed _ => .inl (prepared b v proposed)
      | _ => trivial
  | _ => trivial

end Synod

end Smr
