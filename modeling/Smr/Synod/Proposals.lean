import Smr.Synod.Protocol

set_option autoImplicit false

namespace Smr

variable {C : Type}

namespace Synod

structure Identity (total id : Nat) (s : Synod C) : Prop where
  configured : ∀ p < total, (s.inst p).Configured p (quorumOf total) total id
  signed : ∀ k q message, s.Sent id k q message → message.IsSynod →
    q < total ∧ message.sender = some q

-- What a proposer in a round has sent: the Prepare or Accept of the round, and no
-- Accept of a later one.
def Round (s : Synod C) (total id p : Nat) : InnerState C → Prop
  | .proposal w => w.ballot % total = p ∧ 0 < w.ballot ∧
    (∃ k m, s.Sent id k p (.prepareMsg m) ∧ m.ballot = w.ballot) ∧
    ∀ k a, s.Sent id k p (.acceptMsg a) → a.ballot < w.ballot
  | .accepting w => w.ballot % total = p ∧ 0 < w.ballot ∧
    (∃ k a, s.Sent id k p (.acceptMsg a) ∧ a.ballot = w.ballot ∧ a.command = w.state.value) ∧
    ∀ k a, s.Sent id k p (.acceptMsg a) → a.ballot ≤ w.ballot
  | _ => True

structure Proposals (total id : Nat) (s : Synod C) : Prop where
  owned : ∀ k q message ballot, s.Sent id k q message → message.asks = some ballot →
    ballot % total = q ∧ 0 < ballot
  rounds : ∀ p < total, s.Round total id p (s.inst p).proposer.innerState
  unique : ∀ k k' q q' a a', s.Sent id k q (.acceptMsg a) → s.Sent id k' q' (.acceptMsg a') →
    a.ballot = a'.ballot → k = k'

theorem asks_isSynod {message : MessageKind C} {ballot : Nat}
    (asks : message.asks = some ballot) : message.IsSynod := by
  cases message <;> trivial

theorem Round.grow {s t : Synod C} {total id p : Nat} {state : InnerState C}
    (round : s.Round total id p state)
    (kept : ∀ k message, message.IsSynod → s.Sent id k p message → t.Sent id k p message)
    (no_new : ∀ k a, t.Sent id k p (.acceptMsg a) → s.Sent id k p (.acceptMsg a)) :
    t.Round total id p state := by
  cases state with
  | initial w => trivial
  | learning w => trivial
  | proposal w =>
    obtain ⟨residue, positive, ⟨k, m, sent, same⟩, above⟩ := round
    exact ⟨residue, positive, ⟨k, m, kept k _ trivial sent, same⟩,
      fun k a sent => above k a (no_new k a sent)⟩
  | accepting w =>
    obtain ⟨residue, positive, ⟨k, a, sent, same⟩, above⟩ := round
    exact ⟨residue, positive, ⟨k, a, kept k _ trivial sent, same⟩,
      fun k a sent => above k a (no_new k a sent)⟩

theorem Proposals.single {total id : Nat} {s : Synod C} (proposals : Proposals total id s)
    {ballot : Nat} {value other : C} (left : s.Proposed id ballot value)
    (right : s.Proposed id ballot other) : value = other := by
  obtain ⟨k, q, a, sent, rfl, rfl⟩ := left
  obtain ⟨k', q', a', sent', same, rfl⟩ := right
  have place := proposals.unique k k' q q' a a' sent sent' same.symm
  subst place
  have message := Option.some.inj (sent.symm.trans sent')
  simp only [Message.mk.injEq, MessageKind.acceptMsg.injEq] at message
  rw [message.2.2]

theorem Proposals.act {total id : Nat} {s : Synod C} (proposals : Proposals total id s) {p : Nat}
    {after : PaxosInstance C} {response : Option (MessageKind C)} {events : List (TraceEvent C)}
    {handled : Set (Nat × Nat)} {placed : List (Placement C)}
    (own : ∀ message ballot, response = some message → message.asks = some ballot →
      ballot % total = p ∧ 0 < ballot)
    (above : ∀ a k older, response = some (.acceptMsg a) → s.Sent id k p (.acceptMsg older) →
      older.ballot < a.ballot)
    (round : p < total →
      (s.act id p after response events handled placed).Round total id p after.proposer.innerState) :
    Proposals total id (s.act id p after response events handled placed) where
  owned k q message ballot sent asks := by
    rcases sent_act.mp sent with sent | ⟨-, rfl, new⟩
    · exact proposals.owned k q message ballot sent asks
    · exact own message ballot new asks
  rounds q member := by
    by_cases same : q = p
    · subst same
      rw [act_inst_self]
      exact round member
    · rw [act_inst_other same]
      refine (proposals.rounds q member).grow (fun k message _ sent => sent_act.mpr (.inl sent)) ?_
      intro k a sent
      rcases sent_act.mp sent with sent | ⟨-, here, -⟩
      · exact sent
      · exact absurd here same
  unique k k' q q' a a' sent sent' same := by
    rcases sent_act.mp sent with old | ⟨last, here, new⟩ <;>
      rcases sent_act.mp sent' with old' | ⟨last', here', new'⟩
    · exact proposals.unique k k' q q' a a' old old' same
    · have owner := (proposals.owned k q _ _ old rfl).1
      have owner' := (own _ _ new' rfl).1
      have here : q = p := by rw [← owner, ← owner', same]
      exact absurd same (Nat.ne_of_lt (above a' k a new' (here ▸ old)))
    · have owner := (own _ _ new rfl).1
      have owner' := (proposals.owned k' q' _ _ old' rfl).1
      have here' : q' = p := by rw [← owner, ← owner', same]
      exact absurd same.symm (Nat.ne_of_lt (above a k' a' new (here' ▸ old')))
    · rw [last, last']

end Synod

theorem PaxosInstance.Step.proposer_cases [DecidableEq C] [Serde Nat] [Serde (AcceptedValue C)]
    {self after : PaxosInstance C} {storage kept : Option (PaxosStorage C)}
    {message : MessageKind C} {response : Option (MessageKind C)} {events : List (TraceEvent C)}
    (step : self.Step storage message response after kept events) :
    (∃ next, message.ForProposer ∧ self.proposer.innerState.Step message response next ∧
      after = { self with proposer := { innerState := next } }) ∨
    (after.proposer = self.proposer ∧ ∀ reply, response = some reply → reply.asks = none) := by
  cases step with
  | proposer message response next addressed asked => exact .inl ⟨next, addressed, asked, rfl⟩
  | learn m learner reply heard =>
    refine .inr ⟨rfl, fun reply answer => ?_⟩
    obtain ⟨-, rfl⟩ := echo_some answer
    rfl
  | ignored cmd => exact .inr ⟨rfl, by simp⟩
  | promise | nackPrepare | ackAccept | nackAccept =>
    refine .inr ⟨rfl, fun reply answer => ?_⟩
    simp only [Option.some.injEq] at answer
    subst answer
    rfl

namespace Synod

theorem launched_configured {total p id : Nat} {state : InnerState C}
    (configured : state.Configured p (quorumOf total) total) :
    (launched total p id state).Configured p (quorumOf total) total id :=
  { instanceId := rfl, acceptor := rfl, proposer := configured }

variable [DecidableEq C] [Serde Nat] [Serde (AcceptedValue C)]

omit [DecidableEq C] [Serde Nat] [Serde (AcceptedValue C)] in
theorem Identity.act {total id : Nat} {s : Synod C} (identity : Identity total id s) {p : Nat}
    {after : PaxosInstance C} {response : Option (MessageKind C)} {events : List (TraceEvent C)}
    {handled : Set (Nat × Nat)} {placed : List (Placement C)}
    (member : p < total) (configured : after.Configured p (quorumOf total) total id)
    (signed : ∀ message, response = some message → message.sender = some p) :
    Identity total id (s.act id p after response events handled placed) where
  configured q inside := by
    by_cases same : q = p
    · subst same
      rw [act_inst_self]
      exact configured
    · rw [act_inst_other same]
      exact identity.configured q inside
  signed k q message sent synod := by
    rcases sent_act.mp sent with sent | ⟨-, rfl, new⟩
    · exact identity.signed k q message sent synod
    · exact ⟨member, signed message new⟩

theorem Identity.step {total id : Nat} {s t : Synod C} {event : Event C}
    (identity : Identity total id s) (step : Step total id s event t) : Identity total id t := by
  cases step with
  | @handle p k q message response after storage kept events member arrived step =>
    exact identity.act member (step.configured (identity.configured p member)) fun reply new => by
      subst new
      exact step.response_sender (identity.configured p member)
  | @prepare p ballot cmd request member isFresh unopened residue positive =>
    exact identity.act member (launched_configured ⟨rfl, rfl, rfl⟩) fun message new => by
      simp only [Option.some.injEq] at new
      exact new ▸ rfl
  | @accept p ballot cmd request member isFresh unopened residue positive =>
    exact identity.act member (launched_configured ⟨rfl, rfl, rfl⟩) fun message new => by
      simp only [Option.some.injEq] at new
      exact new ▸ rfl
  | @restart p member =>
    refine ⟨fun q inside => ?_, identity.signed⟩
    by_cases same : q = p
    · subst same
      simp only [Function.update_self]
      exact ⟨rfl, (identity.configured q inside).acceptor, ⟨rfl, rfl, rfl⟩⟩
    · simp only [Function.update_of_ne same]
      exact identity.configured q inside
  | elsewhere others grows only outside away =>
    exact ⟨identity.configured, fun k q message sent synod =>
      identity.signed k q message ((sent_append synod others).mp sent) synod⟩

omit [DecidableEq C] [Serde Nat] [Serde (AcceptedValue C)] in
theorem retry_ballot {S : Type} {w : StateWrapper S} {total p : Nat} (maxBallot : Nat)
    (proposerId : w.proposerId = p) (totalNodes : w.totalNodes = total) (member : p < total) :
    (w.adopt maxBallot).nextBallot % total = p ∧ w.ballot < (w.adopt maxBallot).nextBallot := by
  subst proposerId totalNodes
  have residue := (w.adopt maxBallot).nextBallot_mod (by simpa)
  exact ⟨by simpa using residue, (w.lt_retry maxBallot (by omega)).1⟩

theorem Proposals.handle {total id : Nat} {s : Synod C} (identity : Identity total id s)
    (proposals : Proposals total id s) {p : Nat} {message : MessageKind C}
    {response : Option (MessageKind C)} {after : PaxosInstance C}
    {storage kept : Option (PaxosStorage C)} {events : List (TraceEvent C)}
    {handled : Set (Nat × Nat)} {placed : List (Placement C)} (member : p < total)
    (step : (s.inst p).Step storage message response after kept events) :
    Proposals total id (s.act id p after response events handled placed) := by
  have before := proposals.rounds p member
  have still (silent : ∀ reply, response = some reply → reply.asks = none)
      (round : s.Round total id p after.proposer.innerState) :
      Proposals total id (s.act id p after response events handled placed) := by
    refine proposals.act (fun message ballot new asks => by simp [silent message new] at asks)
      (fun a k older new => by simpa [MessageKind.asks] using silent _ new)
      (fun _ => round.grow (fun k message _ sent => sent_act.mpr (.inl sent)) ?_)
    intro k a sent
    rcases sent_act.mp sent with sent | ⟨-, -, new⟩
    · exact sent
    · simpa [MessageKind.asks] using silent _ new
  -- A retry: a Prepare above every Accept the node has sent.
  have retries {S : Type} (w : StateWrapper S) (maxBallot : Nat) (value : C)
      (proposerId : w.proposerId = p) (totalNodes : w.totalNodes = total)
      (below : ∀ k a, s.Sent id k p (.acceptMsg a) → a.ballot ≤ w.ballot)
      (asked : response = some (.prepareMsg
        { sender := w.proposerId, ballot := (w.adopt maxBallot).nextBallot }))
      (next : after.proposer.innerState = InnerState.retry w maxBallot value) :
      Proposals total id (s.act id p after response events handled placed) := by
    obtain ⟨residue, higher⟩ := retry_ballot maxBallot proposerId totalNodes member
    subst asked
    refine proposals.act ?_ (by simp) (fun _ => ?_)
    · rintro message ballot ⟨⟩ ⟨⟩
      exact ⟨residue, Nat.lt_of_le_of_lt (Nat.zero_le _) higher⟩
    · rw [next]
      refine ⟨residue, Nat.lt_of_le_of_lt (Nat.zero_le _) higher, ?_, ?_⟩
      · exact ⟨_, _, sent_act.mpr (.inr ⟨rfl, rfl, rfl⟩), rfl⟩
      · intro k a sent
        rcases sent_act.mp sent with sent | ⟨-, -, new⟩
        · exact Nat.lt_of_le_of_lt (below k a sent) higher
        · simp at new
  rcases step.proposer_cases with ⟨next, addressed, asked, rfl⟩ | ⟨same, silent⟩
  · have configured := (identity.configured p member).proposer
    generalize state : (s.inst p).proposer.innerState = current at asked before configured
    have proposerId := configured.proposerId
    have totalNodes := configured.totalNodes
    cases asked with
    | request => exact addressed.elim
    | promise w m same below => exact still (by simp) before
    | nackPrepare w m tolerated => exact still (by simp) before
    | ack w m same below => exact still (by simp) before
    | nackAccept w m tolerated => exact still (by simp) before
    | won w m same reached => exact still (by simp [MessageKind.asks]) trivial
    | ignored current message ignores => exact still (by simp) before
    | quorum w m value same reached chosen =>
      obtain ⟨residue, positive, -, above⟩ := before
      refine proposals.act ?_ ?_ (fun _ => ⟨residue, positive, ?_, ?_⟩)
      · rintro message ballot ⟨⟩ ⟨⟩
        exact ⟨residue, positive⟩
      · rintro a k older ⟨⟩ sent
        exact above k older sent
      · exact ⟨_, _, sent_act.mpr (.inr ⟨rfl, rfl, rfl⟩), rfl, rfl⟩
      · intro k a sent
        rcases sent_act.mp sent with sent | ⟨-, -, new⟩
        · exact Nat.le_of_lt (above k a sent)
        · cases new
          exact Nat.le_refl _
    | retryPrepare w m refused positive fits =>
      exact retries w m.maxBallot w.state.value proposerId totalNodes
        (fun k a sent => Nat.le_of_lt (before.2.2.2 k a sent)) rfl rfl
    | retryAccept w m refused positive fits =>
      exact retries w m.maxBallot w.state.value proposerId totalNodes before.2.2.2 rfl rfl
  · exact still silent (same ▸ before)

theorem Proposals.step {total id : Nat} {s t : Synod C} {event : Event C}
    (identity : Identity total id s) (proposals : Proposals total id s)
    (step : Step total id s event t) : Proposals total id t := by
  cases step with
  | @handle p k q message response after storage kept events member arrived step =>
    exact proposals.handle identity member step
  | @prepare p ballot cmd request member isFresh unopened residue positive =>
    refine proposals.act ?_ (by simp) fun _ => ⟨residue, positive, ?_, fun k a sent => ?_⟩
    · rintro message other ⟨⟩ ⟨⟩
      exact ⟨residue, positive⟩
    · exact ⟨_, _, sent_act.mpr (.inr ⟨rfl, rfl, rfl⟩), rfl⟩
    · rcases sent_act.mp sent with sent | ⟨-, -, new⟩
      · simpa [MessageKind.asks] using unopened k _ sent
      · simp at new
  | @accept p ballot cmd request member isFresh unopened residue positive =>
    refine proposals.act ?_ ?_ fun _ => ⟨residue, positive, ?_, fun k a sent => ?_⟩
    · rintro message other ⟨⟩ ⟨⟩
      exact ⟨residue, positive⟩
    · intro a k older _ sent
      simpa [MessageKind.asks] using unopened k _ sent
    · exact ⟨_, _, sent_act.mpr (.inr ⟨rfl, rfl, rfl⟩), rfl, rfl⟩
    · rcases sent_act.mp sent with sent | ⟨-, -, new⟩
      · simpa [MessageKind.asks] using unopened k _ sent
      · cases new
        exact Nat.le_refl _
  | @restart p member =>
    refine ⟨proposals.owned, fun q inside => ?_, proposals.unique⟩
    by_cases same : q = p
    · subst same
      simp only [Function.update_self]
      trivial
    · simp only [Function.update_of_ne same]
      exact proposals.rounds q inside
  | elsewhere others grows only outside away =>
    refine ⟨?_, fun q inside => ?_, ?_⟩
    · intro k q message ballot sent asks
      exact proposals.owned k q message ballot
        ((sent_append (asks_isSynod asks) others).mp sent) asks
    · exact (proposals.rounds q inside).grow
        (fun k message synod sent => (sent_append synod others).mpr sent)
        (fun k a sent => (sent_append (asks_isSynod rfl) others).mp sent)
    · intro k k' q q' a a' sent sent' same
      exact proposals.unique k k' q q' a a' ((sent_append (asks_isSynod rfl) others).mp sent)
        ((sent_append (asks_isSynod rfl) others).mp sent') same

omit [DecidableEq C] [Serde Nat] [Serde (AcceptedValue C)] in
theorem Init.identity {total id : Nat} {s : Synod C} (starts : Init total id s) :
    Identity total id s where
  configured p member := by
    rw [starts.inst p member]
    exact PaxosInstance.fresh_configured p (quorumOf total) total id
  signed k q message sent _ := by simp [Sent, starts.sent] at sent

omit [DecidableEq C] [Serde Nat] [Serde (AcceptedValue C)] in
theorem Init.proposals {total id : Nat} {s : Synod C} (starts : Init total id s) :
    Proposals total id s where
  owned k q message ballot sent _ := by simp [Sent, starts.sent] at sent
  rounds p member := by
    rw [starts.inst p member]
    trivial
  unique k k' q q' a a' sent _ _ := by simp [Sent, starts.sent] at sent

theorem identity_reachable {total id : Nat} {guard : Synod C → Event C → Prop} {s : Synod C}
    (reachable : (system total id).Reachable guard s) : Identity total id s :=
  reachable.invariant (Identity total id) (fun _ starts => Init.identity starts)
    fun _ _ _ _ before _ next => Identity.step before next

theorem proposals_reachable {total id : Nat} {guard : Synod C → Event C → Prop} {s : Synod C}
    (reachable : (system total id).Reachable guard s) : Proposals total id s :=
  reachable.invariant (Proposals total id) (fun _ starts => Init.proposals starts)
    fun _ _ _ reached before _ next => Proposals.step (identity_reachable reached) before next

end Synod

end Smr
