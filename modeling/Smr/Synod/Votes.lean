import Smr.Synod.Proposals

set_option autoImplicit false

namespace Smr

variable {C : Type}

theorem PaxosInstance.Step.acceptor_cases [DecidableEq C] [Serde Nat] [Serde (AcceptedValue C)]
    {self after : PaxosInstance C} {storage kept : Option (PaxosStorage C)}
    {message : MessageKind C} {response : Option (MessageKind C)} {events : List (TraceEvent C)}
    (step : self.Step storage message response after kept events) :
    (∃ p, message = .prepareMsg p ∧ self.acceptor.maxBallot < p.ballot ∧
      response = some (.promiseMsg
        { sender := self.acceptor.myId, ballot := p.ballot
          maxAccepted := self.acceptor.maxAccepted }) ∧
      after.acceptor = { self.acceptor with maxBallot := p.ballot } ∧
      events = [.phase1b self.acceptor.myId self.instanceId p.ballot p.sender p.ballot
        self.acceptor.maxAccepted]) ∨
    (∃ a, message = .acceptMsg a ∧ self.acceptor.maxBallot ≤ a.ballot ∧
      response = some (.ackAcceptMsg { sender := self.acceptor.myId, ballot := a.ballot }) ∧
      after.acceptor =
        { self.acceptor with
          maxBallot := a.ballot
          maxAccepted := some { ballot := a.ballot, command := a.command } } ∧
      events = [.phase2b self.acceptor.myId self.instanceId a.ballot a.sender a.ballot
        { ballot := a.ballot, command := a.command }]) ∨
    (after.acceptor = self.acceptor ∧
      (∀ ballot, message.asks = some ballot → ballot ≤ self.acceptor.maxBallot) ∧
      (∀ m, response ≠ some (.promiseMsg m)) ∧ (∀ m, response ≠ some (.ackAcceptMsg m)) ∧
      ∀ event ∈ events, ∀ id a ballot value, ¬event.Votes id a ballot value) := by
  cases step with
  | promise p kept higher saved => exact .inl ⟨p, rfl, higher, rfl, rfl, rfl⟩
  | ackAccept a kept current saved => exact .inr (.inl ⟨a, rfl, current, rfl, rfl, rfl⟩)
  | nackPrepare p lower =>
    refine .inr (.inr ⟨rfl, ?_, by simp, by simp, by simp [TraceEvent.Votes]⟩)
    rintro ballot ⟨⟩
    exact lower
  | nackAccept a stale =>
    refine .inr (.inr ⟨rfl, ?_, by simp, by simp, by simp [TraceEvent.Votes]⟩)
    rintro ballot ⟨⟩
    exact Nat.le_of_lt stale
  | learn m learner reply heard =>
    refine .inr (.inr ⟨rfl, by simp [MessageKind.asks], ?_, ?_, ?_⟩)
    · unfold PaxosInstance.echo
      split <;> simp
    · unfold PaxosInstance.echo
      split <;> simp
    · unfold PaxosInstance.learnTrace
      split <;> simp [TraceEvent.Votes]
  | ignored cmd =>
    exact .inr (.inr ⟨rfl, by simp [MessageKind.asks], by simp, by simp, by simp⟩)
  | proposer message response next addressed asked =>
    generalize self.proposer.innerState = current at asked
    refine .inr (.inr ⟨rfl, ?_, ?_, ?_, ?_⟩)
    · cases message <;> first | exact addressed.elim | simp [MessageKind.asks]
    · rintro m rfl
      cases asked
    · rintro m rfl
      cases asked
    · unfold PaxosInstance.proposerTrace
      split <;> simp [TraceEvent.Votes]

namespace Synod

-- What an acceptor told of itself when it promised a ballot stays what it voted below it.
def Reports (s : Synod C) (id a ballot : Nat) (report : Option (MaxAcceptedProposal C)) : Prop :=
  (∀ best, report = some best → s.Voted id a best.ballot best.command) ∧
  ∀ low value, low < ballot → s.Voted id a low value →
    ∃ best, report = some best ∧ low ≤ best.ballot

structure Acceptors (total id : Nat) (s : Synod C) : Prop where
  inside : ∀ k a, (k, a) ∈ s.handled → k < s.sent.length
  obeyed : ∀ k a q message ballot, a < total → (k, a) ∈ s.handled → s.Sent id k q message →
    message.asks = some ballot → ballot ≤ (s.inst a).acceptor.maxBallot
  voted : ∀ a < total, ∀ ballot value, s.Voted id a ballot value →
    s.Proposed id ballot value ∧ ballot ≤ (s.inst a).acceptor.maxBallot
  latest : ∀ a < total, ∀ ballot, s.Reports id a ballot (s.inst a).acceptor.maxAccepted
  promised : ∀ k a m, a < total → s.Sent id k a (.promiseMsg m) →
    m.ballot ≤ (s.inst a).acceptor.maxBallot ∧ s.Reports id a m.ballot m.maxAccepted
  distinct : ∀ k k' a m m', s.Sent id k a (.promiseMsg m) → s.Sent id k' a (.promiseMsg m') →
    m.ballot = m'.ballot → k = k'
  acked : ∀ k a m, a < total → s.Sent id k a (.ackAcceptMsg m) →
    ∃ place q accept, s.Sent id place q (.acceptMsg accept) ∧ accept.ballot = m.ballot ∧
      (place, a) ∈ s.handled ∧ s.Voted id a accept.ballot accept.command

theorem Proposed.mono {s t : Synod C} {id ballot : Nat} {value : C}
    (proposed : s.Proposed id ballot value)
    (kept : ∀ k q message, message.IsSynod → s.Sent id k q message → t.Sent id k q message) :
    t.Proposed id ballot value := by
  obtain ⟨k, q, a, sent, same⟩ := proposed
  exact ⟨k, q, a, kept k q _ (asks_isSynod rfl) sent, same⟩

theorem Reports.same {s t : Synod C} {id a ballot : Nat}
    {report : Option (MaxAcceptedProposal C)} (reports : s.Reports id a ballot report)
    (votes : ∀ b v, t.Voted id a b v ↔ s.Voted id a b v) : t.Reports id a ballot report :=
  ⟨fun best told => (votes _ _).mpr (reports.1 best told),
    fun low value less vote => reports.2 low value less ((votes _ _).mp vote)⟩

theorem Acceptors.acked_grow {total id : Nat} {s t : Synod C} (acceptors : Acceptors total id s)
    (kept : ∀ k q message, message.IsSynod → s.Sent id k q message → t.Sent id k q message)
    (grows : s.handled ⊆ t.handled) (votes : ∀ a b v, s.Voted id a b v → t.Voted id a b v)
    (k a : Nat) (m : AckAccept) (member : a < total) (sent : s.Sent id k a (.ackAcceptMsg m)) :
    ∃ place q accept, t.Sent id place q (.acceptMsg accept) ∧ accept.ballot = m.ballot ∧
      (place, a) ∈ t.handled ∧ t.Voted id a accept.ballot accept.command := by
  obtain ⟨place, q, accept, asked, same, handled, vote⟩ := acceptors.acked k a m member sent
  exact ⟨place, q, accept, kept place q _ (asks_isSynod rfl) asked, same, grows handled,
    votes _ _ _ vote⟩

theorem Acceptors.quiet {total id : Nat} {s t : Synod C} (acceptors : Acceptors total id s)
    (inside : ∀ k a, (k, a) ∈ t.handled → k < t.sent.length)
    (obeyed : ∀ k a q message ballot, a < total → (k, a) ∈ t.handled → t.Sent id k q message →
      message.asks = some ballot → ballot ≤ (s.inst a).acceptor.maxBallot)
    (still : ∀ a < total, (t.inst a).acceptor = (s.inst a).acceptor)
    (votes : ∀ a b v, t.Voted id a b v ↔ s.Voted id a b v)
    (kept : ∀ k q message, message.IsSynod → s.Sent id k q message → t.Sent id k q message)
    (grows : s.handled ⊆ t.handled)
    (no_promise : ∀ k a m, t.Sent id k a (.promiseMsg m) → s.Sent id k a (.promiseMsg m))
    (no_ack : ∀ k a m, t.Sent id k a (.ackAcceptMsg m) → s.Sent id k a (.ackAcceptMsg m)) :
    Acceptors total id t where
  inside := inside
  obeyed k a q message ballot member handled sent asks := by
    rw [still a member]
    exact obeyed k a q message ballot member handled sent asks
  voted a member ballot value vote := by
    rw [still a member]
    obtain ⟨proposed, below⟩ := acceptors.voted a member ballot value ((votes _ _ _).mp vote)
    exact ⟨proposed.mono kept, below⟩
  latest a member ballot := by
    rw [still a member]
    exact (acceptors.latest a member ballot).same (votes a)
  promised k a m member sent := by
    rw [still a member]
    obtain ⟨below, reports⟩ := acceptors.promised k a m member (no_promise k a m sent)
    exact ⟨below, reports.same (votes a)⟩
  distinct k k' a m m' sent sent' same :=
    acceptors.distinct k k' a m m' (no_promise k a m sent) (no_promise k' a m' sent') same
  acked k a m member sent :=
    acceptors.acked_grow kept grows (fun _ _ _ vote => (votes _ _ _).mpr vote) k a m member
      (no_ack k a m sent)

theorem Acceptors.inside_handle {total id : Nat} {s : Synod C} (acceptors : Acceptors total id s)
    {p k q : Nat} {message : MessageKind C} (arrived : s.Sent id k q message)
    {after : PaxosInstance C} {response : Option (MessageKind C)} {events : List (TraceEvent C)}
    {handled' : Set (Nat × Nat)} {placed : List (Placement C)} (place a : Nat)
    (handled : (place, a) ∈ insert (k, p) s.handled) :
    place < (s.act id p after response events handled' placed).sent.length := by
  have before : place < s.sent.length := by
    rcases handled with same | handled
    · simp only [Prod.mk.injEq] at same
      exact same.1 ▸ arrived.inside
    · exact acceptors.inside place a handled
  simp only [act, List.length_append]
  omega

theorem Acceptors.obeyed_handle {total id : Nat} {s : Synod C} (acceptors : Acceptors total id s)
    {p k q : Nat} {message : MessageKind C} (arrived : s.Sent id k q message)
    {after : PaxosInstance C} {response : Option (MessageKind C)} {events : List (TraceEvent C)}
    {handled' : Set (Nat × Nat)} {placed : List (Placement C)}
    (bound : Nat → Nat) (grows : ∀ a < total, (s.inst a).acceptor.maxBallot ≤ bound a)
    (obeys : ∀ ballot, message.asks = some ballot → ballot ≤ bound p)
    (place a r : Nat) (heard : MessageKind C) (ballot : Nat) (member : a < total)
    (handled : (place, a) ∈ insert (k, p) s.handled)
    (sent : (s.act id p after response events handled' placed).Sent id place r heard)
    (asks : heard.asks = some ballot) : ballot ≤ bound a := by
  rcases sent_act.mp sent with old | ⟨last, -, -⟩
  · rcases handled with same | handled
    · simp only [Prod.mk.injEq] at same
      obtain ⟨rfl, rfl⟩ := same
      have message := Option.some.inj (old.symm.trans arrived)
      simp only [Message.mk.injEq] at message
      exact obeys ballot (by rw [← message.2.2, asks])
    · exact Nat.le_trans (acceptors.obeyed place a r heard ballot member handled old asks)
        (grows a member)
  · rcases handled with same | handled
    · simp only [Prod.mk.injEq] at same
      have := arrived.inside
      omega
    · have := acceptors.inside place a handled
      omega

theorem Acceptors.obeyed_open {total id : Nat} {s : Synod C} (acceptors : Acceptors total id s)
    {p : Nat} {after : PaxosInstance C} {response : Option (MessageKind C)}
    {events : List (TraceEvent C)} {handled' : Set (Nat × Nat)} {placed : List (Placement C)}
    (place a r : Nat) (heard : MessageKind C) (ballot : Nat) (member : a < total)
    (handled : (place, a) ∈ s.handled)
    (sent : (s.act id p after response events handled' placed).Sent id place r heard)
    (asks : heard.asks = some ballot) : ballot ≤ (s.inst a).acceptor.maxBallot := by
  rcases sent_act.mp sent with sent | ⟨last, -, -⟩
  · exact acceptors.obeyed place a r heard ballot member handled sent asks
  · have := acceptors.inside place a handled
    omega

theorem act_raises {total id p : Nat} {s : Synod C} {after : PaxosInstance C}
    {response : Option (MessageKind C)} {events : List (TraceEvent C)}
    {handled : Set (Nat × Nat)} {placed : List (Placement C)}
    (higher : (s.inst p).acceptor.maxBallot ≤ after.acceptor.maxBallot) (a : Nat)
    (_ : a < total) : (s.inst a).acceptor.maxBallot ≤
      ((s.act id p after response events handled placed).inst a).acceptor.maxBallot := by
  by_cases same : a = p
  · subst same
    rwa [act_inst_self]
  · rw [act_inst_other same]

theorem act_keeps {id p : Nat} {s : Synod C} {after : PaxosInstance C}
    {response : Option (MessageKind C)} {events : List (TraceEvent C)}
    {handled : Set (Nat × Nat)} {placed : List (Placement C)} (k q : Nat)
    (message : MessageKind C) (_ : message.IsSynod) (sent : s.Sent id k q message) :
    (s.act id p after response events handled placed).Sent id k q message :=
  sent_act.mpr (.inl sent)

theorem voted_silent {id p a ballot : Nat} {value : C} {s : Synod C} {after : PaxosInstance C}
    {response : Option (MessageKind C)} {events : List (TraceEvent C)}
    {handled : Set (Nat × Nat)} {placed : List (Placement C)}
    (no_vote : ∀ event ∈ events, ∀ id a ballot value, ¬event.Votes id a ballot value) :
    (s.act id p after response events handled placed).Voted id a ballot value ↔
      s.Voted id a ballot value := by
  rw [voted_act, or_iff_left]
  rintro ⟨event, happened, vote⟩
  exact no_vote event happened id a ballot value vote

theorem Acceptors.promise {total id : Nat} {s : Synod C} (acceptors : Acceptors total id s)
    {p k q sender : Nat} {asked : Prepare} {after : PaxosInstance C}
    {events : List (TraceEvent C)} {placed : List (Placement C)} (member : p < total)
    (arrived : s.Sent id k q (.prepareMsg asked))
    (higher : (s.inst p).acceptor.maxBallot < asked.ballot)
    (promised : after.acceptor = { (s.inst p).acceptor with maxBallot := asked.ballot })
    (no_vote : ∀ event ∈ events, ∀ id a ballot value, ¬event.Votes id a ballot value) :
    Acceptors total id
      (s.act id p after (some (.promiseMsg
          { sender := sender, ballot := asked.ballot
            maxAccepted := (s.inst p).acceptor.maxAccepted })) events
        (insert (k, p) s.handled) placed) := by
  have ballot : after.acceptor.maxBallot = asked.ballot := by rw [promised]
  generalize answer : some (MessageKind.promiseMsg
    { sender := sender, ballot := asked.ballot
      maxAccepted := (s.inst p).acceptor.maxAccepted }) = response
  have raises : ∀ a < total, (s.inst a).acceptor.maxBallot ≤
      ((s.act id p after response events (insert (k, p) s.handled) placed).inst
        a).acceptor.maxBallot :=
    act_raises (by rw [ballot]; exact Nat.le_of_lt higher)
  have votes (a b : Nat) (v : C) :
      (s.act id p after response events (insert (k, p) s.handled) placed).Voted id a b v ↔
        s.Voted id a b v := voted_silent no_vote
  have accepted (a : Nat) :
      ((s.act id p after response events (insert (k, p) s.handled) placed).inst
        a).acceptor.maxAccepted = (s.inst a).acceptor.maxAccepted := by
    by_cases same : a = p
    · subst same
      rw [act_inst_self, promised]
    · rw [act_inst_other same]
  refine
    { inside := acceptors.inside_handle arrived
      obeyed := acceptors.obeyed_handle arrived _ raises ?_
      voted := ?_
      latest := ?_
      promised := ?_
      distinct := ?_
      acked := ?_ }
  · rintro b ⟨⟩
    rw [act_inst_self, ballot]
  · intro a inside b v vote
    obtain ⟨proposed, below⟩ := acceptors.voted a inside b v ((votes a b v).mp vote)
    exact ⟨proposed.mono act_keeps, Nat.le_trans below (raises a inside)⟩
  · intro a inside b
    rw [accepted a]
    exact (acceptors.latest a inside b).same (votes a)
  · intro place a m inside sent
    rcases sent_act.mp sent with old | ⟨-, rfl, new⟩
    · obtain ⟨below, reports⟩ := acceptors.promised place a m inside old
      exact ⟨Nat.le_trans below (raises a inside), reports.same (votes a)⟩
    · subst answer
      cases new
      refine ⟨?_, (acceptors.latest a inside asked.ballot).same (votes a)⟩
      rw [act_inst_self, ballot]
  · intro place place' a m m' sent sent' same
    rcases sent_act.mp sent with old | ⟨last, rfl, new⟩ <;>
      rcases sent_act.mp sent' with old' | ⟨last', here', new'⟩
    · exact acceptors.distinct place place' a m m' old old' same
    · subst here' answer
      cases new'
      have below := (acceptors.promised place a m member old).1
      rw [same] at below
      exact absurd higher (Nat.not_lt.mpr below)
    · subst answer
      cases new
      have below := (acceptors.promised place' a m' member old').1
      rw [← same] at below
      exact absurd higher (Nat.not_lt.mpr below)
    · rw [last, last']
  · intro place a m inside sent
    rcases sent_act.mp sent with old | ⟨-, -, new⟩
    · exact acceptors.acked_grow act_keeps (Set.subset_insert _ _)
        (fun _ _ _ vote => (votes _ _ _).mpr vote) place a m inside old
    · subst answer
      simp at new

theorem Acceptors.ack {total id : Nat} {s : Synod C} (acceptors : Acceptors total id s)
    {p k q sender : Nat} {asked : Accept C} {after : PaxosInstance C}
    {events : List (TraceEvent C)} {placed : List (Placement C)} (member : p < total)
    (arrived : s.Sent id k q (.acceptMsg asked))
    (current : (s.inst p).acceptor.maxBallot ≤ asked.ballot)
    (accepted : after.acceptor =
      { (s.inst p).acceptor with
        maxBallot := asked.ballot
        maxAccepted := some { ballot := asked.ballot, command := asked.command } })
    (vote : ∀ a ballot value, (∃ event ∈ events, event.Votes id a ballot value) ↔
      a = p ∧ ballot = asked.ballot ∧ value = asked.command) :
    Acceptors total id
      (s.act id p after (some (.ackAcceptMsg { sender := sender, ballot := asked.ballot }))
        events (insert (k, p) s.handled) placed) := by
  have ballot : after.acceptor.maxBallot = asked.ballot := by rw [accepted]
  generalize answer : (some (MessageKind.ackAcceptMsg
    { sender := sender, ballot := asked.ballot }) : Option (MessageKind C)) = response
  have raises : ∀ a < total, (s.inst a).acceptor.maxBallot ≤
      ((s.act id p after response events (insert (k, p) s.handled) placed).inst
        a).acceptor.maxBallot :=
    act_raises (by rw [ballot]; exact current)
  have votes (a b : Nat) (v : C) :
      (s.act id p after response events (insert (k, p) s.handled) placed).Voted id a b v ↔
        s.Voted id a b v ∨ a = p ∧ b = asked.ballot ∧ v = asked.command := by
    rw [voted_act, vote]
  -- The new vote is at or above every ballot promised before, so no report misses it.
  have reports (a b : Nat) (report : Option (MaxAcceptedProposal C))
      (low : a = p → b ≤ (s.inst p).acceptor.maxBallot) (told : s.Reports id a b report) :
      (s.act id p after response events (insert (k, p) s.handled) placed).Reports id a b
        report := by
    refine ⟨fun best same => (votes _ _ _).mpr (.inl (told.1 best same)), fun b' v less vote => ?_⟩
    rcases (votes a b' v).mp vote with old | ⟨here, rfl, -⟩
    · exact told.2 b' v less old
    · have := low here
      omega
  refine
    { inside := acceptors.inside_handle arrived
      obeyed := acceptors.obeyed_handle arrived _ raises ?_
      voted := ?_
      latest := ?_
      promised := ?_
      distinct := ?_
      acked := ?_ }
  · rintro b ⟨⟩
    rw [act_inst_self, ballot]
  · intro a inside b v vote
    rcases (votes a b v).mp vote with old | ⟨rfl, rfl, rfl⟩
    · obtain ⟨proposed, below⟩ := acceptors.voted a inside b v old
      exact ⟨proposed.mono act_keeps, Nat.le_trans below (raises a inside)⟩
    · refine ⟨⟨k, q, asked, act_keeps k q _ (asks_isSynod rfl) arrived, rfl, rfl⟩, ?_⟩
      rw [act_inst_self, ballot]
  · intro a inside b
    by_cases same : a = p
    · subst same
      rw [act_inst_self, accepted]
      refine ⟨?_, fun b' v _ vote => ⟨_, rfl, ?_⟩⟩
      · rintro best ⟨⟩
        exact (votes _ _ _).mpr (.inr ⟨rfl, rfl, rfl⟩)
      · rcases (votes a b' v).mp vote with old | ⟨-, rfl, -⟩
        · exact Nat.le_trans (acceptors.voted a inside b' v old).2 current
        · exact Nat.le_refl _
    · rw [act_inst_other same]
      exact reports a b _ (fun here => absurd here same) (acceptors.latest a inside b)
  · intro place a m inside sent
    rcases sent_act.mp sent with old | ⟨-, -, new⟩
    · obtain ⟨below, told⟩ := acceptors.promised place a m inside old
      exact ⟨Nat.le_trans below (raises a inside),
        reports a m.ballot m.maxAccepted (fun here => here ▸ below) told⟩
    · subst answer
      simp at new
  · intro place place' a m m' sent sent' same
    rcases sent_act.mp sent with old | ⟨-, -, new⟩ <;>
      rcases sent_act.mp sent' with old' | ⟨-, -, new'⟩
    · exact acceptors.distinct place place' a m m' old old' same
    all_goals subst answer; first | simp at new | simp at new'
  · intro place a m inside sent
    rcases sent_act.mp sent with old | ⟨-, rfl, new⟩
    · exact acceptors.acked_grow act_keeps (Set.subset_insert _ _)
        (fun _ _ _ vote => (votes _ _ _).mpr (.inl vote)) place a m inside old
    · subst answer
      cases new
      exact ⟨k, q, asked, act_keeps k q _ (asks_isSynod rfl) arrived, rfl, .inl rfl,
        (votes _ _ _).mpr (.inr ⟨rfl, rfl, rfl⟩)⟩

theorem Acceptors.opened {total id : Nat} {s : Synod C} (acceptors : Acceptors total id s)
    {p : Nat} {state : InnerState C} {response : MessageKind C} {events : List (TraceEvent C)}
    {placed : List (Placement C)} (isFresh : s.inst p = fresh total p id)
    (no_promise : ∀ m, response ≠ .promiseMsg m) (no_ack : ∀ m, response ≠ .ackAcceptMsg m)
    (no_vote : ∀ event ∈ events, ∀ id a ballot value, ¬event.Votes id a ballot value) :
    Acceptors total id
      (s.act id p (launched total p id state) (some response) events s.handled placed) := by
  refine acceptors.quiet (fun k a handled => ?_) (fun k a q message ballot member handled sent =>
    acceptors.obeyed_open k a q message ballot member handled sent) (fun a _ => ?_)
    (fun _ _ _ => voted_silent no_vote) act_keeps (subset_refl _)
    (fun k a m sent => ?_) (fun k a m sent => ?_)
  · have := acceptors.inside k a handled
    simp only [act, List.length_append]
    omega
  · by_cases same : a = p
    · subst same
      rw [act_inst_self, isFresh]
      rfl
    · rw [act_inst_other same]
  · exact (sent_act.mp sent).resolve_right fun new => no_promise m (Option.some.inj new.2.2)
  · exact (sent_act.mp sent).resolve_right fun new => no_ack m (Option.some.inj new.2.2)

variable [DecidableEq C] [Serde Nat] [Serde (AcceptedValue C)]

theorem Acceptors.step {total id : Nat} {s t : Synod C} {event : Event C}
    (identity : Identity total id s) (acceptors : Acceptors total id s)
    (step : Step total id s event t) : Acceptors total id t := by
  cases step with
  | @handle p k q message response after storage kept events member arrived step =>
    obtain ⟨instanceId, myId, -⟩ := identity.configured p member
    rcases step.acceptor_cases with ⟨asked, rfl, higher, rfl, promised, rfl⟩ |
      ⟨asked, rfl, current, rfl, accepted, rfl⟩ | ⟨same, obeys, no_promise, no_ack, no_vote⟩
    · exact acceptors.promise member arrived higher promised (by simp [TraceEvent.Votes])
    · refine acceptors.ack member arrived current accepted fun a ballot value => ?_
      simp [TraceEvent.Votes, instanceId, myId, eq_comm]
    · refine acceptors.quiet (acceptors.inside_handle arrived)
        (acceptors.obeyed_handle arrived _ (fun _ _ => Nat.le_refl _) obeys) (fun a _ => ?_)
        (fun _ _ _ => voted_silent no_vote) act_keeps (Set.subset_insert _ _)
        (fun place a m sent => ?_) (fun place a m sent => ?_)
      · by_cases here : a = p
        · subst here
          rw [act_inst_self, same]
        · rw [act_inst_other here]
      · exact (sent_act.mp sent).resolve_right fun new => no_promise m new.2.2
      · exact (sent_act.mp sent).resolve_right fun new => no_ack m new.2.2
  | @prepare p ballot cmd request member isFresh unopened residue positive =>
    exact acceptors.opened isFresh (by simp) (by simp) (by simp [TraceEvent.Votes])
  | @accept p ballot cmd request member isFresh unopened residue positive =>
    exact acceptors.opened isFresh (by simp) (by simp) (by simp [TraceEvent.Votes])
  | @restart p member =>
    refine acceptors.quiet acceptors.inside acceptors.obeyed (fun a _ => ?_) (fun _ _ _ => Iff.rfl)
      (fun _ _ _ _ sent => sent) (subset_refl _) (fun _ _ _ sent => sent) (fun _ _ _ sent => sent)
    by_cases same : a = p
    · subst same
      simp only [Function.update_self]
    · simp only [Function.update_of_ne same]
  | @elsewhere msgs handled events placed others grows only outside away =>
    refine acceptors.quiet (fun k a handled => ?_) (fun k a q message ballot member handled sent
      asks => ?_) (fun _ _ => rfl) (fun a b v => ?_)
      (fun k q message synod sent => (sent_append synod others).mpr sent) grows
      (fun k a m sent => (sent_append (by trivial) others).mp sent)
      (fun k a m sent => (sent_append (by trivial) others).mp sent)
    · rcases only k a handled with old | ⟨m, found, -⟩
      · have := acceptors.inside k a old
        simp only [List.length_append]
        omega
      · by_contra beyond
        rw [List.getElem?_eq_none (Nat.le_of_not_lt beyond)] at found
        simp at found
    · have old := (sent_append (asks_isSynod asks) others).mp sent
      rcases only k a handled with before | ⟨m, found, irrelevant⟩
      · exact acceptors.obeyed k a q message ballot member before old asks
      · have same := Option.some.inj (found.symm.trans sent)
        exact absurd ⟨by rw [same], by rw [same]; exact asks_isSynod asks⟩ irrelevant
    · simp only [Voted, List.mem_append, or_and_right, exists_or]
      refine or_iff_left ?_
      rintro ⟨event, happened, vote⟩
      exact outside event happened vote.instanceId

omit [DecidableEq C] [Serde Nat] [Serde (AcceptedValue C)] in
theorem act_advances {total id p : Nat} {s : Synod C} {after : PaxosInstance C}
    {response : Option (MessageKind C)} {events : List (TraceEvent C)}
    {handled : Set (Nat × Nat)} {placed : List (Placement C)}
    (higher : (s.inst p).acceptor.maxBallot ≤ after.acceptor.maxBallot)
    (vote : ∀ event ∈ events, ∀ a ballot value, event.Votes id a ballot value →
      a = p ∧ (s.inst p).acceptor.maxBallot ≤ ballot) :
    (s.election total id).Advances
      ((s.act id p after response events handled placed).election total id) where
  members := rfl
  bound a member := act_raises higher a (Finset.mem_range.mp member)
  kept a ballot value voted := voted_act.mpr (.inl voted)
  voted a member ballot value voted := by
    rcases voted_act.mp voted with old | ⟨event, happened, new⟩
    · exact .inl old
    · obtain ⟨rfl, above⟩ := vote event happened a ballot value new
      exact .inr above

theorem Step.advances {total id : Nat} {s t : Synod C} {event : Event C}
    (identity : Identity total id s) (step : Step total id s event t) :
    (s.election total id).Advances (t.election total id) := by
  cases step with
  | @handle p k q message response after storage kept events member arrived step =>
    obtain ⟨instanceId, myId, -⟩ := identity.configured p member
    rcases step.acceptor_cases with ⟨asked, rfl, higher, rfl, promised, rfl⟩ |
      ⟨asked, rfl, current, rfl, accepted, rfl⟩ | ⟨same, obeys, no_promise, no_ack, no_vote⟩
    · exact act_advances (by rw [promised]; exact Nat.le_of_lt higher) (by simp [TraceEvent.Votes])
    · refine act_advances (by rw [accepted]; exact current) ?_
      rintro event happened a ballot value vote
      simp only [List.mem_singleton] at happened
      subst happened
      simp only [TraceEvent.Votes, MaxAcceptedProposal.mk.injEq] at vote
      exact ⟨by rw [← vote.1, myId], vote.2.2.1 ▸ current⟩
    · exact act_advances (by rw [same]) fun event happened a ballot value vote =>
        absurd vote (no_vote event happened id a ballot value)
  | @prepare p ballot cmd request member isFresh unopened residue positive =>
    exact act_advances (by rw [isFresh]; exact Nat.le_refl _) (by simp [TraceEvent.Votes])
  | @accept p ballot cmd request member isFresh unopened residue positive =>
    exact act_advances (by rw [isFresh]; exact Nat.le_refl _) (by simp [TraceEvent.Votes])
  | @restart p member =>
    refine ⟨rfl, fun a _ => ?_, fun _ _ _ vote => vote, fun _ _ _ _ vote => .inl vote⟩
    by_cases same : a = p
    · subst same
      simp [election]
    · simp [election, same]
  | @elsewhere msgs handled events placed others grows only outside away =>
    refine ⟨rfl, fun a _ => Nat.le_refl _, ?_, ?_⟩
    · rintro a ballot value ⟨event, happened, vote⟩
      exact ⟨event, List.mem_append_left _ happened, vote⟩
    · rintro a - ballot value ⟨event, happened, vote⟩
      rcases List.mem_append.mp happened with old | new
      · exact .inl ⟨event, old, vote⟩
      · exact absurd vote.instanceId (outside event new)

omit [DecidableEq C] [Serde Nat] [Serde (AcceptedValue C)] in
theorem Init.acceptors {total id : Nat} {s : Synod C} (starts : Init total id s) :
    Acceptors total id s where
  inside k a handled := by simp [starts.handled] at handled
  obeyed k a q message ballot _ handled := by simp [starts.handled] at handled
  voted a _ ballot value vote := by simp [Voted, starts.trace] at vote
  latest a member ballot := by
    rw [starts.inst a member]
    exact ⟨by simp [fresh, PaxosInstance.fresh, Acceptor.new],
      fun low value _ vote => by simp [Voted, starts.trace] at vote⟩
  promised k a m _ sent := by simp [Sent, starts.sent] at sent
  distinct k k' a m m' sent := by simp [Sent, starts.sent] at sent
  acked k a m _ sent := by simp [Sent, starts.sent] at sent

theorem acceptors_reachable {total id : Nat} {guard : Synod C → Event C → Prop} {s : Synod C}
    (reachable : (system total id).Reachable guard s) : Acceptors total id s :=
  reachable.invariant (Acceptors total id) (fun _ starts => Init.acceptors starts)
    fun _ _ _ reached before _ next => Acceptors.step (identity_reachable reached) before next

omit [DecidableEq C] [Serde Nat] [Serde (AcceptedValue C)] in
theorem lawful {total id : Nat} {s : Synod C} (proposals : Proposals total id s)
    (acceptors : Acceptors total id s) :
    (s.election total id).Lawful (s.Proposed id) where
  single _ _ _ left right := proposals.single left right
  proposed a member ballot value vote :=
    (acceptors.voted a (Finset.mem_range.mp member) ballot value vote).1

end Synod

end Smr
