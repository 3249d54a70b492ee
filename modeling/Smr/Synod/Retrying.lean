import Smr.Synod.Refusals

set_option autoImplicit false

namespace Smr

variable {C : Type}

namespace Synod

def LastAsk (s : Synod C) (id p ballot : Nat) : Prop :=
  ∃ j message, s.Sent id j p message ∧ message.asks = some ballot ∧
    ∀ k other later, s.Sent id k p other → other.asks = some later → k ≤ j ∧ later ≤ ballot

def Nacked (s : Synod C) (id p ballot count : Nat) (accept : Bool) : Prop :=
  ∃ places : Finset Nat, places.card = count ∧ ∀ k ∈ places, (k, p) ∈ s.handled ∧
    ∃ q message r, s.Sent id k q message ∧ message.nacks = some accept ∧
      s.answered id k = some r ∧ r.ballot = ballot

-- A Prepare after an ask of the same proposer gives up the ballot of that ask.
def GivesUp (s : Synod C) (id p ballot : Nat) : Prop :=
  ∃ j k message prepare, j < k ∧ s.Sent id j p message ∧ message.asks = some ballot ∧
    s.Sent id k p (.prepareMsg prepare) ∧
    ∀ i other, j < i → i < k → s.Sent id i p other → other.asks = none

structure Refusing (total id : Nat) (s : Synod C) : Prop where
  paired : s.Paired id
  members : ∀ r ∈ s.refusals id, r.nodeId < total
  handled : ∀ r ∈ s.refusals id, ∃ k q message, s.Sent id k q message ∧
    message.asking = some (r.ballot, r.accept) ∧ (k, r.nodeId) ∈ s.handled
  once : (s.refusals id).Nodup
  rising : ∀ p j k message ballot prepare, j < k → s.Sent id j p message →
    message.asks = some ballot → s.Sent id k p (.prepareMsg prepare) → ballot < prepare.ballot
  rounds : ∀ p < total, ∀ ballot, (s.inst p).proposer.innerState.round = some ballot →
    s.LastAsk id p ballot
  tallies : ∀ p < total, ∀ accept ballot count,
    (s.inst p).proposer.innerState.nacked accept = some (ballot, count) →
    s.Nacked id p ballot count accept
  refused : ∀ p ballot, s.GivesUp id p ballot →
    total - quorumOf total < (s.refusers total id ballot).card

section Act

variable {s : Synod C} {total id p q k ballot count : Nat} {accept : Bool}
  {after : PaxosInstance C} {response : Option (MessageKind C)} {events : List (TraceEvent C)}
  {handled : Set (Nat × Nat)} {placed : List (Placement C)}

theorem sent_old {message : MessageKind C} (inside : k < s.sent.length)
    (sent : (s.act id p after response events handled placed).Sent id k q message) :
    s.Sent id k q message := by
  rcases sent_act.mp sent with old | ⟨last, -⟩
  · exact old
  · exact absurd inside (last ▸ Nat.lt_irrefl _)

theorem LastAsk.act (last : s.LastAsk id q ballot)
    (quiet : ∀ reply, response = some reply → q = p → reply.asks = none) :
    (s.act id p after response events handled placed).LastAsk id q ballot := by
  obtain ⟨j, message, sent, asks, most⟩ := last
  refine ⟨j, message, sent_act.mpr (.inl sent), asks, fun k other later sent' asks' => ?_⟩
  rcases sent_act.mp sent' with old | ⟨-, same, new⟩
  · exact most k other later old asks'
  · simp [quiet other new same] at asks'

theorem LastAsk.new {reply : MessageKind C} (asks : reply.asks = some ballot)
    (older : ∀ k other later, s.Sent id k p other → other.asks = some later → later ≤ ballot) :
    (s.act id p after (some reply) events handled placed).LastAsk id p ballot := by
  refine ⟨s.sent.length, reply, sent_act.mpr (.inr ⟨rfl, rfl, rfl⟩), asks,
    fun k other later sent asks' => ?_⟩
  rcases sent_act.mp sent with old | ⟨rfl, -, new⟩
  · exact ⟨Nat.le_of_lt old.inside, older k other later old asks'⟩
  · obtain rfl := Option.some.inj new
    exact ⟨Nat.le_refl _, Nat.le_of_eq (Option.some.inj (asks'.symm.trans asks))⟩

theorem Nacked.act (nacked : s.Nacked id q ballot count accept) (grows : s.handled ⊆ handled) :
    (s.act id p after response events handled placed).Nacked id q ballot count accept := by
  obtain ⟨places, card, counted⟩ := nacked
  refine ⟨places, card, fun k member => ?_⟩
  obtain ⟨told, q, message, r, sent, nacks, answered, same⟩ := counted k member
  exact ⟨grows told, q, message, r, sent_act.mpr (.inl sent), nacks,
    answered_act sent.inside answered, same⟩

theorem Nacked.none_yet : s.Nacked id p ballot 0 accept :=
  ⟨∅, rfl, by simp⟩

theorem GivesUp.act (gives : (s.act id p after response events handled placed).GivesUp id q ballot) :
    s.GivesUp id q ballot ∨ q = p ∧ ∃ prepare j message, response = some (.prepareMsg prepare) ∧
      s.Sent id j p message ∧ message.asks = some ballot ∧
      ∀ i other, j < i → s.Sent id i p other → other.asks = none := by
  obtain ⟨j, k, message, prepare, before, sent, asks, opens, between⟩ := gives
  have still (i : Nat) (other : MessageKind C) (after' : j < i) (inside : i < k)
      (sent' : s.Sent id i q other) : other.asks = none :=
    between i other after' inside (sent_act.mpr (.inl sent'))
  rcases sent_act.mp opens with old | ⟨rfl, rfl, new⟩
  · exact .inl ⟨j, k, message, prepare, before, sent_old (Nat.lt_trans before old.inside) sent,
      asks, old, still⟩
  · exact .inr ⟨rfl, prepare, j, message, new, sent_old before sent, asks,
      fun i other after' sent' => still i other after' sent'.inside sent'⟩

theorem Refusing.card_le (refusing : Refusing total id s) {places : Finset Nat}
    (counted : ∀ k ∈ places, ∃ q message r, s.Sent id k q message ∧
      message.nacks = some accept ∧ s.answered id k = some r ∧ r.ballot = ballot) :
    places.card ≤ (s.refusers total id ballot).card := by
  have refusal (k : Nat) (member : k ∈ places) : ∃ r, s.answered id k = some r ∧
      r ∈ s.refusals id ∧ r.ballot = ballot ∧ r.accept = accept := by
    obtain ⟨q, message, r, sent, nacks, answered, same⟩ := counted k member
    obtain ⟨r', answered', -, phase⟩ := refusing.paired.answered sent nacks
    obtain rfl := Option.some.inj (answered.symm.trans answered')
    exact ⟨r, answered, List.mem_of_getElem? answered, same, phase⟩
  refine Finset.card_le_card_of_injOn
    (fun k => ((s.answered id k).map Refusal.nodeId).getD 0) (fun k member => ?_) ?_
  · obtain ⟨r, answered, listed, same, -⟩ := refusal k member
    simp only [answered, Option.map_some, Option.getD_some, refusers, Finset.coe_filter,
      Set.mem_ofPred_eq, Finset.mem_range]
    exact ⟨refusing.members r listed, r, listed, rfl, same⟩
  · intro k member k' member' same
    obtain ⟨r, answered, -, ballot, phase⟩ := refusal k member
    obtain ⟨r', answered', -, ballot', phase'⟩ := refusal k' member'
    simp only [answered, answered', Option.map_some, Option.getD_some] at same
    obtain rfl : r = r' := by
      obtain ⟨nodeId, b, a⟩ := r
      obtain ⟨nodeId', b', a'⟩ := r'
      simp_all
    obtain ⟨q, message, -, sent, nacks, -⟩ := counted k member
    obtain ⟨q', message', -, sent', nacks', -⟩ := counted k' member'
    have inside := (List.getElem?_eq_some_iff.mp answered).1
    have ranks := (List.getElem?_inj inside refusing.once).mp (answered.trans answered'.symm)
    exact Picking.place_eq sent (nackIn_some nacks) sent' (nackIn_some nacks') ranks

theorem asked_once (refusing : Refusing total id s) (proposals : Proposals total id s)
    {k' q' : Nat} {message message' : MessageKind C} {asked : Nat × Bool}
    (sent : s.Sent id k q message) (sent' : s.Sent id k' q' message')
    (asking : message.asking = some asked) (asking' : message'.asking = some asked) : k = k' := by
  have owner := (proposals.owned k q message asked.1 sent (by simp [message.asking_asks, asking])).1
  have owner' := (proposals.owned k' q' message' asked.1 sent'
    (by simp [message'.asking_asks, asking'])).1
  obtain rfl : q = q' := owner.symm.trans owner'
  cases message with
  | prepareMsg p =>
    cases message' with
    | prepareMsg p' =>
      obtain rfl := Option.some.inj asking
      have same := (Prod.mk.inj (Option.some.inj asking')).1
      rcases Nat.lt_trichotomy k k' with before | here | later
      · have less := refusing.rising q k k' _ p.ballot p' before sent rfl sent'
        exact absurd same.symm (Nat.ne_of_lt less)
      · exact here
      · have less := refusing.rising q k' k _ p'.ballot p later sent' rfl sent
        exact absurd same (Nat.ne_of_lt less)
    | _ => simp [MessageKind.asking, ← asking] at asking'
  | acceptMsg a =>
    cases message' with
    | acceptMsg a' =>
      obtain rfl := Option.some.inj asking
      have same := (Prod.mk.inj (Option.some.inj asking')).1
      exact proposals.unique k k' q q a a' sent sent' same.symm
    | _ => simp [MessageKind.asking, ← asking] at asking'
  | _ => simp [MessageKind.asking] at asking

theorem Refusing.act (refusing : Refusing total id s) (grows : s.handled ⊆ handled)
    (paired : (s.act id p after response events handled placed).Paired id)
    (single : (events.filterMap (TraceEvent.refusal id)).length ≤ 1)
    (fresh : ∀ r ∈ events.filterMap (TraceEvent.refusal id), r ∉ s.refusals id ∧
      r.nodeId < total ∧ ∃ k q message, s.Sent id k q message ∧
        message.asking = some (r.ballot, r.accept) ∧ (k, r.nodeId) ∈ handled)
    (above : ∀ prepare k message ballot, response = some (.prepareMsg prepare) →
      s.Sent id k p message → message.asks = some ballot → ballot < prepare.ballot)
    (round : p < total → ∀ ballot, after.proposer.innerState.round = some ballot →
      (s.act id p after response events handled placed).LastAsk id p ballot)
    (tally : p < total → ∀ accept ballot count,
      after.proposer.innerState.nacked accept = some (ballot, count) →
      (s.act id p after response events handled placed).Nacked id p ballot count accept)
    (gives : ∀ prepare j message ballot, response = some (.prepareMsg prepare) →
      s.Sent id j p message → message.asks = some ballot →
      (∀ i other, j < i → s.Sent id i p other → other.asks = none) →
      total - quorumOf total < (s.refusers total id ballot).card) :
    Refusing total id (s.act id p after response events handled placed) where
  paired := paired
  members r listed := by
    rw [refusals_act, List.mem_append] at listed
    exact listed.elim (refusing.members r) fun new => (fresh r new).2.1
  handled r listed := by
    rw [refusals_act, List.mem_append] at listed
    rcases listed with old | new
    · obtain ⟨k, q, message, sent, asking, told⟩ := refusing.handled r old
      exact ⟨k, q, message, sent_act.mpr (.inl sent), asking, grows told⟩
    · obtain ⟨k, q, message, sent, asking, told⟩ := (fresh r new).2.2
      exact ⟨k, q, message, sent_act.mpr (.inl sent), asking, told⟩
  once := by
    rw [refusals_act]
    refine List.nodup_append.mpr ⟨refusing.once, ?_, fun r old r' new same => ?_⟩
    · exact List.nodup_iff_count_le_one.mpr fun r => Nat.le_trans List.count_le_length single
    · exact (fresh r' new).1 (same ▸ old)
  rising q j k message ballot prepare before sent asks opens := by
    rcases sent_act.mp opens with old | ⟨rfl, rfl, new⟩
    · exact refusing.rising q j k message ballot prepare before
        (sent_old (Nat.lt_trans before old.inside) sent) asks old
    · exact above prepare j message ballot new (sent_old before sent) asks
  rounds q member ballot open_ := by
    by_cases same : q = p
    · subst same
      rw [act_inst_self] at open_
      exact round member ballot open_
    · rw [act_inst_other same] at open_
      exact (refusing.rounds q member ballot open_).act fun _ _ here => absurd here same
  tallies q member accept ballot count counting := by
    by_cases same : q = p
    · subst same
      rw [act_inst_self] at counting
      exact tally member accept ballot count counting
    · rw [act_inst_other same] at counting
      exact (refusing.tallies q member accept ballot count counting).act grows
  refused q ballot given := by
    refine Nat.lt_of_lt_of_le ?_ (Finset.card_le_card (refusers_act total ballot))
    rcases given.act with old | ⟨rfl, prepare, j, message, new, sent, asks, last⟩
    · exact refusing.refused q ballot old
    · exact gives prepare j message ballot new sent asks last

theorem Refusing.opens (refusing : Refusing total id s) {first : MessageKind C}
    {event : TraceEvent C} (unopened : s.Unopened id p) (asks : first.asks = some ballot)
    (round : after.proposer.innerState.round = some ballot)
    (uncounted : ∀ accept b count, after.proposer.innerState.nacked accept = some (b, count) →
      count = 0) (other : event.refusal id = none) :
    Refusing total id (s.act id p after (some first) [event] s.handled placed) := by
  have none_new : [event].filterMap (TraceEvent.refusal id) = [] := by simp [other]
  have silent : first.nacks = none := by
    cases nacks : first.nacks with
    | none => rfl
    | some accept => simp [(MessageKind.nacks_silent nacks).1] at asks
  have unasked {place b : Nat} {message : MessageKind C} (sent : s.Sent id place p message)
      (asks : message.asks = some b) : False := by
    simp [unopened place message sent] at asks
  refine refusing.act (Set.Subset.refl _) (refusing.paired.act (by simp [silent, none_new]))
    (by simp [none_new]) (by simp [none_new]) ?_ (fun _ b open_ => ?_)
    (fun _ accept b count counting => ?_) ?_
  · exact fun _ _ _ _ _ sent asks => (unasked sent asks).elim
  · obtain rfl := Option.some.inj (round.symm.trans open_)
    exact .new asks fun _ _ _ sent asks => (unasked sent asks).elim
  · obtain rfl := uncounted accept b count counting
    exact .none_yet
  · exact fun _ _ _ _ _ sent asks _ => (unasked sent asks).elim

end Act

section Idle

variable {s t : Synod C} {total id p : Nat}

theorem Refusing.idle (refusing : Refusing total id s)
    (round : ∀ p < total, (t.inst p).proposer.innerState.round =
      (s.inst p).proposer.innerState.round ∨ (t.inst p).proposer.innerState.round = none)
    (counts : ∀ p < total, ∀ accept, (t.inst p).proposer.innerState.nacked accept =
      (s.inst p).proposer.innerState.nacked accept ∨
        (t.inst p).proposer.innerState.nacked accept = none)
    (kept : ∀ k q message, s.Sent id k q message → t.Sent id k q message)
    (no_new : ∀ k q message, message.IsSynod → t.Sent id k q message → s.Sent id k q message)
    (grows : s.handled ⊆ t.handled) (paired : t.Paired id)
    (refusals : t.refusals id = s.refusals id)
    (answered : ∀ k q message, s.Sent id k q message → t.answered id k = s.answered id k) :
    Refusing total id t where
  paired := paired
  members := refusals ▸ refusing.members
  handled r listed := by
    obtain ⟨k, q, message, sent, asking, told⟩ := refusing.handled r (refusals ▸ listed)
    exact ⟨k, q, message, kept k q message sent, asking, grows told⟩
  once := refusals ▸ refusing.once
  rising p j k message ballot prepare before sent asks opens :=
    refusing.rising p j k message ballot prepare before
      (no_new j p message (asks_isSynod asks) sent) asks (no_new k p _ trivial opens)
  rounds p member ballot open_ := by
    rcases round p member with same | closed
    · obtain ⟨j, message, sent, asks, most⟩ := refusing.rounds p member ballot (same ▸ open_)
      exact ⟨j, message, kept j p message sent, asks, fun k other later sent' asks' =>
        most k other later (no_new k p other (asks_isSynod asks') sent') asks'⟩
    · simp [closed] at open_
  tallies p member accept ballot count counting := by
    rcases counts p member accept with same | closed
    · obtain ⟨places, card, counted⟩ :=
        refusing.tallies p member accept ballot count (same ▸ counting)
      refine ⟨places, card, fun k listed => ?_⟩
      obtain ⟨told, q, message, r, sent, nacks, found, here⟩ := counted k listed
      exact ⟨grows told, q, message, r, kept k q message sent, nacks,
        (answered k q message sent).trans found, here⟩
    · simp [closed] at counting
  refused p ballot given := by
    obtain ⟨j, k, message, prepare, before, sent, asks, opens, between⟩ := given
    unfold refusers
    rw [refusals]
    refine refusing.refused p ballot ⟨j, k, message, prepare, before,
      no_new j p message (asks_isSynod asks) sent, asks, no_new k p _ trivial opens,
      fun i other after inside sent' => between i other after inside (kept i p other sent')⟩

theorem Refusing.restart (refusing : Refusing total id s) (p : Nat) :
    Refusing total id
      { s with
        inst := Function.update s.inst p
          { fresh total p id with acceptor := (s.inst p).acceptor } } := by
  refine refusing.idle (fun q _ => ?_) (fun q _ accept => ?_) (fun _ _ _ sent => sent)
    (fun _ _ _ _ sent => sent) (Set.Subset.refl _) refusing.paired rfl fun _ _ _ _ => rfl
  · by_cases same : q = p
    · subst same
      simp only [Function.update_self]
      exact .inr rfl
    · exact .inl (by simp only [Function.update_of_ne same])
  · by_cases same : q = p
    · subst same
      simp only [Function.update_self]
      exact .inr (by cases accept <;> rfl)
    · exact .inl (by simp only [Function.update_of_ne same])

theorem Refusing.elsewhere (refusing : Refusing total id s) {msgs : List (Message C)}
    {handled : Set (Nat × Nat)} {events : List (TraceEvent C)} {placed : List (Placement C)}
    (others : ∀ m ∈ msgs, ¬Relevant id m) (grows : s.handled ⊆ handled)
    (outside : ∀ event ∈ events, event.instanceId ≠ id) :
    Refusing total id
      { s with
        sent := s.sent ++ msgs
        handled := handled
        trace := s.trace ++ events
        placed := placed } := by
  have refusals : (s.trace ++ events).filterMap (TraceEvent.refusal id) = s.refusals id := by
    have none_new : events.filterMap (TraceEvent.refusal id) = [] :=
      List.filterMap_eq_nil_iff.mpr fun event traced =>
        TraceEvent.refusal_other (outside event traced)
    rw [List.filterMap_append, none_new, List.append_nil, Synod.refusals]
  have nacks : (s.sent ++ msgs).filterMap (Message.nackIn id) =
      s.sent.filterMap (Message.nackIn id) := by
    have none_new : msgs.filterMap (Message.nackIn id) = [] :=
      List.filterMap_eq_nil_iff.mpr fun m member => nackIn_other (others m member)
    rw [List.filterMap_append, none_new, List.append_nil]
  refine refusing.idle (fun _ _ => .inl rfl) (fun _ _ _ => .inl rfl)
    (fun _ _ _ sent => (List.getElem?_append_left sent.inside).trans sent)
    (fun _ _ _ synod sent => (sent_append synod others).mp sent) grows ?_ refusals
    fun k _ _ sent => ?_
  · unfold Paired
    rw [nacks, refusing.paired]
    exact congrArg _ refusals.symm
  · unfold Synod.answered
    rw [Picking.rank_append (Nat.le_of_lt sent.inside)]
    exact congrArg (·[_]?) refusals

end Idle

section Counted

variable {total id p k q : Nat} {s : Synod C} {message : MessageKind C}
  {response : Option (MessageKind C)} {after : PaxosInstance C} {events : List (TraceEvent C)}
  {handled : Set (Nat × Nat)} {placed : List (Placement C)}

theorem Nacked.count {ballot count : Nat} {accept : Bool} {r : Refusal}
    (nacked : s.Nacked id p ballot count accept) (arrived : s.Sent id k q message)
    (unheard : (k, p) ∉ s.handled) (nacks : message.nacks = some accept)
    (answered : s.answered id k = some r) (same : r.ballot = ballot) :
    (s.act id p after response events (insert (k, p) s.handled) placed).Nacked id p ballot
      (count + 1) accept := by
  obtain ⟨places, card, counted⟩ := nacked
  have new : k ∉ places := fun again => unheard (counted k again).1
  have whole : s.Nacked id p ballot count accept := ⟨places, card, counted⟩
  refine ⟨insert k places, by rw [Finset.card_insert_of_notMem new, card], fun place listed => ?_⟩
  rcases Finset.mem_insert.mp listed with rfl | old
  · exact ⟨.inl rfl, q, message, r, sent_act.mpr (.inl arrived), nacks,
      answered_act arrived.inside answered, same⟩
  · obtain ⟨told, q', message', r', sent, nacks', answered', same'⟩ := counted place old
    exact ⟨.inr told, q', message', r', sent_act.mpr (.inl sent), nacks',
      answered_act sent.inside answered', same'⟩

variable (refusing : Refusing total id s) (member : p < total)
  (counts : (s.inst p).proposer.innerState.Counts message response after.proposer.innerState)

include refusing member counts

theorem Refusing.above {prepare : Prepare} {place ballot : Nat} {other : MessageKind C}
    (answer : response = some (.prepareMsg prepare)) (sent : s.Sent id place p other)
    (asks : other.asks = some ballot) : ballot < prepare.ballot := by
  subst answer
  cases counts with
  | still quiet => simp [MessageKind.asks] at quiet
  | retried nacks counting refused higher =>
    obtain ⟨_, _, -, -, most⟩ :=
      refusing.rounds p member _ (InnerState.nacked_round counting)
    exact Nat.lt_of_le_of_lt (most place other ballot sent asks).2 higher

theorem Refusing.lastAsk {ballot : Nat} (round : after.proposer.innerState.round = some ballot) :
    (s.act id p after response events handled placed).LastAsk id p ballot := by
  have rounds := refusing.rounds p member
  cases counts with
  | still quiet kept =>
    rcases kept with same | closed
    · exact (rounds ballot (same ▸ round)).act fun reply answer _ => quiet reply answer
    · simp [closed] at round
  | counted nacks counting same =>
    obtain rfl := Option.some.inj (same.symm.trans round)
    exact (rounds _ (InnerState.nacked_round counting)).act (by simp)
  | proposed before same =>
    obtain rfl := Option.some.inj (same.symm.trans round)
    obtain ⟨_, _, -, -, most⟩ := rounds _ before
    exact .new rfl fun place other later sent asks => (most place other later sent asks).2
  | retried nacks counting refused higher same =>
    obtain rfl := Option.some.inj (same.symm.trans round)
    obtain ⟨_, _, -, -, most⟩ := rounds _ (InnerState.nacked_round counting)
    exact .new rfl fun place other later sent asks =>
      Nat.le_of_lt (Nat.lt_of_le_of_lt (most place other later sent asks).2 higher)

variable (arrived : s.Sent id k q message) (unheard : (k, p) ∉ s.handled)
  (aims : (s.inst p).Aims (s.answered id k) message)

include arrived unheard aims

theorem Refusing.nacked {accept : Bool} {ballot count : Nat}
    (counting : after.proposer.innerState.nacked accept = some (ballot, count)) :
    (s.act id p after response events (insert (k, p) s.handled) placed).Nacked id p ballot count
      accept := by
  have tallies := refusing.tallies p member
  cases counts with
  | still quiet round kept =>
    rcases kept accept with same | closed
    · exact (tallies accept ballot count (same ▸ counting)).act (Set.subset_insert _ _)
    · simp [closed] at counting
  | @counted phase ballot' count' next nacks before round now other =>
    by_cases same : accept = phase
    · subst same
      obtain ⟨rfl, rfl⟩ := Prod.mk.inj (Option.some.inj (now.symm.trans counting))
      obtain ⟨r, answered, refuses⟩ := aims.heard accept ballot' count' nacks before
      exact (tallies accept ballot' count' before).count arrived unheard nacks answered refuses
    · have phase' : accept = !phase := by cases accept <;> cases phase <;> simp at same ⊢
      simp [phase', other] at counting
  | proposed round same now other =>
    cases accept with
    | true =>
      obtain ⟨rfl, rfl⟩ := Prod.mk.inj (Option.some.inj (now.symm.trans counting))
      exact .none_yet
    | false => simp [other] at counting
  | retried nacks before refused higher round now other =>
    cases accept with
    | false =>
      obtain ⟨rfl, rfl⟩ := Prod.mk.inj (Option.some.inj (now.symm.trans counting))
      exact .none_yet
    | true => simp [other] at counting

theorem Refusing.given (configured : (s.inst p).Configured p (quorumOf total) total id)
    {prepare : Prepare} {place ballot : Nat} {other : MessageKind C}
    (answer : response = some (.prepareMsg prepare)) (sent : s.Sent id place p other)
    (asks : other.asks = some ballot)
    (last : ∀ i other, place < i → s.Sent id i p other → other.asks = none) :
    total - quorumOf total < (s.refusers total id ballot).card := by
  subst answer
  cases counts with
  | still quiet => simp [MessageKind.asks] at quiet
  | @retried accept ballot' count _ _ nacks counting refused higher =>
    obtain ⟨place', message', sent', asks', most⟩ :=
      refusing.rounds p member _ (InnerState.nacked_round counting)
    obtain rfl : place = place' := by
      rcases Nat.lt_or_eq_of_le (most place other ballot sent asks).1 with before | same
      · simp [last place' message' before sent'] at asks'
      · exact same
    obtain rfl := (Message.mk.inj (Option.some.inj (sent.symm.trans sent'))).2.2
    obtain rfl := Option.some.inj (asks.symm.trans asks')
    obtain ⟨places, card, counted⟩ := refusing.tallies p member accept ballot count counting
    obtain ⟨r, answered, same⟩ := aims.heard accept ballot count nacks counting
    have new : k ∉ places := fun again => unheard (counted k again).1
    have all : (insert k places).card ≤ (s.refusers total id ballot).card :=
      refusing.card_le fun place listed => by
        rcases Finset.mem_insert.mp listed with rfl | old
        · exact ⟨q, message, r, arrived, nacks, answered, same⟩
        · exact (counted place old).2
    rw [Finset.card_insert_of_notMem new, card] at all
    rw [configured.proposer.totalNodes, configured.proposer.quorumSize] at refused
    exact Nat.lt_of_lt_of_le refused all

end Counted

section Runs

variable [DecidableEq C] [Serde Nat] [Serde (AcceptedValue C)] {total id p k q : Nat}
  {s : Synod C} {message : MessageKind C} {response : Option (MessageKind C)}
  {after : PaxosInstance C} {storage kept : Option (PaxosStorage C)}
  {events : List (TraceEvent C)}

theorem Refusing.handle (refusing : Refusing total id s) (identity : Identity total id s)
    (proposals : Proposals total id s) (member : p < total) (arrived : s.Sent id k q message)
    (unheard : (k, p) ∉ s.handled) (aims : (s.inst p).Aims (s.answered id k) message)
    (step : (s.inst p).Step storage message response after kept events) :
    Refusing total id (s.act id p after response events (insert (k, p) s.handled) s.placed) := by
  have configured := identity.configured p member
  have refusal := step.refusal_cases
  rw [configured.instanceId, configured.acceptor] at refusal
  have counts := step.counts
  refine refusing.act (Set.subset_insert _ _) (refusing.paired.handle configured step _ _) ?_
    (fun r new => ?_)
    (fun prepare place other ballot answer sent asks =>
      refusing.above member counts answer sent asks)
    (fun _ ballot round => refusing.lastAsk member counts round)
    (fun _ accept ballot count counting =>
      refusing.nacked member counts arrived unheard aims counting)
    fun prepare place other ballot answer sent asks last =>
      refusing.given member counts arrived unheard aims configured answer sent asks last
  · rcases refusal with ⟨_, _, _, -, -, -, -, one⟩ | ⟨none_new, -⟩
    · simp [one]
    · simp [none_new]
  · rcases refusal with ⟨ballot, accept, _, refuses, -, -, -, one⟩ | ⟨none_new, -⟩
    · rw [one, List.mem_singleton] at new
      subst new
      have asking := PaxosInstance.refuses_asking refuses
      refine ⟨fun again => ?_, member, k, q, message, arrived, asking, .inl rfl⟩
      obtain ⟨k', q', message', sent, asking', told⟩ := refusing.handled _ again
      exact unheard (asked_once refusing proposals arrived sent asking asking' ▸ told)
    · simp [none_new] at new

theorem Refusing.step {t : Synod C} {event : Event C} (refusing : Refusing total id s)
    (identity : Identity total id s) (proposals : Proposals total id s) (once : s.Once event)
    (aims : (aiming total).allows id s event) (step : Step total id s event t) :
    Refusing total id t := by
  cases step with
  | handle member arrived step =>
    exact refusing.handle identity proposals member arrived once (aims _ _ arrived) step
  | prepare member isFresh unopened =>
    refine refusing.opens unopened rfl rfl (fun accept ballot count counting => ?_) rfl
    cases accept <;> cases counting
    rfl
  | accept member isFresh unopened =>
    refine refusing.opens unopened rfl rfl (fun accept ballot count counting => ?_) rfl
    cases accept <;> cases counting
    rfl
  | restart => exact refusing.restart _
  | elsewhere others grows only outside => exact refusing.elsewhere others grows outside

omit [DecidableEq C] [Serde Nat] [Serde (AcceptedValue C)] in
theorem Init.refusing (starts : Init total id s) : Refusing total id s := by
  have unsent {k q : Nat} {message : MessageKind C} (sent : s.Sent id k q message) : False := by
    simp [Sent, starts.sent] at sent
  have refusals : s.refusals id = [] := by simp [Synod.refusals, starts.trace]
  refine
    { paired := by simp [Paired, refusals, starts.sent]
      members := by simp [refusals]
      handled := by simp [refusals]
      once := by simp [refusals]
      rising := fun _ _ _ _ _ _ _ sent => (unsent sent).elim
      rounds := fun p member ballot round => ?_
      tallies := fun p member accept ballot count counting => ?_
      refused := fun p ballot gives => ?_ }
  · rw [starts.inst p member] at round
    cases round
  · rw [starts.inst p member] at counting
    cases accept <;> cases counting
  · obtain ⟨_, _, _, _, _, sent, _⟩ := gives
    exact (unsent sent).elim

theorem refusing_reachable {rules : Rules} (once : rules.once)
    (reachable : (system total id).Reachable (Held rules (aiming total) id) s) :
    Refusing total id s :=
  reachable.invariant (Refusing total id) (fun _ starts => Init.refusing starts)
    fun _ _ _ reached before allowed next =>
      before.step (identity_reachable reached) (proposals_reachable reached)
        (allowed.1.1 once) allowed.2 next

end Runs

end Synod

end Smr
