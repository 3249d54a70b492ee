import Smr.Shared.Picking
import Smr.Synod.Chains

set_option autoImplicit false

namespace Smr

variable {C : Type}

-- A nack names neither the ballot it refuses nor whose that is. The trace event that goes
-- with it names the ballot.
structure Refusal where
  nodeId : Nat
  ballot : Nat
  accept : Bool
  deriving DecidableEq, Repr

def TraceEvent.refusal (id : Nat) : TraceEvent C → Option Refusal
  | .nackPrepare nodeId instanceId ballot _ _ =>
    if instanceId = id then some { nodeId := nodeId, ballot := ballot, accept := false } else none
  | .nackAccept nodeId instanceId ballot _ _ =>
    if instanceId = id then some { nodeId := nodeId, ballot := ballot, accept := true } else none
  | _ => none

def MessageKind.nacks : MessageKind C → Option Bool
  | .nackPrepareMsg _ => some false
  | .nackAcceptMsg _ => some true
  | _ => none

def MessageKind.asking : MessageKind C → Option (Nat × Bool)
  | .prepareMsg p => some (p.ballot, false)
  | .acceptMsg a => some (a.ballot, true)
  | _ => none

theorem MessageKind.asking_asks (message : MessageKind C) :
    message.asks = message.asking.map Prod.fst := by
  cases message <;> rfl

theorem MessageKind.nacks_silent {message : MessageKind C} {accept : Bool}
    (nacks : message.nacks = some accept) : message.asks = none ∧ message.IsSynod := by
  cases message <;> first | exact ⟨rfl, trivial⟩ | simp [MessageKind.nacks] at nacks

def Message.nackIn (id : Nat) (m : Message C) : Option (Nat × Bool) :=
  if m.paxosInstance = id then m.msg.nacks.map fun accept => (m.senderId, accept) else none

theorem TraceEvent.refusal_other {id : Nat} {event : TraceEvent C}
    (outside : event.instanceId ≠ id) : event.refusal id = none := by
  cases event <;> first | rfl | exact if_neg outside

theorem Synod.nackIn_other {id : Nat} {m : Message C} (other : ¬Synod.Relevant id m) :
    m.nackIn id = none := by
  unfold Message.nackIn
  split
  next here =>
    cases nacks : m.msg.nacks with
    | none => rfl
    | some accept => exact absurd ⟨here, (MessageKind.nacks_silent nacks).2⟩ other
  next => rfl

namespace InnerState

def nacked : InnerState C → Bool → Option (Nat × Nat)
  | .proposal wrapper, false => some (wrapper.ballot, wrapper.state.nacks)
  | .accepting wrapper, true => some (wrapper.ballot, wrapper.state.nacks)
  | _, _ => none

theorem nacked_round {self : InnerState C} {accept : Bool} {ballot count : Nat}
    (counting : self.nacked accept = some (ballot, count)) : self.round = some ballot := by
  cases self <;> cases accept <;> simp [nacked] at counting <;> simp [round, counting]

inductive Counts (self : InnerState C) (message : MessageKind C) :
    Option (MessageKind C) → InnerState C → Prop where
  | still {response : Option (MessageKind C)} {next : InnerState C}
      (quiet : ∀ reply, response = some reply → reply.asks = none)
      (round : next.round = self.round ∨ next.round = none)
      (nacked : ∀ accept, next.nacked accept = self.nacked accept ∨ next.nacked accept = none) :
      Counts self message response next
  | counted {accept : Bool} {ballot count : Nat} {next : InnerState C}
      (nacks : message.nacks = some accept) (counting : self.nacked accept = some (ballot, count))
      (round : next.round = some ballot)
      (now : next.nacked accept = some (ballot, count + 1))
      (other : next.nacked (!accept) = none) : Counts self message none next
  | proposed {a : Accept C} {next : InnerState C} (round : self.round = some a.ballot)
      (same : next.round = some a.ballot) (now : next.nacked true = some (a.ballot, 0))
      (other : next.nacked false = none) : Counts self message (some (.acceptMsg a)) next
  | retried {accept : Bool} {ballot count : Nat} {p : Prepare} {next : InnerState C}
      (nacks : message.nacks = some accept) (counting : self.nacked accept = some (ballot, count))
      (refused : self.header.totalNodes - self.header.quorumSize < count + 1)
      (higher : ballot < p.ballot) (round : next.round = some p.ballot)
      (now : next.nacked false = some (p.ballot, 0)) (other : next.nacked true = none) :
      Counts self message (some (.prepareMsg p)) next

theorem Step.counts {self next : InnerState C} {message : MessageKind C}
    {response : Option (MessageKind C)} (step : self.Step message response next)
    (addressed : message.ForProposer) : self.Counts message response next := by
  cases step with
  | request => exact addressed.elim
  | promise w m | ack w m | ignored w m =>
    exact .still (by simp) (.inl rfl) fun accept => .inl (by cases accept <;> rfl)
  | quorum w m value same reached chosen => exact .proposed rfl rfl rfl rfl
  | won w m same reached =>
    refine .still (fun reply answer => ?_) (.inr rfl) fun accept => .inr (by cases accept <;> rfl)
    obtain rfl := Option.some.inj answer
    rfl
  | nackPrepare w m tolerated => exact .counted rfl rfl rfl rfl rfl
  | nackAccept w m tolerated => exact .counted rfl rfl rfl rfl rfl
  | retryPrepare w m refused positive fits =>
    exact .retried rfl rfl refused (w.lt_retry m.maxBallot positive).1 rfl rfl rfl
  | retryAccept w m refused positive fits =>
    exact .retried rfl rfl refused (w.lt_retry m.maxBallot positive).1 rfl rfl rfl

end InnerState

namespace PaxosInstance

def refuses (self : PaxosInstance C) : MessageKind C → Option (Nat × Bool)
  | .prepareMsg p => if p.ballot ≤ self.acceptor.maxBallot then some (p.ballot, false) else none
  | .acceptMsg a => if a.ballot < self.acceptor.maxBallot then some (a.ballot, true) else none
  | _ => none

theorem refuses_asking {self : PaxosInstance C} {message : MessageKind C}
    {refused : Nat × Bool} (refuses : self.refuses message = some refused) :
    message.asking = some refused := by
  cases message <;> simp only [PaxosInstance.refuses] at refuses <;>
    first | (split at refuses <;> simp_all [MessageKind.asking]) | simp at refuses

-- A nack counts for the ballot it refuses only, one that comes in like one's own.
structure Aims (inst : PaxosInstance C) (refusal : Option Refusal) (message : MessageKind C) :
    Prop where
  heard : ∀ accept ballot count, message.nacks = some accept →
    inst.proposer.innerState.nacked accept = some (ballot, count) →
    ∃ r, refusal = some r ∧ r.ballot = ballot
  own : ∀ refused accept ballot count, inst.refuses message = some (refused, accept) →
    inst.proposer.innerState.nacked accept = some (ballot, count) → refused = ballot

instance (inst : PaxosInstance C) (refusal : Option Refusal) (message : MessageKind C) :
    Decidable (inst.Aims refusal message) :=
  decidable_of_iff
    ((∀ accept ∈ message.nacks, ∀ counting ∈ inst.proposer.innerState.nacked accept,
        ∃ r ∈ refusal, r.ballot = counting.1) ∧
      ∀ refused ∈ inst.refuses message,
        ∀ counting ∈ inst.proposer.innerState.nacked refused.2, refused.1 = counting.1)
    ⟨fun ⟨heard, own⟩ =>
      ⟨fun accept ballot count nacks counting => heard accept nacks (ballot, count) counting,
        fun refused accept ballot count refuses counting =>
          own (refused, accept) refuses (ballot, count) counting⟩,
      fun aims =>
        ⟨fun accept nacks counting same => aims.heard accept counting.1 counting.2 nacks same,
          fun refused refuses counting same =>
            aims.own refused.1 refused.2 counting.1 counting.2 refuses same⟩⟩

variable [DecidableEq C] [Serde Nat] [Serde (AcceptedValue C)]

section Steps

variable {self after : PaxosInstance C} {storage kept : Option (PaxosStorage C)}
  {message : MessageKind C} {response : Option (MessageKind C)} {events : List (TraceEvent C)}

theorem Step.refusal_cases (step : self.Step storage message response after kept events) :
    (∃ ballot accept reply, self.refuses message = some (ballot, accept) ∧ after = self ∧
      response = some reply ∧ reply.nacks = some accept ∧
      events.filterMap (TraceEvent.refusal self.instanceId) =
        [{ nodeId := self.acceptor.myId, ballot := ballot, accept := accept }]) ∨
    (events.filterMap (TraceEvent.refusal self.instanceId) = [] ∧
      ∀ reply, response = some reply → reply.nacks = none) := by
  cases step with
  | nackPrepare p lower =>
    exact .inl ⟨p.ballot, false, _, if_pos lower, rfl, rfl, rfl, by simp [TraceEvent.refusal]⟩
  | nackAccept a stale =>
    exact .inl ⟨a.ballot, true, _, if_pos stale, rfl, rfl, rfl, by simp [TraceEvent.refusal]⟩
  | promise | ackAccept | ignored =>
    exact .inr ⟨by simp [TraceEvent.refusal], by simp [MessageKind.nacks]⟩
  | learn m learner reply heard =>
    refine .inr ⟨?_, fun reply answer => ?_⟩
    · unfold learnTrace
      split <;> simp [TraceEvent.refusal]
    · obtain ⟨-, rfl⟩ := echo_some answer
      rfl
  | proposer message response next addressed asked =>
    refine .inr ⟨?_, fun reply answer => ?_⟩
    · unfold proposerTrace
      split <;> simp [TraceEvent.refusal]
    · subst answer
      generalize self.proposer.innerState = current at asked
      cases asked <;> rfl

theorem Step.counts (step : self.Step storage message response after kept events) :
    self.proposer.innerState.Counts message response after.proposer.innerState := by
  rcases step.proposer_cases with ⟨next, addressed, asked, rfl⟩ | ⟨same, quiet⟩
  · exact asked.counts addressed
  · rw [same]
    exact .still quiet (.inl rfl) fun _ => .inl rfl

end Steps

end PaxosInstance

namespace Synod

def refusals (s : Synod C) (id : Nat) : List Refusal :=
  s.trace.filterMap (TraceEvent.refusal id)

def answered (s : Synod C) (id place : Nat) : Option Refusal :=
  (s.refusals id)[Picking.rank (Message.nackIn id) s.sent place]?

def Paired (s : Synod C) (id : Nat) : Prop :=
  s.sent.filterMap (Message.nackIn id) = (s.refusals id).map fun r => (r.nodeId, r.accept)

def refusers (s : Synod C) (total id ballot : Nat) : Finset Nat :=
  (Finset.range total).filter fun a => ∃ r ∈ s.refusals id, r.nodeId = a ∧ r.ballot = ballot

section Pairs

variable {s : Synod C} {id p place q : Nat} {message : MessageKind C} {accept : Bool}
  {after : PaxosInstance C} {response : Option (MessageKind C)} {events : List (TraceEvent C)}
  {handled : Set (Nat × Nat)} {placed : List (Placement C)}

theorem nackIn_some (nacks : message.nacks = some accept) :
    Message.nackIn id { senderId := q, paxosInstance := id, msg := message } =
      some (q, accept) := by
  simp [Message.nackIn, nacks]

theorem Paired.answered (paired : s.Paired id) (sent : s.Sent id place q message)
    (nacks : message.nacks = some accept) :
    ∃ r, s.answered id place = some r ∧ r.nodeId = q ∧ r.accept = accept := by
  have found := Picking.found_at_rank sent (nackIn_some nacks)
  rw [paired, List.getElem?_map, Option.map_eq_some_iff] at found
  obtain ⟨r, here, same⟩ := found
  obtain ⟨rfl, rfl⟩ := Prod.mk.inj same
  exact ⟨r, here, rfl, rfl⟩

theorem refusals_act :
    (s.act id p after response events handled placed).refusals id =
      s.refusals id ++ events.filterMap (TraceEvent.refusal id) :=
  List.filterMap_append

theorem Paired.act (paired : s.Paired id)
    (more : (response.bind MessageKind.nacks).toList.map (fun accept => (p, accept)) =
      (events.filterMap (TraceEvent.refusal id)).map fun r => (r.nodeId, r.accept)) :
    (s.act id p after response events handled placed).Paired id := by
  unfold Paired at paired ⊢
  rw [refusals_act, List.map_append, ← paired, ← more]
  simp only [Synod.act, List.filterMap_append]
  congr 1
  cases response with
  | none => rfl
  | some reply => cases nacks : reply.nacks <;> simp [Message.nackIn, nacks]

theorem answered_act {r : Refusal} (inside : place < s.sent.length)
    (answered : s.answered id place = some r) :
    (s.act id p after response events handled placed).answered id place = some r := by
  unfold Synod.answered at answered ⊢
  rw [refusals_act]
  simp only [Synod.act]
  rw [Picking.rank_append (Nat.le_of_lt inside)]
  exact (List.getElem?_append_left (List.getElem?_eq_some_iff.mp answered).1).trans answered

theorem Paired.answered_new (paired : s.Paired id) :
    (s.act id p after response events handled placed).answered id s.sent.length =
      (events.filterMap (TraceEvent.refusal id)).head? := by
  have last : Picking.rank (Message.nackIn id) s.sent s.sent.length = (s.refusals id).length := by
    rw [Picking.rank_length, paired, List.length_map]
  unfold Synod.answered
  rw [refusals_act]
  simp only [Synod.act]
  rw [Picking.rank_append (Nat.le_refl _), last, List.getElem?_append_right (Nat.le_refl _),
    Nat.sub_self, List.head?_eq_getElem?]

theorem refusers_act (total ballot : Nat) :
    s.refusers total id ballot ⊆
      (s.act id p after response events handled placed).refusers total id ballot := by
  refine Finset.monotone_filter_right _ fun a _ refused => ?_
  obtain ⟨r, member, same⟩ := refused
  exact ⟨r, by rw [refusals_act]; exact List.mem_append_left _ member, same⟩

end Pairs

section Clauses

variable [DecidableEq C] [Serde Nat] [Serde (AcceptedValue C)] {total id p k q : Nat}
  {s : Synod C} {message : MessageKind C} {response : Option (MessageKind C)}
  {after : PaxosInstance C} {storage kept : Option (PaxosStorage C)}
  {events : List (TraceEvent C)}

theorem Paired.handle (paired : s.Paired id)
    (configured : (s.inst p).Configured p (quorumOf total) total id)
    (step : (s.inst p).Step storage message response after kept events)
    (handled : Set (Nat × Nat)) (placed : List (Placement C)) :
    (s.act id p after response events handled placed).Paired id := by
  refine paired.act ?_
  have cases := step.refusal_cases
  rw [configured.instanceId, configured.acceptor] at cases
  rcases cases with ⟨ballot, accept, reply, -, -, rfl, nacks, refusal⟩ | ⟨none_new, quiet⟩
  · rw [refusal, Option.bind_some, nacks]
    rfl
  · rw [none_new]
    cases response with
    | none => rfl
    | some reply => rw [Option.bind_some, quiet reply rfl]; rfl

theorem aims_stays (paired : s.Paired id)
    (aims : (s.inst p).Aims (s.answered id k) message)
    (configured : (s.inst p).Configured p (quorumOf total) total id) {reply : MessageKind C}
    (step : (s.inst p).Step storage message (some reply) after kept events)
    (handled : Set (Nat × Nat)) (placed : List (Placement C)) :
    after.Aims ((s.act id p after (some reply) events handled placed).answered id s.sent.length)
      reply := by
  rw [paired.answered_new]
  have cases := step.refusal_cases
  rw [configured.instanceId, configured.acceptor] at cases
  rcases cases with ⟨ballot, accept, _, refuses, rfl, ⟨⟩, nacks, refusal⟩ | ⟨-, quiet⟩
  · rw [refusal]
    constructor
    · intro accept' other count nacks' counting
      obtain rfl := Option.some.inj (nacks.symm.trans nacks')
      exact ⟨_, rfl, aims.own ballot accept other count refuses counting⟩
    · intro refused accept' other count again
      have silent := (MessageKind.nacks_silent nacks).1
      rw [MessageKind.asking_asks, PaxosInstance.refuses_asking again] at silent
      simp at silent
  · constructor
    · intro accept ballot count nacks
      simp [quiet reply rfl] at nacks
    · intro refused accept ballot count refuses counting
      have asking := PaxosInstance.refuses_asking refuses
      have counts := step.counts
      generalize whole : some reply = answer at counts
      cases counts with
      | still silent =>
        have silent := silent reply whole.symm
        rw [MessageKind.asking_asks, asking] at silent
        simp at silent
      | counted => simp at whole
      | @proposed a next round same now other =>
        obtain rfl := Option.some.inj whole
        obtain ⟨rfl, rfl⟩ := Prod.mk.inj (Option.some.inj asking)
        exact (Prod.mk.inj (Option.some.inj (now.symm.trans counting))).1
      | @retried _ _ _ prepare next _ _ _ _ _ now other =>
        obtain rfl := Option.some.inj whole
        obtain ⟨rfl, rfl⟩ := Prod.mk.inj (Option.some.inj asking)
        exact (Prod.mk.inj (Option.some.inj (now.symm.trans counting))).1

def aiming (total : Nat) : Clause C total where
  allows id s event :=
    match event with
    | .handle p k _ => ∀ q message, s.Sent id k q message →
        (s.inst p).Aims (s.answered id k) message
    | _ => True
  fits id s p k message := s.Paired id ∧ (s.inst p).Aims (s.answered id k) message
  idle id s event other := by
    cases event with
    | handle p k response => exact absurd rfl (other p k response)
    | _ => trivial
  goes response fits sent q message again := by
    obtain rfl := (Message.mk.inj (Option.some.inj (sent.symm.trans again))).2.2
    exact fits.2
  stays fits sent configured step := by
    refine ⟨fits.1.handle configured step _ _, ?_⟩
    rw [act_inst_self]
    exact aims_stays fits.1 fits.2 configured step _ _

end Clauses

end Synod

end Smr
