import Smr.Synod.Safety
import Smr.Tla.Paxos

set_option autoImplicit false

namespace Smr

variable {C : Type}

-- The -1 and "None" of the specification are the 0 and None of the code.
def oracleBallot (ballot : Nat) : Int :=
  if ballot = 0 then -1 else ballot

theorem oracleBallot_le {ballot bound : Nat} (below : ballot ≤ bound) :
    oracleBallot ballot ≤ bound := by
  unfold oracleBallot
  split <;> omega

theorem oracleBallot_lt {ballot bound : Nat} (below : ballot < bound) :
    oracleBallot ballot < bound := by
  unfold oracleBallot
  split <;> omega

theorem oracleBallot_pos {ballot : Nat} (positive : 0 < ballot) : oracleBallot ballot = ballot :=
  if_neg (Nat.ne_of_gt positive)

def oracleVBal : Option (MaxAcceptedProposal C) → Int
  | none => -1
  | some accepted => accepted.ballot

def oracleReport (sender ballot : Nat) (maxAccepted : Option (MaxAcceptedProposal C)) :
    Paxos.Report C :=
  { sender := sender
    ballot := ballot
    maxVBal := oracleVBal maxAccepted
    maxVal := maxAccepted.map (·.command) }

namespace Synod

-- The messages of an instance as the specification has them. An AckAccept names no value:
-- it is that of the Accept at its ballot.
inductive Shows (s : Synod C) (id : Nat) : Paxos.Msg C → Prop where
  | phase1a {k q : Nat} {m : Prepare} (sent : s.Sent id k q (.prepareMsg m)) :
      Shows s id (.phase1a q m.ballot)
  | phase1b {k q : Nat} {m : Promise C} (sent : s.Sent id k q (.promiseMsg m)) :
      Shows s id (.phase1b (oracleReport q m.ballot m.maxAccepted))
  | phase2a {k q : Nat} {a : Accept C} (sent : s.Sent id k q (.acceptMsg a)) :
      Shows s id (.phase2a q a.ballot a.command)
  | phase2b {k q : Nat} {m : AckAccept} {value : C} (sent : s.Sent id k q (.ackAcceptMsg m))
      (proposed : s.Proposed id m.ballot value) : Shows s id (.phase2b q m.ballot value)

def oracle (s : Synod C) (id : Nat) : Paxos C :=
  { maxBal := fun a => oracleBallot (s.inst a).acceptor.maxBallot
    maxVBal := fun a => oracleVBal (s.inst a).acceptor.maxAccepted
    maxVal := fun a => (s.inst a).acceptor.maxAccepted.map (·.command)
    msgs := {m | s.Shows id m} }

def Emits (total id : Nat) (m : Message C) (s t : Paxos C) : Prop :=
  if m.paxosInstance = id then
    match m.msg with
    | .prepareMsg p => Paxos.Phase1a m.senderId p.ballot s t
    | .promiseMsg _ => Paxos.Phase1b m.senderId s t
    | .acceptMsg a => Paxos.Phase2a (quorumOf total) m.senderId a.ballot a.command s t
    | .ackAcceptMsg _ => Paxos.Phase2b m.senderId s t
    | _ => t = s
  else t = s

inductive Behaves (total id : Nat) : Paxos C → List (Message C) → Paxos C → Prop where
  | nil (s : Paxos C) : Behaves total id s [] s
  | cons {s middle t : Paxos C} {m : Message C} {rest : List (Message C)}
      (emits : Emits total id m s middle) (later : Behaves total id middle rest t) :
      Behaves total id s (m :: rest) t

theorem Behaves.append {total id : Nat} {s middle t : Paxos C} {msgs later : List (Message C)}
    (first : Behaves total id s msgs middle) (rest : Behaves total id middle later t) :
    Behaves total id s (msgs ++ later) t := by
  induction first with
  | nil s => exact rest
  | cons emits _ ih => exact .cons emits (ih rest)

theorem Behaves.still {total id : Nat} (s : Paxos C) {msgs : List (Message C)}
    (others : ∀ m ∈ msgs, ¬Relevant id m) : Behaves total id s msgs s := by
  induction msgs with
  | nil => exact .nil s
  | cons m rest ih =>
    refine .cons ?_ (ih fun other member => others other (List.mem_cons_of_mem _ member))
    unfold Emits
    split
    next here =>
      have other : ¬m.msg.IsSynod := fun synod => others m List.mem_cons_self ⟨here, synod⟩
      cases kind : m.msg with
      | requestCommandToLeader | forwardAck => rfl
      | _ => simp [kind, MessageKind.IsSynod] at other
    next => rfl

theorem Behaves.same {total id : Nat} {s t : Paxos C} {msgs : List (Message C)}
    (others : ∀ m ∈ msgs, ¬Relevant id m) (same : t = s) : Behaves total id s msgs t := by
  subst same
  exact .still t others

def Adds (s : Synod C) (id p : Nat) (response : Option (MessageKind C)) (m : Paxos.Msg C) : Prop :=
  match response with
  | some (.prepareMsg asked) => m = .phase1a p asked.ballot
  | some (.promiseMsg promise) => m = .phase1b (oracleReport p promise.ballot promise.maxAccepted)
  | some (.acceptMsg a) => m = .phase2a p a.ballot a.command
  | some (.ackAcceptMsg ack) => ∃ value, s.Proposed id ack.ballot value ∧
    m = .phase2b p ack.ballot value
  | _ => False

theorem Shows.grow {s t : Synod C} {id : Nat} {m : Paxos.Msg C} (shows : s.Shows id m)
    (kept : ∀ k q message, message.IsSynod → s.Sent id k q message → t.Sent id k q message) :
    t.Shows id m := by
  cases shows with
  | phase1a sent => exact .phase1a (kept _ _ _ trivial sent)
  | phase1b sent => exact .phase1b (kept _ _ _ trivial sent)
  | phase2a sent => exact .phase2a (kept _ _ _ trivial sent)
  | phase2b sent proposed => exact .phase2b (kept _ _ _ trivial sent) (proposed.mono kept)

theorem shows_act {s : Synod C} {id p : Nat} {after : PaxosInstance C}
    {response : Option (MessageKind C)} {events : List (TraceEvent C)} {handled : Set (Nat × Nat)}
    {placed : List (Placement C)}
    (unacked : ∀ a k q m, response = some (.acceptMsg a) → s.Sent id k q (.ackAcceptMsg m) →
      m.ballot ≠ a.ballot) (m : Paxos.Msg C) :
    (s.act id p after response events handled placed).Shows id m ↔
      s.Shows id m ∨ s.Adds id p response m := by
  constructor
  · intro shows
    cases shows with
    | phase1a sent =>
      rcases sent_act.mp sent with old | ⟨-, rfl, rfl⟩
      · exact .inl (.phase1a old)
      · exact .inr rfl
    | phase1b sent =>
      rcases sent_act.mp sent with old | ⟨-, rfl, rfl⟩
      · exact .inl (.phase1b old)
      · exact .inr rfl
    | phase2a sent =>
      rcases sent_act.mp sent with old | ⟨-, rfl, rfl⟩
      · exact .inl (.phase2a old)
      · exact .inr rfl
    | phase2b sent proposed =>
      rcases proposed_act proposed with before | ⟨a, new, same, -⟩
      · rcases sent_act.mp sent with old | ⟨-, rfl, rfl⟩
        · exact .inl (.phase2b old before)
        · exact .inr ⟨_, before, rfl⟩
      · rcases sent_act.mp sent with old | ⟨-, -, new'⟩
        · exact absurd same.symm (unacked a _ _ _ new old)
        · simp [new] at new'
  · rintro (old | new)
    · exact old.grow fun _ _ _ _ sent => sent_act.mpr (.inl sent)
    · unfold Adds at new
      split at new
      next => exact new ▸ .phase1a (sent_act.mpr (.inr ⟨rfl, rfl, rfl⟩))
      next => exact new ▸ .phase1b (sent_act.mpr (.inr ⟨rfl, rfl, rfl⟩))
      next => exact new ▸ .phase2a (sent_act.mpr (.inr ⟨rfl, rfl, rfl⟩))
      next =>
        obtain ⟨value, proposed, rfl⟩ := new
        exact .phase2b (sent_act.mpr (.inr ⟨rfl, rfl, rfl⟩)) (proposed.mono fun _ _ _ synod sent =>
          sent_act.mpr (.inl sent))
      next => exact new.elim

theorem oracle_same {s t : Synod C} {id : Nat}
    (sent : ∀ k q message, message.IsSynod → (t.Sent id k q message ↔ s.Sent id k q message))
    (still : ∀ a, (t.inst a).acceptor = (s.inst a).acceptor) : t.oracle id = s.oracle id := by
  rw [oracle, Paxos.mk.injEq]
  simp only [still]
  refine ⟨rfl, rfl, rfl, Set.ext fun m => ⟨fun shows => ?_, fun shows => ?_⟩⟩
  · exact shows.grow fun k q message synod => (sent k q message synod).mp
  · exact shows.grow fun k q message synod => (sent k q message synod).mpr

theorem oracle_act {s : Synod C} {id p : Nat} {after : PaxosInstance C}
    {response : Option (MessageKind C)} {events : List (TraceEvent C)} {handled : Set (Nat × Nat)}
    {placed : List (Placement C)}
    (unacked : ∀ a k q m, response = some (.acceptMsg a) → s.Sent id k q (.ackAcceptMsg m) →
      m.ballot ≠ a.ballot) :
    (s.act id p after response events handled placed).oracle id =
      { maxBal :=
          Function.update (s.oracle id).maxBal p (oracleBallot after.acceptor.maxBallot)
        maxVBal := Function.update (s.oracle id).maxVBal p (oracleVBal after.acceptor.maxAccepted)
        maxVal := Function.update (s.oracle id).maxVal p
          (after.acceptor.maxAccepted.map (·.command))
        msgs := {m | s.Shows id m ∨ s.Adds id p response m} } := by
  have updated {B : Type} (field : PaxosInstance C → B) :
      (fun a => field ((s.act id p after response events handled placed).inst a)) =
        Function.update (fun a => field (s.inst a)) p (field after) := by
    funext a
    by_cases same : a = p
    · subst same
      simp [act]
    · simp [act, same]
  rw [oracle, Paxos.mk.injEq]
  exact ⟨updated fun inst => oracleBallot inst.acceptor.maxBallot,
    updated fun inst => oracleVBal inst.acceptor.maxAccepted,
    updated fun inst => inst.acceptor.maxAccepted.map (·.command),
    Set.ext fun m => shows_act unacked m⟩

theorem oracle_still {s : Synod C} {id p : Nat} {after : PaxosInstance C}
    {response : Option (MessageKind C)} {events : List (TraceEvent C)} {handled : Set (Nat × Nat)}
    {placed : List (Placement C)} (still : after.acceptor = (s.inst p).acceptor)
    (unacked : ∀ a k q m, response = some (.acceptMsg a) → s.Sent id k q (.ackAcceptMsg m) →
      m.ballot ≠ a.ballot) :
    (s.act id p after response events handled placed).oracle id =
      { s.oracle id with msgs := {m | s.Shows id m ∨ s.Adds id p response m} } := by
  rw [oracle_act unacked, still, Paxos.mk.injEq]
  exact ⟨Function.update_eq_self p _, Function.update_eq_self p _, Function.update_eq_self p _,
    rfl⟩

theorem adds_one {s : Synod C} {id p : Nat} {response : Option (MessageKind C)} {m : Paxos.Msg C}
    (only : ∀ other, s.Adds id p response other ↔ other = m) :
    {other | s.Shows id other ∨ s.Adds id p response other} = insert m (s.oracle id).msgs := by
  ext other
  simp only [Set.mem_ofPred_eq, only, Set.mem_insert_iff, oracle]
  exact or_comm

def reports (s : Synod C) (id : Nat) (w : StateWrapper (ProposalState C)) :
    Set (Paxos.Report C) :=
  {r | ∃ k a m, s.Sent id k a (.promiseMsg m) ∧ m.ballot = w.ballot ∧
    (∀ x, m.maxAccepted = some x → x ∈ w.state.maxAcceptedProposals) ∧
    r = oracleReport a m.ballot m.maxAccepted}

theorem Tally.reports {s t : Synod C} {total id p : Nat} {w : StateWrapper (ProposalState C)}
    {value : C} (identity : Identity total id s) (tally : t.Tally total id p (.proposal w))
    (same_sent : t.sent = s.sent) (large : quorumOf total ≤ w.state.promises)
    (chosen : value =
      ((maxByBallot w.state.maxAcceptedProposals).map (·.command)).getD w.state.value) :
    (∀ m ∈ s.reports id w, .phase1b m ∈ (s.oracle id).msgs ∧ m.ballot = w.ballot) ∧
      quorumOf total ≤ (Set.image Paxos.Report.sender (s.reports id w)).ncard ∧
      ((∀ m ∈ s.reports id w, m.maxVBal = -1) ∨
        ∃ m ∈ s.reports id w, 0 ≤ m.maxVBal ∧ m.maxVal = some value ∧
          ∀ other ∈ s.reports id w, other.maxVBal ≤ m.maxVBal) := by
  obtain ⟨⟨quorum, card, inside, heard⟩, origin⟩ := tally
  simp only [Sent, same_sent] at heard origin
  refine ⟨?_, ?_, ?_⟩
  · rintro r ⟨k, a, m, sent, same, -, rfl⟩
    exact ⟨.phase1b sent, same⟩
  · have senders : (quorum : Set Nat) ⊆ Set.image Paxos.Report.sender (s.reports id w) := by
      intro a member
      obtain ⟨k, m, sent, same, -, reported⟩ := heard a member
      exact ⟨_, ⟨k, a, m, sent, same, reported, rfl⟩, rfl⟩
    have finite : (Set.image Paxos.Report.sender (s.reports id w)).Finite := by
      refine (Finset.finite_toSet (Finset.range total)).subset ?_
      rintro a ⟨r, ⟨k, q, m, sent, -, -, rfl⟩, rfl⟩
      exact Finset.mem_coe.mpr (Finset.mem_range.mpr (identity.signed k q _ sent trivial).1)
    have few := Set.ncard_le_ncard senders finite
    rw [Set.ncard_coe_finset, card] at few
    exact Nat.le_trans large few
  · cases found : maxByBallot w.state.maxAcceptedProposals with
    | none =>
      left
      rintro r ⟨k, a, m, -, -, reported, rfl⟩
      rw [maxByBallot_none.mp found] at reported
      cases told : m.maxAccepted with
      | none => simp [oracleReport, oracleVBal]
      | some x => exact absurd (reported x told) List.not_mem_nil
    | some top =>
      obtain ⟨listed, highest⟩ := maxByBallot_some found
      obtain ⟨k, a, m, member, sent, same, told⟩ := origin top listed
      refine .inr ⟨_, ⟨k, a, m, sent, same, fun x again => ?_, rfl⟩, ?_, ?_, ?_⟩
      · exact Option.some.inj (told.symm.trans again) ▸ listed
      · simp [oracleReport, told, oracleVBal]
      · simp [oracleReport, told, chosen, found]
      · rintro r ⟨k', a', m', -, -, reported, rfl⟩
        simp only [oracleReport, told, oracleVBal]
        cases told' : m'.maxAccepted with
        | none => simp
        | some x => simpa using highest x (reported x told')

theorem Round.unproposed {s : Synod C} {total id p : Nat} {w : StateWrapper (ProposalState C)}
    (proposals : Proposals total id s) (round : s.Round total id p (.proposal w)) {k q : Nat}
    {a : Accept C} (sent : s.Sent id k q (.acceptMsg a)) : a.ballot ≠ w.ballot := by
  intro same
  have owner := (proposals.owned k q _ _ sent rfl).1
  have here : q = p := by rw [← owner, same, round.1]
  exact absurd same (Nat.ne_of_lt (round.2.2.2 k a (here ▸ sent)))

theorem Shows.sent {s : Synod C} {id sender ballot : Nat} {value : C}
    (shows : s.Shows id (.phase2a sender ballot value)) :
    ∃ k q a, s.Sent id k q (.acceptMsg a) ∧ a.ballot = ballot := by
  cases shows with
  | phase2a sent => exact ⟨_, _, _, sent, rfl⟩

variable [DecidableEq C] [Serde Nat] [Serde (AcceptedValue C)]

theorem handle_emits {total id : Nat} {s : Synod C} (identity : Identity total id s)
    (proposals : Proposals total id s) (acceptors : Acceptors total id s)
    (counting : Counting total id s) {p k q : Nat} {message : MessageKind C}
    {response : Option (MessageKind C)} {after : PaxosInstance C}
    {storage kept : Option (PaxosStorage C)} {events : List (TraceEvent C)} (member : p < total)
    (arrived : s.Sent id k q message) (unheard : (k, p) ∉ s.handled)
    (step : (s.inst p).Step storage message response after kept events) :
    Behaves total id (s.oracle id)
      (response.map fun r => { senderId := p, paxosInstance := id, msg := r }).toList
      ((s.act id p after response events (insert (k, p) s.handled) s.placed).oracle id) := by
  have one {r : MessageKind C} {o : Paxos C}
      (emits : Emits total id { senderId := p, paxosInstance := id, msg := r } (s.oracle id) o) :
      Behaves total id (s.oracle id)
        ((some r).map fun r => { senderId := p, paxosInstance := id, msg := r }).toList o :=
    .cons emits (.nil o)
  rcases step.acceptor_cases with ⟨asked, rfl, higher, rfl, promises, -⟩ |
    ⟨a, rfl, current, rfl, acks, -⟩ | ⟨still, -, no_promise, no_ack, -⟩
  · refine one ((if_pos rfl).mpr ⟨q, asked.ballot, .phase1a arrived, oracleBallot_lt higher, ?_⟩)
    rw [oracle_act (by simp), promises, Paxos.mk.injEq,
      oracleBallot_pos (Nat.lt_of_le_of_lt (Nat.zero_le _) higher)]
    exact ⟨rfl, Function.update_eq_self p _, Function.update_eq_self p _,
      adds_one fun _ => Iff.rfl⟩
  · refine one ((if_pos rfl).mpr
      ⟨q, a.ballot, a.command, .phase2a arrived, oracleBallot_le current, ?_⟩)
    rw [oracle_act (by simp), acks, Paxos.mk.injEq,
      oracleBallot_pos (proposals.owned k q _ _ arrived rfl).2]
    refine ⟨rfl, rfl, rfl, adds_one fun other => ⟨?_, ?_⟩⟩
    · rintro ⟨value, proposed, rfl⟩
      rw [proposals.single proposed ⟨k, q, a, arrived, rfl, rfl⟩]
    · rintro rfl
      exact ⟨a.command, ⟨k, q, a, arrived, rfl, rfl⟩, rfl⟩
  · have silent (no_accept : ∀ a, response ≠ some (.acceptMsg a))
        (others : ∀ m, ¬s.Adds id p response m) :
        (s.act id p after response events (insert (k, p) s.handled) s.placed).oracle id =
          s.oracle id := by
      rw [oracle_still still fun a _ _ _ new => absurd new (no_accept a)]
      simp only [others, or_false]
      rfl
    cases response with
    | none =>
      rw [silent (by simp) fun _ => not_false]
      exact .nil _
    | some reply =>
      refine one ((if_pos rfl).mpr ?_)
      cases reply with
      | prepareMsg m =>
        refine (oracle_still still (by simp)).trans ?_
        rw [adds_one fun _ => Iff.rfl]
      | acceptMsg a =>
        obtain ⟨w, m, state, rfl, same, reached, ballot, command⟩ := step.proposes
        have tally := counting.tallies p member
        have round := proposals.rounds p member
        have quorum := (identity.configured p member).proposer.quorumSize
        rw [state] at tally round quorum
        have unproposed {place r : Nat} {other : Accept C}
            (sent : s.Sent id place r (.acceptMsg other)) : other.ballot ≠ a.ballot :=
          ballot ▸ round.unproposed proposals sent
        have heard := tally.promise (t := { s with handled := insert (k, p) s.handled }) acceptors
          (identity.signed k q _ arrived trivial).1 arrived same unheard rfl
          (fun _ _ _ _ sent => sent)
        have quorum : w.quorumSize = quorumOf total := quorum
        obtain ⟨sent, many, value⟩ := heard.reports identity rfl (by dsimp only; omega) rfl
        refine ⟨?_, ⟨_, fun r listed => ?_, many, ?_⟩, ?_⟩
        · rintro ⟨sender, value, shown⟩
          obtain ⟨place, r, other, sent, same⟩ := Shows.sent shown
          exact unproposed sent same
        · exact ⟨(sent r listed).1, (sent r listed).2.trans ballot.symm⟩
        · rw [command]
          exact value
        · refine (oracle_still still fun other place r m new acked => ?_).trans ?_
          · obtain rfl := MessageKind.acceptMsg.inj (Option.some.inj new)
            obtain ⟨source, q', accept, accepted, same', -⟩ :=
              acceptors.acked place r m (identity.signed place r _ acked trivial).1 acked
            exact fun again => unproposed accepted (same'.trans again)
          · rw [adds_one fun _ => Iff.rfl]
      | promiseMsg m => exact absurd rfl (no_promise m)
      | ackAcceptMsg m => exact absurd rfl (no_ack m)
      | _ => exact silent (by simp) fun _ => not_false

theorem Step.emits {total id : Nat} {s t : Synod C} {event : Event C}
    (identity : Identity total id s) (proposals : Proposals total id s)
    (acceptors : Acceptors total id s) (counting : Counting total id s) (once : s.Once event)
    (ordinary : Ordinary event) (step : Step total id s event t) :
    ∃ msgs, t.sent = s.sent ++ msgs ∧ Behaves total id (s.oracle id) msgs (t.oracle id) := by
  cases step with
  | handle member arrived step =>
    exact ⟨_, rfl, handle_emits identity proposals acceptors counting member arrived once step⟩
  | @prepare p ballot cmd request member isFresh unopened residue positive =>
    refine ⟨_, rfl, .cons ((if_pos rfl).mpr ?_) (.nil _)⟩
    have still : (launched total p id
        (.proposal (wrapper total p ballot (ProposalState.new cmd)))).acceptor =
          (s.inst p).acceptor := by rw [isFresh, launched]
    refine (oracle_still still (by simp)).trans ?_
    rw [adds_one fun _ => Iff.rfl]
  | accept => exact ordinary.elim
  | @restart p member =>
    refine ⟨[], (List.append_nil _).symm, .same (by simp)
      (oracle_same (fun _ _ _ _ => Iff.rfl) fun a => ?_)⟩
    by_cases same : a = p
    · subst same
      simp
    · simp [same]
  | elsewhere others grows only outside away =>
    exact ⟨_, rfl, .same others
      (oracle_same (fun _ _ _ synod => sent_append synod others) fun _ => rfl)⟩

theorem steps_emit {rules : Rules} {total id : Nat} {s t : Synod C} (once : rules.once)
    (ordinary : rules.ordinary)
    (reachable : (system total id).Reachable (Obeys rules total id) s)
    (steps : (system total id).Steps (Obeys rules total id) s t) :
    ∃ msgs, t.sent = s.sent ++ msgs ∧ Behaves total id (s.oracle id) msgs (t.oracle id) := by
  induction steps with
  | refl => exact ⟨[], (List.append_nil _).symm, .nil _⟩
  | tail steps last ih =>
    obtain ⟨msgs, sent, behaves⟩ := ih
    obtain ⟨event, obeys, next⟩ := last
    have reached := reachable.steps steps
    have step : Step total id _ event _ := next
    obtain ⟨later, sent', behaves'⟩ := step.emits (identity_reachable reached)
      (proposals_reachable reached) (acceptors_reachable reached)
      (counting_reachable (fun _ _ obeys => obeys.1 once) reached) (obeys.1 once)
      (obeys.2.2 ordinary)
    exact ⟨msgs ++ later, by rw [sent', sent, List.append_assoc], behaves.append behaves'⟩

omit [DecidableEq C] [Serde Nat] [Serde (AcceptedValue C)] in
theorem Init.oracle {total id : Nat} {s : Synod C} (starts : Init total id s) :
    Paxos.Init (Finset.range total) (s.oracle id) where
  maxBal a member := congrArg (fun inst : PaxosInstance C => oracleBallot inst.acceptor.maxBallot)
    (starts.inst a (Finset.mem_range.mp member))
  maxVBal a member := congrArg (fun inst : PaxosInstance C => oracleVBal inst.acceptor.maxAccepted)
    (starts.inst a (Finset.mem_range.mp member))
  maxVal a member := by
    have fresh := congrArg (·.acceptor.maxAccepted) (starts.inst a (Finset.mem_range.mp member))
    exact congrArg (Option.map _) fresh
  msgs := by
    refine Set.eq_empty_iff_forall_notMem.mpr fun m shows => ?_
    have silent (k q : Nat) (message : MessageKind C) : ¬s.Sent id k q message := by
      simp [Sent, starts.sent]
    cases shows with
    | phase1a sent | phase1b sent | phase2a sent | phase2b sent => exact silent _ _ _ sent

omit [DecidableEq C] [Serde Nat] [Serde (AcceptedValue C)] in
theorem Emits.next {total id : Nat} {m : Message C} {s t : Paxos C} (emits : Emits total id m s t)
    (member : Relevant id m → m.senderId < total) :
    Paxos.Next (Finset.range total) (quorumOf total) s t ∨ t = s := by
  unfold Emits at emits
  split at emits
  next here =>
    have inside (synod : m.msg.IsSynod) : m.senderId ∈ Finset.range total :=
      Finset.mem_range.mpr (member ⟨here, synod⟩)
    split at emits
    next same => exact .inl (.phase1a _ _ (inside (by simp [same, MessageKind.IsSynod])) emits)
    next same => exact .inl (.phase1b _ (inside (by simp [same, MessageKind.IsSynod])) emits)
    next same => exact .inl (.phase2a _ _ _ (inside (by simp [same, MessageKind.IsSynod])) emits)
    next same => exact .inl (.phase2b _ (inside (by simp [same, MessageKind.IsSynod])) emits)
    next => exact .inr emits
  next => exact .inr emits

omit [DecidableEq C] [Serde Nat] [Serde (AcceptedValue C)] in
theorem Behaves.spec {total id : Nat} {msgs : List (Message C)} {s t : Paxos C}
    (behaves : Behaves total id s msgs t)
    (members : ∀ m ∈ msgs, Relevant id m → m.senderId < total)
    (reachable : (Paxos.spec (Finset.range total) (quorumOf total)).Reachable
      (fun _ _ => True) s) :
    (Paxos.spec (Finset.range total) (quorumOf total)).Reachable (fun _ _ => True) t := by
  induction behaves with
  | nil s => exact reachable
  | cons emits _ ih =>
    refine ih (fun m listed => members m (List.mem_cons_of_mem _ listed)) ?_
    exact .step (a := ()) reachable trivial (emits.next (members _ List.mem_cons_self))

theorem spec_reachable {rules : Rules} {total id : Nat} {s : Synod C} (once : rules.once)
    (ordinary : rules.ordinary)
    (reachable : (system total id).Reachable (Obeys rules total id) s) :
    (Paxos.spec (Finset.range total) (quorumOf total)).Reachable (fun _ _ => True)
      (s.oracle id) := by
  induction reachable with
  | init starts => exact .init (Init.oracle starts)
  | @step s t event before allowed next ih =>
    obtain ⟨msgs, sent, behaves⟩ := steps_emit once ordinary before
      (Run.System.Steps.one allowed next)
    have reached : (system total id).Reachable (Obeys rules total id) t :=
      .step before allowed next
    refine behaves.spec (fun m listed relevant => ?_) ih
    obtain ⟨k, found⟩ := List.mem_iff_getElem?.mp (sent ▸ List.mem_append_right _ listed)
    obtain ⟨sender, place, message⟩ := m
    obtain ⟨rfl, synod⟩ := relevant
    exact ((identity_reachable reached).signed k sender message found synod).1

end Synod

end Smr
