import Smr.Synod.Learning
import Smr.Synod.Oracle
import Smr.Tla.TraceData

set_option autoImplicit false

namespace Smr

variable {C : Type}

namespace TraceEvent

def record : TraceEvent C → TraceRecord
  | .phase1a nodeId _ ballot => ⟨.phase1a, nodeId, ballot⟩
  | .phase1b nodeId _ ballot _ _ _ => ⟨.phase1b, nodeId, ballot⟩
  | .nackPrepare nodeId _ ballot _ _ => ⟨.nackPrepare, nodeId, ballot⟩
  | .phase2a nodeId _ ballot _ => ⟨.phase2a, nodeId, ballot⟩
  | .phase2b nodeId _ ballot _ _ _ => ⟨.phase2b, nodeId, ballot⟩
  | .nackAccept nodeId _ ballot _ _ => ⟨.nackAccept, nodeId, ballot⟩
  | .learn nodeId _ ballot _ => ⟨.learn, nodeId, ballot⟩

theorem traceData_fields (debug : C → String) (events : List (TraceEvent C)) :
    traceData (events.map (fields debug)) = events.map record := by
  unfold traceData
  rw [List.map_map]
  refine List.map_congr_left fun event _ => ?_
  cases event <;> rfl

end TraceEvent

def recordsIn (id : Nat) (events : List (TraceEvent C)) : List TraceRecord :=
  (events.filter (·.instanceId = id)).map TraceEvent.record

@[simp] theorem recordsIn_append (id : Nat) (events more : List (TraceEvent C)) :
    recordsIn id (events ++ more) = recordsIn id events ++ recordsIn id more := by
  simp [recordsIn]

theorem recordsIn_outside {id : Nat} {events : List (TraceEvent C)}
    (outside : ∀ event ∈ events, event.instanceId ≠ id) : recordsIn id events = [] := by
  unfold recordsIn
  rw [List.filter_eq_nil_iff.mpr fun event member => by simpa using outside event member,
    List.map_nil]

namespace PaxosInstance

variable [Serde Nat] [Serde (AcceptedValue C)]

inductive Recorded (self : PaxosInstance C) (message : MessageKind C) (after : PaxosInstance C) :
    Option (MessageKind C) → List (TraceEvent C) → Prop where
  | promise (asked : Prepare) (same : message = .prepareMsg asked)
      (higher : self.acceptor.maxBallot < asked.ballot)
      (moved : after.acceptor.maxBallot = asked.ballot) :
      Recorded self message after
        (some (.promiseMsg ⟨self.acceptor.myId, asked.ballot, self.acceptor.maxAccepted⟩))
        [.phase1b self.acceptor.myId self.instanceId asked.ballot asked.sender asked.ballot
          self.acceptor.maxAccepted]
  | ackAccept (a : Accept C) (same : message = .acceptMsg a)
      (current : self.acceptor.maxBallot ≤ a.ballot)
      (moved : after.acceptor.maxBallot = a.ballot) :
      Recorded self message after (some (.ackAcceptMsg ⟨self.acceptor.myId, a.ballot⟩))
        [.phase2b self.acceptor.myId self.instanceId a.ballot a.sender a.ballot
          { ballot := a.ballot, command := a.command }]
  | propose (a : Accept C) (still : after.acceptor = self.acceptor) :
      Recorded self message after (some (.acceptMsg a))
        [.phase2a self.acceptor.myId self.instanceId a.ballot a.command]
  | quiet {response : Option (MessageKind C)} {events : List (TraceEvent C)}
      (still : after.acceptor = self.acceptor)
      (no_promise : ∀ m, response ≠ some (.promiseMsg m))
      (no_accept : ∀ a, response ≠ some (.acceptMsg a))
      (silent : ∀ event ∈ events, event.record.action = .nackPrepare ∨
        event.record.action = .nackAccept ∨ event.record.action = .learn) :
      Recorded self message after response events

theorem Step.recorded [DecidableEq C] {self after : PaxosInstance C}
    {storage kept : Option (PaxosStorage C)} {message : MessageKind C}
    {response : Option (MessageKind C)} {events : List (TraceEvent C)}
    (step : self.Step storage message response after kept events) :
    self.Recorded message after response events := by
  cases step with
  | promise asked kept higher saved => exact .promise asked rfl higher rfl
  | nackPrepare asked lower =>
    exact .quiet rfl (by simp) (by simp) (by simp [TraceEvent.record])
  | ackAccept a kept current saved => exact .ackAccept a rfl current rfl
  | nackAccept a stale => exact .quiet rfl (by simp) (by simp) (by simp [TraceEvent.record])
  | learn m learner reply heard =>
    refine .quiet rfl (fun _ told => ?_) (fun _ told => ?_) fun event traced => ?_
    · simpa using (echo_some told).2
    · simpa using (echo_some told).2
    · unfold learnTrace at traced
      split at traced
      · rw [List.mem_singleton.mp traced]
        exact .inr (.inr rfl)
      · simp at traced
  | proposer message response next addressed asked =>
    generalize self.proposer.innerState = current at asked
    cases asked with
    | quorum w m value same reached chosen => exact .propose _ rfl
    | request => exact addressed.elim
    | ignored =>
      refine .quiet rfl (by simp) (by simp) fun event traced => ?_
      cases message <;> simp [proposerTrace] at traced
    | _ => exact .quiet rfl (by simp) (by simp) (by simp [proposerTrace])
  | ignored cmd => exact .quiet rfl (by simp) (by simp) (by simp)

end PaxosInstance

namespace Replay

variable {quorum : Nat} {r : Replay} {records : List TraceRecord}

theorem mem_asked {b : Nat} :
    b ∈ (start.takeAll records).asked ↔ ∃ p, ⟨.phase1a, p, b⟩ ∈ records := by
  induction records using List.reverseRecOn with
  | nil => simp [takeAll, start]
  | append_singleton records evt ih =>
    obtain ⟨action, a, b'⟩ := evt
    rw [takeAll_concat]
    cases action with
    | phase1a =>
      simp only [take, List.mem_cons, ih, List.mem_append, List.not_mem_nil, or_false,
        TraceRecord.mk.injEq, true_and]
      constructor
      · rintro (rfl | ⟨p, member⟩)
        · exact ⟨a, .inr ⟨rfl, rfl⟩⟩
        · exact ⟨p, .inl member⟩
      · rintro ⟨p, member | ⟨-, rfl⟩⟩
        · exact .inr ⟨p, member⟩
        · exact .inl rfl
    | _ => simpa [take] using ih

theorem takeAll_append (self : Replay) (records more : List TraceRecord) :
    self.takeAll (records ++ more) = (self.takeAll records).takeAll more :=
  List.foldl_append

theorem takeAll_quiet (quorum : Nat) (self : Replay)
    (quiet : ∀ evt ∈ records, evt.action = .nackPrepare ∨ evt.action = .nackAccept ∨
      evt.action = .learn) :
    self.takeAll records = self ∧ self.admitsAll quorum records = true := by
  induction records with
  | nil => exact ⟨rfl, rfl⟩
  | cons evt rest ih =>
    obtain ⟨same, admitted⟩ := ih fun other member => quiet other (List.mem_cons_of_mem _ member)
    have still : self.take evt = self ∧ self.admits quorum evt = true := by
      rcases quiet evt List.mem_cons_self with action | action | action <;>
        simp [take, admits, action]
    unfold admitsAll takeAll
    rw [List.foldl_cons, still.1, still.2, admitted]
    exact ⟨same, rfl⟩

theorem admitsAll_announced (whole : start.admitsAll quorum records = true) {a b : Nat}
    (promised : ⟨.phase1b, a, b⟩ ∈ records) : ∃ p, ⟨.phase1a, p, b⟩ ∈ records := by
  obtain ⟨before, after, rfl⟩ := List.append_of_mem promised
  have here := ((admitsAll_append ..).mp whole).2
  rw [admitsAll, Bool.and_eq_true] at here
  have admitted := here.1
  simp only [admits, Bool.decide_and, Bool.and_eq_true, decide_eq_true_eq] at admitted
  obtain ⟨p, member⟩ := mem_asked.mp admitted.1
  exact ⟨p, List.mem_append_left _ member⟩

def proposals (records : List TraceRecord) : List Nat :=
  (records.filter (·.action = .phase2a)).map (·.ballot)

theorem proposals_append (records more : List TraceRecord) :
    proposals (records ++ more) = proposals records ++ proposals more := by
  simp [proposals]

theorem admitsAll_proposals {self : Replay} (whole : self.admitsAll quorum records = true) :
    (proposals records).Nodup ∧ ∀ b ∈ proposals records, b ∉ self.proposed := by
  induction records generalizing self with
  | nil => exact ⟨List.nodup_nil, by simp [proposals]⟩
  | cons evt rest ih =>
    obtain ⟨action, a, b⟩ := evt
    rw [admitsAll, Bool.and_eq_true] at whole
    obtain ⟨admitted, later⟩ := whole
    obtain ⟨distinct, unproposed⟩ := ih later
    cases action with
    | phase2a =>
      simp only [admits, Bool.decide_and, Bool.and_eq_true, decide_eq_true_eq] at admitted
      have apart : b ∉ proposals rest := fun again => unproposed b again List.mem_cons_self
      refine ⟨List.nodup_cons.mpr ⟨apart, distinct⟩, fun c listed => ?_⟩
      rcases List.mem_cons.mp listed with rfl | again
      · exact admitted.1
      · exact fun known => unproposed c again (List.mem_cons_of_mem _ known)
    | _ => exact ⟨distinct, unproposed⟩

end Replay

namespace Synod

def Announced (s : Synod C) (id ballot : Nat) : Prop :=
  ∃ p, .phase1a p id ballot ∈ s.trace

theorem mem_recordsIn_phase1a {s : Synod C} {id ballot p : Nat} :
    ⟨.phase1a, p, ballot⟩ ∈ recordsIn id s.trace ↔ .phase1a p id ballot ∈ s.trace := by
  unfold recordsIn
  rw [List.mem_map]
  constructor
  · rintro ⟨event, member, same⟩
    obtain ⟨listed, here⟩ := List.mem_filter.mp member
    cases event with
    | phase1a p' id' b' =>
      simp only [TraceEvent.record, TraceRecord.mk.injEq, true_and] at same
      obtain ⟨rfl, rfl⟩ := same
      obtain rfl : id' = id := of_decide_eq_true here
      exact listed
    | _ => simp [TraceEvent.record] at same
  · intro listed
    exact ⟨_, List.mem_filter.mpr ⟨listed, by simp [TraceEvent.instanceId]⟩, rfl⟩

def replay (s : Synod C) (id : Nat) : Replay :=
  Replay.start.takeAll (recordsIn id s.trace)

theorem mem_replay_asked {s : Synod C} {id ballot : Nat} :
    ballot ∈ (s.replay id).asked ↔ s.Announced id ballot := by
  unfold replay Announced
  rw [Replay.mem_asked]
  simp only [mem_recordsIn_phase1a]

structure Replayed (total id : Nat) (s : Synod C) : Prop where
  maxBal : ∀ a < total, (s.replay id).maxBal a = oracleBallot (s.inst a).acceptor.maxBallot
  promised : ∀ k a m, s.Sent id k a (.promiseMsg m) → (a, m.ballot) ∈ (s.replay id).promised
  proposed : ∀ b, b ∈ (s.replay id).proposed ↔ ∃ value, s.Proposed id b value
  prepared : ∀ a b, ⟨.phase1b, a, b⟩ ∈ recordsIn id s.trace → s.Prepared id b

-- All that keeps the events of an instance from conforming is a promise of a ballot that no
-- event announced.
def Conforms (quorum id : Nat) (s : Synod C) : Prop :=
  (∀ a b, ⟨.phase1b, a, b⟩ ∈ recordsIn id s.trace → s.Announced id b) →
    conforms quorum (recordsIn id s.trace) = true

section Lemmas

variable {quorum total id p : Nat} {s t : Synod C} {events : List (TraceEvent C)}

theorem replay_append (id : Nat) (traced : t.trace = s.trace ++ events) :
    recordsIn id t.trace = recordsIn id s.trace ++ recordsIn id events ∧
      t.replay id = (s.replay id).takeAll (recordsIn id events) := by
  unfold replay
  rw [traced, recordsIn_append, Replay.takeAll_append]
  exact ⟨rfl, rfl⟩

theorem Conforms.append (earlier : s.Conforms quorum id) (traced : t.trace = s.trace ++ events)
    (unannounced : ∀ b, t.Announced id b → s.Announced id b)
    (admitted : (∀ a b, ⟨.phase1b, a, b⟩ ∈ recordsIn id events → s.Announced id b) →
      (s.replay id).admitsAll quorum (recordsIn id events) = true) : t.Conforms quorum id := by
  intro announced
  rw [(replay_append id traced).1] at announced ⊢
  refine (Replay.admitsAll_append ..).mpr ⟨earlier fun a b promised => ?_,
    admitted fun a b promised => ?_⟩
  · exact unannounced b (announced a b (List.mem_append_left _ promised))
  · exact unannounced b (announced a b (List.mem_append_right _ promised))

theorem Replayed.same (replayed : Replayed total id s) (traced : t.trace = s.trace ++ events)
    (quiet : recordsIn id events = []) (still : ∀ a, (t.inst a).acceptor = (s.inst a).acceptor)
    (sent : ∀ k q message, message.IsSynod → (t.Sent id k q message ↔ s.Sent id k q message)) :
    Replayed total id t := by
  obtain ⟨records, whole⟩ := replay_append id traced
  rw [quiet] at records whole
  rw [List.append_nil] at records
  replace whole : t.replay id = s.replay id := whole
  exact
    { maxBal := fun a member => by rw [whole, still, replayed.maxBal a member]
      promised := fun k a m told => whole ▸ replayed.promised k a m
        ((sent k a (.promiseMsg m) trivial).mp told)
      proposed := fun b => by
        rw [whole, replayed.proposed]
        refine exists_congr fun value => ⟨fun known => ?_, fun known => ?_⟩
        · exact known.mono fun k q message synod => (sent k q message synod).mpr
        · exact known.mono fun k q message synod => (sent k q message synod).mp
      prepared := fun a b promised => by
        obtain ⟨k, q, m, told, same⟩ := replayed.prepared a b (records ▸ promised)
        exact ⟨k, q, m, (sent k q (.prepareMsg m) trivial).mpr told, same⟩ }

theorem prepared_kept {after : PaxosInstance C} {response : Option (MessageKind C)}
    {handled : Set (Nat × Nat)} {placed : List (Placement C)} {b : Nat}
    (prepared : s.Prepared id b) :
    (s.act id p after response events handled placed).Prepared id b := by
  obtain ⟨k, q, m, told, same⟩ := prepared
  exact ⟨k, q, m, sent_act.mpr (.inl told), same⟩

theorem proposed_same {after : PaxosInstance C} {response : Option (MessageKind C)}
    {handled : Set (Nat × Nat)} {placed : List (Placement C)}
    (no_accept : ∀ a, response ≠ some (.acceptMsg a)) (b : Nat) :
    (∃ value, (s.act id p after response events handled placed).Proposed id b value) ↔
      ∃ value, s.Proposed id b value := by
  refine exists_congr fun value => ⟨fun proposed => ?_, fun proposed => ?_⟩
  · rcases proposed_act proposed with old | ⟨a, new, -⟩
    · exact old
    · exact absurd new (no_accept a)
  · exact proposed.mono fun _ _ _ _ told => sent_act.mpr (.inl told)

theorem Replayed.act [Serde Nat] [Serde (AcceptedValue C)] (identity : Identity total id s)
    (proposals : Proposals total id s) (replayed : Replayed total id s) (member : p < total)
    {k q : Nat} {message : MessageKind C} {response : Option (MessageKind C)}
    {after : PaxosInstance C} (arrived : s.Sent id k q message)
    (recorded : (s.inst p).Recorded message after response events) (handled : Set (Nat × Nat)) :
    Replayed total id (s.act id p after response events handled s.placed) := by
  obtain ⟨records, whole⟩ := replay_append id
    (show (s.act id p after response events handled s.placed).trace = s.trace ++ events from rfl)
  have here := (identity.configured p member).instanceId
  have own := (identity.configured p member).acceptor
  have acceptor (a : Nat) (other : a ≠ p) :
      ((s.act id p after response events handled s.placed).inst a).acceptor =
        (s.inst a).acceptor := congrArg _ (act_inst_other other)
  have moved {b : Nat} (promises : after.acceptor.maxBallot = b) (positive : 0 < b) (a : Nat)
      (inside : a < total) : Function.update (s.replay id).maxBal p (b : Int) a =
        oracleBallot ((s.act id p after response events handled s.placed).inst
          a).acceptor.maxBallot := by
    by_cases same : a = p
    · subst same
      rw [act_inst_self, promises, oracleBallot_pos positive, Function.update_self]
    · rw [acceptor a same, Function.update_of_ne same, replayed.maxBal a inside]
  have kept (still : after.acceptor = (s.inst p).acceptor) (a : Nat) :
      ((s.act id p after response events handled s.placed).inst a).acceptor =
        (s.inst a).acceptor := by
    by_cases same : a = p
    · subst same
      rw [act_inst_self, still]
    · exact acceptor a same
  have older (event : TraceEvent C) {b : Nat} (one : recordsIn id events = [event.record])
      (other : event.record.action ≠ .phase1b) (a : Nat) (promised : ⟨.phase1b, a, b⟩ ∈
        recordsIn id (s.act id p after response events handled s.placed).trace) :
      (s.act id p after response events handled s.placed).Prepared id b := by
    rw [records, one] at promised
    rcases List.mem_append.mp promised with old | new
    · exact prepared_kept (replayed.prepared a b old)
    · exact absurd (congrArg TraceRecord.action (List.mem_singleton.mp new)).symm other
  cases recorded with
  | promise asked same higher promises =>
    subst same
    have one : recordsIn id [TraceEvent.phase1b (s.inst p).acceptor.myId (s.inst p).instanceId
        asked.ballot asked.sender asked.ballot (s.inst p).acceptor.maxAccepted] =
          [⟨.phase1b, p, asked.ballot⟩] := by
      simp [recordsIn, TraceEvent.instanceId, TraceEvent.record, here, own]
    rw [one] at records whole
    exact
      { maxBal := fun a inside => by
          rw [whole]
          exact moved promises (Nat.lt_of_le_of_lt (Nat.zero_le _) higher) a inside
        promised := fun k' a m told => by
          rw [whole]
          rcases sent_act.mp told with old | ⟨-, rfl, new⟩
          · exact List.mem_cons_of_mem _ (replayed.promised k' a m old)
          · obtain rfl := MessageKind.promiseMsg.inj (Option.some.inj new)
            exact List.mem_cons_self
        proposed := fun b => by
          rw [whole]
          exact (replayed.proposed b).trans (proposed_same (by simp) b).symm
        prepared := fun a b promised => by
          rw [records] at promised
          rcases List.mem_append.mp promised with old | new
          · exact prepared_kept (replayed.prepared a b old)
          · obtain ⟨-, rfl, rfl⟩ := TraceRecord.mk.inj (List.mem_singleton.mp new)
            exact prepared_kept ⟨k, q, asked, arrived, rfl⟩ }
  | ackAccept a same current promises =>
    subst same
    have one : recordsIn id [TraceEvent.phase2b (s.inst p).acceptor.myId (s.inst p).instanceId
        a.ballot a.sender a.ballot { ballot := a.ballot, command := a.command }] =
          [⟨.phase2b, p, a.ballot⟩] := by
      simp [recordsIn, TraceEvent.instanceId, TraceEvent.record, here, own]
    rw [one] at records whole
    exact
      { maxBal := fun c inside => by
          rw [whole]
          exact moved promises (proposals.owned k q _ _ arrived rfl).2 c inside
        promised := fun k' c m told => by
          rw [whole]
          exact replayed.promised k' c m
            ((sent_act.mp told).resolve_right fun new => by simp at new)
        proposed := fun b => by
          rw [whole]
          exact (replayed.proposed b).trans (proposed_same (by simp) b).symm
        prepared := fun c b promised =>
          older (.phase2b p id a.ballot a.sender a.ballot ⟨a.ballot, a.command⟩) one
            (by simp [TraceEvent.record]) c promised }
  | propose a still =>
    have one : recordsIn id [TraceEvent.phase2a (s.inst p).acceptor.myId (s.inst p).instanceId
        a.ballot a.command] = [⟨.phase2a, p, a.ballot⟩] := by
      simp [recordsIn, TraceEvent.instanceId, TraceEvent.record, here, own]
    rw [one] at records whole
    exact
      { maxBal := fun c inside => by
          rw [whole, kept still]
          exact replayed.maxBal c inside
        promised := fun k' c m told => by
          rw [whole]
          exact replayed.promised k' c m
            ((sent_act.mp told).resolve_right fun new => by simp at new)
        proposed := fun b => by
          have opened : b ∈ ((s.replay id).takeAll [⟨.phase2a, p, a.ballot⟩]).proposed ↔
              b = a.ballot ∨ b ∈ (s.replay id).proposed := List.mem_cons
          rw [whole, opened, replayed.proposed]
          constructor
          · rintro (rfl | ⟨value, known⟩)
            · exact ⟨a.command, _, p, a, sent_act.mpr (.inr ⟨rfl, rfl, rfl⟩), rfl, rfl⟩
            · exact ⟨value, known.mono fun _ _ _ _ told => sent_act.mpr (.inl told)⟩
          · rintro ⟨value, known⟩
            rcases proposed_act known with old | ⟨other, new, same, -⟩
            · exact .inr ⟨value, old⟩
            · obtain rfl := MessageKind.acceptMsg.inj (Option.some.inj new)
              exact .inl same.symm
        prepared := fun c b promised => older (.phase2a p id a.ballot a.command) one
          (by simp [TraceEvent.record]) c promised }
  | quiet still no_promise no_accept silent =>
    have quiet : ∀ evt ∈ recordsIn id events, evt.action = .nackPrepare ∨
        evt.action = .nackAccept ∨ evt.action = .learn := by
      intro evt listed
      obtain ⟨event, member, rfl⟩ := List.mem_map.mp listed
      exact silent event (List.mem_of_mem_filter member)
    rw [(Replay.takeAll_quiet 0 (s.replay id) quiet).1] at whole
    exact
      { maxBal := fun c inside => by
          rw [whole, kept still]
          exact replayed.maxBal c inside
        promised := fun k' c m told => by
          rw [whole]
          exact replayed.promised k' c m
            ((sent_act.mp told).resolve_right fun new => no_promise m new.2.2)
        proposed := fun b => by
          rw [whole]
          exact (replayed.proposed b).trans (proposed_same no_accept b).symm
        prepared := fun c b promised => by
          rw [records] at promised
          rcases List.mem_append.mp promised with old | new
          · exact prepared_kept (replayed.prepared c b old)
          · rcases quiet _ new with action | action | action <;> simp at action }

theorem unannounced [Serde Nat] [Serde (AcceptedValue C)] {self after : PaxosInstance C}
    {message : MessageKind C} {response : Option (MessageKind C)}
    (recorded : self.Recorded message after response events) (a b : Nat) :
    .phase1a a id b ∉ events := by
  intro traced
  cases recorded with
  | promise | ackAccept | propose => simp at traced
  | quiet still no_promise no_accept silent =>
    rcases silent _ traced with action | action | action <;> simp [TraceEvent.record] at action

end Lemmas

section Runs

variable [DecidableEq C] [Serde Nat] [Serde (AcceptedValue C)]
variable {quorum total id p : Nat} {s t : Synod C}

theorem Conforms.handle (few : quorum ≤ quorumOf total) (identity : Identity total id s)
    (proposals : Proposals total id s) (acceptors : Acceptors total id s)
    (counting : Counting total id s) (replayed : Replayed total id s)
    (earlier : s.Conforms quorum id) {k q : Nat} {message : MessageKind C}
    {response : Option (MessageKind C)} {after : PaxosInstance C}
    {storage kept : Option (PaxosStorage C)} {events : List (TraceEvent C)} (member : p < total)
    (arrived : s.Sent id k q message) (unheard : (k, p) ∉ s.handled)
    (step : (s.inst p).Step storage message response after kept events)
    (handled : Set (Nat × Nat)) :
    (s.act id p after response events handled s.placed).Conforms quorum id := by
  have recorded := step.recorded
  refine earlier.append (show (s.act id p after response events handled s.placed).trace =
    s.trace ++ events from rfl) (fun b announced => ?_) fun announced => ?_
  · obtain ⟨a, traced⟩ := announced
    exact ⟨a, (List.mem_append.mp traced).resolve_right (unannounced recorded a b)⟩
  have here := (identity.configured p member).instanceId
  have own := (identity.configured p member).acceptor
  have bound := replayed.maxBal p member
  cases recorded with
  | promise asked same higher moved =>
    have one : recordsIn id [TraceEvent.phase1b (s.inst p).acceptor.myId (s.inst p).instanceId
        asked.ballot asked.sender asked.ballot (s.inst p).acceptor.maxAccepted] =
          [⟨.phase1b, p, asked.ballot⟩] := by
      simp [recordsIn, TraceEvent.instanceId, TraceEvent.record, here, own]
    rw [one] at announced ⊢
    have known := mem_replay_asked.mpr (announced p asked.ballot List.mem_cons_self)
    simpa [Replay.admitsAll, Replay.admits, bound] using ⟨known, oracleBallot_lt higher⟩
  | ackAccept a same current moved =>
    subst same
    have one : recordsIn id [TraceEvent.phase2b (s.inst p).acceptor.myId (s.inst p).instanceId
        a.ballot a.sender a.ballot { ballot := a.ballot, command := a.command }] =
          [⟨.phase2b, p, a.ballot⟩] := by
      simp [recordsIn, TraceEvent.instanceId, TraceEvent.record, here, own]
    rw [one]
    have known := (replayed.proposed a.ballot).mpr ⟨a.command, k, q, a, arrived, rfl, rfl⟩
    simpa [Replay.admitsAll, Replay.admits, bound] using ⟨known, oracleBallot_le current⟩
  | propose a still =>
    have one : recordsIn id [TraceEvent.phase2a (s.inst p).acceptor.myId (s.inst p).instanceId
        a.ballot a.command] = [⟨.phase2a, p, a.ballot⟩] := by
      simp [recordsIn, TraceEvent.instanceId, TraceEvent.record, here, own]
    rw [one]
    obtain ⟨w, m, state, rfl, same, reached, ballot, command⟩ := step.proposes
    have tally := counting.tallies p member
    have round := proposals.rounds p member
    have size : w.quorumSize = quorumOf total := by
      have configured := (identity.configured p member).proposer.quorumSize
      rw [state] at configured
      exact configured
    rw [state] at tally round
    have fresh : a.ballot ∉ (s.replay id).proposed := by
      rw [replayed.proposed]
      rintro ⟨value, place, r, other, sent, same', -⟩
      exact round.unproposed proposals sent (same'.trans ballot)
    obtain ⟨⟨voters, card, -, heard⟩, -⟩ := tally.promise
      (t := { s with handled := insert (k, p) s.handled }) acceptors
      (identity.signed k q _ arrived trivial).1 arrived same unheard rfl (fun _ _ _ _ sent => sent)
    have inside : voters ⊆ (s.replay id).promisers a.ballot := by
      intro c listed
      obtain ⟨place, other, sent, same', -⟩ := heard c listed
      have told := replayed.promised place c other sent
      rw [same'] at told
      exact Replay.mem_promisers.mpr (ballot ▸ told)
    have many : quorum ≤ ((s.replay id).promisers a.ballot).card := by
      refine Nat.le_trans ?_ (Finset.card_le_card inside)
      rw [card]
      dsimp only
      omega
    simpa [Replay.admitsAll, Replay.admits] using ⟨fresh, many⟩
  | quiet still no_promise no_accept silent =>
    refine (Replay.takeAll_quiet quorum (s.replay id) fun evt listed => ?_).2
    obtain ⟨event, member, rfl⟩ := List.mem_map.mp listed
    exact silent event (List.mem_of_mem_filter member)

omit [DecidableEq C] [Serde Nat] [Serde (AcceptedValue C)] in
theorem Conforms.prepare {ballot : Nat} {placed : List (Placement C)}
    (proposals : Proposals total id s) (replayed : Replayed total id s)
    (earlier : s.Conforms quorum id) (unopened : s.Unopened id p)
    (residue : ballot % total = p) (after : PaxosInstance C) :
    (s.act id p after (some (.prepareMsg { sender := p, ballot := ballot }))
      [.phase1a p id ballot] s.handled placed).Conforms quorum id := by
  have one : recordsIn id [(.phase1a p id ballot : TraceEvent C)] = [⟨.phase1a, p, ballot⟩] := by
    simp [recordsIn, TraceEvent.instanceId, TraceEvent.record]
  obtain ⟨records, -⟩ := replay_append id
    (show (s.act id p after (some (.prepareMsg { sender := p, ballot := ballot }))
      [.phase1a p id ballot] s.handled placed).trace = s.trace ++ [.phase1a p id ballot] from rfl)
  intro announced
  rw [records, one] at announced ⊢
  refine (Replay.admitsAll_concat ..).mpr ⟨earlier fun a b promised => ?_, rfl⟩
  obtain ⟨c, traced⟩ := announced a b (List.mem_append_left _ promised)
  rcases List.mem_append.mp traced with old | new
  · exact ⟨c, old⟩
  · -- Nobody promises what is not asked for yet.
    obtain ⟨-, -, rfl⟩ := TraceEvent.phase1a.inj (List.mem_singleton.mp new)
    obtain ⟨k, q, m, told, same⟩ := replayed.prepared a b promised
    have mine : q = p := by
      rw [← (proposals.owned k q _ _ told rfl).1, same, residue]
    exact absurd (unopened k _ (mine ▸ told)) (by simp [MessageKind.asks])

theorem Step.conforms {event : Event C} (few : quorum ≤ quorumOf total)
    (identity : Identity total id s) (proposals : Proposals total id s)
    (acceptors : Acceptors total id s) (counting : Counting total id s) (once : s.Once event)
    (ordinary : Ordinary event) (step : Step total id s event t) (replayed : Replayed total id s)
    (earlier : s.Conforms quorum id) : Replayed total id t ∧ t.Conforms quorum id := by
  cases step with
  | handle member arrived step =>
    exact ⟨replayed.act identity proposals member arrived step.recorded _,
      earlier.handle few identity proposals acceptors counting replayed member arrived once step _⟩
  | @prepare p ballot cmd request member isFresh unopened residue positive =>
    refine ⟨?_, earlier.prepare proposals replayed unopened residue _⟩
    have one : recordsIn id [(.phase1a p id ballot : TraceEvent C)] =
        [⟨.phase1a, p, ballot⟩] := by
      simp [recordsIn, TraceEvent.instanceId, TraceEvent.record]
    set after := launched total p id (.proposal (wrapper total p ballot (ProposalState.new cmd)))
      with launching
    have still (a : Nat) : ((s.act id p after (some (.prepareMsg { sender := p, ballot := ballot }))
        [.phase1a p id ballot] s.handled (s.placed ++ [⟨p, id, cmd, request⟩])).inst a).acceptor =
          (s.inst a).acceptor := by
      by_cases same : a = p
      · rw [same, act_inst_self, isFresh, launching, launched]
      · exact congrArg _ (act_inst_other same)
    obtain ⟨records, whole⟩ := replay_append id
      (show (s.act id p after (some (.prepareMsg { sender := p, ballot := ballot }))
        [.phase1a p id ballot] s.handled (s.placed ++ [⟨p, id, cmd, request⟩])).trace =
          s.trace ++ [.phase1a p id ballot] from rfl)
    rw [one] at records whole
    exact
      { maxBal := fun a inside => by
          rw [whole, still]
          exact replayed.maxBal a inside
        promised := fun k a m told => by
          rw [whole]
          exact replayed.promised k a m
            ((sent_act.mp told).resolve_right fun new => by simp at new)
        proposed := fun b => by
          rw [whole]
          exact (replayed.proposed b).trans (proposed_same (by simp) b).symm
        prepared := fun a b promised => by
          rw [records] at promised
          rcases List.mem_append.mp promised with old | new
          · exact prepared_kept (replayed.prepared a b old)
          · simp at new }
  | accept => exact ordinary.elim
  | @restart p member =>
    have nothing : recordsIn id ([] : List (TraceEvent C)) = [] := rfl
    refine ⟨replayed.same (List.append_nil _).symm nothing (fun a => ?_)
      fun _ _ _ _ => Iff.rfl, earlier⟩
    by_cases same : a = p
    · subst same
      simp
    · simp [same]
  | @elsewhere msgs handled events placed others grows only outside away =>
    have nothing := recordsIn_outside outside
    refine ⟨replayed.same rfl nothing (fun _ => rfl) fun _ _ _ synod => sent_append synod others,
      earlier.append rfl (fun b announced => ?_) fun _ => nothing ▸ rfl⟩
    obtain ⟨a, traced⟩ := announced
    refine ⟨a, (List.mem_append.mp traced).resolve_right fun new => ?_⟩
    exact outside _ new rfl

theorem conforms_reachable {rules : Rules} (few : quorum ≤ quorumOf total) (once : rules.once)
    (ordinary : rules.ordinary)
    (reachable : (system total id).Reachable (Obeys rules total id) s) :
    Replayed total id s ∧ s.Conforms quorum id := by
  refine reachable.invariant (fun s => Replayed total id s ∧ s.Conforms quorum id)
    (fun s starts => ?_) fun s event t before ⟨replayed, earlier⟩ obeys step => ?_
  · have silent (k q : Nat) (message : MessageKind C) : ¬s.Sent id k q message := by
      simp [Sent, starts.sent]
    have nothing : recordsIn id s.trace = [] := by
      rw [starts.trace]
      rfl
    have whole : s.replay id = Replay.start := by
      rw [replay, nothing]
      rfl
    refine ⟨⟨fun a member => ?_, fun k a m told => ?_, fun b => ?_, fun a b promised => ?_⟩,
      fun _ => ?_⟩
    · rw [whole, starts.inst a member]
      rfl
    · exact absurd told (silent _ _ _)
    · rw [whole]
      refine ⟨fun known => absurd known List.not_mem_nil, ?_⟩
      rintro ⟨value, k, q, a, told, -⟩
      exact absurd told (silent _ _ _)
    · rw [nothing] at promised
      exact absurd promised List.not_mem_nil
    · rw [nothing]
      rfl
  · exact Step.conforms few (identity_reachable before) (proposals_reachable before)
      (acceptors_reachable before) (counting_reachable (fun _ _ obeys => obeys.1 once) before)
      (obeys.1 once) (obeys.2.2 ordinary) step replayed earlier

end Runs

end Synod

end Smr
