import Smr.Cluster.Leadership
import Smr.Cluster.Oracle
import Smr.Synod.Openings
import Smr.Synod.Replays

set_option autoImplicit false

namespace Smr

variable {C : Type}

theorem TraceEvent.fields_names (debug : C → String) (event : TraceEvent C) :
    (event.fields debug).nodeId = event.nodeId ∧ (event.fields debug).sender = event.sender := by
  cases event <;> exact ⟨rfl, rfl⟩

theorem Constants.Covers.events {constants : Constants} (debug : C → String)
    {events : List (TraceEvent C)}
    (covers : constants.Covers (traceData (events.map (TraceEvent.fields debug)))) :
    constants.Tlc (traceData (events.map (TraceEvent.fields debug))) ↔
      conforms constants.quorum (events.map TraceEvent.record) = true := by
  rw [covers.tlc, TraceEvent.traceData_fields]

theorem Constants.Covers.fewer {constants : Constants} {records fewer : List TraceRecord}
    (covers : constants.Covers records) (inside : fewer ⊆ records) : constants.Covers fewer :=
  { covers with members := fun evt listed => covers.members evt (inside listed) }

section Runs

variable [DecidableEq C] [Serde Nat] [Serde (AcceptedValue C)]

-- A cascade opens no round: the proposer's retries are not traced.
theorem PaxosInstance.Cascade.unannounced {self after : PaxosInstance C}
    {storage kept : Option (PaxosStorage C)} {message : MessageKind C}
    {responses : List (MessageKind C)} {events : List (TraceEvent C)}
    (cascade : Cascade self storage message responses after kept events) :
    ∀ event ∈ events, event.record.action ≠ .phase1a := by
  have silent {self after : PaxosInstance C} {message : MessageKind C}
      {response : Option (MessageKind C)} {events : List (TraceEvent C)}
      (recorded : self.Recorded message after response events) :
      ∀ event ∈ events, event.record.action ≠ .phase1a := by
    cases recorded with
    | quiet still no_promise no_accept silent =>
      intro event traced
      rcases silent event traced with action | action | action <;> simp [action]
    | _ => simp [TraceEvent.record]
  induction cascade with
  | last step => exact silent step.recorded
  | more step _ ih =>
    intro event traced
    rcases List.mem_append.mp traced with now | later
    · exact silent step.recorded event now
    · exact ih event later

namespace MultiPaxosNode

theorem Starts.announces {total p : Nat} {node after : MultiPaxosNode C} {cmd : C}
    {msgs : List (Message C)} {events : List (TraceEvent C)} (member : p < total)
    (sound : Sound total p node) (starts : node.Starts cmd msgs after events) :
    ∀ q id ballot, .phase1a q id ballot ∈ events → ballot / total = 1 := by
  intro q id ballot announced
  cases starts with
  | intro first inst result responses kept events bounded several opens cascade =>
    rcases List.mem_append.mp announced with opening | later
    · cases opens with
      | prepare unled positive fits =>
        obtain ⟨-, -, rfl⟩ := TraceEvent.phase1a.inj (List.mem_singleton.mp opening)
        unfold firstBallot
        rw [sound.config, sound.id]
        show ((p / total + 1) * total + p) / total = 1
        rw [Nat.div_eq_of_lt member, Nat.div_eq_iff (by omega)]
        omega
      | accept ballot leads => simp [firstTrace] at opening
    · exact absurd rfl (cascade.unannounced _ later)

end MultiPaxosNode

namespace Cluster

def Announces (total : Nat) (s : Cluster C) : Prop :=
  ∀ q id ballot, .phase1a q id ballot ∈ s.trace → ballot / total = 1

theorem Announces.step {rules : Synod.Rules} {total : Nat} {s t : Cluster C} {a : Action C}
    (refines : Refines rules total s) (announces : Announces total s) (moves : Moves total s a t) :
    Announces total t := by
  have grows {p : Nat} {node : MultiPaxosNode C} {msgs : List (Message C)}
      {events : List (TraceEvent C)} {heard : List (Nat × Nat)} {calls : List (Nat × C)}
      {placed : List (Placement C)}
      (new : ∀ q id ballot, .phase1a q id ballot ∈ events → ballot / total = 1) :
      Announces total (s.called p node msgs events heard calls placed) := by
    intro q id ballot announced
    exact (List.mem_append.mp announced).elim (announces q id ballot) (new q id ballot)
  cases moves with
  | @start p cmd msgs after events member stays starts =>
    exact grows (starts.announces member (refines.sound p member))
  | @taken p k sender instanceId forwardId cmd msgs after events member other arrived leads
      starts =>
    exact grows (starts.announces member (refines.sound p member))
  | synod member other arrived synod bounded several cascade =>
    exact grows fun q id ballot announced => absurd rfl (cascade.unannounced _ announced)
  | _ => exact grows (by simp)

theorem announces_reachable {total : Nat} {s : Cluster C} {guard : Cluster C → Action C → Prop}
    (reachable : (system total).Reachable guard s) : Announces total s :=
  reachable.invariant (Announces total)
    (fun s starts q id ballot announced => by simp [starts.trace] at announced)
    fun _ _ _ before announces _ next =>
      Announces.step (refines_unruled before) announces (step_moves next)

def LedProposed (total : Nat) (s : Cluster C) : Prop :=
  ∀ p < total, ∀ b, (s.nodes p).leaderBallot = some b → ∃ id v, .phase2a p id b v ∈ s.trace

theorem LedProposed.synod {rules : Synod.Rules} {total p : Nat} {s : Cluster C} {m : Message C}
    {responses : List (MessageKind C)} {after : PaxosInstance C}
    {storage kept : Option (PaxosStorage C)} {events : List (TraceEvent C)}
    (refines : Refines rules total s) (led : LedProposed total s) (member : p < total)
    (cascade : ((s.nodes p).instanceAt m.paxosInstance).Cascade storage m.msg responses after kept
      events) {b : Nat} (leads : (s.nodes p).leaderAfter responses.head? m.msg = some b) :
    ∃ id v, .phase2a p id b v ∈ s.trace := by
  rcases MultiPaxosNode.leaderAfter_cases leads with leading | ⟨learn, answer, won, notLearn⟩
  · exact led p member b leading
  · obtain ⟨middle, saved, earlier, step⟩ := cascade.first
    rw [answer] at step
    rcases step.announces with ⟨heard, same, -⟩ | ⟨w, ack, state, -, -, -, ends, -⟩
    · exact absurd same (notLearn heard)
    · have view := refines.views m.paxosInstance
      have round := (Synod.proposals_reachable view).rounds p member
      have here : ((s.view m.paxosInstance).inst p).proposer.innerState = .accepting w := state
      rw [here] at round
      obtain ⟨-, -, ⟨k, a, told, same, -⟩, -⟩ := round
      rw [← won, ends, ← same]
      exact ⟨_, _, Synod.traced_reachable view k p a told⟩

theorem LedProposed.step {rules : Synod.Rules} {total : Nat} {s t : Cluster C} {a : Action C}
    (refines : Refines rules total s) (led : LedProposed total s) (moves : Moves total s a t) :
    LedProposed total t := by
  have becomes {p : Nat} {node : MultiPaxosNode C} {msgs : List (Message C)}
      {events : List (TraceEvent C)} {heard : List (Nat × Nat)} {calls : List (Nat × C)}
      {placed : List (Placement C)}
      (here : ∀ b, node.leaderBallot = some b → ∃ id v, .phase2a p id b v ∈ s.trace) :
      LedProposed total (s.called p node msgs events heard calls placed) := by
    intro q inside b leads
    have older : ∃ id v, .phase2a q id b v ∈ s.trace := by
      refine called_each (s := s) (p := p)
        (fun q node => node.leaderBallot = some b → ∃ id v, .phase2a q id b v ∈ s.trace)
        (here b) (fun q inside _ => led q inside b) q inside leads
    obtain ⟨id, v, traced⟩ := older
    exact ⟨id, v, List.mem_append_left _ traced⟩
  cases moves with
  | @forward p _ member forwards => exact becomes (led p member)
  | @start p _ _ _ _ member stays starts =>
    exact becomes fun b leads =>
      led p member b ((starts.keeps (refines.sound p member)).1.symm.trans leads)
  | @dropped p _ _ _ _ _ member => exact becomes (led p member)
  | @taken p _ _ _ _ _ _ _ _ member other arrived leading starts =>
    exact becomes fun b leads =>
      led p member b ((starts.keeps (refines.sound p member)).1.symm.trans leads)
  | @acked p _ _ forwardId _ instanceId member =>
    obtain ⟨forwarded, pending, whole⟩ :=
      (s.nodes p).handleForwardAck_frame forwardId instanceId
    exact becomes (by rw [whole]; exact led p member)
  | @synod p k m responses after kept events member other arrived synod bounded several cascade =>
    exact becomes fun b leads => led.synod refines member cascade leads
  | @asked p instanceId member =>
    obtain ⟨pending, whole⟩ := (s.nodes p).getCommitId_frame instanceId
    exact becomes (by rw [whole]; exact led p member)
  | @crashed p storage node member stored built =>
    refine becomes fun b leads => ?_
    rw [(MultiPaxosNode.withStorage_forgets built).1] at leads
    simp at leads

omit [DecidableEq C] in
theorem Boots.unled {total p : Nat} {node : MultiPaxosNode C} (boots : Boots total p node) :
    node.leaderBallot = none := by
  cases boots with
  | new => rfl
  | withStorage storage node empty built => exact (MultiPaxosNode.withStorage_forgets built).1

theorem led_proposed_reachable {total : Nat} {s : Cluster C} {guard : Cluster C → Action C → Prop}
    (reachable : (system total).Reachable guard s) : LedProposed total s := by
  refine reachable.invariant (LedProposed total) (fun s starts p inside b leads => ?_)
    fun _ _ _ before led _ next => LedProposed.step (refines_unruled before) led (step_moves next)
  rw [(starts.boots p inside).unled] at leads
  simp at leads

theorem Moves.fast {rules : Synod.Rules} {total : Nat} {s t : Cluster C} {a : Action C}
    (refines : Refines rules total s) (moves : Moves total s a t) {new : Issue C}
    (issued : s.issue a = some new) (fast : new.fast = true) :
    ∃ p < total, (s.nodes p).leaderBallot = some new.ballot ∧ ∃ events,
      t.trace = s.trace ++ events ∧
        .phase2a p new.instanceId new.ballot new.value ∈ events := by
  have opens {p : Nat} {cmd : C} {msgs : List (Message C)} {after : MultiPaxosNode C}
      {events : List (TraceEvent C)} (member : p < total)
      (starts : (s.nodes p).Starts cmd msgs after events)
      (issued : (s.nodes p).fastIssue cmd = some new) :
      (s.nodes p).leaderBallot = some new.ballot ∧
        .phase2a p new.instanceId new.ballot new.value ∈ events := by
    unfold MultiPaxosNode.fastIssue at issued
    split at issued
    · simp at issued
    · obtain ⟨ballot, leads, rfl⟩ := Option.map_eq_some_iff.mp issued
      refine ⟨leads, ?_⟩
      cases starts with
      | intro first inst result responses kept events bounded several opens cascade =>
        cases opens with
        | prepare unled => simp [unled] at leads
        | accept ballot' leads' =>
          obtain rfl := Option.some.inj (leads.symm.trans leads')
          refine List.mem_append_left _ ?_
          have own := (refines.sound p member).id
          simp [MultiPaxosNode.firstTrace, own]
  have won {p : Nat} {m : Message C} (issued : (s.nodes p).wonIssue m = some new) : False := by
    unfold MultiPaxosNode.wonIssue at issued
    split at issued
    · simp only [Option.ite_none_right_eq_some, Option.some.injEq] at issued
      simp [← issued.2] at fast
    · simp at issued
  cases moves with
  | forward member forwards => simp [issue, MultiPaxosNode.fastIssue, forwards] at issued
  | @start p _ _ _ events member stays starts =>
    obtain ⟨leads, traced⟩ := opens member starts issued
    exact ⟨p, member, leads, events, rfl, traced⟩
  | dropped member other arrived unled =>
    simp [issue, arrived, MultiPaxosNode.isLeader, unled] at issued
  | @taken p _ _ _ _ _ _ _ events member other arrived leads starts =>
    obtain ⟨leads, traced⟩ := opens member starts (by simpa [issue, arrived, leads] using issued)
    exact ⟨p, member, leads, events, rfl, traced⟩
  | acked member other arrived => exact (won (by simpa [issue, arrived] using issued)).elim
  | @synod p k m responses after kept events member other arrived synod =>
    refine (won (p := p) (m := m) ?_).elim
    rcases m with ⟨senderId, instanceId, message⟩
    cases message with
    | requestCommandToLeader cmd forwardId => exact synod.elim
    | _ => simpa [issue, arrived] using issued
  | asked | crashed => simp [issue] at issued

def Repeats (s : Cluster C) : Prop :=
  ¬(Replay.proposals (s.trace.map TraceEvent.record)).Nodup

omit [DecidableEq C] [Serde Nat] [Serde (AcceptedValue C)] in
theorem Repeats.grow {s t : Cluster C} {events : List (TraceEvent C)} (repeats : s.Repeats)
    (grows : t.trace = s.trace ++ events) : t.Repeats := by
  unfold Repeats at repeats ⊢
  rw [grows, List.map_append, Replay.proposals_append]
  exact fun distinct => repeats (List.nodup_append.mp distinct).1

omit [DecidableEq C] [Serde Nat] [Serde (AcceptedValue C)] in
theorem mem_proposals {events : List (TraceEvent C)} {p id b : Nat} {v : C}
    (traced : .phase2a p id b v ∈ events) : b ∈ Replay.proposals (events.map TraceEvent.record) :=
  List.mem_map.mpr ⟨_, List.mem_filter.mpr ⟨List.mem_map_of_mem traced, rfl⟩, rfl⟩

theorem Moves.repeats {rules : Synod.Rules} {total : Nat} {s t : Cluster C} {a : Action C}
    (refines : Refines rules total s) (led : LedProposed total s) (moves : Moves total s a t)
    {new : Issue C} (issued : s.issue a = some new) (fast : new.fast = true) : t.Repeats := by
  obtain ⟨p, member, leads, events, grows, later⟩ := moves.fast refines issued fast
  obtain ⟨id, v, earlier⟩ := led p member new.ballot leads
  unfold Repeats
  rw [grows, List.map_append, Replay.proposals_append]
  intro distinct
  exact (List.nodup_append.mp distinct).2.2 _ (mem_proposals earlier) _ (mem_proposals later) rfl

end Cluster

end Runs

namespace Cluster

section Covered

variable [DecidableEq C] [Serde Nat] [Serde (AcceptedValue C)] {total : Nat} {s : Cluster C}
  {guard : Cluster C → Action C → Prop}

theorem named_reachable (reachable : (system total).Reachable guard s) :
    ∀ event ∈ s.trace, event.nodeId < total ∧ event.sender < total := fun event traced =>
  Synod.named_reachable ((refines_unruled reachable).views event.instanceId) event traced rfl

theorem covers_reachable {constants : Constants} (debug : C → String)
    (reachable : (system total).Reachable guard s) (nodes : constants.nodes = Finset.range total)
    (quorum : constants.quorum = quorumOf total) (valued : constants.values.Nonempty) :
    constants.Covers (traceData (s.trace.map (TraceEvent.fields debug))) where
  valued := valued
  majority := by
    rw [nodes, quorum, Finset.card_range]
    unfold quorumOf
    omega
  members := by
    rw [TraceEvent.traceData_fields]
    intro evt listed
    obtain ⟨event, traced, rfl⟩ := List.mem_map.mp listed
    rw [nodes, Finset.mem_range, show event.record.nodeId = event.nodeId by cases event <;> rfl]
    exact (named_reachable reachable event traced).1

theorem extractConstants_few (debug : C → String) {events : List (TraceEvent C)}
    (reachable : (system total).Reachable guard s) (inside : events ⊆ s.trace) :
    (CheckTrace.extractConstants (events.map (TraceEvent.fields debug))).quorum ≤
      quorumOf total := by
  have below : CheckTrace.nodesOf (events.map (TraceEvent.fields debug)) ⊆ Finset.range total := by
    intro node listed
    simp only [CheckTrace.nodesOf, List.mem_toFinset, List.mem_append, List.mem_map] at listed
    rw [Finset.mem_range]
    rcases listed with ⟨_, ⟨event, traced, rfl⟩, rfl⟩ | ⟨_, ⟨event, traced, rfl⟩, rfl⟩
    · exact (event.fields_names debug).1 ▸ (named_reachable reachable event (inside traced)).1
    · exact (event.fields_names debug).2 ▸ (named_reachable reachable event (inside traced)).2
  have few := Finset.card_le_card below
  rw [Finset.card_range] at few
  unfold CheckTrace.extractConstants quorumOf
  exact Nat.succ_le_succ (Nat.div_le_div_right few)

end Covered

theorem tlc_proposes [DecidableEq C] [Serde Nat] [Serde (AcceptedValue C)] {total : Nat}
    {s : Cluster C} {guard : Cluster C → Action C → Prop}
    {past : List (Cluster C × Action C × Cluster C)} {constants : Constants} (debug : C → String)
    (run : (system total).Past guard past s)
    (covers : constants.Covers (traceData (s.trace.map (TraceEvent.fields debug))))
    (passes : constants.Tlc (traceData (s.trace.map (TraceEvent.fields debug)))) :
    (∀ e ∈ past, ∀ new, e.1.issue e.2.1 = some new → new.fast = false) ∧
      ∀ p q id other b v w, .phase2a p id b v ∈ s.trace → .phase2a q other b w ∈ s.trace →
        p = q ∧ id = other ∧ v = w := by
  have distinct : (Replay.proposals (s.trace.map TraceEvent.record)).Nodup :=
    (Replay.admitsAll_proposals ((covers.events debug).mp passes)).1
  constructor
  · intro e member new issued
    by_contra fast
    refine absurd distinct (run.lasting
      (fun s a _ => ∃ new, s.issue a = some new ∧ new.fast = true) Repeats ?_ ?_
      ⟨e, member, new, issued, by simpa using fast⟩)
    · rintro s a t before - next ⟨new, issued, fast⟩
      exact (step_moves next).repeats (refines_unruled before) (led_proposed_reachable before)
        issued fast
    · intro s a t next repeats
      cases step_moves next <;> exact repeats.grow rfl
  · intro p q id other b v w left right
    have proposed : Replay.proposals (s.trace.map TraceEvent.record) =
        (s.trace.filter (·.record.action = .phase2a)).map (·.record.ballot) := by
      unfold Replay.proposals
      rw [List.filter_map, List.map_map]
      rfl
    rw [proposed] at distinct
    have same := List.inj_on_of_nodup_map distinct (List.mem_filter.mpr ⟨left, rfl⟩)
      (List.mem_filter.mpr ⟨right, rfl⟩) rfl
    simp only [TraceEvent.phase2a.injEq, true_and] at same
    exact same

theorem tlc_proposes_promised :
    ∃ past, (system 3).Past (fun s a => s.Once a ∧ s.Ordinary a) past promised ∧
      (∀ e ∈ past, ∀ new, e.1.issue e.2.1 = some new → new.fast = false) ∧
      ∀ p q id other b v w, .phase2a p id b v ∈ promised.trace →
        .phase2a q other b w ∈ promised.trace → p = q ∧ id = other ∧ v = w := by
  have boots : (system 3).Past (fun s a => s.Once a ∧ s.Ordinary a) [] (boot 3 : Cluster Nat) :=
    .init (boot_init 3)
  have runs : (Run.System.exec (step 3) (fun s a => s.Once a ∧ s.Ordinary a) (boot 3)
      promisedRun).isSome := by decide +kernel
  obtain ⟨past, run, -⟩ := Run.System.final_past (fun _ _ _ next => next) boots runs
  have covers : Constants.tracePaxosCfg.Covers
      (traceData (promised.trace.map (TraceEvent.fields Nat.repr))) :=
    covers_reachable Nat.repr run.reachable (by decide) (by decide) (by decide)
  refine ⟨_, run, tlc_proposes Nat.repr run covers ((covers.events Nat.repr).mpr ?_)⟩
  decide +kernel

theorem tlc_iff_unretried [DecidableEq C] [Serde Nat] [Serde (AcceptedValue C)] {total : Nat}
    {s : Cluster C} {constants : Constants} (debug : C → String)
    (reachable : (system total).Reachable (fun s a => s.Once a ∧ s.Ordinary a) s) (id : Nat)
    (covers : constants.Covers
      (traceData ((s.trace.filter (·.instanceId = id)).map (TraceEvent.fields debug))))
    (few : constants.quorum ≤ quorumOf total) :
    constants.Tlc
        (traceData ((s.trace.filter (·.instanceId = id)).map (TraceEvent.fields debug))) ↔
      ∀ event ∈ s.trace, event.instanceId = id → event.record.action = .phase1b →
        event.record.ballot < 2 * total := by
  have refines : Refines { once := True, raceFree := False, ordinary := True } total s :=
    refines_reachable (reachable.mono fun _ _ allowed =>
      ⟨fun _ => allowed.1, False.elim, fun _ => allowed.2⟩)
  have view := refines.views id
  have announces := announces_reachable reachable
  have opening := Synod.opening_reachable trivial view
  have named := Synod.named_reachable view
  rw [covers.events debug]
  constructor
  · intro whole event traced here action
    obtain ⟨p, announced⟩ := Replay.admitsAll_announced
      (a := event.record.nodeId) (b := event.record.ballot) whole
      (List.mem_map.mpr ⟨event, List.mem_filter.mpr ⟨traced, by simpa using here⟩, by
        rw [← action]⟩)
    have first := announces p id _ (Synod.mem_recordsIn_phase1a (s := s.view id) |>.mp announced)
    have some_node : 0 < total := Nat.zero_lt_of_lt (named event traced here).1
    have := (Nat.div_eq_iff some_node).mp first
    omega
  · intro unretried
    obtain ⟨replayed, whole⟩ := Synod.conforms_reachable few trivial trivial view
    refine whole fun a b promised => ?_
    obtain ⟨k, q, m, told, rfl⟩ := replayed.prepared a b promised
    rcases opening.asked k q m told with announced | ⟨first, announced, above⟩
    · exact ⟨q, announced⟩
    · obtain ⟨event, listed, same⟩ := List.mem_map.mp promised
      obtain ⟨traced, here⟩ := List.mem_filter.mp listed
      have low := unretried event traced (of_decide_eq_true here) (by rw [same])
      rw [same] at low
      replace low : m.ballot < 2 * total := low
      rw [announces q id first announced] at above
      have some_node : 0 < total := Nat.pos_of_ne_zero fun none => by simp [none] at above
      have := (Nat.div_lt_iff_lt_mul some_node).mpr low
      omega

theorem tlc_iff_unretried_promised : Constants.tracePaxosCfg.Tlc
    (traceData ((promised.trace.filter (·.instanceId = 0)).map (TraceEvent.fields Nat.repr))) := by
  have reachable : (system 3).Reachable (fun s a => s.Once a ∧ s.Ordinary a) promised :=
    Run.System.final_reachable (fun _ _ _ next => next) (.init (boot_init 3)) (by decide +kernel)
  have covers : Constants.tracePaxosCfg.Covers
      (traceData (promised.trace.map (TraceEvent.fields Nat.repr))) :=
    covers_reachable Nat.repr reachable (by decide) (by decide) (by decide)
  refine (tlc_iff_unretried Nat.repr reachable 0 (covers.fewer ?_) (by decide)).mpr ?_
  · exact List.map_subset _ (List.map_subset _ (List.filter_subset_self _))
  · have first : ∀ event ∈ promised.trace, event.record.ballot < 2 * 3 := by decide +kernel
    exact fun event traced _ _ => first event traced

end Cluster

end Smr
