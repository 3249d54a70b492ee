import Smr.Cluster.Agreement

set_option autoImplicit false

namespace Smr

variable {C : Type}

namespace PaxosInstance

variable [DecidableEq C] [Serde Nat] [Serde (AcceptedValue C)]

theorem Step.stays_inRound {self after : PaxosInstance C} {storage kept : Option (PaxosStorage C)}
    {message : MessageKind C} {response : Option (MessageKind C)} {events : List (TraceEvent C)}
    (step : self.Step storage message response after kept events)
    (opened : self.proposer.innerState.round ≠ none) :
    after.proposer.innerState.round ≠ none ∨ ∃ learn, response = some (.learnMsg learn) := by
  cases step with
  | proposer message response next addressed asked =>
    generalize self.proposer.innerState = current at asked opened
    cases asked with
    | won w ack same reached => exact .inr ⟨_, rfl⟩
    | ignored state message ignores => exact .inl opened
    | _ => exact .inl (by simp [InnerState.round, InnerState.retry])
  | _ => exact .inl opened

theorem Cascade.stays_inRound {self after : PaxosInstance C}
    {storage kept : Option (PaxosStorage C)} {message : MessageKind C}
    {responses : List (MessageKind C)} {events : List (TraceEvent C)}
    (cascade : Cascade self storage message responses after kept events)
    (opened : self.proposer.innerState.round ≠ none) :
    after.proposer.innerState.round ≠ none ∨ ∃ learn, .learnMsg learn ∈ responses := by
  induction cascade with
  | last step =>
    refine (step.stays_inRound opened).imp_right ?_
    rintro ⟨learn, answer⟩
    simp at answer
  | more step _ ih =>
    rcases step.stays_inRound opened with still | ⟨learn, answer⟩
    · refine (ih still).imp_right ?_
      rintro ⟨learn, member⟩
      exact ⟨learn, List.mem_cons_of_mem _ member⟩
    · exact .inr ⟨learn, by rw [Option.some.inj answer]; exact List.mem_cons_self⟩

end PaxosInstance

namespace MultiPaxosNode

def InRound (self : MultiPaxosNode C) (instanceId : Nat) : Prop :=
  (self.instanceAt instanceId).proposer.innerState.round ≠ none

instance (self : MultiPaxosNode C) (instanceId : Nat) : Decidable (self.InRound instanceId) := by
  unfold InRound
  infer_instance

end MultiPaxosNode

namespace Cluster

def Opened (s : Cluster C) (id : Nat) : Prop :=
  ∃ placement ∈ s.placed, placement.instanceId = id

def Alive (s : Cluster C) (total id : Nat) : Prop :=
  (∃ ballot value, s.Chosen total id ballot value) ∨ ∃ p < total, (s.nodes p).InRound id

-- No crash takes the last proposer of an instance a quorum has not accepted.
def Covered (total : Nat) (s : Cluster C) : Action C → Prop
  | .crash p => ∀ id < (s.nodes p).nextInstanceId, (s.nodes p).InRound id →
    (∃ ballot value, s.Chosen total id ballot value) ∨
      ∃ q < total, q ≠ p ∧ (s.nodes q).InRound id
  | _ => True

section Calls

variable {total p id : Nat} {s : Cluster C} {node : MultiPaxosNode C} {msgs : List (Message C)}
  {trace : List (TraceEvent C)} {heard : List (Nat × Nat)} {calls : List (Nat × C)}
  {placed : List (Placement C)}

theorem Opened.grow (opened : s.Opened id) :
    (s.called p node msgs trace heard calls placed).Opened id := by
  obtain ⟨placement, member, same⟩ := opened
  exact ⟨placement, List.mem_append_left _ member, same⟩

theorem opened_called :
    (s.called p node msgs trace heard calls []).Opened id ↔ s.Opened id := by
  simp [Opened, called]

theorem Chosen.grow {ballot : Nat} {value : C} (chosen : s.Chosen total id ballot value) :
    (s.called p node msgs trace heard calls placed).Chosen total id ballot value := by
  obtain ⟨quorum, inside, many, votes⟩ := chosen
  refine ⟨quorum, inside, many, fun a member => ?_⟩
  obtain ⟨event, happened, votes⟩ := votes a member
  exact ⟨event, List.mem_append_left _ happened, votes⟩

theorem Alive.called (alive : s.Alive total id) (member : p < total)
    (stays : (s.nodes p).InRound id → node.InRound id ∨
      ∃ ballot value,
        (s.called p node msgs trace heard calls placed).Chosen total id ballot value) :
    (s.called p node msgs trace heard calls placed).Alive total id := by
  rcases alive with ⟨ballot, value, chosen⟩ | ⟨q, inside, opened⟩
  · exact .inl ⟨ballot, value, chosen.grow⟩
  · by_cases same : q = p
    · subst same
      rcases stays opened with still | chosen
      · exact .inr ⟨q, inside, by simpa [Cluster.called] using still⟩
      · exact .inl chosen
    · exact .inr ⟨q, inside, by simpa [Cluster.called, same] using opened⟩

end Calls

section Steps

variable [DecidableEq C] [Serde Nat] [Serde (AcceptedValue C)]

def SavedBelow (node : MultiPaxosNode C) : Prop :=
  ∀ store saved, node.storage = some store → store.Represents saved →
    ∀ id, saved id ≠ none → id < node.nextInstanceId

structure Slots (total : Nat) (s : Cluster C) : Prop where
  saved : ∀ p < total, SavedBelow (s.nodes p)
  counted : ∀ p < total, ∀ id < (s.nodes p).nextInstanceId, s.Opened id
  sent : ∀ m ∈ s.sent, m.msg.IsSynod → ∀ id ≤ m.paxosInstance, s.Opened id
  alive : ∀ id, s.Opened id → s.Alive total id

omit [DecidableEq C] in
theorem SavedBelow.same {node after : MultiPaxosNode C} (below : SavedBelow node)
    (storage : after.storage = node.storage)
    (next : node.nextInstanceId ≤ after.nextInstanceId) : SavedBelow after := by
  intro store saved stored represents id present
  exact Nat.lt_of_lt_of_le (below store saved (storage ▸ stored) represents id present) next

theorem SavedBelow.cascade {node after : MultiPaxosNode C} (below : SavedBelow node)
    {total p id : Nat} (sound : MultiPaxosNode.Kept total p node) {inst result : PaxosInstance C}
    {message : MessageKind C} {responses : List (MessageKind C)} {kept : Option (PaxosStorage C)}
    {events : List (TraceEvent C)}
    (cascade : inst.Cascade node.storage message responses result kept events)
    (numbered : inst.instanceId = id) (storage : after.storage = kept)
    (next : node.nextInstanceId ≤ after.nextInstanceId) (above : id < after.nextInstanceId)
    (bounded : after.nextInstanceId ≤ u64Max) : SavedBelow after := by
  intro store saved stored represents other present
  cases stores : node.storage with
  | none =>
    rw [storage, cascade.unstored stores] at stored
    simp at stored
  | some before =>
    obtain ⟨earlier, represents', -⟩ := sound.storage before stores
    obtain ⟨store', saved', rfl, again, same⟩ :=
      cascade.saved_elsewhere (numbered ▸ Nat.lt_of_lt_of_le above bounded) stores represents'
    obtain rfl := Option.some.inj (storage.symm.trans stored)
    obtain rfl := again.unique represents
    by_cases own : other = id
    · exact own ▸ above
    · rw [same other (numbered ▸ own)] at present
      exact Nat.lt_of_lt_of_le (below before earlier stores represents' other present) next

omit [DecidableEq C] [Serde Nat] [Serde (AcceptedValue C)] in
theorem announced_chosen {total : Nat} {t : Cluster C} {m : Message C} {learn : Learn C}
    (counting : ∀ id, Synod.Counting total id (t.view id)) (sent : m ∈ t.sent)
    (announces : m.msg = .learnMsg learn) :
    ∃ ballot value, t.Chosen total m.paxosInstance ballot value := by
  obtain ⟨k, found⟩ := List.mem_iff_getElem?.mp sent
  refine ⟨learn.ballot, learn.command, chosen_iff.mpr ?_⟩
  refine (counting m.paxosInstance).announced k m.senderId learn ?_
  rw [Synod.Sent, ← announces]
  exact found

omit [DecidableEq C] in
theorem Slots.quiet {total p : Nat} {s : Cluster C} (slots : Slots total s) (member : p < total)
    {node : MultiPaxosNode C} {msgs : List (Message C)} {trace : List (TraceEvent C)}
    {heard : List (Nat × Nat)} {calls : List (Nat × C)}
    (found : node.instanceAt = (s.nodes p).instanceAt)
    (next : node.nextInstanceId = (s.nodes p).nextInstanceId)
    (storage : node.storage = (s.nodes p).storage) (others : ∀ m ∈ msgs, ¬m.msg.IsSynod) :
    Slots total (s.called p node msgs trace heard calls []) where
  saved := called_each _ ((slots.saved p member).same storage (Nat.le_of_eq next.symm))
    fun q inside _ => slots.saved q inside
  counted := called_each
    (fun _ node => ∀ id < node.nextInstanceId, Opened (s.called _ _ _ _ _ _ _) id)
    (fun id below => (slots.counted p member id (next ▸ below)).grow)
    fun q inside _ id below => (slots.counted q inside id below).grow
  sent m sent synod id below := by
    rcases List.mem_append.mp sent with old | new
    · exact (slots.sent m old synod id below).grow
    · exact absurd synod (others m new)
  alive id opened := by
    have before : s.Opened id := opened_called.mp opened
    refine (slots.alive id before).called member fun inRound => .inl ?_
    rw [MultiPaxosNode.InRound, found]
    exact inRound

theorem Slots.starts {total p : Nat} {s : Cluster C} (slots : Slots total s) (member : p < total)
    (sound : MultiPaxosNode.Kept total p (s.nodes p)) {node after : MultiPaxosNode C} {cmd : C}
    {msgs sent : List (Message C)} {events : List (TraceEvent C)} {heard : List (Nat × Nat)}
    {calls : List (Nat × C)} {request : Option (Nat × Nat)}
    (starts : (s.nodes p).Starts cmd msgs after events)
    (found : node.instanceAt = after.instanceAt)
    (next : node.nextInstanceId = after.nextInstanceId) (storage : node.storage = after.storage)
    (holds : msgs ⊆ sent) (others : ∀ m ∈ sent, m.msg.IsSynod → m ∈ msgs)
    (counting : ∀ id, Synod.Counting total id
      ((s.called p node sent events heard calls
        [⟨p, (s.nodes p).nextInstanceId, cmd, request⟩]).view id)) :
    Slots total (s.called p node sent events heard calls
      [⟨p, (s.nodes p).nextInstanceId, cmd, request⟩]) := by
  generalize moved : s.called p node sent events heard calls
    [⟨p, (s.nodes p).nextInstanceId, cmd, request⟩] = t at counting ⊢
  have grows {id : Nat} (opened : s.Opened id) : t.Opened id := moved ▸ opened.grow
  have here : t.Opened (s.nodes p).nextInstanceId := by
    subst moved
    exact ⟨_, List.mem_append_right _ (List.mem_singleton_self _), rfl⟩
  have reached (id : Nat) (below : id ≤ (s.nodes p).nextInstanceId) : t.Opened id := by
    rcases Nat.lt_or_eq_of_le below with less | rfl
    · exact grows (slots.counted p member id less)
    · exact here
  cases starts with
  | intro first inst result responses kept trace bounded several opens cascade =>
    have inRound : inst.proposer.innerState.round ≠ none := by
      cases opens <;> simp [MultiPaxosNode.launched, InnerState.round]
    refine ⟨?_, ?_, fun m member synod id below => ?_, fun id opened => ?_⟩
    · subst moved
      refine called_each _ (SavedBelow.same ?_ storage (Nat.le_of_eq next.symm))
        fun q inside _ => slots.saved q inside
      exact (slots.saved p member).cascade sound cascade (opens.launched sound).1.instanceId rfl
        (Nat.le_succ _) (Nat.lt_succ_self _) bounded
    · rw [← moved]
      refine called_each (fun _ node => ∀ id < node.nextInstanceId, Opened _ id)
        (fun id below => ?_) fun q inside _ id below => ?_
      · rw [next] at below
        exact moved ▸ reached id (Nat.le_of_lt_succ below)
      · exact moved ▸ grows (slots.counted q inside id below)
    · rw [← moved] at member
      rcases List.mem_append.mp member with old | new
      · exact grows (slots.sent m old synod id below)
      · obtain ⟨response, -, rfl⟩ := List.mem_map.mp (others m new synod)
        exact reached id below
    · by_cases own : id = (s.nodes p).nextInstanceId
      · subst own
        rcases cascade.stays_inRound inRound with still | ⟨learn, answer⟩
        · refine .inr ⟨p, member, ?_⟩
          rw [← moved, MultiPaxosNode.InRound]
          simpa [called, found] using still
        · left
          have announced : (s.nodes p).broadcast (s.nodes p).nextInstanceId (.learnMsg learn) ∈
              t.sent := by
            rw [← moved]
            exact List.mem_append_right _
              (holds (List.mem_map_of_mem (List.mem_cons_of_mem _ answer)))
          exact announced_chosen counting announced rfl
      · have before : s.Opened id := by
          obtain ⟨placement, listed, rfl⟩ := opened
          rw [← moved] at listed
          rcases List.mem_append.mp listed with old | new
          · exact ⟨placement, old, rfl⟩
          · rw [List.mem_singleton.mp new] at own
            exact absurd rfl own
        rw [← moved]
        refine (slots.alive id before).called member fun inRound => .inl ?_
        rw [MultiPaxosNode.InRound, found, MultiPaxosNode.afterStart_instanceAt,
          Function.update_of_ne own]
        exact inRound

theorem Slots.synod {total p : Nat} {s : Cluster C} (slots : Slots total s) (member : p < total)
    (sound : MultiPaxosNode.Kept total p (s.nodes p)) {m : Message C}
    {responses : List (MessageKind C)} {after : PaxosInstance C} {kept : Option (PaxosStorage C)}
    {events : List (TraceEvent C)} {heard : List (Nat × Nat)} (arrived : m ∈ s.sent)
    (synod : m.msg.IsSynod)
    (bounded : (s.nodes p).nextInstanceId ≤ m.paxosInstance → m.paxosInstance + 1 ≤ u64Max)
    (cascade : ((s.nodes p).instanceAt m.paxosInstance).Cascade (s.nodes p).storage m.msg
      responses after kept events)
    (counting : ∀ id, Synod.Counting total id
      ((s.called p ((s.nodes p).afterSynod m.paxosInstance m.msg responses.head? after kept)
        (responses.map ((s.nodes p).broadcast m.paxosInstance)) events heard [] []).view id)) :
    Slots total
      (s.called p ((s.nodes p).afterSynod m.paxosInstance m.msg responses.head? after kept)
        (responses.map ((s.nodes p).broadcast m.paxosInstance)) events heard [] []) where
  saved := by
    refine called_each _ ?_ fun q inside _ => slots.saved q inside
    refine (slots.saved p member).cascade sound cascade
      (sound.instanceAt_configured m.paxosInstance).instanceId rfl (Nat.le_max_left _ _)
      (Nat.lt_of_lt_of_le (Nat.lt_succ_self _) (Nat.le_max_right _ _)) ?_
    rcases Nat.lt_or_ge m.paxosInstance (s.nodes p).nextInstanceId with inside | beyond
    · exact Nat.max_le.mpr ⟨sound.bounded, Nat.le_trans inside sound.bounded⟩
    · exact Nat.max_le.mpr ⟨sound.bounded, bounded beyond⟩
  counted := by
    refine called_each (fun _ node => ∀ id < node.nextInstanceId, Opened _ id)
      (fun id below => ?_) fun q inside _ id below => (slots.counted q inside id below).grow
    rcases Nat.lt_or_ge id (s.nodes p).nextInstanceId with old | beyond
    · exact (slots.counted p member id old).grow
    · refine (slots.sent m arrived synod id ?_).grow
      have most : id < max (s.nodes p).nextInstanceId (m.paxosInstance + 1) := below
      omega
  sent other sent synod' id below := by
    rcases List.mem_append.mp sent with old | new
    · exact (slots.sent other old synod' id below).grow
    · obtain ⟨response, -, rfl⟩ := List.mem_map.mp new
      exact (slots.sent m arrived synod id below).grow
  alive id opened := by
    have before : s.Opened id := opened_called.mp opened
    refine (slots.alive id before).called member fun inRound => ?_
    by_cases own : id = m.paxosInstance
    · subst own
      rcases cascade.stays_inRound inRound with still | ⟨learn, answer⟩
      · refine .inl ?_
        rw [MultiPaxosNode.InRound, MultiPaxosNode.afterSynod_instanceAt, Function.update_self]
        exact still
      · have told : (s.nodes p).broadcast m.paxosInstance (.learnMsg learn) ∈
            (s.called p ((s.nodes p).afterSynod m.paxosInstance m.msg responses.head? after kept)
              (responses.map ((s.nodes p).broadcast m.paxosInstance)) events heard [] []).sent :=
          List.mem_append_right _ (List.mem_map_of_mem answer)
        have chosen := announced_chosen counting told rfl
        exact .inr chosen
    · refine .inl ?_
      rw [MultiPaxosNode.InRound, MultiPaxosNode.afterSynod_instanceAt, Function.update_of_ne own]
      exact inRound

omit [DecidableEq C] in
theorem Slots.crashed {total p : Nat} {s : Cluster C} (slots : Slots total s) (member : p < total)
    (sound : MultiPaxosNode.Kept total p (s.nodes p)) {storage : PaxosStorage C}
    {node : MultiPaxosNode C} (stored : (s.nodes p).storage = some storage)
    (built : MultiPaxosNode.withStorage (s.nodes p).config storage = .ok node)
    (covered : s.Covered total (.crash p)) : Slots total (s.called p node [] [] [] [] []) := by
  obtain ⟨saved, represents, -⟩ := sound.storage storage stored
  have fewer : node.nextInstanceId ≤ (s.nodes p).nextInstanceId := by
    refine Nat.le_of_not_lt fun more => ?_
    rcases (MultiPaxosNode.withStorage_next represents built _).mp more with
      zero | ⟨id, above, held⟩
    · exact absurd zero (Nat.succ_ne_zero _)
    · rw [represents.ballots, Option.isSome_map, Option.isSome_iff_ne_none] at held
      have below := slots.saved p member storage saved stored represents id held
      omega
  refine ⟨?_, ?_, fun m sent synod id below => ?_, fun id opened => ?_⟩
  · refine called_each _ (fun store other stored' represents' id present => ?_)
      fun q inside _ => slots.saved q inside
    obtain ⟨next, bounded, below, rfl⟩ := MultiPaxosNode.withStorage_ok represents built
    obtain rfl := Option.some.inj stored'
    obtain rfl := represents'.unique represents
    obtain ⟨state, found⟩ := Option.ne_none_iff_exists'.mp present
    exact (below id state found).1
  · exact called_each (fun _ node => ∀ id < node.nextInstanceId, Opened _ id)
      (fun id below => (slots.counted p member id (Nat.lt_of_lt_of_le below fewer)).grow)
      fun q inside _ id below => (slots.counted q inside id below).grow
  · exact (slots.sent m (by simpa [called] using sent) synod id below).grow
  · have before : s.Opened id := opened_called.mp opened
    have others : ∀ q < total, q ≠ p → (s.nodes q).InRound id →
        (s.called p node [] [] [] [] []).Alive total id := fun q inside differs inRound =>
      .inr ⟨q, inside, by simpa [called, differs] using inRound⟩
    rcases slots.alive id before with ⟨ballot, value, chosen⟩ | ⟨q, inside, inRound⟩
    · exact .inl ⟨ballot, value, chosen.grow⟩
    · by_cases same : q = p
      · subst same
        have below : id < (s.nodes q).nextInstanceId := by
          refine Nat.lt_of_not_le fun beyond => inRound ?_
          rw [sound.instanceAt_beyond beyond]
          rfl
        rcases covered id below inRound with ⟨ballot, value, chosen⟩ | ⟨r, inside', differs, still⟩
        · exact .inl ⟨ballot, value, chosen.grow⟩
        · exact others r inside' differs still
      · exact others q inside same inRound

theorem Slots.step {total : Nat} {s t : Cluster C} {a : Action C} (slots : Slots total s)
    (sound : ∀ p < total, MultiPaxosNode.Sound total p (s.nodes p))
    (covered : s.Covered total a) (counting : ∀ id, Synod.Counting total id (t.view id))
    (moves : Moves total s a t) : Slots total t := by
  cases moves with
  | forward member forwards =>
    exact slots.quiet member rfl rfl rfl (by simp [MultiPaxosNode.broadcast, MessageKind.IsSynod])
  | @start p cmd msgs after events member stays starts =>
    exact slots.starts member (sound p member).toKept starts rfl rfl rfl (fun _ sent => sent)
      (fun _ sent _ => sent) counting
  | dropped member other arrived unled => exact slots.quiet member rfl rfl rfl (by simp)
  | @taken p k sender id f cmd msgs after events member other arrived leads starts =>
    refine slots.starts member (sound p member).toKept starts rfl rfl rfl
      (List.subset_append_left _ _) (fun m sent synod => ?_) counting
    refine (List.mem_append.mp sent).resolve_right fun last => ?_
    rw [List.mem_singleton.mp last] at synod
    exact synod.elim
  | @acked p k sender f place id member other arrived =>
    obtain ⟨forwarded, pending, whole⟩ := (s.nodes p).handleForwardAck_frame f id
    rw [whole]
    exact slots.quiet member rfl rfl rfl (by simp)
  | @synod p k m responses after kept events member other arrived synod bounded several cascade =>
    exact slots.synod member (sound p member).toKept (List.mem_of_getElem? arrived) synod bounded
      cascade counting
  | @asked p id member =>
    obtain ⟨pending, whole⟩ := (s.nodes p).getCommitId_frame id
    rw [whole]
    exact slots.quiet member rfl rfl rfl (by simp)
  | @crashed p storage node member stored built =>
    exact slots.crashed member (sound p member).toKept stored built covered

omit [DecidableEq C] in
theorem Boots.slots {total p : Nat} {node : MultiPaxosNode C} (boots : Boots total p node) :
    SavedBelow node ∧ node.nextInstanceId = 0 := by
  cases boots with
  | new => exact ⟨fun _ _ stored => by simp [MultiPaxosNode.new] at stored, rfl⟩
  | withStorage storage node empty built =>
    have represents := PaxosStorage.represents_none empty
    have none_counted : node.nextInstanceId = 0 := by
      refine Nat.eq_zero_of_not_pos fun some_counted => ?_
      rcases (MultiPaxosNode.withStorage_next represents built 1).mp some_counted with
        zero | ⟨id, -, held⟩
      · exact absurd zero (by decide)
      · rw [represents.ballots] at held
        simp at held
    refine ⟨fun store saved stored represents' id present => ?_, none_counted⟩
    obtain ⟨next, -, -, rfl⟩ := MultiPaxosNode.withStorage_ok represents built
    obtain rfl := Option.some.inj stored
    obtain rfl := represents'.unique represents
    exact absurd rfl present

theorem slots_reachable {total : Nat} {s : Cluster C}
    (reachable : (system total).Reachable (fun s a => s.Once a ∧ s.Covered total a) s) :
    Slots total s := by
  refine reachable.invariant (Slots total) (fun s starts => ?_)
    fun s a t reached slots allowed next => ?_
  · exact
      { saved := fun p member => (starts.boots p member).slots.1
        counted := fun p member id below => by
          rw [(starts.boots p member).slots.2] at below
          exact absurd below (Nat.not_lt_zero id)
        sent := by simp [starts.sent]
        alive := by simp [Opened, starts.placed] }
  · have refines := refines_unruled reached
    have later : (system total).Reachable (fun s a => s.Once a ∧ s.Covered total a) t :=
      .step reached allowed next
    exact slots.step refines.sound allowed.2 (counting_once (fun _ _ allowed => allowed.1) later)
      (step_moves next)

end Steps

theorem slots_alive [DecidableEq C] [Serde Nat] [Serde (AcceptedValue C)] {total p id : Nat}
    {s : Cluster C}
    (reachable : (system total).Reachable (fun s a => s.Once a ∧ s.Covered total a) s)
    (member : p < total) (below : id < (s.nodes p).nextInstanceId) :
    (∃ ballot value, s.Chosen total id ballot value) ∨
      ∃ q < total, (s.nodes q).InRound id :=
  (slots_reachable reachable).alive id ((slots_reachable reachable).counted p member id below)

def voters (s : Cluster C) (id : Nat) : Finset Nat :=
  (s.trace.filterMap fun
    | .phase2b nodeId instanceId _ _ _ _ => if instanceId = id then some nodeId else none
    | _ => none).toFinset

theorem Chosen.voters {s : Cluster C} {total id ballot : Nat} {value : C}
    (chosen : s.Chosen total id ballot value) : total / 2 + 1 ≤ (s.voters id).card := by
  obtain ⟨quorum, -, many, votes⟩ := chosen
  refine Nat.le_trans many (Finset.card_le_card fun a member => ?_)
  obtain ⟨event, happened, votes⟩ := votes a member
  rw [Cluster.voters, List.mem_toFinset, List.mem_filterMap]
  refine ⟨event, happened, ?_⟩
  cases event with
  | phase2b nodeId instanceId b q highest accepted =>
    obtain ⟨rfl, rfl, -⟩ := votes
    simp
  | _ => exact votes.elim

-- A crash of a node that is in no round, in place of Covered for a run to be checked by.
def Idle (s : Cluster C) : Action C → Prop
  | .crash p => ∀ id < (s.nodes p).nextInstanceId, ¬(s.nodes p).InRound id
  | _ => True

instance (s : Cluster C) : (a : Action C) → Decidable (s.Idle a)
  | .crash p => inferInstanceAs (Decidable (∀ id < (s.nodes p).nextInstanceId,
      ¬(s.nodes p).InRound id))
  | .propose _ _ | .deliver _ _ | .getCommitId _ _ => .isTrue trivial

def sparedRun : List (Action Nat) :=
  [.propose 2 1, .deliver 0 0, .deliver 2 2, .deliver 0 3, .crash 0]

def spared : Cluster Nat :=
  Run.System.final (step 3) (fun s a => s.Once a ∧ s.Idle a) (bootStored 3) sparedRun

theorem slots_alive_spared :
    0 < (spared.nodes 0).nextInstanceId ∧
      ((∃ ballot value, spared.Chosen 3 0 ballot value) ∨
        ∃ q < 3, (spared.nodes q).InRound 0) := by
  have reachable : (system 3).Reachable (fun s a => s.Once a ∧ s.Idle a) spared :=
    Run.System.final_reachable (fun _ _ _ next => next) (.init (bootStored_init 3).1)
      (by decide +kernel)
  have covered (s : Cluster Nat) (a : Action Nat) (allowed : s.Once a ∧ s.Idle a) :
      s.Once a ∧ s.Covered 3 a := by
    refine ⟨allowed.1, ?_⟩
    cases a with
    | crash p => exact fun id below inRound => absurd inRound (allowed.2 id below)
    | _ => trivial
  have below : 0 < (spared.nodes 0).nextInstanceId := by decide +kernel
  exact ⟨below, slots_alive (reachable.mono covered) (by decide) below⟩

-- Node 0 crashes while it alone is at instance 0.
def orphanedRun : List (Action Nat) :=
  [.propose 0 1, .crash 0]

def orphaned : Cluster Nat :=
  Run.System.final (step 3) (fun s a => s.Once a) (bootStored 3) orphanedRun

-- Node 0 takes the ack of node 1 twice and its round for won.
def recountedRun : List (Action Nat) :=
  [.propose 0 1, .deliver 1 0, .deliver 0 2, .deliver 0 2, .deliver 1 3, .deliver 0 5, .deliver 0 5]

def recounted : Cluster Nat :=
  Run.System.final (step 4) (fun _ a => NoCrash a) (bootStored 4) recountedRun

theorem slots_orphaned :
    (¬ ∀ (total : Nat) (s : Cluster Nat), 2 ≤ total →
      (storedSystem total).Reachable (fun s a => s.Once a) s →
      ∀ p < total, ∀ id < (s.nodes p).nextInstanceId,
        (∃ ballot value, s.Chosen total id ballot value) ∨
          ∃ q < total, (s.nodes q).InRound id) ∧
    ¬ ∀ (total : Nat) (s : Cluster Nat), 2 ≤ total →
      (storedSystem total).Reachable (fun _ a => NoCrash a) s →
      ∀ p < total, ∀ id < (s.nodes p).nextInstanceId,
        (∃ ballot value, s.Chosen total id ballot value) ∨
          ∃ q < total, (s.nodes q).InRound id := by
  constructor
  next =>
    intro alive
    have reachable : (storedSystem 3).Reachable (fun s a => s.Once a) orphaned :=
      Run.System.final_reachable (fun _ _ _ next => next) (.init (bootStored_init 3))
        (by decide +kernel)
    rcases alive 3 orphaned (by decide) reachable 0 (by decide) 0 (by decide +kernel) with
      ⟨ballot, value, chosen⟩ | inRound
    · exact absurd chosen.voters (by decide +kernel)
    · exact absurd inRound (by decide +kernel)
  next =>
    intro alive
    have reachable : (storedSystem 4).Reachable (fun _ a => NoCrash a) recounted :=
      Run.System.final_reachable (fun _ _ _ next => next) (.init (bootStored_init 4))
        (by decide +kernel)
    rcases alive 4 recounted (by decide) reachable 0 (by decide) 0 (by decide +kernel) with
      ⟨ballot, value, chosen⟩ | inRound
    · exact absurd chosen.voters (by decide +kernel)
    · exact absurd inRound (by decide +kernel)

end Cluster

end Smr
