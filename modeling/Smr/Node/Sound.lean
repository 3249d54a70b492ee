import Smr.Node.Durability
import Smr.Synod.Protocol

set_option autoImplicit false

namespace Smr

variable {C : Type} [Serde Nat] [Serde (AcceptedValue C)]

namespace MultiPaxosNode

-- What holds of node p of `total` between any two calls, with or without storage,
-- whatever messages it was sent.
structure Kept (total p : Nat) (node : MultiPaxosNode C) : Prop where
  config : node.config = { nodeId := p, totalNodes := total }
  id : node.id = p
  configured : ∀ instanceId inst, node.paxosInstances instanceId = some inst →
    inst.Configured p (quorumOf total) total instanceId
  settled : ∀ instanceId inst, node.paxosInstances instanceId = some inst → inst.Settled
  several : ∀ instanceId inst, node.paxosInstances instanceId = some inst → 2 ≤ quorumOf total
  beyond : ∀ instanceId, node.nextInstanceId ≤ instanceId →
    node.paxosInstances instanceId = none
  bounded : node.nextInstanceId ≤ u64Max
  storage : ∀ store, node.storage = some store →
    Durable p store fun instanceId => (node.instanceAt instanceId).acceptor

structure Sound (total p : Nat) (node : MultiPaxosNode C) : Prop extends Kept total p node where
  leader : ∀ ballot, node.leaderBallot = some ballot → ballot % total = p ∧ 0 < ballot

theorem Kept.fresh {total p : Nat} {node : MultiPaxosNode C} (sound : Kept total p node)
    (instanceId : Nat) : node.fresh instanceId = Synod.fresh total p instanceId := by
  unfold MultiPaxosNode.fresh Synod.fresh
  rw [sound.config, sound.id]
  rfl

theorem Kept.instanceAt_configured {total p : Nat} {node : MultiPaxosNode C}
    (sound : Kept total p node) (instanceId : Nat) :
    (node.instanceAt instanceId).Configured p (quorumOf total) total instanceId := by
  unfold instanceAt
  cases present : node.paxosInstances instanceId with
  | none =>
    rw [Option.getD_none, sound.fresh]
    exact PaxosInstance.fresh_configured p (quorumOf total) total instanceId
  | some inst => exact sound.configured instanceId inst present

theorem Kept.instanceAt_settled {total p : Nat} {node : MultiPaxosNode C}
    (sound : Kept total p node) (instanceId : Nat) :
    (node.instanceAt instanceId).Settled := by
  unfold instanceAt
  cases present : node.paxosInstances instanceId with
  | none =>
    intro ballot round
    simp [MultiPaxosNode.fresh, PaxosInstance.fresh, Proposer.new, InnerState.round] at round
  | some inst => exact sound.settled instanceId inst present

theorem Kept.instanceAt_beyond {total p : Nat} {node : MultiPaxosNode C}
    (sound : Kept total p node) {instanceId : Nat} (beyond : node.nextInstanceId ≤ instanceId) :
    node.instanceAt instanceId = Synod.fresh total p instanceId := by
  rw [instanceAt, sound.beyond instanceId beyond, Option.getD_none, sound.fresh]

theorem Kept.same {total p : Nat} {node after : MultiPaxosNode C} (sound : Kept total p node)
    (config : after.config = node.config) (id : after.id = node.id)
    (instances : after.paxosInstances = node.paxosInstances)
    (next : after.nextInstanceId = node.nextInstanceId) (storage : after.storage = node.storage) :
    Kept total p after := by
  have found : after.instanceAt = node.instanceAt := by
    funext instanceId
    simp only [instanceAt, MultiPaxosNode.fresh, config, id, instances]
  exact
    { config := config ▸ sound.config
      id := id ▸ sound.id
      configured := instances ▸ sound.configured
      settled := instances ▸ sound.settled
      several := instances ▸ sound.several
      beyond := by rw [next, instances]; exact sound.beyond
      bounded := next ▸ sound.bounded
      storage := by rw [storage, found]; exact sound.storage }

theorem Sound.same {total p : Nat} {node after : MultiPaxosNode C} (sound : Sound total p node)
    (config : after.config = node.config) (id : after.id = node.id)
    (instances : after.paxosInstances = node.paxosInstances)
    (next : after.nextInstanceId = node.nextInstanceId)
    (leader : after.leaderBallot = node.leaderBallot) (storage : after.storage = node.storage) :
    Sound total p after :=
  { sound.toKept.same config id instances next storage with leader := leader ▸ sound.leader }

theorem Sound.new (total p : Nat) :
    Sound total p (MultiPaxosNode.new { nodeId := p, totalNodes := total } : MultiPaxosNode C) where
  config := rfl
  id := rfl
  configured _ _ present := by simp [MultiPaxosNode.new] at present
  settled _ _ present := by simp [MultiPaxosNode.new] at present
  several _ _ present := by simp [MultiPaxosNode.new] at present
  beyond _ _ := rfl
  bounded := Nat.zero_le _
  leader _ leads := by simp [MultiPaxosNode.new] at leads
  storage _ stored := by simp [MultiPaxosNode.new] at stored

omit [Serde Nat] [Serde (AcceptedValue C)] in
theorem instanceAt_restored {total p next : Nat} {store : Option (PaxosStorage C)}
    (saved : Nat → Option (AcceptorState C)) (instanceId : Nat) :
    instanceAt
        { MultiPaxosNode.new { nodeId := p, totalNodes := total } with
          paxosInstances := fun instanceId => (saved instanceId).map
            (restored { nodeId := p, totalNodes := total } instanceId)
          nextInstanceId := next
          storage := store } instanceId =
      { Synod.fresh total p instanceId with acceptor := recovered p (saved instanceId) } := by
  unfold instanceAt
  dsimp only
  cases saved instanceId <;> rfl

theorem Sound.withStorage {total p : Nat} {store : PaxosStorage C} {node : MultiPaxosNode C}
    {saved : Nat → Option (AcceptorState C)} (represents : store.Represents saved)
    (built : withStorage { nodeId := p, totalNodes := total } store = .ok node) :
    Sound total p node := by
  obtain ⟨next, bounded, below, rfl⟩ := withStorage_ok represents built
  refine
    { config := rfl
      id := rfl
      configured := fun instanceId inst present => ?_
      settled := fun instanceId inst present => ?_
      several := fun instanceId inst present => ?_
      beyond := fun instanceId beyond => ?_
      bounded := bounded
      leader := fun ballot leads => by simp [MultiPaxosNode.new] at leads
      storage := fun store' stored => ?_ }
  · obtain ⟨state, -, rfl⟩ := Option.map_eq_some_iff.mp present
    exact ⟨rfl, rfl, ⟨rfl, rfl, rfl⟩⟩
  · obtain ⟨state, -, rfl⟩ := Option.map_eq_some_iff.mp present
    intro ballot round
    simp [restored, PaxosInstance.restoreAcceptor, PaxosInstance.fresh, Proposer.new,
      InnerState.round] at round
  · obtain ⟨state, held, rfl⟩ := Option.map_eq_some_iff.mp present
    exact (below instanceId state held).2
  · cases held : saved instanceId with
    | none => simp [held]
    | some state => exact absurd (below instanceId state held).1 (Nat.not_lt.mpr beyond)
  · cases Option.some.inj stored
    exact ⟨saved, represents, fun instanceId =>
      congrArg PaxosInstance.acceptor (instanceAt_restored saved instanceId)⟩

theorem Kept.restart {total p : Nat} {store : PaxosStorage C} {node after : MultiPaxosNode C}
    (sound : Kept total p node) (stored : node.storage = some store)
    (built : MultiPaxosNode.withStorage node.config store = .ok after) :
    Sound total p after ∧ ∀ instanceId, after.instanceAt instanceId =
      { Synod.fresh total p instanceId with
        acceptor := (node.instanceAt instanceId).acceptor } := by
  obtain ⟨saved, represents, spelled⟩ := sound.storage store stored
  rw [sound.config] at built
  refine ⟨Sound.withStorage represents built, fun instanceId => ?_⟩
  obtain ⟨next, bounded, below, rfl⟩ := withStorage_ok represents built
  rw [instanceAt_restored, ← spelled]

variable [DecidableEq C]

theorem Kept.cascade {total p instanceId : Nat} {node after : MultiPaxosNode C}
    (sound : Kept total p node) {inst result : PaxosInstance C} {message : MessageKind C}
    {responses : List (MessageKind C)} {kept : Option (PaxosStorage C)}
    {events : List (TraceEvent C)} (several : 2 ≤ quorumOf total)
    (configured : inst.Configured p (quorumOf total) total instanceId)
    (sameAcceptor : inst.acceptor = (node.instanceAt instanceId).acceptor)
    (ready : inst.Ready message)
    (cascade : inst.Cascade node.storage message responses result kept events)
    (config : after.config = node.config) (id : after.id = node.id)
    (instances : after.paxosInstances =
      Function.update node.paxosInstances instanceId (some result))
    (grows : node.nextInstanceId ≤ after.nextInstanceId)
    (above : instanceId < after.nextInstanceId) (bounded : after.nextInstanceId ≤ u64Max)
    (storage : after.storage = kept) : Kept total p after := by
  have found := instanceAt_put config id instances
  have each {holds : Nat → PaxosInstance C → Prop} (here : holds instanceId result)
      (there : ∀ other inst, node.paxosInstances other = some inst → holds other inst)
      (other : Nat) (inst : PaxosInstance C) (present : after.paxosInstances other = some inst) :
      holds other inst := by
    rw [instances] at present
    by_cases same : other = instanceId
    · subst same
      simp only [Function.update_self, Option.some.injEq] at present
      exact present ▸ here
    · rw [Function.update_of_ne same] at present
      exact there other inst present
  refine
    { config := config ▸ sound.config
      id := id ▸ sound.id
      configured := each (cascade.configured configured) sound.configured
      settled := each (cascade.settled ready) sound.settled
      several := each several sound.several
      beyond := fun other beyond => ?_
      bounded := bounded
      storage := fun store stored => ?_ }
  · have differs : other ≠ instanceId := by omega
    rw [instances, Function.update_of_ne differs]
    exact sound.beyond other (by omega)
  · cases stores : node.storage with
    | none =>
      rw [storage, cascade.unstored stores] at stored
      simp at stored
    | some before =>
      have own : (fun other => (node.instanceAt other).acceptor) inst.instanceId =
          inst.acceptor := by rw [configured.instanceId, sameAcceptor]
      have fits : inst.instanceId < u64Max := by
        rw [configured.instanceId]
        exact Nat.lt_of_lt_of_le above bounded
      obtain ⟨store', rfl, durable⟩ := cascade.durable fits stores own (sound.storage before stores)
      rw [storage, Option.some.injEq] at stored
      subst stored
      rw [configured.instanceId] at durable
      convert durable using 1
      funext other
      rw [found]
      by_cases same : other = instanceId
      · subst same
        simp
      · simp [same]

omit [Serde Nat] [Serde (AcceptedValue C)] [DecidableEq C] in
theorem Opens.answered {node : MultiPaxosNode C} {instanceId : Nat} {cmd : C}
    {first : MessageKind C} {inst : PaxosInstance C}
    (opens : node.Opens instanceId cmd first inst) :
    inst.Answered first := by
  cases opens with
  | prepare unled positive fits => exact ⟨_, rfl, rfl, rfl⟩
  | accept ballot leads => rfl

omit [DecidableEq C] in
theorem Opens.launched {node : MultiPaxosNode C} {instanceId : Nat} {cmd : C}
    {first : MessageKind C} {inst : PaxosInstance C} {total p : Nat} (sound : Kept total p node)
    (opens : node.Opens instanceId cmd first inst) :
    inst.Configured p (quorumOf total) total instanceId ∧
      inst.acceptor = (node.fresh instanceId).acceptor := by
  have configured (state : InnerState C) (header : state.Configured p (quorumOf total) total) :
      (node.launched instanceId state).Configured p (quorumOf total) total instanceId :=
    ⟨rfl, sound.id, header⟩
  have quorum : node.config.quorum = quorumOf total := by rw [sound.config]; rfl
  have nodes : node.config.totalNodes = total := by rw [sound.config]
  cases opens with
  | prepare unled positive fits => exact ⟨configured _ ⟨sound.id, quorum, nodes⟩, rfl⟩
  | accept ballot leads => exact ⟨configured _ ⟨sound.id, quorum, nodes⟩, rfl⟩

theorem Kept.starts {total p : Nat} {node after : MultiPaxosNode C} (sound : Kept total p node)
    {cmd : C} {msgs : List (Message C)} {events : List (TraceEvent C)}
    (starts : node.Starts cmd msgs after events) : Kept total p after := by
  cases starts with
  | intro first inst result responses kept events bounded several opens cascade =>
    obtain ⟨configured, acceptor⟩ := opens.launched sound
    have fresh := sound.instanceAt_beyond (Nat.le_refl node.nextInstanceId)
    refine sound.cascade ?_ configured ?_ (.inr opens.answered) cascade rfl rfl rfl
      (Nat.le_succ _) (Nat.lt_succ_self _) bounded rfl
    · rw [sound.config] at several
      exact several
    · rw [acceptor, fresh, sound.fresh]

theorem Sound.starts {total p : Nat} {node after : MultiPaxosNode C} (sound : Sound total p node)
    {cmd : C} {msgs : List (Message C)} {events : List (TraceEvent C)}
    (starts : node.Starts cmd msgs after events) : Sound total p after where
  toKept := sound.toKept.starts starts
  leader := by
    cases starts
    exact sound.leader

omit [Serde Nat] [Serde (AcceptedValue C)] [DecidableEq C] in
theorem leaderAfter_cases {node : MultiPaxosNode C} {response : Option (MessageKind C)}
    {message : MessageKind C} {ballot : Nat}
    (leads : node.leaderAfter response message = some ballot) :
    node.leaderBallot = some ballot ∨
      ∃ learn, response = some (.learnMsg learn) ∧ learn.ballot = ballot ∧
        ∀ heard, message ≠ .learnMsg heard := by
  unfold leaderAfter at leads
  cases response with
  | none =>
    left
    cases message <;> simp_all [Option.filter_eq_some_iff]
  | some response =>
    cases response with
    | learnMsg learn =>
      cases message with
      | learnMsg heard => exact .inl leads
      | nackAcceptMsg nack =>
        exact .inr ⟨learn, rfl, Option.some.inj (Option.filter_eq_some_iff.mp leads).1, by simp⟩
      | _ => exact .inr ⟨learn, rfl, Option.some.inj leads, by simp⟩
    | _ =>
      left
      cases message <;> simp_all [Option.filter_eq_some_iff]

omit [DecidableEq C] in
theorem Kept.enough {total p : Nat} {node : MultiPaxosNode C} (sound : Kept total p node)
    {instanceId : Nat} (several : node.paxosInstances instanceId = none → 2 ≤ node.config.quorum) :
    2 ≤ quorumOf total := by
  cases present : node.paxosInstances instanceId with
  | none =>
    have large := several present
    rw [sound.config] at large
    exact large
  | some inst => exact sound.several instanceId inst present

theorem Kept.synod {total p : Nat} {node : MultiPaxosNode C} (sound : Kept total p node)
    {m : Message C} {responses : List (MessageKind C)} {result : PaxosInstance C}
    {kept : Option (PaxosStorage C)} {events : List (TraceEvent C)}
    (bounded : node.nextInstanceId ≤ m.paxosInstance → m.paxosInstance + 1 ≤ u64Max)
    (several : node.paxosInstances m.paxosInstance = none → 2 ≤ node.config.quorum)
    (cascade : (node.instanceAt m.paxosInstance).Cascade node.storage m.msg responses result kept
      events) :
    Kept total p (node.afterSynod m.paxosInstance m.msg responses.head? result kept) := by
  have room := sound.bounded
  refine sound.cascade (sound.enough several) (sound.instanceAt_configured m.paxosInstance) rfl
    (.inl (sound.instanceAt_settled m.paxosInstance)) cascade rfl rfl rfl (Nat.le_max_left _ _)
    (Nat.lt_of_lt_of_le (Nat.lt_succ_self _) (Nat.le_max_right _ _)) ?_ rfl
  refine Nat.max_le.mpr ⟨room, ?_⟩
  by_cases ahead : node.nextInstanceId ≤ m.paxosInstance
  · exact bounded ahead
  · omega

theorem Sound.synod {total p : Nat} {node : MultiPaxosNode C} (sound : Sound total p node)
    {m : Message C} {responses : List (MessageKind C)} {result : PaxosInstance C}
    {kept : Option (PaxosStorage C)} {events : List (TraceEvent C)}
    (bounded : node.nextInstanceId ≤ m.paxosInstance → m.paxosInstance + 1 ≤ u64Max)
    (several : node.paxosInstances m.paxosInstance = none → 2 ≤ node.config.quorum)
    (cascade : (node.instanceAt m.paxosInstance).Cascade node.storage m.msg responses result kept
      events)
    (rounds : ∀ wrapper, (node.instanceAt m.paxosInstance).proposer.innerState =
      .accepting wrapper → wrapper.ballot % total = p ∧ 0 < wrapper.ballot) :
    Sound total p (node.afterSynod m.paxosInstance m.msg responses.head? result kept) where
  toKept := sound.toKept.synod bounded several cascade
  leader ballot leads := by
    rcases leaderAfter_cases leads with kept | ⟨learn, answer, rfl, notLearn⟩
    · exact sound.leader ballot kept
    · obtain ⟨middle, saved, earlier, step⟩ := cascade.first
      rw [answer] at step
      rcases step.announces with ⟨heard, same, -⟩ | ⟨w, ack, state, -, -, -, same, -⟩
      · exact absurd same (notLearn heard)
      · exact same ▸ rounds w state

theorem Kept.proposes {total p : Nat} {node after : MultiPaxosNode C} (sound : Kept total p node)
    {cmd : C} {msgs : List (Message C)} {events : List (TraceEvent C)}
    (proposes : node.Proposes cmd msgs after events) : Kept total p after := by
  cases proposes with
  | forward forwards => exact sound.same rfl rfl rfl rfl rfl
  | start stays starts => exact sound.starts starts

theorem Kept.answers {total p : Nat} {node after : MultiPaxosNode C} (sound : Kept total p node)
    {m : Message C} {msgs : List (Message C)} {events : List (TraceEvent C)}
    (answers : node.Answers m msgs after events) : Kept total p after := by
  cases answers with
  | dropped senderId instanceId forwardId cmd unled => exact sound
  | taken senderId instanceId forwardId cmd leads starts =>
    exact (sound.starts starts).same rfl rfl rfl rfl rfl
  | acked senderId paxosInstance forwardId instanceId =>
    obtain ⟨forwarded, pending, whole⟩ := node.handleForwardAck_frame forwardId instanceId
    rw [whole]
    exact sound.same rfl rfl rfl rfl rfl
  | synod m synod responses result kept events bounded several cascade =>
    exact sound.synod bounded several cascade

omit [DecidableEq C] in
theorem Kept.getCommitId {total p : Nat} {node : MultiPaxosNode C} (sound : Kept total p node)
    (instanceId : Nat) : Kept total p (node.getCommitId instanceId).2 := by
  obtain ⟨pending, whole⟩ := node.getCommitId_frame instanceId
  rw [whole]
  exact sound.same rfl rfl rfl rfl rfl

end MultiPaxosNode

end Smr
