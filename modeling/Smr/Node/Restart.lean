import Smr.Node.Sound

set_option autoImplicit false

namespace Smr

variable {C : Type} [Serde Nat] [Serde (AcceptedValue C)]

namespace MultiPaxosNode

structure Restorable (config : SmrConfig) (node : MultiPaxosNode C) : Prop where
  kept : Kept config.totalNodes config.nodeId node
  stored : node.storage.isSome
  several : ∀ store saved, node.storage = some store → store.Represents saved →
    ∀ instanceId state, saved instanceId = some state → 2 ≤ config.quorum

theorem Restorable.same {config : SmrConfig} {node after : MultiPaxosNode C}
    (restorable : Restorable config node) (kept : Kept config.totalNodes config.nodeId after)
    (storage : after.storage = node.storage) : Restorable config after where
  kept := kept
  stored := storage ▸ restorable.stored
  several := by
    rw [storage]
    exact restorable.several

theorem Restorable.withStorage {config : SmrConfig} {store : PaxosStorage C}
    {saved : Nat → Option (AcceptorState C)} {node : MultiPaxosNode C}
    (represents : store.Represents saved)
    (several : ∀ instanceId state, saved instanceId = some state → 2 ≤ config.quorum)
    (built : MultiPaxosNode.withStorage config store = .ok node) : Restorable config node := by
  have sound : Sound config.totalNodes config.nodeId node := Sound.withStorage represents built
  obtain ⟨next, bounded, below, rfl⟩ := withStorage_ok represents built
  refine ⟨sound.toKept, rfl, fun store' saved' stored represents' => ?_⟩
  obtain rfl := Option.some.inj stored
  rw [represents'.unique represents]
  exact several

theorem Restorable.empty {config : SmrConfig} {store : PaxosStorage C} {node : MultiPaxosNode C}
    (empty : store.storage.map.scanPrefix (Text.asBytes acceptorRoot) = [])
    (built : MultiPaxosNode.withStorage config store = .ok node) : Restorable config node :=
  .withStorage (PaxosStorage.represents_none empty) (by simp) built

theorem Restorable.restarts {config : SmrConfig} {node : MultiPaxosNode C} {store : PaxosStorage C}
    (restorable : Restorable config node) (stored : node.storage = some store) :
    ∃ after, MultiPaxosNode.withStorage config store = .ok after ∧ Restorable config after ∧
      ∀ instanceId, after.instanceAt instanceId =
        { Synod.fresh config.totalNodes config.nodeId instanceId with
          acceptor := (node.instanceAt instanceId).acceptor } := by
  obtain ⟨saved, represents, -⟩ := restorable.kept.storage store stored
  have several := restorable.several store saved stored represents
  obtain ⟨after, built⟩ := withStorage_built represents several
  refine ⟨after, built, .withStorage represents several built, ?_⟩
  refine (restorable.kept.restart stored ?_).2
  rw [restorable.kept.config]
  exact built

variable [DecidableEq C]

theorem Restorable.starts {config : SmrConfig} {node after : MultiPaxosNode C} {cmd : C}
    {msgs : List (Message C)} {events : List (TraceEvent C)} (restorable : Restorable config node)
    (starts : node.Starts cmd msgs after events) : Restorable config after := by
  have kept := restorable.kept.starts starts
  cases starts with
  | intro first inst result responses kept events bounded several opens cascade =>
    refine ⟨kept, cascade.stored restorable.stored, fun _ _ _ _ _ _ _ => ?_⟩
    rw [restorable.kept.config] at several
    exact several

theorem Restorable.proposes {config : SmrConfig} {node after : MultiPaxosNode C} {cmd : C}
    {msgs : List (Message C)} {events : List (TraceEvent C)} (restorable : Restorable config node)
    (proposes : node.Proposes cmd msgs after events) : Restorable config after := by
  have kept := restorable.kept.proposes proposes
  cases proposes with
  | forward forwards => exact restorable.same kept rfl
  | start stays starts => exact restorable.starts starts

theorem Restorable.answers {config : SmrConfig} {node after : MultiPaxosNode C} {m : Message C}
    {msgs : List (Message C)} {events : List (TraceEvent C)} (restorable : Restorable config node)
    (answers : node.Answers m msgs after events) : Restorable config after := by
  have kept := restorable.kept.answers answers
  cases answers with
  | dropped senderId instanceId forwardId cmd unled => exact restorable
  | taken senderId instanceId forwardId cmd leads starts =>
    exact (restorable.starts starts).same kept rfl
  | acked senderId paxosInstance forwardId instanceId =>
    obtain ⟨forwarded, pending, whole⟩ := node.handleForwardAck_frame forwardId instanceId
    exact restorable.same kept (by rw [whole])
  | synod m synod responses result kept' events bounded several cascade =>
    exact ⟨kept, cascade.stored restorable.stored, fun _ _ _ _ _ _ _ =>
      restorable.kept.enough several⟩

omit [DecidableEq C] in
theorem Restorable.getCommitId {config : SmrConfig} {node : MultiPaxosNode C}
    (restorable : Restorable config node) (instanceId : Nat) :
    Restorable config (node.getCommitId instanceId).2 := by
  obtain ⟨pending, whole⟩ := node.getCommitId_frame instanceId
  exact restorable.same (restorable.kept.getCommitId instanceId) (by rw [whole])

end MultiPaxosNode

end Smr
