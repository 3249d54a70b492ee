import Smr.Node.Growth
import Smr.Storage.Json
import Smr.Shared.Run

set_option autoImplicit false

namespace Smr

section Runs

variable {C : Type} [Serde Nat] [Serde (AcceptedValue C)]

def PaxosStorage.Intact (store : PaxosStorage C) : Prop :=
  ∃ saved, store.Represents saved ∧ Ordered saved

namespace MultiPaxosNode

inductive Call (C : Type) where
  | propose (command : C)
  | deliver (message : Message C)
  | commit (instanceId : Nat)

variable [DecidableEq C]

-- The node after a call, whatever the call returns. One whose ids do not fit is stopped
-- by the overflow check.
def call (self : MultiPaxosNode C) : Call C → MultiPaxosNode C
  | .propose command => (self.propose command).after
  | .deliver message => (self.handleMessage message).after
  | .commit instanceId => (self.getCommitId instanceId).2

inductive Built (config : SmrConfig) : MultiPaxosNode C → Prop where
  | new : Built config (new config)
  | withStorage {store : PaxosStorage C} {node : MultiPaxosNode C} (intact : store.Intact)
      (built : MultiPaxosNode.withStorage config store = .ok node) : Built config node

def calls (config : SmrConfig) : Run.System (MultiPaxosNode C) (Call C) :=
  { init := Built config, step := fun node c after => after = node.call c }

def Any (_ : MultiPaxosNode C) (_ : Call C) : Prop :=
  True

-- What holds of a node after any calls, also of one whose last call failed halfway.
structure Upright (config : SmrConfig) (node : MultiPaxosNode C) : Prop where
  configured : node.config = config
  id : node.id = config.nodeId
  numbered : ∀ instanceId, (node.instanceAt instanceId).instanceId = instanceId
  below : ∀ instanceId inst, node.paxosInstances instanceId = some inst →
    instanceId < node.nextInstanceId
  bounded : node.nextInstanceId ≤ u64Max
  ordered : ∀ instanceId, (node.instanceAt instanceId).acceptor.Ordered
  storage : ∀ store, node.storage = some store → ∃ saved, store.Represents saved ∧
    Ordered saved ∧ ∀ instanceId, (node.instanceAt instanceId).Ahead saved

omit [DecidableEq C] in
theorem Upright.next_empty {config : SmrConfig} {node : MultiPaxosNode C}
    (upright : Upright config node) : node.paxosInstances node.nextInstanceId = none := by
  cases present : node.paxosInstances node.nextInstanceId with
  | none => rfl
  | some inst => exact absurd (upright.below _ inst present) (Nat.lt_irrefl _)

omit [DecidableEq C] in
theorem Built.upright {config : SmrConfig} {node : MultiPaxosNode C} (built : Built config node) :
    Upright config node := by
  cases built with
  | new =>
    exact
      { configured := rfl
        id := rfl
        numbered := fun _ => rfl
        below := fun _ _ present => by simp [MultiPaxosNode.new] at present
        bounded := Nat.zero_le _
        ordered := fun _ _ held => by
          simp [instanceAt, MultiPaxosNode.new, MultiPaxosNode.fresh, PaxosInstance.fresh,
            Acceptor.new] at held
        storage := fun _ stored => by simp [MultiPaxosNode.new] at stored }
  | @withStorage store node intact built =>
    obtain ⟨saved, represents, ordered⟩ := intact
    obtain ⟨next, bounded, below, rfl⟩ := withStorage_ok represents built
    have found := @instanceAt_restored C config.totalNodes config.nodeId next (some store) saved
    refine
      { configured := rfl
        id := rfl
        numbered := fun instanceId => by rw [found]; rfl
        below := fun instanceId inst present => ?_
        bounded := bounded
        ordered := fun instanceId value held => ?_
        storage := fun store stored => ⟨saved, Option.some.inj stored ▸ represents, ordered,
          fun instanceId state present => ?_⟩ }
    · obtain ⟨state, held, -⟩ := Option.map_eq_some_iff.mp present
      exact (below instanceId state held).1
    · rw [found] at held ⊢
      cases present : saved instanceId with
      | none => simp [recovered, present, Acceptor.new] at held
      | some state =>
        simp only [recovered, present, Option.map_eq_some_iff] at held ⊢
        obtain ⟨value, accepted, rfl⟩ := held
        exact ordered instanceId state value present accepted
    · rw [found] at present ⊢
      rw [show saved instanceId = some state from present]
      exact Nat.le_refl _

structure Keeps (before after : MultiPaxosNode C) : Prop where
  grows : ∀ instanceId, (before.instanceAt instanceId).Grows (after.instanceAt instanceId)
  stays : ∀ instanceId, before.paxosInstances instanceId ≠ none →
    after.paxosInstances instanceId ≠ none

omit [Serde Nat] [Serde (AcceptedValue C)] [DecidableEq C] in
theorem Keeps.refl (self : MultiPaxosNode C) : Keeps self self :=
  ⟨fun _ => .refl _, fun _ present => present⟩

omit [Serde Nat] [Serde (AcceptedValue C)] [DecidableEq C] in
theorem Keeps.trans {self middle after : MultiPaxosNode C} (first : Keeps self middle)
    (rest : Keeps middle after) : Keeps self after :=
  ⟨fun instanceId => (first.grows instanceId).trans (rest.grows instanceId),
    fun instanceId present => rest.stays instanceId (first.stays instanceId present)⟩

omit [Serde Nat] [Serde (AcceptedValue C)] [DecidableEq C] in
theorem instanceAt_getValue (self : MultiPaxosNode C) (instanceId : Nat) :
    (self.instanceAt instanceId).getValue =
      (self.paxosInstances instanceId).bind PaxosInstance.getValue := by
  unfold instanceAt
  cases self.paxosInstances instanceId <;> rfl

omit [Serde Nat] [Serde (AcceptedValue C)] [DecidableEq C] in
theorem Keeps.learned {before after : MultiPaxosNode C} (keeps : Keeps before after)
    {instanceId : Nat} {cmd : C}
    (known : (before.paxosInstances instanceId).bind PaxosInstance.getValue = some cmd) :
    (after.paxosInstances instanceId).bind PaxosInstance.getValue = some cmd := by
  rw [← instanceAt_getValue] at known ⊢
  exact (keeps.grows instanceId).learned cmd known

omit [Serde Nat] [Serde (AcceptedValue C)] [DecidableEq C] in
theorem instanceAt_same {self after : MultiPaxosNode C} (config : after.config = self.config)
    (id : after.id = self.id) (instances : after.paxosInstances = self.paxosInstances) :
    after.instanceAt = self.instanceAt := by
  funext instanceId
  simp only [instanceAt, MultiPaxosNode.fresh, config, id, instances]

omit [DecidableEq C] in
theorem Upright.begins {config : SmrConfig} {node : MultiPaxosNode C}
    (upright : Upright config node) {instanceId : Nat} {inst : PaxosInstance C}
    (begins : inst = node.instanceAt instanceId ∨
      instanceId = node.nextInstanceId ∧ ∃ state, inst = node.launched instanceId state) :
    (node.instanceAt instanceId).Grows inst ∧
      inst.acceptor = (node.instanceAt instanceId).acceptor := by
  rcases begins with rfl | ⟨rfl, state, rfl⟩
  · exact ⟨.refl _, rfl⟩
  · rw [instanceAt, upright.next_empty]
    exact ⟨.proposer _ _, rfl⟩

theorem Alters.writes {config : SmrConfig} {node after : MultiPaxosNode C}
    (alters : node.Alters after) (upright : Upright config node) {store : PaxosStorage C}
    (stored : node.storage = some store) {saved : SavedStates C}
    (ahead : ∀ instanceId, (node.instanceAt instanceId).Ahead saved) :
    ∃ next writes later, after.storage = some next ∧ store.Wrote next writes ∧
      Writes saved writes later ∧ (∀ instanceId, (after.instanceAt instanceId).Ahead later) ∧
      ∀ write ∈ writes, 2 ≤ node.config.quorum ∨ node.paxosInstances write.instanceId ≠ none := by
  cases alters with
  | still config id instances next bounded storage =>
    rw [instanceAt_same config id instances]
    exact ⟨store, [], saved, storage.trans stored, .refl store, .done saved, ahead, by simp⟩
  | @touched instanceId inst result message begins leaves several config id instances next above
      bounded =>
    obtain ⟨begins, same⟩ := upright.begins begins
    have numbered := begins.instanceId.trans (upright.numbered instanceId)
    obtain ⟨-, -, saves⟩ := leaves.grows (same ▸ upright.ordered instanceId)
    have fits : inst.instanceId < u64Max := by
      have room := bounded upright.bounded
      omega
    have reaches : inst.Ahead saved := by
      intro state present
      rw [same]
      exact ahead instanceId state (by rwa [upright.numbered, ← numbered])
    obtain ⟨next, writes, later, kept, wrote, whole, ahead', own⟩ :=
      saves store saved stored fits reaches
    refine ⟨next, writes, later, kept, wrote, whole,
      forall_put (fun _ inst => inst.Ahead later) config id instances ahead' fun other same => ?_,
      fun write member => ?_⟩
    · intro state present
      rw [upright.numbered, whole.elsewhere fun write member => by
        rwa [own write member, numbered]] at present
      exact ahead other state (by rwa [upright.numbered])
    · rw [own write member, numbered]
      exact several

theorem Alters.keeps {config : SmrConfig} {node after : MultiPaxosNode C}
    (alters : node.Alters after) (upright : Upright config node) :
    Keeps node after ∧ ∀ instanceId, (after.instanceAt instanceId).acceptor.Ordered := by
  cases alters with
  | still config id instances next bounded storage =>
    have found := instanceAt_same config id instances
    exact ⟨⟨by simp [found, PaxosInstance.Grows.refl], by simp [instances]⟩,
      found ▸ upright.ordered⟩
  | @touched instanceId inst result message begins leaves several config id instances next above
      bounded =>
    obtain ⟨begins, same⟩ := upright.begins begins
    obtain ⟨grows, ordered, -⟩ := leaves.grows (same ▸ upright.ordered instanceId)
    refine ⟨⟨forall_put (fun other inst => (node.instanceAt other).Grows inst) config id instances
        (begins.trans grows) fun other _ => .refl _, fun other present => ?_⟩,
      forall_put (fun _ inst => inst.acceptor.Ordered) config id instances ordered
        fun other _ => upright.ordered other⟩
    rw [instances]
    by_cases same : other = instanceId
    · subst same
      simp
    · rwa [Function.update_of_ne same]

theorem Alters.frame {node after : MultiPaxosNode C} (alters : node.Alters after) :
    after.config = node.config ∧ after.id = node.id ∧
      node.nextInstanceId ≤ after.nextInstanceId ∧
      (node.nextInstanceId ≤ u64Max → after.nextInstanceId ≤ u64Max) ∧
      (∀ instanceId, after.paxosInstances instanceId ≠ none →
        node.paxosInstances instanceId ≠ none ∨ instanceId < after.nextInstanceId) ∧
      (node.storage = none → after.storage = none) := by
  cases alters with
  | still config id instances next bounded storage =>
    exact ⟨config, id, next, bounded, fun instanceId present => .inl (instances ▸ present),
      fun unstored => storage.trans unstored⟩
  | @touched instanceId inst result message begins leaves several config id instances next above
      bounded =>
    refine ⟨config, id, next, bounded, fun other present => ?_, leaves.unstored⟩
    by_cases same : other = instanceId
    · exact .inr (same ▸ above)
    · rw [instances, Function.update_of_ne same] at present
      exact .inl present

theorem Alters.upright {config : SmrConfig} {node after : MultiPaxosNode C}
    (alters : node.Alters after) (upright : Upright config node) :
    Upright config after ∧ Keeps node after := by
  obtain ⟨keeps, ordered⟩ := alters.keeps upright
  obtain ⟨config', id, next, bounded, instances, unstored⟩ := alters.frame
  refine ⟨?_, keeps⟩
  refine
    { configured := config'.trans upright.configured
      id := id.trans upright.id
      numbered := fun instanceId =>
        (keeps.grows instanceId).instanceId.trans (upright.numbered instanceId)
      below := fun instanceId inst present => ?_
      bounded := bounded upright.bounded
      ordered := ordered
      storage := fun store stored => ?_ }
  · rcases instances instanceId (by simp [present]) with earlier | above
    · obtain ⟨inst', present'⟩ := Option.ne_none_iff_exists'.mp earlier
      exact Nat.lt_of_lt_of_le (upright.below instanceId inst' present') next
    · exact above
  · cases stores : node.storage with
    | none => exact absurd ((unstored stores).symm.trans stored) (by simp)
    | some before =>
      obtain ⟨saved, represents, orders, ahead⟩ := upright.storage before stores
      obtain ⟨next, writes, later, kept, wrote, whole, ahead', -⟩ :=
        alters.writes upright stores ahead
      obtain rfl := Option.some.inj (stored.symm.trans kept)
      exact ⟨later, represents.writes whole wrote, whole.ordered orders, ahead'⟩

theorem call_alters (self : MultiPaxosNode C) (c : Call C) : self.Alters (self.call c) := by
  cases c with
  | propose command => exact self.propose_alters command
  | deliver message => exact self.handleMessage_alters message
  | commit instanceId => exact self.getCommitId_alters instanceId

theorem calls_upright {config : SmrConfig} {node : MultiPaxosNode C}
    (reachable : (calls config).Reachable Any node) : Upright config node :=
  reachable.invariant (Upright config) (fun _ built => Built.upright built)
    fun _ _ _ _ upright _ next => next ▸ ((call_alters _ _).upright upright).1

theorem calls_keep {config : SmrConfig} {node later : MultiPaxosNode C}
    (upright : Upright config node) (steps : (calls config).Steps Any node later) :
    Keeps node later ∧ Upright config later := by
  induction steps with
  | refl => exact ⟨.refl node, upright⟩
  | tail _ last ih =>
    obtain ⟨c, -, rfl⟩ := last
    obtain ⟨upright', keeps⟩ := (call_alters _ c).upright ih.2
    exact ⟨ih.1.trans keeps, upright'⟩

theorem calls_intact {config : SmrConfig} {node : MultiPaxosNode C}
    (reachable : (calls config).Reachable Any node) {store : PaxosStorage C}
    (stored : node.storage = some store) : store.Intact := by
  obtain ⟨saved, represents, ordered, -⟩ := (calls_upright reachable).storage store stored
  exact ⟨saved, represents, ordered⟩

theorem instances_last {config : SmrConfig} {node : MultiPaxosNode C}
    (reachable : (calls config).Reachable Any node) :
    (∀ instanceId inst, node.paxosInstances instanceId = some inst →
      instanceId < node.nextInstanceId) ∧
    node.paxosInstances node.nextInstanceId = none ∧
    (∀ later, (calls config).Steps Any node later → ∀ instanceId inst,
      node.paxosInstances instanceId = some inst →
        ∃ inst', later.paxosInstances instanceId = some inst' ∧
          inst.acceptor.maxBallot ≤ inst'.acceptor.maxBallot ∧
          (∀ value, inst.acceptor.maxAccepted = some value →
            ∃ value', inst'.acceptor.maxAccepted = some value' ∧
              value.ballot ≤ value'.ballot) ∧
          ∀ cmd, inst.getValue = some cmd →
            (later.getCommitId instanceId).1.map Prod.fst = some cmd) ∧
    ∀ store, node.storage = some store → store.Intact := by
  have upright := calls_upright reachable
  refine ⟨upright.below, upright.next_empty, fun later steps instanceId inst present => ?_,
    fun store => calls_intact reachable⟩
  have keeps := (calls_keep upright steps).1
  obtain ⟨inst', present'⟩ :=
    Option.ne_none_iff_exists'.mp (keeps.stays instanceId (by simp [present]))
  have grows := keeps.grows instanceId
  rw [instanceAt, instanceAt, present, present', Option.getD_some, Option.getD_some] at grows
  refine ⟨inst', present', grows.ballot, grows.accepted, fun cmd known => ?_⟩
  simp [getCommitId, present', grows.learned cmd known]

end MultiPaxosNode

end Runs

namespace MultiPaxosNode

def zeroOfThree : SmrConfig :=
  { nodeId := 0, totalNodes := 3 }

def winning : List (Call Nat) :=
  [.propose 7,
    .deliver
      { senderId := 1, paxosInstance := 0
        msg := .promiseMsg { sender := 1, ballot := 3, maxAccepted := none } },
    .deliver
      { senderId := 1, paxosInstance := 0, msg := .ackAcceptMsg { sender := 1, ballot := 3 } },
    .deliver
      { senderId := 1, paxosInstance := 0
        msg := .learnMsg { sender := 1, ballot := 3, command := 7 } }]

def winner : MultiPaxosNode Nat :=
  winning.foldl call (new zeroOfThree)

theorem calls_reachable {node : MultiPaxosNode Nat}
    (reachable : (calls zeroOfThree).Reachable Any node) (cs : List (Call Nat)) :
    (calls zeroOfThree).Reachable Any (cs.foldl call node) := by
  induction cs generalizing node with
  | nil => exact reachable
  | cons c rest ih => exact ih (.step reachable trivial rfl)

theorem instances_last_learned :
    ((winner.call (.propose 9)).getCommitId 0).1.map Prod.fst = some 7 := by
  have reachable : (calls zeroOfThree).Reachable Any winner :=
    calls_reachable (.init .new) winning
  obtain ⟨-, -, lasts, -⟩ := instances_last reachable
  have learned : (winner.paxosInstances 0).bind PaxosInstance.getValue = some 7 := by
    decide +kernel
  obtain ⟨inst, present, known⟩ := Option.bind_eq_some_iff.mp learned
  obtain ⟨_, -, -, -, commits⟩ := lasts _ (.one trivial rfl) 0 inst present
  exact commits 7 known

-- Two saves in an order that no node comes to: the value accepted at ballot 5 stays while the
-- ballot promised falls to 3.
def disordered : PaxosStorage Nat :=
  (((PaxosStorage.new { map := .new, written := [], fails := fun _ => false }).saveAccept
    0 5 7).2.savePromise 0 3).2

def overtaking : Call Nat :=
  .deliver
    { senderId := 1, paxosInstance := 0
      msg := .acceptMsg { sender := 1, ballot := 4, command := 8 } }

def acceptedAt (node : MultiPaxosNode Nat) : Option Nat :=
  (node.instanceAt 0).acceptor.maxAccepted.map (·.ballot)

theorem accepted_falls :
    ¬∀ (store : PaxosStorage Nat) (node : MultiPaxosNode Nat) (c : Call Nat),
      withStorage zeroOfThree store = .ok node → ∀ ballot, acceptedAt node = some ballot →
        ∃ ballot', acceptedAt (node.call c) = some ballot' ∧ ballot ≤ ballot' := by
  intro keeps
  have falls : (withStorage zeroOfThree disordered).toOption.map (fun node =>
      (acceptedAt node, acceptedAt (node.call overtaking))) = some (some 5, some 4) := by
    decide +kernel
  obtain ⟨node, built, both⟩ := Option.map_eq_some_iff.mp falls
  obtain ⟨before, after⟩ := Prod.mk.inj both
  obtain ⟨ballot', after', le⟩ := keeps disordered node overtaking (toOption_some.mp built) 5 before
  obtain rfl := Option.some.inj (after.symm.trans after')
  omega

end MultiPaxosNode

end Smr
