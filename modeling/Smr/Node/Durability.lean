import Smr.Node.Calls

set_option autoImplicit false

namespace Smr

variable {C : Type}

def recovered (nodeId : Nat) : Option (AcceptorState C) → Acceptor C
  | none => Acceptor.new nodeId
  | some state =>
    { myId := nodeId
      maxBallot := state.maxBallot
      maxAccepted := state.maxAccepted.map fun v => { ballot := v.ballot, command := v.command } }

theorem persist_ok {store : PaxosStorage C} {kept : Option (PaxosStorage C)}
    {save : PaxosStorage C → Except Fault Unit × PaxosStorage C}
    (saved : persist (some store) save = (.ok (), kept)) :
    ∃ after, save store = (.ok (), after) ∧ kept = some after := by
  simp only [persist, Prod.mk.injEq] at saved
  exact ⟨(save store).2, Prod.ext saved.1 rfl, saved.2.symm⟩

theorem persist_none {kept : Option (PaxosStorage C)}
    {save : PaxosStorage C → Except Fault Unit × PaxosStorage C}
    (saved : persist none save = (.ok (), kept)) : kept = none := by
  simp only [persist, Prod.mk.injEq] at saved
  exact saved.2.symm

variable [Serde Nat] [Serde (AcceptedValue C)]

def Durable (nodeId : Nat) (store : PaxosStorage C) (acceptors : Nat → Acceptor C) : Prop :=
  ∃ saved, store.Represents saved ∧
    ∀ instanceId, acceptors instanceId = recovered nodeId (saved instanceId)

theorem Durable.promise {nodeId instanceId ballot : Nat} {store after : PaxosStorage C}
    {acceptors : Nat → Acceptor C} (durable : Durable nodeId store acceptors)
    (fits : instanceId < u64Max)
    (done : store.savePromise instanceId ballot = (.ok (), after)) :
    Durable nodeId after (Function.update acceptors instanceId
      { acceptors instanceId with maxBallot := ballot }) := by
  obtain ⟨saved, represents, spelled⟩ := durable
  refine ⟨_, represents.savePromise fits done, fun other => ?_⟩
  by_cases same : other = instanceId
  · subst same
    simp only [Function.update_self, spelled]
    cases saved other <;> rfl
  · simp only [Function.update_of_ne same, spelled]

theorem Durable.accept {nodeId instanceId ballot : Nat} {cmd : C} {store after : PaxosStorage C}
    {acceptors : Nat → Acceptor C} (durable : Durable nodeId store acceptors)
    (fits : instanceId < u64Max)
    (done : store.saveAccept instanceId ballot cmd = (.ok (), after)) :
    Durable nodeId after (Function.update acceptors instanceId
      { acceptors instanceId with
        maxBallot := ballot
        maxAccepted := some { ballot := ballot, command := cmd } }) := by
  obtain ⟨saved, represents, spelled⟩ := durable
  refine ⟨_, represents.saveAccept fits done, fun other => ?_⟩
  by_cases same : other = instanceId
  · subst same
    simp only [Function.update_self, spelled]
    cases saved other <;> rfl
  · simp only [Function.update_of_ne same, spelled]

namespace PaxosInstance

variable [DecidableEq C]

theorem Step.durable {self after : PaxosInstance C} {store : PaxosStorage C}
    {kept : Option (PaxosStorage C)} {message : MessageKind C}
    {response : Option (MessageKind C)} {events : List (TraceEvent C)}
    (step : self.Step (some store) message response after kept events) {nodeId : Nat}
    {acceptors : Nat → Acceptor C} (fits : self.instanceId < u64Max)
    (own : acceptors self.instanceId = self.acceptor) (durable : Durable nodeId store acceptors) :
    ∃ store', kept = some store' ∧
      Durable nodeId store' (Function.update acceptors self.instanceId after.acceptor) := by
  have unchanged : Function.update acceptors self.instanceId self.acceptor = acceptors := by
    rw [← own, Function.update_eq_self]
  cases step with
  | promise p kept higher saved =>
    obtain ⟨store', done, rfl⟩ := persist_ok saved
    have promised := durable.promise fits done
    rw [own] at promised
    exact ⟨store', rfl, promised⟩
  | ackAccept a kept current saved =>
    obtain ⟨store', done, rfl⟩ := persist_ok saved
    have accepted := durable.accept fits done
    rw [own] at accepted
    exact ⟨store', rfl, accepted⟩
  | _ => exact ⟨store, rfl, unchanged.symm ▸ durable⟩

theorem Step.unstored {self after : PaxosInstance C} {kept : Option (PaxosStorage C)}
    {message : MessageKind C} {response : Option (MessageKind C)} {events : List (TraceEvent C)}
    (step : self.Step none message response after kept events) : kept = none := by
  cases step with
  | promise p kept higher saved => exact persist_none saved
  | ackAccept a kept current saved => exact persist_none saved
  | _ => rfl

theorem Step.stored {self after : PaxosInstance C} {storage kept : Option (PaxosStorage C)}
    {message : MessageKind C} {response : Option (MessageKind C)} {events : List (TraceEvent C)}
    (step : self.Step storage message response after kept events) (stored : storage.isSome) :
    kept.isSome := by
  obtain ⟨store, rfl⟩ := Option.isSome_iff_exists.mp stored
  cases step with
  | promise p kept higher saved =>
    obtain ⟨store', -, rfl⟩ := persist_ok saved
    rfl
  | ackAccept a kept current saved =>
    obtain ⟨store', -, rfl⟩ := persist_ok saved
    rfl
  | _ => rfl

theorem Cascade.stored {self after : PaxosInstance C} {storage kept : Option (PaxosStorage C)}
    {message : MessageKind C} {responses : List (MessageKind C)} {events : List (TraceEvent C)}
    (cascade : Cascade self storage message responses after kept events)
    (stored : storage.isSome) : kept.isSome := by
  induction cascade with
  | last step => exact step.stored stored
  | more step _ ih => exact ih (step.stored stored)

theorem Cascade.durable {self after : PaxosInstance C} {storage kept : Option (PaxosStorage C)}
    {message : MessageKind C} {responses : List (MessageKind C)} {events : List (TraceEvent C)}
    (cascade : Cascade self storage message responses after kept events) {nodeId : Nat}
    (fits : self.instanceId < u64Max) {store : PaxosStorage C} (stored : storage = some store)
    {acceptors : Nat → Acceptor C} (own : acceptors self.instanceId = self.acceptor)
    (durable : Durable nodeId store acceptors) :
    ∃ store', kept = some store' ∧
      Durable nodeId store' (Function.update acceptors self.instanceId after.acceptor) := by
  induction cascade generalizing store acceptors with
  | last step =>
    subst stored
    exact step.durable fits own durable
  | more step _ ih =>
    subst stored
    obtain ⟨store', rfl, durable'⟩ := step.durable fits own durable
    have same := step.instanceId
    have rest := ih (by rw [same]; exact fits) rfl (by rw [same, Function.update_self]) durable'
    rw [same] at rest
    simpa using rest

theorem Step.saved_elsewhere {self after : PaxosInstance C} {store : PaxosStorage C}
    {kept : Option (PaxosStorage C)} {message : MessageKind C}
    {response : Option (MessageKind C)} {events : List (TraceEvent C)}
    (step : self.Step (some store) message response after kept events)
    (fits : self.instanceId < u64Max) {saved : Nat → Option (AcceptorState C)}
    (represents : store.Represents saved) :
    ∃ store' saved', kept = some store' ∧ store'.Represents saved' ∧
      ∀ other, other ≠ self.instanceId → saved' other = saved other := by
  cases step with
  | promise p kept higher saving =>
    obtain ⟨store', done, rfl⟩ := persist_ok saving
    exact ⟨store', _, rfl, represents.savePromise fits done, fun other differs => by simp [differs]⟩
  | ackAccept a kept current saving =>
    obtain ⟨store', done, rfl⟩ := persist_ok saving
    exact ⟨store', _, rfl, represents.saveAccept fits done, fun other differs => by simp [differs]⟩
  | _ => exact ⟨store, saved, rfl, represents, fun _ _ => rfl⟩

theorem Cascade.saved_elsewhere {self after : PaxosInstance C}
    {storage kept : Option (PaxosStorage C)} {message : MessageKind C}
    {responses : List (MessageKind C)} {events : List (TraceEvent C)}
    (cascade : Cascade self storage message responses after kept events)
    (fits : self.instanceId < u64Max) {store : PaxosStorage C} (stored : storage = some store)
    {saved : Nat → Option (AcceptorState C)} (represents : store.Represents saved) :
    ∃ store' saved', kept = some store' ∧ store'.Represents saved' ∧
      ∀ other, other ≠ self.instanceId → saved' other = saved other := by
  induction cascade generalizing store saved with
  | last step =>
    subst stored
    exact step.saved_elsewhere fits represents
  | more step _ ih =>
    subst stored
    obtain ⟨middle, between, rfl, represents', same⟩ := step.saved_elsewhere fits represents
    rw [← step.instanceId] at fits same
    obtain ⟨store', saved', rfl, represents'', same'⟩ := ih fits rfl represents'
    refine ⟨store', saved', rfl, represents'', fun other differs => ?_⟩
    rw [← step.instanceId] at differs
    exact (same' other differs).trans (same other differs)

theorem Cascade.unstored {self after : PaxosInstance C} {storage kept : Option (PaxosStorage C)}
    {message : MessageKind C} {responses : List (MessageKind C)} {events : List (TraceEvent C)}
    (cascade : Cascade self storage message responses after kept events)
    (unstored : storage = none) : kept = none := by
  induction cascade with
  | last step =>
    subst unstored
    exact step.unstored
  | more step _ ih =>
    subst unstored
    exact ih step.unstored

end PaxosInstance

namespace MultiPaxosNode

omit [Serde Nat] [Serde (AcceptedValue C)] in
theorem new_ok {nodeId quorumSize totalNodes instanceId : Nat} {inst : PaxosInstance C} :
    PaxosInstance.new nodeId quorumSize totalNodes instanceId = .ok inst ↔
      2 ≤ quorumSize ∧ inst = PaxosInstance.fresh nodeId quorumSize totalNodes instanceId := by
  unfold PaxosInstance.new
  split
  next small => simp [Nat.not_le.mpr small]
  next large => simp [Nat.le_of_not_lt large, eq_comm]

def restored (config : SmrConfig) (instanceId : Nat) (state : AcceptorState C) :
    PaxosInstance C :=
  (PaxosInstance.fresh config.nodeId config.quorum config.totalNodes instanceId).restoreAcceptor
    state

omit [Serde Nat] [Serde (AcceptedValue C)] in
theorem restoreInstances_ok {config : SmrConfig} {states : List (Nat × AcceptorState C)}
    {before after : Nat → Option (PaxosInstance C)} {next last : Nat}
    (done : restoreInstances config states before next = .ok (after, last))
    (increasing : (states.map Prod.fst).Pairwise (· < ·)) :
    (∀ instanceId state, (instanceId, state) ∈ states →
      after instanceId = some (restored config instanceId state) ∧ instanceId < last ∧
        2 ≤ config.quorum) ∧
    (∀ instanceId, instanceId ∉ states.map Prod.fst → after instanceId = before instanceId) ∧
    next ≤ last ∧ (next ≤ u64Max → last ≤ u64Max) := by
  induction states generalizing before next with
  | nil =>
    simp only [restoreInstances, Except.ok.injEq, Prod.mk.injEq] at done
    obtain ⟨rfl, rfl⟩ := done
    simp
  | cons entry rest ih =>
    obtain ⟨instanceId, state⟩ := entry
    simp only [List.map_cons, List.pairwise_cons] at increasing
    unfold restoreInstances at done
    obtain ⟨inst, made, done⟩ := bind_ok.mp done
    obtain ⟨several, rfl⟩ := new_ok.mp made
    have moved : ∃ middle, next ≤ middle ∧ instanceId < middle ∧
        (next ≤ u64Max → middle ≤ u64Max) ∧
        restoreInstances config rest (Function.update before instanceId
          (some (restored config instanceId state))) middle = .ok (after, last) := by
      split at done
      next behind =>
        obtain ⟨middle, counted, done⟩ := bind_ok.mp done
        obtain ⟨bounded, rfl⟩ := u64Add_ok.mp counted
        exact ⟨instanceId + 1, by omega, by omega, fun _ => bounded, done⟩
      next ahead => exact ⟨next, Nat.le_refl _, by omega, fun fits => fits, done⟩
    obtain ⟨middle, grows, above, bounded, done⟩ := moved
    obtain ⟨listed, unlisted, later, fits⟩ := ih done increasing.2
    refine ⟨fun other state' member => ?_, fun other missing => ?_, by omega,
      fun h => fits (bounded h)⟩
    · rcases List.mem_cons.mp member with same | member
      · simp only [Prod.mk.injEq] at same
        obtain ⟨rfl, rfl⟩ := same
        have absent : other ∉ rest.map Prod.fst := fun again =>
          Nat.lt_irrefl _ (increasing.1 other again)
        exact ⟨by rw [unlisted other absent, Function.update_self], by omega, several⟩
      · exact listed other state' member
    · simp only [List.map_cons, List.mem_cons, not_or] at missing
      rw [unlisted other missing.2, Function.update_of_ne missing.1]

theorem withStorage_forgets {config : SmrConfig} {store : PaxosStorage C} {node : MultiPaxosNode C}
    (built : withStorage config store = .ok node) :
    node.leaderBallot = none ∧ node.pendingSenders = (fun _ => none) ∧
      node.forwardedSenders = (fun _ => none) ∧ node.forwardedInstances = fun _ => none := by
  unfold withStorage at built
  obtain ⟨states, read, built⟩ := bind_ok.mp built
  obtain ⟨⟨instances, next⟩, restores, built⟩ := bind_ok.mp built
  simp only [pure, Except.pure, Except.ok.injEq] at built
  exact built ▸ ⟨rfl, rfl, rfl, rfl⟩

theorem withStorage_unaware {config : SmrConfig} {store : PaxosStorage C} {node : MultiPaxosNode C}
    (built : withStorage config store = .ok node) : node.knownLeaderId = none := by
  unfold withStorage at built
  obtain ⟨states, read, built⟩ := bind_ok.mp built
  obtain ⟨⟨instances, next⟩, restores, built⟩ := bind_ok.mp built
  simp only [pure, Except.pure, Except.ok.injEq] at built
  exact built ▸ rfl

omit [Serde Nat] [Serde (AcceptedValue C)] in
theorem restoreInstances_below {config : SmrConfig} {states : List (Nat × AcceptorState C)}
    {instances built : Nat → Option (PaxosInstance C)} {next last : Nat}
    (restores : restoreInstances config states instances next = .ok (built, last))
    (below : ∀ instanceId, instances instanceId ≠ none → instanceId < next) :
    ∀ instanceId, built instanceId ≠ none → instanceId < last := by
  induction states generalizing instances next with
  | nil =>
    obtain ⟨rfl, rfl⟩ := Prod.mk.inj (Except.ok.inj restores)
    exact below
  | cons entry rest ih =>
    obtain ⟨instanceId, state⟩ := entry
    obtain ⟨inst, -, restores⟩ := bind_ok.mp restores
    have continues {later : Nat} (grows : next ≤ later ∧ instanceId < later)
        (restores : restoreInstances config rest
          (Function.update instances instanceId (some (inst.restoreAcceptor state))) later =
            .ok (built, last)) : ∀ other, built other ≠ none → other < last := by
      refine ih restores fun other present => ?_
      by_cases same : other = instanceId
      · exact same ▸ grows.2
      · rw [Function.update_of_ne same] at present
        exact Nat.lt_of_lt_of_le (below other present) grows.1
    split at restores
    next beyond =>
      obtain ⟨later, counted, restores⟩ := bind_ok.mp restores
      obtain ⟨-, rfl⟩ := u64Add_ok.mp counted
      exact continues (by omega) restores
    next inside => exact continues (by omega) restores

theorem withStorage_below {config : SmrConfig} {store : PaxosStorage C} {node : MultiPaxosNode C}
    (built : withStorage config store = .ok node) (instanceId : Nat)
    (present : node.paxosInstances instanceId ≠ none) : instanceId < node.nextInstanceId := by
  unfold withStorage at built
  obtain ⟨states, read, built⟩ := bind_ok.mp built
  obtain ⟨⟨instances, next⟩, restores, built⟩ := bind_ok.mp built
  simp only [pure, Except.pure, Except.ok.injEq] at built
  subst built
  exact restoreInstances_below restores (by simp) instanceId present

theorem withStorage_ok {config : SmrConfig} {store : PaxosStorage C} {node : MultiPaxosNode C}
    {saved : Nat → Option (AcceptorState C)} (represents : store.Represents saved)
    (built : withStorage config store = .ok node) :
    ∃ next ≤ u64Max,
      (∀ instanceId state, saved instanceId = some state →
        instanceId < next ∧ 2 ≤ config.quorum) ∧
      node =
        { new config with
          paxosInstances := fun instanceId => (saved instanceId).map (restored config instanceId)
          nextInstanceId := next
          storage := some store } := by
  obtain ⟨states, loaded, entries, increasing⟩ := represents.loadAll
  unfold withStorage at built
  obtain ⟨listing, read, built⟩ := bind_ok.mp built
  have same : states = listing := Except.ok.inj (loaded.symm.trans read)
  subst same
  obtain ⟨⟨instances, next⟩, restores, built⟩ := bind_ok.mp built
  obtain ⟨listed, unlisted, -, bounded⟩ := restoreInstances_ok restores increasing
  refine ⟨next, bounded (Nat.zero_le _), fun instanceId state present => ?_, ?_⟩
  · exact (listed instanceId state ((entries instanceId state).mpr present)).2
  · simp only [pure, Except.pure, Except.ok.injEq] at built
    rw [← built]
    congr 1
    funext instanceId
    cases present : saved instanceId with
    | none =>
      refine (unlisted instanceId fun member => ?_).trans rfl
      obtain ⟨⟨other, state⟩, entry, rfl⟩ := List.mem_map.mp member
      simp [(entries other state).mp entry] at present
    | some state =>
      exact (listed instanceId state ((entries instanceId state).mpr present)).1

omit [Serde Nat] [Serde (AcceptedValue C)] in
theorem restoreInstances_built {config : SmrConfig} (states : List (Nat × AcceptorState C))
    (instances : Nat → Option (PaxosInstance C)) (next : Nat)
    (below : ∀ entry ∈ states, entry.1 < u64Max) (several : states ≠ [] → 2 ≤ config.quorum) :
    ∃ restored, restoreInstances config states instances next = .ok restored := by
  induction states generalizing instances next with
  | nil => exact ⟨_, rfl⟩
  | cons entry rest ih =>
    obtain ⟨instanceId, state⟩ := entry
    have large := several (by simp)
    have made : (PaxosInstance.new config.nodeId config.quorum config.totalNodes instanceId :
        Except Fault (PaxosInstance C)) = .ok _ := new_ok.mpr ⟨large, rfl⟩
    have counted : u64Add instanceId 1 = .ok (instanceId + 1) :=
      u64Add_ok.mpr ⟨below (instanceId, state) (by simp), rfl⟩
    have continues (next : Nat) := ih
      (Function.update instances instanceId (some (restored config instanceId state))) next
      (fun entry member => below entry (List.mem_cons_of_mem _ member)) fun _ => large
    unfold restoreInstances
    simp only [made, counted, bind, Except.bind]
    split
    · exact continues (instanceId + 1)
    · exact continues next

omit [Serde Nat] [Serde (AcceptedValue C)] in
theorem restoreInstances_next {config : SmrConfig} {states : List (Nat × AcceptorState C)}
    {before after : Nat → Option (PaxosInstance C)} {next last : Nat}
    (done : restoreInstances config states before next = .ok (after, last)) :
    last = next ∨ ∃ entry ∈ states, last = entry.1 + 1 := by
  induction states generalizing before next with
  | nil =>
    simp only [restoreInstances, Except.ok.injEq, Prod.mk.injEq] at done
    exact .inl done.2.symm
  | cons entry rest ih =>
    unfold restoreInstances at done
    obtain ⟨inst, made, done⟩ := bind_ok.mp done
    split at done
    next behind =>
      obtain ⟨middle, counted, done⟩ := bind_ok.mp done
      obtain ⟨bounded, rfl⟩ := u64Add_ok.mp counted
      rcases ih done with same | ⟨later, member, same⟩
      · exact .inr ⟨entry, List.mem_cons_self, same⟩
      · exact .inr ⟨later, List.mem_cons_of_mem _ member, same⟩
    next ahead =>
      rcases ih done with same | ⟨later, member, same⟩
      · exact .inl same
      · exact .inr ⟨later, List.mem_cons_of_mem _ member, same⟩

theorem withStorage_next {config : SmrConfig} {store : PaxosStorage C} {node : MultiPaxosNode C}
    {saved : Nat → Option (AcceptorState C)} (represents : store.Represents saved)
    (built : withStorage config store = .ok node) (bound : Nat) :
    bound ≤ node.nextInstanceId ↔ bound = 0 ∨
      ∃ instanceId, bound ≤ instanceId + 1 ∧
        (store.storage.map.get (ballotKey instanceId)).isSome := by
  obtain ⟨next, -, below, whole⟩ := withStorage_ok represents built
  have same : node.nextInstanceId = next := by rw [whole]
  have held (instanceId : Nat) : (store.storage.map.get (ballotKey instanceId)).isSome ↔
      (saved instanceId).isSome := by
    rw [represents.ballots, Option.isSome_map]
  obtain ⟨states, loaded, entries, -⟩ := represents.loadAll
  have built' := built
  unfold withStorage at built'
  obtain ⟨listing, read, built'⟩ := bind_ok.mp built'
  obtain rfl := Except.ok.inj (loaded.symm.trans read)
  obtain ⟨⟨instances, last⟩, restores, built'⟩ := bind_ok.mp built'
  simp only [pure, Except.pure, Except.ok.injEq] at built'
  have counted : node.nextInstanceId = last := by rw [← built']
  constructor
  · intro reaches
    rcases restoreInstances_next restores with zero | ⟨entry, member, rfl⟩
    · exact .inl (by omega)
    · refine .inr ⟨entry.1, by omega, (held _).mpr ?_⟩
      rw [(entries entry.1 entry.2).mp member]
      rfl
  · rintro (rfl | ⟨instanceId, reaches, present⟩)
    · exact Nat.zero_le _
    · obtain ⟨state, found⟩ := Option.isSome_iff_exists.mp ((held _).mp present)
      have inside := (below instanceId state found).1
      omega

theorem withStorage_built {config : SmrConfig} {store : PaxosStorage C}
    {saved : Nat → Option (AcceptorState C)} (represents : store.Represents saved)
    (several : ∀ instanceId state, saved instanceId = some state → 2 ≤ config.quorum) :
    ∃ node, withStorage config store = .ok node := by
  obtain ⟨states, loaded, entries, -⟩ := represents.loadAll
  obtain ⟨restored, restores⟩ := restoreInstances_built states
    (fun _ => none) 0
    (fun entry member => represents.below ((entries entry.1 entry.2).mp member))
    fun some_state => by
      obtain ⟨entry, member⟩ := List.exists_mem_of_ne_nil states some_state
      exact several _ _ ((entries entry.1 entry.2).mp member)
  unfold withStorage
  simp only [loaded, restores, bind, Except.bind]
  exact ⟨_, rfl⟩

end MultiPaxosNode

end Smr
