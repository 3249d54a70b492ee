import Smr.Node.Calls

set_option autoImplicit false

namespace Smr

variable {C : Type}

namespace PaxosInstance

variable [DecidableEq C] [Serde Nat] [Serde (AcceptedValue C)]

-- How a call to an instance leaves it when a put fails: the acceptor has moved, and the
-- second put of save_accept may be missing.
inductive Stops (self : PaxosInstance C) (storage : Option (PaxosStorage C)) :
    MessageKind C → PaxosInstance C → Option (PaxosStorage C) → Prop where
  | promise (p : Prepare) {fault : Fault} {kept : Option (PaxosStorage C)}
      (higher : self.acceptor.maxBallot < p.ballot)
      (failed : persist storage (·.savePromise self.instanceId p.ballot) = (.error fault, kept)) :
      Stops self storage (.prepareMsg p)
        { self with acceptor := { self.acceptor with maxBallot := p.ballot } } kept
  | ackAccept (a : Accept C) {fault : Fault} {kept : Option (PaxosStorage C)}
      (current : self.acceptor.maxBallot ≤ a.ballot)
      (failed : persist storage (·.saveAccept self.instanceId a.ballot a.command) =
        (.error fault, kept)) :
      Stops self storage (.acceptMsg a)
        { self with
          acceptor :=
            { self.acceptor with
              maxBallot := a.ballot
              maxAccepted := some { ballot := a.ballot, command := a.command } } } kept

inductive Leaves : PaxosInstance C → Option (PaxosStorage C) → MessageKind C → PaxosInstance C →
    Option (PaxosStorage C) → Prop where
  | cut (self : PaxosInstance C) (storage : Option (PaxosStorage C)) (message : MessageKind C) :
      Leaves self storage message self storage
  | stop {self after : PaxosInstance C} {storage kept : Option (PaxosStorage C)}
      {message : MessageKind C} (stops : self.Stops storage message after kept) :
      Leaves self storage message after kept
  | last {self after : PaxosInstance C} {storage kept : Option (PaxosStorage C)}
      {message : MessageKind C} {events : List (TraceEvent C)}
      (step : self.Step storage message none after kept events) :
      Leaves self storage message after kept
  | more {self middle after : PaxosInstance C} {storage saved kept : Option (PaxosStorage C)}
      {message response : MessageKind C} {events : List (TraceEvent C)}
      (step : self.Step storage message (some response) middle saved events)
      (rest : Leaves middle saved response after kept) :
      Leaves self storage message after kept

theorem Cascade.leaves {self after : PaxosInstance C} {storage kept : Option (PaxosStorage C)}
    {message : MessageKind C} {responses : List (MessageKind C)} {events : List (TraceEvent C)}
    (cascade : Cascade self storage message responses after kept events) :
    Leaves self storage message after kept := by
  induction cascade with
  | last step => exact .last step
  | more step _ ih => exact .more step ih

omit [DecidableEq C] in
theorem handlePrepare_stops {self : PaxosInstance C} {p : Prepare}
    {storage : Option (PaxosStorage C)} {fault : Fault}
    (failed : (self.handlePrepare p storage).result = .error fault) :
    self.Stops storage (.prepareMsg p) (self.handlePrepare p storage).after
      (self.handlePrepare p storage).storage := by
  simp only [handlePrepare] at failed ⊢
  rcases Nat.lt_or_ge self.acceptor.maxBallot p.ballot with higher | lower
  · rw [Acceptor.handlePrepare_promise _ _ higher] at failed ⊢
    dsimp only at failed ⊢
    split at failed
    next fault' kept saved => exact .promise p higher saved
    next => simp at failed
  · rw [Acceptor.handlePrepare_nack _ _ lower] at failed
    simp at failed

omit [DecidableEq C] in
theorem handleAccept_stops {self : PaxosInstance C} {a : Accept C}
    {storage : Option (PaxosStorage C)} {fault : Fault}
    (failed : (self.handleAccept a storage).result = .error fault) :
    self.Stops storage (.acceptMsg a) (self.handleAccept a storage).after
      (self.handleAccept a storage).storage := by
  simp only [handleAccept] at failed ⊢
  rcases Nat.lt_or_ge a.ballot self.acceptor.maxBallot with stale | current
  · rw [Acceptor.handleAccept_nack _ _ stale] at failed
    simp at failed
  · rw [Acceptor.handleAccept_ack _ _ current] at failed ⊢
    dsimp only at failed ⊢
    split at failed
    next fault' kept saved => exact .ackAccept a current saved
    next => simp at failed

theorem handleMessage_stops {self : PaxosInstance C} {message : MessageKind C}
    {storage : Option (PaxosStorage C)} {fault : Fault}
    (failed : (self.handleMessage message storage).result = .error fault) :
    (self.handleMessage message storage).after = self ∧
        (self.handleMessage message storage).storage = storage ∨
      self.Stops storage message (self.handleMessage message storage).after
        (self.handleMessage message storage).storage := by
  have asked (message : MessageKind C)
      (failed : (self.askProposer message storage).result = .error fault) :
      (self.askProposer message storage).after = self ∧
        (self.askProposer message storage).storage = storage := by
    unfold askProposer at failed ⊢
    split at failed
    next => exact ⟨rfl, rfl⟩
    next => simp at failed
  cases message with
  | prepareMsg p => exact .inr (handlePrepare_stops failed)
  | acceptMsg a => exact .inr (handleAccept_stops failed)
  | learnMsg m =>
    left
    simp only [handleMessage, handleLearn] at failed ⊢
    split at failed
    next => exact ⟨rfl, rfl⟩
    next => simp at failed
  | promiseMsg _ | ackAcceptMsg _ | nackPrepareMsg _ | nackAcceptMsg _
  | requestCommandToLeader _ _ => exact .inl (asked _ failed)
  | forwardAck _ _ | learnedCommand _ => exact .inl ⟨rfl, rfl⟩

end PaxosInstance

namespace MultiPaxosNode

variable [DecidableEq C] [Serde Nat] [Serde (AcceptedValue C)]

theorem selfDeliverLoop_leaves {fuel : Nat} {self : MultiPaxosNode C} {instanceId : Nat}
    {inst : PaxosInstance C} {message : MessageKind C}
    (present : self.paxosInstances instanceId = some inst) (synod : message.IsSynod) :
    ∃ after kept, inst.Leaves self.storage message after kept ∧
      (selfDeliverLoop fuel self instanceId [message]).after =
        self.putInstance instanceId after kept := by
  have unchanged : self = self.putInstance instanceId inst self.storage := by
    unfold putInstance
    rw [← present, Function.update_eq_self]
  induction fuel generalizing self inst message with
  | zero => exact ⟨inst, self.storage, .cut _ _ _, unchanged⟩
  | succ fuel ih =>
    simp only [selfDeliverLoop, present]
    split
    next fault failed =>
      rcases PaxosInstance.handleMessage_stops failed with ⟨same, stored⟩ | stops
      · exact ⟨_, _, .cut _ _ _, by rw [same, stored]⟩
      · exact ⟨_, _, .stop stops, rfl⟩
    next response handled =>
      have step := PaxosInstance.handleMessage_step synod handled
      cases response with
      | none =>
        refine ⟨_, _, .last step, ?_⟩
        cases fuel <;> simp [selfDeliverLoop]
      | some response =>
        have stored : (self.putInstance instanceId
            (inst.handleMessage message self.storage).after
            (inst.handleMessage message self.storage).storage).paxosInstances instanceId =
              some (inst.handleMessage message self.storage).after := by simp [putInstance]
        obtain ⟨after, kept, leaves, whole⟩ := ih stored step.response_isSynod (by
          simp [putInstance])
        refine ⟨after, kept, .more step leaves, ?_⟩
        simp only [Option.toList_some, List.cons_append, List.nil_append]
        rw [whole]
        simp [putInstance]

theorem selfDeliver_leaves (self : MultiPaxosNode C) {instanceId : Nat} {inst : PaxosInstance C}
    {message : MessageKind C} (present : self.paxosInstances instanceId = some inst)
    (synod : message.IsSynod) :
    ∃ after kept, inst.Leaves self.storage message after kept ∧
      (self.selfDeliver instanceId message).after = self.putInstance instanceId after kept :=
  selfDeliverLoop_leaves present synod

inductive Alters (self after : MultiPaxosNode C) : Prop where
  | still (config : after.config = self.config) (id : after.id = self.id)
      (instances : after.paxosInstances = self.paxosInstances)
      (next : self.nextInstanceId ≤ after.nextInstanceId)
      (bounded : self.nextInstanceId ≤ u64Max → after.nextInstanceId ≤ u64Max)
      (storage : after.storage = self.storage)
  | touched {instanceId : Nat} {inst result : PaxosInstance C} {message : MessageKind C}
      (begins : inst = self.instanceAt instanceId ∨
        instanceId = self.nextInstanceId ∧ ∃ state, inst = self.launched instanceId state)
      (leaves : inst.Leaves self.storage message result after.storage)
      (several : 2 ≤ self.config.quorum ∨ self.paxosInstances instanceId ≠ none)
      (config : after.config = self.config) (id : after.id = self.id)
      (instances : after.paxosInstances =
        Function.update self.paxosInstances instanceId (some result))
      (next : self.nextInstanceId ≤ after.nextInstanceId)
      (above : instanceId < after.nextInstanceId)
      (bounded : self.nextInstanceId ≤ u64Max → after.nextInstanceId ≤ u64Max)

theorem Alters.refl (self : MultiPaxosNode C) : self.Alters self :=
  .still rfl rfl rfl (Nat.le_refl _) (fun fits => fits) rfl

theorem Alters.same {self middle after : MultiPaxosNode C} (alters : self.Alters middle)
    (config : after.config = middle.config) (id : after.id = middle.id)
    (instances : after.paxosInstances = middle.paxosInstances)
    (next : after.nextInstanceId = middle.nextInstanceId)
    (storage : after.storage = middle.storage) : self.Alters after := by
  cases alters with
  | still config' id' instances' next' bounded' storage' =>
    exact .still (config.trans config') (id.trans id') (instances.trans instances')
      (next ▸ next') (next ▸ bounded') (storage.trans storage')
  | touched begins leaves several config' id' instances' next' above' bounded' =>
    exact .touched begins (storage ▸ leaves) several (config.trans config') (id.trans id')
      (instances.trans instances') (next ▸ next') (next ▸ above') (next ▸ bounded')

theorem start_leaves (self : MultiPaxosNode C) (cmd : C) :
    (∃ next, self.nextInstanceId ≤ next ∧ (self.nextInstanceId ≤ u64Max → next ≤ u64Max) ∧
      (self.nextInstanceId < u64Max → next = self.nextInstanceId + 1) ∧
      (self.start cmd).after = { self with nextInstanceId := next }) ∨
    ∃ first inst result kept pending channels,
      self.nextInstanceId + 1 ≤ u64Max ∧ 2 ≤ self.config.quorum ∧
      self.Opens self.nextInstanceId cmd first inst ∧
      inst.Leaves self.storage first result kept ∧
      (self.start cmd).after =
        { self with
          paxosInstances := Function.update self.paxosInstances self.nextInstanceId (some result)
          nextInstanceId := self.nextInstanceId + 1
          storage := kept
          pendingSenders := pending
          channels := channels } := by
  unfold start
  dsimp only
  split
  next fault stopped =>
    refine .inl ⟨self.nextInstanceId, Nat.le_refl _, fun fits => fits, fun fits => ?_, rfl⟩
    rw [u64Add_ok.mpr ⟨fits, rfl⟩] at stopped
    simp at stopped
  next nextInstanceId counted =>
    obtain ⟨bounded, rfl⟩ := u64Add_ok.mp counted
    split
    next =>
      exact .inl ⟨self.nextInstanceId + 1, Nat.le_succ _, fun _ => bounded, fun _ => rfl, rfl⟩
    next first inst opened =>
      obtain ⟨several, opens⟩ := opens_ok opened
      have opens := opens.counted
      obtain ⟨after, kept, leaves, whole⟩ := selfDeliver_leaves
        ({ self with
          nextInstanceId := self.nextInstanceId + 1
          paxosInstances := Function.update self.paxosInstances self.nextInstanceId (some inst) } :
            MultiPaxosNode C)
        (Function.update_self _ _ _) opens.isSynod
      split
      next =>
        refine .inr ⟨first, inst, after, kept, self.pendingSenders, self.channels, bounded, several,
          opens, leaves, ?_⟩
        simp only [whole, putInstance, Function.update_idem]
      next =>
        refine .inr ⟨first, inst, after, kept, Function.update self.pendingSenders
          self.nextInstanceId (some { serial := self.channels, command := cmd, forwardId := none }),
          self.channels + 1, bounded, several, opens, leaves, ?_⟩
        simp only [whole, putInstance, Function.update_idem]

theorem start_alters (self : MultiPaxosNode C) (cmd : C) : self.Alters (self.start cmd).after := by
  rcases self.start_leaves cmd with ⟨next, later, bounded, -, whole⟩ |
    ⟨first, inst, result, kept, pending, channels, bounded, several, opens, leaves, whole⟩
  · rw [whole]
    exact .still rfl rfl rfl later bounded rfl
  · have launched : ∃ state, inst = self.launched self.nextInstanceId state := by
      cases opens <;> exact ⟨_, rfl⟩
    rw [whole]
    exact .touched (.inr ⟨rfl, launched⟩) leaves (.inl several) rfl rfl rfl (Nat.le_succ _)
      (Nat.lt_succ_self _) fun _ => bounded

theorem propose_alters (self : MultiPaxosNode C) (cmd : C) :
    self.Alters (self.propose cmd).after := by
  unfold propose
  split
  next =>
    unfold forward
    split
    · exact .refl self
    · exact (Alters.refl self).same rfl rfl rfl rfl rfl
  next => exact self.start_alters cmd

theorem handleSynod_leaves (self : MultiPaxosNode C) (instanceId : Nat)
    {message : MessageKind C} (synod : message.IsSynod) :
    (∃ fault, (do
        let next ← self.nextAfter instanceId
        let inst ← self.entry instanceId
        pure (next, inst)) = Except.error fault ∧
      (self.handleSynod instanceId message).after = self) ∨
    ∃ result kept leader known,
      (self.nextInstanceId ≤ instanceId → instanceId + 1 ≤ u64Max) ∧
      (self.paxosInstances instanceId = none → 2 ≤ self.config.quorum) ∧
      (self.instanceAt instanceId).Leaves self.storage message result kept ∧
      (self.handleSynod instanceId message).after =
        { self with
          paxosInstances := Function.update self.paxosInstances instanceId (some result)
          nextInstanceId := max self.nextInstanceId (instanceId + 1)
          storage := kept
          leaderBallot := leader
          knownLeaderId := known } := by
  unfold handleSynod
  split
  next fault stopped => exact .inl ⟨fault, stopped, rfl⟩
  next next inst entered =>
    obtain ⟨bounded, rfl, several, rfl⟩ := entering_ok.mp entered
    right
    dsimp only
    split
    next fault failed =>
      rcases PaxosInstance.handleMessage_stops failed with ⟨same, stored⟩ | stops
      · rw [same, stored]
        exact ⟨_, _, self.leaderBallot, self.knownLeaderId, bounded, several, .cut _ _ _, rfl⟩
      · exact ⟨_, _, self.leaderBallot, self.knownLeaderId, bounded, several, .stop stops, rfl⟩
    next response handled =>
      have step := PaxosInstance.handleMessage_step synod handled
      cases response with
      | none =>
        exact ⟨_, _, self.leaderAfter none message, self.knownLeaderAfter none message, bounded,
          several, .last step, rfl⟩
      | some response =>
        obtain ⟨after, kept, leaves, whole⟩ := selfDeliver_leaves
          ({ self with nextInstanceId := max self.nextInstanceId (instanceId + 1) }.putInstance
            instanceId
            ((self.instanceAt instanceId).handleMessage message self.storage).after
            ((self.instanceAt instanceId).handleMessage message self.storage).storage
            |>.updateLeadership (some response) message) (Function.update_self _ _ _)
          step.response_isSynod
        refine ⟨after, kept, self.leaderAfter (some response) message,
          self.knownLeaderAfter (some response) message, bounded, several, .more step leaves, ?_⟩
        dsimp only
        rw [whole]
        simp only [putInstance, updateLeadership, Function.update_idem]
        rfl

theorem handleSynod_alters (self : MultiPaxosNode C) (instanceId : Nat) {message : MessageKind C}
    (synod : message.IsSynod) : self.Alters (self.handleSynod instanceId message).after := by
  rcases self.handleSynod_leaves instanceId synod with ⟨fault, -, whole⟩ |
    ⟨result, kept, leader, known, bounded, several, leaves, whole⟩ <;> rw [whole]
  · exact .refl self
  · refine .touched (.inl rfl) leaves ?_ rfl rfl rfl (Nat.le_max_left _ _) (Nat.le_max_right _ _)
      fun fits => Nat.max_le.mpr ⟨fits, ?_⟩
    · exact (Classical.em (self.paxosInstances instanceId = none)).imp_left several
    · rcases Nat.lt_or_ge instanceId self.nextInstanceId with below | above
      · exact Nat.le_trans below fits
      · exact bounded above

theorem handleMessage_alters (self : MultiPaxosNode C) (m : Message C) :
    self.Alters (self.handleMessage m).after := by
  obtain ⟨senderId, paxosInstance, message⟩ := m
  unfold handleMessage
  dsimp only
  split
  next cmd forwardId =>
    unfold handleRequest
    split
    next leads =>
      dsimp only
      split
      next => exact self.propose_alters cmd
      next => exact (self.propose_alters cmd).same rfl rfl rfl rfl rfl
    next => exact .refl self
  next forwardId instanceId =>
    obtain ⟨forwarded, pending, whole⟩ := self.handleForwardAck_frame forwardId instanceId
    rw [whole]
    exact (Alters.refl self).same rfl rfl rfl rfl rfl
  next notRequest notAck =>
    refine self.handleSynod_alters paxosInstance ?_
    cases message with
    | requestCommandToLeader cmd forwardId => exact (notRequest _ _ rfl).elim
    | forwardAck forwardId instanceId => exact (notAck _ _ rfl).elim
    | _ => trivial

theorem getCommitId_alters (self : MultiPaxosNode C) (instanceId : Nat) :
    self.Alters (self.getCommitId instanceId).2 := by
  obtain ⟨pending, whole⟩ := self.getCommitId_frame instanceId
  rw [whole]
  exact (Alters.refl self).same rfl rfl rfl rfl rfl

end MultiPaxosNode

end Smr
