import Smr.Node.Failures
import Smr.Node.Termination
import Smr.Synod.Overflow
import Smr.Synod.Proposals

set_option autoImplicit false

namespace Smr

variable {C : Type}

def MessageKind.prepares : MessageKind C → Option Nat
  | .prepareMsg p => some p.ballot
  | _ => none

def MessageKind.words : MessageKind C → List Nat
  | .prepareMsg p => [p.sender, p.ballot]
  | .promiseMsg m => m.sender :: m.ballot :: (m.maxAccepted.map (·.ballot)).toList
  | .acceptMsg a => [a.sender, a.ballot]
  | .ackAcceptMsg m => [m.sender, m.ballot]
  | .nackPrepareMsg m => [m.sender, m.maxBallot]
  | .nackAcceptMsg m => [m.sender, m.maxBallot]
  | .learnMsg m => [m.sender, m.ballot]
  | .requestCommandToLeader _ _ | .forwardAck _ _ | .learnedCommand _ => []

def MessageKind.longs : MessageKind C → List Nat
  | .requestCommandToLeader _ forwardId => [forwardId]
  | .forwardAck forwardId instanceId => [forwardId, instanceId]
  | _ => []

namespace PaxosInstance

variable [DecidableEq C] [Serde Nat] [Serde (AcceptedValue C)]

section Instances

variable {self after : PaxosInstance C} {storage kept : Option (PaxosStorage C)}
  {message : MessageKind C} {nodeId quorumSize totalNodes instanceId : Nat}

omit [DecidableEq C] in
theorem Stops.bounded (stops : self.Stops storage message after kept)
    (bounded : self.Bounded nodeId quorumSize totalNodes instanceId) :
    after.Bounded nodeId quorumSize totalNodes instanceId := by
  obtain ⟨⟨numbered, own, configured⟩, rounds, learner, votes⟩ := bounded
  cases stops <;> exact ⟨⟨numbered, own, configured⟩, rounds, learner, votes⟩

theorem Leaves.bounded (leaves : self.Leaves storage message after kept)
    (bounded : self.Bounded nodeId quorumSize totalNodes instanceId) (several : 0 < quorumSize) :
    after.Bounded nodeId quorumSize totalNodes instanceId := by
  induction leaves with
  | cut => exact bounded
  | stop stops => exact stops.bounded bounded
  | last step => exact step.bounded bounded several
  | more step _ ih => exact ih (step.bounded bounded several)

theorem Step.climbs {response : Option (MessageKind C)} {events : List (TraceEvent C)}
    (step : self.Step storage message response after kept events) :
    (∃ p, response = some (.prepareMsg p) ∧ self.ownBallot < p.ballot ∧
      after.ownBallot = p.ballot) ∨
    (after.ownBallot = self.ownBallot ∧ ∀ reply ∈ response, reply.prepares = none) := by
  rcases step.proposer_cases with ⟨next, addressed, asked, rfl⟩ | ⟨same, silent⟩
  · unfold ownBallot
    generalize self.proposer.innerState = current at asked
    cases asked with
    | request => exact addressed.elim
    | retryPrepare w m refused positive fits | retryAccept w m refused positive fits =>
      exact .inl ⟨_, rfl, (w.lt_retry m.maxBallot positive).1, rfl⟩
    | _ => exact .inr ⟨rfl, by simp [MessageKind.prepares]⟩
  · refine .inr ⟨by rw [ownBallot, ownBallot, same], fun reply answer => ?_⟩
    have quiet := silent reply answer
    cases reply with
    | prepareMsg p => simp [MessageKind.asks] at quiet
    | _ => rfl

theorem Cascade.climbs {responses : List (MessageKind C)} {events : List (TraceEvent C)}
    (cascade : self.Cascade storage message responses after kept events) :
    (self.ownBallot :: responses.filterMap MessageKind.prepares).Pairwise (· < ·) := by
  induction cascade with
  | last step => simp
  | more step rest ih =>
    rcases step.climbs with ⟨p, answer, higher, own⟩ | ⟨same, silent⟩
    · obtain rfl := Option.some.inj answer
      rw [own] at ih
      refine List.pairwise_cons.mpr ⟨fun ballot listed => ?_, ih⟩
      rcases List.mem_cons.mp listed with rfl | beyond
      · exact higher
      · exact Nat.lt_trans higher (List.rel_of_pairwise_cons ih beyond)
    · rw [List.filterMap_cons, silent _ rfl]
      rwa [same] at ih

theorem Step.ownBallot_le {response : Option (MessageKind C)} {events : List (TraceEvent C)}
    (step : self.Step storage message response after kept events) :
    self.ownBallot ≤ after.ownBallot := by
  rcases step.climbs with ⟨p, -, higher, own⟩ | ⟨same, -⟩
  · exact Nat.le_of_lt (own ▸ higher)
  · exact Nat.le_of_eq same.symm

theorem Leaves.ownBallot_le (leaves : self.Leaves storage message after kept) :
    self.ownBallot ≤ after.ownBallot := by
  induction leaves with
  | cut => exact Nat.le_refl _
  | stop stops => cases stops <;> exact Nat.le_refl _
  | last step => exact step.ownBallot_le
  | more step _ ih => exact Nat.le_trans step.ownBallot_le ih

theorem handleMessage_clears (synod : message.IsSynod)
    (bounded : self.Bounded nodeId quorumSize totalNodes instanceId) (several : 0 < quorumSize)
    (quorum : quorumSize ≤ totalNodes) (typed : totalNodes ≤ u32Max)
    (clears : self.Clears message) {fault : Fault}
    (stopped : (self.handleMessage message storage).result = .error fault) : fault = .failed := by
  have unstored : Kept (none : Option (PaxosStorage C)) := by rintro _ ⟨⟩
  have asked (addressed : message.ForProposer) :
      ∃ response, (self.askProposer message none).result = .ok response := by
    obtain ⟨⟨response, next⟩, handled⟩ := bounded.asks several quorum typed clears addressed
    refine ⟨response, ?_⟩
    simp only [askProposer, Proposer.handleMessage, handled, bind, Except.bind, pure, Except.pure]
  have bare : ∃ response, (self.handleMessage message none).result = .ok response := by
    cases message with
    | prepareMsg p => exact handlePrepare_fits p unstored
    | acceptMsg a => exact handleAccept_fits a unstored
    | learnMsg m =>
      cases learned : self.learner.value with
      | none =>
        have room := bounded.votes learned m.command
        exact handleLearn_fits m (by omega)
      | some value => simp [handleMessage, handleLearn, Learner.handleLearn, Learner.isValueLearned,
          learned]
    | promiseMsg _ | ackAcceptMsg _ | nackPrepareMsg _ | nackAcceptMsg _ => exact asked trivial
    | requestCommandToLeader _ _ | forwardAck _ _ => exact synod.elim
    | learnedCommand _ => exact ⟨_, rfl⟩
  obtain ⟨response, through⟩ := bare
  have stored := self.handleMessage_stored storage synod
  by_cases works : ∀ i < cost (self.handleMessage message none).result, failing storage i = false
  · rw [(stored.through works).1, through] at stopped
    simp at stopped
  · simp only [not_forall, Bool.not_eq_false] at works
    obtain ⟨i, early, fails⟩ := works
    rw [stored.fails ⟨i, early, fails⟩] at stopped
    exact (Except.error.inj stopped).symm

end Instances

end PaxosInstance

namespace MultiPaxosNode

def Call.named : Call C → List Nat
  | .deliver ⟨_, paxosInstance, .forwardAck _ instanceId⟩ => [paxosInstance, instanceId]
  | .deliver m => [m.paxosInstance]
  | .propose _ | .commit _ => []

def OpensFits (self : MultiPaxosNode C) : Prop :=
  self.nextInstanceId < u64Max ∧ (self.leaderBallot = none → self.firstBallot ≤ u32Max)

instance (self : MultiPaxosNode C) : Decidable self.OpensFits :=
  inferInstanceAs (Decidable (_ ∧ (_ → _)))

-- What keeps the sums of a call within their types, and next_instance_id above the ids it names.
-- A message about a passed-on command returns before next_instance_id is raised.
def Clears (self : MultiPaxosNode C) : Call C → Prop
  | .propose _ => if self.forwards then self.nextForwardId < u64Max else self.OpensFits
  | .deliver m =>
    match m.msg with
    | .requestCommandToLeader _ _ =>
      if self.isLeader then self.OpensFits ∧ m.paxosInstance ≤ self.nextInstanceId
      else m.paxosInstance < self.nextInstanceId
    | .forwardAck _ instanceId =>
      m.paxosInstance < self.nextInstanceId ∧ instanceId < self.nextInstanceId
    | message => m.paxosInstance < u64Max ∧ (self.instanceAt m.paxosInstance).Clears message
  | .commit _ => True

instance (self : MultiPaxosNode C) (c : Call C) : Decidable (self.Clears c) :=
  match c with
  | .propose _ => inferInstanceAs (Decidable (if self.forwards then _ else _))
  | .deliver ⟨_, _, .requestCommandToLeader _ _⟩ =>
    inferInstanceAs (Decidable (if self.isLeader then _ else _))
  | .deliver ⟨_, _, .prepareMsg _⟩ | .deliver ⟨_, _, .promiseMsg _⟩ | .deliver ⟨_, _, .acceptMsg _⟩
  | .deliver ⟨_, _, .ackAcceptMsg _⟩ | .deliver ⟨_, _, .nackPrepareMsg _⟩
  | .deliver ⟨_, _, .nackAcceptMsg _⟩ | .deliver ⟨_, _, .learnMsg _⟩
  | .deliver ⟨_, _, .learnedCommand _⟩ | .deliver ⟨_, _, .forwardAck _ _⟩ =>
    inferInstanceAs (Decidable (_ ∧ _))
  | .commit _ => .isTrue trivial

def Bounded (self : MultiPaxosNode C) : Prop :=
  ∀ instanceId, (self.instanceAt instanceId).Bounded self.id self.config.quorum
    self.config.totalNodes instanceId

theorem Opens.bounded {self : MultiPaxosNode C} {instanceId : Nat} {cmd : C}
    {first : MessageKind C} {inst : PaxosInstance C}
    (opens : self.Opens instanceId cmd first inst) (several : 0 < self.config.quorum) :
    inst.Bounded self.id self.config.quorum self.config.totalNodes instanceId := by
  cases opens <;>
    exact
      { configured := ⟨rfl, rfl, ⟨rfl, rfl, rfl⟩⟩
        rounds := ⟨several, Nat.zero_le _⟩
        learner := rfl
        votes := fun _ _ => several }

theorem Opens.clears {self : MultiPaxosNode C} {instanceId : Nat} {cmd : C}
    {first : MessageKind C} {inst : PaxosInstance C}
    (opens : self.Opens instanceId cmd first inst) : inst.Clears first := by
  refine PaxosInstance.clears_nil ?_
  cases opens with
  | prepare unled positive fits =>
    have above : ¬self.firstBallot ≤ 0 := by
      have block : self.config.totalNodes ≤
          (self.id / self.config.totalNodes + 1) * self.config.totalNodes :=
        Nat.le_mul_of_pos_left _ (Nat.succ_pos _)
      unfold firstBallot
      omega
    exact if_neg above
  | accept ballot leads =>
    simp [PaxosInstance.retriedFor, MultiPaxosNode.launched, MultiPaxosNode.fresh,
      PaxosInstance.fresh, Acceptor.new]

theorem Bounded.same {self after : MultiPaxosNode C} (bounded : self.Bounded)
    (config : after.config = self.config) (id : after.id = self.id)
    (instances : after.paxosInstances = self.paxosInstances) : after.Bounded := by
  unfold Bounded
  rw [instanceAt_same config id instances, config, id]
  exact bounded

theorem Bounded.put {self after : MultiPaxosNode C} {instanceId : Nat} {inst : PaxosInstance C}
    (bounded : self.Bounded) (config : after.config = self.config) (id : after.id = self.id)
    (instances : after.paxosInstances =
      Function.update self.paxosInstances instanceId (some inst))
    (result : inst.Bounded self.id self.config.quorum self.config.totalNodes instanceId) :
    after.Bounded := by
  unfold Bounded
  rw [config, id]
  exact forall_put (fun instanceId inst => inst.Bounded self.id self.config.quorum
    self.config.totalNodes instanceId) config id instances result fun other _ => bounded other

section Calls

variable [Serde Nat] [Serde (AcceptedValue C)]

theorem Built.bounded {config : SmrConfig} {node : MultiPaxosNode C} (built : Built config node)
    (several : 0 < config.quorum) : node.Bounded := by
  intro instanceId
  cases built with
  | new => exact PaxosInstance.fresh_bounded several
  | @withStorage store node intact built =>
    obtain ⟨saved, represents, ordered⟩ := intact
    obtain ⟨next, bounded, below, rfl⟩ := withStorage_ok represents built
    have found := @instanceAt_restored C config.totalNodes config.nodeId next (some store) saved
    rw [found]
    obtain ⟨⟨numbered, own, configured⟩, rounds, learner, votes⟩ :=
      @PaxosInstance.fresh_bounded C config.nodeId config.quorum config.totalNodes instanceId several
    refine ⟨⟨numbered, ?_, configured⟩, rounds, learner, votes⟩
    cases saved instanceId <;> rfl

variable [DecidableEq C]

theorem start_bounded {self : MultiPaxosNode C} (bounded : self.Bounded)
    (several : 0 < self.config.quorum) (cmd : C) : (self.start cmd).after.Bounded := by
  rcases self.start_leaves cmd with ⟨next, -, -, -, whole⟩ |
    ⟨first, inst, result, kept, pending, channels, -, -, opens, leaves, whole⟩ <;> rw [whole]
  · exact bounded.same rfl rfl rfl
  · exact bounded.put rfl rfl rfl (leaves.bounded (opens.bounded several) several)

theorem propose_bounded {self : MultiPaxosNode C} (bounded : self.Bounded)
    (several : 0 < self.config.quorum) (cmd : C) : (self.propose cmd).after.Bounded := by
  unfold propose
  split
  next =>
    unfold forward
    split <;> exact bounded.same rfl rfl rfl
  next => exact start_bounded bounded several cmd

theorem handleSynod_bounded {self : MultiPaxosNode C} (bounded : self.Bounded)
    (several : 0 < self.config.quorum) (instanceId : Nat) {message : MessageKind C}
    (synod : message.IsSynod) : (self.handleSynod instanceId message).after.Bounded := by
  rcases self.handleSynod_leaves instanceId synod with ⟨fault, -, whole⟩ |
    ⟨result, kept, leader, known, -, -, leaves, whole⟩ <;> rw [whole]
  · exact bounded
  · exact bounded.put rfl rfl rfl (leaves.bounded (bounded instanceId) several)

theorem call_bounded {self : MultiPaxosNode C} (bounded : self.Bounded)
    (several : 0 < self.config.quorum) (c : Call C) : (self.call c).Bounded := by
  cases c with
  | propose cmd => exact propose_bounded bounded several cmd
  | commit instanceId =>
    obtain ⟨pending, whole⟩ := self.getCommitId_frame instanceId
    rw [call, whole]
    exact bounded.same rfl rfl rfl
  | deliver m =>
    obtain ⟨senderId, paxosInstance, msg⟩ := m
    cases msg with
    | requestCommandToLeader cmd forwardId =>
      unfold call handleMessage handleRequest
      dsimp only
      split
      next =>
        split
        next => exact propose_bounded bounded several cmd
        next => exact (propose_bounded bounded several cmd).same rfl rfl rfl
      next => exact bounded
    | forwardAck forwardId instanceId =>
      obtain ⟨forwarded, pending, whole⟩ := self.handleForwardAck_frame forwardId instanceId
      unfold call handleMessage
      dsimp only
      rw [whole]
      exact bounded.same rfl rfl rfl
    | prepareMsg _ | acceptMsg _ | learnMsg _ | promiseMsg _ | ackAcceptMsg _ | nackPrepareMsg _
    | nackAcceptMsg _ | learnedCommand _ =>
      exact handleSynod_bounded bounded several paxosInstance (by trivial)

theorem calls_bounded {config : SmrConfig} {node : MultiPaxosNode C}
    (several : 0 < config.quorum) (reachable : (calls config).Reachable Any node) :
    node.Bounded :=
  reachable.invariant Bounded (fun _ built => Built.bounded built several)
    fun _ c _ before bounded _ next => next ▸ call_bounded bounded
      ((calls_upright before).configured ▸ several) c

omit [DecidableEq C] [Serde Nat] [Serde (AcceptedValue C)] in
theorem opening_fits {self : MultiPaxosNode C} (fits : self.OpensFits)
    (several : 2 ≤ self.config.quorum) (positive : self.config.totalNodes ≠ 0) (cmd : C) :
    ∃ opened, self.opening cmd = .ok opened := by
  refine bind_fits ⟨_, u64Add_ok.mpr ⟨fits.1, rfl⟩⟩ fun next _ => ?_
  refine bind_fits ⟨_, newInstance_ok.mpr ⟨several, rfl⟩⟩ fun inst made => ?_
  refine bind_fits ?_ fun first _ => ⟨_, rfl⟩
  obtain ⟨-, rfl⟩ := newInstance_ok.mp made
  unfold firstMessage
  split
  next ballot leads => exact ⟨_, rfl⟩
  next unled =>
    have prepared := StateWrapper.newPrepare_fits (self.wrapper self.id ({} : InitialState)) cmd
      positive (fits.2 unled)
    refine bind_fits ⟨_, prepared⟩ fun answer whole => ?_
    obtain rfl := Except.ok.inj (prepared.symm.trans whole)
    exact ⟨_, rfl⟩

theorem selfDeliverLoop_clears {fuel : Nat} {self : MultiPaxosNode C} {instanceId : Nat}
    {inst : PaxosInstance C} {message : MessageKind C}
    (present : self.paxosInstances instanceId = some inst) (synod : message.IsSynod)
    {nodeId quorumSize totalNodes : Nat}
    (bounded : inst.Bounded nodeId quorumSize totalNodes instanceId) (several : 0 < quorumSize)
    (quorum : quorumSize ≤ totalNodes) (typed : totalNodes ≤ u32Max) (clears : inst.Clears message)
    (enough : inst.rank message + 1 < fuel) {fault : Fault}
    (stopped : (selfDeliverLoop fuel self instanceId [message]).result = .error fault) :
    fault = .failed := by
  induction fuel generalizing self inst message with
  | zero => omega
  | succ fuel ih =>
    simp only [selfDeliverLoop, present] at stopped
    split at stopped
    next fault' failed =>
      obtain rfl := Except.error.inj stopped
      exact PaxosInstance.handleMessage_clears synod bounded several quorum typed clears failed
    next response handled =>
      have step := PaxosInstance.handleMessage_step synod handled
      cases response with
      | none => cases fuel <;> simp [selfDeliverLoop, Except.map] at stopped enough
      | some response =>
        have less := step.rank_lt
        simp only [Option.toList_some, List.cons_append, List.nil_append, map_error] at stopped
        exact ih (Function.update_self _ _ _) step.response_isSynod (step.bounded bounded several)
          (step.clears_iff.mp clears response rfl) (by omega) stopped

section Fits

variable {self : MultiPaxosNode C}

theorem selfDeliver_clears {instanceId : Nat} {inst : PaxosInstance C} {message : MessageKind C}
    (present : self.paxosInstances instanceId = some inst) (synod : message.IsSynod)
    {nodeId quorumSize totalNodes : Nat}
    (bounded : inst.Bounded nodeId quorumSize totalNodes instanceId) (several : 0 < quorumSize)
    (quorum : quorumSize ≤ totalNodes) (typed : totalNodes ≤ u32Max) (clears : inst.Clears message)
    {fault : Fault} (stopped : (self.selfDeliver instanceId message).result = .error fault) :
    fault = .failed := by
  have bound := inst.rank_le message
  exact selfDeliverLoop_clears present synod bounded several quorum typed clears
    (by unfold selfDeliverFuel; omega) stopped

variable {fault : Fault} (several : 2 ≤ self.config.totalNodes)
  (typed : self.config.totalNodes ≤ u32Max)

include several typed

omit [DecidableEq C] [Serde Nat] [Serde (AcceptedValue C)] typed in
theorem quorum_fits : 2 ≤ self.config.quorum ∧ self.config.quorum ≤ self.config.totalNodes := by
  unfold SmrConfig.quorum
  omega

theorem start_clears (fits : self.OpensFits) (cmd : C)
    (stopped : (self.start cmd).result = .error fault) : fault = .failed := by
  obtain ⟨more, quorum⟩ := quorum_fits several
  obtain ⟨opened, opens⟩ := opening_fits fits more (by omega) cmd
  rcases self.start_cases cmd with ⟨refused, none, -⟩ | ⟨first, inst, opening, delivers⟩
  · simp [opens] at none
  · have opens := opening_ok opening
    have present : (self.begun inst).paxosInstances self.nextInstanceId = some inst :=
      Function.update_self _ _ _
    exact selfDeliver_clears present opens.isSynod (opens.bounded (by omega)) (by omega) quorum typed
      opens.clears ((delivers fault).1.mp stopped)

theorem handleSynod_clears (bounded : self.Bounded) {instanceId : Nat} {message : MessageKind C}
    (synod : message.IsSynod) (below : instanceId < u64Max)
    (clears : (self.instanceAt instanceId).Clears message)
    (stopped : (self.handleSynod instanceId message).result = .error fault) : fault = .failed := by
  obtain ⟨more, quorum⟩ := quorum_fits several
  have positive : 0 < self.config.quorum := by omega
  rcases self.handleSynod_cases instanceId message with ⟨refused, none, -⟩ |
    ⟨next, inst, entered, stops, quiet, goes⟩
  · have entered := entering_ok.mpr ⟨fun _ => below, rfl, fun _ => more, rfl⟩
    exact absurd (entered.symm.trans none) (by simp)
  · obtain ⟨-, rfl, -, rfl⟩ := entering_ok.mp entered
    cases handled : ((self.instanceAt instanceId).handleMessage message self.storage).result with
    | error fault' =>
      rw [(stops fault' handled).1] at stopped
      obtain rfl := Except.error.inj stopped
      exact PaxosInstance.handleMessage_clears synod (bounded instanceId) positive quorum typed
        clears handled
    | ok response =>
      have step := PaxosInstance.handleMessage_step synod handled
      cases response with
      | none => simp [quiet handled] at stopped
      | some response =>
        rw [(goes response handled).1, map_error] at stopped
        exact selfDeliver_clears (Function.update_self _ _ _) step.response_isSynod
          (step.bounded (bounded instanceId) positive) positive quorum typed
          (step.clears_iff.mp clears response rfl) stopped

theorem call_clears (bounded : self.Bounded) {c : Call C} (clears : self.Clears c)
    (stopped : self.returns c = .error fault) : fault = .failed := by
  cases c with
  | propose cmd =>
    unfold Clears at clears
    rw [returns, map_error] at stopped
    cases forwards : self.forwards with
    | false =>
      rw [if_neg (by simp [forwards])] at clears
      rw [propose_start forwards] at stopped
      exact start_clears several typed clears cmd stopped
    | true =>
      rw [if_pos forwards] at clears
      have counted : u64Add self.nextForwardId 1 = .ok (self.nextForwardId + 1) :=
        u64Add_ok.mpr ⟨clears, rfl⟩
      rw [propose, if_pos (by simpa [MultiPaxosNode.forwards] using forwards), forward, counted]
        at stopped
      simp at stopped
  | commit instanceId => simp [returns] at stopped
  | deliver m =>
    obtain ⟨senderId, paxosInstance, msg⟩ := m
    cases msg with
    | requestCommandToLeader cmd forwardId =>
      unfold returns handleMessage handleRequest at stopped
      dsimp only at stopped
      split at stopped
      next leads =>
        rw [propose_leading leads] at stopped
        split at stopped
        next fault' failed =>
          obtain rfl := Except.error.inj stopped
          exact start_clears several typed ((if_pos leads).mp clears).1 cmd failed
        next => simp at stopped
      next => simp at stopped
    | forwardAck forwardId instanceId => simp [returns, handleMessage] at stopped
    | prepareMsg _ | acceptMsg _ | learnMsg _ | promiseMsg _ | ackAcceptMsg _ | nackPrepareMsg _
    | nackAcceptMsg _ | learnedCommand _ =>
      exact handleSynod_clears several typed bounded (by trivial) clears.1 clears.2 stopped

end Fits

section Ballots

variable {config : SmrConfig} {self after : MultiPaxosNode C}

theorem Alters.climbs (alters : self.Alters after) (upright : Upright config self)
    {instanceId : Nat} {inst : PaxosInstance C}
    (present : self.paxosInstances instanceId = some inst) :
    ∃ later, after.paxosInstances instanceId = some later ∧ inst.ownBallot ≤ later.ownBallot := by
  cases alters with
  | still config id instances next bounded storage =>
    exact ⟨inst, instances ▸ present, Nat.le_refl _⟩
  | @touched touched first result message begins leaves several config id instances next above
      bounded =>
    rw [instances]
    by_cases same : instanceId = touched
    · subst same
      rcases begins with rfl | ⟨rfl, -⟩
      · have found : self.instanceAt instanceId = inst := by simp [instanceAt, present]
        exact ⟨result, Function.update_self _ _ _, found ▸ leaves.ownBallot_le⟩
      · exact absurd (upright.next_empty.symm.trans present) (by simp)
    · exact ⟨inst, by rwa [Function.update_of_ne same], Nat.le_refl _⟩

def prepared (msgs : List (Message C)) : List Nat :=
  msgs.filterMap (·.msg.prepares)

omit [DecidableEq C] [Serde Nat] [Serde (AcceptedValue C)] in
theorem prepared_broadcast (self : MultiPaxosNode C) (instanceId : Nat)
    (responses : List (MessageKind C)) :
    prepared (responses.map (self.broadcast instanceId)) =
      responses.filterMap MessageKind.prepares := by
  unfold prepared
  rw [List.filterMap_map]
  rfl

structure Raises (self : MultiPaxosNode C) (msgs : List (Message C)) : Prop where
  climbs : (prepared msgs).Pairwise (· < ·)
  replaces : ∀ m ∈ msgs, ∀ ballot ∈ m.msg.prepares, ∀ inst,
    self.paxosInstances m.paxosInstance = some inst → inst.ownBallot < ballot

omit [DecidableEq C] [Serde Nat] [Serde (AcceptedValue C)] in
theorem Raises.silent {self : MultiPaxosNode C} {msgs : List (Message C)}
    (silent : ∀ m ∈ msgs, m.msg.prepares = none) : self.Raises msgs where
  climbs := by
    rw [prepared, List.filterMap_eq_nil_iff.mpr silent]
    exact .nil
  replaces m sent ballot asks := by simp [silent m sent] at asks

theorem Starts.raises (upright : Upright config self) {cmd : C} {msgs : List (Message C)}
    {events : List (TraceEvent C)} (starts : self.Starts cmd msgs after events) :
    self.Raises msgs := by
  cases starts with
  | intro first inst result responses kept events bounded several opens cascade =>
    constructor
    · rw [prepared_broadcast]
      cases opens with
      | prepare unled positive fits => exact cascade.climbs
      | accept ballot leads => exact cascade.climbs.tail
    · intro m sent ballot asks inst present
      obtain ⟨response, -, rfl⟩ := List.mem_map.mp sent
      exact absurd (upright.next_empty.symm.trans present) (by simp)

theorem Starts.fits {cmd : C} {msgs : List (Message C)} {events : List (TraceEvent C)}
    (starts : self.Starts cmd msgs after events) : self.OpensFits := by
  cases starts with
  | intro first inst result responses kept events bounded several opens cascade =>
    refine ⟨bounded, fun unled => ?_⟩
    cases opens with
    | prepare unled positive fits => exact fits
    | accept ballot leads => exact absurd (unled.symm.trans leads) (by simp)

theorem Proposes.raises (upright : Upright config self) {cmd : C} {msgs : List (Message C)}
    {events : List (TraceEvent C)} (proposes : self.Proposes cmd msgs after events) :
    self.Raises msgs := by
  cases proposes with
  | forward forwards => exact .silent (by simp [broadcast, MessageKind.prepares])
  | start stays starts => exact starts.raises upright

theorem Answers.raises (upright : Upright config self) {m : Message C} {msgs : List (Message C)}
    {events : List (TraceEvent C)} (answers : self.Answers m msgs after events) :
    self.Raises msgs := by
  cases answers with
  | dropped | acked => exact .silent (by simp)
  | taken senderId instanceId forwardId cmd leads starts =>
    obtain ⟨climbs, replaces⟩ := starts.raises upright
    constructor
    · simpa [prepared, broadcast, MessageKind.prepares] using climbs
    · intro m sent ballot asks
      rcases List.mem_append.mp sent with own | ack
      · exact replaces m own ballot asks
      · obtain rfl := List.mem_singleton.mp ack
        simp [broadcast, MessageKind.prepares] at asks
  | synod m synod responses result kept events bounded several cascade =>
    have climbs := cascade.climbs
    constructor
    · rw [prepared_broadcast]
      exact climbs.tail
    · intro sent member ballot asks inst present
      obtain ⟨response, listed, rfl⟩ := List.mem_map.mp member
      have found : self.instanceAt m.paxosInstance = inst := by
        simpa [instanceAt, broadcast] using congrArg (Option.getD · _) present
      rw [found] at climbs
      exact List.rel_of_pairwise_cons climbs (List.mem_filterMap.mpr ⟨response, listed, asks⟩)

theorem returns_clears (upright : Upright config self) {c : Call C} {msgs : List (Message C)}
    (done : self.returns c = .ok msgs)
    (above : ∀ instanceId ∈ c.named, instanceId < (self.call c).nextInstanceId) :
    self.Clears c := by
  cases c with
  | commit instanceId => trivial
  | propose cmd =>
    obtain ⟨⟨msgs, sender⟩, proposed, rfl⟩ := map_ok.mp done
    unfold Clears
    cases forwards : self.forwards with
    | false =>
      rw [propose_start forwards] at proposed
      rw [if_neg (by simp)]
      exact (start_ok proposed).fits
    | true =>
      rw [if_pos rfl]
      rw [propose, if_pos (by simpa [MultiPaxosNode.forwards] using forwards), forward] at proposed
      split at proposed
      next => simp at proposed
      next next counted => exact (u64Add_ok.mp counted).1
  | deliver m =>
    have answers := handleMessage_ok done
    unfold call at above
    dsimp only at above
    generalize (self.handleMessage m).after = after, (self.handleMessage m).trace = events
      at answers above
    cases answers with
    | dropped senderId instanceId forwardId cmd unled =>
      exact (if_neg (by simp [isLeader, unled])).mpr (above _ (List.mem_singleton_self _))
    | taken senderId instanceId forwardId cmd leads starts =>
      have fits := starts.fits
      refine (if_pos leads).mpr ⟨fits, Nat.le_of_lt_succ ?_⟩
      cases starts
      exact above _ (List.mem_singleton_self _)
    | acked senderId instanceId forwardId acked =>
      obtain ⟨forwarded, pending, whole⟩ := self.handleForwardAck_frame forwardId acked
      rw [whole] at above
      exact ⟨above _ List.mem_cons_self, above _ (List.mem_cons_of_mem _ (List.mem_singleton_self _))⟩
    | synod m synod responses result kept events bounded several cascade =>
      have below : m.paxosInstance < u64Max := by
        have fits := upright.bounded
        omega
      obtain ⟨senderId, paxosInstance, msg⟩ := m
      cases msg with
      | requestCommandToLeader _ _ | forwardAck _ _ => exact synod.elim
      | _ => exact ⟨below, cascade.clears⟩

theorem returns_raises (upright : Upright config self) {c : Call C} {msgs : List (Message C)}
    (done : self.returns c = .ok msgs) : self.Raises msgs := by
  cases c with
  | propose cmd =>
    obtain ⟨⟨msgs, sender⟩, proposed, rfl⟩ := map_ok.mp done
    exact (propose_ok proposed).raises upright
  | deliver m => exact (handleMessage_ok done).raises upright
  | commit instanceId =>
    obtain rfl := Except.ok.inj done
    exact .silent (by simp)

end Ballots

def Call.WellTyped : Call C → Prop
  | .deliver m => m.senderId ≤ u32Max ∧ m.paxosInstance ≤ u64Max ∧
      (∀ word ∈ m.msg.words, word ≤ u32Max) ∧ ∀ long ∈ m.msg.longs, long ≤ u64Max
  | .commit instanceId => instanceId ≤ u64Max
  | .propose _ => True

theorem start_next {self : MultiPaxosNode C} (fits : self.OpensFits) (cmd : C) :
    (self.start cmd).after.nextInstanceId = self.nextInstanceId + 1 := by
  rcases self.start_leaves cmd with ⟨next, -, -, counted, whole⟩ |
    ⟨first, inst, result, kept, pending, channels, -, -, -, -, whole⟩ <;> rw [whole]
  exact counted fits.1

theorem call_counts {self : MultiPaxosNode C} (several : 2 ≤ self.config.totalNodes) {c : Call C}
    (clears : self.Clears c) :
    ∀ instanceId ∈ c.named, instanceId < (self.call c).nextInstanceId := by
  cases c with
  | propose | commit => simp [Call.named]
  | deliver m =>
    obtain ⟨senderId, paxosInstance, msg⟩ := m
    have counts (synod : msg.IsSynod) (below : paxosInstance < u64Max) :
        paxosInstance < (self.handleSynod paxosInstance msg).after.nextInstanceId := by
      rcases self.handleSynod_leaves paxosInstance synod with ⟨fault, stopped, -⟩ |
        ⟨result, kept, leader, known, -, -, leaves, whole⟩
      · have entered := entering_ok.mpr
          ⟨fun _ => below, rfl, fun _ => (quorum_fits several).1, rfl⟩
        exact absurd (entered.symm.trans stopped) (by simp)
      · rw [whole]
        exact Nat.le_max_right _ _
    cases msg with
    | requestCommandToLeader cmd forwardId =>
      intro instanceId named
      obtain rfl := List.mem_singleton.mp named
      unfold call handleMessage handleRequest
      dsimp only
      split
      next leads =>
        obtain ⟨fits, le⟩ := (if_pos leads).mp clears
        have next : (self.propose cmd).after.nextInstanceId = self.nextInstanceId + 1 := by
          rw [propose_leading leads]
          exact start_next fits cmd
        split <;> exact next ▸ Nat.lt_succ_of_le le
      next unled => exact (if_neg unled).mp clears
    | forwardAck forwardId acked =>
      have next := (call_alters self (.deliver
        ⟨senderId, paxosInstance, .forwardAck forwardId acked⟩)).frame.2.2.1
      intro instanceId named
      rcases List.mem_pair.mp named with rfl | rfl
      · exact Nat.lt_of_lt_of_le clears.1 next
      · exact Nat.lt_of_lt_of_le clears.2 next
    | prepareMsg _ | acceptMsg _ | learnMsg _ | promiseMsg _ | ackAcceptMsg _ | nackPrepareMsg _
    | nackAcceptMsg _ | learnedCommand _ =>
      intro instanceId named
      obtain rfl := List.mem_singleton.mp named
      exact counts trivial clears.1

theorem arithmetic_fits {config : SmrConfig} (several : 2 ≤ config.totalNodes)
    (typed : config.totalNodes ≤ u32Max)
    {past : List (MultiPaxosNode C × Call C × MultiPaxosNode C)} {node : MultiPaxosNode C}
    (run : (calls config).Past (fun node c => node.Clears c) past node) :
    (∀ e ∈ past, ∀ fault, e.1.returns e.2.1 = .error fault → fault = .failed) ∧
    (∀ e ∈ past, ∀ instanceId ∈ e.2.1.named, instanceId < node.nextInstanceId) ∧
    (∀ instanceId inst, node.paxosInstances instanceId = some inst →
      instanceId < node.nextInstanceId) ∧
    (∀ e ∈ past, ∀ instanceId inst, e.1.paxosInstances instanceId = some inst →
      ∃ later, e.2.2.paxosInstances instanceId = some later ∧
        inst.ownBallot ≤ later.ownBallot) ∧
    (∀ e ∈ past, ∀ msgs, e.1.returns e.2.1 = .ok msgs → e.1.Raises msgs) ∧
    ∀ c msgs, node.returns c = .ok msgs →
      (∀ instanceId ∈ c.named, instanceId < (node.call c).nextInstanceId) → node.Clears c := by
  have reaches {s : MultiPaxosNode C}
      (reachable : (calls config).Reachable (fun node c => node.Clears c) s) :
      (calls config).Reachable Any s := reachable.mono fun _ _ _ => trivial
  have configured {s : MultiPaxosNode C}
      (reachable : (calls config).Reachable (fun node c => node.Clears c) s) :
      s.config = config := (calls_upright (reaches reachable)).configured
  have upright := calls_upright (reaches run.reachable)
  have positive : 0 < config.quorum := Nat.succ_pos _
  refine ⟨?_, fun e member instanceId named => ?_, upright.below, ?_, ?_,
    fun c msgs => returns_clears upright⟩
  · refine run.each (fun s c _ => ∀ fault, s.returns c = .error fault → fault = .failed) ?_
    intro s c t reachable clears next fault
    have same := configured reachable
    exact call_clears (same ▸ several) (same ▸ typed) (calls_bounded positive (reaches reachable))
      clears
  · refine run.lasting (fun _ c _ => instanceId ∈ c.named) (instanceId < ·.nextInstanceId) ?_ ?_
      ⟨e, member, named⟩
    · rintro s c t reachable clears rfl named
      exact call_counts (configured reachable ▸ several) clears instanceId named
    · rintro s c t rfl below
      exact Nat.lt_of_lt_of_le below (call_alters s c).frame.2.2.1
  · refine run.each (fun s c t => ∀ instanceId inst, s.paxosInstances instanceId = some inst →
      ∃ later, t.paxosInstances instanceId = some later ∧ inst.ownBallot ≤ later.ownBallot) ?_
    rintro s c t reachable - rfl instanceId inst present
    exact (call_alters s c).climbs (calls_upright (reaches reachable)) present
  · exact run.each (fun s c _ => ∀ msgs, s.returns c = .ok msgs → s.Raises msgs)
      fun s c t reachable _ _ msgs => returns_raises (calls_upright (reaches reachable))

end Calls

def refusing (sender highest : Nat) : Call Nat :=
  .deliver
    { senderId := sender, paxosInstance := 0
      msg := .nackPrepareMsg { sender := sender, maxBallot := highest } }

def probing (sender instanceId ballot : Nat) : Call Nat :=
  .deliver
    { senderId := sender, paxosInstance := instanceId
      msg := .prepareMsg { sender := sender, ballot := ballot } }

-- Refused at the highest ballots it can still top, then asked for the last instance but one.
def brim : List (Call Nat) :=
  [.propose 7, refusing 1 4294967294, refusing 2 4294967294, probing 1 18446744073709551614 4]

def cleared (cs : List (Call Nat)) : MultiPaxosNode Nat :=
  Run.System.final (fun node c => some (node.call c)) (fun node c => node.Clears c)
    (new zeroOfThree) cs

theorem cleared_past (cs : List (Call Nat))
    (runs : (Run.System.exec (fun node c => some (node.call c)) (fun node c => node.Clears c)
      (new zeroOfThree) cs).isSome) :
    ∃ past, (calls zeroOfThree).Past (fun node c => node.Clears c) past (cleared cs) ∧
      past.map (·.2.1) = cs :=
  Run.System.final_past (fun _ _ _ next => (Option.some.inj next).symm) (.init Built.new) runs

theorem arithmetic_fits_brim : ∃ past,
    (calls zeroOfThree).Past (fun node c => node.Clears c) past (cleared brim) ∧
    past.map (·.2.1) = brim ∧
    (∀ e ∈ past, ∀ fault, e.1.returns e.2.1 = .error fault → fault = .failed) ∧
    (∀ msgs, (cleared brim).returns (.propose 8) ≠ .ok msgs) ∧
    ((cleared brim).paxosInstances 0).map (·.ownBallot) = some u32Max ∧
    (cleared brim).nextInstanceId = u64Max := by
  obtain ⟨past, run, taken⟩ := cleared_past brim (by decide +kernel)
  obtain ⟨fits, -, -, -, -, clears⟩ := arithmetic_fits (by decide) (by decide) run
  have stuck : ¬(cleared brim).Clears (.propose 8) := by decide +kernel
  refine ⟨past, run, taken, fits, fun msgs done => stuck (clears _ msgs done ?_), by decide +kernel,
    by decide +kernel⟩
  simp [Call.named]

def acking (sender instanceId : Nat) : Call Nat :=
  .deliver
    { senderId := sender, paxosInstance := instanceId
      msg := .forwardAck 0 instanceId }

-- Refused at u32::MAX, node 0 of three has no ballot left; a ForwardAck leaves next_instance_id
-- behind its instance; the message that names instance u64::MAX leaves it no next instance.
theorem arithmetic_overflows :
    (cleared [.propose 7, refusing 1 u32Max]).returns (refusing 2 u32Max) = .error .panicked ∧
    ((new zeroOfThree).returns (acking 1 5) = .ok [] ∧
      ((new zeroOfThree).call (acking 1 5)).nextInstanceId = 0) ∧
    ¬∀ (config : SmrConfig) (node : MultiPaxosNode Nat) (c : Call Nat),
      2 ≤ config.totalNodes → config.nodeId < config.totalNodes → config.totalNodes ≤ u32Max →
      (calls config).Reachable (fun _ c => c.WellTyped) node → c.WellTyped →
      node.returns c ≠ .error .panicked := by
  refine ⟨by decide +kernel, ⟨rfl, rfl⟩, fun fits => ?_⟩
  have stops : (new zeroOfThree).returns (probing 1 u64Max 4) = .error .panicked := by
    decide +kernel
  exact fits zeroOfThree (new zeroOfThree) (probing 1 u64Max 4) (by decide) (by decide)
    (by decide) (.init .new) (by simp [probing, Call.WellTyped, MessageKind.words,
      MessageKind.longs, u32Max, u64Max]) stops

end MultiPaxosNode

end Smr
