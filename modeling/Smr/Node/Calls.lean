import Smr.Synod.Cascade
import Smr.Node.MultiPaxosNode

set_option autoImplicit false

namespace Smr

variable {C : Type}

namespace MultiPaxosNode

def fresh (self : MultiPaxosNode C) (instanceId : Nat) : PaxosInstance C :=
  PaxosInstance.fresh self.id self.config.quorum self.config.totalNodes instanceId

def instanceAt (self : MultiPaxosNode C) (instanceId : Nat) : PaxosInstance C :=
  (self.paxosInstances instanceId).getD (self.fresh instanceId)

def firstBallot (self : MultiPaxosNode C) : Nat :=
  (self.id / self.config.totalNodes + 1) * self.config.totalNodes + self.id

def forwards (self : MultiPaxosNode C) : Bool :=
  !self.isLeader && self.knownLeaderId.isSome

def launched (self : MultiPaxosNode C) (instanceId : Nat) (state : InnerState C) :
    PaxosInstance C :=
  { self.fresh instanceId with proposer := { innerState := state } }

def wrapper {S : Type} (self : MultiPaxosNode C) (ballot : Nat) (state : S) : StateWrapper S :=
  { state := state
    ballot := ballot
    proposerId := self.id
    quorumSize := self.config.quorum
    totalNodes := self.config.totalNodes }

inductive Opens (self : MultiPaxosNode C) (instanceId : Nat) (cmd : C) :
    MessageKind C → PaxosInstance C → Prop where
  | prepare (unled : self.leaderBallot = none) (positive : self.config.totalNodes ≠ 0)
      (fits : self.firstBallot ≤ u32Max) :
      Opens self instanceId cmd (.prepareMsg { sender := self.id, ballot := self.firstBallot })
        (self.launched instanceId
          (.proposal (self.wrapper self.firstBallot (ProposalState.new cmd))))
  | accept (ballot : Nat) (leads : self.leaderBallot = some ballot) :
      Opens self instanceId cmd
        (.acceptMsg { sender := self.id, ballot := ballot, command := cmd })
        (self.launched instanceId
          (.accepting (self.wrapper ballot (AcceptingState.new cmd))))

theorem Opens.isSynod {self : MultiPaxosNode C} {instanceId : Nat} {cmd : C}
    {first : MessageKind C} {inst : PaxosInstance C}
    (opens : self.Opens instanceId cmd first inst) : first.IsSynod := by
  cases opens <;> trivial

theorem Opens.counted {self : MultiPaxosNode C} {next instanceId : Nat} {cmd : C}
    {first : MessageKind C} {inst : PaxosInstance C}
    (opens : ({ self with nextInstanceId := next } : MultiPaxosNode C).Opens instanceId cmd first
      inst) : self.Opens instanceId cmd first inst := by
  cases opens with
  | prepare unled positive fits => exact .prepare unled positive fits
  | accept ballot leads => exact .accept ballot leads

def afterStart (self : MultiPaxosNode C) (cmd : C) (after : PaxosInstance C)
    (kept : Option (PaxosStorage C)) : MultiPaxosNode C :=
  { self with
    paxosInstances := Function.update self.paxosInstances self.nextInstanceId (some after)
    pendingSenders := Function.update self.pendingSenders self.nextInstanceId
      (some { serial := self.channels, command := cmd, forwardId := none })
    nextInstanceId := self.nextInstanceId + 1
    storage := kept
    channels := self.channels + 1 }

def afterForward (self : MultiPaxosNode C) (cmd : C) : MultiPaxosNode C :=
  { self with
    nextForwardId := self.nextForwardId + 1
    forwardedSenders := Function.update self.forwardedSenders self.nextForwardId
      (some { serial := self.channels, command := cmd, forwardId := some self.nextForwardId })
    channels := self.channels + 1 }

def afterRequest (self : MultiPaxosNode C) (instanceId forwarderId forwardId : Nat) :
    MultiPaxosNode C :=
  { self with
    forwardedInstances :=
      Function.update self.forwardedInstances instanceId (some (forwarderId, forwardId)) }

def afterSynod (self : MultiPaxosNode C) (instanceId : Nat) (message : MessageKind C)
    (response : Option (MessageKind C)) (after : PaxosInstance C)
    (kept : Option (PaxosStorage C)) : MultiPaxosNode C :=
  { self with
    paxosInstances := Function.update self.paxosInstances instanceId (some after)
    nextInstanceId := max self.nextInstanceId (instanceId + 1)
    storage := kept
    leaderBallot := self.leaderAfter response message
    knownLeaderId := self.knownLeaderAfter response message }

theorem instanceAt_put {self after : MultiPaxosNode C} {instanceId : Nat} {inst : PaxosInstance C}
    (config : after.config = self.config) (id : after.id = self.id)
    (instances : after.paxosInstances =
      Function.update self.paxosInstances instanceId (some inst)) :
    after.instanceAt = Function.update self.instanceAt instanceId inst := by
  funext other
  simp only [instanceAt, MultiPaxosNode.fresh, config, id, instances]
  by_cases same : other = instanceId
  · subst same
    simp
  · simp [same, instanceAt, MultiPaxosNode.fresh]

theorem forall_put {self after : MultiPaxosNode C} {instanceId : Nat} {inst : PaxosInstance C}
    (holds : Nat → PaxosInstance C → Prop) (config : after.config = self.config)
    (id : after.id = self.id)
    (instances : after.paxosInstances =
      Function.update self.paxosInstances instanceId (some inst))
    (result : holds instanceId inst)
    (others : ∀ other, other ≠ instanceId → holds other (self.instanceAt other)) :
    ∀ other, holds other (after.instanceAt other) := by
  rw [instanceAt_put config id instances]
  exact (Function.forall_update_iff self.instanceAt holds).mpr ⟨result, others⟩

@[simp] theorem afterStart_instanceAt (self : MultiPaxosNode C) (cmd : C) (after : PaxosInstance C)
    (kept : Option (PaxosStorage C)) :
    (self.afterStart cmd after kept).instanceAt =
      Function.update self.instanceAt self.nextInstanceId after :=
  instanceAt_put rfl rfl rfl

@[simp] theorem afterSynod_instanceAt (self : MultiPaxosNode C) (instanceId : Nat)
    (message : MessageKind C) (response : Option (MessageKind C)) (after : PaxosInstance C)
    (kept : Option (PaxosStorage C)) :
    (self.afterSynod instanceId message response after kept).instanceAt =
      Function.update self.instanceAt instanceId after :=
  instanceAt_put rfl rfl rfl

theorem newInstance_ok {self : MultiPaxosNode C} {instanceId : Nat} {inst : PaxosInstance C} :
    self.newInstance instanceId = .ok inst ↔
      2 ≤ self.config.quorum ∧ inst = self.fresh instanceId := by
  unfold newInstance PaxosInstance.new fresh
  split
  next small => simp [Nat.not_le.mpr small]
  next large => simp [Nat.le_of_not_lt large, eq_comm]

theorem nextAfter_ok {self : MultiPaxosNode C} {instanceId next : Nat} :
    self.nextAfter instanceId = .ok next ↔
      (self.nextInstanceId ≤ instanceId → instanceId + 1 ≤ u64Max) ∧
        next = max self.nextInstanceId (instanceId + 1) := by
  unfold nextAfter
  split
  · rw [u64Add_ok]
    omega
  · simp only [Except.ok.injEq]
    omega

theorem entry_ok {self : MultiPaxosNode C} {instanceId : Nat} {inst : PaxosInstance C} :
    self.entry instanceId = .ok inst ↔
      (self.paxosInstances instanceId = none → 2 ≤ self.config.quorum) ∧
        inst = self.instanceAt instanceId := by
  unfold entry instanceAt
  split
  next found present => simp [present, eq_comm]
  next missing => simp [newInstance_ok, missing]

theorem entering_ok {self : MultiPaxosNode C} {instanceId next : Nat} {inst : PaxosInstance C} :
    (do
      let next ← self.nextAfter instanceId
      let inst ← self.entry instanceId
      pure (next, inst)) = Except.ok (next, inst) ↔
      (self.nextInstanceId ≤ instanceId → instanceId + 1 ≤ u64Max) ∧
        next = max self.nextInstanceId (instanceId + 1) ∧
        (self.paxosInstances instanceId = none → 2 ≤ self.config.quorum) ∧
        inst = self.instanceAt instanceId := by
  constructor
  · intro entered
    obtain ⟨next', counted, entered⟩ := bind_ok.mp entered
    obtain ⟨inst', found, entered⟩ := bind_ok.mp entered
    simp only [pure, Except.pure, Except.ok.injEq, Prod.mk.injEq] at entered
    obtain ⟨rfl, rfl⟩ := entered
    obtain ⟨bounded, highest⟩ := nextAfter_ok.mp counted
    exact ⟨bounded, highest, entry_ok.mp found⟩
  · rintro ⟨bounded, highest, several, found⟩
    exact bind_ok.mpr ⟨next, nextAfter_ok.mpr ⟨bounded, highest⟩,
      bind_ok.mpr ⟨inst, entry_ok.mpr ⟨several, found⟩, rfl⟩⟩

variable [DecidableEq C] [Serde Nat] [Serde (AcceptedValue C)]

-- Each handled answer takes the rank down, so the fuel is never what ends the loop.
theorem selfDeliverLoop_done {fuel : Nat} {self : MultiPaxosNode C} {instanceId : Nat}
    {inst : PaxosInstance C} {message : MessageKind C}
    (present : self.paxosInstances instanceId = some inst) (synod : message.IsSynod)
    (enough : inst.rank message + 1 < fuel) :
    (selfDeliverLoop fuel self instanceId [message]).result ≠ .error .diverged := by
  induction fuel generalizing self inst message with
  | zero => omega
  | succ fuel ih =>
    simp only [selfDeliverLoop, present]
    split
    next fault stopped =>
      rintro ⟨⟩
      exact PaxosInstance.handleMessage_done inst message self.storage stopped
    next response handled =>
      have step := PaxosInstance.handleMessage_step synod handled
      cases response with
      | none =>
        cases fuel with
        | zero => omega
        | succ fuel => simp [selfDeliverLoop, Except.map]
      | some response =>
        have less := step.rank_lt
        have stored : (self.putInstance instanceId
            (inst.handleMessage message self.storage).after
            (inst.handleMessage message self.storage).storage).paxosInstances instanceId =
              some (inst.handleMessage message self.storage).after := by simp [putInstance]
        have rest := ih stored step.response_isSynod (by omega)
        simp only [Option.toList_some, List.cons_append, List.nil_append]
        generalize (selfDeliverLoop fuel _ instanceId [response]).result = result at rest
        cases result with
        | error fault => simpa [Except.map] using rest
        | ok out => simp [Except.map]

theorem selfDeliver_done {self : MultiPaxosNode C} {instanceId : Nat} {inst : PaxosInstance C}
    {message : MessageKind C} (present : self.paxosInstances instanceId = some inst)
    (synod : message.IsSynod) :
    (self.selfDeliver instanceId message).result ≠ .error .diverged :=
  selfDeliverLoop_done present synod (by
    have bound := inst.rank_le message
    unfold selfDeliverFuel
    omega)

theorem selfDeliverLoop_ok {fuel : Nat} {self : MultiPaxosNode C} {instanceId : Nat}
    {inst : PaxosInstance C} {message : MessageKind C} {out : List (Message C)}
    (present : self.paxosInstances instanceId = some inst) (synod : message.IsSynod)
    (done : (selfDeliverLoop fuel self instanceId [message]).result = .ok out) :
    ∃ responses after kept events,
      inst.Cascade self.storage message responses after kept events ∧
      out = responses.map (self.broadcast instanceId) ∧
      (selfDeliverLoop fuel self instanceId [message]).after =
        self.putInstance instanceId after kept ∧
      (selfDeliverLoop fuel self instanceId [message]).trace = events := by
  induction fuel generalizing self inst message out with
  | zero => simp [selfDeliverLoop] at done
  | succ fuel ih =>
    simp only [selfDeliverLoop, present] at done ⊢
    split at done
    next fault stopped => simp at done
    next response handled =>
      have step := PaxosInstance.handleMessage_step synod handled
      cases response with
      | none =>
        cases fuel with
        | zero => simp [selfDeliverLoop, Except.map] at done
        | succ fuel =>
          simp [selfDeliverLoop, Except.map] at done
          subst done
          exact ⟨[], _, _, _, .last step, rfl, by simp [selfDeliverLoop], by simp [selfDeliverLoop]⟩
      | some response =>
        simp only [Option.toList_some, List.cons_append, List.nil_append, List.map_cons,
          List.map_nil] at done ⊢
        obtain ⟨later, rest, rfl⟩ := map_ok.mp done
        have stored : (self.putInstance instanceId
            (inst.handleMessage message self.storage).after
            (inst.handleMessage message self.storage).storage).paxosInstances instanceId =
              some (inst.handleMessage message self.storage).after := by simp [putInstance]
        obtain ⟨responses, after, kept, events, cascade, rfl, whole, traced⟩ :=
          ih stored step.response_isSynod rest
        refine ⟨response :: responses, after, kept, _, .more step cascade, rfl, ?_, ?_⟩
        · rw [whole]
          simp [putInstance]
        · rw [traced]

theorem selfDeliver_ok {self : MultiPaxosNode C} {instanceId : Nat} {inst : PaxosInstance C}
    {message : MessageKind C} {out : List (Message C)}
    (present : self.paxosInstances instanceId = some inst) (synod : message.IsSynod)
    (done : (self.selfDeliver instanceId message).result = .ok out) :
    ∃ responses after kept events,
      inst.Cascade self.storage message responses after kept events ∧
      out = responses.map (self.broadcast instanceId) ∧
      (self.selfDeliver instanceId message).after = self.putInstance instanceId after kept ∧
      (self.selfDeliver instanceId message).trace = events :=
  selfDeliverLoop_ok present synod done

omit [DecidableEq C] [Serde Nat] [Serde (AcceptedValue C)] in
theorem opens_ok {self : MultiPaxosNode C} {instanceId : Nat} {cmd : C} {first : MessageKind C}
    {inst : PaxosInstance C}
    (done : (do
      let inst ← self.newInstance instanceId
      let (firstMsg, proposer) ← self.firstMessage inst cmd
      pure (firstMsg, { inst with proposer := proposer })) = Except.ok (first, inst)) :
    2 ≤ self.config.quorum ∧ self.Opens instanceId cmd first inst := by
  obtain ⟨made, created, done⟩ := bind_ok.mp done
  obtain ⟨⟨message, proposer⟩, chosen, done⟩ := bind_ok.mp done
  obtain ⟨several, rfl⟩ := newInstance_ok.mp created
  simp only [pure, Except.pure, Except.ok.injEq, Prod.mk.injEq] at done
  obtain ⟨rfl, rfl⟩ := done
  refine ⟨several, ?_⟩
  unfold firstMessage at chosen
  split at chosen
  next ballot leads =>
    simp only [Proposer.newAccept, fresh, PaxosInstance.fresh, Proposer.new, InnerState.newAccept,
      StateWrapper.newAccept, bind, Except.bind, pure, Except.pure, Except.ok.injEq,
      Prod.mk.injEq] at chosen
    obtain ⟨rfl, rfl⟩ := chosen
    exact .accept ballot leads
  next unled =>
    unfold Proposer.newPrepare at chosen
    obtain ⟨⟨response, next⟩, prepared, chosen⟩ := bind_ok.mp chosen
    simp only [fresh, PaxosInstance.fresh, Proposer.new, InnerState.newPrepare] at prepared
    obtain ⟨positive, fits, rfl, rfl⟩ := StateWrapper.newPrepare_ok prepared
    simp only [pure, Except.pure, Except.ok.injEq, Prod.mk.injEq] at chosen
    obtain ⟨rfl, rfl⟩ := chosen
    exact .prepare unled positive fits

inductive Starts (self : MultiPaxosNode C) (cmd : C) :
    List (Message C) → MultiPaxosNode C → List (TraceEvent C) → Prop where
  | intro (first : MessageKind C) (inst after : PaxosInstance C)
      (responses : List (MessageKind C)) (kept : Option (PaxosStorage C))
      (events : List (TraceEvent C)) (bounded : self.nextInstanceId + 1 ≤ u64Max)
      (several : 2 ≤ self.config.quorum) (opens : self.Opens self.nextInstanceId cmd first inst)
      (cascade : inst.Cascade self.storage first responses after kept events) :
      Starts self cmd ((first :: responses).map (self.broadcast self.nextInstanceId))
        (self.afterStart cmd after kept) (self.firstTrace self.nextInstanceId first ++ events)

inductive Proposes (self : MultiPaxosNode C) (cmd : C) :
    List (Message C) → MultiPaxosNode C → List (TraceEvent C) → Prop where
  | forward (forwards : self.forwards = true) :
      Proposes self cmd [self.broadcast 0 (.requestCommandToLeader cmd self.nextForwardId)]
        (self.afterForward cmd) []
  | start {msgs : List (Message C)} {after : MultiPaxosNode C} {events : List (TraceEvent C)}
      (stays : self.forwards = false) (starts : self.Starts cmd msgs after events) :
      Proposes self cmd msgs after events

inductive Answers (self : MultiPaxosNode C) :
    Message C → List (Message C) → MultiPaxosNode C → List (TraceEvent C) → Prop where
  | dropped (senderId instanceId forwardId : Nat) (cmd : C) (unled : self.leaderBallot = none) :
      Answers self
        { senderId := senderId, paxosInstance := instanceId
          msg := .requestCommandToLeader cmd forwardId } [] self []
  | taken (senderId instanceId forwardId : Nat) (cmd : C) {msgs : List (Message C)}
      {after : MultiPaxosNode C} {events : List (TraceEvent C)} (leads : self.isLeader = true)
      (starts : self.Starts cmd msgs after events) :
      Answers self
        { senderId := senderId, paxosInstance := instanceId
          msg := .requestCommandToLeader cmd forwardId }
        (msgs ++ [self.broadcast self.nextInstanceId
          (.forwardAck forwardId self.nextInstanceId)])
        (after.afterRequest self.nextInstanceId senderId forwardId) events
  | acked (senderId paxosInstance forwardId instanceId : Nat) :
      Answers self
        { senderId := senderId, paxosInstance := paxosInstance
          msg := .forwardAck forwardId instanceId } []
        (self.handleForwardAck forwardId instanceId) []
  | synod (m : Message C) (synod : m.msg.IsSynod) (responses : List (MessageKind C))
      (after : PaxosInstance C) (kept : Option (PaxosStorage C)) (events : List (TraceEvent C))
      (bounded : self.nextInstanceId ≤ m.paxosInstance → m.paxosInstance + 1 ≤ u64Max)
      (several : self.paxosInstances m.paxosInstance = none → 2 ≤ self.config.quorum)
      (cascade : (self.instanceAt m.paxosInstance).Cascade self.storage m.msg responses after kept
        events) :
      Answers self m (responses.map (self.broadcast m.paxosInstance))
        (self.afterSynod m.paxosInstance m.msg responses.head? after kept) events

theorem Starts.books {node after : MultiPaxosNode C} {cmd : C}
    {msgs : List (Message C)} {events : List (TraceEvent C)}
    (starts : node.Starts cmd msgs after events) :
    (∀ m ∈ msgs, m.senderId = node.id ∧ m.msg.IsSynod) ∧
      after.nextInstanceId = node.nextInstanceId + 1 ∧
      after.pendingSenders = Function.update node.pendingSenders node.nextInstanceId
        (some { serial := node.channels, command := cmd, forwardId := none }) ∧
      after.forwardedSenders = node.forwardedSenders ∧
      after.nextForwardId = node.nextForwardId ∧
      after.forwardedInstances = node.forwardedInstances := by
  cases starts with
  | intro first inst result responses kept events bounded several opens cascade =>
    refine ⟨fun m sent => ?_, rfl, rfl, rfl, rfl, rfl⟩
    obtain ⟨response, member, rfl⟩ := List.mem_map.mp sent
    refine ⟨rfl, ?_⟩
    rcases List.mem_cons.mp member with rfl | later
    · exact opens.isSynod
    · exact cascade.responses_isSynod response later

theorem start_ok {self : MultiPaxosNode C} {cmd : C} {msgs : List (Message C)}
    {sender : Oneshot C} (done : (self.start cmd).result = .ok (msgs, sender)) :
    self.Starts cmd msgs (self.start cmd).after (self.start cmd).trace := by
  unfold start at done ⊢
  dsimp only at done ⊢
  split at done
  next => simp at done
  next nextInstanceId counted =>
    rw [u64Add_ok] at counted
    obtain ⟨bounded, rfl⟩ := counted
    split at done
    next => simp at done
    next first inst opened =>
      obtain ⟨several, opens⟩ := opens_ok opened
      split at done
      next => simp at done
      next outgoing delivered =>
        obtain ⟨responses, after, kept, events, cascade, rfl, whole, traced⟩ :=
          selfDeliver_ok (Function.update_self _ _ _) opens.isSynod delivered
        simp only [Except.ok.injEq, Prod.mk.injEq] at done
        obtain ⟨rfl, rfl⟩ := done
        have starts := Starts.intro first inst after responses kept events bounded several
          opens.counted cascade
        rw [whole, traced]
        simp only [putInstance, Function.update_idem]
        exact starts

theorem propose_start {self : MultiPaxosNode C} (stays : self.forwards = false) (cmd : C) :
    self.propose cmd = self.start cmd := by
  unfold propose
  rw [if_neg]
  simpa [MultiPaxosNode.forwards] using stays

theorem propose_leading {self : MultiPaxosNode C} (leads : self.isLeader = true) (cmd : C) :
    self.propose cmd = self.start cmd :=
  propose_start (by simp [MultiPaxosNode.forwards, leads]) cmd

theorem propose_ok {self : MultiPaxosNode C} {cmd : C} {msgs : List (Message C)}
    {sender : Oneshot C} (done : (self.propose cmd).result = .ok (msgs, sender)) :
    self.Proposes cmd msgs (self.propose cmd).after (self.propose cmd).trace := by
  unfold propose at done ⊢
  split at done
  next known =>
    have forwards : self.forwards = true := by simpa [MultiPaxosNode.forwards] using known
    unfold forward at done ⊢
    split at done
    next => simp at done
    next nextForwardId counted =>
      rw [u64Add_ok] at counted
      obtain ⟨-, rfl⟩ := counted
      simp only [Except.ok.injEq, Prod.mk.injEq] at done
      obtain ⟨rfl, rfl⟩ := done
      simpa only [if_pos known, afterForward] using @Proposes.forward _ _ _ _ self cmd forwards
  next unknown =>
    have stays : self.forwards = false := by simpa [MultiPaxosNode.forwards] using unknown
    rw [if_neg unknown]
    exact .start stays (start_ok done)

theorem handleSynod_ok {self : MultiPaxosNode C} {instanceId : Nat} {message : MessageKind C}
    {msgs : List (Message C)} (synod : message.IsSynod)
    (done : (self.handleSynod instanceId message).result = .ok msgs) :
    ∃ responses after kept events,
      (self.nextInstanceId ≤ instanceId → instanceId + 1 ≤ u64Max) ∧
      (self.paxosInstances instanceId = none → 2 ≤ self.config.quorum) ∧
      (self.instanceAt instanceId).Cascade self.storage message responses after kept events ∧
      msgs = responses.map (self.broadcast instanceId) ∧
      (self.handleSynod instanceId message).after =
        self.afterSynod instanceId message responses.head? after kept ∧
      (self.handleSynod instanceId message).trace = events := by
  unfold handleSynod at done ⊢
  split at done
  next => simp at done
  next next inst entered =>
    obtain ⟨bounded, rfl, several, rfl⟩ := entering_ok.mp entered
    dsimp only at done ⊢
    split at done
    next => simp at done
    next response handled =>
      have step := PaxosInstance.handleMessage_step synod handled
      cases response with
      | none =>
        simp only [Except.ok.injEq] at done
        subst done
        exact ⟨[], _, _, _, bounded, several, .last step, rfl, rfl, rfl⟩
      | some response =>
        dsimp only at done ⊢
        obtain ⟨later, rest, rfl⟩ := map_ok.mp done
        obtain ⟨responses, after, kept, events, cascade, rfl, whole, traced⟩ :=
          selfDeliver_ok (Function.update_self _ _ _) step.response_isSynod rest
        refine ⟨response :: responses, after, kept, _, bounded, several, .more step cascade,
          rfl, ?_, ?_⟩
        · rw [whole]
          simp only [afterSynod, updateLeadership, putInstance, Function.update_idem]
          rfl
        · rw [traced]

theorem handleMessage_ok {self : MultiPaxosNode C} {m : Message C} {msgs : List (Message C)}
    (done : (self.handleMessage m).result = .ok msgs) :
    self.Answers m msgs (self.handleMessage m).after (self.handleMessage m).trace := by
  obtain ⟨senderId, paxosInstance, message⟩ := m
  unfold handleMessage at done ⊢
  dsimp only at done ⊢
  split at done
  next cmd forwardId =>
    unfold handleRequest at done ⊢
    split at done
    next leads =>
      dsimp only at done ⊢
      rw [propose_leading leads] at done ⊢
      split at done
      next => simp at done
      next msgs sender started =>
        have starts := start_ok started
        simp only [Except.ok.injEq] at done
        subst done
        have next : (self.start cmd).after.nextInstanceId - 1 = self.nextInstanceId ∧
            (self.start cmd).after.id = self.id := by
          generalize (self.start cmd).after = after, (self.start cmd).trace = events at starts
          cases starts
          simp [afterStart]
        have taken := Answers.taken senderId paxosInstance forwardId cmd leads starts
        simpa [if_pos leads, next, broadcast, afterRequest] using taken
    next follows =>
      simp only [Except.ok.injEq] at done
      subst done
      have unled : self.leaderBallot = none := by simpa [isLeader] using follows
      simpa [if_neg follows] using Answers.dropped senderId paxosInstance forwardId cmd unled
  next forwardId instanceId =>
    simp only [Except.ok.injEq] at done
    subst done
    exact .acked _ _ _ _
  next notRequest notAck =>
    have synod : message.IsSynod := by
      cases message with
      | requestCommandToLeader cmd forwardId => exact (notRequest _ _ rfl).elim
      | forwardAck forwardId instanceId => exact (notAck _ _ rfl).elim
      | _ => trivial
    obtain ⟨responses, after, kept, events, bounded, several, cascade, rfl, whole, traced⟩ :=
      handleSynod_ok synod done
    rw [whole, traced]
    exact .synod { senderId, paxosInstance, msg := message } synod responses after kept events
      bounded several cascade

end MultiPaxosNode

end Smr
