import Smr.Synod.Instance

set_option autoImplicit false

namespace Smr

structure SmrConfig where
  nodeId : Nat
  totalNodes : Nat
  deriving DecidableEq, Repr

-- One end of a oneshot channel, known by the propose call that opened it: the
-- call's number on its node, its command, and its forward id if it forwarded.
structure Oneshot (C : Type) where
  serial : Nat
  command : C
  forwardId : Option Nat
  deriving DecidableEq, Repr

structure MultiPaxosNode (C : Type) where
  config : SmrConfig
  paxosInstances : Nat → Option (PaxosInstance C)
  pendingSenders : Nat → Option (Oneshot C)
  nextInstanceId : Nat
  id : Nat
  storage : Option (PaxosStorage C)
  leaderBallot : Option Nat
  knownLeaderId : Option Nat
  forwardedSenders : Nat → Option (Oneshot C)
  nextForwardId : Nat
  forwardedInstances : Nat → Option (Nat × Nat)
  -- Not in the source: how many channels the node has opened so far.
  channels : Nat

-- What a call to a node leaves behind; on an error `after` is the node as the
-- early return leaves it.
structure Called (C A : Type) where
  result : Except Fault A
  after : MultiPaxosNode C
  trace : List (TraceEvent C)

variable {C : Type}

-- The id is taken as it comes: only from_cli_args holds it against the number of nodes.
def SmrConfig.new (nodeId : Nat) (otherNodes : List (Nat × String)) : Except Fault SmrConfig := do
  let totalNodes ← u32Add (otherNodes.length % 2 ^ 32) 1
  pure { nodeId := nodeId, totalNodes := totalNodes }

def SmrConfig.quorum (config : SmrConfig) : Nat :=
  config.totalNodes / 2 + 1

namespace MultiPaxosNode

def new (config : SmrConfig) : MultiPaxosNode C :=
  { config := config
    paxosInstances := fun _ => none
    pendingSenders := fun _ => none
    nextInstanceId := 0
    id := config.nodeId
    storage := none
    leaderBallot := none
    knownLeaderId := none
    forwardedSenders := fun _ => none
    nextForwardId := 0
    forwardedInstances := fun _ => none
    channels := 0 }

def newInstance (self : MultiPaxosNode C) (instanceId : Nat) : Except Fault (PaxosInstance C) :=
  PaxosInstance.new self.id self.config.quorum self.config.totalNodes instanceId

def restoreInstances (config : SmrConfig) :
    List (Nat × AcceptorState C) → (Nat → Option (PaxosInstance C)) → Nat →
      Except Fault ((Nat → Option (PaxosInstance C)) × Nat)
  | [], instances, next => .ok (instances, next)
  | (instanceId, state) :: rest, instances, next => do
    let inst ← PaxosInstance.new config.nodeId config.quorum config.totalNodes instanceId
    let next ← if next ≤ instanceId then u64Add instanceId 1 else .ok next
    restoreInstances config rest
      (Function.update instances instanceId (some (inst.restoreAcceptor state))) next

def isLeader (self : MultiPaxosNode C) : Bool :=
  self.leaderBallot.isSome

def putInstance (self : MultiPaxosNode C) (instanceId : Nat) (inst : PaxosInstance C)
    (storage : Option (PaxosStorage C)) : MultiPaxosNode C :=
  { self with
    paxosInstances := Function.update self.paxosInstances instanceId (some inst)
    storage := storage }

def broadcast (self : MultiPaxosNode C) (instanceId : Nat) (msg : MessageKind C) : Message C :=
  { senderId := self.id, paxosInstance := instanceId, msg := msg }

variable [DecidableEq C] [Serde Nat] [Serde (AcceptedValue C)]

def withStorage (config : SmrConfig) (storage : PaxosStorage C) :
    Except Fault (MultiPaxosNode C) := do
  let states ← storage.loadAllAcceptorStates
  let (instances, next) ← restoreInstances config states (fun _ => none) 0
  pure
    { new config with
      paxosInstances := instances
      nextInstanceId := next
      storage := some storage }

-- The `while let Some(msg) = to_deliver.pop()` loop; the head is the end popped from.
def selfDeliverLoop :
    Nat → MultiPaxosNode C → Nat → List (MessageKind C) → Called C (List (Message C))
  | 0, self, _, _ => { result := .error .diverged, after := self, trace := [] }
  | _ + 1, self, _, [] => { result := .ok [], after := self, trace := [] }
  | fuel + 1, self, instanceId, msg :: toDeliver =>
    match self.paxosInstances instanceId with
    | none => { result := .error .panicked, after := self, trace := [] }
    | some inst =>
      let handled := inst.handleMessage msg self.storage
      let self := self.putInstance instanceId handled.after handled.storage
      match handled.result with
      | .error fault => { result := .error fault, after := self, trace := handled.trace }
      | .ok response =>
        let rest := selfDeliverLoop fuel self instanceId (response.toList ++ toDeliver)
        { result := rest.result.map
            (response.toList.map (self.broadcast instanceId) ++ ·)
          after := rest.after
          trace := handled.trace ++ rest.trace }

-- More than any cascade of one call needs.
def selfDeliverFuel : Nat := 16

def selfDeliver (self : MultiPaxosNode C) (instanceId : Nat) (initialMsg : MessageKind C) :
    Called C (List (Message C)) :=
  selfDeliverLoop selfDeliverFuel self instanceId [initialMsg]

def forward (self : MultiPaxosNode C) (cmd : C) : Called C (List (Message C) × Oneshot C) :=
  match u64Add self.nextForwardId 1 with
  | .error fault => { result := .error fault, after := self, trace := [] }
  | .ok nextForwardId =>
    let forwardId := self.nextForwardId
    let sender : Oneshot C :=
      { serial := self.channels, command := cmd, forwardId := some forwardId }
    { result := .ok ([self.broadcast 0 (.requestCommandToLeader cmd forwardId)], sender)
      after :=
        { self with
          nextForwardId := nextForwardId
          forwardedSenders := Function.update self.forwardedSenders forwardId (some sender)
          channels := self.channels + 1 }
      trace := [] }

def firstMessage (self : MultiPaxosNode C) (inst : PaxosInstance C) (cmd : C) :
    Except Fault (MessageKind C × Proposer C) :=
  match self.leaderBallot with
  | some ballot => inst.proposer.newAccept ballot cmd
  | none => inst.proposer.newPrepare cmd

def firstTrace (self : MultiPaxosNode C) (instanceId : Nat) : MessageKind C → List (TraceEvent C)
  | .acceptMsg a => [.phase2a self.id instanceId a.ballot a.command]
  | .prepareMsg p => [.phase1a self.id instanceId p.ballot]
  | _ => []

def start (self : MultiPaxosNode C) (cmd : C) : Called C (List (Message C) × Oneshot C) :=
  let instanceId := self.nextInstanceId
  match u64Add self.nextInstanceId 1 with
  | .error fault => { result := .error fault, after := self, trace := [] }
  | .ok nextInstanceId =>
    let self := { self with nextInstanceId := nextInstanceId }
    match (do
      let inst ← self.newInstance instanceId
      let (firstMsg, proposer) ← self.firstMessage inst cmd
      pure (firstMsg, { inst with proposer := proposer })) with
    | .error fault => { result := .error fault, after := self, trace := [] }
    | .ok (firstMsg, inst) =>
      let self :=
        { self with
          paxosInstances := Function.update self.paxosInstances instanceId (some inst) }
      let delivered := self.selfDeliver instanceId firstMsg
      let trace := self.firstTrace instanceId firstMsg ++ delivered.trace
      match delivered.result with
      | .error fault => { result := .error fault, after := delivered.after, trace := trace }
      | .ok outgoing =>
        let self := delivered.after
        let sender : Oneshot C := { serial := self.channels, command := cmd, forwardId := none }
        { result := .ok (self.broadcast instanceId firstMsg :: outgoing, sender)
          after :=
            { self with
              pendingSenders := Function.update self.pendingSenders instanceId (some sender)
              channels := self.channels + 1 }
          trace := trace }

def propose (self : MultiPaxosNode C) (cmd : C) : Called C (List (Message C) × Oneshot C) :=
  if ¬self.isLeader ∧ self.knownLeaderId.isSome then self.forward cmd
  else self.start cmd

def handleRequest (self : MultiPaxosNode C) (forwarderId : Nat) (cmd : C) (forwardId : Nat) :
    Called C (List (Message C)) :=
  if self.isLeader then
    let proposed := self.propose cmd
    match proposed.result with
    | .error fault => { result := .error fault, after := proposed.after, trace := proposed.trace }
    | .ok (msgs, _) =>
      let self := proposed.after
      let instanceId := self.nextInstanceId - 1
      { result := .ok (msgs ++ [self.broadcast instanceId (.forwardAck forwardId instanceId)])
        after :=
          { self with
            forwardedInstances :=
              Function.update self.forwardedInstances instanceId (some (forwarderId, forwardId)) }
        trace := proposed.trace }
  else
    { result := .ok [], after := self, trace := [] }

-- The ack names no forwarder: whoever holds a sender under this id takes it.
def handleForwardAck (self : MultiPaxosNode C) (forwardId instanceId : Nat) :
    MultiPaxosNode C :=
  match self.forwardedSenders forwardId with
  | some sender =>
    { self with
      forwardedSenders := Function.update self.forwardedSenders forwardId none
      pendingSenders := Function.update self.pendingSenders instanceId (some sender) }
  | none => self

omit [DecidableEq C] [Serde Nat] [Serde (AcceptedValue C)] in
theorem handleForwardAck_frame (self : MultiPaxosNode C) (forwardId instanceId : Nat) :
    ∃ forwarded pending, self.handleForwardAck forwardId instanceId =
      { self with forwardedSenders := forwarded, pendingSenders := pending } := by
  unfold handleForwardAck
  split <;> exact ⟨_, _, rfl⟩

-- leader_ballot after the two places of handle_message that touch it: the response,
-- then an incoming NackAccept. An accepted Accept is not one of them.
def leaderAfter (self : MultiPaxosNode C) (response : Option (MessageKind C))
    (incoming : MessageKind C) : Option Nat :=
  let afterResponse :=
    match response, incoming with
    | some (.learnMsg _), .learnMsg _ => self.leaderBallot
    | some (.learnMsg learn), _ => some learn.ballot
    | some (.promiseMsg promise), _ => self.leaderBallot.filter (promise.ballot ≤ ·)
    | _, _ => self.leaderBallot
  match incoming with
  | .nackAcceptMsg nack => afterResponse.filter (nack.maxBallot ≤ ·)
  | _ => afterResponse

def knownLeaderAfter (self : MultiPaxosNode C) (response : Option (MessageKind C))
    (incoming : MessageKind C) : Option Nat :=
  let afterResponse :=
    match response, incoming with
    | some (.learnMsg _), .learnMsg _ => self.knownLeaderId
    | some (.learnMsg _), _ => none
    | _, _ => self.knownLeaderId
  match incoming with
  | .learnMsg learn => if learn.sender ≠ self.id then some learn.sender else afterResponse
  | _ => afterResponse

def updateLeadership (self : MultiPaxosNode C) (response : Option (MessageKind C))
    (incoming : MessageKind C) : MultiPaxosNode C :=
  { self with
    leaderBallot := self.leaderAfter response incoming
    knownLeaderId := self.knownLeaderAfter response incoming }

def nextAfter (self : MultiPaxosNode C) (instanceId : Nat) : Except Fault Nat :=
  if self.nextInstanceId ≤ instanceId then u64Add instanceId 1 else .ok self.nextInstanceId

def entry (self : MultiPaxosNode C) (instanceId : Nat) : Except Fault (PaxosInstance C) :=
  match self.paxosInstances instanceId with
  | some inst => .ok inst
  | none => self.newInstance instanceId

def handleSynod (self : MultiPaxosNode C) (instanceId : Nat) (msgKind : MessageKind C) :
    Called C (List (Message C)) :=
  match (do
    let next ← self.nextAfter instanceId
    let inst ← self.entry instanceId
    pure (next, inst)) with
  | .error fault => { result := .error fault, after := self, trace := [] }
  | .ok (next, inst) =>
    let handled := inst.handleMessage msgKind self.storage
    let self := { self with nextInstanceId := next }.putInstance instanceId handled.after
      handled.storage
    match handled.result with
    | .error fault => { result := .error fault, after := self, trace := handled.trace }
    | .ok response =>
      let self := self.updateLeadership response msgKind
      match response with
      | none => { result := .ok [], after := self, trace := handled.trace }
      | some response =>
        let delivered := self.selfDeliver instanceId response
        { result := delivered.result.map (self.broadcast instanceId response :: ·)
          after := delivered.after
          trace := handled.trace ++ delivered.trace }

def handleMessage (self : MultiPaxosNode C) (paxosMsg : Message C) :
    Called C (List (Message C)) :=
  match paxosMsg.msg with
  | .requestCommandToLeader cmd forwardId => self.handleRequest paxosMsg.senderId cmd forwardId
  | .forwardAck forwardId instanceId =>
    { result := .ok [], after := self.handleForwardAck forwardId instanceId, trace := [] }
  | msgKind => self.handleSynod paxosMsg.paxosInstance msgKind

omit [DecidableEq C] [Serde Nat] [Serde (AcceptedValue C)] in
def getCommitId (self : MultiPaxosNode C) (id : Nat) :
    Option (C × Option (Oneshot C)) × MultiPaxosNode C :=
  match (self.paxosInstances id).bind PaxosInstance.getValue with
  | none => (none, self)
  | some command =>
    (some (command, self.pendingSenders id),
      { self with pendingSenders := Function.update self.pendingSenders id none })

omit [DecidableEq C] [Serde Nat] [Serde (AcceptedValue C)] in
theorem getCommitId_frame (self : MultiPaxosNode C) (id : Nat) :
    ∃ pending, (self.getCommitId id).2 = { self with pendingSenders := pending } := by
  unfold getCommitId
  split <;> exact ⟨_, rfl⟩

end MultiPaxosNode

end Smr
