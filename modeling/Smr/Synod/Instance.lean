import Smr.Synod.Acceptor
import Smr.Synod.Learner
import Smr.Synod.Proposer
import Smr.Storage.PaxosStorage

set_option autoImplicit false

namespace Smr

structure PaxosInstance (C : Type) where
  acceptor : Acceptor C
  proposer : Proposer C
  learner : Learner C
  instanceId : Nat

-- What a call to an instance leaves behind. On an error the instance keeps what
-- was already written to it, as `&mut self` does.
structure Handled (C : Type) where
  result : Except Fault (Option (MessageKind C))
  after : PaxosInstance C
  storage : Option (PaxosStorage C)
  trace : List (TraceEvent C)

variable {C : Type}

def persist (storage : Option (PaxosStorage C))
    (save : PaxosStorage C → Except Fault Unit × PaxosStorage C) :
    Except Fault Unit × Option (PaxosStorage C) :=
  match storage with
  | none => (.ok (), none)
  | some s => ((save s).1, some (save s).2)

theorem persist_done (storage : Option (PaxosStorage C))
    (save : PaxosStorage C → Except Fault Unit × PaxosStorage C)
    (saves : ∀ store, (save store).1 ≠ .error .diverged) :
    (persist storage save).1 ≠ .error .diverged := by
  cases storage with
  | none => simp [persist]
  | some store => exact saves store

namespace PaxosInstance

def fresh (nodeId quorumSize totalNodes instanceId : Nat) : PaxosInstance C :=
  { acceptor := Acceptor.new nodeId
    proposer := Proposer.new nodeId quorumSize totalNodes
    learner := Learner.new quorumSize
    instanceId := instanceId }

def new (nodeId quorumSize totalNodes instanceId : Nat) : Except Fault (PaxosInstance C) :=
  if quorumSize < 2 then .error .panicked
  else .ok (fresh nodeId quorumSize totalNodes instanceId)

def restoreAcceptor (self : PaxosInstance C) (state : AcceptorState C) : PaxosInstance C :=
  { self with
    acceptor :=
      { self.acceptor with
        maxBallot := state.maxBallot
        maxAccepted := state.maxAccepted.map fun v =>
          { ballot := v.ballot, command := v.command } } }

def proposerTrace (self : PaxosInstance C) :
    MessageKind C → Option (MessageKind C) → List (TraceEvent C)
  | .promiseMsg _, some (.acceptMsg a) =>
    [.phase2a self.acceptor.myId self.instanceId a.ballot a.command]
  | .requestCommandToLeader _ _, some (.prepareMsg p) =>
    [.phase1a self.acceptor.myId self.instanceId p.ballot]
  | _, _ => []

def askProposer (self : PaxosInstance C) (message : MessageKind C)
    (storage : Option (PaxosStorage C)) : Handled C :=
  match self.proposer.handleMessage message with
  | .error fault => { result := .error fault, after := self, storage := storage, trace := [] }
  | .ok (response, proposer) =>
    { result := .ok response
      after := { self with proposer := proposer }
      storage := storage
      trace := self.proposerTrace message response }

variable [DecidableEq C] [Serde Nat] [Serde (AcceptedValue C)]

def handlePrepare (self : PaxosInstance C) (prepare : Prepare)
    (storage : Option (PaxosStorage C)) : Handled C :=
  let (response, acceptor) := self.acceptor.handlePrepare prepare
  let nodeId := acceptor.myId
  let self := { self with acceptor := acceptor }
  match response with
  | .promiseMsg _ =>
    match persist storage (·.savePromise self.instanceId acceptor.maxBallot) with
    | (.error fault, storage) =>
      { result := .error fault, after := self, storage := storage, trace := [] }
    | (.ok (), storage) =>
      { result := .ok (some response)
        after := self
        storage := storage
        trace := [.phase1b nodeId self.instanceId prepare.ballot prepare.sender
          acceptor.maxBallot acceptor.maxAccepted] }
  | .nackPrepareMsg _ =>
    { result := .ok (some response)
      after := self
      storage := storage
      trace := [.nackPrepare nodeId self.instanceId prepare.ballot prepare.sender
        acceptor.maxBallot] }
  | _ => { result := .ok (some response), after := self, storage := storage, trace := [] }

def handleAccept (self : PaxosInstance C) (accept : Accept C)
    (storage : Option (PaxosStorage C)) : Handled C :=
  let (response, acceptor) := self.acceptor.handleAccept accept
  let nodeId := acceptor.myId
  let self := { self with acceptor := acceptor }
  match response with
  | .ackAcceptMsg _ =>
    match acceptor.maxAccepted with
    | none => { result := .error .panicked, after := self, storage := storage, trace := [] }
    | some maxAcc =>
      match persist storage (·.saveAccept self.instanceId acceptor.maxBallot maxAcc.command) with
      | (.error fault, storage) =>
        { result := .error fault, after := self, storage := storage, trace := [] }
      | (.ok (), storage) =>
        { result := .ok (some response)
          after := self
          storage := storage
          trace := [.phase2b nodeId self.instanceId accept.ballot accept.sender
            acceptor.maxBallot maxAcc] }
  | .nackAcceptMsg _ =>
    { result := .ok (some response)
      after := self
      storage := storage
      trace := [.nackAccept nodeId self.instanceId accept.ballot accept.sender
        acceptor.maxBallot] }
  | _ => { result := .ok (some response), after := self, storage := storage, trace := [] }

-- The echo goes out for every message before the value is learned, not once.
def handleLearn (self : PaxosInstance C) (learn : Learn C)
    (storage : Option (PaxosStorage C)) : Handled C :=
  let alreadyLearned := self.learner.isValueLearned
  match self.learner.handleLearn learn with
  | .error fault => { result := .error fault, after := self, storage := storage, trace := [] }
  | .ok (_, learner) =>
    let myId := self.acceptor.myId
    { result := .ok (
        if ¬alreadyLearned ∧ learn.sender ≠ myId then
          some (.learnMsg { sender := myId, ballot := learn.ballot, command := learn.command })
        else none)
      after := { self with learner := learner }
      storage := storage
      trace :=
        if ¬alreadyLearned ∧ learner.isValueLearned then
          [.learn myId self.instanceId learn.ballot learn.command]
        else [] }

def handleMessage (self : PaxosInstance C) (message : MessageKind C)
    (storage : Option (PaxosStorage C)) : Handled C :=
  match message with
  | .prepareMsg prepare => self.handlePrepare prepare storage
  | .promiseMsg promise => self.askProposer (.promiseMsg promise) storage
  | .acceptMsg accept => self.handleAccept accept storage
  | .learnMsg learn => self.handleLearn learn storage
  | .ackAcceptMsg msg => self.askProposer (.ackAcceptMsg msg) storage
  | .nackPrepareMsg nack => self.askProposer (.nackPrepareMsg nack) storage
  | .nackAcceptMsg nack => self.askProposer (.nackAcceptMsg nack) storage
  | .requestCommandToLeader cmd _ => self.askProposer (.requestCommandToLeader cmd 0) storage
  | .forwardAck _ _ | .learnedCommand _ =>
    { result := .ok none, after := self, storage := storage, trace := [] }

def getValue (self : PaxosInstance C) : Option C :=
  self.learner.value

def echo (self : PaxosInstance C) (m : Learn C) : Option (MessageKind C) :=
  if ¬self.learner.isValueLearned ∧ m.sender ≠ self.acceptor.myId then
    some (.learnMsg { sender := self.acceptor.myId, ballot := m.ballot, command := m.command })
  else none

omit [DecidableEq C] [Serde Nat] [Serde (AcceptedValue C)] in
theorem echo_some {self : PaxosInstance C} {m : Learn C} {reply : MessageKind C}
    (echoes : self.echo m = some reply) :
    m.sender ≠ self.acceptor.myId ∧ reply =
      .learnMsg { sender := self.acceptor.myId, ballot := m.ballot, command := m.command } := by
  unfold echo at echoes
  split at echoes
  next unheard => exact ⟨unheard.2, (Option.some.inj echoes).symm⟩
  next => simp at echoes

def learnTrace (self : PaxosInstance C) (m : Learn C) (learner : Learner C) :
    List (TraceEvent C) :=
  if ¬self.learner.isValueLearned ∧ learner.isValueLearned then
    [.learn self.acceptor.myId self.instanceId m.ballot m.command]
  else []

inductive Step (self : PaxosInstance C) (storage : Option (PaxosStorage C)) :
    MessageKind C → Option (MessageKind C) → PaxosInstance C → Option (PaxosStorage C) →
      List (TraceEvent C) → Prop where
  | promise (p : Prepare) (kept : Option (PaxosStorage C))
      (higher : self.acceptor.maxBallot < p.ballot)
      (saved : persist storage (·.savePromise self.instanceId p.ballot) = (.ok (), kept)) :
      Step self storage (.prepareMsg p)
        (some (.promiseMsg
          { sender := self.acceptor.myId, ballot := p.ballot
            maxAccepted := self.acceptor.maxAccepted }))
        { self with acceptor := { self.acceptor with maxBallot := p.ballot } } kept
        [.phase1b self.acceptor.myId self.instanceId p.ballot p.sender p.ballot
          self.acceptor.maxAccepted]
  | nackPrepare (p : Prepare) (lower : p.ballot ≤ self.acceptor.maxBallot) :
      Step self storage (.prepareMsg p)
        (some (.nackPrepareMsg
          { sender := self.acceptor.myId, maxBallot := self.acceptor.maxBallot }))
        self storage
        [.nackPrepare self.acceptor.myId self.instanceId p.ballot p.sender
          self.acceptor.maxBallot]
  | ackAccept (a : Accept C) (kept : Option (PaxosStorage C))
      (current : self.acceptor.maxBallot ≤ a.ballot)
      (saved : persist storage (·.saveAccept self.instanceId a.ballot a.command) =
        (.ok (), kept)) :
      Step self storage (.acceptMsg a)
        (some (.ackAcceptMsg { sender := self.acceptor.myId, ballot := a.ballot }))
        { self with
          acceptor :=
            { self.acceptor with
              maxBallot := a.ballot
              maxAccepted := some { ballot := a.ballot, command := a.command } } } kept
        [.phase2b self.acceptor.myId self.instanceId a.ballot a.sender a.ballot
          { ballot := a.ballot, command := a.command }]
  | nackAccept (a : Accept C) (stale : a.ballot < self.acceptor.maxBallot) :
      Step self storage (.acceptMsg a)
        (some (.nackAcceptMsg
          { sender := self.acceptor.myId, maxBallot := self.acceptor.maxBallot }))
        self storage
        [.nackAccept self.acceptor.myId self.instanceId a.ballot a.sender
          self.acceptor.maxBallot]
  | learn (m : Learn C) (learner : Learner C) (reply : Option (MessageKind C))
      (heard : self.learner.handleLearn m = .ok (reply, learner)) :
      Step self storage (.learnMsg m) (self.echo m) { self with learner := learner } storage
        (self.learnTrace m learner)
  | proposer (message : MessageKind C) (response : Option (MessageKind C)) (next : InnerState C)
      (addressed : message.ForProposer)
      (asked : self.proposer.innerState.Step message response next) :
      Step self storage message response { self with proposer := { innerState := next } } storage
        (self.proposerTrace message response)
  | ignored (cmd : C) : Step self storage (.learnedCommand cmd) none self storage []

omit [DecidableEq C] [Serde Nat] [Serde (AcceptedValue C)] in
theorem askProposer_ok {self : PaxosInstance C} {message : MessageKind C}
    {storage : Option (PaxosStorage C)} {response : Option (MessageKind C)}
    (done : (self.askProposer message storage).result = .ok response) :
    ∃ next, self.proposer.innerState.Step message response next ∧
      self.askProposer message storage =
        { result := .ok response
          after := { self with proposer := { innerState := next } }
          storage := storage
          trace := self.proposerTrace message response } := by
  unfold askProposer at done ⊢
  split at done
  · simp at done
  next reply proposer handled =>
    obtain ⟨⟨reply', next⟩, asked, handled⟩ := bind_ok.mp handled
    simp only [pure, Except.pure, Except.ok.injEq, Prod.mk.injEq] at handled done
    obtain ⟨rfl, rfl⟩ := handled
    subst done
    exact ⟨next, InnerState.handleMessage_step asked, rfl⟩

theorem handlePrepare_step {self : PaxosInstance C} {p : Prepare}
    {storage : Option (PaxosStorage C)} {response : Option (MessageKind C)}
    (done : (self.handlePrepare p storage).result = .ok response) :
    self.Step storage (.prepareMsg p) response (self.handlePrepare p storage).after
      (self.handlePrepare p storage).storage (self.handlePrepare p storage).trace := by
  rcases Nat.lt_or_ge self.acceptor.maxBallot p.ballot with higher | lower
  · unfold handlePrepare at done ⊢
    rw [Acceptor.handlePrepare_promise _ _ higher] at done ⊢
    dsimp only at done ⊢
    split at done
    · simp at done
    next kept saved =>
      simp only [Except.ok.injEq] at done
      subst done
      dsimp only
      exact .promise p kept higher saved
  · unfold handlePrepare at done ⊢
    rw [Acceptor.handlePrepare_nack _ _ lower] at done ⊢
    simp only [Except.ok.injEq] at done
    subst done
    exact .nackPrepare p lower

theorem handleAccept_step {self : PaxosInstance C} {a : Accept C}
    {storage : Option (PaxosStorage C)} {response : Option (MessageKind C)}
    (done : (self.handleAccept a storage).result = .ok response) :
    self.Step storage (.acceptMsg a) response (self.handleAccept a storage).after
      (self.handleAccept a storage).storage (self.handleAccept a storage).trace := by
  rcases Nat.lt_or_ge a.ballot self.acceptor.maxBallot with stale | current
  · unfold handleAccept at done ⊢
    rw [Acceptor.handleAccept_nack _ _ stale] at done ⊢
    simp only [Except.ok.injEq] at done
    subst done
    exact .nackAccept a stale
  · unfold handleAccept at done ⊢
    rw [Acceptor.handleAccept_ack _ _ current] at done ⊢
    dsimp only at done ⊢
    split at done
    · simp at done
    next kept saved =>
      simp only [Except.ok.injEq] at done
      subst done
      dsimp only
      exact .ackAccept a kept current saved

theorem handleLearn_step {self : PaxosInstance C} {m : Learn C}
    {storage : Option (PaxosStorage C)} {response : Option (MessageKind C)}
    (done : (self.handleLearn m storage).result = .ok response) :
    self.Step storage (.learnMsg m) response (self.handleLearn m storage).after
      (self.handleLearn m storage).storage (self.handleLearn m storage).trace := by
  unfold handleLearn at done ⊢
  dsimp only at done ⊢
  split at done
  · simp at done
  next reply learner heard =>
    simp only [Except.ok.injEq] at done
    subst done
    dsimp only
    exact .learn m learner reply heard

omit [DecidableEq C] [Serde Nat] [Serde (AcceptedValue C)] in
theorem askProposer_done (self : PaxosInstance C) (message : MessageKind C)
    (storage : Option (PaxosStorage C)) :
    (self.askProposer message storage).result ≠ .error .diverged := by
  unfold askProposer Proposer.handleMessage
  split
  next fault stopped =>
    rintro ⟨⟩
    rcases bind_diverged.mp stopped with stopped | ⟨_, _, stopped⟩
    · exact InnerState.handleMessage_done _ _ stopped
    · simp [pure, Except.pure] at stopped
  next => simp

theorem handleMessage_done (self : PaxosInstance C) (message : MessageKind C)
    (storage : Option (PaxosStorage C)) :
    (self.handleMessage message storage).result ≠ .error .diverged := by
  cases message with
  | prepareMsg p =>
    simp only [handleMessage, handlePrepare]
    repeat' split
    next fault kept stopped =>
      rintro ⟨⟩
      exact persist_done _ _ (PaxosStorage.savePromise_done _ _) (congrArg Prod.fst stopped)
    all_goals simp
  | acceptMsg a =>
    simp only [handleMessage, handleAccept]
    repeat' split
    next => simp
    next fault kept stopped =>
      rintro ⟨⟩
      exact persist_done _ _ (PaxosStorage.saveAccept_done _ _ _) (congrArg Prod.fst stopped)
    all_goals simp
  | learnMsg m =>
    simp only [handleMessage, handleLearn]
    split
    next fault stopped =>
      rintro ⟨⟩
      exact Learner.handleLearn_done _ _ stopped
    next => simp
  | promiseMsg _ | ackAcceptMsg _ | nackPrepareMsg _ | nackAcceptMsg _
  | requestCommandToLeader _ _ => exact askProposer_done _ _ _
  | forwardAck _ _ | learnedCommand _ => simp [handleMessage]

-- The one inversion lemma the protocol proofs start from.
theorem handleMessage_step {self : PaxosInstance C} {message : MessageKind C}
    {storage : Option (PaxosStorage C)} {response : Option (MessageKind C)}
    (synod : message.IsSynod) (done : (self.handleMessage message storage).result = .ok response) :
    self.Step storage message response (self.handleMessage message storage).after
      (self.handleMessage message storage).storage
      (self.handleMessage message storage).trace := by
  cases message with
  | prepareMsg p => exact handlePrepare_step done
  | acceptMsg a => exact handleAccept_step done
  | learnMsg m => exact handleLearn_step done
  | promiseMsg _ | ackAcceptMsg _ | nackPrepareMsg _ | nackAcceptMsg _ =>
    obtain ⟨next, asked, whole⟩ := askProposer_ok done
    simp only [handleMessage, whole]
    exact .proposer _ _ next trivial asked
  | requestCommandToLeader cmd forwardId => exact synod.elim
  | forwardAck forwardId instanceId => exact synod.elim
  | learnedCommand cmd =>
    simp only [handleMessage, Except.ok.injEq] at done ⊢
    subst done
    exact .ignored _

end PaxosInstance

end Smr
