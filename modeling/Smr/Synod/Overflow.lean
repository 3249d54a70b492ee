import Smr.Synod.Cascade
import Smr.Synod.Headroom

set_option autoImplicit false

namespace Smr

variable {C S : Type}

def StateWrapper.Refuses (self : StateWrapper S) (nacks : Nat) : Prop :=
  self.totalNodes - self.quorumSize < nacks + 1

instance (self : StateWrapper S) (nacks : Nat) : Decidable (self.Refuses nacks) :=
  inferInstanceAs (Decidable (_ < _))

-- The ballots the retries have to top that a nack sets off: its own, and that of the node's
-- acceptor if it refuses the new Prepare where a single nack is one too many.
def StateWrapper.retriedFor (self : StateWrapper S) (nacks highest promised : Nat) : List Nat :=
  if self.Refuses nacks then
    highest ::
      if self.Refuses 0 ∧ (self.adopt highest).nextBallot ≤ promised then [promised] else []
  else []

namespace InnerState

def Bounded : InnerState C → Prop
  | .proposal w => w.state.promises < w.quorumSize ∧ w.state.nacks ≤ w.totalNodes - w.quorumSize
  | .accepting w => w.state.accepts < w.quorumSize ∧ w.state.nacks ≤ w.totalNodes - w.quorumSize
  | .initial _ | .learning _ => True

theorem Step.bounded {self next : InnerState C} {message : MessageKind C}
    {response : Option (MessageKind C)} (bounded : self.Bounded)
    (several : 0 < self.header.quorumSize) (step : self.Step message response next) :
    next.Bounded := by
  cases step with
  | request | quorum | retryPrepare | retryAccept => exact ⟨several, Nat.zero_le _⟩
  | promise w m same below => exact ⟨below, bounded.2⟩
  | ack w m same below => exact ⟨below, bounded.2⟩
  | nackPrepare w m tolerated | nackAccept w m tolerated => exact ⟨bounded.1, tolerated⟩
  | won => trivial
  | ignored => exact bounded

end InnerState

theorem StateWrapper.nack_fits {w : StateWrapper S} {nacks highest : Nat} {value : C}
    {kept : Nat → InnerState C} (counted : nacks ≤ w.totalNodes - w.quorumSize)
    (positive : 0 < w.quorumSize) (quorum : w.quorumSize ≤ w.totalNodes)
    (typed : w.totalNodes ≤ u32Max)
    (fits : w.Refuses nacks → (w.adopt highest).nextBallot ≤ u32Max) :
    ∃ result, (do
      let nacks ← u32Add nacks 1
      let tolerated ← u32Sub w.totalNodes w.quorumSize
      if tolerated < nacks then (w.adopt highest).newPrepare value
      else pure (none, kept nacks)) = Except.ok result := by
  refine bind_fits ⟨_, u32Add_ok.mpr ⟨by omega, rfl⟩⟩ fun count counts => ?_
  refine bind_fits ⟨_, u32Sub_ok.mpr ⟨quorum, rfl⟩⟩ fun tolerated within => ?_
  obtain ⟨-, rfl⟩ := u32Add_ok.mp counts
  obtain ⟨-, rfl⟩ := u32Sub_ok.mp within
  split
  next refuses =>
    exact ⟨_, (w.adopt highest).newPrepare_fits value (by simpa using by omega) (fits refuses)⟩
  next => exact ⟨_, rfl⟩

namespace PaxosInstance

def retriedFor (self : PaxosInstance C) (message : MessageKind C) : List Nat :=
  let promised := self.acceptor.maxBallot
  match message, self.proposer.innerState with
  | .nackPrepareMsg m, .proposal w => w.retriedFor w.state.nacks m.maxBallot promised
  | .nackAcceptMsg m, .accepting w => w.retriedFor w.state.nacks m.maxBallot promised
  -- The node's own acceptor nacks, and its proposer counts that like any other nack.
  | .prepareMsg p, .proposal w =>
    if p.ballot ≤ promised then w.retriedFor w.state.nacks promised promised else []
  | .acceptMsg a, .accepting w =>
    if a.ballot < promised then w.retriedFor w.state.nacks promised promised else []
  | .promiseMsg m, .proposal w =>
    if m.ballot = w.ballot ∧ w.quorumSize ≤ w.state.promises + 1 ∧ w.ballot < promised then
      w.retriedFor 0 promised promised
    else []
  | _, _ => []

def Clears (self : PaxosInstance C) (message : MessageKind C) : Prop :=
  ∀ highest ∈ self.retriedFor message,
    self.proposer.innerState.ballotAbove highest ≤ u32Max

instance (self : PaxosInstance C) (message : MessageKind C) : Decidable (self.Clears message) :=
  inferInstanceAs (Decidable (∀ highest ∈ self.retriedFor message, _))

theorem retriedFor_own (w : StateWrapper S) (nacks promised : Nat) (positive : w.totalNodes ≠ 0) :
    w.retriedFor nacks promised promised = if w.Refuses nacks then [promised] else [] := by
  have above := (w.lt_retry promised positive).2
  have passes : ¬(w.Refuses 0 ∧ (w.adopt promised).nextBallot ≤ promised) := fun ⟨_, below⟩ =>
    absurd below (Nat.not_le.mpr above)
  unfold StateWrapper.retriedFor
  rw [if_neg passes]

theorem retriedFor_enter {T : Type} (w : StateWrapper S) (state : T) (nacks highest promised : Nat) :
    (w.enter w.ballot state).retriedFor nacks highest promised =
      w.retriedFor nacks highest promised := by
  have refuses (count : Nat) : (w.enter w.ballot state).Refuses count = w.Refuses count := rfl
  have next : ((w.enter w.ballot state).adopt highest).nextBallot =
      (w.adopt highest).nextBallot := by
    rw [InnerState.retry_ballot, InnerState.retry_ballot]
    rfl
  simp only [StateWrapper.retriedFor, refuses, next]

theorem retriedFor_tolerated {w : StateWrapper S} {nacks : Nat}
    (tolerated : nacks + 1 ≤ w.totalNodes - w.quorumSize) (highest promised : Nat) :
    w.retriedFor nacks highest promised = [] :=
  if_neg (Nat.not_lt.mpr tolerated)

theorem retry_clears (self after : PaxosInstance C) {w : StateWrapper S} {highest nacks : Nat}
    {value : C} (positive : w.totalNodes ≠ 0) (refused : w.Refuses nacks)
    (fits : (w.adopt highest).nextBallot ≤ u32Max)
    (above : ∀ ballot, self.proposer.innerState.ballotAbove ballot =
      (max w.ballot ballot / w.totalNodes + 1) * w.totalNodes + w.proposerId)
    (next : after.proposer.innerState = InnerState.retry w highest value)
    (acceptor : after.acceptor = self.acceptor) :
    (∀ ballot ∈ w.retriedFor nacks highest self.acceptor.maxBallot,
      self.proposer.innerState.ballotAbove ballot ≤ u32Max) ↔
    after.Clears (.prepareMsg ⟨w.proposerId, (w.adopt highest).nextBallot⟩) := by
  have higher := (w.lt_retry highest positive).1
  have first : self.proposer.innerState.ballotAbove highest ≤ u32Max := by
    rwa [above, ← InnerState.retry_ballot]
  have own := retriedFor_own (w.enter (w.adopt highest).nextBallot (ProposalState.new value)) 0
    self.acceptor.maxBallot positive
  have left : w.retriedFor nacks highest self.acceptor.maxBallot = highest ::
      if w.Refuses 0 ∧ (w.adopt highest).nextBallot ≤ self.acceptor.maxBallot then
        [self.acceptor.maxBallot] else [] := if_pos refused
  have right : after.retriedFor (.prepareMsg ⟨w.proposerId, (w.adopt highest).nextBallot⟩) =
      if w.Refuses 0 ∧ (w.adopt highest).nextBallot ≤ self.acceptor.maxBallot then
        [self.acceptor.maxBallot] else [] := by
    simp only [retriedFor, next, InnerState.retry, acceptor]
    by_cases below : (w.adopt highest).nextBallot ≤ self.acceptor.maxBallot
    · simp only [below, if_true, and_true]
      exact own
    · simp [below]
  unfold Clears
  rw [left, right, List.forall_mem_cons]
  split
  next again =>
    -- The refusal comes from a ballot at or above both proposals.
    have same : after.proposer.innerState.ballotAbove self.acceptor.maxBallot =
        self.proposer.innerState.ballotAbove self.acceptor.maxBallot := by
      have old : max w.ballot self.acceptor.maxBallot = self.acceptor.maxBallot := by omega
      rw [above, next, old]
      simp [InnerState.ballotAbove, InnerState.retry, InnerState.header, StateWrapper.enter,
        again.2]
    simp [first, same]
  next => simp [first]

theorem clears_nil {self : PaxosInstance C} {message : MessageKind C}
    (silent : self.retriedFor message = []) : self.Clears message := by
  unfold Clears
  simp [silent]

structure Bounded (inst : PaxosInstance C) (nodeId quorumSize totalNodes instanceId : Nat) :
    Prop where
  configured : inst.Configured nodeId quorumSize totalNodes instanceId
  rounds : inst.proposer.innerState.Bounded
  learner : inst.learner.quorumSize = quorumSize
  votes : inst.learner.value = none → ∀ command, inst.learner.votes command < quorumSize

theorem fresh_bounded {nodeId quorumSize totalNodes instanceId : Nat} (several : 0 < quorumSize) :
    (fresh nodeId quorumSize totalNodes instanceId : PaxosInstance C).Bounded nodeId quorumSize
      totalNodes instanceId :=
  { configured := fresh_configured _ _ _ _
    rounds := trivial
    learner := rfl
    votes := fun _ _ => several }

section Bounded

variable {self : PaxosInstance C} {message : MessageKind C}
  {nodeId quorumSize totalNodes instanceId : Nat}

theorem Bounded.asks (bounded : self.Bounded nodeId quorumSize totalNodes instanceId)
    (several : 0 < quorumSize) (quorum : quorumSize ≤ totalNodes) (typed : totalNodes ≤ u32Max)
    (clears : self.Clears message) (addressed : message.ForProposer) :
    ∃ result, self.proposer.innerState.handleMessage message = .ok result := by
  obtain ⟨⟨-, -, -, size, total⟩, rounds, -, -⟩ := bounded
  unfold Clears retriedFor at clears
  generalize self.proposer.innerState = state at *
  cases state with
  | initial w | learning w =>
    cases message with
    | requestCommandToLeader => exact addressed.elim
    | _ => exact ⟨_, rfl⟩
  | proposal w =>
    obtain rfl : w.quorumSize = quorumSize := size
    obtain rfl : w.totalNodes = totalNodes := total
    cases message with
    | promiseMsg m =>
      have below := rounds.1
      exact bind_fits (InnerState.handlePromise_fits m (by omega)) fun _ _ => ⟨_, rfl⟩
    | nackPrepareMsg m =>
      refine w.nack_fits rounds.2 several quorum typed fun refuses => ?_
      rw [InnerState.retry_ballot]
      exact clears m.maxBallot (by simp [StateWrapper.retriedFor, refuses])
    | _ => exact ⟨_, rfl⟩
  | accepting w =>
    obtain rfl : w.quorumSize = quorumSize := size
    obtain rfl : w.totalNodes = totalNodes := total
    cases message with
    | ackAcceptMsg m =>
      have below := rounds.1
      exact bind_fits (InnerState.handleAckAccept_fits m (by omega)) fun _ _ => ⟨_, rfl⟩
    | nackAcceptMsg m =>
      refine w.nack_fits rounds.2 several quorum typed fun refuses => ?_
      rw [InnerState.retry_ballot]
      exact clears m.maxBallot (by simp [StateWrapper.retriedFor, refuses])
    | _ => exact ⟨_, rfl⟩

variable [DecidableEq C]

theorem learner_bounded {learner after : Learner C} {m : Learn C} {reply : Option (MessageKind C)}
    (several : 0 < learner.quorumSize)
    (votes : learner.value = none → ∀ command, learner.votes command < learner.quorumSize)
    (heard : learner.handleLearn m = .ok (reply, after)) :
    after.value = none → ∀ command, after.votes command < learner.quorumSize := by
  have changed (unlearned : learner.value = none) (command : C) :
      (learner.changeBallot m.ballot).votes command < learner.quorumSize := by
    unfold Learner.changeBallot
    split
    · exact several
    · exact votes unlearned command
  rcases Learner.handleLearn_cases heard with ⟨-, -, rfl⟩ | ⟨unlearned, -, rfl⟩ |
    ⟨unlearned, count, tally, whole⟩
  · exact votes
  · exact fun _ => changed unlearned
  · obtain rfl : after = _ := congrArg Prod.snd whole
    unfold Learner.countVote
    split
    next => simp
    next below =>
      intro _ command
      rw [Learner.changeBallot_quorumSize] at below
      by_cases same : command = m.command
      · subst same
        simpa using Nat.lt_of_not_le below
      · simpa only [Function.update_of_ne same] using changed unlearned command

end Bounded

variable [DecidableEq C] [Serde Nat] [Serde (AcceptedValue C)] {self after : PaxosInstance C}
  {storage kept : Option (PaxosStorage C)} {message : MessageKind C}
  {response : Option (MessageKind C)} {events : List (TraceEvent C)}

theorem Step.clears_iff (step : self.Step storage message response after kept events) :
    self.Clears message ↔ ∀ reply ∈ response, after.Clears reply := by
  have silent (none_left : self.retriedFor message = [])
      (quiet : ∀ reply ∈ response, after.retriedFor reply = []) :
      self.Clears message ↔ ∀ reply ∈ response, after.Clears reply :=
    iff_of_true (clears_nil none_left) fun reply answer => clears_nil (quiet reply answer)
  cases step with
  | promise p kept higher saved =>
    refine silent ?_ ?_
    · unfold retriedFor
      cases self.proposer.innerState <;> simp [Nat.not_le.mpr higher]
    · simp only [Option.mem_some_iff, forall_eq']
      unfold retriedFor
      dsimp only
      cases self.proposer.innerState with
      | proposal w => exact if_neg fun all => absurd all.2.2 (all.1 ▸ Nat.lt_irrefl _)
      | _ => rfl
  | nackPrepare p lower =>
    have same : self.retriedFor (.prepareMsg p) = self.retriedFor (.nackPrepareMsg
        { sender := self.acceptor.myId, maxBallot := self.acceptor.maxBallot }) := by
      unfold retriedFor
      cases self.proposer.innerState <;> simp [lower]
    simp [Clears, same]
  | ackAccept a kept current saved =>
    refine silent ?_ ?_
    · unfold retriedFor
      cases self.proposer.innerState <;> simp [Nat.not_lt.mpr current]
    · simp [retriedFor]
  | nackAccept a stale =>
    have same : self.retriedFor (.acceptMsg a) = self.retriedFor (.nackAcceptMsg
        { sender := self.acceptor.myId, maxBallot := self.acceptor.maxBallot }) := by
      unfold retriedFor
      cases self.proposer.innerState <;> simp [stale]
    simp [Clears, same]
  | learn m learner reply heard =>
    refine silent rfl fun told answer => ?_
    rw [(echo_some answer).2]
    rfl
  | ignored cmd => exact silent rfl (by simp)
  | proposer message response next addressed asked =>
    generalize state : self.proposer.innerState = current at asked
    cases asked with
    | request => exact addressed.elim
    | promise w m same below =>
      refine silent ?_ (by simp)
      simp only [retriedFor, state]
      exact if_neg fun all => absurd all.2.1 (Nat.not_le.mpr below)
    | quorum w m value same reached chosen =>
      simp only [Option.mem_some_iff, forall_eq', Clears, retriedFor, state, same, reached, true_and,
        retriedFor_enter]
      exact Iff.rfl
    | nackPrepare w m tolerated | nackAccept w m tolerated =>
      refine silent ?_ (by simp)
      simp only [retriedFor, state]
      exact retriedFor_tolerated tolerated _ _
    | retryPrepare w m refused positive fits | retryAccept w m refused positive fits =>
      have cleared := retry_clears self
        { self with proposer := { innerState := .retry w m.maxBallot w.state.value } } positive
        refused fits (fun ballot => by rw [state]; rfl) rfl rfl
      simp only [Option.mem_some_iff, forall_eq']
      rw [← cleared]
      simp only [Clears, retriedFor, state]
    | ack | won => exact silent rfl (by simp [retriedFor])
    | ignored _ _ ignores =>
      refine silent ?_ (by simp)
      unfold retriedFor
      rw [state]
      cases next <;> cases message <;>
        first
        | rfl
        | exact addressed.elim
        | exact ignores.elim
        | exact if_neg fun all => ignores all.1

theorem Step.bounded {nodeId quorumSize totalNodes instanceId : Nat}
    (step : self.Step storage message response after kept events)
    (bounded : self.Bounded nodeId quorumSize totalNodes instanceId) (several : 0 < quorumSize) :
    after.Bounded nodeId quorumSize totalNodes instanceId := by
  have configured := step.configured bounded.configured
  have size := bounded.configured.proposer.quorumSize
  obtain ⟨-, rounds, learner, votes⟩ := bounded
  cases step with
  | proposer message response next addressed asked =>
    exact ⟨configured, asked.bounded rounds (size ▸ several), learner, votes⟩
  | learn m learner' reply heard =>
    subst learner
    refine ⟨configured, rounds, ?_, learner_bounded several votes heard⟩
    exact Learner.handleLearn_quorumSize heard
  | promise | nackPrepare | ackAccept | nackAccept | ignored =>
    exact ⟨configured, rounds, learner, votes⟩

theorem Cascade.clears {responses : List (MessageKind C)}
    (cascade : self.Cascade storage message responses after kept events) :
    self.Clears message := by
  induction cascade with
  | last step => exact step.clears_iff.mpr (by simp)
  | more step _ ih => exact step.clears_iff.mpr (by simpa using ih)

end PaxosInstance

end Smr
