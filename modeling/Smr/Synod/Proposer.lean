import Smr.Synod.Messages

set_option autoImplicit false

namespace Smr

structure InitialState where
  deriving DecidableEq, Repr

structure ProposalState (C : Type) where
  promises : Nat
  nacks : Nat
  maxAcceptedProposals : List (MaxAcceptedProposal C)
  value : C
  deriving DecidableEq, Repr

structure AcceptingState (C : Type) where
  accepts : Nat
  nacks : Nat
  value : C
  deriving DecidableEq, Repr

structure StateWrapper (S : Type) where
  state : S
  ballot : Nat
  proposerId : Nat
  quorumSize : Nat
  totalNodes : Nat
  deriving DecidableEq, Repr

inductive InnerState (C : Type) where
  | initial (wrapper : StateWrapper InitialState)
  | proposal (wrapper : StateWrapper (ProposalState C))
  | accepting (wrapper : StateWrapper (AcceptingState C))
  | learning (wrapper : StateWrapper InitialState)
  deriving DecidableEq, Repr

variable {C S : Type}

-- Iterator::max_by_key hands back the last of several maxima.
def maxByBallot : List (MaxAcceptedProposal C) → Option (MaxAcceptedProposal C) :=
  List.foldl (fun best p =>
    match best with
    | none => some p
    | some best => if best.ballot ≤ p.ballot then some p else some best) none

def StateWrapper.enter {T : Type} (self : StateWrapper S) (ballot : Nat) (state : T) :
    StateWrapper T :=
  { state := state
    ballot := ballot
    proposerId := self.proposerId
    quorumSize := self.quorumSize
    totalNodes := self.totalNodes }

def ProposalState.new (value : C) : ProposalState C :=
  { promises := 0, nacks := 0, maxAcceptedProposals := [], value := value }

def AcceptingState.new (value : C) : AcceptingState C :=
  { accepts := 0, nacks := 0, value := value }

def StateWrapper.newPrepare (self : StateWrapper S) (value : C) :
    Except Fault (Option (MessageKind C) × InnerState C) := do
  let round ← u32Div self.ballot self.totalNodes
  let nextRound ← u32Add round 1
  let base ← u32Mul nextRound self.totalNodes
  let ballot ← u32Add base self.proposerId
  pure (some (.prepareMsg { sender := self.proposerId, ballot := ballot }),
    .proposal (self.enter ballot (ProposalState.new value)))

def StateWrapper.newAccept (self : StateWrapper InitialState) (ballot : Nat) (value : C) :
    Option (MessageKind C) × InnerState C :=
  (some (.acceptMsg { sender := self.proposerId, ballot := ballot, command := value }),
    .accepting (self.enter ballot (AcceptingState.new value)))

def StateWrapper.handlePromise (self : StateWrapper (ProposalState C)) (response : Promise C) :
    Except Fault (Option (Accept C) × InnerState C) :=
  if response.ballot ≠ self.ballot then
    .ok (none, .proposal self)
  else do
    let proposals := self.state.maxAcceptedProposals ++ response.maxAccepted.toList
    let promises ← u32Add self.state.promises 1
    if self.quorumSize ≤ promises then
      let chosenValue := ((maxByBallot proposals).map (·.command)).getD self.state.value
      pure (some { sender := self.proposerId, ballot := self.ballot, command := chosenValue },
        .accepting (self.enter self.ballot (AcceptingState.new chosenValue)))
    else
      pure (none,
        .proposal
          { self with
            state :=
              { self.state with promises := promises, maxAcceptedProposals := proposals } })

def StateWrapper.handleAckAccept (self : StateWrapper (AcceptingState C)) (ackAccept : AckAccept) :
    Except Fault (Option (Learn C) × InnerState C) :=
  if ackAccept.ballot ≠ self.ballot then
    .ok (none, .accepting self)
  else do
    let accepts ← u32Add self.state.accepts 1
    if self.quorumSize ≤ accepts then
      pure (some { sender := self.proposerId, ballot := self.ballot, command := self.state.value },
        .learning (self.enter self.ballot {}))
    else
      pure (none, .accepting { self with state := { self.state with accepts := accepts } })

-- The two nack branches adopt the ballot of the nack that ends the round only.
def StateWrapper.adopt (self : StateWrapper S) (maxBallot : Nat) : StateWrapper S :=
  if self.ballot < maxBallot then { self with ballot := maxBallot } else self

namespace InnerState

def newPrepare (self : InnerState C) (value : C) :
    Except Fault (Option (MessageKind C) × InnerState C) :=
  match self with
  | .initial wrapper => wrapper.newPrepare value
  | .proposal wrapper => wrapper.newPrepare value
  | .accepting wrapper => wrapper.newPrepare value
  | .learning wrapper => wrapper.newPrepare value

def newAccept (self : InnerState C) (ballot : Nat) (value : C) :
    Except Fault (Option (MessageKind C) × InnerState C) :=
  match self with
  | .initial wrapper => .ok (wrapper.newAccept ballot value)
  | .learning wrapper => .ok (wrapper.newAccept ballot value)
  | .proposal _ | .accepting _ => .error .panicked

-- The proposer looks at the ballot of promises and acks, but of no nack: it
-- counts every one that reaches the instance, whatever it answers.
def handleMessage (self : InnerState C) (message : MessageKind C) :
    Except Fault (Option (MessageKind C) × InnerState C) :=
  match self, message with
  | .initial wrapper, .requestCommandToLeader cmd _ => wrapper.newPrepare cmd
  | .proposal wrapper, .promiseMsg promise => do
    let (response, next) ← wrapper.handlePromise promise
    pure (response.map .acceptMsg, next)
  | .proposal wrapper, .nackPrepareMsg nack => do
    let nacks ← u32Add wrapper.state.nacks 1
    let tolerated ← u32Sub wrapper.totalNodes wrapper.quorumSize
    if tolerated < nacks then
      (wrapper.adopt nack.maxBallot).newPrepare wrapper.state.value
    else
      pure (none, .proposal { wrapper with state := { wrapper.state with nacks := nacks } })
  | .accepting wrapper, .ackAcceptMsg ackAccept => do
    let (response, next) ← wrapper.handleAckAccept ackAccept
    pure (response.map .learnMsg, next)
  | .accepting wrapper, .nackAcceptMsg nack => do
    let nacks ← u32Add wrapper.state.nacks 1
    let tolerated ← u32Sub wrapper.totalNodes wrapper.quorumSize
    if tolerated < nacks then
      (wrapper.adopt nack.maxBallot).newPrepare wrapper.state.value
    else
      pure (none, .accepting { wrapper with state := { wrapper.state with nacks := nacks } })
  | state, _ => .ok (none, state)

end InnerState

structure Proposer (C : Type) where
  innerState : InnerState C
  deriving DecidableEq, Repr

namespace Proposer

def new (proposerId quorumSize totalNodes : Nat) : Proposer C :=
  { innerState := .initial
      { state := {}
        ballot := proposerId
        proposerId := proposerId
        quorumSize := quorumSize
        totalNodes := totalNodes } }

def newPrepare (self : Proposer C) (value : C) : Except Fault (MessageKind C × Proposer C) := do
  match ← self.innerState.newPrepare value with
  | (some msg, newState) => pure (msg, { innerState := newState })
  | (none, _) => .error .panicked

def newAccept (self : Proposer C) (ballot : Nat) (value : C) :
    Except Fault (MessageKind C × Proposer C) := do
  match ← self.innerState.newAccept ballot value with
  | (some msg, newState) => pure (msg, { innerState := newState })
  | (none, _) => .error .panicked

def handleMessage (self : Proposer C) (message : MessageKind C) :
    Except Fault (Option (MessageKind C) × Proposer C) := do
  let (response, newState) ← self.innerState.handleMessage message
  pure (response, { innerState := newState })

end Proposer

namespace StateWrapper

def nextBallot (self : StateWrapper S) : Nat :=
  (self.ballot / self.totalNodes + 1) * self.totalNodes + self.proposerId

def chosenWith (self : StateWrapper (ProposalState C)) (response : Promise C) : C :=
  ((maxByBallot (self.state.maxAcceptedProposals ++ response.maxAccepted.toList)).map
    (·.command)).getD self.state.value

theorem newPrepare_ok {self : StateWrapper S} {value : C} {response : Option (MessageKind C)}
    {next : InnerState C} (prepared : self.newPrepare value = .ok (response, next)) :
    self.totalNodes ≠ 0 ∧ self.nextBallot ≤ u32Max ∧
      response = some (.prepareMsg { sender := self.proposerId, ballot := self.nextBallot }) ∧
      next = .proposal (self.enter self.nextBallot (ProposalState.new value)) := by
  unfold newPrepare at prepared
  obtain ⟨round, hround, prepared⟩ := bind_ok.mp prepared
  obtain ⟨nextRound, hnext, prepared⟩ := bind_ok.mp prepared
  obtain ⟨base, hbase, prepared⟩ := bind_ok.mp prepared
  obtain ⟨ballot, hballot, prepared⟩ := bind_ok.mp prepared
  rw [u32Div_ok] at hround
  rw [u32Add_ok] at hnext hballot
  rw [u32Mul_ok] at hbase
  obtain ⟨positive, rfl⟩ := hround
  obtain ⟨-, rfl⟩ := hnext
  obtain ⟨-, rfl⟩ := hbase
  obtain ⟨fits, rfl⟩ := hballot
  simp only [pure, Except.pure, Except.ok.injEq, Prod.mk.injEq] at prepared
  exact ⟨positive, fits, prepared.1.symm, prepared.2.symm⟩

theorem newPrepare_done (self : StateWrapper S) (value : C) :
    self.newPrepare value ≠ .error .diverged := by
  simp [newPrepare, bind_diverged, pure, Except.pure]

theorem nextBallot_mod (self : StateWrapper S) (member : self.proposerId < self.totalNodes) :
    self.nextBallot % self.totalNodes = self.proposerId := by
  simp [nextBallot, Nat.mod_eq_of_lt member]

theorem lt_nextBallot (self : StateWrapper S) (positive : self.totalNodes ≠ 0) :
    self.ballot < self.nextBallot := by
  have whole := Nat.div_add_mod self.ballot self.totalNodes
  have rest := Nat.mod_lt self.ballot (Nat.pos_of_ne_zero positive)
  have split : self.nextBallot =
      self.totalNodes * (self.ballot / self.totalNodes) + self.totalNodes + self.proposerId := by
    unfold nextBallot
    ring
  omega

theorem adopt_ballot (self : StateWrapper S) (maxBallot : Nat) :
    (self.adopt maxBallot).ballot = max self.ballot maxBallot := by
  unfold adopt
  split <;> simp <;> omega

@[simp] theorem adopt_proposerId (self : StateWrapper S) (maxBallot : Nat) :
    (self.adopt maxBallot).proposerId = self.proposerId := by
  unfold adopt
  split <;> rfl

@[simp] theorem adopt_quorumSize (self : StateWrapper S) (maxBallot : Nat) :
    (self.adopt maxBallot).quorumSize = self.quorumSize := by
  unfold adopt
  split <;> rfl

@[simp] theorem adopt_totalNodes (self : StateWrapper S) (maxBallot : Nat) :
    (self.adopt maxBallot).totalNodes = self.totalNodes := by
  unfold adopt
  split <;> rfl

theorem lt_retry (self : StateWrapper S) (maxBallot : Nat) (positive : self.totalNodes ≠ 0) :
    self.ballot < (self.adopt maxBallot).nextBallot ∧
      maxBallot < (self.adopt maxBallot).nextBallot := by
  have higher := (self.adopt maxBallot).lt_nextBallot (by simpa)
  rw [adopt_ballot] at higher
  omega

end StateWrapper

theorem maxByBallot_fold (proposals : List (MaxAcceptedProposal C))
    (best : Option (MaxAcceptedProposal C)) :
    let result := proposals.foldl (fun best p =>
      match best with
      | none => some p
      | some best => if best.ballot ≤ p.ballot then some p else some best) best
    (result = none ↔ best = none ∧ proposals = []) ∧
      ∀ chosen, result = some chosen →
        (best = some chosen ∨ chosen ∈ proposals) ∧
        (∀ p ∈ proposals, p.ballot ≤ chosen.ballot) ∧
        ∀ p, best = some p → p.ballot ≤ chosen.ballot := by
  induction proposals generalizing best with
  | nil => simp +contextual
  | cons head rest ih =>
    cases best with
    | none =>
      have folded := ih (some head)
      simp only [List.foldl_cons]
      refine ⟨by simpa using folded.1, fun chosen result => ?_⟩
      obtain ⟨source, below, least⟩ := folded.2 chosen result
      refine ⟨.inr ?_, ?_, by simp⟩
      · rcases source with source | source
        · simp only [Option.some.injEq] at source
          simp [source]
        · simp [source]
      · simpa using ⟨least head rfl, below⟩
    | some best =>
      simp only [List.foldl_cons]
      split
      next higher =>
        have folded := ih (some head)
        refine ⟨by simpa using folded.1, fun chosen result => ?_⟩
        obtain ⟨source, below, least⟩ := folded.2 chosen result
        refine ⟨.inr ?_, ?_, ?_⟩
        · rcases source with source | source
          · simp only [Option.some.injEq] at source
            simp [source]
          · simp [source]
        · simpa using ⟨least head rfl, below⟩
        · rintro p ⟨⟩
          exact Nat.le_trans higher (least head rfl)
      next lower =>
        have folded := ih (some best)
        refine ⟨by simpa using folded.1, fun chosen result => ?_⟩
        obtain ⟨source, below, least⟩ := folded.2 chosen result
        refine ⟨by simpa [or_assoc] using source.imp_right .inr, ?_, ?_⟩
        · have := least best rfl
          simpa using ⟨by omega, below⟩
        · rintro p ⟨⟩
          exact least best rfl

theorem maxByBallot_none {proposals : List (MaxAcceptedProposal C)} :
    maxByBallot proposals = none ↔ proposals = [] := by
  simpa [maxByBallot] using (maxByBallot_fold proposals none).1

theorem maxByBallot_some {proposals : List (MaxAcceptedProposal C)}
    {chosen : MaxAcceptedProposal C} (result : maxByBallot proposals = some chosen) :
    chosen ∈ proposals ∧ ∀ p ∈ proposals, p.ballot ≤ chosen.ballot := by
  obtain ⟨source, below, -⟩ := (maxByBallot_fold proposals none).2 chosen result
  exact ⟨by simpa using source, below⟩

namespace InnerState

def Ignores : InnerState C → MessageKind C → Prop
  | .initial _, .requestCommandToLeader _ _ => False
  | .proposal wrapper, .promiseMsg promise => promise.ballot ≠ wrapper.ballot
  | .proposal _, .nackPrepareMsg _ => False
  | .accepting wrapper, .ackAcceptMsg ack => ack.ballot ≠ wrapper.ballot
  | .accepting _, .nackAcceptMsg _ => False
  | _, _ => True

def retry (wrapper : StateWrapper S) (maxBallot : Nat) (value : C) : InnerState C :=
  .proposal (wrapper.enter (wrapper.adopt maxBallot).nextBallot (ProposalState.new value))

inductive Step : InnerState C → MessageKind C → Option (MessageKind C) → InnerState C → Prop where
  | request (wrapper : StateWrapper InitialState) (cmd : C) (forwardId : Nat)
      (positive : wrapper.totalNodes ≠ 0) (fits : wrapper.nextBallot ≤ u32Max) :
      Step (.initial wrapper) (.requestCommandToLeader cmd forwardId)
        (some (.prepareMsg { sender := wrapper.proposerId, ballot := wrapper.nextBallot }))
        (.proposal (wrapper.enter wrapper.nextBallot (ProposalState.new cmd)))
  | promise (wrapper : StateWrapper (ProposalState C)) (m : Promise C)
      (same : m.ballot = wrapper.ballot) (below : wrapper.state.promises + 1 < wrapper.quorumSize) :
      Step (.proposal wrapper) (.promiseMsg m) none
        (.proposal
          { wrapper with
            state :=
              { wrapper.state with
                promises := wrapper.state.promises + 1
                maxAcceptedProposals :=
                  wrapper.state.maxAcceptedProposals ++ m.maxAccepted.toList } })
  | quorum (wrapper : StateWrapper (ProposalState C)) (m : Promise C) (value : C)
      (same : m.ballot = wrapper.ballot) (reached : wrapper.quorumSize ≤ wrapper.state.promises + 1)
      (chosen : value = ((maxByBallot (wrapper.state.maxAcceptedProposals ++
        m.maxAccepted.toList)).map (·.command)).getD wrapper.state.value) :
      Step (.proposal wrapper) (.promiseMsg m)
        (some (.acceptMsg
          { sender := wrapper.proposerId, ballot := wrapper.ballot, command := value }))
        (.accepting (wrapper.enter wrapper.ballot (AcceptingState.new value)))
  | nackPrepare (wrapper : StateWrapper (ProposalState C)) (m : NackPrepare)
      (tolerated : wrapper.state.nacks + 1 ≤ wrapper.totalNodes - wrapper.quorumSize) :
      Step (.proposal wrapper) (.nackPrepareMsg m) none
        (.proposal
          { wrapper with state := { wrapper.state with nacks := wrapper.state.nacks + 1 } })
  | retryPrepare (wrapper : StateWrapper (ProposalState C)) (m : NackPrepare)
      (refused : wrapper.totalNodes - wrapper.quorumSize < wrapper.state.nacks + 1)
      (positive : wrapper.totalNodes ≠ 0)
      (fits : (wrapper.adopt m.maxBallot).nextBallot ≤ u32Max) :
      Step (.proposal wrapper) (.nackPrepareMsg m)
        (some (.prepareMsg
          { sender := wrapper.proposerId, ballot := (wrapper.adopt m.maxBallot).nextBallot }))
        (retry wrapper m.maxBallot wrapper.state.value)
  | ack (wrapper : StateWrapper (AcceptingState C)) (m : AckAccept)
      (same : m.ballot = wrapper.ballot) (below : wrapper.state.accepts + 1 < wrapper.quorumSize) :
      Step (.accepting wrapper) (.ackAcceptMsg m) none
        (.accepting
          { wrapper with state := { wrapper.state with accepts := wrapper.state.accepts + 1 } })
  | won (wrapper : StateWrapper (AcceptingState C)) (m : AckAccept)
      (same : m.ballot = wrapper.ballot) (reached : wrapper.quorumSize ≤ wrapper.state.accepts + 1) :
      Step (.accepting wrapper) (.ackAcceptMsg m)
        (some (.learnMsg
          { sender := wrapper.proposerId, ballot := wrapper.ballot
            command := wrapper.state.value }))
        (.learning (wrapper.enter wrapper.ballot {}))
  | nackAccept (wrapper : StateWrapper (AcceptingState C)) (m : NackAccept)
      (tolerated : wrapper.state.nacks + 1 ≤ wrapper.totalNodes - wrapper.quorumSize) :
      Step (.accepting wrapper) (.nackAcceptMsg m) none
        (.accepting
          { wrapper with state := { wrapper.state with nacks := wrapper.state.nacks + 1 } })
  | retryAccept (wrapper : StateWrapper (AcceptingState C)) (m : NackAccept)
      (refused : wrapper.totalNodes - wrapper.quorumSize < wrapper.state.nacks + 1)
      (positive : wrapper.totalNodes ≠ 0)
      (fits : (wrapper.adopt m.maxBallot).nextBallot ≤ u32Max) :
      Step (.accepting wrapper) (.nackAcceptMsg m)
        (some (.prepareMsg
          { sender := wrapper.proposerId, ballot := (wrapper.adopt m.maxBallot).nextBallot }))
        (retry wrapper m.maxBallot wrapper.state.value)
  | ignored (state : InnerState C) (message : MessageKind C) (ignores : state.Ignores message) :
      Step state message none state

theorem adopt_enter {T : Type} (wrapper : StateWrapper S) (maxBallot ballot : Nat) (state : T) :
    (wrapper.adopt maxBallot).enter ballot state = wrapper.enter ballot state := by
  simp [StateWrapper.enter]

theorem handlePromise_step {wrapper : StateWrapper (ProposalState C)} {m : Promise C}
    {response : Option (Accept C)} {next : InnerState C}
    (handled : wrapper.handlePromise m = .ok (response, next)) :
    Step (.proposal wrapper) (.promiseMsg m) (response.map .acceptMsg) next := by
  unfold StateWrapper.handlePromise at handled
  split at handled
  next differs =>
    simp only [Except.ok.injEq, Prod.mk.injEq] at handled
    obtain ⟨rfl, rfl⟩ := handled
    exact .ignored _ _ differs
  next same =>
    obtain ⟨promises, counted, handled⟩ := bind_ok.mp handled
    rw [u32Add_ok] at counted
    obtain ⟨-, rfl⟩ := counted
    split at handled <;> simp only [pure, Except.pure, Except.ok.injEq, Prod.mk.injEq] at handled <;>
      obtain ⟨rfl, rfl⟩ := handled
    next reached => exact .quorum wrapper m _ (not_not.mp same) reached rfl
    next below => exact .promise wrapper m (not_not.mp same) (Nat.lt_of_not_le below)

theorem handleAckAccept_step {wrapper : StateWrapper (AcceptingState C)} {m : AckAccept}
    {response : Option (Learn C)} {next : InnerState C}
    (handled : wrapper.handleAckAccept m = .ok (response, next)) :
    Step (.accepting wrapper) (.ackAcceptMsg m) (response.map .learnMsg) next := by
  unfold StateWrapper.handleAckAccept at handled
  split at handled
  next differs =>
    simp only [Except.ok.injEq, Prod.mk.injEq] at handled
    obtain ⟨rfl, rfl⟩ := handled
    exact .ignored _ _ differs
  next same =>
    obtain ⟨accepts, counted, handled⟩ := bind_ok.mp handled
    rw [u32Add_ok] at counted
    obtain ⟨-, rfl⟩ := counted
    split at handled <;> simp only [pure, Except.pure, Except.ok.injEq, Prod.mk.injEq] at handled <;>
      obtain ⟨rfl, rfl⟩ := handled
    next reached => exact .won wrapper m (not_not.mp same) reached
    next below => exact .ack wrapper m (not_not.mp same) (Nat.lt_of_not_le below)

theorem nack_cases {wrapper : StateWrapper S} {count maxBallot : Nat} {value : C}
    {kept : Nat → InnerState C} {response : Option (MessageKind C)} {next : InnerState C}
    (handled : (do
      let nacks ← u32Add count 1
      let tolerated ← u32Sub wrapper.totalNodes wrapper.quorumSize
      if tolerated < nacks then (wrapper.adopt maxBallot).newPrepare value
      else pure (none, kept nacks)) = Except.ok (response, next)) :
    (count + 1 ≤ wrapper.totalNodes - wrapper.quorumSize ∧ response = none ∧
      next = kept (count + 1)) ∨
    (wrapper.totalNodes - wrapper.quorumSize < count + 1 ∧ wrapper.totalNodes ≠ 0 ∧
      (wrapper.adopt maxBallot).nextBallot ≤ u32Max ∧
      response = some (.prepareMsg
        { sender := wrapper.proposerId, ballot := (wrapper.adopt maxBallot).nextBallot }) ∧
      next = retry wrapper maxBallot value) := by
  obtain ⟨nacks, counted, handled⟩ := bind_ok.mp handled
  obtain ⟨tolerated, within, handled⟩ := bind_ok.mp handled
  rw [u32Add_ok] at counted
  rw [u32Sub_ok] at within
  obtain ⟨-, rfl⟩ := counted
  obtain ⟨-, rfl⟩ := within
  split at handled
  next refused =>
    obtain ⟨positive, fits, rfl, rfl⟩ := StateWrapper.newPrepare_ok handled
    rw [StateWrapper.adopt_totalNodes] at positive
    exact .inr ⟨refused, positive, fits, by simp, by simp [retry, adopt_enter]⟩
  next tolerated =>
    simp only [pure, Except.pure, Except.ok.injEq, Prod.mk.injEq] at handled
    exact .inl ⟨Nat.le_of_not_lt tolerated, handled.1.symm, handled.2.symm⟩

theorem nack_done {wrapper : StateWrapper S} {count maxBallot : Nat} {value : C}
    {kept : Nat → InnerState C} :
    (do
      let nacks ← u32Add count 1
      let tolerated ← u32Sub wrapper.totalNodes wrapper.quorumSize
      if tolerated < nacks then (wrapper.adopt maxBallot).newPrepare value
      else pure (none, kept nacks)) ≠ Except.error .diverged := by
  simp only [ne_eq, bind_diverged, u32Add_done, u32Sub_done, false_or]
  rintro ⟨nacks, -, tolerated, -, stopped⟩
  split at stopped
  · exact (wrapper.adopt maxBallot).newPrepare_done value stopped
  · simp [pure, Except.pure] at stopped

theorem handleMessage_done (self : InnerState C) (message : MessageKind C) :
    self.handleMessage message ≠ .error .diverged := by
  unfold handleMessage
  split
  next wrapper cmd forwardId => exact wrapper.newPrepare_done cmd
  next wrapper m =>
    simp only [ne_eq, bind_diverged, StateWrapper.handlePromise]
    split <;> simp [bind_diverged, pure, Except.pure]
    split <;> simp
  next wrapper m => exact nack_done
  next wrapper m =>
    simp only [ne_eq, bind_diverged, StateWrapper.handleAckAccept]
    split <;> simp [bind_diverged, pure, Except.pure]
    split <;> simp
  next wrapper m => exact nack_done
  next => simp

theorem handleMessage_step {self next : InnerState C} {message : MessageKind C}
    {response : Option (MessageKind C)}
    (handled : self.handleMessage message = .ok (response, next)) :
    self.Step message response next := by
  unfold handleMessage at handled
  split at handled
  next wrapper cmd forwardId =>
    obtain ⟨positive, fits, rfl, rfl⟩ := StateWrapper.newPrepare_ok handled
    exact .request wrapper cmd forwardId positive fits
  next wrapper m =>
    obtain ⟨⟨accept, state⟩, promised, handled⟩ := bind_ok.mp handled
    simp only [pure, Except.pure, Except.ok.injEq, Prod.mk.injEq] at handled
    obtain ⟨rfl, rfl⟩ := handled
    exact handlePromise_step promised
  next wrapper m =>
    obtain ⟨tolerated, rfl, rfl⟩ | ⟨refused, positive, fits, rfl, rfl⟩ := nack_cases handled
    · exact .nackPrepare wrapper m tolerated
    · exact .retryPrepare wrapper m refused positive fits
  next wrapper m =>
    obtain ⟨⟨learn, state⟩, acked, handled⟩ := bind_ok.mp handled
    simp only [pure, Except.pure, Except.ok.injEq, Prod.mk.injEq] at handled
    obtain ⟨rfl, rfl⟩ := handled
    exact handleAckAccept_step acked
  next wrapper m =>
    obtain ⟨tolerated, rfl, rfl⟩ | ⟨refused, positive, fits, rfl, rfl⟩ := nack_cases handled
    · exact .nackAccept wrapper m tolerated
    · exact .retryAccept wrapper m refused positive fits
  next notRequest notPromise notNackPrepare notAck notNackAccept =>
    simp only [Except.ok.injEq, Prod.mk.injEq] at handled
    obtain ⟨rfl, rfl⟩ := handled
    refine .ignored _ _ ?_
    unfold Ignores
    split
    · exact notRequest _ _ _ rfl rfl
    · exact (notPromise _ _ rfl rfl).elim
    · exact notNackPrepare _ _ rfl rfl
    · exact (notAck _ _ rfl rfl).elim
    · exact notNackAccept _ _ rfl rfl
    · trivial

end InnerState

end Smr
