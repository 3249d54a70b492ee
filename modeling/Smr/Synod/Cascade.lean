import Smr.Synod.Instance

set_option autoImplicit false

namespace Smr

variable {C : Type}

def MessageKind.sender : MessageKind C → Option Nat
  | .prepareMsg p => some p.sender
  | .promiseMsg m => some m.sender
  | .acceptMsg a => some a.sender
  | .ackAcceptMsg m => some m.sender
  | .nackPrepareMsg m => some m.sender
  | .nackAcceptMsg m => some m.sender
  | .learnMsg m => some m.sender
  | .requestCommandToLeader _ _ | .forwardAck _ _ | .learnedCommand _ => none

namespace InnerState

def header : InnerState C → StateWrapper InitialState
  | .initial wrapper => wrapper
  | .proposal wrapper => wrapper.enter wrapper.ballot {}
  | .accepting wrapper => wrapper.enter wrapper.ballot {}
  | .learning wrapper => wrapper

def round : InnerState C → Option Nat
  | .proposal wrapper => some wrapper.ballot
  | .accepting wrapper => some wrapper.ballot
  | _ => none

structure Configured (state : InnerState C) (nodeId quorumSize totalNodes : Nat) : Prop where
  proposerId : state.header.proposerId = nodeId
  quorumSize : state.header.quorumSize = quorumSize
  totalNodes : state.header.totalNodes = totalNodes

theorem Step.configured {self next : InnerState C} {message : MessageKind C}
    {response : Option (MessageKind C)} (step : self.Step message response next)
    {nodeId quorumSize totalNodes : Nat}
    (before : self.Configured nodeId quorumSize totalNodes) :
    next.Configured nodeId quorumSize totalNodes := by
  obtain ⟨proposerId, quorum, total⟩ := before
  cases step <;> exact ⟨proposerId, quorum, total⟩

theorem Step.response_isSynod {self next : InnerState C} {message response : MessageKind C}
    (step : self.Step message (some response) next) : response.IsSynod := by
  cases step <;> trivial

theorem Step.response_sender {self next : InnerState C} {message response : MessageKind C}
    (step : self.Step message (some response) next) :
    response.sender = some self.header.proposerId := by
  cases step <;> rfl

end InnerState

namespace PaxosInstance

structure Configured (inst : PaxosInstance C) (nodeId quorumSize totalNodes instanceId : Nat) :
    Prop where
  instanceId : inst.instanceId = instanceId
  acceptor : inst.acceptor.myId = nodeId
  proposer : inst.proposer.innerState.Configured nodeId quorumSize totalNodes

theorem fresh_configured (nodeId quorumSize totalNodes instanceId : Nat) :
    (fresh nodeId quorumSize totalNodes instanceId : PaxosInstance C).Configured nodeId quorumSize
      totalNodes instanceId :=
  { instanceId := rfl
    acceptor := rfl
    proposer := ⟨rfl, rfl, rfl⟩ }

-- A proposer in a round has its own acceptor at the round's ballot or above it:
-- its own Prepare or Accept was delivered before the call returned.
def Settled (self : PaxosInstance C) : Prop :=
  ∀ ballot, self.proposer.innerState.round = some ballot → ballot ≤ self.acceptor.maxBallot

def Answered (self : PaxosInstance C) : MessageKind C → Prop
  | .prepareMsg p =>
    ∃ wrapper, self.proposer.innerState = .proposal wrapper ∧
      wrapper.ballot = p.ballot ∧ wrapper.state.promises = 0
  | .acceptMsg a => self.proposer.innerState.round = some a.ballot
  | .promiseMsg m => self.Settled ∧
    ∀ wrapper, self.proposer.innerState = .proposal wrapper → wrapper.ballot = m.ballot →
      wrapper.state.promises = 0
  | _ => self.Settled

def Ready (self : PaxosInstance C) (message : MessageKind C) : Prop :=
  self.Settled ∨ self.Answered message

def Left (self : PaxosInstance C) : Option (MessageKind C) → Prop
  | none => self.Settled
  | some response => self.Answered response

def rank (self : PaxosInstance C) : MessageKind C → Nat
  | .learnMsg m => if m.sender = self.acceptor.myId then 1 else 2
  | .ackAcceptMsg _ => 3
  | .acceptMsg a => if self.acceptor.maxBallot ≤ a.ballot then 4 else 8
  | .promiseMsg m => if self.acceptor.maxBallot ≤ m.ballot then 5 else 9
  | .prepareMsg p => if self.acceptor.maxBallot < p.ballot then 6 else 8
  | .nackPrepareMsg m => if self.acceptor.maxBallot ≤ m.maxBallot then 7 else 9
  | .nackAcceptMsg m => if self.acceptor.maxBallot ≤ m.maxBallot then 7 else 9
  | _ => 0

theorem rank_learn (self : PaxosInstance C) (m : Learn C) :
    1 ≤ self.rank (.learnMsg m) ∧ self.rank (.learnMsg m) ≤ 2 := by
  simp only [rank]
  split <;> decide

theorem rank_le (self : PaxosInstance C) (message : MessageKind C) : self.rank message ≤ 9 := by
  unfold rank
  split <;> (try split) <;> decide

variable [DecidableEq C] [Serde Nat] [Serde (AcceptedValue C)]

theorem Step.response_isSynod {self after : PaxosInstance C}
    {storage kept : Option (PaxosStorage C)} {message response : MessageKind C}
    {events : List (TraceEvent C)}
    (step : self.Step storage message (some response) after kept events) : response.IsSynod := by
  generalize whole : some response = reply at step
  cases step with
  | proposer message reply next addressed asked =>
    subst whole
    exact asked.response_isSynod
  | learn m learner reply heard =>
    obtain ⟨-, rfl⟩ := echo_some whole.symm
    trivial
  | ignored cmd => simp at whole
  | promise | nackPrepare | ackAccept | nackAccept =>
    simp only [Option.some.injEq] at whole
    subst whole
    trivial

theorem Step.instanceId {self after : PaxosInstance C} {storage kept : Option (PaxosStorage C)}
    {message : MessageKind C} {response : Option (MessageKind C)} {events : List (TraceEvent C)}
    (step : self.Step storage message response after kept events) :
    after.instanceId = self.instanceId := by
  cases step <;> rfl

theorem Step.traced {self after : PaxosInstance C} {storage kept : Option (PaxosStorage C)}
    {message : MessageKind C} {response : Option (MessageKind C)} {events : List (TraceEvent C)}
    (step : self.Step storage message response after kept events) :
    ∀ event ∈ events, event.instanceId = self.instanceId := by
  cases step with
  | learn m learner reply heard =>
    unfold learnTrace
    split <;> simp [TraceEvent.instanceId]
  | proposer message reply next addressed asked =>
    unfold proposerTrace
    split <;> simp [TraceEvent.instanceId]
  | ignored cmd => simp
  | promise | nackPrepare | ackAccept | nackAccept => simp [TraceEvent.instanceId]

theorem Step.configured {self after : PaxosInstance C} {storage kept : Option (PaxosStorage C)}
    {message : MessageKind C} {response : Option (MessageKind C)} {events : List (TraceEvent C)}
    (step : self.Step storage message response after kept events)
    {nodeId quorumSize totalNodes instanceId : Nat}
    (before : self.Configured nodeId quorumSize totalNodes instanceId) :
    after.Configured nodeId quorumSize totalNodes instanceId := by
  obtain ⟨instanceIds, acceptor, proposer⟩ := before
  cases step with
  | proposer message reply next addressed asked =>
    exact ⟨instanceIds, acceptor, asked.configured proposer⟩
  | _ => exact ⟨instanceIds, acceptor, proposer⟩

theorem Step.response_sender {self after : PaxosInstance C}
    {storage kept : Option (PaxosStorage C)} {message response : MessageKind C}
    {events : List (TraceEvent C)}
    (step : self.Step storage message (some response) after kept events)
    {nodeId quorumSize totalNodes instanceId : Nat}
    (configured : self.Configured nodeId quorumSize totalNodes instanceId) :
    response.sender = some nodeId := by
  generalize whole : some response = reply at step
  cases step with
  | proposer message reply next addressed asked =>
    subst whole
    rw [asked.response_sender, configured.proposer.proposerId]
  | learn m learner reply heard =>
    obtain ⟨-, rfl⟩ := echo_some whole.symm
    exact congrArg some configured.acceptor
  | ignored cmd => simp at whole
  | promise | nackPrepare | ackAccept | nackAccept =>
    simp only [Option.some.injEq] at whole
    subst whole
    exact congrArg some configured.acceptor

omit [DecidableEq C] [Serde Nat] [Serde (AcceptedValue C)] in
theorem Settled.asked {self : PaxosInstance C} {message : MessageKind C} (ready : self.Ready message)
    (addressed : message.ForProposer) {response : Option (MessageKind C)} {next : InnerState C}
    (asked : self.proposer.innerState.Step message response next) :
    ({ self with proposer := { innerState := next } } : PaxosInstance C).Left response := by
  have settled : self.Settled := by
    rcases ready with settled | answered
    · exact settled
    · cases message <;> first | exact answered | exact answered.1 | exact addressed.elim
  unfold Settled at settled
  generalize state : self.proposer.innerState = current at asked settled
  cases asked with
  | request => exact addressed.elim
  | promise wrapper m same below =>
    intro ballot round
    exact settled ballot round
  | quorum wrapper m value same reached chosen => rfl
  | nackPrepare wrapper m tolerated =>
    intro ballot round
    exact settled ballot round
  | retryPrepare wrapper m refused positive fits => exact ⟨_, rfl, rfl, rfl⟩
  | ack wrapper m same below =>
    intro ballot round
    exact settled ballot round
  | won wrapper m same reached =>
    intro ballot round
    simp [InnerState.round] at round
  | nackAccept wrapper m tolerated =>
    intro ballot round
    exact settled ballot round
  | retryAccept wrapper m refused positive fits => exact ⟨_, rfl, rfl, rfl⟩
  | ignored state message ignores =>
    intro ballot round
    exact settled ballot round

theorem Step.left {self after : PaxosInstance C} {storage kept : Option (PaxosStorage C)}
    {message : MessageKind C} {response : Option (MessageKind C)} {events : List (TraceEvent C)}
    (step : self.Step storage message response after kept events) (ready : self.Ready message) :
    after.Left response := by
  cases step with
  | promise p kept higher saved =>
    rcases ready with settled | ⟨wrapper, state, same, none_yet⟩
    · refine ⟨fun ballot round => Nat.le_trans (settled ballot round) (Nat.le_of_lt higher), ?_⟩
      intro wrapper state same
      dsimp only at state
      have below := settled wrapper.ballot (by simp [state, InnerState.round])
      exact absurd (Nat.lt_of_le_of_lt below higher) (by rw [same]; exact Nat.lt_irrefl _)
    · refine ⟨fun ballot round => ?_, fun other state' same' => ?_⟩
      · simp only [state, InnerState.round, Option.some.injEq] at round
        exact Nat.le_of_eq (by rw [← round, same])
      · simp only [state, InnerState.proposal.injEq] at state'
        rw [← state', none_yet]
  | nackPrepare p lower =>
    have settled : self.Settled := by
      rcases ready with settled | ⟨wrapper, state, same, none_yet⟩
      · exact settled
      · intro ballot round
        simp only [state, InnerState.round, Option.some.injEq] at round
        rw [← round, same]
        exact lower
    exact settled
  | ackAccept a kept current saved =>
    rcases ready with settled | answered
    · exact fun ballot round => Nat.le_trans (settled ballot round) current
    · intro ballot round
      exact Nat.le_of_eq (Option.some.inj (round.symm.trans answered))
  | nackAccept a stale =>
    have settled : self.Settled := by
      rcases ready with settled | answered
      · exact settled
      · intro ballot round
        have same := Option.some.inj (round.symm.trans answered)
        exact same ▸ Nat.le_of_lt stale
    exact settled
  | learn m learner reply heard =>
    have settled : self.Settled := ready.elim id id
    unfold echo
    split <;> exact settled
  | proposer message reply next addressed asked => exact Settled.asked ready addressed asked
  | ignored cmd => exact ready.elim id id

theorem Step.proposes {self after : PaxosInstance C} {storage kept : Option (PaxosStorage C)}
    {message : MessageKind C} {a : Accept C} {events : List (TraceEvent C)}
    (step : self.Step storage message (some (.acceptMsg a)) after kept events) :
    ∃ wrapper m, self.proposer.innerState = .proposal wrapper ∧ message = .promiseMsg m ∧
      m.ballot = wrapper.ballot ∧ wrapper.quorumSize ≤ wrapper.state.promises + 1 ∧
      a.ballot = wrapper.ballot ∧ a.command = wrapper.chosenWith m := by
  generalize whole : some (MessageKind.acceptMsg a) = reply at step
  cases step with
  | proposer message reply next addressed asked =>
    subst whole
    generalize state : self.proposer.innerState = current at asked
    cases asked with
    | quorum wrapper m value same reached chosen =>
      exact ⟨wrapper, m, rfl, rfl, same, reached, rfl, chosen⟩
  | learn m learner reply heard =>
    cases (echo_some whole.symm).2
  | promise | nackPrepare | ackAccept | nackAccept | ignored => simp at whole

-- Only a promise of another node can complete a quorum: one's own comes first.
theorem Answered.no_accept {self after : PaxosInstance C} {storage kept : Option (PaxosStorage C)}
    {message response : MessageKind C} {events : List (TraceEvent C)}
    (answered : self.Answered message)
    {nodeId quorumSize totalNodes instanceId : Nat} (several : 2 ≤ quorumSize)
    (configured : self.Configured nodeId quorumSize totalNodes instanceId)
    (step : self.Step storage message (some response) after kept events) (a : Accept C) :
    response ≠ .acceptMsg a := by
  rintro rfl
  obtain ⟨wrapper, m, state, rfl, same, reached, -⟩ := step.proposes
  have first := answered.2 wrapper state same.symm
  have size : wrapper.quorumSize = quorumSize := by
    have quorum := configured.proposer.quorumSize
    rwa [state] at quorum
  omega

theorem Step.announces {self after : PaxosInstance C} {storage kept : Option (PaxosStorage C)}
    {message : MessageKind C} {m : Learn C} {events : List (TraceEvent C)}
    (step : self.Step storage message (some (.learnMsg m)) after kept events) :
    (∃ heard, message = .learnMsg heard ∧ m.ballot = heard.ballot ∧ m.command = heard.command) ∨
    (∃ w ack, self.proposer.innerState = .accepting w ∧ message = .ackAcceptMsg ack ∧
      ack.ballot = w.ballot ∧ w.quorumSize ≤ w.state.accepts + 1 ∧ m.ballot = w.ballot ∧
      m.command = w.state.value) := by
  generalize answer : some (MessageKind.learnMsg m) = response at step
  cases step with
  | learn heard learner reply counted =>
    cases (echo_some answer.symm).2
    exact .inl ⟨heard, rfl, rfl, rfl⟩
  | proposer message response next addressed asked =>
    subst answer
    generalize state : self.proposer.innerState = current at asked
    cases asked with
    | won w ack same reached => exact .inr ⟨w, ack, rfl, rfl, same, reached, rfl, rfl⟩
  | ignored cmd => simp at answer
  | promise | nackPrepare | ackAccept | nackAccept => simp at answer

theorem Step.rank_lt {self after : PaxosInstance C} {storage kept : Option (PaxosStorage C)}
    {message response : MessageKind C} {events : List (TraceEvent C)}
    (step : self.Step storage message (some response) after kept events) :
    after.rank response < self.rank message := by
  generalize whole : some response = reply at step
  cases step with
  | promise p kept higher saved =>
    simp only [Option.some.injEq] at whole
    subst whole
    simp [rank, higher]
  | nackPrepare p lower =>
    simp only [Option.some.injEq] at whole
    subst whole
    simp [rank, Nat.not_lt.mpr lower]
  | ackAccept a kept current saved =>
    simp only [Option.some.injEq] at whole
    subst whole
    simp [rank, current]
  | nackAccept a stale =>
    simp only [Option.some.injEq] at whole
    subst whole
    simp [rank, Nat.not_le.mpr stale]
  | learn m learner reply heard =>
    obtain ⟨other, rfl⟩ := echo_some whole.symm
    simp [rank, other]
  | ignored cmd => simp at whole
  | proposer message reply next addressed asked =>
    subst whole
    generalize self.proposer.innerState = current at asked
    cases asked with
    | request => exact addressed.elim
    | quorum wrapper m value same reached chosen =>
      simp only [rank, ← same]
      split <;> decide
    | won wrapper m same reached =>
      simp only [rank]
      split <;> decide
    | retryPrepare wrapper m refused positive fits | retryAccept wrapper m refused positive fits =>
      have above := (wrapper.lt_retry m.maxBallot positive).2
      simp only [rank]
      split <;> split <;> omega

-- The calls a message sets off on its own node. A call answers with one message at
-- most, so the loop of self_deliver is a chain.
inductive Cascade : PaxosInstance C → Option (PaxosStorage C) → MessageKind C →
    List (MessageKind C) → PaxosInstance C → Option (PaxosStorage C) →
      List (TraceEvent C) → Prop where
  | last {self after : PaxosInstance C} {storage kept : Option (PaxosStorage C)}
      {message : MessageKind C} {events : List (TraceEvent C)}
      (step : self.Step storage message none after kept events) :
      Cascade self storage message [] after kept events
  | more {self middle after : PaxosInstance C} {storage saved kept : Option (PaxosStorage C)}
      {message response : MessageKind C} {responses : List (MessageKind C)}
      {events later : List (TraceEvent C)}
      (step : self.Step storage message (some response) middle saved events)
      (rest : Cascade middle saved response responses after kept later) :
      Cascade self storage message (response :: responses) after kept (events ++ later)

theorem Cascade.first {self after : PaxosInstance C} {storage kept : Option (PaxosStorage C)}
    {message : MessageKind C} {responses : List (MessageKind C)} {events : List (TraceEvent C)}
    (cascade : Cascade self storage message responses after kept events) :
    ∃ middle saved earlier, self.Step storage message responses.head? middle saved earlier := by
  cases cascade with
  | last step => exact ⟨_, _, _, step⟩
  | more step rest => exact ⟨_, _, _, step⟩

theorem Cascade.responses_isSynod {self after : PaxosInstance C}
    {storage kept : Option (PaxosStorage C)} {message : MessageKind C}
    {responses : List (MessageKind C)} {events : List (TraceEvent C)}
    (cascade : Cascade self storage message responses after kept events) :
    ∀ response ∈ responses, response.IsSynod := by
  induction cascade with
  | last step => simp
  | more step rest ih =>
    intro response member
    rcases List.mem_cons.mp member with rfl | later
    · exact step.response_isSynod
    · exact ih response later

theorem Cascade.traced {self after : PaxosInstance C} {storage kept : Option (PaxosStorage C)}
    {message : MessageKind C} {responses : List (MessageKind C)} {events : List (TraceEvent C)}
    (cascade : Cascade self storage message responses after kept events) :
    ∀ event ∈ events, event.instanceId = self.instanceId := by
  induction cascade with
  | last step => exact step.traced
  | more step _ ih =>
    intro event member
    rcases List.mem_append.mp member with now | later
    · exact step.traced event now
    · exact (ih event later).trans step.instanceId

theorem Cascade.response_sender {self after : PaxosInstance C}
    {storage kept : Option (PaxosStorage C)} {message : MessageKind C}
    {responses : List (MessageKind C)} {events : List (TraceEvent C)}
    (cascade : Cascade self storage message responses after kept events)
    {nodeId quorumSize totalNodes instanceId : Nat}
    (configured : self.Configured nodeId quorumSize totalNodes instanceId) :
    ∀ response ∈ responses, response.sender = some nodeId := by
  induction cascade with
  | last step => simp
  | more step _ ih =>
    rintro response member
    rcases List.mem_cons.mp member with rfl | later
    · exact step.response_sender configured
    · exact ih (step.configured configured) response later

theorem Cascade.configured {self after : PaxosInstance C} {storage kept : Option (PaxosStorage C)}
    {message : MessageKind C} {responses : List (MessageKind C)} {events : List (TraceEvent C)}
    (cascade : Cascade self storage message responses after kept events)
    {nodeId quorumSize totalNodes instanceId : Nat}
    (before : self.Configured nodeId quorumSize totalNodes instanceId) :
    after.Configured nodeId quorumSize totalNodes instanceId := by
  induction cascade with
  | last step => exact step.configured before
  | more step _ ih => exact ih (step.configured before)

theorem Cascade.settled {self after : PaxosInstance C} {storage kept : Option (PaxosStorage C)}
    {message : MessageKind C} {responses : List (MessageKind C)} {events : List (TraceEvent C)}
    (cascade : Cascade self storage message responses after kept events)
    (ready : self.Ready message) : after.Settled := by
  induction cascade with
  | last step => exact step.left ready
  | more step _ ih => exact ih (.inr (step.left ready))

end PaxosInstance

end Smr
