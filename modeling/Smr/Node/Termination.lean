import Smr.Node.Calls
import Smr.Storage.Json
import Smr.Synod.Headroom

set_option autoImplicit false

namespace Smr

variable {C : Type}

namespace InnerState

def Fits (calls : Nat) : InnerState C → Prop
  | .proposal w => w.state.promises + calls ≤ u32Max ∧ w.state.nacks + calls ≤ u32Max
  | .accepting w => w.state.accepts + calls ≤ u32Max ∧ w.state.nacks + calls ≤ u32Max
  | .initial _ | .learning _ => True

theorem Fits.mono {self : InnerState C} {calls fewer : Nat} (fits : self.Fits calls)
    (less : fewer ≤ calls) : self.Fits fewer := by
  cases self with
  | initial w => trivial
  | learning w => trivial
  | proposal w | accepting w =>
    obtain ⟨votes, nacks⟩ := fits
    exact ⟨by omega, by omega⟩

theorem Fits.step {self next : InnerState C} {message : MessageKind C}
    {response : Option (MessageKind C)} {calls : Nat} (fits : self.Fits (calls + 1))
    (bounded : calls ≤ u32Max) (step : self.Step message response next) : next.Fits calls := by
  have fresh : 0 + calls ≤ u32Max := by omega
  cases step with
  | request | retryPrepare | retryAccept | quorum => exact ⟨fresh, fresh⟩
  | promise w | nackPrepare w | ack w | nackAccept w =>
    obtain ⟨votes, nacks⟩ := fits
    exact ⟨by dsimp only; omega, by dsimp only; omega⟩
  | won => trivial
  | ignored state message ignores => exact fits.mono (Nat.le_succ _)

end InnerState

namespace PaxosInstance

structure Fits (inst : PaxosInstance C) (calls : Nat) : Prop where
  proposer : inst.proposer.innerState.Fits calls
  learner : ∀ command, inst.learner.votes command + calls ≤ u32Max

def ownBallot (self : PaxosInstance C) : Nat :=
  self.proposer.innerState.header.ballot

def NextFits (self : PaxosInstance C) (room : Nat) : MessageKind C → Prop
  | .nackPrepareMsg m => m.maxBallot + room ≤ u32Max ∧ self.ownBallot + room ≤ u32Max
  | .nackAcceptMsg m => m.maxBallot + room ≤ u32Max ∧ self.ownBallot + room ≤ u32Max
  | .prepareMsg p => self.ownBallot + room ≤ u32Max ∨ self.ownBallot = p.ballot
  | .acceptMsg _ | .promiseMsg _ => self.ownBallot + room ≤ u32Max
  | _ => True

def Spaced (self : PaxosInstance C) (room : Nat) (message : MessageKind C) : Prop :=
  self.rank message ≤ 5 ∨
    self.acceptor.maxBallot + room ≤ u32Max ∧ self.NextFits room message

variable [DecidableEq C]

theorem learner_votes {self after : Learner C} {m : Learn C} {response : Option (MessageKind C)}
    (handled : self.handleLearn m = .ok (response, after)) (command : C) :
    after.votes command ≤ self.votes command + 1 := by
  have changed (command : C) : (self.changeBallot m.ballot).votes command ≤ self.votes command := by
    unfold Learner.changeBallot
    split
    · exact Nat.zero_le _
    · exact Nat.le_refl _
  rcases Learner.handleLearn_cases handled with ⟨-, -, rfl⟩ | ⟨-, -, rfl⟩ | ⟨-, count, tally, whole⟩
  · exact Nat.le_succ _
  · exact Nat.le_succ_of_le (changed command)
  · obtain rfl : after = _ := congrArg Prod.snd whole
    unfold Learner.countVote
    split
    · exact Nat.zero_le _
    · by_cases same : command = m.command
      · subst same
        simp only [Function.update_self, tally]
        exact Nat.succ_le_succ (changed _)
      · simp only [Function.update_of_ne same]
        exact Nat.le_succ_of_le (changed command)

theorem learner_fits {self : Learner C} (m : Learn C) (fits : self.votes m.command + 1 ≤ u32Max) :
    ∃ result, self.handleLearn m = .ok result := by
  unfold Learner.handleLearn
  split
  · exact ⟨_, rfl⟩
  · dsimp only
    split
    · exact ⟨_, rfl⟩
    · refine bind_fits ⟨_, u32Add_ok.mpr ⟨?_, rfl⟩⟩ fun count _ => ⟨_, rfl⟩
      unfold Learner.changeBallot
      split
      · exact Nat.le_of_ble_eq_true rfl
      · exact fits

variable [Serde Nat] [Serde (AcceptedValue C)]

theorem Fits.step {self after : PaxosInstance C} {storage kept : Option (PaxosStorage C)}
    {message : MessageKind C} {response : Option (MessageKind C)} {events : List (TraceEvent C)}
    {calls : Nat} (fits : self.Fits (calls + 1)) (bounded : calls ≤ u32Max)
    (step : self.Step storage message response after kept events) : after.Fits calls := by
  obtain ⟨proposer, learner⟩ := fits
  have less := proposer.mono (Nat.le_succ calls)
  have fewer (command : C) : self.learner.votes command + calls ≤ u32Max := by
    have room := learner command
    omega
  cases step with
  | proposer message response next addressed asked =>
    exact ⟨proposer.step bounded asked, fewer⟩
  | learn m learner' reply heard =>
    refine ⟨less, fun command => ?_⟩
    have grown := learner_votes heard command
    have room := learner command
    dsimp only
    omega
  | promise | nackPrepare | ackAccept | nackAccept | ignored => exact ⟨less, fewer⟩

theorem Spaced.step {self after : PaxosInstance C} {storage kept : Option (PaxosStorage C)}
    {message response : MessageKind C} {events : List (TraceEvent C)} {room : Nat}
    (spaced : self.Spaced room message)
    (step : self.Step storage message (some response) after kept events) :
    after.Spaced room response := by
  have lower := step.rank_lt
  rcases spaced with late | ⟨acceptor, next⟩
  · exact .inl (by omega)
  · generalize whole : some response = reply at step
    cases step with
    | promise p kept higher saved =>
      simp only [Option.some.injEq] at whole
      subst whole
      exact .inl (by simp [rank])
    | nackPrepare p below =>
      simp only [Option.some.injEq] at whole
      subst whole
      refine .inr ⟨acceptor, acceptor, ?_⟩
      rcases next with own | same
      · exact own
      · rw [same]
        omega
    | ackAccept a kept current saved =>
      simp only [Option.some.injEq] at whole
      subst whole
      exact .inl (by simp [rank])
    | nackAccept a stale =>
      simp only [Option.some.injEq] at whole
      subst whole
      exact .inr ⟨acceptor, acceptor, next⟩
    | learn m learner reply heard =>
      obtain ⟨-, rfl⟩ := echo_some whole.symm
      exact .inl (Nat.le_trans (rank_learn _ _).2 (by decide))
    | ignored cmd => simp at whole
    | proposer message reply state addressed asked =>
      subst whole
      generalize current : self.proposer.innerState = inner at asked
      cases asked with
      | request => exact addressed.elim
      | quorum w m value same reached chosen =>
        refine .inr ⟨acceptor, ?_⟩
        have own : self.ownBallot + room ≤ u32Max := next
        rw [ownBallot, current] at own
        exact own
      | won w m same reached =>
        exact .inl (Nat.le_trans (rank_learn _ _).2 (by decide))
      | retryPrepare w m refused positive fits => exact .inr ⟨acceptor, .inr rfl⟩
      | retryAccept w m refused positive fits => exact .inr ⟨acceptor, .inr rfl⟩

def Kept (storage : Option (PaxosStorage C)) : Prop :=
  ∀ store ∈ storage, store.storage.Reliable

omit [DecidableEq C] [Serde Nat] [Serde (AcceptedValue C)] in
theorem Kept.persist {storage : Option (PaxosStorage C)} (kept : Kept storage)
    {save : PaxosStorage C → Except Fault Unit × PaxosStorage C}
    (saves : ∀ store, store.storage.Reliable →
      (save store).1 = .ok () ∧ (save store).2.storage.Reliable) :
    (persist storage save).1 = .ok () ∧ Kept (persist storage save).2 := by
  cases storage with
  | none => exact ⟨rfl, kept⟩
  | some store =>
    obtain ⟨done, reliable⟩ := saves store (kept store rfl)
    refine ⟨done, ?_⟩
    rintro _ ⟨⟩
    exact reliable

omit [DecidableEq C] [Serde (AcceptedValue C)] in
theorem Kept.promise {storage : Option (PaxosStorage C)} (kept : Kept storage)
    (instanceId ballot : Nat) :
    (Smr.persist storage (·.savePromise instanceId ballot)).1 = .ok () ∧
      Kept (Smr.persist storage (·.savePromise instanceId ballot)).2 :=
  kept.persist fun _ reliable => reliable.put _ _

omit [DecidableEq C] in
theorem Kept.accept {storage : Option (PaxosStorage C)} (kept : Kept storage)
    (instanceId ballot : Nat) (command : C) :
    (Smr.persist storage (·.saveAccept instanceId ballot command)).1 = .ok () ∧
      Kept (Smr.persist storage (·.saveAccept instanceId ballot command)).2 := by
  refine kept.persist fun store reliable => ?_
  obtain ⟨promised, still⟩ := reliable.put (ballotKey instanceId) (Serde.toVec ballot)
  unfold PaxosStorage.saveAccept PaxosStorage.savePromise
  simp only [promised]
  exact still.put _ _

theorem Step.kept {self after : PaxosInstance C} {storage kept : Option (PaxosStorage C)}
    {message : MessageKind C} {response : Option (MessageKind C)} {events : List (TraceEvent C)}
    (step : self.Step storage message response after kept events) (reliable : Kept storage) :
    Kept kept := by
  cases step with
  | promise p kept higher saved =>
    have next := (reliable.promise self.instanceId p.ballot).2
    rwa [saved] at next
  | ackAccept a kept current saved =>
    have next := (reliable.accept self.instanceId a.ballot a.command).2
    rwa [saved] at next
  | nackPrepare | nackAccept | learn | proposer | ignored => exact reliable

section Handling

variable {self : PaxosInstance C} {storage : Option (PaxosStorage C)}

omit [DecidableEq C] [Serde (AcceptedValue C)] in
theorem handlePrepare_fits (p : Prepare) (kept : Kept storage) :
    ∃ response, (self.handlePrepare p storage).result = .ok response := by
  unfold handlePrepare
  rcases Nat.lt_or_ge self.acceptor.maxBallot p.ballot with higher | lower
  · rw [Acceptor.handlePrepare_promise _ _ higher]
    have saved := (kept.promise self.instanceId p.ballot).1
    dsimp only
    split
    next fault after failed => simp [failed] at saved
    next => exact ⟨_, rfl⟩
  · rw [Acceptor.handlePrepare_nack _ _ lower]
    exact ⟨_, rfl⟩

omit [DecidableEq C] in
theorem handleAccept_fits (a : Accept C) (kept : Kept storage) :
    ∃ response, (self.handleAccept a storage).result = .ok response := by
  unfold handleAccept
  rcases Nat.lt_or_ge a.ballot self.acceptor.maxBallot with stale | current
  · rw [Acceptor.handleAccept_nack _ _ stale]
    exact ⟨_, rfl⟩
  · rw [Acceptor.handleAccept_ack _ _ current]
    have saved := (kept.accept self.instanceId a.ballot a.command).1
    dsimp only
    split
    next fault after failed => simp [failed] at saved
    next => exact ⟨_, rfl⟩

omit [Serde Nat] [Serde (AcceptedValue C)] in
theorem handleLearn_fits (m : Learn C) (fits : self.learner.votes m.command + 1 ≤ u32Max) :
    ∃ response, (self.handleLearn m storage).result = .ok response := by
  unfold handleLearn
  obtain ⟨⟨reply, learner⟩, heard⟩ := learner_fits m fits
  simp only [heard]
  exact ⟨_, rfl⟩

omit [DecidableEq C] [Serde Nat] [Serde (AcceptedValue C)] in
theorem askProposer_fits {message : MessageKind C}
    (headroom : self.proposer.innerState.Headroom message) :
    ∃ response, (self.askProposer message storage).result = .ok response := by
  obtain ⟨⟨response, next⟩, handled⟩ := InnerState.handleMessage_fits headroom
  have asked : self.proposer.handleMessage message = .ok (response, { innerState := next }) := by
    simp only [Proposer.handleMessage, handled, bind, Except.bind, pure, Except.pure]
  exact ⟨response, by simp only [askProposer, asked]⟩

omit [DecidableEq C] [Serde Nat] [Serde (AcceptedValue C)] in
theorem nextBallot_fits {S : Type} {w : StateWrapper S} {highest : Nat}
    (member : w.proposerId < w.totalNodes) (own : w.ballot + 3 * w.totalNodes ≤ u32Max)
    (nack : highest + 3 * w.totalNodes ≤ u32Max) : (w.adopt highest).nextBallot ≤ u32Max := by
  have floor := Nat.div_mul_le_self (max w.ballot highest) w.totalNodes
  rw [InnerState.retry_ballot, Nat.succ_mul]
  omega

omit [DecidableEq C] [Serde Nat] [Serde (AcceptedValue C)] in
theorem headroom {nodeId quorumSize totalNodes instanceId : Nat} {message : MessageKind C}
    (addressed : message.ForProposer)
    (configured : self.Configured nodeId quorumSize totalNodes instanceId)
    (member : nodeId < totalNodes) (quorum : quorumSize ≤ totalNodes)
    (fits : self.Fits (self.rank message)) (spaced : self.Spaced (3 * totalNodes) message) :
    self.proposer.innerState.Headroom message := by
  obtain ⟨-, -, own, size, total⟩ := configured
  have proposer := fits.proposer
  unfold Spaced NextFits ownBallot at spaced
  unfold rank at proposer spaced
  generalize self.proposer.innerState = state at *
  cases state with
  | initial w | learning w => cases message <;> trivial
  | proposal w =>
    obtain rfl : w.proposerId = nodeId := own
    obtain rfl : w.quorumSize = quorumSize := size
    obtain rfl : w.totalNodes = totalNodes := total
    cases message with
    | promiseMsg m =>
      have votes := proposer.1
      dsimp only at votes
      split at votes <;> exact Nat.le_trans (by omega) votes
    | nackPrepareMsg m =>
      have nacks := proposer.2
      dsimp only at nacks spaced
      rcases spaced with low | ⟨-, nack, ballot⟩
      · split at low <;> omega
      · refine ⟨?_, quorum, by omega, nextBallot_fits member ballot nack⟩
        split at nacks <;> omega
    | _ => trivial
  | accepting w =>
    obtain rfl : w.proposerId = nodeId := own
    obtain rfl : w.quorumSize = quorumSize := size
    obtain rfl : w.totalNodes = totalNodes := total
    cases message with
    | ackAcceptMsg m =>
      have votes := proposer.1
      dsimp only at votes
      exact Nat.le_trans (by omega) votes
    | nackAcceptMsg m =>
      have nacks := proposer.2
      dsimp only at nacks spaced
      rcases spaced with low | ⟨-, nack, ballot⟩
      · split at low <;> omega
      · refine ⟨?_, quorum, by omega, nextBallot_fits member ballot nack⟩
        split at nacks <;> omega
    | _ => trivial

theorem handleMessage_fits {nodeId quorumSize totalNodes instanceId : Nat}
    {message : MessageKind C} (synod : message.IsSynod)
    (configured : self.Configured nodeId quorumSize totalNodes instanceId)
    (member : nodeId < totalNodes) (quorum : quorumSize ≤ totalNodes) (kept : Kept storage)
    (fits : self.Fits (self.rank message)) (spaced : self.Spaced (3 * totalNodes) message) :
    ∃ response, (self.handleMessage message storage).result = .ok response := by
  cases message with
  | prepareMsg p => exact handlePrepare_fits p kept
  | acceptMsg a => exact handleAccept_fits a kept
  | learnMsg m =>
    have counted := Nat.add_le_add_left (rank_learn self m).1 (self.learner.votes m.command)
    exact handleLearn_fits m (Nat.le_trans counted (fits.learner m.command))
  | promiseMsg _ | ackAcceptMsg _ | nackPrepareMsg _ | nackAcceptMsg _ =>
    exact askProposer_fits (headroom trivial configured member quorum fits spaced)
  | requestCommandToLeader _ _ | forwardAck _ _ => exact synod.elim
  | learnedCommand _ => exact ⟨_, rfl⟩

end Handling

omit [DecidableEq C] [Serde Nat] [Serde (AcceptedValue C)] in
theorem Fits.mono {self : PaxosInstance C} {calls fewer : Nat} (fits : self.Fits calls)
    (less : fewer ≤ calls) : self.Fits fewer :=
  ⟨fits.proposer.mono less, fun command =>
    Nat.le_trans (Nat.add_le_add_left less _) (fits.learner command)⟩

end PaxosInstance

namespace MultiPaxosNode

section Terminating

variable [DecidableEq C] [Serde Nat] [Serde (AcceptedValue C)]

theorem selfDeliverLoop_fits {nodeId quorumSize totalNodes fuel : Nat} {self : MultiPaxosNode C}
    {instanceId : Nat} {inst : PaxosInstance C} {message : MessageKind C}
    (present : self.paxosInstances instanceId = some inst) (synod : message.IsSynod)
    (configured : inst.Configured nodeId quorumSize totalNodes inst.instanceId)
    (member : nodeId < totalNodes) (quorum : quorumSize ≤ totalNodes)
    (kept : PaxosInstance.Kept self.storage) (fits : inst.Fits (inst.rank message))
    (spaced : inst.Spaced (3 * totalNodes) message) (enough : inst.rank message + 1 < fuel) :
    ∃ out, (selfDeliverLoop fuel self instanceId [message]).result = .ok out ∧
      out.length ≤ inst.rank message := by
  induction fuel generalizing self inst message with
  | zero => omega
  | succ fuel ih =>
    obtain ⟨response, handled⟩ :=
      PaxosInstance.handleMessage_fits synod configured member quorum kept fits spaced
    have step := PaxosInstance.handleMessage_step synod handled
    simp only [selfDeliverLoop, present, handled]
    cases response with
    | none =>
      cases fuel with
      | zero => omega
      | succ fuel => exact ⟨[], rfl, Nat.zero_le _⟩
    | some response =>
      have less := step.rank_lt
      have bound := inst.rank_le message
      have stored : (self.putInstance instanceId
          (inst.handleMessage message self.storage).after
          (inst.handleMessage message self.storage).storage).paxosInstances instanceId =
            some (inst.handleMessage message self.storage).after := by simp [putInstance]
      have room := (fits.mono (Nat.succ_le_of_lt less)).step (by unfold u32Max; omega) step
      have same := step.instanceId
      obtain ⟨out, done, short⟩ := ih stored step.response_isSynod
        (by rw [same]; exact step.configured configured) (step.kept kept) room (spaced.step step)
        (by omega)
      simp only [Option.toList_some, List.cons_append, List.nil_append, done]
      exact ⟨_, rfl, by simp; omega⟩

def refusedAt : MessageKind C → Option Nat
  | .nackPrepareMsg m => some m.maxBallot
  | .nackAcceptMsg m => some m.maxBallot
  | _ => none

theorem selfDeliver_terminates {nodeId quorumSize totalNodes fuel : Nat} {self : MultiPaxosNode C}
    {instanceId : Nat} {inst : PaxosInstance C} {message : MessageKind C}
    (present : self.paxosInstances instanceId = some inst) (synod : message.IsSynod)
    (configured : inst.Configured nodeId quorumSize totalNodes inst.instanceId)
    (majority : quorumSize = totalNodes / 2 + 1) (member : nodeId < totalNodes)
    (counters : inst.Fits 9) (own : inst.ownBallot + 3 * totalNodes ≤ u32Max)
    (promised : inst.acceptor.maxBallot + 3 * totalNodes ≤ u32Max)
    (nack : ∀ highest ∈ refusedAt message, highest + 3 * totalNodes ≤ u32Max)
    (kept : PaxosInstance.Kept self.storage) (enough : 11 ≤ fuel) :
    ∃ out, (selfDeliverLoop fuel self instanceId [message]).result = .ok out ∧
      out.length ≤ 9 := by
  have bound := inst.rank_le message
  have next : inst.NextFits (3 * totalNodes) message := by
    cases message with
    | prepareMsg p => exact .inl own
    | promiseMsg _ | acceptMsg _ => exact own
    | nackPrepareMsg m | nackAcceptMsg m => exact ⟨nack m.maxBallot rfl, own⟩
    | _ => trivial
  obtain ⟨out, done, short⟩ := selfDeliverLoop_fits present synod configured member (by omega) kept
    (counters.mono bound) (.inr ⟨promised, next⟩) (by omega : inst.rank message + 1 < fuel)
  exact ⟨out, done, by omega⟩

end Terminating

def refusedRound : StateWrapper (ProposalState Nat) :=
  { state := ProposalState.new 100
    ballot := 5
    proposerId := 1
    quorumSize := 2
    totalNodes := 2 }

def refusedInstance : PaxosInstance Nat :=
  { PaxosInstance.fresh 1 2 2 0 with
    acceptor := { myId := 1, maxBallot := 20, maxAccepted := none }
    proposer := { innerState := .proposal refusedRound } }

def refusedNode : MultiPaxosNode Nat :=
  { (MultiPaxosNode.new { nodeId := 1, totalNodes := 2 }) with
    paxosInstances := Function.update (fun _ => none) 0 (some refusedInstance) }

theorem selfDeliver_terminates_refused : ∃ out,
    (selfDeliverLoop 11 refusedNode 0
      [.nackPrepareMsg { sender := 0, maxBallot := 6 }]).result = .ok out ∧ out.length ≤ 9 :=
  selfDeliver_terminates (show _ = some refusedInstance from rfl) trivial
    { instanceId := rfl, acceptor := rfl, proposer := ⟨rfl, rfl, rfl⟩ } rfl (by decide)
    { proposer := ⟨by decide, by decide⟩, learner := fun _ => (by decide : 0 + 9 ≤ u32Max) }
    (by decide) (by decide)
    (by rintro _ ⟨⟩; decide) (by rintro _ ⟨⟩) (by decide)

end MultiPaxosNode

end Smr
