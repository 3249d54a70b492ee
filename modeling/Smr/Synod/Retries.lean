import Smr.Synod.Selection

set_option autoImplicit false

namespace Smr

variable {C : Type}

namespace InnerState

def Begun : InnerState C → Prop
  | .initial _ => False
  | _ => True

def refusal (self : InnerState C) : ProposerCall C → Option Nat
  | .handleMessage (.nackPrepareMsg m) => if self matches .proposal _ then some m.maxBallot else none
  | .handleMessage (.nackAcceptMsg m) => if self matches .accepting _ then some m.maxBallot else none
  | _ => none

def ballotAbove (self : InnerState C) (highest : Nat) : Nat :=
  (max self.header.ballot highest / self.header.totalNodes + 1) * self.header.totalNodes +
    self.header.proposerId

theorem retry_ballot {S : Type} (w : StateWrapper S) (maxBallot : Nat) :
    (w.adopt maxBallot).nextBallot =
      (max w.ballot maxBallot / w.totalNodes + 1) * w.totalNodes + w.proposerId := by
  simp [StateWrapper.nextBallot, StateWrapper.adopt_ballot]

theorem Answers.retries {self next : InnerState C} {message : MessageKind C} {p : Prepare}
    (answers : self.Answers (.handleMessage message) (some (.prepareMsg p)) next)
    (begun : self.Begun) :
    ∃ highest, self.refusal (.handleMessage message) = some highest ∧
      p.ballot = self.ballotAbove highest ∧ self.header.totalNodes ≠ 0 := by
  generalize answered : some (MessageKind.prepareMsg p) = response at answers
  cases answers with
  | stepped step =>
    cases step with
    | request w cmd forwardId positive fits => exact begun.elim
    | retryPrepare w m refused positive fits =>
      obtain rfl : p = _ := by simpa using answered
      exact ⟨m.maxBallot, rfl, retry_ballot w m.maxBallot, positive⟩
    | retryAccept w m refused positive fits =>
      obtain rfl : p = _ := by simpa using answered
      exact ⟨m.maxBallot, rfl, retry_ballot w m.maxBallot, positive⟩
    | _ => simp at answered

theorem Answers.begun {self next : InnerState C} {message : MessageKind C}
    {response : Option (MessageKind C)}
    (answers : self.Answers (.handleMessage message) response next) (begun : self.Begun) :
    next.Begun := by
  cases answers with
  | stepped step =>
    cases step with
    | ignored => exact begun
    | _ => trivial

theorem lt_ballotAbove {self : InnerState C} (positive : self.header.totalNodes ≠ 0)
    (ballot highest : Nat) :
    ballot < self.ballotAbove highest ↔
      (ballot - self.header.proposerId) / self.header.totalNodes ≤
        max self.header.ballot highest / self.header.totalNodes := by
  have wide := Nat.pos_of_ne_zero positive
  have base : 0 < (max self.header.ballot highest / self.header.totalNodes + 1) *
      self.header.totalNodes := Nat.mul_pos (Nat.succ_pos _) wide
  rw [← Nat.lt_add_one_iff, Nat.div_lt_iff_lt_mul wide]
  unfold ballotAbove
  omega

theorem own_lt_ballotAbove {self : InnerState C} (positive : self.header.totalNodes ≠ 0)
    (highest : Nat) : self.header.ballot < self.ballotAbove highest := by
  rw [lt_ballotAbove positive]
  exact Nat.div_le_div_right (by omega)

end InnerState

namespace Proposer

def nacksCounted (calls : Past C) : List Nat :=
  calls.filterMap fun call => call.before.innerState.refusal call.input

structure Staying (start state : InnerState C) : Prop where
  begun : state.Begun
  ballot : state.header.ballot = start.header.ballot
  configured : state.Configured start.header.proposerId start.header.quorumSize
    start.header.totalNodes

section Round

variable {start self : Proposer C} {past : Past C}

theorem Staying.run (run : Run start past self) (begun : start.innerState.Begun)
    (messages : ∀ call ∈ past, ∃ message, call.input = .handleMessage message)
    (round : ∀ call ∈ past, opensRound call.output = false) :
    Staying start.innerState self.innerState := by
  induction run with
  | start => exact ⟨begun, rfl, rfl, rfl, rfl⟩
  | @call past s t input output earlier now ih =>
    obtain ⟨message, handles⟩ := messages ⟨s, input, output, t⟩ (by simp)
    have quiet := round ⟨s, input, output, t⟩ (by simp)
    obtain rfl : input = .handleMessage message := handles
    have answers := call_answers now
    have before := ih (fun call asked => messages call (List.mem_append_left _ asked))
      fun call asked => round call (List.mem_append_left _ asked)
    refine ⟨answers.begun before.begun, ?_, answers.configured before.configured⟩
    rcases answers.ballots trivial with ⟨p, prepares, -⟩ | ⟨a, -, -, -, same, -⟩ | ⟨-, -, same, -⟩
    · simp [prepares, opensRound] at quiet
    · exact same.trans before.ballot
    · exact same.trans before.ballot

theorem Staying.ballotAbove {start state : InnerState C} (staying : Staying start state)
    (highest : Nat) : state.ballotAbove highest = start.ballotAbove highest := by
  simp only [InnerState.ballotAbove, staying.ballot, staying.configured.totalNodes,
    staying.configured.proposerId]

theorem retry_outbids
    {last : Machine.Call (Proposer C) (ProposerCall C) (Option (MessageKind C))} {p : Prepare}
    (run : Run start (past ++ [last]) self) (begun : start.innerState.Begun)
    (messages : ∀ call ∈ past ++ [last], ∃ message, call.input = .handleMessage message)
    (round : ∀ call ∈ past, opensRound call.output = false)
    (retries : last.output = some (.prepareMsg p)) :
    ∃ highest, nacksCounted [last] = [highest] ∧
      ((start.innerState.header.ballot < p.ballot ∧
          ∀ nack ∈ nacksCounted (past ++ [last]), nack < p.ballot) ↔
        ∀ nack ∈ nacksCounted (past ++ [last]),
          (nack - start.innerState.header.proposerId) / start.innerState.header.totalNodes ≤
            max start.innerState.header.ballot highest / start.innerState.header.totalNodes) := by
  obtain ⟨before, now, -⟩ := Machine.Run.call_inv run
  have staying := Staying.run before begun
    (fun call asked => messages call (List.mem_append_left _ asked)) round
  obtain ⟨message, handles⟩ := messages last (by simp)
  have answers := call_answers now
  rw [handles, retries] at answers
  obtain ⟨highest, counted, ballot, positive⟩ := answers.retries staying.begun
  rw [staying.ballotAbove] at ballot
  rw [staying.configured.totalNodes] at positive
  refine ⟨highest, by simp [nacksCounted, handles, counted], ?_⟩
  have above := InnerState.own_lt_ballotAbove positive highest
  rw [ballot]
  simp only [above, true_and, InnerState.lt_ballotAbove positive]

def nackCall (sender maxBallot : Nat) : ProposerCall Nat :=
  .handleMessage (.nackPrepareMsg { sender := sender, maxBallot := maxBallot })

def openedRound : Proposer Nat :=
  (Machine.performed Proposer.call (Proposer.new 1 2 3) [.newPrepare 100]).2

def refused (highest : Nat) : Past Nat × Proposer Nat :=
  Machine.performed Proposer.call openedRound [nackCall 0 highest]

def retried (first second ballot : Nat) :
    Machine.Call (Proposer Nat) (ProposerCall Nat) (Option (MessageKind Nat)) :=
  { before := (refused first).2
    input := nackCall 2 second
    output := some (.prepareMsg { sender := 1, ballot := ballot })
    after := (Machine.performed Proposer.call (refused first).2 [nackCall 2 second]).2 }

theorem retry_outbids_rising : ∃ highest, nacksCounted [retried 6 20 22] = [highest] ∧
    ((openedRound.innerState.header.ballot < 22 ∧
        ∀ nack ∈ nacksCounted ((refused 6).1 ++ [retried 6 20 22]), nack < 22) ↔
      ∀ nack ∈ nacksCounted ((refused 6).1 ++ [retried 6 20 22]),
        (nack - openedRound.innerState.header.proposerId) /
            openedRound.innerState.header.totalNodes ≤
          max openedRound.innerState.header.ballot highest /
            openedRound.innerState.header.totalNodes) :=
  retry_outbids (Machine.Run.call (Machine.performed_run (by decide +kernel)) rfl)
    (show openedRound.innerState.Begun from trivial)
    (List.forall_mem_cons.mpr ⟨⟨_, rfl⟩, List.forall_mem_singleton.mpr ⟨_, rfl⟩⟩)
    (by decide +kernel) rfl

theorem retry_underbids :
    Run openedRound ((refused 20).1 ++ [retried 20 6 10]) (retried 20 6 10).after ∧
    openedRound.innerState.header.ballot = 4 ∧
    (retried 20 6 10).output = some (.prepareMsg { sender := 1, ballot := 10 }) ∧
    nacksCounted ((refused 20).1 ++ [retried 20 6 10]) = [20, 6] :=
  ⟨Machine.Run.call (Machine.performed_run (by decide +kernel)) rfl, by decide +kernel,
    by decide +kernel, by decide +kernel⟩

end Round

end Proposer

end Smr
