import Smr.Shared.Voting
import Smr.Synod.ProposerRuns

set_option autoImplicit false

namespace Smr

variable {C : Type}

namespace InnerState

variable {self next : InnerState C} {input : ProposerCall C}

theorem Answers.configured {response : Option (MessageKind C)}
    (answers : self.Answers input response next) {nodeId quorumSize totalNodes : Nat}
    (before : self.Configured nodeId quorumSize totalNodes) :
    next.Configured nodeId quorumSize totalNodes := by
  cases answers with
  | prepared value positive fits => exact ⟨before.proposerId, before.quorumSize, before.totalNodes⟩
  | accepted ballot value => exact ⟨before.proposerId, before.quorumSize, before.totalNodes⟩
  | stepped step => exact step.configured before

theorem Answers.accepts {a : Accept C} (answers : self.Answers input (some (.acceptMsg a)) next)
    (ordinary : input.Ordinary) :
    ∃ w m, self = .proposal w ∧ input = .handleMessage (.promiseMsg m) ∧ m.ballot = w.ballot ∧
      w.quorumSize ≤ w.state.promises + 1 ∧ a.ballot = w.ballot ∧ a.command = w.chosenWith m := by
  generalize answered : some (MessageKind.acceptMsg a) = response at answers
  cases answers with
  | prepared value positive fits => simp at answered
  | accepted ballot value => exact ordinary.elim
  | stepped step =>
    cases step with
    | quorum w m value same reached chosen =>
      simp only [Option.some.injEq, MessageKind.acceptMsg.injEq] at answered
      subst answered
      exact ⟨w, m, rfl, rfl, same, reached, rfl, chosen⟩
    | _ => simp at answered

theorem Answers.learns {l : Learn C} (answers : self.Answers input (some (.learnMsg l)) next) :
    ∃ w m, self = .accepting w ∧ input = .handleMessage (.ackAcceptMsg m) ∧
      m.ballot = w.ballot ∧ w.quorumSize ≤ w.state.accepts + 1 ∧ l.ballot = w.ballot := by
  generalize answered : some (MessageKind.learnMsg l) = response at answers
  cases answers with
  | prepared value positive fits => simp at answered
  | accepted ballot value => simp at answered
  | stepped step =>
    cases step with
    | won w m same reached =>
      simp only [Option.some.injEq, MessageKind.learnMsg.injEq] at answered
      subst answered
      exact ⟨w, m, rfl, rfl, same, reached, rfl⟩
    | _ => simp at answered

end InnerState

namespace Proposer

open Machine (since)

def promisedBy (ballot : Nat) (calls : Past C) : Finset Nat :=
  ((promisesFor ballot calls).map Promise.sender).toFinset

def ackedBy (ballot : Nat) (calls : Past C) : Finset Nat :=
  ((acksFor ballot calls).map AckAccept.sender).toFinset

def voteOf (earlier : Past C)
    (call : Machine.Call (Proposer C) (ProposerCall C) (Option (MessageKind C))) :
    Option (Nat × List Nat) :=
  match call.before.innerState, call.input with
  | .proposal w, .handleMessage (.promiseMsg m) =>
    if m.ballot = w.ballot then
      some (m.sender, (promisesFor w.ballot (since opensRound earlier)).map Promise.sender)
    else none
  | .accepting w, .handleMessage (.ackAcceptMsg m) =>
    if m.ballot = w.ballot then
      some (m.sender, (acksFor w.ballot (since opensPhase earlier)).map AckAccept.sender)
    else none
  | _, _ => none

def FirstVote (earlier : Past C)
    (call : Machine.Call (Proposer C) (ProposerCall C) (Option (MessageKind C))) : Prop :=
  ∀ vote ∈ voteOf earlier call, vote.1 ∉ vote.2

instance (earlier : Past C)
    (call : Machine.Call (Proposer C) (ProposerCall C) (Option (MessageKind C))) :
    Decidable (FirstVote earlier call) :=
  inferInstanceAs (Decidable (∀ vote ∈ voteOf earlier call, vote.1 ∉ vote.2))

def Distinct (past : Past C) : InnerState C → Prop
  | .proposal w => ((promisesFor w.ballot (since opensRound past)).map Promise.sender).Nodup
  | .accepting w => ((acksFor w.ballot (since opensPhase past)).map AckAccept.sender).Nodup
  | _ => True

theorem Distinct.answers {past : Past C}
    {call : Machine.Call (Proposer C) (ProposerCall C) (Option (MessageKind C))}
    {next : InnerState C} (distinct : Distinct past call.before.innerState)
    (answers : call.before.innerState.Answers call.input call.output next)
    (first : FirstVote past call) : Distinct (past ++ [call]) next := by
  unfold FirstVote voteOf at first
  generalize call.before.innerState = state at *
  generalize given : call.input = input, answered : call.output = output at answers first
  have begins {ballot : Nat} {p : Prepare} (prepares : call.output = some (.prepareMsg p)) :
      ((promisesFor ballot (since opensRound (past ++ [call]))).map Promise.sender).Nodup := by
    rw [since_prepare past prepares]
    exact List.nodup_nil
  have enters {ballot : Nat} {a : Accept C} (accepts : call.output = some (.acceptMsg a)) :
      ((acksFor ballot (since opensPhase (past ++ [call]))).map AckAccept.sender).Nodup := by
    rw [since_accept past accepts]
    exact List.nodup_nil
  have promised {w : StateWrapper (ProposalState C)} (silent : call.output = none)
      (others : promisesFor w.ballot [call] = []) (before : Distinct past (.proposal w)) :
      ((promisesFor w.ballot (since opensRound (past ++ [call]))).map Promise.sender).Nodup := by
    rw [promises_silent past silent others]
    exact before
  have acked {w : StateWrapper (AcceptingState C)} (silent : call.output = none)
      (others : acksFor w.ballot [call] = []) (before : Distinct past (.accepting w)) :
      ((acksFor w.ballot (since opensPhase (past ++ [call]))).map AckAccept.sender).Nodup := by
    rw [acks_silent past silent others]
    exact before
  cases answers with
  | prepared value positive fits => exact begins answered
  | accepted ballot value => exact enters answered
  | stepped step =>
    cases step with
    | request w cmd forwardId positive fits => exact begins answered
    | promise w m same below =>
      have voted := first _ (if_pos same)
      refine (?_ : ((promisesFor w.ballot (since opensRound (past ++ [call]))).map
        Promise.sender).Nodup)
      rw [promises_counted past answered given same, List.map_append]
      exact List.nodup_append.mpr ⟨distinct, List.nodup_singleton _, by
        rintro a older b new rfl
        exact voted (List.mem_singleton.mp new ▸ older)⟩
    | quorum w m value same reached chosen => exact enters answered
    | nackPrepare w m tolerated =>
      exact promised (w := w) answered (by simp [promisesFor, given]) distinct
    | retryPrepare w m refused positive fits => exact begins answered
    | ack w m same below =>
      have voted := first _ (if_pos same)
      refine (?_ : ((acksFor w.ballot (since opensPhase (past ++ [call]))).map
        AckAccept.sender).Nodup)
      rw [acks_counted past answered given same, List.map_append]
      exact List.nodup_append.mpr ⟨distinct, List.nodup_singleton _, by
        rintro a older b new rfl
        exact voted (List.mem_singleton.mp new ▸ older)⟩
    | won w m same reached => trivial
    | nackAccept w m tolerated =>
      exact acked (w := w) answered (by simp [acksFor, given]) distinct
    | retryAccept w m refused positive fits => exact begins answered
    | ignored state message ignores =>
      cases next with
      | initial w => trivial
      | learning w => trivial
      | proposal w => exact promised answered (promises_ignored given ignores) distinct
      | accepting w => exact acked answered (acks_ignored given ignores) distinct

section Quorums

variable {past : Past C}
  {call : Machine.Call (Proposer C) (ProposerCall C) (Option (MessageKind C))}

theorem promised_quorum {w : StateWrapper (ProposalState C)} {m : Promise C}
    (collected : Collected past w) (distinct : Distinct past (.proposal w))
    (input : call.input = .handleMessage (.promiseMsg m)) (same : m.ballot = w.ballot)
    (first : m.sender ∉ (promisesFor w.ballot (since opensRound past)).map Promise.sender)
    (reached : w.quorumSize ≤ w.state.promises + 1) :
    w.quorumSize ≤ (promisedBy w.ballot (past ++ [call])).card := by
  have here : promisesFor w.ballot [call] = [m] := by simp [promisesFor, input, same]
  refine Nat.le_trans (collected.promises ▸ reached) (Voting.distinct_voters distinct first ?_)
  rw [promisesFor_call, here]
  exact List.append_subset.mpr ⟨List.subset_append_of_subset_left _
    (List.filterMap_subset _ (Machine.since_subset _ _)), List.subset_append_right _ _⟩

theorem acked_quorum {w : StateWrapper (AcceptingState C)} {m : AckAccept}
    (acknowledged : Acknowledged past w) (distinct : Distinct past (.accepting w))
    (input : call.input = .handleMessage (.ackAcceptMsg m)) (same : m.ballot = w.ballot)
    (first : m.sender ∉ (acksFor w.ballot (since opensPhase past)).map AckAccept.sender)
    (reached : w.quorumSize ≤ w.state.accepts + 1) :
    w.quorumSize ≤ (ackedBy w.ballot (past ++ [call])).card := by
  have here : acksFor w.ballot [call] = [m] := by simp [acksFor, input, same]
  refine Nat.le_trans (acknowledged.accepts ▸ reached) (Voting.distinct_voters distinct first ?_)
  rw [acksFor_call, here]
  exact List.append_subset.mpr ⟨List.subset_append_of_subset_left _
    (List.filterMap_subset _ (Machine.since_subset _ _)), List.subset_append_right _ _⟩

end Quorums

def quorumSize (self : Proposer C) : Nat :=
  self.innerState.header.quorumSize

section Opened

variable {maker self : Proposer C} {value : C} {past : Past C}
  {opening : Machine.Call (Proposer C) (ProposerCall C) (Option (MessageKind C))}

theorem opened_by (opens : opening.input = .newPrepare value)
    (run : Run maker (opening :: past) self) :
    (∃ p, opening.output = some (.prepareMsg p)) ∧ Tallied [opening] opening.after.innerState ∧
      Distinct [opening] opening.after.innerState ∧ Run opening.after past self := by
  obtain ⟨-, now, rest⟩ := Machine.Run.cons_inv run
  have answers := call_answers now
  rw [opens] at answers
  generalize answered : opening.output = output, reached : opening.after.innerState = state
    at answers
  cases answers with
  | prepared value positive fits =>
    refine ⟨⟨_, rfl⟩, ?_, ?_, rest⟩
    · refine (?_ : Collected ([] ++ [opening]) _)
      exact Collected.opens answered rfl rfl (by rw [opens, answered]; rfl)
    · refine (?_ : ((promisesFor _ (since opensRound ([] ++ [opening]))).map Promise.sender).Nodup)
      rw [since_prepare [] answered]
      exact List.nodup_nil

theorem opened_tallied (opens : opening.input = .newPrepare value)
    (run : Run maker (opening :: past) self) : Tallied (opening :: past) self.innerState := by
  obtain ⟨-, tallied, -, rest⟩ := opened_by opens run
  exact tallied.run rest

theorem opened_distinct (opens : opening.input = .newPrepare value)
    (run : Run maker (opening :: past) self) (votes : Machine.Each FirstVote (opening :: past)) :
    Distinct (opening :: past) self.innerState := by
  obtain ⟨-, -, distinct, rest⟩ := opened_by opens run
  exact Machine.Run.keeps (fun past s => Distinct past s.innerState) rest distinct votes
    fun earlier call before now first => before.answers (call_answers now) first

theorem Run.quorumSize (run : Run maker past self) : self.quorumSize = maker.quorumSize := by
  induction run with
  | start => rfl
  | call _ now ih =>
    rw [← ih]
    exact ((call_answers now).configured ⟨rfl, rfl, rfl⟩).quorumSize

theorem quorum_distinct (run : Run maker past self)
    (opens : past.head?.map Machine.Call.input = some (.newPrepare value))
    (ordinary : ∀ call ∈ past, call.input.Ordinary) (votes : Machine.Each FirstVote past) :
    Machine.Each (fun earlier call =>
      (∀ a, call.output = some (.acceptMsg a) →
        maker.quorumSize ≤ (promisedBy a.ballot (earlier ++ [call])).card) ∧
      ∀ l, call.output = some (.learnMsg l) →
        maker.quorumSize ≤ (ackedBy l.ballot (earlier ++ [call])).card) past := by
  rintro earlier call later rfl
  cases earlier with
  | nil =>
    obtain ⟨⟨p, prepares⟩, -⟩ := opened_by (by simpa using opens) run
    simp [prepares]
  | cons opening earlier =>
    have opened : opening.input = .newPrepare value := by simpa using opens
    obtain ⟨before, now, -⟩ := Machine.Run.at_call run
    have tallied := opened_tallied opened before
    have distinct := opened_distinct opened before votes.before
    have first := votes _ call later rfl
    have answers := call_answers now
    have size := Run.quorumSize before
    unfold FirstVote voteOf at first
    constructor
    · intro a accepts
      rw [accepts] at answers
      obtain ⟨w, m, state, input, same, reached, ballot, -⟩ :=
        answers.accepts (ordinary call (by simp))
      simp only [state, input] at tallied distinct first
      rw [← size, Proposer.quorumSize, state, ballot]
      exact promised_quorum tallied distinct input same (first _ (if_pos same)) reached
    · intro l learns
      rw [learns] at answers
      obtain ⟨w, m, state, input, same, reached, ballot⟩ := answers.learns
      simp only [state, input] at tallied distinct first
      rw [← size, Proposer.quorumSize, state, ballot]
      exact acked_quorum tallied distinct input same (first _ (if_pos same)) reached

end Opened

def promiseCall (sender ballot : Nat) : ProposerCall Nat :=
  .handleMessage (.promiseMsg { sender := sender, ballot := ballot, maxAccepted := none })

def ackCall (sender ballot : Nat) : ProposerCall Nat :=
  .handleMessage (.ackAcceptMsg { sender := sender, ballot := ballot })

def wonRound : Past Nat × Proposer Nat :=
  Machine.performed Proposer.call (Proposer.new 1 2 3)
    [.newPrepare 100, promiseCall 1 4, promiseCall 2 4, ackCall 1 4, ackCall 3 4]

theorem quorum_distinct_won :
    wonRound.1.map (·.output) = [some (.prepareMsg ⟨1, 4⟩), none, some (.acceptMsg ⟨1, 4, 100⟩),
      none, some (.learnMsg ⟨1, 4, 100⟩)] ∧
    Machine.Each (fun earlier call =>
      (∀ a, call.output = some (.acceptMsg a) →
        (Proposer.new 1 2 3 : Proposer Nat).quorumSize ≤
          (promisedBy a.ballot (earlier ++ [call])).card) ∧
      ∀ l, call.output = some (.learnMsg l) →
        (Proposer.new 1 2 3 : Proposer Nat).quorumSize ≤
          (ackedBy l.ballot (earlier ++ [call])).card) wonRound.1 :=
  ⟨by decide +kernel, quorum_distinct (Machine.performed_run (by decide +kernel))
    (show _ = some (ProposerCall.newPrepare 100) by decide +kernel) (by decide +kernel)
    (by decide +kernel)⟩

-- Node 1 of three wins its first round with the vote of node 2 delivered twice, and no other.
def echoedRound : Past Nat × Proposer Nat :=
  Machine.performed Proposer.call (Proposer.new 1 2 3)
    [.newPrepare 100, promiseCall 2 4, promiseCall 2 4, ackCall 2 4, ackCall 2 4]

theorem quorum_of_one : Run (Proposer.new 1 2 3) echoedRound.1 echoedRound.2 ∧
    echoedRound.1.map (·.output) = [some (.prepareMsg ⟨1, 4⟩), none,
      some (.acceptMsg ⟨1, 4, 100⟩), none, some (.learnMsg ⟨1, 4, 100⟩)] ∧
    (promisedBy 4 echoedRound.1).card = 1 ∧ (ackedBy 4 echoedRound.1).card = 1 ∧
    (Proposer.new 1 2 3 : Proposer Nat).quorumSize = 2 :=
  ⟨Machine.performed_run (by decide +kernel), by decide +kernel, by decide +kernel,
    by decide +kernel, rfl⟩

end Proposer

end Smr
