import Smr.Synod.Rounds

set_option autoImplicit false

namespace Smr

variable {C : Type}

namespace InnerState

def Proposing : InnerState C → Prop
  | .proposal _ => True
  | _ => False

theorem Answers.ballots {self next : InnerState C} {input : ProposerCall C}
    {response : Option (MessageKind C)} (answers : self.Answers input response next)
    (ordinary : input.Ordinary) :
    (∃ p, response = some (.prepareMsg p) ∧ self.header.ballot < p.ballot ∧
      next.header.ballot = p.ballot) ∨
    (∃ a, response = some (.acceptMsg a) ∧ self.Proposing ∧ a.ballot = self.header.ballot ∧
      next.header.ballot = self.header.ballot ∧ ¬next.Proposing) ∨
    ((∀ p, response ≠ some (.prepareMsg p)) ∧ (∀ a, response ≠ some (.acceptMsg a)) ∧
      next.header.ballot = self.header.ballot ∧ (next.Proposing → self.Proposing)) := by
  cases answers with
  | prepared value positive fits =>
    exact .inl ⟨_, rfl, self.header.lt_nextBallot positive, rfl⟩
  | accepted ballot value => exact ordinary.elim
  | stepped step =>
    cases step with
    | request w cmd forwardId positive fits =>
      exact .inl ⟨_, rfl, w.lt_nextBallot positive, rfl⟩
    | retryPrepare w m refused positive fits =>
      exact .inl ⟨_, rfl, (w.lt_retry m.maxBallot positive).1, rfl⟩
    | retryAccept w m refused positive fits =>
      exact .inl ⟨_, rfl, (w.lt_retry m.maxBallot positive).1, rfl⟩
    | quorum w m value same reached chosen => exact .inr (.inl ⟨_, rfl, trivial, rfl, rfl, id⟩)
    | promise | nackPrepare | ack | won | nackAccept =>
      exact .inr (.inr ⟨by simp, by simp, rfl, id⟩)
    | ignored state message ignores => exact .inr (.inr ⟨by simp, by simp, rfl, id⟩)

end InnerState

namespace Proposer

open Machine (since)

def prepareBallots (past : Past C) : List Nat :=
  past.filterMap fun call =>
    match call.output with
    | some (.prepareMsg p) => some p.ballot
    | _ => none

def acceptBallots (past : Past C) : List Nat :=
  past.filterMap fun call =>
    match call.output with
    | some (.acceptMsg a) => some a.ballot
    | _ => none

-- The ballots asked for so far rise up to the proposer's own, which has no Accept out
-- until its promises are in.
structure Climbs (past : Past C) (state : InnerState C) : Prop where
  prepares : (prepareBallots past).Pairwise (· < ·)
  accepts : (acceptBallots past).Pairwise (· < ·)
  prepared : ∀ ballot ∈ prepareBallots past, ballot ≤ state.header.ballot
  accepted : ∀ ballot ∈ acceptBallots past, ballot ≤ state.header.ballot
  unsent : state.Proposing → ∀ ballot ∈ acceptBallots past, ballot < state.header.ballot

section Climbs

variable {past : Past C}
  {call : Machine.Call (Proposer C) (ProposerCall C) (Option (MessageKind C))}

theorem prepareBallots_append (past later : Past C) :
    prepareBallots (past ++ later) = prepareBallots past ++ prepareBallots later :=
  List.filterMap_append

theorem acceptBallots_call :
    acceptBallots (past ++ [call]) = acceptBallots past ++ acceptBallots [call] :=
  List.filterMap_append

theorem climbs_nil (state : InnerState C) : Climbs [] state where
  prepares := List.Pairwise.nil
  accepts := List.Pairwise.nil
  prepared := by simp [prepareBallots]
  accepted := by simp [acceptBallots]
  unsent := by simp [acceptBallots]

theorem pairwise_concat {ballots : List Nat} {ballot : Nat} (climbs : ballots.Pairwise (· < ·))
    (above : ∀ b ∈ ballots, b < ballot) : (ballots ++ [ballot]).Pairwise (· < ·) :=
  List.pairwise_append.mpr ⟨climbs, List.pairwise_singleton _ _, fun b older _ new =>
    List.mem_singleton.mp new ▸ above b older⟩

theorem Climbs.answers {state next : InnerState C} (climbs : Climbs past state)
    (answers : state.Answers call.input call.output next) (ordinary : call.input.Ordinary) :
    Climbs (past ++ [call]) next := by
  rcases answers.ballots ordinary with ⟨p, sends, higher, ballot⟩ |
    ⟨a, sends, proposing, same, ballot, done⟩ | ⟨quiet, silent, ballot, proposing⟩
  · have prepares : prepareBallots [call] = [p.ballot] := by simp [prepareBallots, sends]
    have accepts : acceptBallots [call] = [] := by simp [acceptBallots, sends]
    have above (b : Nat) (older : b ∈ prepareBallots past) : b < p.ballot :=
      Nat.lt_of_le_of_lt (climbs.prepared b older) higher
    have beyond (b : Nat) (older : b ∈ acceptBallots past) : b < p.ballot :=
      Nat.lt_of_le_of_lt (climbs.accepted b older) higher
    constructor
    · rw [prepareBallots_append, prepares]
      exact pairwise_concat climbs.prepares above
    · simpa [acceptBallots_call, accepts] using climbs.accepts
    · rw [prepareBallots_append, prepares, ballot]
      intro b asked
      rcases List.mem_append.mp asked with older | new
      · exact Nat.le_of_lt (above b older)
      · exact Nat.le_of_eq (List.mem_singleton.mp new)
    · rw [acceptBallots_call, accepts, List.append_nil, ballot]
      exact fun b older => Nat.le_of_lt (beyond b older)
    · rw [acceptBallots_call, accepts, List.append_nil, ballot]
      exact fun _ => beyond
  · have prepares : prepareBallots [call] = [] := by simp [prepareBallots, sends]
    have accepts : acceptBallots [call] = [a.ballot] := by simp [acceptBallots, sends]
    have above := climbs.unsent proposing
    constructor
    · simpa [prepareBallots_append, prepares] using climbs.prepares
    · rw [acceptBallots_call, accepts, same]
      exact pairwise_concat climbs.accepts above
    · rw [prepareBallots_append, prepares, List.append_nil, ballot]
      exact climbs.prepared
    · rw [acceptBallots_call, accepts, ballot, same]
      intro b asked
      rcases List.mem_append.mp asked with older | new
      · exact Nat.le_of_lt (above b older)
      · exact Nat.le_of_eq (List.mem_singleton.mp new)
    · exact fun proposes => absurd proposes done
  · have prepares : prepareBallots [call] = [] := by
      unfold prepareBallots
      cases sends : call.output with
      | none => simp [sends]
      | some message => cases message <;> simp_all
    have accepts : acceptBallots [call] = [] := by
      unfold acceptBallots
      cases sends : call.output with
      | none => simp [sends]
      | some message => cases message <;> simp_all
    constructor
    · simpa [prepareBallots_append, prepares] using climbs.prepares
    · simpa [acceptBallots_call, accepts] using climbs.accepts
    · rw [prepareBallots_append, prepares, List.append_nil, ballot]
      exact climbs.prepared
    · rw [acceptBallots_call, accepts, List.append_nil, ballot]
      exact climbs.accepted
    · rw [acceptBallots_call, accepts, List.append_nil, ballot]
      exact fun proposes => climbs.unsent (proposing proposes)

theorem Climbs.run {start self : Proposer C} {prior : Past C}
    (climbs : Climbs prior start.innerState) (run : Run start past self)
    (ordinary : ∀ call ∈ past, call.input.Ordinary) : Climbs (prior ++ past) self.innerState := by
  induction run with
  | start => simpa using climbs
  | call earlier now ih =>
    rw [← List.append_assoc]
    exact (ih fun call asked => ordinary call (List.mem_append_left _ asked)).answers
      (call_answers now) (ordinary _ (by simp))

end Climbs

section Selected

variable {earlier : Past C}
  {call : Machine.Call (Proposer C) (ProposerCall C) (Option (MessageKind C))}

def ChosenFrom (promises : List (Promise C)) (value command : C) : Prop :=
  ((∀ m ∈ promises, m.maxAccepted = none) ∧ command = value) ∨
  ∃ best, (∃ m ∈ promises, m.maxAccepted = some best) ∧ command = best.command ∧
    ∀ m ∈ promises, ∀ p ∈ m.maxAccepted, p.ballot ≤ best.ballot

-- An Accept rests on the promises handed in since the Prepare of its ballot, `size` of them.
def Selected (size : Nat) (earlier : Past C)
    (call : Machine.Call (Proposer C) (ProposerCall C) (Option (MessageKind C)))
    (a : Accept C) : Prop :=
  ∃ before opening round p value, earlier = before ++ opening :: round ∧
    opening.output = some (.prepareMsg p) ∧ p.ballot = a.ballot ∧
    (∀ c ∈ round, opensRound c.output = false) ∧ heldValue (before ++ [opening]) = some value ∧
    (promisesFor a.ballot (round ++ [call])).length = size ∧
    ChosenFrom (promisesFor a.ballot (round ++ [call])) value a.command

theorem since_unmarked {c : Machine.Call (Proposer C) (ProposerCall C) (Option (MessageKind C))}
    (member : c ∈ since opensRound earlier) : opensRound c.output = false := by
  simpa using List.mem_rtakeWhile_imp member

theorem chosen_from {w : StateWrapper (ProposalState C)} {m : Promise C}
    {promises : List (Promise C)}
    (reports : w.state.maxAcceptedProposals ++ m.maxAccepted.toList =
      promises.filterMap Promise.maxAccepted) :
    ChosenFrom promises w.state.value (w.chosenWith m) := by
  unfold StateWrapper.chosenWith
  rw [reports]
  cases best : maxByBallot (promises.filterMap Promise.maxAccepted) with
  | none =>
    have empty := List.filterMap_eq_nil_iff.mp (maxByBallot_none.mp best)
    exact .inl ⟨empty, rfl⟩
  | some chosen =>
    obtain ⟨source, above⟩ := maxByBallot_some best
    refine .inr ⟨chosen, List.mem_filterMap.mp source, rfl, fun m promised p reported => ?_⟩
    exact above p (List.mem_filterMap.mpr ⟨m, promised, reported⟩)

theorem Collected.selected {w : StateWrapper (ProposalState C)} (collected : Collected earlier w)
    {m : Promise C} {a : Accept C} (input : call.input = .handleMessage (.promiseMsg m))
    (same : m.ballot = w.ballot) (reached : w.quorumSize ≤ w.state.promises + 1)
    (ballot : a.ballot = w.ballot) (command : a.command = w.chosenWith m) :
    Selected (max w.quorumSize 1) earlier call a := by
  obtain ⟨before, opening, p, whole, opens, number, started⟩ := collected.opened
  have here : promisesFor w.ballot [call] = [m] := by simp [promisesFor, input, same]
  refine ⟨before, opening, since opensRound earlier, p, w.state.value, whole, opens,
    number.trans ballot.symm, fun c => since_unmarked, started, ?_, ?_⟩
  · rw [ballot, promisesFor_call, here, List.length_append, ← collected.promises,
      List.length_singleton]
    have short := collected.short
    omega
  · rw [command, ballot, promisesFor_call, here]
    refine chosen_from ?_
    rw [List.filterMap_append, ← collected.proposals]
    cases reported : m.maxAccepted <;> simp [reported]

theorem value_selected {proposerId quorumSize totalNodes : Nat} {past : Past C} {self : Proposer C}
    (run : Run (Proposer.new proposerId quorumSize totalNodes) past self)
    (ordinary : ∀ call ∈ past, call.input.Ordinary) :
    Machine.Each (fun earlier call => ∀ a, call.output = some (.acceptMsg a) →
      Selected (max quorumSize 1) earlier call a) past ∧
    (acceptBallots past).Pairwise (· < ·) := by
  constructor
  · rintro earlier call later rfl a accepts
    obtain ⟨before, now, -⟩ := Machine.Run.at_call run
    have fresh : Tallied (C := C) [] (new proposerId quorumSize totalNodes).innerState := trivial
    have tallied := fresh.run before
    have answers := call_answers now
    have size := Run.quorumSize before
    rw [accepts] at answers
    obtain ⟨w, m, state, input, same, reached, ballot, command⟩ :=
      answers.accepts (ordinary call (by simp))
    rw [state] at tallied
    rw [Proposer.quorumSize, state] at size
    have total : w.quorumSize = quorumSize := size
    rw [← total]
    exact Collected.selected tallied input same reached ballot command
  · exact (Climbs.run (climbs_nil _) run ordinary).accepts

def retriedRound : Past Nat × Proposer Nat :=
  Machine.performed Proposer.call (Proposer.new 1 2 3)
    [.newPrepare 100, promiseCall 1 4,
      .handleMessage (.nackPrepareMsg { sender := 0, maxBallot := 6 }),
      .handleMessage (.nackPrepareMsg { sender := 2, maxBallot := 6 }), promiseCall 2 4,
      .handleMessage (.promiseMsg { sender := 0, ballot := 10, maxAccepted := some ⟨6, 50⟩ }),
      promiseCall 2 10]

theorem value_selected_retried :
    retriedRound.1.map (·.output) = [some (.prepareMsg ⟨1, 4⟩), none, none,
      some (.prepareMsg ⟨1, 10⟩), none, none, some (.acceptMsg ⟨1, 10, 50⟩)] ∧
    Machine.Each (fun earlier call => ∀ a, call.output = some (.acceptMsg a) →
      Selected (max 2 1) earlier call a) retriedRound.1 ∧
    (acceptBallots retriedRound.1).Pairwise (· < ·) :=
  ⟨by decide +kernel,
    value_selected (Machine.performed_run (by decide +kernel)) (by decide +kernel)⟩

def hastyRound : Past Nat × Proposer Nat :=
  Machine.performed Proposer.call (Proposer.new 1 0 3) [.newPrepare 100, promiseCall 2 4]

theorem value_selected_hasty : Run (Proposer.new 1 0 3) hastyRound.1 hastyRound.2 ∧
    (∀ call ∈ hastyRound.1, call.input.Ordinary) ∧
    ¬ Machine.Each (fun earlier call => ∀ a, call.output = some (.acceptMsg a) →
      Selected 0 earlier call a) hastyRound.1 := by
  refine ⟨Machine.performed_run (by decide +kernel), by decide +kernel, fun selected => ?_⟩
  obtain ⟨opening, call, whole, input, accepts⟩ : ∃ opening call, hastyRound.1 = [opening, call] ∧
      call.input = promiseCall 2 4 ∧ call.output = some (.acceptMsg ⟨1, 4, 100⟩) :=
    ⟨_, _, rfl, rfl, rfl⟩
  obtain ⟨before, opening', round, p, value, -, -, -, -, -, counted, -⟩ :=
    selected [opening] call [] whole _ accepts
  rw [promisesFor_call] at counted
  simp [promisesFor, input, promiseCall] at counted

end Selected

end Proposer

end Smr
