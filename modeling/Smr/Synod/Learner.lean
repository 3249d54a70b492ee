import Smr.Synod.Messages

set_option autoImplicit false

namespace Smr

-- `votes` is the source's map with the missing keys at 0.
structure Learner (C : Type) where
  value : Option C
  voters : Finset Nat
  votes : C → Nat
  ballot : Nat
  quorumSize : Nat

namespace Learner

variable {C : Type} [DecidableEq C]

def new (quorumSize : Nat) : Learner C :=
  { value := none, voters := ∅, votes := fun _ => 0, ballot := 0, quorumSize := quorumSize }

def isValueLearned (self : Learner C) : Bool :=
  self.value.isSome

def changeBallot (self : Learner C) (ballot : Nat) : Learner C :=
  if self.ballot < ballot then
    { self with ballot := ballot, voters := ∅, votes := fun _ => 0, value := none }
  else self

def countVote (self : Learner C) (learnMessage : Learn C) (count : Nat) :
    Option (MessageKind C) × Learner C :=
  if self.quorumSize ≤ count then
    (some (.learnedCommand learnMessage.command),
      { self with value := some learnMessage.command, voters := ∅, votes := fun _ => 0 })
  else
    (none,
      { self with
        voters := insert learnMessage.sender self.voters
        votes := Function.update self.votes learnMessage.command count })

-- A message of a lower ballot is neither dropped nor checked against `voters`.
def handleLearn (self : Learner C) (learnMessage : Learn C) :
    Except Fault (Option (MessageKind C) × Learner C) :=
  if self.isValueLearned then
    .ok (none, self)
  else
    let self := self.changeBallot learnMessage.ballot
    if learnMessage.ballot = self.ballot ∧ learnMessage.sender ∈ self.voters then
      .ok (none, self)
    else do
      let count ← u32Add (self.votes learnMessage.command) 1
      pure (self.countVote learnMessage count)

omit [DecidableEq C] in
@[simp] theorem changeBallot_quorumSize (self : Learner C) (ballot : Nat) :
    (self.changeBallot ballot).quorumSize = self.quorumSize := by
  unfold changeBallot
  split <;> rfl

omit [DecidableEq C] in
theorem changeBallot_value {self : Learner C} (ballot : Nat) (unlearned : self.value = none) :
    (self.changeBallot ballot).value = none := by
  unfold changeBallot
  split
  · rfl
  · exact unlearned

@[simp] theorem countVote_quorumSize (self : Learner C) (learnMessage : Learn C) (count : Nat) :
    (self.countVote learnMessage count).2.quorumSize = self.quorumSize := by
  unfold countVote
  split <;> rfl

theorem countVote_value (self : Learner C) (learnMessage : Learn C) (count : Nat) :
    (self.countVote learnMessage count).2.value = self.value ∨
      (self.countVote learnMessage count).2.value = some learnMessage.command := by
  unfold countVote
  split
  · exact .inr rfl
  · exact .inl rfl

theorem handleLearn_cases {self after : Learner C} {learnMessage : Learn C}
    {response : Option (MessageKind C)}
    (handled : self.handleLearn learnMessage = .ok (response, after)) :
    (self.isValueLearned = true ∧ response = none ∧ after = self) ∨
    (self.value = none ∧ response = none ∧ after = self.changeBallot learnMessage.ballot) ∨
    (self.value = none ∧ ∃ count,
      count = (self.changeBallot learnMessage.ballot).votes learnMessage.command + 1 ∧
      (response, after) = (self.changeBallot learnMessage.ballot).countVote learnMessage count) := by
  unfold handleLearn at handled
  by_cases learned : self.isValueLearned
  · simp only [learned, if_true, Except.ok.injEq, Prod.mk.injEq] at handled
    exact .inl ⟨learned, handled.1.symm, handled.2.symm⟩
  · have unlearned : self.value = none := by simpa [isValueLearned] using learned
    rw [if_neg learned] at handled
    dsimp only at handled
    split at handled
    · simp only [Except.ok.injEq, Prod.mk.injEq] at handled
      exact .inr (.inl ⟨unlearned, handled.1.symm, handled.2.symm⟩)
    · obtain ⟨count, counted, handled⟩ := bind_ok.mp handled
      rw [u32Add_ok] at counted
      simp only [pure, Except.pure, Except.ok.injEq] at handled
      exact .inr (.inr ⟨unlearned, count, counted.2, handled.symm⟩)

theorem handleLearn_done (self : Learner C) (learnMessage : Learn C) :
    self.handleLearn learnMessage ≠ .error .diverged := by
  unfold handleLearn
  split
  · simp
  · dsimp only
    split
    · simp
    · simp [bind_diverged, pure, Except.pure]

theorem handleLearn_quorumSize {self after : Learner C} {learnMessage : Learn C}
    {response : Option (MessageKind C)}
    (handled : self.handleLearn learnMessage = .ok (response, after)) :
    after.quorumSize = self.quorumSize := by
  obtain ⟨-, -, rfl⟩ | ⟨-, -, rfl⟩ | ⟨-, count, -, counted⟩ := handleLearn_cases handled
  · rfl
  · simp
  · have same := congrArg (fun pair => pair.2.quorumSize) counted
    simpa using same

theorem handleLearn_value {self after : Learner C} {learnMessage : Learn C}
    {response : Option (MessageKind C)}
    (handled : self.handleLearn learnMessage = .ok (response, after)) :
    after.value = self.value ∨ self.value = none ∧ after.value = some learnMessage.command := by
  obtain ⟨-, -, rfl⟩ | ⟨unlearned, -, rfl⟩ | ⟨unlearned, count, -, counted⟩ :=
    handleLearn_cases handled
  · exact .inl rfl
  · exact .inl (by rw [changeBallot_value _ unlearned, unlearned])
  · have value := congrArg (fun pair => pair.2.value) counted
    dsimp only at value
    rcases countVote_value (self.changeBallot learnMessage.ballot) learnMessage count with
      same | learned
    · exact .inl (by rw [value, same, changeBallot_value _ unlearned, unlearned])
    · exact .inr ⟨unlearned, by rw [value, learned]⟩

theorem handleLearn_votes {self after : Learner C} {learnMessage : Learn C}
    {response : Option (MessageKind C)}
    (handled : self.handleLearn learnMessage = .ok (response, after)) {cmd : C}
    (counted : after.votes cmd ≠ 0) : self.votes cmd ≠ 0 ∨ learnMessage.command = cmd := by
  have changed (votes : (self.changeBallot learnMessage.ballot).votes cmd ≠ 0) :
      self.votes cmd ≠ 0 := by
    unfold changeBallot at votes
    split at votes
    · exact absurd rfl votes
    · exact votes
  obtain ⟨-, -, rfl⟩ | ⟨-, -, rfl⟩ | ⟨-, count, -, whole⟩ := handleLearn_cases handled
  · exact .inl counted
  · exact .inl (changed counted)
  · have votes := congrArg (fun pair => pair.2.votes cmd) whole
    unfold countVote at votes
    split at votes
    · exact absurd votes counted
    · by_cases same : cmd = learnMessage.command
      · exact .inr same.symm
      · dsimp only at votes
        rw [Function.update_of_ne same] at votes
        exact .inl (changed (votes ▸ counted))

end Learner

end Smr
