import Smr.Shared.Machine
import Smr.Synod.Learner

set_option autoImplicit false

namespace Smr

namespace Learner

variable {C : Type}

abbrev Past (C : Type) : Type :=
  List (Machine.Call (Learner C) (Learn C) (Option (MessageKind C)))

def heardBy (past : Past C) : List (Learn C) :=
  past.map (·.input)

def Outdated (earlier : Past C) (m : Learn C) : Prop :=
  ∃ newer ∈ heardBy earlier, m.ballot < newer.ballot

def Repeated (earlier : Past C) (m : Learn C) : Prop :=
  ∃ first ∈ heardBy earlier, first.sender = m.sender ∧ first.ballot = m.ballot

-- Until a value is learned the ballot is the highest heard, and whoever spoke in it a voter.
structure Listening (past : Past C) (learner : Learner C) : Prop where
  highest : ∀ m ∈ heardBy past, m.ballot ≤ learner.ballot
  reached : learner.ballot = 0 ∨ ∃ m ∈ heardBy past, m.ballot = learner.ballot
  voters : ∀ m ∈ heardBy past, m.ballot = learner.ballot → m.sender ∈ learner.voters

theorem heardBy_call (past : Past C)
    (call : Machine.Call (Learner C) (Learn C) (Option (MessageKind C))) :
    heardBy (past ++ [call]) = heardBy past ++ [call.input] := by
  simp [heardBy]

variable [DecidableEq C]

def tally (self : Learner C) (m : Learn C) : Option (MessageKind C) × Learner C :=
  (self.changeBallot m.ballot).countVote m ((self.changeBallot m.ballot).votes m.command + 1)

inductive Step (self : Learner C) (m : Learn C) : Option (MessageKind C) → Learner C → Prop where
  | learned (done : self.value ≠ none) : Step self m none self
  | repeated (unlearned : self.value = none)
      (current : m.ballot = (self.changeBallot m.ballot).ballot)
      (voted : m.sender ∈ (self.changeBallot m.ballot).voters) :
      Step self m none (self.changeBallot m.ballot)
  | counted (unlearned : self.value = none)
      (first : m.ballot = (self.changeBallot m.ballot).ballot →
        m.sender ∉ (self.changeBallot m.ballot).voters) :
      Step self m (self.tally m).1 (self.tally m).2

theorem handleLearn_step {self after : Learner C} {m : Learn C} {response : Option (MessageKind C)}
    (handled : self.handleLearn m = .ok (response, after)) : self.Step m response after := by
  unfold handleLearn at handled
  by_cases learned : self.isValueLearned
  · simp only [learned, if_true, Except.ok.injEq, Prod.mk.injEq] at handled
    obtain ⟨rfl, rfl⟩ := handled
    exact .learned (by simpa [isValueLearned, Option.isSome_iff_ne_none] using learned)
  · have unlearned : self.value = none := by simpa [isValueLearned] using learned
    rw [if_neg learned] at handled
    dsimp only at handled
    split at handled
    next voted =>
      simp only [Except.ok.injEq, Prod.mk.injEq] at handled
      obtain ⟨rfl, rfl⟩ := handled
      exact .repeated unlearned voted.1 voted.2
    next first =>
      obtain ⟨count, counted, handled⟩ := bind_ok.mp handled
      rw [u32Add_ok] at counted
      simp only [pure, Except.pure, Except.ok.injEq] at handled
      have whole : self.tally m = (response, after) := by rw [tally, ← handled, counted.2]
      have step := Step.counted (m := m) unlearned (not_and.mp first)
      rwa [whole] at step

def Run (start : Learner C) (past : Past C) (self : Learner C) : Prop :=
  Machine.Run (fun s input output t => s.handleLearn input = .ok (output, t)) start past self

def sendersOf (ballot : Nat) (command : C) (past : Past C) : Finset Nat :=
  (((heardBy past).filter fun m => m.ballot = ballot ∧ m.command = command).map
    Learn.sender).toFinset

theorem mem_sendersOf {ballot sender : Nat} {command : C} {past : Past C} :
    sender ∈ sendersOf ballot command past ↔
      ∃ m ∈ heardBy past, m.ballot = ballot ∧ m.command = command ∧ m.sender = sender := by
  simp [sendersOf, and_assoc]

theorem sendersOf_grows (ballot : Nat) (command : C) (past later : Past C) :
    sendersOf ballot command past ⊆ sendersOf ballot command (past ++ later) := by
  intro sender voted
  obtain ⟨m, heard, which⟩ := mem_sendersOf.mp voted
  exact mem_sendersOf.mpr ⟨m, by simp [heardBy] at heard ⊢; exact .inl heard, which⟩

def Counted (past : Past C) (self : Learner C) : Prop :=
  ∀ command, self.votes command ≤ (sendersOf self.ballot command past).card

section Steps

variable {past : Past C} {self after : Learner C}
  {call : Machine.Call (Learner C) (Learn C) (Option (MessageKind C))}

omit [DecidableEq C] in
theorem changeBallot_ballot (ballot : Nat) :
    (self.changeBallot ballot).ballot = max self.ballot ballot := by
  unfold changeBallot
  split <;> simp <;> omega

omit [DecidableEq C] in
theorem changeBallot_same {ballot : Nat} (below : ballot ≤ self.ballot) :
    self.changeBallot ballot = self :=
  if_neg (by omega)

omit [DecidableEq C] in
theorem Listening.voted (listening : Listening past self) {m : Learn C}
    (repeats : Repeated past m) (current : m.ballot = self.ballot) : m.sender ∈ self.voters := by
  obtain ⟨first, heard, sender, ballot⟩ := repeats
  exact sender ▸ listening.voters first heard (ballot.trans current)

omit [DecidableEq C] in
theorem Listening.outdated (listening : Listening past self) {m : Learn C} :
    Outdated past m ↔ m.ballot < self.ballot := by
  constructor
  · rintro ⟨newer, heard, lower⟩
    exact Nat.lt_of_lt_of_le lower (listening.highest newer heard)
  · intro lower
    rcases listening.reached with zero | ⟨newer, heard, same⟩
    · omega
    · exact ⟨newer, heard, same ▸ lower⟩

theorem Counted.changeBallot (counted : Counted past self) (ballot : Nat) :
    Counted past (self.changeBallot ballot) := by
  intro command
  unfold Learner.changeBallot
  split
  · exact Nat.zero_le _
  · exact counted command

omit [DecidableEq C] in
theorem Listening.hears (listening : Listening past self)
    (ballot : after.ballot = max self.ballot call.input.ballot)
    (voter : call.input.ballot = after.ballot → call.input.sender ∈ after.voters)
    (keeps : after.ballot = self.ballot → self.voters ⊆ after.voters) :
    Listening (past ++ [call]) after := by
  constructor
  · intro m heard
    rw [heardBy_call] at heard
    rcases List.mem_append.mp heard with older | new
    · have below := listening.highest m older
      omega
    · rw [List.mem_singleton.mp new]
      omega
  · rw [heardBy_call]
    rcases listening.reached with zero | ⟨m, heard, same⟩
    · exact .inr ⟨call.input, by simp, by omega⟩
    · rcases Nat.le_total call.input.ballot self.ballot with below | above
      · exact .inr ⟨m, List.mem_append_left _ heard, by omega⟩
      · exact .inr ⟨call.input, by simp, by omega⟩
  · intro m heard current
    rw [heardBy_call] at heard
    rcases List.mem_append.mp heard with older | new
    · have below := listening.highest m older
      have same : after.ballot = self.ballot := by omega
      exact keeps same (listening.voters m older (current.trans same))
    · rw [List.mem_singleton.mp new] at current ⊢
      exact voter current

theorem countVote_unlearned {m : Learn C} {count : Nat}
    (still : (self.countVote m count).2.value = none) :
    (self.countVote m count).2 =
      { self with
        voters := insert m.sender self.voters
        votes := Function.update self.votes m.command count } := by
  unfold countVote at still ⊢
  split at still
  · simp at still
  next below => rw [if_neg below]

omit [DecidableEq C] in
theorem changeBallot_voters {ballot : Nat} (same : (self.changeBallot ballot).ballot = self.ballot) :
    (self.changeBallot ballot).voters = self.voters := by
  rw [changeBallot_same]
  rw [changeBallot_ballot] at same
  omega

theorem Listening.step (listening : Listening past self) (response : Option (MessageKind C))
    (step : self.Step call.input response after) (unlearned : after.value = none) :
    Listening (past ++ [call]) after := by
  cases step with
  | learned done => exact absurd unlearned done
  | repeated before current voted =>
    exact listening.hears (changeBallot_ballot _) (fun _ => voted)
      fun same => (changeBallot_voters same).symm.subset
  | counted before first =>
    have counted := countVote_unlearned unlearned
    rw [tally, counted]
    refine listening.hears (changeBallot_ballot _) (fun _ => Finset.mem_insert_self _ _) ?_
    intro same
    exact (changeBallot_voters same).symm.subset.trans (Finset.subset_insert _ _)

theorem tally_ne {m : Learn C} (below : m.ballot ≤ self.ballot) (unlearned : self.value = none) :
    (self.tally m).2 ≠ self := by
  unfold tally countVote
  rw [changeBallot_same below]
  intro same
  split at same
  · have value := congrArg Learner.value same
    simp [unlearned] at value
  · have votes := congrFun (congrArg Learner.votes same) m.command
    simp at votes

theorem Step.same {m : Learn C} {response : Option (MessageKind C)}
    (step : self.Step m response after) (learned : self.value ≠ none) : after = self := by
  cases step with
  | learned done => rfl
  | repeated unlearned | counted unlearned => exact absurd unlearned learned

theorem Step.same_iff {m : Learn C} {response : Option (MessageKind C)}
    (step : self.Step m response after) (unlearned : self.value = none)
    (below : m.ballot ≤ self.ballot) :
    after = self ↔ m.ballot = self.ballot ∧ m.sender ∈ self.voters := by
  have stays := changeBallot_same below
  cases step with
  | learned done => exact absurd unlearned done
  | repeated before current voted =>
    rw [stays] at current voted ⊢
    exact ⟨fun _ => ⟨current, voted⟩, fun _ => rfl⟩
  | counted before first =>
    rw [stays] at first
    exact ⟨fun same => absurd same (tally_ne below unlearned),
      fun ⟨current, voted⟩ => absurd voted (first current)⟩

omit [DecidableEq C] in
theorem Listening.spoken (listening : Listening past self) {m : Learn C} (heard : m ∈ heardBy past)
    {ballot : Nat} (current : m.ballot = (self.changeBallot ballot).ballot) :
    m.sender ∈ (self.changeBallot ballot).voters := by
  have below := listening.highest m heard
  have same : (self.changeBallot ballot).ballot = self.ballot := by
    rw [changeBallot_ballot] at current ⊢
    omega
  rw [changeBallot_voters same]
  exact listening.voters m heard (current.trans same)

theorem Counted.tally (counted : Counted past self) (listening : Listening past self)
    (current : call.input.ballot = (self.changeBallot call.input.ballot).ballot)
    (first : call.input.sender ∉ (self.changeBallot call.input.ballot).voters) :
    (self.changeBallot call.input.ballot).votes call.input.command + 1 ≤
      (sendersOf (self.changeBallot call.input.ballot).ballot call.input.command
        (past ++ [call])).card := by
  have silent : call.input.sender ∉ sendersOf (self.changeBallot call.input.ballot).ballot
      call.input.command past := by
    intro voted
    obtain ⟨m, heard, ballot, -, sender⟩ := mem_sendersOf.mp voted
    exact first (sender ▸ listening.spoken heard ballot)
  have votes := counted.changeBallot call.input.ballot call.input.command
  refine Nat.le_trans (Nat.add_le_add_right votes 1) ?_
  rw [← Finset.card_insert_of_notMem silent]
  refine Finset.card_le_card (Finset.insert_subset ?_ (sendersOf_grows _ _ _ _))
  exact mem_sendersOf.mpr ⟨call.input, by simp [heardBy], current, rfl, rfl⟩

theorem Counted.step {response : Option (MessageKind C)} (counted : Counted past self)
    (listening : Listening past self) (step : self.Step call.input response after)
    (current : ¬Outdated past call.input) :
    (after.value = none → Counted (past ++ [call]) after) ∧
      (self.value = none → ∀ command, after.value = some command →
        ∃ ballot, after.quorumSize ≤ (sendersOf ballot command (past ++ [call])).card) := by
  have changed := counted.changeBallot call.input.ballot
  have grows (ballot : Nat) (command : C) := Finset.card_le_card
    (sendersOf_grows ballot command past [call])
  have ballot : call.input.ballot = (self.changeBallot call.input.ballot).ballot := by
    rw [listening.outdated] at current
    rw [changeBallot_ballot]
    omega
  cases step with
  | learned done => exact ⟨fun none => absurd none done, fun none => absurd none done⟩
  | repeated before same voted =>
    have value := changeBallot_value call.input.ballot before
    exact ⟨fun _ command => Nat.le_trans (changed command) (grows _ command),
      fun _ command learned => by simp [value] at learned⟩
  | counted before first =>
    have value := changeBallot_value call.input.ballot before
    have tallied := counted.tally listening ballot (first ballot)
    unfold Learner.tally countVote
    split
    next reached =>
      refine ⟨by simp, fun _ command learned => ?_⟩
      obtain rfl : call.input.command = command := by simpa using learned
      exact ⟨_, Nat.le_trans reached tallied⟩
    next below =>
      refine ⟨fun _ command => ?_, fun _ command learned => by simp [value] at learned⟩
      by_cases same : command = call.input.command
      · subst same
        simpa using tallied
      · simpa [Function.update_of_ne same] using Nat.le_trans (changed command) (grows _ command)

end Steps

structure Sound (past : Past C) (learner : Learner C) : Prop where
  counted : learner.value = none → Counted past learner
  learned : ∀ command, learner.value = some command →
    ∃ ballot, learner.quorumSize ≤ (sendersOf ballot command past).card

section Runs

variable {start self : Learner C} {past : Past C} {quorumSize : Nat}

omit [DecidableEq C] in
theorem fresh_listening : Listening [] (Learner.new quorumSize : Learner C) where
  highest := by simp [heardBy]
  reached := .inl rfl
  voters := by simp [heardBy]

theorem Run.listening (run : Run (Learner.new quorumSize) past self)
    (unlearned : self.value = none) :
    Listening past self := by
  induction run with
  | start => exact fresh_listening
  | @call past s t input output earlier now ih =>
    have step := handleLearn_step now
    rcases handleLearn_value now with same | ⟨before, -⟩
    · refine (ih (same ▸ unlearned)).step output ?_ unlearned
      exact step
    · refine (ih before).step output ?_ unlearned
      exact step

theorem Run.keeps_quorum (run : Run start past self) : self.quorumSize = start.quorumSize := by
  induction run with
  | start => rfl
  | call earlier now ih => exact (handleLearn_quorumSize now).trans ih

theorem Sound.call {call : Machine.Call (Learner C) (Learn C) (Option (MessageKind C))}
    (sound : Sound past call.before)
    (listening : call.before.value = none → Listening past call.before)
    (now : call.before.handleLearn call.input = .ok (call.output, call.after))
    (current : call.before.value = none → ¬Outdated past call.input) :
    Sound (past ++ [call]) call.after := by
  cases before : call.before.value with
  | none =>
    have steps := (sound.counted before).step (listening before) (handleLearn_step now)
      (current before)
    exact ⟨steps.1, steps.2 before⟩
  | some command =>
    rw [(handleLearn_step now).same (by simp [before])]
    refine ⟨fun unlearned => by simp [before] at unlearned, fun command learned => ?_⟩
    obtain ⟨ballot, reached⟩ := sound.learned command learned
    exact ⟨ballot, Nat.le_trans reached (Finset.card_le_card (sendersOf_grows _ _ _ _))⟩

def Current (earlier : Past C)
    (call : Machine.Call (Learner C) (Learn C) (Option (MessageKind C))) : Prop :=
  call.before.value = none → ¬Outdated earlier call.input

theorem Run.sound (run : Run (Learner.new quorumSize) past self)
    (current : Machine.Each Current past) : Sound past self := by
  induction run with
  | start => exact ⟨fun _ _ => Nat.zero_le _, by simp [Learner.new]⟩
  | @call past s t input output earlier now ih =>
    obtain ⟨before, last⟩ := Machine.each_call.mp current
    refine Sound.call (ih before) ?_ now last
    exact Run.listening earlier

theorem learning_sound (run : Run (Learner.new quorumSize) past self) :
    ((∀ command, self.value = some command →
        ∃ ballot, quorumSize ≤ (sendersOf ballot command past).card) ∧
      Machine.Each (fun earlier call =>
        Outdated earlier call.input ∨ Repeated earlier call.input → call.after = call.before)
        past) ↔
      Machine.Each Current past := by
  constructor
  · rintro ⟨-, unchanged⟩ earlier call later rfl unlearned outdated
    obtain ⟨before, now, -⟩ := Machine.Run.at_call run
    have listening := Run.listening before unlearned
    have lower := listening.outdated.mp outdated
    have same := unchanged earlier call later rfl (.inl outdated)
    have current := ((handleLearn_step now).same_iff unlearned (Nat.le_of_lt lower)).mp same
    exact absurd current.1 (Nat.ne_of_lt lower)
  · intro current
    have sound := Run.sound run current
    refine ⟨fun command learned => ?_, ?_⟩
    · have size : self.quorumSize = quorumSize := Run.keeps_quorum run
      rw [← size]
      exact sound.learned command learned
    · rintro earlier call later rfl ignorable
      obtain ⟨before, now, -⟩ := Machine.Run.at_call run
      have step := handleLearn_step now
      by_cases unlearned : call.before.value = none
      · have listening := Run.listening before unlearned
        have newest := current earlier call later rfl unlearned
        obtain ⟨first, heard, sender, ballot⟩ := ignorable.resolve_left newest
        have below : call.input.ballot ≤ call.before.ballot :=
          ballot ▸ listening.highest first heard
        have same : call.input.ballot = call.before.ballot := by
          rw [listening.outdated] at newest
          omega
        exact (step.same_iff unlearned below).mpr
          ⟨same, listening.voted ⟨first, heard, sender, ballot⟩ same⟩
      · exact step.same unlearned

def learnMsg (sender ballot command : Nat) : Learn Nat :=
  { sender := sender, ballot := ballot, command := command }

-- Ballot 3 has one vote, delivered twice, when ballot 4 overtakes it.
def overtaken : Past Nat × Learner Nat :=
  Machine.performed Learner.handleLearn (Learner.new 2)
    [learnMsg 0 3 10, learnMsg 0 3 10, learnMsg 1 4 11, learnMsg 2 4 11, learnMsg 0 3 10]

theorem learning_sound_overtaken : overtaken.2.value = some 11 ∧
    (((∀ command, overtaken.2.value = some command →
        ∃ ballot, 2 ≤ (sendersOf ballot command overtaken.1).card) ∧
      Machine.Each (fun earlier call =>
        Outdated earlier call.input ∨ Repeated earlier call.input → call.after = call.before)
        overtaken.1) ↔
      Machine.Each Current overtaken.1) :=
  ⟨by decide +kernel, learning_sound (Machine.performed_run (by decide +kernel))⟩

def mixed : Past Nat × Learner Nat :=
  Machine.performed Learner.handleLearn (Learner.new 2) [learnMsg 0 5 10, learnMsg 1 3 10]

theorem learned_from_two_ballots : Run (Learner.new 2) mixed.1 mixed.2 ∧
    mixed.2.value = some 10 ∧ ∀ ballot, (sendersOf ballot 10 mixed.1).card < 2 := by
  refine ⟨Machine.performed_run (by decide +kernel), by decide +kernel, fun ballot => ?_⟩
  have heard : heardBy mixed.1 = [learnMsg 0 5 10, learnMsg 1 3 10] := by decide +kernel
  unfold sendersOf
  rw [heard]
  by_cases five : ballot = 5
  · subst five
    decide
  · by_cases three : ballot = 3
    · subst three
      decide
    · simp [learnMsg, Ne.symm five, Ne.symm three]

end Runs

end Learner

end Smr
