import Smr.Runtime.InOrder

set_option autoImplicit false

namespace Smr

variable {S C : Type} [StateMachine S C]

def outputAt (initial : S) (commands : List C) (place : Nat) : Option (StateMachine.Output S) :=
  commands[place]?.bind fun command =>
    (StateMachine.apply (applied initial (commands.take place)) command).1.toOption

theorem outputAt_prefix {initial : S} {commands longer : List C} {place : Nat}
    {output : StateMachine.Output S} (before : commands <+: longer)
    (found : outputAt initial commands place = some output) :
    outputAt initial longer place = some output := by
  obtain ⟨rest, rfl⟩ := before
  obtain ⟨command, here, answered⟩ := Option.bind_eq_some_iff.mp found
  have inside := (List.getElem?_eq_some_iff.mp here).1
  unfold outputAt
  rw [List.getElem?_append_left inside, here, List.take_append_of_le_length (by omega)]
  exact answered

theorem outputAt_concat (initial : S) (commands : List C) (command : C) :
    outputAt initial (commands ++ [command]) commands.length =
      (StateMachine.apply (applied initial commands) command).1.toOption := by
  simp [outputAt]

namespace Point

def sender {Output : Type} : Point C Output → Option (Oneshot C)
  | .committed _ sender | .appended _ sender | .applied _ sender | .marked _ sender => sender
  | _ => none

def output {Output : Type} : Point C Output → Option Output
  | .applied output _ | .marked output _ => some output
  | _ => none

end Point

namespace Runtime

-- The machine is what the commands passed on make of the initial one, and what a sender is sent
-- is the output at a place it was registered for.
structure Serves (initial : S) (registered : Nat → Oneshot C → Prop) (s : SmrRuntime S C) :
    Prop where
  machine : s.stateMachine = applied initial s.passed
  length : s.passed.length = s.lastAppliedCommandId + s.point.applies
  waiting : ∀ sender ∈ s.point.sender, registered s.lastAppliedCommandId sender
  output : ∀ output ∈ s.point.output,
    outputAt initial s.passed s.lastAppliedCommandId = some output
  answers : ∀ answer ∈ s.answers, ∃ place, registered place answer.1 ∧
    outputAt initial s.passed place = some answer.2

variable {initial : S} {registered later : Nat → Oneshot C → Prop} {s t : SmrRuntime S C}

theorem Serves.mono (serves : Serves initial registered s)
    (grows : ∀ place sender, registered place sender → later place sender) :
    Serves initial later s where
  machine := serves.machine
  length := serves.length
  waiting sender waits := grows _ _ (serves.waiting sender waits)
  output := serves.output
  answers answer sent := by
    obtain ⟨place, known, found⟩ := serves.answers answer sent
    exact ⟨place, grows _ _ known, found⟩

theorem Serves.still (serves : Serves initial registered s) (rests : s.point.between = true)
    (rests' : t.point.between = true) (machine : t.stateMachine = s.stateMachine)
    (passed : t.passed = s.passed) (count : t.lastAppliedCommandId = s.lastAppliedCommandId)
    (answers : t.answers = s.answers) : Serves initial registered t := by
  obtain ⟨-, applies, -⟩ := Point.between_still rests
  obtain ⟨-, applies', -⟩ := Point.between_still rests'
  refine ⟨by rw [machine, passed, serves.machine], ?_, ?_, ?_, ?_⟩
  · rw [passed, serves.length, count, applies, applies']
  · cases stands : t.point <;> simp [stands, Point.between, Point.sender] at rests' ⊢
  · cases stands : t.point <;> simp [stands, Point.between, Point.output] at rests' ⊢
  · rw [answers, passed]
    exact serves.answers

theorem Serves.advance [Serde Nat] [Serde C] (serves : Serves initial registered s)
    (advances : s.Advances t)
    (registers : ∀ sender, s.algorithm.pendingSenders s.lastAppliedCommandId = some sender →
      registered s.lastAppliedCommandId sender) : Serves initial registered t := by
  obtain ⟨machine, length, waiting, output, answers⟩ := serves
  have grown {command : C} {answer : Oneshot C × StateMachine.Output S} (sent : answer ∈ s.answers) :
      ∃ place, registered place answer.1 ∧
        outputAt initial (s.passed ++ [command]) place = some answer.2 := by
    obtain ⟨place, known, found⟩ := answers answer sent
    exact ⟨place, known, outputAt_prefix (List.prefix_append _ _) found⟩
  cases advances with
  | @fetch command sender algorithm stands found =>
    rw [stands] at length
    refine ⟨machine, length, fun waits same => registers waits ?_, by simp [Point.output], answers⟩
    replace same : sender = some waits := same
    unfold MultiPaxosNode.getCommitId at found
    split at found
    next => simp at found
    next => exact (congrArg Prod.snd (Option.some.inj (congrArg Prod.fst found))).trans same
  | drain stands missing =>
    rw [stands] at length
    exact ⟨machine, length, by simp [Point.sender], by simp [Point.output], answers⟩
  | @append command sender stands =>
    rw [stands] at length waiting
    exact ⟨machine, length, waiting, by simp [Point.output], answers⟩
  | @apply command sender out stateMachine stands done =>
    rw [stands] at length waiting
    have whole : s.passed.length = s.lastAppliedCommandId := length
    refine ⟨?_, ?_, waiting, fun same given => ?_, fun answer sent => grown sent⟩
    · show stateMachine = _
      rw [applied_concat, ← machine, done]
    · simp [whole, Point.applies]
    · obtain rfl := Option.some.inj given
      rw [← whole]
      dsimp only
      rw [outputAt_concat, ← machine, done]
      rfl
  | @reject command sender fault stateMachine stands failed =>
    rw [stands] at length
    have whole : s.passed.length = s.lastAppliedCommandId := length
    refine ⟨?_, ?_, by simp [Point.sender], by simp [Point.output], fun answer sent => grown sent⟩
    · show stateMachine = _
      rw [applied_concat, ← machine, failed]
    · simp [whole, Point.applies]
  | mark stands bounded =>
    rw [stands] at length waiting output
    exact ⟨machine, length, waiting, output, answers⟩
  | @send out sender stands =>
    rw [stands] at length waiting output
    refine ⟨machine, length, by simp [Point.sender], by simp [Point.output], ?_⟩
    intro answer sent
    rcases List.mem_append.mp sent with old | new
    · exact answers answer old
    · obtain ⟨channel, told, rfl⟩ := List.mem_map.mp new
      exact ⟨s.lastAppliedCommandId, waiting channel (Option.mem_toList.mp told), output out rfl⟩
  | count stands bounded =>
    rw [stands] at length
    exact ⟨machine, length, by simp [Point.sender], by simp [Point.output], answers⟩

end Runtime

end Smr
