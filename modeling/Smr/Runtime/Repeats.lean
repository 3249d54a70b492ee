import Smr.Runtime.Idempotent

set_option autoImplicit false

namespace Smr

variable {S C : Type} [StateMachine S C]

def repeated (commands : Nat → C) (place count : Nat) : List C :=
  (List.range (place + 1)).map commands ++ ((List.range count).map commands).drop place

omit [StateMachine S C] in
theorem repeated_self (commands : Nat → C) (place : Nat) :
    repeated commands place place = (List.range (place + 1)).map commands := by
  simp [repeated]

omit [StateMachine S C] in
theorem repeated_succ (commands : Nat → C) {place count : Nat} (within : place ≤ count) :
    repeated commands place (count + 1) = repeated commands place count ++ [commands count] := by
  have inside : place ≤ ((List.range count).map commands).length := by simpa using within
  have longer : (List.range (count + 1)).map commands =
      (List.range count).map commands ++ [commands count] := by
    rw [List.range_succ, List.map_append, List.map_singleton]
  rw [repeated, longer, List.drop_append_of_le_length inside, ← List.append_assoc]
  rfl

namespace Runtime

-- The machine has been through one command twice, and through every other one once.
def Doubled (initial : S) (commands : Nat → C) (s : SmrRuntime S C) : Prop :=
  ∃ place < s.lastAppliedCommandId + s.point.applies, s.stateMachine =
    applied initial (repeated commands place (s.lastAppliedCommandId + s.point.applies))

omit [StateMachine S C] in
theorem applies_le_appends {Output : Type} (point : Point C Output) :
    point.applies ≤ point.appends ∧ point.appends ≤ 1 := by
  cases point <;> simp [Point.applies, Point.appends]

section Loop

variable [Serde Nat] [Serde C] [Serde (AcceptedValue C)] {config : SmrConfig} {initial : S}
  {commands : Nat → C} {s t : SmrRuntime S C}

theorem Doubled.advance (doubled : Doubled initial commands s) (ledger : Ledger config commands s)
    (advances : s.Advances t) : Doubled initial commands t := by
  obtain ⟨place, below, machine⟩ := doubled
  cases advances with
  | @apply command sender _ after stands done | @reject command sender _ after stands done =>
    have same : command = commands s.lastAppliedCommandId :=
      ledger.holds command (by simp [stands, Point.holds])
    simp only [stands, Point.applies, Nat.add_zero] at below machine
    rw [machine, same] at done
    refine ⟨place, Nat.lt_succ_of_lt below, (congrArg Prod.snd done).symm.trans ?_⟩
    dsimp only [Point.applies]
    rw [repeated_succ commands (Nat.le_of_lt below), applied_concat]
  | @fetch _ _ _ stands | @drain _ stands | @append _ _ stands | @mark _ _ stands
  | @send _ _ stands | @count stands =>
    simp only [stands, Point.applies] at below machine
    exact ⟨place, below, machine⟩

theorem Caught.repeats (caught : Caught initial commands s) (ledger : Ledger config commands s)
    (takes : ∀ (machine : S) (command : C), ∃ output,
      (StateMachine.apply machine command).1 = .ok output)
    (advances : s.Advances t) : Caught initial commands t ∨ Doubled initial commands t := by
  have keeps := caught.keeps advances
  cases advances with
  | @apply command sender output after stands done =>
    have same : command = commands s.lastAppliedCommandId :=
      ledger.holds command (by simp [stands, Point.holds])
    obtain ⟨n, machine, low, high, -⟩ := caught
    rw [stands] at low
    dsimp only [Point.applies] at low
    rw [same, machine] at done
    have level : n = s.lastAppliedCommandId ∨ n = s.lastAppliedCommandId + 1 := by omega
    rcases level with rfl | rfl
    · exact .inl (.applied ledger stands (congrArg Prod.snd done).symm)
    · refine .inr ⟨s.lastAppliedCommandId, Nat.lt_succ_self _,
        (congrArg Prod.snd done).symm.trans ?_⟩
      dsimp only [Point.applies]
      rw [repeated_succ commands (Nat.le_refl _), applied_concat, repeated_self, applied_range]
  | @reject command sender fault after stands failed =>
    obtain ⟨output, taken⟩ := takes s.stateMachine command
    rw [failed] at taken
    simp at taken
  | fetch stands | drain stands | append stands | mark stands | send stands | count stands =>
    exact .inl (keeps (by simp [stands]))

end Loop

section Step

variable [DecidableEq C] [Serde Nat] [Serde C] [Serde (AcceptedValue C)] {config : SmrConfig}
  {initial : S} {commands : Nat → C} {s t : SmrRuntime S C}

theorem repeats_step {a : Action C} (takes : ∀ (machine : S) (command : C), ∃ output,
      (StateMachine.apply machine command).1 = .ok output)
    (stands : Caught initial commands s ∨ Doubled initial commands s)
    (ledger : Ledger config commands s) (marked : Marked s)
    (next : step config initial s a = some t) :
    Caught initial commands t ∨ Doubled initial commands t := by
  rcases step_still next with rfl | rfl | ⟨machine, count, log, applies⟩
  · have advances := SmrRuntime.advance_some next
    rcases stands with caught | doubled
    · exact caught.repeats ledger takes advances
    · exact .inr (doubled.advance ledger advances)
  · exact .inl (recovers_caught takes ledger marked (toOption_some.mp next))
  · unfold Caught Doubled
    rw [machine, count, log, applies]
    exact stands

theorem repeats_reachable (takes : ∀ (machine : S) (command : C), ∃ output,
      (StateMachine.apply machine command).1 = .ok output)
    (reachable : (loggedSystem config initial).Reachable (Commits commands) s) :
    Caught initial commands s ∨ Doubled initial commands s := by
  refine reachable.invariant (fun s => Caught initial commands s ∨ Doubled initial commands s)
    (fun s starts => ?_) fun s a t before stands commits next => ?_
  · obtain ⟨store, log, blank, reliable, built⟩ := starts
    obtain ⟨node, -, rfl⟩ := withStorage_blank blank built
    exact .inl ⟨0, rfl, Nat.le_refl _, Nat.zero_le _, by simp⟩
  · obtain ⟨ledger, marked⟩ := ledger_reachable takes before
    exact repeats_step takes stands ledger marked next

end Step

end Runtime

end Smr
