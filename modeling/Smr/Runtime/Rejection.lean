import Smr.Runtime.Recovery

set_option autoImplicit false

namespace Smr

variable {S C : Type} [StateMachine S C]

namespace Runtime

def Rests (commands : Nat → C) (s : SmrRuntime S C) : Action C → Prop
  | .crash => s.point.between = true
  | a => Commits commands s a

instance [DecidableEq C] (commands : Nat → C) (s : SmrRuntime S C) :
    (a : Action C) → Decidable (Rests commands s a)
  | .crash => inferInstanceAs (Decidable (s.point.between = true))
  | .deliver message => inferInstanceAs (Decidable (Commits commands s (.deliver message)))
  | .propose command => inferInstanceAs (Decidable (Commits commands s (.propose command)))
  | .advance => inferInstanceAs (Decidable (Commits commands s .advance))

theorem Rests.commits {commands : Nat → C} {s : SmrRuntime S C} {a : Action C}
    (rests : Rests commands s a) : Commits commands s a := by
  cases a with
  | crash => trivial
  | _ => exact rests

section Rejecting

variable [DecidableEq C] [Serde Nat] [Serde C] [Serde (AcceptedValue C)]

-- The log is as long as the loop has come, and so is the machine; meta/last_applied
-- keeps up as long as no command is rejected.
structure Faithful (initial : S) (commands : Nat → C) (s : SmrRuntime S C) : Prop where
  level : ∀ log ∈ s.commandLog, log.Logs commands (s.lastAppliedCommandId + s.point.appends)
  exactly : s.Exact initial commands
  marked : Accepts initial commands (s.lastAppliedCommandId + s.point.applies) → Marked s

omit [DecidableEq C] in
theorem level_advance {config : SmrConfig} {commands : Nat → C} {s t : SmrRuntime S C}
    (ledger : Ledger config commands s)
    (level : ∀ log ∈ s.commandLog, log.Logs commands (s.lastAppliedCommandId + s.point.appends))
    (advances : s.Advances t) :
    ∀ log ∈ t.commandLog, log.Logs commands (t.lastAppliedCommandId + t.point.appends) := by
  obtain ⟨-, -, holds, log, -, stored, reliable, -⟩ := ledger
  have here := level log stored
  cases advances with
  | @fetch _ _ _ stands | @drain _ stands | @apply _ _ _ _ stands | @reject _ _ _ _ stands
  | @send _ _ stands =>
    rw [stands] at level
    exact level
  | @append command sender stands =>
    obtain rfl : command = commands s.lastAppliedCommandId :=
      holds command (by simp [stands, Point.holds])
    obtain ⟨done, -⟩ := CommandLog.append_done reliable s.lastAppliedCommandId
      (commands s.lastAppliedCommandId)
    simp only [stands, Point.appends, Nat.add_zero] at here
    have longer := (here.append (Nat.le_refl _) done).1
    rw [Nat.max_eq_right (Nat.le_succ _)] at longer
    intro log' stored'
    simp only [stored, Option.map_some, Option.mem_some] at stored'
    exact stored' ▸ longer
  | @mark output sender stands bounded =>
    obtain ⟨done, -⟩ := CommandLog.setLastApplied_done reliable (s.lastAppliedCommandId + 1)
    simp only [stands, Point.appends] at here
    intro log' stored'
    simp only [stored, Option.map_some, Option.mem_some] at stored'
    exact stored' ▸ (here.setLastApplied done).1
  | @count stands bounded =>
    rw [stands] at level
    exact level

omit [DecidableEq C] in
theorem Faithful.advance {config : SmrConfig} {initial : S} {commands : Nat → C}
    {s t : SmrRuntime S C} (faithful : Faithful initial commands s)
    (ledger : Ledger config commands s) (advances : s.Advances t) :
    Faithful initial commands t := by
  refine ⟨level_advance ledger faithful.level advances,
    exact_advance ledger faithful.exactly advances, fun accepts => ?_⟩
  have further : s.lastAppliedCommandId + s.point.applies ≤
      t.lastAppliedCommandId + t.point.applies := by
    cases advances with
    | @fetch _ _ _ stands | @drain _ stands | @append _ _ stands | @apply _ _ _ _ stands
    | @reject _ _ _ _ stands | @mark _ _ stands | @send _ _ stands | @count stands =>
      rw [stands]
      dsimp only [Point.applies]
      omega
  have marked := faithful.marked fun k below => accepts k (Nat.lt_of_lt_of_le below further)
  refine marked.advance ledger (fun command sender stands => ?_) advances
  have same : command = commands s.lastAppliedCommandId :=
    ledger.holds command (by simp [stands, Point.holds])
  have exactly := faithful.exactly
  unfold SmrRuntime.Exact at exactly
  rw [stands] at exactly
  rw [exactly, same]
  refine accepts s.lastAppliedCommandId ?_
  cases advances with
  | @apply _ _ _ _ other | @reject _ _ _ _ other =>
    dsimp only [Point.applies]
    omega
  | @fetch _ _ _ other | @drain _ other | @append _ _ other | @mark _ _ other | @send _ _ other
  | @count other => simp [stands] at other

omit [DecidableEq C] [Serde (AcceptedValue C)] in
theorem Faithful.same {initial : S} {commands : Nat → C} {s t : SmrRuntime S C}
    (faithful : Faithful initial commands s) (machine : t.stateMachine = s.stateMachine)
    (log : t.commandLog = s.commandLog)
    (counter : t.lastAppliedCommandId = s.lastAppliedCommandId)
    (appends : t.point.appends = s.point.appends) (applies : t.point.applies = s.point.applies)
    (marks : t.point.marks = s.point.marks) : Faithful initial commands t where
  level := by
    rw [log, counter, appends]
    exact faithful.level
  exactly := by
    unfold SmrRuntime.Exact
    rw [machine, counter, applies]
    exact faithful.exactly
  marked accepts := by
    rw [counter, applies] at accepts
    exact (faithful.marked accepts).same log counter marks

omit [DecidableEq C] in
theorem recover_rejected {config : SmrConfig} {initial : S} {commands : Nat → C}
    {s t : SmrRuntime S C} (ledger : Ledger config commands s)
    (faithful : Faithful initial commands s)
    (rejects : ¬Accepts initial commands (s.lastAppliedCommandId + s.point.appends)) :
    s.recover config initial ≠ .ok t := by
  intro recovers
  obtain ⟨restorable, bounded, -, log, -, stored, -⟩ := ledger
  obtain ⟨store, kept⟩ := Option.isSome_iff_exists.mp restorable.stored
  have fits : s.lastAppliedCommandId + s.point.appends ≤ u64Max + 1 := by
    cases s.point <;> dsimp only [Point.appends] <;> omega
  have entries := (faithful.level log stored).replay fits
  obtain ⟨fault, stopped⟩ := applyEntries_rejected rejects
  unfold SmrRuntime.recover SmrRuntime.withStorage at recovers
  simp only [kept, stored, entries] at recovers
  obtain ⟨listed, same, recovers⟩ := bind_ok.mp recovers
  obtain rfl := Except.ok.inj same
  obtain ⟨last, -, recovers⟩ := bind_ok.mp recovers
  obtain ⟨machine, applied, -⟩ := bind_ok.mp recovers
  rw [numbered] at stopped
  rw [stopped] at applied
  simp at applied

omit [DecidableEq C] in
theorem recover_faithful {config : SmrConfig} {initial : S} {commands : Nat → C}
    {s : SmrRuntime S C} (ledger : Ledger config commands s)
    (faithful : Faithful initial commands s) (between : s.point.between = true)
    (accepts : Accepts initial commands s.lastAppliedCommandId) :
    ∃ t, s.recover config initial = .ok t ∧ t.stateMachine = s.stateMachine ∧
      t.lastAppliedCommandId = s.lastAppliedCommandId ∧ Faithful initial commands t := by
  obtain ⟨appends, applies, marks⟩ := Point.between_still between
  have marked : Marked s := faithful.marked (by rw [applies]; exact accepts)
  have exactly := faithful.exactly
  unfold SmrRuntime.Exact at exactly
  rw [applies, Nat.add_zero] at exactly
  obtain ⟨node, store, log, kept, stored, built, again, count, logs, low, high, whole⟩ :=
    recover_eq initial ledger marked
  have level := faithful.level log stored
  rw [appends, Nat.add_zero] at level
  obtain rfl : count = s.lastAppliedCommandId := by
    have same := (logs.present s.lastAppliedCommandId).symm.trans (level.present _)
    omega
  rw [applyEntries_accepted accepts, marks] at whole
  refine ⟨_, whole, exactly.symm, rfl, ⟨fun log' same => ?_, rfl, fun _ => ?_⟩⟩
  · obtain rfl := Option.mem_some.mp same
    exact level
  · exact (recover_kept ledger marked whole).2

theorem faithful_step {config : SmrConfig} {initial : S} {commands : Nat → C}
    {s t : SmrRuntime S C} {a : Action C} (ledger : Ledger config commands s)
    (faithful : Faithful initial commands s) (rests : Rests commands s a)
    (next : step config initial s a = some t) :
    Ledger config commands t ∧ Faithful initial commands t := by
  have crashes (crashed : a = .crash) :
      Ledger config commands t ∧ Faithful initial commands t := by
    subst crashed
    have recovers := toOption_some.mp next
    have between : s.point.between = true := rests
    obtain ⟨appends, applies, -⟩ := Point.between_still between
    by_cases accepts : Accepts initial commands s.lastAppliedCommandId
    · obtain ⟨t', whole, -, -, faithful'⟩ := recover_faithful ledger faithful between accepts
      obtain rfl := Except.ok.inj (whole.symm.trans recovers)
      have marked := faithful.marked (by rw [applies]; exact accepts)
      exact ⟨(recover_kept ledger marked whole).1, faithful'⟩
    · refine absurd recovers (recover_rejected ledger faithful ?_)
      rw [appends]
      exact accepts
  refine ⟨ledger.step rests.commits (fun crashed => (crashes crashed).1) next, ?_⟩
  cases a with
  | deliver message =>
    simp only [step] at next
    split at next
    next msgs stands done =>
      obtain rfl := Option.some.inj next
      exact faithful.same rfl rfl rfl (by simp [stands, Point.appends])
        (by simp [stands, Point.applies]) (by simp [stands, Point.marks])
    next => simp at next
  | propose command =>
    simp only [step] at next
    split at next
    next result stands done =>
      obtain rfl := Option.some.inj next
      exact faithful.same rfl rfl rfl rfl rfl rfl
    next => simp at next
  | advance => exact faithful.advance ledger (SmrRuntime.advance_some next)
  | crash => exact (crashes rfl).2

theorem faithful_reachable {config : SmrConfig} {initial : S} {commands : Nat → C}
    {s : SmrRuntime S C}
    (reachable : (loggedSystem config initial).Reachable (Rests commands) s) :
    Ledger config commands s ∧ Faithful initial commands s := by
  refine reachable.invariant (fun s => Ledger config commands s ∧ Faithful initial commands s)
    (fun s starts => ?_) fun s a t _ kept rests next => faithful_step kept.1 kept.2 rests next
  obtain ⟨store, log, blank, reliable, built⟩ := starts
  obtain ⟨ledger, marked⟩ := booted commands blank reliable built
  refine ⟨ledger, ?_⟩
  obtain ⟨node, started, rfl⟩ := withStorage_blank blank built
  refine ⟨fun log' same => ?_, rfl, fun _ => marked⟩
  obtain rfl := Option.mem_some.mp same
  exact .empty blank.entries

-- An entry is ahead of meta/last_applied from append to set_last_applied.
theorem entry_ahead {config : SmrConfig} {initial : S} {commands : Nat → C}
    (takes : ∀ (machine : S) (command : C), ∃ output,
      (StateMachine.apply machine command).1 = .ok output) {s : SmrRuntime S C}
    (reachable : (loggedSystem config initial).Reachable (Rests commands) s) :
    ∀ log ∈ s.commandLog, ∃ n, log.lastApplied = .ok n ∧
      ((log.storage.map.get (logKey n)).isSome ↔ s.point.marks < s.point.appends) := by
  obtain ⟨-, faithful⟩ := faithful_reachable reachable
  intro log stored
  refine ⟨_, (faithful.marked fun _ _ => takes _ _).mark log stored, ?_⟩
  rw [(faithful.level log stored).present _]
  omega

theorem recovers_unrejected {config : SmrConfig} {initial : S} {commands : Nat → C}
    {s : SmrRuntime S C}
    (reachable : (loggedSystem config initial).Reachable (Rests commands) s)
    (between : s.point.between = true) :
    (∃ t, s.recover config initial = .ok t ∧ t.stateMachine = s.stateMachine ∧
        t.lastAppliedCommandId = s.lastAppliedCommandId) ↔
      Accepts initial commands s.lastAppliedCommandId := by
  obtain ⟨ledger, faithful⟩ := faithful_reachable reachable
  constructor
  · rintro ⟨t, recovers, -⟩
    by_contra rejects
    refine recover_rejected ledger faithful ?_ recovers
    rw [(Point.between_still between).1]
    exact rejects
  · intro accepts
    obtain ⟨t, recovers, machine, last, -⟩ := recover_faithful ledger faithful between accepts
    exact ⟨t, recovers, machine, last⟩

end Rejecting

structure Purse where
  balance : Nat
  deriving DecidableEq

instance : StateMachine Purse Nat where
  Output := Nat
  apply purse amount :=
    if amount ≤ purse.balance then
      (.ok (purse.balance - amount), { balance := purse.balance - amount })
    else (.error .failed, purse)

def amounts (instanceId : Nat) : Nat :=
  if instanceId = 0 then 2 else 9

def paidRun : List (Action Nat) :=
  [.deliver (told 0 2), .advance, .advance, .advance, .advance, .advance, .advance, .advance]

def paid : SmrRuntime Purse Nat :=
  Run.System.final (step three ⟨5⟩) (Rests amounts) (boot three ⟨5⟩) paidRun

theorem recovers_unrejected_paid :
    ∃ t, paid.recover three ⟨5⟩ = .ok t ∧ t.stateMachine = paid.stateMachine ∧
      t.lastAppliedCommandId = paid.lastAppliedCommandId := by
  have reachable : (loggedSystem three (⟨5⟩ : Purse)).Reachable (Rests amounts) paid :=
    Run.System.final_reachable (fun _ _ _ next => next) (.init (boot_init three _))
      (by decide +kernel)
  refine (recovers_unrejected reachable (by decide +kernel)).mpr fun k below => ?_
  have once : paid.lastAppliedCommandId = 1 := by decide +kernel
  obtain rfl : k = 0 := by omega
  exact ⟨(3 : Nat), rfl⟩

def refusedRun : List (Action Nat) :=
  paidRun ++ [.deliver (told 1 9), .advance, .advance, .advance, .advance, .advance]

def refused : SmrRuntime Purse Nat :=
  Run.System.final (step three ⟨5⟩) (Rests amounts) (boot three ⟨5⟩) refusedRun

theorem refused_lost :
    ¬ ∀ (config : SmrConfig) (initial : Purse) (commands : Nat → Nat) (s : SmrRuntime Purse Nat),
      (loggedSystem config initial).Reachable (Rests commands) s → s.point.between = true →
      ∃ t, s.recover config initial = .ok t ∧ t.stateMachine = s.stateMachine ∧
        t.lastAppliedCommandId = s.lastAppliedCommandId := by
  intro recovers
  have reachable : (loggedSystem three (⟨5⟩ : Purse)).Reachable (Rests amounts) refused :=
    Run.System.final_reachable (fun _ _ _ next => next) (.init (boot_init three _))
      (by decide +kernel)
  obtain ⟨t, whole, -⟩ := recovers three ⟨5⟩ amounts refused reachable (by decide +kernel)
  have failed : (refused.recover three ⟨5⟩).toOption.isNone = true := by decide +kernel
  rw [whole] at failed
  simp [Except.toOption] at failed

end Runtime

end Smr
