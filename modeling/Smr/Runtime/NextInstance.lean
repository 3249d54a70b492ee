import Smr.Runtime.Rejection

set_option autoImplicit false

namespace Smr

variable {S C : Type} [StateMachine S C]

namespace Runtime

section Numbering

variable [DecidableEq C] [Serde Nat] [Serde C] [Serde (AcceptedValue C)]

def Orderly (s : SmrRuntime S C) : Action C → Prop
  | .crash => s.point.between = true
  | _ => True

omit [DecidableEq C] [Serde Nat] [Serde C] [Serde (AcceptedValue C)] in
instance (s : SmrRuntime S C) : (a : Action C) → Decidable (Orderly s a)
  | .crash => inferInstanceAs (Decidable (s.point.between = true))
  | .deliver _ | .propose _ | .advance => .isTrue trivial

def taken (s : SmrRuntime S C) : Nat :=
  s.lastAppliedCommandId + if s.point.between then 0 else 1

def Took (config : SmrConfig) (initial : S) (commands : Nat → C) (s : SmrRuntime S C) : Prop :=
  ∀ others : Nat → C, (∀ k < taken s, others k = commands k) →
    (loggedSystem config initial).Reachable (Rests others) s

theorem Took.goes {config : SmrConfig} {initial : S} {commands : Nat → C} {s t : SmrRuntime S C}
    {a : Action C} (took : Took config initial commands s)
    (next : Runtime.step config initial s a = some t)
    (rests : ∀ others : Nat → C, (∀ k < taken t, others k = commands k) → Rests others s a)
    (grows : taken s ≤ taken t) : Took config initial commands t := fun others same =>
  .step (took others fun k below => same k (Nat.lt_of_lt_of_le below grows)) (rests others same)
    next

theorem Took.advance {config : SmrConfig} {initial : S} {commands : Nat → C}
    {s t : SmrRuntime S C} (took : Took config initial commands s)
    (next : Runtime.step config initial s .advance = some t) :
    ∃ commands, Took config initial commands t := by
  have quiet (idle : s.committing = none) (others : Nat → C) : Rests others s .advance := by
    intro command takes
    rw [idle] at takes
    simp at takes
  cases SmrRuntime.advance_some next with
  | @fetch command sender algorithm stands found =>
    refine ⟨Function.update commands s.lastAppliedCommandId command, fun others same => ?_⟩
    have here : others s.lastAppliedCommandId = command := by
      rw [same _ (by simp [taken, Point.between]), Function.update_self]
    refine .step (took others fun k below => ?_) (fun held takes => ?_) next
    · have earlier : k < s.lastAppliedCommandId := by
        simpa [taken, stands, Point.between] using below
      rw [same k (by simp [taken, Point.between]; omega),
        Function.update_of_ne (Nat.ne_of_lt earlier)]
    · simp only [SmrRuntime.committing, stands, found, Option.map_some, Option.mem_some] at takes
      rw [here, takes]
  | @drain algorithm stands missing =>
    refine ⟨commands, took.goes next (fun others _ => quiet ?_ others) ?_⟩
    · simp [SmrRuntime.committing, stands, missing]
    · simp [taken, stands, Point.between]
  | @append _ _ stands | @apply _ _ _ _ stands | @reject _ _ _ _ stands | @mark _ _ stands
  | @send _ _ stands | @count stands =>
    refine ⟨commands, took.goes next (fun others _ => quiet ?_ others) ?_⟩
    · simp [SmrRuntime.committing, stands]
    · simp [taken, stands, Point.between]

theorem rests_reachable {config : SmrConfig} {initial : S}
    (takes : ∀ (machine : S) (command : C), ∃ output,
      (StateMachine.apply machine command).1 = .ok output) [Nonempty C] {s : SmrRuntime S C}
    (reachable : (loggedSystem config initial).Reachable Orderly s) :
    ∃ commands, (loggedSystem config initial).Reachable (Rests commands) s := by
  suffices took : ∃ commands, Took config initial commands s by
    obtain ⟨commands, took⟩ := took
    exact ⟨commands, took commands fun _ _ => rfl⟩
  refine reachable.invariant (fun s => ∃ commands, Took config initial commands s)
    (fun s starts => ⟨fun _ => Classical.arbitrary C, fun _ _ => .init starts⟩) ?_
  rintro s a t - ⟨commands, took⟩ orderly (next : step config initial s a = some t)
  cases a with
  | deliver message =>
    refine ⟨commands, took.goes next (fun _ _ => trivial) ?_⟩
    simp only [step] at next
    split at next
    next msgs stands done =>
      obtain rfl := Option.some.inj next
      simp [taken, stands, Point.between]
    next => simp at next
  | propose command =>
    refine ⟨commands, took.goes next (fun _ _ => trivial) ?_⟩
    simp only [step] at next
    split at next
    next result stands done =>
      obtain rfl := Option.some.inj next
      exact Nat.le_refl _
    next => simp at next
  | advance => exact took.advance next
  | crash =>
    refine ⟨commands, took.goes next (fun _ _ => orderly) ?_⟩
    have reached : (loggedSystem config initial).Reachable (Commits commands) s :=
      (took commands fun _ _ => rfl).mono fun _ _ rests => rests.commits
    obtain ⟨ledger, marked⟩ := ledger_reachable takes reached
    obtain ⟨node, store, log, -, -, -, -, count, -, -, -, whole⟩ :=
      recover_eq initial ledger marked
    obtain ⟨machine, -, rfl⟩ := map_ok.mp (whole.symm.trans (toOption_some.mp next))
    have level : taken s = s.lastAppliedCommandId := by
      rw [taken, if_pos (show s.point.between = true from orderly), Nat.add_zero]
    rw [level]
    exact Nat.le_trans (Nat.le_add_right _ _) (Nat.le_add_right _ _)

-- The rebuilt node counts its instances from the acceptor keys alone: it is ahead of
-- the loop if and only if an acceptor was saved for the last instance applied or for
-- a later one.
theorem recovers_ahead [Nonempty C] {config : SmrConfig} {initial : S}
    (takes : ∀ (machine : S) (command : C), ∃ output,
      (StateMachine.apply machine command).1 = .ok output) {s : SmrRuntime S C}
    (reachable : (loggedSystem config initial).Reachable Orderly s)
    (between : s.point.between = true) :
    ∃ store, s.algorithm.storage = some store ∧
      ((∃ t, s.recover config initial = .ok t ∧
          t.lastAppliedCommandId ≤ t.algorithm.nextInstanceId) ↔
        s.lastAppliedCommandId = 0 ∨ ∃ instanceId, s.lastAppliedCommandId ≤ instanceId + 1 ∧
          (store.storage.map.get (ballotKey instanceId)).isSome) := by
  obtain ⟨commands, rests⟩ := rests_reachable takes reachable
  obtain ⟨ledger, marked⟩ := ledger_reachable takes (rests.mono fun _ _ rests => rests.commits)
  obtain ⟨node, store, log, kept, stored, built, again, count, logs, low, high, whole⟩ :=
    recover_eq initial ledger marked
  obtain ⟨saved, represents, -⟩ := ledger.restorable.kept.storage store kept
  rw [applyEntries_accepted fun k _ => takes _ _, (Point.between_still between).2.2] at whole
  have next := MultiPaxosNode.withStorage_next represents built s.lastAppliedCommandId
  refine ⟨store, kept, ?_⟩
  rw [← next]
  constructor
  · rintro ⟨t, recovers, ahead⟩
    obtain rfl := Except.ok.inj (whole.symm.trans recovers)
    exact ahead
  · intro ahead
    exact ⟨_, whole, ahead⟩

end Numbering

def acceptedRun : List (Action Nat) :=
  [.deliver
      { senderId := 1, paxosInstance := 0
        msg := .acceptMsg { sender := 1, ballot := 4, command := 7 } }, .advance] ++ markedRun ++
    [.advance, .advance, .advance]

def acceptedFirst : SmrRuntime (List Nat) Nat :=
  Run.System.final (step three []) Orderly (boot three []) acceptedRun

theorem recovers_ahead_accepted :
    ∃ t, acceptedFirst.recover three [] = .ok t ∧
      t.lastAppliedCommandId ≤ t.algorithm.nextInstanceId := by
  have reachable : (loggedSystem three []).Reachable Orderly acceptedFirst :=
    Run.System.final_reachable (fun _ _ _ next => next) (.init (boot_init three []))
      (by decide +kernel)
  obtain ⟨store, stored, ahead⟩ := recovers_ahead journal_takes reachable (by decide +kernel)
  have once : acceptedFirst.lastAppliedCommandId = 1 := by decide +kernel
  have saved : ∀ store ∈ acceptedFirst.algorithm.storage,
      (store.storage.map.get (ballotKey 0)).isSome := by decide +kernel
  exact ahead.mpr (.inr ⟨0, by omega, saved store stored⟩)

-- The node learns instance 0 without having heard its Prepare and its Accept.
def hearsayRun : List (Action Nat) :=
  markedRun ++ [.advance, .advance, .advance]

def hearsay : SmrRuntime (List Nat) Nat :=
  Run.System.final (step three []) Orderly (boot three []) hearsayRun

theorem recovers_behind :
    ¬ ∀ (config : SmrConfig) (initial : List Nat) (s : SmrRuntime (List Nat) Nat),
      (loggedSystem config initial).Reachable Orderly s → s.point.between = true →
      ∃ t, s.recover config initial = .ok t ∧
        t.lastAppliedCommandId ≤ t.algorithm.nextInstanceId := by
  intro recovers
  have reachable : (loggedSystem three []).Reachable Orderly hearsay :=
    Run.System.final_reachable (fun _ _ _ next => next) (.init (boot_init three []))
      (by decide +kernel)
  obtain ⟨t, whole, ahead⟩ := recovers three [] hearsay reachable (by decide +kernel)
  have found : (hearsay.recover three []).toOption.map
      (fun t => (t.lastAppliedCommandId, t.algorithm.nextInstanceId)) = some (1, 0) := by
    decide +kernel
  rw [whole] at found
  simp only [Except.toOption, Option.map_some, Option.some.injEq, Prod.mk.injEq] at found
  omega

end Runtime

end Smr
