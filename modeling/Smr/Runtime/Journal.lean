import Smr.Runtime.LostAppends

set_option autoImplicit false

namespace Smr

variable {S C : Type} [StateMachine S C] [Serde Nat] [Serde C]

namespace CommandLog

-- What the log says of an instance is decided there, whatever became of the puts.
structure Journals (log : CommandLog C) (decided : Nat → C → Prop) : Prop where
  canonical : log.Canonical
  entries : ∀ instanceId command,
    log.storage.map.get (logKey instanceId) = some (Serde.toVec command) →
      decided instanceId command
  mark : ∀ n, log.lastApplied = .ok n → n ≤ u64Max

variable {log : CommandLog C} {decided later : Nat → C → Prop}

theorem Journals.mono (journals : log.Journals decided)
    (grows : ∀ instanceId command, decided instanceId command → later instanceId command) :
    log.Journals later :=
  { journals with
    entries := fun instanceId command found =>
      grows _ _ (journals.entries instanceId command found) }

theorem Journals.blank (entries : log.storage.map.scanPrefix (Text.asBytes logRoot) = [])
    (mark : log.storage.map.get lastAppliedKey = none) : log.Journals decided where
  canonical := .empty entries
  entries instanceId command found := by
    have listed := InMemoryStorage.mem_scanPrefix.mpr ⟨found, log_prefix_logKey instanceId⟩
    simp [entries] at listed
  mark n counted := by
    rw [CommandLog.lastApplied, mark] at counted
    exact Except.ok.inj counted ▸ Nat.zero_le _

theorem Journals.append (journals : log.Journals decided) {instanceId : Nat} {command : C}
    (fits : instanceId ≤ u64Max) (known : decided instanceId command) :
    (log.append instanceId command).2.Journals decided where
  canonical := journals.canonical.append fits command
  entries other command' found := by
    simp only [CommandLog.append, Backend.get_put] at found
    split at found
    next hit =>
      obtain rfl := logKey_injective hit.2
      obtain rfl := Serde.toVec_injective (Option.some.inj found)
      exact known
    next => exact journals.entries other command' found
  mark n counted := journals.mark n ((append_lastApplied instanceId command).symm.trans counted)

theorem Journals.setLastApplied (journals : log.Journals decided) {id : Nat}
    (fits : id ≤ u64Max) : (log.setLastApplied id).2.Journals decided where
  canonical := journals.canonical.setLastApplied id
  entries instanceId command found := by
    simp only [CommandLog.setLastApplied, Backend.get_put] at found
    split at found
    next hit => exact absurd hit.2.symm (logKey_ne_lastAppliedKey instanceId)
    next => exact journals.entries instanceId command found
  mark n counted := by
    rw [setLastApplied_lastApplied] at counted
    split at counted
    next => exact journals.mark n counted
    next => exact Except.ok.inj counted ▸ fits

theorem Journals.replays (journals : log.Journals decided) :
    ∃ entries, log.replay = .ok entries ∧ ∀ entry ∈ entries, decided entry.1 entry.2 := by
  obtain ⟨entries, replayed, -, listed⟩ := journals.canonical.replay
  exact ⟨entries, replayed, fun entry member =>
    journals.entries entry.1 entry.2 ((listed entry.1 entry.2).mp member)⟩

end CommandLog

namespace Runtime

structure Journaled (decided : Nat → C → Prop) (s : SmrRuntime S C) : Prop where
  log : ∀ log ∈ s.commandLog, log.Journals decided
  fits : s.lastAppliedCommandId ≤ u64Max
  held : ∀ command ∈ s.point.holds, decided s.lastAppliedCommandId command

variable {config : SmrConfig} {initial : S} {s t : SmrRuntime S C} {decided later : Nat → C → Prop}

theorem Journaled.mono (journaled : Journaled decided s)
    (grows : ∀ instanceId command, decided instanceId command → later instanceId command) :
    Journaled later s where
  log log stored := (journaled.log log stored).mono grows
  fits := journaled.fits
  held command holds := grows _ _ (journaled.held command holds)

theorem Journaled.advance (journaled : Journaled decided s)
    (fetched : ∀ command ∈ s.committing, decided s.lastAppliedCommandId command)
    (advances : s.Advances t) : Journaled decided t := by
  obtain ⟨log, fits, held⟩ := journaled
  cases advances with
  | @fetch command sender algorithm stands found =>
    refine ⟨log, fits, fun other holds => fetched other ?_⟩
    obtain rfl := Option.some.inj holds
    simp [SmrRuntime.committing, stands, found]
  | drain stands missing => exact ⟨log, fits, by simp [Point.holds]⟩
  | @append command sender stands =>
    rw [stands] at held
    refine ⟨fun after stored => ?_, fits, held⟩
    obtain ⟨before, here, rfl⟩ := Option.map_eq_some_iff.mp stored
    exact (log before here).append fits (held command rfl)
  | apply stands done => exact ⟨log, fits, by simp [Point.holds]⟩
  | reject stands failed => exact ⟨log, fits, by simp [Point.holds]⟩
  | mark stands bounded =>
    refine ⟨fun after stored => ?_, fits, by simp [Point.holds]⟩
    obtain ⟨before, here, rfl⟩ := Option.map_eq_some_iff.mp stored
    exact (log before here).setLastApplied (bounded (by rw [here]; rfl))
  | send stands => exact ⟨log, fits, by simp [Point.holds]⟩
  | count stands bounded => exact ⟨log, bounded, by simp [Point.holds]⟩

variable [DecidableEq C] [Serde (AcceptedValue C)]

theorem Journaled.step {a : Action C} (journaled : Journaled decided s)
    (fetched : ∀ command ∈ s.committing, decided s.lastAppliedCommandId command)
    (next : step config initial s a = some t) : Journaled decided t := by
  cases a with
  | deliver message =>
    simp only [Runtime.step] at next
    split at next
    next =>
      obtain rfl := Option.some.inj next
      exact ⟨journaled.log, journaled.fits, by simp [Point.holds]⟩
    next => simp at next
  | propose command =>
    simp only [Runtime.step] at next
    split at next
    next =>
      obtain rfl := Option.some.inj next
      exact ⟨journaled.log, journaled.fits, journaled.held⟩
    next => simp at next
  | advance => exact journaled.advance fetched (SmrRuntime.advance_some next)
  | crash =>
    have recovers := toOption_some.mp next
    cases stored : s.commandLog with
    | none => simp [SmrRuntime.recover, stored] at recovers
    | some log =>
      obtain ⟨kept, listening, mark⟩ := Session.recover_ok stored recovers
      have journals := journaled.log log stored
      refine ⟨fun after same => ?_, journals.mark _ mark, by simp [listening, Point.holds]⟩
      obtain rfl := Option.some.inj (kept.symm.trans same)
      exact journals

omit [DecidableEq C] in
theorem Boots.journaled (boots : Boots config initial s) : Journaled decided s := by
  cases boots with
  | new => exact ⟨by simp [SmrRuntime.new], Nat.zero_le _, by simp [SmrRuntime.new, Point.holds]⟩
  | withStorage blank built =>
    obtain ⟨node, -, rfl⟩ := withStorage_blank blank built
    refine ⟨fun log same => ?_, Nat.zero_le _, by simp [SmrRuntime.new, Point.holds]⟩
    obtain rfl := Option.some.inj same
    exact .blank blank.entries blank.mark

end Runtime

end Smr
