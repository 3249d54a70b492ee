import Smr.Storage.Backend

set_option autoImplicit false

namespace Smr

open Text

structure CommandLog (C : Type) where
  storage : Backend

def logRoot : List Char := "log/".toList

def logKey (instanceId : Nat) : Bytes :=
  asBytes (logRoot ++ padded 20 instanceId)

def lastAppliedKey : Bytes :=
  asBytes "meta/last_applied".toList

namespace CommandLog

variable {C : Type} [Serde Nat] [Serde C]

def new (storage : Backend) : CommandLog C :=
  { storage := storage }

def append (self : CommandLog C) (instanceId : Nat) (command : C) :
    Except Fault Unit × CommandLog C :=
  let (result, storage) := self.storage.put (logKey instanceId) (Serde.toVec command)
  (result, { storage := storage })

def lastApplied (self : CommandLog C) : Except Fault Nat :=
  match self.storage.map.get lastAppliedKey with
  | some bytes => decode bytes
  | none => .ok 0

def setLastApplied (self : CommandLog C) (id : Nat) : Except Fault Unit × CommandLog C :=
  let (result, storage) := self.storage.put lastAppliedKey (Serde.toVec id)
  (result, { storage := storage })

omit [Serde Nat] in
theorem append_done {self : CommandLog C} (reliable : self.storage.Reliable) (instanceId : Nat)
    (command : C) :
    self.append instanceId command = (.ok (), (self.append instanceId command).2) ∧
      (self.append instanceId command).2.storage.Reliable := by
  have put := reliable.put (logKey instanceId) (Serde.toVec command)
  exact ⟨Prod.ext put.1 rfl, put.2⟩

omit [Serde C] in
theorem setLastApplied_done {self : CommandLog C} (reliable : self.storage.Reliable) (id : Nat) :
    self.setLastApplied id = (.ok (), (self.setLastApplied id).2) ∧
      (self.setLastApplied id).2.storage.Reliable := by
  have put := reliable.put lastAppliedKey (Serde.toVec id)
  exact ⟨Prod.ext put.1 rfl, put.2⟩

def parseKey (key : Bytes) : Option Nat := do
  let text ← fromUtf8 key
  let digits ← logRoot.isPrefixOf? text
  parse u64Max digits

def replayEntries : List (Bytes × Bytes) → Except Fault (List (Nat × C))
  | [] => .ok []
  | (key, value) :: rest =>
    match parseKey key with
    | none => .error .failed
    | some id => do
      let command ← decode value
      let result ← replayEntries rest
      pure ((id, command) :: result)

def replay (self : CommandLog C) : Except Fault (List (Nat × C)) :=
  replayEntries (self.storage.map.scanPrefix (asBytes logRoot))

end CommandLog

theorem logKey_injective : Function.Injective logKey := by
  intro left right same
  have text := asBytes_injective same
  exact padded_injective 20 (List.append_cancel_left text)

theorem log_prefix_logKey (instanceId : Nat) : asBytes logRoot <+: logKey instanceId :=
  asBytes_prefix _ _

theorem log_prefix_lastAppliedKey : ¬ asBytes logRoot <+: lastAppliedKey := by
  decide

theorem logKey_ne_lastAppliedKey (instanceId : Nat) : logKey instanceId ≠ lastAppliedKey := by
  intro same
  exact log_prefix_lastAppliedKey (same ▸ log_prefix_logKey instanceId)

-- Twenty digits hold every u64, so the keys are in the order of the instances.
theorem compare_logKey {left right : Nat} (less : left < right) (fits : right ≤ u64Max) :
    compare (logKey left) (logKey right) = .lt := by
  have short : right < 10 ^ 20 := Nat.lt_of_le_of_lt fits (by decide)
  rw [logKey, logKey, asBytes_append, asBytes_append, OrderedScan.compare_append_left]
  refine compare_digits (fun c member => isDigit_of_mem_padded member)
    (fun c member => isDigit_of_mem_padded member) ?_ (by simpa using less)
  rw [length_padded (by decide) (Nat.lt_trans less short), length_padded (by decide) short]

namespace CommandLog

theorem parseKey_logKey {instanceId : Nat} (fits : instanceId ≤ u64Max) :
    parseKey (logKey instanceId) = some instanceId := by
  have stripped : logRoot.isPrefixOf? (logRoot ++ padded 20 instanceId) =
      some (padded 20 instanceId) := List.isPrefixOf?_eq_some_iff_append_eq.mpr rfl
  rw [parseKey, logKey, fromUtf8_asBytes]
  simp [stripped, parse_padded 20 fits]

variable {C : Type} [Serde Nat] [Serde C]

structure Logs (log : CommandLog C) (commands : Nat → C) (count : Nat) : Prop where
  entries : ∀ instanceId < count,
    log.storage.map.get (logKey instanceId) = some (Serde.toVec (commands instanceId))
  keys : ∀ key value, log.storage.map.get key = some value → asBytes logRoot <+: key →
    ∃ instanceId < count, key = logKey instanceId

omit [Serde Nat] in
theorem Logs.empty {self : CommandLog C} {commands : Nat → C}
    (empty : self.storage.map.scanPrefix (asBytes logRoot) = []) : self.Logs commands 0 where
  entries _ inside := absurd inside (Nat.not_lt_zero _)
  keys key value found starts := by
    have member := InMemoryStorage.mem_scanPrefix.mpr ⟨found, starts⟩
    simp [empty] at member

omit [Serde Nat] in
theorem Logs.present {self : CommandLog C} {commands : Nat → C} {count : Nat}
    (logs : self.Logs commands count) (instanceId : Nat) :
    (self.storage.map.get (logKey instanceId)).isSome ↔ instanceId < count := by
  constructor
  · intro present
    obtain ⟨value, found⟩ := Option.isSome_iff_exists.mp present
    obtain ⟨other, inside, same⟩ := logs.keys _ _ found (log_prefix_logKey instanceId)
    exact logKey_injective same ▸ inside
  · intro inside
    simp [logs.entries instanceId inside]

omit [Serde Nat] in
theorem Logs.append {self after : CommandLog C} {commands : Nat → C} {count instanceId : Nat}
    (logs : self.Logs commands count) (next : instanceId ≤ count)
    (done : self.append instanceId (commands instanceId) = (.ok (), after)) :
    after.Logs commands (max count (instanceId + 1)) ∧
      after.storage.map.get lastAppliedKey = self.storage.map.get lastAppliedKey := by
  simp only [CommandLog.append, Prod.mk.injEq] at done
  obtain ⟨result, rfl⟩ := done
  have map := (Backend.put_ok (Prod.ext result rfl)).1
  refine ⟨⟨fun other inside => ?_, fun key value found starts => ?_⟩, ?_⟩
  · rw [map, InMemoryStorage.get_put]
    by_cases same : instanceId = other
    · rw [if_pos (congrArg logKey same), same]
    · rw [if_neg fun key => same (logKey_injective key)]
      exact logs.entries other (by omega)
  · rw [map, InMemoryStorage.get_put] at found
    split at found
    next hit => exact ⟨instanceId, by omega, hit.symm⟩
    next =>
      obtain ⟨other, inside, same⟩ := logs.keys key value found starts
      exact ⟨other, by omega, same⟩
  · rw [map, InMemoryStorage.get_put, if_neg (logKey_ne_lastAppliedKey instanceId)]

theorem Logs.setLastApplied {self after : CommandLog C} {commands : Nat → C} {count id : Nat}
    (logs : self.Logs commands count) (done : self.setLastApplied id = (.ok (), after)) :
    after.Logs commands count ∧ after.lastApplied = .ok id := by
  simp only [CommandLog.setLastApplied, Prod.mk.injEq] at done
  obtain ⟨result, rfl⟩ := done
  have map := (Backend.put_ok (Prod.ext result rfl)).1
  refine ⟨⟨fun other inside => ?_, fun key value found starts => ?_⟩, ?_⟩
  · rw [map, InMemoryStorage.get_put, if_neg (logKey_ne_lastAppliedKey other).symm]
    exact logs.entries other inside
  · rw [map, InMemoryStorage.get_put] at found
    split at found
    next hit => exact absurd (hit ▸ starts) log_prefix_lastAppliedKey
    next => exact logs.keys key value found starts
  · simp [CommandLog.lastApplied, map, InMemoryStorage.get_put]

omit [Serde Nat] in
theorem Logs.scan {self : CommandLog C} {commands : Nat → C} {count : Nat}
    (logs : self.Logs commands count) (fits : count ≤ u64Max + 1) :
    self.storage.map.scanPrefix (asBytes logRoot) =
      (List.range count).map fun instanceId =>
        (logKey instanceId, Serde.toVec (commands instanceId)) := by
  refine OrderedScan.eq_of_ordered (InMemoryStorage.scanPrefix_ordered _ _) ?_ fun entry => ?_
  · refine List.pairwise_map.mpr (List.pairwise_lt_range.imp_of_mem fun _ inside less => ?_)
    have := List.mem_range.mp inside
    exact compare_logKey less (by omega)
  · obtain ⟨key, value⟩ := entry
    simp only [InMemoryStorage.mem_scanPrefix, List.mem_map, List.mem_range, Prod.mk.injEq]
    constructor
    · rintro ⟨found, starts⟩
      obtain ⟨instanceId, inside, rfl⟩ := logs.keys key value found starts
      rw [logs.entries instanceId inside, Option.some.injEq] at found
      exact ⟨instanceId, inside, rfl, found⟩
    · rintro ⟨instanceId, inside, rfl, rfl⟩
      exact ⟨logs.entries instanceId inside, log_prefix_logKey instanceId⟩

omit [Serde Nat] in
theorem replayEntries_encoded (entries : List (Nat × C))
    (fits : ∀ entry ∈ entries, entry.1 ≤ u64Max) :
    replayEntries (entries.map fun entry => (logKey entry.1, Serde.toVec entry.2)) =
      .ok entries := by
  induction entries with
  | nil => rfl
  | cons entry rest ih =>
    have later := ih fun other member => fits other (List.mem_cons_of_mem _ member)
    have parsed := parseKey_logKey (fits entry List.mem_cons_self)
    simp only [List.map_cons, replayEntries, parsed, decode_toVec, later, bind, Except.bind, pure,
      Except.pure]

omit [Serde Nat] in
theorem Logs.replay {self : CommandLog C} {commands : Nat → C} {count : Nat}
    (logs : self.Logs commands count) (fits : count ≤ u64Max + 1) :
    self.replay =
      .ok ((List.range count).map fun instanceId => (instanceId, commands instanceId)) := by
  have decoded := replayEntries_encoded
    ((List.range count).map fun instanceId => (instanceId, commands instanceId))
    (by
      simp only [List.mem_map, List.mem_range]
      rintro _ ⟨instanceId, inside, rfl⟩
      dsimp only
      omega)
  rw [List.map_map] at decoded
  rw [CommandLog.replay, logs.scan fits]
  exact decoded

def holds (log : CommandLog C) (instanceId : Nat) : Bool :=
  (log.storage.map.get (logKey instanceId)).isSome

def Canonical (log : CommandLog C) : Prop :=
  ∀ key value, log.storage.map.get key = some value → asBytes logRoot <+: key →
    ∃ instanceId ≤ u64Max, ∃ command : C, key = logKey instanceId ∧ value = Serde.toVec command

section Canonical

variable {self : CommandLog C}

omit [Serde Nat] in
theorem Canonical.empty (empty : self.storage.map.scanPrefix (asBytes logRoot) = []) :
    self.Canonical := by
  intro key value found starts
  have member := InMemoryStorage.mem_scanPrefix.mpr ⟨found, starts⟩
  simp [empty] at member

omit [Serde Nat] in
theorem Canonical.append (canonical : self.Canonical) {instanceId : Nat}
    (fits : instanceId ≤ u64Max) (command : C) : (self.append instanceId command).2.Canonical := by
  intro key value found starts
  simp only [CommandLog.append, Backend.get_put] at found
  split at found
  next hit => exact ⟨instanceId, fits, command, hit.2.symm, (Option.some.inj found).symm⟩
  next => exact canonical key value found starts

theorem Canonical.setLastApplied (canonical : self.Canonical) (id : Nat) :
    (self.setLastApplied id).2.Canonical := by
  intro key value found starts
  simp only [CommandLog.setLastApplied, Backend.get_put] at found
  split at found
  next hit => exact absurd (hit.2 ▸ starts) log_prefix_lastAppliedKey
  next => exact canonical key value found starts

omit [Serde Nat] in
theorem Canonical.scan (canonical : self.Canonical) :
    ∃ entries : List (Nat × C), (∀ entry ∈ entries, entry.1 ≤ u64Max) ∧
      self.storage.map.scanPrefix (asBytes logRoot) =
        entries.map fun entry => (logKey entry.1, Serde.toVec entry.2) := by
  have decodes (scanned : List (Bytes × Bytes))
      (all : ∀ found ∈ scanned, ∃ instanceId ≤ u64Max, ∃ command : C,
        found.1 = logKey instanceId ∧ found.2 = Serde.toVec command) :
      ∃ entries : List (Nat × C), (∀ entry ∈ entries, entry.1 ≤ u64Max) ∧
        scanned = entries.map fun entry => (logKey entry.1, Serde.toVec entry.2) := by
    induction scanned with
    | nil => exact ⟨[], by simp, rfl⟩
    | cons found rest ih =>
      obtain ⟨entries, fits, rfl⟩ := ih fun other member =>
        all other (List.mem_cons_of_mem _ member)
      obtain ⟨instanceId, low, command, key, value⟩ := all found List.mem_cons_self
      refine ⟨(instanceId, command) :: entries, List.forall_mem_cons.mpr ⟨low, fits⟩, ?_⟩
      rw [List.map_cons, ← key, ← value]
  refine decodes _ fun found member => ?_
  obtain ⟨present, starts⟩ := InMemoryStorage.mem_scanPrefix.mp member
  exact canonical _ _ present starts

omit [Serde Nat] in
theorem increasing_of_ordered {entries : List (Nat × C)}
    (fits : ∀ entry ∈ entries, entry.1 ≤ u64Max)
    (ordered : (entries.map fun entry => (logKey entry.1, Serde.toVec entry.2)).Pairwise
      fun x y => compare x.1 y.1 = .lt) : (entries.map Prod.fst).Pairwise (· < ·) := by
  rw [List.pairwise_map] at ordered ⊢
  refine ordered.imp_of_mem fun left right less => ?_
  rcases Nat.lt_trichotomy _ _ with before | same | behind
  · exact before
  · simp [same] at less
  · have after := Std.OrientedCmp.gt_of_lt (compare_logKey behind (fits _ left))
    simp [after] at less

omit [Serde Nat] in
theorem Canonical.replay (canonical : self.Canonical) :
    ∃ entries, self.replay = .ok entries ∧ (entries.map Prod.fst).Pairwise (· < ·) ∧
      ∀ instanceId command, (instanceId, command) ∈ entries ↔
        self.storage.map.get (logKey instanceId) = some (Serde.toVec command) := by
  obtain ⟨entries, fits, scanned⟩ := canonical.scan
  have ordered := InMemoryStorage.scanPrefix_ordered self.storage.map (asBytes logRoot)
  rw [scanned] at ordered
  refine ⟨entries, by rw [CommandLog.replay, scanned, replayEntries_encoded entries fits],
    increasing_of_ordered fits ordered, fun instanceId command => ?_⟩
  have listed : self.storage.map.get (logKey instanceId) = some (Serde.toVec command) ↔
      (logKey instanceId, Serde.toVec command) ∈
        entries.map fun entry => (logKey entry.1, Serde.toVec entry.2) := by
    rw [← scanned, InMemoryStorage.mem_scanPrefix, and_iff_left (log_prefix_logKey instanceId)]
  rw [listed, List.mem_map]
  constructor
  · intro member
    exact ⟨_, member, rfl⟩
  · rintro ⟨entry, member, same⟩
    obtain ⟨key, value⟩ := Prod.mk.inj same
    rwa [← logKey_injective key, ← Serde.toVec_injective value]

omit [Serde Nat] in
theorem Canonical.replay_holds (canonical : self.Canonical) :
    ∃ entries, self.replay = .ok entries ∧
      ∀ instanceId, (∃ command, (instanceId, command) ∈ entries) ↔ self.holds instanceId := by
  obtain ⟨entries, replayed, -, listed⟩ := canonical.replay
  refine ⟨entries, replayed, fun instanceId => ?_⟩
  rw [holds, Option.isSome_iff_exists]
  constructor
  · rintro ⟨command, member⟩
    exact ⟨_, (listed instanceId command).mp member⟩
  · rintro ⟨value, found⟩
    obtain ⟨other, -, command, key, rfl⟩ :=
      canonical _ _ found (log_prefix_logKey instanceId)
    exact ⟨command, (listed instanceId command).mpr found⟩

omit [Serde Nat] in
theorem append_holds (instanceId : Nat) (command : C) (other : Nat) :
    (self.append instanceId command).2.holds other ↔
      self.holds other ∨ other = instanceId ∧ self.storage.fails 0 = false := by
  simp only [holds, CommandLog.append, Backend.get_put]
  split
  next hit =>
    obtain ⟨works, same⟩ := hit
    exact iff_of_true rfl (.inr ⟨(logKey_injective same).symm, works⟩)
  next miss =>
    refine (or_iff_left ?_).symm
    rintro ⟨rfl, works⟩
    exact miss ⟨works, rfl⟩

omit [Serde C] in
theorem setLastApplied_holds (id other : Nat) :
    (self.setLastApplied id).2.holds other = self.holds other := by
  simp only [holds, CommandLog.setLastApplied, Backend.get_put]
  rw [if_neg fun hit => logKey_ne_lastAppliedKey other hit.2.symm]

theorem append_lastApplied (instanceId : Nat) (command : C) :
    (self.append instanceId command).2.lastApplied = self.lastApplied := by
  simp only [CommandLog.lastApplied, CommandLog.append, Backend.get_put]
  rw [if_neg fun hit => logKey_ne_lastAppliedKey instanceId hit.2]

omit [Serde C] in
theorem setLastApplied_lastApplied (id : Nat) :
    (self.setLastApplied id).2.lastApplied =
      if self.storage.fails 0 then self.lastApplied else .ok id := by
  simp only [CommandLog.lastApplied, CommandLog.setLastApplied, Backend.get_put]
  cases self.storage.fails 0 <;> simp

end Canonical

end CommandLog

end Smr
