import Smr.Runtime.Recovery

set_option autoImplicit false

namespace Smr

variable {S C : Type} [StateMachine S C]

namespace CommandLog

variable [Serde Nat] [Serde C]

def HoleFree (log : CommandLog C) : Prop :=
  ∃ n entries, log.lastApplied = .ok n ∧ log.replay = .ok entries ∧
    ∀ instanceId < n, ∃ command, (instanceId, command) ∈ entries

-- Where the puts of a loop that began at `start` come in the pattern of failures: the entry
-- of an instance, then the mark past it.
def appendFails (first : CommandLog C) (start instanceId : Nat) : Bool :=
  first.storage.fails (2 * (instanceId - start))

def markFails (first : CommandLog C) (start instanceId : Nat) : Bool :=
  first.storage.fails (2 * (instanceId - start) + 1)

-- No mark goes through past an instance that was not in the log and whose append failed.
def Covers (first : CommandLog C) (start marked : Nat) : Prop :=
  ∀ instanceId < marked, ∀ lost ≤ instanceId, start ≤ lost → first.holds lost = false →
    first.appendFails start lost = true → first.markFails start instanceId = true

instance (first : CommandLog C) (start marked : Nat) : Decidable (first.Covers start marked) := by
  unfold Covers
  infer_instance

structure Since (first : CommandLog C) (start : Nat) (log : CommandLog C)
    (appended marked n : Nat) : Prop where
  ordered : start ≤ marked ∧ marked ≤ appended
  canonical : log.Canonical
  whole : ∀ instanceId < start, first.holds instanceId
  pattern : ∀ i, log.storage.fails i =
    first.storage.fails ((appended - start) + (marked - start) + i)
  entries : ∀ instanceId, log.holds instanceId ↔ first.holds instanceId ∨
    start ≤ instanceId ∧ instanceId < appended ∧ first.appendFails start instanceId = false
  mark : log.lastApplied = .ok n
  within : start ≤ n ∧ n ≤ marked
  highest : ∀ instanceId, n = instanceId + 1 → start ≤ instanceId →
    first.markFails start instanceId = false
  later : ∀ instanceId, n ≤ instanceId → instanceId < marked →
    first.markFails start instanceId = true

section Since

variable {first log : CommandLog C} {start appended marked n : Nat}

theorem Since.begins (canonical : first.Canonical) (mark : first.lastApplied = .ok start)
    (whole : ∀ instanceId < start, first.holds instanceId) :
    Since first start first start start start where
  ordered := ⟨Nat.le_refl _, Nat.le_refl _⟩
  canonical := canonical
  whole := whole
  pattern i := by simp
  entries instanceId := by
    refine (or_iff_left ?_).symm
    omega
  mark := mark
  within := ⟨Nat.le_refl _, Nat.le_refl _⟩
  highest instanceId last beyond := by omega
  later instanceId beyond inside := by omega

theorem Since.append (since : Since first start log marked marked n) (fits : marked ≤ u64Max)
    (command : C) : Since first start (log.append marked command).2 (marked + 1) marked n := by
  have ordered := since.ordered
  have next : log.storage.fails 0 = first.appendFails start marked := by
    rw [since.pattern 0, appendFails]
    congr 1
    omega
  exact
    { since with
      ordered := ⟨ordered.1, Nat.le_succ_of_le ordered.2⟩
      canonical := since.canonical.append fits command
      pattern := fun i => by
        rw [CommandLog.append, Backend.put_next, since.pattern (i + 1)]
        congr 1
        omega
      entries := fun instanceId => by
        rw [append_holds, since.entries instanceId, next]
        constructor
        · rintro ((there | ⟨low, high, works⟩) | ⟨rfl, works⟩)
          · exact .inl there
          · exact .inr ⟨low, Nat.lt_succ_of_lt high, works⟩
          · exact .inr ⟨ordered.1, Nat.lt_succ_self _, works⟩
        · rintro (there | ⟨low, high, works⟩)
          · exact .inl (.inl there)
          · rcases Nat.lt_succ_iff_lt_or_eq.mp high with before | rfl
            · exact .inl (.inr ⟨low, before, works⟩)
            · exact .inr ⟨rfl, works⟩
      mark := (append_lastApplied marked command).trans since.mark }

theorem Since.setLastApplied (since : Since first start log (marked + 1) marked n) :
    ∃ n', Since first start (log.setLastApplied (marked + 1)).2 (marked + 1) (marked + 1) n' := by
  have ordered := since.ordered
  have within := since.within
  have next : log.storage.fails 0 = first.markFails start marked := by
    rw [since.pattern 0, markFails]
    congr 1
    omega
  have pattern (i : Nat) : (log.setLastApplied (marked + 1)).2.storage.fails i =
      first.storage.fails ((marked + 1 - start) + (marked + 1 - start) + i) := by
    rw [CommandLog.setLastApplied, Backend.put_next, since.pattern (i + 1)]
    congr 1
    omega
  have mark := log.setLastApplied_lastApplied (marked + 1)
  cases fails : first.markFails start marked with
  | true =>
    rw [next, fails, if_pos rfl] at mark
    exact ⟨n,
      { since with
        ordered := ⟨Nat.le_succ_of_le ordered.1, Nat.le_refl _⟩
        canonical := since.canonical.setLastApplied _
        pattern := pattern
        entries := fun instanceId => by rw [setLastApplied_holds, since.entries instanceId]
        mark := mark.trans since.mark
        within := ⟨within.1, Nat.le_succ_of_le within.2⟩
        later := fun instanceId beyond inside => by
          rcases Nat.lt_succ_iff_lt_or_eq.mp inside with before | rfl
          · exact since.later instanceId beyond before
          · exact fails }⟩
  | false =>
    rw [next, fails, if_neg (by decide)] at mark
    exact ⟨marked + 1,
      { since with
        ordered := ⟨Nat.le_succ_of_le ordered.1, Nat.le_refl _⟩
        canonical := since.canonical.setLastApplied _
        pattern := pattern
        entries := fun instanceId => by rw [setLastApplied_holds, since.entries instanceId]
        mark := mark
        within := ⟨Nat.le_succ_of_le ordered.1, Nat.le_refl _⟩
        highest := fun instanceId last _ => by
          obtain rfl : marked = instanceId := Nat.succ.inj last
          exact fails
        later := fun instanceId beyond inside => absurd inside (Nat.not_lt.mpr beyond) }⟩

theorem Since.holeFree (since : Since first start log appended marked n) :
    log.HoleFree ↔ ∀ instanceId < n, log.holds instanceId := by
  obtain ⟨entries, replayed, listed⟩ := since.canonical.replay_holds
  constructor
  · rintro ⟨n', entries', mark, replayed', covered⟩ instanceId below
    obtain rfl := Except.ok.inj (since.mark.symm.trans mark)
    obtain rfl := Except.ok.inj (replayed.symm.trans replayed')
    exact (listed instanceId).mp (covered instanceId below)
  · intro covered
    exact ⟨n, entries, since.mark, replayed, fun instanceId below =>
      (listed instanceId).mpr (covered instanceId below)⟩

theorem Since.covers (since : Since first start log appended marked n) :
    log.HoleFree ↔ first.Covers start marked := by
  have ordered := since.ordered
  have within := since.within
  rw [since.holeFree]
  constructor
  · intro covered instanceId inside lost before low absent fails
    by_contra marks
    have below : instanceId < n := by
      by_contra beyond
      exact marks (since.later instanceId (Nat.not_lt.mp beyond) inside)
    rcases (since.entries lost).mp (covered lost (by omega)) with there | ⟨-, -, works⟩
    · simp [absent] at there
    · simp [fails] at works
  · intro covers instanceId below
    rcases Nat.lt_or_ge instanceId start with early | low
    · exact (since.entries instanceId).mpr (.inl (since.whole instanceId early))
    · obtain ⟨last, rfl⟩ := Nat.exists_eq_add_one_of_ne_zero (Nat.ne_of_gt (Nat.zero_lt_of_lt below))
      have marks := since.highest last rfl (by omega)
      by_contra lost
      have absent : ¬first.holds instanceId ∧ _ := not_or.mp (mt (since.entries instanceId).mpr lost)
      have fails := covers last (by omega) instanceId (by omega) low (by simpa using absent.1) (by
        by_contra works
        exact absent.2 ⟨low, by omega, by simpa using works⟩)
      simp [marks] at fails

end Since

end CommandLog

def SmrRuntime.applies (self : SmrRuntime S C) : Bool :=
  match self.point with
  | .appended command _ =>
    match (StateMachine.apply self.stateMachine command).1 with
    | .ok _ => true
    | .error _ => false
  | _ => true

-- A life of the process: the runtime with_storage built, and what has become of it.
structure Session (S C : Type) [StateMachine S C] where
  start : SmrRuntime S C
  now : SmrRuntime S C

namespace Session

section Lives

variable [DecidableEq C] [Serde Nat] [Serde C] [Serde (AcceptedValue C)]

def step (config : SmrConfig) (initial : S) (x : Session S C) (a : Runtime.Action C) :
    Option (Session S C) :=
  (Runtime.step config initial x.now a).map fun next =>
    match a with
    | .crash => { start := next, now := next }
    | _ => { x with now := next }

inductive Begins (config : SmrConfig) (initial : S) : Session S C → Prop where
  | intro {paxosStorage : PaxosStorage C} {commandLog : CommandLog C} {s : SmrRuntime S C}
      (blank : Runtime.Blank paxosStorage commandLog)
      (built : SmrRuntime.withStorage config initial paxosStorage commandLog = .ok s) :
      Begins config initial { start := s, now := s }

def system (config : SmrConfig) (initial : S) :
    Run.System (Session S C) (Runtime.Action C) :=
  { init := Begins config initial, step := fun x a y => step config initial x a = some y }

omit [DecidableEq C] [Serde (AcceptedValue C)]

def HoleFree (x : Session S C) : Prop :=
  ∃ log, x.now.commandLog = some log ∧ log.HoleFree

def Covers (x : Session S C) : Prop :=
  ∀ first ∈ x.start.commandLog, first.Covers x.start.lastAppliedCommandId
    (x.now.lastAppliedCommandId + x.now.point.marks)

def Allowed (x : Session S C) : Runtime.Action C → Prop
  | .advance => x.now.applies = true
  | .crash => x.Covers
  | .deliver _ | .propose _ => True

instance (x : Session S C) : Decidable x.Covers := by
  unfold Covers
  infer_instance

instance (x : Session S C) : (a : Runtime.Action C) → Decidable (Allowed x a)
  | .advance => inferInstanceAs (Decidable (x.now.applies = true))
  | .crash => inferInstanceAs (Decidable x.Covers)
  | .deliver _ | .propose _ => .isTrue trivial

structure Tracked (x : Session S C) (first log : CommandLog C) (n : Nat) : Prop where
  started : x.start.commandLog = some first
  stored : x.now.commandLog = some log
  fits : x.now.lastAppliedCommandId + x.now.point.marks ≤ u64Max
  since : first.Since x.start.lastAppliedCommandId log
    (x.now.lastAppliedCommandId + x.now.point.appends)
    (x.now.lastAppliedCommandId + x.now.point.marks) n

variable {x : Session S C} {first log : CommandLog C} {n : Nat}

theorem Tracked.begins {s : SmrRuntime S C} (stored : s.commandLog = some first)
    (listening : s.point = .listening) (fits : s.lastAppliedCommandId ≤ u64Max)
    (canonical : first.Canonical) (mark : first.lastApplied = .ok s.lastAppliedCommandId)
    (whole : ∀ instanceId < s.lastAppliedCommandId, first.holds instanceId) :
    Tracked { start := s, now := s } first first s.lastAppliedCommandId where
  started := stored
  stored := stored
  fits := by
    rw [listening]
    exact fits
  since := by
    rw [listening]
    exact .begins canonical mark whole

theorem Tracked.holeFree_iff (tracked : x.Tracked first log n) : x.HoleFree ↔ x.Covers := by
  have covers := tracked.since.covers
  constructor
  · rintro ⟨log', stored, free⟩ first' started
    obtain rfl := Option.some.inj (tracked.stored.symm.trans stored)
    obtain rfl := Option.some.inj (tracked.started.symm.trans started)
    exact covers.mp free
  · intro covered
    exact ⟨log, tracked.stored, covers.mpr (covered first tracked.started)⟩

theorem Tracked.still (tracked : x.Tracked first log n) {next : SmrRuntime S C}
    (kept : next.commandLog = x.now.commandLog)
    (appends : next.lastAppliedCommandId + next.point.appends =
      x.now.lastAppliedCommandId + x.now.point.appends)
    (marks : next.lastAppliedCommandId + next.point.marks =
      x.now.lastAppliedCommandId + x.now.point.marks) :
    Tracked { x with now := next } first log n where
  started := tracked.started
  stored := kept.trans tracked.stored
  fits := marks ▸ tracked.fits
  since := by
    have since := tracked.since
    rw [← appends, ← marks] at since
    exact since

theorem Tracked.advance (tracked : x.Tracked first log n) (takes : x.now.applies = true)
    {next : SmrRuntime S C} (advances : x.now.Advances next) :
    ∃ log n, Tracked { x with now := next } first log n := by
  have since := tracked.since
  have fits := tracked.fits
  cases advances with
  | @fetch _ _ _ stands | @drain _ stands | @apply _ _ _ _ stands | @send _ _ stands =>
    exact ⟨log, n, tracked.still rfl (by rw [stands]; rfl) (by rw [stands]; rfl)⟩
  | @count stands =>
    exact ⟨log, n, tracked.still rfl (by rw [stands]; rfl) (by rw [stands]; rfl)⟩
  | @reject command sender fault machine stands failed =>
    simp [SmrRuntime.applies, stands, failed] at takes
  | @append command sender stands =>
    rw [stands] at since fits
    exact ⟨_, n,
      { started := tracked.started
        stored := by rw [tracked.stored]; rfl
        fits := fits
        since := since.append fits command }⟩
  | @mark output sender stands bounded =>
    rw [stands] at since
    obtain ⟨n', moved⟩ := since.setLastApplied
    exact ⟨_, n',
      { started := tracked.started
        stored := by rw [tracked.stored]; rfl
        fits := bounded (by rw [tracked.stored]; rfl)
        since := moved }⟩

end Lives

section Lives

variable [DecidableEq C] [Serde Nat] [Serde C] [Serde (AcceptedValue C)]
  {config : SmrConfig} {initial : S} {x : Session S C} {first log : CommandLog C} {n : Nat}

omit [DecidableEq C] in
theorem recover_ok {s next : SmrRuntime S C} (stored : s.commandLog = some log)
    (recovers : s.recover config initial = .ok next) :
    next.commandLog = some log ∧ next.point = .listening ∧
      log.lastApplied = .ok next.lastAppliedCommandId := by
  unfold SmrRuntime.recover at recovers
  rw [stored] at recovers
  split at recovers
  next paxosStorage commandLog _ same =>
    obtain rfl := Option.some.inj same
    obtain ⟨entries, -, recovers⟩ := bind_ok.mp recovers
    obtain ⟨lastApplied, mark, recovers⟩ := bind_ok.mp recovers
    obtain ⟨machine, -, recovers⟩ := bind_ok.mp recovers
    obtain ⟨node, -, recovers⟩ := bind_ok.mp recovers
    obtain rfl := Except.ok.inj recovers
    exact ⟨rfl, rfl, mark⟩
  next => simp at recovers

omit [DecidableEq C] in
theorem Tracked.crash (tracked : x.Tracked first log n) (covers : x.Covers)
    {next : SmrRuntime S C} (recovers : x.now.recover config initial = .ok next) :
    Tracked { start := next, now := next } log log next.lastAppliedCommandId := by
  obtain ⟨stored, listening, mark⟩ := recover_ok tracked.stored recovers
  have since := tracked.since
  obtain rfl := Except.ok.inj (since.mark.symm.trans mark)
  have free := since.covers.mpr (covers first tracked.started)
  exact .begins stored listening (Nat.le_trans since.within.2 tracked.fits) since.canonical mark
    (since.holeFree.mp free)

theorem tracked_reachable (reachable : (system config initial).Reachable Allowed x) :
    ∃ first log n, x.Tracked first log n := by
  refine reachable.invariant (fun x => ∃ first log n, x.Tracked first log n) ?_ ?_
  · rintro _ @⟨paxosStorage, commandLog, s, blank, built⟩
    obtain ⟨node, -, rfl⟩ := Runtime.withStorage_blank blank built
    have mark : commandLog.lastApplied = .ok 0 := by rw [CommandLog.lastApplied, blank.mark]
    exact ⟨_, _, _, .begins rfl rfl (Nat.zero_le _) (.empty blank.entries) mark fun _ below =>
      absurd below (Nat.not_lt_zero _)⟩
  · rintro x a y - ⟨first, log, n, tracked⟩ allowed taken
    obtain ⟨s, next, rfl⟩ := Option.map_eq_some_iff.mp taken
    cases a with
    | deliver message =>
      simp only [Runtime.step] at next
      split at next
      next msgs stands done =>
        obtain rfl := Option.some.inj next
        exact ⟨first, log, n, tracked.still rfl (by rw [stands]; rfl) (by rw [stands]; rfl)⟩
      next => simp at next
    | propose command =>
      simp only [Runtime.step] at next
      split at next
      next result stands done =>
        obtain rfl := Option.some.inj next
        exact ⟨first, log, n, tracked.still rfl rfl rfl⟩
      next => simp at next
    | advance => exact ⟨first, tracked.advance allowed (SmrRuntime.advance_some next)⟩
    | crash => exact ⟨log, log, _, tracked.crash allowed (toOption_some.mp next)⟩

theorem hole_free (reachable : (system config initial).Reachable Allowed x) :
    x.HoleFree ↔ x.Covers := by
  obtain ⟨first, log, n, tracked⟩ := tracked_reachable reachable
  exact tracked.holeFree_iff

end Lives

section Lost

open Smr.Runtime

def failing (fails : Nat → Bool) : Session (List Nat) Nat :=
  let s : SmrRuntime (List Nat) Nat :=
    { boot three [] with
      commandLog := some { storage := { map := .new, written := [], fails := fails } } }
  { start := s, now := s }

theorem failing_begins (fails : Nat → Bool) : (system three []).init (failing fails) := by
  let paxosStorage : PaxosStorage Nat := { storage := blankBackend }
  let commandLog : CommandLog Nat :=
    { storage := { map := .new, written := [], fails := fails } }
  have blank : Blank paxosStorage commandLog := ⟨rfl, rfl, rfl⟩
  exact .intro blank rfl

def iteration : List (Runtime.Action Nat) :=
  [.deliver (told 0 7), .advance, .advance, .advance, .advance, .advance, .advance]

def ran (fails : Nat → Bool) : Session (List Nat) Nat :=
  Run.System.final (step three []) Allowed (failing fails) iteration

theorem ran_reachable (fails : Nat → Bool)
    (runs : (Run.System.exec (step three []) Allowed (failing fails) iteration).isSome) :
    (system three []).Reachable Allowed (ran fails) :=
  Run.System.final_reachable (fun _ _ _ next => next) (.init (failing_begins fails)) runs

theorem hole_free_unmarked : (ran fun _ => true).HoleFree :=
  (hole_free (ran_reachable _ (by decide +kernel))).mpr (by decide +kernel)

theorem hole_left :
    (system three []).Reachable Allowed (ran (· == 0)) ∧
      (ran (· == 0)).now.point.between = true ∧
      (ran (· == 0)).now.commandLog.map (fun log =>
        (log.lastApplied.toOption, log.replay.toOption)) = some (some 1, some []) ∧
      ¬(ran (· == 0)).HoleFree := by
  have found : (ran (· == 0)).now.commandLog.map (fun log =>
      (log.lastApplied.toOption, log.replay.toOption)) = some (some 1, some []) := by
    decide +kernel
  refine ⟨ran_reachable _ (by decide +kernel), by decide +kernel, found, ?_⟩
  rintro ⟨log, stored, n, entries, mark, replayed, covered⟩
  rw [stored, Option.map_some, mark, replayed] at found
  simp only [Except.toOption, Option.some.injEq, Prod.mk.injEq] at found
  obtain ⟨rfl, rfl⟩ := found
  obtain ⟨command, member⟩ := covered 0 Nat.zero_lt_one
  exact List.not_mem_nil member

end Lost

end Session

end Smr
