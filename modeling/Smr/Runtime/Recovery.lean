import Smr.Node.Restart
import Smr.Runtime.SmrRuntime
import Smr.Storage.Json

set_option autoImplicit false

namespace Smr

variable {S C : Type} [StateMachine S C]

def replayed (initial : S) (commands : Nat → C) : Nat → S
  | 0 => initial
  | count + 1 => (StateMachine.apply (replayed initial commands count) (commands count)).2

def Accepts (initial : S) (commands : Nat → C) (count : Nat) : Prop :=
  ∀ k < count, ∃ output,
    (StateMachine.apply (replayed initial commands k) (commands k)).1 = .ok output

def numbered (commands : Nat → C) (count : Nat) : List (Nat × C) :=
  (List.range count).map fun instanceId => (instanceId, commands instanceId)

theorem numbered_succ (commands : Nat → C) (count : Nat) :
    numbered commands (count + 1) = numbered commands count ++ [(count, commands count)] := by
  simp [numbered, List.range_succ]

theorem applyEntries_append (machine : S) (entries : List (Nat × C)) (instanceId : Nat) (cmd : C) :
    applyEntries machine (entries ++ [(instanceId, cmd)]) =
      (applyEntries machine entries).bind fun machine =>
        applyEntries machine [(instanceId, cmd)] := by
  induction entries generalizing machine with
  | nil => rfl
  | cons entry rest ih =>
    obtain ⟨id, command⟩ := entry
    simp only [List.cons_append, applyEntries]
    split
    next => exact ih _
    next => rfl

theorem applyEntries_accepted {initial : S} {commands : Nat → C} {count : Nat}
    (accepts : Accepts initial commands count) :
    applyEntries initial (numbered commands count) = .ok (replayed initial commands count) := by
  induction count with
  | zero => rfl
  | succ count ih =>
    obtain ⟨output, taken⟩ := accepts count (Nat.lt_succ_self count)
    have earlier := ih fun k below => accepts k (Nat.lt_succ_of_lt below)
    have split : StateMachine.apply (replayed initial commands count) (commands count) =
        (.ok output, replayed initial commands (count + 1)) := Prod.ext taken rfl
    rw [numbered_succ, applyEntries_append, earlier]
    simp only [Except.bind, applyEntries, split]

theorem applyEntries_rejected {initial : S} {commands : Nat → C} {count : Nat}
    (rejects : ¬Accepts initial commands count) :
    ∃ fault, applyEntries initial (numbered commands count) = .error fault := by
  induction count with
  | zero => exact absurd (fun k below => absurd below (Nat.not_lt_zero k)) rejects
  | succ count ih =>
    rw [numbered_succ, applyEntries_append]
    by_cases accepts : Accepts initial commands count
    · have last : ∀ output,
          (StateMachine.apply (replayed initial commands count) (commands count)).1 ≠
            .ok output := by
        intro output taken
        refine rejects fun k below => ?_
        rcases Nat.lt_succ_iff_lt_or_eq.mp below with earlier | rfl
        · exact accepts k earlier
        · exact ⟨output, taken⟩
      rw [applyEntries_accepted accepts]
      simp only [Except.bind, applyEntries]
      split
      next output machine taken => exact absurd (congrArg Prod.fst taken) (last output)
      next fault machine failed => exact ⟨fault, rfl⟩
    · obtain ⟨fault, stopped⟩ := ih accepts
      exact ⟨fault, by rw [stopped]; rfl⟩

namespace Point

def appends {C Output : Type} : Point C Output → Nat
  | .listening | .checking | .committed _ _ => 0
  | .appended _ _ | .applied _ _ | .marked _ _ | .counting => 1

def applies {C Output : Type} : Point C Output → Nat
  | .listening | .checking | .committed _ _ | .appended _ _ => 0
  | .applied _ _ | .marked _ _ | .counting => 1

def marks {C Output : Type} : Point C Output → Nat
  | .listening | .checking | .committed _ _ | .appended _ _ | .applied _ _ => 0
  | .marked _ _ | .counting => 1

def holds {C Output : Type} : Point C Output → Option C
  | .committed command _ | .appended command _ => some command
  | _ => none

def between {C Output : Type} : Point C Output → Bool
  | .listening | .checking => true
  | _ => false

theorem between_still {C Output : Type} {point : Point C Output}
    (between : point.between = true) :
    point.appends = 0 ∧ point.applies = 0 ∧ point.marks = 0 := by
  cases point <;> simp [Point.between, appends, applies, marks] at between ⊢

end Point

namespace SmrRuntime

def committing (self : SmrRuntime S C) : Option C :=
  match self.point with
  | .checking => (self.algorithm.getCommitId self.lastAppliedCommandId).1.map Prod.fst
  | _ => none

def Exact (initial : S) (commands : Nat → C) (self : SmrRuntime S C) : Prop :=
  self.stateMachine =
    replayed initial commands (self.lastAppliedCommandId + self.point.applies)

end SmrRuntime

namespace Runtime

def Commits (commands : Nat → C) (s : SmrRuntime S C) : Action C → Prop
  | .advance => ∀ command ∈ s.committing, command = commands s.lastAppliedCommandId
  | _ => True

instance [DecidableEq C] (commands : Nat → C) (s : SmrRuntime S C) :
    (a : Action C) → Decidable (Commits commands s a)
  | .advance =>
    inferInstanceAs (Decidable (∀ command ∈ s.committing, command = commands s.lastAppliedCommandId))
  | .deliver _ | .propose _ | .crash => .isTrue trivial

def NoCrash : Action C → Prop
  | .crash => False
  | _ => True

instance : (a : Action C) → Decidable (NoCrash a)
  | .crash => .isFalse id
  | .deliver _ | .propose _ | .advance => .isTrue trivial

section Recovering

variable [DecidableEq C] [Serde Nat] [Serde C] [Serde (AcceptedValue C)]

-- What the loop keeps of its storage, whatever the machine answers.
structure Ledger (config : SmrConfig) (commands : Nat → C) (s : SmrRuntime S C) : Prop where
  restorable : MultiPaxosNode.Restorable config s.algorithm
  bounded : s.lastAppliedCommandId ≤ u64Max
  holds : ∀ command ∈ s.point.holds, command = commands s.lastAppliedCommandId
  logged : ∃ log count, s.commandLog = some log ∧ log.storage.Reliable ∧
    log.Logs commands count ∧ s.lastAppliedCommandId + s.point.appends ≤ count ∧
    count ≤ s.lastAppliedCommandId + 1

omit [DecidableEq C] in
theorem Ledger.advance {config : SmrConfig} {commands : Nat → C} {s t : SmrRuntime S C}
    (ledger : Ledger config commands s) (commits : Commits commands s .advance)
    (advances : s.Advances t) : Ledger config commands t := by
  obtain ⟨restorable, bounded, holds, log, count, stored, reliable, logs, low, high⟩ := ledger
  cases advances with
  | @fetch command sender algorithm stands found =>
    have kept := restorable.getCommitId s.lastAppliedCommandId
    rw [found] at kept
    simp only [stands, Point.appends] at low
    refine ⟨kept, bounded, fun held holding => ?_, log, count, stored, reliable, logs, low, high⟩
    obtain rfl := Option.mem_some.mp holding
    exact commits command (by simp [SmrRuntime.committing, stands, found])
  | @drain algorithm stands missing =>
    have kept := restorable.getCommitId s.lastAppliedCommandId
    rw [missing] at kept
    simp only [stands, Point.appends] at low
    exact ⟨kept, bounded, by simp [Point.holds], log, count, stored, reliable, logs, low, high⟩
  | @append command sender stands =>
    obtain rfl : command = commands s.lastAppliedCommandId :=
      holds command (by simp [stands, Point.holds])
    obtain ⟨done, still⟩ := CommandLog.append_done reliable s.lastAppliedCommandId
      (commands s.lastAppliedCommandId)
    simp only [stands, Point.appends] at low
    refine ⟨restorable, bounded, by simp [Point.holds], _, _, by rw [stored]; rfl, still,
      (logs.append (by omega) done).1, ?_, ?_⟩
    · dsimp only [Point.appends]
      omega
    · dsimp only
      omega
  | @apply _ _ _ _ stands | @reject _ _ _ _ stands | @send _ _ stands =>
    simp only [stands, Point.appends] at low
    exact ⟨restorable, bounded, by simp [Point.holds], log, count, stored, reliable, logs, low,
      high⟩
  | @mark output sender stands fits =>
    obtain ⟨done, still⟩ := CommandLog.setLastApplied_done reliable (s.lastAppliedCommandId + 1)
    simp only [stands, Point.appends] at low
    exact ⟨restorable, bounded, by simp [Point.holds], _, count, by rw [stored]; rfl, still,
      (logs.setLastApplied done).1, low, high⟩
  | @count stands fits =>
    simp only [stands, Point.appends] at low
    exact ⟨restorable, fits, by simp [Point.holds], log, count, stored, reliable, logs, by
      dsimp only [Point.appends]
      omega, by
      dsimp only
      omega⟩

theorem Ledger.step {config : SmrConfig} {initial : S} {commands : Nat → C} {s t : SmrRuntime S C}
    {a : Action C} (ledger : Ledger config commands s) (commits : Commits commands s a)
    (crashes : a = .crash → Ledger config commands t) (next : step config initial s a = some t) :
    Ledger config commands t := by
  cases a with
  | deliver message =>
    simp only [Runtime.step] at next
    split at next
    next msgs stands done =>
      obtain rfl := Option.some.inj next
      obtain ⟨restorable, bounded, -, log, count, stored, reliable, logs, low, high⟩ := ledger
      simp only [stands, Point.appends] at low
      exact ⟨restorable.answers (MultiPaxosNode.handleMessage_ok done), bounded,
        by simp [Point.holds], log, count, stored, reliable, logs, low, high⟩
    next => simp at next
  | propose command =>
    simp only [Runtime.step] at next
    split at next
    next result stands done =>
      obtain rfl := Option.some.inj next
      exact ⟨ledger.restorable.proposes (MultiPaxosNode.propose_ok done), ledger.bounded,
        ledger.holds, ledger.logged⟩
    next => simp at next
  | advance => exact ledger.advance commits (SmrRuntime.advance_some next)
  | crash => exact crashes rfl

structure Marked (s : SmrRuntime S C) : Prop where
  mark : ∀ log ∈ s.commandLog,
    log.lastApplied = .ok (s.lastAppliedCommandId + s.point.marks)
  fits : s.lastAppliedCommandId + s.point.marks ≤ u64Max

omit [DecidableEq C] [Serde Nat] [Serde C] [Serde (AcceptedValue C)] in
theorem marks_le_appends (point : Point C (StateMachine.Output S)) :
    point.marks ≤ point.appends := by
  cases point <;> simp [Point.marks, Point.appends]

omit [DecidableEq C] in
theorem Marked.advance {config : SmrConfig} {commands : Nat → C} {s t : SmrRuntime S C}
    (marked : Marked s) (ledger : Ledger config commands s)
    (taken : ∀ command sender, s.point = .appended command sender →
      ∃ output, (StateMachine.apply s.stateMachine command).1 = .ok output)
    (advances : s.Advances t) : Marked t := by
  obtain ⟨mark, fits⟩ := marked
  obtain ⟨-, -, holds, log, count, stored, reliable, logs, low, high⟩ := ledger
  have here := mark log stored
  cases advances with
  | @fetch _ _ _ stands | @drain _ stands | @apply _ _ _ _ stands | @send _ _ stands =>
    simp only [stands, Point.marks] at here fits
    refine ⟨fun log' stored' => ?_, fits⟩
    obtain rfl := Option.some.inj (stored.symm.trans stored')
    exact here
  | @append command sender stands =>
    obtain rfl : command = commands s.lastAppliedCommandId :=
      holds command (by simp [stands, Point.holds])
    obtain ⟨done, -⟩ := CommandLog.append_done reliable s.lastAppliedCommandId
      (commands s.lastAppliedCommandId)
    simp only [stands, Point.marks, Point.appends] at here fits low
    refine ⟨fun log' stored' => ?_, fits⟩
    simp only [stored, Option.map_some, Option.mem_some] at stored'
    subst stored'
    rw [CommandLog.lastApplied, (logs.append (by omega) done).2]
    exact here
  | @reject command sender fault machine stands failed =>
    obtain ⟨output, ok⟩ := taken command sender stands
    rw [failed] at ok
    simp at ok
  | @mark output sender stands bounded =>
    obtain ⟨done, -⟩ := CommandLog.setLastApplied_done reliable (s.lastAppliedCommandId + 1)
    refine ⟨fun log' stored' => ?_, bounded (by rw [stored]; rfl)⟩
    simp only [stored, Option.map_some, Option.mem_some] at stored'
    subst stored'
    exact (logs.setLastApplied done).2
  | @count stands bounded =>
    simp only [stands, Point.marks] at here
    refine ⟨fun log' stored' => ?_, bounded⟩
    obtain rfl := Option.some.inj (stored.symm.trans stored')
    exact here

omit [DecidableEq C] in
theorem recover_eq {config : SmrConfig} (initial : S) {commands : Nat → C} {s : SmrRuntime S C}
    (ledger : Ledger config commands s) (marked : Marked s) :
    ∃ node store log, s.algorithm.storage = some store ∧ s.commandLog = some log ∧
      MultiPaxosNode.withStorage config store = .ok node ∧
      MultiPaxosNode.Restorable config node ∧
      ∃ count, log.Logs commands count ∧
        s.lastAppliedCommandId + s.point.appends ≤ count ∧ count ≤ s.lastAppliedCommandId + 1 ∧
        s.recover config initial =
          (applyEntries initial (numbered commands count)).map fun machine =>
            { SmrRuntime.new config machine with
              algorithm := node
              lastAppliedCommandId := s.lastAppliedCommandId + s.point.marks
              commandLog := some log } := by
  obtain ⟨restorable, bounded, -, log, count, stored, reliable, logs, low, high⟩ := ledger
  obtain ⟨store, kept⟩ := Option.isSome_iff_exists.mp restorable.stored
  obtain ⟨node, built, again, -⟩ := restorable.restarts kept
  refine ⟨node, store, log, kept, stored, built, again, count, logs, low, high, ?_⟩
  have entries := logs.replay (by omega)
  have mark := marked.mark log stored
  unfold SmrRuntime.recover SmrRuntime.withStorage
  simp only [kept, stored, entries, mark, built, bind, Except.bind, numbered]
  cases applyEntries initial ((List.range count).map fun instanceId =>
    (instanceId, commands instanceId)) <;> rfl

omit [DecidableEq C] in
theorem recover_kept {config : SmrConfig} {initial : S} {commands : Nat → C}
    {s t : SmrRuntime S C} (ledger : Ledger config commands s) (marked : Marked s)
    (recovers : s.recover config initial = .ok t) : Ledger config commands t ∧ Marked t := by
  obtain ⟨node, store, log, kept, stored, built, again, count, logs, low, high, whole⟩ :=
    recover_eq initial ledger marked
  have mark := marked.mark log stored
  have fits := marked.fits
  have ahead := marks_le_appends s.point
  obtain ⟨-, -, -, log', count', stored', reliable, -⟩ := ledger
  obtain rfl := Option.some.inj (stored'.symm.trans stored)
  rw [whole] at recovers
  obtain ⟨machine, -, rfl⟩ := map_ok.mp recovers
  refine ⟨⟨again, fits, by simp [SmrRuntime.new, Point.holds], log', count, rfl, reliable, logs,
    ?_, ?_⟩, ⟨fun log'' same => ?_, fits⟩⟩
  · dsimp only [SmrRuntime.new, Point.appends]
    omega
  · dsimp only [SmrRuntime.new]
    omega
  · obtain rfl := Option.mem_some.mp same
    exact mark

omit [DecidableEq C] in
theorem withStorage_blank {config : SmrConfig} {initial : S} {store : PaxosStorage C}
    {log : CommandLog C} {s : SmrRuntime S C} (blank : Blank store log)
    (built : SmrRuntime.withStorage config initial store log = .ok s) :
    ∃ node, MultiPaxosNode.withStorage config store = .ok node ∧
      s = { SmrRuntime.new config initial with algorithm := node, commandLog := some log } := by
  have entries : log.replay = .ok [] := by rw [CommandLog.replay, blank.entries]; rfl
  have mark : log.lastApplied = .ok 0 := by rw [CommandLog.lastApplied, blank.mark]
  unfold SmrRuntime.withStorage at built
  simp only [entries, mark, applyEntries, bind, Except.bind] at built
  split at built
  next => simp at built
  next node started =>
    simp only [pure, Except.pure, Except.ok.injEq] at built
    exact ⟨node, started, built.symm⟩

omit [DecidableEq C] in
theorem booted {config : SmrConfig} {initial : S} (commands : Nat → C) {store : PaxosStorage C}
    {log : CommandLog C} {s : SmrRuntime S C} (blank : Blank store log)
    (reliable : log.storage.Reliable)
    (built : SmrRuntime.withStorage config initial store log = .ok s) :
    Ledger config commands s ∧ Marked s := by
  obtain ⟨node, started, rfl⟩ := withStorage_blank blank built
  refine ⟨⟨.empty blank.acceptors started, Nat.zero_le _, by simp [SmrRuntime.new, Point.holds],
    log, 0, rfl, reliable, .empty blank.entries, Nat.le_refl _, Nat.zero_le _⟩,
    ⟨fun log' same => ?_, Nat.zero_le _⟩⟩
  obtain rfl := Option.mem_some.mp same
  dsimp only [SmrRuntime.new, Point.marks]
  rw [CommandLog.lastApplied, blank.mark]

omit [DecidableEq C] [Serde C] [Serde (AcceptedValue C)] in
theorem Marked.same {s t : SmrRuntime S C} (marked : Marked s) (log : t.commandLog = s.commandLog)
    (counter : t.lastAppliedCommandId = s.lastAppliedCommandId)
    (point : t.point.marks = s.point.marks) : Marked t where
  mark := by
    rw [log, counter, point]
    exact marked.mark
  fits := by
    rw [counter, point]
    exact marked.fits

theorem Marked.step {config : SmrConfig} {initial : S} {commands : Nat → C}
    {s t : SmrRuntime S C} {a : Action C} (marked : Marked s) (ledger : Ledger config commands s)
    (taken : ∀ command sender, s.point = .appended command sender →
      ∃ output, (StateMachine.apply s.stateMachine command).1 = .ok output)
    (next : step config initial s a = some t) : Marked t := by
  cases a with
  | deliver message =>
    simp only [Runtime.step] at next
    split at next
    next msgs stands done =>
      obtain rfl := Option.some.inj next
      exact marked.same rfl rfl (by simp [stands, Point.marks])
    next => simp at next
  | propose command =>
    simp only [Runtime.step] at next
    split at next
    next result stands done =>
      obtain rfl := Option.some.inj next
      exact marked.same rfl rfl rfl
    next => simp at next
  | advance => exact marked.advance ledger taken (SmrRuntime.advance_some next)
  | crash => exact (recover_kept ledger marked (toOption_some.mp next)).2

theorem ledger_reachable {config : SmrConfig} {initial : S} {commands : Nat → C}
    (takes : ∀ (machine : S) (command : C), ∃ output,
      (StateMachine.apply machine command).1 = .ok output) {s : SmrRuntime S C}
    (reachable : (loggedSystem config initial).Reachable (Commits commands) s) :
    Ledger config commands s ∧ Marked s := by
  refine reachable.invariant (fun s => Ledger config commands s ∧ Marked s) (fun s starts => ?_)
    fun s a t _ kept commits next => ?_
  · obtain ⟨store, log, blank, reliable, built⟩ := starts
    exact booted commands blank reliable built
  · obtain ⟨ledger, marked⟩ := kept
    refine ⟨ledger.step commits (fun crashed => ?_) next,
      marked.step ledger (fun _ _ _ => takes _ _) next⟩
    subst crashed
    exact (recover_kept ledger marked (toOption_some.mp next)).1

def Onward (commands : Nat → C) (s : SmrRuntime S C) (a : Action C) : Prop :=
  Commits commands s a ∧ NoCrash a

omit [Serde Nat] [Serde C] [Serde (AcceptedValue C)] in
instance (commands : Nat → C) (s : SmrRuntime S C) (a : Action C) :
    Decidable (Onward commands s a) := by
  unfold Onward
  infer_instance

omit [DecidableEq C] in
theorem exact_advance {config : SmrConfig} {initial : S} {commands : Nat → C}
    {s t : SmrRuntime S C} (ledger : Ledger config commands s)
    (exact_before : s.Exact initial commands)
    (advances : s.Advances t) : t.Exact initial commands := by
  unfold SmrRuntime.Exact at exact_before ⊢
  cases advances with
  | @apply command sender _ machine stands done | @reject command sender _ machine stands done =>
    have same : command = commands s.lastAppliedCommandId :=
      ledger.holds command (by simp [stands, Point.holds])
    simp only [stands, Point.applies, Nat.add_zero] at exact_before
    have applied := congrArg Prod.snd done
    rw [same, exact_before] at applied
    exact applied.symm
  | @fetch _ _ _ stands | @drain _ stands | @append _ _ stands | @mark _ _ stands
  | @send _ _ stands | @count stands =>
    simp only [stands, Point.applies] at exact_before
    exact exact_before

theorem exact_step {config : SmrConfig} {initial : S} {commands : Nat → C} {s t : SmrRuntime S C}
    {a : Action C} (ledger : Ledger config commands s) (exact_before : s.Exact initial commands)
    (stays : NoCrash a) (next : step config initial s a = some t) : t.Exact initial commands := by
  cases a with
  | deliver message =>
    simp only [step] at next
    split at next
    next msgs stands done =>
      obtain rfl := Option.some.inj next
      unfold SmrRuntime.Exact at exact_before
      rw [stands] at exact_before
      exact exact_before
    next => simp at next
  | propose command =>
    simp only [step] at next
    split at next
    next result stands done =>
      obtain rfl := Option.some.inj next
      exact exact_before
    next => simp at next
  | advance => exact exact_advance ledger exact_before (SmrRuntime.advance_some next)
  | crash => exact stays.elim

theorem exact_onward {config : SmrConfig} {initial : S} {commands : Nat → C}
    (takes : ∀ (machine : S) (command : C), ∃ output,
      (StateMachine.apply machine command).1 = .ok output) {s t : SmrRuntime S C}
    (reachable : (loggedSystem config initial).Reachable (Commits commands) s)
    (exact_before : s.Exact initial commands)
    (steps : (loggedSystem config initial).Steps (Onward commands) s t) :
    t.Exact initial commands := by
  have both : (loggedSystem config initial).Reachable (Commits commands) t ∧
      t.Exact initial commands := by
    induction steps with
    | refl => exact ⟨reachable, exact_before⟩
    | tail _ last ih =>
      obtain ⟨a, ⟨commits, stays⟩, next⟩ := last
      exact ⟨.step ih.1 commits next,
        exact_step (ledger_reachable takes ih.1).1 ih.2 stays next⟩
  exact both.2

theorem recovers_once {config : SmrConfig} {initial : S} {commands : Nat → C}
    (takes : ∀ (machine : S) (command : C), ∃ output,
      (StateMachine.apply machine command).1 = .ok output) {s : SmrRuntime S C}
    (reachable : (loggedSystem config initial).Reachable (Commits commands) s) :
    ∃ log n, s.commandLog = some log ∧ log.lastApplied = .ok n ∧
      ((∃ t, s.recover config initial = .ok t ∧ t.lastAppliedCommandId = n ∧
          ∀ u, (loggedSystem config initial).Steps (Onward commands) t u →
            u.Exact initial commands) ↔
        (log.storage.map.get (logKey n) = none ∨
          (StateMachine.apply (replayed initial commands n) (commands n)).2 =
            replayed initial commands n)) := by
  obtain ⟨ledger, marked⟩ := ledger_reachable takes reachable
  obtain ⟨node, store, log, kept, stored, built, again, count, logs, low, high, whole⟩ :=
    recover_eq initial ledger marked
  have ahead := marks_le_appends s.point
  rw [applyEntries_accepted fun k _ => takes _ _] at whole
  set n := s.lastAppliedCommandId + s.point.marks with counted
  refine ⟨log, n, stored, marked.mark log stored, ?_⟩
  have entry := logs.present n
  have level : count = n ∨ count = n + 1 := by omega
  constructor
  · rintro ⟨t, recovers, -, onward⟩
    rw [whole] at recovers
    obtain rfl := Except.ok.inj recovers
    have same : replayed initial commands count = replayed initial commands n :=
      onward _ Relation.ReflTransGen.refl
    rcases level with rfl | rfl
    · left
      simpa using entry
    · right
      exact same
  · intro clean
    have same : replayed initial commands count = replayed initial commands n := by
      rcases level with rfl | rfl
      · rfl
      · rcases clean with absent | idle
        · simp [absent] at entry
        · exact idle
    refine ⟨_, whole, rfl, fun u steps => ?_⟩
    refine exact_onward takes (.step reachable (a := .crash) trivial ?_) ?_ steps
    · exact toOption_some.mpr whole
    · exact same

end Recovering

def blankBackend : Backend :=
  { map := .new, written := [], fails := fun _ => false }

def boot (config : SmrConfig) (initial : S) : SmrRuntime S C :=
  { SmrRuntime.new config initial with
    algorithm := { MultiPaxosNode.new config with storage := some { storage := blankBackend } }
    commandLog := some { storage := blankBackend } }

theorem boot_init [DecidableEq C] [Serde Nat] [Serde C] [Serde (AcceptedValue C)]
    (config : SmrConfig) (initial : S) :
    (loggedSystem config initial).init (boot config initial : SmrRuntime S C) :=
  ⟨{ storage := blankBackend }, { storage := blankBackend }, ⟨rfl, rfl, rfl⟩, fun _ => rfl, rfl⟩

instance : StateMachine (List Nat) Nat where
  Output := Unit
  apply values value := (.ok (), values ++ [value])

theorem journal_takes (values : List Nat) (value : Nat) :
    ∃ output, (StateMachine.apply values value).1 = .ok output :=
  ⟨(), rfl⟩

def three : SmrConfig := { nodeId := 0, totalNodes := 3 }

def told (instanceId value : Nat) : Message Nat :=
  { senderId := 1, paxosInstance := instanceId
    msg := .learnMsg { sender := 1, ballot := 4, command := value } }

def markedRun : List (Action Nat) :=
  [.deliver (told 0 7), .advance, .advance, .advance, .advance]

def markedOnce : SmrRuntime (List Nat) Nat :=
  Run.System.final (step three []) (Commits fun _ => 7) (boot three []) markedRun

theorem recovers_once_marked :
    ∃ t, markedOnce.recover three [] = .ok t ∧ t.lastAppliedCommandId = 1 ∧
      ∀ u, (loggedSystem three []).Steps (Onward fun _ => 7) t u → u.Exact [] fun _ => 7 := by
  have reachable : (loggedSystem three []).Reachable (Commits fun _ => 7) markedOnce :=
    Run.System.final_reachable (fun _ _ _ next => next) (.init (boot_init three []))
      (by decide +kernel)
  obtain ⟨log, n, stored, mark, once⟩ := recovers_once journal_takes reachable
  have facts : ∀ log ∈ markedOnce.commandLog,
      log.lastApplied.toOption = some 1 ∧ log.storage.map.get (logKey 1) = none := by
    decide +kernel
  obtain ⟨named, absent⟩ := facts log stored
  rw [mark] at named
  obtain rfl := Option.some.inj named
  exact once.mpr (.inl absent)

def appendedRun : List (Action Nat) :=
  [.deliver (told 0 7), .advance, .advance]

def appendedOnce : SmrRuntime (List Nat) Nat :=
  Run.System.final (step three []) (Onward fun _ => 7) (boot three []) appendedRun

theorem recovers_twice :
    ¬ ∀ (config : SmrConfig) (initial : List Nat) (commands : Nat → Nat)
      (s : SmrRuntime (List Nat) Nat),
      (loggedSystem config initial).Reachable (Onward commands) s →
      ∃ t, s.recover config initial = .ok t ∧
        t.stateMachine = replayed initial commands t.lastAppliedCommandId := by
  intro once
  have reachable : (loggedSystem three []).Reachable (Onward fun _ => 7) appendedOnce :=
    Run.System.final_reachable (fun _ _ _ next => next) (.init (boot_init three []))
      (by decide +kernel)
  obtain ⟨t, recovers, same⟩ := once three [] (fun _ => 7) appendedOnce reachable
  have found : (appendedOnce.recover three []).toOption.map
      (fun t => (t.lastAppliedCommandId, t.stateMachine)) = some (0, [7]) := by decide +kernel
  rw [recovers] at found
  simp only [Except.toOption, Option.map_some, Option.some.injEq, Prod.mk.injEq] at found
  rw [found.1, found.2] at same
  exact absurd same (by decide)

end Runtime

end Smr
