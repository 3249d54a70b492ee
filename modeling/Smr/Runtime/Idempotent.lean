import Smr.Runtime.Outputs

set_option autoImplicit false

namespace Smr

structure Idempotent (S : Type) {C : Type} [StateMachine S C] : Prop where
  takes : ∀ (machine : S) (command : C), ∃ output,
    (StateMachine.apply machine command).1 = .ok output
  twice : ∀ (machine : S) (command : C),
    StateMachine.apply (StateMachine.apply machine command).2 command =
      StateMachine.apply machine command

variable {S C : Type} [StateMachine S C]

theorem applied_range (initial : S) (commands : Nat → C) (count : Nat) :
    applied initial ((List.range count).map commands) = replayed initial commands count := by
  induction count with
  | zero => rfl
  | succ count ih =>
    rw [List.range_succ, List.map_append, List.map_singleton, applied_concat, ih]
    rfl

namespace Runtime

-- The machine is as far as the count, or one command further, and the log has what it was given.
def Caught [Serde Nat] (initial : S) (commands : Nat → C) (s : SmrRuntime S C) : Prop :=
  ∃ n, s.stateMachine = replayed initial commands n ∧
    s.lastAppliedCommandId + s.point.applies ≤ n ∧ n ≤ s.lastAppliedCommandId + 1 ∧
    ∀ log ∈ s.commandLog, ∀ i < n, (log.storage.map.get (logKey i)).isSome

section Loop

variable [Serde Nat] [Serde C] [Serde (AcceptedValue C)] {config : SmrConfig} {initial : S}
  {commands : Nat → C} {s t : SmrRuntime S C}

omit [Serde Nat] [Serde (AcceptedValue C)] in
theorem append_present {log : CommandLog C} {id i : Nat} {command : C}
    (present : (log.storage.map.get (logKey i)).isSome) :
    ((log.append id command).2.storage.map.get (logKey i)).isSome := by
  simp only [CommandLog.append, Backend.get_put]
  split
  · rfl
  · exact present

omit [Serde C] [Serde (AcceptedValue C)] in
theorem setLastApplied_present {log : CommandLog C} {id i : Nat}
    (present : (log.storage.map.get (logKey i)).isSome) :
    ((log.setLastApplied id).2.storage.map.get (logKey i)).isSome := by
  simp only [CommandLog.setLastApplied, Backend.get_put]
  split
  · rfl
  · exact present

theorem Caught.apply (idempotent : Idempotent S) (caught : Caught initial commands s)
    (ledger : Ledger config commands s) {command : C} {sender : Option (Oneshot C)}
    (stands : s.point = .appended command sender) :
    StateMachine.apply s.stateMachine command =
      StateMachine.apply (replayed initial commands s.lastAppliedCommandId)
        (commands s.lastAppliedCommandId) := by
  obtain ⟨n, machine, low, high, -⟩ := caught
  have same : command = commands s.lastAppliedCommandId :=
    ledger.holds command (by simp [stands, Point.holds])
  rw [stands] at low
  dsimp only [Point.applies] at low
  have level : n = s.lastAppliedCommandId ∨ n = s.lastAppliedCommandId + 1 := by omega
  rw [machine, same]
  rcases level with rfl | rfl
  · rfl
  · exact idempotent.twice _ _

omit [Serde (AcceptedValue C)] in
theorem Caught.keeps (caught : Caught initial commands s) (advances : s.Advances t)
    (other : ∀ command sender, s.point ≠ .appended command sender) :
    Caught initial commands t := by
  obtain ⟨n, machine, low, high, logged⟩ := caught
  cases advances with
  | fetch stands | drain stands =>
    rw [stands] at low
    exact ⟨n, machine, low, high, logged⟩
  | append stands =>
    rw [stands] at low
    refine ⟨n, machine, low, high, fun log stored i below => ?_⟩
    obtain ⟨before, here, rfl⟩ := Option.map_eq_some_iff.mp stored
    exact append_present (logged before here i below)
  | apply stands | reject stands => exact absurd stands (other _ _)
  | mark stands bounded =>
    rw [stands] at low
    refine ⟨n, machine, low, high, fun log stored i below => ?_⟩
    obtain ⟨before, here, rfl⟩ := Option.map_eq_some_iff.mp stored
    exact setLastApplied_present (logged before here i below)
  | send stands =>
    rw [stands] at low
    exact ⟨n, machine, low, high, logged⟩
  | count stands bounded =>
    rw [stands] at low
    dsimp only [Point.applies] at low
    exact ⟨n, machine, low, by dsimp only; omega, logged⟩

theorem Caught.applied {command : C} {sender : Option (Oneshot C)}
    {output : StateMachine.Output S} {after : S} {passed : List C}
    (ledger : Ledger config commands s) (stands : s.point = .appended command sender)
    (machine : after = replayed initial commands (s.lastAppliedCommandId + 1)) :
    Caught initial commands
      { s with stateMachine := after, passed := passed, point := .applied output sender } := by
  obtain ⟨-, -, -, log, count, stored, -, logs, reached, -⟩ := ledger
  rw [stands] at reached
  dsimp only [Point.appends] at reached
  refine ⟨s.lastAppliedCommandId + 1, machine, Nat.le_refl _, Nat.le_refl _,
    fun log' here i below => ?_⟩
  obtain rfl := Option.some.inj (stored.symm.trans here)
  exact (logs.present i).mpr (by omega)

theorem Caught.advance (idempotent : Idempotent S) (caught : Caught initial commands s)
    (ledger : Ledger config commands s) (advances : s.Advances t) :
    Caught initial commands t := by
  have keeps := caught.keeps advances
  cases advances with
  | @apply command sender output after stands done =>
    have further := caught.apply idempotent ledger stands
    exact .applied ledger stands (congrArg Prod.snd (done.symm.trans further))
  | @reject command sender fault after stands failed =>
    obtain ⟨output, taken⟩ := idempotent.takes s.stateMachine command
    rw [failed] at taken
    simp at taken
  | fetch stands | drain stands | append stands | mark stands | send stands | count stands =>
    exact keeps (by simp [stands])

-- Who is answered was registered at a place before the count, and gets what the machine answers
-- the command there.
structure Replies (initial : S) (commands : Nat → C) (registered : Nat → Oneshot C → Prop)
    (s : SmrRuntime S C) : Prop where
  waiting : ∀ sender ∈ s.point.sender, registered s.lastAppliedCommandId sender
  output : ∀ output ∈ s.point.output, (StateMachine.apply
    (replayed initial commands s.lastAppliedCommandId)
      (commands s.lastAppliedCommandId)).1 = .ok output
  answers : ∀ answer ∈ s.answers, ∃ place < s.lastAppliedCommandId + s.point.applies,
    registered place answer.1 ∧
      (StateMachine.apply (replayed initial commands place) (commands place)).1 = .ok answer.2

omit [Serde Nat] [Serde C] [Serde (AcceptedValue C)] in
theorem Replies.mono {registered later : Nat → Oneshot C → Prop}
    (replies : Replies initial commands registered s)
    (grows : ∀ place sender, registered place sender → later place sender) :
    Replies initial commands later s where
  waiting sender waits := grows _ _ (replies.waiting sender waits)
  output := replies.output
  answers answer sent := by
    obtain ⟨place, below, known, answered⟩ := replies.answers answer sent
    exact ⟨place, below, grows _ _ known, answered⟩

omit [Serde Nat] [Serde C] [Serde (AcceptedValue C)] in
theorem Replies.still {registered : Nat → Oneshot C → Prop}
    (replies : Replies initial commands registered s) (rests : s.point.between = true)
    (rests' : t.point.between = true) (count : t.lastAppliedCommandId = s.lastAppliedCommandId)
    (answers : t.answers = s.answers) : Replies initial commands registered t := by
  obtain ⟨-, applies, -⟩ := Point.between_still rests
  obtain ⟨-, applies', -⟩ := Point.between_still rests'
  refine ⟨?_, ?_, ?_⟩
  · cases stands : t.point <;> simp [stands, Point.between, Point.sender] at rests' ⊢
  · cases stands : t.point <;> simp [stands, Point.between, Point.output] at rests' ⊢
  · rw [answers, count, applies', ← applies]
    exact replies.answers

omit [Serde Nat] [Serde C] [Serde (AcceptedValue C)] in
theorem Replies.none_yet {registered : Nat → Oneshot C → Prop} (rests : s.point.between = true)
    (unsent : s.answers = []) : Replies initial commands registered s := by
  refine ⟨?_, ?_, by simp [unsent]⟩
  · cases stands : s.point <;> simp [stands, Point.between, Point.sender] at rests ⊢
  · cases stands : s.point <;> simp [stands, Point.between, Point.output] at rests ⊢

theorem Replies.advance {registered : Nat → Oneshot C → Prop}
    (replies : Replies initial commands registered s) (idempotent : Idempotent S)
    (caught : Caught initial commands s) (ledger : Ledger config commands s)
    (registers : ∀ sender, s.algorithm.pendingSenders s.lastAppliedCommandId = some sender →
      registered s.lastAppliedCommandId sender)
    (advances : s.Advances t) : Replies initial commands registered t := by
  obtain ⟨waiting, output, answers⟩ := replies
  cases advances with
  | @fetch command sender algorithm stands found =>
    rw [stands] at answers
    refine ⟨fun waits same => registers waits ?_, by simp [Point.output], answers⟩
    replace same : sender = some waits := same
    unfold MultiPaxosNode.getCommitId at found
    split at found
    next => simp at found
    next => exact (congrArg Prod.snd (Option.some.inj (congrArg Prod.fst found))).trans same
  | drain stands missing =>
    rw [stands] at answers
    exact ⟨by simp [Point.sender], by simp [Point.output], answers⟩
  | append stands =>
    rw [stands] at waiting answers
    exact ⟨waiting, by simp [Point.output], answers⟩
  | @apply command sender out after stands done =>
    have further := caught.apply idempotent ledger stands
    rw [stands] at waiting answers
    refine ⟨waiting, fun same given => ?_, fun answer sent => ?_⟩
    · obtain rfl := Option.some.inj given
      exact congrArg Prod.fst (further.symm.trans done)
    · obtain ⟨place, below, known⟩ := answers answer sent
      exact ⟨place, Nat.lt_succ_of_lt below, known⟩
  | @reject command sender fault after stands failed =>
    obtain ⟨given, taken⟩ := idempotent.takes s.stateMachine command
    rw [failed] at taken
    simp at taken
  | mark stands bounded =>
    rw [stands] at waiting output answers
    exact ⟨waiting, output, answers⟩
  | @send out sender stands =>
    rw [stands] at waiting output answers
    refine ⟨by simp [Point.sender], by simp [Point.output], fun answer sent => ?_⟩
    rcases List.mem_append.mp sent with old | new
    · exact answers answer old
    · obtain ⟨channel, told, rfl⟩ := List.mem_map.mp new
      exact ⟨s.lastAppliedCommandId, Nat.lt_succ_self _, waiting channel (Option.mem_toList.mp told),
        output out rfl⟩
  | count stands bounded =>
    rw [stands] at answers
    exact ⟨by simp [Point.sender], by simp [Point.output], answers⟩

end Loop

section Step

variable [DecidableEq C] [Serde Nat] [Serde C] [Serde (AcceptedValue C)] {config : SmrConfig}
  {initial : S} {commands : Nat → C} {s t : SmrRuntime S C}

omit [DecidableEq C] in
theorem recovers_caught (takes : ∀ (machine : S) (command : C), ∃ output,
      (StateMachine.apply machine command).1 = .ok output)
    (ledger : Ledger config commands s) (marked : Marked s)
    (recovers : s.recover config initial = .ok t) : Caught initial commands t := by
  obtain ⟨node, store, log, kept, stored, built, again, count, logs, low, high, whole⟩ :=
    recover_eq initial ledger marked
  have ahead := marks_le_appends s.point
  rw [whole, applyEntries_accepted fun k _ => takes _ _] at recovers
  obtain rfl := Except.ok.inj recovers
  refine ⟨count, rfl, ?_, ?_, fun log' same i below => ?_⟩
  · dsimp only [SmrRuntime.new, Point.applies]
    omega
  · dsimp only
    omega
  · obtain rfl := Option.some.inj same
    exact (logs.present i).mpr below

theorem step_still {a : Action C} (next : step config initial s a = some t) :
    a = .advance ∨ a = .crash ∨
      t.stateMachine = s.stateMachine ∧ t.lastAppliedCommandId = s.lastAppliedCommandId ∧
        t.commandLog = s.commandLog ∧ t.point.applies = s.point.applies := by
  cases a with
  | deliver message =>
    simp only [Runtime.step] at next
    split at next
    next listens _ =>
      obtain rfl := Option.some.inj next
      exact .inr (.inr ⟨rfl, rfl, rfl, by rw [listens]; rfl⟩)
    next => simp at next
  | propose command =>
    simp only [Runtime.step] at next
    split at next
    next =>
      obtain rfl := Option.some.inj next
      exact .inr (.inr ⟨rfl, rfl, rfl, rfl⟩)
    next => simp at next
  | advance => exact .inl rfl
  | crash => exact .inr (.inl rfl)

theorem Caught.step {a : Action C} (idempotent : Idempotent S) (caught : Caught initial commands s)
    (ledger : Ledger config commands s) (marked : Marked s)
    (next : step config initial s a = some t) : Caught initial commands t := by
  rcases step_still next with rfl | rfl | ⟨machine, count, log, applies⟩
  · exact caught.advance idempotent ledger (SmrRuntime.advance_some next)
  · exact recovers_caught idempotent.takes ledger marked (toOption_some.mp next)
  · unfold Caught
    rw [machine, count, log, applies]
    exact caught

theorem caught_reachable (idempotent : Idempotent S)
    (reachable : (loggedSystem config initial).Reachable (Commits commands) s) :
    Caught initial commands s := by
  refine reachable.invariant (Caught initial commands) (fun s starts => ?_)
    fun s a t before caught commits next => ?_
  · obtain ⟨store, log, blank, reliable, built⟩ := starts
    obtain ⟨node, -, rfl⟩ := withStorage_blank blank built
    exact ⟨0, rfl, Nat.le_refl _, Nat.zero_le _, by simp⟩
  · obtain ⟨ledger, marked⟩ := ledger_reachable idempotent.takes before
    exact caught.step idempotent ledger marked next

end Step

end Runtime

end Smr
