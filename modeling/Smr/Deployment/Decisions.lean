import Smr.Cluster.Agreement
import Smr.Deployment.Simulation
import Smr.Runtime.Journal

set_option autoImplicit false

namespace Smr

variable {S C : Type} [StateMachine S C]

namespace Deployment

def Decided (total : Nat) (d : Deployment S C) (instanceId : Nat) (command : C) : Prop :=
  ∃ ballot, d.cluster.Chosen total instanceId ballot command

-- The commands a step has the state machine apply, each with its instance: the one in the loop's
-- hand, or on a restart what the log hands back.
def applies [Serde Nat] [Serde C] (d : Deployment S C) : Action C → List (Nat × C)
  | .run p .advance =>
    match (d.hosts p).runtime.point with
    | .appended command _ => [((d.hosts p).runtime.lastAppliedCommandId, command)]
    | _ => []
  | .run p .restart =>
    match (d.hosts p).runtime.commandLog with
    | some log => log.replay.toOption.getD []
    | none => []
  | _ => []

open Classical in
noncomputable def decision (total : Nat) (d : Deployment S C) (instanceId : Nat) : Option C :=
  if known : ∃ command, d.Decided total instanceId command then some known.choose else none

section Step

variable [Bincode (Message C)] [DecidableEq C] [Serde Nat] [Serde C] [Serde (AcceptedValue C)]
  {total p : Nat} {initial : S} {d t : Deployment S C} {a : Action C}

omit [Bincode (Message C)] [DecidableEq C] [Serde Nat] [Serde C] [Serde (AcceptedValue C)] in
theorem Decided.grow {instanceId : Nat} {command : C} (decided : d.Decided total instanceId command)
    (grows : d.trace ⊆ t.trace) : t.Decided total instanceId command := by
  obtain ⟨ballot, quorum, inside, many, accepted⟩ := decided
  refine ⟨ballot, quorum, inside, many, fun q member => ?_⟩
  obtain ⟨event, traced, votes⟩ := accepted q member
  exact ⟨event, grows traced, votes⟩

theorem Moves.trace_grows (moves : Moves total initial d a t) : d.trace ⊆ t.trace := by
  cases moves with
  | run member runs =>
    cases runs with
    | propose | handle => exact List.subset_append_left _ _
    | hand | cancel | forward | receive | respond | advance | restart => exact List.Subset.refl _
  | network => exact List.Subset.refl _

omit [Bincode (Message C)] [Serde C] in
theorem held_decided {instanceId : Nat} {command : C}
    {guard : Cluster C → Smr.Action C → Prop}
    (reachable : (Cluster.system total).Reachable (fun s b => s.Once b ∧ guard s b) d.cluster)
    (member : p < total) (holds : d.cluster.Holds instanceId p command) :
    d.Decided total instanceId command := by
  obtain ⟨ballot, chosen⟩ :=
    (Cluster.counting_once (fun _ _ allowed => allowed.1) reachable instanceId).held p member
      command holds
  exact ⟨ballot, Cluster.chosen_iff.mpr chosen⟩

omit [Bincode (Message C)] [DecidableEq C] [Serde Nat] [Serde C] [Serde (AcceptedValue C)] in
theorem committing_holds {command : C} (committing : command ∈ (d.hosts p).runtime.committing) :
    d.cluster.Holds (d.hosts p).runtime.lastAppliedCommandId p command := by
  unfold SmrRuntime.committing at committing
  split at committing
  next => exact Cluster.committed_holds (s := d.cluster) committing
  next => simp at committing

theorem journaled_reachable {guard : Cluster C → Smr.Action C → Prop} (bounded : total ≤ 2 ^ 32)
    (reachable : (system total initial).Reachable (fun d a => d.Short a ∧ d.Meets guard a) d) :
    ∀ q < total, Runtime.Journaled (d.Decided total) (d.hosts q).runtime := by
  refine reachable.invariant
    (fun d => ∀ q < total, Runtime.Journaled (d.Decided total) (d.hosts q).runtime) ?_ ?_
  · intro d starts q inside
    obtain ⟨runtime, boots, same⟩ := Init.boots starts q inside
    rw [same]
    exact boots.journaled
  · intro d a t before journaled _ next q inside
    have moves := step_moves next
    have later := fun instanceId command (decided : d.Decided total instanceId command) =>
      decided.grow moves.trace_grows
    have reached := (simulates_reachable bounded before).2
    cases moves with
    | run member runs =>
      rcases runs.runtime q with same | ⟨rfl, b, -, stepped⟩
      · exact same ▸ (journaled q inside).mono later
      · exact ((journaled q inside).step (fun command committing =>
          held_decided reached inside (committing_holds committing)) stepped).mono later
    | network => exact (journaled q inside).mono later

omit [Bincode (Message C)] [Serde C] in
theorem decided_agree {instanceId : Nat} {command other : C}
    (reachable : (Cluster.system total).Reachable (fun s b => s.Once b ∧ s.RaceFree total b)
      d.cluster)
    (left : d.Decided total instanceId command) (right : d.Decided total instanceId other) :
    command = other := by
  have refines : Cluster.Refines { once := True, raceFree := True, ordinary := False } total
      d.cluster :=
    Cluster.refines_reachable (reachable.mono fun _ _ allowed =>
      ⟨fun _ => allowed.1, fun _ => allowed.2, False.elim⟩)
  obtain ⟨low, hleft⟩ := left
  obtain ⟨high, hright⟩ := right
  exact Cluster.chosen_agree (fun reached =>
    Synod.safety_reachable (fun _ _ obeys => obeys.1 trivial)
      (fun _ _ _ obeys => obeys.2.1 trivial) reached) refines (Cluster.chosen_iff.mp hleft)
    (Cluster.chosen_iff.mp hright)

omit [Bincode (Message C)] [Serde C] in
theorem decision_eq {instanceId : Nat} {command : C}
    (reachable : (Cluster.system total).Reachable (fun s b => s.Once b ∧ s.RaceFree total b)
      d.cluster)
    (decided : d.Decided total instanceId command) :
    d.decision total instanceId = some command := by
  have known : ∃ command, d.Decided total instanceId command := ⟨command, decided⟩
  rw [decision, dif_pos known, decided_agree reachable known.choose_spec decided]

theorem applies_decided {entry : Nat × C}
    (journaled : ∀ q < total, Runtime.Journaled (d.Decided total) (d.hosts q).runtime)
    (moves : Moves total initial d a t) (applied : entry ∈ d.applies a) :
    d.Decided total entry.1 entry.2 := by
  cases moves with
  | @run p task _ member runs =>
    cases task with
    | advance =>
      simp only [applies] at applied
      split at applied
      next command sender stands =>
        obtain rfl := List.mem_singleton.mp applied
        exact (journaled p member).held command (by simp [stands, Point.holds])
      next => simp at applied
    | restart =>
      simp only [applies] at applied
      split at applied
      next log stored =>
        obtain ⟨entries, replayed, known⟩ := ((journaled p member).log log stored).replays
        rw [replayed] at applied
        exact known entry applied
      next => simp at applied
    | propose | hand | cancel | forward | receive | handle | respond => simp [applies] at applied
  | network => simp [applies] at applied

end Step

theorem decided_once [Bincode (Message C)] [DecidableEq C] [Serde Nat] [Serde C]
    [Serde (AcceptedValue C)] {total : Nat} {initial : S}
    {past : List (Deployment S C × Action C × Deployment S C)} {d : Deployment S C}
    (bounded : total ≤ 2 ^ 32)
    (run : (system total initial).Past
      (fun d a => d.Short a ∧ d.Meets (Cluster.RaceFree total) a) past d) :
    ∃ decided : Nat → Option C,
      (∀ e ∈ past, ∀ entry ∈ e.1.applies e.2.1, decided entry.1 = some entry.2) ∧
      ∀ p < total, ∀ log ∈ (d.hosts p).runtime.commandLog, ∃ entries, log.replay = .ok entries ∧
        ∀ entry ∈ entries, decided entry.1 = some entry.2 := by
  have reachable := run.reachable
  have reached := (simulates_reachable bounded reachable).2
  refine ⟨d.decision total, fun e member entry applied => decision_eq reached ?_,
    fun p inside log stored => ?_⟩
  · refine run.lasting (fun s a _ => entry ∈ s.applies a)
      (fun s => s.Decided total entry.1 entry.2) ?_ ?_ ⟨e, member, applied⟩
    · intro s a t before _ next listed
      have moves := step_moves next
      exact (applies_decided (journaled_reachable bounded before) moves listed).grow
        moves.trace_grows
    · intro s a t next decided
      exact decided.grow (step_moves next).trace_grows
  · obtain ⟨entries, replayed, known⟩ :=
      ((journaled_reachable bounded reachable p inside).log log stored).replays
    exact ⟨entries, replayed, fun entry listed => decision_eq reached (known entry listed)⟩

def bootStored (total : Nat) (initial : S) : Deployment S C :=
  { boot total initial with
    hosts := fun p => .idle (Runtime.boot (Cluster.config total p) initial) }

theorem bootStored_init [DecidableEq C] [Serde Nat] [Serde C] [Serde (AcceptedValue C)]
    (total : Nat) (initial : S) :
    Init total initial (bootStored total initial : Deployment S C) where
  boots p _ := by
    obtain ⟨store, log, blank, -, built⟩ :=
      Runtime.boot_init (S := S) (C := C) (Cluster.config total p) initial
    exact ⟨_, .withStorage blank built, rfl⟩
  network := rfl
  made := rfl
  places := rfl
  delivered := rfl
  trace := rfl
  calls := rfl
  placed := rfl

def restartRun : List (Action Nat) :=
  paidRun ++ [.run 1 .restart]

def restarted : Deployment Runtime.Purse Nat :=
  Run.System.final (step 3 ⟨10⟩) (fun d a => d.Short a ∧ d.Meets (Cluster.RaceFree 3) a)
    (bootStored 3 ⟨10⟩) restartRun

theorem decided_once_restarted :
    (restarted.hosts 1).runtime.stateMachine = ⟨3⟩ ∧
      ∃ decided : Nat → Option Nat, decided 0 = some 7 := by
  have starts : (system 3 (⟨10⟩ : Runtime.Purse)).init (bootStored 3 ⟨10⟩) := bootStored_init 3 _
  have reachable : (system 3 (⟨10⟩ : Runtime.Purse)).Reachable
      (fun d a => d.Short a ∧ d.Meets (Cluster.RaceFree 3) a) restarted :=
    Run.System.final_reachable (fun _ _ _ next => next) (.init starts) (by decide +kernel)
  obtain ⟨past, run⟩ := reachable.past
  obtain ⟨decided, -, logged⟩ := decided_once (by decide) run
  have kept : (restarted.hosts 1).runtime.commandLog.bind (fun log => log.replay.toOption) =
      some [(0, 7)] := by decide +kernel
  obtain ⟨log, stored, replayed⟩ := Option.bind_eq_some_iff.mp kept
  obtain ⟨entries, replayed', known⟩ := logged 1 (by decide) log stored
  obtain rfl := Except.ok.inj ((toOption_some.mp replayed).symm.trans replayed')
  exact ⟨by decide +kernel, decided, known (0, 7) (List.mem_singleton_self _)⟩

end Deployment

end Smr
