import Smr.Counter.CounterStateMachine
import Smr.Deployment.Crashes
import Smr.Runtime.Repeats

set_option autoImplicit false

namespace Smr

variable {S C : Type} [StateMachine S C]

namespace Deployment

theorem crashed_repeats [Bincode (Message C)] [DecidableEq C] [Inhabited C] [Serde Nat]
    [Serde C] [Serde (AcceptedValue C)] {total : Nat} {initial : S} {d : Deployment S C}
    (bounded : total ≤ 2 ^ 32)
    (takes : ∀ (machine : S) (command : C), ∃ output,
      (StateMachine.apply machine command).1 = .ok output)
    (reachable : (durable total initial).Reachable
      (fun d a => d.Short a ∧ d.Meets (Cluster.RaceFree total) a) d) :
    ∃ commands : Nat → C, ∀ p < total, ∃ n,
      (d.hosts p).runtime.lastAppliedCommandId ≤ n ∧
      n ≤ (d.hosts p).runtime.lastAppliedCommandId + 1 ∧
      (∀ i < n, d.Decided total i (commands i) ∧ ∃ q < total, (q, commands i) ∈ d.calls) ∧
      ((d.hosts p).runtime.stateMachine = applied initial ((List.range n).map commands) ∨
        ∃ place < n, (d.hosts p).runtime.stateMachine =
          applied initial (repeated commands place n)) := by
  obtain ⟨commands, -, processes⟩ := decided_commands bounded takes reachable
  refine ⟨commands, fun p member => ?_⟩
  obtain ⟨runs, logged⟩ := processes d reachable .refl p member
  obtain ⟨log, count, stored, -, logs, reached, -⟩ := (Runtime.ledger_reachable takes runs).1.logged
  have within := Runtime.applies_le_appends (d.hosts p).runtime.point
  rcases Runtime.repeats_reachable takes runs with caught | doubled
  · obtain ⟨n, machine, low, high, present⟩ := caught
    refine ⟨n, Nat.le_trans (Nat.le_add_right _ _) low, high, fun i below => ?_, .inl ?_⟩
    · exact logged log stored i (present log stored i below)
    · rw [machine, applied_range]
  · obtain ⟨place, below, machine⟩ := doubled
    refine ⟨_, Nat.le_add_right _ _, by omega, fun i inside => ?_, .inr ⟨place, below, machine⟩⟩
    exact logged log stored i ((logs.present i).mpr (by omega))

theorem repeated_once [Bincode (Message C)] [DecidableEq C] [Inhabited C] [Serde Nat]
    [Serde C] [Serde (AcceptedValue C)] {total : Nat} {initial : S} {d : Deployment S C}
    (bounded : total ≤ 2 ^ 32)
    (takes : ∀ (machine : S) (command : C), ∃ output,
      (StateMachine.apply machine command).1 = .ok output)
    (reachable : (durable total initial).Reachable
      (fun d a => d.Short a ∧ d.Meets (Cluster.RaceFree total) a) d) :
    ∃ log : List C,
      (∀ instanceId command, log[instanceId]? = some command →
        d.Decided total instanceId command ∧ ∃ q < total, (q, command) ∈ d.calls) ∧
      ∀ p < total, ∃ n ≤ log.length,
        (d.hosts p).runtime.lastAppliedCommandId ≤ n ∧
        n ≤ (d.hosts p).runtime.lastAppliedCommandId + 1 ∧
        ((d.hosts p).runtime.stateMachine = applied initial (log.take n) ∨
          ∃ place < n, (d.hosts p).runtime.stateMachine =
            applied initial (log.take (place + 1) ++ (log.take n).drop place)) := by
  obtain ⟨commands, accounts⟩ := crashed_repeats bounded takes reachable
  choose! lengths low high decided machine using accounts
  obtain ⟨log, listed, fronts⟩ := common_commands
    (fun i command => d.Decided total i command ∧ ∃ q < total, (q, command) ∈ d.calls)
    commands lengths total decided
  refine ⟨log, listed, fun p member => ?_⟩
  obtain ⟨fits, front⟩ := fronts p member
  refine ⟨lengths p, fits, low p member, high p member, ?_⟩
  rw [front _ (Nat.le_refl _)]
  refine (machine p member).imp id fun repeats => ?_
  obtain ⟨place, below, twice⟩ := repeats
  refine ⟨place, below, ?_⟩
  rw [front _ below]
  exact twice

open Counter

-- Node 1 is restarted with an increment in its log that it has not applied. Node 2, which has
-- seen nothing, proposes for the same instance and gets that increment decided again.
def incrementRun : List (List (Action Command)) :=
  [[.network (.connect 0 1 fun _ => none), .network (.accept 0),
      .run 0 (.propose .increment), .run 0 .hand, .run 0 .hand, .run 0 .forward,
      .run 0 .forward],
    serve 1 1, serve 0 2, serve 1 0, serve 1 1, serve 1 0, serve 0 1, serve 1 1,
    [.run 1 .advance, .run 1 .restart]]

def serveNext (p answers : Nat) : List (Action Command) :=
  .network (.read p 1) :: (serve p answers).tail

def decideRun : List (List (Action Command)) :=
  [[.network (.connect 1 2 fun _ => none), .network (.accept 1),
      .run 2 (.propose .increment), .run 2 .hand, .run 2 .hand, .run 2 .forward,
      .run 2 .forward],
    serveNext 1 1, serveNext 1 0, serveNext 2 2, serveNext 1 1, serveNext 1 0, serveNext 2 1,
    serveNext 1 1, List.replicate 6 (.run 1 .advance)]

def doubled : Deployment CounterStateMachine Command :=
  Run.System.final (step 3 .new) (fun d a => d.Short a ∧ d.Meets (Cluster.RaceFree 3) a)
    (bootStored 3 .new) (incrementRun ++ decideRun).flatten

theorem doubled_reachable : (durable 3 CounterStateMachine.new).Reachable
    (fun d a => d.Short a ∧ d.Meets (Cluster.RaceFree 3) a) doubled := by
  have starts : (durable 3 CounterStateMachine.new).init (bootStored 3 .new) :=
    ⟨bootStored_init 3 _, fun p _ => ⟨Runtime.boot (Cluster.config 3 p) .new,
      Runtime.boot_init _ _, rfl⟩⟩
  exact Run.System.final_reachable (fun _ _ _ next => next) (.init starts) (by decide +kernel)

theorem repeated_once_doubled :
    (doubled.hosts 1).runtime.lastAppliedCommandId = 1 ∧
      (doubled.hosts 1).runtime.stateMachine.value = 2 ∧
      ∃ log : List Command, ∃ n ≤ log.length, 1 ≤ n ∧ n ≤ 2 ∧
        ((doubled.hosts 1).runtime.stateMachine = applied .new (log.take n) ∨
          ∃ place < n, (doubled.hosts 1).runtime.stateMachine =
            applied .new (log.take (place + 1) ++ (log.take n).drop place)) := by
  have facts : (doubled.hosts 1).runtime.lastAppliedCommandId = 1 ∧
      (doubled.hosts 1).runtime.stateMachine.value = 2 := by decide +kernel
  obtain ⟨once, value⟩ := facts
  obtain ⟨log, -, machines⟩ := repeated_once (by decide) takes_all doubled_reachable
  obtain ⟨n, fits, low, high, machine⟩ := machines 1 (by decide)
  rw [once] at low high
  exact ⟨once, value, log, n, fits, low, high, machine⟩

end Deployment

end Smr
