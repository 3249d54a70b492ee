import Smr.Deployment.Crashes

set_option autoImplicit false

namespace Smr

namespace KvStore

open LastWrite

theorem values_kept [Bincode (Message Command)] [Serde Nat] [Serde Command]
    [Serde (AcceptedValue Command)] {total : Nat} {t : Deployment InnerStateMachine Command}
    {past : List (Deployment InnerStateMachine Command × Deployment.Action Command ×
      Deployment InnerStateMachine Command)}
    (bounded : total ≤ 2 ^ 32)
    (run : (Deployment.durable total InnerStateMachine.new).Past
      (fun d a => d.Short a ∧ d.Meets (Cluster.RaceFree total) a) past t) :
    ∃ commands : Nat → Command, ∀ d ∈ Run.System.moments past t, ∀ p < total, ∃ n,
      (d.hosts p).runtime.lastAppliedCommandId ≤ n ∧
      n ≤ (d.hosts p).runtime.lastAppliedCommandId + 1 ∧
      (∀ i < n, d.Decided total i (commands i) ∧ ∃ q < total, (q, commands i) ∈ d.calls) ∧
      (∀ key, (d.hosts p).runtime.stateMachine.values key =
        latest (sets key) ((List.range n).map commands)) ∧
      ∀ answer ∈ (d.hosts p).runtime.answers, answer.1.forwardId = none →
        ∃ place < n, (∃ request, ⟨p, place, answer.1.command, request⟩ ∈ d.placed) ∧
          ∀ key, commands place = .get key →
            answer.2 = latest (sets key) ((List.range place).map commands) := by
  obtain ⟨commands, accounts⟩ := Deployment.crashed_commands bounded takes_repeats run
  refine ⟨commands, fun d moment p member => ?_⟩
  obtain ⟨n, machine, low, high, decided, answers⟩ := accounts d moment p member
  refine ⟨n, low, high, decided, fun key => ?_, fun answer sent plain => ?_⟩
  · rw [machine]
    exact values_replayed commands n key
  · obtain ⟨place, below, took, answered⟩ := answers answer sent plain
    refine ⟨place, below, took, fun key reads => ?_⟩
    rw [reads] at answered
    rw [← values_replayed]
    exact (Except.ok.inj answered).symm

theorem values_kept_read :
    ∃ commands : Nat → Command, ∃ n ≥ 1, (∀ i < n, ∃ q < 3, (q, commands i) ∈
        Deployment.readOn.calls) ∧
      latest (sets "k") ((List.range n).map commands) = some "v" ∧
      (Deployment.readOn.hosts 0).runtime.answers.length = 0 ∧
      ∃ place, ⟨0, place, .get "k", none⟩ ∈ Deployment.readBack.placed ∧
        (commands place = .get "k" →
          latest (sets "k") ((List.range place).map commands) = some "v") := by
  obtain ⟨past, earlier, run⟩ := Deployment.readOn_run
  obtain ⟨commands, accounts⟩ := values_kept (by decide) run
  obtain ⟨n, low, -, decided, values, -⟩ :=
    accounts Deployment.readOn (List.mem_append_right _ (List.mem_singleton_self _)) 1 (by decide)
  obtain ⟨_, -, -, -, -, answers⟩ := accounts Deployment.readBack earlier 0 (by decide)
  have facts : (Deployment.readOn.hosts 1).runtime.lastAppliedCommandId = 1 ∧
      (Deployment.readOn.hosts 1).runtime.stateMachine.values "k" = some "v" ∧
      (Deployment.readOn.hosts 0).runtime.answers.length = 0 ∧
      (⟨1, .get "k", none⟩, (some "v" : Option String)) ∈
        (Deployment.readBack.hosts 0).runtime.answers ∧
      ∀ place ∈ Deployment.readBack.placed, place.request = none := by
    decide +kernel
  obtain ⟨once, value, silent, sent, plain⟩ := facts
  obtain ⟨place, -, ⟨request, placed⟩, answered⟩ := answers _ sent rfl
  obtain rfl : request = none := plain _ placed
  exact ⟨commands, n, once ▸ low, fun i below => (decided i below).2,
    (values "k").symm.trans value, silent, place, placed, fun reads => (answered "k" reads).symm⟩

end KvStore

end Smr
