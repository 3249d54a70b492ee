import Smr.Deployment.Replication

set_option autoImplicit false

namespace Smr

variable {S C : Type} [StateMachine S C]

namespace Deployment

section Step

variable [Bincode (Message C)] [DecidableEq C] [Serde Nat] [Serde C] [Serde (AcceptedValue C)]
  {total p : Nat} {initial : S} {d t : Deployment S C}

omit [Bincode (Message C)] in
theorem passed_grows {config : SmrConfig} {s s' : SmrRuntime S C} {b : Runtime.Action C}
    (stays : Runtime.NoCrash b) (next : Runtime.step config initial s b = some s') :
    s.passed <+: s'.passed := by
  cases b with
  | deliver message =>
    simp only [Runtime.step] at next
    split at next
    next =>
      obtain rfl := Option.some.inj next
      exact List.prefix_refl _
    next => simp at next
  | propose command =>
    simp only [Runtime.step] at next
    split at next
    next =>
      obtain rfl := Option.some.inj next
      exact List.prefix_refl _
    next => simp at next
  | advance =>
    cases SmrRuntime.advance_some next with
    | apply | reject => exact List.prefix_append _ _
    | fetch | drain | append | mark | send | count => exact List.prefix_refl _
  | crash => exact stays.elim

theorem steps_passed {guard : Deployment S C → Action C → Prop}
    (stays : ∀ d a, guard d a → NoRestart a) (steps : (system total initial).Steps guard d t)
    (p : Nat) : (d.hosts p).runtime.passed <+: (t.hosts p).runtime.passed := by
  induction steps with
  | refl => exact List.prefix_refl _
  | tail _ last ih =>
    obtain ⟨a, allowed, next⟩ := last
    refine ih.trans ?_
    cases step_moves next with
    | run member runs =>
      rcases runs.runtime p with same | ⟨rfl, b, kept, stepped⟩
      · exact same ▸ List.prefix_refl _
      · exact passed_grows (kept (stays _ _ allowed)) stepped
    | network => exact List.prefix_refl _

omit [DecidableEq C] [Serde Nat] [Serde C] [Serde (AcceptedValue C)] [Bincode (Message C)] in
theorem outputAt_inside {commands : List C} {place : Nat} {output : StateMachine.Output S}
    (found : outputAt initial commands place = some output) : place < commands.length := by
  obtain ⟨command, here, -⟩ := Option.bind_eq_some_iff.mp found
  exact (List.getElem?_eq_some_iff.mp here).1

end Step

theorem linearized [Bincode (Message C)] [DecidableEq C] [Serde Nat] [Serde C]
    [Serde (AcceptedValue C)] {total : Nat} {initial : S} {d t : Deployment S C}
    (bounded : total ≤ 2 ^ 32)
    (reachable : (system total initial).Reachable
      (fun d a => d.Short a ∧ NoRestart a ∧ d.Meets (Cluster.RaceFree total) a) d)
    (steps : (system total initial).Steps
      (fun d a => d.Short a ∧ NoRestart a ∧ d.Meets (Cluster.RaceFree total) a) d t) :
    ∃ log : List C,
      (∀ p < total, (t.hosts p).runtime.passed <+: log ∧
        (t.hosts p).runtime.stateMachine = applied initial (t.hosts p).runtime.passed) ∧
      ∀ p < total, ∀ answer ∈ (d.hosts p).runtime.answers, answer.1.forwardId = none →
        ∃ place ∈ d.placed, place.nodeId = p ∧ place.command = answer.1.command ∧
          outputAt initial log place.instanceId = some answer.2 ∧
          ∀ command later, log[later]? = some command → (∀ q < total, (q, command) ∉ d.calls) →
            place.instanceId < later := by
  have reachable' := reachable.steps steps
  obtain ⟨log, -, whole⟩ := common_log bounded reachable'
  obtain ⟨earlier, called, whole'⟩ := common_log bounded reachable
  have serves := serves_reachable bounded reachable
  have serves' := serves_reachable bounded reachable'
  refine ⟨log, fun p member => ⟨whole p member, (serves' p member).machine⟩,
    fun p member answer sent plain => ?_⟩
  obtain ⟨place, took, found⟩ := (serves p member).answers answer sent
  obtain ⟨request, placed⟩ := took plain
  have before := (steps_passed (fun _ _ allowed => allowed.2.1) steps p).trans (whole p member)
  refine ⟨_, placed, rfl, rfl, outputAt_prefix before found, fun command later listed new => ?_⟩
  -- What was applied by then had been proposed by then.
  by_contra ahead
  have inside : later < (d.hosts p).runtime.passed.length := by
    have := outputAt_inside found
    dsimp only at ahead
    omega
  have known := List.prefix_iff_getElem?.mp before later inside
  obtain rfl := Option.some.inj (known.symm.trans listed)
  obtain ⟨q, member', calls⟩ := called _ ((whole' p member).subset (List.getElem_mem inside))
  exact new q member' calls

def repaidRun : List (Action Nat) :=
  [.run 0 (.propose 2), .run 0 .hand, .run 0 .hand, .run 0 .forward, .run 0 .forward] ++
  serve 1 0 ++ serve 1 1 ++ serve 1 0 ++ serve 0 1 ++ serve 1 1 ++
  List.replicate 6 (.run 1 .advance)

def repaid : Deployment Runtime.Purse Nat :=
  Run.System.final (step 3 ⟨10⟩)
    (fun d a => d.Short a ∧ NoRestart a ∧ d.Meets (Cluster.RaceFree 3) a) paid repaidRun

theorem linearized_repaid :
    (repaid.hosts 1).runtime.passed = [7, 2] ∧
      ∃ log : List Nat, (repaid.hosts 1).runtime.passed <+: log ∧
        ∃ place ∈ paid.placed, place.command = 7 ∧ place.instanceId < 1 := by
  have steps : (system 3 (⟨10⟩ : Runtime.Purse)).Steps
      (fun d a => d.Short a ∧ NoRestart a ∧ d.Meets (Cluster.RaceFree 3) a) paid repaid :=
    Run.System.final_steps (fun _ _ _ next => next) (by decide +kernel)
  have facts : (⟨0, 7, none⟩, (3 : Nat)) ∈ (paid.hosts 0).runtime.answers ∧
      (repaid.hosts 1).runtime.passed = [7, 2] ∧ ∀ q < 3, (q, 2) ∉ paid.calls := by
    decide +kernel
  obtain ⟨sent, passed, new⟩ := facts
  obtain ⟨log, whole, orders⟩ := linearized (by decide) paid_reachable steps
  obtain ⟨place, placed, -, command, -, later⟩ := orders 0 (by decide) _ sent rfl
  refine ⟨passed, log, (whole 1 (by decide)).1, place, placed, command, later 2 1 ?_ new⟩
  obtain ⟨rest, rfl⟩ := passed ▸ (whole 1 (by decide)).1
  rfl

end Deployment

end Smr
