import Smr.Cluster.Replies
import Smr.Cluster.Validity
import Smr.Deployment.Decisions
import Smr.Runtime.Outputs

set_option autoImplicit false

namespace Smr

variable {S C : Type} [StateMachine S C]

theorem exists_longest {α : Type} (lists : Nat → List α) (total : Nat)
    (agree : ∀ p < total, ∀ q < total, lists p <+: lists q ∨ lists q <+: lists p) :
    ∃ longest, (∀ p < total, lists p <+: longest) ∧
      (longest = [] ∨ ∃ p < total, longest = lists p) := by
  induction total with
  | zero => exact ⟨[], by simp, .inl rfl⟩
  | succ total ih =>
    obtain ⟨longest, whole, source⟩ := ih fun p inside q inside' =>
      agree p (Nat.lt_succ_of_lt inside) q (Nat.lt_succ_of_lt inside')
    have last := Nat.lt_succ_self total
    have extend (first : longest <+: lists total) : ∃ longest,
        (∀ p < total + 1, lists p <+: longest) ∧
          (longest = [] ∨ ∃ p < total + 1, longest = lists p) := by
      refine ⟨lists total, fun p inside => ?_, .inr ⟨total, last, rfl⟩⟩
      rcases Nat.lt_succ_iff_lt_or_eq.mp inside with earlier | rfl
      · exact (whole p earlier).trans first
      · exact List.prefix_refl _
    rcases source with rfl | ⟨q, inside, rfl⟩
    · exact extend List.nil_prefix
    · rcases agree q (Nat.lt_succ_of_lt inside) total last with first | first
      · exact extend first
      · refine ⟨lists q, fun p inside' => ?_, .inr ⟨q, Nat.lt_succ_of_lt inside, rfl⟩⟩
        rcases Nat.lt_succ_iff_lt_or_eq.mp inside' with earlier | rfl
        · exact whole p earlier
        · exact first

namespace Deployment

section Step

variable [Bincode (Message C)] [DecidableEq C] [Serde Nat] [Serde C] [Serde (AcceptedValue C)]
  {total p : Nat} {initial : S} {d t : Deployment S C}

def Took (d : Deployment S C) (p place : Nat) (sender : Oneshot C) : Prop :=
  sender.forwardId = none → ∃ request, ⟨p, place, sender.command, request⟩ ∈ d.placed

theorem Runs.placed_grows {task : Task C} (runs : Runs total initial d p task t) :
    d.placed ⊆ t.placed := by
  cases runs with
  | propose | handle => exact List.subset_append_left _ _
  | hand | cancel | forward | receive | respond | advance | restart => exact List.Subset.refl _

theorem Runs.serves {task : Task C} (stays : NoRestart (.run p task)) (member : p < total)
    (registered : Cluster.Registered d.cluster p (d.cluster.nodes p))
    (serves : ∀ q < total, Runtime.Serves initial (d.Took q) (d.hosts q).runtime)
    (runs : Runs total initial d p task t) :
    ∀ q < total, Runtime.Serves initial (t.Took q) (t.hosts q).runtime := by
  have later (q place : Nat) (sender : Oneshot C) (took : d.Took q place sender) :
      t.Took q place sender := fun plain => by
    obtain ⟨request, placed⟩ := took plain
    exact ⟨request, runs.placed_grows placed⟩
  intro q inside
  rcases runs.runtime q with same | ⟨rfl, -⟩
  · exact same ▸ (serves q inside).mono (later q)
  · refine Runtime.Serves.mono ?_ (later q)
    have own := serves q member
    cases runs with
    | hand | cancel | forward | receive | respond =>
      simpa only [put, Function.update_self] using own
    | propose free listens done =>
      simp only [put, Function.update_self]
      exact own.still (by rw [listens]; rfl) (by rw [listens]; rfl) rfl rfl rfl rfl
    | handle read free listens done =>
      simp only [put, Function.update_self]
      exact own.still (by rw [listens]; rfl) rfl rfl rfl rfl rfl
    | advance answered advances =>
      simp only [put, Function.update_self]
      exact own.advance (SmrRuntime.advance_some advances) fun sender waits plain =>
        registered.direct _ sender waits plain
    | restart => exact stays.elim

omit [Bincode (Message C)] [DecidableEq C] in
theorem Init.serves (starts : Init total initial d) :
    ∀ q < total, Runtime.Serves initial (d.Took q) (d.hosts q).runtime := by
  intro q inside
  obtain ⟨runtime, boots, same⟩ := starts.boots q inside
  rw [same]
  cases boots with
  | new => exact ⟨rfl, rfl, by simp [Host.idle, SmrRuntime.new, Point.sender],
      by simp [Host.idle, SmrRuntime.new, Point.output], by simp [Host.idle, SmrRuntime.new]⟩
  | withStorage blank built =>
    obtain ⟨node, -, rfl⟩ := Runtime.withStorage_blank blank built
    exact ⟨rfl, rfl, by simp [Host.idle, SmrRuntime.new, Point.sender],
      by simp [Host.idle, SmrRuntime.new, Point.output], by simp [Host.idle, SmrRuntime.new]⟩

theorem serves_reachable {guard : Cluster C → Smr.Action C → Prop} (bounded : total ≤ 2 ^ 32)
    (reachable : (system total initial).Reachable
      (fun d a => d.Short a ∧ NoRestart a ∧ d.Meets guard a) d) :
    ∀ q < total, Runtime.Serves initial (d.Took q) (d.hosts q).runtime := by
  refine reachable.invariant
    (fun d => ∀ q < total, Runtime.Serves initial (d.Took q) (d.hosts q).runtime)
    (fun _ starts => Init.serves starts) ?_
  intro d a t before serves allowed next
  have reached := (simulates_reachable bounded
    (before.mono fun _ _ allowed => ⟨allowed.1, allowed.2.2⟩)).2
  cases step_moves next with
  | run member runs =>
    exact runs.serves allowed.2.1 member (Cluster.registered_reachable reached _ member) serves
  | network => exact serves

omit [Bincode (Message C)] [DecidableEq C] [Serde Nat] [Serde C] [Serde (AcceptedValue C)] in
theorem learned_holds {instanceId : Nat} {command : C}
    (learned : (d.hosts p).runtime.learned instanceId = some command) :
    d.cluster.Holds instanceId p command :=
  ((d.hosts p).runtime.algorithm.instanceAt_getValue instanceId).trans learned

theorem common_log (bounded : total ≤ 2 ^ 32)
    (reachable : (system total initial).Reachable
      (fun d a => d.Short a ∧ NoRestart a ∧ d.Meets (Cluster.RaceFree total) a) d) :
    ∃ log : List C, (∀ command ∈ log, ∃ q < total, (q, command) ∈ d.calls) ∧
      ∀ p < total, (d.hosts p).runtime.passed <+: log := by
  have reached := (simulates_reachable bounded
    (reachable.mono fun _ _ allowed => ⟨allowed.1, allowed.2.2⟩)).2
  have order {p : Nat} (member : p < total) :=
    Runtime.inOrder_reachable ((runtime_reachable
      (fun (_ : True) _ _ allowed => allowed.2.1) member reachable).mono
        fun _ _ stays => stays trivial)
  have agree {p q : Nat} (hp : p < total) (hq : q < total) (instanceId : Nat) (value other : C)
      (left : (d.hosts p).runtime.learned instanceId = some value)
      (right : (d.hosts q).runtime.learned instanceId = some other) : value = other :=
    decided_agree reached (held_decided reached hp (learned_holds left))
      (held_decided reached hq (learned_holds right))
  obtain ⟨log, whole, source⟩ := exists_longest (fun p => (d.hosts p).runtime.passed) total
    fun p hp q hq => by
      rcases Nat.le_total ((d.hosts p).runtime.lastAppliedCommandId +
        (d.hosts p).runtime.point.applies) ((d.hosts q).runtime.lastAppliedCommandId +
        (d.hosts q).runtime.point.applies) with le | le
      · exact .inl (Runtime.prefix_of_agree (order hp).passed (order hq).passed (agree hp hq) le)
      · exact .inr (Runtime.prefix_of_agree (order hq).passed (order hp).passed (agree hq hp) le)
  refine ⟨log, fun command listed => ?_, whole⟩
  rcases source with rfl | ⟨p, member, rfl⟩
  · simp at listed
  · have known : some command ∈ (d.hosts p).runtime.passed.map some :=
      List.mem_map_of_mem listed
    rw [(order member).passed] at known
    obtain ⟨instanceId, -, learned⟩ := List.mem_map.mp known
    obtain ⟨placement, placed, -, rfl⟩ :=
      (Synod.valid_reachable ((Cluster.refines_unruled reached).views instanceId)).held p member
        command (.inr (.inr (learned_holds learned)))
    exact (Cluster.sourced_reachable reached).placed placement placed

end Step

theorem replicated [Bincode (Message C)] [DecidableEq C] [Serde Nat] [Serde C]
    [Serde (AcceptedValue C)] {total : Nat} {initial : S} {d : Deployment S C}
    (bounded : total ≤ 2 ^ 32)
    (reachable : (system total initial).Reachable
      (fun d a => d.Short a ∧ NoRestart a ∧ d.Meets (Cluster.RaceFree total) a) d) :
    ∃ log : List C,
      (∀ command ∈ log, ∃ q < total, (q, command) ∈ d.calls) ∧
      ∀ p < total, (d.hosts p).runtime.passed <+: log ∧
        (d.hosts p).runtime.stateMachine = applied initial (d.hosts p).runtime.passed ∧
        ∀ answer ∈ (d.hosts p).runtime.answers, answer.1.forwardId = none →
          ∃ place ∈ d.placed, place.nodeId = p ∧ place.command = answer.1.command ∧
            outputAt initial log place.instanceId = some answer.2 := by
  obtain ⟨log, called, whole⟩ := common_log bounded reachable
  have serves := serves_reachable bounded reachable
  refine ⟨log, called, fun p member => ⟨whole p member, (serves p member).machine,
    fun answer sent plain => ?_⟩⟩
  obtain ⟨place, took, found⟩ := (serves p member).answers answer sent
  obtain ⟨request, placed⟩ := took plain
  exact ⟨_, placed, rfl, rfl, outputAt_prefix (whole p member) found⟩

theorem replicated_paid :
    ∃ log : List Nat, (paid.hosts 1).runtime.passed <+: log ∧
      ∃ place ∈ paid.placed, place.nodeId = 0 ∧ place.command = 7 ∧
        outputAt (⟨10⟩ : Runtime.Purse) log place.instanceId = some (3 : Nat) := by
  have sent : (⟨0, 7, none⟩, (3 : Nat)) ∈ (paid.hosts 0).runtime.answers := by decide +kernel
  obtain ⟨log, -, replicas⟩ := replicated (by decide) paid_reachable
  exact ⟨log, (replicas 1 (by decide)).1, (replicas 0 (by decide)).2.2 _ sent rfl⟩

end Deployment

end Smr
