import Smr.Cluster.Agreement
import Smr.Synod.Validity

set_option autoImplicit false

namespace Smr

variable {C : Type}

namespace Cluster

-- A sender that no forward id stands on was put there by a call of its node, which took
-- the instance for the sender's command.
structure Registered (s : Cluster C) (p : Nat) (node : MultiPaxosNode C) : Prop where
  direct : ∀ id sender, node.pendingSenders id = some sender → sender.forwardId = none →
    ∃ request, ⟨p, id, sender.command, request⟩ ∈ s.placed
  labelled : ∀ f sender, node.forwardedSenders f = some sender → sender.forwardId = some f

def Uncontested (s : Cluster C) (a : Action C) : Prop :=
  ∀ new ∈ s.placement a, ∀ old ∈ s.placed, old.instanceId = new.instanceId →
    old.command = new.command

instance [DecidableEq C] (s : Cluster C) (a : Action C) : Decidable (s.Uncontested a) := by
  unfold Uncontested
  infer_instance

theorem Registered.same {s t : Cluster C} {p : Nat} {node after : MultiPaxosNode C}
    (registered : Registered s p node) (placed : s.placed ⊆ t.placed)
    (pending : after.pendingSenders = node.pendingSenders)
    (forwarded : after.forwardedSenders = node.forwardedSenders) : Registered t p after where
  direct id sender waits plain := by
    obtain ⟨request, member⟩ := registered.direct id sender (pending ▸ waits) plain
    exact ⟨request, placed member⟩
  labelled := forwarded ▸ registered.labelled

variable [DecidableEq C] [Serde (AcceptedValue C)]

section Reached

variable [Serde Nat]

theorem Registered.starts {s t : Cluster C} {p : Nat} {node after : MultiPaxosNode C} {cmd : C}
    {msgs : List (Message C)} {events : List (TraceEvent C)} {request : Option (Nat × Nat)}
    (registered : Registered s p node) (starts : node.Starts cmd msgs after events)
    (placed : t.placed = s.placed ++ [⟨p, node.nextInstanceId, cmd, request⟩]) :
    Registered t p after := by
  obtain ⟨-, -, pending, forwarded, -, -⟩ := starts.books
  refine ⟨fun id sender waits plain => ?_, forwarded ▸ registered.labelled⟩
  rw [pending] at waits
  by_cases new : id = node.nextInstanceId
  · subst new
    rw [Function.update_self, Option.some.injEq] at waits
    exact ⟨request, by simp [placed, ← waits]⟩
  · rw [Function.update_of_ne new] at waits
    obtain ⟨request, member⟩ := registered.direct id sender waits plain
    exact ⟨request, by simp [placed, member]⟩

omit [DecidableEq C] [Serde (AcceptedValue C)] [Serde Nat] in
theorem Registered.fresh {s : Cluster C} {p : Nat} {node : MultiPaxosNode C}
    (pending : node.pendingSenders = fun _ => none)
    (forwarded : node.forwardedSenders = fun _ => none) : Registered s p node where
  direct id sender waits := by simp [pending] at waits
  labelled f sender waits := by simp [forwarded] at waits

theorem Registered.step {total : Nat} {s t : Cluster C} {a : Action C}
    (registered : ∀ p < total, Registered s p (s.nodes p)) (moves : Moves total s a t) :
    ∀ p < total, Registered t p (t.nodes p) := by
  have becomes {p : Nat} {node : MultiPaxosNode C} {msgs : List (Message C)}
      {trace : List (TraceEvent C)} {heard : List (Nat × Nat)} {calls : List (Nat × C)}
      {placed : List (Placement C)}
      (here : Registered (s.called p node msgs trace heard calls placed) p node) :
      ∀ q < total, Registered (s.called p node msgs trace heard calls placed) q
        ((s.called p node msgs trace heard calls placed).nodes q) :=
    called_each _ here fun q inside _ =>
      (registered q inside).same (List.subset_append_left _ _) rfl rfl
  have older {placed : List (Placement C)} : s.placed ⊆ s.placed ++ placed :=
    List.subset_append_left _ _
  cases moves with
  | @forward p cmd member forwards =>
    refine becomes ⟨fun id sender waits plain => ?_, fun f sender waits => ?_⟩
    · obtain ⟨request, member⟩ := (registered p member).direct id sender waits plain
      exact ⟨request, older member⟩
    · by_cases new : f = (s.nodes p).nextForwardId
      · subst new
        simp only [MultiPaxosNode.afterForward, Function.update_self, Option.some.injEq] at waits
        rw [← waits]
      · simp only [MultiPaxosNode.afterForward, Function.update_of_ne new] at waits
        exact (registered p member).labelled f sender waits
  | @start p cmd msgs after events member stays starts =>
    exact becomes ((registered p member).starts starts rfl)
  | @dropped p _ _ _ _ _ member => exact becomes ((registered p member).same older rfl rfl)
  | @taken p k sender instanceId forwardId cmd msgs after events member other arrived leads
      starts =>
    have started := (registered p member).starts (t := s.called p
      (after.afterRequest (s.nodes p).nextInstanceId sender forwardId)
      (msgs ++ [(s.nodes p).broadcast (s.nodes p).nextInstanceId
        (.forwardAck forwardId (s.nodes p).nextInstanceId)]) events [(k, p)] []
      [⟨p, (s.nodes p).nextInstanceId, cmd, some (sender, forwardId)⟩]) starts rfl
    exact becomes (started.same (List.Subset.refl _) rfl rfl)
  | @acked p k sender forwardId paxosInstance instanceId member =>
    refine becomes ?_
    unfold MultiPaxosNode.handleForwardAck
    split
    next moved found =>
      refine ⟨fun id sender waits plain => ?_, fun f sender waits => ?_⟩
      · by_cases new : id = instanceId
        · subst new
          simp only [Function.update_self, Option.some.injEq] at waits
          have label := (registered p member).labelled forwardId moved found
          rw [waits, plain] at label
          simp at label
        · simp only [Function.update_of_ne new] at waits
          obtain ⟨request, member⟩ := (registered p member).direct id sender waits plain
          exact ⟨request, older member⟩
      · by_cases gone : f = forwardId
        · subst gone
          simp at waits
        · simp only [Function.update_of_ne gone] at waits
          exact (registered p member).labelled f sender waits
    next => exact (registered p member).same older rfl rfl
  | @synod p _ _ _ _ _ _ member => exact becomes ((registered p member).same older rfl rfl)
  | @asked p instanceId member =>
    refine becomes ?_
    unfold MultiPaxosNode.getCommitId
    split
    next => exact (registered p member).same older rfl rfl
    next =>
      refine ⟨fun id sender waits plain => ?_, (registered p member).labelled⟩
      by_cases gone : id = instanceId
      · subst gone
        simp at waits
      · simp only [Function.update_of_ne gone] at waits
        obtain ⟨request, member⟩ := (registered p member).direct id sender waits plain
        exact ⟨request, older member⟩
  | @crashed p storage node member stored built =>
    obtain ⟨-, pending, forwarded, -⟩ := MultiPaxosNode.withStorage_forgets built
    exact becomes (.fresh pending forwarded)

omit [DecidableEq C] in
theorem Boots.registered {total p : Nat} {s : Cluster C} {node : MultiPaxosNode C}
    (boots : Boots total p node) : Registered s p node := by
  cases boots with
  | new => exact .fresh rfl rfl
  | withStorage storage node empty built =>
    obtain ⟨-, pending, forwarded, -⟩ := MultiPaxosNode.withStorage_forgets built
    exact .fresh pending forwarded

theorem registered_reachable {total : Nat} {s : Cluster C} {guard : Cluster C → Action C → Prop}
    (reachable : (system total).Reachable guard s) : ∀ p < total, Registered s p (s.nodes p) :=
  reachable.invariant (fun s => ∀ p < total, Registered s p (s.nodes p))
    (fun _ starts p member => (starts.boots p member).registered)
    fun _ _ _ _ before _ next => Registered.step before (step_moves next)

theorem uncontested_reachable {total : Nat} {s : Cluster C}
    (reachable : (system total).Reachable Uncontested s) :
    ∀ x ∈ s.placed, ∀ y ∈ s.placed, x.instanceId = y.instanceId → x.command = y.command := by
  refine reachable.invariant (fun s => ∀ x ∈ s.placed, ∀ y ∈ s.placed,
    x.instanceId = y.instanceId → x.command = y.command)
    (fun s starts x member => by simp [starts.placed] at member) ?_
  intro s a t _ before allowed next x hx y hy same
  rw [step_placed next, List.mem_append, Option.mem_toList] at hx hy
  rcases hx with oldx | newx <;> rcases hy with oldy | newy
  · exact before x oldx y oldy same
  · exact allowed y newy x oldx same
  · exact (allowed x newx y oldy same.symm).symm
  · rw [Option.mem_unique newx newy]

end Reached

theorem answered_own [Serde Nat] {total p id : Nat} {s : Cluster C} {value : C}
    {sender : Oneshot C} (reachable : (system total).Reachable Uncontested s)
    (member : p < total) (answered : ((s.nodes p).getCommitId id).1 = some (value, some sender))
    (direct : sender.forwardId = none) : value = sender.command := by
  have refines := refines_unruled reachable
  have found : s.committed id p = some value ∧ (s.nodes p).pendingSenders id = some sender := by
    refine ⟨by rw [committed, answered, Option.map_some], ?_⟩
    unfold MultiPaxosNode.getCommitId at answered
    split at answered
    · simp at answered
    · exact congrArg Prod.snd (Option.some.inj answered)
  obtain ⟨placement, placed, here, command⟩ :=
    (Synod.valid_reachable (refines.views id)).held p member value
      (.inr (.inr (committed_holds found.1)))
  obtain ⟨request, own⟩ := (registered_reachable reachable p member).direct id sender found.2 direct
  rw [← command]
  exact uncontested_reachable reachable placement placed _ own here

def aloneRun : List (Action Nat) :=
  [.propose 0 1, .deliver 1 0, .deliver 0 2, .deliver 1 3, .deliver 0 5, .deliver 1 6, .deliver 0 7]

def alone : Cluster Nat :=
  Run.System.final (step 3) Uncontested (boot 3) aloneRun

theorem answered_own_alone :
    ((alone.nodes 0).getCommitId 0).1 = some (1, some ⟨0, 1, none⟩) ∧ (1 : Nat) = 1 := by
  have reachable : (system 3).Reachable Uncontested alone :=
    Run.System.final_reachable (fun _ _ _ next => next) (.init (boot_init 3)) (by decide +kernel)
  have answered : ((alone.nodes 0).getCommitId 0).1 = some (1, some ⟨0, 1, none⟩) := by
    decide +kernel
  exact ⟨answered, answered_own reachable (by decide) answered rfl⟩

-- Nodes 0 and 2 both take instance 0, node 2 wins it, and node 0 answers its own client
-- for the command of node 2.
def contestRun : List (Action Nat) :=
  [.propose 0 1, .propose 2 2, .deliver 0 2, .deliver 2 4, .deliver 0 5, .deliver 2 7, .deliver 0 8]

def contested : Cluster Nat :=
  Run.System.final (step 3) (fun s a => s.Once a ∧ NoCrash a) (boot 3) contestRun

theorem answered_for_another :
    ¬ ∀ (total : Nat) (s : Cluster Nat),
      (system total).Reachable (fun s a => s.Once a ∧ NoCrash a) s →
      ∀ id p value sender, p < total →
        ((s.nodes p).getCommitId id).1 = some (value, some sender) →
        sender.forwardId = none → value = sender.command := by
  intro own
  have reachable : (system 3).Reachable (fun s a => s.Once a ∧ NoCrash a) contested :=
    Run.System.final_reachable (fun _ _ _ next => next) (.init (boot_init 3)) (by decide +kernel)
  have same := own 3 contested reachable 0 0 2 ⟨0, 1, none⟩ (by decide) (by decide +kernel) rfl
  exact absurd same (by decide)

end Cluster

end Smr
