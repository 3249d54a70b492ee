import Smr.Cluster.Agreement
import Smr.Synod.Oracle

set_option autoImplicit false

namespace Smr

variable {C : Type}

namespace Cluster

def oracle (s : Cluster C) (id : Nat) : Paxos C :=
  (s.view id).oracle id

theorem oracle_refined [DecidableEq C] [Serde Nat] [Serde (AcceptedValue C)] {total : Nat}
    {s : Cluster C}
    (reachable : (system total).Reachable (fun s a => s.Once a ∧ s.Ordinary a) s) (id : Nat) :
    (Paxos.spec (Finset.range total) (quorumOf total)).Reachable (fun _ _ => True)
        (s.oracle id) ∧
      ∀ a t, s.Once a → s.Ordinary a → step total s a = some t →
        ∃ msgs, t.sent = s.sent ++ msgs ∧
          Synod.Behaves total id (s.oracle id) msgs (t.oracle id) := by
  have refines : Refines { once := True, raceFree := False, ordinary := True } total s :=
    refines_reachable (reachable.mono fun _ _ allowed =>
      ⟨fun _ => allowed.1, False.elim, fun _ => allowed.2⟩)
  refine ⟨Synod.spec_reachable trivial trivial (refines.views id),
    fun a t once ordinary next => ?_⟩
  have steps := refines.views_step ⟨fun _ => once, False.elim, fun _ => ordinary⟩
    (step_moves next) id
  exact Synod.steps_emit trivial trivial (refines.views id) steps

def promisedRun : List (Action Nat) :=
  [.propose 2 1, .deliver 0 0, .deliver 2 2]

def promised : Cluster Nat :=
  Run.System.final (step 3) (fun s a => s.Once a ∧ s.Ordinary a) (boot 3) promisedRun

theorem oracle_refined_promised :
    ∃ t msgs, step 3 promised (.deliver 0 3) = some t ∧ t.sent = promised.sent ++ msgs ∧
      Synod.Behaves 3 0 (promised.oracle 0) msgs (t.oracle 0) := by
  have reachable : (system 3).Reachable (fun s a => s.Once a ∧ s.Ordinary a) promised :=
    Run.System.final_reachable (fun _ _ _ next => next) (.init (boot_init 3)) (by decide +kernel)
  obtain ⟨t, next⟩ := Option.isSome_iff_exists.mp
    (show (step 3 promised (.deliver 0 3)).isSome by decide +kernel)
  obtain ⟨msgs, sent, behaves⟩ := (oracle_refined reachable 0).2 (.deliver 0 3) t
    (by decide +kernel) (by decide +kernel) next
  exact ⟨t, msgs, next, sent, behaves⟩

end Cluster

end Smr
