import Smr.Cluster.Refinement
import Smr.Storage.Json
import Smr.Synod.Retrying

set_option autoImplicit false

namespace Smr

variable {C : Type}

namespace MultiPaxosNode

variable {node : MultiPaxosNode C} {instanceId : Nat} {cmd : C} {first : MessageKind C}
  {inst : PaxosInstance C}

theorem Opens.aims (opens : node.Opens instanceId cmd first inst) (refusal : Option Refusal) :
    inst.Aims refusal first := by
  constructor
  · intro accept ballot count nacks
    cases opens <;> simp [MessageKind.nacks] at nacks
  · intro refused accept ballot count refuses counting
    have asking := PaxosInstance.refuses_asking refuses
    cases opens <;> cases asking <;> cases counting <;> rfl

theorem Opens.silent (opens : node.Opens instanceId cmd first inst) (id : Nat) :
    first.nacks = none ∧
      (node.firstTrace instanceId first).filterMap (TraceEvent.refusal id) = [] := by
  cases opens <;> exact ⟨rfl, rfl⟩

end MultiPaxosNode

namespace Cluster

-- A call is given no nack, and no ask its own acceptor refuses, that would count against
-- a ballot other than the one refused.
def Aimed (s : Cluster C) : Action C → Prop
  | .deliver p k => ∀ m ∈ s.sent[k]?, ((s.nodes p).instanceAt m.paxosInstance).Aims
      ((s.view m.paxosInstance).answered m.paxosInstance k) m.msg
  | _ => True

instance (s : Cluster C) : (a : Action C) → Decidable (s.Aimed a)
  | .deliver p k => inferInstanceAs (Decidable (∀ m ∈ s.sent[k]?,
      ((s.nodes p).instanceAt m.paxosInstance).Aims
        ((s.view m.paxosInstance).answered m.paxosInstance k) m.msg))
  | .propose _ _ | .getCommitId _ _ | .crash _ => .isTrue trivial

section Runs

variable [DecidableEq C] [Serde Nat] [Serde (AcceptedValue C)] {total : Nat} {s : Cluster C}

theorem Aimed.fits {a : Action C} (aimed : s.Aimed a)
    (paired : ∀ id, (s.view id).Paired id) : Fits (Synod.aiming total) s a where
  delivered p k m same _ _ arrived := by
    subst same
    exact ⟨paired _, aimed m arrived⟩
  opened p cmd first inst placed _ opens := by
    obtain ⟨silent, unrefused⟩ := opens.silent (s.nodes p).nextInstanceId
    refine ⟨(paired _).act (by simp [silent, unrefused]), ?_⟩
    rw [Synod.act_inst_self]
    exact opens.aims _

theorem held_reachable (reachable : (system total).Reachable (fun s a => s.Once a ∧ s.Aimed a) s)
    (id : Nat) :
    (Synod.system total id).Reachable
      (Synod.Held { once := True, raceFree := False, ordinary := False } (Synod.aiming total) id)
      (s.view id) := by
  induction reachable generalizing id with
  | init starts => exact .init (starts.view id)
  | step before allowed next ih =>
    have refines : Refines { once := True, raceFree := False, ordinary := False } total _ :=
      refines_reachable (before.mono fun _ _ allowed =>
        ⟨fun _ => allowed.1, False.elim, False.elim⟩)
    refine (ih id).steps (refines.views_held ⟨fun _ => allowed.1, False.elim, False.elim⟩
      (allowed.2.fits fun other => ?_) (step_moves next) id)
    exact (Synod.refusing_reachable trivial (ih other)).paired

end Runs

theorem givesUp_at {s : Cluster C} {id p ballot j k : Nat} {message : MessageKind C}
    {prepare : Prepare} (before : j < k)
    (asked : s.sent[j]? = some { senderId := p, paxosInstance := id, msg := message })
    (asks : message.asks = some ballot)
    (opens : s.sent[k]? = some { senderId := p, paxosInstance := id, msg := .prepareMsg prepare })
    (between : ∀ i < k, j < i → ∀ m ∈ s.sent[i]?, m.senderId = p → m.paxosInstance = id →
      m.msg.asks = none) : (s.view id).GivesUp id p ballot :=
  ⟨j, k, message, prepare, before, asked, asks, opens,
    fun i _ after inside sent => between i inside after _ sent rfl rfl⟩

theorem abandoned_refused [DecidableEq C] [Serde Nat] [Serde (AcceptedValue C)] {total id : Nat}
    {s : Cluster C} (reachable : (system total).Reachable (fun s a => s.Once a ∧ s.Aimed a) s) :
    (∀ p ballot, (s.view id).GivesUp id p ballot →
      total - quorumOf total < ((s.view id).refusers total id ballot).card) ∧
    ∀ p < total, ∀ accept ballot count,
      ((s.nodes p).instanceAt id).proposer.innerState.nacked accept = some (ballot, count) →
      (s.view id).Nacked id p ballot count accept := by
  have refusing := Synod.refusing_reachable trivial (held_reachable reachable id)
  exact ⟨refusing.refused, refusing.tallies⟩

def refusedRun : List (Action Nat) :=
  [.propose 1 1, .deliver 0 0, .propose 2 2, .deliver 0 3, .deliver 1 3, .deliver 1 2,
    .deliver 0 7, .deliver 1 9]

def refusedRound : Cluster Nat :=
  Run.System.final (step 3) (fun s a => s.Once a ∧ s.Aimed a) (boot 3) refusedRun

theorem abandoned_refused_round :
    (refusedRound.view 0).GivesUp 0 1 4 ∧ (refusedRound.view 0).refusers 3 0 4 = {0, 1} ∧
      3 - quorumOf 3 < ((refusedRound.view 0).refusers 3 0 4).card := by
  have reachable : (system 3).Reachable (fun s a => s.Once a ∧ s.Aimed a) refusedRound :=
    Run.System.final_reachable (fun _ _ _ next => next) (.init (boot_init 3)) (by decide +kernel)
  have gives : (refusedRound.view 0).GivesUp 0 1 4 :=
    givesUp_at (by decide)
      (show refusedRound.sent[7]? = some ⟨1, 0, .acceptMsg ⟨1, 4, 1⟩⟩ by decide +kernel) rfl
      (show refusedRound.sent[10]? = some ⟨1, 0, .prepareMsg ⟨1, 7⟩⟩ by decide +kernel)
      (by decide +kernel)
  exact ⟨gives, by decide +kernel, (abandoned_refused reachable).1 1 4 gives⟩

-- Nodes 1 and 2 refuse ballot 3 of node 0. Node 1 counts both nacks against its own ballot 4.
def misledRun : List (Action Nat) :=
  [.propose 1 1, .propose 0 2, .deliver 1 2, .deliver 2 0, .deliver 2 2, .deliver 1 6]

def misled : Cluster Nat :=
  Run.System.final (step 3) (fun s a => s.Once a ∧ NoCrash a) (boot 3) misledRun

theorem abandoned_unrefused :
    ¬ ∀ (total : Nat) (s : Cluster Nat),
      (system total).Reachable (fun s a => s.Once a ∧ NoCrash a) s →
      ∀ id p ballot, (s.view id).GivesUp id p ballot →
        total - quorumOf total < ((s.view id).refusers total id ballot).card := by
  intro refused
  have reachable : (system 3).Reachable (fun s a => s.Once a ∧ NoCrash a) misled :=
    Run.System.final_reachable (fun _ _ _ next => next) (.init (boot_init 3)) (by decide +kernel)
  have gives : (misled.view 0).GivesUp 0 1 4 :=
    givesUp_at (by decide)
      (show misled.sent[0]? = some ⟨1, 0, .prepareMsg ⟨1, 4⟩⟩ by decide +kernel) rfl
      (show misled.sent[7]? = some ⟨1, 0, .prepareMsg ⟨1, 7⟩⟩ by decide +kernel)
      (by decide +kernel)
  exact absurd (refused 3 misled reachable 0 1 4 gives) (by decide +kernel)

end Cluster

end Smr
