import Smr.Cluster.Refinement
import Smr.Synod.Safety
import Smr.Storage.Json

set_option autoImplicit false

namespace Smr

variable {C : Type}

namespace Cluster

def Accepted (s : Cluster C) (id p ballot : Nat) (value : C) : Prop :=
  ∃ event ∈ s.trace, event.Votes id p ballot value

instance [DecidableEq C] (s : Cluster C) (id p ballot : Nat) (value : C) :
    Decidable (s.Accepted id p ballot value) := by
  unfold Accepted
  infer_instance

def Carried (s : Cluster C) (id ballot : Nat) (value : C) : Prop :=
  ∃ a ∈ s.acceptsIn id, a.ballot = ballot ∧ a.command = value

def Proposal (s : Cluster C) (total id ballot : Nat) (value : C) : Prop :=
  s.Carried id ballot value ∨ ∃ p < total, s.Accepted id p ballot value ∨
    ((s.nodes p).instanceAt id).acceptor.maxAccepted = some { ballot := ballot, command := value }

def Holds (s : Cluster C) (id p : Nat) (value : C) : Prop :=
  ((s.nodes p).instanceAt id).getValue = some value

def Learned (s : Cluster C) (total id : Nat) (value : C) : Prop :=
  (∃ p ballot, .learn p id ballot value ∈ s.trace) ∨ ∃ p < total, s.Holds id p value

def committed (s : Cluster C) (id p : Nat) : Option C :=
  ((s.nodes p).getCommitId id).1.map Prod.fst

def Chosen (s : Cluster C) (total id ballot : Nat) (value : C) : Prop :=
  ∃ quorum ⊆ Finset.range total, total / 2 + 1 ≤ quorum.card ∧
    ∀ p ∈ quorum, s.Accepted id p ballot value

theorem chosen_iff {s : Cluster C} {total id ballot : Nat} {value : C} :
    s.Chosen total id ballot value ↔ (s.view id).Chosen total id ballot value := by
  unfold Chosen Synod.Chosen Voting.Election.Chosen Voting.Majority
  simp only [Synod.election, Finset.card_range]
  constructor
  · rintro ⟨quorum, inside, many, votes⟩
    exact ⟨quorum, ⟨inside, by omega⟩, votes⟩
  · rintro ⟨quorum, ⟨inside, many⟩, votes⟩
    exact ⟨quorum, inside, by omega, votes⟩

theorem Carried.proposed {s : Cluster C} {id ballot : Nat} {value : C}
    (carried : s.Carried id ballot value) : (s.view id).Proposed id ballot value := by
  obtain ⟨a, listed, rfl, rfl⟩ := carried
  obtain ⟨k, q, sent⟩ := mem_acceptsIn.mp listed
  exact ⟨k, q, a, sent, rfl, rfl⟩

theorem committed_holds {s : Cluster C} {id p : Nat} {value : C}
    (found : s.committed id p = some value) : s.Holds id p value := by
  unfold committed MultiPaxosNode.getCommitId at found
  unfold Holds MultiPaxosNode.instanceAt
  split at found
  next => simp at found
  next command learned =>
    obtain ⟨inst, present, holds⟩ := Option.bind_eq_some_iff.mp learned
    simp only [Option.map_some, Option.some.injEq] at found
    rw [present, Option.getD_some, holds, found]

variable [DecidableEq C] [Serde (AcceptedValue C)]

section Reached

variable [Serde Nat] {total id p : Nat} {s : Cluster C} {guard : Cluster C → Action C → Prop}

theorem stored_reachable (reachable : (storedSystem total).Reachable guard s) :
    (system total).Reachable guard s := by
  induction reachable with
  | init starts => exact .init starts.1
  | step before allowed next ih => exact .step ih allowed next

theorem counting_once (once : ∀ s a, guard s a → s.Once a)
    (reachable : (system total).Reachable guard s) (id : Nat) :
    Synod.Counting total id (s.view id) := by
  have refines : Refines { once := True, raceFree := False, ordinary := False } total s :=
    refines_reachable (reachable.mono fun s a allowed =>
      ⟨fun _ => once s a allowed, False.elim, False.elim⟩)
  exact Synod.counting_reachable (fun _ _ obeys => obeys.1 trivial) (refines.views id)

theorem chosen_agree {rules : Synod.Rules} (safety : ∀ {v : Synod C},
      (Synod.system total id).Reachable (Synod.Obeys rules total id) v → Synod.Safety total id v)
    (refines : Refines rules total s) {left right : Nat} {value other : C}
    (hleft : (s.view id).Chosen total id left value)
    (hright : (s.view id).Chosen total id right other) : value = other := by
  have several : 0 < total := by
    by_contra none_left
    obtain ⟨quorum, ⟨inside, many⟩, -⟩ := hleft
    have few := Finset.card_le_card inside
    simp only [Synod.election, Finset.card_range] at many few
    omega
  exact (safety (refines.views id)).agreement (Synod.proposals_reachable (refines.views id))
    (Synod.acceptors_reachable (refines.views id)) several hleft hright

end Reached

theorem one_value_per_ballot [Serde Nat] {total id ballot : Nat} {s : Cluster C} {value other : C}
    (reachable : (storedSystem total).Reachable (fun _ _ => True) s)
    (left : s.Proposal total id ballot value) (right : s.Proposal total id ballot other) :
    value = other := by
  have refines : Refines { once := False, raceFree := False, ordinary := False } total s :=
    refines_reachable ((stored_reachable reachable).mono fun _ _ _ =>
      ⟨False.elim, False.elim, False.elim⟩)
  have acceptors := Synod.acceptors_reachable (refines.views id)
  have proposed {v : C} (seen : s.Proposal total id ballot v) :
      (s.view id).Proposed id ballot v := by
    rcases seen with carried | ⟨p, member, vote | latest⟩
    · exact carried.proposed
    · exact (acceptors.voted p member ballot v vote).1
    · have vote := (acceptors.latest p member 0).1 _ latest
      exact (acceptors.voted p member ballot v vote).1
  exact (Synod.proposals_reachable (refines.views id)).single (proposed left) (proposed right)

def crashRun : List (Action Nat) :=
  [.propose 2 1, .deliver 0 0, .deliver 2 2, .deliver 0 3, .crash 0, .deliver 2 5, .deliver 0 6,
    .crash 0, .deliver 2 7]

def crashed : Cluster Nat :=
  Run.System.final (step 3) (fun s a => s.Once a ∧ s.Ordinary a) (bootStored 3) crashRun

theorem crashed_reachable :
    (storedSystem 3).Reachable (fun s a => s.Once a ∧ s.Ordinary a) crashed :=
  Run.System.final_reachable (fun _ _ _ next => next) (.init (bootStored_init 3))
    (by decide +kernel)

theorem one_value_per_ballot_crashed :
    crashed.Proposal 3 0 5 1 ∧ crashed.Accepted 0 0 5 1 ∧ (1 : Nat) = 1 := by
  have carried : crashed.Carried 0 5 1 := ⟨⟨2, 5, 1⟩, by decide +kernel, rfl, rfl⟩
  have accepted : crashed.Accepted 0 0 5 1 :=
    ⟨.phase2b 0 0 5 2 5 ⟨5, 1⟩, by decide +kernel, rfl, rfl, rfl⟩
  exact ⟨.inl carried, accepted,
    one_value_per_ballot (crashed_reachable.mono fun _ _ _ => trivial) (.inl carried)
      (.inr ⟨0, by decide, .inl accepted⟩)⟩

theorem held_chosen [Serde Nat] {total id p : Nat} {s : Cluster C} {value : C}
    (reachable : (system total).Reachable Once s) (member : p < total)
    (holds : s.Holds id p value) : ∃ ballot, s.Chosen total id ballot value := by
  obtain ⟨ballot, chosen⟩ :=
    (counting_once (fun _ _ once => once) reachable id).held p member value holds
  exact ⟨ballot, chosen_iff.mpr chosen⟩

def leaderRun : List (Action Nat) :=
  [.propose 2 1, .deliver 0 0, .deliver 2 2, .deliver 0 3, .deliver 2 5, .deliver 0 6,
    .deliver 2 7, .propose 2 4, .deliver 0 9, .deliver 2 11, .deliver 0 12, .deliver 2 13]

def led : Cluster Nat :=
  Run.System.final (step 3) (fun s a => s.Once a ∧ s.RaceFree 3 a) (boot 3) leaderRun

theorem led_reachable : (system 3).Reachable (fun s a => s.Once a ∧ s.RaceFree 3 a) led :=
  Run.System.final_reachable (fun _ _ _ next => next) (.init (boot_init 3)) (by decide +kernel)

theorem held_chosen_led : led.Holds 1 0 4 ∧ ∃ ballot, led.Chosen 3 1 ballot 4 := by
  have holds : led.Holds 1 0 4 := committed_holds (by decide +kernel)
  exact ⟨holds, held_chosen (led_reachable.mono fun _ _ allowed => allowed.1) (by decide) holds⟩

theorem learned_agree [Serde Nat] {total id : Nat} {s : Cluster C} {value other : C}
    (reachable : (storedSystem total).Reachable (fun s a => s.Once a ∧ s.Ordinary a) s)
    (left : s.Learned total id value) (right : s.Learned total id other) : value = other := by
  have refines : Refines { once := True, raceFree := False, ordinary := True } total s :=
    refines_reachable ((stored_reachable reachable).mono fun _ _ allowed =>
      ⟨fun _ => allowed.1, False.elim, fun _ => allowed.2⟩)
  have counting := counting_once (fun _ _ allowed => allowed.1) (stored_reachable reachable) id
  have chosen {v : C} (learned : s.Learned total id v) :
      ∃ ballot, (s.view id).Chosen total id ballot v := by
    rcases learned with ⟨p, ballot, told⟩ | ⟨p, member, holds⟩
    · exact ⟨ballot, counting.told p ballot v ⟨_, told, rfl, rfl, rfl, rfl⟩⟩
    · exact counting.held p member v holds
  obtain ⟨low, hleft⟩ := chosen left
  obtain ⟨high, hright⟩ := chosen right
  exact chosen_agree (fun reached => Synod.safety_reachable (fun _ _ obeys => obeys.1 trivial)
    (fun _ _ earlier obeys => Synod.ordinary_raceFree (fun _ _ obeys => obeys.2.2 trivial) earlier
      obeys) reached) refines hleft hright

theorem learned_agree_crashed :
    crashed.Learned 3 0 1 ∧ crashed.committed 0 2 = some 1 ∧ (1 : Nat) = 1 := by
  have told : crashed.Learned 3 0 1 := .inl ⟨0, 5, by decide +kernel⟩
  have answered : crashed.committed 0 2 = some 1 := by decide +kernel
  exact ⟨told, answered,
    learned_agree crashed_reachable told (.inr ⟨2, by decide, committed_holds answered⟩)⟩

theorem committed_agree [Serde Nat] {total id p q : Nat} {s : Cluster C} {value other : C}
    (reachable : (system total).Reachable (fun s a => s.Once a ∧ s.RaceFree total a) s)
    (hp : p < total) (hq : q < total) (left : s.committed id p = some value)
    (right : s.committed id q = some other) : value = other := by
  have refines : Refines { once := True, raceFree := True, ordinary := False } total s :=
    refines_reachable (reachable.mono fun _ _ allowed =>
      ⟨fun _ => allowed.1, fun _ => allowed.2, False.elim⟩)
  have counting := counting_once (fun _ _ allowed => allowed.1) reachable id
  obtain ⟨low, hleft⟩ := counting.held p hp value (committed_holds left)
  obtain ⟨high, hright⟩ := counting.held q hq other (committed_holds right)
  exact chosen_agree (fun reached => Synod.safety_reachable (fun _ _ obeys => obeys.1 trivial)
    (fun _ _ _ obeys => obeys.2.1 trivial) reached) refines hleft hright

theorem committed_agree_led :
    led.committed 1 0 = some 4 ∧ led.committed 1 2 = some 4 ∧ (4 : Nat) = 4 := by
  have left : led.committed 1 0 = some 4 := by decide +kernel
  have right : led.committed 1 2 = some 4 := by decide +kernel
  exact ⟨left, right, committed_agree led_reachable (by decide) (by decide) left right⟩

-- Node 2 leads at ballot 5 after winning instance 0; nodes 0 and 1 decide instance 1 at
-- ballot 3 unheard by it; its Accept there at 5 is taken without Phase 1.
def raceRun : List (Action Nat) :=
  [.propose 2 1, .deliver 0 0, .deliver 2 2, .deliver 0 3, .deliver 2 5, .propose 0 2,
    .deliver 1 7, .deliver 0 9, .deliver 1 10, .deliver 0 12, .deliver 1 13, .propose 2 4,
    .deliver 1 15, .deliver 2 17, .deliver 0 18]

def raced : Cluster Nat :=
  Run.System.final (step 3) (fun s a => s.Once a ∧ NoCrash a) (boot 3) raceRun

theorem committed_differ :
    ¬ ∀ (total : Nat) (s : Cluster Nat), 2 ≤ total →
      (system total).Reachable (fun s a => s.Once a ∧ NoCrash a) s →
      ∀ id p q value other, p < total → q < total → s.committed id p = some value →
        s.committed id q = some other → value = other := by
  intro agree
  have reachable : (system 3).Reachable (fun s a => s.Once a ∧ NoCrash a) raced :=
    Run.System.final_reachable (fun _ _ _ next => next) (.init (boot_init 3)) (by decide +kernel)
  have same := agree 3 raced (by decide) reachable 1 0 1 4 2 (by decide) (by decide)
    (by decide +kernel) (by decide +kernel)
  exact absurd same (by decide)

end Cluster

end Smr
