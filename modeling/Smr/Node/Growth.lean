import Smr.Node.Outcomes
import Smr.Node.Sound
import Smr.Storage.Writes

set_option autoImplicit false

namespace Smr

variable {C : Type}

def Acceptor.Ordered (self : Acceptor C) : Prop :=
  ∀ value, self.maxAccepted = some value → value.ballot ≤ self.maxBallot

namespace PaxosInstance

structure Grows (before after : PaxosInstance C) : Prop where
  instanceId : after.instanceId = before.instanceId
  ballot : before.acceptor.maxBallot ≤ after.acceptor.maxBallot
  accepted : ∀ value, before.acceptor.maxAccepted = some value →
    ∃ later, after.acceptor.maxAccepted = some later ∧ value.ballot ≤ later.ballot
  learned : ∀ cmd, before.getValue = some cmd → after.getValue = some cmd

theorem Grows.refl (self : PaxosInstance C) : self.Grows self :=
  ⟨rfl, Nat.le_refl _, fun value held => ⟨value, held, Nat.le_refl _⟩, fun _ known => known⟩

theorem Grows.proposer (self : PaxosInstance C) (proposer : Proposer C) :
    self.Grows { self with proposer := proposer } :=
  ⟨rfl, Nat.le_refl _, fun value held => ⟨value, held, Nat.le_refl _⟩, fun _ known => known⟩

theorem Grows.trans {self middle after : PaxosInstance C} (first : self.Grows middle)
    (rest : middle.Grows after) : self.Grows after where
  instanceId := rest.instanceId.trans first.instanceId
  ballot := Nat.le_trans first.ballot rest.ballot
  accepted value held := by
    obtain ⟨next, found, higher⟩ := first.accepted value held
    obtain ⟨later, reached, highest⟩ := rest.accepted next found
    exact ⟨later, reached, Nat.le_trans higher highest⟩
  learned cmd known := rest.learned cmd (first.learned cmd known)

-- What a storage can be behind by: the ballot of an acceptor stopped between the two.
def Ahead (self : PaxosInstance C) (saved : SavedStates C) : Prop :=
  ∀ state, saved self.instanceId = some state → state.maxBallot ≤ self.acceptor.maxBallot

theorem Grows.promised {self : PaxosInstance C} (ordered : self.acceptor.Ordered) {ballot : Nat}
    (higher : self.acceptor.maxBallot ≤ ballot) :
    self.Grows { self with acceptor := { self.acceptor with maxBallot := ballot } } ∧
      ({ self.acceptor with maxBallot := ballot } : Acceptor C).Ordered :=
  ⟨⟨rfl, higher, fun value held => ⟨value, held, Nat.le_refl _⟩, fun _ known => known⟩,
    fun value held => Nat.le_trans (ordered value held) higher⟩

theorem Grows.acked {self : PaxosInstance C} (ordered : self.acceptor.Ordered)
    (value : MaxAcceptedProposal C) (current : self.acceptor.maxBallot ≤ value.ballot) :
    self.Grows
        { self with
          acceptor :=
            { self.acceptor with maxBallot := value.ballot, maxAccepted := some value } } ∧
      ({ self.acceptor with
        maxBallot := value.ballot, maxAccepted := some value } : Acceptor C).Ordered :=
  ⟨⟨rfl, current, fun earlier held => ⟨value, rfl, Nat.le_trans (ordered earlier held) current⟩,
      fun _ known => known⟩,
    fun _ held => Nat.le_of_eq (congrArg _ (Option.some.inj held).symm)⟩

section Puts

variable [Serde Nat] [Serde (AcceptedValue C)]

def Saves (self after : PaxosInstance C) (storage kept : Option (PaxosStorage C)) : Prop :=
  ∀ store saved, storage = some store → self.instanceId < u64Max → self.Ahead saved →
    ∃ next writes later, kept = some next ∧ store.Wrote next writes ∧
      Writes saved writes later ∧ after.Ahead later ∧
      ∀ write ∈ writes, write.instanceId = self.instanceId

theorem Saves.still {self after : PaxosInstance C} (storage : Option (PaxosStorage C))
    (instanceId : after.instanceId = self.instanceId)
    (ballot : self.acceptor.maxBallot ≤ after.acceptor.maxBallot) :
    self.Saves after storage storage := by
  intro store saved stored fits ahead
  refine ⟨store, [], saved, stored, .refl store, .done saved, fun state present => ?_, by simp⟩
  exact Nat.le_trans (ahead state (instanceId ▸ present)) ballot

theorem Saves.trans {self middle after : PaxosInstance C}
    {storage saved kept : Option (PaxosStorage C)} (first : self.Saves middle storage saved)
    (instanceId : middle.instanceId = self.instanceId) (rest : middle.Saves after saved kept) :
    self.Saves after storage kept := by
  intro store states stored fits ahead
  obtain ⟨next, writes, states', rfl, wrote, whole, ahead', own⟩ :=
    first store states stored fits ahead
  obtain ⟨last, later, states'', rfl, wrote', whole', ahead'', own'⟩ :=
    rest next states' rfl (instanceId ▸ fits) ahead'
  refine ⟨last, writes ++ later, states'', rfl, wrote.trans wrote', whole.trans whole', ahead'',
    fun write member => ?_⟩
  rcases List.mem_append.mp member with member | member
  · exact own write member
  · exact (own' write member).trans instanceId

theorem Saves.put {self after : PaxosInstance C} {storage kept : Option (PaxosStorage C)}
    {save : PaxosStorage C → Except Fault Unit × PaxosStorage C} {result : Except Fault Unit}
    (writes : List (Write C)) (persisted : persist storage save = (result, kept))
    (saves : ∀ store : PaxosStorage C, ∃ first, store.Wrote (save store).2 first ∧
      first <+: writes)
    (own : ∀ write ∈ writes, write.instanceId = self.instanceId)
    (fitting : ∀ saved, self.instanceId < u64Max → self.Ahead saved →
      ∃ later, Writes saved writes later ∧ after.Ahead later) :
    self.Saves after storage kept := by
  rintro store saved rfl fits ahead
  obtain ⟨first, wrote, part⟩ := saves store
  obtain ⟨later, whole, ahead'⟩ := fitting saved fits ahead
  obtain ⟨middle, rest, done, missing⟩ := whole.part part
  simp only [persist, Prod.mk.injEq] at persisted
  refine ⟨(save store).2, first, middle, persisted.2.symm, wrote, done, fun state present => ?_,
    fun write member => own write (part.subset member)⟩
  obtain ⟨last, reached, higher⟩ := missing.grows present
  exact Nat.le_trans higher (ahead' last reached)

theorem Saves.promised {self after : PaxosInstance C} {storage kept : Option (PaxosStorage C)}
    {result : Except Fault Unit} {ballot : Nat}
    (persisted : persist storage (·.savePromise self.instanceId ballot) = (result, kept))
    (higher : self.acceptor.maxBallot ≤ ballot) (instanceId : after.instanceId = self.instanceId)
    (promises : after.acceptor.maxBallot = ballot) : self.Saves after storage kept := by
  refine .put [.ballot self.instanceId ballot] persisted (fun store => ?_)
    (by simp [Write.instanceId]) fun saved fits ahead => ?_
  · obtain ⟨first, wrote, part, -⟩ := store.savePromise_wrote self.instanceId ballot
    exact ⟨first, wrote, part⟩
  · refine ⟨_, .put ⟨fits, fun state present => Nat.le_trans (ahead state present) higher⟩
      (.done _), fun state present => ?_⟩
    rw [instanceId, Write.apply_ballot, Option.some.injEq] at present
    rw [← present, promises]

theorem Saves.acked {self after : PaxosInstance C} {storage kept : Option (PaxosStorage C)}
    {result : Except Fault Unit} {ballot : Nat} {cmd : C}
    (persisted : persist storage (·.saveAccept self.instanceId ballot cmd) = (result, kept))
    (current : self.acceptor.maxBallot ≤ ballot) (instanceId : after.instanceId = self.instanceId)
    (acks : after.acceptor.maxBallot = ballot) : self.Saves after storage kept := by
  refine .put [.ballot self.instanceId ballot, .accepted self.instanceId
      { ballot := ballot, command := cmd }] persisted (fun store => ?_)
    (by simp [Write.instanceId]) fun saved fits ahead => ?_
  · obtain ⟨first, wrote, part, -⟩ := store.saveAccept_wrote self.instanceId ballot cmd
    exact ⟨first, wrote, part⟩
  · refine ⟨_, .put ⟨fits, fun state present => Nat.le_trans (ahead state present) current⟩
      (.put ⟨_, Write.apply_ballot _ _ _, rfl⟩ (.done _)), fun state present => ?_⟩
    rw [instanceId, Write.apply_accepted, Write.apply_ballot, Option.map_some,
      Option.some.injEq] at present
    rw [← present, acks]

variable [DecidableEq C]

theorem Step.grows {self after : PaxosInstance C} {storage kept : Option (PaxosStorage C)}
    {message : MessageKind C} {response : Option (MessageKind C)} {events : List (TraceEvent C)}
    (step : self.Step storage message response after kept events)
    (ordered : self.acceptor.Ordered) :
    self.Grows after ∧ after.acceptor.Ordered ∧ self.Saves after storage kept := by
  cases step with
  | promise p kept higher saved =>
    obtain ⟨grows, orders⟩ := Grows.promised ordered (Nat.le_of_lt higher)
    exact ⟨grows, orders, .promised saved (Nat.le_of_lt higher) rfl rfl⟩
  | ackAccept a kept current saved =>
    obtain ⟨grows, orders⟩ := Grows.acked ordered ⟨a.ballot, a.command⟩ current
    exact ⟨grows, orders, .acked saved current rfl rfl⟩
  | learn m learner reply heard =>
    refine ⟨⟨rfl, Nat.le_refl _, fun value held => ⟨value, held, Nat.le_refl _⟩,
      fun cmd known => ?_⟩, ordered, .still storage rfl (Nat.le_refl _)⟩
    rcases Learner.handleLearn_value heard with same | ⟨unlearned, -⟩
    · exact same.trans known
    · exact absurd (known.symm.trans unlearned) (by simp)
  | proposer message response next addressed asked =>
    exact ⟨.proposer self _, ordered, .still storage rfl (Nat.le_refl _)⟩
  | nackPrepare _ _ | nackAccept _ _ | ignored _ =>
    exact ⟨.refl self, ordered, .still storage rfl (Nat.le_refl _)⟩

omit [DecidableEq C] in
theorem Stops.grows {self after : PaxosInstance C} {storage kept : Option (PaxosStorage C)}
    {message : MessageKind C} (stops : self.Stops storage message after kept)
    (ordered : self.acceptor.Ordered) :
    self.Grows after ∧ after.acceptor.Ordered ∧ self.Saves after storage kept := by
  cases stops with
  | promise p higher failed =>
    obtain ⟨grows, orders⟩ := Grows.promised ordered (Nat.le_of_lt higher)
    exact ⟨grows, orders, .promised failed (Nat.le_of_lt higher) rfl rfl⟩
  | ackAccept a current failed =>
    obtain ⟨grows, orders⟩ := Grows.acked ordered ⟨a.ballot, a.command⟩ current
    exact ⟨grows, orders, .acked failed current rfl rfl⟩

theorem Leaves.grows {self after : PaxosInstance C} {storage kept : Option (PaxosStorage C)}
    {message : MessageKind C} (leaves : self.Leaves storage message after kept)
    (ordered : self.acceptor.Ordered) :
    self.Grows after ∧ after.acceptor.Ordered ∧ self.Saves after storage kept := by
  induction leaves with
  | cut self storage message => exact ⟨.refl self, ordered, .still storage rfl (Nat.le_refl _)⟩
  | stop stops => exact stops.grows ordered
  | last step => exact step.grows ordered
  | more step _ ih =>
    obtain ⟨grows, orders, saves⟩ := step.grows ordered
    obtain ⟨grows', orders', saves'⟩ := ih orders
    exact ⟨grows.trans grows', orders', saves.trans grows.instanceId saves'⟩

theorem Leaves.unstored {self after : PaxosInstance C} {storage kept : Option (PaxosStorage C)}
    {message : MessageKind C} (leaves : self.Leaves storage message after kept)
    (unstored : storage = none) : kept = none := by
  induction leaves with
  | cut self storage message => exact unstored
  | stop stops =>
    subst unstored
    cases stops with
    | promise p higher failed => simp [persist] at failed
    | ackAccept a current failed => simp [persist] at failed
  | last step =>
    subst unstored
    exact step.unstored
  | more step _ ih =>
    subst unstored
    exact ih step.unstored

end Puts

end PaxosInstance

end Smr
