import Smr.Storage.PaxosStorage

set_option autoImplicit false

namespace Smr

open Text

variable {C : Type}

abbrev SavedStates (C : Type) : Type := Nat → Option (AcceptorState C)

-- One put of save_promise or of save_accept.
inductive Write (C : Type) where
  | ballot (instanceId ballot : Nat)
  | accepted (instanceId : Nat) (value : AcceptedValue C)
  deriving DecidableEq, Repr

namespace Write

def instanceId : Write C → Nat
  | .ballot instanceId _ => instanceId
  | .accepted instanceId _ => instanceId

def apply (saved : SavedStates C) : Write C → SavedStates C
  | .ballot instanceId highest =>
    Function.update saved instanceId (some
      { maxBallot := highest
        maxAccepted := (saved instanceId).bind AcceptorState.maxAccepted })
  | .accepted instanceId value =>
    Function.update saved instanceId
      ((saved instanceId).map fun state => { state with maxAccepted := some value })

-- No put takes a ballot back, and a value goes in right behind its ballot.
def Fits (saved : SavedStates C) : Write C → Prop
  | .ballot instanceId highest =>
    instanceId < u64Max ∧ ∀ state, saved instanceId = some state → state.maxBallot ≤ highest
  | .accepted instanceId value =>
    ∃ state, saved instanceId = some state ∧ value.ballot = state.maxBallot

theorem apply_elsewhere (write : Write C) (saved : SavedStates C) {other : Nat}
    (differs : other ≠ write.instanceId) : write.apply saved other = saved other := by
  cases write <;> exact Function.update_of_ne differs _ _

theorem apply_ballot (saved : SavedStates C) (instanceId highest : Nat) :
    (Write.ballot instanceId highest).apply saved instanceId = some
      { maxBallot := highest
        maxAccepted := (saved instanceId).bind AcceptorState.maxAccepted } :=
  Function.update_self _ _ _

theorem apply_accepted (saved : SavedStates C) (instanceId : Nat) (value : AcceptedValue C) :
    (Write.accepted instanceId value).apply saved instanceId =
      (saved instanceId).map fun state => { state with maxAccepted := some value } :=
  Function.update_self _ _ _

def entry [Serde Nat] [Serde (AcceptedValue C)] : Write C → Bytes × Bytes
  | .ballot instanceId highest => (ballotKey instanceId, Serde.toVec highest)
  | .accepted instanceId value => (acceptedKey instanceId, Serde.toVec value)

end Write

inductive Writes : SavedStates C → List (Write C) → SavedStates C → Prop where
  | done (saved : SavedStates C) : Writes saved [] saved
  | put {saved after : SavedStates C} {write : Write C} {rest : List (Write C)}
      (fits : write.Fits saved) (later : Writes (write.apply saved) rest after) :
      Writes saved (write :: rest) after

def Ordered (saved : SavedStates C) : Prop :=
  ∀ instanceId state value, saved instanceId = some state → state.maxAccepted = some value →
    value.ballot ≤ state.maxBallot

namespace Writes

theorem trans {saved middle after : SavedStates C} {writes later : List (Write C)}
    (first : Writes saved writes middle) (rest : Writes middle later after) :
    Writes saved (writes ++ later) after := by
  induction first with
  | done saved => exact rest
  | put fits _ ih => exact .put fits (ih rest)

theorem part {saved after : SavedStates C} {writes first : List (Write C)}
    (whole : Writes saved writes after) (before : first <+: writes) :
    ∃ middle rest, Writes saved first middle ∧ Writes middle rest after := by
  induction whole generalizing first with
  | done saved =>
    obtain rfl := List.prefix_nil.mp before
    exact ⟨saved, [], .done saved, .done saved⟩
  | @put saved after write rest fits later ih =>
    rcases List.prefix_cons_iff.mp before with rfl | ⟨first, rfl, within⟩
    · exact ⟨saved, _, .done saved, .put fits later⟩
    · obtain ⟨middle, remaining, done, missing⟩ := ih within
      exact ⟨middle, remaining, .put fits done, missing⟩

theorem elsewhere {saved after : SavedStates C} {writes : List (Write C)}
    (whole : Writes saved writes after) {other : Nat}
    (others : ∀ write ∈ writes, other ≠ write.instanceId) : after other = saved other := by
  induction whole with
  | done saved => rfl
  | put fits _ ih =>
    rw [ih fun write member => others write (List.mem_cons_of_mem _ member)]
    exact Write.apply_elsewhere _ _ (others _ List.mem_cons_self)

theorem grows {saved after : SavedStates C} {writes : List (Write C)}
    (whole : Writes saved writes after) {instanceId : Nat} {state : AcceptorState C}
    (present : saved instanceId = some state) :
    ∃ later, after instanceId = some later ∧ state.maxBallot ≤ later.maxBallot := by
  induction whole generalizing state with
  | done saved => exact ⟨state, present, Nat.le_refl _⟩
  | @put saved after write rest fits _ ih =>
    have once : ∃ next, write.apply saved instanceId = some next ∧
        state.maxBallot ≤ next.maxBallot := by
      by_cases same : instanceId = write.instanceId
      · subst same
        cases write with
        | ballot other highest => exact ⟨_, Write.apply_ballot _ _ _, fits.2 state present⟩
        | accepted other value =>
          exact ⟨_, (Write.apply_accepted _ _ _).trans (congrArg _ present), Nat.le_refl _⟩
      · exact ⟨state, by rw [Write.apply_elsewhere _ _ same, present], Nat.le_refl _⟩
    obtain ⟨next, found, higher⟩ := once
    obtain ⟨later, reached, highest⟩ := ih found
    exact ⟨later, reached, Nat.le_trans higher highest⟩

theorem ordered {saved after : SavedStates C} {writes : List (Write C)}
    (whole : Writes saved writes after) (before : Ordered saved) : Ordered after := by
  induction whole with
  | done saved => exact before
  | @put saved after write rest fits _ ih =>
    refine ih fun instanceId state value present accepted => ?_
    by_cases same : instanceId = write.instanceId
    · subst same
      cases write with
      | ballot other highest =>
        obtain rfl := Option.some.inj ((Write.apply_ballot _ _ _).symm.trans present)
        obtain ⟨earlier, found, held⟩ := Option.bind_eq_some_iff.mp accepted
        exact Nat.le_trans (before other earlier value found held) (fits.2 earlier found)
      | accepted other stored =>
        obtain ⟨earlier, found, exactly⟩ := fits
        have next := (Write.apply_accepted _ _ _).symm.trans present
        simp only [found, Option.map_some, Option.some.injEq] at next
        subst next
        obtain rfl := Option.some.inj accepted
        exact Nat.le_of_eq exactly
    · rw [Write.apply_elsewhere _ _ same] at present
      exact before instanceId state value present accepted

theorem accepted_grows {saved after : SavedStates C} {writes : List (Write C)}
    (whole : Writes saved writes after) (before : Ordered saved) {instanceId : Nat}
    {value : AcceptedValue C}
    (held : (saved instanceId).bind AcceptorState.maxAccepted = some value) :
    ∃ later, (after instanceId).bind AcceptorState.maxAccepted = some later ∧
      value.ballot ≤ later.ballot := by
  induction whole generalizing value with
  | done saved => exact ⟨value, held, Nat.le_refl _⟩
  | @put saved after write rest fits _ ih =>
    have once : ∃ next, (write.apply saved instanceId).bind AcceptorState.maxAccepted = some next ∧
        value.ballot ≤ next.ballot := by
      obtain ⟨state, present, accepted⟩ := Option.bind_eq_some_iff.mp held
      by_cases same : instanceId = write.instanceId
      · subst same
        cases write with
        | ballot other highest =>
          refine ⟨value, ?_, Nat.le_refl _⟩
          rw [Write.instanceId] at held ⊢
          rw [Write.apply_ballot, Option.bind_some, held]
        | accepted other stored =>
          obtain ⟨earlier, found, exactly⟩ := fits
          obtain rfl := Option.some.inj (found.symm.trans present)
          refine ⟨stored, ?_, exactly ▸ before other earlier value found accepted⟩
          rw [Write.instanceId, Write.apply_accepted, found, Option.map_some, Option.bind_some]
      · exact ⟨value, by rw [Write.apply_elsewhere _ _ same, held], Nat.le_refl _⟩
    obtain ⟨next, found, higher⟩ := once
    obtain ⟨later, reached, highest⟩ := ih (Writes.ordered (.put fits (.done _)) before) found
    exact ⟨later, reached, Nat.le_trans higher highest⟩

theorem accepted {saved after : SavedStates C} {writes : List (Write C)}
    (whole : Writes saved writes after) (instanceId : Nat) :
    (after instanceId).bind AcceptorState.maxAccepted =
        (saved instanceId).bind AcceptorState.maxAccepted ∨
      ∃ value, .accepted instanceId value ∈ writes ∧
        (after instanceId).bind AcceptorState.maxAccepted = some value := by
  induction whole with
  | done saved => exact .inl rfl
  | @put saved after write rest fits _ ih =>
    rcases ih with kept | ⟨value, member, found⟩
    · rw [kept]
      by_cases same : instanceId = write.instanceId
      · subst same
        cases write with
        | ballot other highest =>
          left
          simp [Write.apply_ballot, Write.instanceId]
        | accepted other value =>
          obtain ⟨state, present, -⟩ := fits
          right
          refine ⟨value, List.mem_cons_self, ?_⟩
          simp [Write.apply_accepted, Write.instanceId, present]
      · exact .inl (by rw [Write.apply_elsewhere _ _ same])
    · exact .inr ⟨value, List.mem_cons_of_mem _ member, found⟩

end Writes

namespace PaxosStorage

variable [Serde Nat] [Serde (AcceptedValue C)]

structure Wrote (before after : PaxosStorage C) (writes : List (Write C)) : Prop where
  written : after.storage.written = before.storage.written ++ writes.map Write.entry
  map : after.storage.map =
    (writes.map Write.entry).foldl (fun map put => map.put put.1 put.2) before.storage.map

theorem Wrote.refl (self : PaxosStorage C) : self.Wrote self [] :=
  ⟨by simp, rfl⟩

theorem Wrote.trans {before middle after : PaxosStorage C} {writes later : List (Write C)}
    (first : before.Wrote middle writes) (rest : middle.Wrote after later) :
    before.Wrote after (writes ++ later) :=
  ⟨by rw [rest.written, first.written]; simp, by rw [rest.map, first.map]; simp⟩

theorem put_wrote (self : PaxosStorage C) (write : Write C) :
    ∃ writes, self.Wrote { storage := (self.storage.put write.entry.1 write.entry.2).2 } writes ∧
      writes <+: [write] ∧
      ((self.storage.put write.entry.1 write.entry.2).1 = .ok () → writes = [write]) := by
  unfold Backend.put
  split
  · exact ⟨[], ⟨by simp, rfl⟩, List.nil_prefix, by simp⟩
  · exact ⟨[write], ⟨rfl, rfl⟩, List.prefix_rfl, fun _ => rfl⟩

theorem savePromise_wrote (self : PaxosStorage C) (instanceId ballot : Nat) :
    ∃ writes, self.Wrote (self.savePromise instanceId ballot).2 writes ∧
      writes <+: [.ballot instanceId ballot] ∧
      ((self.savePromise instanceId ballot).1 = .ok () →
        writes = [.ballot instanceId ballot]) :=
  self.put_wrote (.ballot instanceId ballot)

theorem saveAccept_wrote (self : PaxosStorage C) (instanceId ballot : Nat) (cmd : C) :
    ∃ writes, self.Wrote (self.saveAccept instanceId ballot cmd).2 writes ∧
      writes <+: [.ballot instanceId ballot,
        .accepted instanceId { ballot := ballot, command := cmd }] ∧
      ((self.saveAccept instanceId ballot cmd).1 = .ok () →
        writes = [.ballot instanceId ballot,
          .accepted instanceId { ballot := ballot, command := cmd }]) := by
  obtain ⟨writes, wrote, part, whole⟩ := self.savePromise_wrote instanceId ballot
  unfold saveAccept
  split
  next fault middle failed =>
    rw [failed] at wrote
    exact ⟨writes, wrote, part.trans (List.prefix_append _ [_]), by simp⟩
  next middle done =>
    rw [done] at wrote whole
    obtain ⟨later, wrote', part', whole'⟩ :=
      middle.put_wrote (.accepted instanceId { ballot := ballot, command := cmd })
    obtain rfl := whole rfl
    exact ⟨_, wrote.trans wrote', (List.prefix_append_right_inj _).mpr part',
      fun done => by rw [whole' done]; rfl⟩

theorem Represents.writes {self : PaxosStorage C} {saved after : SavedStates C}
    (represents : self.Represents saved) {writes : List (Write C)}
    (whole : Writes saved writes after) {store : PaxosStorage C} (wrote : self.Wrote store writes) :
    store.Represents after := by
  have map := wrote.map
  clear wrote
  induction whole generalizing self with
  | done saved =>
    exact
      { ballots := map ▸ represents.ballots
        accepted := map ▸ represents.accepted
        keys := map ▸ represents.keys }
  | @put saved after write rest fits _ ih =>
    suffices put : PaxosStorage.Represents { storage := { self.storage with
        map := self.storage.map.put write.entry.1 write.entry.2 } } (write.apply saved) from
      ih put map
    cases write with
    | ballot instanceId highest => exact represents.put_ballot fits.1 rfl
    | accepted instanceId value =>
      obtain ⟨state, present, -⟩ := fits
      have put := represents.put_accepted { storage := { self.storage with
        map := self.storage.map.put (acceptedKey instanceId) (Serde.toVec value) } } present
        (represents.below present) rfl
      rw [Write.apply, present]
      exact put

def puts (before after : PaxosStorage C) : List (Bytes × Bytes) :=
  after.storage.written.drop before.storage.written.length

-- The storage as a crash leaves it after the first `count` of these puts.
def torn (before after : PaxosStorage C) (count : Nat) : PaxosStorage C :=
  { storage :=
      { map := ((before.puts after).take count).foldl (fun map put => map.put put.1 put.2)
          before.storage.map
        written := before.storage.written ++ (before.puts after).take count
        fails := after.storage.fails } }

theorem Wrote.puts {before after : PaxosStorage C} {writes : List (Write C)}
    (wrote : before.Wrote after writes) : before.puts after = writes.map Write.entry := by
  rw [PaxosStorage.puts, wrote.written, List.drop_left]

theorem Wrote.torn {before after : PaxosStorage C} {writes : List (Write C)}
    (wrote : before.Wrote after writes) (count : Nat) :
    before.Wrote (before.torn after count) (writes.take count) := by
  constructor <;> simp [PaxosStorage.torn, wrote.puts]

end PaxosStorage

end Smr
