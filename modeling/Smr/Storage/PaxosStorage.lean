import Smr.Storage.Backend

set_option autoImplicit false

namespace Smr

open Text

structure AcceptedValue (C : Type) where
  ballot : Nat
  command : C
  deriving DecidableEq, Repr

structure AcceptorState (C : Type) where
  maxBallot : Nat
  maxAccepted : Option (AcceptedValue C)
  deriving DecidableEq, Repr

structure PaxosStorage (C : Type) where
  storage : Backend

def acceptorRoot : List Char := "acceptor/".toList

def ballotKey (instanceId : Nat) : Bytes :=
  asBytes (acceptorRoot ++ (decimal instanceId ++ "/ballot".toList))

def acceptedKey (instanceId : Nat) : Bytes :=
  asBytes (acceptorRoot ++ (decimal instanceId ++ "/accepted".toList))

-- The closure of load_all_acceptor_states: the second piece of the key, as a u64.
def instanceIdOf (key : Bytes) : Option Nat := do
  let text ← fromUtf8 key
  let part ← (split '/' text)[1]?
  parse u64Max part

namespace PaxosStorage

variable {C : Type} [Serde Nat] [Serde (AcceptedValue C)]

def new (storage : Backend) : PaxosStorage C :=
  { storage := storage }

def savePromise (self : PaxosStorage C) (instanceId ballot : Nat) :
    Except Fault Unit × PaxosStorage C :=
  let (result, storage) := self.storage.put (ballotKey instanceId) (Serde.toVec ballot)
  (result, { storage := storage })

def saveAccept (self : PaxosStorage C) (instanceId ballot : Nat) (cmd : C) :
    Except Fault Unit × PaxosStorage C :=
  match self.savePromise instanceId ballot with
  | (.error fault, self) => (.error fault, self)
  | (.ok (), self) =>
    let value : AcceptedValue C := { ballot := ballot, command := cmd }
    let (result, storage) := self.storage.put (acceptedKey instanceId) (Serde.toVec value)
    (result, { storage := storage })

def loadAcceptorState (self : PaxosStorage C) (instanceId : Nat) :
    Except Fault (Option (AcceptorState C)) :=
  match self.storage.map.get (ballotKey instanceId) with
  | none => .ok none
  | some ballotBytes => do
    let maxBallot ← decode ballotBytes
    let maxAccepted ← match self.storage.map.get (acceptedKey instanceId) with
      | some bytes => (decode bytes).map some
      | none => .ok none
    pure (some { maxBallot := maxBallot, maxAccepted := maxAccepted })

def loadStates (self : PaxosStorage C) : List Nat → Except Fault (List (Nat × AcceptorState C))
  | [] => .ok []
  | instanceId :: rest => do
    let state ← self.loadAcceptorState instanceId
    let states ← self.loadStates rest
    match state with
    | some state => pure ((instanceId, state) :: states)
    | none => pure states

def instanceIds (self : PaxosStorage C) : List Nat :=
  (((self.storage.map.scanPrefix (asBytes acceptorRoot)).filterMap
    fun entry => instanceIdOf entry.1).insertionSort (· ≤ ·)).dedup

def loadAllAcceptorStates (self : PaxosStorage C) : Except Fault (List (Nat × AcceptorState C)) :=
  self.loadStates self.instanceIds

end PaxosStorage

theorem ballotKey_injective : Function.Injective ballotKey := by
  intro left right same
  have text := asBytes_injective same
  exact decimal_injective (List.append_cancel_right (List.append_cancel_left text))

theorem acceptedKey_injective : Function.Injective acceptedKey := by
  intro left right same
  have text := asBytes_injective same
  exact decimal_injective (List.append_cancel_right (List.append_cancel_left text))

theorem ballotKey_ne_acceptedKey (left right : Nat) : ballotKey left ≠ acceptedKey right := by
  intro same
  have text := congrArg List.getLast? (asBytes_injective same)
  simp at text

theorem acceptor_prefix_ballotKey (instanceId : Nat) :
    asBytes acceptorRoot <+: ballotKey instanceId :=
  asBytes_prefix _ _

theorem acceptor_prefix_acceptedKey (instanceId : Nat) :
    asBytes acceptorRoot <+: acceptedKey instanceId :=
  asBytes_prefix _ _

theorem instanceIdOf_key {instanceId : Nat} (fits : instanceId ≤ u64Max) (last : List Char) :
    instanceIdOf (asBytes (acceptorRoot ++ (decimal instanceId ++ '/' :: last))) =
      some instanceId := by
  have pieces : split '/' (acceptorRoot ++ (decimal instanceId ++ '/' :: last)) =
      "acceptor".toList :: decimal instanceId :: split '/' last := by
    have first := split_append '/' "acceptor".toList (decimal instanceId ++ '/' :: last) (by decide)
    rw [split_append '/' (decimal instanceId) last (not_mem_decimal (by decide))] at first
    exact first
  rw [instanceIdOf, fromUtf8_asBytes]
  simp [pieces, parse_decimal fits]

theorem instanceIdOf_ballotKey {instanceId : Nat} (fits : instanceId ≤ u64Max) :
    instanceIdOf (ballotKey instanceId) = some instanceId :=
  instanceIdOf_key fits "ballot".toList

namespace PaxosStorage

variable {C : Type} [Serde Nat] [Serde (AcceptedValue C)]

structure Represents (store : PaxosStorage C) (saved : Nat → Option (AcceptorState C)) : Prop where
  ballots : ∀ instanceId, store.storage.map.get (ballotKey instanceId) =
    (saved instanceId).map fun state => Serde.toVec state.maxBallot
  accepted : ∀ instanceId, store.storage.map.get (acceptedKey instanceId) =
    ((saved instanceId).bind AcceptorState.maxAccepted).map Serde.toVec
  keys : ∀ key value, store.storage.map.get key = some value →
    asBytes acceptorRoot <+: key →
    ∃ instanceId < u64Max, key = ballotKey instanceId ∨ key = acceptedKey instanceId

structure Spells (store : PaxosStorage C) (saved : Nat → Option (AcceptorState C)) : Prop where
  ballots : ∀ instanceId, store.storage.map.get (ballotKey instanceId) =
    (saved instanceId).map fun state => Serde.toVec state.maxBallot
  accepted : ∀ instanceId, store.storage.map.get (acceptedKey instanceId) =
    ((saved instanceId).bind AcceptorState.maxAccepted).map Serde.toVec
  keys : ∀ key value, store.storage.map.get key = some value →
    asBytes acceptorRoot <+: key →
    ∃ instanceId ≤ u64Max, key = ballotKey instanceId ∨ key = acceptedKey instanceId

theorem Represents.spells {self : PaxosStorage C} {saved : Nat → Option (AcceptorState C)}
    (represents : self.Represents saved) : self.Spells saved where
  ballots := represents.ballots
  accepted := represents.accepted
  keys key value found starts := by
    obtain ⟨instanceId, fits, spelled⟩ := represents.keys key value found starts
    exact ⟨instanceId, Nat.le_of_lt fits, spelled⟩

theorem represents_none {self : PaxosStorage C}
    (empty : self.storage.map.scanPrefix (asBytes acceptorRoot) = []) :
    self.Represents fun _ => none := by
  have absent (key : Bytes) (starts : asBytes acceptorRoot <+: key) :
      self.storage.map.get key = none := by
    cases found : self.storage.map.get key with
    | none => rfl
    | some value =>
      have member := InMemoryStorage.mem_scanPrefix.mpr ⟨found, starts⟩
      simp [empty] at member
  exact
    { ballots := fun instanceId => by simp [absent _ (acceptor_prefix_ballotKey instanceId)]
      accepted := fun instanceId => by simp [absent _ (acceptor_prefix_acceptedKey instanceId)]
      keys := fun key value found starts => by simp [absent key starts] at found }

omit [Serde (AcceptedValue C)] in
theorem savePromise_ok {self after : PaxosStorage C} {instanceId ballot : Nat}
    (done : self.savePromise instanceId ballot = (.ok (), after)) :
    after.storage.map = self.storage.map.put (ballotKey instanceId) (Serde.toVec ballot) ∧
      after.storage.written =
        self.storage.written ++ [(ballotKey instanceId, Serde.toVec ballot)] := by
  simp only [savePromise, Prod.mk.injEq] at done
  obtain ⟨result, rfl⟩ := done
  exact Backend.put_ok (Prod.ext result rfl)

omit [Serde (AcceptedValue C)] in
theorem savePromise_done (instanceId ballot : Nat) (self : PaxosStorage C) :
    (self.savePromise instanceId ballot).1 ≠ .error .diverged :=
  Backend.put_done _ _ _

theorem saveAccept_done (instanceId ballot : Nat) (cmd : C) (self : PaxosStorage C) :
    (self.saveAccept instanceId ballot cmd).1 ≠ .error .diverged := by
  unfold saveAccept
  split
  next fault middle stopped =>
    rintro ⟨⟩
    exact savePromise_done _ _ _ (congrArg Prod.fst stopped)
  next => exact Backend.put_done _ _ _

theorem Represents.put_ballot {self after : PaxosStorage C}
    {saved : Nat → Option (AcceptorState C)} (represents : self.Represents saved)
    {instanceId ballot : Nat} (fits : instanceId < u64Max)
    (map : after.storage.map =
      self.storage.map.put (ballotKey instanceId) (Serde.toVec ballot)) :
    after.Represents (Function.update saved instanceId (some
      { maxBallot := ballot
        maxAccepted := (saved instanceId).bind AcceptorState.maxAccepted })) where
  ballots other := by
    rw [map, InMemoryStorage.get_put]
    by_cases same : other = instanceId
    · subst same
      simp
    · have differs : ballotKey instanceId ≠ ballotKey other :=
        fun key => same (ballotKey_injective key).symm
      simp [differs, same, represents.ballots]
  accepted other := by
    rw [map, InMemoryStorage.get_put, if_neg (ballotKey_ne_acceptedKey instanceId other),
      represents.accepted]
    by_cases same : other = instanceId
    · subst same
      simp
    · simp [same]
  keys key value found starts := by
    rw [map, InMemoryStorage.get_put] at found
    split at found
    next hit => exact ⟨instanceId, fits, .inl hit.symm⟩
    next => exact represents.keys key value found starts

theorem Represents.put_accepted {self : PaxosStorage C} (after : PaxosStorage C)
    {saved : Nat → Option (AcceptorState C)} (represents : self.Represents saved)
    {instanceId : Nat} {state : AcceptorState C} (present : saved instanceId = some state)
    (fits : instanceId < u64Max) {value : AcceptedValue C}
    (map : after.storage.map =
      self.storage.map.put (acceptedKey instanceId) (Serde.toVec value)) :
    after.Represents (Function.update saved instanceId
      (some { state with maxAccepted := some value })) where
  ballots other := by
    rw [map, InMemoryStorage.get_put, if_neg (ballotKey_ne_acceptedKey other instanceId).symm,
      represents.ballots]
    by_cases same : other = instanceId
    · subst same
      simp [present]
    · simp [same]
  accepted other := by
    rw [map, InMemoryStorage.get_put]
    by_cases same : other = instanceId
    · subst same
      simp
    · have differs : acceptedKey instanceId ≠ acceptedKey other :=
        fun key => same (acceptedKey_injective key).symm
      simp [differs, same, represents.accepted]
  keys key found_value found starts := by
    rw [map, InMemoryStorage.get_put] at found
    split at found
    next hit => exact ⟨instanceId, fits, .inr hit.symm⟩
    next => exact represents.keys key found_value found starts

theorem Represents.savePromise {self after : PaxosStorage C}
    {saved : Nat → Option (AcceptorState C)} (represents : self.Represents saved)
    {instanceId ballot : Nat} (fits : instanceId < u64Max)
    (done : self.savePromise instanceId ballot = (.ok (), after)) :
    after.Represents (Function.update saved instanceId (some
      { maxBallot := ballot
        maxAccepted := (saved instanceId).bind AcceptorState.maxAccepted })) :=
  represents.put_ballot fits (savePromise_ok done).1

theorem Represents.saveAccept {self after : PaxosStorage C}
    {saved : Nat → Option (AcceptorState C)} (represents : self.Represents saved)
    {instanceId ballot : Nat} {cmd : C} (fits : instanceId < u64Max)
    (done : self.saveAccept instanceId ballot cmd = (.ok (), after)) :
    after.Represents (Function.update saved instanceId (some
      { maxBallot := ballot
        maxAccepted := some { ballot := ballot, command := cmd } })) := by
  unfold PaxosStorage.saveAccept at done
  split at done
  · simp at done
  next middle promised =>
    simp only [Prod.mk.injEq] at done
    obtain ⟨result, rfl⟩ := done
    have halfway := represents.savePromise fits promised
    have map := (Backend.put_ok (Prod.ext result rfl)).1
    have whole := halfway.put_accepted { storage := _ } (Function.update_self _ _ _) fits map
    simpa using whole

theorem Spells.load {self : PaxosStorage C} {saved : Nat → Option (AcceptorState C)}
    (spells : self.Spells saved) (instanceId : Nat) :
    self.loadAcceptorState instanceId = .ok (saved instanceId) := by
  unfold loadAcceptorState
  rw [spells.ballots, spells.accepted]
  cases found : saved instanceId with
  | none => rfl
  | some state =>
    obtain ⟨maxBallot, maxAccepted⟩ := state
    cases maxAccepted <;>
      simp [bind, Except.bind, Except.map, pure, Except.pure]

theorem Spells.loadStates {self : PaxosStorage C} {saved : Nat → Option (AcceptorState C)}
    (spells : self.Spells saved) (instanceIds : List Nat) :
    self.loadStates instanceIds = .ok (instanceIds.filterMap fun instanceId =>
      (saved instanceId).map fun state => (instanceId, state)) := by
  induction instanceIds with
  | nil => rfl
  | cons instanceId rest ih =>
    simp only [PaxosStorage.loadStates, spells.load, ih, bind, Except.bind]
    cases found : saved instanceId <;> simp [found, pure, Except.pure]

theorem Represents.unique {self : PaxosStorage C} {saved other : Nat → Option (AcceptorState C)}
    (represents : self.Represents saved) (again : self.Represents other) : saved = other := by
  funext instanceId
  have ballots := (represents.ballots instanceId).symm.trans (again.ballots instanceId)
  have accepted := (represents.accepted instanceId).symm.trans (again.accepted instanceId)
  have same := Option.map_injective Serde.toVec_injective accepted
  cases left : saved instanceId with
  | none => simpa [left, eq_comm] using ballots
  | some state =>
    cases right : other instanceId with
    | none => simp [left, right] at ballots
    | some state' =>
      simp only [left, right, Option.map_some, Option.some.injEq, Option.bind_some] at ballots same
      have highest := Serde.toVec_injective ballots
      cases state
      cases state'
      simp_all

theorem Represents.below {self : PaxosStorage C} {saved : Nat → Option (AcceptorState C)}
    (represents : self.Represents saved) {instanceId : Nat} {state : AcceptorState C}
    (present : saved instanceId = some state) : instanceId < u64Max := by
  have found : self.storage.map.get (ballotKey instanceId) =
      some (Serde.toVec state.maxBallot) := by
    simp [represents.ballots, present]
  obtain ⟨other, fits, key⟩ :=
    represents.keys _ _ found (acceptor_prefix_ballotKey instanceId)
  rcases key with key | key
  · exact ballotKey_injective key ▸ fits
  · exact absurd key (ballotKey_ne_acceptedKey _ _)

theorem Spells.found {self : PaxosStorage C} {saved : Nat → Option (AcceptorState C)}
    (spells : self.Spells saved) {instanceId : Nat} {state : AcceptorState C}
    (present : saved instanceId = some state) :
    self.storage.map.get (ballotKey instanceId) = some (Serde.toVec state.maxBallot) := by
  rw [spells.ballots, present]
  rfl

theorem Spells.fits {self : PaxosStorage C} {saved : Nat → Option (AcceptorState C)}
    (spells : self.Spells saved) {instanceId : Nat} {state : AcceptorState C}
    (present : saved instanceId = some state) : instanceId ≤ u64Max := by
  obtain ⟨other, fits, key⟩ :=
    spells.keys _ _ (spells.found present) (acceptor_prefix_ballotKey instanceId)
  rcases key with key | key
  · exact ballotKey_injective key ▸ fits
  · exact absurd key (ballotKey_ne_acceptedKey _ _)

theorem Spells.mem_instanceIds {self : PaxosStorage C}
    {saved : Nat → Option (AcceptorState C)} (spells : self.Spells saved)
    {instanceId : Nat} {state : AcceptorState C} (present : saved instanceId = some state) :
    instanceId ∈ self.instanceIds := by
  rw [instanceIds, List.mem_dedup, List.mem_insertionSort, List.mem_filterMap]
  exact ⟨(ballotKey instanceId, Serde.toVec state.maxBallot),
    InMemoryStorage.mem_scanPrefix.mpr
      ⟨spells.found present, acceptor_prefix_ballotKey instanceId⟩,
    instanceIdOf_ballotKey (spells.fits present)⟩

omit [Serde Nat] [Serde (AcceptedValue C)] in
theorem instanceIds_increasing (self : PaxosStorage C) :
    self.instanceIds.Pairwise (· < ·) := by
  have sorted : (self.instanceIds).Pairwise (· ≤ ·) :=
    (List.pairwise_insertionSort (· ≤ ·) _).sublist (List.dedup_sublist _)
  have distinct : self.instanceIds.Pairwise (· ≠ ·) := List.nodup_dedup _
  exact (sorted.and distinct).imp fun pair => Nat.lt_of_le_of_ne pair.1 pair.2

theorem Spells.loadAll {self : PaxosStorage C} {saved : Nat → Option (AcceptorState C)}
    (spells : self.Spells saved) :
    ∃ states, self.loadAllAcceptorStates = .ok states ∧
      (∀ instanceId state, (instanceId, state) ∈ states ↔ saved instanceId = some state) ∧
      (states.map Prod.fst).Pairwise (· < ·) := by
  refine ⟨_, spells.loadStates _, ?_, ?_⟩
  · intro instanceId state
    simp only [List.mem_filterMap, Option.map_eq_some_iff, Prod.mk.injEq]
    constructor
    · rintro ⟨other, -, found, present, rfl, rfl⟩
      exact present
    · intro present
      exact ⟨instanceId, spells.mem_instanceIds present, state, present, rfl, rfl⟩
  · have listed (instanceIds : List Nat) : ((instanceIds.filterMap fun instanceId =>
        (saved instanceId).map fun state => (instanceId, state)).map Prod.fst).Sublist
          instanceIds := by
      induction instanceIds with
      | nil => simp
      | cons instanceId rest ih =>
        cases found : saved instanceId with
        | none => simpa [found] using ih.cons instanceId
        | some state => simpa [found] using ih.cons_cons instanceId
    exact self.instanceIds_increasing.sublist (listed _)

theorem Represents.loadAll {self : PaxosStorage C} {saved : Nat → Option (AcceptorState C)}
    (represents : self.Represents saved) :
    ∃ states, self.loadAllAcceptorStates = .ok states ∧
      (∀ instanceId state, (instanceId, state) ∈ states ↔ saved instanceId = some state) ∧
      (states.map Prod.fst).Pairwise (· < ·) :=
  represents.spells.loadAll

end PaxosStorage

end Smr
