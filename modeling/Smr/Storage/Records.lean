import Smr.Shared.LastWrite
import Smr.Storage.CommandLog
import Smr.Storage.Json

set_option autoImplicit false

namespace Smr

open Text

variable {C : Type}

inductive Record (C : Type) where
  | savePromise (instanceId ballot : Nat)
  | saveAccept (instanceId ballot : Nat) (cmd : C)
  | append (instanceId : Nat) (command : C)
  | setLastApplied (id : Nat)
  deriving DecidableEq, Repr

namespace Record

def Fits : Record C → Prop
  | .savePromise instanceId _ | .saveAccept instanceId _ _ | .append instanceId _ =>
    instanceId ≤ u64Max
  | .setLastApplied id => id ≤ u64Max

def savedBallot (instanceId : Nat) : Record C → Option Nat
  | .savePromise other ballot | .saveAccept other ballot _ =>
    if other = instanceId then some ballot else none
  | _ => none

def savedValue (instanceId : Nat) : Record C → Option (AcceptedValue C)
  | .saveAccept other ballot cmd =>
    if other = instanceId then some { ballot := ballot, command := cmd } else none
  | _ => none

def appended (instanceId : Nat) : Record C → Option C
  | .append other command => if other = instanceId then some command else none
  | _ => none

def saved (records : List (Record C)) (instanceId : Nat) : Option (AcceptorState C) :=
  (LastWrite.latest (savedBallot instanceId) records).map fun ballot =>
    { maxBallot := ballot, maxAccepted := LastWrite.latest (savedValue instanceId) records }

end Record

theorem apart {left right key other : Bytes} (distinct : ¬left <+: right ∧ ¬right <+: left)
    (starts : left <+: key) (begins : right <+: other) : key ≠ other := by
  rintro rfl
  rcases List.prefix_or_prefix_of_prefix starts begins with first | second
  · exact distinct.1 first
  · exact distinct.2 second

theorem logKey_ne_ballotKey (left right : Nat) : logKey left ≠ ballotKey right :=
  apart (by decide) (log_prefix_logKey left) (acceptor_prefix_ballotKey right)

theorem logKey_ne_acceptedKey (left right : Nat) : logKey left ≠ acceptedKey right :=
  apart (by decide) (log_prefix_logKey left) (acceptor_prefix_acceptedKey right)

theorem lastAppliedKey_ne_ballotKey (instanceId : Nat) : lastAppliedKey ≠ ballotKey instanceId :=
  apart (by decide) (List.prefix_refl _) (acceptor_prefix_ballotKey instanceId)

theorem lastAppliedKey_ne_acceptedKey (instanceId : Nat) :
    lastAppliedKey ≠ acceptedKey instanceId :=
  apart (by decide) (List.prefix_refl _) (acceptor_prefix_acceptedKey instanceId)

namespace InMemoryStorage

def boxed (self : InMemoryStorage) : Backend :=
  { map := self, written := [], fails := fun _ => false }

variable [Serde Nat] [Serde C] [Serde (AcceptedValue C)]

def record (self : InMemoryStorage) : Record C → Except Fault Unit × InMemoryStorage
  | .savePromise instanceId ballot =>
    let store : PaxosStorage C := .new self.boxed
    let (result, store) := store.savePromise instanceId ballot
    (result, store.storage.map)
  | .saveAccept instanceId ballot cmd =>
    let store : PaxosStorage C := .new self.boxed
    let (result, store) := store.saveAccept instanceId ballot cmd
    (result, store.storage.map)
  | .append instanceId command =>
    let log : CommandLog C := .new self.boxed
    let (result, log) := log.append instanceId command
    (result, log.storage.map)
  | .setLastApplied id =>
    let log : CommandLog C := .new self.boxed
    let (result, log) := log.setLastApplied id
    (result, log.storage.map)

def records (self : InMemoryStorage) (calls : List (Record C)) : InMemoryStorage :=
  calls.foldl (fun self call => (self.record call).2) self

section Puts

variable (self : InMemoryStorage) (instanceId ballot id : Nat) (command : C)

@[simp] theorem record_savePromise :
    self.record (.savePromise instanceId ballot : Record C) =
      (.ok (), self.put (ballotKey instanceId) (Serde.toVec ballot)) :=
  rfl

@[simp] theorem record_saveAccept :
    self.record (.saveAccept instanceId ballot command) =
      (.ok (), (self.put (ballotKey instanceId) (Serde.toVec ballot)).put (acceptedKey instanceId)
        (Serde.toVec ({ ballot := ballot, command := command } : AcceptedValue C))) :=
  rfl

@[simp] theorem record_append :
    self.record (.append instanceId command) =
      (.ok (), self.put (logKey instanceId) (Serde.toVec command)) :=
  rfl

@[simp] theorem record_setLastApplied :
    self.record (.setLastApplied id : Record C) =
      (.ok (), self.put lastAppliedKey (Serde.toVec id)) :=
  rfl

end Puts

section Gets

variable (self : InMemoryStorage) (call : Record C) (instanceId : Nat)

theorem record_ballotKey :
    (self.record call).2.get (ballotKey instanceId) =
      ((call.savedBallot instanceId).map fun ballot => some (Serde.toVec ballot)).getD
        (self.get (ballotKey instanceId)) := by
  cases call with
  | savePromise other ballot =>
    simp only [record_savePromise, get_put, Record.savedBallot, ballotKey_injective.eq_iff]
    split <;> rfl
  | saveAccept other ballot cmd =>
    simp only [record_saveAccept, get_put, Record.savedBallot, ballotKey_injective.eq_iff,
      (ballotKey_ne_acceptedKey instanceId other).symm, if_false]
    split <;> rfl
  | append other command =>
    simp only [record_append, get_put, logKey_ne_ballotKey, if_false]
    rfl
  | setLastApplied id =>
    simp only [record_setLastApplied, get_put, lastAppliedKey_ne_ballotKey, if_false]
    rfl

theorem record_acceptedKey :
    (self.record call).2.get (acceptedKey instanceId) =
      ((call.savedValue instanceId).map fun value => some (Serde.toVec value)).getD
        (self.get (acceptedKey instanceId)) := by
  cases call with
  | savePromise other ballot =>
    simp only [record_savePromise, get_put, ballotKey_ne_acceptedKey, if_false]
    rfl
  | saveAccept other ballot cmd =>
    simp only [record_saveAccept, get_put, Record.savedValue, acceptedKey_injective.eq_iff,
      ballotKey_ne_acceptedKey, if_false]
    split <;> rfl
  | append other command =>
    simp only [record_append, get_put, logKey_ne_acceptedKey, if_false]
    rfl
  | setLastApplied id =>
    simp only [record_setLastApplied, get_put, lastAppliedKey_ne_acceptedKey, if_false]
    rfl

theorem record_logKey :
    (self.record call).2.get (logKey instanceId) =
      ((call.appended instanceId).map fun command => some (Serde.toVec command)).getD
        (self.get (logKey instanceId)) := by
  cases call with
  | savePromise other ballot =>
    simp only [record_savePromise, get_put, (logKey_ne_ballotKey instanceId other).symm, if_false]
    rfl
  | saveAccept other ballot cmd =>
    simp only [record_saveAccept, get_put, (logKey_ne_ballotKey instanceId other).symm,
      (logKey_ne_acceptedKey instanceId other).symm, if_false]
    rfl
  | append other command =>
    simp only [record_append, get_put, Record.appended, logKey_injective.eq_iff]
    split <;> rfl
  | setLastApplied id =>
    simp only [record_setLastApplied, get_put, (logKey_ne_lastAppliedKey instanceId).symm, if_false]
    rfl

end Gets

section Runs

variable (calls : List (Record C)) (instanceId : Nat)

theorem get_latest {A : Type} [Serde A] {key : Bytes} {written : Record C → Option A}
    (one : ∀ (self : InMemoryStorage) (call : Record C), (self.record call).2.get key =
      ((written call).map fun value => some (Serde.toVec value)).getD (self.get key)) :
    (new.records calls).get key = (LastWrite.latest written calls).map Serde.toVec := by
  have last := LastWrite.observed (fun self => self.get key) one new calls
  rw [LastWrite.latest_map, get_new] at last
  refine last.trans ?_
  cases LastWrite.latest written calls <;> rfl

def Keyed (C : Type) [Serde C] (self : InMemoryStorage) : Prop :=
  ∀ key value, self.get key = some value →
    (∃ instanceId ≤ u64Max, key = ballotKey instanceId ∨ key = acceptedKey instanceId) ∨
    (∃ instanceId ≤ u64Max, ∃ command : C,
      key = logKey instanceId ∧ value = Serde.toVec command) ∨ key = lastAppliedKey

omit [Serde Nat] [Serde (AcceptedValue C)] in
theorem Keyed.put {self : InMemoryStorage} (keyed : self.Keyed C) {key value : Bytes}
    (fits : (∃ instanceId ≤ u64Max, key = ballotKey instanceId ∨ key = acceptedKey instanceId) ∨
      (∃ instanceId ≤ u64Max, ∃ command : C,
        key = logKey instanceId ∧ value = Serde.toVec command) ∨ key = lastAppliedKey) :
    (self.put key value).Keyed C := by
  intro other found present
  rw [get_put] at present
  split at present
  next same =>
    subst same
    exact Option.some.inj present ▸ fits
  next => exact keyed other found present

theorem Keyed.record {self : InMemoryStorage} (keyed : self.Keyed C) {call : Record C}
    (fits : call.Fits) : (self.record call).2.Keyed C := by
  cases call with
  | savePromise instanceId ballot => exact keyed.put (.inl ⟨instanceId, fits, .inl rfl⟩)
  | saveAccept instanceId ballot cmd =>
    exact (keyed.put (.inl ⟨instanceId, fits, .inl rfl⟩)).put (.inl ⟨instanceId, fits, .inr rfl⟩)
  | append instanceId command =>
    exact keyed.put (.inr (.inl ⟨instanceId, fits, command, rfl, rfl⟩))
  | setLastApplied id => exact keyed.put (.inr (.inr rfl))

theorem keyed_records {calls : List (Record C)} (fits : ∀ call ∈ calls, call.Fits) :
    (new.records calls).Keyed C := by
  induction calls using List.reverseRecOn with
  | nil =>
    intro key value found
    simp [records] at found
  | append_singleton calls last ih =>
    have before := ih fun call member => fits call (List.mem_append_left _ member)
    have whole := before.record (fits last (by simp))
    simpa [records, List.foldl_append] using whole

end Runs

end InMemoryStorage

section Faithful

variable [Serde Nat] [Serde C] [Serde (AcceptedValue C)] {calls : List (Record C)}

omit [Serde Nat] [Serde C] [Serde (AcceptedValue C)] in
theorem Record.savedBallot_of_savedValue {instanceId : Nat} (call : Record C)
    (saves : (call.savedValue instanceId).isSome) : (call.savedBallot instanceId).isSome := by
  cases call with
  | saveAccept other ballot cmd =>
    simp only [savedValue] at saves
    split at saves
    next same => simp [savedBallot, same]
    next => simp at saves
  | _ => simp [savedValue] at saves

omit [Serde Nat] [Serde C] [Serde (AcceptedValue C)] in
theorem Record.saved_maxAccepted (calls : List (Record C)) (instanceId : Nat) :
    (saved calls instanceId).bind AcceptorState.maxAccepted =
      LastWrite.latest (savedValue instanceId) calls := by
  unfold saved
  cases ballot : LastWrite.latest (savedBallot instanceId) calls with
  | some ballot => rfl
  | none =>
    cases value : LastWrite.latest (savedValue instanceId) calls with
    | none => rfl
    | some value =>
      have found := LastWrite.latest_isSome_mono (savedBallot_of_savedValue (C := C))
        (by rw [value]; rfl)
      simp [ballot] at found

theorem PaxosStorage.spells_records (fits : ∀ call ∈ calls, call.Fits) :
    (new (InMemoryStorage.new.records calls).boxed : PaxosStorage C).Spells
      (Record.saved calls) where
  ballots instanceId := by
    refine (InMemoryStorage.get_latest calls fun self call =>
      self.record_ballotKey call instanceId).trans ?_
    rw [Record.saved, Option.map_map]
    rfl
  accepted instanceId := by
    rw [Record.saved_maxAccepted]
    exact InMemoryStorage.get_latest calls fun self call =>
      self.record_acceptedKey call instanceId
  keys key value found starts := by
    rcases InMemoryStorage.keyed_records fits key value found with
      state | ⟨instanceId, -, command, rfl, -⟩ | rfl
    · exact state
    · exact absurd rfl (apart (by decide) starts (log_prefix_logKey instanceId))
    · exact absurd rfl (apart (by decide) starts (List.prefix_refl lastAppliedKey))

theorem CommandLog.canonical_records (fits : ∀ call ∈ calls, call.Fits) :
    (new (InMemoryStorage.new.records calls).boxed : CommandLog C).Canonical := by
  intro key value found starts
  rcases InMemoryStorage.keyed_records fits key value found with
    ⟨instanceId, -, rfl | rfl⟩ | entry | rfl
  · exact absurd rfl (apart (by decide) starts (acceptor_prefix_ballotKey instanceId))
  · exact absurd rfl (apart (by decide) starts (acceptor_prefix_acceptedKey instanceId))
  · exact entry
  · exact absurd starts log_prefix_lastAppliedKey

end Faithful

theorem PaxosStorage.load_saved [Serde Nat] [Serde C] [Serde (AcceptedValue C)]
    (calls : List (Record C)) (fits : ∀ call ∈ calls, call.Fits) :
    ∃ states : List (Nat × AcceptorState C),
      (new (InMemoryStorage.new.records calls).boxed).loadAllAcceptorStates = .ok states ∧
      (states.map Prod.fst).Pairwise (· < ·) ∧
      (∀ instanceId, instanceId ∈ states.map Prod.fst ↔
        ∃ call ∈ calls, (call.savedBallot instanceId).isSome) ∧
      (∀ instanceId state, (instanceId, state) ∈ states ↔
        Record.saved calls instanceId = some state) ∧
      ∀ instanceId, (new (InMemoryStorage.new.records calls).boxed).loadAcceptorState instanceId =
        .ok (Record.saved calls instanceId) := by
  have spells := spells_records fits
  obtain ⟨states, loaded, listed, increasing⟩ := spells.loadAll
  refine ⟨states, loaded, increasing, fun instanceId => ?_, listed, spells.load⟩
  rw [← LastWrite.latest_isSome, List.mem_map]
  constructor
  · rintro ⟨⟨_, state⟩, member, rfl⟩
    have saved := (listed _ state).mp member
    rw [Record.saved, Option.map_eq_some_iff] at saved
    obtain ⟨ballot, found, -⟩ := saved
    simp [found]
  · intro found
    obtain ⟨ballot, found⟩ := Option.isSome_iff_exists.mp found
    exact ⟨_, (listed instanceId _).mpr (by rw [Record.saved, found]; rfl), rfl⟩

def sharedCalls : List (Record Nat) :=
  [.savePromise 10 4, .append 100 7, .saveAccept 1 4 9, .setLastApplied 1, .savePromise 1 5,
    .append 10 8, .append 100 6, .append u64Max 3]

theorem PaxosStorage.load_saved_shared :
    ∃ states : List (Nat × AcceptorState Nat),
      (new (InMemoryStorage.new.records sharedCalls).boxed).loadAllAcceptorStates = .ok states ∧
      (1, { maxBallot := 5, maxAccepted := some { ballot := 4, command := 9 } }) ∈ states ∧
      (10, { maxBallot := 4, maxAccepted := none }) ∈ states ∧
      100 ∉ states.map Prod.fst := by
  obtain ⟨states, loaded, -, ids, listed, -⟩ :=
    load_saved sharedCalls (by simp [sharedCalls, Record.Fits, u64Max])
  refine ⟨states, loaded, (listed _ _).mpr (by decide), (listed _ _).mpr (by decide), ?_⟩
  rw [ids]
  decide

theorem CommandLog.replay_appended [Serde Nat] [Serde C] [Serde (AcceptedValue C)]
    (calls : List (Record C)) (fits : ∀ call ∈ calls, call.Fits) :
    ∃ entries : List (Nat × C),
      (new (InMemoryStorage.new.records calls).boxed).replay = .ok entries ∧
      (entries.map Prod.fst).Pairwise (· < ·) ∧
      ∀ instanceId command, (instanceId, command) ∈ entries ↔
        LastWrite.latest (Record.appended instanceId) calls = some command := by
  obtain ⟨entries, replayed, increasing, listed⟩ := (canonical_records fits).replay
  refine ⟨entries, replayed, increasing, fun instanceId command => ?_⟩
  have appended := InMemoryStorage.get_latest calls fun self call =>
    self.record_logKey call instanceId
  refine (listed instanceId command).trans ((congrArg (· = _) appended).to_iff.trans ?_)
  rw [Option.map_eq_some_iff]
  constructor
  · rintro ⟨other, last, same⟩
    exact Serde.toVec_injective same ▸ last
  · intro last
    exact ⟨command, last, rfl⟩

theorem CommandLog.replay_appended_shared :
    ∃ entries : List (Nat × Nat),
      (new (InMemoryStorage.new.records sharedCalls).boxed).replay = .ok entries ∧
      (entries.map Prod.fst).Pairwise (· < ·) ∧
      (10, 8) ∈ entries ∧ (100, 6) ∈ entries ∧ (u64Max, 3) ∈ entries := by
  obtain ⟨entries, replayed, increasing, listed⟩ :=
    replay_appended sharedCalls (by simp [sharedCalls, Record.Fits, u64Max])
  exact ⟨entries, replayed, increasing, (listed _ _).mpr (by decide),
    (listed _ _).mpr (by decide), (listed _ _).mpr (by decide)⟩

end Smr
