import Smr.Synod.Messages
import Smr.Shared.Text
import Smr.Shared.OrderedScan

set_option autoImplicit false

namespace Smr

open Text

structure InMemoryStorage where
  data : Std.TreeMap Bytes Bytes

namespace InMemoryStorage

def new : InMemoryStorage :=
  { data := ∅ }

def put (self : InMemoryStorage) (key value : Bytes) : InMemoryStorage :=
  { data := self.data.insert key value }

def get (self : InMemoryStorage) (key : Bytes) : Option Bytes :=
  self.data[key]?

def delete (self : InMemoryStorage) (key : Bytes) : InMemoryStorage :=
  { data := self.data.erase key }

def scanPrefix (self : InMemoryStorage) (pre : Bytes) : List (Bytes × Bytes) :=
  OrderedScan.scan pre self.data.toList

@[simp] theorem get_new (key : Bytes) : new.get key = none := by
  simp [new, get]

theorem get_put (self : InMemoryStorage) (key value other : Bytes) :
    (self.put key value).get other = if key = other then some value else self.get other := by
  simp [put, get, Std.TreeMap.getElem?_insert]

theorem mem_scanPrefix {self : InMemoryStorage} {pre key value : Bytes} :
    (key, value) ∈ self.scanPrefix pre ↔ self.get key = some value ∧ pre <+: key := by
  rw [scanPrefix, OrderedScan.mem_scan Std.TreeMap.ordered_keys_toList,
    Std.TreeMap.mem_toList_iff_getElem?_eq_some]
  rfl

theorem scanPrefix_ordered (self : InMemoryStorage) (pre : Bytes) :
    (self.scanPrefix pre).Pairwise fun x y => compare x.1 y.1 = .lt :=
  OrderedScan.scan_ordered Std.TreeMap.ordered_keys_toList

end InMemoryStorage

-- What a `Box<dyn Storage>` is to its callers: a key-value map whose n-th put
-- from now on may return Err. `written` lists the puts that went through.
structure Backend where
  map : InMemoryStorage
  written : List (Bytes × Bytes)
  fails : Nat → Bool

namespace Backend

def put (self : Backend) (key value : Bytes) : Except Fault Unit × Backend :=
  if self.fails 0 then
    (.error .failed, { self with fails := fun n => self.fails (n + 1) })
  else
    (.ok (),
      { map := self.map.put key value
        written := self.written ++ [(key, value)]
        fails := fun n => self.fails (n + 1) })

theorem put_ok {self after : Backend} {key value : Bytes}
    (done : self.put key value = (.ok (), after)) :
    after.map = self.map.put key value ∧ after.written = self.written ++ [(key, value)] := by
  unfold put at done
  split at done
  · simp at done
  · simp only [Prod.mk.injEq, true_and] at done
    subst done
    exact ⟨rfl, rfl⟩

theorem put_fails (self : Backend) (key value : Bytes) (fails : self.fails 0 = true) :
    (self.put key value).1 = .error .failed := by
  simp [put, fails]

theorem put_through (self : Backend) (key value : Bytes) (works : self.fails 0 = false) :
    (self.put key value).1 = .ok () := by
  simp [put, works]

@[simp] theorem put_next (self : Backend) (key value : Bytes) (i : Nat) :
    (self.put key value).2.fails i = self.fails (i + 1) := by
  unfold put
  split <;> rfl

theorem get_put (self : Backend) (key value other : Bytes) :
    (self.put key value).2.map.get other =
      if self.fails 0 = false ∧ key = other then some value else self.map.get other := by
  unfold put
  cases self.fails 0 <;> simp [InMemoryStorage.get_put]

theorem put_done (self : Backend) (key value : Bytes) :
    (self.put key value).1 ≠ .error .diverged := by
  unfold put
  split <;> simp

def Reliable (self : Backend) : Prop :=
  ∀ n, self.fails n = false

theorem Reliable.put {self : Backend} (reliable : self.Reliable) (key value : Bytes) :
    (self.put key value).1 = .ok () ∧ (self.put key value).2.Reliable := by
  simp only [Backend.put, reliable 0, Bool.false_eq_true, if_false, true_and]
  exact fun n => reliable (n + 1)

end Backend

-- serde_json, of which the code uses that it decodes what it encodes.
class Serde (A : Type) where
  toVec : A → Bytes
  fromSlice : Bytes → Option A
  fromSlice_toVec : ∀ value, fromSlice (toVec value) = some value

attribute [simp] Serde.fromSlice_toVec

theorem Serde.toVec_injective {A : Type} [Serde A] :
    Function.Injective (Serde.toVec : A → Bytes) := by
  intro left right same
  have decoded := congrArg (Serde.fromSlice (A := A)) same
  simpa using decoded

def decode {A : Type} [Serde A] (bytes : Bytes) : Except Fault A :=
  match Serde.fromSlice bytes with
  | some value => .ok value
  | none => .error .failed

@[simp] theorem decode_toVec {A : Type} [Serde A] (value : A) :
    decode (Serde.toVec value) = .ok value := by
  simp [decode]

end Smr
