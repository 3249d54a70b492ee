import Smr.Shared.LastWrite
import Smr.Storage.Backend

set_option autoImplicit false

namespace Smr

open Text

inductive Change where
  | put (key value : Bytes)
  | delete (key : Bytes)
  deriving DecidableEq, Repr

def Change.leaves (key : Bytes) : Change → Option (Option Bytes)
  | .put other value => if other = key then some (some value) else none
  | .delete other => if other = key then some none else none

def Change.current (history : List Change) (key : Bytes) : Option Bytes :=
  (LastWrite.latest (Change.leaves key) history).getD none

namespace InMemoryStorage

def change (self : InMemoryStorage) : Change → InMemoryStorage
  | .put key value => self.put key value
  | .delete key => self.delete key

def changes (self : InMemoryStorage) (history : List Change) : InMemoryStorage :=
  history.foldl change self

theorem get_delete (self : InMemoryStorage) (key other : Bytes) :
    (self.delete key).get other = if key = other then none else self.get other := by
  simp [delete, get, Std.TreeMap.getElem?_erase]

theorem get_change (self : InMemoryStorage) (change : Change) (key : Bytes) :
    (self.change change).get key = (change.leaves key).getD (self.get key) := by
  cases change with
  | put other value =>
    rw [InMemoryStorage.change, get_put, Change.leaves]
    split <;> rfl
  | delete other =>
    rw [InMemoryStorage.change, get_delete, Change.leaves]
    split <;> rfl

theorem get_changes (history : List Change) (key : Bytes) :
    (new.changes history).get key = Change.current history key := by
  have last := LastWrite.observed (fun self => self.get key)
    (fun self change => get_change self change key) new history
  rw [get_new] at last
  exact last

theorem compare_lt (left right : Bytes) : compare left right = .lt ↔ left < right :=
  OrderedScan.compare_lt_iff (fun _ _ => compareOfLessAndEq_eq_lt) left right

theorem scanPrefix_eq_filter (self : InMemoryStorage) (pre : Bytes) :
    self.scanPrefix pre = self.data.toList.filter fun entry => pre.isPrefixOf entry.1 :=
  OrderedScan.scan_eq_filter Std.TreeMap.ordered_keys_toList

theorem scanPrefix_exact (history : List Change) (pre : Bytes) :
    (∀ key value, (key, value) ∈ (new.changes history).scanPrefix pre ↔
      Change.current history key = some value ∧ pre <+: key) ∧
    (((new.changes history).scanPrefix pre).map Prod.fst).Pairwise (· < ·) ∧
    (new.changes history).scanPrefix pre =
      (new.changes history).data.toList.filter fun entry => pre.isPrefixOf entry.1 := by
  refine ⟨fun key value => ?_, List.pairwise_map.mpr ?_, scanPrefix_eq_filter _ pre⟩
  · rw [mem_scanPrefix, get_changes]
  · exact (scanPrefix_ordered _ pre).imp fun order => (compare_lt _ _).mp order

-- Keys with the prefix stand between a key before them and one behind that lacks it.
example :
    (new.changes [.put [255, 1] [1], .put [254] [2], .put [255] [3], .put [255, 255, 0] [4],
      .delete [255, 1], .put [255, 255] [5]]).scanPrefix [255] =
      [([255], [3]), ([255, 255], [5]), ([255, 255, 0], [4])] := by
  decide +kernel

end InMemoryStorage

end Smr
