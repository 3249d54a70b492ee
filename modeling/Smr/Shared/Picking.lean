import Mathlib

set_option autoImplicit false

namespace Picking

variable {A B : Type} {pick : A → Option B} {list more : List A} {place other : Nat} {a c : A}
  {b d : B}

-- How many of the entries before the place are picked.
def rank (pick : A → Option B) (list : List A) (place : Nat) : Nat :=
  ((list.take place).filterMap pick).length

theorem found_at_rank (found : list[place]? = some a) (picked : pick a = some b) :
    (list.filterMap pick)[rank pick list place]? = some b := by
  obtain ⟨inside, rfl⟩ := List.getElem?_eq_some_iff.mp found
  have split : list = list.take place ++ list[place] :: list.drop (place + 1) := by
    rw [List.getElem_cons_drop, List.take_append_drop]
  have parts : list.filterMap pick =
      (list.take place).filterMap pick ++ b :: (list.drop (place + 1)).filterMap pick := by
    conv_lhs => rw [split]
    rw [List.filterMap_append, List.filterMap_cons_some picked]
  rw [parts, rank, List.getElem?_append_right (Nat.le_refl _), Nat.sub_self,
    List.getElem?_cons_zero]

theorem rank_lt (found : list[place]? = some a) (picked : pick a = some b)
    (before : place < other) : rank pick list place < rank pick list other := by
  have still : (list.take other)[place]? = some a := by
    rw [List.getElem?_take_of_lt before, found]
  have here := found_at_rank still picked
  have same : rank pick (list.take other) place = rank pick list place := by
    rw [rank, List.take_take, Nat.min_eq_left (Nat.le_of_lt before), rank]
  rw [same] at here
  exact (List.getElem?_eq_some_iff.mp here).1

theorem place_eq (found : list[place]? = some a) (picked : pick a = some b)
    (found' : list[other]? = some c) (picked' : pick c = some d)
    (same : rank pick list place = rank pick list other) : place = other := by
  rcases Nat.lt_trichotomy place other with before | here | after
  · exact absurd same (Nat.ne_of_lt (rank_lt found picked before))
  · exact here
  · exact absurd same.symm (Nat.ne_of_lt (rank_lt found' picked' after))

theorem rank_append (inside : place ≤ list.length) :
    rank pick (list ++ more) place = rank pick list place := by
  rw [rank, List.take_append_of_le_length inside, rank]

theorem rank_length : rank pick list list.length = (list.filterMap pick).length := by
  rw [rank, List.take_length]

end Picking
