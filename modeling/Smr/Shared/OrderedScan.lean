import Mathlib

set_option autoImplicit false

namespace OrderedScan

variable {A : Type} [Ord A]

theorem compare_cons (a b : A) (as bs : List A) :
    compare (a :: as) (b :: bs) = (compare a b).then (compare as bs) := by
  rw [List.compare_eq_compareLex, List.compareLex_cons_cons]

variable [Std.LawfulEqOrd A]

theorem compare_append_left (pre left right : List A) :
    compare (pre ++ left) (pre ++ right) = compare left right := by
  induction pre with
  | nil => rfl
  | cons a pre ih =>
    have reflexive : compare a a = .eq := Std.ReflCmp.compare_self
    rw [List.cons_append, List.cons_append, compare_cons, reflexive, Ordering.eq_then, ih]

theorem isLE_of_isPrefix {pre word : List A} (starts : pre <+: word) :
    (compare pre word).isLE := by
  induction pre generalizing word with
  | nil => exact List.isLE_compareLex_nil_left
  | cons a pre ih =>
    obtain ⟨rest, rfl⟩ := starts
    have reflexive : compare a a = .eq := Std.ReflCmp.compare_self
    rw [List.cons_append, compare_cons, reflexive]
    exact ih ⟨rest, rfl⟩

theorem lt_of_passed {pre passed word : List A} (after : (compare pre passed).isLE)
    (stops : ¬ pre <+: passed) (starts : pre <+: word) : compare word passed = .lt := by
  induction pre generalizing passed word with
  | nil => exact absurd (List.nil_prefix) stops
  | cons a pre ih =>
    obtain ⟨rest, rfl⟩ := starts
    cases passed with
    | nil => simp at after
    | cons b passed =>
      rw [compare_cons] at after
      rw [List.cons_append, compare_cons]
      cases order : compare a b with
      | lt => rfl
      | gt => simp [order] at after
      | eq =>
        have same : a = b := Std.LawfulEqCmp.eq_of_compare order
        subst same
        simp only [order, Ordering.eq_then] at after ⊢
        exact ih after (by simpa using stops) ⟨rest, rfl⟩

theorem compare_lt_iff [LT A] (letters : ∀ a b : A, compare a b = .lt ↔ a < b)
    (left right : List A) : compare left right = .lt ↔ left < right := by
  induction left generalizing right with
  | nil => cases right <;> simp
  | cons a left ih =>
    cases right with
    | nil => simp
    | cons b right =>
      rw [compare_cons, Ordering.then_eq_lt, letters, ih, List.cons_lt_cons_iff,
        Std.LawfulEqCmp.compare_eq_iff_eq]

theorem takeWhile_eq_filter {B : Type} {p : B → Bool} {xs : List B}
    (closed : xs.Pairwise fun x y => p x = false → p y = false) :
    xs.takeWhile p = xs.filter p := by
  induction xs with
  | nil => rfl
  | cons x xs ih =>
    rw [List.pairwise_cons] at closed
    cases holds : p x with
    | true => simp [holds, ih closed.2]
    | false =>
      have none_left : xs.filter p = [] := by
        simp only [List.filter_eq_nil_iff, Bool.not_eq_true]
        exact fun y member => closed.1 y member holds
      simp [holds, none_left]

variable {V : Type}

-- BTreeMap::range(pre..) cut off at the first key that does not begin with `pre`.
def scan [BEq A] (pre : List A) (entries : List (List A × V)) : List (List A × V) :=
  (entries.filter fun entry => (compare pre entry.1).isLE).takeWhile
    fun entry => pre.isPrefixOf entry.1

variable [Std.TransOrd A] [BEq A] [LawfulBEq A]

theorem scan_eq_filter {pre : List A} {entries : List (List A × V)}
    (ordered : entries.Pairwise fun x y => compare x.1 y.1 = .lt) :
    scan pre entries = entries.filter fun entry => pre.isPrefixOf entry.1 := by
  have closed : (entries.filter fun entry => (compare pre entry.1).isLE).Pairwise fun x y =>
      pre.isPrefixOf x.1 = false → pre.isPrefixOf y.1 = false := by
    refine (ordered.filter _).imp_of_mem ?_
    intro x y memberX _ less stops
    rw [List.mem_filter] at memberX
    by_contra starts
    have stopped : ¬ pre <+: x.1 := by
      rw [← List.isPrefixOf_iff_prefix, stops]
      exact Bool.false_ne_true
    have behind := lt_of_passed memberX.2 stopped (show pre <+: y.1 by simpa using starts)
    have ahead := Std.OrientedCmp.gt_of_lt less
    simp [behind] at ahead
  rw [scan, takeWhile_eq_filter closed, List.filter_filter]
  apply List.filter_congr
  intro entry _
  by_cases starts : pre <+: entry.1
  · simp [isLE_of_isPrefix starts]
  · simp [starts]

theorem scan_ordered {pre : List A} {entries : List (List A × V)}
    (ordered : entries.Pairwise fun x y => compare x.1 y.1 = .lt) :
    (scan pre entries).Pairwise fun x y => compare x.1 y.1 = .lt := by
  rw [scan_eq_filter ordered]
  exact ordered.filter _

theorem mem_scan {pre : List A} {entries : List (List A × V)}
    (ordered : entries.Pairwise fun x y => compare x.1 y.1 = .lt) {entry : List A × V} :
    entry ∈ scan pre entries ↔ entry ∈ entries ∧ pre <+: entry.1 := by
  simp [scan_eq_filter ordered]

omit [BEq A] [LawfulBEq A] in
theorem eq_of_ordered {xs ys : List (List A × V)}
    (left : xs.Pairwise fun x y => compare x.1 y.1 = .lt)
    (right : ys.Pairwise fun x y => compare x.1 y.1 = .lt)
    (same : ∀ entry, entry ∈ xs ↔ entry ∈ ys) :
    xs = ys := by
  have irreflexive : Std.Irrefl fun x y : List A × V => compare x.1 y.1 = .lt :=
    ⟨fun x less => by simp at less⟩
  have antisymmetric : Std.Antisymm fun x y : List A × V => compare x.1 y.1 = .lt := by
    refine ⟨fun x y less more => ?_⟩
    have behind := Std.OrientedCmp.gt_of_lt less
    simp [more] at behind
  exact left.eq_of_mem_iff right same

end OrderedScan
