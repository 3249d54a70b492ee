import Mathlib

set_option autoImplicit false

namespace LastWrite

variable {A B S : Type}

-- What the last of the writes that concern a place leaves there.
def latest (written : A → Option B) (writes : List A) : Option B :=
  (writes.filterMap written).getLast?

@[simp] theorem latest_nil (written : A → Option B) : latest written [] = none :=
  rfl

theorem latest_concat (written : A → Option B) (writes : List A) (last : A) :
    latest written (writes ++ [last]) = (written last).or (latest written writes) := by
  unfold latest
  rw [List.filterMap_append, List.getLast?_append]
  cases found : written last <;> simp [found]

theorem latest_isSome {written : A → Option B} {writes : List A} :
    (latest written writes).isSome ↔ ∃ write ∈ writes, (written write).isSome := by
  rw [latest, List.getLast?_isSome, ne_eq, List.filterMap_eq_nil_iff]
  simp [Option.isSome_iff_ne_none]

theorem latest_isSome_mono {D : Type} {written : A → Option B} {also : A → Option D}
    {writes : List A} (both : ∀ write, (also write).isSome → (written write).isSome)
    (found : (latest also writes).isSome) : (latest written writes).isSome := by
  obtain ⟨write, member, concerns⟩ := latest_isSome.mp found
  exact latest_isSome.mpr ⟨write, member, both write concerns⟩

theorem latest_map {D : Type} (written : A → Option B) (f : B → D) (writes : List A) :
    latest (fun write => (written write).map f) writes = (latest written writes).map f := by
  rw [latest, ← List.map_filterMap, List.getLast?_map]
  rfl

theorem observed {step : S → A → S} (observe : S → B) {written : A → Option B}
    (writes_one : ∀ s write, observe (step s write) = (written write).getD (observe s)) (s : S)
    (writes : List A) :
    observe (writes.foldl step s) = (latest written writes).getD (observe s) := by
  induction writes using List.reverseRecOn with
  | nil => rfl
  | append_singleton writes last ih =>
    rw [List.foldl_append, List.foldl_cons, List.foldl_nil, writes_one, ih, latest_concat]
    cases written last <;> rfl

end LastWrite
