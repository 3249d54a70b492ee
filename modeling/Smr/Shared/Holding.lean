import Mathlib

set_option autoImplicit false

namespace Holding

variable {P T : Type} [DecidableEq P]

-- Things handed out lie in places that hold one each.
def Known (holds : P → Option T) (things : List T) : Prop :=
  ∀ place thing, holds place = some thing → thing ∈ things

def Kept (holds : P → Option T) (things : List T) : Prop :=
  ∀ thing ∈ things, ∃! place, holds place = some thing

def put (holds : P → Option T) (place : P) (thing : T) : P → Option T :=
  Function.update holds place (some thing)

def move (holds : P → Option T) (source target : P) (thing : T) : P → Option T :=
  put (Function.update holds source none) target thing

variable {holds : P → Option T} {things : List T} {place source target : P} {thing : T}

@[simp] theorem put_here : put holds place thing place = some thing :=
  Function.update_self _ _ _

theorem put_there {other : P} (differs : other ≠ place) :
    put holds place thing other = holds other :=
  Function.update_of_ne differs _ _

theorem move_there {other : P} (unused : other ≠ source) (differs : other ≠ target) :
    move holds source target thing other = holds other :=
  (put_there differs).trans (Function.update_of_ne unused _ _)

theorem move_source (differs : source ≠ target) : move holds source target thing source = none :=
  (put_there differs).trans (Function.update_self _ _ _)

theorem Known.put (known : Known holds things) :
    Known (put holds place thing) (things ++ [thing]) := by
  intro other held there
  by_cases same : other = place
  · subst same
    simp only [put_here, Option.some.injEq] at there
    simp [there]
  · rw [put_there same] at there
    exact List.mem_append_left _ (known other held there)

theorem Known.move (known : Known holds things) (held : holds source = some thing) :
    Known (move holds source target thing) things := by
  intro other held' there
  by_cases same : other = target
  · subst same
    simp only [Holding.move, put_here, Option.some.injEq] at there
    exact there ▸ known source thing held
  · by_cases gone : other = source
    · subst gone
      simp [move_source same] at there
    · rw [move_there gone same] at there
      exact known other held' there

theorem Kept.put_iff (place : P) (known : Known holds things) (kept : Kept holds things)
    (new : thing ∉ things) :
    Kept (put holds place thing) (things ++ [thing]) ↔ holds place = none := by
  constructor
  · intro kept'
    cases taken : holds place with
    | none => rfl
    | some old =>
      have member := known place old taken
      obtain ⟨other, there, -⟩ := kept' old (List.mem_append_left _ member)
      by_cases same : other = place
      · subst same
        simp only [put_here, Option.some.injEq] at there
        exact absurd (there ▸ member) new
      · rw [put_there same] at there
        exact absurd ((kept old member).unique there taken) same
  · intro free held member
    rcases List.mem_append.mp member with member | member
    · obtain ⟨other, there, only⟩ := kept held member
      have differs : other ≠ place := by
        rintro rfl
        simp [free] at there
      refine ⟨other, (put_there differs).trans there, fun later there' => ?_⟩
      by_cases same : later = place
      · subst same
        simp only [put_here, Option.some.injEq] at there'
        exact absurd (there' ▸ member) new
      · exact only later ((put_there same).symm.trans there')
    · obtain rfl := List.mem_singleton.mp member
      refine ⟨place, put_here, fun later there => ?_⟩
      by_contra differs
      exact new (known later held ((put_there differs).symm.trans there))

theorem Kept.move_iff (target : P) (known : Known holds things) (kept : Kept holds things)
    (held : holds source = some thing) (differs : source ≠ target) :
    Kept (move holds source target thing) things ↔ holds target = none := by
  have member := known source thing held
  constructor
  · intro kept'
    cases taken : holds target with
    | none => rfl
    | some old =>
      have listed := known target old taken
      obtain ⟨other, there, -⟩ := kept' old listed
      by_cases same : other = target
      · subst same
        simp only [move, put_here, Option.some.injEq] at there
        subst there
        exact absurd ((kept thing member).unique held taken) differs
      · by_cases gone : other = source
        · subst gone
          simp [move_source differs] at there
        · rw [move_there gone same] at there
          exact absurd ((kept old listed).unique there taken) same
  · intro free other listed
    by_cases same : other = thing
    · subst same
      refine ⟨target, put_here, fun later there => ?_⟩
      by_contra elsewhere
      by_cases gone : later = source
      · subst gone
        simp [move_source differs] at there
      · exact gone ((kept other listed).unique ((move_there gone elsewhere).symm.trans there) held)
    · obtain ⟨place, there, only⟩ := kept other listed
      have away : place ≠ target := by
        rintro rfl
        simp [free] at there
      have stays : place ≠ source := by
        rintro rfl
        exact same (Option.some.inj (there.symm.trans held))
      refine ⟨place, (move_there stays away).trans there, fun later there' => ?_⟩
      by_cases same' : later = target
      · subst same'
        simp only [move, put_here, Option.some.injEq] at there'
        exact absurd there'.symm same
      · by_cases gone : later = source
        · subst gone
          simp [move_source differs] at there'
        · exact only later ((move_there gone same').symm.trans there')

end Holding
