import Mathlib

set_option autoImplicit false

namespace Run

variable {S T A B : Type}

structure System (S A : Type) where
  init : S → Prop
  step : S → A → S → Prop

namespace System

-- The states of the runs all of whose steps meet the guard.
inductive Reachable (system : System S A) (guard : S → A → Prop) : S → Prop where
  | init {s : S} (starts : system.init s) : Reachable system guard s
  | step {s t : S} {a : A} (before : Reachable system guard s) (allowed : guard s a)
      (next : system.step s a t) : Reachable system guard t

def Steps (system : System S A) (guard : S → A → Prop) : S → S → Prop :=
  Relation.ReflTransGen fun s t => ∃ a, guard s a ∧ system.step s a t

theorem Steps.one {system : System S A} {guard : S → A → Prop} {s t : S} {a : A}
    (allowed : guard s a) (next : system.step s a t) : system.Steps guard s t :=
  .single ⟨a, allowed, next⟩

theorem Steps.mono {system : System S A} {guard weaker : S → A → Prop} {s t : S}
    (steps : system.Steps guard s t) (weakens : ∀ s a, guard s a → weaker s a) :
    system.Steps weaker s t := by
  induction steps with
  | refl => exact .refl
  | tail _ last ih =>
    obtain ⟨a, allowed, next⟩ := last
    exact ih.tail ⟨a, weakens _ _ allowed, next⟩

theorem Reachable.mono {system : System S A} {guard weaker : S → A → Prop} {s : S}
    (reachable : system.Reachable guard s) (weakens : ∀ s a, guard s a → weaker s a) :
    system.Reachable weaker s := by
  induction reachable with
  | init starts => exact .init starts
  | step _ allowed next ih => exact .step ih (weakens _ _ allowed) next

theorem Reachable.invariant {system : System S A} {guard : S → A → Prop} (holds : S → Prop)
    (initial : ∀ s, system.init s → holds s)
    (preserved : ∀ s a t, system.Reachable guard s → holds s → guard s a →
      system.step s a t → holds t)
    {s : S} (reachable : system.Reachable guard s) : holds s := by
  induction reachable with
  | init starts => exact initial _ starts
  | step before allowed next ih => exact preserved _ _ _ before ih allowed next

theorem Reachable.steps {system : System S A} {guard : S → A → Prop} {s t : S}
    (reachable : system.Reachable guard s) (steps : system.Steps guard s t) :
    system.Reachable guard t := by
  induction steps with
  | refl => exact reachable
  | tail _ last ih =>
    obtain ⟨a, allowed, next⟩ := last
    exact .step ih allowed next

theorem Reachable.map {system : System S A} {guard : S → A → Prop} {image : System T B}
    {guard' : T → B → Prop} (f : S → T) (initial : ∀ s, system.init s → image.init (f s))
    (simulates : ∀ s a t, system.Reachable guard s → image.Reachable guard' (f s) → guard s a →
      system.step s a t → image.Steps guard' (f s) (f t))
    {s : S} (reachable : system.Reachable guard s) : image.Reachable guard' (f s) := by
  induction reachable with
  | init starts => exact .init (initial _ starts)
  | step before allowed next ih => exact ih.steps (simulates _ _ _ before ih allowed next)

-- The runs again, each with the steps it took.
inductive Past (system : System S A) (guard : S → A → Prop) : List (S × A × S) → S → Prop where
  | init {s : S} (starts : system.init s) : Past system guard [] s
  | step {past : List (S × A × S)} {s t : S} {a : A} (before : Past system guard past s)
      (allowed : guard s a) (next : system.step s a t) : Past system guard (past ++ [(s, a, t)]) t

theorem Past.reachable {system : System S A} {guard : S → A → Prop} {past : List (S × A × S)}
    {s : S} (run : Past system guard past s) : system.Reachable guard s := by
  induction run with
  | init starts => exact .init starts
  | step _ allowed next ih => exact .step ih allowed next

theorem Reachable.past {system : System S A} {guard : S → A → Prop} {s : S}
    (reachable : system.Reachable guard s) : ∃ past, Past system guard past s := by
  induction reachable with
  | init starts => exact ⟨[], .init starts⟩
  | step _ allowed next ih =>
    obtain ⟨past, run⟩ := ih
    exact ⟨_, .step run allowed next⟩

def moments (past : List (S × A × S)) (s : S) : List S :=
  past.map Prod.fst ++ [s]

theorem Past.moment {system : System S A} {guard : S → A → Prop} {past : List (S × A × S)}
    {s m : S} (run : Past system guard past s) (member : m ∈ moments past s) :
    system.Reachable guard m ∧ system.Steps guard m s := by
  induction run with
  | init starts =>
    obtain rfl := List.mem_singleton.mp member
    exact ⟨.init starts, .refl⟩
  | step before allowed next ih =>
    unfold moments at member ih
    rw [List.map_append, List.map_singleton] at member
    rcases List.mem_append.mp member with old | new
    · obtain ⟨reachable, steps⟩ := ih old
      exact ⟨reachable, steps.tail ⟨_, allowed, next⟩⟩
    · obtain rfl := List.mem_singleton.mp new
      exact ⟨.step before.reachable allowed next, .refl⟩

theorem Past.lasting {system : System S A} {guard : S → A → Prop} (event : S → A → S → Prop)
    (holds : S → Prop)
    (starts : ∀ s a t, system.Reachable guard s → guard s a → system.step s a t →
      event s a t → holds t)
    (lasts : ∀ s a t, system.step s a t → holds s → holds t) {past : List (S × A × S)} {s : S}
    (run : Past system guard past s) :
    (∃ e ∈ past, event e.1 e.2.1 e.2.2) → holds s := by
  induction run with
  | init => simp
  | step before allowed next ih =>
    rintro ⟨e, member, happened⟩
    rcases List.mem_append.mp member with old | new
    · exact lasts _ _ _ next (ih ⟨e, old, happened⟩)
    · obtain rfl := List.mem_singleton.mp new
      exact starts _ _ _ before.reachable allowed next happened

theorem Past.each {system : System S A} {guard : S → A → Prop} (holds : S → A → S → Prop)
    (steps : ∀ s a t, system.Reachable guard s → guard s a → system.step s a t → holds s a t)
    {past : List (S × A × S)} {s : S} (run : Past system guard past s) :
    ∀ e ∈ past, holds e.1 e.2.1 e.2.2 := by
  induction run with
  | init => simp
  | step before allowed next ih =>
    intro e member
    rcases List.mem_append.mp member with old | new
    · exact ih e old
    · obtain rfl := List.mem_singleton.mp new
      exact steps _ _ _ before.reachable allowed next

def exec (next : S → A → Option S) (guard : S → A → Prop) [∀ s a, Decidable (guard s a)] :
    S → List A → Option S
  | s, [] => some s
  | s, a :: rest =>
    if guard s a then (next s a).bind fun t => exec next guard t rest else none

theorem exec_past {system : System S A} {next : S → A → Option S} {guard : S → A → Prop}
    [∀ s a, Decidable (guard s a)] (agrees : ∀ s a t, next s a = some t → system.step s a t)
    {past : List (S × A × S)} {s t : S} {actions : List A} (run : Past system guard past s)
    (runs : exec next guard s actions = some t) :
    ∃ later, Past system guard (past ++ later) t ∧ later.map (·.2.1) = actions := by
  induction actions generalizing past s with
  | nil =>
    simp only [exec, Option.some.injEq] at runs
    subst runs
    exact ⟨[], by simpa using run, rfl⟩
  | cons a rest ih =>
    unfold exec at runs
    split at runs
    next allowed =>
      obtain ⟨middle, taken, runs⟩ := Option.bind_eq_some_iff.mp runs
      obtain ⟨later, whole, taken⟩ := ih (run.step allowed (agrees _ _ _ taken)) runs
      exact ⟨(s, a, middle) :: later, by simpa using whole, by simp [taken]⟩
    next => simp at runs

def final (next : S → A → Option S) (guard : S → A → Prop) [∀ s a, Decidable (guard s a)] (s : S)
    (actions : List A) : S :=
  (exec next guard s actions).getD s

theorem final_past {system : System S A} {next : S → A → Option S} {guard : S → A → Prop}
    [∀ s a, Decidable (guard s a)] (agrees : ∀ s a t, next s a = some t → system.step s a t)
    {past : List (S × A × S)} {s : S} {actions : List A} (run : Past system guard past s)
    (runs : (exec next guard s actions).isSome) :
    ∃ later, Past system guard (past ++ later) (final next guard s actions) ∧
      later.map (·.2.1) = actions := by
  obtain ⟨t, whole⟩ := Option.isSome_iff_exists.mp runs
  rw [final, whole]
  exact exec_past agrees run whole

theorem final_reachable {system : System S A} {next : S → A → Option S} {guard : S → A → Prop}
    [∀ s a, Decidable (guard s a)] (agrees : ∀ s a t, next s a = some t → system.step s a t)
    {s : S} {actions : List A} (reachable : system.Reachable guard s)
    (runs : (exec next guard s actions).isSome) :
    system.Reachable guard (final next guard s actions) := by
  obtain ⟨past, run⟩ := reachable.past
  obtain ⟨later, whole, -⟩ := final_past agrees run runs
  exact whole.reachable

theorem final_steps {system : System S A} {next : S → A → Option S} {guard : S → A → Prop}
    [∀ s a, Decidable (guard s a)] (agrees : ∀ s a t, next s a = some t → system.step s a t)
    {s : S} {actions : List A} (runs : (exec next guard s actions).isSome) :
    system.Steps guard s (final next guard s actions) := by
  induction actions generalizing s with
  | nil => exact .refl
  | cons a rest ih =>
    unfold exec at runs
    split at runs
    next allowed =>
      obtain ⟨t, done⟩ := Option.isSome_iff_exists.mp runs
      obtain ⟨middle, taken, later⟩ := Option.bind_eq_some_iff.mp done
      have same : final next guard s (a :: rest) = final next guard middle rest := by
        rw [final, exec, if_pos allowed, taken, Option.bind_some, final, later]
        rfl
      rw [same]
      exact .head ⟨a, allowed, agrees _ _ _ taken⟩ (ih (by rw [later]; rfl))
    next => simp at runs

end System

end Run
