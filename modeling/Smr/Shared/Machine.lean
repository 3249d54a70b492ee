import Mathlib

set_option autoImplicit false

namespace Machine

variable {S I O F : Type}

structure Call (S I O : Type) where
  before : S
  input : I
  output : O
  after : S

inductive Run (next : S → I → O → S → Prop) (start : S) : List (Call S I O) → S → Prop where
  | start : Run next start [] start
  | call {past : List (Call S I O)} {s t : S} {input : I} {output : O}
      (earlier : Run next start past s) (now : next s input output t) :
      Run next start (past ++ [⟨s, input, output, t⟩]) t

-- Each call meets the condition, given the calls before it.
def Each (holds : List (Call S I O) → Call S I O → Prop) (past : List (Call S I O)) : Prop :=
  ∀ earlier call later, past = earlier ++ call :: later → holds earlier call

-- The calls after the last one with a marked output.
def since (marks : O → Bool) (past : List (Call S I O)) : List (Call S I O) :=
  past.rtakeWhile fun call => !marks call.output

variable {next : S → I → O → S → Prop} {start s t : S} {past later : List (Call S I O)}

namespace Run

theorem split (run : Run next start (past ++ later) t) :
    ∃ s, Run next start past s ∧ Run next s later t := by
  generalize whole : past ++ later = all at run
  induction run generalizing later with
  | start =>
    obtain ⟨rfl, rfl⟩ := List.append_eq_nil_iff.mp whole
    exact ⟨start, .start, .start⟩
  | @call all s t input output earlier now ih =>
    rcases List.eq_nil_or_concat later with rfl | ⟨rest, last, rfl⟩
    · rw [List.append_nil] at whole
      exact ⟨t, whole ▸ .call earlier now, .start⟩
    · rw [List.concat_eq_append, ← List.append_assoc] at whole
      obtain ⟨same, final⟩ := List.append_inj' whole rfl
      obtain ⟨middle, first, second⟩ := ih same
      refine ⟨middle, first, ?_⟩
      rw [List.concat_eq_append, final]
      exact .call second now

theorem append (first : Run next start past s) (second : Run next s later t) :
    Run next start (past ++ later) t := by
  induction second with
  | start => simpa using first
  | call _ now ih =>
    rw [← List.append_assoc]
    exact .call ih now

theorem call_inv {call : Call S I O} (run : Run next start (past ++ [call]) t) :
    Run next start past call.before ∧ next call.before call.input call.output call.after ∧
      call.after = t := by
  generalize whole : past ++ [call] = all at run
  cases run with
  | start => simp at whole
  | @call all s _ input output earlier now =>
    obtain ⟨rfl, last⟩ := List.append_inj' whole rfl
    obtain rfl := List.singleton_inj.mp last
    exact ⟨earlier, now, rfl⟩

theorem at_call {call : Call S I O} (run : Run next start (past ++ call :: later) t) :
    Run next start past call.before ∧ next call.before call.input call.output call.after ∧
      Run next call.after later t := by
  rw [List.append_cons] at run
  obtain ⟨s, first, rest⟩ := run.split
  obtain ⟨earlier, now, rfl⟩ := first.call_inv
  exact ⟨earlier, now, rest⟩

theorem cons_inv {call : Call S I O} (run : Run next start (call :: later) t) :
    call.before = start ∧ next start call.input call.output call.after ∧
      Run next call.after later t := by
  have first : Run next start ([] ++ call :: later) t := run
  obtain ⟨nothing, now, rest⟩ := first.at_call
  generalize none : ([] : List (Call S I O)) = before at nothing
  cases nothing with
  | start => exact ⟨rfl, now, rest⟩
  | call _ _ => simp at none

theorem mono {measure : S → Nat} (run : Run next start past t)
    (grows : ∀ s input output t, next s input output t → measure s ≤ measure t) :
    measure start ≤ measure t := by
  induction run with
  | start => exact Nat.le_refl _
  | call _ now ih => exact Nat.le_trans ih (grows _ _ _ _ now)

end Run

section Each

variable {holds other : List (Call S I O) → Call S I O → Prop} {call : Call S I O}

theorem each_nil : Each holds ([] : List (Call S I O)) := by
  intro earlier call later whole
  simp at whole

theorem each_call : Each holds (past ++ [call]) ↔ Each holds past ∧ holds past call := by
  constructor
  · intro each
    refine ⟨fun earlier call' later whole => ?_, each past call [] (by simp)⟩
    exact each earlier call' (later ++ [call]) (by simp [whole])
  · rintro ⟨each, last⟩ earlier call' later whole
    rcases List.eq_nil_or_concat later with rfl | ⟨rest, final, rfl⟩
    · obtain ⟨rfl, same⟩ := List.append_inj' whole rfl
      exact List.singleton_inj.mp same ▸ last
    · rw [List.concat_eq_append, ← List.cons_append, ← List.append_assoc] at whole
      exact each earlier call' rest (List.append_inj' whole rfl).1

theorem Each.imp (each : Each holds past)
    (weakens : ∀ earlier call, holds earlier call → other earlier call) : Each other past :=
  fun earlier call later whole => weakens _ _ (each earlier call later whole)

theorem Each.before (each : Each holds (past ++ later)) : Each holds past :=
  fun earlier call rest whole => each earlier call (rest ++ later) (by simp [whole])

def EachFrom (holds : List (Call S I O) → Call S I O → Prop) :
    List (Call S I O) → List (Call S I O) → Prop
  | _, [] => True
  | earlier, call :: later => holds earlier call ∧ EachFrom holds (earlier ++ [call]) later

instance EachFrom.decidable [∀ earlier call, Decidable (holds earlier call)] :
    (earlier past : List (Call S I O)) → Decidable (EachFrom holds earlier past)
  | _, [] => .isTrue trivial
  | earlier, call :: later =>
    have := EachFrom.decidable (earlier ++ [call]) later
    inferInstanceAs (Decidable (holds earlier call ∧ EachFrom holds (earlier ++ [call]) later))

theorem eachFrom_iff {earlier : List (Call S I O)} :
    EachFrom holds earlier past ↔ Each (fun before call => holds (earlier ++ before) call) past := by
  induction past generalizing earlier with
  | nil => exact ⟨fun _ => each_nil, fun _ => trivial⟩
  | cons head rest ih =>
    rw [EachFrom, ih]
    constructor
    · rintro ⟨first, later⟩ before call after whole
      cases before with
      | nil =>
        obtain ⟨rfl, -⟩ := List.cons.inj whole
        simpa using first
      | cons head' before =>
        obtain ⟨rfl, rest⟩ := List.cons.inj whole
        simpa using later before call after rest
    · intro each
      refine ⟨by simpa using each [] head rest rfl, fun before call after whole => ?_⟩
      simpa using each (head :: before) call after (by rw [whole]; rfl)

instance Each.decidable [∀ earlier call, Decidable (holds earlier call)] :
    Decidable (Each holds past) :=
  decidable_of_iff (EachFrom holds [] past) (by simp [eachFrom_iff])

end Each

theorem Run.keeps {allowed : List (Call S I O) → Call S I O → Prop}
    (holds : List (Call S I O) → S → Prop) {prior : List (Call S I O)}
    (run : Run next start past t) (initial : holds prior start)
    (each : Each allowed (prior ++ past))
    (step : ∀ earlier (call : Call S I O), holds earlier call.before →
      next call.before call.input call.output call.after → allowed earlier call →
      holds (earlier ++ [call]) call.after) :
    holds (prior ++ past) t := by
  induction run with
  | start => simpa using initial
  | @call past s t input output _ now ih =>
    rw [← List.append_assoc] at each ⊢
    obtain ⟨before, here⟩ := each_call.mp each
    exact step _ ⟨s, input, output, t⟩ (ih before) now here

theorem each_true : Each (fun _ _ => True) past :=
  fun _ _ _ _ => trivial

@[simp] theorem since_nil (marks : O → Bool) : since marks ([] : List (Call S I O)) = [] :=
  rfl

theorem since_subset (marks : O → Bool) (past : List (Call S I O)) : since marks past ⊆ past :=
  (List.rtakeWhile_suffix _ _).subset

theorem since_call (marks : O → Bool) (past : List (Call S I O)) (call : Call S I O) :
    since marks (past ++ [call]) =
      if marks call.output then [] else since marks past ++ [call] := by
  rw [since, List.rtakeWhile_concat]
  cases marks call.output <;> rfl

def perform (step : S → I → Except F (O × S)) : S → List I → Except F (List (Call S I O) × S)
  | s, [] => .ok ([], s)
  | s, input :: rest => do
    let (output, t) ← step s input
    let (past, last) ← perform step t rest
    pure (⟨s, input, output, t⟩ :: past, last)

theorem perform_run {step : S → I → Except F (O × S)} {inputs : List I}
    (done : perform step s inputs = .ok (past, t)) :
    Run (fun s input output t => step s input = .ok (output, t)) s past t := by
  induction inputs generalizing s past with
  | nil =>
    simp only [perform, Except.ok.injEq, Prod.mk.injEq] at done
    obtain ⟨rfl, rfl⟩ := done
    exact .start
  | cons input rest ih =>
    unfold perform at done
    cases stepped : step s input with
    | error fault => simp [stepped, bind, Except.bind] at done
    | ok result =>
      obtain ⟨output, middle⟩ := result
      cases later : perform step middle rest with
      | error fault => simp [stepped, later, bind, Except.bind] at done
      | ok result =>
        obtain ⟨calls, last⟩ := result
        simp only [stepped, later, bind, Except.bind, pure, Except.pure, Except.ok.injEq,
          Prod.mk.injEq] at done
        obtain ⟨rfl, rfl⟩ := done
        exact Run.append (.call .start stepped) (ih later)

def trace (step : S → I → O × S) : S → List I → List (Call S I O) × S
  | s, [] => ([], s)
  | s, input :: rest =>
    let (output, t) := step s input
    let (past, last) := trace step t rest
    (⟨s, input, output, t⟩ :: past, last)

theorem trace_run (step : S → I → O × S) (s : S) (inputs : List I) :
    Run (fun s input output t => step s input = (output, t)) s (trace step s inputs).1
      (trace step s inputs).2 := by
  induction inputs generalizing s with
  | nil => exact .start
  | cons input rest ih => exact Run.append (.call .start rfl) (ih _)

def performed (step : S → I → Except F (O × S)) (s : S) (inputs : List I) :
    List (Call S I O) × S :=
  (perform step s inputs).toOption.getD ([], s)

theorem performed_run {step : S → I → Except F (O × S)} {inputs : List I}
    (goes : (perform step s inputs).toOption.isSome) :
    Run (fun s input output t => step s input = .ok (output, t)) s
      (performed step s inputs).1 (performed step s inputs).2 := by
  obtain ⟨result, whole⟩ := Option.isSome_iff_exists.mp goes
  rw [performed, whole]
  cases done : perform step s inputs with
  | error fault => simp [done, Except.toOption] at whole
  | ok pair =>
    simp only [done, Except.toOption, Option.some.injEq] at whole
    exact perform_run (whole ▸ done)

end Machine
