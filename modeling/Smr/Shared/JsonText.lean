import Mathlib
import Smr.Shared.Text

set_option autoImplicit false

namespace JsonText

open Text

def quote : Char := Char.ofNat 34

def backslash : Char := Char.ofNat 92

def hexDigit (n : Nat) : Char :=
  if n < 10 then Char.ofNat (48 + n) else Char.ofNat (87 + n)

def hexValue (c : Char) : Option Nat :=
  if 48 ≤ c.toNat ∧ c.toNat ≤ 57 then some (c.toNat - 48)
  else if 97 ≤ c.toNat ∧ c.toNat ≤ 102 then some (c.toNat - 87)
  else if 65 ≤ c.toNat ∧ c.toNat ≤ 70 then some (c.toNat - 55)
  else none

def letters : List (Char × Char) :=
  [(Char.ofNat 8, 'b'), (Char.ofNat 9, 't'), (Char.ofNat 10, 'n'), (Char.ofNat 12, 'f'),
    (Char.ofNat 13, 'r')]

def escape (c : Char) : List Char :=
  if c = quote ∨ c = backslash then [backslash, c]
  else if c.toNat < 32 then
    match letters.lookup c with
    | some letter => [backslash, letter]
    | none => [backslash, 'u', '0', '0', hexDigit (c.toNat / 16), hexDigit (c.toNat % 16)]
  else [c]

def string (text : List Char) : List Char :=
  quote :: (text.flatMap escape ++ [quote])

def unescape (c : Char) : Option Char :=
  if c = quote ∨ c = backslash ∨ c = '/' then some c
  else (letters.find? fun entry => entry.2 = c).map Prod.fst

def codePoint (digits : List Char) : Option Char := do
  let values ← digits.mapM hexValue
  let n := Nat.ofDigits 16 values.reverse
  if n.isValidChar then some (Char.ofNat n) else none

-- The rest of a string whose quote was read; an escaped code point is one of the first plane.
def characters : List Char → Option (List Char × List Char)
  | [] => none
  | c :: rest =>
    if c = quote then some ([], rest)
    else if c = backslash then
      match rest with
      | 'u' :: x₃ :: x₂ :: x₁ :: x₀ :: rest => do
        let c ← codePoint [x₃, x₂, x₁, x₀]
        let (text, rest) ← characters rest
        some (c :: text, rest)
      | e :: rest => do
        let c ← unescape e
        let (text, rest) ← characters rest
        some (c :: text, rest)
      | [] => none
    else if c.toNat < 32 then none
    else (characters rest).map fun (text, rest) => (c :: text, rest)

def readString : List Char → Option (List Char × List Char)
  | [] => none
  | c :: rest => if c = quote then characters rest else none

def skip (expected text : List Char) : Option (List Char) :=
  if expected.isPrefixOf text then some (text.drop expected.length) else none

@[simp] theorem skip_append (expected rest : List Char) :
    skip expected (expected ++ rest) = some rest := by
  simp [skip]

theorem characters_quote (rest : List Char) : characters (quote :: rest) = some ([], rest) := by
  rw [characters.eq_def]
  rfl

theorem characters_plain {c : Char} (rest : List Char) (special : ¬(c = quote ∨ c = backslash))
    (printed : ¬c.toNat < 32) :
    characters (c :: rest) = (characters rest).map fun (text, rest) => (c :: text, rest) := by
  rw [not_or] at special
  rw [characters.eq_def]
  simp only [if_neg special.1, if_neg special.2, if_neg printed]

theorem characters_letter {c e : Char} (rest : List Char) (other : e ≠ 'u')
    (known : unescape e = some c) :
    characters (backslash :: e :: rest) =
      (characters rest).map fun (text, rest) => (c :: text, rest) := by
  rw [characters.eq_def]
  simp only [if_neg (show backslash ≠ quote by decide), if_true]
  split
  next same => exact absurd (List.cons.inj same).1 other
  next same =>
    obtain ⟨rfl, rfl⟩ := List.cons.inj same
    rw [known]
    cases characters rest <;> rfl
  next same => simp at same

theorem characters_point {c x₃ x₂ x₁ x₀ : Char} (rest : List Char)
    (known : codePoint [x₃, x₂, x₁, x₀] = some c) :
    characters (backslash :: 'u' :: x₃ :: x₂ :: x₁ :: x₀ :: rest) =
      (characters rest).map fun (text, rest) => (c :: text, rest) := by
  rw [characters.eq_def]
  simp only [if_neg (show backslash ≠ quote by decide), if_true, known]
  cases characters rest <;> rfl

theorem escape_control : ∀ n < 32,
    (∃ e, escape (Char.ofNat n) = [backslash, e] ∧ e ≠ 'u' ∧ unescape e = some (Char.ofNat n)) ∨
    ∃ x₁ x₀, escape (Char.ofNat n) = [backslash, 'u', '0', '0', x₁, x₀] ∧
      codePoint ['0', '0', x₁, x₀] = some (Char.ofNat n) := by
  intro n control
  have each : ∀ n < 32, ((letters.lookup (Char.ofNat n)).any fun e =>
        escape (Char.ofNat n) = [backslash, e] ∧ e ≠ 'u' ∧ unescape e = some (Char.ofNat n)) ∨
      (escape (Char.ofNat n) =
          [backslash, 'u', '0', '0', hexDigit (n / 16), hexDigit (n % 16)] ∧
        codePoint ['0', '0', hexDigit (n / 16), hexDigit (n % 16)] = some (Char.ofNat n)) := by
    decide +kernel
  rcases each n control with short | long
  · cases letter : letters.lookup (Char.ofNat n) with
    | none => simp [letter] at short
    | some e =>
      rw [letter] at short
      exact .inl ⟨e, by simpa using short⟩
  · exact .inr ⟨_, _, long⟩

theorem characters_escape (c : Char) (rest : List Char) :
    characters (escape c ++ rest) =
      (characters rest).map fun (text, rest) => (c :: text, rest) := by
  by_cases special : c = quote ∨ c = backslash
  · have letter : c ≠ 'u' := by rcases special with rfl | rfl <;> decide
    rw [escape, if_pos special]
    exact characters_letter rest letter (by rw [unescape, if_pos (by tauto)])
  by_cases control : c.toNat < 32
  · have each := escape_control c.toNat control
    rw [Char.ofNat_toNat] at each
    rcases each with ⟨e, escaped, other, known⟩ | ⟨x₁, x₀, escaped, known⟩
    · rw [escaped]
      exact characters_letter rest other known
    · rw [escaped]
      exact characters_point rest known
  · rw [escape, if_neg special, if_neg control]
    exact characters_plain rest special control

@[simp] theorem readString_string (text rest : List Char) :
    readString (string text ++ rest) = some (text, rest) := by
  have within : characters (text.flatMap escape ++ quote :: rest) = some (text, rest) := by
    induction text with
    | nil => exact characters_quote rest
    | cons c text ih =>
      rw [List.flatMap_cons, List.append_assoc, characters_escape, ih]
      rfl
  simpa [readString, string] using within

end JsonText
