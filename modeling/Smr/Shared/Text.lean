import Mathlib
import Smr.Shared.OrderedScan

set_option autoImplicit false

namespace Text

abbrev Bytes := List UInt8

def asBytes (text : List Char) : Bytes :=
  text.flatMap String.utf8EncodeChar

def fromUtf8 (bytes : Bytes) : Option (List Char) :=
  bytes.toByteArray.utf8Decode?.map Array.toList

@[simp] theorem fromUtf8_asBytes (text : List Char) : fromUtf8 (asBytes text) = some text := by
  have decoded := List.utf8Decode?_utf8Encode (l := text)
  rw [List.utf8Encode] at decoded
  simp [fromUtf8, asBytes, decoded]

theorem asBytes_injective : Function.Injective asBytes := by
  intro left right same
  have decoded := congrArg fromUtf8 same
  simpa using decoded

@[simp] theorem asBytes_append (left right : List Char) :
    asBytes (left ++ right) = asBytes left ++ asBytes right := by
  simp [asBytes]

theorem asBytes_prefix (pre text : List Char) : asBytes pre <+: asBytes (pre ++ text) := by
  simp

-- The pieces between separators, like str::split with a char.
def split (separator : Char) : List Char → List (List Char)
  | [] => [[]]
  | c :: rest =>
    if c = separator then
      [] :: split separator rest
    else
      match split separator rest with
      | [] => [[c]]
      | piece :: pieces => (c :: piece) :: pieces

theorem split_append (separator : Char) (piece rest : List Char) (plain : separator ∉ piece) :
    split separator (piece ++ separator :: rest) = piece :: split separator rest := by
  induction piece with
  | nil => simp [split]
  | cons c piece ih =>
    simp only [List.mem_cons, not_or] at plain
    simp [split, Ne.symm plain.1, ih plain.2]

theorem split_plain (separator : Char) (piece : List Char) (plain : separator ∉ piece) :
    split separator piece = [piece] := by
  induction piece with
  | nil => rfl
  | cons c piece ih =>
    simp only [List.mem_cons, not_or] at plain
    simp [split, Ne.symm plain.1, ih plain.2]

def decimal (n : Nat) : List Char :=
  Nat.toDigits 10 n

-- integer::from_str: an optional plus sign, at least one digit, no overflow.
def parse (limit : Nat) (text : List Char) : Option Nat :=
  let digits := match text with
    | [] => []
    | c :: rest => if c = '+' then rest else c :: rest
  if digits ≠ [] ∧ digits.all Char.isDigit ∧ Nat.ofDigitChars 10 digits 0 ≤ limit then
    some (Nat.ofDigitChars 10 digits 0)
  else none

theorem isDigit_of_mem_decimal {n : Nat} {c : Char} (member : c ∈ decimal n) : c.isDigit :=
  Nat.isDigit_of_mem_toDigits (by decide) (by decide) member

theorem decimal_ne_nil (n : Nat) : decimal n ≠ [] :=
  Nat.toDigits_ne_nil

theorem not_mem_decimal {n : Nat} {c : Char} (symbol : c.isDigit = false) : c ∉ decimal n := by
  intro member
  simp [isDigit_of_mem_decimal member] at symbol

@[simp] theorem ofDigitChars_decimal (n : Nat) : Nat.ofDigitChars 10 (decimal n) 0 = n :=
  Nat.ofDigitChars_ten_toDigits

theorem decimal_injective : Function.Injective decimal := by
  intro left right same
  have value := congrArg (fun digits => Nat.ofDigitChars 10 digits 0) same
  simpa using value

theorem parse_digits (limit : Nat) {digits : List Char} (some_digit : digits ≠ [])
    (all_digits : ∀ c ∈ digits, c.isDigit) (fits : Nat.ofDigitChars 10 digits 0 ≤ limit) :
    parse limit digits = some (Nat.ofDigitChars 10 digits 0) := by
  cases digits with
  | nil => exact absurd rfl some_digit
  | cons c rest =>
    have signless : c ≠ '+' := by
      rintro rfl
      simpa using all_digits '+' (by simp)
    have all : (c :: rest).all Char.isDigit = true := List.all_eq_true.mpr all_digits
    unfold parse
    simp only [signless, if_false]
    rw [if_pos ⟨some_digit, all, fits⟩]

theorem parse_decimal {limit n : Nat} (fits : n ≤ limit) : parse limit (decimal n) = some n := by
  have digits := parse_digits limit (decimal_ne_nil n)
    (fun c member => isDigit_of_mem_decimal member) (by simpa using fits)
  simpa using digits

def padded (width n : Nat) : List Char :=
  List.leftpad width '0' (decimal n)

theorem isDigit_of_mem_padded {width n : Nat} {c : Char} (member : c ∈ padded width n) :
    c.isDigit := by
  rcases List.mem_append.mp member with zero | digit
  · exact (List.mem_replicate.mp zero).2 ▸ rfl
  · exact isDigit_of_mem_decimal digit

theorem padded_ne_nil (width n : Nat) : padded width n ≠ [] := by
  simp [padded, List.leftpad, decimal_ne_nil]

@[simp] theorem ofDigitChars_padded (width n : Nat) :
    Nat.ofDigitChars 10 (padded width n) 0 = n := by
  rw [padded, List.leftpad, Nat.ofDigitChars_append, Nat.ofDigitChars_replicate_zero]
  simp

theorem length_padded {width n : Nat} (positive : 0 < width) (fits : n < 10 ^ width) :
    (padded width n).length = width := by
  have short : (decimal n).length ≤ width :=
    (Nat.length_toDigits_le_iff (by decide) positive).mpr fits
  rw [padded, List.length_leftpad]
  exact Nat.max_eq_left short

theorem padded_injective (width : Nat) : Function.Injective (padded width) := by
  intro left right same
  have value := congrArg (fun digits => Nat.ofDigitChars 10 digits 0) same
  simpa using value

theorem parse_padded {limit n : Nat} (width : Nat) (fits : n ≤ limit) :
    parse limit (padded width n) = some n := by
  have digits := parse_digits limit (padded_ne_nil width n)
    (fun c member => isDigit_of_mem_padded member) (by simpa using fits)
  simpa using digits

theorem digit_range {c : Char} (digit : c.isDigit) : 48 ≤ c.toNat ∧ c.toNat ≤ 57 := by
  simpa [Char.isDigit, UInt32.le_iff_toNat_le] using digit

theorem asBytes_digit {c : Char} (digit : c.isDigit) (rest : List Char) :
    asBytes (c :: rest) = c.toNat.toUInt8 :: asBytes rest := by
  obtain ⟨-, most⟩ := digit_range digit
  have ascii : c.toNat ≤ 127 := by omega
  simp [asBytes, String.utf8EncodeChar, ascii]

theorem ofDigitChars_lt {digits : List Char} (all_digits : ∀ c ∈ digits, c.isDigit) :
    Nat.ofDigitChars 10 digits 0 < 10 ^ digits.length := by
  induction digits with
  | nil => simp
  | cons c rest ih =>
    have below := ih fun c member => all_digits c (List.mem_cons_of_mem _ member)
    obtain ⟨least, most⟩ := digit_range (all_digits c List.mem_cons_self)
    rw [Nat.ofDigitChars_cons, Nat.ofDigitChars_eq_ofDigitChars_zero, List.length_cons,
      Nat.pow_succ]
    have digit : 10 * 0 + (c.toNat - '0'.toNat) ≤ 9 := by
      have : '0'.toNat = 48 := rfl
      omega
    have := Nat.mul_le_mul_left (10 ^ rest.length) digit
    omega

theorem compare_digits {left right : List Char} (left_digits : ∀ c ∈ left, c.isDigit)
    (right_digits : ∀ c ∈ right, c.isDigit) (length : left.length = right.length)
    (less : Nat.ofDigitChars 10 left 0 < Nat.ofDigitChars 10 right 0) :
    compare (asBytes left) (asBytes right) = .lt := by
  induction left generalizing right with
  | nil =>
    rw [List.length_eq_zero_iff.mp length.symm] at less
    exact absurd less (Nat.lt_irrefl _)
  | cons a left ih =>
    cases right with
    | nil => simp at length
    | cons b right =>
      simp only [List.length_cons, Nat.add_right_cancel_iff] at length
      rw [List.forall_mem_cons] at left_digits right_digits
      have low := ofDigitChars_lt left_digits.2
      have high := ofDigitChars_lt right_digits.2
      obtain ⟨leastA, mostA⟩ := digit_range left_digits.1
      obtain ⟨leastB, mostB⟩ := digit_range right_digits.1
      rw [Nat.ofDigitChars_cons, Nat.ofDigitChars_cons, Nat.ofDigitChars_eq_ofDigitChars_zero,
        Nat.ofDigitChars_eq_ofDigitChars_zero (l := right), ← length] at less
      rw [← length] at high
      have zero : '0'.toNat = 48 := rfl
      rw [asBytes_digit left_digits.1, asBytes_digit right_digits.1, OrderedScan.compare_cons]
      have order : compare a.toNat.toUInt8 b.toNat.toUInt8 = compare a.toNat b.toNat := by
        simp only [compare, compareOfLessAndEq, UInt8.lt_iff_toNat_lt, ← UInt8.toNat_inj,
          Nat.toUInt8_eq, UInt8.toNat_ofNat', Nat.mod_eq_of_lt (show a.toNat < 2 ^ 8 by omega),
          Nat.mod_eq_of_lt (show b.toNat < 2 ^ 8 by omega)]
      rw [order]
      rcases Nat.lt_trichotomy a.toNat b.toNat with ahead | same | behind
      · rw [Nat.compare_eq_lt.mpr ahead]
        rfl
      · rw [Nat.compare_eq_eq.mpr same, Ordering.eq_then]
        rw [same] at less
        exact ih left_digits.2 right_digits.2 length (by omega)
      · have gap : b.toNat - 48 + 1 ≤ a.toNat - 48 := by omega
        have := Nat.mul_le_mul_left (10 ^ left.length) gap
        rw [zero, Nat.mul_zero, Nat.zero_add, Nat.zero_add] at less
        rw [Nat.mul_add, Nat.mul_one] at this
        omega
end Text
