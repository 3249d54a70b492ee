import Smr.Shared.JsonText
import Smr.Storage.PaxosStorage

set_option autoImplicit false

namespace Smr

open Text

-- The text serde_json writes for numbers, and for accepted values whose commands are
-- numbers; a reader of anything else fails.
namespace Json

def number (text : List Char) : Option Nat :=
  if text ≠ [] ∧ text.all Char.isDigit then some (Nat.ofDigitChars 10 text 0) else none

@[simp] theorem number_decimal (n : Nat) : number (decimal n) = some n := by
  have digits : (decimal n).all Char.isDigit = true :=
    List.all_eq_true.mpr fun _ member => isDigit_of_mem_decimal member
  simp [number, decimal_ne_nil, digits]

def acceptedValue (v : AcceptedValue Nat) : List Char :=
  "\x7b\"ballot\"".toList ++ ':' :: (decimal v.ballot ++ ",\"command\"".toList ++
    ':' :: (decimal v.command ++ "\x7d".toList))

def readAcceptedValue (text : List Char) : Option (AcceptedValue Nat) :=
  match split ':' text with
  | [_, ballot, command] => do
    let ballot ← number (ballot.takeWhile Char.isDigit)
    let command ← number (command.takeWhile Char.isDigit)
    let v : AcceptedValue Nat := { ballot := ballot, command := command }
    if acceptedValue v = text then some v else none
  | _ => none

theorem takeWhile_decimal (n : Nat) {c : Char} (rest : List Char) (symbol : c.isDigit = false) :
    (decimal n ++ c :: rest).takeWhile Char.isDigit = decimal n := by
  rw [List.takeWhile_append_of_pos fun _ member => isDigit_of_mem_decimal member]
  simp [symbol]

@[simp] theorem readAcceptedValue_acceptedValue (v : AcceptedValue Nat) :
    readAcceptedValue (acceptedValue v) = some v := by
  have symbols : ':' ∉ decimal v.ballot ∧ ':' ∉ decimal v.command :=
    ⟨not_mem_decimal (by decide), not_mem_decimal (by decide)⟩
  have pieces : split ':' (acceptedValue v) =
      ["\x7b\"ballot\"".toList, decimal v.ballot ++ ",\"command\"".toList,
        decimal v.command ++ "\x7d".toList] := by
    unfold acceptedValue
    rw [split_append _ _ _ (by decide), split_append _ _ _ (by simp [symbols.1]),
      split_plain _ _ (by simp [symbols.2])]
  have ballot : (decimal v.ballot ++ ",\"command\"".toList).takeWhile Char.isDigit =
      decimal v.ballot := takeWhile_decimal v.ballot _ (by decide)
  have command : (decimal v.command ++ "\x7d".toList).takeWhile Char.isDigit =
      decimal v.command := takeWhile_decimal v.command _ (by decide)
  unfold readAcceptedValue
  rw [pieces]
  simp only [ballot, command, number_decimal]
  simp

open JsonText

-- How the commands of a state machine are written; what is written says where it ends.
structure Format (C : Type) where
  write : C → List Char
  read : List Char → Option (C × List Char)
  read_write : ∀ command rest, read (write command ++ rest) = some (command, rest)

namespace Format

variable {C : Type} (self : Format C)

def ballotName : List Char := "\x7b\"ballot\":".toList

def commandName : List Char := "\"command\":".toList

def closing : List Char := "\x7d".toList

def acceptedValue (v : AcceptedValue C) : List Char :=
  ballotName ++ (decimal v.ballot ++ ',' :: (commandName ++ (self.write v.command ++ closing)))

def readAcceptedValue (text : List Char) : Option (AcceptedValue C) := do
  let rest ← skip ballotName text
  let digits := rest.takeWhile Char.isDigit
  let ballot ← number digits
  let rest ← skip (',' :: commandName) (rest.drop digits.length)
  let (command, rest) ← self.read rest
  if rest = closing then some { ballot := ballot, command := command } else none

theorem readAcceptedValue_acceptedValue (v : AcceptedValue C) :
    self.readAcceptedValue (self.acceptedValue v) = some v := by
  have digits := takeWhile_decimal v.ballot (commandName ++ (self.write v.command ++ closing))
    (show Char.isDigit ',' = false by decide)
  have after : skip (',' :: commandName)
      (',' :: (commandName ++ (self.write v.command ++ closing))) =
        some (self.write v.command ++ closing) := skip_append (',' :: commandName) _
  simp [readAcceptedValue, acceptedValue, digits, after, self.read_write]

@[reducible] def command : Serde C where
  toVec command := asBytes (self.write command)
  fromSlice bytes := do
    let text ← fromUtf8 bytes
    let (command, rest) ← self.read text
    if rest = [] then some command else none
  fromSlice_toVec command := by
    have read := self.read_write command []
    rw [List.append_nil] at read
    simp [read]

@[reducible] def accepted : Serde (AcceptedValue C) where
  toVec v := asBytes (self.acceptedValue v)
  fromSlice bytes := (fromUtf8 bytes).bind self.readAcceptedValue
  fromSlice_toVec v := by simp [self.readAcceptedValue_acceptedValue]

end Format

end Json

instance : Serde Nat where
  toVec n := asBytes (decimal n)
  fromSlice bytes := (fromUtf8 bytes).bind Json.number
  fromSlice_toVec n := by simp

instance : Serde (AcceptedValue Nat) where
  toVec v := asBytes (Json.acceptedValue v)
  fromSlice bytes := (fromUtf8 bytes).bind Json.readAcceptedValue
  fromSlice_toVec v := by simp

end Smr
