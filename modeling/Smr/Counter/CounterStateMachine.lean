import Smr.Channel.Wire
import Smr.Runtime.Repeats
import Smr.Storage.Json

set_option autoImplicit false

namespace Smr

open Text

namespace Counter

inductive Command where
  | increment
  | decrement
  | get
  deriving DecidableEq, Repr, Inhabited

def Command.unit (command : Command) : Codec Command :=
  Codec.unit.part (fun _ => command) (fun value => if value = command then some () else none)
    fun value _ found => by
      split at found
      next same => exact same.symm
      next => simp at found

instance : SerializableCommand Command where
  codec := .choice u32 [Command.unit .increment, Command.unit .decrement, Command.unit .get] fun
    | .increment => 0
    | .decrement => 1
    | .get => 2

section Json

open JsonText

def Command.name : Command → List Char
  | .increment => "Increment".toList
  | .decrement => "Decrement".toList
  | .get => "Get".toList

def named (text : List Char) : Option Command :=
  [.increment, .decrement, .get].find? fun command => command.name = text

theorem named_name (command : Command) : named command.name = some command := by
  cases command <;> decide +kernel

def json (command : Command) : List Char :=
  string command.name

def readCommand (text : List Char) : Option (Command × List Char) := do
  let (name, rest) ← readString text
  let command ← named name
  some (command, rest)

theorem readCommand_json (command : Command) (rest : List Char) :
    readCommand (json command ++ rest) = some (command, rest) := by
  simp [json, readCommand, named_name]

def format : Json.Format Command :=
  { write := json, read := readCommand, read_write := readCommand_json }

instance : Serde Command := format.command

instance : Serde (AcceptedValue Command) := format.accepted

end Json

-- An i64, which wraps around as in a release build; a debug build stops where it overflows.
structure CounterStateMachine where
  value : Int64
  deriving DecidableEq, Repr

def CounterStateMachine.new : CounterStateMachine :=
  { value := 0 }

instance : StateMachine CounterStateMachine Command where
  Output := Int64
  apply self
    | .increment => (.ok (self.value + 1), { value := self.value + 1 })
    | .decrement => (.ok (self.value - 1), { value := self.value - 1 })
    | .get => (.ok self.value, self)

theorem takes_all (machine : CounterStateMachine) (command : Command) : ∃ output,
    (StateMachine.apply machine command).1 = .ok output := by
  cases command <;> exact ⟨_, rfl⟩

def Command.change : Command → Int
  | .increment => 1
  | .decrement => -1
  | .get => 0

def balance (commands : List Command) : Int :=
  (commands.map Command.change).sum

end Counter

end Smr
