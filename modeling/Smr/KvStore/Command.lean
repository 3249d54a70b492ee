import Smr.Channel.Wire
import Smr.Storage.Json

set_option autoImplicit false

namespace Smr

open Text

namespace KvStore

inductive Command where
  | get (key : String)
  | set (key value : String)
  deriving DecidableEq, Repr, Inhabited

def string : Codec String :=
  (Codec.block u64).checked (fun bytes => (fromUtf8 bytes).map String.ofList)
    (fun text => asBytes text.toList) fun text => by simp

instance : SerializableCommand Command where
  codec :=
    .choice u32
      [string.part .get (fun | .get key => some key | _ => none)
          fun value _ found => by cases value <;> simp at found; rw [← found],
        (string.pair string).part (fun v => .set v.1 v.2)
          (fun | .set key value => some (key, value) | _ => none)
          fun value _ found => by cases value <;> simp at found; rw [← found]]
      fun
      | .get _ => 0
      | .set .. => 1

section Json

open JsonText

def getHead : List Char := "\x7b\"Get\":\x7b\"key\":".toList

def setHead : List Char := "\x7b\"Set\":\x7b\"key\":".toList

def valueName : List Char := ",\"value\":".toList

def ends : List Char := "\x7d\x7d".toList

def json : Command → List Char
  | .get key => getHead ++ (JsonText.string key.toList ++ ends)
  | .set key value =>
    setHead ++ (JsonText.string key.toList ++
      (valueName ++ (JsonText.string value.toList ++ ends)))

def readGet (text : List Char) : Option (Command × List Char) := do
  let rest ← skip getHead text
  let (key, rest) ← readString rest
  let rest ← skip ends rest
  some (.get (.ofList key), rest)

def readSet (text : List Char) : Option (Command × List Char) := do
  let rest ← skip setHead text
  let (key, rest) ← readString rest
  let rest ← skip valueName rest
  let (value, rest) ← readString rest
  let rest ← skip ends rest
  some (.set (.ofList key) (.ofList value), rest)

def readCommand (text : List Char) : Option (Command × List Char) :=
  (readGet text).or (readSet text)

theorem skip_getHead (rest : List Char) : skip getHead (setHead ++ rest) = none := by
  have level : getHead.length = setHead.length := by decide +kernel
  have apart : getHead ≠ setHead := by decide +kernel
  have other : getHead.isPrefixOf (setHead ++ rest) = false := by
    refine Bool.eq_false_iff.mpr fun front => apart ?_
    have within := List.prefix_of_prefix_length_le (List.isPrefixOf_iff_prefix.mp front)
      (List.prefix_append setHead rest) (Nat.le_of_eq level)
    exact within.eq_of_length level
  simp [skip, other]

theorem readCommand_json (command : Command) (rest : List Char) :
    readCommand (json command ++ rest) = some (command, rest) := by
  cases command with
  | get key => simp [json, readCommand, readGet]
  | set key value => simp [json, readCommand, readGet, readSet, skip_getHead]

def format : Json.Format Command :=
  { write := json, read := readCommand, read_write := readCommand_json }

instance : Serde Command := format.command

instance : Serde (AcceptedValue Command) := format.accepted

example : format.acceptedValue ⟨4, .get "a\"b"⟩ =
    "\x7b\"ballot\":4,\"command\":\x7b\"Get\":\x7b\"key\":\"a\\\"b\"\x7d\x7d\x7d".toList := by
  decide +kernel

end Json

end KvStore

end Smr
