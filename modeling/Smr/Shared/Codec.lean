import Mathlib

set_option autoImplicit false

-- An encoding that tells where a value ends.
structure Codec (T : Type) where
  encode : T → Option (List UInt8)
  decode : List UInt8 → Option (T × List UInt8)
  decode_encode : ∀ value bytes rest, encode value = some bytes →
    decode (bytes ++ rest) = some (value, rest)

namespace Codec

variable {A B T : Type}

-- The values of `T` that are built of an `A`; the others are not encoded.
def part (codec : Codec A) (build : A → T) (read : T → Option A)
    (reads : ∀ value inner, read value = some inner → build inner = value) : Codec T where
  encode value := (read value).bind codec.encode
  decode bytes := (codec.decode bytes).map fun (inner, rest) => (build inner, rest)
  decode_encode value bytes rest encoded := by
    obtain ⟨inner, found, written⟩ := Option.bind_eq_some_iff.mp encoded
    rw [codec.decode_encode inner bytes rest written, Option.map_some]
    dsimp only
    rw [reads value inner found]

def iso (codec : Codec A) (build : A → T) (read : T → A)
    (reads : ∀ value, build (read value) = value) : Codec T :=
  codec.part build (fun value => some (read value)) fun value _ found =>
    Option.some.inj found ▸ reads value

def unit : Codec Unit where
  encode _ := some []
  decode bytes := some ((), bytes)
  decode_encode _ bytes rest encoded := by
    obtain rfl := Option.some.inj encoded
    rfl

-- Values that not everything of type `A` stands for.
def checked (codec : Codec A) (build : A → Option T) (read : T → A)
    (reads : ∀ value, build (read value) = some value) : Codec T where
  encode value := codec.encode (read value)
  decode bytes :=
    (codec.decode bytes).bind fun (inner, rest) => (build inner).map fun value => (value, rest)
  decode_encode value bytes rest encoded := by
    rw [codec.decode_encode _ bytes rest encoded, Option.bind_some]
    dsimp only
    rw [reads value, Option.map_some]

def block (length : Codec Nat) : Codec (List UInt8) where
  encode bytes := (length.encode bytes.length).map (· ++ bytes)
  decode bytes :=
    (length.decode bytes).bind fun (count, rest) =>
      if count ≤ rest.length then some (rest.take count, rest.drop count) else none
  decode_encode value bytes rest encoded := by
    obtain ⟨front, written, rfl⟩ := Option.map_eq_some_iff.mp encoded
    rw [List.append_assoc, length.decode_encode _ _ _ written, Option.bind_some]
    simp

def pair (first : Codec A) (second : Codec B) : Codec (A × B) where
  encode value :=
    (first.encode value.1).bind fun bytes => (second.encode value.2).map (bytes ++ ·)
  decode bytes :=
    (first.decode bytes).bind fun (a, rest) =>
      (second.decode rest).map fun (b, rest) => ((a, b), rest)
  decode_encode value bytes rest encoded := by
    obtain ⟨front, written, both⟩ := Option.bind_eq_some_iff.mp encoded
    obtain ⟨back, written', rfl⟩ := Option.map_eq_some_iff.mp both
    rw [List.append_assoc, first.decode_encode _ _ _ written, Option.bind_some]
    dsimp only
    rw [second.decode_encode _ _ _ written', Option.map_some]

def choice (tag : Codec Nat) (cases : List (Codec T)) (number : T → Nat) : Codec T where
  encode value :=
    (tag.encode (number value)).bind fun bytes =>
      cases[number value]?.bind fun codec => (codec.encode value).map (bytes ++ ·)
  decode bytes :=
    (tag.decode bytes).bind fun (number, rest) => cases[number]?.bind (·.decode rest)
  decode_encode value bytes rest encoded := by
    obtain ⟨front, written, both⟩ := Option.bind_eq_some_iff.mp encoded
    obtain ⟨codec, chosen, both⟩ := Option.bind_eq_some_iff.mp both
    obtain ⟨back, written', rfl⟩ := Option.map_eq_some_iff.mp both
    rw [List.append_assoc, tag.decode_encode _ _ _ written, Option.bind_some]
    dsimp only
    rw [chosen, Option.bind_some, codec.decode_encode _ _ _ written']

def option (tag : Codec Nat) (codec : Codec A) : Codec (Option A) :=
  choice tag
    [unit.part (fun _ => none) (fun value => if value.isNone then some () else none)
        fun value _ found => by cases value <;> simp at found ⊢,
      codec.part some id fun _ _ found => found.symm]
    fun value => if value.isNone then 0 else 1

end Codec
