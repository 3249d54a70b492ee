import Smr.Channel.TcpChannel
import Smr.Shared.Codec

set_option autoImplicit false

namespace Smr

open Text

def encodeNat (width n : Nat) : Option Bytes :=
  if n < 251 then some [n.toUInt8]
  else if n < 2 ^ 16 then some (251 :: LittleEndian.toBytes 2 n)
  else if n < 2 ^ 32 then some (252 :: LittleEndian.toBytes 4 n)
  else if n < 256 ^ width then some (253 :: LittleEndian.toBytes 8 n)
  else none

def decodeNat (width : Nat) : Bytes → Option (Nat × Bytes)
  | [] => none
  | tag :: rest =>
    match varintWidth tag with
    | none => none
    | some 0 => some (tag.toNat, rest)
    | some count =>
      if count ≤ width ∧ count ≤ rest.length then
        some (LittleEndian.ofBytes (rest.take count), rest.drop count)
      else none

theorem decodeNat_toBytes {width count n : Nat} {tag : UInt8} (rest : Bytes)
    (wide : varintWidth tag = some (count + 1)) (fits : n < 256 ^ (count + 1))
    (within : count + 1 ≤ width) :
    decodeNat width (tag :: (LittleEndian.toBytes (count + 1) n ++ rest)) = some (n, rest) := by
  have front : (LittleEndian.toBytes (count + 1) n ++ rest).take (count + 1) =
      LittleEndian.toBytes (count + 1) n := List.take_left' (LittleEndian.length_toBytes ..)
  have back : (LittleEndian.toBytes (count + 1) n ++ rest).drop (count + 1) = rest :=
    List.drop_left' (LittleEndian.length_toBytes ..)
  simp only [decodeNat, wide, front, back, LittleEndian.ofBytes_toBytes_lt fits]
  exact if_pos ⟨within, by simp⟩

def varint (width : Nat) (wide : width = 4 ∨ width = 8) : Codec Nat where
  encode := encodeNat width
  decode := decodeNat width
  decode_encode n bytes rest encoded := by
    unfold encodeNat at encoded
    split at encoded
    next small =>
      obtain rfl := Option.some.inj encoded
      have value : n.toUInt8.toNat = n := by
        rw [Nat.toUInt8_eq, UInt8.toNat_ofNat']
        omega
      have one : n.toUInt8 < 251 := by
        rw [UInt8.lt_iff_toNat_lt, value]
        exact small
      simp [decodeNat, varintWidth, one, value]
    next =>
      split at encoded
      next two =>
        obtain rfl := Option.some.inj encoded
        exact decodeNat_toBytes rest rfl two (by omega)
      next =>
        split at encoded
        next four =>
          obtain rfl := Option.some.inj encoded
          exact decodeNat_toBytes rest rfl four (by omega)
        next beyond =>
          simp only [Option.ite_none_right_eq_some, Option.some.injEq] at encoded
          obtain ⟨fits, rfl⟩ := encoded
          rcases wide with rfl | rfl
          · exact absurd fits beyond
          · exact decodeNat_toBytes rest rfl fits (Nat.le_refl _)

def u32 : Codec Nat := varint 4 (.inl rfl)

def u64 : Codec Nat := varint 8 (.inr rfl)

class SerializableCommand (C : Type) where
  codec : Codec C

variable {C : Type} [SerializableCommand C]

def ballotCodec {T : Type} (build : Nat → Nat → T) (read : T → Nat × Nat)
    (reads : ∀ value, build (read value).1 (read value).2 = value) : Codec T :=
  (u32.pair u32).iso (fun v => build v.1 v.2) read reads

def proposalCodec {T : Type} (build : Nat → Nat → C → T) (read : T → Nat × Nat × C)
    (reads : ∀ value, build (read value).1 (read value).2.1 (read value).2.2 = value) : Codec T :=
  (u32.pair (u32.pair SerializableCommand.codec)).iso (fun v => build v.1 v.2.1 v.2.2) read reads

def maxAcceptedCodec : Codec (MaxAcceptedProposal C) :=
  (u32.pair SerializableCommand.codec).iso (fun v => ⟨v.1, v.2⟩)
    (fun v => (v.ballot, v.command)) fun _ => rfl

def promiseCodec : Codec (Promise C) :=
  (u32.pair (u32.pair (.option u32 maxAcceptedCodec))).iso (fun v => ⟨v.1, v.2.1, v.2.2⟩)
    (fun v => (v.sender, v.ballot, v.maxAccepted)) fun _ => rfl

-- The variants in the order of their declaration, the fields of each in theirs.
def messageKindCodec : Codec (MessageKind C) :=
  .choice u32
    [(SerializableCommand.codec.pair u64).part (fun v => .requestCommandToLeader v.1 v.2)
        (fun | .requestCommandToLeader cmd forwardId => some (cmd, forwardId) | _ => none)
        fun value _ found => by cases value <;> simp at found; rw [← found],
      (u64.pair u64).part (fun v => .forwardAck v.1 v.2)
        (fun | .forwardAck forwardId instanceId => some (forwardId, instanceId) | _ => none)
        fun value _ found => by cases value <;> simp at found; rw [← found],
      (ballotCodec Prepare.mk (fun v => (v.sender, v.ballot)) fun _ => rfl).part .prepareMsg
        (fun | .prepareMsg prepare => some prepare | _ => none)
        fun value _ found => by cases value <;> simp at found; rw [← found],
      promiseCodec.part .promiseMsg (fun | .promiseMsg promise => some promise | _ => none)
        fun value _ found => by cases value <;> simp at found; rw [← found],
      (proposalCodec Accept.mk (fun v => (v.sender, v.ballot, v.command)) fun _ => rfl).part
        .acceptMsg (fun | .acceptMsg accept => some accept | _ => none)
        fun value _ found => by cases value <;> simp at found; rw [← found],
      (ballotCodec AckAccept.mk (fun v => (v.sender, v.ballot)) fun _ => rfl).part .ackAcceptMsg
        (fun | .ackAcceptMsg ack => some ack | _ => none)
        fun value _ found => by cases value <;> simp at found; rw [← found],
      (ballotCodec NackPrepare.mk (fun v => (v.sender, v.maxBallot)) fun _ => rfl).part
        .nackPrepareMsg (fun | .nackPrepareMsg nack => some nack | _ => none)
        fun value _ found => by cases value <;> simp at found; rw [← found],
      (ballotCodec NackAccept.mk (fun v => (v.sender, v.maxBallot)) fun _ => rfl).part
        .nackAcceptMsg (fun | .nackAcceptMsg nack => some nack | _ => none)
        fun value _ found => by cases value <;> simp at found; rw [← found],
      (proposalCodec Learn.mk (fun v => (v.sender, v.ballot, v.command)) fun _ => rfl).part
        .learnMsg (fun | .learnMsg learn => some learn | _ => none)
        fun value _ found => by cases value <;> simp at found; rw [← found],
      SerializableCommand.codec.part .learnedCommand
        (fun | .learnedCommand cmd => some cmd | _ => none)
        fun value _ found => by cases value <;> simp at found; rw [← found]]
    fun
    | .requestCommandToLeader .. => 0
    | .forwardAck .. => 1
    | .prepareMsg _ => 2
    | .promiseMsg _ => 3
    | .acceptMsg _ => 4
    | .ackAcceptMsg _ => 5
    | .nackPrepareMsg _ => 6
    | .nackAcceptMsg _ => 7
    | .learnMsg _ => 8
    | .learnedCommand _ => 9

def messageCodec : Codec (Message C) :=
  (u32.pair (u64.pair messageKindCodec)).iso (fun v => ⟨v.1, v.2.1, v.2.2⟩)
    (fun v => (v.senderId, v.paxosInstance, v.msg)) fun _ => rfl

instance : Bincode (Message C) where
  encodeToVec := messageCodec.encode
  decodeFromSlice bytes :=
    (messageCodec.decode bytes).map fun (message, rest) => (message, bytes.length - rest.length)
  decode_encode message serialized encoded := by
    have whole := messageCodec.decode_encode message serialized [] encoded
    rw [List.append_nil] at whole
    rw [whole]
    rfl

instance : SerializableCommand Nat where
  codec := u64

example : Bincode.encodeToVec (⟨2, 300, .learnMsg ⟨1, 5, 7⟩⟩ : Message Nat) =
    some [2, 251, 44, 1, 8, 1, 5, 7] := by decide +kernel

end Smr
