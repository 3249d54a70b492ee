import Smr.Shared.LittleEndian
import Smr.Synod.Messages
import Smr.Shared.Text

set_option autoImplicit false

namespace Smr

open Text

-- bincode in its standard configuration, of which the code uses that it decodes what it encodes.
class Bincode (T : Type) where
  encodeToVec : T → Option Bytes
  decodeFromSlice : Bytes → Option (T × Nat)
  decode_encode : ∀ message serialized, encodeToVec message = some serialized →
    decodeFromSlice serialized = some (message, serialized.length)

structure Connection where
  written : Bytes
  breaksAt : Option Nat

namespace Connection

def writeAll (self : Connection) (bytes : Bytes) : Except Fault Unit × Connection :=
  match self.breaksAt with
  | none => (.ok (), { self with written := self.written ++ bytes })
  | some limit =>
    if (self.written ++ bytes).length ≤ limit then
      (.ok (), { self with written := self.written ++ bytes })
    else (.error .failed, { self with written := (self.written ++ bytes).take limit })

def sendFrame (self : Connection) (msgLen serialized : Bytes) : Connection :=
  match self.writeAll msgLen with
  | (.error _, self) => self
  | (.ok (), self) => (self.writeAll serialized).2

@[simp] theorem writeAll_breaksAt (self : Connection) (bytes : Bytes) :
    (self.writeAll bytes).2.breaksAt = self.breaksAt := by
  unfold writeAll
  split
  · rfl
  · split <;> rfl

@[simp] theorem sendFrame_breaksAt (self : Connection) (msgLen serialized : Bytes) :
    (self.sendFrame msgLen serialized).breaksAt = self.breaksAt := by
  have header := self.writeAll_breaksAt msgLen
  unfold sendFrame
  split
  next failed => rw [← header, failed]
  next passed => rw [writeAll_breaksAt, ← header, passed]

end Connection

structure TcpChannel where
  connections : Nat → Option Connection

variable {T : Type} [Bincode T]

-- The cast to u32 keeps the low four bytes.
def msgLen (serialized : Bytes) : Bytes :=
  LittleEndian.toBytes 4 serialized.length

def TcpChannel.send (self : TcpChannel) (message : T) : TcpChannel :=
  match Bincode.encodeToVec message with
  | none => self
  | some serialized =>
    { connections := fun peerId =>
        (self.connections peerId).map fun stream =>
          stream.sendFrame (msgLen serialized) serialized }

namespace TcpChannel

def readExact (count : Nat) (reader : Bytes) : Except Fault Bytes × Bytes :=
  if count ≤ reader.length then (.ok (reader.take count), reader.drop count)
  else (.error .failed, [])

def readOneStruct (reader : Bytes) : Except Fault T × Bytes :=
  match readExact 4 reader with
  | (.error fault, reader) => (.error fault, reader)
  | (.ok lenBuf, reader) =>
    match readExact (LittleEndian.ofBytes lenBuf) reader with
    | (.error fault, reader) => (.error fault, reader)
    | (.ok msgBuf, reader) =>
      match Bincode.decodeFromSlice msgBuf with
      | none => (.error .failed, reader)
      | some (message, _) => (.ok message, reader)

theorem readOneStruct_shorter {reader rest : Bytes} {message : T}
    (read : readOneStruct reader = (.ok message, rest)) : rest.length < reader.length := by
  unfold readOneStruct readExact at read
  split at read
  next => simp at read
  next lenBuf reader' first =>
    split at first
    next enough =>
      obtain ⟨-, rfl⟩ := Prod.mk.inj first
      split at read
      next => simp at read
      next msgBuf reader' second =>
        split at second
        next =>
          obtain ⟨-, rfl⟩ := Prod.mk.inj second
          split at read
          next => simp at read
          next =>
            obtain ⟨-, rfl⟩ := Prod.mk.inj read
            simp only [List.length_drop]
            omega
        next => simp at second
    next => simp at first

-- The messages handed on and how the loop ends: `expect` panics at the first one that cannot
-- be read, unless the receiver is dropped after `dropped` messages.
def startReading (dropped : Option Nat) (reader : Bytes) : List T × Except Fault Unit :=
  match read : readOneStruct (T := T) reader with
  | (.error _, _) => ([], .error .panicked)
  | (.ok message, rest) =>
    have := readOneStruct_shorter read
    match dropped with
    | some 0 => ([], .ok ())
    | _ =>
      let (messages, ended) := startReading (dropped.map (· - 1)) rest
      (message :: messages, ended)
termination_by reader.length

end TcpChannel

def frame (message : T) : Bytes :=
  match Bincode.encodeToVec message with
  | none => []
  | some serialized => msgLen serialized ++ serialized

def frames (messages : List T) : Bytes :=
  messages.flatMap frame

namespace Connection

def Carries (self : Connection) (whole : Bytes) : Prop :=
  self.written = match self.breaksAt with
    | none => whole
    | some limit => whole.take limit

variable {self : Connection} {whole : Bytes}

omit [Bincode T] in
theorem Carries.isPrefix (carries : self.Carries whole) : self.written <+: whole := by
  obtain ⟨written, breaksAt⟩ := self
  cases breaksAt with
  | none => exact (show written = whole from carries) ▸ List.prefix_refl _
  | some limit => exact (show written = whole.take limit from carries) ▸ List.take_prefix _ _

omit [Bincode T] in
theorem take_cut (limit : Nat) (whole bytes : Bytes) :
    (whole.take limit ++ bytes).take limit = (whole ++ bytes).take limit := by
  have left : limit - min limit whole.length = limit - whole.length := by omega
  rw [List.take_append, List.take_append, List.take_take, Nat.min_self, List.length_take, left]

theorem Carries.writeAll (carries : self.Carries whole) (bytes : Bytes) :
    (self.writeAll bytes).2.Carries (whole ++ bytes) ∧
      ∀ fault, (self.writeAll bytes).1 = .error fault →
        ∀ more, (self.writeAll bytes).2.Carries (whole ++ bytes ++ more) := by
  obtain ⟨written, breaksAt⟩ := self
  cases breaksAt with
  | none =>
    obtain rfl : written = whole := carries
    exact ⟨rfl, by simp [Connection.writeAll]⟩
  | some limit =>
    obtain rfl : written = whole.take limit := carries
    have cut := take_cut limit whole bytes
    unfold Connection.writeAll Carries
    dsimp only
    split
    next room => exact ⟨(List.take_of_length_le room).symm.trans cut, by simp⟩
    next full =>
      refine ⟨cut, fun _ _ more => cut.trans ?_⟩
      have beyond : limit ≤ (whole ++ bytes).length := by
        simp only [List.length_append, List.length_take] at full ⊢
        omega
      exact (List.take_append_of_le_length beyond).symm

theorem Carries.sendFrame (carries : self.Carries whole) (msgLen serialized : Bytes) :
    (self.sendFrame msgLen serialized).Carries (whole ++ (msgLen ++ serialized)) := by
  obtain ⟨header, broken⟩ := carries.writeAll msgLen
  unfold Connection.sendFrame
  rw [← List.append_assoc]
  split
  next fault after failed =>
    rw [failed] at broken
    exact broken fault rfl serialized
  next after passed =>
    rw [passed] at header
    exact (header.writeAll serialized).1

end Connection

theorem TcpChannel.send_carries {self : TcpChannel} {peerId : Nat} {stream : Connection}
    {whole : Bytes} (connected : self.connections peerId = some stream)
    (carries : stream.Carries whole) (message : T) :
    ∃ after, (self.send message).connections peerId = some after ∧
      after.breaksAt = stream.breaksAt ∧ after.Carries (whole ++ frame message) := by
  unfold TcpChannel.send frame
  split
  next => exact ⟨stream, connected, rfl, by simpa using carries⟩
  next serialized encoded =>
    exact ⟨_, by simp only [connected, Option.map_some], stream.sendFrame_breaksAt _ _,
      carries.sendFrame _ _⟩

def TcpChannel.sendAll (self : TcpChannel) (messages : List T) : TcpChannel :=
  messages.foldl TcpChannel.send self

theorem TcpChannel.sendAll_carries {self : TcpChannel} {peerId : Nat} {stream : Connection}
    {whole : Bytes} (connected : self.connections peerId = some stream)
    (carries : stream.Carries whole) (messages : List T) :
    ∃ after, (self.sendAll messages).connections peerId = some after ∧
      after.breaksAt = stream.breaksAt ∧ after.Carries (whole ++ frames messages) := by
  induction messages generalizing self stream whole with
  | nil => exact ⟨stream, connected, rfl, by simpa [frames] using carries⟩
  | cons message rest ih =>
    obtain ⟨middle, present, same, carried⟩ := send_carries connected carries message
    obtain ⟨after, last, same', whole'⟩ := ih present carried
    refine ⟨after, last, same'.trans same, ?_⟩
    simpa [frames, List.append_assoc] using whole'

section Reading

theorem readExact_append (bytes rest : Bytes) :
    TcpChannel.readExact bytes.length (bytes ++ rest) = (.ok bytes, rest) := by
  simp [TcpChannel.readExact]

theorem readExact_short {count : Nat} {reader : Bytes} (short : reader.length < count) :
    TcpChannel.readExact count reader = (.error .failed, []) :=
  if_neg (Nat.not_le.mpr short)

variable {message : T} {serialized : Bytes}

theorem ofBytes_msgLen (short : serialized.length < 2 ^ 32) :
    LittleEndian.ofBytes (msgLen serialized) = serialized.length :=
  LittleEndian.ofBytes_toBytes_lt (by simpa using short)

theorem readOneStruct_frame (encoded : Bincode.encodeToVec message = some serialized)
    (short : serialized.length < 2 ^ 32) (rest : Bytes) :
    TcpChannel.readOneStruct (frame message ++ rest) = (.ok message, rest) := by
  have header : TcpChannel.readExact 4 (frame message ++ rest) =
      (.ok (msgLen serialized), serialized ++ rest) := by
    rw [frame, encoded, List.append_assoc]
    exact readExact_append (msgLen serialized) _
  unfold TcpChannel.readOneStruct
  simp only [header, ofBytes_msgLen short, readExact_append,
    Bincode.decode_encode message serialized encoded]

theorem readOneStruct_cut (encoded : Bincode.encodeToVec message = some serialized)
    (short : serialized.length < 2 ^ 32) {cut : Nat} (before : cut < (frame message).length) :
    (TcpChannel.readOneStruct (T := T) ((frame message).take cut)).1 = .error .failed := by
  have whole : frame message = msgLen serialized ++ serialized := by rw [frame, encoded]
  have four : (msgLen serialized).length = 4 := LittleEndian.length_toBytes 4 _
  rw [whole, List.length_append, four] at before
  rw [whole]
  unfold TcpChannel.readOneStruct
  rcases Nat.lt_or_ge cut 4 with less | enough
  · rw [readExact_short (by rw [List.length_take]; omega)]
  · have header : (msgLen serialized ++ serialized).take cut =
        msgLen serialized ++ serialized.take (cut - 4) := by
      rw [List.take_append, List.take_of_length_le (by omega), four]
    rw [header, show (4 : Nat) = (msgLen serialized).length from four.symm, readExact_append]
    simp only [ofBytes_msgLen short]
    rw [readExact_short (by rw [List.length_take]; omega)]

theorem startReading_ok {reader rest : Bytes}
    (read : TcpChannel.readOneStruct reader = (.ok message, rest)) :
    TcpChannel.startReading none reader =
      (message :: (TcpChannel.startReading (T := T) none rest).1,
        (TcpChannel.startReading (T := T) none rest).2) := by
  rw [TcpChannel.startReading]
  split
  next failed => simp [read] at failed
  next other rest' again =>
    obtain ⟨rfl, rfl⟩ : message = other ∧ rest = rest' := by simpa [read] using again
    rfl

theorem startReading_error {reader : Bytes} {fault : Fault}
    (read : (TcpChannel.readOneStruct (T := T) reader).1 = .error fault) :
    TcpChannel.startReading (T := T) none reader = ([], .error .panicked) := by
  rw [TcpChannel.startReading]
  split
  next => rfl
  next again => simp [again] at read

def Sendable (message : T) : Bool :=
  (Bincode.encodeToVec message).isSome

theorem frames_sendable (messages : List T) :
    frames (messages.filter Sendable) = frames messages := by
  induction messages with
  | nil => rfl
  | cons message rest ih =>
    cases encoded : Bincode.encodeToVec message with
    | none => simpa [frames, frame, Sendable, encoded] using ih
    | some serialized => simpa [frames, Sendable, encoded] using ih

theorem startReading_frames {messages : List T}
    (short : ∀ message ∈ messages, ∃ serialized, Bincode.encodeToVec message = some serialized ∧
      serialized.length < 2 ^ 32) (cut : Nat) :
    ∃ n, TcpChannel.startReading none ((frames messages).take cut) =
        (messages.take n, .error .panicked) ∧
      (∀ i < messages.length, i < n ↔ (frames (messages.take (i + 1))).length ≤ cut) ∧
      (TcpChannel.readOneStruct (T := T)
        (((frames messages).take cut).drop (frames (messages.take n)).length)).1 =
          .error .failed := by
  induction messages generalizing cut with
  | nil =>
    have ended : (TcpChannel.readOneStruct (T := T) []).1 = .error .failed := by
      unfold TcpChannel.readOneStruct
      rw [readExact_short (by decide)]
    refine ⟨0, ?_, by simp, by simpa [frames] using ended⟩
    simpa [frames] using startReading_error ended
  | cons message rest ih =>
    obtain ⟨serialized, encoded, fits⟩ := short message List.mem_cons_self
    have split : frames (message :: rest) = frame message ++ frames rest := rfl
    rcases Nat.lt_or_ge cut (frame message).length with before | after
    · have failed := readOneStruct_cut encoded fits before
      have first : (frames (message :: rest)).take cut = (frame message).take cut := by
        rw [split, List.take_append_of_le_length (Nat.le_of_lt before)]
      refine ⟨0, ?_, fun i _ => ?_, ?_⟩
      · rw [first, startReading_error failed]
        rfl
      · refine iff_of_false (Nat.not_lt_zero i) (Nat.not_le.mpr (Nat.lt_of_lt_of_le before ?_))
        simp [frames]
      · rw [first]
        exact failed
    · obtain ⟨n, read, whole, failed⟩ :=
        ih (fun m member => short m (List.mem_cons_of_mem _ member)) (cut - (frame message).length)
      have first : (frames (message :: rest)).take cut =
          frame message ++ (frames rest).take (cut - (frame message).length) := by
        rw [split, List.take_append, List.take_of_length_le after]
      have longer (i : Nat) : (frames ((message :: rest).take (i + 1))).length =
          (frame message).length + (frames (rest.take i)).length := by
        simp [frames]
      refine ⟨n + 1, ?_, fun i inside => ?_, ?_⟩
      · rw [first, startReading_ok (readOneStruct_frame encoded fits _), read]
        rfl
      · rw [longer]
        cases i with
        | zero => simpa [frames] using after
        | succ i =>
          have inner := whole i (by simpa using inside)
          omega
      · rw [first, longer, List.drop_append, List.drop_eq_nil_of_le (Nat.le_add_right _ _),
          Nat.add_sub_cancel_left, List.nil_append]
        exact failed

theorem TcpChannel.read_sent {self : TcpChannel} {peerId : Nat} {stream : Connection}
    (connected : self.connections peerId = some stream) (fresh : stream.written = [])
    {messages : List T} (short : ∀ message ∈ messages, ∀ serialized,
      Bincode.encodeToVec message = some serialized → serialized.length < 2 ^ 32) (cut : Nat) :
    ∃ after, (self.sendAll messages).connections peerId = some after ∧
      after.breaksAt = stream.breaksAt ∧ after.Carries (frames messages) ∧
      ∃ n, TcpChannel.startReading none (after.written.take cut) =
          ((messages.filter Sendable).take n, .error .panicked) ∧
        (∀ i < (messages.filter Sendable).length, i < n ↔
          (frames ((messages.filter Sendable).take (i + 1))).length ≤
            (after.written.take cut).length) ∧
        (TcpChannel.readOneStruct (T := T) ((after.written.take cut).drop
          (frames ((messages.filter Sendable).take n)).length)).1 = .error .failed := by
  have empty : stream.Carries [] := by
    unfold Connection.Carries
    cases stream.breaksAt <;> simpa using fresh
  obtain ⟨after, present, same, carried⟩ := sendAll_carries connected empty messages
  rw [List.nil_append] at carried
  refine ⟨after, present, same, carried, ?_⟩
  have received : after.written.take cut =
      (frames (messages.filter Sendable)).take (after.written.take cut).length := by
    rw [frames_sendable]
    exact List.prefix_iff_eq_take.mp ((List.take_prefix cut _).trans carried.isPrefix)
  have sent : ∀ message ∈ messages.filter Sendable, ∃ serialized,
      Bincode.encodeToVec message = some serialized ∧ serialized.length < 2 ^ 32 := by
    intro message member
    obtain ⟨inside, encodes⟩ := List.mem_filter.mp member
    obtain ⟨serialized, encoded⟩ := Option.isSome_iff_exists.mp encodes
    exact ⟨serialized, encoded, short message inside serialized encoded⟩
  have read := startReading_frames sent (after.written.take cut).length
  rwa [← received] at read

end Reading

section Varint

-- How many bytes follow the first one; 254 starts a u128 and 255 is not used.
def varintWidth (tag : UInt8) : Option Nat :=
  if tag < 251 then some 0
  else if tag = 251 then some 2
  else if tag = 252 then some 4
  else if tag = 253 then some 8
  else none

def encodeVarint (n : UInt64) : Bytes :=
  if n.toNat < 251 then [n.toUInt8]
  else if n.toNat < 2 ^ 16 then 251 :: LittleEndian.toBytes 2 n.toNat
  else if n.toNat < 2 ^ 32 then 252 :: LittleEndian.toBytes 4 n.toNat
  else 253 :: LittleEndian.toBytes 8 n.toNat

def decodeVarint : Bytes → Option (UInt64 × Nat)
  | [] => none
  | tag :: rest =>
    match varintWidth tag with
    | none => none
    | some 0 => some (tag.toUInt64, 1)
    | some width =>
      if width ≤ rest.length then
        some (UInt64.ofNat (LittleEndian.ofBytes (rest.take width)), width + 1)
      else none

theorem decodeVarint_toBytes {tag : UInt8} {width : Nat} (wide : varintWidth tag = some (width + 1))
    {n : UInt64} (fits : n.toNat < 256 ^ (width + 1)) :
    decodeVarint (tag :: LittleEndian.toBytes (width + 1) n.toNat) = some (n, width + 2) := by
  have whole : (LittleEndian.toBytes (width + 1) n.toNat).take (width + 1) =
      LittleEndian.toBytes (width + 1) n.toNat :=
    List.take_of_length_le (by simp)
  have value : LittleEndian.ofBytes (LittleEndian.toBytes (width + 1) n.toNat) = n.toNat :=
    LittleEndian.ofBytes_toBytes_lt fits
  simp only [decodeVarint, wide, LittleEndian.length_toBytes, Nat.le_refl, if_true, whole, value,
    UInt64.ofNat_toNat]

theorem decodeVarint_encodeVarint (n : UInt64) :
    decodeVarint (encodeVarint n) = some (n, (encodeVarint n).length) := by
  unfold encodeVarint
  split
  next one =>
    have small : n.toUInt8 < 251 := by
      rw [UInt8.lt_iff_toNat_lt, UInt64.toNat_toUInt8, Nat.mod_eq_of_lt (by omega)]
      exact one
    have back : n.toUInt8.toUInt64 = n := by
      apply UInt64.toNat_inj.mp
      rw [UInt8.toNat_toUInt64, UInt64.toNat_toUInt8, Nat.mod_eq_of_lt (by omega)]
    simp [decodeVarint, varintWidth, small, back]
  next =>
    split
    next two => exact decodeVarint_toBytes rfl two
    next =>
      split
      next four => exact decodeVarint_toBytes rfl four
      next => exact decodeVarint_toBytes rfl n.toNat_lt

instance : Bincode UInt64 where
  encodeToVec n := some (encodeVarint n)
  decodeFromSlice := decodeVarint
  decode_encode n serialized encoded := by
    obtain rfl := Option.some.inj encoded
    exact decodeVarint_encodeVarint n

end Varint

theorem TcpChannel.read_sent_broken :
    ∃ after, ((TcpChannel.mk fun _ => some ⟨[], some 10⟩).sendAll [(7 : UInt64), 300]).connections 1
        = some after ∧
      TcpChannel.startReading none (after.written.take 9) = ([(7 : UInt64)], .error .panicked) := by
  have short : ∀ message ∈ [(7 : UInt64), 300], ∀ serialized,
      Bincode.encodeToVec message = some serialized → serialized.length < 2 ^ 32 := by
    simp only [List.forall_mem_cons]
    refine ⟨fun serialized encoded => ?_, fun serialized encoded => ?_, by simp⟩ <;>
    · obtain rfl := Option.some.inj encoded
      decide
  have connected : (TcpChannel.mk fun _ => some ⟨[], some 10⟩).connections 1 =
      some ⟨[], some 10⟩ := rfl
  obtain ⟨after, present, same, carried, n, read, whole, -⟩ :=
    TcpChannel.read_sent connected rfl short 9
  refine ⟨after, present, ?_⟩
  have nine : (after.written.take 9).length = 9 := by
    unfold Connection.Carries at carried
    rw [same] at carried
    rw [carried]
    decide
  rw [nine] at whole
  have first : 0 < n := (whole 0 (by decide)).mpr (by decide)
  have second : ¬ 1 < n := fun more => absurd ((whole 1 (by decide)).mp more) (by decide)
  obtain rfl : n = 1 := by omega
  exact read

end Smr
