import Smr.Channel.Network

set_option autoImplicit false

namespace Smr

open Text

variable {T : Type}

namespace Network

inductive Moves [Bincode T] (total : Nat) (s : Network T) : Action T → Network T → Prop where
  | connect {p q : Nat} {breaks : Nat → Option Nat} (less : p < q) (inside : q < total)
      (idle : (s.endpoints p).dials q = .connecting) :
      Moves total s (.connect p q breaks) (s.connect p q breaks)
  | accept {l : Nat} {link : Link T} (found : s.links[l]? = some link)
      (waits : link.reader link.target = .waiting)
      (enough : 4 ≤ (link.flow link.dialer).stream.written.length) :
      Moves total s (.accept l)
        ((s.putLink l link.accepted).put link.target ((s.endpoints link.target).insert
          (readId ((link.flow link.dialer).stream.written.take 4)) l))
  | send {p : Nat} {message : T} (member : p < total) (receives : (s.endpoints p).receives = true) :
      Moves total s (.send p message) (s.send p message)
  | pass {p l : Nat} {link : Link T} {message : T} {rest : Bytes}
      (found : s.links[l]? = some link) (joins : link.Joins p (link.peer p))
      (reads : link.reader p = .reading)
      (read : TcpChannel.readOneStruct ((link.flow (link.peer p)).stream.written.drop
        (link.flow (link.peer p)).consumed) = (.ok message, rest))
      (receives : (s.endpoints p).receives = true) (room : (s.endpoints p).inbox.length < 100) :
      Moves total s (.read p l)
        ((s.putLink l (link.advance p rest)).put p
          ((s.endpoints p).push ⟨l, (link.flow (link.peer p)).next, message⟩))
  | leave {p l : Nat} {link : Link T} {message : T} {rest : Bytes} {endpoint : Endpoint T}
      (found : s.links[l]? = some link) (joins : link.Joins p (link.peer p))
      (reads : link.reader p = .reading)
      (read : TcpChannel.readOneStruct ((link.flow (link.peer p)).stream.written.drop
        (link.flow (link.peer p)).consumed) = (.ok message, rest))
      (dropped : (s.endpoints p).receives = false)
      (left : endpoint = s.endpoints p ∨ p = link.dialer ∧
        endpoint = ((s.endpoints p).remove link.target).dial link.target .connecting) :
      Moves total s (.read p l)
        ((s.putLink l ((link.advance p rest).closeReader p)).put p endpoint)
  | fail {p l : Nat} {link : Link T} {endpoint : Endpoint T} (found : s.links[l]? = some link)
      (joins : link.Joins p (link.peer p)) (open_yet : link.reader p ≠ .ended)
      (left : endpoint = s.endpoints p ∨ p = link.dialer ∧
        endpoint = (s.endpoints p).dial link.target .panicked) :
      Moves total s (.fail p l) ((s.putLink l (link.closeReader p)).put p endpoint)
  | receive {p : Nat} {receipt : Receipt T} {inbox : List (Receipt T)}
      (receives : (s.endpoints p).receives = true)
      (first : (s.endpoints p).inbox = receipt :: inbox) :
      Moves total s (.receive p)
        { s.put p { s.endpoints p with inbox := inbox } with
          received := s.received ++ [(p, receipt)] }
  | stop {p : Nat} (member : p < total) :
      Moves total s (.stop p)
        (s.put p { s.endpoints p with inbox := [], receives := false })
  | restart {p : Nat} (member : p < total) : Moves total s (.restart p) (s.restart p)

theorem put_same (s : Network T) (p : Nat) : s.put p (s.endpoints p) = s := by
  simp [put]

theorem connect_put (s : Network T) (p q : Nat) (breaks : Nat → Option Nat) :
    ∃ endpoint : Endpoint T, s.connect p q breaks =
        { s with links := s.links ++ [dialed p q breaks] }.put p endpoint ∧
      endpoint.inbox = (s.endpoints p).inbox ∧ endpoint.receives = (s.endpoints p).receives ∧
      endpoint.dials = Function.update (s.endpoints p).dials q .reading ∧
      (endpoint.connections = (s.endpoints p).connections ∨
        endpoint.connections = ((s.endpoints p).insert q s.links.length).connections) := by
  unfold connect
  dsimp only
  split
  · exact ⟨_, rfl, rfl, rfl, rfl, .inr rfl⟩
  · exact ⟨_, rfl, rfl, rfl, rfl, .inl rfl⟩

theorem step_moves [Bincode T] {total : Nat} {s t : Network T} {a : Action T}
    (next : step total s a = some t) : Moves total s a t := by
  cases a with
  | connect p q breaks =>
    simp only [step, Option.ite_none_right_eq_some, Option.some.injEq] at next
    obtain ⟨⟨less, inside, idle⟩, rfl⟩ := next
    exact .connect less inside idle
  | accept l =>
    obtain ⟨link, found, next⟩ := Option.bind_eq_some_iff.mp next
    simp only [Option.ite_none_right_eq_some] at next
    obtain ⟨waits, next⟩ := next
    unfold Network.accept TcpChannel.readExact at next
    split at next
    next => simp at next
    next bytes rest first =>
      split at first
      next enough =>
        obtain ⟨same, -⟩ := Prod.mk.inj first
        obtain rfl := Except.ok.inj same
        obtain rfl := Option.some.inj next
        exact .accept found waits enough
      next => simp at first
  | send p message =>
    simp only [step, Option.ite_none_right_eq_some, Option.some.injEq] at next
    obtain ⟨⟨member, receives⟩, rfl⟩ := next
    exact .send member receives
  | read p l =>
    obtain ⟨link, found, next⟩ := Option.bind_eq_some_iff.mp next
    simp only [Option.ite_none_right_eq_some] at next
    obtain ⟨⟨joins, reads⟩, next⟩ := next
    unfold Network.read at next
    dsimp only at next
    split at next
    next => simp at next
    next message rest read =>
      split at next
      next receives =>
        simp only [Option.ite_none_right_eq_some, Option.some.injEq] at next
        obtain ⟨room, rfl⟩ := next
        exact .pass found joins reads read receives room
      next dropped =>
        replace dropped : (s.endpoints p).receives = false := by simpa using dropped
        split at next
        next mine =>
          obtain rfl := Option.some.inj next
          exact .leave found joins reads read dropped (.inr ⟨mine, rfl⟩)
        next =>
          obtain rfl := Option.some.inj next
          have leaves : Moves total s (.read p l) _ :=
            .leave found joins reads read dropped (.inl rfl)
          exact put_same (s.putLink l ((link.advance p rest).closeReader p)) p ▸ leaves
  | fail p l =>
    obtain ⟨link, found, next⟩ := Option.bind_eq_some_iff.mp next
    simp only [Option.ite_none_right_eq_some, Option.some.injEq] at next
    obtain ⟨⟨joins, open_yet⟩, rfl⟩ := next
    unfold Network.fail
    dsimp only
    split
    next mine => exact .fail found joins open_yet (.inr ⟨mine, rfl⟩)
    next =>
      have fails : Moves total s (.fail p l) _ := .fail found joins open_yet (.inl rfl)
      exact put_same (s.putLink l (link.closeReader p)) p ▸ fails
  | receive p =>
    simp only [step] at next
    split at next
    next receipt inbox receives first =>
      obtain rfl := Option.some.inj next
      exact .receive receives first
    next => simp at next
  | stop p =>
    simp only [step, Option.ite_none_right_eq_some, Option.some.injEq] at next
    obtain ⟨member, rfl⟩ := next
    exact .stop member
  | restart p =>
    simp only [step, Option.ite_none_right_eq_some, Option.some.injEq] at next
    obtain ⟨member, rfl⟩ := next
    exact .restart member

end Network

theorem Network.readId_idBytes {id : Nat} (fits : id < 2 ^ 32) : readId (idBytes id) = id := by
  unfold readId idBytes
  rw [List.reverse_reverse]
  exact LittleEndian.ofBytes_toBytes_lt (by simpa using fits)

@[simp] theorem Network.length_idBytes (id : Nat) : (idBytes id).length = 4 := by
  simp [idBytes]

theorem Connection.writeAll_carries (breaks : Option Nat) (bytes : Bytes) :
    ((Connection.mk [] breaks).writeAll bytes).2.Carries bytes := by
  have empty : (Connection.mk [] breaks).Carries [] := by
    unfold Connection.Carries
    cases breaks <;> simp
  exact (empty.writeAll bytes).1

variable [Bincode T]

def Framed (message : T) : Prop :=
  ∃ serialized, Bincode.encodeToVec message = some serialized ∧ serialized.length < 2 ^ 32

theorem frames_append (messages more : List T) :
    frames (messages ++ more) = frames messages ++ frames more :=
  List.flatMap_append

theorem readOneStruct_prefix {messages : List T} {bytes rest : Bytes} {message : T}
    (framed : ∀ message ∈ messages, Framed message) (begins : bytes <+: frames messages)
    (read : TcpChannel.readOneStruct bytes = (.ok message, rest)) :
    ∃ more, messages = message :: more ∧ bytes = frame message ++ rest := by
  cases messages with
  | nil =>
    obtain rfl := List.prefix_nil.mp begins
    unfold TcpChannel.readOneStruct at read
    rw [readExact_short (by decide)] at read
    simp at read
  | cons first more =>
    obtain ⟨serialized, encoded, short⟩ := framed first List.mem_cons_self
    have cut : bytes = (frame first ++ frames more).take bytes.length :=
      List.prefix_iff_eq_take.mp begins
    rcases Nat.lt_or_ge bytes.length (frame first).length with before | after
    · have failed := readOneStruct_cut encoded short before
      rw [List.take_append_of_le_length (Nat.le_of_lt before)] at cut
      rw [← cut, read] at failed
      simp at failed
    · rw [List.take_append, List.take_of_length_le after] at cut
      have whole := readOneStruct_frame encoded short
        ((frames more).take (bytes.length - (frame first).length))
      rw [← cut, read] at whole
      obtain ⟨same, rest_same⟩ := Prod.mk.inj whole
      obtain rfl := Except.ok.inj same
      exact ⟨more, rfl, rest_same ▸ cut⟩

-- What a node has written into a connection and how much of it the other end has taken.
structure Flow.Sound (sent : List (Nat × T)) (writer : Nat) (preamble : Bytes) (reader : Reader)
    (flow : Flow T) : Prop where
  carries : flow.stream.Carries (preamble ++ frames (flow.carried.map Prod.snd))
  own : ∀ e ∈ flow.carried, sent[e.1]? = some (writer, e.2) ∧ Framed e.2
  ordered : (flow.carried.map Prod.fst).Pairwise (· < ·)
  taken : flow.taken ≤ flow.carried.length
  waiting : reader = .waiting → flow.consumed = 0 ∧ flow.taken = 0
  reading : reader = .reading → flow.consumed =
    preamble.length + (frames ((flow.carried.take flow.taken).map Prod.snd)).length

namespace Flow.Sound

variable {sent : List (Nat × T)} {writer : Nat} {preamble : Bytes} {reader : Reader} {flow : Flow T}

theorem grow (sound : flow.Sound sent writer preamble reader) (more : List (Nat × T)) :
    flow.Sound (sent ++ more) writer preamble reader :=
  { sound with
    own := fun e member => by
      obtain ⟨found, framed⟩ := sound.own e member
      exact ⟨(List.getElem?_append_left (List.getElem?_eq_some_iff.mp found).1).trans found,
        framed⟩ }

theorem close (sound : flow.Sound sent writer preamble reader) :
    flow.Sound sent writer preamble .ended :=
  { sound with
    waiting := nofun
    reading := nofun }

theorem write (sound : flow.Sound sent writer preamble reader) {message : T} {serialized : Bytes}
    (encoded : Bincode.encodeToVec message = some serialized)
    (short : serialized.length < 2 ^ 32) :
    Sound (sent ++ [(writer, message)]) writer preamble reader
      { flow with
        stream := flow.stream.sendFrame (msgLen serialized) serialized
        carried := flow.carried ++ [(sent.length, message)] } where
  carries := by
    have whole := sound.carries.sendFrame (msgLen serialized) serialized
    simpa [frames, frame, encoded, List.append_assoc] using whole
  own e member := by
    rcases List.mem_append.mp member with old | new
    · exact (sound.grow [(writer, message)]).own e old
    · obtain rfl := List.mem_singleton.mp new
      exact ⟨List.getElem?_concat_length, serialized, encoded, short⟩
  ordered := by
    rw [List.map_append, List.pairwise_append]
    refine ⟨sound.ordered, List.pairwise_singleton _ _, fun place earlier last here => ?_⟩
    obtain rfl := List.mem_singleton.mp here
    obtain ⟨e, member, rfl⟩ := List.mem_map.mp earlier
    exact (List.getElem?_eq_some_iff.mp (sound.own e member).1).1
  taken := by
    rw [List.length_append]
    exact Nat.le_add_right_of_le sound.taken
  waiting := sound.waiting
  reading reads := by
    rw [sound.reading reads, List.take_append_of_le_length sound.taken]

theorem accept (sound : flow.Sound sent writer (Network.idBytes writer) reader)
    (waits : reader = .waiting) (fits : writer < 2 ^ 32)
    (enough : 4 ≤ flow.stream.written.length) :
    Network.readId (flow.stream.written.take 4) = writer ∧
      Sound sent writer (Network.idBytes writer) .reading { flow with consumed := 4 } := by
  have first : flow.stream.written.take 4 = Network.idBytes writer := by
    obtain ⟨rest, whole⟩ := sound.carries.isPrefix
    have begins := congrArg (List.take 4) whole
    rw [List.take_append_of_le_length enough,
      List.take_append_of_le_length (by simp)] at begins
    exact begins.trans (List.take_of_length_le (by simp))
  refine ⟨first ▸ Network.readId_idBytes fits, { sound with waiting := nofun, reading := ?_ }⟩
  intro _
  simp [(sound.waiting waits).2, frames]

theorem read (sound : flow.Sound sent writer preamble reader) (reads : reader = .reading)
    {message : T} {rest : Bytes} (read : TcpChannel.readOneStruct
      (flow.stream.written.drop flow.consumed) = (.ok message, rest)) :
    flow.carried[flow.taken]? = some (flow.next, message) ∧
      Sound sent writer preamble .reading
        { flow with
          consumed := flow.stream.written.length - rest.length
          taken := flow.taken + 1 } := by
  have position := sound.reading reads
  have split : preamble ++ frames (flow.carried.map Prod.snd) =
      (preamble ++ frames ((flow.carried.take flow.taken).map Prod.snd)) ++
        frames ((flow.carried.drop flow.taken).map Prod.snd) := by
    rw [List.append_assoc, ← frames_append, ← List.map_append, List.take_append_drop]
  have begins : flow.stream.written.drop flow.consumed <+:
      frames ((flow.carried.drop flow.taken).map Prod.snd) := by
    have whole := sound.carries.isPrefix.drop flow.consumed
    rwa [split, List.drop_left' (by simp [position])] at whole
  obtain ⟨more, next, bytes⟩ := readOneStruct_prefix (fun m member => by
    obtain ⟨e, listed, rfl⟩ := List.mem_map.mp member
    exact (sound.own e (List.mem_of_mem_drop listed)).2) begins read
  obtain ⟨e, found, same⟩ : ∃ e, flow.carried[flow.taken]? = some e ∧ e.2 = message := by
    have head := congrArg List.head? next
    rw [List.head?_map, List.head?_drop, List.head?_cons, Option.map_eq_some_iff] at head
    exact head
  subst same
  refine ⟨by rw [Flow.next, found]; rfl, ?_⟩
  exact
    { sound with
      taken := (List.getElem?_eq_some_iff.mp found).1
      waiting := nofun
      reading := fun _ => by
        have length := congrArg List.length bytes
        have within : flow.consumed ≤ flow.stream.written.length := by
          by_contra beyond
          rw [List.drop_eq_nil_of_le (by omega)] at bytes
          have none := (List.append_eq_nil_iff.mp bytes.symm).1
          obtain ⟨serialized, encoded, -⟩ := (sound.own e (List.mem_of_getElem? found)).2
          simp [frame, encoded, msgLen] at none
          have four := congrArg List.length none.1
          simp at four
        have further : (frames ((flow.carried.take (flow.taken + 1)).map Prod.snd)).length =
            (frames ((flow.carried.take flow.taken).map Prod.snd)).length +
              (frame e.2).length := by
          rw [List.take_add_one, found]
          simp [frames]
        rw [List.length_drop, List.length_append] at length
        show flow.stream.written.length - rest.length = preamble.length +
          (frames ((flow.carried.take (flow.taken + 1)).map Prod.snd)).length
        omega }

end Flow.Sound

end Smr
