import Smr.Channel.TcpChannel
import Smr.Shared.Run

set_option autoImplicit false

namespace Smr

open Text

-- One direction of a TCP connection. The last two fields are history: the messages that were
-- written, each with the place of its broadcast in `sent`, and how many of them were read.
structure Flow (T : Type) where
  stream : Connection
  consumed : Nat
  carried : List (Nat × T)
  taken : Nat

inductive Reader where
  | waiting
  | reading
  | ended
  deriving DecidableEq, Repr

structure Link (T : Type) where
  dialer : Nat
  target : Nat
  flow : Nat → Flow T
  reader : Nat → Reader

inductive Dial where
  | connecting
  | reading
  | panicked
  deriving DecidableEq, Repr

structure Receipt (T : Type) where
  link : Nat
  place : Nat
  message : T

-- The tasks of a node's channel. `connections` holds the write halves by peer id, each known by
-- its connection; `receives` is lost with the background loop.
structure Endpoint (T : Type) where
  connections : List (Nat × Nat)
  dials : Nat → Dial
  inbox : List (Receipt T)
  receives : Bool

-- The last two fields are history: who sent what, and which node's loop got what.
structure Network (T : Type) where
  endpoints : Nat → Endpoint T
  links : List (Link T)
  sent : List (Nat × T)
  received : List (Nat × Receipt T)

def Flow.next {T : Type} (self : Flow T) : Nat :=
  (self.carried[self.taken]?.map Prod.fst).getD 0

namespace Link

variable {T : Type}

def peer (self : Link T) (p : Nat) : Nat :=
  if p = self.dialer then self.target else self.dialer

def Joins (self : Link T) (p q : Nat) : Prop :=
  self.dialer = p ∧ self.target = q ∨ self.dialer = q ∧ self.target = p

instance (self : Link T) (p q : Nat) : Decidable (self.Joins p q) :=
  inferInstanceAs (Decidable (_ ∨ _))

def write (self : Link T) (p place : Nat) (message : T) (serialized : Bytes) : Link T :=
  { self with
    flow := Function.update self.flow p
      { self.flow p with
        stream := (self.flow p).stream.sendFrame (msgLen serialized) serialized
        carried := (self.flow p).carried ++ [(place, message)] } }

def closeReader (self : Link T) (p : Nat) : Link T :=
  { self with reader := Function.update self.reader p .ended }

def accepted (self : Link T) : Link T :=
  { self with
    flow := Function.update self.flow self.dialer { self.flow self.dialer with consumed := 4 }
    reader := Function.update self.reader self.target .reading }

def advance (self : Link T) (p : Nat) (rest : Bytes) : Link T :=
  let flow := self.flow (self.peer p)
  { self with
    flow := Function.update self.flow (self.peer p)
      { flow with
        consumed := flow.stream.written.length - rest.length
        taken := flow.taken + 1 } }

end Link

namespace Endpoint

variable {T : Type}

def new : Endpoint T :=
  { connections := []
    dials := fun _ => .connecting
    inbox := []
    receives := true }

-- A write half that was stored for the peer before is dropped.
def insert (self : Endpoint T) (peerId link : Nat) : Endpoint T :=
  { self with connections := (peerId, link) :: self.connections.filter (·.1 ≠ peerId) }

def remove (self : Endpoint T) (peerId : Nat) : Endpoint T :=
  { self with connections := self.connections.filter (·.1 ≠ peerId) }

def dial (self : Endpoint T) (peerId : Nat) (stands : Dial) : Endpoint T :=
  { self with dials := Function.update self.dials peerId stands }

def push (self : Endpoint T) (receipt : Receipt T) : Endpoint T :=
  { self with inbox := self.inbox ++ [receipt] }

def writes (self : Endpoint T) (link : Nat) : Bool :=
  link ∈ self.connections.map Prod.snd

end Endpoint

namespace Network

inductive Action (T : Type) where
  | connect (p q : Nat) (breaks : Nat → Option Nat)
  | accept (link : Nat)
  | send (p : Nat) (message : T)
  | read (p link : Nat)
  | fail (p link : Nat)
  | receive (p : Nat)
  | stop (p : Nat)
  | restart (p : Nat)

variable {T : Type}

def put (s : Network T) (p : Nat) (endpoint : Endpoint T) : Network T :=
  { s with endpoints := Function.update s.endpoints p endpoint }

def putLink (s : Network T) (l : Nat) (link : Link T) : Network T :=
  { s with links := s.links.set l link }

def idBytes (id : Nat) : Bytes :=
  (LittleEndian.toBytes 4 id).reverse

def readId (bytes : Bytes) : Nat :=
  LittleEndian.ofBytes bytes.reverse

def opened (stream : Connection) : Flow T :=
  { stream := stream
    consumed := 0
    carried := []
    taken := 0 }

def dialed (p q : Nat) (breaks : Nat → Option Nat) : Link T :=
  { dialer := p
    target := q
    flow := Function.update (fun w => opened ⟨[], breaks w⟩) p
      (opened ((Connection.mk [] (breaks p)).writeAll (idBytes p)).2)
    reader := Function.update (fun _ => .waiting) p .reading }

-- TcpStream::connect comes back and send_id after it. A write half that could not send the id
-- is dropped; start_reading follows all the same.
def connect (s : Network T) (p q : Nat) (breaks : Nat → Option Nat) : Network T :=
  let endpoint := (s.endpoints p).dial q .reading
  let s' := { s with links := s.links ++ [dialed p q breaks] }
  match ((Connection.mk [] (breaks p)).writeAll (idBytes p)).1 with
  | .ok () => s'.put p (endpoint.insert q s.links.length)
  | .error _ => s'.put p endpoint

def accept (s : Network T) (l : Nat) (link : Link T) : Option (Network T) :=
  match TcpChannel.readExact 4 (link.flow link.dialer).stream.written with
  | (.error _, _) => none
  | (.ok bytes, _) =>
    some ((s.putLink l link.accepted).put link.target
      ((s.endpoints link.target).insert (readId bytes) l))

variable [Bincode T]

def send (s : Network T) (p : Nat) (message : T) : Network T :=
  let sent := s.sent ++ [(p, message)]
  match Bincode.encodeToVec message with
  | none => { s with sent := sent }
  | some serialized =>
    { s with
      links := s.links.mapIdx fun l link =>
        if (s.endpoints p).writes l then link.write p s.sent.length message serialized else link
      sent := sent }

-- One turn of start_reading. Where the receiver is dropped the loop ends, and only then does
-- the dialer take the connection out of the map and connect again.
def read (s : Network T) (p l : Nat) (link : Link T) : Option (Network T) :=
  let flow := link.flow (link.peer p)
  match TcpChannel.readOneStruct (T := T) (flow.stream.written.drop flow.consumed) with
  | (.error _, _) => none
  | (.ok message, rest) =>
    let s' := s.putLink l (link.advance p rest)
    let endpoint := s.endpoints p
    if endpoint.receives then
      if endpoint.inbox.length < 100 then
        some (s'.put p (endpoint.push ⟨l, flow.next, message⟩))
      else none
    else
      let s'' := s.putLink l ((link.advance p rest).closeReader p)
      if p = link.dialer then
        some (s''.put p ((endpoint.remove link.target).dial link.target .connecting))
      else some s''

-- The read fails, and the task that reads panics with its `expect`. handle_connection returns
-- where it fails to read the id.
def fail (s : Network T) (p l : Nat) (link : Link T) : Network T :=
  let s' := s.putLink l (link.closeReader p)
  if p = link.dialer then s'.put p ((s.endpoints p).dial link.target .panicked) else s'

def restart (s : Network T) (p : Nat) : Network T :=
  { s.put p .new with
    links := s.links.map fun link => link.closeReader p }

def step (total : Nat) (s : Network T) : Action T → Option (Network T)
  | .connect p q breaks =>
    if p < q ∧ q < total ∧ (s.endpoints p).dials q = .connecting then some (s.connect p q breaks)
    else none
  | .accept l =>
    s.links[l]?.bind fun link =>
      if link.reader link.target = .waiting then s.accept l link else none
  | .send p message =>
    if p < total ∧ (s.endpoints p).receives then some (s.send p message) else none
  | .read p l =>
    s.links[l]?.bind fun link =>
      if link.Joins p (link.peer p) ∧ link.reader p = .reading then s.read p l link else none
  | .fail p l =>
    s.links[l]?.bind fun link =>
      if link.Joins p (link.peer p) ∧ link.reader p ≠ .ended then some (s.fail p l link) else none
  | .receive p =>
    match (s.endpoints p).receives, (s.endpoints p).inbox with
    | true, receipt :: inbox =>
      some { s.put p { s.endpoints p with inbox := inbox } with
        received := s.received ++ [(p, receipt)] }
    | _, _ => none
  | .stop p =>
    if p < total then
      some (s.put p { s.endpoints p with inbox := [], receives := false })
    else none
  | .restart p => if p < total then some (s.restart p) else none

def boot : Network T :=
  { endpoints := fun _ => .new
    links := []
    sent := []
    received := [] }

def system (total : Nat) : Run.System (Network T) (Action T) :=
  { init := fun s => s = boot, step := fun s a t => step total s a = some t }

end Network

end Smr
