import Smr.Synod.Cascade
import Smr.Shared.Run
import Smr.Shared.Voting

set_option autoImplicit false

namespace Smr

variable {C : Type}

-- An instance a propose call took for its command; `request` is the forwarder and
-- its forward id where the command had been forwarded.
structure Placement (C : Type) where
  nodeId : Nat
  instanceId : Nat
  command : C
  request : Option (Nat × Nat)
  deriving DecidableEq, Repr

def quorumOf (total : Nat) : Nat :=
  total / 2 + 1

def MessageKind.asks : MessageKind C → Option Nat
  | .prepareMsg p => some p.ballot
  | .acceptMsg a => some a.ballot
  | _ => none

def TraceEvent.Votes (id a ballot : Nat) (value : C) : TraceEvent C → Prop
  | .phase2b nodeId instanceId _ _ _ accepted =>
    nodeId = a ∧ instanceId = id ∧ accepted = { ballot := ballot, command := value }
  | _ => False

def TraceEvent.Learns (id a ballot : Nat) (value : C) : TraceEvent C → Prop
  | .learn nodeId instanceId b v => nodeId = a ∧ instanceId = id ∧ b = ballot ∧ v = value
  | _ => False

instance [DecidableEq C] (id a ballot : Nat) (value : C) (event : TraceEvent C) :
    Decidable (event.Votes id a ballot value) := by
  cases event <;> unfold TraceEvent.Votes <;> infer_instance

theorem TraceEvent.Votes.instanceId {id a ballot : Nat} {value : C} {event : TraceEvent C}
    (votes : event.Votes id a ballot value) : event.instanceId = id := by
  cases event <;> first | exact votes.elim | exact votes.2.1

theorem TraceEvent.Learns.instanceId {id a ballot : Nat} {value : C} {event : TraceEvent C}
    (learns : event.Learns id a ballot value) : event.instanceId = id := by
  cases event <;> first | exact learns.elim | exact learns.2.1

-- One instance of the log across the cluster. A message is known by its place in
-- `sent`, which also holds what is sent in other instances; `handled` holds the
-- place of a message and who handled it, from the network or as its own.
structure Synod (C : Type) where
  inst : Nat → PaxosInstance C
  sent : List (Message C)
  handled : Set (Nat × Nat)
  trace : List (TraceEvent C)
  placed : List (Placement C)

inductive Event (C : Type) where
  | handle (p place : Nat) (response : Option (MessageKind C))
  | prepare (p : Nat) (cmd : C)
  | accept (p ballot : Nat) (cmd : C)
  | restart (p : Nat)
  | elsewhere

namespace Synod

def Sent (s : Synod C) (id place q : Nat) (message : MessageKind C) : Prop :=
  s.sent[place]? = some { senderId := q, paxosInstance := id, msg := message }

def Prepared (s : Synod C) (id ballot : Nat) : Prop :=
  ∃ place q p, s.Sent id place q (.prepareMsg p) ∧ p.ballot = ballot

def Proposed (s : Synod C) (id ballot : Nat) (value : C) : Prop :=
  ∃ place q a, s.Sent id place q (.acceptMsg a) ∧ a.ballot = ballot ∧ a.command = value

def Voted (s : Synod C) (id a ballot : Nat) (value : C) : Prop :=
  ∃ event ∈ s.trace, event.Votes id a ballot value

def election (s : Synod C) (total id : Nat) : Voting.Election Nat C :=
  { members := Finset.range total
    voted := s.Voted id
    bound := fun a => (s.inst a).acceptor.maxBallot }

def Chosen (s : Synod C) (total id ballot : Nat) (value : C) : Prop :=
  (s.election total id).Chosen ballot value

def act (s : Synod C) (id p : Nat) (after : PaxosInstance C) (response : Option (MessageKind C))
    (events : List (TraceEvent C)) (handled : Set (Nat × Nat)) (placed : List (Placement C)) :
    Synod C :=
  { inst := Function.update s.inst p after
    sent := s.sent ++
      (response.map fun r => { senderId := p, paxosInstance := id, msg := r }).toList
    handled := handled
    trace := s.trace ++ events
    placed := placed }

def wrapper {S : Type} (total p ballot : Nat) (state : S) : StateWrapper S :=
  { state := state
    ballot := ballot
    proposerId := p
    quorumSize := quorumOf total
    totalNodes := total }

def fresh (total p id : Nat) : PaxosInstance C :=
  PaxosInstance.fresh p (quorumOf total) total id

def launched (total p id : Nat) (state : InnerState C) : PaxosInstance C :=
  { fresh total p id with proposer := { innerState := state } }

def Relevant (id : Nat) (m : Message C) : Prop :=
  m.paxosInstance = id ∧ m.msg.IsSynod

def Unopened (s : Synod C) (id p : Nat) : Prop :=
  ∀ k message, s.Sent id k p message → message.asks = none

variable [DecidableEq C] [Serde Nat] [Serde (AcceptedValue C)]

inductive Step (total id : Nat) : Synod C → Event C → Synod C → Prop where
  | handle {s : Synod C} {p k q : Nat} {message : MessageKind C}
      {response : Option (MessageKind C)} {after : PaxosInstance C}
      {storage kept : Option (PaxosStorage C)} {events : List (TraceEvent C)}
      (member : p < total) (arrived : s.Sent id k q message)
      (step : (s.inst p).Step storage message response after kept events) :
      Step total id s (.handle p k response)
        (s.act id p after response events (insert (k, p) s.handled) s.placed)
  | prepare {s : Synod C} {p ballot : Nat} {cmd : C} {request : Option (Nat × Nat)}
      (member : p < total) (isFresh : s.inst p = fresh total p id) (unopened : s.Unopened id p)
      (residue : ballot % total = p) (positive : 0 < ballot) :
      Step total id s (.prepare p cmd)
        (s.act id p
          (launched total p id (.proposal (wrapper total p ballot (ProposalState.new cmd))))
          (some (.prepareMsg { sender := p, ballot := ballot })) [.phase1a p id ballot] s.handled
          (s.placed ++ [⟨p, id, cmd, request⟩]))
  | accept {s : Synod C} {p ballot : Nat} {cmd : C} {request : Option (Nat × Nat)}
      (member : p < total) (isFresh : s.inst p = fresh total p id) (unopened : s.Unopened id p)
      (residue : ballot % total = p) (positive : 0 < ballot) :
      Step total id s (.accept p ballot cmd)
        (s.act id p
          (launched total p id (.accepting (wrapper total p ballot (AcceptingState.new cmd))))
          (some (.acceptMsg { sender := p, ballot := ballot, command := cmd }))
          [.phase2a p id ballot cmd] s.handled (s.placed ++ [⟨p, id, cmd, request⟩]))
  | restart {s : Synod C} {p : Nat} (member : p < total) :
      Step total id s (.restart p)
        { s with
          inst := Function.update s.inst p
            { fresh total p id with acceptor := (s.inst p).acceptor } }
  | elsewhere {s : Synod C} {msgs : List (Message C)} {handled : Set (Nat × Nat)}
      {events : List (TraceEvent C)} {placed : List (Placement C)}
      (others : ∀ m ∈ msgs, ¬Relevant id m) (grows : s.handled ⊆ handled)
      (only : ∀ k p, (k, p) ∈ handled → (k, p) ∈ s.handled ∨
        ∃ m, (s.sent ++ msgs)[k]? = some m ∧ ¬Relevant id m)
      (outside : ∀ event ∈ events, event.instanceId ≠ id)
      (away : ∀ placement ∈ placed, placement.instanceId ≠ id) :
      Step total id s .elsewhere
        { s with
          sent := s.sent ++ msgs
          handled := handled
          trace := s.trace ++ events
          placed := s.placed ++ placed }

structure Init (total id : Nat) (s : Synod C) : Prop where
  inst : ∀ p < total, s.inst p = fresh total p id
  sent : s.sent = []
  handled : s.handled = ∅
  trace : s.trace = []
  placed : s.placed = []

def system (total id : Nat) : Run.System (Synod C) (Event C) :=
  { init := Init total id, step := Step total id }

def Once (s : Synod C) : Event C → Prop
  | .handle p k _ => (k, p) ∉ s.handled
  | _ => True

-- An Accept goes out by the fast path while an Accept of another ballot is out, or
-- after Phase 1 under an Accept of the fast path: then one of the two values must
-- be out of reach of a quorum.
def RaceFree (s : Synod C) (total id : Nat) : Event C → Prop
  | .accept _ ballot value => ∀ b v, s.Proposed id b v →
    (b < ballot → v = value ∨ ¬(s.election total id).Choosable b v) ∧
    (ballot < b → s.Prepared id b ∨ value = v ∨ ¬(s.election total id).Choosable ballot value)
  | .handle _ _ (some (.acceptMsg a)) => ∀ b v, s.Proposed id b v → a.ballot < b →
    s.Prepared id b ∨ a.command = v ∨ ¬(s.election total id).Choosable a.ballot a.command
  | _ => True

def Ordinary : Event C → Prop
  | .accept _ _ _ => False
  | _ => True

structure Rules where
  once : Prop
  raceFree : Prop
  ordinary : Prop

def Obeys (rules : Rules) (total id : Nat) (s : Synod C) (event : Event C) : Prop :=
  (rules.once → s.Once event) ∧ (rules.raceFree → s.RaceFree total id event) ∧
    (rules.ordinary → Ordinary event)

section Lemmas

omit [DecidableEq C] [Serde Nat] [Serde (AcceptedValue C)]

theorem sent_act {s : Synod C} {id p k q : Nat} {after : PaxosInstance C}
    {response : Option (MessageKind C)} {events : List (TraceEvent C)}
    {handled : Set (Nat × Nat)} {placed : List (Placement C)} {message : MessageKind C} :
    (s.act id p after response events handled placed).Sent id k q message ↔
      s.Sent id k q message ∨ k = s.sent.length ∧ q = p ∧ response = some message := by
  unfold Sent act
  cases response with
  | none => simp
  | some reply =>
    simp only [Option.map_some, Option.toList_some, Option.some.injEq]
    rw [List.getElem?_append]
    split
    next inside => simp [Nat.ne_of_lt inside]
    next outside =>
      have none_before : s.sent[k]? = none := List.getElem?_eq_none (by omega)
      rw [none_before, List.getElem?_singleton]
      split
      next here =>
        have last : k = s.sent.length := by omega
        simp [last, eq_comm]
      next beyond =>
        have later : k ≠ s.sent.length := by omega
        simp [later]

theorem Sent.inside {s : Synod C} {id k q : Nat} {message : MessageKind C}
    (sent : s.Sent id k q message) : k < s.sent.length := by
  unfold Sent at sent
  by_contra outside
  rw [List.getElem?_eq_none (by omega)] at sent
  simp at sent

theorem sent_append {s : Synod C} {id k q : Nat} {msgs : List (Message C)}
    {handled : Set (Nat × Nat)} {trace : List (TraceEvent C)} {placed : List (Placement C)}
    {message : MessageKind C} (synod : message.IsSynod)
    (others : ∀ m ∈ msgs, ¬Relevant id m) :
    Sent { s with sent := s.sent ++ msgs, handled := handled, trace := trace, placed := placed }
      id k q message ↔ s.Sent id k q message := by
  unfold Sent
  rw [List.getElem?_append]
  split
  next => rfl
  next outside =>
    have none_before : s.sent[k]? = none := List.getElem?_eq_none (by omega)
    simp only [none_before, reduceCtorEq, iff_false]
    intro found
    exact others _ (List.mem_of_getElem? found) ⟨rfl, synod⟩

theorem voted_act {s : Synod C} {id p : Nat} {after : PaxosInstance C}
    {response : Option (MessageKind C)} {events : List (TraceEvent C)}
    {handled : Set (Nat × Nat)} {placed : List (Placement C)} {a ballot : Nat} {value : C} :
    (s.act id p after response events handled placed).Voted id a ballot value ↔
      s.Voted id a ballot value ∨ ∃ event ∈ events, event.Votes id a ballot value := by
  simp [Voted, act, or_and_right, exists_or]

theorem act_inst_self {s : Synod C} {id p : Nat} {after : PaxosInstance C}
    {response : Option (MessageKind C)} {events : List (TraceEvent C)}
    {handled : Set (Nat × Nat)} {placed : List (Placement C)} :
    (s.act id p after response events handled placed).inst p = after := by
  simp [act]

theorem act_inst_other {s : Synod C} {id p q : Nat} {after : PaxosInstance C}
    {response : Option (MessageKind C)} {events : List (TraceEvent C)}
    {handled : Set (Nat × Nat)} {placed : List (Placement C)} (other : q ≠ p) :
    (s.act id p after response events handled placed).inst q = s.inst q := by
  simp [act, other]

end Lemmas

end Synod

end Smr
