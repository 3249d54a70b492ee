import Smr.Channel.Network
import Smr.Cluster.Cluster
import Smr.Runtime.SmrRuntime

set_option autoImplicit false

namespace Smr

-- The background loop and the propose call of one process. `received` is what the loop took
-- from the network and waits for the lock with, `handing` what propose has still to hand to the
-- outbox. Messages in the queues go with their places in `made`.
structure Host (S C : Type) [StateMachine S C] where
  runtime : SmrRuntime S C
  received : Option (Receipt (Message C))
  responses : List (Message C × Nat)
  handing : List (Message C × Nat)
  outbox : List (Message C × Nat)

-- All but the first two fields are history: the messages the nodes have made, the place there of
-- each broadcast of the network, and what a cluster remembers.
structure Deployment (S C : Type) [StateMachine S C] where
  hosts : Nat → Host S C
  network : Network (Message C)
  made : List (Message C)
  places : List Nat
  delivered : List (Nat × Nat)
  trace : List (TraceEvent C)
  calls : List (Nat × C)
  placed : List (Placement C)

variable {S C : Type} [StateMachine S C]

namespace Host

def idle (runtime : SmrRuntime S C) : Host S C :=
  { runtime := runtime
    received := none
    responses := []
    handing := []
    outbox := [] }

def queue (self : Host S C) : List (Message C × Nat) :=
  self.responses ++ (self.handing ++ self.outbox)

end Host

namespace Deployment

inductive Task (C : Type) where
  | propose (cmd : C)
  | hand
  | cancel
  | forward
  | receive
  | handle
  | respond
  | advance
  | restart

inductive Action (C : Type) where
  | run (p : Nat) (task : Task C)
  | network (a : Network.Action (Message C))

def cluster (d : Deployment S C) : Cluster C :=
  { nodes := fun p => (d.hosts p).runtime.algorithm
    sent := d.made
    delivered := d.delivered
    trace := d.trace
    calls := d.calls
    placed := d.placed }

def put (d : Deployment S C) (p : Nat) (host : Host S C) : Deployment S C :=
  { d with hosts := Function.update d.hosts p host }

def record (d : Deployment S C) (a : Smr.Action C) (msgs : List (Message C))
    (trace : List (TraceEvent C)) : Deployment S C :=
  { d with
    made := d.made ++ msgs
    trace := d.trace ++ trace
    placed := d.placed ++ (d.cluster.placement a).toList }

def broadcastOf (d : Deployment S C) (receipt : Receipt (Message C)) : Nat :=
  d.places[receipt.place]?.getD 0

section Step

variable [Bincode (Message C)]

def send (total : Nat) (d : Deployment S C) (p : Nat) (item : Message C × Nat)
    (host : Host S C) : Option (Deployment S C) :=
  (Network.step total d.network (.send p item.1)).map fun network =>
    { d.put p host with network := network, places := d.places ++ [item.2] }

variable [DecidableEq C] [Serde Nat] [Serde C] [Serde (AcceptedValue C)]

-- The lock on the algorithm is free when the loop listens and no propose waits for the outbox.
-- The loop comes to its select when it listens and has no message in hand.
def run (total : Nat) (initial : S) (d : Deployment S C) (p : Nat) :
    Task C → Option (Deployment S C)
  | .propose cmd =>
    let host := d.hosts p
    let called := host.runtime.algorithm.propose cmd
    match host.handing, host.runtime.point, called.result with
    | [], .listening, .ok (msgs, _) =>
      some
        { (d.record (.propose p cmd) msgs called.trace).put p
            { host with
              runtime := { host.runtime with algorithm := called.after }
              handing := msgs.zipIdx d.made.length } with
          calls := d.calls ++ [(p, cmd)] }
    | _, _, _ => none
  | .hand =>
    match (d.hosts p).handing with
    | [] => none
    | item :: rest =>
      if (d.hosts p).outbox.length < 100 then
        some (d.put p
          { d.hosts p with handing := rest, outbox := (d.hosts p).outbox ++ [item] })
      else none
  -- The future of propose is dropped.
  | .cancel => some (d.put p { d.hosts p with handing := [] })
  | .forward =>
    match (d.hosts p).received, (d.hosts p).runtime.point, (d.hosts p).outbox with
    | none, .listening, item :: outbox => d.send total p item { d.hosts p with outbox := outbox }
    | _, _, _ => none
  | .receive =>
    match (d.hosts p).received, (d.hosts p).runtime.point, (d.network.endpoints p).inbox with
    | none, .listening, receipt :: _ =>
      (Network.step total d.network (.receive p)).map fun network =>
        { d.put p { d.hosts p with received := some receipt } with network := network }
    | _, _, _ => none
  | .handle =>
    let host := d.hosts p
    match host.received, host.handing, host.runtime.point with
    | some receipt, [], .listening =>
      let called := host.runtime.algorithm.handleMessage receipt.message
      match called.result with
      | .ok msgs =>
        some
          { (d.record (.deliver p (d.broadcastOf receipt)) msgs called.trace).put p
              { host with
                runtime := { host.runtime with algorithm := called.after, point := .checking }
                received := none
                responses := msgs.zipIdx d.made.length } with
            delivered := (d.broadcastOf receipt, p) :: d.delivered }
      | .error _ => none
    | _, _, _ => none
  | .respond =>
    match (d.hosts p).responses with
    | [] => none
    | item :: responses => d.send total p item { d.hosts p with responses := responses }
  | .advance =>
    match (d.hosts p).responses with
    | [] =>
      (d.hosts p).runtime.advance.map fun runtime => d.put p { d.hosts p with runtime := runtime }
    | _ => none
  | .restart =>
    match (d.hosts p).runtime.recover (Cluster.config total p) initial with
    | .ok runtime =>
      (Network.step total d.network (.restart p)).map fun network =>
        { d.put p (.idle runtime) with network := network }
    | .error _ => none

-- A call that ends in a fault ends the run. The other steps of the network are those of the
-- tasks of the channels.
def step (total : Nat) (initial : S) (d : Deployment S C) : Action C → Option (Deployment S C)
  | .run p task => if p < total then d.run total initial p task else none
  | .network a =>
    match a with
    | .connect .. | .accept _ | .read .. | .fail .. =>
      (Network.step total d.network a).map fun network => { d with network := network }
    | .send .. | .receive _ | .stop _ | .restart _ => none

structure Init (total : Nat) (initial : S) (d : Deployment S C) : Prop where
  boots : ∀ p < total, ∃ runtime, Runtime.Boots (Cluster.config total p) initial runtime ∧
    d.hosts p = .idle runtime
  network : d.network = .boot
  made : d.made = []
  places : d.places = []
  delivered : d.delivered = []
  trace : d.trace = []
  calls : d.calls = []
  placed : d.placed = []

def system (total : Nat) (initial : S) : Run.System (Deployment S C) (Action C) :=
  { init := Init total initial, step := fun d a t => step total initial d a = some t }

end Step

def boot (total : Nat) (initial : S) : Deployment S C :=
  { hosts := fun p => .idle (.new (Cluster.config total p) initial)
    network := .boot
    made := []
    places := []
    delivered := []
    trace := []
    calls := []
    placed := [] }

theorem boot_init [DecidableEq C] [Serde Nat] [Serde C] [Serde (AcceptedValue C)] (total : Nat)
    (initial : S) : Init total initial (boot total initial : Deployment S C) where
  boots _ _ := ⟨_, .new, rfl⟩
  network := rfl
  made := rfl
  places := rfl
  delivered := rfl
  trace := rfl
  calls := rfl
  placed := rfl

def transmits (d : Deployment S C) : Action C → Option (Network.Action (Message C))
  | .run p .forward => (d.hosts p).outbox.head?.map fun item => .send p item.1
  | .run p .respond => (d.hosts p).responses.head?.map fun item => .send p item.1
  | .run p .receive => some (.receive p)
  | .run p .restart => some (.restart p)
  | .run _ _ => none
  | .network a => some a

def performs (d : Deployment S C) : Action C → Option (Smr.Action C)
  | .run p (.propose cmd) => some (.propose p cmd)
  | .run p .handle =>
    (d.hosts p).received.map fun receipt => .deliver p (d.broadcastOf receipt)
  | .run p .advance =>
    match (d.hosts p).runtime.point with
    | .checking => some (.getCommitId p (d.hosts p).runtime.lastAppliedCommandId)
    | _ => none
  | .run p .restart => some (.crash p)
  | _ => none

end Deployment

end Smr
