import Smr.Deployment.Deployment

set_option autoImplicit false

namespace Smr

variable {S C : Type} [StateMachine S C]

namespace Deployment

section Step

variable [Bincode (Message C)] [DecidableEq C] [Serde Nat] [Serde C] [Serde (AcceptedValue C)]

inductive Runs (total : Nat) (initial : S) (d : Deployment S C) (p : Nat) :
    Task C → Deployment S C → Prop where
  | propose {cmd : C} {msgs : List (Message C)} {sender : Oneshot C}
      (quiet : (d.hosts p).handing = []) (listens : (d.hosts p).runtime.point = .listening)
      (done : ((d.hosts p).runtime.algorithm.propose cmd).result = .ok (msgs, sender)) :
      Runs total initial d p (.propose cmd)
        { (d.record (.propose p cmd) msgs
              ((d.hosts p).runtime.algorithm.propose cmd).trace).put p
            { d.hosts p with
              runtime :=
                { (d.hosts p).runtime with
                  algorithm := ((d.hosts p).runtime.algorithm.propose cmd).after }
              handing := msgs.zipIdx d.made.length } with
          calls := d.calls ++ [(p, cmd)] }
  | hand {item : Message C × Nat} {rest : List (Message C × Nat)}
      (queued : (d.hosts p).handing = item :: rest) (room : (d.hosts p).outbox.length < 100) :
      Runs total initial d p .hand
        (d.put p { d.hosts p with handing := rest, outbox := (d.hosts p).outbox ++ [item] })
  | cancel : Runs total initial d p .cancel (d.put p { d.hosts p with handing := [] })
  | forward {item : Message C × Nat} {outbox : List (Message C × Nat)}
      {network : Network (Message C)} (unread : (d.hosts p).received = none)
      (listens : (d.hosts p).runtime.point = .listening)
      (queued : (d.hosts p).outbox = item :: outbox)
      (sent : Network.step total d.network (.send p item.1) = some network) :
      Runs total initial d p .forward
        { d.put p { d.hosts p with outbox := outbox } with
          network := network, places := d.places ++ [item.2] }
  | receive {receipt : Receipt (Message C)} {inbox : List (Receipt (Message C))}
      {network : Network (Message C)} (unread : (d.hosts p).received = none)
      (listens : (d.hosts p).runtime.point = .listening)
      (arrived : (d.network.endpoints p).inbox = receipt :: inbox)
      (taken : Network.step total d.network (.receive p) = some network) :
      Runs total initial d p .receive
        { d.put p { d.hosts p with received := some receipt } with network := network }
  | handle {receipt : Receipt (Message C)} {msgs : List (Message C)}
      (read : (d.hosts p).received = some receipt) (quiet : (d.hosts p).handing = [])
      (listens : (d.hosts p).runtime.point = .listening)
      (done : ((d.hosts p).runtime.algorithm.handleMessage receipt.message).result = .ok msgs) :
      Runs total initial d p .handle
        { (d.record (.deliver p (d.broadcastOf receipt)) msgs
              ((d.hosts p).runtime.algorithm.handleMessage receipt.message).trace).put p
            { d.hosts p with
              runtime :=
                { (d.hosts p).runtime with
                  algorithm := ((d.hosts p).runtime.algorithm.handleMessage receipt.message).after
                  point := .checking }
              received := none
              responses := msgs.zipIdx d.made.length } with
          delivered := (d.broadcastOf receipt, p) :: d.delivered }
  | respond {item : Message C × Nat} {responses : List (Message C × Nat)}
      {network : Network (Message C)} (queued : (d.hosts p).responses = item :: responses)
      (sent : Network.step total d.network (.send p item.1) = some network) :
      Runs total initial d p .respond
        { d.put p { d.hosts p with responses := responses } with
          network := network, places := d.places ++ [item.2] }
  | advance {runtime : SmrRuntime S C} (answered : (d.hosts p).responses = [])
      (advances : (d.hosts p).runtime.advance = some runtime) :
      Runs total initial d p .advance (d.put p { d.hosts p with runtime := runtime })
  | restart {runtime : SmrRuntime S C} {network : Network (Message C)}
      (recovers : (d.hosts p).runtime.recover (Cluster.config total p) initial = .ok runtime)
      (fresh : Network.step total d.network (.restart p) = some network) :
      Runs total initial d p .restart { d.put p (.idle runtime) with network := network }

theorem run_runs {total p : Nat} {initial : S} {d t : Deployment S C} {task : Task C}
    (next : d.run total initial p task = some t) : Runs total initial d p task t := by
  cases task with
  | propose cmd =>
    simp only [run] at next
    split at next
    next quiet listens done =>
      obtain rfl := Option.some.inj next
      exact .propose quiet listens done
    next => simp at next
  | hand =>
    simp only [run] at next
    split at next
    next => simp at next
    next queued =>
      simp only [Option.ite_none_right_eq_some, Option.some.injEq] at next
      obtain ⟨room, rfl⟩ := next
      exact .hand queued room
  | cancel =>
    obtain rfl := Option.some.inj next
    exact .cancel
  | forward =>
    simp only [run] at next
    split at next
    next unread listens queued =>
      obtain ⟨network, sent, rfl⟩ := Option.map_eq_some_iff.mp next
      exact .forward unread listens queued sent
    next => simp at next
  | receive =>
    simp only [run] at next
    split at next
    next unread listens arrived =>
      obtain ⟨network, taken, rfl⟩ := Option.map_eq_some_iff.mp next
      exact .receive unread listens arrived taken
    next => simp at next
  | handle =>
    simp only [run] at next
    split at next
    next read quiet listens =>
      split at next
      next done =>
        obtain rfl := Option.some.inj next
        exact .handle read quiet listens done
      next => simp at next
    next => simp at next
  | respond =>
    simp only [run] at next
    split at next
    next => simp at next
    next queued =>
      obtain ⟨network, sent, rfl⟩ := Option.map_eq_some_iff.mp next
      exact .respond queued sent
  | advance =>
    simp only [run] at next
    split at next
    next answered =>
      obtain ⟨runtime, advances, rfl⟩ := Option.map_eq_some_iff.mp next
      exact .advance answered advances
    next => simp at next
  | restart =>
    simp only [run] at next
    split at next
    next recovers =>
      obtain ⟨network, fresh, rfl⟩ := Option.map_eq_some_iff.mp next
      exact .restart recovers fresh
    next => simp at next

def Wires : Network.Action (Message C) → Prop
  | .connect .. | .accept _ | .read .. | .fail .. => True
  | .send .. | .receive _ | .stop _ | .restart _ => False

inductive Moves (total : Nat) (initial : S) (d : Deployment S C) :
    Action C → Deployment S C → Prop where
  | run {p : Nat} {task : Task C} {t : Deployment S C} (member : p < total)
      (runs : Runs total initial d p task t) : Moves total initial d (.run p task) t
  | network {a : Network.Action (Message C)} {network : Network (Message C)}
      (wires : Wires a) (next : Network.step total d.network a = some network) :
      Moves total initial d (.network a) { d with network := network }

theorem step_moves {total : Nat} {initial : S} {d t : Deployment S C} {a : Action C}
    (next : step total initial d a = some t) : Moves total initial d a t := by
  cases a with
  | run p task =>
    simp only [step, Option.ite_none_right_eq_some] at next
    exact .run next.1 (run_runs next.2)
  | network a =>
    cases a with
    | connect | accept | read | fail =>
      obtain ⟨network, stepped, rfl⟩ := Option.map_eq_some_iff.mp next
      exact .network trivial stepped
    | send | receive | stop | restart => simp [step] at next

end Step

end Deployment

end Smr
