import Smr.Node.Lasting
import Smr.Shared.Holding

set_option autoImplicit false

namespace Smr

open Holding

structure Serving (C : Type) where
  node : MultiPaxosNode C
  lastApplied : Nat
  -- Not in the source: the senders that propose calls which returned Ok have registered,
  -- and those get_commit_id has handed out.
  registered : List (Oneshot C)
  handed : List (Oneshot C)

namespace Serving

inductive Action (C : Type) where
  | propose (command : C)
  | deliver (message : Message C)
  | consume

inductive Place where
  | forwarded (forwardId : Nat)
  | pending (instanceId : Nat)
  | handed (index : Nat)
  deriving DecidableEq

variable {C : Type}

def holds (s : Serving C) : Place → Option (Oneshot C)
  | .forwarded forwardId => s.node.forwardedSenders forwardId
  | .pending instanceId => s.node.pendingSenders instanceId
  | .handed index => s.handed[index]?

def Clear (s : Serving C) (instanceId : Nat) : Prop :=
  s.lastApplied ≤ instanceId ∧ s.node.pendingSenders instanceId = none

instance (s : Serving C) (instanceId : Nat) : Decidable (s.Clear instanceId) :=
  inferInstanceAs (Decidable (_ ∧ _))

def acked (s : Serving C) : Action C → Option Nat
  | .deliver message =>
    match message.msg with
    | .forwardAck forwardId instanceId =>
      if (s.node.forwardedSenders forwardId).isSome then some instanceId else none
    | _ => none
  | .propose _ | .consume => none

-- An instance beyond next_instance_id is one that the node may yet propose in itself.
def Careful (s : Serving C) (a : Action C) : Prop :=
  ∀ instanceId ∈ s.acked a, s.Clear instanceId ∧ instanceId < s.node.nextInstanceId

instance (s : Serving C) (a : Action C) : Decidable (s.Careful a) := by
  unfold Careful
  infer_instance

structure Unlost (s : Serving C) : Prop where
  kept : Kept s.holds s.registered
  ahead : ∀ instanceId, s.node.pendingSenders instanceId ≠ none → s.lastApplied ≤ instanceId

section Steps

variable [DecidableEq C] [Serde Nat] [Serde (AcceptedValue C)]

def opened (node : MultiPaxosNode C) (command : C) : List (Oneshot C) :=
  match (node.propose command).result with
  | .ok (_, sender) => [sender]
  | .error _ => []

def registers (s : Serving C) : Action C → List (Oneshot C)
  | .propose command => opened s.node command
  | .deliver message =>
    match message.msg with
    | .requestCommandToLeader command _ => if s.node.isLeader then opened s.node command else []
    | _ => []
  | .consume => []

-- A call that returns Err leaves the node as far as it came.
def step (s : Serving C) (a : Action C) : Option (Serving C) :=
  match a with
  | .propose command =>
    some
      { s with
        node := (s.node.propose command).after
        registered := s.registered ++ s.registers a }
  | .deliver message =>
    some
      { s with
        node := (s.node.handleMessage message).after
        registered := s.registered ++ s.registers a }
  | .consume =>
    match s.node.getCommitId s.lastApplied with
    | (some (_, sender), node) =>
      some
        { s with
          node := node
          lastApplied := s.lastApplied + 1
          handed := s.handed ++ sender.toList }
    | (none, _) => none

inductive Begins (config : SmrConfig) : Serving C → Prop where
  | new : Begins config
      { node := .new config, lastApplied := 0, registered := [], handed := [] }
  | withStorage {store : PaxosStorage C} {node : MultiPaxosNode C} (lastApplied : Nat)
      (built : MultiPaxosNode.withStorage config store = .ok node) :
      Begins config { node := node, lastApplied := lastApplied, registered := [], handed := [] }

def system (config : SmrConfig) : Run.System (Serving C) (Action C) :=
  { init := Begins config, step := fun s a t => s.step a = some t }

structure Numbered (s : Serving C) : Prop where
  below : ∀ instanceId, s.node.paxosInstances instanceId ≠ none →
    instanceId < s.node.nextInstanceId
  waiting : ∀ instanceId, s.node.pendingSenders instanceId ≠ none →
    instanceId < s.node.nextInstanceId
  reached : s.lastApplied ≤ s.node.nextInstanceId

structure Sound (s : Serving C) : Prop where
  known : Known s.holds s.registered
  serials : ∀ sender ∈ s.registered, sender.serial < s.node.channels
  labels : ∀ forwardId, s.holds (.forwarded forwardId) ≠ none →
    forwardId < s.node.nextForwardId

inductive Moves (s t : Serving C) : Option Nat → Prop where
  | still (holds : t.holds = s.holds) (registered : t.registered = s.registered)
      (lastApplied : t.lastApplied = s.lastApplied) (channels : t.node.channels = s.node.channels)
      (labels : t.node.nextForwardId = s.node.nextForwardId) : Moves s t none
  | forward (sender : Oneshot C) (serial : sender.serial = s.node.channels)
      (holds : t.holds = put s.holds (.forwarded s.node.nextForwardId) sender)
      (registered : t.registered = s.registered ++ [sender])
      (lastApplied : t.lastApplied = s.lastApplied)
      (channels : t.node.channels = s.node.channels + 1)
      (labels : t.node.nextForwardId = s.node.nextForwardId + 1) : Moves s t none
  | start (sender : Oneshot C) (serial : sender.serial = s.node.channels)
      (opens : s.node.nextInstanceId < t.node.nextInstanceId)
      (holds : t.holds = put s.holds (.pending s.node.nextInstanceId) sender)
      (registered : t.registered = s.registered ++ [sender])
      (lastApplied : t.lastApplied = s.lastApplied)
      (channels : t.node.channels = s.node.channels + 1)
      (labels : t.node.nextForwardId = s.node.nextForwardId) : Moves s t none
  | ack (sender : Oneshot C) (forwardId instanceId : Nat)
      (found : s.holds (.forwarded forwardId) = some sender)
      (holds : t.holds = move s.holds (.forwarded forwardId) (.pending instanceId) sender)
      (registered : t.registered = s.registered) (lastApplied : t.lastApplied = s.lastApplied)
      (channels : t.node.channels = s.node.channels)
      (labels : t.node.nextForwardId = s.node.nextForwardId) : Moves s t (some instanceId)
  | take (sender : Oneshot C) (learned : s.node.paxosInstances s.lastApplied ≠ none)
      (found : s.holds (.pending s.lastApplied) = some sender)
      (holds : t.holds =
        move s.holds (.pending s.lastApplied) (.handed s.handed.length) sender)
      (registered : t.registered = s.registered) (lastApplied : t.lastApplied = s.lastApplied + 1)
      (channels : t.node.channels = s.node.channels)
      (labels : t.node.nextForwardId = s.node.nextForwardId) : Moves s t none
  | skip (learned : s.node.paxosInstances s.lastApplied ≠ none)
      (missing : s.holds (.pending s.lastApplied) = none) (holds : t.holds = s.holds)
      (registered : t.registered = s.registered) (lastApplied : t.lastApplied = s.lastApplied + 1)
      (channels : t.node.channels = s.node.channels)
      (labels : t.node.nextForwardId = s.node.nextForwardId) : Moves s t none

theorem start_sender {node : MultiPaxosNode C} {command : C} {msgs : List (Message C)}
    {sender : Oneshot C} (done : (node.start command).result = .ok (msgs, sender)) :
    sender = { serial := node.channels, command := command, forwardId := none } := by
  unfold MultiPaxosNode.start at done
  dsimp only at done
  split at done
  next => simp at done
  next nextInstanceId counted =>
    split at done
    next => simp at done
    next first inst opened =>
      obtain ⟨several, opens⟩ := MultiPaxosNode.opens_ok opened
      split at done
      next => simp at done
      next outgoing delivered =>
        obtain ⟨responses, after, kept, events, cascade, rfl, whole, traced⟩ :=
          MultiPaxosNode.selfDeliver_ok (Function.update_self _ _ _) opens.isSynod delivered
        simp only [Except.ok.injEq, Prod.mk.injEq] at done
        rw [← done.2, whole]
        rfl

omit [DecidableEq C] [Serde Nat] [Serde (AcceptedValue C)] in
theorem put_pending {s t : Serving C} {instanceId : Nat} {sender : Oneshot C}
    (pending : t.node.pendingSenders =
      Function.update s.node.pendingSenders instanceId (some sender))
    (forwarded : t.node.forwardedSenders = s.node.forwardedSenders) (handed : t.handed = s.handed) :
    t.holds = put s.holds (.pending instanceId) sender := by
  funext place
  by_cases same : place = .pending instanceId
  · subst same
    simp [holds, pending]
  · rw [put_there same]
    cases place with
    | forwarded forwardId => simp only [holds, forwarded]
    | pending other =>
      have differs : other ≠ instanceId := fun equal => same (congrArg _ equal)
      simp only [holds, pending, Function.update_of_ne differs]
    | handed index => simp only [holds, handed]

theorem start_moves {s : Serving C} {command : C} {out msgs : List (Message C)}
    {sender : Oneshot C} {after : MultiPaxosNode C} {events : List (TraceEvent C)}
    (done : (s.node.start command).result = .ok (out, sender))
    (starts : s.node.Starts command msgs after events) {node : MultiPaxosNode C}
    (pending : node.pendingSenders = after.pendingSenders)
    (forwarded : node.forwardedSenders = after.forwardedSenders)
    (channels : node.channels = after.channels)
    (labels : node.nextForwardId = after.nextForwardId)
    (next : node.nextInstanceId = after.nextInstanceId) :
    s.Moves { s with node := node, registered := s.registered ++ [sender] } none := by
  obtain ⟨-, next', pending', forwarded', labels', -⟩ := starts.books
  have opened : after.channels = s.node.channels + 1 := by
    cases starts
    rfl
  obtain rfl := start_sender done
  refine .start _ rfl ?_ (put_pending (pending.trans pending') (forwarded.trans forwarded') rfl) rfl
    rfl (channels.trans opened) (labels.trans labels')
  exact (next.trans next').symm ▸ Nat.lt_succ_self _

structure Quiet (before after : MultiPaxosNode C) : Prop where
  pendingSenders : after.pendingSenders = before.pendingSenders
  forwardedSenders : after.forwardedSenders = before.forwardedSenders
  nextForwardId : after.nextForwardId = before.nextForwardId
  channels : after.channels = before.channels

omit [DecidableEq C] [Serde Nat] [Serde (AcceptedValue C)] in
theorem Quiet.moves {s : Serving C} {after : MultiPaxosNode C} (quiet : Quiet s.node after) :
    s.Moves { s with node := after, registered := s.registered ++ [] } none := by
  refine .still ?_ (List.append_nil _) rfl quiet.channels quiet.nextForwardId
  funext place
  cases place with
  | forwarded forwardId => simp only [holds, quiet.forwardedSenders]
  | pending instanceId => simp only [holds, quiet.pendingSenders]
  | handed index => rfl

theorem start_quiet {node : MultiPaxosNode C} {command : C} {fault : Fault}
    (failed : (node.start command).result = .error fault) :
    Quiet node (node.start command).after := by
  unfold MultiPaxosNode.start at failed ⊢
  dsimp only at failed ⊢
  split
  next => exact ⟨rfl, rfl, rfl, rfl⟩
  next nextInstanceId counted =>
    rw [counted] at failed
    dsimp only at failed
    split
    next => exact ⟨rfl, rfl, rfl, rfl⟩
    next first inst opened =>
      obtain ⟨several, opens⟩ := MultiPaxosNode.opens_ok opened
      obtain ⟨last, kept, -, whole⟩ := MultiPaxosNode.selfDeliver_leaves
        ({ node with
          nextInstanceId := nextInstanceId
          paxosInstances := Function.update node.paxosInstances node.nextInstanceId (some inst) } :
            MultiPaxosNode C)
        (Function.update_self _ _ _) opens.isSynod
      rw [opened] at failed
      dsimp only at failed
      split
      next =>
        rw [whole]
        exact ⟨rfl, rfl, rfl, rfl⟩
      next outgoing delivered =>
        rw [delivered] at failed
        simp at failed

theorem propose_quiet {node : MultiPaxosNode C} {command : C} {fault : Fault}
    (failed : (node.propose command).result = .error fault) :
    Quiet node (node.propose command).after := by
  cases forwards : node.forwards with
  | false =>
    rw [MultiPaxosNode.propose_start forwards] at failed ⊢
    exact start_quiet failed
  | true =>
    have known : ¬node.isLeader ∧ node.knownLeaderId.isSome := by
      simpa [MultiPaxosNode.forwards] using forwards
    unfold MultiPaxosNode.propose MultiPaxosNode.forward at failed ⊢
    rw [if_pos known] at failed ⊢
    split
    next => exact ⟨rfl, rfl, rfl, rfl⟩
    next next counted =>
      rw [counted] at failed
      simp at failed

theorem handleSynod_quiet (node : MultiPaxosNode C) (instanceId : Nat) {message : MessageKind C}
    (synod : message.IsSynod) : Quiet node (node.handleSynod instanceId message).after := by
  rcases node.handleSynod_leaves instanceId synod with ⟨fault, -, whole⟩ |
    ⟨result, kept, leader, known, -, -, leaves, whole⟩ <;> rw [whole] <;>
  exact ⟨rfl, rfl, rfl, rfl⟩

theorem forward_sender {node : MultiPaxosNode C} (forwards : node.forwards = true) {command : C}
    {msgs : List (Message C)} {sender : Oneshot C}
    (done : (node.propose command).result = .ok (msgs, sender)) :
    sender =
      { serial := node.channels, command := command, forwardId := some node.nextForwardId } := by
  have known : ¬node.isLeader ∧ node.knownLeaderId.isSome := by
    simpa [MultiPaxosNode.forwards] using forwards
  unfold MultiPaxosNode.propose MultiPaxosNode.forward at done
  rw [if_pos known] at done
  split at done
  next => simp at done
  next =>
    simp only [Except.ok.injEq, Prod.mk.injEq] at done
    exact done.2.symm

theorem propose_moves (s : Serving C) (command : C) :
    s.Moves
      { s with
        node := (s.node.propose command).after
        registered := s.registered ++ opened s.node command } none := by
  unfold opened
  split
  next msgs sender done =>
    have proposes := MultiPaxosNode.propose_ok done
    generalize (s.node.propose command).after = after, (s.node.propose command).trace = events
      at proposes ⊢
    cases proposes with
    | forward forwards =>
      obtain rfl := forward_sender forwards done
      refine .forward _ rfl ?_ rfl rfl rfl rfl
      funext place
      by_cases same : place = .forwarded s.node.nextForwardId
      · subst same
        simp [holds, MultiPaxosNode.afterForward]
      · rw [put_there same]
        cases place with
        | forwarded forwardId =>
          have differs : forwardId ≠ s.node.nextForwardId := fun equal => same (congrArg _ equal)
          simp only [holds, MultiPaxosNode.afterForward, Function.update_of_ne differs]
        | pending instanceId => rfl
        | handed index => rfl
    | start stays starts =>
      rw [MultiPaxosNode.propose_start stays] at done
      exact start_moves done starts rfl rfl rfl rfl rfl
  next fault failed => exact (propose_quiet failed).moves

theorem request_moves {s : Serving C} (leads : s.node.isLeader = true) (forwarderId : Nat)
    (command : C) (forwardId : Nat) :
    s.Moves
      { s with
        node := (s.node.handleRequest forwarderId command forwardId).after
        registered := s.registered ++ opened s.node command } none := by
  unfold MultiPaxosNode.handleRequest opened
  rw [if_pos leads, MultiPaxosNode.propose_leading leads]
  dsimp only
  split
  next fault failed =>
    rw [failed]
    exact (start_quiet failed).moves
  next msgs sender done =>
    rw [done]
    exact start_moves done (MultiPaxosNode.start_ok done) rfl rfl rfl rfl rfl

omit [DecidableEq C] [Serde Nat] [Serde (AcceptedValue C)] in
theorem ack_moves (s : Serving C) (forwardId instanceId : Nat) :
    s.Moves { s with node := s.node.handleForwardAck forwardId instanceId }
      (if (s.node.forwardedSenders forwardId).isSome then some instanceId else none) := by
  unfold MultiPaxosNode.handleForwardAck
  cases found : s.node.forwardedSenders forwardId with
  | none => exact .still rfl rfl rfl rfl rfl
  | some sender =>
    refine .ack sender forwardId instanceId found ?_ rfl rfl rfl rfl
    funext place
    cases place with
    | forwarded other =>
      by_cases same : other = forwardId
      · subst same
        rw [move_source (by simp)]
        simp [holds]
      · rw [move_there (by simpa using same) (by simp)]
        simp only [holds, Function.update_of_ne same]
    | pending other =>
      by_cases same : other = instanceId
      · subst same
        simp [holds, move]
      · rw [move_there (by simp) (by simpa using same)]
        simp only [holds, Function.update_of_ne same]
    | handed index => exact (move_there (by simp) (by simp)).symm

theorem deliver_moves (s : Serving C) (message : Message C) :
    s.Moves
      { s with
        node := (s.node.handleMessage message).after
        registered := s.registered ++ s.registers (.deliver message) }
      (s.acked (.deliver message)) := by
  obtain ⟨senderId, paxosInstance, msg⟩ := message
  cases msg with
  | requestCommandToLeader command forwardId =>
    simp only [registers, acked, MultiPaxosNode.handleMessage]
    cases leads : s.node.isLeader with
    | true => exact request_moves leads senderId command forwardId
    | false =>
      have dropped : s.node.handleRequest senderId command forwardId =
          { result := .ok [], after := s.node, trace := [] } := by
        simp [MultiPaxosNode.handleRequest, leads]
      rw [dropped]
      exact .still rfl (List.append_nil _) rfl rfl rfl
  | forwardAck forwardId instanceId =>
    simp only [registers, acked, MultiPaxosNode.handleMessage, List.append_nil]
    exact s.ack_moves forwardId instanceId
  | prepareMsg _ | acceptMsg _ | learnMsg _ | promiseMsg _ | ackAcceptMsg _ | nackPrepareMsg _
  | nackAcceptMsg _ | learnedCommand _ =>
    exact (handleSynod_quiet s.node paxosInstance (by trivial)).moves

theorem step_moves {s t : Serving C} {a : Action C} (next : s.step a = some t) :
    s.Moves t (s.acked a) := by
  cases a with
  | propose command =>
    obtain rfl := Option.some.inj next
    exact s.propose_moves command
  | deliver message =>
    obtain rfl := Option.some.inj next
    exact s.deliver_moves message
  | consume =>
    simp only [step, MultiPaxosNode.getCommitId] at next
    split at next
    next command sender node found =>
      split at found
      next => simp at found
      next command' known =>
        simp only [Prod.mk.injEq, Option.some.injEq] at found
        obtain ⟨⟨rfl, rfl⟩, rfl⟩ := found
        obtain rfl := Option.some.inj next
        have learned : s.node.paxosInstances s.lastApplied ≠ none := fun absent => by
          simp [absent] at known
        cases held : s.node.pendingSenders s.lastApplied with
        | none =>
          refine .skip learned held ?_ rfl rfl rfl rfl
          funext place
          cases place with
          | forwarded forwardId => rfl
          | pending instanceId =>
            by_cases same : instanceId = s.lastApplied
            · subst same
              simp [holds, held]
            · simp [holds, same]
          | handed index => simp [holds]
        | some sender =>
          refine .take sender learned held ?_ rfl rfl rfl rfl
          funext place
          cases place with
          | forwarded forwardId => exact (move_there (by simp) (by simp)).symm
          | pending instanceId =>
            by_cases same : instanceId = s.lastApplied
            · subst same
              rw [move_source (by simp)]
              simp [holds]
            · rw [move_there (by simpa using same) (by simp)]
              simp [holds, same]
          | handed index =>
            by_cases same : index = s.handed.length
            · subst same
              simp [holds, move]
            · rw [move_there (by simp) (by simpa using same)]
              rcases Nat.lt_or_gt_of_ne same with below | above
              · simp [holds, List.getElem?_append_left below]
              · have beyond : s.handed.length < index := above
                simp [holds, beyond, Nat.le_of_lt beyond]
    next => simp at next

end Steps

theorem Sound.unregistered {s : Serving C} (sound : s.Sound) {sender : Oneshot C}
    (serial : sender.serial = s.node.channels) : sender ∉ s.registered := fun member =>
  Nat.lt_irrefl _ (serial ▸ sound.serials sender member)

theorem Moves.sound {s t : Serving C} {acked : Option Nat} (moves : s.Moves t acked)
    (sound : s.Sound) : t.Sound := by
  have grown {sender : Oneshot C} (serial : sender.serial = s.node.channels)
      (registered : t.registered = s.registered ++ [sender])
      (channels : t.node.channels = s.node.channels + 1) :
      ∀ sender ∈ t.registered, sender.serial < t.node.channels := by
    intro held member
    rw [channels]
    rw [registered] at member
    rcases List.mem_append.mp member with member | member
    · exact Nat.lt_succ_of_lt (sound.serials held member)
    · obtain rfl := List.mem_singleton.mp member
      exact serial ▸ Nat.lt_succ_self _
  cases moves with
  | still holds registered lastApplied channels labels
  | skip learned missing holds registered lastApplied channels labels =>
    refine ⟨by rw [holds, registered]; exact sound.known, by
      rw [registered, channels]; exact sound.serials, fun forwardId waits => ?_⟩
    rw [labels]
    exact sound.labels forwardId (congrFun holds (.forwarded forwardId) ▸ waits)
  | forward sender serial holds registered lastApplied channels labels =>
    refine ⟨by rw [holds, registered]; exact sound.known.put, grown serial registered channels,
      fun forwardId waits => ?_⟩
    rw [labels]
    by_cases same : forwardId = s.node.nextForwardId
    · omega
    · have kept := congrFun holds (.forwarded forwardId)
      rw [put_there (by simpa using same)] at kept
      exact Nat.lt_succ_of_lt (sound.labels forwardId (kept ▸ waits))
  | start sender serial opens holds registered lastApplied channels labels =>
    refine ⟨by rw [holds, registered]; exact sound.known.put, grown serial registered channels,
      fun forwardId waits => ?_⟩
    rw [labels]
    have kept := congrFun holds (.forwarded forwardId)
    rw [put_there (by simp)] at kept
    exact sound.labels forwardId (kept ▸ waits)
  | ack sender forwardId instanceId found holds registered lastApplied channels labels =>
    refine ⟨by rw [holds, registered]; exact sound.known.move found, by
      rw [registered, channels]; exact sound.serials, fun other waits => ?_⟩
    rw [labels]
    have kept := congrFun holds (.forwarded other)
    by_cases same : other = forwardId
    · subst same
      rw [move_source (by simp)] at kept
      exact absurd kept waits
    · rw [move_there (by simpa using same) (by simp)] at kept
      exact sound.labels other (kept ▸ waits)
  | take sender learned found holds registered lastApplied channels labels =>
    refine ⟨by rw [holds, registered]; exact sound.known.move found, by
      rw [registered, channels]; exact sound.serials, fun other waits => ?_⟩
    rw [labels]
    have kept := congrFun holds (.forwarded other)
    rw [move_there (by simp) (by simp)] at kept
    exact sound.labels other (kept ▸ waits)

theorem Unlost.placed_iff {s t : Serving C} {instanceId : Nat} (unlost : s.Unlost)
    (kept : Kept t.holds t.registered ↔ s.holds (.pending instanceId) = none)
    (here : t.holds (.pending instanceId) ≠ none)
    (there : ∀ other, other ≠ instanceId → t.holds (.pending other) = s.holds (.pending other))
    (lastApplied : t.lastApplied = s.lastApplied) : t.Unlost ↔ s.Clear instanceId := by
  constructor
  · intro unlost'
    exact ⟨lastApplied ▸ unlost'.ahead instanceId here, kept.mp unlost'.kept⟩
  · rintro ⟨reached, free⟩
    refine ⟨kept.mpr free, fun other waits => ?_⟩
    rw [lastApplied]
    by_cases same : other = instanceId
    · exact same ▸ reached
    · have waited : s.holds (.pending other) ≠ none := there other same ▸ waits
      exact unlost.ahead other waited

theorem Moves.unlost_iff {s t : Serving C} {acked : Option Nat} (moves : s.Moves t acked)
    (sound : s.Sound) (numbered : s.Numbered) (unlost : s.Unlost) :
    t.Unlost ↔ ∀ instanceId ∈ acked, s.Clear instanceId := by
  have ahead (instanceId : Nat) (waits : s.holds (.pending instanceId) ≠ none) :
      s.lastApplied ≤ instanceId := unlost.ahead instanceId waits
  cases moves with
  | still holds registered lastApplied channels labels =>
    refine iff_of_true ⟨by rw [holds, registered]; exact unlost.kept, fun instanceId waits => ?_⟩
      (by simp)
    rw [lastApplied]
    exact ahead instanceId (congrFun holds (.pending instanceId) ▸ waits)
  | skip learned missing holds registered lastApplied channels labels =>
    refine iff_of_true ⟨by rw [holds, registered]; exact unlost.kept, fun instanceId waits => ?_⟩
      (by simp)
    have waits : s.holds (.pending instanceId) ≠ none :=
      congrFun holds (.pending instanceId) ▸ waits
    have differs : instanceId ≠ s.lastApplied := fun same => waits (same ▸ missing)
    have reached := ahead instanceId waits
    omega
  | forward sender serial holds registered lastApplied channels labels =>
    have free : s.holds (.forwarded s.node.nextForwardId) = none := by
      by_contra taken
      exact Nat.lt_irrefl _ (sound.labels _ taken)
    refine iff_of_true ⟨?_, fun instanceId waits => ?_⟩ (by simp)
    · rw [holds, registered]
      exact (unlost.kept.put_iff _ sound.known (sound.unregistered serial)).mpr free
    · have same := congrFun holds (.pending instanceId)
      rw [put_there (by simp)] at same
      rw [lastApplied]
      exact ahead instanceId (same ▸ waits)
  | start sender serial opens holds registered lastApplied channels labels =>
    have kept := unlost.kept.put_iff (.pending s.node.nextInstanceId) sound.known
      (sound.unregistered serial)
    rw [← holds, ← registered] at kept
    have clear : s.Clear s.node.nextInstanceId := by
      refine ⟨numbered.reached, ?_⟩
      by_contra waits
      exact Nat.lt_irrefl _ (numbered.waiting _ waits)
    refine iff_of_true ((unlost.placed_iff kept ?_ (fun other differs => ?_) lastApplied).mpr clear)
      (by simp)
    · rw [holds, put_here]
      simp
    · rw [holds, put_there (by simpa using differs)]
  | ack sender forwardId instanceId found holds registered lastApplied channels labels =>
    have kept := unlost.kept.move_iff (.pending instanceId) sound.known found (by simp)
    rw [← holds, ← registered] at kept
    simp only [Option.mem_def, Option.some.injEq, forall_eq']
    refine unlost.placed_iff kept ?_ (fun other differs => ?_) lastApplied
    · rw [holds, move, put_here]
      simp
    · rw [holds, move_there (by simp) (by simpa using differs)]
  | take sender learned found holds registered lastApplied channels labels =>
    refine iff_of_true ⟨?_, fun instanceId waits => ?_⟩ (by simp)
    · rw [holds, registered]
      refine (unlost.kept.move_iff _ sound.known found (by simp)).mpr ?_
      simp [Serving.holds]
    · have there := congrFun holds (.pending instanceId)
      by_cases same : instanceId = s.lastApplied
      · subst same
        rw [move_source (by simp)] at there
        exact absurd there waits
      · rw [move_there (by simpa using same) (by simp)] at there
        have reached := ahead instanceId (there ▸ waits)
        omega

section Runs

variable [DecidableEq C] [Serde Nat] [Serde (AcceptedValue C)]

omit [DecidableEq C] in
theorem Begins.unlost {config : SmrConfig} {s : Serving C} (begins : Begins config s) :
    s.Sound ∧ s.Unlost := by
  have empty : s.registered = [] ∧ s.handed = [] ∧
      s.node.pendingSenders = (fun _ => none) ∧ s.node.forwardedSenders = fun _ => none := by
    cases begins with
    | new => exact ⟨rfl, rfl, rfl, rfl⟩
    | withStorage lastApplied built =>
      obtain ⟨-, pending, forwarded, -⟩ := MultiPaxosNode.withStorage_forgets built
      exact ⟨rfl, rfl, pending, forwarded⟩
  obtain ⟨registered, handed, pending, forwarded⟩ := empty
  have nowhere (place : Place) : s.holds place = none := by
    cases place <;> simp [holds, handed, pending, forwarded]
  exact ⟨⟨fun place sender there => by simp [nowhere] at there, by simp [registered],
    by simp [nowhere]⟩, ⟨by simp [Kept, registered], by simp [pending]⟩⟩

omit [DecidableEq C] in
theorem Begins.numbered {config : SmrConfig} {s : Serving C} (begins : Begins config s)
    (reached : s.lastApplied ≤ s.node.nextInstanceId) : s.Numbered := by
  cases begins with
  | new => exact ⟨by simp [MultiPaxosNode.new], by simp [MultiPaxosNode.new], reached⟩
  | withStorage lastApplied built =>
    obtain ⟨-, pending, -⟩ := MultiPaxosNode.withStorage_forgets built
    exact ⟨MultiPaxosNode.withStorage_below built, by simp [pending], reached⟩

theorem step_alters {s t : Serving C} {a : Action C} (next : s.step a = some t) :
    s.node.Alters t.node := by
  cases a with
  | propose command =>
    obtain rfl := Option.some.inj next
    exact s.node.propose_alters command
  | deliver message =>
    obtain rfl := Option.some.inj next
    exact s.node.handleMessage_alters message
  | consume =>
    simp only [step] at next
    split at next
    next command sender node found =>
      obtain rfl := Option.some.inj next
      have alters := s.node.getCommitId_alters s.lastApplied
      rwa [found] at alters
    next => simp at next

theorem Numbered.step {s t : Serving C} {a : Action C} (numbered : s.Numbered)
    (careful : s.Careful a) (next : s.step a = some t) : t.Numbered := by
  obtain ⟨-, -, grows, -, instances, -⟩ := (step_alters next).frame
  have waited {instanceId : Nat} (waits : s.holds (.pending instanceId) ≠ none) :
      instanceId < t.node.nextInstanceId :=
    Nat.lt_of_lt_of_le (numbered.waiting instanceId waits) grows
  have moves := step_moves next
  unfold Careful at careful
  generalize s.acked a = acked at moves careful
  refine ⟨fun instanceId present => ?_, fun instanceId waits => ?_, ?_⟩
  · rcases instances instanceId present with earlier | above
    · exact Nat.lt_of_lt_of_le (numbered.below instanceId earlier) grows
    · exact above
  · have here : t.holds (.pending instanceId) ≠ none := waits
    cases moves with
    | still holds | skip _ _ holds =>
      rw [holds] at here
      exact waited here
    | forward _ _ holds =>
      rw [holds, put_there (by simp)] at here
      exact waited here
    | start _ _ opens holds =>
      by_cases same : instanceId = s.node.nextInstanceId
      · exact same ▸ opens
      · rw [holds, put_there (by simpa using same)] at here
        exact waited here
    | ack _ _ acked _ holds =>
      by_cases same : instanceId = acked
      · exact same ▸ Nat.lt_of_lt_of_le (careful acked rfl).2 grows
      · rw [holds, move_there (by simp) (by simpa using same)] at here
        exact waited here
    | take _ _ _ holds =>
      by_cases same : instanceId = s.lastApplied
      · subst same
        rw [holds, move_source (by simp)] at here
        exact absurd rfl here
      · rw [holds, move_there (by simpa using same) (by simp)] at here
        exact waited here
  · have reached := numbered.reached
    cases moves with
    | still _ _ lastApplied | forward _ _ _ _ lastApplied | start _ _ _ _ _ lastApplied
    | ack _ _ _ _ _ _ lastApplied =>
      rw [lastApplied]
      exact Nat.le_trans reached grows
    | take _ learned _ _ _ lastApplied | skip learned _ _ _ lastApplied =>
      rw [lastApplied]
      exact Nat.le_trans (numbered.below _ learned) grows

theorem unlost_steps {config : SmrConfig} {s t : Serving C} (begins : Begins config s)
    (reached : s.lastApplied ≤ s.node.nextInstanceId)
    (steps : (system config).Steps Careful s t) : t.Sound ∧ t.Numbered ∧ t.Unlost := by
  induction steps with
  | refl =>
    obtain ⟨sound, unlost⟩ := begins.unlost
    exact ⟨sound, begins.numbered reached, unlost⟩
  | tail _ last ih =>
    obtain ⟨a, careful, next⟩ := last
    obtain ⟨sound, numbered, unlost⟩ := ih
    have moves := step_moves next
    refine ⟨moves.sound sound, numbered.step careful next,
      (moves.unlost_iff sound numbered unlost).mpr fun instanceId acked => ?_⟩
    exact (careful instanceId acked).1

theorem senders_kept {config : SmrConfig} {s t : Serving C} (begins : Begins config s)
    (reached : s.lastApplied ≤ s.node.nextInstanceId)
    (steps : (system config).Steps Careful s t) :
    t.Unlost ∧ ∀ a u, t.step a = some u →
      (u.Unlost ↔ ∀ instanceId ∈ t.acked a, t.Clear instanceId) := by
  obtain ⟨sound, numbered, unlost⟩ := unlost_steps begins reached steps
  exact ⟨unlost, fun a u next => (step_moves next).unlost_iff sound numbered unlost⟩

end Runs

def oneOfThree : SmrConfig :=
  { nodeId := 1, totalNodes := 3 }

def started : Serving Nat :=
  { node := .new oneOfThree, lastApplied := 0, registered := [], handed := [] }

def learning (sender instanceId command : Nat) : Action Nat :=
  .deliver
    { senderId := sender, paxosInstance := instanceId
      msg := .learnMsg { sender := sender, ballot := 3 + sender, command := command } }

def acking (sender forwardId instanceId : Nat) : Action Nat :=
  .deliver
    { senderId := sender, paxosInstance := instanceId, msg := .forwardAck forwardId instanceId }

def accepting (sender instanceId command : Nat) : Action Nat :=
  .deliver
    { senderId := sender, paxosInstance := instanceId
      msg := .acceptMsg { sender := sender, ballot := 3 + sender, command := command } }

def served (actions : List (Action Nat)) : Serving Nat :=
  Run.System.final step Careful started actions

theorem served_steps {actions : List (Action Nat)}
    (runs : (Run.System.exec step Careful started actions).isSome) :
    (system oneOfThree).Steps Careful started (served actions) :=
  Run.System.final_steps (fun _ _ _ next => next) runs

def answeredRun : List (Action Nat) :=
  [learning 0 0 7, .consume, .propose 9, accepting 0 1 9, acking 0 0 1, learning 0 1 9, .consume]

theorem senders_kept_answered :
    (served answeredRun).Unlost ∧
    (served answeredRun).handed = [{ serial := 0, command := 9, forwardId := some 0 }] :=
  ⟨(senders_kept .new (Nat.le_refl _) (served_steps (by decide +kernel))).1, by decide +kernel⟩

-- The Learn of the instance overtakes the ack.
def overtaken : Serving Nat :=
  served [learning 0 0 7, .consume, .propose 9, learning 0 1 9, .consume]

-- The leader takes an instance in which the node has proposed a command of its own.
def contested : Serving Nat :=
  served [accepting 2 0 7, .propose 8, learning 2 0 7, .propose 9]

theorem lost_by {s t : Serving Nat} {a : Action Nat}
    (steps : (system oneOfThree).Steps Careful started s) (next : s.step a = some t)
    (careless : ¬∀ instanceId ∈ s.acked a, s.Clear instanceId) :
    (system oneOfThree).Reachable (fun _ _ => True) t ∧ ¬t.Unlost := by
  obtain ⟨sound, numbered, unlost⟩ := unlost_steps .new (Nat.le_refl _) steps
  have begins : (system oneOfThree).Reachable (fun _ _ => True) started := .init Begins.new
  have reachable := begins.steps (steps.mono fun _ _ _ => trivial)
  refine ⟨.step (a := a) reachable trivial next, fun kept => careless ?_⟩
  exact ((step_moves next).unlost_iff sound numbered unlost).mp kept

theorem senders_lost :
    (∃ t, overtaken.step (acking 0 0 1) = some t ∧
      (system oneOfThree).Reachable (fun _ _ => True) t ∧ ¬t.Unlost ∧
      (t.node.pendingSenders 1).map Oneshot.command = some 9 ∧ t.lastApplied = 2) ∧
    ∃ t, contested.step (acking 2 0 1) = some t ∧
      (system oneOfThree).Reachable (fun _ _ => True) t ∧ ¬t.Unlost ∧
      t.registered.map Oneshot.command = [8, 9] ∧
      (t.node.pendingSenders 1).map Oneshot.command = some 9 := by
  constructor
  · obtain ⟨t, next⟩ := Option.isSome_iff_exists.mp
      (by decide +kernel : (overtaken.step (acking 0 0 1)).isSome)
    have ends : ((overtaken.step (acking 0 0 1)).map fun t =>
        ((t.node.pendingSenders 1).map Oneshot.command, t.lastApplied)) = some (some 9, 2) := by
      decide +kernel
    rw [next, Option.map_some, Option.some.injEq, Prod.mk.injEq] at ends
    obtain ⟨reached, lost⟩ :=
      lost_by (served_steps (by decide +kernel)) next (by decide +kernel)
    exact ⟨t, next, reached, lost, ends⟩
  · obtain ⟨t, next⟩ := Option.isSome_iff_exists.mp
      (by decide +kernel : (contested.step (acking 2 0 1)).isSome)
    have ends : ((contested.step (acking 2 0 1)).map fun t =>
        (t.registered.map Oneshot.command, (t.node.pendingSenders 1).map Oneshot.command)) =
          some ([8, 9], some 9) := by
      decide +kernel
    rw [next, Option.map_some, Option.some.injEq, Prod.mk.injEq] at ends
    obtain ⟨reached, lost⟩ :=
      lost_by (served_steps (by decide +kernel)) next (by decide +kernel)
    exact ⟨t, next, reached, lost, ends⟩

end Serving

end Smr
