import Smr.Cluster.Cluster

set_option autoImplicit false

namespace Smr

variable {C : Type}

namespace Cluster

-- What a call that returned leaves behind: p is now `node`, it has sent `msgs`, and
-- `heard` holds the message it was called with, if it was called with one.
def called (s : Cluster C) (p : Nat) (node : MultiPaxosNode C) (msgs : List (Message C))
    (trace : List (TraceEvent C)) (heard : List (Nat × Nat)) (calls : List (Nat × C))
    (placed : List (Placement C)) : Cluster C :=
  { nodes := Function.update s.nodes p node
    sent := s.sent ++ msgs
    delivered := heard ++ s.delivered
    trace := s.trace ++ trace
    calls := s.calls ++ calls
    placed := s.placed ++ placed }

theorem called_each {total p : Nat} {s : Cluster C} {node : MultiPaxosNode C}
    {msgs : List (Message C)} {trace : List (TraceEvent C)} {heard : List (Nat × Nat)}
    {calls : List (Nat × C)} {placed : List (Placement C)}
    (good : Nat → MultiPaxosNode C → Prop) (here : good p node)
    (others : ∀ q < total, q ≠ p → good q (s.nodes q)) (q : Nat) (inside : q < total) :
    good q ((s.called p node msgs trace heard calls placed).nodes q) := by
  by_cases same : q = p
  · subst same
    simpa [called] using here
  · simpa [called, same] using others q inside same

variable [DecidableEq C] [Serde Nat] [Serde (AcceptedValue C)]

inductive Moves (total : Nat) (s : Cluster C) : Action C → Cluster C → Prop where
  | forward {p : Nat} {cmd : C} (member : p < total) (forwards : (s.nodes p).forwards = true) :
      Moves total s (.propose p cmd)
        (s.called p ((s.nodes p).afterForward cmd)
          [(s.nodes p).broadcast 0 (.requestCommandToLeader cmd (s.nodes p).nextForwardId)] [] []
          [(p, cmd)] [])
  | start {p : Nat} {cmd : C} {msgs : List (Message C)} {after : MultiPaxosNode C}
      {events : List (TraceEvent C)} (member : p < total)
      (stays : (s.nodes p).forwards = false) (starts : (s.nodes p).Starts cmd msgs after events) :
      Moves total s (.propose p cmd)
        (s.called p after msgs events [] [(p, cmd)]
          [⟨p, (s.nodes p).nextInstanceId, cmd, none⟩])
  | dropped {p k sender instanceId forwardId : Nat} {cmd : C} (member : p < total)
      (other : sender ≠ p)
      (arrived : s.sent[k]? = some ⟨sender, instanceId, .requestCommandToLeader cmd forwardId⟩)
      (unled : (s.nodes p).leaderBallot = none) :
      Moves total s (.deliver p k) (s.called p (s.nodes p) [] [] [(k, p)] [] [])
  | taken {p k sender instanceId forwardId : Nat} {cmd : C} {msgs : List (Message C)}
      {after : MultiPaxosNode C} {events : List (TraceEvent C)} (member : p < total)
      (other : sender ≠ p)
      (arrived : s.sent[k]? = some ⟨sender, instanceId, .requestCommandToLeader cmd forwardId⟩)
      (leads : (s.nodes p).isLeader = true) (starts : (s.nodes p).Starts cmd msgs after events) :
      Moves total s (.deliver p k)
        (s.called p (after.afterRequest (s.nodes p).nextInstanceId sender forwardId)
          (msgs ++ [(s.nodes p).broadcast (s.nodes p).nextInstanceId
            (.forwardAck forwardId (s.nodes p).nextInstanceId)])
          events [(k, p)] []
          [⟨p, (s.nodes p).nextInstanceId, cmd, some (sender, forwardId)⟩])
  | acked {p k sender forwardId paxosInstance instanceId : Nat} (member : p < total)
      (other : sender ≠ p)
      (arrived : s.sent[k]? = some ⟨sender, paxosInstance, .forwardAck forwardId instanceId⟩) :
      Moves total s (.deliver p k)
        (s.called p ((s.nodes p).handleForwardAck forwardId instanceId) [] [] [(k, p)] [] [])
  | synod {p k : Nat} {m : Message C} {responses : List (MessageKind C)}
      {after : PaxosInstance C} {kept : Option (PaxosStorage C)} {events : List (TraceEvent C)}
      (member : p < total) (other : m.senderId ≠ p) (arrived : s.sent[k]? = some m)
      (synod : m.msg.IsSynod)
      (bounded : (s.nodes p).nextInstanceId ≤ m.paxosInstance → m.paxosInstance + 1 ≤ u64Max)
      (several : (s.nodes p).paxosInstances m.paxosInstance = none →
        2 ≤ (s.nodes p).config.quorum)
      (cascade : ((s.nodes p).instanceAt m.paxosInstance).Cascade (s.nodes p).storage m.msg
        responses after kept events) :
      Moves total s (.deliver p k)
        (s.called p
          ((s.nodes p).afterSynod m.paxosInstance m.msg responses.head? after kept)
          (responses.map ((s.nodes p).broadcast m.paxosInstance)) events [(k, p)] [] [])
  | asked {p instanceId : Nat} (member : p < total) :
      Moves total s (.getCommitId p instanceId)
        (s.called p ((s.nodes p).getCommitId instanceId).2 [] [] [] [] [])
  | crashed {p : Nat} {storage : PaxosStorage C} {node : MultiPaxosNode C} (member : p < total)
      (stored : (s.nodes p).storage = some storage)
      (built : MultiPaxosNode.withStorage (s.nodes p).config storage = .ok node) :
      Moves total s (.crash p) (s.called p node [] [] [] [] [])

theorem propose_moves {total p : Nat} {s t : Cluster C} {cmd : C}
    (next : step total s (.propose p cmd) = some t) : Moves total s (.propose p cmd) t := by
  simp only [step] at next
  split at next
  next member =>
    split at next
    next msgs sender returned =>
      have proposes := MultiPaxosNode.propose_ok returned
      simp only [Option.some.injEq] at next
      subst next
      generalize ((s.nodes p).propose cmd).after = after,
        ((s.nodes p).propose cmd).trace = events at proposes
      cases proposes with
      | forward forwards =>
        have moves : Moves total s (.propose p cmd) _ := .forward member forwards
        simpa [called, record, placement, forwards] using moves
      | start stays starts =>
        have moves := Moves.start (s := s) member stays starts
        simpa [called, record, placement, stays] using moves
    next => simp at next
  next => simp at next

theorem deliver_moves {total p k : Nat} {s t : Cluster C}
    (next : step total s (.deliver p k) = some t) : Moves total s (.deliver p k) t := by
  simp only [step] at next
  split at next
  next => simp at next
  next m arrived =>
    split at next
    next allowed =>
      obtain ⟨member, other⟩ := allowed
      split at next
      next msgs returned =>
        have answers := MultiPaxosNode.handleMessage_ok returned
        simp only [Option.some.injEq] at next
        subst next
        generalize ((s.nodes p).handleMessage m).after = after,
          ((s.nodes p).handleMessage m).trace = events at answers
        cases answers with
        | dropped senderId instanceId forwardId cmd unled =>
          have moves := Moves.dropped member other arrived unled
          simpa [called, record, placement, arrived, MultiPaxosNode.isLeader, unled] using moves
        | taken senderId instanceId forwardId cmd leads starts =>
          have moves := Moves.taken member other arrived leads starts
          simpa [called, record, placement, arrived, leads] using moves
        | acked senderId paxosInstance forwardId instanceId =>
          have moves := Moves.acked member other arrived
          simpa [called, record, placement, arrived] using moves
        | synod m synod responses after kept events bounded several cascade =>
          have moves := Moves.synod member other arrived synod bounded several cascade
          have unplaced : s.placement (.deliver p k) = none := by
            obtain ⟨senderId, instanceId, message⟩ := m
            cases message with
            | requestCommandToLeader cmd forwardId => exact synod.elim
            | _ => simp [placement, arrived]
          simpa [called, record, unplaced] using moves
      next => simp at next
    next => simp at next

theorem getCommitId_moves {total p instanceId : Nat} {s t : Cluster C}
    (next : step total s (.getCommitId p instanceId) = some t) :
    Moves total s (.getCommitId p instanceId) t := by
  simp only [step] at next
  split at next
  next member =>
    have moves : Moves total s (.getCommitId p instanceId) _ := .asked member
    simpa [called, ← Option.some.inj next] using moves
  next => simp at next

theorem crash_moves {total p : Nat} {s t : Cluster C}
    (next : step total s (.crash p) = some t) : Moves total s (.crash p) t := by
  simp only [step] at next
  split at next
  next member =>
    split at next
    next => simp at next
    next storage stored =>
      split at next
      next node built =>
        have moves := Moves.crashed member stored built
        simpa [called, ← Option.some.inj next] using moves
      next => simp at next
  next => simp at next

theorem step_moves {total : Nat} {s t : Cluster C} {a : Action C} (next : step total s a = some t) :
    Moves total s a t := by
  cases a with
  | propose p cmd => exact propose_moves next
  | deliver p k => exact deliver_moves next
  | getCommitId p instanceId => exact getCommitId_moves next
  | crash p => exact crash_moves next

theorem step_placed {total : Nat} {s t : Cluster C} {a : Action C}
    (next : step total s a = some t) : t.placed = s.placed ++ (s.placement a).toList := by
  cases a with
  | propose p cmd =>
    simp only [step] at next
    split at next <;> try split at next
    all_goals simp at next
    subst next
    rfl
  | deliver p k =>
    simp only [step] at next
    split at next <;> try (split at next <;> try split at next)
    all_goals simp at next
    subst next
    rfl
  | getCommitId p id =>
    simp only [step] at next
    split at next
    all_goals simp at next
    subst next
    simp [placement]
  | crash p =>
    simp only [step] at next
    split at next <;> try (split at next <;> try split at next)
    all_goals simp at next
    subst next
    simp [placement]

end Cluster

end Smr
