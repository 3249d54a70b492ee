import Smr.Cluster.Agreement
import Smr.Synod.Adoption

set_option autoImplicit false

namespace Smr

variable {C : Type}

namespace MultiPaxosNode

def overtakenBy (self : MultiPaxosNode C) (m : Message C) : Option Nat :=
  match m.msg, self.leaderBallot with
  | .acceptMsg a, some b =>
    if b < a.ballot ∧ (self.instanceAt m.paxosInstance).acceptor.maxBallot ≤ a.ballot then
      some a.ballot
    else none
  | _, _ => none

def wonBallot (self : MultiPaxosNode C) (m : Message C) : Option Nat :=
  match m.msg, (self.instanceAt m.paxosInstance).proposer.innerState with
  | .ackAcceptMsg ack, .accepting wrapper =>
    if ack.ballot = wrapper.ballot ∧ wrapper.quorumSize ≤ wrapper.state.accepts + 1 then
      some wrapper.ballot
    else none
  | _, _ => none

theorem leaderAfter_promise {node : MultiPaxosNode C} {m : Promise C} {asked : Prepare}
    {ballot : Nat}
    (leads : node.leaderAfter (some (.promiseMsg m)) (.prepareMsg asked) = some ballot) :
    node.leaderBallot = some ballot ∧ m.ballot ≤ ballot := by
  simpa [leaderAfter, Option.filter_eq_some_iff] using leads

variable [DecidableEq C] [Serde Nat] [Serde (AcceptedValue C)]

theorem Starts.keeps {node after : MultiPaxosNode C} {cmd : C} {msgs : List (Message C)}
    {events : List (TraceEvent C)} {total p : Nat} (sound : Sound total p node)
    (starts : node.Starts cmd msgs after events) :
    after.leaderBallot = node.leaderBallot ∧
      ∀ event ∈ events, ∀ q, event.adopted q = none := by
  cases starts with
  | intro first inst result responses kept events bounded several opens cascade =>
    refine ⟨rfl, fun event happened q => ?_⟩
    have configured := (opens.launched sound.toKept).1
    rcases List.mem_append.mp happened with opening | later
    · unfold firstTrace at opening
      split at opening <;> simp at opening
      all_goals
        subst opening
        rfl
    · refine Option.eq_none_iff_forall_ne_some.mpr fun ballot adopts => ?_
      obtain ⟨rfl, foreign, -⟩ := cascade.adopts configured later adopts
      refine foreign ?_
      cases opens <;> exact congrArg some sound.id

end MultiPaxosNode

namespace Cluster

def adopted (s : Cluster C) (p : Nat) : List Nat :=
  s.trace.filterMap (·.adopted p)

def StaysBelow (s : Cluster C) : Action C → Prop
  | .deliver p k => ∀ m ∈ s.sent[k]?, (s.nodes p).overtakenBy m = none
  | _ => True

def WinsInTime (s : Cluster C) : Action C → Prop
  | .deliver p k => ∀ m ∈ s.sent[k]?, ∀ won ∈ (s.nodes p).wonBallot m,
    ∀ ballot ∈ s.adopted p, ballot ≤ won
  | _ => True

instance (s : Cluster C) : (a : Action C) → Decidable (s.StaysBelow a)
  | .deliver p k => inferInstanceAs (Decidable (∀ m ∈ s.sent[k]?, (s.nodes p).overtakenBy m = none))
  | .propose _ _ | .getCommitId _ _ | .crash _ => .isTrue trivial

instance (s : Cluster C) : (a : Action C) → Decidable (s.WinsInTime a)
  | .deliver p k => inferInstanceAs (Decidable (∀ m ∈ s.sent[k]?,
      ∀ won ∈ (s.nodes p).wonBallot m, ∀ ballot ∈ s.adopted p, ballot ≤ won))
  | .propose _ _ | .getCommitId _ _ | .crash _ => .isTrue trivial

variable [DecidableEq C] [Serde (AcceptedValue C)]

section Reached

variable [Serde Nat]

def Unovertaken (s : Cluster C) (p : Nat) (node : MultiPaxosNode C) : Prop :=
  ∀ b, node.leaderBallot = some b → ∀ ballot ∈ s.adopted p, ballot ≤ b

omit [DecidableEq C] [Serde (AcceptedValue C)] [Serde Nat] in
theorem Unovertaken.same {s : Cluster C} {p q : Nat} {node after : MultiPaxosNode C}
    {acting : MultiPaxosNode C} {msgs : List (Message C)} {trace : List (TraceEvent C)}
    {heard : List (Nat × Nat)} {calls : List (Nat × C)} {placed : List (Placement C)}
    (before : Unovertaken s q node) (leads : after.leaderBallot = node.leaderBallot)
    (own : ∀ event ∈ trace, event.adopted q = none) :
    Unovertaken (s.called p acting msgs trace heard calls placed) q after := by
  intro b leading ballot adopts
  obtain ⟨event, happened, adopts⟩ := List.mem_filterMap.mp adopts
  rcases List.mem_append.mp happened with old | new
  · exact before b (leads ▸ leading) ballot (List.mem_filterMap.mpr ⟨event, old, adopts⟩)
  · rw [own event new] at adopts
    simp at adopts

-- The three places a message can change the leader's standing: the promise clears it, an
-- accept above it is ruled out, and a late win is not below what was adopted.
theorem Unovertaken.synod {p id quorumSize totalNodes : Nat} {s : Cluster C} {m : Message C}
    {responses : List (MessageKind C)} {after : PaxosInstance C}
    {storage kept : Option (PaxosStorage C)}
    {events : List (TraceEvent C)} (before : Unovertaken s p (s.nodes p))
    (calm : (s.nodes p).overtakenBy m = none)
    (late : ∀ won ∈ (s.nodes p).wonBallot m, ∀ ballot ∈ s.adopted p, ballot ≤ won)
    (configured : ((s.nodes p).instanceAt m.paxosInstance).Configured p quorumSize totalNodes id)
    (cascade : ((s.nodes p).instanceAt m.paxosInstance).Cascade storage m.msg responses after kept
      events) {b ballot : Nat}
    (leads : (s.nodes p).leaderAfter responses.head? m.msg = some b)
    (adopts : ballot ∈ s.adopted p ∨ ∃ event ∈ events, event.adopted p = some ballot) :
    ballot ≤ b := by
  rcases MultiPaxosNode.leaderAfter_cases leads with leading | ⟨learn, answer, won, notLearn⟩
  · rcases adopts with old | ⟨event, happened, adopts⟩
    · exact before b leading ballot old
    · obtain ⟨-, -, ⟨promise, answer, rfl, asked, same⟩ | ⟨a, same, rfl, current⟩⟩ :=
        cascade.adopts configured happened adopts
      · rw [answer, same] at leads
        exact (MultiPaxosNode.leaderAfter_promise leads).2
      · by_contra above
        simp only [MultiPaxosNode.overtakenBy, same, leading] at calm
        rw [if_pos ⟨Nat.lt_of_not_le above, current⟩] at calm
        simp at calm
  · obtain ⟨middle, saved, earlier, step⟩ := cascade.first
    rw [answer] at step
    rcases step.announces with ⟨heard, same, -⟩ | ⟨w, ack, state, same, reached, quorum, ends, -⟩
    · exact absurd same (notLearn heard)
    · rcases adopts with old | ⟨event, happened, adopts⟩
      · rw [← won, ends]
        refine late w.ballot ?_ ballot old
        simp [MultiPaxosNode.wonBallot, same, state, reached, quorum]
      · obtain ⟨-, -, ⟨-, -, -, asked, other⟩ | ⟨a, other, -⟩⟩ :=
          cascade.adopts configured happened adopts
        · simp [same] at other
        · simp [same] at other

theorem Unovertaken.step {rules : Synod.Rules} {total : Nat} {s t : Cluster C} {a : Action C}
    (refines : Refines rules total s) (before : ∀ p < total, Unovertaken s p (s.nodes p))
    (below : s.StaysBelow a) (inTime : s.WinsInTime a) (moves : Moves total s a t) :
    ∀ p < total, Unovertaken t p (t.nodes p) := by
  have becomes {p : Nat} {node : MultiPaxosNode C} {msgs : List (Message C)}
      {trace : List (TraceEvent C)} {heard : List (Nat × Nat)} {calls : List (Nat × C)}
      {placed : List (Placement C)}
      (here : Unovertaken (s.called p node msgs trace heard calls placed) p node)
      (own : ∀ event ∈ trace, ∀ q ≠ p, event.adopted q = none) :
      ∀ q < total, Unovertaken (s.called p node msgs trace heard calls placed) q
        ((s.called p node msgs trace heard calls placed).nodes q) :=
    called_each _ here fun q inside differs =>
      (before q inside).same rfl fun event happened => own event happened q differs
  cases moves with
  | @forward p cmd member forwards =>
    exact becomes ((before p member).same rfl (by simp)) (by simp)
  | @start p cmd msgs after events member stays starts =>
    obtain ⟨leads, own⟩ := starts.keeps (refines.sound p member)
    exact becomes ((before p member).same leads fun event happened => own event happened p)
      fun event happened q _ => own event happened q
  | @dropped p _ _ _ _ _ member =>
    exact becomes ((before p member).same rfl (by simp)) (by simp)
  | @taken p _ _ _ _ _ _ _ _ member other arrived leading starts =>
    obtain ⟨leads, own⟩ := starts.keeps (refines.sound p member)
    refine becomes ?_ fun event happened q _ => own event happened q
    exact (before p member).same leads fun event happened => own event happened p
  | @acked p _ _ forwardId _ instanceId member =>
    obtain ⟨forwarded, pending, whole⟩ :=
      (s.nodes p).handleForwardAck_frame forwardId instanceId
    exact becomes ((before p member).same (by rw [whole]) (by simp)) (by simp)
  | @synod p k m responses after kept events member other arrived synod bounded several cascade =>
    have configured := (refines.sound p member).instanceAt_configured m.paxosInstance
    refine becomes (fun b leads ballot adopts => ?_) fun event happened q differs => ?_
    · refine (before p member).synod (below m arrived) (inTime m arrived) configured cascade leads
        ?_
      simpa only [adopted, called, List.filterMap_append, List.mem_append, List.mem_filterMap]
        using adopts
    · refine Option.eq_none_iff_forall_ne_some.mpr fun ballot adopts => ?_
      exact differs (cascade.adopts configured happened adopts).1
  | @asked p instanceId member =>
    obtain ⟨pending, whole⟩ := (s.nodes p).getCommitId_frame instanceId
    exact becomes ((before p member).same (by rw [whole]) (by simp)) (by simp)
  | @crashed p storage node member stored built =>
    refine becomes (fun b leads => ?_) (by simp)
    rw [(MultiPaxosNode.withStorage_forgets built).1] at leads
    simp at leads

end Reached

def lowerRun : List (Action Nat) :=
  [.propose 2 1, .deliver 0 0, .deliver 2 2, .deliver 0 3, .deliver 2 5, .propose 0 2, .deliver 2 7]

def lower : Cluster Nat :=
  Run.System.final (step 3) (fun s a => s.StaysBelow a ∧ s.WinsInTime a) (boot 3) lowerRun

end Cluster

end Smr
