import Smr.Cluster.Agreement

set_option autoImplicit false

namespace Smr

variable {C : Type}

namespace MultiPaxosNode

def LosesLead (self : MultiPaxosNode C) (m : Message C) : Prop :=
  match self.leaderBallot, m.msg with
  | some lead, .prepareMsg p =>
    (self.instanceAt m.paxosInstance).acceptor.maxBallot < p.ballot ∧ lead < p.ballot
  | some lead, .nackAcceptMsg nack => lead < nack.maxBallot
  | _, _ => False

-- Whom a Learn makes the node take for the leader, winner or not.
def hearsOf (self : MultiPaxosNode C) (m : Message C) : Option Nat :=
  match m.msg with
  | .learnMsg learn => if learn.sender ≠ self.id then some learn.sender else none
  | _ => none

def StaysOpen (self : MultiPaxosNode C) (m : Message C) : Prop :=
  ((self.hearsOf m).isSome → self.leaderBallot.isSome) ∧
    (self.LosesLead m → self.knownLeaderId = none)

instance (self : MultiPaxosNode C) (m : Message C) : Decidable (self.LosesLead m) := by
  unfold LosesLead
  exact match self.leaderBallot, m.msg with
    | some _, .prepareMsg _ => inferInstanceAs (Decidable (_ ∧ _))
    | some _, .nackAcceptMsg _ => inferInstanceAs (Decidable (_ < _))
    | none, _ => .isFalse not_false
    | some _, .requestCommandToLeader _ _ | some _, .forwardAck _ _ | some _, .promiseMsg _
    | some _, .acceptMsg _ | some _, .ackAcceptMsg _ | some _, .nackPrepareMsg _
    | some _, .learnMsg _ | some _, .learnedCommand _ => .isFalse not_false

instance (self : MultiPaxosNode C) (m : Message C) : Decidable (self.StaysOpen m) := by
  unfold StaysOpen
  infer_instance

theorem forwards_eq_false {self : MultiPaxosNode C} :
    self.forwards = false ↔ self.leaderBallot ≠ none ∨ self.knownLeaderId = none := by
  cases lead : self.leaderBallot <;> cases known : self.knownLeaderId <;>
    simp [forwards, isLeader, lead, known]

theorem staysOpen_forwarding {self : MultiPaxosNode C} {m : Message C} (other : ¬m.msg.IsSynod) :
    self.StaysOpen m := by
  obtain ⟨sender, id, message⟩ := m
  cases message with
  | requestCommandToLeader | forwardAck =>
    cases lead : self.leaderBallot <;> simp [StaysOpen, hearsOf, LosesLead, lead]
  | _ => exact absurd trivial other

theorem LosesLead.leads {self : MultiPaxosNode C} {m : Message C} (loses : self.LosesLead m) :
    self.leaderBallot ≠ none ∧ self.hearsOf m = none := by
  unfold LosesLead at loses
  unfold hearsOf
  split at loses
  next lead p leads same => simp [leads, same]
  next lead nack leads same => simp [leads, same]
  next => exact loses.elim

theorem leaderAfter_nackAccept {self : MultiPaxosNode C} {sender id : Nat} {nack : NackAccept}
    {response : Option (MessageKind C)}
    (quiet : ∀ p, response = some p → ∃ asked, p = .prepareMsg asked) :
    self.leaderAfter response (.nackAcceptMsg nack) =
      if self.LosesLead ⟨sender, id, .nackAcceptMsg nack⟩ then none else self.leaderBallot := by
  have filtered : self.leaderAfter response (.nackAcceptMsg nack) =
      self.leaderBallot.filter (nack.maxBallot ≤ ·) := by
    cases response with
    | none => rfl
    | some response =>
      obtain ⟨asked, rfl⟩ := quiet response rfl
      rfl
  rw [filtered]
  cases lead : self.leaderBallot with
  | none => simp [LosesLead, lead]
  | some ballot =>
    by_cases less : ballot < nack.maxBallot <;>
      simp [LosesLead, lead, less, Option.filter, ← Nat.not_lt]

variable [DecidableEq C] [Serde Nat] [Serde (AcceptedValue C)]

theorem leadership_step {self : MultiPaxosNode C} {m : Message C}
    {storage kept : Option (PaxosStorage C)} {response : Option (MessageKind C)}
    {after : PaxosInstance C} {events : List (TraceEvent C)}
    (step : (self.instanceAt m.paxosInstance).Step storage m.msg response after kept events) :
    (∃ ballot, self.leaderAfter response m.msg = some ballot ∧
      self.knownLeaderAfter response m.msg = none ∧ ¬self.LosesLead m ∧ self.hearsOf m = none) ∨
    (self.leaderAfter response m.msg = if self.LosesLead m then none else self.leaderBallot) ∧
      self.knownLeaderAfter response m.msg = (self.hearsOf m).or self.knownLeaderId := by
  obtain ⟨sender, id, message⟩ := m
  dsimp only at step ⊢
  cases step with
  | promise p kept higher saved =>
    right
    cases lead : self.leaderBallot with
    | none => simp [leaderAfter, knownLeaderAfter, LosesLead, hearsOf, lead]
    | some ballot =>
      by_cases less : ballot < p.ballot <;>
        simp [leaderAfter, knownLeaderAfter, LosesLead, hearsOf, lead, higher, less, Option.filter,
          ← Nat.not_lt]
  | nackPrepare p lower =>
    right
    cases lead : self.leaderBallot <;>
      simp [leaderAfter, knownLeaderAfter, LosesLead, hearsOf, lead, Nat.not_lt.mpr lower]
  | ackAccept | nackAccept | ignored =>
    right
    cases lead : self.leaderBallot <;>
      simp [leaderAfter, knownLeaderAfter, LosesLead, hearsOf, lead]
  | learn learn learner reply heard =>
    right
    have echoed : (self.instanceAt id).echo learn = none ∨
        ∃ told, (self.instanceAt id).echo learn = some (.learnMsg told) := by
      unfold PaxosInstance.echo
      split <;> simp
    have kept : ¬self.LosesLead ⟨sender, id, .learnMsg learn⟩ := by
      cases lead : self.leaderBallot <;> simp [LosesLead, lead]
    rw [if_neg kept]
    rcases echoed with silent | ⟨told, echoed⟩
    · by_cases own : learn.sender = self.id <;>
        simp [leaderAfter, knownLeaderAfter, hearsOf, silent, own]
    · by_cases own : learn.sender = self.id <;>
        simp [leaderAfter, knownLeaderAfter, hearsOf, echoed, own]
  | proposer message response next addressed asked =>
    generalize (self.instanceAt id).proposer.innerState = current at asked
    cases asked with
    | won w ack same reached =>
      left
      cases lead : self.leaderBallot <;>
        simp [leaderAfter, knownLeaderAfter, LosesLead, hearsOf, lead]
    | nackAccept w nack tolerated => exact .inr ⟨leaderAfter_nackAccept (by simp), rfl⟩
    | retryAccept w nack refused positive fits =>
      exact .inr ⟨leaderAfter_nackAccept (by simp), rfl⟩
    | ignored state message ignores =>
      right
      cases message with
      | nackAcceptMsg nack => exact ⟨leaderAfter_nackAccept (by simp), rfl⟩
      | learnMsg | prepareMsg => exact addressed.elim
      | _ =>
        cases lead : self.leaderBallot <;>
          simp [leaderAfter, knownLeaderAfter, LosesLead, hearsOf, lead]
    | _ =>
      right
      cases lead : self.leaderBallot <;>
        simp [leaderAfter, knownLeaderAfter, LosesLead, hearsOf, lead]

theorem staysOpen_iff {self : MultiPaxosNode C} {m : Message C} {storage : Option (PaxosStorage C)}
    {responses : List (MessageKind C)} {after : PaxosInstance C} {kept : Option (PaxosStorage C)}
    {events : List (TraceEvent C)} (opened : self.forwards = false)
    (cascade : (self.instanceAt m.paxosInstance).Cascade storage m.msg responses after kept
      events) :
    (self.afterSynod m.paxosInstance m.msg responses.head? after kept).forwards = false ↔
      self.StaysOpen m := by
  rw [forwards_eq_false] at opened ⊢
  obtain ⟨middle, saved, earlier, step⟩ := cascade.first
  rcases leadership_step step with ⟨ballot, leads, known, kept, unheard⟩ | ⟨leads, known⟩
  · simp [afterSynod, StaysOpen, leads, kept, unheard]
  · simp only [afterSynod, StaysOpen, leads, known]
    by_cases loses : self.LosesLead m
    · simp [loses, loses.leads.2]
    · cases heard : self.hearsOf m with
      | none => simpa [loses] using opened
      | some sender => simp [loses, Option.isSome_iff_ne_none]

theorem propose_prepares {self : MultiPaxosNode C} {cmd : C} {msgs : List (Message C)}
    {sender : Oneshot C} (unled : self.leaderBallot = none) (unknown : self.knownLeaderId = none)
    (returned : (self.propose cmd).result = .ok (msgs, sender)) :
    msgs.head? = some (self.broadcast self.nextInstanceId
      (.prepareMsg { sender := self.id, ballot := self.firstBallot })) := by
  have proposes := propose_ok returned
  generalize (self.propose cmd).after = after, (self.propose cmd).trace = events at proposes
  cases proposes with
  | forward forwards => simp [forwards_eq_false.mpr (.inr unknown)] at forwards
  | start stays starts =>
    cases starts with
    | intro first inst result responses kept events bounded several opens cascade =>
      cases opens with
      | prepare unled positive fits => rfl
      | accept ballot leads => simp [unled] at leads

end MultiPaxosNode

namespace Cluster

def Spared (total : Nat) (s : Cluster C) (p : Nat) : Prop :=
  ∃ q < total, q ≠ p ∧ (s.nodes q).forwards = false

def StaysOpen (total : Nat) (s : Cluster C) : Action C → Prop
  | .deliver p k => ∀ m ∈ s.sent[k]?, s.Spared total p ∨ (s.nodes p).StaysOpen m
  | _ => True

instance (total : Nat) (s : Cluster C) (p : Nat) : Decidable (s.Spared total p) := by
  unfold Spared
  infer_instance

instance (total : Nat) (s : Cluster C) : (a : Action C) → Decidable (s.StaysOpen total a)
  | .deliver p k => inferInstanceAs (Decidable (∀ m ∈ s.sent[k]?,
      s.Spared total p ∨ (s.nodes p).StaysOpen m))
  | .propose _ _ | .getCommitId _ _ | .crash _ => .isTrue trivial

def Guided (total : Nat) (s : Cluster C) : Prop :=
  (∀ p < total, (s.nodes p).leaderBallot = none) → ∃ p < total, (s.nodes p).knownLeaderId = none

theorem guided_iff {total : Nat} {s : Cluster C} :
    s.Guided total ↔ ∃ p < total, (s.nodes p).forwards = false := by
  simp only [MultiPaxosNode.forwards_eq_false]
  constructor
  · intro guided
    by_cases led : ∀ p < total, (s.nodes p).leaderBallot = none
    · obtain ⟨p, member, unknown⟩ := guided led
      exact ⟨p, member, .inr unknown⟩
    · simp only [not_forall] at led
      obtain ⟨p, member, leads⟩ := led
      exact ⟨p, member, .inl leads⟩
  · rintro ⟨p, member, leads | unknown⟩ led
    · exact absurd (led p member) leads
    · exact ⟨p, member, unknown⟩

theorem guided_split {total p : Nat} {s : Cluster C} (member : p < total) :
    s.Guided total ↔ s.Spared total p ∨ (s.nodes p).forwards = false := by
  rw [guided_iff]
  constructor
  · rintro ⟨q, inside, opened⟩
    by_cases same : q = p
    · exact .inr (same ▸ opened)
    · exact .inl ⟨q, inside, same, opened⟩
  · rintro (⟨q, inside, -, opened⟩ | opened)
    · exact ⟨q, inside, opened⟩
    · exact ⟨p, member, opened⟩

theorem called_guided {total p : Nat} {s : Cluster C} {node : MultiPaxosNode C}
    {msgs : List (Message C)} {trace : List (TraceEvent C)} {heard : List (Nat × Nat)}
    {calls : List (Nat × C)} {placed : List (Placement C)} (member : p < total) :
    (s.called p node msgs trace heard calls placed).Guided total ↔
      s.Spared total p ∨ node.forwards = false := by
  have others : (s.called p node msgs trace heard calls placed).Spared total p ↔
      s.Spared total p := by
    refine exists_congr fun q => and_congr_right fun _ => and_congr_right fun differs => ?_
    simp [called, differs]
  rw [guided_split member, others]
  simp [called]

theorem Guided.same {total p : Nat} {s : Cluster C} (guided : s.Guided total)
    {node : MultiPaxosNode C} {msgs : List (Message C)} {trace : List (TraceEvent C)}
    {heard : List (Nat × Nat)} {calls : List (Nat × C)} {placed : List (Placement C)}
    (member : p < total) (same : node.forwards = (s.nodes p).forwards) :
    (s.called p node msgs trace heard calls placed).Guided total := by
  rw [called_guided member, same]
  exact (guided_split member).mp guided

section Steps

variable [DecidableEq C] [Serde Nat] [Serde (AcceptedValue C)]

theorem Guided.step {total : Nat} {s t : Cluster C} {a : Action C} (guided : s.Guided total)
    (calm : NoCrash a) (moves : Moves total s a t) : t.Guided total ↔ s.StaysOpen total a := by
  cases moves with
  | forward member forwards => exact iff_of_true (guided.same member rfl) trivial
  | start member stays starts =>
    refine iff_of_true (guided.same member ?_) trivial
    cases starts
    rfl
  | @dropped p k sender id f cmd member other arrived unled =>
    refine iff_of_true (guided.same member rfl) fun m found => .inr ?_
    obtain rfl := Option.some.inj (arrived.symm.trans found)
    exact MultiPaxosNode.staysOpen_forwarding not_false
  | @taken p k sender id f cmd msgs after events member other arrived leads starts =>
    refine iff_of_true (guided.same member ?_) fun m found => .inr ?_
    · cases starts
      rfl
    · obtain rfl := Option.some.inj (arrived.symm.trans found)
      exact MultiPaxosNode.staysOpen_forwarding not_false
  | @acked p k sender f place id member other arrived =>
    obtain ⟨forwarded, pending, whole⟩ := (s.nodes p).handleForwardAck_frame f id
    refine iff_of_true (guided.same member ?_) fun m found => .inr ?_
    · rw [whole]
      rfl
    · obtain rfl := Option.some.inj (arrived.symm.trans found)
      exact MultiPaxosNode.staysOpen_forwarding not_false
  | @synod p k m responses after kept events member other arrived synod bounded several cascade =>
    rw [called_guided member]
    simp only [StaysOpen, arrived, Option.mem_some_iff, forall_eq']
    rcases (guided_split member).mp guided with spared | opened
    · exact iff_of_true (.inl spared) (.inl spared)
    · exact or_congr_right' fun _ => MultiPaxosNode.staysOpen_iff opened cascade
  | @asked p id member =>
    obtain ⟨pending, whole⟩ := (s.nodes p).getCommitId_frame id
    exact iff_of_true (guided.same member (by rw [whole]; rfl)) trivial
  | crashed => exact calm.elim

omit [DecidableEq C] in
theorem Boots.unforwarding {total p : Nat} {node : MultiPaxosNode C} (boots : Boots total p node) :
    node.forwards = false := by
  rw [MultiPaxosNode.forwards_eq_false]
  cases boots with
  | new => exact .inr rfl
  | withStorage storage node empty built =>
    exact .inr (MultiPaxosNode.withStorage_unaware built)

theorem guided_reachable {total : Nat} {s : Cluster C} (nodes : 0 < total)
    (reachable : (system total).Reachable (fun s a => NoCrash a ∧ s.StaysOpen total a) s) :
    s.Guided total :=
  reachable.invariant (Guided total)
    (fun _ starts => guided_iff.mpr ⟨0, nodes, (starts.boots 0 nodes).unforwarding⟩)
    fun _ _ _ _ guided allowed next => (guided.step allowed.1 (step_moves next)).mpr allowed.2

end Steps

theorem phase1_open [DecidableEq C] [Serde Nat] [Serde (AcceptedValue C)] {total : Nat}
    {s : Cluster C} (nodes : 2 ≤ total)
    (reachable : (system total).Reachable (fun s a => NoCrash a ∧ s.StaysOpen total a) s) :
    ((∀ p < total, (s.nodes p).leaderBallot = none) →
      ∃ p < total, (s.nodes p).knownLeaderId = none ∧
        ∀ cmd msgs sender, ((s.nodes p).propose cmd).result = .ok (msgs, sender) →
          msgs.head? = some ((s.nodes p).broadcast (s.nodes p).nextInstanceId
            (.prepareMsg { sender := (s.nodes p).id, ballot := (s.nodes p).firstBallot }))) ∧
    ∀ a t, NoCrash a → step total s a = some t →
      (((∀ p < total, (t.nodes p).leaderBallot = none) →
        ∃ p < total, (t.nodes p).knownLeaderId = none) ↔ s.StaysOpen total a) := by
  have guided := guided_reachable (Nat.zero_lt_of_lt nodes) reachable
  refine ⟨fun led => ?_, fun a t calm next => guided.step calm (step_moves next)⟩
  obtain ⟨p, member, unknown⟩ := guided led
  exact ⟨p, member, unknown, fun cmd msgs sender returned =>
    MultiPaxosNode.propose_prepares (led p member) unknown returned⟩

def outbidRun : List (Action Nat) :=
  [.propose 0 1, .propose 2 2, .deliver 1 0, .deliver 0 4, .deliver 1 5, .deliver 0 7,
    .deliver 1 8, .deliver 2 8, .deliver 0 2]

def outbid : Cluster Nat :=
  Run.System.final (step 3) (fun s a => NoCrash a ∧ s.StaysOpen 3 a) (boot 3) outbidRun

theorem phase1_open_outbid :
    (∀ p < 3, (outbid.nodes p).leaderBallot = none) ∧
      ∃ p < 3, (outbid.nodes p).knownLeaderId = none := by
  have reachable : (system 3).Reachable (fun s a => NoCrash a ∧ s.StaysOpen 3 a) outbid :=
    Run.System.final_reachable (fun _ _ _ next => next) (.init (boot_init 3)) (by decide +kernel)
  have unled : ∀ p < 3, (outbid.nodes p).leaderBallot = none := by decide +kernel
  obtain ⟨p, member, unknown, -⟩ := (phase1_open (by decide) reachable).1 unled
  exact ⟨unled, p, member, unknown⟩

-- Node 0 leads at ballot 3, takes node 1 for the leader by its echo, and promises ballot 5 to
-- node 2.
def strandedRun : List (Action Nat) :=
  [.propose 0 1, .propose 2 2, .deliver 1 0, .deliver 0 4, .deliver 1 5, .deliver 0 7,
    .deliver 1 8, .deliver 2 8, .deliver 0 9, .deliver 0 2]

def stranded : Cluster Nat :=
  Run.System.final (step 3) (fun s a => s.Once a ∧ NoCrash a) (boot 3) strandedRun

theorem phase1_closed :
    ¬ ∀ (total : Nat) (s : Cluster Nat), 2 ≤ total →
      (system total).Reachable (fun s a => s.Once a ∧ NoCrash a) s →
      (∀ p < total, (s.nodes p).leaderBallot = none) →
        ∃ p < total, (s.nodes p).knownLeaderId = none := by
  intro opened
  have reachable : (system 3).Reachable (fun s a => s.Once a ∧ NoCrash a) stranded :=
    Run.System.final_reachable (fun _ _ _ next => next) (.init (boot_init 3)) (by decide +kernel)
  have unknown := opened 3 stranded (by decide) reachable (by decide +kernel)
  exact absurd unknown (by decide +kernel)

end Cluster

end Smr
