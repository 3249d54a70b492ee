import Smr.Cluster.Refinement
import Smr.Storage.Json

set_option autoImplicit false

namespace Smr

variable {C : Type}

def MessageKind.tells [DecidableEq C] (ballot : Nat) (cmd : C) : MessageKind C → Bool
  | .learnMsg learn => learn.ballot == ballot && learn.command == cmd
  | _ => false

theorem MessageKind.tells_learn [DecidableEq C] {ballot : Nat} {cmd : C} {message : MessageKind C}
    (tells : message.tells ballot cmd = true) :
    ∃ learn, message = .learnMsg learn ∧ learn.ballot = ballot ∧ learn.command = cmd := by
  cases message with
  | learnMsg learn => exact ⟨learn, rfl, by simpa [MessageKind.tells] using tells⟩
  | _ => simp [MessageKind.tells] at tells

namespace PaxosInstance

def won (self : PaxosInstance C) : Nat :=
  match self.proposer.innerState with
  | .learning _ => 1
  | _ => 0

theorem won_le (self : PaxosInstance C) : self.won ≤ 1 := by
  unfold won
  split <;> decide

def Echoes (self : PaxosInstance C) (ballot : Nat) (cmd : C) : MessageKind C → Prop
  | .learnMsg learn => self.learner.value = none ∧ learn.sender ≠ self.acceptor.myId ∧
    learn.ballot = ballot ∧ learn.command = cmd
  | _ => False

variable [DecidableEq C]

instance (self : PaxosInstance C) (ballot : Nat) (cmd : C) (message : MessageKind C) :
    Decidable (self.Echoes ballot cmd message) := by
  cases message <;> unfold Echoes <;> infer_instance

variable [Serde Nat] [Serde (AcceptedValue C)]

theorem Step.tells_few {self after : PaxosInstance C} {storage kept : Option (PaxosStorage C)}
    {message : MessageKind C} {response : Option (MessageKind C)} {events : List (TraceEvent C)}
    (step : self.Step storage message response after kept events) (ballot : Nat) (cmd : C) :
    response.toList.countP (·.tells ballot cmd) + self.won ≤
      after.won + if self.Echoes ballot cmd message then 1 else 0 := by
  cases step with
  | learn m learner reply heard =>
    have same : ({ self with learner := learner } : PaxosInstance C).won = self.won := rfl
    rw [same]
    unfold echo
    split
    next echoes =>
      have unlearned : self.learner.value = none := by
        simpa [Learner.isValueLearned] using echoes.1
      by_cases told : m.ballot = ballot ∧ m.command = cmd
      · simp [MessageKind.tells, Echoes, unlearned, echoes.2, told, Nat.add_comm]
      · simp [MessageKind.tells, told]
    next => simp
  | proposer message response next addressed asked =>
    unfold won
    dsimp only
    generalize self.proposer.innerState = current at asked
    cases asked with
    | won w ack same reached =>
      have one := List.countP_le_length (p := MessageKind.tells ballot cmd)
        (l := [.learnMsg ⟨w.proposerId, w.ballot, w.state.value⟩])
      simpa using Nat.le_add_right_of_le one
    | ignored state message ignores => simp
    | _ => simp [MessageKind.tells, InnerState.retry]
  | _ => simp [MessageKind.tells, won]

theorem Cascade.tells_few {self after : PaxosInstance C} {storage kept : Option (PaxosStorage C)}
    {message : MessageKind C} {responses : List (MessageKind C)} {events : List (TraceEvent C)}
    (cascade : Cascade self storage message responses after kept events)
    {nodeId quorumSize totalNodes instanceId : Nat}
    (configured : self.Configured nodeId quorumSize totalNodes instanceId) (ballot : Nat)
    (cmd : C) :
    responses.countP (·.tells ballot cmd) + self.won ≤
      after.won + if self.Echoes ballot cmd message then 1 else 0 := by
  induction cascade with
  | last step => exact step.tells_few ballot cmd
  | @more self middle after storage saved kept message response responses events later step rest
      ih =>
    have first := step.tells_few ballot cmd
    have configured' := step.configured configured
    have own : ¬middle.Echoes ballot cmd response := by
      have sender := step.response_sender configured
      cases response with
      | learnMsg learn =>
        rintro ⟨-, foreign, -⟩
        rw [configured'.acceptor] at foreign
        exact foreign (Option.some.inj sender)
      | _ => exact id
    have others := ih configured'
    rw [if_neg own] at others
    simp only [Option.toList_some, List.countP_cons, List.countP_nil] at first ⊢
    omega

theorem Step.echoes {self after : PaxosInstance C} {storage kept : Option (PaxosStorage C)}
    {message : MessageKind C} {response : Option (MessageKind C)} {events : List (TraceEvent C)}
    (step : self.Step storage message response after kept events) {ballot : Nat} {cmd : C}
    (told : message.tells ballot cmd = true) :
    ∀ reply ∈ response, reply.tells ballot cmd = true := by
  cases step with
  | learn m learner reply heard =>
    rintro reply answer
    obtain ⟨-, rfl⟩ := echo_some answer
    exact told
  | proposer message response next addressed asked =>
    obtain ⟨learn, rfl, -, -⟩ := MessageKind.tells_learn told
    exact addressed.elim
  | _ => simp [MessageKind.tells] at told

theorem Cascade.echoes {self after : PaxosInstance C} {storage kept : Option (PaxosStorage C)}
    {message : MessageKind C} {responses : List (MessageKind C)} {events : List (TraceEvent C)}
    (cascade : Cascade self storage message responses after kept events) {ballot : Nat} {cmd : C}
    (told : message.tells ballot cmd = true) :
    ∀ response ∈ responses, response.tells ballot cmd = true := by
  induction cascade with
  | last step => simp
  | more step _ ih =>
    have first := step.echoes told _ rfl
    rintro response member
    rcases List.mem_cons.mp member with rfl | later
    · exact first
    · exact ih first response later

end PaxosInstance

namespace Cluster

variable [DecidableEq C]

def Heard (s : Cluster C) (p q id ballot : Nat) (cmd : C) : Prop :=
  ∃ x ∈ s.delivered, x.2 = p ∧ ∃ m ∈ s.sent[x.1]?,
    m.senderId = q ∧ m.paxosInstance = id ∧ m.msg.tells ballot cmd = true

instance (s : Cluster C) (p q id ballot : Nat) (cmd : C) :
    Decidable (s.Heard p q id ballot cmd) := by
  unfold Heard
  infer_instance

def heardFrom (total : Nat) (s : Cluster C) (p id ballot : Nat) (cmd : C) : Finset Nat :=
  (Finset.range total).filter fun q => q ≠ p ∧ s.Heard p q id ballot cmd

def told (s : Cluster C) (p id ballot : Nat) (cmd : C) : Nat :=
  s.sent.countP fun m => m.senderId == p && m.paxosInstance == id && m.msg.tells ballot cmd

def Novel (s : Cluster C) : Action C → Prop
  | .deliver p k => ∀ m ∈ s.sent[k]?,
    match m.msg with
    | .learnMsg learn =>
      ((s.nodes p).instanceAt m.paxosInstance).learner.value = none →
        ¬s.Heard p m.senderId m.paxosInstance learn.ballot learn.command
    | _ => True
  | _ => True

instance (s : Cluster C) : (a : Action C) → Decidable (s.Novel a)
  | .deliver p k =>
    have : ∀ m : Message C, Decidable (match m.msg with
        | .learnMsg learn =>
          ((s.nodes p).instanceAt m.paxosInstance).learner.value = none →
            ¬s.Heard p m.senderId m.paxosInstance learn.ballot learn.command
        | _ => True) := fun m =>
      match m.msg with
      | .learnMsg _ => inferInstanceAs (Decidable (_ → _))
      | .requestCommandToLeader _ _ | .forwardAck _ _ | .prepareMsg _ | .promiseMsg _
      | .acceptMsg _ | .ackAcceptMsg _ | .nackPrepareMsg _ | .nackAcceptMsg _
      | .learnedCommand _ => .isTrue trivial
    inferInstanceAs (Decidable (∀ m ∈ s.sent[k]?, _))
  | .propose _ _ | .getCommitId _ _ | .crash _ => .isTrue trivial

structure Gossip (total : Nat) (s : Cluster C) : Prop where
  member : ∀ m ∈ s.sent, m.senderId < total
  signed : ∀ m ∈ s.sent, ∀ learn, m.msg = .learnMsg learn → learn.sender = m.senderId
  once : s.delivered.Nodup
  inside : ∀ x ∈ s.delivered, x.1 < s.sent.length ∧ x.2 < total
  bounded : ∀ p < total, ∀ id ballot cmd,
    s.told p id ballot cmd ≤
      ((s.nodes p).instanceAt id).won + (s.heardFrom total p id ballot cmd).card

section Calls

variable {total p : Nat} {s : Cluster C} {node : MultiPaxosNode C} {msgs : List (Message C)}
  {trace : List (TraceEvent C)} {heard : List (Nat × Nat)} {calls : List (Nat × C)}
  {placed : List (Placement C)}

theorem heardFrom_called (gossip : Gossip total s) (q id ballot : Nat) (cmd : C) :
    s.heardFrom total q id ballot cmd ⊆
      (s.called p node msgs trace heard calls placed).heardFrom total q id ballot cmd := by
  intro r heard
  obtain ⟨inside, differs, x, listed, same, m, found, rest⟩ := Finset.mem_filter.mp heard
  refine Finset.mem_filter.mpr
    ⟨inside, differs, x, List.mem_append_right _ listed, same, m, ?_, rest⟩
  exact (List.getElem?_append_left (gossip.inside x listed).1).trans found

theorem heardFrom_grows (gossip : Gossip total s) {k ballot : Nat} {cmd : C} {m : Message C}
    (arrived : s.sent[k]? = some m) (other : m.senderId ≠ p)
    (tells : m.msg.tells ballot cmd = true)
    (new : ¬s.Heard p m.senderId m.paxosInstance ballot cmd) :
    (s.heardFrom total p m.paxosInstance ballot cmd).card + 1 ≤
      ((s.called p node msgs trace [(k, p)] calls placed).heardFrom total p m.paxosInstance
        ballot cmd).card := by
  refine Finset.card_lt_card ((Finset.ssubset_iff_of_subset
    (heardFrom_called gossip p m.paxosInstance ballot cmd)).mpr ⟨m.senderId, ?_, fun listed =>
      new (Finset.mem_filter.mp listed).2.2⟩)
  have sent := gossip.member m (List.mem_of_getElem? arrived)
  refine Finset.mem_filter.mpr ⟨Finset.mem_range.mpr sent, other, (k, p), List.mem_cons_self, rfl,
    m, ?_, rfl, rfl, tells⟩
  exact (List.getElem?_append_left (List.getElem?_eq_some_iff.mp arrived).1).trans arrived

theorem told_called (q id ballot : Nat) (cmd : C) :
    (s.called p node msgs trace heard calls placed).told q id ballot cmd =
      s.told q id ballot cmd + msgs.countP fun m =>
        m.senderId == q && m.paxosInstance == id && m.msg.tells ballot cmd :=
  List.countP_append

theorem Gossip.called (gossip : Gossip total s) (member : p < total)
    (mine : ∀ m ∈ msgs, m.senderId = p ∧ ∀ learn, m.msg = .learnMsg learn → learn.sender = p)
    (once : (heard ++ s.delivered).Nodup)
    (inside : ∀ x ∈ heard, x.1 < s.sent.length ∧ x.2 < total)
    (bounded : ∀ id ballot cmd,
      s.told p id ballot cmd + (msgs.countP fun m =>
          m.senderId == p && m.paxosInstance == id && m.msg.tells ballot cmd) ≤
        (node.instanceAt id).won +
          ((s.called p node msgs trace heard calls placed).heardFrom total p id ballot cmd).card) :
    Gossip total (s.called p node msgs trace heard calls placed) where
  member m sent := by
    rcases List.mem_append.mp sent with old | new
    · exact gossip.member m old
    · exact (mine m new).1 ▸ member
  signed m sent learn told := by
    rcases List.mem_append.mp sent with old | new
    · exact gossip.signed m old learn told
    · rw [(mine m new).1, (mine m new).2 learn told]
  once := once
  inside x listed := by
    have longer : s.sent.length ≤ (s.sent ++ msgs).length := by simp
    rcases List.mem_append.mp listed with new | old
    · exact ⟨Nat.lt_of_lt_of_le (inside x new).1 longer, (inside x new).2⟩
    · exact ⟨Nat.lt_of_lt_of_le (gossip.inside x old).1 longer, (gossip.inside x old).2⟩
  bounded := by
    refine called_each (fun q node => ∀ id ballot cmd,
      Cluster.told _ q id ballot cmd ≤
        (node.instanceAt id).won + (Cluster.heardFrom _ _ q id ballot cmd).card)
      (fun id ballot cmd => ?_) fun q inside differs id ballot cmd => ?_
    · rw [told_called]
      exact bounded id ballot cmd
    · have silent : (msgs.countP fun m =>
          m.senderId == q && m.paxosInstance == id && m.msg.tells ballot cmd) = 0 := by
        rw [List.countP_eq_zero]
        intro m new
        simp [(mine m new).1, Ne.symm differs]
      rw [told_called, silent]
      exact Nat.le_trans (gossip.bounded q inside id ballot cmd)
        (Nat.add_le_add_left (Finset.card_le_card (heardFrom_called gossip q id ballot cmd)) _)

theorem countP_silent (silent : ∀ m ∈ msgs, ∀ learn, m.msg ≠ .learnMsg learn)
    (p id ballot : Nat) (cmd : C) : (msgs.countP fun m =>
      m.senderId == p && m.paxosInstance == id && m.msg.tells ballot cmd) = 0 := by
  rw [List.countP_eq_zero]
  intro m sent tells
  obtain ⟨learn, same, -⟩ := MessageKind.tells_learn (Bool.and_eq_true_iff.mp tells).2
  exact silent m sent learn same

theorem Gossip.quiet (gossip : Gossip total s) (member : p < total)
    (found : node.instanceAt = (s.nodes p).instanceAt)
    (mine : ∀ m ∈ msgs, m.senderId = p ∧ ∀ learn, m.msg ≠ .learnMsg learn)
    (once : (heard ++ s.delivered).Nodup)
    (inside : ∀ x ∈ heard, x.1 < s.sent.length ∧ x.2 < total) :
    Gossip total (s.called p node msgs trace heard calls placed) := by
  refine gossip.called member (fun m sent => ⟨(mine m sent).1, fun learn told =>
    absurd told ((mine m sent).2 learn)⟩) once inside fun id ballot cmd => ?_
  rw [countP_silent (fun m sent => (mine m sent).2), found]
  exact Nat.le_trans (gossip.bounded p member id ballot cmd)
    (Nat.add_le_add_left (Finset.card_le_card (heardFrom_called gossip p id ballot cmd)) _)

theorem countP_broadcast {self : MultiPaxosNode C} (signed : self.id = p) (place id ballot : Nat)
    (cmd : C) (responses : List (MessageKind C)) :
    ((responses.map (self.broadcast place)).countP fun m =>
        m.senderId == p && m.paxosInstance == id && m.msg.tells ballot cmd) =
      if id = place then responses.countP (·.tells ballot cmd) else 0 := by
  rw [List.countP_map]
  split
  next same => simp [Function.comp_def, MultiPaxosNode.broadcast, signed, same]
  next differs =>
    simp [Function.comp_def, MultiPaxosNode.broadcast, Ne.symm differs, List.countP_eq_zero]

end Calls

theorem length_le_kinds {A B : Type} [DecidableEq B] (kinds : Finset B) (kind : B → A → Bool)
    (bound : Nat) (list : List A) (covered : ∀ x ∈ list, ∃ b ∈ kinds, kind b x = true)
    (few : ∀ b ∈ kinds, list.countP (kind b) ≤ bound) : list.length ≤ kinds.card * bound := by
  have total : list.length ≤ ∑ b ∈ kinds, list.countP (kind b) := by
    clear few
    induction list with
    | nil => exact Nat.zero_le _
    | cons x rest ih =>
      obtain ⟨b, member, same⟩ := covered x List.mem_cons_self
      have tail := ih fun y listed => covered y (List.mem_cons_of_mem _ listed)
      have head : 1 ≤ ∑ b ∈ kinds, if kind b x then 1 else 0 := by
        refine Nat.le_trans ?_ (Finset.single_le_sum (fun _ _ => Nat.zero_le _) member)
        simp [same]
      simp only [List.length_cons, List.countP_cons, Finset.sum_add_distrib]
      omega
  refine Nat.le_trans total ?_
  rw [← smul_eq_mul]
  exact Finset.sum_le_card_nsmul kinds _ bound few

section Steps

variable [Serde Nat] [Serde (AcceptedValue C)]

theorem Gossip.starts {total p : Nat} {s : Cluster C} (gossip : Gossip total s) (member : p < total)
    (sound : MultiPaxosNode.Kept total p (s.nodes p)) {node after : MultiPaxosNode C} {cmd : C}
    {msgs extra : List (Message C)} {events : List (TraceEvent C)} {heard : List (Nat × Nat)}
    {calls : List (Nat × C)} {placed : List (Placement C)}
    (starts : (s.nodes p).Starts cmd msgs after events)
    (found : node.instanceAt = after.instanceAt)
    (others : ∀ m ∈ extra, m.senderId = p ∧ ∀ learn, m.msg ≠ .learnMsg learn)
    (once : (heard ++ s.delivered).Nodup)
    (inside : ∀ x ∈ heard, x.1 < s.sent.length ∧ x.2 < total) :
    Gossip total (s.called p node (msgs ++ extra) events heard calls placed) := by
  cases starts with
  | intro first inst result responses kept trace bounded several opens cascade =>
    have configured := (opens.launched sound).1
    have unwon : inst.won = 0 ∧ ∀ ballot cmd, first.tells ballot cmd = false := by
      cases opens <;> exact ⟨rfl, fun _ _ => rfl⟩
    have signed : ∀ message ∈ first :: responses, ∀ learn, message = .learnMsg learn →
        learn.sender = p := by
      rintro message listed learn rfl
      rcases List.mem_cons.mp listed with opening | later
      · cases opens <;> simp at opening
      · exact Option.some.inj (cascade.response_sender configured _ later)
    refine gossip.called member (fun m sent => ?_) once inside fun id ballot cmd => ?_
    · rcases List.mem_append.mp sent with own | last
      · obtain ⟨message, listed, rfl⟩ := List.mem_map.mp own
        exact ⟨sound.id, fun learn told => signed message listed learn told⟩
      · exact ⟨(others m last).1, fun learn told => absurd told ((others m last).2 learn)⟩
    · have before := gossip.bounded p member id ballot cmd
      refine Nat.le_trans ?_ (Nat.add_le_add_left
        (Finset.card_le_card (heardFrom_called gossip p id ballot cmd)) _)
      rw [List.countP_append, countP_silent (fun m sent => (others m sent).2), Nat.add_zero,
        countP_broadcast sound.id, found, MultiPaxosNode.afterStart_instanceAt]
      by_cases own : id = (s.nodes p).nextInstanceId
      · subst own
        have tells := cascade.tells_few configured ballot cmd
        have quiet : ¬inst.Echoes ballot cmd first := by
          cases opens <;> exact id
        rw [sound.instanceAt_beyond (Nat.le_refl _)] at before
        rw [if_neg quiet, unwon.1] at tells
        rw [if_pos rfl, Function.update_self, List.countP_cons, unwon.2]
        have fresh : (Synod.fresh total p (s.nodes p).nextInstanceId : PaxosInstance C).won = 0 :=
          rfl
        simp only [Bool.false_eq_true, if_false]
        omega
      · rw [if_neg own, Function.update_of_ne own]
        exact before

theorem Gossip.synod {total p k : Nat} {s : Cluster C} (gossip : Gossip total s)
    (member : p < total) (sound : MultiPaxosNode.Kept total p (s.nodes p)) {m : Message C}
    {responses : List (MessageKind C)} {after : PaxosInstance C} {kept : Option (PaxosStorage C)}
    {events : List (TraceEvent C)} (arrived : s.sent[k]? = some m) (other : m.senderId ≠ p)
    (once : (k, p) ∉ s.delivered) (novel : s.Novel (.deliver p k))
    (cascade : ((s.nodes p).instanceAt m.paxosInstance).Cascade (s.nodes p).storage m.msg
      responses after kept events) :
    Gossip total
      (s.called p ((s.nodes p).afterSynod m.paxosInstance m.msg responses.head? after kept)
        (responses.map ((s.nodes p).broadcast m.paxosInstance)) events [(k, p)] [] []) := by
  have configured := sound.instanceAt_configured m.paxosInstance
  have inside : k < s.sent.length := (List.getElem?_eq_some_iff.mp arrived).1
  refine gossip.called member (fun m' sent => ?_) (List.nodup_cons.mpr ⟨once, gossip.once⟩)
    (by simpa using ⟨inside, member⟩) fun id ballot cmd => ?_
  · obtain ⟨message, listed, rfl⟩ := List.mem_map.mp sent
    refine ⟨sound.id, ?_⟩
    rintro learn (rfl : message = _)
    exact Option.some.inj (cascade.response_sender configured _ listed)
  · have before := gossip.bounded p member id ballot cmd
    rw [countP_broadcast sound.id, MultiPaxosNode.afterSynod_instanceAt]
    by_cases own : id = m.paxosInstance
    · subst own
      have tells := cascade.tells_few configured ballot cmd
      rw [if_pos rfl, Function.update_self]
      by_cases echoes : ((s.nodes p).instanceAt m.paxosInstance).Echoes ballot cmd m.msg
      · rw [if_pos echoes] at tells
        obtain ⟨learn, same⟩ : ∃ learn, m.msg = .learnMsg learn := by
          cases told : m.msg <;> simp [PaxosInstance.Echoes, told] at echoes ⊢
        have new := novel m arrived
        rw [same] at new echoes
        obtain ⟨unlearned, -, rfl, rfl⟩ := echoes
        refine Nat.le_trans ?_ (Nat.add_le_add_left (heardFrom_grows gossip arrived other
          (by simp [same, MessageKind.tells]) (new unlearned)) _)
        omega
      · rw [if_neg echoes] at tells
        refine Nat.le_trans ?_ (Nat.add_le_add_left
          (Finset.card_le_card (heardFrom_called gossip p m.paxosInstance ballot cmd)) _)
        omega
    · rw [if_neg own, Function.update_of_ne own]
      exact Nat.le_trans before (Nat.add_le_add_left
        (Finset.card_le_card (heardFrom_called gossip p id ballot cmd)) _)

theorem Gossip.step {total : Nat} {s t : Cluster C} {a : Action C} (gossip : Gossip total s)
    (sound : ∀ p < total, MultiPaxosNode.Sound total p (s.nodes p)) (once : s.Once a)
    (calm : NoCrash a) (novel : s.Novel a) (moves : Moves total s a t) : Gossip total t := by
  have heard {p k : Nat} {m : Message C} (member : p < total) (arrived : s.sent[k]? = some m)
      (once : (k, p) ∉ s.delivered) :
      ([(k, p)] ++ s.delivered).Nodup ∧
        ∀ x ∈ [(k, p)], x.1 < s.sent.length ∧ x.2 < total :=
    ⟨List.nodup_cons.mpr ⟨once, gossip.once⟩,
      by simpa using ⟨(List.getElem?_eq_some_iff.mp arrived).1, member⟩⟩
  cases moves with
  | @forward p cmd member forwards =>
    exact gossip.quiet member rfl
      (by simp [MultiPaxosNode.broadcast, (sound p member).id]) gossip.once (by simp)
  | @start p cmd msgs after events member stays starts =>
    have whole : Gossip total (s.called p after (msgs ++ []) events [] [(p, cmd)]
        [⟨p, (s.nodes p).nextInstanceId, cmd, none⟩]) :=
      gossip.starts member (sound p member).toKept starts rfl (by simp) gossip.once (by simp)
    rwa [List.append_nil] at whole
  | dropped member other arrived unled =>
    obtain ⟨nodup, inside⟩ := heard member arrived once
    exact gossip.quiet member rfl (by simp) nodup inside
  | @taken p k sender place forwardId cmd msgs after events member other arrived leads starts =>
    obtain ⟨nodup, inside⟩ := heard member arrived once
    exact gossip.starts member (sound p member).toKept starts rfl
      (by simp [MultiPaxosNode.broadcast, (sound p member).id]) nodup inside
  | @acked p k sender f _ id member other arrived =>
    obtain ⟨nodup, inside⟩ := heard member arrived once
    obtain ⟨forwarded, pending, whole⟩ := (s.nodes p).handleForwardAck_frame f id
    exact gossip.quiet member (by rw [whole]; rfl) (by simp) nodup inside
  | @synod p k m responses after kept events member other arrived synod bounded several cascade =>
    exact gossip.synod member (sound p member).toKept arrived other once novel cascade
  | @asked p id member =>
    obtain ⟨pending, whole⟩ := (s.nodes p).getCommitId_frame id
    exact gossip.quiet member (by rw [whole]; rfl) (by simp) gossip.once (by simp)
  | crashed => exact calm.elim

theorem gossip_reachable {total : Nat} {s : Cluster C}
    (reachable : (system total).Reachable (fun s a => s.Once a ∧ NoCrash a ∧ s.Novel a) s) :
    Gossip total s := by
  refine reachable.invariant (Gossip total) (fun s starts => ?_)
    fun s a t reached gossip allowed next => ?_
  · exact
      { member := by simp [starts.sent]
        signed := by simp [starts.sent]
        once := by simp [starts.delivered]
        inside := by simp [starts.delivered]
        bounded := by simp [told, starts.sent] }
  · have refines := refines_unruled reached
    exact gossip.step refines.sound allowed.1 allowed.2.1 allowed.2.2 (step_moves next)

omit [Serde Nat] [Serde (AcceptedValue C)] in
theorem Gossip.told_le {total p : Nat} {s : Cluster C} (gossip : Gossip total s)
    (member : p < total) (id ballot : Nat) (cmd : C) : s.told p id ballot cmd ≤ total := by
  have others : s.heardFrom total p id ballot cmd ⊆ (Finset.range total).erase p := by
    intro q heard
    obtain ⟨inside, differs, -⟩ := Finset.mem_filter.mp heard
    exact Finset.mem_erase.mpr ⟨differs, inside⟩
  have few := Finset.card_le_card others
  rw [Finset.card_erase_of_mem (Finset.mem_range.mpr member), Finset.card_range] at few
  have bounded := gossip.bounded p member id ballot cmd
  have won := ((s.nodes p).instanceAt id).won_le
  omega

def DeliversLearn (s : Cluster C) : Action C → Prop
  | .deliver _ k => ∃ m ∈ s.sent[k]?, ∃ learn, m.msg = .learnMsg learn
  | _ => False

omit [DecidableEq C] [Serde Nat] [Serde (AcceptedValue C)] in
theorem DeliversLearn.arrived {s : Cluster C} {p k : Nat} {m : Message C}
    (learns : s.DeliversLearn (.deliver p k)) (arrived : s.sent[k]? = some m) :
    ∃ learn, m.msg = .learnMsg learn := by
  obtain ⟨other, found, told⟩ := learns
  obtain rfl := Option.some.inj (arrived.symm.trans found)
  exact told

def tales (s : Cluster C) : Finset (Nat × Nat × C) :=
  (s.sent.filterMap fun m =>
    match m.msg with
    | .learnMsg learn => some (m.paxosInstance, learn.ballot, learn.command)
    | _ => none).toFinset

structure Chat (total : Nat) (s t : Cluster C) (count : Nat) : Prop where
  delivered : t.delivered.length = s.delivered.length + count
  sent : ∃ extra, t.sent = s.sent ++ extra ∧ ∀ m ∈ extra, ∃ x ∈ Finset.range total ×ˢ s.tales,
    (m.senderId == x.1 && m.paxosInstance == x.2.1 && m.msg.tells x.2.2.1 x.2.2.2) = true

omit [Serde Nat] [Serde (AcceptedValue C)] in
theorem mem_tales {s : Cluster C} {m : Message C} {learn : Learn C} (sent : m ∈ s.sent)
    (told : m.msg = .learnMsg learn) :
    (m.paxosInstance, learn.ballot, learn.command) ∈ s.tales := by
  rw [tales, List.mem_toFinset, List.mem_filterMap]
  exact ⟨m, sent, by rw [told]⟩

theorem Chat.step {total count : Nat} {s t u : Cluster C} {a : Action C}
    (chat : Chat total s t count)
    (sound : ∀ p < total, MultiPaxosNode.Sound total p (t.nodes p))
    (learns : t.DeliversLearn a) (moves : Moves total t a u) : Chat total s u (count + 1) := by
  obtain ⟨delivered, extra, sent, about⟩ := chat
  cases moves with
  | dropped member other arrived unled =>
    obtain ⟨learn, told⟩ := learns.arrived arrived
    simp at told
  | taken member other arrived leads starts =>
    obtain ⟨learn, told⟩ := learns.arrived arrived
    simp at told
  | acked member other arrived =>
    obtain ⟨learn, told⟩ := learns.arrived arrived
    simp at told
  | @synod p k m responses after kept events member other arrived synod bounded several cascade =>
    obtain ⟨learn, told⟩ := learns.arrived arrived
    have known : (m.paxosInstance, learn.ballot, learn.command) ∈ s.tales := by
      have listed := List.mem_of_getElem? arrived
      rw [sent] at listed
      rcases List.mem_append.mp listed with old | new
      · exact mem_tales old told
      · obtain ⟨⟨q, id, ballot, cmd⟩, inside, same⟩ := about m new
        simp only [told, MessageKind.tells, Bool.and_eq_true, beq_iff_eq] at same
        obtain ⟨⟨-, rfl⟩, rfl, rfl⟩ := same
        exact (Finset.mem_product.mp inside).2
    refine ⟨?_, extra ++ responses.map ((t.nodes p).broadcast m.paxosInstance), ?_,
      fun m' listed => ?_⟩
    · simp only [called, List.length_append, List.length_singleton, delivered]
      omega
    · simp [called, sent]
    · rcases List.mem_append.mp listed with old | new
      · exact about m' old
      · obtain ⟨response, answer, rfl⟩ := List.mem_map.mp new
        have tells := cascade.echoes
          (show m.msg.tells learn.ballot learn.command = true by simp [told, MessageKind.tells])
          response answer
        exact ⟨(p, m.paxosInstance, learn.ballot, learn.command),
          Finset.mem_product.mpr ⟨Finset.mem_range.mpr member, known⟩,
          by simp [MultiPaxosNode.broadcast, (sound p member).id, tells]⟩
  | _ => exact learns.elim

omit [Serde Nat] [Serde (AcceptedValue C)] in
theorem Chat.count_le {total count : Nat} {s t : Cluster C} (chat : Chat total s t count)
    (gossip : Gossip total t) :
    count ≤ (s.sent.length + total * s.tales.card * total) * total := by
  obtain ⟨delivered, extra, sent, about⟩ := chat
  have short : extra.length ≤ total * s.tales.card * total := by
    have bounded := length_le_kinds (Finset.range total ×ˢ s.tales)
      (fun x m => m.senderId == x.1 && m.paxosInstance == x.2.1 && m.msg.tells x.2.2.1 x.2.2.2)
      total extra about fun x member => by
        refine Nat.le_trans ?_ (gossip.told_le
          (Finset.mem_range.mp (Finset.mem_product.mp member).1) x.2.1 x.2.2.1 x.2.2.2)
        rw [told, sent, List.countP_append]
        exact Nat.le_add_left _ _
    rwa [Finset.card_product, Finset.card_range] at bounded
  have heard : t.delivered.length ≤ t.sent.length * total := by
    rw [← List.toFinset_card_of_nodup gossip.once]
    have inside : t.delivered.toFinset ⊆ Finset.range t.sent.length ×ˢ Finset.range total := by
      intro x listed
      obtain ⟨place, node⟩ := gossip.inside x (List.mem_toFinset.mp listed)
      exact Finset.mem_product.mpr ⟨Finset.mem_range.mpr place, Finset.mem_range.mpr node⟩
    have few := Finset.card_le_card inside
    rwa [Finset.card_product, Finset.card_range, Finset.card_range] at few
  have longest : t.sent.length ≤ s.sent.length + total * s.tales.card * total := by
    rw [sent, List.length_append]
    omega
  have most := Nat.mul_le_mul_right total longest
  omega

def Gossips (s : Cluster C) (a : Action C) : Prop :=
  s.Once a ∧ NoCrash a ∧ s.Novel a ∧ s.DeliversLearn a

theorem chat_run {total : Nat} {run : Nat → Cluster C}
    (reachable : (system total).Reachable (fun s a => s.Once a ∧ NoCrash a ∧ s.Novel a) (run 0))
    (steps : ∀ n, ∃ a, (run n).Gossips a ∧ step total (run n) a = some (run (n + 1))) (n : Nat) :
    (system total).Reachable (fun s a => s.Once a ∧ NoCrash a ∧ s.Novel a) (run n) ∧
      Chat total (run 0) (run n) n := by
  induction n with
  | zero => exact ⟨reachable, rfl, [], (List.append_nil _).symm, by simp⟩
  | succ n ih =>
    obtain ⟨reached, chat⟩ := ih
    obtain ⟨a, ⟨once, calm, novel, learns⟩, next⟩ := steps n
    have refines := refines_unruled reached
    exact ⟨.step reached ⟨once, calm, novel⟩ next,
      chat.step refines.sound learns (step_moves next)⟩

end Steps

theorem learns_bounded [Serde Nat] [Serde (AcceptedValue C)] {total : Nat} {s : Cluster C}
    (reachable : (system total).Reachable (fun s a => s.Once a ∧ NoCrash a ∧ s.Novel a) s) :
    (∀ p < total, ∀ id ballot cmd, s.told p id ballot cmd ≤ total) ∧
      ¬∃ run : Nat → Cluster C, run 0 = s ∧
        ∀ n, ∃ a, (run n).Gossips a ∧ step total (run n) a = some (run (n + 1)) := by
  refine ⟨fun p member id ballot cmd =>
    (gossip_reachable reachable).told_le member id ballot cmd, ?_⟩
  rintro ⟨run, rfl, steps⟩
  obtain ⟨reached, chat⟩ := chat_run reachable steps
    (((run 0).sent.length + total * (run 0).tales.card * total) * total + 1)
  exact Nat.not_succ_le_self _ (chat.count_le (gossip_reachable reached))

def heardRun : List (Action Nat) :=
  [.propose 0 1, .deliver 1 0, .deliver 2 0, .deliver 0 2, .deliver 0 3, .deliver 1 4, .deliver 2 4,
    .deliver 0 6, .deliver 0 7, .deliver 1 8, .deliver 2 8, .deliver 0 9, .deliver 2 9]

def heardOut : Cluster Nat :=
  Run.System.final (step 4) (fun s a => s.Once a ∧ NoCrash a ∧ s.Novel a) (boot 4) heardRun

theorem learns_bounded_heard : heardOut.told 0 0 4 1 = 2 ∧ heardOut.told 0 0 4 1 ≤ 4 := by
  have reachable :
      (system 4).Reachable (fun s a => s.Once a ∧ NoCrash a ∧ s.Novel a) heardOut :=
    Run.System.final_reachable (fun _ _ _ next => next) (.init (boot_init 4)) (by decide +kernel)
  exact ⟨by decide +kernel, (learns_bounded reachable).1 0 (by decide) 0 4 1⟩

-- Nodes 0 and 1 echo each other, for neither comes to a quorum of three.
def echoRun : List (Action Nat) :=
  [.propose 0 1, .deliver 1 0, .deliver 2 0, .deliver 0 2, .deliver 0 3, .deliver 1 4, .deliver 2 4,
    .deliver 0 6, .deliver 0 7, .deliver 1 8, .deliver 0 9, .deliver 1 10, .deliver 0 11,
    .deliver 1 12, .deliver 0 13, .deliver 1 14, .deliver 0 15]

def echoed : Cluster Nat :=
  Run.System.final (step 4) (fun s a => s.Once a ∧ NoCrash a) (boot 4) echoRun

theorem learns_unbounded :
    ¬ ∀ (total : Nat) (s : Cluster Nat), 2 ≤ total →
      (system total).Reachable (fun s a => s.Once a ∧ NoCrash a) s →
      ∀ p < total, ∀ id ballot cmd, s.told p id ballot cmd ≤ total := by
  intro bounded
  have reachable : (system 4).Reachable (fun s a => s.Once a ∧ NoCrash a) echoed :=
    Run.System.final_reachable (fun _ _ _ next => next) (.init (boot_init 4)) (by decide +kernel)
  have most := bounded 4 echoed (by decide) reachable 0 (by decide) 0 4 1
  exact absurd most (by decide +kernel)

end Cluster

end Smr
