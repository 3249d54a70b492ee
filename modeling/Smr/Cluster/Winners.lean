import Smr.Cluster.KnownLeader
import Smr.Cluster.Leadership

set_option autoImplicit false

namespace Smr

variable {C : Type}

namespace PaxosInstance

def Unacked (self : PaxosInstance C) : MessageKind C → Prop
  | .acceptMsg a => ∀ w, self.proposer.innerState = .accepting w → w.ballot = a.ballot →
    w.state.accepts = 0
  | .ackAcceptMsg ack => ∀ w, self.proposer.innerState = .accepting w → w.ballot = ack.ballot →
    w.state.accepts = 0
  | .learnMsg learn => learn.sender = self.acceptor.myId
  | _ => True

variable [DecidableEq C] [Serde Nat] [Serde (AcceptedValue C)]
  {self after : PaxosInstance C} {storage kept : Option (PaxosStorage C)}
  {message : MessageKind C} {events : List (TraceEvent C)}
  {nodeId quorumSize totalNodes instanceId : Nat}

theorem Step.unacked {reply : MessageKind C}
    (step : self.Step storage message (some reply) after kept events)
    (configured : self.Configured nodeId quorumSize totalNodes instanceId)
    (clear : ∀ a, message = .acceptMsg a → self.Unacked message) : after.Unacked reply := by
  generalize answer : some reply = response at step
  cases step with
  | promise | nackPrepare | nackAccept =>
    obtain rfl := Option.some.inj answer
    trivial
  | ackAccept a kept current saved =>
    obtain rfl := Option.some.inj answer
    exact clear a rfl
  | learn m learner heard counted =>
    obtain ⟨-, rfl⟩ := echo_some answer.symm
    rfl
  | proposer message response next addressed asked =>
    subst answer
    have header := configured.proposer.proposerId
    generalize self.proposer.innerState = current at asked header
    cases asked with
    | quorum w m value same reached chosen =>
      rintro w' state -
      obtain rfl := InnerState.accepting.inj state
      rfl
    | won w ack same reached => exact header.trans configured.acceptor.symm
    | request | retryPrepare | retryAccept => trivial
  | ignored => simp at answer

theorem Unacked.no_learn {learn : Learn C} (unacked : self.Unacked message)
    (several : 2 ≤ quorumSize)
    (configured : self.Configured nodeId quorumSize totalNodes instanceId)
    (step : self.Step storage message (some (.learnMsg learn)) after kept events) : False := by
  rcases step.announces with ⟨heard, rfl, -, -⟩ | ⟨w, ack, state, rfl, same, reached, -, -⟩
  · have own : self.rank (.learnMsg heard) = 1 := if_pos unacked
    have less := step.rank_lt
    have least := (after.rank_learn learn).1
    omega
  · have quorum : w.quorumSize = quorumSize := by
      have header := configured.proposer.quorumSize
      rwa [state] at header
    have none_yet := unacked w state same.symm
    omega

theorem Cascade.no_learn {responses : List (MessageKind C)}
    (cascade : self.Cascade storage message responses after kept events)
    (configured : self.Configured nodeId quorumSize totalNodes instanceId)
    (several : 2 ≤ quorumSize) (unacked : self.Unacked message) :
    ∀ learn, .learnMsg learn ∉ responses := by
  induction cascade with
  | last step => simp
  | more step rest ih =>
    rintro learn told
    rcases List.mem_cons.mp told with rfl | later
    · exact unacked.no_learn several configured step
    · exact ih (step.configured configured) (step.unacked configured fun _ _ => unacked) learn later

theorem Cascade.learn_first {responses : List (MessageKind C)}
    (cascade : self.Cascade storage message responses after kept events)
    (configured : self.Configured nodeId quorumSize totalNodes instanceId)
    (several : 2 ≤ quorumSize) (clear : ∀ a, message = .acceptMsg a → self.Unacked message)
    {learn : Learn C} (told : .learnMsg learn ∈ responses) :
    responses.head? = some (.learnMsg learn) := by
  cases cascade with
  | last step => simp at told
  | more step rest =>
    rcases List.mem_cons.mp told with rfl | later
    · rfl
    · exact absurd later (rest.no_learn (step.configured configured) several
        (step.unacked configured clear) learn)

end PaxosInstance

theorem MultiPaxosNode.Opens.unacked {node : MultiPaxosNode C} {instanceId : Nat} {cmd : C}
    {first : MessageKind C} {inst : PaxosInstance C} (opens : node.Opens instanceId cmd first inst) :
    inst.Unacked first ∧ ∀ learn, first ≠ .learnMsg learn := by
  cases opens with
  | prepare unled positive fits => exact ⟨trivial, by simp⟩
  | accept ballot leads =>
    refine ⟨fun w state _ => ?_, by simp⟩
    obtain rfl := InnerState.accepting.inj state
    rfl

namespace Cluster

def Wins (p : Nat) (s : Cluster C) (a : Action C) (t : Cluster C) : Prop :=
  ∃ k m learn, a = .deliver p k ∧ s.sent[k]? = some m ∧
    (s.nodes p).wonBallot m = some learn.ballot ∧ learn.sender = p ∧
    ⟨p, m.paxosInstance, .learnMsg learn⟩ ∈ t.sent.drop s.sent.length ∧
    (t.nodes p).leaderBallot = some learn.ballot

def OwnLearn (total p : Nat) : MessageKind C → Prop
  | .learnMsg learn => learn.sender = p ∧ learn.ballot % total = p
  | _ => False

instance (total p : Nat) : (message : MessageKind C) → Decidable (OwnLearn total p message)
  | .learnMsg _ => inferInstanceAs (Decidable (_ ∧ _))
  | .requestCommandToLeader _ _ | .forwardAck _ _ | .prepareMsg _ | .promiseMsg _ | .acceptMsg _
  | .ackAcceptMsg _ | .nackPrepareMsg _ | .nackAcceptMsg _ | .learnedCommand _ => .isFalse id

def Announced (total : Nat) (s : Cluster C) (p : Nat) : Prop :=
  ∃ m ∈ s.sent, OwnLearn total p m.msg

instance (total : Nat) (s : Cluster C) (p : Nat) : Decidable (s.Announced total p) := by
  unfold Announced
  infer_instance

def FromWinners (total : Nat) (s : Cluster C) : Action C → Prop
  | .deliver _ k => ∀ m ∈ s.sent[k]?,
    match m.msg with
    | .learnMsg learn => s.Announced total learn.sender
    | _ => True
  | _ => True

instance (total : Nat) (s : Cluster C) : (a : Action C) → Decidable (s.FromWinners total a)
  | .deliver _ k =>
    have : ∀ m : Message C, Decidable (match m.msg with
        | .learnMsg learn => s.Announced total learn.sender
        | _ => True) := fun m =>
      match m.msg with
      | .learnMsg _ => inferInstanceAs (Decidable (Announced _ _ _))
      | .requestCommandToLeader _ _ | .forwardAck _ _ | .prepareMsg _ | .promiseMsg _
      | .acceptMsg _ | .ackAcceptMsg _ | .nackPrepareMsg _ | .nackAcceptMsg _
      | .learnedCommand _ => .isTrue trivial
    inferInstanceAs (Decidable (∀ m ∈ s.sent[k]?, _))
  | .propose _ _ | .getCommitId _ _ | .crash _ => .isTrue trivial

section Steps

variable [DecidableEq C] [Serde Nat] [Serde (AcceptedValue C)] {rules : Synod.Rules}
  {total : Nat} {s t : Cluster C} {a : Action C}

theorem Refines.unacked (refines : Refines rules total s) {p k : Nat} (member : p < total)
    {m : Message C} (arrived : s.sent[k]? = some m) (other : m.senderId ≠ p) :
    ∀ accept, m.msg = .acceptMsg accept →
      ((s.nodes p).instanceAt m.paxosInstance).Unacked m.msg := by
  intro accept asks
  rw [asks]
  intro w state same
  have proposals := Synod.proposals_reachable (refines.views m.paxosInstance)
  have round := proposals.rounds p member
  simp only [view, state] at round
  have owned := (proposals.owned k m.senderId (.acceptMsg accept) accept.ballot
    (by rw [Synod.Sent, ← asks]; exact arrived) rfl).1
  exact absurd (owned.symm.trans (same ▸ round.1)) other

theorem starts_no_learn {p : Nat} {cmd : C} {msgs : List (Message C)} {after : MultiPaxosNode C}
    {events : List (TraceEvent C)} (sound : MultiPaxosNode.Kept total p (s.nodes p))
    (starts : (s.nodes p).Starts cmd msgs after events) :
    ∀ m ∈ msgs, ∀ learn, m.msg ≠ .learnMsg learn := by
  cases starts with
  | intro first inst result responses kept trace bounded several opens cascade =>
    obtain ⟨unacked, opening⟩ := opens.unacked
    rw [sound.config] at several
    rintro m sent learn told
    obtain ⟨message, listed, rfl⟩ := List.mem_map.mp sent
    rcases List.mem_cons.mp listed with rfl | later
    · exact opening learn told
    · obtain rfl : message = .learnMsg learn := told
      exact cascade.no_learn (opens.launched sound).1 several unacked learn later

theorem Refines.new_learn (refines : Refines rules total s) (moves : Moves total s a t)
    {m : Message C} {learn : Learn C} (sent : m ∈ t.sent) (told : m.msg = .learnMsg learn) :
    (∃ m' ∈ s.sent, ∃ heard, m'.msg = .learnMsg heard ∧ heard.ballot = learn.ballot) ∨
      Wins (learn.ballot % total) s a t := by
  by_cases old : m ∈ s.sent
  · exact .inl ⟨m, old, learn, told, rfl⟩
  cases moves with
  | @start p cmd msgs after events member stays starts =>
    have new := (List.mem_append.mp sent).resolve_left old
    exact absurd told (starts_no_learn (refines.sound p member).toKept starts m new learn)
  | @taken p _ _ _ _ _ msgs _ _ member other arrived leads starts =>
    have new := (List.mem_append.mp sent).resolve_left old
    rcases List.mem_append.mp new with opening | last
    · exact absurd told (starts_no_learn (refines.sound p member).toKept starts m opening learn)
    · obtain rfl := List.mem_singleton.mp last
      simp [MultiPaxosNode.broadcast] at told
  | @synod p k heard responses after kept events member other arrived synod bounded several
      cascade =>
    have new := (List.mem_append.mp sent).resolve_left old
    have sound := refines.sound p member
    have configured := sound.instanceAt_configured heard.paxosInstance
    obtain ⟨response, listed, rfl⟩ := List.mem_map.mp new
    obtain rfl : response = .learnMsg learn := told
    have first := cascade.learn_first configured (sound.enough several)
      (refines.unacked member arrived other) listed
    obtain ⟨middle, saved, earlier, step⟩ := cascade.first
    rw [first] at step
    rcases step.announces with ⟨before, same, ballot, -⟩ |
      ⟨w, ack, state, same, current, reached, ballot, -⟩
    · exact .inl ⟨heard, List.mem_of_getElem? arrived, before, same, ballot.symm⟩
    · have round := (Synod.proposals_reachable (refines.views heard.paxosInstance)).rounds p member
      simp only [view, state] at round
      have owner : learn.ballot % total = p := by rw [ballot, round.1]
      rw [owner]
      refine .inr ⟨k, heard, learn, rfl, arrived, ?_, ?_, ?_, ?_⟩
      · simp [MultiPaxosNode.wonBallot, same, state, current, reached, ballot]
      · exact Option.some.inj (cascade.response_sender configured _ listed)
      · simpa [called, MultiPaxosNode.broadcast, sound.id] using listed
      · simp [called, MultiPaxosNode.afterSynod, first, same, MultiPaxosNode.leaderAfter]
  | forward =>
    obtain rfl := List.mem_singleton.mp ((List.mem_append.mp sent).resolve_left old)
    simp [MultiPaxosNode.broadcast] at told
  | dropped | acked | asked | crashed => exact absurd (by simpa [called] using sent) old

omit [DecidableEq C] [Serde Nat] [Serde (AcceptedValue C)] in
theorem known_called {p q r : Nat} {node : MultiPaxosNode C} {msgs : List (Message C)}
    {trace : List (TraceEvent C)} {heard : List (Nat × Nat)} {calls : List (Nat × C)}
    {placed : List (Placement C)}
    (known : ((s.called p node msgs trace heard calls placed).nodes q).knownLeaderId = some r) :
    (s.nodes q).knownLeaderId = some r ∨ q = p ∧ node.knownLeaderId = some r := by
  by_cases same : q = p
  · subst same
    exact .inr ⟨rfl, by simpa [called] using known⟩
  · exact .inl (by simpa [called, same] using known)

theorem Moves.known (moves : Moves total s a t) {q r : Nat}
    (known : (t.nodes q).knownLeaderId = some r) :
    (s.nodes q).knownLeaderId = some r ∨ ∃ k m learn, a = .deliver q k ∧ s.sent[k]? = some m ∧
      m.msg = .learnMsg learn ∧ learn.sender = r := by
  by_cases before : (s.nodes q).knownLeaderId = some r
  · exact .inl before
  cases moves with
  | forward | dropped =>
    obtain ⟨rfl, here⟩ := (known_called known).resolve_left before
    exact absurd here before
  | start member stays starts | taken member other arrived leads starts =>
    obtain ⟨rfl, here⟩ := (known_called known).resolve_left before
    cases starts
    exact absurd here before
  | @acked p _ _ forwardId _ instanceId =>
    obtain ⟨forwarded, pending, whole⟩ := (s.nodes p).handleForwardAck_frame forwardId instanceId
    obtain ⟨rfl, here⟩ := (known_called known).resolve_left before
    rw [whole] at here
    exact absurd here before
  | @asked p instanceId =>
    obtain ⟨pending, whole⟩ := (s.nodes p).getCommitId_frame instanceId
    obtain ⟨rfl, here⟩ := (known_called known).resolve_left before
    rw [whole] at here
    exact absurd here before
  | crashed member stored built =>
    obtain ⟨rfl, here⟩ := (known_called known).resolve_left before
    rw [MultiPaxosNode.withStorage_unaware built] at here
    simp at here
  | @synod p k m responses after kept events member other arrived synod bounded several cascade =>
    obtain ⟨rfl, here⟩ := (known_called known).resolve_left before
    obtain ⟨middle, saved, earlier, step⟩ := cascade.first
    rcases MultiPaxosNode.leadership_step step with ⟨ballot, -, unknown, -⟩ | ⟨-, heard⟩
    · simp [MultiPaxosNode.afterSynod, unknown] at here
    · simp only [MultiPaxosNode.afterSynod, heard] at here
      have told := (Option.or_eq_some_iff.mp here).resolve_right fun same => before same.2
      unfold MultiPaxosNode.hearsOf at told
      split at told
      next learn same =>
        refine .inr ⟨k, m, learn, rfl, arrived, same, ?_⟩
        split at told
        · exact Option.some.inj told
        · simp at told
      next => simp at told

theorem Moves.delivers {p k : Nat} (moves : Moves total s (.deliver p k) t) :
    p < total ∧ ∀ m, s.sent[k]? = some m → m.senderId ≠ p := by
  cases moves with
  | dropped member other found | taken member other found | acked member other found
  | synod member other found =>
    refine ⟨member, fun m arrived => ?_⟩
    obtain rfl := Option.some.inj (found.symm.trans arrived)
    exact other

theorem Moves.hears (refines : Refines rules total s) {p k : Nat}
    (moves : Moves total s (.deliver p k) t) {m : Message C} {learn : Learn C}
    (arrived : s.sent[k]? = some m) (told : m.msg = .learnMsg learn) :
    learn.sender ≠ p ∧ (t.nodes p).knownLeaderId = some learn.sender := by
  obtain ⟨member, other⟩ := moves.delivers
  have signed := ((Synod.identity_reachable (refines.views m.paxosInstance)).signed k m.senderId
    (.learnMsg learn) (by rw [Synod.Sent, ← told]; exact arrived) trivial).2
  have foreign : learn.sender ≠ p := by
    rw [Option.some.inj signed]
    exact other m arrived
  have named : learn.sender ≠ (s.nodes p).id := by rwa [(refines.sound p member).id]
  refine ⟨foreign, ?_⟩
  cases moves with
  | dropped _ _ found | taken _ _ found | acked _ _ found =>
    obtain rfl := Option.some.inj (found.symm.trans arrived)
    simp at told
  | synod _ _ found synod bounded several cascade =>
    obtain rfl := Option.some.inj (found.symm.trans arrived)
    simp [called, MultiPaxosNode.afterSynod, told, MultiPaxosNode.knownLeaderAfter, named]

theorem Moves.sent_grows (moves : Moves total s a t) {m : Message C} (sent : m ∈ s.sent) :
    m ∈ t.sent := by
  cases moves <;> exact List.mem_append_left _ sent

theorem Wins.announced (refines : Refines rules total s) {p : Nat} (moves : Moves total s a t)
    (wins : Wins p s a t) : t.Announced total p := by
  obtain ⟨k, m, learn, rfl, -, won, signed, sent, -⟩ := wins
  have member := moves.delivers.1
  refine ⟨_, List.mem_of_mem_drop sent, signed, ?_⟩
  have round := (Synod.proposals_reachable (refines.views m.paxosInstance)).rounds p member
  unfold MultiPaxosNode.wonBallot at won
  split at won
  next ack w same state =>
    simp only [view, state] at round
    split at won
    · rw [← Option.some.inj won, round.1]
    · simp at won
  next => simp at won

end Steps

section Runs

variable [DecidableEq C] [Serde Nat] [Serde (AcceptedValue C)] {total : Nat}
  {guard : Cluster C → Action C → Prop} {past : List (Cluster C × Action C × Cluster C)}
  {s : Cluster C}

def Won (past : List (Cluster C × Action C × Cluster C)) (p : Nat) : Prop :=
  ∃ e ∈ past, Wins p e.1 e.2.1 e.2.2

theorem learns_won (run : (system total).Past guard past s) {m : Message C} {learn : Learn C}
    (sent : m ∈ s.sent) (told : m.msg = .learnMsg learn) : Won past (learn.ballot % total) := by
  induction run generalizing m learn with
  | init starts => simp [starts.sent] at sent
  | step before allowed next ih =>
    have refines := refines_unruled before.reachable
    rcases refines.new_learn (step_moves next) sent told with ⟨m', old, heard, same, ballot⟩ | wins
    · obtain ⟨e, member, wins⟩ := ih old same
      exact ⟨e, List.mem_append_left _ member, ballot ▸ wins⟩
    · exact ⟨_, List.mem_append_right _ (List.mem_singleton.mpr rfl), wins⟩

theorem announced_iff (run : (system total).Past guard past s) {p : Nat} :
    s.Announced total p ↔ Won past p := by
  constructor
  · rintro ⟨⟨sender, id, message⟩, sent, own⟩
    cases message with
    | learnMsg learn => exact own.2 ▸ learns_won run sent rfl
    | _ => exact own.elim
  · refine run.lasting (Wins p) (·.Announced total p) (fun s a t reached _ next wins => ?_)
      fun s a t next => ?_
    · exact wins.announced (refines_unruled reached) (step_moves next)
    · rintro ⟨m, sent, own⟩
      exact ⟨m, (step_moves next).sent_grows sent, own⟩

omit [DecidableEq C] in
theorem Boots.unaware {p : Nat} {node : MultiPaxosNode C} (boots : Boots total p node) :
    node.knownLeaderId = none := by
  cases boots with
  | new => rfl
  | withStorage storage node empty built => exact MultiPaxosNode.withStorage_unaware built

theorem known_step {a : Action C} {t : Cluster C} (run : (system total).Past guard past s)
    (before : ∀ p < total, ∀ q, (s.nodes p).knownLeaderId = some q → Won past q)
    (next : step total s a = some t) :
    (∀ p < total, ∀ q, (t.nodes p).knownLeaderId = some q → Won (past ++ [(s, a, t)]) q) ↔
      s.FromWinners total a := by
  have moves := step_moves next
  constructor
  · intro named
    cases a with
    | deliver p k =>
      intro m arrived
      split
      next learn told =>
        obtain ⟨foreign, known⟩ :=
          Moves.hears (refines_unruled run.reachable) moves arrived told
        obtain ⟨e, member, wins⟩ := named p moves.delivers.1 learn.sender known
        -- The node that hears the Learn is not the one that wins.
        rcases List.mem_append.mp member with old | new
        · exact (announced_iff run).mpr ⟨e, old, wins⟩
        · obtain rfl := List.mem_singleton.mp new
          obtain ⟨k', m', won, same, -⟩ := wins
          exact absurd (Action.deliver.inj same).1.symm foreign
      next => trivial
    | _ => trivial
  · intro allowed p member q known
    have later : Won past q → Won (past ++ [(s, a, t)]) q := fun ⟨e, old, wins⟩ =>
      ⟨e, List.mem_append_left _ old, wins⟩
    rcases moves.known known with old | ⟨k, m, learn, rfl, arrived, told, rfl⟩
    · exact later (before p member q old)
    · have announced := allowed m arrived
      rw [told] at announced
      exact later ((announced_iff run).mp announced)

end Runs

theorem known_leader_won [DecidableEq C] [Serde Nat] [Serde (AcceptedValue C)] {total : Nat}
    {past : List (Cluster C × Action C × Cluster C)} {s : Cluster C}
    (run : (system total).Past (fun s a => s.FromWinners total a) past s) :
    (∀ p < total, ∀ q, (s.nodes p).knownLeaderId = some q → Won past q) ∧
    ∀ a t, step total s a = some t →
      ((∀ p < total, ∀ q, (t.nodes p).knownLeaderId = some q → Won (past ++ [(s, a, t)]) q) ↔
        s.FromWinners total a) := by
  have named : ∀ p < total, ∀ q, (s.nodes p).knownLeaderId = some q → Won past q := by
    induction run with
    | init starts =>
      intro p member q known
      rw [(starts.boots p member).unaware] at known
      simp at known
    | step before allowed next ih => exact (known_step before ih next).mpr allowed
  exact ⟨named, fun a t next => known_step run named next⟩

def winRun : List (Action Nat) :=
  [.propose 0 1, .deliver 1 0, .deliver 0 2, .deliver 1 3, .deliver 0 5, .deliver 1 6]

def heardWin : Cluster Nat :=
  Run.System.final (step 3) (fun s a => s.FromWinners 3 a) (boot 3) winRun

theorem known_leader_won_heard :
    ∃ past, (system 3).Past (fun s a => s.FromWinners 3 a) past heardWin ∧
      (heardWin.nodes 1).knownLeaderId = some 0 ∧ Won past 0 := by
  have reachable : (system 3).Reachable (fun s a => s.FromWinners 3 a) heardWin :=
    Run.System.final_reachable (fun _ _ _ next => next) (.init (boot_init 3)) (by decide +kernel)
  obtain ⟨past, run⟩ := reachable.past
  have known : (heardWin.nodes 1).knownLeaderId = some 0 := by decide +kernel
  exact ⟨past, run, known, (known_leader_won run).1 1 (by decide) 0 known⟩

-- Node 0 wins instance 0 with node 1, and node 2 hears of it from node 1 alone.
def hearsayRun : List (Action Nat) :=
  [.propose 0 1, .deliver 1 0, .deliver 0 2, .deliver 1 3, .deliver 0 5, .deliver 1 6, .deliver 2 7]

def hearsay : Cluster Nat :=
  Run.System.final (step 3) (fun s a => s.Once a ∧ NoCrash a) (boot 3) hearsayRun

theorem known_leader_echoed :
    ¬ ∀ (total : Nat) (past : List (Cluster Nat × Action Nat × Cluster Nat)) (s : Cluster Nat),
      (system total).Past (fun s a => s.Once a ∧ NoCrash a) past s →
      ∀ p < total, ∀ q, (s.nodes p).knownLeaderId = some q → Won past q := by
  intro named
  have reachable : (system 3).Reachable (fun s a => s.Once a ∧ NoCrash a) hearsay :=
    Run.System.final_reachable (fun _ _ _ next => next) (.init (boot_init 3)) (by decide +kernel)
  obtain ⟨past, run⟩ := reachable.past
  have won := named 3 past hearsay run 2 (by decide) 1 (by decide +kernel)
  exact absurd ((announced_iff run).mpr won) (by decide +kernel)

end Cluster

end Smr
