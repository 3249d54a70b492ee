import Smr.Cluster.Agreement
import Smr.Synod.Validity

set_option autoImplicit false

namespace Smr

variable {C : Type}

def MessageKind.Mentions (cmd : C) : MessageKind C → Prop
  | .requestCommandToLeader other _ | .learnedCommand other => other = cmd
  | message => message.Carries cmd

def PaxosInstance.Keeps (cmd : C) (inst : PaxosInstance C) : Prop :=
  inst.Holds cmd ∨ inst.learner.votes cmd ≠ 0

def PaxosStorage.Persists [Serde (AcceptedValue C)] (cmd : C) (store : PaxosStorage C) : Prop :=
  ∃ instanceId value, store.storage.map.get (acceptedKey instanceId) = some (Serde.toVec value) ∧
    (value : AcceptedValue C).command = cmd

namespace PaxosInstance

variable [DecidableEq C] [Serde Nat] [Serde (AcceptedValue C)]

theorem Step.not_learnedCommand {self after : PaxosInstance C}
    {storage kept : Option (PaxosStorage C)} {message response : MessageKind C}
    {events : List (TraceEvent C)}
    (step : self.Step storage message (some response) after kept events) (cmd : C) :
    response ≠ .learnedCommand cmd := by
  generalize whole : some response = reply at step
  rintro rfl
  cases step with
  | proposer message reply next addressed asked =>
    subst whole
    generalize self.proposer.innerState = current at asked
    cases asked
  | learn m learner reply heard =>
    cases (echo_some whole.symm).2
  | promise | nackPrepare | ackAccept | nackAccept | ignored => simp at whole

theorem Cascade.not_learnedCommand {self after : PaxosInstance C}
    {storage kept : Option (PaxosStorage C)} {message : MessageKind C}
    {responses : List (MessageKind C)} {events : List (TraceEvent C)}
    (cascade : Cascade self storage message responses after kept events) (cmd : C) :
    .learnedCommand cmd ∉ responses := by
  induction cascade with
  | last step => simp
  | more step rest ih =>
    rintro member
    rcases List.mem_cons.mp member with rfl | later
    · exact step.not_learnedCommand cmd rfl
    · exact ih later

end PaxosInstance

namespace Cluster

def Called (s : Cluster C) (total : Nat) (cmd : C) : Prop :=
  ∃ p < total, (p, cmd) ∈ s.calls

structure Sourced (total : Nat) (s : Cluster C) : Prop where
  placed : ∀ placement ∈ s.placed, s.Called total placement.command
  requests : ∀ m ∈ s.sent, ∀ cmd f, m.msg = .requestCommandToLeader cmd f → s.Called total cmd
  answers : ∀ m ∈ s.sent, ∀ cmd, m.msg ≠ .learnedCommand cmd

theorem Called.grow {total p : Nat} {s : Cluster C} {cmd : C} (called : s.Called total cmd)
    (node : MultiPaxosNode C) (msgs : List (Message C)) (trace : List (TraceEvent C))
    (heard : List (Nat × Nat)) (calls : List (Nat × C)) (placed : List (Placement C)) :
    (s.called p node msgs trace heard calls placed).Called total cmd := by
  obtain ⟨q, inside, member⟩ := called
  exact ⟨q, inside, List.mem_append_left _ member⟩

theorem Sourced.called {total p : Nat} {s : Cluster C} (sourced : Sourced total s)
    (node : MultiPaxosNode C) (msgs : List (Message C)) (trace : List (TraceEvent C))
    (heard : List (Nat × Nat)) (calls : List (Nat × C)) (placed : List (Placement C))
    (new : ∀ placement ∈ placed,
      (s.called p node msgs trace heard calls placed).Called total placement.command)
    (asked : ∀ m ∈ msgs, ∀ cmd f, m.msg = .requestCommandToLeader cmd f →
      (s.called p node msgs trace heard calls placed).Called total cmd)
    (answered : ∀ m ∈ msgs, ∀ cmd, m.msg ≠ .learnedCommand cmd) :
    Sourced total (s.called p node msgs trace heard calls placed) where
  placed placement member := by
    rcases List.mem_append.mp member with member | member
    · exact (sourced.placed placement member).grow _ _ _ _ _ _
    · exact new placement member
  requests m sent cmd f same := by
    rcases List.mem_append.mp sent with sent | sent
    · exact (sourced.requests m sent cmd f same).grow _ _ _ _ _ _
    · exact asked m sent cmd f same
  answers m sent := by
    rcases List.mem_append.mp sent with sent | sent
    · exact sourced.answers m sent
    · exact answered m sent

section Steps

variable [DecidableEq C] [Serde Nat] [Serde (AcceptedValue C)]

theorem starts_quiet {node after : MultiPaxosNode C} {cmd : C} {msgs : List (Message C)}
    {events : List (TraceEvent C)} (starts : node.Starts cmd msgs after events) :
    ∀ m ∈ msgs, m.msg.IsSynod ∧ ∀ other, m.msg ≠ .learnedCommand other := by
  intro m sent
  refine ⟨(starts.books.1 m sent).2, fun other => ?_⟩
  cases starts with
  | intro first inst result responses kept events bounded several opens cascade =>
    obtain ⟨response, member, rfl⟩ := List.mem_map.mp sent
    rintro rfl
    rcases List.mem_cons.mp member with same | later
    · cases opens <;> simp at same
    · exact cascade.not_learnedCommand other later

theorem Sourced.step {total : Nat} {s t : Cluster C} {a : Action C} (sourced : Sourced total s)
    (moves : Moves total s a t) : Sourced total t := by
  cases moves with
  | @forward p cmd member forwards =>
    refine sourced.called _ _ _ _ _ _ (by simp) (fun m sent other f same => ?_) (by
      simp [MultiPaxosNode.broadcast])
    obtain rfl := List.mem_singleton.mp sent
    simp only [MultiPaxosNode.broadcast, MessageKind.requestCommandToLeader.injEq] at same
    exact ⟨p, member, List.mem_append_right _ (by simp [same.1])⟩
  | @start p cmd msgs after events member stays starts =>
    refine sourced.called _ _ _ _ _ _ (fun placement new => ?_) (fun m sent other f same => ?_)
      fun m sent => (starts_quiet starts m sent).2
    · obtain rfl := List.mem_singleton.mp new
      exact ⟨p, member, List.mem_append_right _ (List.mem_singleton_self _)⟩
    · have synod := (starts_quiet starts m sent).1
      rw [same] at synod
      exact synod.elim
  | @taken p k sender instanceId forwardId cmd msgs after events member other arrived leads
      starts =>
    refine sourced.called _ _ _ _ _ _ (fun placement new => ?_) (fun m sent other f same => ?_)
      fun m sent other => ?_
    · obtain rfl := List.mem_singleton.mp new
      exact (sourced.requests _ (List.mem_of_getElem? arrived) cmd forwardId rfl).grow _ _ _ _ _ _
    · rcases List.mem_append.mp sent with sent | sent
      · have synod := (starts_quiet starts m sent).1
        rw [same] at synod
        exact synod.elim
      · obtain rfl := List.mem_singleton.mp sent
        simp [MultiPaxosNode.broadcast] at same
    · rcases List.mem_append.mp sent with sent | sent
      · exact (starts_quiet starts m sent).2 other
      · obtain rfl := List.mem_singleton.mp sent
        simp [MultiPaxosNode.broadcast]
  | @synod p k m responses after kept events member other arrived synod bounded several cascade =>
    refine sourced.called _ _ _ _ _ _ (by simp) (fun m' sent other f same => ?_)
      fun m' sent other => ?_
    · obtain ⟨response, listed, rfl⟩ := List.mem_map.mp sent
      have synod := cascade.responses_isSynod response listed
      rw [show response = _ from same] at synod
      exact synod.elim
    · obtain ⟨response, listed, rfl⟩ := List.mem_map.mp sent
      rintro rfl
      exact cascade.not_learnedCommand other listed
  | dropped | acked | asked | crashed =>
    exact sourced.called _ _ _ _ _ _ (by simp) (by simp) (by simp)

theorem sourced_reachable {total : Nat} {s : Cluster C} {guard : Cluster C → Action C → Prop}
    (reachable : (system total).Reachable guard s) : Sourced total s :=
  reachable.invariant (Sourced total)
    (fun s starts => ⟨by simp [starts.placed], by simp [starts.sent], by simp [starts.sent]⟩)
    fun _ _ _ _ sourced _ next => sourced.step (step_moves next)

end Steps

theorem commands_called [DecidableEq C] [Serde Nat] [Serde (AcceptedValue C)] {total : Nat}
    {s : Cluster C} {guard : Cluster C → Action C → Prop}
    (reachable : (system total).Reachable guard s) (cmd : C) :
    (∀ p < total, ∀ instanceId inst, (s.nodes p).paxosInstances instanceId = some inst →
      inst.Keeps cmd → s.Called total cmd) ∧
    (∀ p < total, ∀ store, (s.nodes p).storage = some store → store.Persists cmd →
      s.Called total cmd) ∧
    ∀ m ∈ s.sent, m.msg.Mentions cmd → s.Called total cmd := by
  have sourced := sourced_reachable reachable
  have refines := refines_unruled reachable
  have valid (id : Nat) := Synod.valid_reachable (refines.views id)
  have placed {id : Nat} {cmd : C} (placed : (s.view id).PlacedFor id cmd) :
      s.Called total cmd := by
    obtain ⟨placement, member, -, rfl⟩ := placed
    exact sourced.placed placement member
  refine ⟨fun p member id inst present keeps => ?_, fun p member store stored persists => ?_,
    fun m sent mentions => ?_⟩
  · have found : (s.view id).inst p = inst := by simp [view, MultiPaxosNode.instanceAt, present]
    rcases keeps with holds | counted
    · exact placed ((valid id).held p member cmd (found ▸ holds))
    · exact placed (Synod.tallied_reachable (refines.views id) p member cmd (found ▸ counted))
  · obtain ⟨id, value, found, rfl⟩ := persists
    obtain ⟨saved, represents, spelled⟩ := (refines.sound p member).storage store stored
    rw [represents.accepted] at found
    obtain ⟨stored, accepted, same⟩ := Option.map_eq_some_iff.mp found
    obtain rfl := Serde.toVec_injective same
    obtain ⟨state, held, accepted⟩ := Option.bind_eq_some_iff.mp accepted
    refine placed ((valid id).held p member stored.command (.inl ⟨⟨stored.ballot, _⟩, ?_, rfl⟩))
    have own : ((s.view id).inst p).acceptor = _ := spelled id
    rw [own, held]
    simp [recovered, accepted]
  · obtain ⟨k, found⟩ := List.mem_iff_getElem?.mp sent
    obtain ⟨sender, id, message⟩ := m
    cases message with
    | requestCommandToLeader other f =>
      obtain rfl : other = cmd := mentions
      exact sourced.requests _ sent other f rfl
    | learnedCommand other => exact absurd rfl (sourced.answers _ sent other)
    | _ => exact placed ((valid id).sent k sender _ cmd found mentions)

theorem commands_called_crashed :
    ⟨2, 0, .acceptMsg ⟨2, 5, 1⟩⟩ ∈ crashed.sent ∧ crashed.Called 3 1 := by
  have reachable : (system 3).Reachable (fun s a => s.Once a ∧ s.Ordinary a) crashed :=
    stored_reachable crashed_reachable
  have sent : ⟨2, 0, .acceptMsg ⟨2, 5, 1⟩⟩ ∈ crashed.sent := by decide +kernel
  exact ⟨sent, (commands_called reachable 1).2.2 _ sent rfl⟩

end Cluster

end Smr
