import Smr.Synod.Votes

set_option autoImplicit false

namespace Smr

variable {C : Type}

def MessageKind.Carries (cmd : C) : MessageKind C → Prop
  | .promiseMsg m => ∃ x, m.maxAccepted = some x ∧ x.command = cmd
  | .acceptMsg a => a.command = cmd
  | .learnMsg m => m.command = cmd
  | _ => False

def InnerState.Holds (cmd : C) : InnerState C → Prop
  | .proposal w => w.state.value = cmd ∨ ∃ x ∈ w.state.maxAcceptedProposals, x.command = cmd
  | .accepting w => w.state.value = cmd
  | _ => False

def PaxosInstance.Holds (cmd : C) (inst : PaxosInstance C) : Prop :=
  (∃ x, inst.acceptor.maxAccepted = some x ∧ x.command = cmd) ∨
    inst.proposer.innerState.Holds cmd ∨ inst.learner.value = some cmd

theorem InnerState.Step.origin {self next : InnerState C} {message : MessageKind C}
    {response : Option (MessageKind C)} (addressed : message.ForProposer)
    (step : self.Step message response next) (cmd : C) :
    (next.Holds cmd → self.Holds cmd ∨ message.Carries cmd) ∧
      ∀ reply, response = some reply → reply.Carries cmd →
        self.Holds cmd ∨ message.Carries cmd := by
  cases step with
  | request => exact addressed.elim
  | promise w m same below =>
    refine ⟨?_, by simp⟩
    rintro (own | ⟨x, listed, rfl⟩)
    · exact .inl (.inl own)
    · rcases List.mem_append.mp listed with old | new
      · exact .inl (.inr ⟨x, old, rfl⟩)
      · exact .inr ⟨x, by simpa using new, rfl⟩
  | quorum w m value same reached chosen =>
    have source : value = cmd → (InnerState.proposal w).Holds cmd ∨
        (MessageKind.promiseMsg m).Carries cmd := by
      rintro rfl
      cases found : maxByBallot (w.state.maxAcceptedProposals ++ m.maxAccepted.toList) with
      | none => exact .inl (.inl (by simp [chosen, found]))
      | some top =>
        have command : top.command = value := by simp [chosen, found]
        rcases List.mem_append.mp (maxByBallot_some found).1 with old | new
        · exact .inl (.inr ⟨top, old, command⟩)
        · exact .inr ⟨top, by simpa using new, command⟩
    refine ⟨source, ?_⟩
    rintro reply ⟨⟩ carried
    exact source carried
  | nackPrepare w m tolerated => exact ⟨.inl, by simp⟩
  | nackAccept w m tolerated => exact ⟨.inl, by simp⟩
  | ack w m same below => exact ⟨.inl, by simp⟩
  | ignored state message ignores => exact ⟨.inl, by simp⟩
  | retryPrepare w m refused positive fits =>
    refine ⟨?_, ?_⟩
    · rintro (own | ⟨x, listed, -⟩)
      · exact .inl (.inl own)
      · exact (List.not_mem_nil listed).elim
    · rintro reply ⟨⟩ carried
      exact carried.elim
  | retryAccept w m refused positive fits =>
    refine ⟨?_, ?_⟩
    · rintro (own | ⟨x, listed, -⟩)
      · exact .inl own
      · exact (List.not_mem_nil listed).elim
    · rintro reply ⟨⟩ carried
      exact carried.elim
  | won w m same reached =>
    refine ⟨False.elim, ?_⟩
    rintro reply ⟨⟩ carried
    exact .inl carried

theorem PaxosInstance.Step.origin [DecidableEq C] [Serde Nat] [Serde (AcceptedValue C)]
    {self after : PaxosInstance C} {storage kept : Option (PaxosStorage C)}
    {message : MessageKind C} {response : Option (MessageKind C)} {events : List (TraceEvent C)}
    (step : self.Step storage message response after kept events) (cmd : C) :
    (after.Holds cmd → self.Holds cmd ∨ message.Carries cmd) ∧
      ∀ reply, response = some reply → reply.Carries cmd →
        self.Holds cmd ∨ message.Carries cmd := by
  cases step with
  | promise p kept higher saved =>
    refine ⟨.inl, ?_⟩
    rintro reply ⟨⟩ carried
    exact .inl (.inl carried)
  | nackPrepare p lower =>
    refine ⟨.inl, ?_⟩
    rintro reply ⟨⟩ carried
    exact carried.elim
  | ackAccept a kept current saved =>
    refine ⟨?_, ?_⟩
    · rintro (⟨x, same, command⟩ | held)
      · cases same
        exact .inr command
      · exact .inl (.inr held)
    · rintro reply ⟨⟩ carried
      exact carried.elim
  | nackAccept a stale =>
    refine ⟨.inl, ?_⟩
    rintro reply ⟨⟩ carried
    exact carried.elim
  | learn m learner reply heard =>
    refine ⟨?_, ?_⟩
    · rintro (accepted | proposed | learned)
      · exact .inl (.inl accepted)
      · exact .inl (.inr (.inl proposed))
      · rcases Learner.handleLearn_value heard with same | ⟨-, new⟩
        · exact .inl (.inr (.inr (same ▸ learned)))
        · exact .inr (Option.some.inj (new.symm.trans learned))
    · intro reply answer carried
      obtain ⟨-, rfl⟩ := echo_some answer
      exact .inr carried
  | proposer message response next addressed asked =>
    obtain ⟨state, answer⟩ := asked.origin addressed cmd
    refine ⟨?_, fun reply same carried => ?_⟩
    · rintro (accepted | proposed | learned)
      · exact .inl (.inl accepted)
      · exact (state proposed).imp_left fun held => .inr (.inl held)
      · exact .inl (.inr (.inr learned))
    · exact (answer reply same carried).imp_left fun held => .inr (.inl held)
  | ignored other => exact ⟨.inl, by simp⟩

namespace Synod

def PlacedFor (s : Synod C) (id : Nat) (cmd : C) : Prop :=
  ∃ placement ∈ s.placed, placement.instanceId = id ∧ placement.command = cmd

structure Valid (total id : Nat) (s : Synod C) : Prop where
  sent : ∀ k q message cmd, s.Sent id k q message → message.Carries cmd → s.PlacedFor id cmd
  held : ∀ p < total, ∀ cmd, (s.inst p).Holds cmd → s.PlacedFor id cmd

theorem Valid.act {total id : Nat} {s : Synod C} (valid : Valid total id s) {p : Nat}
    {after : PaxosInstance C} {response : Option (MessageKind C)} {events : List (TraceEvent C)}
    {handled : Set (Nat × Nat)} (more : List (Placement C))
    (answer : ∀ reply cmd, response = some reply → reply.Carries cmd →
      s.PlacedFor id cmd ∨ ∃ placement ∈ more, placement.instanceId = id ∧ placement.command = cmd)
    (held : ∀ cmd, after.Holds cmd →
      s.PlacedFor id cmd ∨ ∃ placement ∈ more, placement.instanceId = id ∧
        placement.command = cmd) :
    Valid total id (s.act id p after response events handled (s.placed ++ more)) := by
  have grown (cmd : C) (source : s.PlacedFor id cmd ∨
      ∃ placement ∈ more, placement.instanceId = id ∧ placement.command = cmd) :
      (s.act id p after response events handled (s.placed ++ more)).PlacedFor id cmd := by
    rcases source with ⟨placement, member, same⟩ | ⟨placement, member, same⟩
    · exact ⟨placement, List.mem_append_left _ member, same⟩
    · exact ⟨placement, List.mem_append_right _ member, same⟩
  refine ⟨fun k q message cmd sent carried => ?_, fun q member cmd holds => ?_⟩
  · rcases sent_act.mp sent with old | ⟨-, -, new⟩
    · exact grown cmd (.inl (valid.sent k q message cmd old carried))
    · exact grown cmd (answer message cmd new carried)
  · by_cases same : q = p
    · subst same
      rw [act_inst_self] at holds
      exact grown cmd (held cmd holds)
    · rw [act_inst_other same] at holds
      exact grown cmd (.inl (valid.held q member cmd holds))

variable [DecidableEq C] [Serde Nat] [Serde (AcceptedValue C)]

theorem Valid.step {total id : Nat} {s t : Synod C} {event : Event C} (valid : Valid total id s)
    (step : Step total id s event t) : Valid total id t := by
  cases step with
  | @handle p k q message response after storage kept events member arrived step =>
    have source (cmd : C) (known : (s.inst p).Holds cmd ∨ message.Carries cmd) :
        s.PlacedFor id cmd :=
      known.elim (valid.held p member cmd) (valid.sent k q message cmd arrived)
    have acted : Valid total id
        (s.act id p after response events (insert (k, p) s.handled) (s.placed ++ [])) :=
      valid.act []
        (fun reply cmd new carried => .inl (source cmd ((step.origin cmd).2 reply new carried)))
        (fun cmd holds => .inl (source cmd ((step.origin cmd).1 holds)))
    simpa using acted
  | @prepare p ballot cmd request member isFresh unopened residue positive =>
    refine valid.act _ ?_ ?_
    · rintro reply other ⟨⟩ carried
      exact carried.elim
    · rintro other (⟨x, same, -⟩ | (rfl | ⟨x, listed, -⟩) | learned)
      · simp [launched, fresh, PaxosInstance.fresh, Acceptor.new] at same
      · exact .inr ⟨_, List.mem_singleton_self _, rfl, rfl⟩
      · exact (List.not_mem_nil listed).elim
      · simp [launched, fresh, PaxosInstance.fresh, Learner.new] at learned
  | @accept p ballot cmd request member isFresh unopened residue positive =>
    refine valid.act _ ?_ ?_
    · rintro reply other ⟨⟩ rfl
      exact .inr ⟨_, List.mem_singleton_self _, rfl, rfl⟩
    · rintro other (⟨x, same, -⟩ | rfl | learned)
      · simp [launched, fresh, PaxosInstance.fresh, Acceptor.new] at same
      · exact .inr ⟨_, List.mem_singleton_self _, rfl, rfl⟩
      · simp [launched, fresh, PaxosInstance.fresh, Learner.new] at learned
  | @restart p member =>
    refine ⟨valid.sent, fun q inside cmd holds => ?_⟩
    by_cases same : q = p
    · subst same
      simp only [Function.update_self] at holds
      rcases holds with accepted | proposed | learned
      · exact valid.held q inside cmd (.inl accepted)
      · exact proposed.elim
      · simp [fresh, PaxosInstance.fresh, Learner.new] at learned
    · simp only [Function.update_of_ne same] at holds
      exact valid.held q inside cmd holds
  | @elsewhere msgs handled events placed others grows only outside away =>
    have grown (cmd : C) (source : s.PlacedFor id cmd) : PlacedFor
        { s with sent := s.sent ++ msgs, handled := handled, trace := s.trace ++ events,
                 placed := s.placed ++ placed } id cmd := by
      obtain ⟨placement, member, same⟩ := source
      exact ⟨placement, List.mem_append_left _ member, same⟩
    refine ⟨fun k q message cmd sent carried => grown cmd ?_, fun q inside cmd holds =>
      grown cmd (valid.held q inside cmd holds)⟩
    have synod : message.IsSynod := by
      cases message <;> trivial
    exact valid.sent k q message cmd ((sent_append synod others).mp sent) carried

omit [DecidableEq C] [Serde Nat] [Serde (AcceptedValue C)] in
theorem Init.valid {total id : Nat} {s : Synod C} (starts : Init total id s) :
    Valid total id s where
  sent k q message cmd sent := by simp [Sent, starts.sent] at sent
  held p member cmd holds := by
    rw [starts.inst p member] at holds
    rcases holds with ⟨x, same, -⟩ | proposed | learned
    · simp [fresh, PaxosInstance.fresh, Acceptor.new] at same
    · exact proposed.elim
    · simp [fresh, PaxosInstance.fresh, Learner.new] at learned

theorem valid_reachable {total id : Nat} {guard : Synod C → Event C → Prop} {s : Synod C}
    (reachable : (system total id).Reachable guard s) : Valid total id s :=
  reachable.invariant (Valid total id) (fun _ starts => Init.valid starts)
    fun _ _ _ _ before _ next => Valid.step before next

def Tallied (total id : Nat) (s : Synod C) : Prop :=
  ∀ p < total, ∀ cmd, (s.inst p).learner.votes cmd ≠ 0 → s.PlacedFor id cmd

theorem Tallied.step {total id : Nat} {s t : Synod C} {event : Event C}
    (tallied : Tallied total id s) (valid : Valid total id s) (step : Step total id s event t) :
    Tallied total id t := by
  have acted {p : Nat} {after : PaxosInstance C} {response : Option (MessageKind C)}
      {events : List (TraceEvent C)} {handled : Set (Nat × Nat)} {placed : List (Placement C)}
      (older : s.placed ⊆ placed)
      (here : ∀ cmd, after.learner.votes cmd ≠ 0 → s.PlacedFor id cmd) :
      Tallied total id (s.act id p after response events handled placed) := by
    intro q inside cmd counted
    have known : s.PlacedFor id cmd := by
      by_cases same : q = p
      · subst same
        rw [act_inst_self] at counted
        exact here cmd counted
      · rw [act_inst_other same] at counted
        exact tallied q inside cmd counted
    obtain ⟨placement, member, rest⟩ := known
    exact ⟨placement, older member, rest⟩
  have unlearned (p : Nat) {cmd : C} (counted : (fresh total p id).learner.votes cmd ≠ 0) :
      s.PlacedFor id cmd := absurd rfl counted
  cases step with
  | @handle p k q message response after storage kept events member arrived step =>
    refine acted (List.Subset.refl _) fun cmd counted => ?_
    cases step with
    | learn m learner reply heard =>
      rcases Learner.handleLearn_votes heard counted with earlier | carried
      · exact tallied p member cmd earlier
      · exact valid.sent k q _ cmd arrived carried
    | promise | nackPrepare | ackAccept | nackAccept | proposer | ignored =>
      exact tallied p member cmd counted
  | @prepare p ballot cmd request member isFresh unopened residue positive =>
    exact acted (List.subset_append_left _ _) fun cmd counted => unlearned p counted
  | @accept p ballot cmd request member isFresh unopened residue positive =>
    exact acted (List.subset_append_left _ _) fun cmd counted => unlearned p counted
  | @restart p member =>
    intro q inside cmd counted
    by_cases same : q = p
    · subst same
      simp only [Function.update_self] at counted
      exact unlearned q counted
    · simp only [Function.update_of_ne same] at counted
      exact tallied q inside cmd counted
  | @elsewhere msgs handled events placed others grows only outside away =>
    intro q inside cmd counted
    obtain ⟨placement, member, rest⟩ := tallied q inside cmd counted
    exact ⟨placement, List.mem_append_left _ member, rest⟩

theorem tallied_reachable {total id : Nat} {guard : Synod C → Event C → Prop} {s : Synod C}
    (reachable : (system total id).Reachable guard s) : Tallied total id s :=
  reachable.invariant (Tallied total id)
    (fun s starts p member cmd counted => absurd (by rw [starts.inst p member]; rfl) counted)
    fun _ _ _ reached before _ next => Tallied.step before (valid_reachable reached) next

end Synod

end Smr
