import Smr.Synod.Proposals
import Smr.Synod.Retries

set_option autoImplicit false

namespace Smr

variable {C : Type}

namespace TraceEvent

def nodeId : TraceEvent C → Nat
  | .phase1a nodeId _ _ | .phase1b nodeId _ _ _ _ _ | .nackPrepare nodeId _ _ _ _
  | .phase2a nodeId _ _ _ | .phase2b nodeId _ _ _ _ _ | .nackAccept nodeId _ _ _ _
  | .learn nodeId _ _ _ => nodeId

def sender : TraceEvent C → Nat
  | .phase1b _ _ _ sender _ _ | .nackPrepare _ _ _ sender _ | .phase2b _ _ _ sender _ _
  | .nackAccept _ _ _ sender _ => sender
  | .phase1a nodeId _ _ | .phase2a nodeId _ _ _ | .learn nodeId _ _ _ => nodeId

end TraceEvent

namespace PaxosInstance

variable [Serde Nat] [Serde (AcceptedValue C)]

theorem Step.names [DecidableEq C] {self after : PaxosInstance C}
    {storage kept : Option (PaxosStorage C)} {message : MessageKind C}
    {response : Option (MessageKind C)} {events : List (TraceEvent C)}
    (step : self.Step storage message response after kept events) :
    ∀ event ∈ events, event.nodeId = self.acceptor.myId ∧
      (event.sender = self.acceptor.myId ∨ message.sender = some event.sender) := by
  cases step with
  | promise p kept higher saved | nackPrepare p lower | ackAccept a kept current saved
  | nackAccept a stale => simp [TraceEvent.nodeId, TraceEvent.sender, MessageKind.sender]
  | learn m learner reply heard =>
    intro event traced
    unfold learnTrace at traced
    split at traced
    · rw [List.mem_singleton.mp traced]
      exact ⟨rfl, .inl rfl⟩
    · simp at traced
  | proposer message response next addressed asked =>
    intro event traced
    unfold proposerTrace at traced
    split at traced
    · rw [List.mem_singleton.mp traced]
      exact ⟨rfl, .inl rfl⟩
    · rw [List.mem_singleton.mp traced]
      exact ⟨rfl, .inl rfl⟩
    · simp at traced
  | ignored cmd => simp

theorem Step.rounds_climb [DecidableEq C] {self after : PaxosInstance C}
    {storage kept : Option (PaxosStorage C)} {message : MessageKind C}
    {response : Option (MessageKind C)} {events : List (TraceEvent C)}
    (step : self.Step storage message response after kept events) :
    let header := self.proposer.innerState.header
    (after.proposer.innerState.Begun → self.proposer.innerState.Begun) ∧
      header.ballot / header.totalNodes ≤
        after.proposer.innerState.header.ballot / header.totalNodes ∧
      ∀ p, response = some (.prepareMsg p) → self.proposer.innerState.Begun ∧
        header.ballot / header.totalNodes < p.ballot / header.totalNodes := by
  intro header
  cases step with
  | proposer message response next addressed asked =>
    rcases self with ⟨acceptor, ⟨state⟩, learner, instanceId⟩
    have block {S : Type} (w : StateWrapper S) (maxBallot : Nat) (positive : w.totalNodes ≠ 0) :
        w.ballot / w.totalNodes < (w.adopt maxBallot).nextBallot / w.totalNodes := by
      rw [InnerState.retry_ballot]
      refine Nat.lt_of_lt_of_le ?_ (Nat.div_le_div_right (Nat.le_add_right _ _))
      rw [Nat.mul_div_cancel _ (Nat.pos_of_ne_zero positive)]
      exact Nat.lt_succ_of_le (Nat.div_le_div_right (Nat.le_max_left _ _))
    cases asked with
    | request => exact addressed.elim
    | retryPrepare w m refused positive fits | retryAccept w m refused positive fits =>
      refine ⟨fun _ => trivial, Nat.le_of_lt (block w m.maxBallot positive), fun p told => ?_⟩
      obtain rfl := MessageKind.prepareMsg.inj (Option.some.inj told)
      exact ⟨trivial, block w m.maxBallot positive⟩
    | ignored => exact ⟨id, Nat.le_refl _, by simp⟩
    | _ => exact ⟨fun _ => trivial, Nat.le_refl _, by simp⟩
  | learn m learner reply heard =>
    exact ⟨id, Nat.le_refl _, fun p told => by simpa using (echo_some told).2⟩
  | _ => exact ⟨id, Nat.le_refl _, by simp⟩

theorem Step.proposed [DecidableEq C] {self after : PaxosInstance C}
    {storage kept : Option (PaxosStorage C)} {message : MessageKind C} {a : Accept C}
    {events : List (TraceEvent C)}
    (step : self.Step storage message (some (.acceptMsg a)) after kept events) :
    .phase2a self.acceptor.myId self.instanceId a.ballot a.command ∈ events := by
  generalize answer : some (MessageKind.acceptMsg a) = response at step
  cases step with
  | learn m learner reply heard => simpa using (echo_some answer.symm).2
  | proposer message response next addressed asked =>
    subst answer
    generalize self.proposer.innerState = current at asked
    cases asked with
    | quorum w m value same reached chosen => exact List.mem_singleton.mpr rfl
  | _ => simp at answer

end PaxosInstance

namespace Synod

section Openings

variable {total id p : Nat} {s t : Synod C}

-- A round is the one its node announced, or one of a higher block of ballots.
structure Opening (total id : Nat) (s : Synod C) : Prop where
  begun : ∀ p < total, (s.inst p).proposer.innerState.Begun → ∃ b, .phase1a p id b ∈ s.trace ∧
    b / total ≤ (s.inst p).proposer.innerState.header.ballot / total
  asked : ∀ k q m, s.Sent id k q (.prepareMsg m) → .phase1a q id m.ballot ∈ s.trace ∨
    ∃ b, .phase1a q id b ∈ s.trace ∧ b / total < m.ballot / total

theorem Opening.grow (opening : Opening total id s) {events : List (TraceEvent C)}
    (traced : t.trace = s.trace ++ events)
    (still : ∀ a < total, (t.inst a).proposer.innerState.Begun →
      (t.inst a).proposer = (s.inst a).proposer)
    (sent : ∀ k q m, t.Sent id k q (.prepareMsg m) → s.Sent id k q (.prepareMsg m)) :
    Opening total id t where
  begun a member begun := by
    have same := still a member begun
    rw [same] at begun ⊢
    obtain ⟨b, announced, below⟩ := opening.begun a member begun
    exact ⟨b, traced ▸ List.mem_append_left _ announced, below⟩
  asked k q m told := by
    rw [traced]
    refine (opening.asked k q m (sent k q m told)).imp (List.mem_append_left _) ?_
    rintro ⟨b, announced, below⟩
    exact ⟨b, List.mem_append_left _ announced, below⟩

variable [DecidableEq C] [Serde Nat] [Serde (AcceptedValue C)]

theorem Opening.handle (identity : Identity total id s) (opening : Opening total id s)
    {message : MessageKind C} {response : Option (MessageKind C)} {after : PaxosInstance C}
    {storage kept : Option (PaxosStorage C)} {events : List (TraceEvent C)} (member : p < total)
    (step : (s.inst p).Step storage message response after kept events)
    (handled : Set (Nat × Nat)) :
    Opening total id (s.act id p after response events handled s.placed) := by
  have nodes := (identity.configured p member).proposer.totalNodes
  obtain ⟨begins, climbs, retries⟩ := step.rounds_climb
  rw [nodes] at climbs retries
  constructor
  · intro a inside begun
    by_cases same : a = p
    · subst same
      rw [act_inst_self] at begun ⊢
      obtain ⟨b, announced, below⟩ := opening.begun a inside (begins begun)
      exact ⟨b, List.mem_append_left _ announced, Nat.le_trans below climbs⟩
    · rw [act_inst_other same] at begun ⊢
      obtain ⟨b, announced, below⟩ := opening.begun a inside begun
      exact ⟨b, List.mem_append_left _ announced, below⟩
  · intro k q m told
    rcases sent_act.mp told with old | ⟨-, rfl, new⟩
    · refine (opening.asked k q m old).imp (List.mem_append_left _) ?_
      rintro ⟨b, announced, below⟩
      exact ⟨b, List.mem_append_left _ announced, below⟩
    · obtain ⟨begun, above⟩ := retries m new
      obtain ⟨b, announced, below⟩ := opening.begun q member begun
      exact .inr ⟨b, List.mem_append_left _ announced, Nat.lt_of_le_of_lt below above⟩

theorem Step.opening {event : Event C} (identity : Identity total id s)
    (opening : Opening total id s) (ordinary : Ordinary event)
    (step : Step total id s event t) : Opening total id t := by
  cases step with
  | handle member arrived step => exact opening.handle identity member step _
  | @prepare p ballot cmd request member isFresh unopened residue positive =>
    constructor
    · intro a inside begun
      by_cases same : a = p
      · subst same
        rw [act_inst_self] at begun ⊢
        exact ⟨ballot, List.mem_append_right _ (List.mem_singleton.mpr rfl), Nat.le_refl _⟩
      · rw [act_inst_other same] at begun ⊢
        obtain ⟨b, announced, below⟩ := opening.begun a inside begun
        exact ⟨b, List.mem_append_left _ announced, below⟩
    · intro k q m told
      rcases sent_act.mp told with old | ⟨-, rfl, new⟩
      · refine (opening.asked k q m old).imp (List.mem_append_left _) ?_
        rintro ⟨b, announced, below⟩
        exact ⟨b, List.mem_append_left _ announced, below⟩
      · obtain rfl := MessageKind.prepareMsg.inj (Option.some.inj new)
        exact .inl (List.mem_append_right _ (List.mem_singleton.mpr rfl))
  | accept => exact ordinary.elim
  | @restart p member =>
    refine opening.grow (List.append_nil _).symm (fun a inside begun => ?_) fun _ _ _ told => told
    by_cases same : a = p
    · subst same
      simp only [Function.update_self] at begun
      exact begun.elim
    · simp [same]
  | elsewhere others grows only outside away =>
    exact opening.grow rfl (fun _ _ _ => rfl) fun k q m told =>
      (sent_append (show MessageKind.IsSynod (.prepareMsg m) from trivial) others).mp told

theorem opening_reachable {rules : Rules} (ordinary : rules.ordinary)
    (reachable : (system total id).Reachable (Obeys rules total id) s) : Opening total id s := by
  refine reachable.invariant (Opening total id) (fun s starts => ?_)
    fun s event t before opening obeys step =>
      Step.opening (identity_reachable before) opening (obeys.2.2 ordinary) step
  refine ⟨fun a inside begun => ?_, fun k q m told => ?_⟩
  · rw [starts.inst a inside] at begun
    exact begun.elim
  · simp [Sent, starts.sent] at told

end Openings

section Names

variable {total id : Nat} {s t : Synod C} [DecidableEq C] [Serde Nat] [Serde (AcceptedValue C)]

def Named (total id : Nat) (s : Synod C) : Prop :=
  ∀ event ∈ s.trace, event.instanceId = id → event.nodeId < total ∧ event.sender < total

theorem Step.named {event : Event C} (identity : Identity total id s) (named : Named total id s)
    (step : Step total id s event t) : Named total id t := by
  intro traced happened here
  cases step with
  | @handle p k q message response after storage kept events member arrived step =>
    rcases List.mem_append.mp happened with old | new
    · exact named traced old here
    · obtain ⟨signed, told⟩ := step.names traced new
      have own := (identity.configured p member).acceptor
      rw [own] at signed told
      refine ⟨signed ▸ member, ?_⟩
      rcases told with mine | theirs
      · exact mine ▸ member
      · have synod : message.IsSynod := by
          cases step with
          | proposer message response next addressed asked =>
            cases message <;> trivial
          | _ => trivial
        obtain ⟨inside, same⟩ := identity.signed k q message arrived synod
        rw [same] at theirs
        exact Option.some.inj theirs ▸ inside
  | prepare member | accept member =>
    rcases List.mem_append.mp happened with old | new
    · exact named traced old here
    · rw [List.mem_singleton.mp new]
      exact ⟨member, member⟩
  | restart member => exact named traced happened here
  | elsewhere others grows only outside away =>
    rcases List.mem_append.mp happened with old | new
    · exact named traced old here
    · exact absurd here (outside traced new)

theorem named_reachable {guard : Synod C → Event C → Prop}
    (reachable : (system total id).Reachable guard s) : Named total id s :=
  reachable.invariant (Named total id)
    (fun s starts event happened => by simp [starts.trace] at happened)
    fun _ _ _ before named _ step => Step.named (identity_reachable before) named step

end Names

section Accepts

variable {total id : Nat} {s t : Synod C} [DecidableEq C] [Serde Nat] [Serde (AcceptedValue C)]

def Traced (id : Nat) (s : Synod C) : Prop :=
  ∀ k q a, s.Sent id k q (.acceptMsg a) → .phase2a q id a.ballot a.command ∈ s.trace

theorem Step.accepts {event : Event C} (identity : Identity total id s) (traced : Traced id s)
    (step : Step total id s event t) : Traced id t := by
  intro k q a told
  cases step with
  | @handle p _ _ message response after storage kept events member arrived step =>
    rcases sent_act.mp told with old | ⟨-, rfl, new⟩
    · exact List.mem_append_left _ (traced k q a old)
    · subst new
      have configured := identity.configured q member
      have event := step.proposed
      rw [configured.acceptor, configured.instanceId] at event
      exact List.mem_append_right _ event
  | prepare =>
    rcases sent_act.mp told with old | ⟨-, -, new⟩
    · exact List.mem_append_left _ (traced k q a old)
    · simp at new
  | accept =>
    rcases sent_act.mp told with old | ⟨-, rfl, new⟩
    · exact List.mem_append_left _ (traced k q a old)
    · obtain rfl := MessageKind.acceptMsg.inj (Option.some.inj new)
      exact List.mem_append_right _ (List.mem_singleton.mpr rfl)
  | restart => exact traced k q a told
  | elsewhere others grows only outside away =>
    exact List.mem_append_left _ (traced k q a ((sent_append
      (show MessageKind.IsSynod (.acceptMsg a) from trivial) others).mp told))

theorem traced_reachable {guard : Synod C → Event C → Prop}
    (reachable : (system total id).Reachable guard s) : Traced id s :=
  reachable.invariant (Traced id)
    (fun s starts k q a told => by simp [Sent, starts.sent] at told)
    fun _ _ _ before traced _ step => Step.accepts (identity_reachable before) traced step

end Accepts

end Synod

end Smr

