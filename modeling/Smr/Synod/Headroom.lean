import Smr.Synod.Retries

set_option autoImplicit false

namespace Smr

variable {C S : Type}

theorem bind_fits {α β : Type} {x : Except Fault α} {f : α → Except Fault β}
    (first : ∃ value, x = .ok value)
    (rest : ∀ value, x = .ok value → ∃ result, f value = .ok result) :
    ∃ result, (x >>= f) = .ok result := by
  obtain ⟨value, done⟩ := first
  obtain ⟨result, whole⟩ := rest value done
  exact ⟨result, bind_ok.mpr ⟨value, done, whole⟩⟩

theorem StateWrapper.newPrepare_fits (self : StateWrapper S) (value : C)
    (positive : self.totalNodes ≠ 0) (fits : self.nextBallot ≤ u32Max) :
    self.newPrepare value =
      .ok (some (.prepareMsg { sender := self.proposerId, ballot := self.nextBallot }),
        .proposal (self.enter self.nextBallot (ProposalState.new value))) := by
  unfold nextBallot at fits
  have base : (self.ballot / self.totalNodes + 1) * self.totalNodes ≤ u32Max := by omega
  have round : self.ballot / self.totalNodes + 1 ≤ u32Max :=
    Nat.le_trans (Nat.le_mul_of_pos_right _ (Nat.pos_of_ne_zero positive)) base
  simp only [newPrepare, u32Div, if_neg positive, u32Add, u32Mul, checked, bind, Except.bind,
    if_pos round, if_pos base, if_pos fits, pure, Except.pure]
  rfl

namespace InnerState

def Headroom : InnerState C → MessageKind C → Prop
  | .initial w, .requestCommandToLeader _ _ => w.totalNodes ≠ 0 ∧ w.nextBallot ≤ u32Max
  | .proposal w, .promiseMsg _ => w.state.promises + 1 ≤ u32Max
  | .proposal w, .nackPrepareMsg m =>
    w.state.nacks + 1 ≤ u32Max ∧ w.quorumSize ≤ w.totalNodes ∧ w.totalNodes ≠ 0 ∧
      (w.adopt m.maxBallot).nextBallot ≤ u32Max
  | .accepting w, .ackAcceptMsg _ => w.state.accepts + 1 ≤ u32Max
  | .accepting w, .nackAcceptMsg m =>
    w.state.nacks + 1 ≤ u32Max ∧ w.quorumSize ≤ w.totalNodes ∧ w.totalNodes ≠ 0 ∧
      (w.adopt m.maxBallot).nextBallot ≤ u32Max
  | _, _ => True

theorem handlePromise_fits {w : StateWrapper (ProposalState C)} (m : Promise C)
    (fits : w.state.promises + 1 ≤ u32Max) : ∃ result, w.handlePromise m = .ok result := by
  unfold StateWrapper.handlePromise
  split
  · exact ⟨_, rfl⟩
  · refine bind_fits ⟨_, u32Add_ok.mpr ⟨fits, rfl⟩⟩ fun promises _ => ?_
    split <;> exact ⟨_, rfl⟩

theorem handleAckAccept_fits {w : StateWrapper (AcceptingState C)} (m : AckAccept)
    (fits : w.state.accepts + 1 ≤ u32Max) : ∃ result, w.handleAckAccept m = .ok result := by
  unfold StateWrapper.handleAckAccept
  split
  · exact ⟨_, rfl⟩
  · refine bind_fits ⟨_, u32Add_ok.mpr ⟨fits, rfl⟩⟩ fun accepts _ => ?_
    split <;> exact ⟨_, rfl⟩

theorem handleMessage_fits {self : InnerState C} {message : MessageKind C}
    (headroom : self.Headroom message) : ∃ result, self.handleMessage message = .ok result := by
  cases self with
  | initial w =>
    cases message with
    | requestCommandToLeader cmd forwardId =>
      exact ⟨_, w.newPrepare_fits cmd headroom.1 headroom.2⟩
    | _ => exact ⟨_, rfl⟩
  | proposal w =>
    cases message with
    | promiseMsg m => exact bind_fits (handlePromise_fits m headroom) fun _ _ => ⟨_, rfl⟩
    | nackPrepareMsg m =>
      obtain ⟨fits, quorum, positive, next⟩ := headroom
      refine bind_fits ⟨_, u32Add_ok.mpr ⟨fits, rfl⟩⟩ fun nacks _ => ?_
      refine bind_fits ⟨_, u32Sub_ok.mpr ⟨quorum, rfl⟩⟩ fun tolerated _ => ?_
      split
      · exact ⟨_, (w.adopt m.maxBallot).newPrepare_fits _ (by simpa using positive) next⟩
      · exact ⟨_, rfl⟩
    | _ => exact ⟨_, rfl⟩
  | accepting w =>
    cases message with
    | ackAcceptMsg m => exact bind_fits (handleAckAccept_fits m headroom) fun _ _ => ⟨_, rfl⟩
    | nackAcceptMsg m =>
      obtain ⟨fits, quorum, positive, next⟩ := headroom
      refine bind_fits ⟨_, u32Add_ok.mpr ⟨fits, rfl⟩⟩ fun nacks _ => ?_
      refine bind_fits ⟨_, u32Sub_ok.mpr ⟨quorum, rfl⟩⟩ fun tolerated _ => ?_
      split
      · exact ⟨_, (w.adopt m.maxBallot).newPrepare_fits _ (by simpa using positive) next⟩
      · exact ⟨_, rfl⟩
    | _ => exact ⟨_, rfl⟩
  | learning w => cases message <;> exact ⟨_, rfl⟩

end InnerState

end Smr
