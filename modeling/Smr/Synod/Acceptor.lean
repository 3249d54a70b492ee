import Smr.Synod.Messages

set_option autoImplicit false

namespace Smr

structure Acceptor (C : Type) where
  myId : Nat
  maxBallot : Nat
  maxAccepted : Option (MaxAcceptedProposal C)
  deriving DecidableEq, Repr

namespace Acceptor

variable {C : Type}

def new (myId : Nat) : Acceptor C :=
  { myId := myId, maxBallot := 0, maxAccepted := none }

def handlePrepare (self : Acceptor C) (p : Prepare) : MessageKind C × Acceptor C :=
  if self.maxBallot < p.ballot then
    (.promiseMsg { sender := self.myId, ballot := p.ballot, maxAccepted := self.maxAccepted },
      { self with maxBallot := p.ballot })
  else
    (.nackPrepareMsg { sender := self.myId, maxBallot := self.maxBallot }, self)

-- The source accepts from its own max_ballot on (an implicit promise), not above it.
def handleAccept (self : Acceptor C) (a : Accept C) : MessageKind C × Acceptor C :=
  if self.maxBallot ≤ a.ballot then
    (.ackAcceptMsg { sender := self.myId, ballot := a.ballot },
      { self with
        maxBallot := a.ballot
        maxAccepted := some { ballot := a.ballot, command := a.command } })
  else
    (.nackAcceptMsg { sender := self.myId, maxBallot := self.maxBallot }, self)

theorem handlePrepare_promise (self : Acceptor C) (p : Prepare)
    (higher : self.maxBallot < p.ballot) :
    self.handlePrepare p =
      (.promiseMsg { sender := self.myId, ballot := p.ballot, maxAccepted := self.maxAccepted },
        { self with maxBallot := p.ballot }) := by
  simp [handlePrepare, higher]

theorem handlePrepare_nack (self : Acceptor C) (p : Prepare) (lower : p.ballot ≤ self.maxBallot) :
    self.handlePrepare p =
      (.nackPrepareMsg { sender := self.myId, maxBallot := self.maxBallot }, self) := by
  simp [handlePrepare, Nat.not_lt.mpr lower]

theorem handleAccept_ack (self : Acceptor C) (a : Accept C) (current : self.maxBallot ≤ a.ballot) :
    self.handleAccept a =
      (.ackAcceptMsg { sender := self.myId, ballot := a.ballot },
        { self with
          maxBallot := a.ballot
          maxAccepted := some { ballot := a.ballot, command := a.command } }) := by
  simp [handleAccept, current]

theorem handleAccept_nack (self : Acceptor C) (a : Accept C) (stale : a.ballot < self.maxBallot) :
    self.handleAccept a =
      (.nackAcceptMsg { sender := self.myId, maxBallot := self.maxBallot }, self) := by
  simp [handleAccept, Nat.not_le.mpr stale]

inductive Step (self : Acceptor C) : MessageKind C → MessageKind C → Acceptor C → Prop where
  | promise (p : Prepare) (higher : self.maxBallot < p.ballot) :
      Step self (.prepareMsg p)
        (.promiseMsg { sender := self.myId, ballot := p.ballot, maxAccepted := self.maxAccepted })
        { self with maxBallot := p.ballot }
  | nackPrepare (p : Prepare) (lower : p.ballot ≤ self.maxBallot) :
      Step self (.prepareMsg p)
        (.nackPrepareMsg { sender := self.myId, maxBallot := self.maxBallot }) self
  | ackAccept (a : Accept C) (current : self.maxBallot ≤ a.ballot) :
      Step self (.acceptMsg a) (.ackAcceptMsg { sender := self.myId, ballot := a.ballot })
        { self with
          maxBallot := a.ballot
          maxAccepted := some { ballot := a.ballot, command := a.command } }
  | nackAccept (a : Accept C) (stale : a.ballot < self.maxBallot) :
      Step self (.acceptMsg a)
        (.nackAcceptMsg { sender := self.myId, maxBallot := self.maxBallot }) self

theorem Step.myId {self after : Acceptor C} {message response : MessageKind C}
    (step : self.Step message response after) : after.myId = self.myId := by
  cases step <;> rfl

theorem Step.maxBallot_le {self after : Acceptor C} {message response : MessageKind C}
    (step : self.Step message response after) : self.maxBallot ≤ after.maxBallot := by
  cases step with
  | promise p higher => exact Nat.le_of_lt higher
  | ackAccept a current => exact current
  | nackPrepare _ _ | nackAccept _ _ => exact Nat.le_refl _

end Acceptor

end Smr
