import Smr.Node.Crash
import Smr.Synod.Selection

set_option autoImplicit false

namespace Smr

variable {C : Type}

-- Arithmetic and assertions panic; Err comes from the storage alone.
def OnlyPanics {A : Type} (x : Except Fault A) : Prop :=
  x ≠ .error .failed

theorem OnlyPanics.bind {A B : Type} {x : Except Fault A} {f : A → Except Fault B}
    (first : OnlyPanics x) (rest : ∀ value, OnlyPanics (f value)) : OnlyPanics (x >>= f) := by
  cases x with
  | error fault => simpa [OnlyPanics, Bind.bind, Except.bind] using first
  | ok value => exact rest value

theorem onlyPanics_checked (limit value : Nat) : OnlyPanics (checked limit value) := by
  unfold OnlyPanics checked
  split <;> simp

theorem onlyPanics_ok {A : Type} (value : A) : OnlyPanics (Except.ok value) := by
  simp [OnlyPanics]

theorem onlyPanics_sub (a b : Nat) : OnlyPanics (u32Sub a b) := by
  unfold OnlyPanics u32Sub
  split <;> simp

theorem onlyPanics_div (a b : Nat) : OnlyPanics (u32Div a b) := by
  unfold OnlyPanics u32Div
  split <;> simp

theorem StateWrapper.newPrepare_panics {S : Type} (self : StateWrapper S) (value : C) :
    OnlyPanics (self.newPrepare value) :=
  (onlyPanics_div _ _).bind fun _ => (onlyPanics_checked _ _).bind fun _ =>
    (onlyPanics_checked _ _).bind fun _ => (onlyPanics_checked _ _).bind fun _ => onlyPanics_ok _

namespace InnerState

theorem handleMessage_panics (self : InnerState C) (message : MessageKind C) :
    OnlyPanics (self.handleMessage message) := by
  cases self with
  | initial w =>
    cases message with
    | requestCommandToLeader cmd forwardId => exact w.newPrepare_panics cmd
    | _ => exact onlyPanics_ok _
  | proposal w =>
    cases message with
    | promiseMsg m =>
      refine OnlyPanics.bind ?_ fun _ => onlyPanics_ok _
      unfold StateWrapper.handlePromise
      split
      · exact onlyPanics_ok _
      · refine (onlyPanics_checked _ _).bind fun promises => ?_
        split <;> exact onlyPanics_ok _
    | nackPrepareMsg m =>
      refine (onlyPanics_checked _ _).bind fun nacks => (onlyPanics_sub _ _).bind fun rest => ?_
      split
      · exact StateWrapper.newPrepare_panics _ _
      · exact onlyPanics_ok _
    | _ => exact onlyPanics_ok _
  | accepting w =>
    cases message with
    | ackAcceptMsg m =>
      refine OnlyPanics.bind ?_ fun _ => onlyPanics_ok _
      unfold StateWrapper.handleAckAccept
      split
      · exact onlyPanics_ok _
      · refine (onlyPanics_checked _ _).bind fun accepts => ?_
        split <;> exact onlyPanics_ok _
    | nackAcceptMsg m =>
      refine (onlyPanics_checked _ _).bind fun nacks => (onlyPanics_sub _ _).bind fun rest => ?_
      split
      · exact StateWrapper.newPrepare_panics _ _
      · exact onlyPanics_ok _
    | _ => exact onlyPanics_ok _
  | learning w => cases message <;> exact onlyPanics_ok _

def progress : InnerState C → Nat
  | .initial w => 3 * w.ballot
  | .proposal w => 3 * w.ballot
  | .accepting w => 3 * w.ballot + 1
  | .learning w => 3 * w.ballot + 2

def Advances (response : MessageKind C) : Prop :=
  match response with
  | .prepareMsg _ | .acceptMsg _ => True
  | _ => False

theorem Step.advances {self next : InnerState C} {message response : MessageKind C}
    (step : self.Step message (some response) next) :
    Advances response ∨ ∃ m, response = .learnMsg m := by
  cases step with
  | won => exact .inr ⟨_, rfl⟩
  | _ => exact .inl trivial

theorem Step.progress_le {self next : InnerState C} {message : MessageKind C}
    {response : Option (MessageKind C)} (step : self.Step message response next) :
    self.progress ≤ next.progress := by
  cases step with
  | request w cmd forwardId positive fits =>
    have higher := w.lt_nextBallot positive
    simp only [progress, StateWrapper.enter]
    omega
  | retryPrepare w m refused positive fits | retryAccept w m refused positive fits =>
    have higher := (w.lt_retry m.maxBallot positive).1
    simp only [progress, retry, StateWrapper.enter]
    omega
  | promise | nackPrepare | ack | nackAccept | ignored => exact Nat.le_refl _
  | quorum | won => exact Nat.le_succ _

theorem Step.progress_lt {self next : InnerState C} {message response : MessageKind C}
    (step : self.Step message (some response) next) (advances : Advances response) :
    self.progress < next.progress := by
  cases step with
  | request w cmd forwardId positive fits =>
    have higher := w.lt_nextBallot positive
    simp only [progress, StateWrapper.enter]
    omega
  | retryPrepare w m refused positive fits | retryAccept w m refused positive fits =>
    have higher := (w.lt_retry m.maxBallot positive).1
    simp only [progress, retry, StateWrapper.enter]
    omega
  | quorum => exact Nat.lt_succ_self _
  | won => exact advances.elim

end InnerState

def failing (storage : Option (PaxosStorage C)) (i : Nat) : Bool :=
  storage.any (·.storage.fails i)

structure Saves (storage : Option (PaxosStorage C)) (puts : Nat)
    (saved : Except Fault Unit × Option (PaxosStorage C)) : Prop where
  through : (∀ i < puts, failing storage i = false) → saved.1 = .ok () ∧
    ∀ i, failing saved.2 i = failing storage (i + puts)
  fails : (∃ i < puts, failing storage i = true) → saved.1 = .error .failed

theorem exists_shifted {first rest : Nat} {p : Nat → Bool} (works : ∀ i < first, p i = false) :
    (∃ i < rest, p (i + first) = true) ↔ ∃ i < first + rest, p i = true := by
  constructor
  · rintro ⟨i, early, fails⟩
    exact ⟨i + first, by omega, fails⟩
  · rintro ⟨i, early, fails⟩
    rcases Nat.lt_or_ge i first with before | after
    · simp [works i before] at fails
    · refine ⟨i - first, by omega, ?_⟩
      rwa [Nat.sub_add_cancel after]

theorem map_error {A B : Type} {x : Except Fault A} {f : A → B} {fault : Fault} :
    x.map f = .error fault ↔ x = .error fault := by
  cases x <;> simp [Except.map]

section Persist

variable [Serde Nat]

theorem persist_promise (storage : Option (PaxosStorage C)) (instanceId ballot : Nat) :
    Saves storage 1 (persist storage (·.savePromise instanceId ballot)) := by
  cases storage with
  | none => exact ⟨fun _ => ⟨rfl, fun _ => rfl⟩, by simp [failing]⟩
  | some store =>
    constructor
    · intro works
      refine ⟨store.storage.put_through _ _ (works 0 Nat.zero_lt_one), fun i => ?_⟩
      simp [persist, failing, PaxosStorage.savePromise]
    · rintro ⟨i, first, fails⟩
      obtain rfl : i = 0 := by omega
      exact store.storage.put_fails _ _ fails

theorem persist_accept [Serde (AcceptedValue C)] (storage : Option (PaxosStorage C))
    (instanceId ballot : Nat) (command : C) :
    Saves storage 2 (persist storage (·.saveAccept instanceId ballot command)) := by
  cases storage with
  | none => exact ⟨fun _ => ⟨rfl, fun _ => rfl⟩, by simp [failing]⟩
  | some store =>
    have promised := store.storage.put_through (ballotKey instanceId) (Serde.toVec ballot)
    constructor
    · intro works
      have first := promised (works 0 (by decide))
      simp only [persist, PaxosStorage.saveAccept, PaxosStorage.savePromise, first]
      refine ⟨Backend.put_through _ _ _ ?_, fun i => ?_⟩
      · rw [Backend.put_next]
        exact works 1 (by decide)
      · simp [failing, Nat.add_assoc]
    · rintro ⟨i, early, fails⟩
      simp only [persist, PaxosStorage.saveAccept, PaxosStorage.savePromise]
      cases first : store.storage.fails 0 with
      | true => simp only [store.storage.put_fails _ _ first]
      | false =>
        obtain rfl : i = 1 := by
          rcases Nat.le_one_iff_eq_zero_or_eq_one.mp (by omega : i ≤ 1) with rfl | rfl
          · simp [failing, first] at fails
          · rfl
        simp only [promised first]
        refine Backend.put_fails _ _ _ ?_
        rw [Backend.put_next]
        exact fails

end Persist

namespace PaxosInstance

def saves : Option (MessageKind C) → Nat
  | some (.promiseMsg _) => 1
  | some (.ackAcceptMsg _) => 2
  | _ => 0

def cost : Except Fault (Option (MessageKind C)) → Nat
  | .ok response => saves response
  | .error _ => 0

variable [DecidableEq C] [Serde Nat] [Serde (AcceptedValue C)]

def puts : Nat → PaxosInstance C → MessageKind C → Nat
  | 0, _, _ => 0
  | fuel + 1, self, message =>
    let handled := self.handleMessage message none
    match handled.result with
    | .ok (some response) => saves (some response) + puts fuel handled.after response
    | _ => 0

-- A call with a storage is the call without one, stopped by the first put that fails.
structure Stored (bare stored : Handled C) (storage : Option (PaxosStorage C)) : Prop where
  after : stored.after = bare.after
  panics : OnlyPanics bare.result
  through : (∀ i < cost bare.result, failing storage i = false) →
    stored.result = bare.result ∧
      ∀ i, failing stored.storage i = failing storage (i + cost bare.result)
  fails : (∃ i < cost bare.result, failing storage i = true) → stored.result = .error .failed

section Stored

variable {self : PaxosInstance C} {storage : Option (PaxosStorage C)}

omit [DecidableEq C] [Serde Nat] [Serde (AcceptedValue C)] in
theorem Stored.silent {bare stored : Handled C} (result : stored.result = bare.result)
    (after : stored.after = bare.after) (kept : stored.storage = storage)
    (panics : OnlyPanics bare.result) (free : cost bare.result = 0) :
    Stored bare stored storage := by
  refine ⟨after, panics, fun _ => ⟨result, fun i => ?_⟩, ?_⟩
  · rw [kept, free, Nat.add_zero]
  · rw [free]
    rintro ⟨i, none, -⟩
    exact absurd none (Nat.not_lt_zero i)

omit [DecidableEq C] [Serde (AcceptedValue C)] in
theorem handlePrepare_stored (p : Prepare) :
    Stored (self.handlePrepare p none) (self.handlePrepare p storage) storage := by
  unfold handlePrepare
  rcases Nat.lt_or_ge self.acceptor.maxBallot p.ballot with higher | lower
  · rw [Acceptor.handlePrepare_promise _ _ higher]
    have saved := persist_promise storage self.instanceId p.ballot
    dsimp only
    generalize persist storage (·.savePromise self.instanceId p.ballot) = written at saved ⊢
    obtain ⟨result, kept⟩ := written
    refine ⟨?_, onlyPanics_ok _, fun works => ?_, fun broken => ?_⟩
    · rcases result with fault | ⟨⟩ <;> rfl
    · obtain ⟨rfl, shifted⟩ := saved.through works
      exact ⟨rfl, shifted⟩
    · obtain rfl := saved.fails broken
      rfl
  · rw [Acceptor.handlePrepare_nack _ _ lower]
    exact .silent rfl rfl rfl (onlyPanics_ok _) rfl

omit [DecidableEq C] in
theorem handleAccept_stored (a : Accept C) :
    Stored (self.handleAccept a none) (self.handleAccept a storage) storage := by
  unfold handleAccept
  rcases Nat.lt_or_ge a.ballot self.acceptor.maxBallot with stale | current
  · rw [Acceptor.handleAccept_nack _ _ stale]
    exact .silent rfl rfl rfl (onlyPanics_ok _) rfl
  · rw [Acceptor.handleAccept_ack _ _ current]
    have saved := persist_accept storage self.instanceId a.ballot a.command
    dsimp only
    generalize persist storage (·.saveAccept self.instanceId a.ballot a.command) = written
      at saved ⊢
    obtain ⟨result, kept⟩ := written
    refine ⟨?_, onlyPanics_ok _, fun works => ?_, fun broken => ?_⟩
    · rcases result with fault | ⟨⟩ <;> rfl
    · obtain ⟨rfl, shifted⟩ := saved.through works
      exact ⟨rfl, shifted⟩
    · obtain rfl := saved.fails broken
      rfl

omit [Serde Nat] [Serde (AcceptedValue C)] in
theorem learner_panics (learner : Learner C) (m : Learn C) :
    OnlyPanics (learner.handleLearn m) := by
  unfold Learner.handleLearn
  split
  · exact onlyPanics_ok _
  · dsimp only
    split
    · exact onlyPanics_ok _
    · exact (onlyPanics_checked _ _).bind fun _ => onlyPanics_ok _

omit [DecidableEq C] [Serde Nat] [Serde (AcceptedValue C)] in
theorem proposer_free {state next : InnerState C} {message : MessageKind C}
    {response : Option (MessageKind C)} (asked : state.Step message response next) :
    saves response = 0 := by
  cases asked <;> rfl

omit [Serde Nat] [Serde (AcceptedValue C)] in
theorem learn_free (self : PaxosInstance C) (m : Learn C) :
    cost (self.handleLearn m none).result = 0 := by
  unfold handleLearn
  dsimp only
  cases self.learner.handleLearn m with
  | error fault => rfl
  | ok pair =>
    dsimp only [cost]
    split <;> rfl

omit [DecidableEq C] [Serde Nat] [Serde (AcceptedValue C)] in
theorem ask_free (self : PaxosInstance C) (message : MessageKind C) :
    cost (self.askProposer message none).result = 0 := by
  unfold askProposer Proposer.handleMessage
  cases asked : self.proposer.innerState.handleMessage message with
  | error fault => rfl
  | ok pair =>
    obtain ⟨response, next⟩ := pair
    exact proposer_free (InnerState.handleMessage_step asked)

omit [Serde Nat] [Serde (AcceptedValue C)] in
theorem handleLearn_stored (m : Learn C) :
    Stored (self.handleLearn m none) (self.handleLearn m storage) storage := by
  have panics := learner_panics self.learner m
  have free := self.learn_free m
  unfold handleLearn at free ⊢
  dsimp only at free ⊢
  generalize self.learner.handleLearn m = heard at panics free ⊢
  rcases heard with fault | ⟨reply, learner⟩
  · exact .silent rfl rfl rfl (fun failed => panics (by simpa using failed)) free
  · exact .silent rfl rfl rfl (onlyPanics_ok _) free

omit [DecidableEq C] [Serde Nat] [Serde (AcceptedValue C)] in
theorem askProposer_stored (message : MessageKind C) :
    Stored (self.askProposer message none) (self.askProposer message storage) storage := by
  have panics := InnerState.handleMessage_panics self.proposer.innerState message
  have free := self.ask_free message
  unfold askProposer Proposer.handleMessage at free ⊢
  cases asked : self.proposer.innerState.handleMessage message with
  | error fault =>
    refine .silent rfl rfl rfl (fun failed => panics ?_) rfl
    rw [asked]
    simpa [bind, Except.bind] using failed
  | ok pair =>
    rw [asked] at free
    exact .silent rfl rfl rfl (onlyPanics_ok _) free

theorem handleMessage_stored (self : PaxosInstance C) (storage : Option (PaxosStorage C))
    {message : MessageKind C} (synod : message.IsSynod) :
    Stored (self.handleMessage message none) (self.handleMessage message storage) storage := by
  cases message with
  | prepareMsg p => exact handlePrepare_stored p
  | acceptMsg a => exact handleAccept_stored a
  | learnMsg m => exact handleLearn_stored m
  | promiseMsg _ | ackAcceptMsg _ | nackPrepareMsg _ | nackAcceptMsg _ =>
    exact askProposer_stored _
  | requestCommandToLeader _ _ | forwardAck _ _ => exact synod.elim
  | learnedCommand _ => exact .silent rfl rfl rfl (onlyPanics_ok _) rfl

end Stored

inductive Breaks : PaxosInstance C → Option (PaxosStorage C) → MessageKind C → PaxosInstance C →
    Prop where
  | stop {self after : PaxosInstance C} {storage kept : Option (PaxosStorage C)}
      {message : MessageKind C} (stops : self.Stops storage message after kept) :
      Breaks self storage message after
  | more {self middle after : PaxosInstance C} {storage saved : Option (PaxosStorage C)}
      {message response : MessageKind C} {events : List (TraceEvent C)}
      (step : self.Step storage message (some response) middle saved events)
      (rest : Breaks middle saved response after) : Breaks self storage message after

def Repeats (self : PaxosInstance C) : MessageKind C → Prop
  | .acceptMsg a => self.acceptor.maxBallot = a.ballot ∧
      self.acceptor.maxAccepted = some { ballot := a.ballot, command := a.command }
  | _ => False

section Breaks

variable {self after : PaxosInstance C} {storage : Option (PaxosStorage C)}
  {message : MessageKind C}

theorem Step.forward {kept : Option (PaxosStorage C)} {response : Option (MessageKind C)}
    {events : List (TraceEvent C)} (step : self.Step storage message response after kept events) :
    self.acceptor.maxBallot ≤ after.acceptor.maxBallot ∧
      self.proposer.innerState.progress ≤ after.proposer.innerState.progress := by
  cases step with
  | promise p kept higher saved => exact ⟨Nat.le_of_lt higher, Nat.le_refl _⟩
  | ackAccept a kept current saved => exact ⟨current, Nat.le_refl _⟩
  | proposer message response next addressed asked => exact ⟨Nat.le_refl _, asked.progress_le⟩
  | nackPrepare | nackAccept | learn | ignored => exact ⟨Nat.le_refl _, Nat.le_refl _⟩

theorem Breaks.forward (breaks : self.Breaks storage message after) :
    self.acceptor.maxBallot ≤ after.acceptor.maxBallot ∧
      self.proposer.innerState.progress ≤ after.proposer.innerState.progress := by
  induction breaks with
  | stop stops =>
    cases stops with
    | promise p higher failed => exact ⟨Nat.le_of_lt higher, Nat.le_refl _⟩
    | ackAccept a current failed => exact ⟨current, Nat.le_refl _⟩
  | more step rest ih =>
    exact ⟨Nat.le_trans step.forward.1 ih.1, Nat.le_trans step.forward.2 ih.2⟩

theorem Breaks.rank (breaks : self.Breaks storage message after) : 4 ≤ self.rank message := by
  induction breaks with
  | stop stops =>
    cases stops with
    | promise p higher failed => simp [PaxosInstance.rank, higher]
    | ackAccept a current failed => simp [PaxosInstance.rank, current]
  | more step rest ih => exact Nat.le_trans ih (Nat.le_of_lt step.rank_lt)

theorem Breaks.same_iff (breaks : self.Breaks storage message after) :
    after = self ↔ self.Repeats message := by
  induction breaks with
  | @stop self after storage kept message stops =>
    cases stops with
    | promise p higher failed =>
      refine iff_of_false (fun same => ?_) id
      have ballot := congrArg (fun inst => inst.acceptor.maxBallot) same
      exact absurd ballot (Nat.ne_of_gt higher)
    | ackAccept a current failed =>
      constructor
      · intro same
        have ballot := congrArg (fun inst => inst.acceptor.maxBallot) same
        have accepted := congrArg (fun inst => inst.acceptor.maxAccepted) same
        exact ⟨ballot.symm, accepted.symm⟩
      · rintro ⟨ballot, accepted⟩
        obtain ⟨⟨myId, maxBallot, maxAccepted⟩, proposer, learner, instanceId⟩ := self
        dsimp only at ballot accepted
        subst ballot
        rw [accepted]
  | @more self middle after storage saved message response events step rest ih =>
    have late := rest.rank
    have onward := rest.forward
    generalize answer : some response = reply at step
    cases step with
    | promise p kept higher written =>
      refine iff_of_false (fun same => ?_) id
      rw [same] at onward
      exact absurd onward.1 (Nat.not_le.mpr higher)
    | ackAccept a kept current written =>
      simp only [Option.some.injEq] at answer
      subst answer
      exact absurd late (by simp [PaxosInstance.rank])
    | nackPrepare p lower =>
      simp only [Option.some.injEq] at answer
      subst answer
      exact ih
    | nackAccept a stale =>
      simp only [Option.some.injEq] at answer
      subst answer
      refine ih.trans (iff_of_false id fun repeats => absurd stale ?_)
      rw [repeats.1]
      exact Nat.lt_irrefl _
    | learn m learner reply heard =>
      obtain ⟨-, rfl⟩ := echo_some answer.symm
      exact absurd (Nat.le_trans late (PaxosInstance.rank_learn _ _).2) (by decide)
    | ignored cmd => simp at answer
    | proposer message reply next addressed asked =>
      subst answer
      have moved : InnerState.Advances response := by
        refine asked.advances.resolve_right ?_
        rintro ⟨m, rfl⟩
        exact absurd (Nat.le_trans late (PaxosInstance.rank_learn _ m).2) (by decide)
      refine iff_of_false (fun same => ?_) fun repeats => ?_
      · have higher := asked.progress_lt moved
        rw [same] at onward
        exact absurd onward.2 (Nat.not_le.mpr higher)
      · cases message <;> first | exact repeats | exact addressed

end Breaks

theorem puts_failed {self : PaxosInstance C} {storage : Option (PaxosStorage C)}
    {message : MessageKind C} {fuel : Nat} {failed : Prop} (synod : message.IsSynod)
    (stops : ∀ fault, (self.handleMessage message storage).result = .error fault →
      (failed ↔ fault = .failed))
    (quiet : (self.handleMessage message storage).result = .ok none → ¬failed)
    (goes : ∀ response, (self.handleMessage message storage).result = .ok (some response) →
      (failed ↔ ∃ i < puts fuel (self.handleMessage message storage).after response,
        failing (self.handleMessage message storage).storage i = true)) :
    failed ↔ ∃ i < self.puts (fuel + 1) message, failing storage i = true := by
  have stored := self.handleMessage_stored storage synod
  simp only [puts]
  by_cases works : ∀ i < cost (self.handleMessage message none).result, failing storage i = false
  · obtain ⟨same, shifted⟩ := stored.through works
    have panics := stored.panics
    cases bare : (self.handleMessage message none).result with
    | error fault =>
      refine (stops fault (same.trans bare)).trans (iff_of_false (fun fails => ?_) (by simp))
      exact panics (by rw [bare, fails])
    | ok response =>
      cases response with
      | none => exact iff_of_false (quiet (same.trans bare)) (by simp)
      | some response =>
        rw [bare] at shifted works
        rw [goes response (same.trans bare), stored.after]
        simp only [shifted]
        exact exists_shifted works
  · simp only [not_forall, Bool.not_eq_false] at works
    obtain ⟨i, early, fails⟩ := works
    refine iff_of_true ((stops _ (stored.fails ⟨i, early, fails⟩)).mpr rfl) ⟨i, ?_, fails⟩
    cases bare : (self.handleMessage message none).result with
    | error fault => simp [bare, cost] at early
    | ok response =>
      cases response with
      | none => simp [bare, cost, saves] at early
      | some response =>
        rw [bare] at early
        exact Nat.lt_of_lt_of_le early (Nat.le_add_right _ _)

theorem handleMessage_breaks {self : PaxosInstance C} {storage : Option (PaxosStorage C)}
    {message : MessageKind C} (synod : message.IsSynod)
    (failed : (self.handleMessage message storage).result = .error .failed) :
    self.Stops storage message (self.handleMessage message storage).after
      (self.handleMessage message storage).storage := by
  have stored := self.handleMessage_stored storage synod
  have free (none_due : cost (self.handleMessage message none).result = 0) : False := by
    have none_fails (i : Nat) (early : i < cost (self.handleMessage message none).result) :
        failing storage i = false := by
      rw [none_due] at early
      exact absurd early (Nat.not_lt_zero i)
    exact stored.panics ((stored.through none_fails).1.symm.trans failed)
  cases message with
  | prepareMsg p => exact handlePrepare_stops failed
  | acceptMsg a => exact handleAccept_stops failed
  | learnMsg m => exact (free (self.learn_free m)).elim
  | promiseMsg _ | ackAcceptMsg _ | nackPrepareMsg _ | nackAcceptMsg _ =>
    exact (free (self.ask_free _)).elim
  | requestCommandToLeader _ _ | forwardAck _ _ => exact synod.elim
  | learnedCommand _ => exact (free rfl).elim

end PaxosInstance

namespace MultiPaxosNode

section Failed

variable [DecidableEq C] [Serde Nat] [Serde (AcceptedValue C)]

section Loop

variable {fuel : Nat} {self : MultiPaxosNode C} {instanceId : Nat} {inst : PaxosInstance C}
  {message : MessageKind C}

theorem selfDeliverLoop_failed (present : self.paxosInstances instanceId = some inst)
    (synod : message.IsSynod) :
    (selfDeliverLoop fuel self instanceId [message]).result = .error .failed ↔
      ∃ i < inst.puts fuel message, failing self.storage i = true := by
  induction fuel generalizing self inst message with
  | zero => simp [selfDeliverLoop, PaxosInstance.puts]
  | succ fuel ih =>
    refine PaxosInstance.puts_failed synod (fun fault stopped => ?_) (fun quiet => ?_)
      fun response handled => ?_
    · simp [selfDeliverLoop, present, stopped]
    · simp only [selfDeliverLoop, present, quiet, map_error]
      cases fuel <;> simp [selfDeliverLoop]
    · have step := PaxosInstance.handleMessage_step synod handled
      have present' : (self.putInstance instanceId
          (inst.handleMessage message self.storage).after
          (inst.handleMessage message self.storage).storage).paxosInstances instanceId =
            some (inst.handleMessage message self.storage).after := Function.update_self _ _ _
      simp only [selfDeliverLoop, present, handled, Option.toList_some, List.cons_append,
        List.nil_append, map_error]
      exact ih present' step.response_isSynod

theorem selfDeliverLoop_breaks (present : self.paxosInstances instanceId = some inst)
    (synod : message.IsSynod)
    (failed : (selfDeliverLoop fuel self instanceId [message]).result = .error .failed) :
    ∃ after kept, inst.Breaks self.storage message after ∧
      (selfDeliverLoop fuel self instanceId [message]).after =
        self.putInstance instanceId after kept := by
  induction fuel generalizing self inst message with
  | zero => simp [selfDeliverLoop] at failed
  | succ fuel ih =>
    simp only [selfDeliverLoop, present] at failed ⊢
    split at failed
    next fault stopped =>
      simp only [Except.error.injEq] at failed
      subst failed
      exact ⟨_, _, .stop (PaxosInstance.handleMessage_breaks synod stopped), rfl⟩
    next response handled =>
      have step := PaxosInstance.handleMessage_step synod handled
      cases response with
      | none => cases fuel <;> simp [selfDeliverLoop, Except.map] at failed
      | some response =>
        simp only [Option.toList_some, List.cons_append, List.nil_append, map_error] at failed ⊢
        obtain ⟨after, kept, breaks, whole⟩ :=
          ih (Function.update_self _ _ _) step.response_isSynod failed
        refine ⟨after, kept, .more step breaks, ?_⟩
        rw [whole]
        simp [putInstance]

end Loop

def opening (self : MultiPaxosNode C) (cmd : C) :
    Except Fault (MessageKind C × PaxosInstance C) := do
  let _ ← u64Add self.nextInstanceId 1
  let inst ← self.newInstance self.nextInstanceId
  let (firstMsg, proposer) ← self.firstMessage inst cmd
  pure (firstMsg, { inst with proposer := proposer })

def startPuts (self : MultiPaxosNode C) (cmd : C) : Nat :=
  match self.opening cmd with
  | .ok (firstMsg, inst) => inst.puts selfDeliverFuel firstMsg
  | .error _ => 0

def synodPuts (self : MultiPaxosNode C) (instanceId : Nat) (message : MessageKind C) : Nat :=
  match (do
    let next ← self.nextAfter instanceId
    let inst ← self.entry instanceId
    pure (next, inst)) with
  | .ok (_, inst) => inst.puts (selfDeliverFuel + 1) message
  | .error _ => 0

def puts (self : MultiPaxosNode C) : Call C → Nat
  | .propose command => if self.forwards then 0 else self.startPuts command
  | .deliver m =>
    match m.msg with
    | .requestCommandToLeader command _ => if self.isLeader then self.startPuts command else 0
    | .forwardAck _ _ => 0
    | message => self.synodPuts m.paxosInstance message
  | .commit _ => 0

def Repeats (self : MultiPaxosNode C) : Call C → Prop
  | .deliver m => ∃ inst, self.paxosInstances m.paxosInstance = some inst ∧
      m.paxosInstance < self.nextInstanceId ∧ inst.Repeats m.msg
  | _ => False

structure Unchanged (before after : MultiPaxosNode C) : Prop where
  nextInstanceId : after.nextInstanceId = before.nextInstanceId
  paxosInstances : after.paxosInstances = before.paxosInstances
  pendingSenders : after.pendingSenders = before.pendingSenders
  forwardedSenders : after.forwardedSenders = before.forwardedSenders
  forwardedInstances : after.forwardedInstances = before.forwardedInstances

omit [DecidableEq C] [Serde Nat] [Serde (AcceptedValue C)] in
theorem opening_panics (self : MultiPaxosNode C) (cmd : C) : OnlyPanics (self.opening cmd) := by
  refine (onlyPanics_checked _ _).bind fun _ => OnlyPanics.bind ?_ fun inst => OnlyPanics.bind ?_ ?_
  · unfold newInstance PaxosInstance.new OnlyPanics
    split <;> simp
  · unfold firstMessage
    split
    · unfold Proposer.newAccept InnerState.newAccept
      refine OnlyPanics.bind ?_ fun pair => ?_
      · unfold OnlyPanics
        split <;> simp
      · obtain ⟨_ | msg, next⟩ := pair
        · simp [OnlyPanics]
        · exact onlyPanics_ok _
    · unfold Proposer.newPrepare
      refine OnlyPanics.bind ?_ fun pair => ?_
      · unfold InnerState.newPrepare
        split <;> exact StateWrapper.newPrepare_panics _ _
      · obtain ⟨_ | msg, next⟩ := pair
        · simp [OnlyPanics]
        · exact onlyPanics_ok _
  · exact fun _ => onlyPanics_ok _

omit [DecidableEq C] [Serde Nat] [Serde (AcceptedValue C)] in
theorem opening_error {self : MultiPaxosNode C} {cmd : C} {fault : Fault}
    (stopped : u64Add self.nextInstanceId 1 = .error fault) : self.opening cmd = .error fault := by
  simp [opening, stopped, bind, Except.bind]

omit [DecidableEq C] [Serde Nat] [Serde (AcceptedValue C)] in
theorem opening_counted {self : MultiPaxosNode C} {cmd : C} {next : Nat}
    (counted : u64Add self.nextInstanceId 1 = .ok next) :
    self.opening cmd = (do
      let inst ← self.newInstance self.nextInstanceId
      let (firstMsg, proposer) ← self.firstMessage inst cmd
      pure (firstMsg, { inst with proposer := proposer })) := by
  simp only [opening, counted]
  rfl

omit [DecidableEq C] [Serde Nat] [Serde (AcceptedValue C)] in
theorem opening_ok {self : MultiPaxosNode C} {cmd : C} {first : MessageKind C}
    {inst : PaxosInstance C} (opened : self.opening cmd = .ok (first, inst)) :
    self.Opens self.nextInstanceId cmd first inst := by
  obtain ⟨next, counted, opened⟩ := bind_ok.mp opened
  exact (opens_ok opened).2

def begun (self : MultiPaxosNode C) (inst : PaxosInstance C) : MultiPaxosNode C :=
  { self with
    nextInstanceId := self.nextInstanceId + 1
    paxosInstances := Function.update self.paxosInstances self.nextInstanceId (some inst) }

theorem start_cases (self : MultiPaxosNode C) (cmd : C) :
    (∃ fault, self.opening cmd = .error fault ∧ (self.start cmd).result = .error fault) ∨
    ∃ first inst, self.opening cmd = .ok (first, inst) ∧
      ∀ fault, ((self.start cmd).result = .error fault ↔
        ((self.begun inst).selfDeliver self.nextInstanceId first).result = .error fault) ∧
      ((self.start cmd).result = .error fault →
        (self.start cmd).after =
          ((self.begun inst).selfDeliver self.nextInstanceId first).after) := by
  unfold start
  dsimp only
  split
  next fault stopped => exact .inl ⟨fault, opening_error stopped, rfl⟩
  next nextInstanceId counted =>
    obtain ⟨-, rfl⟩ := u64Add_ok.mp counted
    split
    next fault stopped => exact .inl ⟨fault, (opening_counted counted).trans stopped, rfl⟩
    next first inst opened =>
      refine .inr ⟨first, inst, (opening_counted counted).trans opened, fun fault => ?_⟩
      split
      next fault stopped =>
        have whole : ((self.begun inst).selfDeliver self.nextInstanceId first).result =
            .error fault := stopped
        rw [whole]
        exact ⟨by simp, fun _ => rfl⟩
      next outgoing done =>
        have whole : ((self.begun inst).selfDeliver self.nextInstanceId first).result =
            .ok outgoing := done
        rw [whole]
        exact ⟨by simp, by simp⟩

theorem start_failed (self : MultiPaxosNode C) (cmd : C) :
    ((self.start cmd).result = .error .failed ↔
      ∃ i < self.startPuts cmd, failing self.storage i = true) ∧
    ((self.start cmd).result = .error .failed →
      (self.start cmd).after.nextInstanceId = self.nextInstanceId + 1) := by
  have panics := self.opening_panics cmd
  unfold startPuts
  rcases self.start_cases cmd with ⟨fault, opened, result⟩ | ⟨first, inst, opened, delivers⟩
  · have differs : fault ≠ .failed := fun same => panics (by rw [opened, same])
    rw [opened, result]
    simp [differs]
  · have synod := (opening_ok opened).isSynod
    have present : (self.begun inst).paxosInstances self.nextInstanceId = some inst :=
      Function.update_self _ _ _
    obtain ⟨result, after⟩ := delivers .failed
    rw [opened]
    refine ⟨result.trans (selfDeliverLoop_failed present synod), fun failed => ?_⟩
    obtain ⟨last, kept, -, whole⟩ := selfDeliverLoop_breaks present synod (result.mp failed)
    rw [after failed, selfDeliver, whole]
    rfl

omit [DecidableEq C] [Serde Nat] [Serde (AcceptedValue C)] in
theorem entering_panics (self : MultiPaxosNode C) (instanceId : Nat) :
    OnlyPanics (do
      let next ← self.nextAfter instanceId
      let inst ← self.entry instanceId
      pure (next, inst)) := by
  refine OnlyPanics.bind ?_ fun _ => OnlyPanics.bind ?_ fun _ => onlyPanics_ok _
  · unfold nextAfter
    split
    · exact onlyPanics_checked _ _
    · exact onlyPanics_ok _
  · unfold entry newInstance PaxosInstance.new OnlyPanics
    split
    · simp
    · split <;> simp

def entered (self : MultiPaxosNode C) (instanceId next : Nat) (inst : PaxosInstance C)
    (message : MessageKind C) : MultiPaxosNode C :=
  { self with nextInstanceId := next }.putInstance instanceId
    (inst.handleMessage message self.storage).after
    (inst.handleMessage message self.storage).storage

theorem handleSynod_cases (self : MultiPaxosNode C) (instanceId : Nat) (message : MessageKind C) :
    (∃ fault, (do
        let next ← self.nextAfter instanceId
        let inst ← self.entry instanceId
        pure (next, inst)) = Except.error fault ∧
      (self.handleSynod instanceId message).result = .error fault) ∨
    ∃ next inst, (do
        let next ← self.nextAfter instanceId
        let inst ← self.entry instanceId
        pure (next, inst)) = Except.ok (next, inst) ∧
      (∀ fault, (inst.handleMessage message self.storage).result = .error fault →
        (self.handleSynod instanceId message).result = .error fault ∧
        (self.handleSynod instanceId message).after =
          self.entered instanceId next inst message) ∧
      ((inst.handleMessage message self.storage).result = .ok none →
        (self.handleSynod instanceId message).result = .ok []) ∧
      ∀ response, (inst.handleMessage message self.storage).result = .ok (some response) →
        (self.handleSynod instanceId message).result =
          (((self.entered instanceId next inst message).updateLeadership (some response)
            message).selfDeliver instanceId response).result.map
              (((self.entered instanceId next inst message).updateLeadership (some response)
                message).broadcast instanceId response :: ·) ∧
        (self.handleSynod instanceId message).after =
          (((self.entered instanceId next inst message).updateLeadership (some response)
            message).selfDeliver instanceId response).after := by
  unfold handleSynod
  split
  next fault stopped => exact .inl ⟨fault, stopped, rfl⟩
  next next inst entered =>
    dsimp only
    refine .inr ⟨next, inst, entered, fun fault failed => ?_, fun quiet => ?_,
      fun response handled => ?_⟩
    · rw [failed]
      exact ⟨rfl, rfl⟩
    · rw [quiet]
    · rw [handled]
      exact ⟨rfl, rfl⟩

structure Left (node : MultiPaxosNode C) (instanceId next : Nat) (last : PaxosInstance C)
    (after : MultiPaxosNode C) : Prop where
  nextInstanceId : after.nextInstanceId = next
  paxosInstances : after.paxosInstances =
    Function.update node.paxosInstances instanceId (some last)
  pendingSenders : after.pendingSenders = node.pendingSenders
  forwardedSenders : after.forwardedSenders = node.forwardedSenders
  forwardedInstances : after.forwardedInstances = node.forwardedInstances

theorem Left.unchanged_iff {node after : MultiPaxosNode C} {instanceId : Nat}
    {last : PaxosInstance C} {message : MessageKind C}
    (left : Left node instanceId (max node.nextInstanceId (instanceId + 1)) last after)
    (breaks : (node.instanceAt instanceId).Breaks node.storage message last) :
    Unchanged node after ↔ ∃ inst, node.paxosInstances instanceId = some inst ∧
      instanceId < node.nextInstanceId ∧ inst.Repeats message := by
  have found {inst : PaxosInstance C} (present : node.paxosInstances instanceId = some inst) :
      node.instanceAt instanceId = inst := by simp [instanceAt, present]
  constructor
  · intro unchanged
    have books := unchanged.paxosInstances
    have kept := unchanged.nextInstanceId
    rw [left.paxosInstances] at books
    rw [left.nextInstanceId] at kept
    have present : node.paxosInstances instanceId = some last := by
      rw [← books, Function.update_self]
    refine ⟨last, present, by omega, ?_⟩
    rw [found present] at breaks
    exact breaks.same_iff.mp rfl
  · rintro ⟨inst, present, below, repeats⟩
    rw [found present] at breaks
    obtain rfl := breaks.same_iff.mpr repeats
    exact
      { nextInstanceId := left.nextInstanceId.trans (by omega)
        paxosInstances := by rw [left.paxosInstances, ← present, Function.update_eq_self]
        pendingSenders := left.pendingSenders
        forwardedSenders := left.forwardedSenders
        forwardedInstances := left.forwardedInstances }

theorem handleSynod_failed (self : MultiPaxosNode C) (instanceId : Nat) (message : MessageKind C)
    (synod : message.IsSynod) :
    ((self.handleSynod instanceId message).result = .error .failed ↔
      ∃ i < self.synodPuts instanceId message, failing self.storage i = true) ∧
    ((self.handleSynod instanceId message).result = .error .failed →
      (Unchanged self (self.handleSynod instanceId message).after ↔
        ∃ inst, self.paxosInstances instanceId = some inst ∧ instanceId < self.nextInstanceId ∧
          inst.Repeats message)) := by
  have panics := self.entering_panics instanceId
  unfold synodPuts
  rcases self.handleSynod_cases instanceId message with ⟨fault, stopped, result⟩ |
    ⟨next, inst, opened, stops, quiet, goes⟩
  · have differs : fault ≠ .failed := fun same => panics (by rw [stopped, same])
    rw [stopped, result]
    simp [differs]
  · rw [opened]
    have failed_iff : (self.handleSynod instanceId message).result = .error .failed ↔
        ∃ i < inst.puts (selfDeliverFuel + 1) message, failing self.storage i = true := by
      refine PaxosInstance.puts_failed synod (fun fault stopped => ?_) (fun silent => ?_)
        fun response handled => ?_
      · rw [(stops fault stopped).1]
        simp
      · rw [quiet silent]
        simp
      · have step := PaxosInstance.handleMessage_step synod handled
        rw [(goes response handled).1, map_error]
        exact selfDeliverLoop_failed (Function.update_self _ _ _) step.response_isSynod
    refine ⟨failed_iff, fun failed => ?_⟩
    obtain ⟨-, rfl, -, rfl⟩ := entering_ok.mp opened
    obtain ⟨last, breaks, frame⟩ : ∃ last,
        (self.instanceAt instanceId).Breaks self.storage message last ∧
        Left self instanceId (max self.nextInstanceId (instanceId + 1)) last
          (self.handleSynod instanceId message).after := by
      cases handled : ((self.instanceAt instanceId).handleMessage message self.storage).result with
      | error fault =>
        obtain ⟨result, after⟩ := stops fault handled
        obtain rfl : fault = .failed := by simpa [result] using failed
        exact ⟨_, .stop (PaxosInstance.handleMessage_breaks synod handled),
          after ▸ ⟨rfl, rfl, rfl, rfl, rfl⟩⟩
      | ok response =>
        cases response with
        | none => simp [quiet handled] at failed
        | some response =>
          obtain ⟨result, after⟩ := goes response handled
          have step := PaxosInstance.handleMessage_step synod handled
          rw [result, map_error] at failed
          obtain ⟨last, kept, breaks, whole⟩ := selfDeliverLoop_breaks
            (Function.update_self _ _ _) step.response_isSynod failed
          refine ⟨last, .more step breaks, ?_⟩
          rw [after, selfDeliver, whole]
          exact ⟨rfl, by simp [putInstance, updateLeadership, entered], rfl, rfl, rfl⟩
    exact frame.unchanged_iff breaks

omit [DecidableEq C] [Serde Nat] [Serde (AcceptedValue C)] in
theorem atomic_iff {errs unchanged repeats : Prop} {puts : Nat} {p : Nat → Bool}
    (failed : errs ↔ ∃ i < puts, p i = true) (left : errs → (unchanged ↔ repeats)) :
    (errs → unchanged) ↔ (∀ i < puts, p i = false) ∨ repeats := by
  constructor
  · intro atomic
    by_cases works : ∀ i < puts, p i = false
    · exact .inl works
    · simp only [not_forall, Bool.not_eq_false] at works
      obtain ⟨i, early, fails⟩ := works
      have err := failed.mpr ⟨i, early, fails⟩
      exact .inr ((left err).mp (atomic err))
  · rintro (works | again) err
    · obtain ⟨i, early, fails⟩ := failed.mp err
      simp [works i early] at fails
    · exact (left err).mpr again

theorem start_atomic (self : MultiPaxosNode C) (cmd : C) :
    ((self.start cmd).result = .error .failed → Unchanged self (self.start cmd).after) ↔
      ∀ i < self.startPuts cmd, failing self.storage i = false := by
  obtain ⟨failed, consumed⟩ := self.start_failed cmd
  rw [← or_false (∀ i < self.startPuts cmd, failing self.storage i = false)]
  refine atomic_iff failed fun err => iff_of_false (fun unchanged => ?_) not_false
  have next := consumed err
  rw [unchanged.nextInstanceId] at next
  omega

omit [DecidableEq C] [Serde Nat] [Serde (AcceptedValue C)] in
theorem forward_panics (self : MultiPaxosNode C) (cmd : C) :
    OnlyPanics (self.forward cmd).result := by
  have panics := onlyPanics_checked u64Max (self.nextForwardId + 1)
  unfold forward u64Add
  generalize checked u64Max (self.nextForwardId + 1) = counted at panics ⊢
  cases counted with
  | error fault => simpa [OnlyPanics] using panics
  | ok next => exact onlyPanics_ok _

theorem propose_atomic (self : MultiPaxosNode C) (cmd : C) :
    ((self.propose cmd).result = .error .failed → Unchanged self (self.propose cmd).after) ↔
      ∀ i < if self.forwards then 0 else self.startPuts cmd, failing self.storage i = false := by
  unfold propose
  by_cases remote : ¬self.isLeader ∧ self.knownLeaderId.isSome
  · have forwards : self.forwards = true := by simpa [forwards] using remote
    rw [if_pos remote, if_pos forwards]
    exact iff_of_true (fun err => absurd err (self.forward_panics cmd)) (by simp)
  · have forwards : ¬self.forwards = true := by simpa [forwards] using remote
    rw [if_neg remote, if_neg forwards]
    exact self.start_atomic cmd

theorem handleRequest_atomic (self : MultiPaxosNode C) (forwarderId : Nat) (cmd : C)
    (forwardId : Nat) :
    ((self.handleRequest forwarderId cmd forwardId).result = .error .failed →
      Unchanged self (self.handleRequest forwarderId cmd forwardId).after) ↔
      ∀ i < if self.isLeader then self.startPuts cmd else 0, failing self.storage i = false := by
  unfold handleRequest
  by_cases leads : self.isLeader
  · rw [if_pos leads, if_pos leads, ← self.start_atomic cmd, propose_leading leads]
    dsimp only
    split
    next fault stopped => simp only [stopped, Except.error.injEq]
    next msgs sender started => simp [started]
  · rw [if_neg leads, if_neg leads]
    simp

theorem handleSynod_atomic (self : MultiPaxosNode C) (instanceId : Nat) (message : MessageKind C)
    (synod : message.IsSynod) :
    ((self.handleSynod instanceId message).result = .error .failed →
      Unchanged self (self.handleSynod instanceId message).after) ↔
      (∀ i < self.synodPuts instanceId message, failing self.storage i = false) ∨
        ∃ inst, self.paxosInstances instanceId = some inst ∧ instanceId < self.nextInstanceId ∧
          inst.Repeats message :=
  have ⟨failed, left⟩ := self.handleSynod_failed instanceId message synod
  atomic_iff failed left

theorem failure_atomic (self : MultiPaxosNode C) (c : Call C) :
    (self.returns c = .error .failed → Unchanged self (self.call c)) ↔
      (∀ i < self.puts c, failing self.storage i = false) ∨ self.Repeats c := by
  cases c with
  | propose cmd =>
    simp only [returns, call, map_error, Repeats, or_false]
    exact self.propose_atomic cmd
  | commit instanceId => simp [returns, puts]
  | deliver m =>
    obtain ⟨senderId, paxosInstance, msg⟩ := m
    cases msg with
    | requestCommandToLeader cmd forwardId =>
      refine (self.handleRequest_atomic senderId cmd forwardId).trans (or_iff_left ?_).symm
      rintro ⟨inst, present, below, repeats⟩
      exact repeats
    | forwardAck forwardId instanceId => simp [returns, handleMessage, puts]
    | prepareMsg _ | acceptMsg _ | learnMsg _ | promiseMsg _ | ackAcceptMsg _ | nackPrepareMsg _
    | nackAcceptMsg _ | learnedCommand _ =>
      exact self.handleSynod_atomic paxosInstance _ (by trivial)

end Failed

section Unsaved

def brokenStore : PaxosStorage Nat :=
  { storage := { map := .new, written := [], fails := fun _ => true } }

def unsaved : MultiPaxosNode Nat :=
  { new { nodeId := 0, totalNodes := 3 } with storage := some brokenStore }

theorem failure_leaves :
    unsaved.returns (.propose 7) = .error .failed ∧
      (unsaved.call (.propose 7)).nextInstanceId = 1 ∧
      ((unsaved.call (.propose 7)).paxosInstances 0).map
        (fun inst => (inst.acceptor.maxBallot, inst.proposer.innerState.round)) = some (3, some 3) ∧
      (unsaved.call (.propose 7)).storage.bind
        (·.storage.map.get (ballotKey 0)) = none ∧
      ¬Unchanged unsaved (unsaved.call (.propose 7)) := by
  have consumed : (unsaved.call (.propose 7)).nextInstanceId = 1 := by decide +kernel
  refine ⟨by decide +kernel, consumed, by decide +kernel, by decide +kernel, fun unchanged => ?_⟩
  have same := unchanged.nextInstanceId
  rw [consumed] at same
  exact absurd same (by decide)

end Unsaved

end MultiPaxosNode

end Smr
