import Smr.Node.Crash

set_option autoImplicit false

namespace Smr

section Twins

variable {C : Type}

def MessageKind.ForAcceptor : MessageKind C → Prop
  | .prepareMsg _ | .acceptMsg _ => True
  | _ => False

namespace PaxosInstance

def Idle (self : PaxosInstance C) : Prop :=
  self.proposer.innerState.round = none

theorem askProposer_idle {self : PaxosInstance C} (idle : self.Idle) {message : MessageKind C}
    (addressed : message.ForProposer) (storage : Option (PaxosStorage C)) :
    self.askProposer message storage =
      { result := .ok none, after := self, storage := storage, trace := [] } := by
  obtain ⟨acceptor, ⟨state⟩, learner, instanceId⟩ := self
  have ignores : state.handleMessage message = .ok (none, state) := by
    cases state with
    | initial wrapper => cases message <;> first | rfl | exact addressed.elim
    | learning wrapper => cases message <;> rfl
    | proposal wrapper => simp [Idle, InnerState.round] at idle
    | accepting wrapper => simp [Idle, InnerState.round] at idle
  have untraced (message : MessageKind C) : proposerTrace
      (C := C) ⟨acceptor, ⟨state⟩, learner, instanceId⟩ message none = [] := by
    cases message <;> rfl
  simp [askProposer, Proposer.handleMessage, ignores, bind, Except.bind, pure, Except.pure,
    untraced]

variable [DecidableEq C] [Serde Nat] [Serde (AcceptedValue C)]

theorem handleMessage_idle {self : PaxosInstance C} (idle : self.Idle) {message : MessageKind C}
    (addressed : message.ForProposer) (storage : Option (PaxosStorage C)) :
    self.handleMessage message storage =
      { result := .ok none, after := self, storage := storage, trace := [] } := by
  cases message with
  | promiseMsg _ | ackAcceptMsg _ | nackPrepareMsg _ | nackAcceptMsg _ =>
    exact askProposer_idle idle addressed storage
  | _ => exact addressed.elim

theorem Step.handled {self other middle : PaxosInstance C} {storage kept : Option (PaxosStorage C)}
    {message : MessageKind C} {response : Option (MessageKind C)} {events : List (TraceEvent C)}
    (step : self.Step storage message response middle kept events) (asks : message.ForAcceptor)
    (acceptor : other.acceptor = self.acceptor) (instanceId : other.instanceId = self.instanceId) :
    (∃ answer, response = some answer ∧ answer.ForProposer) ∧
      middle.proposer = self.proposer ∧
      other.handleMessage message storage =
        { result := .ok response
          after := { other with acceptor := middle.acceptor }
          storage := kept
          trace := events } := by
  obtain ⟨_, proposer, learner, _⟩ := other
  dsimp only at acceptor instanceId
  subst acceptor instanceId
  cases step with
  | promise p kept higher saved =>
    refine ⟨⟨_, rfl, trivial⟩, rfl, ?_⟩
    simp only [handleMessage, handlePrepare, Acceptor.handlePrepare_promise _ _ higher, saved]
  | nackPrepare p lower =>
    refine ⟨⟨_, rfl, trivial⟩, rfl, ?_⟩
    simp only [handleMessage, handlePrepare, Acceptor.handlePrepare_nack _ _ lower]
  | ackAccept a kept current saved =>
    refine ⟨⟨_, rfl, trivial⟩, rfl, ?_⟩
    simp only [handleMessage, handleAccept, Acceptor.handleAccept_ack _ _ current, saved]
  | nackAccept a stale =>
    refine ⟨⟨_, rfl, trivial⟩, rfl, ?_⟩
    simp only [handleMessage, handleAccept, Acceptor.handleAccept_nack _ _ stale]
  | learn | ignored => exact asks.elim
  | proposer message response next addressed asked => cases message <;> contradiction

theorem Step.unmoved {self after : PaxosInstance C} {storage kept : Option (PaxosStorage C)}
    {message : MessageKind C} {response : Option (MessageKind C)} {events : List (TraceEvent C)}
    (step : self.Step storage message response after kept events)
    (asks : ¬ message.ForAcceptor) : after.acceptor = self.acceptor ∧ kept = storage := by
  cases step with
  | promise | nackPrepare | ackAccept | nackAccept => exact absurd trivial asks
  | learn | ignored | proposer => exact ⟨rfl, rfl⟩

theorem Cascade.unmoved {self after : PaxosInstance C} {storage kept : Option (PaxosStorage C)}
    {message : MessageKind C} {responses : List (MessageKind C)} {events : List (TraceEvent C)}
    (cascade : Cascade self storage message responses after kept events)
    {nodeId quorumSize totalNodes instanceId : Nat} (several : 2 ≤ quorumSize)
    (configured : self.Configured nodeId quorumSize totalNodes instanceId)
    (answered : self.Answered message) (asks : ¬ message.ForAcceptor)
    (unprepared : ∀ p, .prepareMsg p ∉ responses) :
    after.acceptor = self.acceptor ∧ kept = storage := by
  induction cascade with
  | last step => exact step.unmoved asks
  | @more self middle after storage saved kept message response responses events later step rest
      ih =>
    obtain ⟨acceptor, stored⟩ := step.unmoved asks
    have silent : ¬ response.ForAcceptor := by
      cases response with
      | prepareMsg p => exact absurd List.mem_cons_self (unprepared p)
      | acceptMsg a => exact absurd rfl (answered.no_accept several configured step a)
      | _ => exact not_false
    obtain ⟨acceptor', stored'⟩ := ih (step.configured configured) (step.left (.inr answered))
      silent fun p member => unprepared p (List.mem_cons_of_mem _ member)
    exact ⟨acceptor'.trans acceptor, stored'.trans stored⟩

end PaxosInstance

namespace MultiPaxosNode

variable [DecidableEq C] [Serde Nat] [Serde (AcceptedValue C)]

theorem selfDeliver_idle (self : MultiPaxosNode C) {instanceId : Nat} {inst : PaxosInstance C}
    (present : self.paxosInstances instanceId = some inst) (idle : inst.Idle)
    {message : MessageKind C} (addressed : message.ForProposer) :
    self.selfDeliver instanceId message = { result := .ok [], after := self, trace := [] } := by
  have unchanged : self.putInstance instanceId inst self.storage = self := by
    unfold putInstance
    rw [← present, Function.update_eq_self]
  simp [selfDeliver, selfDeliverFuel, selfDeliverLoop, present,
    PaxosInstance.handleMessage_idle idle addressed, unchanged, Except.map]

theorem handleSynod_idle {self : MultiPaxosNode C} {instanceId : Nat}
    {message answer : MessageKind C}
    {after : PaxosInstance C} {kept : Option (PaxosStorage C)} {events : List (TraceEvent C)}
    (bounded : self.nextInstanceId ≤ instanceId → instanceId + 1 ≤ u64Max)
    (several : self.paxosInstances instanceId = none → 2 ≤ self.config.quorum)
    (handled : (self.instanceAt instanceId).handleMessage message self.storage =
      { result := .ok (some answer), after := after, storage := kept, trace := events })
    (idle : after.Idle) (addressed : answer.ForProposer) :
    (self.handleSynod instanceId message).result = .ok [self.broadcast instanceId answer] ∧
      (self.handleSynod instanceId message).after =
        self.afterSynod instanceId message (some answer) after kept := by
  have counted := nextAfter_ok.mpr ⟨bounded, rfl⟩
  have entered := entry_ok.mpr ⟨several, rfl⟩
  have delivered := selfDeliver_idle ((({ self with
      nextInstanceId := max self.nextInstanceId (instanceId + 1) } :
        MultiPaxosNode C).putInstance instanceId after kept).updateLeadership (some answer) message)
    (Function.update_self _ _ _) idle addressed
  simp only [handleSynod, counted, entered, bind, Except.bind, pure, Except.pure, handled]
  rw [delivered]
  exact ⟨rfl, rfl⟩

-- Two nodes with the same acceptors and the same storage; the second one has no round
-- open.
structure Twin (config : SmrConfig) (node rebuilt : MultiPaxosNode C) : Prop where
  restorable : Restorable config node
  restorable' : Restorable config rebuilt
  idle : ∀ instanceId, (rebuilt.instanceAt instanceId).Idle
  acceptors : ∀ instanceId,
    (rebuilt.instanceAt instanceId).acceptor = (node.instanceAt instanceId).acceptor
  storage : rebuilt.storage = node.storage

omit [DecidableEq C] [Serde Nat] [Serde (AcceptedValue C)] in
theorem idle_put {self after : MultiPaxosNode C} {instanceId : Nat} {inst : PaxosInstance C}
    (found : after.instanceAt = Function.update self.instanceAt instanceId inst)
    (before : ∀ instanceId, (self.instanceAt instanceId).Idle) (idle : inst.Idle) :
    ∀ instanceId, (after.instanceAt instanceId).Idle := by
  rw [found]
  exact (Function.forall_update_iff self.instanceAt fun _ inst => inst.Idle).mpr
    ⟨idle, fun other _ => before other⟩

theorem Twin.handle {config : SmrConfig} {node rebuilt : MultiPaxosNode C}
    (twin : Twin config node rebuilt) {m : Message C} (asks : m.msg.ForAcceptor)
    {out : List (Message C)} (done : (node.handleMessage m).result = .ok out) :
    ∃ answer, answer.msg.ForProposer ∧ out.take 1 = [answer] ∧
      (rebuilt.handleMessage m).result = .ok [answer] ∧
      ((∀ sent ∈ out, ∀ p, sent.msg ≠ .prepareMsg p) →
        Twin config (node.handleMessage m).after (rebuilt.handleMessage m).after) := by
  have answers := handleMessage_ok done
  generalize (node.handleMessage m).after = after, (node.handleMessage m).trace = events
    at answers ⊢
  have restorable := twin.restorable.answers answers
  have kept := twin.restorable.kept
  have kept' := twin.restorable'.kept
  cases answers with
  | dropped | taken | acked => exact asks.elim
  | synod m synod responses result stored events bounded several cascade =>
    have configured := kept.instanceAt_configured m.paxosInstance
    have numbered := (kept'.instanceAt_configured m.paxosInstance).instanceId.trans
      configured.instanceId.symm
    have ready := kept.instanceAt_settled m.paxosInstance
    cases cascade with
    | last step =>
      obtain ⟨⟨answer, response, -⟩, -⟩ :=
        step.handled asks (twin.acceptors m.paxosInstance) numbered
      simp at response
    | @more _ middle _ _ saved _ _ response responses earlier later step rest =>
      obtain ⟨⟨answer, whole, addressed⟩, -, handled⟩ :=
        step.handled asks (twin.acceptors m.paxosInstance) numbered
      obtain rfl := Option.some.inj whole
      rw [← twin.storage] at handled
      have synodic : rebuilt.handleMessage m = rebuilt.handleSynod m.paxosInstance m.msg := by
        obtain ⟨senderId, paxosInstance, message⟩ := m
        cases message <;> first | rfl | exact asks.elim
      have several' := kept.enough several
      have idle : ({ rebuilt.instanceAt m.paxosInstance with
          acceptor := middle.acceptor } : PaxosInstance C).Idle := twin.idle m.paxosInstance
      have room := kept.bounded
      obtain ⟨returned, left⟩ := handleSynod_idle
        (fun _ => (Nat.lt_or_ge m.paxosInstance node.nextInstanceId).elim (by omega) bounded)
        (fun _ => by rw [kept'.config]; exact several') handled idle addressed
      have same : rebuilt.broadcast m.paxosInstance response =
          node.broadcast m.paxosInstance response := by
        simp [broadcast, kept.id, kept'.id]
      rw [synodic, returned, left, same]
      refine ⟨_, addressed, rfl, rfl, fun unprepared => ?_⟩
      have answered : middle.Answered response := step.left (.inl ready)
      obtain ⟨acceptor, storage⟩ := rest.unmoved several' (step.configured configured) answered
        (by cases response <;> first | exact addressed.elim | exact not_false)
        fun p member => unprepared _ (List.mem_map_of_mem (List.mem_cons_of_mem _ member)) p rfl
      rw [← synodic] at returned
      have answers' := handleMessage_ok returned
      rw [synodic, left] at answers'
      refine ⟨restorable, twin.restorable'.answers answers',
        idle_put (afterSynod_instanceAt _ _ _ _ _ _) twin.idle idle, fun other => ?_, storage.symm⟩
      rw [afterSynod_instanceAt, afterSynod_instanceAt]
      by_cases same : other = m.paxosInstance
      · subst same
        rw [Function.update_self, Function.update_self, acceptor]
      · rw [Function.update_of_ne same, Function.update_of_ne same, twin.acceptors]

def handleAll : MultiPaxosNode C → List (Message C) → Except Fault (List (List (Message C)))
  | _, [] => .ok []
  | self, m :: rest => do
    let out ← (self.handleMessage m).result
    let outs ← handleAll (self.handleMessage m).after rest
    pure (out :: outs)

theorem Twin.handleAll {config : SmrConfig} {node rebuilt : MultiPaxosNode C}
    (twin : Twin config node rebuilt) {later : List (Message C)}
    (asks : ∀ m ∈ later, m.msg.ForAcceptor) {outs : List (List (Message C))}
    (done : node.handleAll later = .ok outs)
    (unprepared : ∀ out ∈ outs.dropLast, ∀ sent ∈ out, ∀ p, sent.msg ≠ .prepareMsg p) :
    rebuilt.handleAll later = .ok (outs.map (List.take 1)) := by
  induction later generalizing node rebuilt outs with
  | nil =>
    obtain rfl := Except.ok.inj done
    rfl
  | cons m rest ih =>
    obtain ⟨out, handled, remaining⟩ := bind_ok.mp done
    obtain ⟨others, answered, whole⟩ := bind_ok.mp remaining
    obtain rfl := Except.ok.inj whole
    obtain ⟨answer, -, first, returned, next⟩ := twin.handle (asks m List.mem_cons_self) handled
    have continues : (rebuilt.handleMessage m).after.handleAll rest =
        .ok (others.map (List.take 1)) := by
      cases rest with
      | nil =>
        obtain rfl := Except.ok.inj answered
        rfl
      | cons m' rest =>
        cases others with
        | nil =>
          obtain ⟨_, -, answered⟩ := bind_ok.mp answered
          obtain ⟨_, -, answered⟩ := bind_ok.mp answered
          simp [pure, Except.pure] at answered
        | cons out' others =>
          rw [List.dropLast_cons_cons] at unprepared
          refine ih (next (unprepared out List.mem_cons_self))
            (fun m member => asks m (List.mem_cons_of_mem _ member)) answered ?_
          exact fun out member => unprepared out (List.mem_cons_of_mem _ member)
    rw [MultiPaxosNode.handleAll, returned]
    simp only [bind, Except.bind, continues, pure, Except.pure, List.map_cons, first]

theorem Twin.single {config : SmrConfig} {node rebuilt : MultiPaxosNode C}
    (twin : Twin config node rebuilt) (idle : ∀ instanceId, (node.instanceAt instanceId).Idle)
    {later : List (Message C)} (asks : ∀ m ∈ later, m.msg.ForAcceptor)
    {outs : List (List (Message C))} (done : node.handleAll later = .ok outs) :
    ∀ out ∈ outs, ∃ answer, answer.msg.ForProposer ∧ out = [answer] := by
  have self : Twin config node node :=
    ⟨twin.restorable, twin.restorable, idle, fun _ => rfl, rfl⟩
  clear twin idle
  induction later generalizing node outs with
  | nil =>
    obtain rfl := Except.ok.inj done
    simp
  | cons m rest ih =>
    obtain ⟨out, handled, remaining⟩ := bind_ok.mp done
    obtain ⟨others, answered, whole⟩ := bind_ok.mp remaining
    obtain rfl := Except.ok.inj whole
    obtain ⟨answer, addressed, first, returned, next⟩ :=
      self.handle (asks m List.mem_cons_self) handled
    obtain rfl := Except.ok.inj (handled.symm.trans returned)
    have unprepared : ∀ sent ∈ [answer], ∀ p, sent.msg ≠ .prepareMsg p := by
      intro sent member p prepares
      obtain rfl := List.mem_singleton.mp member
      rw [prepares] at addressed
      exact addressed
    intro out member
    rcases List.mem_cons.mp member with rfl | member
    · exact ⟨answer, addressed, rfl⟩
    · exact ih (fun m member => asks m (List.mem_cons_of_mem _ member)) answered
        (next unprepared) out member

theorem Twin.same {config : SmrConfig} {node rebuilt : MultiPaxosNode C}
    (twin : Twin config node rebuilt) (idle : ∀ instanceId, (node.instanceAt instanceId).Idle)
    {later : List (Message C)} (asks : ∀ m ∈ later, m.msg.ForAcceptor)
    {outs : List (List (Message C))} (done : node.handleAll later = .ok outs) :
    rebuilt.handleAll later = .ok outs := by
  have single := twin.single idle asks done
  rw [twin.handleAll asks done ?_]
  · congr 1
    conv_rhs => rw [← List.map_id outs]
    refine List.map_congr_left fun out member => ?_
    obtain ⟨answer, -, rfl⟩ := single out member
    rfl
  · intro out member sent within p prepares
    obtain ⟨answer, addressed, rfl⟩ := single out (List.mem_of_mem_dropLast member)
    obtain rfl := List.mem_singleton.mp within
    rw [prepares] at addressed
    exact addressed

omit [DecidableEq C] in
theorem Twin.restart {config : SmrConfig} {node : MultiPaxosNode C} {store : PaxosStorage C}
    (restorable : Restorable config node) (stored : node.storage = some store) :
    ∃ rebuilt, withStorage config store = .ok rebuilt ∧ Twin config node rebuilt := by
  obtain ⟨rebuilt, built, restorable', acceptors⟩ := restorable.restarts stored
  refine ⟨rebuilt, built, restorable, restorable', fun instanceId => ?_, fun instanceId => ?_, ?_⟩
  · rw [acceptors]
    rfl
  · rw [acceptors]
  · obtain ⟨saved, represents, -⟩ := restorable.kept.storage store stored
    obtain ⟨next, -, -, rfl⟩ := withStorage_ok represents built
    exact stored.symm

end MultiPaxosNode

namespace Life

open MultiPaxosNode

variable [DecidableEq C] [Serde Nat] [Serde (AcceptedValue C)]

theorem acceptors_survive {config : SmrConfig} {s : Life C}
    (reachable : (system config).Reachable Any s) :
    (∃ store rebuilt, s.node.storage = some store ∧ withStorage config store = .ok rebuilt ∧
      ∀ later : List (Message C), (∀ m ∈ later, m.msg.ForAcceptor) → ∀ outs,
        s.node.handleAll later = .ok outs →
          ((∀ instanceId, (s.node.instanceAt instanceId).Idle) →
            rebuilt.handleAll later = .ok outs) ∧
          ((∀ out ∈ outs.dropLast, ∀ sent ∈ out, ∀ p, sent.msg ≠ .prepareMsg p) →
            rebuilt.handleAll later = .ok (outs.map (List.take 1)))) ∧
    ∀ c count, ∃ rebuilt, s.node.crash config c count = .ok rebuilt ∧
      (∀ m ∈ s.returned, ∀ promise, m.msg = .promiseMsg promise →
        promise.ballot ≤ (rebuilt.instanceAt m.paxosInstance).acceptor.maxBallot) ∧
      (∀ m ∈ s.returned, ∀ ack, m.msg = .ackAcceptMsg ack →
        ack.ballot ≤ (rebuilt.instanceAt m.paxosInstance).acceptor.maxBallot ∧
        ∃ value, (rebuilt.instanceAt m.paxosInstance).acceptor.maxAccepted = some value ∧
          ack.ballot ≤ value.ballot) ∧
      ∀ instanceId value, (rebuilt.instanceAt instanceId).acceptor.maxAccepted = some value →
        value.ballot ≤ (rebuilt.instanceAt instanceId).acceptor.maxBallot ∧
        ((Acked s.events instanceId value ∧ ∃ m ∈ s.returned, m.paxosInstance = instanceId ∧
            ∃ ack, m.msg = .ackAcceptMsg ack ∧ ack.ballot = value.ballot) ∨
          proposalPut instanceId value ∈ s.torn ++ s.node.survived c count) := by
  have truthful := truthful_reachable reachable
  constructor
  · obtain ⟨store, stored⟩ := Option.isSome_iff_exists.mp truthful.restorable.stored
    obtain ⟨rebuilt, built, twin⟩ := Twin.restart truthful.restorable stored
    exact ⟨store, rebuilt, stored, built, fun later asks outs done =>
      ⟨fun idle => twin.same idle asks done, twin.handleAll asks done⟩⟩
  · intro c count
    obtain ⟨rebuilt, built, after⟩ := truthful.crash c count
    refine ⟨rebuilt, built, after.promises, fun m sent ack answers => ?_,
      fun instanceId value held => ⟨after.upright.ordered instanceId value held,
        after.source instanceId value held⟩⟩
    obtain ⟨value, held, higher⟩ := after.acks m sent ack answers
    exact ⟨Nat.le_trans higher (after.upright.ordered m.paxosInstance value held), value, held,
      higher⟩

end Life

end Twins

namespace Life

open MultiPaxosNode

def blankStore : PaxosStorage Nat :=
  { storage := { map := .new, written := [], fails := fun _ => false } }

def born : Life Nat :=
  { node := { MultiPaxosNode.new zeroOfThree with storage := some blankStore }
    returned := []
    events := []
    torn := [] }

theorem born_begins : Begins zeroOfThree born :=
  .intro (rfl : blankStore.storage.map.scanPrefix _ = []) rfl

instance (s : Life Nat) (a : Action Nat) : Decidable (Any s a) :=
  inferInstanceAs (Decidable True)

def lived (actions : List (Action Nat)) : Life Nat :=
  Run.System.final (step zeroOfThree) Any born actions

theorem lived_reachable {actions : List (Action Nat)}
    (runs : (Run.System.exec (step zeroOfThree) Any born actions).isSome) :
    (system zeroOfThree).Reachable Any (lived actions) :=
  Run.System.final_reachable (fun _ _ _ next => next) (.init born_begins) runs

def asked (sender ballot : Nat) : Message Nat :=
  { senderId := sender, paxosInstance := 0
    msg := .prepareMsg { sender := sender, ballot := ballot } }

def accepting (ballot command : Nat) : Call Nat :=
  .deliver
    { senderId := 1, paxosInstance := 0
      msg := .acceptMsg { sender := 1, ballot := ballot, command := command } }

theorem acceptors_survive_torn :
    ∃ rebuilt, (lived [.call (accepting 4 7)]).node.crash zeroOfThree (accepting 7 8) 1 =
        .ok rebuilt ∧
      4 ≤ (rebuilt.instanceAt 0).acceptor.maxBallot ∧
      ∃ value, (rebuilt.instanceAt 0).acceptor.maxAccepted = some value ∧ 4 ≤ value.ballot := by
  have reachable : (system zeroOfThree).Reachable Any (lived [.call (accepting 4 7)]) :=
    lived_reachable (by decide +kernel)
  obtain ⟨rebuilt, built, -, acks, -⟩ := (acceptors_survive reachable).2 (accepting 7 8) 1
  have sent : { senderId := 0, paxosInstance := 0
                msg := .ackAcceptMsg { sender := 0, ballot := 4 } } ∈
      (lived [.call (accepting 4 7)]).returned := by decide +kernel
  exact ⟨rebuilt, built, acks _ sent _ rfl⟩

def rebuilt (s : Life Nat) : Option (MultiPaxosNode Nat) :=
  s.node.storage.bind fun store => (withStorage zeroOfThree store).toOption

def belated : List (Message Nat) :=
  [asked 2 2, asked 1 1, asked 1 4]

theorem rebuilt_differs :
    (system zeroOfThree).Reachable Any (lived [.call (.propose 9)]) ∧
    ∃ store rebuilt outs outs', (lived [.call (.propose 9)]).node.storage = some store ∧
      withStorage zeroOfThree store = .ok rebuilt ∧ (∀ m ∈ belated, m.msg.ForAcceptor) ∧
      (lived [.call (.propose 9)]).node.handleAll belated = .ok outs ∧
      rebuilt.handleAll belated = .ok outs' ∧ outs ≠ outs' ∧
      outs.map (List.take 1) ≠ outs'.map (List.take 1) := by
  refine ⟨lived_reachable (by decide +kernel), ?_⟩
  have runs : ((lived [.call (.propose 9)]).node.handleAll belated).toOption.isSome ∧
      ((rebuilt (lived [.call (.propose 9)])).bind fun node =>
        (node.handleAll belated).toOption).isSome ∧
      ((lived [.call (.propose 9)]).node.handleAll belated).toOption.map
          (List.map (List.take 1)) ≠
        ((rebuilt (lived [.call (.propose 9)])).bind fun node =>
          (node.handleAll belated).toOption).map (List.map (List.take 1)) := by
    decide +kernel
  obtain ⟨outlives, returns, differs⟩ := runs
  obtain ⟨outs, done⟩ := Option.isSome_iff_exists.mp outlives
  obtain ⟨outs', done'⟩ := Option.isSome_iff_exists.mp returns
  rw [done, done'] at differs
  obtain ⟨rebuilt, built, done'⟩ := Option.bind_eq_some_iff.mp done'
  obtain ⟨store, stored, built⟩ := Option.bind_eq_some_iff.mp built
  refine ⟨store, rebuilt, outs, outs', stored, toOption_some.mp built, ?_, toOption_some.mp done,
    toOption_some.mp done', fun same => differs (by rw [same]), fun same => differs ?_⟩
  · simp [belated, asked, MessageKind.ForAcceptor]
  · simp [same]

end Life

end Smr
