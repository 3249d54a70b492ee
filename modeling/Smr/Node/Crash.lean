import Smr.Node.Lasting
import Smr.Node.Restart

set_option autoImplicit false

namespace Smr

open Text

variable {C : Type}

def Acked (events : List (TraceEvent C)) (instanceId : Nat) (value : MaxAcceptedProposal C) :
    Prop :=
  ∃ nodeId ballot sender maxBal,
    .phase2b nodeId instanceId ballot sender maxBal value ∈ events

section Puts

variable [Serde Nat] [Serde (AcceptedValue C)]

def proposalPut (instanceId : Nat) (value : MaxAcceptedProposal C) : Bytes × Bytes :=
  (acceptedKey instanceId,
    Serde.toVec ({ ballot := value.ballot, command := value.command } : AcceptedValue C))

structure Survives (before after : Acceptor C) (instanceId : Nat) (puts : List (Bytes × Bytes)) :
    Prop where
  ballot : before.maxBallot ≤ after.maxBallot
  accepted : ∀ value, before.maxAccepted = some value →
    ∃ later, after.maxAccepted = some later ∧ value.ballot ≤ later.ballot
  source : after.maxAccepted = before.maxAccepted ∨
    ∃ value, after.maxAccepted = some value ∧ proposalPut instanceId value ∈ puts

theorem Writes.survives {saved after : SavedStates C} {writes : List (Write C)}
    (whole : Writes saved writes after) (ordered : Ordered saved) (nodeId instanceId : Nat) :
    Survives (recovered nodeId (saved instanceId)) (recovered nodeId (after instanceId))
      instanceId (writes.map Write.entry) := by
  have accepted (states : SavedStates C) :
      (recovered nodeId (states instanceId)).maxAccepted =
        ((states instanceId).bind AcceptorState.maxAccepted).map fun value =>
          { ballot := value.ballot, command := value.command } := by
    cases states instanceId <;> rfl
  refine ⟨?_, fun value held => ?_, ?_⟩
  · cases present : saved instanceId with
    | none => exact Nat.zero_le _
    | some state =>
      obtain ⟨later, reached, higher⟩ := whole.grows present
      rw [reached]
      exact higher
  · rw [accepted] at held ⊢
    obtain ⟨stored, taken, rfl⟩ := Option.map_eq_some_iff.mp held
    obtain ⟨later, reached, higher⟩ := whole.accepted_grows ordered taken
    exact ⟨_, by rw [reached]; rfl, higher⟩
  · rw [accepted, accepted]
    rcases whole.accepted instanceId with same | ⟨value, member, held⟩
    · exact .inl (by rw [same])
    · refine .inr ⟨⟨value.ballot, value.command⟩, by rw [held]; rfl, ?_⟩
      exact List.mem_map_of_mem (f := Write.entry) member

end Puts

namespace PaxosInstance

structure Tells (before after : PaxosInstance C) (responses : List (MessageKind C))
    (events : List (TraceEvent C)) : Prop where
  promises : ∀ m, .promiseMsg m ∈ responses → m.ballot ≤ after.acceptor.maxBallot
  acks : ∀ m, .ackAcceptMsg m ∈ responses →
    ∃ value, after.acceptor.maxAccepted = some value ∧ m.ballot ≤ value.ballot
  source : after.acceptor.maxAccepted = before.acceptor.maxAccepted ∨
    ∃ value, after.acceptor.maxAccepted = some value ∧ Acked events before.instanceId value ∧
      ∃ m, .ackAcceptMsg m ∈ responses ∧ m.ballot = value.ballot

variable [DecidableEq C] [Serde Nat] [Serde (AcceptedValue C)]

theorem Step.tells {self after : PaxosInstance C} {storage kept : Option (PaxosStorage C)}
    {message : MessageKind C} {response : Option (MessageKind C)} {events : List (TraceEvent C)}
    (step : self.Step storage message response after kept events) :
    self.Tells after response.toList events := by
  cases step with
  | promise p kept higher saved =>
    exact ⟨by simp, by simp, .inl rfl⟩
  | ackAccept a kept current saved =>
    refine ⟨by simp, fun m sent => ⟨_, rfl, ?_⟩,
      .inr ⟨_, rfl, ?_, _, List.mem_singleton_self _, rfl⟩⟩
    · simp only [Option.toList_some, List.mem_singleton, MessageKind.ackAcceptMsg.injEq] at sent
      rw [sent]
    · exact ⟨_, _, _, _, List.mem_singleton_self _⟩
  | nackPrepare p lower => exact ⟨by simp, by simp, .inl rfl⟩
  | nackAccept a stale => exact ⟨by simp, by simp, .inl rfl⟩
  | learn m learner reply heard =>
    refine ⟨fun m sent => ?_, fun m sent => ?_, .inl rfl⟩ <;>
    · cases (echo_some (Option.mem_toList.mp sent)).2
  | proposer message response next addressed asked =>
    generalize self.proposer.innerState = current at asked
    refine ⟨fun m sent => ?_, fun m sent => ?_, .inl rfl⟩ <;>
    · cases asked <;> simp at sent
  | ignored cmd => exact ⟨by simp, by simp, .inl rfl⟩

theorem Cascade.tells {self after : PaxosInstance C} {storage kept : Option (PaxosStorage C)}
    {message : MessageKind C} {responses : List (MessageKind C)} {events : List (TraceEvent C)}
    (cascade : Cascade self storage message responses after kept events)
    (ordered : self.acceptor.Ordered) : self.Tells after responses events ∧ self.Grows after := by
  induction cascade with
  | last step => exact ⟨step.tells, (step.grows ordered).1⟩
  | @more self middle after storage saved kept message response responses events later step rest
      ih =>
    obtain ⟨grows, ordered', -⟩ := step.grows ordered
    obtain ⟨tells', grows'⟩ := ih ordered'
    have tells := step.tells
    have acked {value : MaxAcceptedProposal C} {earlier : List (TraceEvent C)}
        (acked : Acked earlier self.instanceId value)
        (included : ∀ event ∈ earlier, event ∈ events ++ later) :
        Acked (events ++ later) self.instanceId value := by
      obtain ⟨nodeId, ballot, sender, maxBal, member⟩ := acked
      exact ⟨nodeId, ballot, sender, maxBal, included _ member⟩
    refine ⟨⟨fun m sent => ?_, fun m sent => ?_, ?_⟩, grows.trans grows'⟩
    · rcases List.mem_cons.mp sent with rfl | sent
      · exact Nat.le_trans (tells.promises m (by simp)) grows'.ballot
      · exact tells'.promises m sent
    · rcases List.mem_cons.mp sent with rfl | sent
      · obtain ⟨value, held, higher⟩ := tells.acks m (by simp)
        obtain ⟨value', held', higher'⟩ := grows'.accepted value held
        exact ⟨value', held', Nat.le_trans higher higher'⟩
      · exact tells'.acks m sent
    · rcases tells'.source with same | ⟨value, held, source, m, sent, exactly⟩
      · rcases tells.source with same' | ⟨value, held, source, m, sent, exactly⟩
        · exact .inl (same.trans same')
        · refine .inr ⟨value, same.trans held, acked source (by simp +contextual), m, ?_, exactly⟩
          simp only [Option.toList_some, List.mem_singleton] at sent
          exact sent ▸ List.mem_cons_self
      · refine .inr ⟨value, held, acked (grows.instanceId ▸ source) (by simp +contextual), m,
          List.mem_cons_of_mem _ sent, exactly⟩

end PaxosInstance

namespace MultiPaxosNode

structure Tells (before after : MultiPaxosNode C) (msgs : List (Message C))
    (events : List (TraceEvent C)) : Prop where
  promises : ∀ m ∈ msgs, ∀ promise, m.msg = .promiseMsg promise →
    promise.ballot ≤ (after.instanceAt m.paxosInstance).acceptor.maxBallot
  acks : ∀ m ∈ msgs, ∀ ack, m.msg = .ackAcceptMsg ack →
    ∃ value, (after.instanceAt m.paxosInstance).acceptor.maxAccepted = some value ∧
      ack.ballot ≤ value.ballot
  source : ∀ instanceId value,
    (after.instanceAt instanceId).acceptor.maxAccepted = some value →
      (before.instanceAt instanceId).acceptor.maxAccepted = some value ∨
        Acked events instanceId value ∧ ∃ m ∈ msgs, m.paxosInstance = instanceId ∧
          ∃ ack, m.msg = .ackAcceptMsg ack ∧ ack.ballot = value.ballot

theorem Tells.silent {before after : MultiPaxosNode C} {msgs : List (Message C)}
    {events : List (TraceEvent C)} (same : after.instanceAt = before.instanceAt)
    (silent : ∀ m ∈ msgs, ¬ m.msg.IsSynod) : Tells before after msgs events where
  promises m sent promise answers := (silent m sent (by rw [answers]; trivial)).elim
  acks m sent ack answers := (silent m sent (by rw [answers]; trivial)).elim
  source instanceId value held := .inl (same ▸ held)

theorem Tells.more {before after later : MultiPaxosNode C} {msgs : List (Message C)}
    {events : List (TraceEvent C)} (tells : Tells before after msgs events)
    (extra : List (Message C)) (more : List (TraceEvent C))
    (same : later.instanceAt = after.instanceAt)
    (silent : ∀ m ∈ extra, (∀ promise, m.msg ≠ .promiseMsg promise) ∧
      ∀ ack, m.msg ≠ .ackAcceptMsg ack) {sent : List (Message C)}
    (whole : ∀ m, m ∈ sent ↔ m ∈ msgs ∨ m ∈ extra) : Tells before later sent (more ++ events) where
  promises m member promise answers := by
    rcases (whole m).mp member with member | member
    · exact same ▸ tells.promises m member promise answers
    · exact absurd answers ((silent m member).1 promise)
  acks m member ack answers := by
    rcases (whole m).mp member with member | member
    · exact same ▸ tells.acks m member ack answers
    · exact absurd answers ((silent m member).2 ack)
  source instanceId value held := by
    rcases tells.source instanceId value (same ▸ held) with earlier | ⟨acked, m, sent, rest⟩
    · exact .inl earlier
    · obtain ⟨nodeId, ballot, sender, maxBal, member⟩ := acked
      exact .inr ⟨⟨nodeId, ballot, sender, maxBal, List.mem_append_right _ member⟩, m,
        (whole m).mpr (.inl sent), rest⟩

theorem Tells.cascade {before after : MultiPaxosNode C} {instanceId : Nat}
    {inst result : PaxosInstance C} {responses : List (MessageKind C)}
    {events : List (TraceEvent C)} (tells : inst.Tells result responses events)
    (numbered : inst.instanceId = instanceId)
    (starts : inst.acceptor = (before.instanceAt instanceId).acceptor)
    (found : after.instanceAt = Function.update before.instanceAt instanceId result)
    (sender : MultiPaxosNode C) :
    Tells before after (responses.map (sender.broadcast instanceId)) events where
  promises m sent promise answers := by
    obtain ⟨response, member, rfl⟩ := List.mem_map.mp sent
    obtain rfl : response = .promiseMsg promise := answers
    rw [found, broadcast, Function.update_self]
    exact tells.promises promise member
  acks m sent ack answers := by
    obtain ⟨response, member, rfl⟩ := List.mem_map.mp sent
    obtain rfl : response = .ackAcceptMsg ack := answers
    rw [found, broadcast, Function.update_self]
    exact tells.acks ack member
  source other value held := by
    rw [found] at held
    by_cases same : other = instanceId
    · subst same
      rw [Function.update_self] at held
      rcases tells.source with kept | ⟨value', held', acked, m, sent, exactly⟩
      · exact .inl (by rw [← starts, ← kept, held])
      · obtain rfl := Option.some.inj (held.symm.trans held')
        exact .inr ⟨numbered ▸ acked, _, List.mem_map_of_mem sent, rfl, m, rfl, exactly⟩
    · rw [Function.update_of_ne same] at held
      exact .inl held

variable [DecidableEq C] [Serde Nat] [Serde (AcceptedValue C)]

theorem Starts.tells {config : SmrConfig} {node after : MultiPaxosNode C} {cmd : C}
    {msgs : List (Message C)} {events : List (TraceEvent C)} (upright : Upright config node)
    (starts : node.Starts cmd msgs after events) : Tells node after msgs events := by
  cases starts with
  | intro first inst result responses kept events bounded several opens cascade =>
    have fresh : node.instanceAt node.nextInstanceId = node.fresh node.nextInstanceId := by
      rw [instanceAt, upright.next_empty, Option.getD_none]
    have launched : inst.instanceId = node.nextInstanceId ∧
        inst.acceptor = (node.instanceAt node.nextInstanceId).acceptor := by
      rw [fresh]
      cases opens <;> exact ⟨rfl, rfl⟩
    obtain ⟨numbered, acceptor⟩ := launched
    obtain ⟨tells, -⟩ := cascade.tells (acceptor ▸ upright.ordered node.nextInstanceId)
    refine (Tells.cascade tells numbered acceptor
      (node.afterStart_instanceAt cmd result kept) node).more
      [node.broadcast node.nextInstanceId first] (node.firstTrace node.nextInstanceId first) rfl
      (fun m member => ?_) fun m => ?_
    · obtain rfl := List.mem_singleton.mp member
      cases opens <;> simp [broadcast]
    · simp [or_comm]

theorem Proposes.tells {config : SmrConfig} {node after : MultiPaxosNode C} {cmd : C}
    {msgs : List (Message C)} {events : List (TraceEvent C)} (upright : Upright config node)
    (proposes : node.Proposes cmd msgs after events) : Tells node after msgs events := by
  cases proposes with
  | forward forwards => exact .silent rfl (by simp [broadcast, MessageKind.IsSynod])
  | start stays starts => exact starts.tells upright

theorem Answers.tells {config : SmrConfig} {node after : MultiPaxosNode C} {m : Message C}
    {msgs : List (Message C)} {events : List (TraceEvent C)} (upright : Upright config node)
    (answers : node.Answers m msgs after events) : Tells node after msgs events := by
  cases answers with
  | dropped senderId instanceId forwardId cmd unled => exact .silent rfl (by simp)
  | taken senderId instanceId forwardId cmd leads starts =>
    rw [← List.nil_append events]
    refine (starts.tells upright).more _ [] ?_ ?_ fun m => List.mem_append
    · rfl
    · simp [broadcast]
  | acked senderId paxosInstance forwardId instanceId =>
    obtain ⟨forwarded, pending, whole⟩ := node.handleForwardAck_frame forwardId instanceId
    exact .silent (by rw [whole]; rfl) (by simp)
  | synod m synod responses result kept events bounded several cascade =>
    obtain ⟨tells, -⟩ := cascade.tells (upright.ordered m.paxosInstance)
    exact Tells.cascade tells (upright.numbered m.paxosInstance) rfl
      (afterSynod_instanceAt _ _ _ _ _ _) node

def returns (self : MultiPaxosNode C) : Call C → Except Fault (List (Message C))
  | .propose command => (self.propose command).result.map Prod.fst
  | .deliver message => (self.handleMessage message).result
  | .commit _ => .ok []

def emits (self : MultiPaxosNode C) : Call C → List (TraceEvent C)
  | .propose command => (self.propose command).trace
  | .deliver message => (self.handleMessage message).trace
  | .commit _ => []

-- A crash in the middle of a call, after `count` of its puts. With none of the puts it
-- is a crash between two calls.
def crash (config : SmrConfig) (self : MultiPaxosNode C) (c : Call C) (count : Nat) :
    Except Fault (MultiPaxosNode C) :=
  match self.storage, (self.call c).storage with
  | some before, some after => withStorage config (before.torn after count)
  | _, _ => .error .failed

def survived (self : MultiPaxosNode C) (c : Call C) (count : Nat) : List (Bytes × Bytes) :=
  match self.storage, (self.call c).storage with
  | some before, some after => (before.puts after).take count
  | _, _ => []

theorem returns_ok {self : MultiPaxosNode C} {config : SmrConfig} {c : Call C}
    {msgs : List (Message C)} (upright : Upright config self)
    (restorable : Restorable config self) (done : self.returns c = .ok msgs) :
    Tells self (self.call c) msgs (self.emits c) ∧ Restorable config (self.call c) := by
  cases c with
  | propose command =>
    obtain ⟨⟨msgs, sender⟩, proposed, rfl⟩ := map_ok.mp done
    exact ⟨(propose_ok proposed).tells upright, restorable.proposes (propose_ok proposed)⟩
  | deliver message =>
    exact ⟨(handleMessage_ok done).tells upright, restorable.answers (handleMessage_ok done)⟩
  | commit instanceId =>
    obtain rfl := Except.ok.inj done
    refine ⟨.silent ?_ (by simp), restorable.getCommitId instanceId⟩
    rw [call, getCommitId]
    split <;> rfl

theorem Restorable.crash {config : SmrConfig} {node : MultiPaxosNode C}
    (restorable : Restorable config node) (upright : Upright config node) (c : Call C)
    (count : Nat) :
    ∃ restored, node.crash config c count = .ok restored ∧ Restorable config restored ∧
      Upright config restored ∧ ∀ instanceId,
        Survives (node.instanceAt instanceId).acceptor (restored.instanceAt instanceId).acceptor
          instanceId (node.survived c count) := by
  obtain ⟨before, stored⟩ := Option.isSome_iff_exists.mp restorable.stored
  obtain ⟨saved, represents, spelled⟩ := restorable.kept.storage before stored
  obtain ⟨saved', represents', ordered, ahead⟩ := upright.storage before stored
  obtain rfl := represents'.unique represents
  obtain ⟨after, writes, later, stored', wrote, whole, -, several⟩ :=
    (node.call_alters c).writes upright stored ahead
  obtain ⟨middle, rest, part, -⟩ := whole.part (writes.take_prefix count)
  have torn := represents.writes part (wrote.torn count)
  have enough : ∀ instanceId state, middle instanceId = some state → 2 ≤ config.quorum := by
    intro instanceId state present
    by_cases others : ∀ write ∈ writes.take count, instanceId ≠ write.instanceId
    · rw [part.elsewhere others] at present
      exact restorable.several before saved' stored represents instanceId state present
    · push Not at others
      obtain ⟨write, member, rfl⟩ := others
      rcases several write (List.mem_of_mem_take member) with large | instances
      · rwa [upright.configured] at large
      · obtain ⟨inst, held⟩ := Option.ne_none_iff_exists'.mp instances
        exact restorable.kept.several _ inst held
  obtain ⟨restored, built⟩ := withStorage_built torn enough
  have acceptors (instanceId : Nat) : (restored.instanceAt instanceId).acceptor =
      recovered config.nodeId (middle instanceId) := by
    obtain ⟨next, -, -, rfl⟩ := withStorage_ok torn built
    exact congrArg PaxosInstance.acceptor (@instanceAt_restored C config.totalNodes config.nodeId
      next (some (before.torn after count)) middle instanceId)
  refine ⟨restored, ?_, .withStorage torn enough built,
    (Built.withStorage ⟨middle, torn, part.ordered ordered⟩ built).upright, fun instanceId => ?_⟩
  · simp only [MultiPaxosNode.crash, stored, stored']
    exact built
  · have survives := part.survives ordered config.nodeId instanceId
    have own : (node.instanceAt instanceId).acceptor = _ := spelled instanceId
    rw [acceptors, own]
    simp only [survived, stored, stored', wrote.puts, ← List.map_take]
    exact survives

end MultiPaxosNode

-- The lives of one storage-backed node: what the calls that returned handed back, the
-- events they emitted, and the puts of the calls a crash broke off.
structure Life (C : Type) where
  node : MultiPaxosNode C
  returned : List (Message C)
  events : List (TraceEvent C)
  torn : List (Bytes × Bytes)

namespace Life

open MultiPaxosNode

inductive Action (C : Type) where
  | call (c : Call C)
  | crash (c : Call C) (count : Nat)

variable [DecidableEq C] [Serde Nat] [Serde (AcceptedValue C)]

def step (config : SmrConfig) (s : Life C) : Action C → Option (Life C)
  | .call c =>
    (s.node.returns c).toOption.map fun msgs =>
      { s with
        node := s.node.call c
        returned := s.returned ++ msgs
        events := s.events ++ s.node.emits c }
  | .crash c count =>
    (s.node.crash config c count).toOption.map fun node =>
      { s with node := node, torn := s.torn ++ s.node.survived c count }

inductive Begins (config : SmrConfig) : Life C → Prop where
  | intro {store : PaxosStorage C} {node : MultiPaxosNode C}
      (blank : store.storage.map.scanPrefix (asBytes acceptorRoot) = [])
      (built : withStorage config store = .ok node) :
      Begins config { node := node, returned := [], events := [], torn := [] }

def system (config : SmrConfig) : Run.System (Life C) (Action C) :=
  { init := Begins config, step := fun s a t => step config s a = some t }

def Any (_ : Life C) (_ : Action C) : Prop :=
  True

structure Truthful (config : SmrConfig) (s : Life C) : Prop where
  restorable : Restorable config s.node
  upright : Upright config s.node
  promises : ∀ m ∈ s.returned, ∀ promise, m.msg = .promiseMsg promise →
    promise.ballot ≤ (s.node.instanceAt m.paxosInstance).acceptor.maxBallot
  acks : ∀ m ∈ s.returned, ∀ ack, m.msg = .ackAcceptMsg ack →
    ∃ value, (s.node.instanceAt m.paxosInstance).acceptor.maxAccepted = some value ∧
      ack.ballot ≤ value.ballot
  source : ∀ instanceId value,
    (s.node.instanceAt instanceId).acceptor.maxAccepted = some value →
      (Acked s.events instanceId value ∧ ∃ m ∈ s.returned, m.paxosInstance = instanceId ∧
        ∃ ack, m.msg = .ackAcceptMsg ack ∧ ack.ballot = value.ballot) ∨
      proposalPut instanceId value ∈ s.torn

omit [DecidableEq C] in
theorem Begins.truthful {config : SmrConfig} {s : Life C} (begins : Begins config s) :
    Truthful config s := by
  obtain ⟨blank, built⟩ := begins
  have represents := PaxosStorage.represents_none blank
  refine ⟨.empty blank built, (Built.withStorage ⟨_, represents, by simp [Ordered]⟩ built).upright,
    by simp, by simp, fun instanceId value held => ?_⟩
  obtain ⟨next, -, -, rfl⟩ := withStorage_ok represents built
  simp [instanceAt, MultiPaxosNode.fresh, PaxosInstance.fresh, Acceptor.new] at held

theorem Truthful.call {config : SmrConfig} {s : Life C} (truthful : Truthful config s)
    {c : Call C} {msgs : List (Message C)} (done : s.node.returns c = .ok msgs) :
    Truthful config
      { s with
        node := s.node.call c
        returned := s.returned ++ msgs
        events := s.events ++ s.node.emits c } := by
  obtain ⟨tells, restorable⟩ := returns_ok truthful.upright truthful.restorable done
  obtain ⟨upright, keeps⟩ := (call_alters s.node c).upright truthful.upright
  refine ⟨restorable, upright, fun m sent promise answers => ?_, fun m sent ack answers => ?_,
    fun instanceId value held => ?_⟩
  · rcases List.mem_append.mp sent with sent | sent
    · exact Nat.le_trans (truthful.promises m sent promise answers)
        (keeps.grows m.paxosInstance).ballot
    · exact tells.promises m sent promise answers
  · rcases List.mem_append.mp sent with sent | sent
    · obtain ⟨value, held, higher⟩ := truthful.acks m sent ack answers
      obtain ⟨later, held', higher'⟩ := (keeps.grows m.paxosInstance).accepted value held
      exact ⟨later, held', Nat.le_trans higher higher'⟩
    · exact tells.acks m sent ack answers
  · rcases tells.source instanceId value held with earlier | ⟨acked, m, sent, rest⟩
    · rcases truthful.source instanceId value earlier with ⟨acked, m, sent, rest⟩ | torn
      · obtain ⟨nodeId, ballot, sender, maxBal, member⟩ := acked
        exact .inl ⟨⟨nodeId, ballot, sender, maxBal, List.mem_append_left _ member⟩, m,
          List.mem_append_left _ sent, rest⟩
      · exact .inr torn
    · obtain ⟨nodeId, ballot, sender, maxBal, member⟩ := acked
      exact .inl ⟨⟨nodeId, ballot, sender, maxBal, List.mem_append_right _ member⟩, m,
        List.mem_append_right _ sent, rest⟩

theorem Truthful.crash {config : SmrConfig} {s : Life C} (truthful : Truthful config s)
    (c : Call C) (count : Nat) :
    ∃ restored, s.node.crash config c count = .ok restored ∧
      Truthful config
        { s with node := restored, torn := s.torn ++ s.node.survived c count } := by
  obtain ⟨restored, built, restorable, upright, survives⟩ :=
    truthful.restorable.crash truthful.upright c count
  refine ⟨restored, built, restorable, upright, fun m sent promise answers => ?_,
    fun m sent ack answers => ?_, fun instanceId value held => ?_⟩
  · exact Nat.le_trans (truthful.promises m sent promise answers)
      (survives m.paxosInstance).ballot
  · obtain ⟨value, held, higher⟩ := truthful.acks m sent ack answers
    obtain ⟨later, held', higher'⟩ := (survives m.paxosInstance).accepted value held
    exact ⟨later, held', Nat.le_trans higher higher'⟩
  · rcases (survives instanceId).source with same | ⟨value', held', put⟩
    · rw [same] at held
      rcases truthful.source instanceId value held with acked | torn
      · exact .inl acked
      · exact .inr (List.mem_append_left _ torn)
    · obtain rfl := Option.some.inj (held.symm.trans held')
      exact .inr (List.mem_append_right _ put)

theorem truthful_reachable {config : SmrConfig} {s : Life C}
    (reachable : (system config).Reachable Any s) : Truthful config s := by
  refine reachable.invariant (Truthful config) (fun _ begins => Begins.truthful begins)
    fun s a t _ truthful _ next => ?_
  cases a with
  | call c =>
    obtain ⟨msgs, done, rfl⟩ := Option.map_eq_some_iff.mp next
    exact truthful.call (toOption_some.mp done)
  | crash c count =>
    obtain ⟨restored, built, whole⟩ := truthful.crash c count
    obtain ⟨node, built', rfl⟩ := Option.map_eq_some_iff.mp next
    obtain rfl := Except.ok.inj (built.symm.trans (toOption_some.mp built'))
    exact whole

end Life

end Smr
