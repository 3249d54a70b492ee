import Smr.Channel.Deliveries
import Smr.Channel.Wire
import Smr.Cluster.Refinement
import Smr.Deployment.Moves
import Smr.Runtime.Rejection
import Smr.Runtime.Settling

set_option autoImplicit false

namespace Smr

namespace Network

variable {T : Type}

def broadcasts : Action T → List (Nat × T)
  | .send p message => [(p, message)]
  | _ => []

def takes (s : Network T) : Action T → List (Nat × Receipt T)
  | .receive p => (s.endpoints p).inbox.head?.toList.map fun receipt => (p, receipt)
  | _ => []

def receivedBy (s : Network T) (p : Nat) : List (Receipt T) :=
  s.received.filterMap fun e => if e.1 = p then some e.2 else none

theorem Moves.history [Bincode T] {total : Nat} {s t : Network T} {a : Action T}
    (moves : Moves total s a t) :
    t.sent = s.sent ++ broadcasts a ∧ t.received = s.received ++ s.takes a := by
  cases moves with
  | @connect p q breaks =>
    obtain ⟨endpoint, whole, -⟩ := s.connect_put p q breaks
    rw [whole]
    simp [put, broadcasts, takes]
  | @send p message =>
    unfold Network.send
    split <;> simp [broadcasts, takes]
  | receive receives first => simp [put, broadcasts, takes, first]
  | accept | pass | leave | fail | stop | restart =>
    simp [put, putLink, Network.restart, broadcasts, takes]

end Network

namespace MultiPaxosNode

variable {C : Type} [DecidableEq C] [Serde Nat] [Serde (AcceptedValue C)]
  {node after : MultiPaxosNode C} {msgs : List (Message C)} {events : List (TraceEvent C)}

theorem Starts.signed {cmd : C} (starts : node.Starts cmd msgs after events) :
    ∀ m ∈ msgs, m.senderId = node.id := fun m sent => (starts.books.1 m sent).1

theorem Proposes.signed {cmd : C} (proposes : node.Proposes cmd msgs after events) :
    ∀ m ∈ msgs, m.senderId = node.id := by
  cases proposes with
  | forward =>
    intro m sent
    rw [List.mem_singleton.mp sent]
    rfl
  | start stays starts => exact starts.signed

theorem Answers.signed {m : Message C} (answers : node.Answers m msgs after events) :
    ∀ m ∈ msgs, m.senderId = node.id := by
  cases answers with
  | dropped | acked => simp
  | taken senderId instanceId forwardId cmd leads starts =>
    intro m sent
    rcases List.mem_append.mp sent with opening | last
    · exact starts.signed m opening
    · rw [List.mem_singleton.mp last]
      rfl
  | synod =>
    intro m sent
    obtain ⟨response, -, rfl⟩ := List.mem_map.mp sent
    rfl

end MultiPaxosNode

variable {S C : Type} [StateMachine S C]

namespace Deployment

-- Each message is in one place: in a queue of its maker, or among the broadcasts. What a loop
-- has in hand is the last one it was given.
structure Tracked (total : Nat) (d : Deployment S C) : Prop where
  sent : ∀ (i q : Nat) (m : Message C), d.network.sent[i]? = some (q, m) →
    ∃ k, d.places[i]? = some k ∧ d.made[k]? = some m ∧ m.senderId = q
  length : d.places.length = d.network.sent.length
  once : d.places.Nodup
  queued : ∀ p < total, ∀ item ∈ (d.hosts p).queue,
    d.made[item.2]? = some item.1 ∧ item.1.senderId = p ∧ item.2 ∉ d.places
  distinct : ∀ p < total, ((d.hosts p).queue.map Prod.snd).Nodup
  heard : ∀ k p, (k, p) ∈ d.delivered →
    ∃ r ∈ d.network.receivedBy p, d.places[r.place]? = some k
  held : ∀ p < total, ∀ receipt, (d.hosts p).received = some receipt →
    ∃ earlier, d.network.receivedBy p = earlier ++ [receipt] ∧
      ∀ k, (k, p) ∈ d.delivered → ∃ r ∈ earlier, d.places[r.place]? = some k

variable {total p : Nat} {d t : Deployment S C} {host : Host S C}

theorem update_same {α : Type} (read : Host S C → α) (same : read host = read (d.hosts p))
    (q : Nat) : read (Function.update d.hosts p host q) = read (d.hosts q) := by
  by_cases other : q = p
  · subst other
    rw [Function.update_self, same]
  · rw [Function.update_of_ne other]

theorem Tracked.below (tracked : Tracked total d) {k : Nat} (placed : k ∈ d.places) :
    k < d.made.length := by
  obtain ⟨i, inside, rfl⟩ := List.mem_iff_getElem.mp placed
  have sent := List.getElem?_eq_getElem (tracked.length ▸ inside)
  obtain ⟨k, found, made, -⟩ := tracked.sent i _ _ sent
  rw [List.getElem?_eq_getElem inside, Option.some.injEq] at found
  exact found ▸ (List.getElem?_eq_some_iff.mp made).1

theorem Tracked.requeue (tracked : Tracked total d) (msgs : List (Message C))
    (hosts : t.hosts = Function.update d.hosts p host) (made : t.made = d.made ++ msgs)
    (places : t.places = d.places) (delivered : t.delivered = d.delivered)
    (sent : t.network.sent = d.network.sent) (received : t.network.received = d.network.received)
    (signed : ∀ m ∈ msgs, m.senderId = p)
    (queue : host.queue.Subperm (msgs.zipIdx d.made.length ++ (d.hosts p).queue))
    (inHand : ∀ receipt, host.received = some receipt → (d.hosts p).received = some receipt) :
    Tracked total t := by
  have fresh : ∀ item ∈ msgs.zipIdx d.made.length,
      t.made[item.2]? = some item.1 ∧ d.made.length ≤ item.2 := fun item new => by
    obtain ⟨beyond, found⟩ := List.mem_zipIdx_iff_le_and_getElem?_sub.mp new
    exact ⟨made ▸ (List.getElem?_append_right beyond).trans found, beyond⟩
  have kept {k : Nat} {m : Message C} (found : d.made[k]? = some m) : t.made[k]? = some m :=
    made ▸ (List.getElem?_append_left (List.getElem?_eq_some_iff.mp found).1).trans found
  have same : t.network.receivedBy = d.network.receivedBy := by
    funext q
    rw [Network.receivedBy, Network.receivedBy, received]
  have elsewhere {q : Nat} (other : q ≠ p) : t.hosts q = d.hosts q := by
    rw [hosts, Function.update_of_ne other]
  have here : t.hosts p = host := by rw [hosts, Function.update_self]
  constructor
  · intro i q m found
    obtain ⟨k, place, made, sender⟩ := tracked.sent i q m (sent ▸ found)
    exact ⟨k, places ▸ place, kept made, sender⟩
  · rw [places, sent, tracked.length]
  · exact places ▸ tracked.once
  · intro q inside item listed
    rw [places]
    by_cases other : q = p
    · subst other
      rw [here] at listed
      rcases List.mem_append.mp (queue.subset listed) with new | old
      · obtain ⟨found, beyond⟩ := fresh item new
        refine ⟨found, signed _ ?_, fun again => ?_⟩
        · exact List.mem_of_getElem? (List.mem_zipIdx_iff_le_and_getElem?_sub.mp new).2
        · exact absurd (tracked.below again) (Nat.not_lt.mpr beyond)
      · obtain ⟨found, sender, unsent⟩ := tracked.queued q inside item old
        exact ⟨kept found, sender, unsent⟩
    · rw [elsewhere other] at listed
      obtain ⟨found, sender, unsent⟩ := tracked.queued q inside item listed
      exact ⟨kept found, sender, unsent⟩
  · intro q inside
    by_cases other : q = p
    · subst other
      rw [here]
      have apart : ((msgs.zipIdx d.made.length ++ (d.hosts q).queue).map Prod.snd).Nodup := by
        rw [List.map_append, List.nodup_append]
        refine ⟨?_, tracked.distinct q inside, ?_⟩
        · rw [List.zipIdx_map_snd]
          exact List.nodup_range'
        · rintro k new k' old rfl
          obtain ⟨item, listed, rfl⟩ := List.mem_map.mp new
          obtain ⟨item', listed', same⟩ := List.mem_map.mp old
          have below := (List.getElem?_eq_some_iff.mp (tracked.queued q inside item' listed').1).1
          exact absurd (same ▸ below) (Nat.not_lt.mpr (fresh item listed).2)
      obtain ⟨some_of, perm, fewer⟩ := queue
      exact (perm.map Prod.snd).nodup_iff.mp ((fewer.map Prod.snd).nodup apart)
    · exact elsewhere other ▸ tracked.distinct q inside
  · intro k q heard
    rw [same, places]
    exact tracked.heard k q (delivered ▸ heard)
  · intro q inside receipt hand
    rw [same, places, delivered]
    by_cases other : q = p
    · subst other
      exact tracked.held q inside receipt (inHand receipt (here ▸ hand))
    · exact tracked.held q inside receipt (elsewhere other ▸ hand)

theorem Tracked.send {item : Message C × Nat} (tracked : Tracked total d)
    (hosts : t.hosts = Function.update d.hosts p host) (made : t.made = d.made)
    (places : t.places = d.places ++ [item.2]) (delivered : t.delivered = d.delivered)
    (sent : t.network.sent = d.network.sent ++ [(p, item.1)])
    (received : t.network.received = d.network.received) (member : p < total)
    (queue : (item :: host.queue).Perm (d.hosts p).queue)
    (inHand : host.received = (d.hosts p).received) : Tracked total t := by
  have first : item ∈ (d.hosts p).queue := queue.subset (List.mem_cons_self ..)
  obtain ⟨listed, signed, unsent⟩ := tracked.queued p member item first
  have apart : (item.2 :: host.queue.map Prod.snd).Nodup :=
    (queue.map Prod.snd).nodup_iff.mpr (tracked.distinct p member)
  have kept {i k : Nat} (place : d.places[i]? = some k) : t.places[i]? = some k :=
    places ▸ (List.getElem?_append_left (List.getElem?_eq_some_iff.mp place).1).trans place
  have same : t.network.receivedBy = d.network.receivedBy := by
    funext q
    rw [Network.receivedBy, Network.receivedBy, received]
  have elsewhere {q : Nat} (other : q ≠ p) : t.hosts q = d.hosts q := by
    rw [hosts, Function.update_of_ne other]
  have here : t.hosts p = host := by rw [hosts, Function.update_self]
  constructor
  · intro i q m found
    rw [sent] at found
    rw [places, made]
    rw [List.getElem?_append] at found
    split at found
    next old =>
      obtain ⟨k, place, known⟩ := tracked.sent i q m found
      exact ⟨k, places ▸ kept place, known⟩
    next beyond =>
      simp only [List.getElem?_singleton, Option.ite_none_right_eq_some, Option.some.injEq,
        Prod.mk.injEq] at found
      obtain ⟨last, rfl, rfl⟩ := found
      obtain rfl : i = d.places.length := by
        rw [tracked.length]
        omega
      exact ⟨item.2, List.getElem?_concat_length, listed, signed⟩
  · simp [places, sent, tracked.length]
  · rw [places, List.nodup_append]
    refine ⟨tracked.once, List.nodup_singleton _, fun k old k' new same => unsent ?_⟩
    exact List.mem_singleton.mp new ▸ same ▸ old
  · intro q inside other listed'
    rw [made, places, List.mem_append, List.mem_singleton]
    by_cases own : q = p
    · subst own
      rw [here] at listed'
      obtain ⟨found, sender, outside⟩ :=
        tracked.queued q inside other (queue.subset (List.mem_cons_of_mem _ listed'))
      refine ⟨found, sender, fun again => ?_⟩
      rcases again with old | new
      · exact outside old
      · exact (List.nodup_cons.mp apart).1 (new ▸ List.mem_map_of_mem listed')
    · rw [elsewhere own] at listed'
      obtain ⟨found, sender, outside⟩ := tracked.queued q inside other listed'
      refine ⟨found, sender, fun again => ?_⟩
      rcases again with old | new
      · exact outside old
      · rw [new, listed] at found
        exact own (sender.symm.trans (Option.some.inj found ▸ signed))
  · intro q inside
    by_cases own : q = p
    · subst own
      exact here ▸ (List.nodup_cons.mp apart).2
    · exact elsewhere own ▸ tracked.distinct q inside
  · intro k q heard
    rw [same]
    obtain ⟨r, listed', place⟩ := tracked.heard k q (delivered ▸ heard)
    exact ⟨r, listed', kept place⟩
  · intro q inside receipt hand
    rw [same, delivered]
    have old : (d.hosts q).received = some receipt := by
      by_cases own : q = p
      · subst own
        exact inHand ▸ here ▸ hand
      · exact elsewhere own ▸ hand
    obtain ⟨earlier, whole, before⟩ := tracked.held q inside receipt old
    refine ⟨earlier, whole, fun k heard => ?_⟩
    obtain ⟨r, listed', place⟩ := before k heard
    exact ⟨r, listed', kept place⟩

theorem Tracked.receive {receipt : Receipt (Message C)} (tracked : Tracked total d)
    (hosts : t.hosts = Function.update d.hosts p { d.hosts p with received := some receipt })
    (made : t.made = d.made) (places : t.places = d.places) (delivered : t.delivered = d.delivered)
    (sent : t.network.sent = d.network.sent)
    (received : t.network.received = d.network.received ++ [(p, receipt)])
    (member : p < total) : Tracked total t := by
  have own : t.network.receivedBy p = d.network.receivedBy p ++ [receipt] := by
    simp [Network.receivedBy, received]
  have others {q : Nat} (other : q ≠ p) : t.network.receivedBy q = d.network.receivedBy q := by
    simp [Network.receivedBy, received, Ne.symm other]
  have queues (q : Nat) : (t.hosts q).queue = (d.hosts q).queue := by
    rw [hosts]
    exact update_same (d := d) Host.queue (by rfl) q
  constructor
  · intro i q m found
    rw [places, made]
    exact tracked.sent i q m (sent ▸ found)
  · rw [places, sent, tracked.length]
  · exact places ▸ tracked.once
  · intro q inside item listed
    rw [places, made]
    exact tracked.queued q inside item (queues q ▸ listed)
  · intro q inside
    rw [queues q]
    exact tracked.distinct q inside
  · intro k q heard
    obtain ⟨r, listed, place⟩ := tracked.heard k q (delivered ▸ heard)
    refine ⟨r, ?_, places ▸ place⟩
    by_cases other : q = p
    · subst other
      exact own ▸ List.mem_append_left _ listed
    · exact others other ▸ listed
  · intro q inside last hand
    rw [places, delivered]
    by_cases other : q = p
    · subst other
      rw [hosts, Function.update_self] at hand
      obtain rfl := Option.some.inj hand
      exact ⟨_, own, fun k heard => tracked.heard k q heard⟩
    · rw [hosts, Function.update_of_ne other] at hand
      exact others other ▸ tracked.held q inside last hand

theorem Tracked.deliver {receipt : Receipt (Message C)} {k : Nat} (tracked : Tracked total d)
    (member : p < total) (read : (d.hosts p).received = some receipt)
    (place : d.places[receipt.place]? = some k) :
    Tracked total
      { d.put p { d.hosts p with received := none } with delivered := (k, p) :: d.delivered } := by
  obtain ⟨earlier, whole, before⟩ := tracked.held p member receipt read
  have queues (q : Nat) :
      ((d.put p { d.hosts p with received := none }).hosts q).queue = (d.hosts q).queue :=
    update_same (d := d) Host.queue (by rfl) q
  constructor
  · exact tracked.sent
  · exact tracked.length
  · exact tracked.once
  · intro q inside item listed
    exact tracked.queued q inside item (queues q ▸ listed)
  · intro q inside
    exact queues q ▸ tracked.distinct q inside
  · intro k' q heard
    rcases List.mem_cons.mp heard with new | old
    · obtain ⟨rfl, rfl⟩ := Prod.mk.inj new
      exact ⟨receipt, whole ▸ List.mem_append_right _ (List.mem_singleton_self _), place⟩
    · exact tracked.heard k' q old
  · intro q inside last hand
    by_cases other : q = p
    · subst other
      simp [put] at hand
    · replace hand : (d.hosts q).received = some last := by simpa [put, other] using hand
      obtain ⟨earlier', whole', before'⟩ := tracked.held q inside last hand
      refine ⟨earlier', whole', fun k' heard => before' k' ?_⟩
      exact (List.mem_cons.mp heard).resolve_left fun same => other (Prod.mk.inj same).2

section Step

variable [Bincode (Message C)] [DecidableEq C] [Serde Nat] [Serde C] [Serde (AcceptedValue C)]
  {initial : S} {a : Action C}

def Short (d : Deployment S C) (a : Action C) : Prop :=
  ∀ b ∈ d.transmits a, Network.Short b

omit [Bincode (Message C)] [DecidableEq C] [Serde Nat] [Serde C] [Serde (AcceptedValue C)] in
def Meets (guard : Cluster C → Smr.Action C → Prop) (d : Deployment S C) (a : Action C) : Prop :=
  ∀ b ∈ d.performs a, guard d.cluster b

theorem Runs.network {task : Task C} (runs : Runs total initial d p task t) :
    (d.transmits (.run p task) = none ∧ t.network = d.network) ∨
      ∃ b, d.transmits (.run p task) = some b ∧
        Network.step total d.network b = some t.network := by
  cases runs with
  | propose | hand | cancel | handle | advance => exact .inl ⟨rfl, rfl⟩
  | @forward item _ _ unread listens queued sent =>
    exact .inr ⟨.send p item.1, by simp [transmits, queued], sent⟩
  | @respond item _ _ queued sent =>
    exact .inr ⟨.send p item.1, by simp [transmits, queued], sent⟩
  | receive unread listens arrived taken => exact .inr ⟨_, rfl, taken⟩
  | restart recovers fresh => exact .inr ⟨_, rfl, fresh⟩

theorem network_reachable {guard : Deployment S C → Action C → Prop}
    (short : ∀ d a, guard d a → d.Short a)
    (reachable : (system total initial).Reachable guard d) :
    (Network.system total).Reachable (fun _ b => Network.Short b) d.network := by
  refine reachable.map Deployment.network (fun _ starts => Init.network starts) ?_
  intro s a t _ _ allowed next
  cases step_moves next with
  | run member runs =>
    rcases runs.network with ⟨-, same⟩ | ⟨b, transmitted, stepped⟩
    · exact same ▸ .refl
    · exact .one (short _ _ allowed b transmitted) stepped
  | network wires stepped => exact .one (short _ _ allowed _ rfl) stepped

omit [Bincode (Message C)] [DecidableEq C] in
theorem Init.tracked (starts : Init total initial d) : Tracked total d := by
  have idle {q : Nat} (inside : q < total) :
      (d.hosts q).queue = [] ∧ (d.hosts q).received = none := by
    obtain ⟨runtime, -, same⟩ := starts.boots q inside
    rw [same]
    exact ⟨rfl, rfl⟩
  constructor
  · simp [starts.network, Network.boot]
  · simp [starts.network, starts.places, Network.boot]
  · simp [starts.places]
  · intro q inside item listed
    simp [(idle inside).1] at listed
  · intro q inside
    simp [(idle inside).1]
  · simp [starts.delivered]
  · intro q inside receipt hand
    simp [(idle inside).2] at hand

theorem Tracked.run {task : Task C} (tracked : Tracked total d) (member : p < total)
    (named : (d.hosts p).runtime.algorithm.id = p)
    (carried : ∀ receipt, (d.hosts p).received = some receipt →
      d.places[receipt.place]? = some (d.broadcastOf receipt))
    (runs : Runs total initial d p task t) : Tracked total t := by
  cases runs with
  | @propose cmd msgs sender quiet listens done =>
    refine tracked.requeue msgs rfl rfl rfl rfl rfl rfl ?_ ?_ fun _ hand => hand
    · exact fun m sent => ((MultiPaxosNode.propose_ok done).signed m sent).trans named
    · unfold Host.queue
      rw [quiet]
      exact (List.perm_append_comm_assoc ..).subperm
  | @hand item rest queued room =>
    refine tracked.requeue [] rfl (List.append_nil _).symm rfl rfl rfl rfl (by simp) ?_
      fun _ hand => hand
    unfold Host.queue
    rw [queued]
    have rotated : (rest ++ ((d.hosts p).outbox ++ [item])).Perm
        (item :: (rest ++ (d.hosts p).outbox)) := by
      rw [← List.append_assoc]
      exact List.perm_append_singleton item _
    exact (rotated.append_left _).subperm
  | cancel =>
    refine tracked.requeue [] rfl (List.append_nil _).symm rfl rfl rfl rfl (by simp) ?_
      fun _ hand => hand
    exact (List.Sublist.append_left (List.sublist_append_right ..) _).subperm
  | forward unread listens queued sent =>
    obtain ⟨grown, same⟩ := (Network.step_moves sent).history
    refine tracked.send rfl rfl rfl rfl grown (same.trans (List.append_nil _)) member ?_ rfl
    unfold Host.queue
    rw [queued, ← List.append_assoc, ← List.append_assoc]
    exact List.perm_middle.symm
  | receive unread listens arrived taken =>
    obtain ⟨same, grown⟩ := (Network.step_moves taken).history
    refine tracked.receive rfl rfl rfl rfl (same.trans (List.append_nil _)) ?_ member
    simp [grown, Network.takes, arrived]
  | @handle receipt msgs read quiet listens done =>
    refine (tracked.deliver member read (carried receipt read)).requeue msgs
      (Function.update_idem ..).symm rfl rfl rfl rfl rfl ?_ ?_ ?_
    · exact fun m sent => ((MultiPaxosNode.handleMessage_ok done).signed m sent).trans named
    · dsimp only [put]
      rw [Function.update_self]
      exact (List.Sublist.append_left (List.sublist_append_right ..) _).subperm
    · simp
  | respond queued sent =>
    obtain ⟨grown, same⟩ := (Network.step_moves sent).history
    refine tracked.send rfl rfl rfl rfl grown (same.trans (List.append_nil _)) member ?_ rfl
    unfold Host.queue
    rw [queued]
    exact .refl _
  | advance answered advances =>
    exact tracked.requeue [] rfl (List.append_nil _).symm rfl rfl rfl rfl (by simp)
      (List.Subperm.refl _) fun _ hand => hand
  | restart recovers fresh =>
    obtain ⟨same, same'⟩ := (Network.step_moves fresh).history
    exact tracked.requeue [] rfl (List.append_nil _).symm rfl rfl (same.trans (List.append_nil _))
      (same'.trans (List.append_nil _)) (by simp) List.nil_subperm (by simp [Host.idle])

theorem Tracked.step (tracked : Tracked total d)
    (named : ∀ p < total, (d.hosts p).runtime.algorithm.id = p)
    (carried : ∀ p < total, ∀ receipt, (d.hosts p).received = some receipt →
      d.places[receipt.place]? = some (d.broadcastOf receipt))
    (moves : Moves total initial d a t) : Tracked total t := by
  cases moves with
  | @run p task _ member runs =>
    exact tracked.run member (named p member) (carried p member) runs
  | @network a network wires next =>
    obtain ⟨same, same'⟩ := (Network.step_moves next).history
    have still : network.sent = d.network.sent ∧ network.received = d.network.received := by
      cases a with
      | connect | accept | read | fail =>
        exact ⟨same.trans (List.append_nil _), same'.trans (List.append_nil _)⟩
      | send | receive | stop | restart => exact wires.elim
    exact tracked.requeue [] (Function.update_eq_self 0 _).symm (List.append_nil _).symm rfl rfl
      still.1 still.2 (by simp) (List.Subperm.refl _) fun _ hand => hand

omit [Bincode (Message C)] [DecidableEq C] [Serde Nat] [Serde C] [Serde (AcceptedValue C)] in
theorem cluster_eq {s : Cluster C} (hosts : t.hosts = Function.update d.hosts p host)
    (nodes : s.nodes = Function.update d.cluster.nodes p host.runtime.algorithm)
    (sent : s.sent = t.made) (delivered : s.delivered = t.delivered) (trace : s.trace = t.trace)
    (calls : s.calls = t.calls) (placed : s.placed = t.placed) : s = t.cluster := by
  have same : t.cluster.nodes = Function.update d.cluster.nodes p host.runtime.algorithm := by
    funext q
    unfold cluster
    dsimp only
    rw [hosts]
    by_cases other : q = p
    · subst other
      rw [Function.update_self, Function.update_self]
    · rw [Function.update_of_ne other, Function.update_of_ne other]
  exact Cluster.mk.injEq .. ▸ ⟨nodes.trans same.symm, sent, delivered, trace, calls, placed⟩

omit [Bincode (Message C)] [DecidableEq C] [Serde Nat] [Serde C] [Serde (AcceptedValue C)] in
theorem cluster_still (hosts : t.hosts = Function.update d.hosts p host)
    (same : host.runtime.algorithm = (d.hosts p).runtime.algorithm) (made : t.made = d.made)
    (delivered : t.delivered = d.delivered) (trace : t.trace = d.trace)
    (calls : t.calls = d.calls) (placed : t.placed = d.placed) : t.cluster = d.cluster := by
  refine (cluster_eq hosts ?_ made.symm delivered.symm trace.symm calls.symm placed.symm).symm
  rw [same]
  exact (Function.update_eq_self p d.cluster.nodes).symm

theorem Runs.cluster {task : Task C} (member : p < total)
    (configured : (d.hosts p).runtime.algorithm.config = Cluster.config total p)
    (arrived : ∀ receipt, (d.hosts p).received = some receipt →
      d.made[d.broadcastOf receipt]? = some receipt.message ∧ receipt.message.senderId ≠ p ∧
        (d.broadcastOf receipt, p) ∉ d.delivered)
    (runs : Runs total initial d p task t) :
    (d.performs (.run p task) = none ∧ t.cluster = d.cluster) ∨
      ∃ b, d.performs (.run p task) = some b ∧ d.cluster.Once b ∧
        Cluster.step total d.cluster b = some t.cluster := by
  cases runs with
  | hand | cancel | forward | receive | respond =>
    exact .inl ⟨rfl, cluster_still rfl rfl rfl rfl rfl rfl rfl⟩
  | @propose cmd msgs sender quiet listens done =>
    have called : ((d.cluster.nodes p).propose cmd).result = .ok (msgs, sender) := done
    refine .inr ⟨.propose p cmd, rfl, trivial, ?_⟩
    simp only [Cluster.step, if_pos member, called, Option.some.injEq]
    exact cluster_eq rfl rfl rfl rfl rfl rfl rfl
  | @handle receipt msgs read quiet listens done =>
    obtain ⟨made, other, new⟩ := arrived receipt read
    have called : ((d.cluster.nodes p).handleMessage receipt.message).result = .ok msgs := done
    have found : d.cluster.sent[d.broadcastOf receipt]? = some receipt.message := made
    refine .inr ⟨.deliver p (d.broadcastOf receipt), by simp [performs, read], new, ?_⟩
    simp only [Cluster.step, found, if_pos (And.intro member other), called, Option.some.injEq]
    exact cluster_eq rfl rfl rfl rfl rfl rfl rfl
  | @advance runtime answered advances =>
    cases SmrRuntime.advance_some advances with
    | @fetch command sender algorithm stands found =>
      refine .inr ⟨.getCommitId p (d.hosts p).runtime.lastAppliedCommandId,
        by simp [performs, stands], trivial, ?_⟩
      simp only [Cluster.step, if_pos member, Option.some.injEq]
      have after : ((d.cluster.nodes p).getCommitId (d.hosts p).runtime.lastAppliedCommandId).2 =
          algorithm := congrArg Prod.snd found
      rw [after]
      exact cluster_eq rfl rfl rfl rfl rfl rfl rfl
    | @drain algorithm stands missing =>
      refine .inr ⟨.getCommitId p (d.hosts p).runtime.lastAppliedCommandId,
        by simp [performs, stands], trivial, ?_⟩
      simp only [Cluster.step, if_pos member, Option.some.injEq]
      have after : ((d.cluster.nodes p).getCommitId (d.hosts p).runtime.lastAppliedCommandId).2 =
          algorithm := congrArg Prod.snd missing
      rw [after]
      exact cluster_eq rfl rfl rfl rfl rfl rfl rfl
    | append stands | apply stands | reject stands | mark stands | send stands | count stands =>
      exact .inl ⟨by simp [performs, stands], cluster_still rfl rfl rfl rfl rfl rfl rfl⟩
  | @restart runtime network recovers fresh =>
    obtain ⟨store, kept, -, built⟩ := Runtime.recover_algorithm recovers
    have stored : (d.cluster.nodes p).storage = some store := kept
    have same : (d.cluster.nodes p).config = Cluster.config total p := configured
    refine .inr ⟨.crash p, rfl, trivial, ?_⟩
    simp only [Cluster.step, if_pos member, stored, same, built, Option.some.injEq]
    exact cluster_eq rfl rfl rfl rfl rfl rfl rfl

omit [DecidableEq C] [Serde Nat] [Serde C] [Serde (AcceptedValue C)] in
theorem Tracked.arrived {receipt : Receipt (Message C)} (tracked : Tracked total d)
    (bounded : total ≤ 2 ^ 32)
    (reachable : (Network.system total).Reachable (fun _ b => Network.Short b) d.network)
    (member : p < total) (read : (d.hosts p).received = some receipt) :
    d.places[receipt.place]? = some (d.broadcastOf receipt) ∧
      d.made[d.broadcastOf receipt]? = some receipt.message ∧ receipt.message.senderId ≠ p ∧
        (d.broadcastOf receipt, p) ∉ d.delivered := by
  obtain ⟨earlier, whole, before⟩ := tracked.held p member receipt read
  have split : d.network.receipts p =
      earlier ++ receipt :: (d.network.endpoints p).inbox := by
    show d.network.receivedBy p ++ _ = _
    rw [whole, List.append_assoc]
    rfl
  obtain ⟨-, q, -, -, -, other, sent⟩ := Network.receipts_source bounded reachable (p := p)
    (split ▸ List.mem_append_right _ (List.mem_cons_self ..) : receipt ∈ d.network.receipts p)
  obtain ⟨k, place, made, sender⟩ := tracked.sent _ q _ sent
  have known : d.broadcastOf receipt = k := by rw [broadcastOf, place, Option.getD_some]
  rw [known]
  refine ⟨place, made, sender ▸ other, fun again => ?_⟩
  obtain ⟨r, listed, earlier_place⟩ := before k again
  have distinct := split ▸ Network.receipts_distinct bounded reachable p
  have apart := (List.pairwise_append.mp distinct).2.2 r listed receipt (List.mem_cons_self ..)
  refine apart.1 ?_
  obtain ⟨inside, here⟩ := List.getElem?_eq_some_iff.mp earlier_place
  obtain ⟨inside', there⟩ := List.getElem?_eq_some_iff.mp place
  exact (List.Nodup.getElem_inj_iff tracked.once).mp (here.trans there.symm)

omit [Bincode (Message C)] [DecidableEq C] in
theorem Init.cluster (starts : Init total initial d) : Cluster.Init total d.cluster where
  boots q inside := by
    obtain ⟨runtime, boots, same⟩ := starts.boots q inside
    show Cluster.Boots total q (d.hosts q).runtime.algorithm
    rw [same]
    cases boots with
    | new => exact .new
    | withStorage blank built =>
      obtain ⟨node, started, rfl⟩ := Runtime.withStorage_blank blank built
      exact .withStorage _ _ blank.acceptors started
  sent := starts.made
  delivered := starts.delivered
  trace := starts.trace
  calls := starts.calls
  placed := starts.placed

theorem simulates_reachable {guard : Cluster C → Smr.Action C → Prop} (bounded : total ≤ 2 ^ 32)
    (reachable : (system total initial).Reachable (fun d a => d.Short a ∧ d.Meets guard a) d) :
    Tracked total d ∧
      (Cluster.system total).Reachable (fun s b => s.Once b ∧ guard s b) d.cluster := by
  refine reachable.invariant (fun d => Tracked total d ∧
    (Cluster.system total).Reachable (fun s b => s.Once b ∧ guard s b) d.cluster)
    (fun d (starts : Init total initial d) => ⟨starts.tracked, .init starts.cluster⟩) ?_
  rintro d a t before ⟨tracked, reached⟩ ⟨short, meets⟩ next
  have wired := network_reachable (fun _ _ allowed => allowed.1) before
  have sound := (Cluster.refines_unruled reached).sound
  have arrived {p : Nat} {receipt : Receipt (Message C)} (member : p < total)
      (read : (d.hosts p).received = some receipt) := tracked.arrived bounded wired member read
  have moves := step_moves next
  refine ⟨tracked.step (fun p member => (sound p member).id)
    (fun p member receipt read => (arrived member read).1) moves, ?_⟩
  cases moves with
  | @run p task _ member runs =>
    rcases runs.cluster member (sound p member).config
      (fun receipt read => (arrived member read).2) with ⟨-, same⟩ | ⟨b, performed, once, stepped⟩
    · exact same ▸ reached
    · exact .step reached ⟨once, meets b performed⟩ stepped
  | network wires stepped => exact reached

def NoRestart : Action C → Prop
  | .run _ .restart => False
  | _ => True

instance : (a : Action C) → Decidable (NoRestart a)
  | .run _ .restart => .isFalse id
  | .run _ (.propose _) | .run _ .hand | .run _ .cancel | .run _ .forward | .run _ .receive
  | .run _ .handle | .run _ .respond | .run _ .advance | .network _ => .isTrue trivial

theorem Runs.runtime {task : Task C} (runs : Runs total initial d p task t) (q : Nat) :
    (t.hosts q).runtime = (d.hosts q).runtime ∨ q = p ∧ ∃ b,
      (NoRestart (.run p task) → Runtime.NoCrash b) ∧
      Runtime.step (Cluster.config total p) initial (d.hosts p).runtime b =
        some (t.hosts p).runtime := by
  have quiet {t : Deployment S C} {host : Host S C}
      (hosts : t.hosts = Function.update d.hosts p host)
      (same : host.runtime = (d.hosts p).runtime) :
      (t.hosts q).runtime = (d.hosts q).runtime := by
    rw [hosts]
    exact update_same (d := d) Host.runtime same q
  have stepped {t : Deployment S C} {host : Host S C} {b : Runtime.Action C}
      (hosts : t.hosts = Function.update d.hosts p host)
      (stays : NoRestart (.run p task) → Runtime.NoCrash b)
      (next : Runtime.step (Cluster.config total p) initial (d.hosts p).runtime b =
        some host.runtime) :
      (t.hosts q).runtime = (d.hosts q).runtime ∨ q = p ∧ ∃ b,
        (NoRestart (.run p task) → Runtime.NoCrash b) ∧
        Runtime.step (Cluster.config total p) initial (d.hosts p).runtime b =
          some (t.hosts p).runtime := by
    rw [hosts]
    by_cases here : q = p
    · refine .inr ⟨here, b, stays, ?_⟩
      rwa [Function.update_self]
    · exact .inl (by rw [Function.update_of_ne here])
  cases runs with
  | hand | cancel | forward | receive | respond => exact .inl (quiet rfl rfl)
  | @propose cmd _ _ free listens done =>
    refine stepped (b := .propose cmd) rfl (fun _ => trivial) ?_
    simp only [Runtime.step, listens, done]
  | @handle receipt _ read free listens done =>
    refine stepped (b := .deliver receipt.message) rfl (fun _ => trivial) ?_
    simp only [Runtime.step, listens, done]
  | advance answered advances => exact stepped (b := .advance) rfl (fun _ => trivial) advances
  | restart recovers fresh =>
    refine stepped (b := .crash) rfl False.elim ?_
    simp only [Runtime.step, recovers, Except.toOption, Host.idle]

theorem runtime_reachable {guard : Deployment S C → Action C → Prop} {steady : Prop}
    (stays : steady → ∀ d a, guard d a → NoRestart a) (member : p < total)
    (reachable : (system total initial).Reachable guard d) :
    (Runtime.system (Cluster.config total p) initial).Reachable
      (fun _ b => steady → Runtime.NoCrash b) (d.hosts p).runtime := by
  refine reachable.map (fun d => (d.hosts p).runtime) (fun d starts => ?_) ?_
  · obtain ⟨runtime, boots, same⟩ := Init.boots starts p member
    rw [same]
    exact boots
  · intro s a t _ _ allowed next
    cases step_moves next with
    | run _ runs =>
      rcases runs.runtime p with same | ⟨rfl, b, kept, stepped⟩
      · exact same ▸ .refl
      · exact .one (fun steady => kept (stays steady _ _ allowed)) stepped
    | network => exact .refl

instance (d : Deployment S C) (a : Action C) : Decidable (d.Short a) := by
  unfold Short
  infer_instance

end Step

instance [DecidableEq C] (guard : Cluster C → Smr.Action C → Prop)
    [∀ s b, Decidable (guard s b)] (d : Deployment S C) (a : Action C) :
    Decidable (d.Meets guard a) := by
  unfold Meets
  infer_instance

theorem deployment_refines [Bincode (Message C)] [DecidableEq C] [Serde Nat] [Serde C]
    [Serde (AcceptedValue C)] {initial : S} {guard : Cluster C → Smr.Action C → Prop}
    (bounded : total ≤ 2 ^ 32)
    (reachable : (system total initial).Reachable (fun d a => d.Short a ∧ d.Meets guard a) d) :
    (Network.system total).Reachable (fun _ b => Network.Short b) d.network ∧
      (∀ p < total, (Runtime.system (Cluster.config total p) initial).Reachable
        (fun _ _ => True) (d.hosts p).runtime) ∧
      (Cluster.system total).Reachable (fun s b => s.Once b ∧ guard s b) d.cluster := by
  refine ⟨network_reachable (fun _ _ allowed => allowed.1) reachable, fun p member => ?_,
    (simulates_reachable bounded reachable).2⟩
  exact (runtime_reachable False.elim member reachable).mono fun _ _ _ => trivial

def serve {C : Type} (p answers : Nat) : List (Action C) :=
  .network (.read p 0) :: .run p .receive :: .run p .handle ::
    (List.replicate answers (.run p .respond) ++ [.run p .advance])

def paidRun : List (Action Nat) :=
  [.network (.connect 0 1 fun _ => none), .network (.accept 0), .run 0 (.propose 7), .run 0 .hand,
    .run 0 .hand, .run 0 .forward, .run 0 .forward] ++
  serve 1 1 ++ serve 0 2 ++ serve 1 0 ++ serve 1 1 ++ serve 1 0 ++ serve 0 1 ++ serve 1 1 ++
  List.replicate 6 (.run 1 .advance) ++ serve 0 1 ++ List.replicate 6 (.run 0 .advance)

def paid : Deployment Runtime.Purse Nat :=
  Run.System.final (step 3 ⟨10⟩)
    (fun d a => d.Short a ∧ NoRestart a ∧ d.Meets (Cluster.RaceFree 3) a) (boot 3 ⟨10⟩) paidRun

theorem paid_reachable : (system 3 (⟨10⟩ : Runtime.Purse)).Reachable
    (fun d a => d.Short a ∧ NoRestart a ∧ d.Meets (Cluster.RaceFree 3) a) paid := by
  have starts : (system 3 (⟨10⟩ : Runtime.Purse)).init (boot 3 ⟨10⟩) := boot_init 3 _
  exact Run.System.final_reachable (fun _ _ _ next => next) (.init starts) (by decide +kernel)

theorem deployment_refines_paid :
    paid.cluster.sent.length = 9 ∧
      (Cluster.system 3).Reachable (fun s b => s.Once b ∧ s.RaceFree 3 b) paid.cluster := by
  have runs := deployment_refines (by decide) (paid_reachable.mono fun _ _ allowed =>
    ⟨allowed.1, allowed.2.2⟩)
  exact ⟨by decide +kernel, runs.2.2⟩

end Deployment

end Smr
