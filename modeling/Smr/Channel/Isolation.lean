import Smr.Channel.Deliveries

set_option autoImplicit false

namespace Smr

variable {T : Type}

namespace Network

def Stays (p : Nat) : Action T → Prop
  | .stop a | .restart a => a ≠ p
  | _ => True

instance (p : Nat) : (a : Action T) → Decidable (Stays p a)
  | .stop a | .restart a => inferInstanceAs (Decidable (a ≠ p))
  | .connect .. | .accept _ | .send .. | .read .. | .fail .. | .receive _ => .isTrue trivial

-- p has dialed q, whose process has restarted since: nothing passes between the two any more.
structure Severed (p q places heard : Nat) (s : Network T) : Prop where
  connected : (s.endpoints p).dials q ≠ .connecting
  receives : (s.endpoints p).receives = true
  deaf : ∀ link ∈ s.links, link.Joins p q → link.reader q = .ended
  unmapped : ∀ l, (p, l) ∉ (s.endpoints q).connections
  mute : ∀ link ∈ s.links, link.Joins p q → ∀ e ∈ (link.flow q).carried, e.1 < places
  begun : heard ≤ s.received.length
  unheard : ∀ r ∈ (s.received.drop heard).filterMap (fun e => if e.1 = q then some e.2 else none) ++
    (s.endpoints q).inbox, ∀ link, s.links[r.link]? = some link → ¬link.Joins p q

variable {total p q places heard l : Nat} {s t : Network T} {link : Link T}

theorem filterMap_received (s : Network T) (q : Nat) (receipt : Nat × Receipt T)
    (begun : heard ≤ s.received.length) :
    ((s.received ++ [receipt]).drop heard).filterMap
        (fun e => if e.1 = q then some e.2 else none) =
      (s.received.drop heard).filterMap (fun e => if e.1 = q then some e.2 else none) ++
        if receipt.1 = q then [receipt.2] else [] := by
  rw [List.drop_append_of_le_length begun, List.filterMap_append]
  by_cases here : receipt.1 = q <;> simp [here]

theorem Severed.touch (severed : Severed p q places heard s) (found : s.links[l]? = some link)
    (link' : Link T) (joined : ∀ a b, link'.Joins a b ↔ link.Joins a b)
    (deaf : link.Joins p q → link'.reader q = .ended)
    (carried : ∀ w, (link'.flow w).carried = (link.flow w).carried) {a : Nat}
    {endpoint : Endpoint T}
    (here : a = p → endpoint.dials q ≠ .connecting ∧ endpoint.receives = true)
    (there : a = q → (∀ l, (p, l) ∉ endpoint.connections) ∧ ∀ r ∈ endpoint.inbox,
      r ∈ (s.endpoints q).inbox ∨ ∃ link, s.links[r.link]? = some link ∧ ¬link.Joins p q) :
    Severed p q places heard ((s.putLink l link').put a endpoint) := by
  have inside := (List.getElem?_eq_some_iff.mp found).1
  have older {l' : Nat} {other : Link T} (found' : (s.links.set l link')[l']? = some other) :
      ∃ before, s.links[l']? = some before ∧ (∀ a b, other.Joins a b ↔ before.Joins a b) := by
    by_cases same : l' = l
    · subst same
      rw [List.getElem?_set_self inside] at found'
      obtain rfl := Option.some.inj found'
      exact ⟨link, found, joined⟩
    · rw [List.getElem?_set_ne (Ne.symm same)] at found'
      exact ⟨other, found', fun _ _ => Iff.rfl⟩
  have member := List.mem_of_getElem? found
  constructor
  · by_cases same : a = p
    · subst same
      simpa [put, putLink] using (here rfl).1
    · simpa [put, putLink, Ne.symm same] using severed.connected
  · by_cases same : a = p
    · subst same
      simpa [put, putLink] using (here rfl).2
    · simpa [put, putLink, Ne.symm same] using severed.receives
  · intro other listed joins
    rcases List.mem_or_eq_of_mem_set listed with old | rfl
    · exact severed.deaf other old joins
    · exact deaf ((joined p q).mp joins)
  · by_cases same : a = q
    · subst same
      simpa [put, putLink] using (there rfl).1
    · simpa [put, putLink, Ne.symm same] using severed.unmapped
  · intro other listed joins e written
    rcases List.mem_or_eq_of_mem_set listed with old | rfl
    · exact severed.mute other old joins e written
    · exact severed.mute link member ((joined p q).mp joins) e (carried q ▸ written)
  · exact severed.begun
  · intro r listed other found' joins
    obtain ⟨before, known, ends⟩ := older found'
    rw [ends] at joins
    rcases List.mem_append.mp listed with old | waits
    · exact severed.unheard r (List.mem_append_left _ old) before known joins
    · by_cases same : a = q
      · subst same
        simp only [put, putLink, Function.update_self] at waits
        rcases (there rfl).2 r waits with old | ⟨link, found, apart⟩
        · exact severed.unheard r (List.mem_append_right _ old) before known joins
        · obtain rfl := Option.some.inj (known.symm.trans found)
          exact apart joins
      · simp only [put, putLink, Function.update_of_ne (Ne.symm same)] at waits
        exact severed.unheard r (List.mem_append_right _ waits) before known joins

variable [Bincode T]

theorem Severed.send {a : Nat} {message : T} (wired : Wired total s)
    (severed : Severed p q places heard s) : Severed p q places heard (s.send a message) := by
  unfold Network.send
  split
  next =>
    exact
      { connected := severed.connected
        receives := severed.receives
        deaf := severed.deaf
        unmapped := severed.unmapped
        mute := severed.mute
        begun := severed.begun
        unheard := severed.unheard }
  next serialized encoded =>
    have older {l' : Nat} {other : Link T} (found : (s.links.mapIdx fun l link =>
        if (s.endpoints a).writes l then link.write a s.sent.length message serialized
          else link)[l']? = some other) : ∃ before, s.links[l']? = some before ∧
        (∀ a b, other.Joins a b ↔ before.Joins a b) ∧ other.reader = before.reader ∧
        (before.Joins p q → (other.flow q).carried = (before.flow q).carried) := by
      rw [List.getElem?_mapIdx, Option.map_eq_some_iff] at found
      obtain ⟨before, known, rfl⟩ := found
      refine ⟨before, known, fun _ _ => ?_, ?_, fun joins => ?_⟩
      · split <;> exact Iff.rfl
      · split <;> rfl
      · split
        next writes =>
          by_cases mine : q = a
          · -- The connection would be in the map under the id of p.
            subst mine
            obtain ⟨⟨b, l''⟩, listed, rfl⟩ := List.mem_map.mp (of_decide_eq_true writes)
            obtain ⟨link, found, joined⟩ := wired.mapped q b l'' listed
            obtain rfl := Option.some.inj (known.symm.trans found)
            have less := (wired.links before (List.mem_of_getElem? known)).less
            obtain rfl : b = p := (joined.peer less).1.symm.trans (joins.symm.peer less).1
            exact absurd listed (severed.unmapped l'')
          · simp [Link.write, mine]
        next => rfl
    have listed {other : Link T} (member : other ∈ s.links.mapIdx fun l link =>
        if (s.endpoints a).writes l then link.write a s.sent.length message serialized else link) :
        ∃ before ∈ s.links, (∀ a b, other.Joins a b ↔ before.Joins a b) ∧
          other.reader = before.reader ∧
          (before.Joins p q → (other.flow q).carried = (before.flow q).carried) := by
      obtain ⟨l', found⟩ := List.mem_iff_getElem?.mp member
      obtain ⟨before, known, rest⟩ := older found
      exact ⟨before, List.mem_of_getElem? known, rest⟩
    exact
      { connected := severed.connected
        receives := severed.receives
        deaf := fun other member joins => by
          obtain ⟨before, known, ends, readers, -⟩ := listed member
          exact readers ▸ severed.deaf before known ((ends p q).mp joins)
        unmapped := severed.unmapped
        mute := fun other member joins e written => by
          obtain ⟨before, known, ends, -, carried⟩ := listed member
          have joined := (ends p q).mp joins
          exact severed.mute before known joined e (carried joined ▸ written)
        begun := severed.begun
        unheard := fun r waits other found joins => by
          obtain ⟨before, known, ends, -⟩ := older found
          exact severed.unheard r waits before known ((ends p q).mp joins) }

omit [Bincode T] in
theorem Severed.connect {a b : Nat} {breaks : Nat → Option Nat} (handed : Handed s)
    (severed : Severed p q places heard s) (less : p < q) (ordered : a < b)
    (idle : (s.endpoints a).dials b = .connecting) :
    Severed p q places heard (s.connect a b breaks) := by
  obtain ⟨endpoint, whole, inbox, receives, dials, connections⟩ := s.connect_put a b breaks
  rw [whole]
  have apart : ¬(dialed a b breaks : Link T).Joins p q := by
    rintro (⟨here, there⟩ | ⟨here, there⟩)
    · obtain rfl : a = p := here
      obtain rfl : b = q := there
      exact severed.connected idle
    · have : a = q := here
      have : b = p := there
      omega
  constructor
  · by_cases same : a = p
    · subst same
      have other : q ≠ b := fun here => severed.connected (here ▸ idle)
      simpa [put, dials, other] using severed.connected
    · simpa [put, Ne.symm same] using severed.connected
  · by_cases same : a = p
    · subst same
      simpa [put, receives] using severed.receives
    · simpa [put, Ne.symm same] using severed.receives
  · intro link listed joins
    rcases List.mem_append.mp listed with old | new
    · exact severed.deaf link old joins
    · exact absurd (List.mem_singleton.mp new ▸ joins) apart
  · by_cases same : a = q
    · subst same
      simp only [put, Function.update_self]
      rcases connections with kept | inserted
      · exact kept ▸ severed.unmapped
      · intro l listed
        rw [inserted] at listed
        rcases List.mem_cons.mp listed with new | old
        · have : p = b := (Prod.mk.inj new).1
          omega
        · exact severed.unmapped l (List.mem_of_mem_filter old)
    · simpa [put, Ne.symm same] using severed.unmapped
  · intro link listed joins
    rcases List.mem_append.mp listed with old | new
    · exact severed.mute link old joins
    · exact absurd (List.mem_singleton.mp new ▸ joins) apart
  · exact severed.begun
  · intro r listed link found joins
    rcases List.mem_append.mp (List.mem_of_getElem? found) with old | new
    · have waits : r ∈ (s.received.drop heard).filterMap
          (fun e => if e.1 = q then some e.2 else none) ++ (s.endpoints q).inbox := by
        by_cases same : a = q
        · subst same
          simpa [put, inbox] using listed
        · simpa [put, Ne.symm same] using listed
      obtain ⟨before, -, known, -⟩ := handed.read q r (by
        rcases List.mem_append.mp waits with got | inside
        · obtain ⟨e, member, same⟩ := List.mem_filterMap.mp got
          exact List.mem_append_left _
            (List.mem_filterMap.mpr ⟨e, List.mem_of_mem_drop member, same⟩)
        · exact List.mem_append_right _ inside)
      have place := (List.getElem?_eq_some_iff.mp known).1
      exact severed.unheard r waits link ((List.getElem?_append_left place).symm.trans found) joins
    · exact apart (List.mem_singleton.mp new ▸ joins)

omit [Bincode T] in
theorem Severed.restart {a : Nat} (severed : Severed p q places heard s) (other : a ≠ p) :
    Severed p q places heard (s.restart a) := by
  have older {l' : Nat} {other : Link T}
      (found : (s.links.map fun link => link.closeReader a)[l']? = some other) :
      ∃ link, s.links[l']? = some link ∧ other = link.closeReader a := by
    rw [List.getElem?_map, Option.map_eq_some_iff] at found
    obtain ⟨link, known, same⟩ := found
    exact ⟨link, known, same.symm⟩
  constructor
  · simpa [Network.restart, put, Ne.symm other] using severed.connected
  · simpa [Network.restart, put, Ne.symm other] using severed.receives
  · intro link listed joins
    obtain ⟨before, known, rfl⟩ := List.mem_map.mp listed
    have ended := severed.deaf before known joins
    by_cases here : q = a
    · subst here
      simp [Link.closeReader]
    · simpa [Link.closeReader, here] using ended
  · by_cases here : q = a
    · subst here
      simp [Network.restart, put, Endpoint.new]
    · simpa [Network.restart, put, here] using severed.unmapped
  · intro link listed joins
    obtain ⟨before, known, rfl⟩ := List.mem_map.mp listed
    exact severed.mute before known joins
  · exact severed.begun
  · intro r listed link found joins
    obtain ⟨before, known, rfl⟩ := older found
    refine severed.unheard r ?_ before known joins
    by_cases here : q = a
    · subst here
      simp only [Network.restart, put, Function.update_self, Endpoint.new, List.append_nil]
        at listed
      exact List.mem_append_left _ listed
    · simpa [Network.restart, put, here] using listed

theorem Severed.step {a : Action T} (bounded : total ≤ 2 ^ 32) (wired : Wired total s)
    (handed : Handed s) (less : p < q) (severed : Severed p q places heard s) (stays : Stays p a)
    (moves : Moves total s a t) : Severed p q places heard t := by
  have sound {l : Nat} {link : Link T} (found : s.links[l]? = some link) :=
    wired.links link (List.mem_of_getElem? found)
  have apart {l b : Nat} {link : Link T} (found : s.links[l]? = some link) (alive : b = q →
      link.reader b ≠ .ended) (same : b = q) : ¬link.Joins p q := fun joins =>
    alive same (same ▸ severed.deaf link (List.mem_of_getElem? found) joins)
  cases moves with
  | connect ordered inside idle => exact severed.connect handed less ordered idle
  | @accept l link found waits enough =>
    obtain ⟨told, -⟩ := (sound found).accepted bounded waits enough
    rw [told]
    have other (same : link.target = q) : link.dialer ≠ p := fun mine =>
      apart (b := link.target) found (fun _ => by simp [waits]) same (.inl ⟨mine, same⟩)
    refine severed.touch found link.accepted (fun _ _ => Iff.rfl) (fun joins => ?_)
      (accepted_carried link) (fun same => ?_) fun same => ⟨fun l' listed => ?_, fun r waits => ?_⟩
    · have ended := severed.deaf link (List.mem_of_getElem? found) joins
      by_cases here : q = link.target
      · rw [here, waits] at ended
        simp at ended
      · simpa [Link.accepted, here] using ended
    · subst same
      exact ⟨severed.connected, severed.receives⟩
    · rcases List.mem_cons.mp listed with new | old
      · exact other same (Prod.mk.inj new).1.symm
      · exact severed.unmapped l' (same ▸ List.mem_of_mem_filter old)
    · subst same
      exact .inl waits
  | send member receives => exact severed.send wired
  | @pass b l link message rest found joins reads read receives room =>
    refine severed.touch found (link.advance b rest) (fun _ _ => Iff.rfl)
      (severed.deaf link (List.mem_of_getElem? found)) (advance_carried link rest)
      (fun same => ?_) fun same => ⟨fun l' => ?_, fun r waits => ?_⟩
    · subst same
      exact ⟨severed.connected, severed.receives⟩
    · exact same ▸ severed.unmapped l'
    · subst same
      rcases List.mem_append.mp waits with old | new
      · exact .inl old
      · obtain rfl := List.mem_singleton.mp new
        exact .inr ⟨link, found, apart found (fun _ => by simp [reads]) rfl⟩
  | @leave b l link message rest endpoint found joins reads read dropped left =>
    refine severed.touch found ((link.advance b rest).closeReader b) (fun _ _ => Iff.rfl)
      (fun joins => ?_) (advance_carried link rest) (fun same => ?_)
      fun same => ⟨fun l' listed => ?_, fun r waits => ?_⟩
    · have ended := severed.deaf link (List.mem_of_getElem? found) joins
      by_cases here : q = b
      · subst here
        simp [Link.closeReader]
      · simpa [Link.closeReader, Link.advance, here] using ended
    · subst same
      simp [severed.receives] at dropped
    · subst same
      rcases left with rfl | ⟨-, rfl⟩
      · exact severed.unmapped l' listed
      · exact severed.unmapped l' (List.mem_of_mem_filter listed)
    · subst same
      refine .inl ?_
      rcases left with rfl | ⟨-, rfl⟩ <;> exact waits
  | @fail b l link endpoint found joins open_yet left =>
    refine severed.touch found (link.closeReader b) (fun _ _ => Iff.rfl) (fun joins => ?_)
      (fun _ => rfl) (fun same => ?_) fun same => ⟨fun l' listed => ?_, fun r waits => ?_⟩
    · have ended := severed.deaf link (List.mem_of_getElem? found) joins
      by_cases here : q = b
      · subst here
        simp [Link.closeReader]
      · simpa [Link.closeReader, here] using ended
    · subst same
      rcases left with rfl | ⟨-, rfl⟩
      · exact ⟨severed.connected, severed.receives⟩
      · refine ⟨?_, severed.receives⟩
        by_cases here : q = link.target
        · subst here
          simp [Endpoint.dial]
        · simpa [Endpoint.dial, here] using severed.connected
    · subst same
      rcases left with rfl | ⟨-, rfl⟩ <;> exact severed.unmapped l' listed
    · subst same
      refine .inl ?_
      rcases left with rfl | ⟨-, rfl⟩ <;> exact waits
  | @receive b receipt inbox receives first =>
    refine
      { connected := ?_
        receives := ?_
        deaf := severed.deaf
        unmapped := ?_
        mute := severed.mute
        begun := Nat.le_trans severed.begun (by simp)
        unheard := fun r listed => severed.unheard r ?_ }
    · by_cases same : p = b
      · subst same
        simpa [put] using severed.connected
      · simpa [put, same] using severed.connected
    · by_cases same : p = b
      · subst same
        simpa [put] using severed.receives
      · simpa [put, same] using severed.receives
    · by_cases same : q = b
      · subst same
        simpa [put] using severed.unmapped
      · simpa [put, same] using severed.unmapped
    · rw [filterMap_received s q (b, receipt) severed.begun] at listed
      by_cases same : q = b
      · subst same
        simpa [put, first, List.append_assoc] using listed
      · simpa [put, same, Ne.symm same] using listed
  | @stop b member =>
    refine
      { connected := ?_
        receives := ?_
        deaf := severed.deaf
        unmapped := ?_
        mute := severed.mute
        begun := severed.begun
        unheard := fun r listed => severed.unheard r ?_ }
    · simpa [put, Ne.symm stays] using severed.connected
    · simpa [put, Ne.symm stays] using severed.receives
    · by_cases same : q = b
      · subst same
        simpa [put] using severed.unmapped
      · simpa [put, same] using severed.unmapped
    · by_cases same : q = b
      · subst same
        simp only [put, Function.update_self, List.append_nil] at listed
        exact List.mem_append_left _ listed
      · simpa [put, same] using listed
  | restart member => exact severed.restart stays

theorem Severed.begin (wired : Wired total s) (less : p < q)
    (connected : (s.endpoints p).dials q ≠ .connecting)
    (receives : (s.endpoints p).receives = true) :
    Severed p q s.sent.length s.received.length (s.restart q) := by
  have other : p ≠ q := Nat.ne_of_lt less
  exact
    { connected := by simpa [Network.restart, put, other] using connected
      receives := by simpa [Network.restart, put, other] using receives
      deaf := fun link listed _ => by
        obtain ⟨before, -, rfl⟩ := List.mem_map.mp listed
        simp [Link.closeReader]
      unmapped := by simp [Network.restart, put, Endpoint.new]
      mute := fun link listed joins e written => by
        obtain ⟨before, known, rfl⟩ := List.mem_map.mp listed
        have flow := (wired.links before known).flows q p (Link.Joins.symm joins)
        exact (List.getElem?_eq_some_iff.mp (flow.own e written).1).1
      begun := Nat.le_refl _
      unheard := by simp [Network.restart, put, Endpoint.new] }

end Network

-- The retry of the dial task comes after a read that does not come back: once the process of q
-- has restarted, nothing that is sent from then on passes between it and a node of lower id that
-- had dialed it, while the process and the loop of that node go on.
theorem Network.restarted_unheard [Bincode T] {total p q : Nat} {s t u : Network T}
    (bounded : total ≤ 2 ^ 32) (reachable : (system total).Reachable (fun _ a => Short a) s)
    (less : p < q) (dialed : (s.endpoints p).dials q ≠ .connecting)
    (receives : (s.endpoints p).receives = true) (restarts : step total s (.restart q) = some t)
    (steps : (system total).Steps (fun _ a => Short a ∧ Stays p a) t u) :
    ∀ e ∈ u.received.drop s.received.length, ∀ sender message,
      u.sent[e.2.place]? = some (sender, message) →
      (e.1 = q → sender ≠ p) ∧ (e.1 = p → sender = q → e.2.place < s.sent.length) := by
  have start : (system total).Reachable (fun _ a => Short a) t :=
    .step (a := .restart q) reachable trivial restarts
  have later : (system total).Reachable (fun _ a => Short a) u ∧
      Severed p q s.sent.length s.received.length u := by
    induction steps with
    | refl =>
      simp only [step, Option.ite_none_right_eq_some, Option.some.injEq] at restarts
      obtain ⟨-, rfl⟩ := restarts
      exact ⟨start, Severed.begin (wired_reachable bounded reachable) less dialed receives⟩
    | tail _ last ih =>
      obtain ⟨before, severed⟩ := ih
      obtain ⟨a, ⟨short, stays⟩, next⟩ := last
      exact ⟨.step before short next, severed.step bounded (wired_reachable bounded before)
        (handed_reachable bounded before) less stays (step_moves next)⟩
  obtain ⟨reached, severed⟩ := later
  have wired := wired_reachable bounded reached
  have handed := handed_reachable bounded reached
  rintro ⟨a, r⟩ listed sender message sent
  have got : r ∈ u.receipts a :=
    List.mem_append_left _ (List.mem_filterMap.mpr ⟨(a, r), List.mem_of_mem_drop listed, by simp⟩)
  obtain ⟨link, b, found, joins, taken⟩ := handed.read a r got
  have sound := wired.links link (List.mem_of_getElem? found)
  have carried := List.mem_of_mem_take taken
  obtain ⟨rfl, -⟩ := Prod.mk.inj (Option.some.inj
    (sent.symm.trans ((sound.flows b a joins.symm).own _ carried).1))
  constructor
  · rintro rfl rfl
    have new : r ∈ (u.received.drop s.received.length).filterMap
        (fun e => if e.1 = a then some e.2 else none) ++ (u.endpoints a).inbox :=
      List.mem_append_left _ (List.mem_filterMap.mpr ⟨(a, r), listed, by simp⟩)
    exact severed.unheard r new link found joins.symm
  · rintro rfl rfl
    exact severed.mute link (List.mem_of_getElem? found) joins _ carried

namespace Network

-- Node 1 restarts between node 0, which has dialed it, and node 2, which restarts as well
-- and which it dials itself.
def dialedRun : List (Action UInt64) :=
  [.connect 0 1 fun _ => none, .accept 0, .send 0 7, .send 1 8, .read 0 0]

def dialedOnce : Network UInt64 :=
  Run.System.final (step 3) (fun _ a => Short a) boot dialedRun

def returnedRun : List (Action UInt64) :=
  [.restart 2, .connect 1 2 fun _ => none, .accept 1, .send 2 5, .send 0 6, .read 1 1, .receive 1,
    .receive 0]

def returned : Network UInt64 :=
  Run.System.final (step 3) (fun _ a => Short a ∧ Stays 0 a)
    (dialedOnce.restart 1) returnedRun

theorem restarted_unheard_returned :
    returned.received.map (fun e => (e.1, e.2.place, e.2.message)) = [(1, 2, 5), (0, 1, 8)] ∧
      ∀ e ∈ returned.received, ∀ sender message,
        returned.sent[e.2.place]? = some (sender, message) →
        (e.1 = 1 → sender ≠ 0) ∧ (e.1 = 0 → sender = 1 → e.2.place < 2) := by
  have reachable : (system 3).Reachable (fun _ a => Short a) dialedOnce :=
    Run.System.final_reachable (fun _ _ _ next => next) (.init rfl) (by decide +kernel)
  have steps : (system 3).Steps (fun _ a => Short a ∧ Stays 0 a)
      (dialedOnce.restart 1) returned :=
    Run.System.final_steps (fun _ _ _ next => next) (by decide +kernel)
  have unheard := restarted_unheard (q := 1) (by decide) reachable (by decide)
    (by decide +kernel) (by decide +kernel) rfl steps
  have nothing : dialedOnce.received = [] := by decide +kernel
  rw [nothing] at unheard
  exact ⟨by decide +kernel, unheard⟩

end Network

end Smr
