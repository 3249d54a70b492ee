import Smr.Channel.Links

set_option autoImplicit false

namespace Smr

open Text

variable {T : Type}

namespace Link

variable {self : Link T} {p q : Nat}

theorem Joins.symm (joins : self.Joins p q) : self.Joins q p :=
  Or.symm joins

theorem Joins.peer (joins : self.Joins p q) (less : self.dialer < self.target) :
    self.peer p = q ∧ p ≠ q := by
  unfold Link.peer
  rcases joins with ⟨rfl, rfl⟩ | ⟨rfl, rfl⟩
  · exact ⟨if_pos rfl, Nat.ne_of_lt less⟩
  · exact ⟨if_neg (Nat.ne_of_gt less), Nat.ne_of_gt less⟩

def preamble (self : Link T) (p : Nat) : Bytes :=
  if p = self.dialer then Network.idBytes p else []

structure Sound [Bincode T] (total : Nat) (sent : List (Nat × T)) (link : Link T) : Prop where
  less : link.dialer < link.target
  inside : link.target < total
  flows : ∀ p q, link.Joins p q → (link.flow p).Sound sent p (link.preamble p) (link.reader q)

variable [Bincode T] {total : Nat} {sent : List (Nat × T)}

theorem Sound.grow (sound : self.Sound total sent) (more : List (Nat × T)) :
    self.Sound total (sent ++ more) :=
  { sound with flows := fun p q joins => (sound.flows p q joins).grow more }

theorem Sound.write (sound : self.Sound total sent) (joins : self.Joins p q) {message : T}
    {serialized : Bytes} (encoded : Bincode.encodeToVec message = some serialized)
    (short : serialized.length < 2 ^ 32) :
    (self.write p sent.length message serialized).Sound total (sent ++ [(p, message)]) where
  less := sound.less
  inside := sound.inside
  flows a b joined := by
    have flow := sound.flows a b joined
    show (Function.update self.flow p _ a).Sound _ a (self.preamble a) (self.reader b)
    by_cases same : a = p
    · subst same
      rw [Function.update_self]
      exact flow.write encoded short
    · rw [Function.update_of_ne same]
      exact flow.grow [(p, message)]

theorem Sound.closeReader (sound : self.Sound total sent) (p : Nat) :
    (self.closeReader p).Sound total sent where
  less := sound.less
  inside := sound.inside
  flows a b joined := by
    have flow := sound.flows a b joined
    show (self.flow a).Sound _ a (self.preamble a) (Function.update self.reader p .ended b)
    by_cases same : b = p
    · subst same
      rw [Function.update_self]
      exact flow.close
    · rw [Function.update_of_ne same]
      exact flow

theorem Sound.accepted (sound : self.Sound total sent) (bounded : total ≤ 2 ^ 32)
    (waits : self.reader self.target = .waiting)
    (enough : 4 ≤ (self.flow self.dialer).stream.written.length) :
    Network.readId ((self.flow self.dialer).stream.written.take 4) = self.dialer ∧
      self.accepted.Sound total sent := by
  have less := sound.less
  have inside := sound.inside
  have flow := sound.flows self.dialer self.target (.inl ⟨rfl, rfl⟩)
  rw [preamble, if_pos rfl] at flow
  obtain ⟨told, accepted⟩ := flow.accept waits (by omega) enough
  refine ⟨told, less, inside, fun a b joined => ?_⟩
  replace joined : self.Joins a b := joined
  show (Function.update self.flow self.dialer _ a).Sound _ a (self.preamble a)
    (Function.update self.reader self.target .reading b)
  rcases joined with ⟨rfl, rfl⟩ | ⟨rfl, rfl⟩
  · rw [Function.update_self, Function.update_self, preamble, if_pos rfl]
    exact accepted
  · rw [Function.update_of_ne (Nat.ne_of_gt less), Function.update_of_ne (Nat.ne_of_lt less)]
    exact sound.flows self.target self.dialer (.inr ⟨rfl, rfl⟩)

theorem Sound.advance (sound : self.Sound total sent) (joins : self.Joins p q)
    (reads : self.reader p = .reading) {message : T} {rest : Bytes}
    (read : TcpChannel.readOneStruct ((self.flow (self.peer p)).stream.written.drop
      (self.flow (self.peer p)).consumed) = (.ok message, rest)) :
    (self.flow q).carried[(self.flow q).taken]? = some ((self.flow q).next, message) ∧
      (self.advance p rest).Sound total sent := by
  obtain ⟨here, -⟩ := joins.peer sound.less
  have flow := sound.flows q p joins.symm
  rw [here] at read
  obtain ⟨next, advanced⟩ := flow.read reads read
  refine ⟨next, sound.less, sound.inside, fun a b joined => ?_⟩
  show (Function.update self.flow (self.peer p) _ a).Sound _ a (self.preamble a) (self.reader b)
  rw [here]
  by_cases same : a = q
  · subst same
    obtain rfl : p = b := (joins.symm.peer sound.less).1.symm.trans (joined.peer sound.less).1
    rw [Function.update_self, reads]
    exact advanced
  · rw [Function.update_of_ne same]
    exact sound.flows a b joined

end Link

namespace Network

variable [Bincode T]

-- Each end of a connection is known to the other, and no two connections carry a message to
-- the same node.
structure Wired (total : Nat) (s : Network T) : Prop where
  links : ∀ link ∈ s.links, link.Sound total s.sent
  mapped : ∀ p q l, (q, l) ∈ (s.endpoints p).connections →
    ∃ link, s.links[l]? = some link ∧ link.Joins p q
  keyed : ∀ p, ((s.endpoints p).connections.map Prod.fst).Nodup
  once : ∀ (p q l l' : Nat) (link link' : Link T) (k : Nat) (m m' : T),
    s.links[l]? = some link → s.links[l']? = some link' →
    link.Joins p q → link'.Joins p q → (k, m) ∈ (link.flow p).carried →
    (k, m') ∈ (link'.flow p).carried → l = l'

def receipts (s : Network T) (p : Nat) : List (Receipt T) :=
  s.received.filterMap (fun e => if e.1 = p then some e.2 else none) ++ (s.endpoints p).inbox

structure Handed (s : Network T) : Prop where
  read : ∀ p, ∀ r ∈ s.receipts p, ∃ link q, s.links[r.link]? = some link ∧ link.Joins p q ∧
    (r.place, r.message) ∈ (link.flow q).carried.take (link.flow q).taken
  ordered : ∀ p, (s.receipts p).Pairwise fun a b => a.link = b.link → a.place < b.place

-- No message is too long for its length prefix.
def Short : Action T → Prop
  | .send _ message => ∀ serialized, Bincode.encodeToVec message = some serialized →
      serialized.length < 2 ^ 32
  | _ => True

section Steps

variable {total p l : Nat} {s t : Network T} {link : Link T}

theorem Wired.touch (wired : Wired total s) (found : s.links[l]? = some link) (link' : Link T)
    (ends : link'.dialer = link.dialer ∧ link'.target = link.target)
    (carried : ∀ w, (link'.flow w).carried = (link.flow w).carried)
    (sound : link'.Sound total s.sent) {endpoint : Endpoint T}
    (mapped : ∀ q l', (q, l') ∈ endpoint.connections →
      ∃ link, s.links[l']? = some link ∧ link.Joins p q)
    (keyed : (endpoint.connections.map Prod.fst).Nodup) :
    Wired total ((s.putLink l link').put p endpoint) := by
  have inside := (List.getElem?_eq_some_iff.mp found).1
  have joined (a b : Nat) : link'.Joins a b ↔ link.Joins a b := by
    unfold Link.Joins
    rw [ends.1, ends.2]
  have older {l' : Nat} {other : Link T} (found' : (s.links.set l link')[l']? = some other) :
      ∃ before, s.links[l']? = some before ∧ (∀ a b, other.Joins a b ↔ before.Joins a b) ∧
        ∀ w, (other.flow w).carried = (before.flow w).carried := by
    by_cases here : l' = l
    · subst here
      rw [List.getElem?_set_self inside] at found'
      obtain rfl := Option.some.inj found'
      exact ⟨link, found, joined, carried⟩
    · rw [List.getElem?_set_ne (Ne.symm here)] at found'
      exact ⟨other, found', fun _ _ => Iff.rfl, fun _ => rfl⟩
  have later {l' a b : Nat} (known : ∃ link, s.links[l']? = some link ∧ link.Joins a b) :
      ∃ link, (s.links.set l link')[l']? = some link ∧ link.Joins a b := by
    obtain ⟨before, found', joins⟩ := known
    by_cases here : l' = l
    · subst here
      obtain rfl := Option.some.inj (found.symm.trans found')
      exact ⟨link', List.getElem?_set_self inside, (joined a b).mpr joins⟩
    · exact ⟨before, (List.getElem?_set_ne (Ne.symm here)).trans found', joins⟩
  refine ⟨fun other member => ?_, fun a q l' member => later ?_, fun a => ?_, ?_⟩
  · rcases List.mem_or_eq_of_mem_set member with old | rfl
    · exact wired.links other old
    · exact sound
  · by_cases here : a = p
    · subst here
      simp only [put, putLink, Function.update_self] at member
      exact mapped q l' member
    · simp only [put, putLink, Function.update_of_ne here] at member
      exact wired.mapped a q l' member
  · by_cases here : a = p
    · subst here
      simpa [put, putLink] using keyed
    · simpa [put, putLink, here] using wired.keyed a
  · intro a b l1 l2 link1 link2 k m m' found1 found2 joins1 joins2 left right
    obtain ⟨before1, known1, ends1, same1⟩ := older found1
    obtain ⟨before2, known2, ends2, same2⟩ := older found2
    exact wired.once a b l1 l2 before1 before2 k m m' known1 known2 ((ends1 a b).mp joins1)
      ((ends2 a b).mp joins2) (same1 a ▸ left) (same2 a ▸ right)

theorem dialed_sound {q : Nat} {breaks : Nat → Option Nat} (sent : List (Nat × T)) (less : p < q)
    (inside : q < total) : (dialed p q breaks).Sound total sent where
  less := less
  inside := inside
  flows a b joined := by
    replace joined : p = a ∧ q = b ∨ p = b ∧ q = a := joined
    unfold dialed
    dsimp only
    rcases joined with ⟨rfl, rfl⟩ | ⟨rfl, rfl⟩
    · rw [Function.update_self, Function.update_of_ne (Nat.ne_of_gt less), Link.preamble,
        if_pos rfl]
      exact
        { carries := by simpa [opened, frames] using Connection.writeAll_carries _ _
          own := by simp [opened]
          ordered := by simp [opened]
          taken := Nat.le_refl _
          waiting := fun _ => ⟨rfl, rfl⟩
          reading := fun reads => by simp at reads }
    · rw [Function.update_self, Function.update_of_ne (Nat.ne_of_gt less), Link.preamble,
        if_neg (Nat.ne_of_gt less)]
      exact
        { carries := by
            unfold Connection.Carries
            cases breaks q <;> simp [opened, frames]
          own := by simp [opened]
          ordered := by simp [opened]
          taken := Nat.le_refl _
          waiting := fun waits => by simp at waits
          reading := fun _ => by simp [opened, frames] }

omit [Bincode T] in
theorem insert_keyed {endpoint : Endpoint T} {peerId : Nat}
    (keyed : (endpoint.connections.map Prod.fst).Nodup) :
    ((endpoint.insert peerId l).connections.map Prod.fst).Nodup := by
  refine List.nodup_cons.mpr ⟨fun again => ?_, ?_⟩
  · obtain ⟨e, member, same⟩ := List.mem_map.mp again
    simpa [same] using (List.mem_filter.mp member).2
  · exact keyed.sublist (List.filter_sublist.map _)

theorem Wired.connect {q : Nat} {breaks : Nat → Option Nat} (wired : Wired total s) (less : p < q)
    (inside : q < total) : Wired total (s.connect p q breaks) := by
  have later {l' a b : Nat} (known : ∃ link, s.links[l']? = some link ∧ link.Joins a b) :
      ∃ link, (s.links ++ [dialed p q breaks])[l']? = some link ∧ link.Joins a b := by
    obtain ⟨link, found, joins⟩ := known
    exact ⟨link, (List.getElem?_append_left (List.getElem?_eq_some_iff.mp found).1).trans found,
      joins⟩
  obtain ⟨endpoint, result, -, -, -, connections⟩ := s.connect_put p q breaks
  have mapped (b l' : Nat) (member : (b, l') ∈ endpoint.connections) :
      ∃ link, (s.links ++ [dialed p q breaks])[l']? = some link ∧ link.Joins p b := by
    rcases connections with same | inserted
    · exact later (wired.mapped p b l' (same ▸ member))
    · rw [inserted] at member
      rcases List.mem_cons.mp member with new | old
      · obtain ⟨rfl, rfl⟩ := Prod.mk.inj new
        exact ⟨_, List.getElem?_concat_length, .inl ⟨rfl, rfl⟩⟩
      · exact later (wired.mapped p b l' (List.mem_of_mem_filter old))
  have keyed : (endpoint.connections.map Prod.fst).Nodup := by
    rcases connections with same | inserted
    · exact same ▸ wired.keyed p
    · exact inserted ▸ insert_keyed (wired.keyed p)
  rw [result]
  refine ⟨fun other member => ?_, fun a b l' member => ?_, fun a => ?_, ?_⟩
  · rcases List.mem_append.mp member with old | new
    · exact wired.links other old
    · rw [List.mem_singleton.mp new]
      exact dialed_sound s.sent less inside
  · by_cases here : a = p
    · subst here
      simp only [put, Function.update_self] at member
      exact mapped b l' member
    · simp only [put, Function.update_of_ne here] at member
      exact later (wired.mapped a b l' member)
  · by_cases here : a = p
    · subst here
      simpa [put] using keyed
    · simpa [put, here] using wired.keyed a
  · have silent {l' a k : Nat} {m : T} {other : Link T}
        (found : (s.links ++ [dialed p q breaks])[l']? = some other)
        (carried : (k, m) ∈ (other.flow a).carried) : s.links[l']? = some other := by
      rw [List.getElem?_append] at found
      split at found
      · exact found
      · obtain rfl := List.mem_singleton.mp (List.mem_of_getElem? found)
        unfold dialed at carried
        dsimp only at carried
        by_cases here : a = p
        · subst here
          simp [opened] at carried
        · simp [opened, here] at carried
    intro a b l1 l2 link1 link2 k m m' found1 found2 joins1 joins2 left right
    exact wired.once a b l1 l2 link1 link2 k m m' (silent found1 left) (silent found2 right)
      joins1 joins2 left right

theorem Wired.send {message : T} (wired : Wired total s) (short : Short (.send p message)) :
    Wired total (s.send p message) := by
  unfold Network.send
  split
  next =>
    exact { wired with links := fun link member => (wired.links link member).grow _ }
  next serialized encoded =>
    have found_before {l' : Nat} {other : Link T}
        (found : (s.links.mapIdx fun l link => if (s.endpoints p).writes l then
          link.write p s.sent.length message serialized else link)[l']? = some other) :
        ∃ before, s.links[l']? = some before ∧ other = if (s.endpoints p).writes l' then
          before.write p s.sent.length message serialized else before := by
      rw [List.getElem?_mapIdx, Option.map_eq_some_iff] at found
      obtain ⟨before, known, same⟩ := found
      exact ⟨before, known, same.symm⟩
    have writes {l' : Nat} {before : Link T} (known : s.links[l']? = some before)
        (writes : (s.endpoints p).writes l' = true) :
        ∃ q, (q, l') ∈ (s.endpoints p).connections ∧ before.Joins p q := by
      obtain ⟨⟨q, l''⟩, member, rfl⟩ := List.mem_map.mp (of_decide_eq_true writes)
      obtain ⟨link, found, joins⟩ := wired.mapped p q l'' member
      obtain rfl := Option.some.inj (known.symm.trans found)
      exact ⟨q, member, joins⟩
    have joined {l' a b : Nat} (before : Link T) :
        (if (s.endpoints p).writes l' then before.write p s.sent.length message serialized
          else before).Joins a b ↔ before.Joins a b := by
      split <;> exact Iff.rfl
    refine ⟨fun other member => ?_, fun a b l' member => ?_, wired.keyed, ?_⟩
    · obtain ⟨l', found⟩ := List.mem_iff_getElem?.mp member
      obtain ⟨before, known, rfl⟩ := found_before found
      have sound := wired.links before (List.mem_of_getElem? known)
      split
      next mine =>
        obtain ⟨q, -, joins⟩ := writes known mine
        exact sound.write joins encoded (short serialized encoded)
      next => exact sound.grow _
    · obtain ⟨before, known, joins⟩ := wired.mapped a b l' member
      exact ⟨_, by rw [List.getElem?_mapIdx, known]; rfl, (joined before).mpr joins⟩
    · have carries {l' a k : Nat} {m : T} {before : Link T} (known : s.links[l']? = some before)
          (carried : (k, m) ∈ ((if (s.endpoints p).writes l' then
            before.write p s.sent.length message serialized else before).flow a).carried) :
          (k, m) ∈ (before.flow a).carried ∨
            k = s.sent.length ∧ a = p ∧ (s.endpoints p).writes l' = true := by
        split at carried
        next mine =>
          by_cases here : a = p
          · subst here
            simp only [Link.write, Function.update_self, List.mem_append, List.mem_singleton,
              Prod.mk.injEq] at carried
            exact carried.imp_right fun new => ⟨new.1, rfl, mine⟩
          · simp only [Link.write, Function.update_of_ne here] at carried
            exact .inl carried
        next => exact .inl carried
      have older {l' a b k : Nat} {m : T} {before : Link T} (known : s.links[l']? = some before)
          (joins : before.Joins a b) (carried : (k, m) ∈ (before.flow a).carried) :
          k < s.sent.length := by
        have flow := (wired.links before (List.mem_of_getElem? known)).flows a b joins
        exact (List.getElem?_eq_some_iff.mp (flow.own (k, m) carried).1).1
      intro a b l1 l2 link1 link2 k m m' found1 found2 joins1 joins2 left right
      obtain ⟨before1, known1, rfl⟩ := found_before found1
      obtain ⟨before2, known2, rfl⟩ := found_before found2
      rw [joined] at joins1 joins2
      rcases carries known1 left with old1 | ⟨new1, rfl, mine1⟩ <;>
        rcases carries known2 right with old2 | ⟨new2, same, mine2⟩
      · exact wired.once a b l1 l2 before1 before2 k m m' known1 known2 joins1 joins2 old1 old2
      · exact absurd (older known1 joins1 old1) (by omega)
      · exact absurd (older known2 joins2 old2) (by omega)
      · -- Both connections are in the map under the receiver's id.
        obtain ⟨q1, member1, joined1⟩ := writes known1 mine1
        obtain ⟨q2, member2, joined2⟩ := writes known2 mine2
        have less1 := (wired.links before1 (List.mem_of_getElem? known1)).less
        have less2 := (wired.links before2 (List.mem_of_getElem? known2)).less
        obtain rfl : q1 = b := (joined1.peer less1).1.symm.trans (joins1.peer less1).1
        obtain rfl : q2 = q1 := (joined2.peer less2).1.symm.trans (joins2.peer less2).1
        exact (Prod.mk.inj (List.inj_on_of_nodup_map (wired.keyed a) member1 member2 rfl)).2

omit [Bincode T] in
theorem accepted_carried (link : Link T) (w : Nat) :
    (link.accepted.flow w).carried = (link.flow w).carried := by
  unfold Link.accepted
  by_cases here : w = link.dialer
  · subst here
    simp
  · simp [here]

omit [Bincode T] in
theorem advance_carried (link : Link T) (rest : Bytes) (w : Nat) :
    ((link.advance p rest).flow w).carried = (link.flow w).carried := by
  unfold Link.advance
  by_cases here : w = link.peer p
  · subst here
    simp
  · simp [here]

theorem Wired.still (wired : Wired total s) (links : t.links = s.links) (sent : t.sent = s.sent)
    (same : ∀ a, (t.endpoints a).connections = (s.endpoints a).connections) : Wired total t where
  links link member := sent ▸ wired.links link (links ▸ member)
  mapped a q l' member := by
    rw [links]
    exact wired.mapped a q l' (same a ▸ member)
  keyed a := same a ▸ wired.keyed a
  once := by
    rw [links]
    exact wired.once

theorem Wired.restart (wired : Wired total s) : Wired total (s.restart p) := by
  have before {l' : Nat} {other : Link T}
      (found : (s.links.map fun link => link.closeReader p)[l']? = some other) :
      ∃ link, s.links[l']? = some link ∧ other = link.closeReader p := by
    rw [List.getElem?_map, Option.map_eq_some_iff] at found
    obtain ⟨link, known, same⟩ := found
    exact ⟨link, known, same.symm⟩
  refine ⟨fun other member => ?_, fun a q l' member => ?_, fun a => ?_, ?_⟩
  · obtain ⟨link, known, rfl⟩ := List.mem_map.mp member
    exact (wired.links link known).closeReader p
  · by_cases here : a = p
    · subst here
      simp [Network.restart, put, Endpoint.new] at member
    · simp only [Network.restart, put, Function.update_of_ne here] at member
      obtain ⟨link, known, joins⟩ := wired.mapped a q l' member
      refine ⟨link.closeReader p, ?_, joins⟩
      simp only [Network.restart, List.getElem?_map, known, Option.map_some]
  · by_cases here : a = p
    · subst here
      simp [Network.restart, put, Endpoint.new]
    · simpa [Network.restart, put, here] using wired.keyed a
  · intro a b l1 l2 link1 link2 k m m' found1 found2 joins1 joins2 left right
    obtain ⟨before1, known1, rfl⟩ := before found1
    obtain ⟨before2, known2, rfl⟩ := before found2
    exact wired.once a b l1 l2 before1 before2 k m m' known1 known2 joins1 joins2 left right

theorem Wired.step {a : Action T} (bounded : total ≤ 2 ^ 32) (wired : Wired total s)
    (short : Short a) (moves : Moves total s a t) : Wired total t := by
  have insides {l : Nat} {link : Link T} (found : s.links[l]? = some link) :
      link.Sound total s.sent := wired.links link (List.mem_of_getElem? found)
  cases moves with
  | connect less inside idle => exact wired.connect less inside
  | @accept l link found waits enough =>
    obtain ⟨told, sound⟩ := (insides found).accepted bounded waits enough
    rw [told]
    refine wired.touch found link.accepted ⟨rfl, rfl⟩ (accepted_carried link) sound
      (fun q l' member => ?_)
      (insert_keyed (wired.keyed _))
    rcases List.mem_cons.mp member with new | old
    · obtain ⟨rfl, rfl⟩ := Prod.mk.inj new
      exact ⟨link, found, .inr ⟨rfl, rfl⟩⟩
    · exact wired.mapped _ q l' (List.mem_of_mem_filter old)
  | send member receives => exact wired.send short
  | @pass p l link message rest found joins reads read receives room =>
    exact wired.touch found (link.advance p rest) ⟨rfl, rfl⟩ (advance_carried link rest)
      ((insides found).advance joins reads read).2 (wired.mapped p) (wired.keyed p)
  | @leave p l link message rest endpoint found joins reads read dropped left =>
    refine wired.touch found ((link.advance p rest).closeReader p) ⟨rfl, rfl⟩
      (advance_carried link rest) (((insides found).advance joins reads read).2.closeReader p)
      (fun q l' member => ?_) ?_
    · rcases left with rfl | ⟨-, rfl⟩
      · exact wired.mapped p q l' member
      · exact wired.mapped p q l' (List.mem_of_mem_filter member)
    · rcases left with rfl | ⟨-, rfl⟩
      · exact wired.keyed p
      · exact (wired.keyed p).sublist (List.filter_sublist.map _)
  | @fail p l link endpoint found joins open_yet left =>
    have same : endpoint.connections = (s.endpoints p).connections := by
      rcases left with rfl | ⟨-, rfl⟩ <;> rfl
    exact wired.touch found (link.closeReader p) ⟨rfl, rfl⟩ (fun _ => rfl)
      ((insides found).closeReader p)
      (fun q l' member => wired.mapped p q l' (same ▸ member)) (same ▸ wired.keyed p)
  | @receive p receipt inbox receives first =>
    refine wired.still rfl rfl fun a => ?_
    by_cases here : a = p
    · subst here
      simp [put]
    · simp [put, here]
  | @stop p member =>
    refine wired.still rfl rfl fun a => ?_
    by_cases here : a = p
    · subst here
      simp [put]
    · simp [put, here]
  | restart member => exact wired.restart

theorem wired_reachable (bounded : total ≤ 2 ^ 32)
    (reachable : (system total).Reachable (fun _ a => Short a) s) : Wired total s := by
  refine reachable.invariant (Wired total) (fun s starts => ?_)
    fun _ _ _ _ wired short next => wired.step bounded short (step_moves next)
  subst starts
  exact ⟨by simp [boot], by simp [boot, Endpoint.new], by simp [boot, Endpoint.new],
    by simp [boot]⟩

def Extends (s t : Network T) : Prop :=
  ∀ (l : Nat) (link : Link T), s.links[l]? = some link → ∃ link', t.links[l]? = some link' ∧
    (∀ a b, link'.Joins a b ↔ link.Joins a b) ∧
    ∀ w, (link.flow w).carried.take (link.flow w).taken <+:
      (link'.flow w).carried.take (link'.flow w).taken

theorem Moves.extends {a : Action T} (moves : Moves total s a t) : s.Extends t := by
  have same {t : Network T} (links : t.links = s.links) : s.Extends t := fun l link found =>
    ⟨link, links ▸ found, fun _ _ => Iff.rfl, fun _ => List.prefix_refl _⟩
  have put_one {l : Nat} {link link' : Link T} {t : Network T}
      (links : t.links = s.links.set l link') (found : s.links[l]? = some link)
      (joined : ∀ a b, link'.Joins a b ↔ link.Joins a b)
      (grows : ∀ w, (link.flow w).carried.take (link.flow w).taken <+:
        (link'.flow w).carried.take (link'.flow w).taken) : s.Extends t := by
    intro l' other found'
    rw [links]
    by_cases here : l' = l
    · subst here
      obtain rfl := Option.some.inj (found.symm.trans found')
      exact ⟨link', List.getElem?_set_self (List.getElem?_eq_some_iff.mp found).1, joined, grows⟩
    · exact ⟨other, (List.getElem?_set_ne (Ne.symm here)).trans found', fun _ _ => Iff.rfl,
        fun _ => List.prefix_refl _⟩
  have advances (p : Nat) (link : Link T) (rest : Bytes) (w : Nat) :
      (link.flow w).carried.take (link.flow w).taken <+:
        ((link.advance p rest).flow w).carried.take ((link.advance p rest).flow w).taken := by
    rw [advance_carried]
    refine (List.take_prefix_take_left ?_)
    unfold Link.advance
    by_cases here : w = link.peer p
    · subst here
      simp
    · simp [here]
  cases moves with
  | @connect p q breaks less inside idle =>
    intro l link found
    have found' : (s.connect p q breaks).links[l]? = some link := by
      have links : (s.connect p q breaks).links = s.links ++ [dialed p q breaks] := by
        unfold Network.connect
        dsimp only
        split <;> rfl
      rw [links]
      exact (List.getElem?_append_left (List.getElem?_eq_some_iff.mp found).1).trans found
    exact ⟨link, found', fun _ _ => Iff.rfl, fun _ => List.prefix_refl _⟩
  | @accept l link found waits enough =>
    refine put_one rfl found (fun _ _ => Iff.rfl) fun w => ?_
    rw [accepted_carried]
    unfold Link.accepted
    by_cases here : w = link.dialer
    · subst here
      simp
    · simp [here]
  | @send p message member receives =>
    unfold Network.send
    split
    next => exact same rfl
    next serialized encoded =>
      intro l link found
      refine ⟨_, by rw [List.getElem?_mapIdx, found]; rfl, fun a b => ?_, fun w => ?_⟩
      · split <;> exact Iff.rfl
      · split
        next =>
          by_cases here : w = p
          · subst here
            simpa [Link.write] using (List.prefix_append _ _).take _
          · simp [Link.write, here]
        next => exact List.prefix_refl _
  | @pass p l link message rest found =>
    exact put_one rfl found (fun _ _ => Iff.rfl) (advances p link rest)
  | @leave p l link message rest endpoint found =>
    exact put_one rfl found (fun _ _ => Iff.rfl) (advances p link rest)
  | fail found => exact put_one rfl found (fun _ _ => Iff.rfl) fun _ => List.prefix_refl _
  | receive | stop => exact same rfl
  | @restart p member =>
    intro l link found
    refine ⟨link.closeReader p, ?_, fun _ _ => Iff.rfl, fun _ => List.prefix_refl _⟩
    simp only [Network.restart, List.getElem?_map, found, Option.map_some]

omit [Bincode T] in
theorem Handed.keep (handed : Handed s) (extends_ : s.Extends t)
    (fewer : ∀ p, (t.receipts p).Sublist (s.receipts p)) : Handed t where
  read p r member := by
    obtain ⟨link, q, found, joins, listed⟩ := handed.read p r ((fewer p).mem member)
    obtain ⟨link', found', joined, grows⟩ := extends_ r.link link found
    exact ⟨link', q, found', (joined p q).mpr joins, (grows q).mem listed⟩
  ordered p := (handed.ordered p).sublist (fewer p)

omit [Bincode T] in
theorem receipts_put {endpoint : Endpoint T} (received : t.received = s.received)
    (endpoints : t.endpoints = Function.update s.endpoints p endpoint) (a : Nat) :
    t.receipts a = if a = p then
      s.received.filterMap (fun e => if e.1 = p then some e.2 else none) ++ endpoint.inbox
    else s.receipts a := by
  unfold receipts
  rw [received, endpoints]
  by_cases here : a = p
  · subst here
    simp
  · simp [here]

omit [Bincode T] in
theorem receipts_same {endpoint : Endpoint T} (received : t.received = s.received)
    (endpoints : t.endpoints = Function.update s.endpoints p endpoint)
    (inbox : endpoint.inbox.Sublist (s.endpoints p).inbox) (a : Nat) :
    (t.receipts a).Sublist (s.receipts a) := by
  rw [receipts_put received endpoints]
  split
  next here =>
    subst here
    exact (List.Sublist.refl _).append inbox
  next => exact .refl _

theorem Handed.pass (wired : Wired total s) (handed : Handed s) {message : T} {rest : Bytes}
    (found : s.links[l]? = some link) (joins : link.Joins p (link.peer p))
    (reads : link.reader p = .reading)
    (read : TcpChannel.readOneStruct ((link.flow (link.peer p)).stream.written.drop
      (link.flow (link.peer p)).consumed) = (.ok message, rest))
    (extends_ : s.Extends ((s.putLink l (link.advance p rest)).put p
      ((s.endpoints p).push ⟨l, (link.flow (link.peer p)).next, message⟩))) :
    Handed ((s.putLink l (link.advance p rest)).put p
      ((s.endpoints p).push ⟨l, (link.flow (link.peer p)).next, message⟩)) := by
  have sound := wired.links link (List.mem_of_getElem? found)
  have next := (sound.advance joins reads read).1
  have inside := (List.getElem?_eq_some_iff.mp found).1
  set q := link.peer p with peer
  set r : Receipt T := ⟨l, (link.flow q).next, message⟩
  have grown (a : Nat) : Network.receipts ((s.putLink l (link.advance p rest)).put p
      ((s.endpoints p).push r)) a = s.receipts a ++ if a = p then [r] else [] := by
    rw [receipts_put (s := s) (t := (s.putLink l (link.advance p rest)).put p
      ((s.endpoints p).push r)) rfl rfl]
    split
    next here =>
      subst here
      simp [receipts, Endpoint.push]
    next => simp
  have taken : (link.advance p rest).flow q =
      { link.flow q with
        consumed := (link.flow q).stream.written.length - rest.length
        taken := (link.flow q).taken + 1 } := by
    simp [Link.advance, ← peer]
  refine ⟨fun a e member => ?_, fun a => ?_⟩
  · rw [grown] at member
    rcases List.mem_append.mp member with old | new
    · obtain ⟨link', b, found', joins', listed⟩ := handed.read a e old
      obtain ⟨link'', found'', joined, grows⟩ := extends_ e.link link' found'
      exact ⟨link'', b, found'', (joined a b).mpr joins', (grows b).mem listed⟩
    · split at new
      next here =>
        subst here
        obtain rfl := List.mem_singleton.mp new
        refine ⟨link.advance a rest, q, List.getElem?_set_self inside, joins, ?_⟩
        rw [taken]
        show (r.place, r.message) ∈ (link.flow q).carried.take ((link.flow q).taken + 1)
        rw [List.take_add_one, next]
        exact List.mem_append_right _ (List.mem_singleton.mpr rfl)
      next => simp at new
  · rw [grown, List.pairwise_append]
    refine ⟨handed.ordered a, by split <;> simp, fun e old last new same => ?_⟩
    split at new
    next here =>
      subst here
      obtain rfl := List.mem_singleton.mp new
      obtain ⟨link', b, found', joins', listed⟩ := handed.read a e old
      rw [same] at found'
      obtain rfl := Option.some.inj (found.symm.trans found')
      obtain rfl : b = q := (joins'.peer sound.less).1.symm
      have flow := sound.flows q a joins.symm
      have split := List.take_append_drop (link.flow q).taken (link.flow q).carried
      have ordered := flow.ordered
      rw [← split, List.map_append, List.pairwise_append] at ordered
      refine ordered.2.2 _ (List.mem_map_of_mem listed) _ (List.mem_map_of_mem (f := Prod.fst)
        (a := ((link.flow q).next, message)) ?_)
      exact List.mem_of_mem_head? (by rw [List.head?_drop]; exact next)
    next => simp at new

theorem Handed.step {a : Action T} (wired : Wired total s) (handed : Handed s)
    (moves : Moves total s a t) : Handed t := by
  have extends_ := moves.extends
  cases moves with
  | @connect p q breaks less inside idle =>
    obtain ⟨endpoint, whole, inbox, -⟩ := s.connect_put p q breaks
    rw [whole] at extends_ ⊢
    exact handed.keep extends_ (receipts_same (p := p) rfl rfl (inbox ▸ .refl _))
  | @accept l link =>
    exact handed.keep extends_ (receipts_same (p := link.target) rfl rfl (.refl _))
  | @send p message =>
    refine handed.keep extends_ fun a => ?_
    unfold Network.send
    split <;> exact .refl _
  | pass found joins reads read receives room =>
    exact handed.pass wired found joins reads read extends_
  | @leave p l link message rest endpoint found joins reads read dropped left =>
    have inbox : endpoint.inbox = (s.endpoints p).inbox := by
      rcases left with rfl | ⟨-, rfl⟩ <;> rfl
    exact handed.keep extends_ (receipts_same (p := p) rfl rfl (inbox ▸ .refl _))
  | @fail p l link endpoint found joins open_yet left =>
    have inbox : endpoint.inbox = (s.endpoints p).inbox := by
      rcases left with rfl | ⟨-, rfl⟩ <;> rfl
    exact handed.keep extends_ (receipts_same (p := p) rfl rfl (inbox ▸ .refl _))
  | @receive p receipt inbox receives first =>
    refine handed.keep extends_ fun a => ?_
    have same : Network.receipts { s.put p { s.endpoints p with inbox := inbox } with
        received := s.received ++ [(p, receipt)] } a = s.receipts a := by
      unfold receipts
      by_cases here : a = p
      · subst here
        simp [put, first]
      · simp [put, here, Ne.symm here]
    exact same ▸ .refl _
  | @stop p member =>
    exact handed.keep extends_ (receipts_same (p := p) rfl rfl (List.nil_sublist _))
  | @restart p member =>
    exact handed.keep extends_ (receipts_same (p := p) rfl rfl (List.nil_sublist _))

theorem handed_reachable (bounded : total ≤ 2 ^ 32)
    (reachable : (system total).Reachable (fun _ a => Short a) s) : Handed s := by
  refine reachable.invariant Handed (fun s starts => ?_)
    fun _ _ _ before handed _ next =>
      Handed.step (wired_reachable bounded before) handed (step_moves next)
  subst starts
  exact ⟨by simp [receipts, boot, Endpoint.new], by simp [receipts, boot, Endpoint.new]⟩

theorem receipts_source (bounded : total ≤ 2 ^ 32)
    (reachable : (system total).Reachable (fun _ a => Short a) s) {r : Receipt T}
    (member : r ∈ s.receipts p) :
    ∃ link q, s.links[r.link]? = some link ∧ link.Joins q p ∧
      (r.place, r.message) ∈ (link.flow q).carried ∧ q ≠ p ∧
      s.sent[r.place]? = some (q, r.message) := by
  obtain ⟨link, q, found, joins, listed⟩ := (handed_reachable bounded reachable).read p r member
  have sound := (wired_reachable bounded reachable).links link (List.mem_of_getElem? found)
  have carried := List.mem_of_mem_take listed
  exact ⟨link, q, found, joins.symm, carried, (joins.symm.peer sound.less).2,
    ((sound.flows q p joins.symm).own _ carried).1⟩

theorem receipts_distinct (bounded : total ≤ 2 ^ 32)
    (reachable : (system total).Reachable (fun _ a => Short a) s) (p : Nat) :
    (s.receipts p).Pairwise fun a b => a.place ≠ b.place ∧
      (a.link = b.link → a.place < b.place) := by
  have wired := wired_reachable bounded reachable
  have ordered := (handed_reachable bounded reachable).ordered p
  refine ordered.imp_of_mem fun {a b} left right later => ⟨fun same => ?_, later⟩
  obtain ⟨link, q, found, joins, carried, -, sent⟩ := receipts_source bounded reachable left
  obtain ⟨link', q', found', joins', carried', -, sent'⟩ := receipts_source bounded reachable right
  rw [← same] at sent' carried'
  obtain ⟨rfl, -⟩ := Prod.mk.inj (Option.some.inj (sent.symm.trans sent'))
  have one := wired.once q p a.link b.link link link' a.place a.message b.message found found'
    joins joins' carried carried'
  exact absurd same (Nat.ne_of_lt (later one))

end Steps

instance : (a : Action T) → Decidable (Short a)
  | .send _ message =>
    match encoded : Bincode.encodeToVec message with
    | none => .isTrue fun serialized same => by simp [encoded] at same
    | some serialized =>
      decidable_of_iff (serialized.length < 2 ^ 32) (by simp [Short, encoded])
  | .connect .. | .accept _ | .read .. | .fail .. | .receive _ | .stop _ | .restart _ =>
    .isTrue trivial

end Network

theorem Network.received_once [Bincode T] {total : Nat} {s : Network T} (bounded : total ≤ 2 ^ 32)
    (reachable : (system total).Reachable (fun _ a => Short a) s) (p : Nat) :
    ((s.receipts p).Pairwise fun a b => a.place ≠ b.place ∧
        (a.link = b.link → a.place < b.place)) ∧
      ∀ r ∈ s.receipts p, ∃ q, q ≠ p ∧ s.sent[r.place]? = some (q, r.message) := by
  constructor
  · exact receipts_distinct bounded reachable p
  · intro r member
    obtain ⟨-, q, -, -, -, other, sent⟩ := receipts_source bounded reachable member
    exact ⟨q, other, sent⟩

namespace Network

def greetingRun : List (Action UInt64) :=
  [.connect 0 1 fun _ => some 12, .accept 0, .send 0 7, .send 1 300, .send 0 8, .read 1 0,
    .receive 1, .read 0 0, .fail 1 0]

def greeting : Network UInt64 :=
  Run.System.final (step 2) (fun _ a => Short a) boot greetingRun

theorem received_once_greeting : (greeting.receipts 1).map (·.message) = [7] ∧
    (greeting.receipts 1).Pairwise fun a b => a.place ≠ b.place ∧
      (a.link = b.link → a.place < b.place) := by
  have reachable : (system 2).Reachable (fun _ a => Short a) greeting :=
    Run.System.final_reachable (fun _ _ _ next => next) (.init rfl) (by decide +kernel)
  exact ⟨by decide +kernel, (received_once (by decide) reachable 1).1⟩

end Network

end Smr
