import Smr.Synod.Votes

set_option autoImplicit false

namespace Smr

variable {C : Type}

namespace Synod

def ownPlaces (s : Synod C) (p n : Nat) : Set (Nat × Nat) :=
  {x | x.2 = p ∧ s.sent.length ≤ x.1 ∧ x.1 < s.sent.length + n}

def chained (s : Synod C) (id p k : Nat) (after : PaxosInstance C)
    (responses : List (MessageKind C)) (events : List (TraceEvent C)) : Synod C :=
  { inst := Function.update s.inst p after
    sent := s.sent ++ responses.map fun r => { senderId := p, paxosInstance := id, msg := r }
    handled := insert (k, p) s.handled ∪ s.ownPlaces p responses.length
    trace := s.trace ++ events
    placed := s.placed }

theorem ownPlaces_zero (s : Synod C) (p : Nat) : s.ownPlaces p 0 = ∅ := by
  refine Set.eq_empty_iff_forall_notMem.mpr fun x own => ?_
  have most := own.2.2
  exact absurd (Nat.lt_of_le_of_lt own.2.1 most) (Nat.lt_irrefl _)

theorem ownPlaces_succ {s t : Synod C} (p n : Nat) (handled : Set (Nat × Nat))
    (longer : t.sent.length = s.sent.length + 1) :
    insert (s.sent.length, p) handled ∪ t.ownPlaces p n = handled ∪ s.ownPlaces p (n + 1) := by
  ext ⟨place, a⟩
  simp only [ownPlaces, longer, Set.mem_union, Set.mem_insert_iff, Set.mem_ofPred_eq,
    Prod.mk.injEq]
  constructor
  · rintro ((⟨rfl, rfl⟩ | older) | ⟨rfl, least, most⟩)
    · exact .inr ⟨rfl, by omega, by omega⟩
    · exact .inl older
    · exact .inr ⟨rfl, by omega, by omega⟩
  · rintro (older | ⟨rfl, least, most⟩)
    · exact .inl (.inr older)
    · by_cases start : place = s.sent.length
      · exact .inl (.inl ⟨start, rfl⟩)
      · exact .inr ⟨rfl, by omega, by omega⟩

theorem raceFree_handle {s : Synod C} {total id p k : Nat} {response : Option (MessageKind C)}
    (no_accept : ∀ a, response ≠ some (.acceptMsg a)) :
    s.RaceFree total id (.handle p k response) := by
  rcases response with - | response
  · trivial
  · cases response with
    | acceptMsg a => exact absurd rfl (no_accept a)
    | _ => trivial

variable [DecidableEq C] [Serde Nat] [Serde (AcceptedValue C)]

-- A condition on the steps of an instance besides the rules. Whatever message a node has in
-- hand fits it, also each of its own answers.
structure Clause (C : Type) [DecidableEq C] [Serde Nat] [Serde (AcceptedValue C)]
    (total : Nat) where
  allows : Nat → Synod C → Event C → Prop
  fits : Nat → Synod C → Nat → Nat → MessageKind C → Prop
  idle : ∀ id s event, (∀ p k response, event ≠ .handle p k response) → allows id s event
  goes : ∀ {id : Nat} {s : Synod C} {p k q : Nat} {message : MessageKind C}
    (response : Option (MessageKind C)), fits id s p k message → s.Sent id k q message →
      allows id s (.handle p k response)
  stays : ∀ {id : Nat} {s : Synod C} {p k q : Nat} {message response : MessageKind C}
    {after : PaxosInstance C} {storage kept : Option (PaxosStorage C)}
    {events : List (TraceEvent C)}, fits id s p k message → s.Sent id k q message →
      (s.inst p).Configured p (quorumOf total) total id →
      (s.inst p).Step storage message (some response) after kept events →
      fits id (s.act id p after (some response) events (insert (k, p) s.handled) s.placed) p
        s.sent.length response

def Clause.free (total : Nat) : Clause C total where
  allows _ _ _ := True
  fits _ _ _ _ _ := True
  idle _ _ _ _ := trivial
  goes _ _ _ := trivial
  stays _ _ _ _ := trivial

def Held {total : Nat} (rules : Rules) (clause : Clause C total) (id : Nat) (s : Synod C)
    (event : Event C) : Prop :=
  Obeys rules total id s event ∧ clause.allows id s event

theorem elsewhere_steps {rules : Rules} {total id : Nat} {clause : Clause C total}
    {s t : Synod C} (msgs : List (Message C))
    (events : List (TraceEvent C)) (placed : List (Placement C)) (inst : t.inst = s.inst)
    (sent : t.sent = s.sent ++ msgs) (trace : t.trace = s.trace ++ events)
    (opened : t.placed = s.placed ++ placed) (others : ∀ m ∈ msgs, ¬Relevant id m)
    (grows : s.handled ⊆ t.handled)
    (only : ∀ k p, (k, p) ∈ t.handled → (k, p) ∈ s.handled ∨
      ∃ m, (s.sent ++ msgs)[k]? = some m ∧ ¬Relevant id m)
    (outside : ∀ event ∈ events, event.instanceId ≠ id)
    (away : ∀ placement ∈ placed, placement.instanceId ≠ id) :
    (system total id).Steps (Held rules clause id) s t := by
  refine Run.System.Steps.one (a := .elsewhere)
    ⟨⟨fun _ => trivial, fun _ => trivial, fun _ => trivial⟩, clause.idle _ _ _ (by simp)⟩ ?_
  obtain ⟨inst', sent', handled', trace', placed'⟩ := t
  subst inst sent trace opened
  exact Step.elsewhere others grows only outside away

-- One's own answers are handled for the first time, and none of them makes one's own
-- proposer send an Accept.
theorem chain_steps {rules : Rules} {total id p k q : Nat} {clause : Clause C total} {s : Synod C}
    {self after : PaxosInstance C} {storage kept : Option (PaxosStorage C)}
    {message : MessageKind C} {responses : List (MessageKind C)} {events : List (TraceEvent C)}
    (member : p < total) (several : 2 ≤ quorumOf total)
    (cascade : self.Cascade storage message responses after kept events)
    (here : s.inst p = self) (configured : self.Configured p (quorumOf total) total id)
    (ready : self.Ready message) (arrived : s.Sent id k q message)
    (inside : ∀ place a, (place, a) ∈ s.handled → place < s.sent.length)
    (once : rules.once → (k, p) ∉ s.handled)
    (raceFree : rules.raceFree → s.RaceFree total id (.handle p k responses.head?))
    (fits : clause.fits id s p k message) :
    (system total id).Steps (Held rules clause id) s
      (s.chained id p k after responses events) := by
  induction cascade generalizing s k q with
  | last step =>
    subst here
    refine Run.System.Steps.one (a := .handle p k none)
      ⟨⟨once, raceFree, fun _ => trivial⟩, clause.goes none fits arrived⟩ ?_
    have taken : (system total id).step s _ _ := Step.handle member arrived step
    simpa [chained, act, ownPlaces_zero] using taken
  | @more self middle after storage saved kept message response responses events later step rest
      ih =>
    subst here
    have first : (system total id).Steps (Held rules clause id) s _ :=
      Run.System.Steps.one (a := .handle p k (some response))
        ⟨⟨once, raceFree, fun _ => trivial⟩, clause.goes _ fits arrived⟩
        (Step.handle member arrived step)
    have place_inside := arrived.inside
    have answered := step.left ready
    have handled_inside (place a : Nat) (handled : (place, a) ∈ insert (k, p) s.handled) :
        place < s.sent.length := by
      rcases handled with same | handled
      · cases same
        exact place_inside
      · exact inside place a handled
    have following := ih
      (s := s.act id p middle (some response) events (insert (k, p) s.handled) s.placed)
      (k := s.sent.length) (q := p) act_inst_self (step.configured configured)
      (.inr answered) (sent_act.mpr (.inr ⟨rfl, rfl, rfl⟩))
      (fun place a handled => by
        simpa [act] using Nat.lt_succ_of_lt (handled_inside place a handled))
      (fun _ handled => absurd (handled_inside _ _ handled) (Nat.lt_irrefl _))
      (fun _ => raceFree_handle fun a answer => by
        obtain ⟨final, stored, earlier, next⟩ := rest.first
        rw [answer] at next
        exact answered.no_accept several (step.configured configured) next a rfl)
      (clause.stays fits arrived configured step)
    have own := ownPlaces_succ (s := s)
      (t := s.act id p middle (some response) events (insert (k, p) s.handled) s.placed) p
      responses.length (insert (k, p) s.handled) (by simp [act])
    have whole : s.chained id p k after (response :: responses) (events ++ later) =
        (s.act id p middle (some response) events (insert (k, p) s.handled) s.placed).chained id p
          s.sent.length after responses later := by
      simp only [chained, List.length_cons, ← own]
      simp [act]
    rw [whole]
    exact first.trans following

end Synod

end Smr
