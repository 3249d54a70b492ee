import Smr.Tla.Safety

set_option autoImplicit false

namespace Smr

inductive TraceAction where
  | phase1a
  | phase1b
  | nackPrepare
  | phase2a
  | phase2b
  | nackAccept
  | learn
  | other (name : String)
  deriving DecidableEq, Repr

structure TraceRecord where
  action : TraceAction
  nodeId : Nat
  ballot : Nat
  deriving DecidableEq, Repr

structure TracePaxos (C : Type) where
  vars : Paxos C
  traceIdx : Nat

namespace TracePaxos

variable {C : Type} {nodes : Finset Nat} {quorum : Nat} {values : Set C} {records : List TraceRecord}

def Replays (quorum : Nat) (values : Set C) (evt : TraceRecord) (s t : Paxos C) : Prop :=
  match evt.action with
  | .phase1a => Paxos.Phase1a evt.nodeId evt.ballot s t
  | .phase1b => Paxos.Phase1b evt.nodeId s t ∧ t.maxBal evt.nodeId = evt.ballot
  | .phase2a => ∃ v ∈ values, Paxos.Phase2a quorum evt.nodeId evt.ballot v s t
  | .phase2b =>
    Paxos.Phase2b evt.nodeId s t ∧ t.maxBal evt.nodeId = evt.ballot ∧
      t.maxVBal evt.nodeId = evt.ballot
  | .nackPrepare | .nackAccept | .learn | .other _ => t = s

def TraceNext (quorum : Nat) (values : Set C) (records : List TraceRecord) (s t : TracePaxos C) :
    Prop :=
  s.traceIdx ≤ records.length ∧ ∃ evt, records[s.traceIdx - 1]? = some evt ∧
    t.traceIdx = s.traceIdx + 1 ∧ Replays quorum values evt s.vars t.vars

def TraceDone (records : List TraceRecord) (s t : TracePaxos C) : Prop :=
  records.length < s.traceIdx ∧ t = s

structure TraceInit (nodes : Finset Nat) (s : TracePaxos C) : Prop where
  vars : Paxos.Init nodes s.vars
  traceIdx : s.traceIdx = 1

def spec (nodes : Finset Nat) (quorum : Nat) (values : Set C) (records : List TraceRecord) :
    Run.System (TracePaxos C) Unit :=
  { init := TraceInit nodes
    step := fun s _ t => TraceNext quorum values records s t ∨ TraceDone records s t }

def TraceAgreement (quorum : Nat) (values : Set C) (s : TracePaxos C) : Prop :=
  ∀ v1 ∈ values, ∀ v2 ∈ values, Paxos.Chosen quorum v1 s.vars → Paxos.Chosen quorum v2 s.vars →
    v1 = v2

-- What TLC looks for in every state it reaches: no deadlock, and the invariant.
def Passes (nodes : Finset Nat) (quorum : Nat) (values : Set C) (records : List TraceRecord) :
    Prop :=
  ∀ s : TracePaxos C, (spec nodes quorum values records).Reachable (fun _ _ => True) s →
    (∃ t, (spec nodes quorum values records).step s () t) ∧ TraceAgreement quorum values s

def Completes (nodes : Finset Nat) (quorum : Nat) (values : Set C) (records : List TraceRecord) :
    Prop :=
  ∃ s : TracePaxos C, (spec nodes quorum values records).Reachable (fun _ _ => True) s ∧
    records.length < s.traceIdx

end TracePaxos

-- What decides whether a trace can be replayed: no value takes part.
structure Replay where
  maxBal : Nat → Int
  asked : List Nat
  promised : List (Nat × Nat)
  proposed : List Nat

namespace Replay

def start : Replay :=
  { maxBal := fun _ => -1
    asked := []
    promised := []
    proposed := [] }

def promisers (self : Replay) (ballot : Nat) : Finset Nat :=
  ((self.promised.filter (·.2 = ballot)).map Prod.fst).toFinset

def admits (quorum : Nat) (self : Replay) (evt : TraceRecord) : Bool :=
  match evt.action with
  | .phase1b => evt.ballot ∈ self.asked ∧ self.maxBal evt.nodeId < evt.ballot
  | .phase2a => evt.ballot ∉ self.proposed ∧ quorum ≤ (self.promisers evt.ballot).card
  | .phase2b => evt.ballot ∈ self.proposed ∧ self.maxBal evt.nodeId ≤ evt.ballot
  | _ => true

def take (self : Replay) (evt : TraceRecord) : Replay :=
  match evt.action with
  | .phase1a => { self with asked := evt.ballot :: self.asked }
  | .phase1b =>
    { self with
      maxBal := Function.update self.maxBal evt.nodeId evt.ballot
      promised := (evt.nodeId, evt.ballot) :: self.promised }
  | .phase2a => { self with proposed := evt.ballot :: self.proposed }
  | .phase2b => { self with maxBal := Function.update self.maxBal evt.nodeId evt.ballot }
  | _ => self

def takeAll (self : Replay) (records : List TraceRecord) : Replay :=
  records.foldl take self

def admitsAll (quorum : Nat) : Replay → List TraceRecord → Bool
  | _, [] => true
  | self, evt :: rest => self.admits quorum evt && admitsAll quorum (self.take evt) rest

@[simp] theorem takeAll_concat (self : Replay) (records : List TraceRecord) (evt : TraceRecord) :
    self.takeAll (records ++ [evt]) = (self.takeAll records).take evt := by
  simp [takeAll]

theorem admitsAll_append (quorum : Nat) (self : Replay) (records more : List TraceRecord) :
    self.admitsAll quorum (records ++ more) = true ↔
      self.admitsAll quorum records = true ∧
        (self.takeAll records).admitsAll quorum more = true := by
  induction records generalizing self with
  | nil => simp [admitsAll, takeAll]
  | cons head rest ih =>
    rw [List.cons_append, admitsAll, admitsAll, Bool.and_eq_true, ih, Bool.and_eq_true, and_assoc]
    rfl

theorem admitsAll_concat (quorum : Nat) (self : Replay) (records : List TraceRecord)
    (evt : TraceRecord) : self.admitsAll quorum (records ++ [evt]) = true ↔
      self.admitsAll quorum records = true ∧ (self.takeAll records).admits quorum evt = true := by
  simp [admitsAll_append, admitsAll]

theorem mem_promisers {self : Replay} {ballot a : Nat} :
    a ∈ self.promisers ballot ↔ (a, ballot) ∈ self.promised := by
  simp [promisers]

end Replay

def conforms (quorum : Nat) (records : List TraceRecord) : Bool :=
  Replay.start.admitsAll quorum records

namespace TracePaxos

variable {C : Type} {nodes : Finset Nat} {quorum : Nat} {values : Set C}
  {records : List TraceRecord}

-- A ballot of an accepted proposal together with its value, or neither.
def Valued (values : Set C) (vbal : Int) (value : Option C) : Prop :=
  vbal = -1 ∨ 0 ≤ vbal ∧ ∃ v ∈ values, value = some v

structure Matches (nodes : Finset Nat) (values : Set C) (r : Replay) (s : Paxos C) : Prop where
  maxBal : ∀ a ∈ nodes, s.maxBal a = r.maxBal a
  asked : ∀ b, b ∈ r.asked ↔ ∃ p, .phase1a p b ∈ s.msgs
  promised : ∀ a b, (a, b) ∈ r.promised ↔ ∃ vbal v, .phase1b ⟨a, b, vbal, v⟩ ∈ s.msgs
  proposed : ∀ b, b ∈ r.proposed ↔ ∃ p v, .phase2a p b v ∈ s.msgs
  finite : s.msgs.Finite
  valued : ∀ p b v, .phase2a p b v ∈ s.msgs → v ∈ values
  latest : ∀ a ∈ nodes, Valued values (s.maxVBal a) (s.maxVal a)
  reported : ∀ r, .phase1b r ∈ s.msgs → Valued values r.maxVBal r.maxVal

theorem matches_init {s : Paxos C} (starts : Paxos.Init nodes s) :
    Matches nodes values .start s where
  maxBal := starts.maxBal
  asked b := by simp [Replay.start, starts.msgs]
  promised a b := by simp [Replay.start, starts.msgs]
  proposed b := by simp [Replay.start, starts.msgs]
  finite := starts.msgs ▸ Set.finite_empty
  valued p b v proposed := by simp [starts.msgs] at proposed
  latest a member := .inl (starts.maxVBal a member)
  reported r told := by simp [starts.msgs] at told

theorem Matches.replays {r : Replay} {s t : Paxos C} {evt : TraceRecord}
    (agrees : Matches nodes values r s) (member : evt.nodeId ∈ nodes)
    (step : Replays quorum values evt s t) :
    r.admits quorum evt = true ∧ Matches nodes values (r.take evt) t := by
  obtain ⟨action, a, b⟩ := evt
  cases action with
  | phase1a =>
    obtain rfl : t = _ := step
    refine ⟨rfl, ?_⟩
    exact
      { maxBal := agrees.maxBal
        asked := fun b' => by
          simp only [Replay.take, List.mem_cons, agrees.asked, Set.mem_insert_iff,
            Paxos.Msg.phase1a.injEq, exists_or, exists_eq_left]
        promised := by simpa [Replay.take] using agrees.promised
        proposed := by simpa [Replay.take] using agrees.proposed
        finite := agrees.finite.insert _
        valued := fun p b' v proposed => agrees.valued p b' v (proposed.resolve_left nofun)
        latest := agrees.latest
        reported := fun report told => agrees.reported report (told.resolve_left nofun) }
  | phase1b =>
    obtain ⟨⟨p, ballot, asked, higher, rfl⟩, same⟩ := step
    obtain rfl : ballot = b := by simpa using same
    have bound : s.maxBal a = r.maxBal a := agrees.maxBal a member
    refine ⟨?_, ?_⟩
    · simpa [Replay.admits, ← bound] using ⟨(agrees.asked ballot).mpr ⟨p, asked⟩, higher⟩
    · exact
        { maxBal := fun c inside => by
            by_cases here : c = a
            · subst here
              simp [Replay.take]
            · simpa [Replay.take, Function.update_of_ne here] using agrees.maxBal c inside
          asked := fun b' => by simpa [Replay.take] using agrees.asked b'
          promised := fun c b' => by
            simp only [Replay.take, List.mem_cons, agrees.promised, Prod.mk.injEq,
              Set.mem_insert_iff, Paxos.Msg.phase1b.injEq, Paxos.Report.mk.injEq]
            constructor
            · rintro (⟨rfl, rfl⟩ | ⟨vbal, v, told⟩)
              · exact ⟨_, _, .inl ⟨rfl, rfl, rfl, rfl⟩⟩
              · exact ⟨vbal, v, .inr told⟩
            · rintro ⟨vbal, v, ⟨rfl, rfl, -⟩ | told⟩
              · exact .inl ⟨rfl, rfl⟩
              · exact .inr ⟨vbal, v, told⟩
          proposed := by simpa [Replay.take] using agrees.proposed
          finite := agrees.finite.insert _
          valued := fun p b' v proposed => agrees.valued p b' v (proposed.resolve_left nofun)
          latest := agrees.latest
          reported := fun report told => by
            rcases told with new | old
            · obtain rfl := Paxos.Msg.phase1b.inj new
              exact agrees.latest a member
            · exact agrees.reported report old }
  | phase2a =>
    obtain ⟨v, inside, unproposed, ⟨reports, told, many, -⟩, rfl⟩ := step
    refine ⟨?_, ?_⟩
    · have fresh : b ∉ r.proposed := fun listed => unproposed ((agrees.proposed b).mp listed)
      have senders : Set.image Paxos.Report.sender reports ⊆ (r.promisers b : Set Nat) := by
        rintro c ⟨report, listed, rfl⟩
        obtain ⟨sent, rfl⟩ := told report listed
        exact Finset.mem_coe.mpr (Replay.mem_promisers.mpr ((agrees.promised _ _).mpr
          ⟨report.maxVBal, report.maxVal, sent⟩))
      have few := Set.ncard_le_ncard senders (Finset.finite_toSet _)
      rw [Set.ncard_coe_finset] at few
      simpa [Replay.admits] using ⟨fresh, Nat.le_trans many few⟩
    · exact
        { maxBal := agrees.maxBal
          asked := by simpa [Replay.take] using agrees.asked
          promised := by simpa [Replay.take] using agrees.promised
          proposed := fun b' => by
            simp only [Replay.take, List.mem_cons, agrees.proposed, Set.mem_insert_iff,
              Paxos.Msg.phase2a.injEq]
            constructor
            · rintro (rfl | ⟨p, w, sent⟩)
              · exact ⟨a, v, .inl ⟨rfl, rfl, rfl⟩⟩
              · exact ⟨p, w, .inr sent⟩
            · rintro ⟨p, w, ⟨-, rfl, -⟩ | sent⟩
              · exact .inl rfl
              · exact .inr ⟨p, w, sent⟩
          finite := agrees.finite.insert _
          valued := fun p b' w proposed => by
            rcases proposed with new | old
            · exact (Paxos.Msg.phase2a.inj new).2.2 ▸ inside
            · exact agrees.valued p b' w old
          latest := agrees.latest
          reported := fun report told => agrees.reported report (told.resolve_left nofun) }
  | phase2b =>
    obtain ⟨⟨p, ballot, value, sent, current, rfl⟩, same, -⟩ := step
    obtain rfl : ballot = b := by simpa using same
    have bound : s.maxBal a = r.maxBal a := agrees.maxBal a member
    refine ⟨?_, ?_⟩
    · simpa [Replay.admits, ← bound] using ⟨(agrees.proposed ballot).mpr ⟨p, value, sent⟩, current⟩
    · exact
        { maxBal := fun c inside => by
            by_cases here : c = a
            · subst here
              simp [Replay.take]
            · simpa [Replay.take, Function.update_of_ne here] using agrees.maxBal c inside
          asked := by simpa [Replay.take] using agrees.asked
          promised := by simpa [Replay.take] using agrees.promised
          proposed := by simpa [Replay.take] using agrees.proposed
          finite := agrees.finite.insert _
          valued := fun p b' v proposed => agrees.valued p b' v (proposed.resolve_left nofun)
          latest := fun c inside => by
            by_cases here : c = a
            · subst here
              exact .inr ⟨by simp, value, agrees.valued p ballot value sent, by simp⟩
            · simpa [Function.update_of_ne here] using agrees.latest c inside
          reported := fun report told => agrees.reported report (told.resolve_left nofun) }
  | nackPrepare | nackAccept | learn | other =>
    obtain rfl : t = s := step
    exact ⟨rfl, agrees⟩

theorem Matches.proposes {r : Replay} {s : Paxos C} (agrees : Matches nodes values r s)
    (nonempty : values.Nonempty) {a b : Nat} (unproposed : b ∉ r.proposed)
    (many : quorum ≤ (r.promisers b).card) :
    ∃ v ∈ values, ∃ t, Paxos.Phase2a quorum a b v s t := by
  let reports : Set (Paxos.Report C) := {m | .phase1b m ∈ s.msgs ∧ m.ballot = b}
  have finite : reports.Finite :=
    (agrees.finite.preimage fun _ _ _ _ => Paxos.Msg.phase1b.inj).subset fun _ listed => listed.1
  have fresh : ¬∃ sender value, .phase2a sender b value ∈ s.msgs :=
    fun sent => unproposed ((agrees.proposed b).mpr sent)
  have enough : quorum ≤ (Set.image Paxos.Report.sender reports).ncard := by
    have heard : (r.promisers b : Set Nat) ⊆ Set.image Paxos.Report.sender reports := by
      intro c member
      obtain ⟨vbal, v, sent⟩ :=
        (agrees.promised c b).mp (Replay.mem_promisers.mp (Finset.mem_coe.mp member))
      exact ⟨_, ⟨sent, rfl⟩, rfl⟩
    have few := Set.ncard_le_ncard heard (finite.image _)
    rw [Set.ncard_coe_finset] at few
    exact Nat.le_trans many few
  by_cases silent : ∀ m ∈ reports, m.maxVBal = -1
  · obtain ⟨v, member⟩ := nonempty
    exact ⟨v, member, _, fresh, ⟨reports, fun _ listed => listed, enough, .inl silent⟩, rfl⟩
  · obtain ⟨m, listed, told⟩ := not_forall₂.mp silent
    obtain ⟨top, highest, above⟩ := reports.exists_max_image Paxos.Report.maxVBal finite ⟨m, listed⟩
    have cast : 0 ≤ m.maxVBal := ((agrees.reported m listed.1).resolve_left told).1
    have positive : 0 ≤ top.maxVBal := Int.le_trans cast (above m listed)
    rcases agrees.reported top highest.1 with none | ⟨-, v, member, value⟩
    · omega
    · exact ⟨v, member, _, fresh, ⟨reports, fun _ listed => listed, enough,
        .inr ⟨top, highest, positive, value, above⟩⟩, rfl⟩

theorem Matches.goes {r : Replay} {s : Paxos C} {evt : TraceRecord}
    (agrees : Matches nodes values r s) (nonempty : values.Nonempty) (member : evt.nodeId ∈ nodes)
    (admitted : r.admits quorum evt = true) : ∃ t, Replays quorum values evt s t := by
  obtain ⟨action, a, b⟩ := evt
  have bound : s.maxBal a = r.maxBal a := agrees.maxBal a member
  cases action with
  | phase1a => exact ⟨_, rfl⟩
  | phase1b =>
    simp only [Replay.admits, Bool.decide_and, Bool.and_eq_true, decide_eq_true_eq] at admitted
    obtain ⟨p, asked⟩ := (agrees.asked b).mp admitted.1
    exact ⟨_, ⟨p, b, asked, bound ▸ admitted.2, rfl⟩, by simp⟩
  | phase2a =>
    simp only [Replay.admits, Bool.decide_and, Bool.and_eq_true, decide_eq_true_eq] at admitted
    obtain ⟨v, inside, t, proposes⟩ := agrees.proposes nonempty admitted.1 admitted.2
    exact ⟨t, v, inside, proposes⟩
  | phase2b =>
    simp only [Replay.admits, Bool.decide_and, Bool.and_eq_true, decide_eq_true_eq] at admitted
    obtain ⟨p, value, sent⟩ := (agrees.proposed b).mp admitted.1
    exact ⟨_, ⟨p, b, value, sent, bound ▸ admitted.2, rfl⟩, by simp, by simp⟩
  | nackPrepare | nackAccept | learn | other => exact ⟨s, rfl⟩

theorem Replays.next {evt : TraceRecord} {s t : Paxos C} (member : evt.nodeId ∈ nodes)
    (step : Replays quorum values evt s t) : Paxos.Next nodes quorum s t ∨ t = s := by
  obtain ⟨action, a, b⟩ := evt
  cases action with
  | phase1a => exact .inl (.phase1a a b member step)
  | phase1b => exact .inl (.phase1b a member step.1)
  | phase2a =>
    obtain ⟨v, -, proposes⟩ := step
    exact .inl (.phase2a a b v member proposes)
  | phase2b => exact .inl (.phase2b a member step.1)
  | nackPrepare | nackAccept | learn | other => exact .inr step

structure Stands (nodes : Finset Nat) (quorum : Nat) (values : Set C) (records : List TraceRecord)
    (s : TracePaxos C) : Prop where
  started : 1 ≤ s.traceIdx
  bounded : s.traceIdx ≤ records.length + 1
  conforms : conforms quorum (records.take (s.traceIdx - 1)) = true
  agrees : Matches nodes values (Replay.start.takeAll (records.take (s.traceIdx - 1))) s.vars
  spec : (Paxos.spec nodes quorum).Reachable (fun _ _ => True) s.vars

theorem Stands.next {s t : TracePaxos C} (members : ∀ evt ∈ records, evt.nodeId ∈ nodes)
    (stands : Stands nodes quorum values records s) (step : TraceNext quorum values records s t) :
    Stands nodes quorum values records t := by
  obtain ⟨inside, evt, here, moved, replays⟩ := step
  have member := members evt (List.mem_of_getElem? here)
  obtain ⟨admitted, agrees⟩ := stands.agrees.replays member replays
  have longer : records.take (t.traceIdx - 1) = records.take (s.traceIdx - 1) ++ [evt] := by
    have back : t.traceIdx - 1 = s.traceIdx - 1 + 1 := by
      have := stands.started
      omega
    rw [back, List.take_add_one, here]
    rfl
  exact
    { started := by omega
      bounded := by omega
      conforms := longer ▸ (Replay.admitsAll_concat ..).mpr ⟨stands.conforms, admitted⟩
      agrees := by rwa [longer, Replay.takeAll_concat]
      spec := .step (a := ()) stands.spec trivial (replays.next member) }

theorem stands_reachable {s : TracePaxos C} (members : ∀ evt ∈ records, evt.nodeId ∈ nodes)
    (reachable : (spec nodes quorum values records).Reachable (fun _ _ => True) s) :
    Stands nodes quorum values records s := by
  refine reachable.invariant (Stands nodes quorum values records) (fun s starts => ?_) ?_
  · exact
      { started := starts.traceIdx.ge
        bounded := by rw [starts.traceIdx]; omega
        conforms := by rw [starts.traceIdx]; rfl
        agrees := by
          rw [starts.traceIdx]
          exact matches_init starts.vars
        spec := .init starts.vars }
  · rintro s _ t - stands - (next | ⟨-, rfl⟩)
    · exact stands.next members next
    · exact stands

theorem conforms_step {n : Nat} {evt : TraceRecord} (whole : conforms quorum records = true)
    (here : records[n]? = some evt) :
    (Replay.start.takeAll (records.take n)).admits quorum evt = true := by
  have first : conforms quorum (records.take (n + 1) ++ records.drop (n + 1)) = true := by
    rwa [List.take_append_drop]
  have upto := ((Replay.admitsAll_append ..).mp first).1
  rw [List.take_add_one, here] at upto
  exact ((Replay.admitsAll_concat ..).mp upto).2

theorem Stands.goes {s : TracePaxos C} (members : ∀ evt ∈ records, evt.nodeId ∈ nodes)
    (nonempty : values.Nonempty) (whole : Smr.conforms quorum records = true)
    (stands : Stands nodes quorum values records s) :
    ∃ t, (TracePaxos.spec nodes quorum values records).step s () t := by
  by_cases ended : records.length < s.traceIdx
  · exact ⟨s, .inr ⟨ended, rfl⟩⟩
  · have room : s.traceIdx - 1 < records.length := by
      have := stands.started
      omega
    have here := List.getElem?_eq_getElem room
    obtain ⟨t, replays⟩ := stands.agrees.goes nonempty
      (members _ (List.getElem_mem room)) (conforms_step whole here)
    exact ⟨⟨t, s.traceIdx + 1⟩, .inl ⟨Nat.le_of_not_lt ended, _, here, rfl, replays⟩⟩

theorem Passes.completes (passes : Passes nodes quorum values records)
    (starts : ∃ s : Paxos C, Paxos.Init nodes s) : Completes nodes quorum values records := by
  have upto (n : Nat) (inside : n ≤ records.length) : ∃ s : TracePaxos C,
      (spec nodes quorum values records).Reachable (fun _ _ => True) s ∧ s.traceIdx = n + 1 := by
    induction n with
    | zero =>
      obtain ⟨s, starts⟩ := starts
      exact ⟨⟨s, 1⟩, .init ⟨starts, rfl⟩, rfl⟩
    | succ n ih =>
      obtain ⟨s, reachable, here⟩ := ih (Nat.le_of_succ_le inside)
      obtain ⟨⟨t, step⟩, -⟩ := passes s reachable
      refine ⟨t, .step reachable trivial step, ?_⟩
      rcases step with ⟨-, evt, -, moved, -⟩ | ⟨ended, -⟩
      · rw [moved, here]
      · omega
  obtain ⟨s, reachable, last⟩ := upto records.length (Nat.le_refl _)
  exact ⟨s, reachable, by omega⟩

theorem passes_iff (nonempty : values.Nonempty) (majority : nodes.card < 2 * quorum)
    (members : ∀ evt ∈ records, evt.nodeId ∈ nodes) :
    (Passes nodes quorum values records ↔ Smr.conforms quorum records = true) ∧
      (Completes nodes quorum values records ↔ Smr.conforms quorum records = true) := by
  have through : Completes nodes quorum values records → Smr.conforms quorum records = true := by
    rintro ⟨s, reachable, ended⟩
    have stands := stands_reachable members reachable
    have whole := stands.conforms
    rwa [List.take_of_length_le (by omega)] at whole
  have passes (whole : Smr.conforms quorum records = true) :
      Passes nodes quorum values records := by
    intro s reachable
    have stands := stands_reachable members reachable
    refine ⟨stands.goes members nonempty whole, fun v1 _ v2 _ left right => ?_⟩
    exact (Paxos.lawful_reachable majority stands.spec).agreement majority v1 v2 left right
  have completes (passed : Passes nodes quorum values records) :=
    passed.completes ⟨_, Paxos.empty_init nodes⟩
  exact ⟨⟨fun passed => through (completes passed), passes⟩,
    ⟨through, fun whole => completes (passes whole)⟩⟩

end TracePaxos

end Smr
