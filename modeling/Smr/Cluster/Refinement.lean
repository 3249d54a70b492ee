import Smr.Cluster.Moves
import Smr.Cluster.Rules
import Smr.Node.Sound
import Smr.Synod.Chains

set_option autoImplicit false

namespace Smr

variable {C : Type} [DecidableEq C] [Serde Nat] [Serde (AcceptedValue C)]

namespace Cluster

variable {rules : Synod.Rules} {total id p : Nat} {clause : Synod.Clause C total} {s : Cluster C}

-- Between calls each node is sound, and each instance is where the single instance
-- can get to under the same rules.
structure Refines (rules : Synod.Rules) (total : Nat) (s : Cluster C) : Prop where
  sound : ∀ p < total, MultiPaxosNode.Sound total p (s.nodes p)
  views : ∀ id, (Synod.system total id).Reachable (Synod.Obeys rules total id) (s.view id)

omit [DecidableEq C] [Serde Nat] [Serde (AcceptedValue C)] in
theorem called_inst {node : MultiPaxosNode C} {msgs : List (Message C)}
    {trace : List (TraceEvent C)} {heard : List (Nat × Nat)} {calls : List (Nat × C)}
    {placed : List (Placement C)} :
    ((s.called p node msgs trace heard calls placed).view id).inst =
      Function.update (s.view id).inst p (node.instanceAt id) := by
  funext q
  by_cases same : q = p
  · subst same
    simp [view, called]
  · simp [view, called, same]

omit [DecidableEq C] [Serde Nat] [Serde (AcceptedValue C)] in
theorem called_handled {node : MultiPaxosNode C} {msgs : List (Message C)}
    {trace : List (TraceEvent C)} {heard : List (Nat × Nat)} {calls : List (Nat × C)}
    {placed : List (Placement C)} (k q : Nat) :
    (k, q) ∈ ((s.called p node msgs trace heard calls placed).view id).handled ↔
      (k, q) ∈ (s.view id).handled ∨ (k, q) ∈ heard ∨
        s.sent.length ≤ k ∧ ∃ m, msgs[k - s.sent.length]? = some m ∧ m.senderId = q := by
  simp only [view, called, Set.mem_ofPred_eq, List.mem_append, List.getElem?_append]
  by_cases old : k < s.sent.length
  · simp only [if_pos old, Nat.not_le.mpr old, false_and, or_false]
    rw [or_assoc, or_comm]
  · have none_before : s.sent[k]? = none := List.getElem?_eq_none (by omega)
    simp only [if_neg old, Nat.le_of_not_lt old, true_and, none_before, reduceCtorEq, false_and,
      exists_false, or_false]
    rw [or_assoc, or_left_comm]

theorem view_elsewhere {node : MultiPaxosNode C} {msgs : List (Message C)}
    {trace : List (TraceEvent C)} {heard : List (Nat × Nat)} {calls : List (Nat × C)}
    {placed : List (Placement C)} (still : node.instanceAt id = (s.nodes p).instanceAt id)
    (others : ∀ m ∈ msgs, ¬Synod.Relevant id m)
    (heard_other : ∀ x ∈ heard, ∃ m, s.sent[x.1]? = some m ∧ ¬Synod.Relevant id m)
    (outside : ∀ event ∈ trace, event.instanceId ≠ id)
    (away : ∀ placement ∈ placed, placement.instanceId ≠ id) :
    (Synod.system total id).Steps (Synod.Held rules clause id) (s.view id)
      ((s.called p node msgs trace heard calls placed).view id) := by
  refine Synod.elsewhere_steps msgs trace placed ?_ rfl rfl rfl others ?_ ?_ outside away
  · rw [called_inst, still]
    exact Function.update_eq_self p _
  · rintro ⟨k, q⟩ handled
    exact (called_handled k q).mpr (.inl handled)
  · intro k q handled
    rcases (called_handled k q).mp handled with older | told | ⟨beyond, m, found, -⟩
    · exact .inl older
    · obtain ⟨m, found, other⟩ := heard_other _ told
      refine .inr ⟨m, ?_, other⟩
      exact (List.getElem?_append_left (List.getElem?_eq_some_iff.mp found).1).trans found
    · refine .inr ⟨m, ?_, others m (List.mem_of_getElem? found)⟩
      exact (List.getElem?_append_right beyond).trans found

omit [DecidableEq C] [Serde Nat] [Serde (AcceptedValue C)] in
theorem called_chained {node : MultiPaxosNode C} {k : Nat} {responses : List (MessageKind C)}
    {events : List (TraceEvent C)} (signed : (s.nodes p).id = p) :
    (s.called p node (responses.map ((s.nodes p).broadcast id)) events [(k, p)] [] []).view id =
      (s.view id).chained id p k (node.instanceAt id) responses events := by
  have handled : ((s.called p node (responses.map ((s.nodes p).broadcast id)) events [(k, p)] []
      []).view id).handled =
        insert (k, p) (s.view id).handled ∪ (s.view id).ownPlaces p responses.length := by
    ext ⟨place, q⟩
    rw [called_handled]
    simp only [Synod.ownPlaces, List.mem_singleton, List.getElem?_map, Option.map_eq_some_iff,
      Set.mem_union, Set.mem_insert_iff, Set.mem_ofPred_eq]
    constructor
    · rintro (older | same | ⟨beyond, m, ⟨reply, found, rfl⟩, rfl⟩)
      · exact .inl (.inr older)
      · exact .inl (.inl same)
      · have short := (List.getElem?_eq_some_iff.mp found).1
        exact .inr ⟨signed, beyond, show place < s.sent.length + _ by omega⟩
    · rintro ((same | older) | ⟨rfl, least, most⟩)
      · exact .inr (.inl same)
      · exact .inl older
      · have short : place - s.sent.length < responses.length := by
          have : place < s.sent.length + responses.length := most
          omega
        exact .inr (.inr ⟨least, _, ⟨_, List.getElem?_eq_getElem short, rfl⟩, signed⟩)
  have sent : (s.nodes p).broadcast id = fun r => ⟨p, id, r⟩ := by
    unfold MultiPaxosNode.broadcast
    rw [signed]
  exact Synod.mk.injEq .. ▸ ⟨called_inst, congrArg (fun b => s.sent ++ responses.map b) sent,
    handled, rfl, List.append_nil s.placed⟩

theorem Follows.handle {k : Nat} {m : Message C} {responses : List (MessageKind C)}
    {after : PaxosInstance C} {storage kept : Option (PaxosStorage C)}
    {events : List (TraceEvent C)} (follows : s.Follows rules total (.deliver p k))
    (arrived : s.sent[k]? = some m)
    (cascade : ((s.nodes p).instanceAt m.paxosInstance).Cascade storage m.msg responses after kept
      events) (holds : rules.raceFree) :
    (s.view m.paxosInstance).RaceFree total m.paxosInstance (.handle p k responses.head?) := by
  by_cases accepts : ∃ out, responses.head? = some (.acceptMsg out)
  · obtain ⟨out, answer⟩ := accepts
    obtain ⟨middle, saved, earlier, step⟩ := cascade.first
    rw [answer] at step ⊢
    obtain ⟨wrapper, promise, state, same, won, reached, ballot, command⟩ := step.proposes
    refine (follows.2.1 holds).handle ?_
    simp [issue, arrived, same, MultiPaxosNode.wonIssue, state, won, reached, ballot, command]
  · exact Synod.raceFree_handle fun out answer => accepts ⟨out, answer⟩

theorem Refines.inside (refines : Refines rules total s) (id k q : Nat)
    (handled : (k, q) ∈ (s.view id).handled) : k < s.sent.length :=
  (Synod.acceptors_reachable (refines.views id)).inside k q handled

theorem Refines.delivered (refines : Refines rules total s) {k : Nat} {m : Message C}
    {responses : List (MessageKind C)} {node : MultiPaxosNode C} {kept : Option (PaxosStorage C)}
    {events : List (TraceEvent C)} (follows : s.Follows rules total (.deliver p k))
    (member : p < total) (other : m.senderId ≠ p) (arrived : s.sent[k]? = some m)
    (several : 2 ≤ quorumOf total)
    (cascade : ((s.nodes p).instanceAt m.paxosInstance).Cascade (s.nodes p).storage m.msg
      responses (node.instanceAt m.paxosInstance) kept events)
    (fits : clause.fits m.paxosInstance (s.view m.paxosInstance) p k m.msg) :
    (Synod.system total m.paxosInstance).Steps (Synod.Held rules clause m.paxosInstance)
      (s.view m.paxosInstance)
      ((s.called p node (responses.map ((s.nodes p).broadcast m.paxosInstance)) events [(k, p)]
        [] []).view m.paxosInstance) := by
  have sound := refines.sound p member
  rw [called_chained sound.id]
  refine Synod.chain_steps (q := m.senderId) member several cascade rfl
    (sound.instanceAt_configured _) (.inl (sound.instanceAt_settled _)) arrived (refines.inside _)
    (fun once handled => ?_) (follows.handle arrived cascade) fits
  rcases handled with again | ⟨sent, found, mine⟩
  · exact follows.1 once again
  · rw [arrived] at found
    exact other (Option.some.inj found ▸ mine)

theorem Refines.opens (refines : Refines rules total s) (member : p < total) {instanceId : Nat}
    {cmd : C} {first : MessageKind C} {inst : PaxosInstance C} (request : Option (Nat × Nat))
    (next : (s.nodes p).nextInstanceId = instanceId)
    (opens : (s.nodes p).Opens instanceId cmd first inst)
    (raceFree : rules.raceFree → ∀ ballot, (s.nodes p).leaderBallot = some ballot →
      (s.view instanceId).RaceFree total instanceId (.accept p ballot cmd))
    (ordinary : rules.ordinary → (s.nodes p).leaderBallot = none) :
    (Synod.system total instanceId).Steps (Synod.Held rules clause instanceId)
      (s.view instanceId)
      ((s.view instanceId).act instanceId p inst (some first)
        ((s.nodes p).firstTrace instanceId first) (s.view instanceId).handled
        (s.placed ++ [⟨p, instanceId, cmd, request⟩])) := by
  have sound := refines.sound p member
  have isFresh : (s.view instanceId).inst p = Synod.fresh total p instanceId :=
    sound.instanceAt_beyond (Nat.le_of_eq next)
  have launched (state : InnerState C) : (s.nodes p).launched instanceId state =
      Synod.launched total p instanceId state := by
    unfold MultiPaxosNode.launched Synod.launched
    rw [sound.fresh]
  have wrapper {S : Type} (ballot : Nat) (state : S) : (s.nodes p).wrapper ballot state =
      Synod.wrapper total p ballot state := by
    unfold MultiPaxosNode.wrapper Synod.wrapper
    rw [sound.config, sound.id]
    rfl
  have unopened : (s.view instanceId).Unopened instanceId p := by
    intro k message sent
    by_contra asks
    obtain ⟨ballot, asks⟩ := Option.ne_none_iff_exists'.mp asks
    have bound := (Synod.acceptors_reachable (refines.views instanceId)).obeyed k p p message
      ballot member (.inr ⟨_, sent, rfl⟩) sent asks
    have positive := ((Synod.proposals_reachable (refines.views instanceId)).owned k p message
      ballot sent asks).2
    rw [isFresh] at bound
    exact absurd bound (Nat.not_le.mpr positive)
  cases opens with
  | prepare unled positive fits =>
    have ballot : (s.nodes p).firstBallot = (p / total + 1) * total + p := by
      unfold MultiPaxosNode.firstBallot
      rw [sound.config, sound.id]
    refine Run.System.Steps.one (a := .prepare p cmd)
      ⟨⟨fun _ => trivial, fun _ => trivial, fun _ => trivial⟩, clause.idle _ _ _ (by simp)⟩ ?_
    rw [launched, wrapper, MultiPaxosNode.firstTrace, sound.id]
    refine Synod.Step.prepare member isFresh unopened ?_ ?_
    · rw [ballot, Nat.mul_add_mod_self_right, Nat.mod_eq_of_lt member]
    · rw [ballot, Nat.div_eq_of_lt member]
      omega
  | accept ballot leads =>
    obtain ⟨residue, positive⟩ := sound.leader ballot leads
    refine Run.System.Steps.one (a := .accept p ballot cmd)
      ⟨⟨fun _ => trivial, fun holds => raceFree holds ballot leads, fun holds => ?_⟩,
        clause.idle _ _ _ (by simp)⟩ ?_
    · rw [ordinary holds] at leads
      simp at leads
    · rw [launched, wrapper, MultiPaxosNode.firstTrace, sound.id]
      exact Synod.Step.accept member isFresh unopened residue positive

omit [DecidableEq C] [Serde Nat] [Serde (AcceptedValue C)] in
theorem answer_or_extra {instanceId place : Nat} {responses : List (MessageKind C)}
    {extra : List (Message C)} {m : Message C}
    (found : (responses.map (fun r => ⟨p, instanceId, r⟩) ++ extra)[place]? = some m) :
    (place < responses.length ∧ m.senderId = p) ∨ m ∈ extra := by
  by_cases mine : place < responses.length
  · rw [List.getElem?_append_left (by simpa using mine), List.getElem?_map,
      List.getElem?_eq_getElem mine] at found
    exact .inl ⟨mine, by rw [← Option.some.inj found]⟩
  · rw [List.getElem?_append_right (by rw [List.length_map]; exact Nat.le_of_not_lt mine)] at found
    exact .inr (List.mem_of_getElem? found)

theorem Refines.opened (refines : Refines rules total s) (member : p < total) {instanceId : Nat}
    {cmd : C} {first : MessageKind C} {inst : PaxosInstance C} {request : Option (Nat × Nat)}
    {responses : List (MessageKind C)} {node : MultiPaxosNode C}
    {kept : Option (PaxosStorage C)} {events : List (TraceEvent C)} {extra : List (Message C)}
    {heard : List (Nat × Nat)} {calls : List (Nat × C)}
    (next : (s.nodes p).nextInstanceId = instanceId) (several : 2 ≤ quorumOf total)
    (opens : (s.nodes p).Opens instanceId cmd first inst)
    (cascade : inst.Cascade (s.nodes p).storage first responses (node.instanceAt instanceId) kept
      events)
    (others : ∀ m ∈ extra, ¬Synod.Relevant instanceId m)
    (heard_other : ∀ x ∈ heard, ∃ m, s.sent[x.1]? = some m ∧ ¬Synod.Relevant instanceId m)
    (raceFree : rules.raceFree → ∀ ballot, (s.nodes p).leaderBallot = some ballot →
      (s.view instanceId).RaceFree total instanceId (.accept p ballot cmd))
    (ordinary : rules.ordinary → (s.nodes p).leaderBallot = none)
    (fits : clause.fits instanceId
      ((s.view instanceId).act instanceId p inst (some first)
        ((s.nodes p).firstTrace instanceId first) (s.view instanceId).handled
        (s.placed ++ [⟨p, instanceId, cmd, request⟩])) p s.sent.length first) :
    (Synod.system total instanceId).Steps (Synod.Held rules clause instanceId)
      (s.view instanceId)
      ((s.called p node ((first :: responses).map ((s.nodes p).broadcast instanceId) ++ extra)
        ((s.nodes p).firstTrace instanceId first ++ events) heard calls
        [⟨p, instanceId, cmd, request⟩]).view instanceId) := by
  have sound := refines.sound p member
  have configured := (opens.launched sound.toKept).1
  have broadcast : (s.nodes p).broadcast instanceId = fun r => ⟨p, instanceId, r⟩ := by
    unfold MultiPaxosNode.broadcast
    rw [sound.id]
  rw [broadcast]
  refine (refines.opens member request next opens raceFree ordinary).trans ?_
  set opened := (s.view instanceId).act instanceId p inst (some first)
    ((s.nodes p).firstTrace instanceId first) (s.view instanceId).handled
    (s.placed ++ [⟨p, instanceId, cmd, request⟩]) with whole
  have longer : opened.sent.length = s.sent.length + 1 := by simp [whole, Synod.act, view]
  have chain : (Synod.system total instanceId).Steps (Synod.Held rules clause instanceId) opened
      (opened.chained instanceId p s.sent.length (node.instanceAt instanceId) responses events) :=
    Synod.chain_steps (q := p) member several cascade Synod.act_inst_self configured
      (.inr opens.answered) (Synod.sent_act.mpr (.inr ⟨rfl, rfl, rfl⟩))
      (fun k q handled => longer ▸ Nat.lt_succ_of_lt (refines.inside instanceId k q handled))
      (fun _ handled => absurd (refines.inside instanceId _ _ handled) (Nat.lt_irrefl _))
      (fun _ => Synod.raceFree_handle fun a answer => by
        obtain ⟨middle, saved, earlier, step⟩ := cascade.first
        rw [answer] at step
        exact opens.answered.no_accept several configured step a rfl) fits
  refine chain.trans ?_
  have own : (opened.chained instanceId p s.sent.length (node.instanceAt instanceId) responses
      events).handled = (s.view instanceId).handled ∪
        (s.view instanceId).ownPlaces p (responses.length + 1) :=
    Synod.ownPlaces_succ (s := s.view instanceId) (t := opened) p responses.length _ longer
  have sent : s.sent ++ ((first :: responses).map (fun r => ⟨p, instanceId, r⟩) ++ extra) =
      (s.sent ++ [⟨p, instanceId, first⟩] ++
        responses.map fun r => ⟨p, instanceId, r⟩) ++ extra := by simp
  refine Synod.elsewhere_steps extra [] [] ?_ sent ?_
    (List.append_nil _).symm others ?_ ?_ (by simp) (by simp)
  · rw [called_inst]
    simp only [Synod.chained, Synod.act, whole, Function.update_idem]
  · simp [Synod.chained, Synod.act, view, called, whole]
  · rintro ⟨k, q⟩ handled
    rw [called_handled]
    rw [own] at handled
    rcases handled with older | ⟨same, least, most⟩
    · exact .inl older
    · have short : k - s.sent.length < (first :: responses).length := by
        have bound : k < s.sent.length + (responses.length + 1) := most
        simp only [List.length_cons]
        have : s.sent.length ≤ k := least
        omega
      refine .inr (.inr ⟨least, ⟨p, instanceId, (first :: responses)[k - s.sent.length]⟩, ?_,
        same.symm⟩)
      rw [List.getElem?_append_left (by simpa using short), List.getElem?_map,
        List.getElem?_eq_getElem short]
      rfl
  · intro k q handled
    rw [own]
    rcases (called_handled k q).mp handled with older | told | ⟨beyond, m, found, same⟩
    · exact .inl (.inl older)
    · obtain ⟨m, found, other⟩ := heard_other _ told
      refine .inr ⟨m, ?_, other⟩
      refine (congrArg (·[k]?) sent).symm.trans ?_
      exact (List.getElem?_append_left (List.getElem?_eq_some_iff.mp found).1).trans found
    · rcases answer_or_extra found with ⟨mine, sender⟩ | other
      · have bound : k < s.sent.length + (responses.length + 1) := by
          simp only [List.length_cons] at mine
          omega
        exact .inl (.inr ⟨same.symm.trans sender, beyond, bound⟩)
      · refine .inr ⟨m, ?_, others m other⟩
        refine (congrArg (·[k]?) sent).symm.trans ?_
        exact (List.getElem?_append_right beyond).trans found

omit [DecidableEq C] [Serde Nat] [Serde (AcceptedValue C)] in
theorem not_relevant {node : MultiPaxosNode C} {instanceId : Nat} (differs : instanceId ≠ id)
    (responses : List (MessageKind C)) :
    ∀ m ∈ responses.map (node.broadcast instanceId), ¬Synod.Relevant id m := by
  rintro m member ⟨same, -⟩
  obtain ⟨response, -, rfl⟩ := List.mem_map.mp member
  exact differs same

omit [DecidableEq C] [Serde Nat] [Serde (AcceptedValue C)] in
theorem firstTrace_outside {node : MultiPaxosNode C} {instanceId : Nat} (first : MessageKind C) :
    ∀ event ∈ node.firstTrace instanceId first, event.instanceId = instanceId := by
  unfold MultiPaxosNode.firstTrace
  split <;> simp [TraceEvent.instanceId]

theorem Refines.starts (refines : Refines rules total s) (member : p < total) {cmd : C}
    {request : Option (Nat × Nat)} {msgs extra : List (Message C)} {after node : MultiPaxosNode C}
    {events : List (TraceEvent C)} {heard : List (Nat × Nat)} {calls : List (Nat × C)}
    (starts : (s.nodes p).Starts cmd msgs after events) (same : node.instanceAt = after.instanceAt)
    (others : ∀ m ∈ extra, ¬m.msg.IsSynod)
    (heard_other : ∀ x ∈ heard, ∃ m, s.sent[x.1]? = some m ∧ ¬m.msg.IsSynod)
    (raceFree : rules.raceFree → ∀ ballot, (s.nodes p).leaderBallot = some ballot →
      (s.view (s.nodes p).nextInstanceId).RaceFree total (s.nodes p).nextInstanceId
        (.accept p ballot cmd))
    (ordinary : rules.ordinary → (s.nodes p).leaderBallot = none)
    (fits : ∀ first inst, (s.nodes p).Opens (s.nodes p).nextInstanceId cmd first inst →
      clause.fits (s.nodes p).nextInstanceId
        ((s.view (s.nodes p).nextInstanceId).act (s.nodes p).nextInstanceId p inst (some first)
          ((s.nodes p).firstTrace (s.nodes p).nextInstanceId first)
          (s.view (s.nodes p).nextInstanceId).handled
          (s.placed ++ [⟨p, (s.nodes p).nextInstanceId, cmd, request⟩])) p s.sent.length first)
    (id : Nat) :
    (Synod.system total id).Steps (Synod.Held rules clause id) (s.view id)
      ((s.called p node (msgs ++ extra) events heard calls
        [⟨p, (s.nodes p).nextInstanceId, cmd, request⟩]).view id) := by
  have sound := refines.sound p member
  cases starts with
  | intro first inst result responses kept events bounded several opens cascade =>
    have heard_away (x : Nat × Nat) (told : x ∈ heard) :
        ∃ m, s.sent[x.1]? = some m ∧ ¬Synod.Relevant id m := by
      obtain ⟨m, found, other⟩ := heard_other x told
      exact ⟨m, found, fun relevant => other relevant.2⟩
    have extra_away (m : Message C) (last : m ∈ extra) : ¬Synod.Relevant id m :=
      fun relevant => others m last relevant.2
    by_cases here : (s.nodes p).nextInstanceId = id
    · subst here
      have found : node.instanceAt (s.nodes p).nextInstanceId = result := by
        rw [same, MultiPaxosNode.afterStart_instanceAt, Function.update_self]
      rw [sound.config] at several
      exact refines.opened member rfl several opens (found ▸ cascade) extra_away heard_away
        raceFree ordinary (fits first inst opens)
    · refine view_elsewhere ?_ ?_ heard_away ?_ ?_
      · rw [same, MultiPaxosNode.afterStart_instanceAt, Function.update_of_ne (Ne.symm here)]
      · intro m sent
        rcases List.mem_append.mp sent with opening | last
        · exact not_relevant here _ m opening
        · exact extra_away m last
      · intro event traced
        rcases List.mem_append.mp traced with opening | later
        · exact fun same => here ((firstTrace_outside first event opening).symm.trans same)
        · have configured := (opens.launched sound.toKept).1
          exact fun same => here (configured.instanceId.symm.trans
            ((cascade.traced event later).symm.trans same))
      · intro placement placed
        rw [List.mem_singleton.mp placed]
        exact here

omit [DecidableEq C] [Serde Nat] [Serde (AcceptedValue C)] in
theorem called_restarted {node : MultiPaxosNode C}
    (restarted : node.instanceAt id =
      { Synod.fresh total p id with acceptor := ((s.nodes p).instanceAt id).acceptor }) :
    (s.called p node [] [] [] [] []).view id =
      { s.view id with
        inst := Function.update (s.view id).inst p
          { Synod.fresh total p id with acceptor := ((s.view id).inst p).acceptor } } := by
  have handled : ((s.called p node [] [] [] [] []).view id).handled = (s.view id).handled := by
    ext ⟨k, q⟩
    rw [called_handled]
    simp
  refine Synod.mk.injEq .. ▸
    ⟨?_, List.append_nil _, handled, List.append_nil _, List.append_nil _⟩
  exact restarted ▸ called_inst

omit [DecidableEq C] [Serde Nat] [Serde (AcceptedValue C)] in
theorem forwards_leads {node : MultiPaxosNode C} (leads : node.isLeader = true) :
    node.forwards = false := by
  simp [MultiPaxosNode.forwards, leads]

omit [DecidableEq C] [Serde Nat] [Serde (AcceptedValue C)] in
theorem Follows.accept {a : Action C} {cmd : C} (follows : s.Follows rules total a)
    (issued : s.issue a = (s.nodes p).fastIssue cmd) (stays : (s.nodes p).forwards = false)
    (holds : rules.raceFree) (ballot : Nat) (leads : (s.nodes p).leaderBallot = some ballot) :
    (s.view (s.nodes p).nextInstanceId).RaceFree total (s.nodes p).nextInstanceId
      (.accept p ballot cmd) := by
  refine (follows.2.1 holds).accept ?_ p
  simp [issued, MultiPaxosNode.fastIssue, stays, leads]

structure Fits (clause : Synod.Clause C total) (s : Cluster C) (a : Action C) : Prop where
  delivered : ∀ p k m, a = .deliver p k → p < total → m.senderId ≠ p → s.sent[k]? = some m →
    clause.fits m.paxosInstance (s.view m.paxosInstance) p k m.msg
  opened : ∀ p cmd first inst placed, p < total →
    (s.nodes p).Opens (s.nodes p).nextInstanceId cmd first inst →
    clause.fits (s.nodes p).nextInstanceId
      ((s.view (s.nodes p).nextInstanceId).act (s.nodes p).nextInstanceId p inst (some first)
        ((s.nodes p).firstTrace (s.nodes p).nextInstanceId first)
        (s.view (s.nodes p).nextInstanceId).handled placed) p s.sent.length first

theorem Refines.views_held (refines : Refines rules total s) {t : Cluster C} {a : Action C}
    (follows : s.Follows rules total a) (fits : Fits clause s a) (moves : Moves total s a t)
    (log : Nat) :
    (Synod.system total log).Steps (Synod.Held rules clause log) (s.view log) (t.view log) := by
  have quiet {p : Nat} {node : MultiPaxosNode C} {msgs : List (Message C)}
      {heard : List (Nat × Nat)} {calls : List (Nat × C)}
      (still : node.instanceAt = (s.nodes p).instanceAt) (others : ∀ m ∈ msgs, ¬m.msg.IsSynod)
      (heard_other : ∀ x ∈ heard, ∃ m, s.sent[x.1]? = some m ∧ ¬m.msg.IsSynod) :
      (Synod.system total log).Steps (Synod.Held rules clause log) (s.view log)
        ((s.called p node msgs [] heard calls []).view log) :=
    view_elsewhere (congrFun still log) (fun m sent relevant => others m sent relevant.2)
      (fun x told => by
        obtain ⟨m, found, other⟩ := heard_other x told
        exact ⟨m, found, fun relevant => other relevant.2⟩) (by simp) (by simp)
  have heard_one {p k : Nat} {m : Message C} (arrived : s.sent[k]? = some m)
      (other : ¬m.msg.IsSynod) :
      ∀ x ∈ [(k, p)], ∃ m, s.sent[x.1]? = some m ∧ ¬m.msg.IsSynod := by
    simpa using ⟨m, arrived, other⟩
  cases moves with
  | forward member forwards =>
    refine quiet rfl (fun m sent => ?_) (by simp)
    rw [List.mem_singleton.mp sent]
    exact id
  | @start p cmd msgs after events member stays starts =>
    have placed : s.placement (.propose p cmd) =
        some ⟨p, (s.nodes p).nextInstanceId, cmd, none⟩ := by simp [placement, stays]
    rw [← List.append_nil msgs]
    exact refines.starts member starts rfl (by simp) (by simp) (follows.accept rfl stays)
      (fun holds => follows.2.2 holds _ placed)
      (fun first inst opens => fits.opened p cmd first inst _ member opens) log
  | dropped member other arrived unled => exact quiet rfl (by simp) (heard_one arrived id)
  | @taken p k sender instanceId forwardId cmd msgs after events member other arrived leads
      starts =>
    have issued : s.issue (.deliver p k) = (s.nodes p).fastIssue cmd := by
      simp [issue, arrived, leads]
    have placed : s.placement (.deliver p k) =
        some ⟨p, (s.nodes p).nextInstanceId, cmd, some (sender, forwardId)⟩ := by
      simp [placement, arrived, leads]
    have kept : (after.afterRequest (s.nodes p).nextInstanceId sender forwardId).instanceAt =
        after.instanceAt := rfl
    refine refines.starts member starts kept (fun m sent => ?_) (heard_one arrived id)
      (follows.accept issued (forwards_leads leads)) (fun holds => follows.2.2 holds _ placed)
      (fun first inst opens => fits.opened p cmd first inst _ member opens) log
    rw [List.mem_singleton.mp sent]
    exact id
  | @acked p k sender forwardId _ instanceId member other arrived =>
    obtain ⟨forwarded, pending, whole⟩ :=
      (s.nodes p).handleForwardAck_frame forwardId instanceId
    exact quiet (by rw [whole]; rfl) (by simp) (heard_one arrived id)
  | @synod p k m responses after kept events member other arrived synod bounded several cascade =>
    have sound := refines.sound p member
    by_cases here : m.paxosInstance = log
    · subst here
      refine refines.delivered follows member other arrived (sound.enough several)
        (?_ : PaxosInstance.Cascade _ _ _ _ _ kept _)
        (fits.delivered p k m rfl member other arrived)
      rwa [MultiPaxosNode.afterSynod_instanceAt, Function.update_self]
    · refine view_elsewhere ?_ (not_relevant here responses) ?_ (fun event traced same => ?_)
        (by simp)
      · rw [MultiPaxosNode.afterSynod_instanceAt, Function.update_of_ne (Ne.symm here)]
      · intro x told
        rw [List.mem_singleton.mp told]
        exact ⟨m, arrived, fun relevant => here relevant.1⟩
      · exact here ((sound.instanceAt_configured _).instanceId.symm.trans
          ((cascade.traced event traced).symm.trans same))
  | @asked p instanceId member =>
    obtain ⟨pending, whole⟩ := (s.nodes p).getCommitId_frame instanceId
    exact quiet (by rw [whole]; rfl) (by simp) (by simp)
  | @crashed p storage node member stored built =>
    have restarted := ((refines.sound p member).restart stored built).2 log
    refine Run.System.Steps.one (a := .restart p)
      ⟨⟨fun _ => trivial, fun _ => trivial, fun _ => trivial⟩, clause.idle _ _ _ (by simp)⟩ ?_
    rw [called_restarted restarted]
    exact Synod.Step.restart member

theorem Refines.views_step (refines : Refines rules total s) {t : Cluster C} {a : Action C}
    (follows : s.Follows rules total a) (moves : Moves total s a t) (log : Nat) :
    (Synod.system total log).Steps (Synod.Obeys rules total log) (s.view log) (t.view log) := by
  have free : Fits (Synod.Clause.free total) s a :=
    ⟨fun _ _ _ _ _ _ _ => trivial, fun _ _ _ _ _ _ _ => trivial⟩
  exact (refines.views_held follows free moves log).mono fun _ _ held => held.1

theorem Refines.sound_step (refines : Refines rules total s) {t : Cluster C} {a : Action C}
    (moves : Moves total s a t) (q : Nat) (inside : q < total) :
    MultiPaxosNode.Sound total q (t.nodes q) := by
  have becomes {p : Nat} {node : MultiPaxosNode C} (sound : MultiPaxosNode.Sound total p node)
      {msgs : List (Message C)} {trace : List (TraceEvent C)} {heard : List (Nat × Nat)}
      {calls : List (Nat × C)} {placed : List (Placement C)} :
      MultiPaxosNode.Sound total q ((s.called p node msgs trace heard calls placed).nodes q) :=
    called_each _ sound (fun q inside _ => refines.sound q inside) q inside
  cases moves with
  | @forward p _ member forwards =>
    refine becomes ?_
    exact (refines.sound p member).same rfl rfl rfl rfl rfl rfl
  | @start p _ _ _ _ member stays starts => exact becomes ((refines.sound p member).starts starts)
  | @dropped p _ _ _ _ _ member => exact becomes (refines.sound p member)
  | @taken p _ _ _ _ _ _ _ _ member other arrived leads starts =>
    refine becomes ?_
    exact ((refines.sound p member).starts starts).same rfl rfl rfl rfl rfl rfl
  | @acked p _ _ forwardId _ instanceId member =>
    obtain ⟨forwarded, pending, whole⟩ :=
      (s.nodes p).handleForwardAck_frame forwardId instanceId
    refine becomes ?_
    rw [whole]
    exact (refines.sound p member).same rfl rfl rfl rfl rfl rfl
  | @synod p k m responses after kept events member other arrived synod bounded several cascade =>
    refine becomes ((refines.sound p member).synod bounded several cascade fun wrapper state => ?_)
    have round := (Synod.proposals_reachable (refines.views m.paxosInstance)).rounds p member
    simp only [view, state] at round
    exact ⟨round.1, round.2.1⟩
  | @asked p instanceId member =>
    obtain ⟨pending, whole⟩ := (s.nodes p).getCommitId_frame instanceId
    refine becomes ?_
    rw [whole]
    exact (refines.sound p member).same rfl rfl rfl rfl rfl rfl
  | @crashed p storage node member stored built =>
    exact becomes ((refines.sound p member).restart stored built).1

omit [DecidableEq C] in
theorem Boots.sound {node : MultiPaxosNode C} (boots : Boots total p node) :
    MultiPaxosNode.Sound total p node ∧
      ∀ id, node.instanceAt id = Synod.fresh total p id := by
  cases boots with
  | new => exact ⟨.new total p, fun _ => rfl⟩
  | withStorage storage node empty built =>
    have represents := PaxosStorage.represents_none empty
    refine ⟨.withStorage represents built, fun id => ?_⟩
    obtain ⟨next, bounded, below, rfl⟩ := MultiPaxosNode.withStorage_ok represents built
    exact MultiPaxosNode.instanceAt_restored _ id

omit [DecidableEq C] in
theorem Init.view (starts : Init total s) (id : Nat) : Synod.Init total id (s.view id) where
  inst p member := (starts.boots p member).sound.2 id
  sent := starts.sent
  handled := by
    refine Set.eq_empty_iff_forall_notMem.mpr fun x handled => ?_
    rcases handled with told | ⟨m, found, -⟩
    · simp [starts.delivered] at told
    · simp [starts.sent] at found
  trace := starts.trace
  placed := starts.placed

theorem Init.refines (starts : Init total s) : Refines rules total s where
  sound p member := (starts.boots p member).sound.1
  views id := .init (starts.view id)

theorem refines_reachable (reachable : (system total).Reachable (Follows rules total) s) :
    Refines rules total s :=
  reachable.invariant (Refines rules total) (fun _ starts => Init.refines starts)
    fun _ _ _ _ before allowed next =>
      { sound := before.sound_step (step_moves next)
        views := fun id =>
          (before.views id).steps (before.views_step allowed (step_moves next) id) }

theorem refines_unruled {allowed : Cluster C → Action C → Prop}
    (reachable : (system total).Reachable allowed s) :
    Refines { once := False, raceFree := False, ordinary := False } total s :=
  refines_reachable (reachable.mono fun _ _ _ => ⟨False.elim, False.elim, False.elim⟩)

end Cluster

end Smr
