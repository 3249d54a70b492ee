import Smr.Cluster.Agreement

set_option autoImplicit false

namespace Smr

variable {C : Type}

namespace Cluster

def Requested (s : Cluster C) (q f : Nat) (cmd : C) : Prop :=
  ∃ j, ⟨q, j, .requestCommandToLeader cmd f⟩ ∈ s.sent

structure Ledger (s : Cluster C) (p : Nat) (node : MultiPaxosNode C) : Prop where
  below : ∀ placement ∈ s.placed, placement.nodeId = p →
    placement.instanceId < node.nextInstanceId
  served : ∀ id q f, node.forwardedInstances id = some (q, f) ↔
    ∃ cmd, ⟨p, id, cmd, some (q, f)⟩ ∈ s.placed
  counted : ∀ f cmd, s.Requested p f cmd → f < node.nextForwardId
  waiting : ∀ f sender, node.forwardedSenders f = some sender → s.Requested p f sender.command

structure Requests (total : Nat) (s : Cluster C) : Prop where
  ledger : ∀ p < total, Ledger s p (s.nodes p)
  member : ∀ m ∈ s.sent, m.senderId < total
  asked : ∀ placement ∈ s.placed, ∀ q f, placement.request = some (q, f) →
    s.Requested q f placement.command
  unique : ∀ q f cmd other, s.Requested q f cmd → s.Requested q f other → cmd = other
  told : ∀ p j f id, ⟨p, j, .forwardAck f id⟩ ∈ s.sent →
    ∃ q cmd, ⟨p, id, cmd, some (q, f)⟩ ∈ s.placed

theorem Requested.grow {s t : Cluster C} {q f : Nat} {cmd : C} (requested : s.Requested q f cmd)
    (sent : s.sent ⊆ t.sent) : t.Requested q f cmd := by
  obtain ⟨j, member⟩ := requested
  exact ⟨j, sent member⟩

theorem synod_ne {message : MessageKind C} {cmd : C} {f : Nat} (synod : message.IsSynod) :
    message ≠ .requestCommandToLeader cmd f := by
  rintro rfl
  exact synod

theorem requested_called {p q f : Nat} {s : Cluster C} {cmd : C} (node : MultiPaxosNode C)
    (msgs : List (Message C)) (trace : List (TraceEvent C)) (heard : List (Nat × Nat))
    (calls : List (Nat × C)) (placed : List (Placement C))
    (others : ∀ m ∈ msgs, ∀ cmd f, m.msg ≠ .requestCommandToLeader cmd f) :
    (s.called p node msgs trace heard calls placed).Requested q f cmd ↔ s.Requested q f cmd := by
  refine ⟨?_, fun old => old.grow (List.subset_append_left _ _)⟩
  rintro ⟨j, sent⟩
  rcases List.mem_append.mp sent with old | new
  · exact ⟨j, old⟩
  · exact absurd rfl (others _ new cmd f)

theorem Ledger.kept {s t : Cluster C} {q : Nat} {node : MultiPaxosNode C}
    (ledger : Ledger s q node)
    (placed : ∀ placement, placement.nodeId = q → (placement ∈ t.placed ↔ placement ∈ s.placed))
    (asks : ∀ f cmd, t.Requested q f cmd ↔ s.Requested q f cmd) : Ledger t q node where
  below placement member here := ledger.below placement ((placed placement here).mp member) here
  served id q' f := by
    rw [ledger.served]
    exact exists_congr fun cmd => (placed _ rfl).symm
  counted f cmd requested := ledger.counted f cmd ((asks f cmd).mp requested)
  waiting f sender waits := (asks _ _).mpr (ledger.waiting f sender waits)

theorem Requests.quiet {total p : Nat} {s : Cluster C} (requests : Requests total s)
    {node : MultiPaxosNode C} {msgs : List (Message C)} {trace : List (TraceEvent C)}
    {heard : List (Nat × Nat)} {calls : List (Nat × C)} (inside : p < total)
    (mine : ∀ m ∈ msgs, m.senderId = p ∧ m.msg.IsSynod)
    (grows : (s.nodes p).nextInstanceId ≤ node.nextInstanceId)
    (served : node.forwardedInstances = (s.nodes p).forwardedInstances)
    (counted : node.nextForwardId = (s.nodes p).nextForwardId)
    (waiting : ∀ f sender, node.forwardedSenders f = some sender →
      (s.nodes p).forwardedSenders f = some sender) :
    Requests total (s.called p node msgs trace heard calls []) := by
  have asks (q f : Nat) (cmd : C) :
      (s.called p node msgs trace heard calls []).Requested q f cmd ↔ s.Requested q f cmd :=
    requested_called node msgs trace heard calls [] fun m sent _ _ => synod_ne (mine m sent).2
  have placed : (s.called p node msgs trace heard calls []).placed = s.placed :=
    List.append_nil _
  have kept (q : Nat) (member : q < total) :
      Ledger (s.called p node msgs trace heard calls []) q (s.nodes q) :=
    (requests.ledger q member).kept (fun _ _ => by rw [placed]) (asks q)
  have own := kept p inside
  refine
    { ledger := called_each _ ?_ fun q member _ => kept q member
      member := fun m sent => ?_
      asked := fun placement member q f request => ?_
      unique := fun q f cmd other left right =>
        requests.unique q f cmd other ((asks q f cmd).mp left) ((asks q f other).mp right)
      told := fun q j f id sent => ?_ }
  · exact
      { below := fun placement member here =>
          Nat.lt_of_lt_of_le (own.below placement member here) grows
        served := served ▸ own.served
        counted := counted ▸ own.counted
        waiting := fun f sender waits => own.waiting f sender (waiting f sender waits) }
  · rcases List.mem_append.mp sent with old | new
    · exact requests.member m old
    · exact (mine m new).1 ▸ inside
  · exact (asks _ _ _).mpr (requests.asked placement (placed ▸ member) q f request)
  · rw [placed]
    rcases List.mem_append.mp sent with old | new
    · exact requests.told q j f id old
    · exact (mine _ new).2.elim

theorem Requests.starts {total p : Nat} {s : Cluster C} (requests : Requests total s)
    {node : MultiPaxosNode C} {msgs : List (Message C)} {trace : List (TraceEvent C)}
    {heard : List (Nat × Nat)} {calls : List (Nat × C)} {cmd : C} {request : Option (Nat × Nat)}
    (inside : p < total)
    (mine : ∀ m ∈ msgs, m.senderId = p ∧ ∀ cmd f, m.msg ≠ .requestCommandToLeader cmd f)
    (grows : node.nextInstanceId = (s.nodes p).nextInstanceId + 1)
    (served : ∀ id, node.forwardedInstances id = if id = (s.nodes p).nextInstanceId then request
      else (s.nodes p).forwardedInstances id)
    (counted : node.nextForwardId = (s.nodes p).nextForwardId)
    (waiting : node.forwardedSenders = (s.nodes p).forwardedSenders)
    (source : ∀ q f, request = some (q, f) → s.Requested q f cmd)
    (tells : ∀ m ∈ msgs, ∀ f id, m.msg = .forwardAck f id →
      id = (s.nodes p).nextInstanceId ∧ ∃ q, request = some (q, f)) :
    Requests total (s.called p node msgs trace heard calls
      [⟨p, (s.nodes p).nextInstanceId, cmd, request⟩]) := by
  have asks (q f : Nat) (other : C) : (s.called p node msgs trace heard calls
      [⟨p, (s.nodes p).nextInstanceId, cmd, request⟩]).Requested q f other ↔
        s.Requested q f other :=
    requested_called node msgs trace heard calls _ fun m sent => (mine m sent).2
  have own := requests.ledger p inside
  refine
    { ledger := called_each _ ?_ fun q member differs => ?_
      member := fun m sent => ?_
      asked := fun placement member q f asked => ?_
      unique := fun q f cmd other left right =>
        requests.unique q f cmd other ((asks q f cmd).mp left) ((asks q f other).mp right)
      told := fun q j f id sent => ?_ }
  · refine
      { below := fun placement member here => ?_
        served := fun id q f => ?_
        counted := fun f cmd requested => ?_
        waiting := fun f sender waits => ?_ }
    · rw [grows]
      rcases List.mem_append.mp member with old | new
      · exact Nat.lt_succ_of_lt (own.below placement old here)
      · rw [List.mem_singleton.mp new]
        exact Nat.lt_succ_self _
    · have new_only (cmd' : C) : ⟨p, (s.nodes p).nextInstanceId, cmd', some (q, f)⟩ ∉ s.placed :=
        fun member => Nat.lt_irrefl _ (own.below _ member rfl)
      rw [served]
      by_cases here : id = (s.nodes p).nextInstanceId
      · subst here
        simp only [if_true, called, List.mem_append, new_only, false_or, List.mem_singleton,
          Placement.mk.injEq, true_and]
        constructor
        · intro same
          exact ⟨cmd, rfl, same.symm⟩
        · rintro ⟨_, -, same⟩
          exact same.symm
      · rw [if_neg here, own.served]
        simp only [called, List.mem_append, List.mem_singleton, Placement.mk.injEq, here,
          true_and, false_and, or_false]
    · rw [counted]
      exact own.counted f cmd ((asks p f cmd).mp requested)
    · rw [waiting] at waits
      exact (asks _ _ _).mpr (own.waiting f sender waits)
  · refine (requests.ledger q member).kept (fun placement here => ?_) (asks q)
    have elsewhere : placement ≠ ⟨p, (s.nodes p).nextInstanceId, cmd, request⟩ := by
      rintro rfl
      exact differs here.symm
    simp [called, elsewhere]
  · rcases List.mem_append.mp sent with old | new
    · exact requests.member m old
    · exact (mine m new).1 ▸ inside
  · rw [asks]
    rcases List.mem_append.mp member with old | new
    · exact requests.asked placement old q f asked
    · rw [List.mem_singleton.mp new] at asked ⊢
      exact source q f asked
  · rcases List.mem_append.mp sent with old | new
    · obtain ⟨q', cmd', placed⟩ := requests.told q j f id old
      exact ⟨q', cmd', List.mem_append_left _ placed⟩
    · have signed : q = p := (mine _ new).1
      obtain ⟨rfl, q', rfl⟩ := tells _ new f id rfl
      subst signed
      exact ⟨q', cmd, List.mem_append_right _ (List.mem_singleton_self _)⟩

theorem Requests.forward {total p : Nat} {s : Cluster C} (requests : Requests total s) (cmd : C)
    (calls : List (Nat × C)) (inside : p < total) (signed : (s.nodes p).id = p) :
    Requests total (s.called p ((s.nodes p).afterForward cmd)
      [(s.nodes p).broadcast 0 (.requestCommandToLeader cmd (s.nodes p).nextForwardId)] [] []
      calls []) := by
  generalize moved : s.called p ((s.nodes p).afterForward cmd)
    [(s.nodes p).broadcast 0 (.requestCommandToLeader cmd (s.nodes p).nextForwardId)] [] []
    calls [] = t
  have sent : t.sent = s.sent ++
      [⟨p, 0, .requestCommandToLeader cmd (s.nodes p).nextForwardId⟩] := by
    rw [← moved, called, MultiPaxosNode.broadcast, signed]
  have placed : t.placed = s.placed := by
    rw [← moved]
    exact List.append_nil _
  have asks (q f : Nat) (other : C) : t.Requested q f other ↔
      s.Requested q f other ∨ q = p ∧ f = (s.nodes p).nextForwardId ∧ other = cmd := by
    unfold Requested
    rw [sent]
    simp [exists_or, and_comm, and_left_comm]
  have own := requests.ledger p inside
  refine
    { ledger := ?_
      member := fun m member => ?_
      asked := fun placement member q f request => ?_
      unique := fun q f cmd' other left right => ?_
      told := fun q j f id member => ?_ }
  · have here : Ledger t p ((s.nodes p).afterForward cmd) := by
      refine
        { below := placed ▸ own.below
          served := placed ▸ own.served
          counted := fun f other requested => ?_
          waiting := fun f sender waits => ?_ }
      · rcases (asks p f other).mp requested with old | ⟨-, rfl, -⟩
        · exact Nat.lt_succ_of_lt (own.counted f other old)
        · exact Nat.lt_succ_self _
      · by_cases new : f = (s.nodes p).nextForwardId
        · subst new
          simp only [MultiPaxosNode.afterForward, Function.update_self, Option.some.injEq] at waits
          exact (asks _ _ _).mpr (.inr ⟨rfl, rfl, by rw [← waits]⟩)
        · simp only [MultiPaxosNode.afterForward, Function.update_of_ne new] at waits
          exact (asks _ _ _).mpr (.inl (own.waiting f sender waits))
    have others (q : Nat) (member : q < total) (differs : q ≠ p) : Ledger t q (s.nodes q) := by
      refine (requests.ledger q member).kept (fun _ _ => by rw [placed]) fun f other => ?_
      simp [asks, differs]
    subst moved
    exact called_each _ here others
  · rw [sent] at member
    rcases List.mem_append.mp member with old | new
    · exact requests.member m old
    · rw [List.mem_singleton.mp new]
      exact inside
  · exact (asks _ _ _).mpr (.inl (requests.asked placement (placed ▸ member) q f request))
  · rcases (asks q f cmd').mp left with old | ⟨rfl, rfl, rfl⟩ <;>
      rcases (asks _ _ other).mp right with old' | ⟨hq, hf, ho⟩
    · exact requests.unique q f cmd' other old old'
    · subst hq hf
      exact absurd (own.counted _ _ old) (Nat.lt_irrefl _)
    · exact absurd (own.counted _ _ old') (Nat.lt_irrefl _)
    · exact ho.symm
  · rw [placed]
    refine requests.told q j f id ?_
    simpa [sent] using member

variable [DecidableEq C] [Serde (AcceptedValue C)]

section Reached

variable [Serde Nat]

theorem Requests.step {total : Nat} {s t : Cluster C} {a : Action C} (requests : Requests total s)
    (signed : ∀ p < total, (s.nodes p).id = p) (calm : NoCrash a) (moves : Moves total s a t) :
    Requests total t := by
  cases moves with
  | @forward p cmd member forwards => exact requests.forward cmd _ member (signed p member)
  | @start p cmd msgs after events member stays starts =>
    obtain ⟨mine, next, -, forwarded, counted, served⟩ := starts.books
    refine requests.starts member (fun m sent => ?_) next (fun id => ?_) counted forwarded (by simp)
      fun m sent f id ack => ?_
    · exact ⟨(mine m sent).1.trans (signed p member), fun _ _ => synod_ne (mine m sent).2⟩
    · rw [served]
      by_cases here : id = (s.nodes p).nextInstanceId
      · subst here
        rw [if_pos rfl]
        refine Option.eq_none_iff_forall_ne_some.mpr fun entry taken => ?_
        obtain ⟨cmd, placed⟩ := ((requests.ledger p member).served _ entry.1 entry.2).mp taken
        exact Nat.lt_irrefl _ ((requests.ledger p member).below _ placed rfl)
      · rw [if_neg here]
    · have synod := (mine m sent).2
      rw [ack] at synod
      exact synod.elim
  | @dropped p _ _ _ _ _ member =>
    exact requests.quiet member (by simp) (Nat.le_refl _) rfl rfl fun _ _ waits => waits
  | @taken p k sender instanceId forwardId cmd msgs after events member other arrived leads
      starts =>
    obtain ⟨mine, next, -, forwarded, counted, served⟩ := starts.books
    refine requests.starts member (fun m sent => ?_) next (fun id => ?_) counted forwarded
      (fun q f same => ?_) fun m sent f id ack => ?_
    · rcases List.mem_append.mp sent with opening | last
      · exact ⟨(mine m opening).1.trans (signed p member), fun _ _ => synod_ne (mine m opening).2⟩
      · rw [List.mem_singleton.mp last]
        exact ⟨signed p member, by simp [MultiPaxosNode.broadcast]⟩
    · simp only [MultiPaxosNode.afterRequest, served, Function.update_apply]
    · simp only [Option.some.injEq, Prod.mk.injEq] at same
      obtain ⟨rfl, rfl⟩ := same
      exact ⟨instanceId, List.mem_of_getElem? arrived⟩
    · rcases List.mem_append.mp sent with opening | last
      · have synod := (mine m opening).2
        rw [ack] at synod
        exact synod.elim
      · rw [List.mem_singleton.mp last] at ack
        simp only [MultiPaxosNode.broadcast, MessageKind.forwardAck.injEq] at ack
        exact ⟨ack.2.symm, sender, by rw [ack.1]⟩
  | @acked p k sender forwardId paxosInstance instanceId member =>
    unfold MultiPaxosNode.handleForwardAck
    split
    next moved found =>
      refine requests.quiet member (by simp) (Nat.le_refl _) rfl rfl fun f sender waits => ?_
      by_cases gone : f = forwardId
      · subst gone
        simp at waits
      · simpa only [Function.update_of_ne gone] using waits
    next => exact requests.quiet member (by simp) (Nat.le_refl _) rfl rfl fun _ _ waits => waits
  | @synod p k m responses after kept events member other arrived synod' bounded several cascade =>
    refine requests.quiet member (fun m sent => ?_) (Nat.le_max_left _ _) rfl rfl
      fun _ _ waits => waits
    obtain ⟨response, answer, rfl⟩ := List.mem_map.mp sent
    exact ⟨signed p member, cascade.responses_isSynod response answer⟩
  | @asked p instanceId member =>
    obtain ⟨pending, whole⟩ := (s.nodes p).getCommitId_frame instanceId
    rw [whole]
    exact requests.quiet member (by simp) (Nat.le_refl _) rfl rfl fun _ _ waits => waits
  | crashed => exact calm.elim

omit [DecidableEq C] in
theorem Boots.ledger {total p : Nat} {s : Cluster C} {node : MultiPaxosNode C}
    (boots : Boots total p node) (sent : s.sent = []) (placed : s.placed = []) :
    Ledger s p node := by
  have cleared : node.forwardedSenders = (fun _ => none) ∧
      node.forwardedInstances = fun _ => none := by
    cases boots with
    | new => exact ⟨rfl, rfl⟩
    | withStorage storage node empty built =>
      exact (MultiPaxosNode.withStorage_forgets built).2.2
  exact
    { below := by simp [placed]
      served := by simp [cleared.2, placed]
      counted := by simp [Requested, sent]
      waiting := by simp [cleared.1] }

end Reached

-- Node 2 leads; nodes 0 and 1 both forward a command under forward id 0, and the leader
-- takes instance 1 for the command of node 0.
def forwardRun : List (Action Nat) :=
  [.propose 2 1, .deliver 0 0, .deliver 2 2, .deliver 0 3, .deliver 2 5, .deliver 0 6,
    .deliver 1 6, .propose 0 7, .propose 1 8, .deliver 2 9]

def forwarded : Cluster Nat :=
  Run.System.final (step 3) (fun s a => s.Once a ∧ NoCrash a) (boot 3) forwardRun

end Cluster

end Smr
