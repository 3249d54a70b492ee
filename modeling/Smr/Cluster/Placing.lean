import Smr.Cluster.Forwarding
import Smr.Synod.Validity

set_option autoImplicit false

namespace Smr

variable {C : Type}

namespace Cluster

-- Each propose call brings a command of its own, which stands for the call.
def Fresh (s : Cluster C) : Action C → Prop
  | .propose _ cmd => cmd ∉ s.calls.map Prod.snd
  | _ => True

def Singly (s : Cluster C) (a : Action C) : Prop :=
  ∀ new ∈ s.placement a, new.request.isSome → ∀ old ∈ s.placed, old.command = new.command →
    old.instanceId = new.instanceId

instance [DecidableEq C] (s : Cluster C) : (a : Action C) → Decidable (s.Fresh a)
  | .propose _ cmd => inferInstanceAs (Decidable (cmd ∉ s.calls.map Prod.snd))
  | .deliver _ _ | .getCommitId _ _ | .crash _ => .isTrue trivial

instance [DecidableEq C] (s : Cluster C) (a : Action C) : Decidable (s.Singly a) := by
  unfold Singly
  infer_instance

structure Single (s : Cluster C) : Prop where
  requested : ∀ q f cmd, s.Requested q f cmd → cmd ∈ s.calls.map Prod.snd
  owned : ∀ x ∈ s.placed, x.command ∈ s.calls.map Prod.snd
  single : ∀ x ∈ s.placed, ∀ y ∈ s.placed, x.command = y.command → x.instanceId = y.instanceId

theorem Single.call {s : Cluster C} (single : Single s) {p : Nat} {node : MultiPaxosNode C}
    {msgs : List (Message C)} {trace : List (TraceEvent C)} {heard : List (Nat × Nat)}
    {calls : List (Nat × C)} (placed : Option (Placement C))
    (others : ∀ m ∈ msgs, ∀ cmd f, m.msg ≠ .requestCommandToLeader cmd f)
    (known : ∀ new ∈ placed, new.command ∈ (s.calls ++ calls).map Prod.snd)
    (apart : ∀ new ∈ placed, ∀ old ∈ s.placed, old.command = new.command →
      old.instanceId = new.instanceId) :
    Single (s.called p node msgs trace heard calls placed.toList) := by
  have kept {cmd : C} (old : cmd ∈ s.calls.map Prod.snd) :
      cmd ∈ (s.calls ++ calls).map Prod.snd := by
    rw [List.map_append]
    exact List.mem_append_left _ old
  refine
    { requested := fun q f cmd requested => kept (single.requested q f cmd
        ((requested_called node msgs trace heard calls _ others).mp requested))
      owned := fun x member => ?_
      single := fun x hx y hy same => ?_ }
  · rcases List.mem_append.mp member with old | new
    · exact kept (single.owned x old)
    · exact known x (Option.mem_toList.mp new)
  · rcases List.mem_append.mp hx with oldx | newx <;> rcases List.mem_append.mp hy with oldy | newy
    · exact single.single x oldx y oldy same
    · exact apart y (Option.mem_toList.mp newy) x oldx same
    · exact (apart x (Option.mem_toList.mp newx) y oldy same.symm).symm
    · rw [Option.mem_unique (Option.mem_toList.mp newx) (Option.mem_toList.mp newy)]

variable [DecidableEq C] [Serde (AcceptedValue C)]

section Reached

variable [Serde Nat]

theorem Single.step {total : Nat} {s t : Cluster C} {a : Action C} (single : Single s)
    (fresh : s.Fresh a) (singly : s.Singly a) (moves : Moves total s a t) : Single t := by
  have quiet {p : Nat} {node : MultiPaxosNode C} {msgs : List (Message C)}
      {trace : List (TraceEvent C)} {heard : List (Nat × Nat)}
      (others : ∀ m ∈ msgs, ∀ cmd f, m.msg ≠ .requestCommandToLeader cmd f) :
      Single (s.called p node msgs trace heard [] []) :=
    single.call none others (by simp) (by simp)
  cases moves with
  | @forward p cmd member forwards =>
    refine
      { requested := fun q f other requested => ?_
        owned := fun x member => ?_
        single := fun x hx y hy => ?_ }
    · obtain ⟨j, sent⟩ := requested
      rw [called, List.map_append]
      rcases List.mem_append.mp sent with old | new
      · exact List.mem_append_left _ (single.requested q f other ⟨j, old⟩)
      · have same := List.mem_singleton.mp new
        simp only [MultiPaxosNode.broadcast, Message.mk.injEq,
          MessageKind.requestCommandToLeader.injEq] at same
        exact List.mem_append_right _ (by simp [same])
    · simp only [called, List.append_nil] at member
      rw [called, List.map_append]
      exact List.mem_append_left _ (single.owned x member)
    · simp only [called, List.append_nil] at hx hy
      exact single.single x hx y hy
  | @start p cmd msgs after events member stays starts =>
    refine single.call (some ⟨p, (s.nodes p).nextInstanceId, cmd, none⟩)
      (fun m sent _ _ => synod_ne (starts.books.1 m sent).2) (by simp) ?_
    rintro new placed old member same
    obtain rfl := Option.mem_some.mp placed
    have known := single.owned old member
    rw [same] at known
    exact absurd known fresh
  | dropped => exact quiet (by simp)
  | @taken p k sender instanceId forwardId cmd msgs after events member other arrived leads
      starts =>
    have placed : s.placement (.deliver p k) =
        some ⟨p, (s.nodes p).nextInstanceId, cmd, some (sender, forwardId)⟩ := by
      simp [placement, arrived, leads]
    refine single.call (some ⟨p, (s.nodes p).nextInstanceId, cmd, some (sender, forwardId)⟩)
      (fun m sent => ?_) (fun new mine => ?_) fun new mine => ?_
    · rcases List.mem_append.mp sent with opening | last
      · exact fun _ _ => synod_ne (starts.books.1 m opening).2
      · rw [List.mem_singleton.mp last]
        simp [MultiPaxosNode.broadcast]
    · obtain rfl := Option.mem_some.mp mine
      rw [List.append_nil]
      exact single.requested sender forwardId cmd ⟨instanceId, List.mem_of_getElem? arrived⟩
    · obtain rfl := Option.mem_some.mp mine
      exact singly _ placed rfl
  | acked => exact quiet (by simp)
  | @synod p k m responses after kept events member other arrived synod' bounded several cascade =>
    refine quiet fun m sent cmd f => ?_
    obtain ⟨response, answer, rfl⟩ := List.mem_map.mp sent
    exact synod_ne (cascade.responses_isSynod response answer)
  | asked => exact quiet (by simp)
  | crashed => exact quiet (by simp)

theorem single_reachable {total : Nat} {s : Cluster C}
    (reachable : (system total).Reachable (fun s a => s.Fresh a ∧ s.Singly a) s) : Single s :=
  reachable.invariant Single
    (fun _ starts =>
      { requested := by simp [Requested, starts.sent]
        owned := by simp [starts.placed]
        single := by simp [starts.placed] })
    fun _ _ _ _ before allowed next => before.step allowed.1 allowed.2 (step_moves next)

theorem Chosen.placed {total id ballot : Nat} {s : Cluster C} {value : C}
    {guard : Cluster C → Action C → Prop} (reachable : (system total).Reachable guard s)
    (chosen : s.Chosen total id ballot value) :
    ∃ placement ∈ s.placed, placement.instanceId = id ∧ placement.command = value := by
  have refines := refines_unruled reachable
  obtain ⟨quorum, inside, many, votes⟩ := chosen
  obtain ⟨p, member⟩ := Finset.card_pos.mp (Nat.lt_of_lt_of_le (Nat.succ_pos _) many)
  have below := Finset.mem_range.mp (inside member)
  obtain ⟨k, q, a, sent, -, command⟩ :=
    ((Synod.acceptors_reachable (refines.views id)).voted p below ballot value
      (votes p member)).1
  exact (Synod.valid_reachable (refines.views id)).sent k q _ value sent command

end Reached

theorem chosen_once [Serde Nat] {total left right low high : Nat} {s : Cluster C} {value : C}
    (reachable : (system total).Reachable (fun s a => s.Fresh a ∧ s.Singly a) s)
    (hleft : s.Chosen total left low value) (hright : s.Chosen total right high value) :
    left = right := by
  obtain ⟨x, hx, rfl, rfl⟩ := hleft.placed reachable
  obtain ⟨y, hy, rfl, same⟩ := hright.placed reachable
  exact (single_reachable reachable).single x hx y hy same.symm

def takenRun : List (Action Nat) :=
  [.propose 2 1, .deliver 0 0, .deliver 2 2, .deliver 0 3, .deliver 2 5, .deliver 1 6,
    .propose 1 9, .deliver 2 8, .deliver 0 9]

def taken : Cluster Nat :=
  Run.System.final (step 3) (fun s a => s.Fresh a ∧ s.Singly a) (boot 3) takenRun

theorem chosen_once_taken : taken.Chosen 3 1 5 9 ∧ (1 : Nat) = 1 := by
  have reachable : (system 3).Reachable (fun s a => s.Fresh a ∧ s.Singly a) taken :=
    Run.System.final_reachable (fun _ _ _ next => next) (.init (boot_init 3)) (by decide +kernel)
  have chosen : taken.Chosen 3 1 5 9 := ⟨{0, 2}, by decide, by decide, by decide +kernel⟩
  exact ⟨chosen, chosen_once reachable chosen chosen⟩

-- Node 2 leads at ballot 5 by instance 0 and node 0 at ballot 3 by instance 1; both take
-- the command node 1 forwards, in instances 3 and 2, and both are accepted by a quorum.
def twoLeadersRun : List (Action Nat) :=
  [.propose 2 1, .deliver 0 0, .deliver 2 2, .deliver 1 3, .deliver 2 5, .propose 0 2,
    .deliver 1 7, .deliver 2 7, .deliver 0 9, .deliver 1 11, .deliver 0 13, .deliver 1 14,
    .propose 2 3, .propose 1 9, .deliver 0 18, .deliver 2 18, .deliver 1 19, .deliver 1 22]

def twoLeaders : Cluster Nat :=
  Run.System.final (step 3) (fun s a => s.Once a ∧ NoCrash a ∧ s.Fresh a) (boot 3) twoLeadersRun

theorem chosen_twice :
    ¬ ∀ (total : Nat) (s : Cluster Nat),
      (system total).Reachable (fun s a => s.Once a ∧ NoCrash a ∧ s.Fresh a) s →
      ∀ left right low high value, s.Chosen total left low value →
        s.Chosen total right high value → left = right := by
  intro once
  have reachable :
      (system 3).Reachable (fun s a => s.Once a ∧ NoCrash a ∧ s.Fresh a) twoLeaders :=
    Run.System.final_reachable (fun _ _ _ next => next) (.init (boot_init 3)) (by decide +kernel)
  have same := once 3 twoLeaders reachable 2 3 3 5 9
    ⟨{0, 1}, by decide, by decide, by decide +kernel⟩
    ⟨{1, 2}, by decide, by decide, by decide +kernel⟩
  exact absurd same (by decide)

end Cluster

end Smr
