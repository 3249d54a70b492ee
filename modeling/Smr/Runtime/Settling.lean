import Smr.Runtime.InOrder

set_option autoImplicit false

namespace Smr

variable {S C : Type} [StateMachine S C]

namespace Point

def left {Output : Type} : Point C Output → Nat
  | .listening => 0
  | .counting => 1
  | .marked _ _ => 2
  | .applied _ _ => 3
  | .appended _ _ => 4
  | .committed _ _ => 5
  | .checking => 6

end Point

namespace Runtime

structure Fetched (config : SmrConfig) [Serde Nat] [Serde (AcceptedValue C)]
    (s : SmrRuntime S C) : Prop where
  upright : MultiPaxosNode.Upright config s.algorithm
  inside : s.point.between = false → s.lastAppliedCommandId < s.algorithm.nextInstanceId

def remaining (s : SmrRuntime S C) : Nat :=
  6 * (s.algorithm.nextInstanceId - s.lastAppliedCommandId) + s.point.left

section Loop

variable [Serde Nat] [Serde C] [Serde (AcceptedValue C)] {config : SmrConfig} {initial : S}
  {s t : SmrRuntime S C}

theorem Fetched.advance (fetched : Fetched config s) (advances : s.Advances t) :
    Fetched config t ∧ remaining t < remaining s := by
  obtain ⟨upright, inside⟩ := fetched
  cases advances with
  | @fetch command sender algorithm stands found =>
    obtain ⟨pending, same⟩ := s.algorithm.getCommitId_frame s.lastAppliedCommandId
    rw [found] at same
    obtain rfl : algorithm = _ := same
    obtain ⟨inst, present, -⟩ := Option.bind_eq_some_iff.mp (getCommitId_learned found)
    refine ⟨⟨⟨upright.1, upright.2, upright.3, upright.4, upright.5, upright.6, upright.7⟩,
      fun _ => upright.below _ inst present⟩, ?_⟩
    simp [remaining, stands, Point.left]
  | @drain algorithm stands missing =>
    obtain ⟨pending, same⟩ := s.algorithm.getCommitId_frame s.lastAppliedCommandId
    rw [missing] at same
    obtain rfl : algorithm = _ := same
    refine ⟨⟨⟨upright.1, upright.2, upright.3, upright.4, upright.5, upright.6, upright.7⟩,
      by simp [Point.between]⟩, ?_⟩
    simp [remaining, stands, Point.left]
  | append stands | apply stands | mark stands | send stands =>
    rw [stands] at inside
    refine ⟨⟨upright, fun _ => inside rfl⟩, ?_⟩
    simp [remaining, stands, Point.left]
  | reject stands =>
    rw [stands] at inside
    refine ⟨⟨upright, fun _ => inside rfl⟩, ?_⟩
    simp [remaining, stands, Point.left]
  | count stands bounded =>
    rw [stands] at inside
    have less := inside rfl
    refine ⟨⟨upright, by simp [Point.between]⟩, ?_⟩
    simp only [remaining, stands, Point.left]
    omega

theorem Fetched.advances (fetched : Fetched config s) (busy : s.point ≠ .listening) :
    ∃ t, s.advance = some t := by
  obtain ⟨upright, inside⟩ := fetched
  have fits (held : s.point.between = false) : s.lastAppliedCommandId + 1 ≤ u64Max :=
    Nat.le_trans (inside held) upright.bounded
  unfold SmrRuntime.advance
  split
  next stands => exact absurd stands busy
  next => split <;> exact ⟨_, rfl⟩
  next => exact ⟨_, rfl⟩
  next => split <;> exact ⟨_, rfl⟩
  next stands =>
    split
    next => exact ⟨_, rfl⟩
    next =>
      rw [u64Add_ok.mpr ⟨fits (by rw [stands]; rfl), rfl⟩]
      exact ⟨_, rfl⟩
  next => exact ⟨_, rfl⟩
  next stands =>
    rw [u64Add_ok.mpr ⟨fits (by rw [stands]; rfl), rfl⟩]
    exact ⟨_, rfl⟩

end Loop

section Step

variable [DecidableEq C] [Serde Nat] [Serde C] [Serde (AcceptedValue C)] {config : SmrConfig}
  {initial : S} {s t : SmrRuntime S C}

omit [DecidableEq C] in
theorem recover_algorithm {runtime : SmrRuntime S C}
    (recovers : s.recover config initial = .ok runtime) : ∃ store,
      s.algorithm.storage = some store ∧ (runtime.point = .listening ∧ runtime.answers = []) ∧
        MultiPaxosNode.withStorage config store = .ok runtime.algorithm := by
  unfold SmrRuntime.recover at recovers
  split at recovers
  next store log kept logged =>
    obtain ⟨entries, -, recovers⟩ := bind_ok.mp recovers
    obtain ⟨lastApplied, -, recovers⟩ := bind_ok.mp recovers
    obtain ⟨machine, -, recovers⟩ := bind_ok.mp recovers
    obtain ⟨node, built, recovers⟩ := bind_ok.mp recovers
    obtain rfl := Except.ok.inj recovers
    exact ⟨store, kept, ⟨rfl, rfl⟩, built⟩
  next => simp at recovers

theorem Fetched.step {a : Action C} (fetched : Fetched config s)
    (next : Runtime.step config initial s a = some t) : Fetched config t := by
  cases a with
  | deliver message =>
    simp only [Runtime.step] at next
    split at next
    next =>
      obtain rfl := Option.some.inj next
      have called := (s.algorithm.call_alters (.deliver message)).upright fetched.upright
      exact ⟨called.1, by simp [Point.between]⟩
    next => simp at next
  | propose command =>
    simp only [Runtime.step] at next
    split at next
    next stands _ =>
      obtain rfl := Option.some.inj next
      have called := (s.algorithm.call_alters (.propose command)).upright fetched.upright
      exact ⟨called.1, by simp [stands, Point.between]⟩
    next => simp at next
  | advance => exact (fetched.advance (SmrRuntime.advance_some next)).1
  | crash =>
    obtain ⟨store, kept, ⟨listens, -⟩, built⟩ := recover_algorithm (toOption_some.mp next)
    obtain ⟨saved, represents, orders, -⟩ := fetched.upright.storage store kept
    exact ⟨(MultiPaxosNode.Built.withStorage ⟨saved, represents, orders⟩ built).upright,
      by simp [listens, Point.between]⟩

theorem fetched_reachable {guard : SmrRuntime S C → Action C → Prop}
    (reachable : (system config initial).Reachable guard s) : Fetched config s := by
  refine reachable.invariant (Fetched config) (fun s boots => ?_)
    fun _ _ _ _ fetched _ next => fetched.step next
  obtain ⟨upright, -, -, listening⟩ := Boots.upright boots
  exact ⟨upright, by simp [listening, Point.between]⟩

end Step

end Runtime

end Smr
