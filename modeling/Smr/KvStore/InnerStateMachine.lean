import Smr.KvStore.Command
import Smr.Runtime.Idempotent
import Smr.Shared.LastWrite

set_option autoImplicit false

namespace Smr

namespace KvStore

open LastWrite

structure InnerStateMachine where
  values : String → Option String

def InnerStateMachine.new : InnerStateMachine :=
  { values := fun _ => none }

instance : StateMachine InnerStateMachine Command where
  Output := Option String
  apply self
    | .get key => (.ok (self.values key), self)
    | .set key value => (.ok none, { values := Function.update self.values key (some value) })

theorem takes_repeats : Idempotent InnerStateMachine where
  takes machine command := by cases command <;> exact ⟨_, rfl⟩
  twice machine command := by
    cases command with
    | get key => rfl
    | set key value => simp [StateMachine.apply]

def sets (key : String) : Command → Option String
  | .get _ => none
  | .set other value => if other = key then some value else none

theorem values_replayed (commands : Nat → Command) (count : Nat) (key : String) :
    (replayed InnerStateMachine.new commands count).values key =
      latest (sets key) ((List.range count).map commands) := by
  have overwrites (machine : InnerStateMachine) (command : Command) :
      (StateMachine.apply machine command).2.values key =
        ((sets key command).map some).getD (machine.values key) := by
    cases command with
    | get other => rfl
    | set other value =>
      by_cases same : other = key
      · simp [StateMachine.apply, sets, same]
      · simp [StateMachine.apply, sets, same, Ne.symm same]
  have stands := observed (fun machine : InnerStateMachine => machine.values key) overwrites
    InnerStateMachine.new ((List.range count).map commands)
  rw [latest_map] at stands
  rw [← applied_range]
  refine stands.trans ?_
  cases latest (sets key) ((List.range count).map commands) <;> rfl

end KvStore

end Smr
