import Smr.Node.Lasting
import Smr.Runtime.Recovery

set_option autoImplicit false

namespace Smr

section Order

variable {S C : Type} [StateMachine S C]

def applied (initial : S) (commands : List C) : S :=
  commands.foldl (fun machine command => (StateMachine.apply machine command).2) initial

theorem applied_concat (initial : S) (commands : List C) (command : C) :
    applied initial (commands ++ [command]) =
      (StateMachine.apply (applied initial commands) command).2 := by
  simp [applied]

def SmrRuntime.learned (self : SmrRuntime S C) (instanceId : Nat) : Option C :=
  (self.algorithm.paxosInstances instanceId).bind PaxosInstance.getValue

namespace Runtime

variable [DecidableEq C] [Serde Nat] [Serde C] [Serde (AcceptedValue C)]

omit [DecidableEq C] in
theorem Boots.upright {config : SmrConfig} {initial : S} {s : SmrRuntime S C}
    (boots : Boots config initial s) :
    MultiPaxosNode.Upright config s.algorithm ∧ s.passed = [] ∧ s.lastAppliedCommandId = 0 ∧
      s.point = .listening := by
  cases boots with
  | new => exact ⟨MultiPaxosNode.Built.new.upright, rfl, rfl, rfl⟩
  | withStorage blank built =>
    obtain ⟨node, started, rfl⟩ := withStorage_blank blank built
    have intact : PaxosStorage.Intact _ :=
      ⟨_, PaxosStorage.represents_none blank.acceptors, by simp [Ordered]⟩
    exact ⟨(MultiPaxosNode.Built.withStorage intact started).upright, rfl, rfl, rfl⟩

theorem step_calls {config : SmrConfig} {initial : S} {s t : SmrRuntime S C} {a : Action C}
    (stays : NoCrash a) (next : step config initial s a = some t) :
    t.algorithm = s.algorithm ∨ ∃ c, t.algorithm = s.algorithm.call c := by
  cases a with
  | deliver message =>
    simp only [step] at next
    split at next
    next =>
      obtain rfl := Option.some.inj next
      exact .inr ⟨.deliver message, rfl⟩
    next => simp at next
  | propose command =>
    simp only [step] at next
    split at next
    next =>
      obtain rfl := Option.some.inj next
      exact .inr ⟨.propose command, rfl⟩
    next => simp at next
  | advance =>
    cases SmrRuntime.advance_some next with
    | fetch stands found =>
      exact .inr ⟨.commit s.lastAppliedCommandId, (congrArg Prod.snd found).symm⟩
    | drain stands missing =>
      exact .inr ⟨.commit s.lastAppliedCommandId, (congrArg Prod.snd missing).symm⟩
    | append | apply | reject | mark | send | count => exact .inl rfl
  | crash => exact stays.elim

structure InOrder (config : SmrConfig) (s : SmrRuntime S C) : Prop where
  upright : MultiPaxosNode.Upright config s.algorithm
  passed : s.passed.map some =
    (List.range (s.lastAppliedCommandId + s.point.applies)).map s.learned
  held : ∀ command, s.point.holds = some command →
    s.learned s.lastAppliedCommandId = some command

omit [StateMachine S C] [DecidableEq C] [Serde Nat] [Serde C] [Serde (AcceptedValue C)] in
theorem passed_stable {passed : List C} {count : Nat} {learned later : Nat → Option C}
    (whole : passed.map some = (List.range count).map learned)
    (keeps : ∀ instanceId command, learned instanceId = some command →
      later instanceId = some command) :
    passed.map some = (List.range count).map later := by
  refine whole.trans (List.map_congr_left fun instanceId member => ?_)
  have listed : learned instanceId ∈ passed.map some :=
    whole ▸ List.mem_map_of_mem member
  obtain ⟨command, -, known⟩ := List.mem_map.mp listed
  rw [keeps instanceId command known.symm, known]

theorem InOrder.learned {config : SmrConfig} {initial : S} {s t : SmrRuntime S C} {a : Action C}
    (order : InOrder config s) (stays : NoCrash a) (next : step config initial s a = some t) :
    MultiPaxosNode.Upright config t.algorithm ∧
      ∀ instanceId command, s.learned instanceId = some command →
        t.learned instanceId = some command := by
  rcases step_calls stays next with same | ⟨c, called⟩
  · unfold SmrRuntime.learned
    rw [same]
    exact ⟨order.upright, fun _ _ known => known⟩
  · obtain ⟨upright, keeps⟩ := (s.algorithm.call_alters c).upright order.upright
    unfold SmrRuntime.learned
    rw [called]
    exact ⟨upright, fun instanceId command => keeps.learned⟩

omit [StateMachine S C] [DecidableEq C] [Serde Nat] [Serde C] [Serde (AcceptedValue C)] in
theorem getCommitId_learned {node after : MultiPaxosNode C} {instanceId : Nat} {command : C}
    {sender : Option (Oneshot C)}
    (found : node.getCommitId instanceId = (some (command, sender), after)) :
    (node.paxosInstances instanceId).bind PaxosInstance.getValue = some command := by
  unfold MultiPaxosNode.getCommitId at found
  split at found
  next => simp at found
  next known =>
    simp only [Prod.mk.injEq, Option.some.injEq] at found
    exact found.1.1 ▸ known

omit [DecidableEq C] in
theorem InOrder.advance {config : SmrConfig} {s t : SmrRuntime S C} (order : InOrder config s)
    (advances : s.Advances t) (upright : MultiPaxosNode.Upright config t.algorithm)
    (keeps : ∀ instanceId command, s.learned instanceId = some command →
      t.learned instanceId = some command) : InOrder config t := by
  have passed := passed_stable order.passed keeps
  have held := fun command holds => keeps _ command (order.held command holds)
  refine ⟨upright, ?_, ?_⟩
  · cases advances with
    | fetch stands | drain stands | append stands | mark stands | send stands =>
      rw [stands] at passed
      exact passed
    | apply stands done | reject stands done =>
      rw [stands] at passed held
      dsimp only [Point.applies] at passed ⊢
      rw [List.map_append, passed, List.range_succ, List.map_append]
      exact congrArg _ (congrArg (fun known => [known]) (held _ rfl).symm)
    | count stands bounded =>
      rw [stands] at passed
      exact passed
  · cases advances with
    | fetch stands found =>
      rintro command ⟨⟩
      exact keeps _ _ (getCommitId_learned found)
    | append stands =>
      rw [stands] at held
      exact held
    | drain | apply | reject | mark | send | count => simp [Point.holds]

theorem InOrder.step {config : SmrConfig} {initial : S} {s t : SmrRuntime S C} {a : Action C}
    (order : InOrder config s) (stays : NoCrash a)
    (next : Runtime.step config initial s a = some t) :
    InOrder config t := by
  obtain ⟨upright, keeps⟩ := order.learned stays next
  have passed := passed_stable order.passed keeps
  cases a with
  | deliver message =>
    simp only [Runtime.step] at next
    split at next
    next msgs stands done =>
      obtain rfl := Option.some.inj next
      rw [stands] at passed
      exact ⟨upright, passed, by simp [Point.holds]⟩
    next => simp at next
  | propose command =>
    simp only [Runtime.step] at next
    split at next
    next result stands done =>
      obtain rfl := Option.some.inj next
      exact ⟨upright, passed, by simp [stands, Point.holds]⟩
    next => simp at next
  | advance => exact order.advance (SmrRuntime.advance_some next) upright keeps
  | crash => exact stays.elim

theorem inOrder_reachable {config : SmrConfig} {initial : S} {s : SmrRuntime S C}
    (reachable : (system config initial).Reachable (fun _ => NoCrash) s) : InOrder config s := by
  refine reachable.invariant (InOrder config) (fun s boots => ?_)
    fun _ _ _ _ order stays next => order.step stays next
  obtain ⟨upright, passed, zero, listening⟩ := Boots.upright boots
  refine ⟨upright, ?_, ?_⟩
  · simp [passed, zero, listening, Point.applies]
  · simp [listening, Point.holds]

theorem machine_step {config : SmrConfig} {initial : S} {s t : SmrRuntime S C} {a : Action C}
    (machine : s.stateMachine = applied initial s.passed) (stays : NoCrash a)
    (next : step config initial s a = some t) : t.stateMachine = applied initial t.passed := by
  cases a with
  | deliver message =>
    simp only [step] at next
    split at next
    next =>
      obtain rfl := Option.some.inj next
      exact machine
    next => simp at next
  | propose command =>
    simp only [step] at next
    split at next
    next =>
      obtain rfl := Option.some.inj next
      exact machine
    next => simp at next
  | advance =>
    cases SmrRuntime.advance_some next with
    | fetch | drain | append | mark | send | count => exact machine
    | apply stands done | reject stands done =>
      rw [machine] at done
      rw [applied_concat, done]
  | crash => exact stays.elim

theorem machine_reachable {config : SmrConfig} {initial : S} {s : SmrRuntime S C}
    (reachable : (system config initial).Reachable (fun _ => NoCrash) s) :
    s.stateMachine = applied initial s.passed := by
  refine reachable.invariant (fun s => s.stateMachine = applied initial s.passed)
    (fun s boots => ?_) fun _ _ _ _ machine stays next => machine_step machine stays next
  cases boots with
  | new => rfl
  | withStorage blank built =>
    obtain ⟨node, -, rfl⟩ := withStorage_blank blank built
    rfl

omit [StateMachine S C] [DecidableEq C] [Serde Nat] [Serde C] [Serde (AcceptedValue C)] in
theorem prefix_of_agree {passed passed' : List C} {count count' : Nat}
    {learned learned' : Nat → Option C} (whole : passed.map some = (List.range count).map learned)
    (whole' : passed'.map some = (List.range count').map learned')
    (agree : ∀ instanceId command command', learned instanceId = some command →
      learned' instanceId = some command' → command = command') (le : count ≤ count') :
    passed <+: passed' := by
  have length : passed.length = count := by simpa using congrArg List.length whole
  have length' : passed'.length = count' := by simpa using congrArg List.length whole'
  rw [List.prefix_iff_getElem?]
  intro i below
  have here := congrArg (fun values => values[i]?) whole
  have there := congrArg (fun values => values[i]?) whole'
  simp only [List.getElem?_map, List.getElem?_eq_getElem below, Option.map_some,
    List.getElem?_range (show i < count by omega),
    List.getElem?_range (show i < count' by omega),
    List.getElem?_eq_getElem (show i < passed'.length by omega), Option.some.injEq] at here there
  rw [List.getElem?_eq_getElem (show i < passed'.length by omega)]
  exact congrArg some (agree i _ _ here.symm there.symm).symm

theorem applied_in_order {config : SmrConfig} {initial : S} {s : SmrRuntime S C}
    (reachable : (system config initial).Reachable (fun _ => NoCrash) s) :
    s.stateMachine = applied initial s.passed ∧
    s.passed.map some =
      (List.range (s.lastAppliedCommandId + s.point.applies)).map s.learned ∧
    ∀ (config' : SmrConfig) (initial' : S) (t : SmrRuntime S C),
      (system config' initial').Reachable (fun _ => NoCrash) t →
      (∀ instanceId command command', s.learned instanceId = some command →
        t.learned instanceId = some command' → command = command') →
      s.passed <+: t.passed ∨ t.passed <+: s.passed := by
  have order := inOrder_reachable reachable
  refine ⟨machine_reachable reachable, order.passed, fun config' initial' t reachable' agree => ?_⟩
  have order' := inOrder_reachable reachable'
  rcases Nat.le_total (s.lastAppliedCommandId + s.point.applies)
    (t.lastAppliedCommandId + t.point.applies) with le | le
  · exact .inl (prefix_of_agree order.passed order'.passed agree le)
  · exact .inr (prefix_of_agree order'.passed order.passed
      (fun instanceId command command' here there => (agree instanceId command' command there
        here).symm) le)

end Runtime

end Order

namespace Runtime

def countedRun : List (Action Nat) :=
  [.deliver (told 0 7), .advance, .advance, .advance, .advance, .advance, .advance, .advance]

def countedOnce : SmrRuntime (List Nat) Nat :=
  Run.System.final (step three []) (fun _ => NoCrash) (boot three []) countedRun

theorem applied_in_order_counted :
    countedOnce.stateMachine = applied [] [7] ∧
      countedOnce.passed.map some = (List.range 1).map countedOnce.learned ∧
      countedOnce.passed = [7] := by
  have starts : Boots three [] (boot three [] : SmrRuntime (List Nat) Nat) := by
    obtain ⟨store, log, blank, -, built⟩ : (loggedSystem three []).init
      (boot three [] : SmrRuntime (List Nat) Nat) := boot_init three []
    exact .withStorage blank built
  have reachable : (system three []).Reachable (fun _ => NoCrash) countedOnce :=
    Run.System.final_reachable (fun _ _ _ next => next) (.init starts) (by decide +kernel)
  have counted : countedOnce.lastAppliedCommandId + countedOnce.point.applies = 1 := by
    decide +kernel
  have passed : countedOnce.passed = [7] := by decide +kernel
  obtain ⟨machine, order, -⟩ := applied_in_order reachable
  exact ⟨passed ▸ machine, counted ▸ order, passed⟩

end Runtime

end Smr
