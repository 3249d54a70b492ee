import Smr.Cluster.Placing
import Smr.Deployment.Replication
import Smr.KvStore.InnerStateMachine

set_option autoImplicit false

namespace Smr

variable {S C : Type} [StateMachine S C]

namespace Deployment

section Step

variable [Bincode (Message C)] [DecidableEq C] [Serde Nat] [Serde C] [Serde (AcceptedValue C)]
  {total p : Nat} {initial : S} {d t : Deployment S C}

-- Every process keeps its storage, and no write to a command log fails.
def durable (total : Nat) (initial : S) : Run.System (Deployment S C) (Action C) :=
  { init := fun d => Init total initial d ∧ ∀ p < total, ∃ runtime,
      (Runtime.loggedSystem (Cluster.config total p) initial).init runtime ∧
        d.hosts p = .idle runtime
    step := fun d a t => step total initial d a = some t }

theorem durable_reachable {guard : Deployment S C → Action C → Prop}
    (reachable : (durable total initial).Reachable guard d) :
    (system total initial).Reachable guard d := by
  refine reachable.map id (fun d (starts : (durable total initial).init d) => starts.1) ?_
  intro s a t _ _ allowed next
  exact .one allowed next

theorem steps_grow {guard : Deployment S C → Action C → Prop}
    (steps : (durable total initial).Steps guard d t) : d.trace ⊆ t.trace := by
  induction steps with
  | refl => exact List.Subset.refl _
  | tail _ last ih =>
    obtain ⟨a, -, next⟩ := last
    exact List.Subset.trans ih (step_moves next).trace_grows

theorem commits_reachable {guard : Cluster C → Smr.Action C → Prop} {commands : Nat → C}
    (bounded : total ≤ 2 ^ 32)
    (reachable : (durable total initial).Reachable (fun d a => d.Short a ∧ d.Meets guard a) d)
    (steps : (durable total initial).Steps (fun d a => d.Short a ∧ d.Meets guard a) d t)
    (decides : ∀ instanceId command, t.Decided total instanceId command →
      command = commands instanceId) (member : p < total) :
    (Runtime.loggedSystem (Cluster.config total p) initial).Reachable (Runtime.Commits commands)
      (d.hosts p).runtime := by
  induction reachable with
  | init starts =>
    obtain ⟨runtime, boots, same⟩ := starts.2 p member
    rw [same]
    exact .init boots
  | @step s d a before allowed next ih =>
    have earlier := ih (.head ⟨a, allowed, next⟩ steps)
    have reached := (simulates_reachable bounded (durable_reachable before)).2
    have grows := List.Subset.trans (step_moves next).trace_grows (steps_grow steps)
    cases step_moves next with
    | run member' runs =>
      rcases runs.runtime p with same | ⟨rfl, b, -, stepped⟩
      · exact same ▸ earlier
      · refine .step earlier ?_ stepped
        cases b with
        | advance =>
          intro command committing
          exact decides _ _ ((held_decided reached member (committing_holds committing)).grow grows)
        | deliver | propose | crash => trivial
    | network => exact earlier

omit [Bincode (Message C)] [Serde C] in
theorem decided_called {guard : Cluster C → Smr.Action C → Prop} {instanceId : Nat} {command : C}
    (reachable : (Cluster.system total).Reachable guard d.cluster)
    (decided : d.Decided total instanceId command) : ∃ q < total, (q, command) ∈ d.calls := by
  obtain ⟨ballot, chosen⟩ := decided
  obtain ⟨placement, placed, -, rfl⟩ := chosen.placed reachable
  exact (Cluster.sourced_reachable reachable).placed placement placed

theorem Runs.replies {task : Task C} {commands : Nat → C} (idempotent : Idempotent S)
    (runs : Runs total initial d p task t)
    (registered : Cluster.Registered d.cluster p (d.cluster.nodes p))
    (ledger : Runtime.Ledger (Cluster.config total p) commands (d.hosts p).runtime)
    (caught : Runtime.Caught initial commands (d.hosts p).runtime)
    (replies : Runtime.Replies initial commands (d.Took p) (d.hosts p).runtime) :
    Runtime.Replies initial commands (t.Took p) (t.hosts p).runtime := by
  have later (place : Nat) (sender : Oneshot C) (took : d.Took p place sender) :
      t.Took p place sender := fun plain => by
    obtain ⟨request, placed⟩ := took plain
    exact ⟨request, runs.placed_grows placed⟩
  refine Runtime.Replies.mono ?_ later
  cases runs with
  | hand | cancel | forward | receive | respond =>
    simpa only [put, Function.update_self] using replies
  | propose free listens done =>
    simp only [put, Function.update_self]
    exact replies.still (by rw [listens]; rfl) (by rw [listens]; rfl) rfl rfl
  | handle read free listens done =>
    simp only [put, Function.update_self]
    exact replies.still (by rw [listens]; rfl) rfl rfl rfl
  | advance answered advances =>
    simp only [put, Function.update_self]
    exact replies.advance idempotent caught ledger (fun sender waits plain =>
      registered.direct _ sender waits plain) (SmrRuntime.advance_some advances)
  | restart recovers fresh =>
    simp only [put, Function.update_self]
    obtain ⟨store, kept, ⟨listens, unsent⟩, -⟩ := Runtime.recover_algorithm recovers
    exact .none_yet (by rw [Host.idle, listens]; rfl) unsent

theorem replies_reachable {guard : Cluster C → Smr.Action C → Prop} {commands : Nat → C}
    (bounded : total ≤ 2 ^ 32) (idempotent : Idempotent S)
    (reachable : (durable total initial).Reachable (fun d a => d.Short a ∧ d.Meets guard a) d)
    (steps : (durable total initial).Steps (fun d a => d.Short a ∧ d.Meets guard a) d t)
    (decides : ∀ instanceId command, t.Decided total instanceId command →
      command = commands instanceId) (member : p < total) :
    Runtime.Replies initial commands (d.Took p) (d.hosts p).runtime := by
  induction reachable with
  | @init s starts =>
    obtain ⟨runtime, ⟨store, log, blank, -, built⟩, same⟩ := starts.2 p member
    obtain ⟨node, -, rfl⟩ := Runtime.withStorage_blank blank built
    rw [same]
    exact .none_yet rfl rfl
  | @step s d a before allowed next ih =>
    have onward := Relation.ReflTransGen.head ⟨a, allowed, next⟩ steps
    have earlier := ih onward
    have committed := commits_reachable bounded before onward decides member
    have reached := (simulates_reachable bounded (durable_reachable before)).2
    cases step_moves next with
    | @run q task _ member' runs =>
      by_cases other : p = q
      · subst other
        exact runs.replies idempotent (Cluster.registered_reachable reached p member)
          (Runtime.ledger_reachable idempotent.takes committed).1
          (Runtime.caught_reachable idempotent committed) earlier
      · have same : (d.hosts p).runtime = (s.hosts p).runtime :=
          (runs.runtime p).elim id fun own => absurd own.1 other
        rw [same]
        refine earlier.mono fun place sender took plain => ?_
        obtain ⟨request, placed⟩ := took plain
        exact ⟨request, runs.placed_grows placed⟩
    | network => exact earlier

theorem decided_commands [Inhabited C] (bounded : total ≤ 2 ^ 32)
    (takes : ∀ (machine : S) (command : C), ∃ output,
      (StateMachine.apply machine command).1 = .ok output)
    (reachable : (durable total initial).Reachable
      (fun d a => d.Short a ∧ d.Meets (Cluster.RaceFree total) a) t) :
    ∃ commands : Nat → C,
      (∀ instanceId command, t.Decided total instanceId command →
        command = commands instanceId) ∧
      ∀ d, (durable total initial).Reachable
          (fun d a => d.Short a ∧ d.Meets (Cluster.RaceFree total) a) d →
        (durable total initial).Steps
          (fun d a => d.Short a ∧ d.Meets (Cluster.RaceFree total) a) d t →
        ∀ p < total, (Runtime.loggedSystem (Cluster.config total p) initial).Reachable
            (Runtime.Commits commands) (d.hosts p).runtime ∧
          ∀ log ∈ (d.hosts p).runtime.commandLog, ∀ i,
            (log.storage.map.get (logKey i)).isSome →
              d.Decided total i (commands i) ∧ ∃ q < total, (q, commands i) ∈ d.calls := by
  have reached := (simulates_reachable bounded (durable_reachable reachable)).2
  have decides (instanceId : Nat) (command : C) (decided : t.Decided total instanceId command) :
      command = (t.decision total instanceId).getD default := by
    rw [decision_eq reached decided]
    rfl
  refine ⟨fun instanceId => (t.decision total instanceId).getD default, decides,
    fun d earlier steps p member => ?_⟩
  have whole := durable_reachable earlier
  have runs := commits_reachable bounded earlier steps decides member
  refine ⟨runs, fun log stored i present => ?_⟩
  obtain ⟨own, count, stored', -, logs, -⟩ := (Runtime.ledger_reachable takes runs).1.logged
  obtain rfl := Option.some.inj (stored'.symm.trans stored)
  have entry := logs.entries i ((logs.present i).mp present)
  have decided := ((journaled_reachable bounded whole p member).log own stored).entries i _ entry
  exact ⟨decided, decided_called (simulates_reachable bounded whole).2 decided⟩

theorem crashed_commands [Inhabited C] (bounded : total ≤ 2 ^ 32) (idempotent : Idempotent S)
    {past : List (Deployment S C × Action C × Deployment S C)}
    (run : (durable total initial).Past
      (fun d a => d.Short a ∧ d.Meets (Cluster.RaceFree total) a) past t) :
    ∃ commands : Nat → C, ∀ d ∈ Run.System.moments past t, ∀ p < total, ∃ n,
      (d.hosts p).runtime.stateMachine = replayed initial commands n ∧
      (d.hosts p).runtime.lastAppliedCommandId ≤ n ∧
      n ≤ (d.hosts p).runtime.lastAppliedCommandId + 1 ∧
      (∀ i < n, d.Decided total i (commands i) ∧ ∃ q < total, (q, commands i) ∈ d.calls) ∧
      ∀ answer ∈ (d.hosts p).runtime.answers, answer.1.forwardId = none →
        ∃ place < n, (∃ request, ⟨p, place, answer.1.command, request⟩ ∈ d.placed) ∧
          (StateMachine.apply (replayed initial commands place) (commands place)).1 =
            .ok answer.2 := by
  obtain ⟨commands, decides, processes⟩ :=
    decided_commands bounded idempotent.takes run.reachable
  refine ⟨commands, fun d moment p member => ?_⟩
  obtain ⟨reachable, steps⟩ := run.moment moment
  obtain ⟨runs, logged⟩ := processes d reachable steps p member
  obtain ⟨n, machine, low, high, present⟩ := Runtime.caught_reachable idempotent runs
  obtain ⟨log, -, stored, -⟩ := (Runtime.ledger_reachable idempotent.takes runs).1.logged
  have replies := replies_reachable bounded idempotent reachable steps decides member
  refine ⟨n, machine, Nat.le_trans (Nat.le_add_right _ _) low, high, fun i below => ?_,
    fun answer sent plain => ?_⟩
  · exact logged log stored i (present log stored i below)
  · obtain ⟨place, below, took, answered⟩ := replies.answers answer sent
    exact ⟨place, Nat.lt_of_lt_of_le below low, took plain, answered⟩

theorem steps_called {guard : Deployment S C → Action C → Prop}
    (steps : (durable total initial).Steps guard d t) : d.calls ⊆ t.calls := by
  induction steps with
  | refl => exact List.Subset.refl _
  | tail _ last ih =>
    obtain ⟨a, -, next⟩ := last
    refine List.Subset.trans ih ?_
    cases step_moves next with
    | run member runs =>
      cases runs with
      | propose => exact List.subset_append_left _ _
      | hand | cancel | forward | receive | handle | respond | advance | restart =>
        exact List.Subset.refl _
    | network => exact List.Subset.refl _

end Step

theorem range_begins {low high : Nat} (le : low ≤ high) : List.range low <+: List.range high := by
  rw [← Nat.min_eq_left le, ← List.take_range]
  exact List.take_prefix _ _

omit [StateMachine S C] in
theorem common_commands (holds : Nat → C → Prop) (commands : Nat → C) (lengths : Nat → Nat)
    (total : Nat) (decided : ∀ p < total, ∀ i < lengths p, holds i (commands i)) :
    ∃ log : List C,
      (∀ instanceId command, log[instanceId]? = some command → holds instanceId command) ∧
      ∀ p < total, lengths p ≤ log.length ∧
        ∀ n ≤ lengths p, log.take n = (List.range n).map commands := by
  obtain ⟨log, before, source⟩ := exists_longest
    (fun p => (List.range (lengths p)).map commands) total fun p _ q _ => by
      rcases Nat.le_total (lengths p) (lengths q) with le | le
      · exact .inl ((range_begins le).map commands)
      · exact .inr ((range_begins le).map commands)
  refine ⟨log, fun instanceId command listed => ?_, fun p member => ⟨?_, fun n within => ?_⟩⟩
  · rcases source with rfl | ⟨p, member, rfl⟩
    · simp at listed
    · obtain ⟨inside, found⟩ := List.getElem?_eq_some_iff.mp listed
      simp only [List.getElem_map, List.getElem_range] at found
      simp only [List.length_map, List.length_range] at inside
      exact found ▸ decided p member instanceId inside
  · have fits := (before p member).length_le
    rwa [List.length_map, List.length_range] at fits
  · have whole := ((range_begins within).map commands).trans (before p member)
    simpa using (List.prefix_iff_eq_take.mp whole).symm

theorem exists_furthest {A : Type} (length : A → Nat) (moments : List A) :
    ∃ furthest, (∀ m ∈ moments, length m ≤ furthest) ∧
      ∀ i < furthest, ∃ m ∈ moments, i < length m := by
  induction moments with
  | nil => exact ⟨0, by simp, by simp⟩
  | cons first rest ih =>
    obtain ⟨furthest, within, reached⟩ := ih
    refine ⟨max (length first) furthest, fun m member => ?_, fun i below => ?_⟩
    · rcases List.mem_cons.mp member with rfl | later
      · exact Nat.le_max_left _ _
      · exact (within m later).trans (Nat.le_max_right _ _)
    · rcases lt_max_iff.mp below with here | later
      · exact ⟨first, List.mem_cons_self, here⟩
      · obtain ⟨m, member, further⟩ := reached i later
        exact ⟨m, List.mem_cons_of_mem _ member, further⟩

theorem replicated_crashed [Bincode (Message C)] [DecidableEq C] [Inhabited C] [Serde Nat]
    [Serde C] [Serde (AcceptedValue C)] {total : Nat} {initial : S} {t : Deployment S C}
    {past : List (Deployment S C × Action C × Deployment S C)}
    (bounded : total ≤ 2 ^ 32) (idempotent : Idempotent S)
    (run : (durable total initial).Past
      (fun d a => d.Short a ∧ d.Meets (Cluster.RaceFree total) a) past t) :
    ∃ log : List C,
      (∀ instanceId command, log[instanceId]? = some command →
        t.Decided total instanceId command ∧ ∃ q < total, (q, command) ∈ t.calls) ∧
      ∀ d ∈ Run.System.moments past t, ∀ p < total, ∃ n ≤ log.length,
        (d.hosts p).runtime.stateMachine = applied initial (log.take n) ∧
        (d.hosts p).runtime.lastAppliedCommandId ≤ n ∧
        n ≤ (d.hosts p).runtime.lastAppliedCommandId + 1 ∧
        ∀ answer ∈ (d.hosts p).runtime.answers, answer.1.forwardId = none →
          ∃ place ∈ d.placed, place.nodeId = p ∧ place.command = answer.1.command ∧
            outputAt initial log place.instanceId = some answer.2 := by
  obtain ⟨commands, caught⟩ := crashed_commands bounded idempotent run
  choose! lengths machine low high decided answers using caught
  choose furthest within reached using fun p =>
    exists_furthest (fun d => lengths d p) (Run.System.moments past t)
  obtain ⟨log, listed, fronts⟩ := common_commands
    (fun i command => t.Decided total i command ∧ ∃ q < total, (q, command) ∈ t.calls)
    commands furthest total fun p member i below => by
      obtain ⟨d, moment, inside⟩ := reached p i below
      obtain ⟨agreed, q, member', called⟩ := decided d moment p member i inside
      have steps := (run.moment moment).2
      exact ⟨agreed.grow (steps_grow steps), q, member', steps_called steps called⟩
  refine ⟨log, listed, fun d moment p member => ?_⟩
  obtain ⟨fits, front⟩ := fronts p member
  have inside := within p d moment
  refine ⟨lengths d p, inside.trans fits, ?_, low d moment p member, high d moment p member,
    fun answer sent plain => ?_⟩
  · rw [front _ inside, applied_range, machine d moment p member]
  · obtain ⟨place, below, ⟨request, placed⟩, answered⟩ :=
      answers d moment p member answer sent plain
    have here : log[place]? = some (commands place) := by
      have known := congrArg (fun first => first[place]?) (front _ inside)
      simpa [List.getElem?_take, below] using known
    refine ⟨_, placed, rfl, rfl, ?_⟩
    dsimp only
    rw [outputAt, here, front _ ((Nat.le_of_lt below).trans inside), applied_range]
    exact toOption_some.mpr answered

open KvStore

-- Nodes 0 and 1 set a key, and node 0 reads it; node 1 stops when the get is in its log.
def setRun : List (List (Action Command)) :=
  [[.network (.connect 0 1 fun _ => none), .network (.accept 0),
      .run 0 (.propose (.set "k" "v")), .run 0 .hand, .run 0 .hand, .run 0 .forward,
      .run 0 .forward],
    serve 1 1, serve 0 2, serve 1 0, serve 1 1, serve 1 0, serve 0 1, serve 1 1,
    List.replicate 6 (.run 1 .advance), serve 0 1, List.replicate 6 (.run 0 .advance)]

def getRun : List (List (Action Command)) :=
  [[.run 0 (.propose (.get "k")), .run 0 .hand, .run 0 .hand, .run 0 .forward, .run 0 .forward],
    serve 1 0, serve 1 1, serve 1 0, serve 0 1, serve 1 1, [.run 1 .advance, .run 1 .restart],
    serve 0 1, List.replicate 6 (.run 0 .advance)]

def readBack : Deployment InnerStateMachine Command :=
  Run.System.final (step 3 .new) (fun d a => d.Short a ∧ d.Meets (Cluster.RaceFree 3) a)
    (bootStored 3 .new) (setRun ++ getRun).flatten

theorem readBack_reachable : (durable 3 InnerStateMachine.new).Reachable
    (fun d a => d.Short a ∧ d.Meets (Cluster.RaceFree 3) a) readBack := by
  have starts : (durable 3 InnerStateMachine.new).init (bootStored 3 .new) :=
    ⟨bootStored_init 3 _, fun p _ => ⟨Runtime.boot (Cluster.config 3 p) .new,
      Runtime.boot_init _ _, rfl⟩⟩
  exact Run.System.final_reachable (fun _ _ _ next => next) (.init starts) (by decide +kernel)

-- Node 0 is restarted as well, and has answered nobody since.
def readOn : Deployment InnerStateMachine Command :=
  (step 3 .new readBack (.run 0 .restart)).getD readBack

theorem readOn_run : ∃ past, readBack ∈ Run.System.moments past readOn ∧
    (durable 3 InnerStateMachine.new).Past
      (fun d a => d.Short a ∧ d.Meets (Cluster.RaceFree 3) a) past readOn := by
  obtain ⟨past, run⟩ := readBack_reachable.past
  have restarts : (step 3 .new readBack (.run 0 .restart)).isSome := by decide +kernel
  have allowed : readBack.Short (.run 0 .restart) ∧
      readBack.Meets (Cluster.RaceFree 3) (.run 0 .restart) := by decide +kernel
  obtain ⟨t, next⟩ := Option.isSome_iff_exists.mp restarts
  have same : readOn = t := by rw [readOn, next, Option.getD_some]
  refine ⟨_, ?_, same ▸ run.step allowed next⟩
  simp [Run.System.moments]

theorem replicated_crashed_read :
    (readOn.hosts 0).runtime.answers.length = 0 ∧
      (readOn.hosts 1).runtime.lastAppliedCommandId = 1 ∧
      ∃ log : List Command, ∃ n ≤ log.length,
        (readOn.hosts 1).runtime.stateMachine = applied .new (log.take n) ∧
        ∃ place ∈ readBack.placed, place.nodeId = 0 ∧ place.command = .get "k" ∧
          outputAt InnerStateMachine.new log place.instanceId = some (some "v") := by
  obtain ⟨past, earlier, run⟩ := readOn_run
  obtain ⟨log, -, replicas⟩ := replicated_crashed (by decide) takes_repeats run
  obtain ⟨n, within, machine, -⟩ :=
    replicas readOn (List.mem_append_right _ (List.mem_singleton_self _)) 1 (by decide)
  obtain ⟨-, -, -, -, -, answered⟩ := replicas readBack earlier 0 (by decide)
  have facts : (readOn.hosts 0).runtime.answers.length = 0 ∧
      (readOn.hosts 1).runtime.lastAppliedCommandId = 1 ∧
      (⟨1, .get "k", none⟩, (some "v" : Option String)) ∈ (readBack.hosts 0).runtime.answers := by
    decide +kernel
  obtain ⟨silent, once, sent⟩ := facts
  obtain ⟨place, placed, node, same, output⟩ := answered _ sent rfl
  exact ⟨silent, once, log, n, within, machine, place, placed, node, same, output⟩

end Deployment

end Smr
