import Smr.Deployment.Simulation

set_option autoImplicit false

namespace Smr

namespace Network

variable {T : Type}

def sentBy (s : Network T) (p : Nat) : List T :=
  s.sent.filterMap fun e => if e.1 = p then some e.2 else none

theorem Moves.receives [Bincode T] {total : Nat} {s t : Network T} {a : Action T}
    (moves : Moves total s a t) (running : ∀ p, a ≠ .stop p) (p : Nat)
    (receives : (s.endpoints p).receives = true) : (t.endpoints p).receives = true := by
  have here (links : List (Link T)) (q : Nat) (endpoint : Endpoint T)
      (same : endpoint.receives = (s.endpoints q).receives) :
      (({ s with links := links }.put q endpoint).endpoints p).receives = true := by
    by_cases other : p = q
    · subst other
      simpa [put, same] using receives
    · simpa [put, other] using receives
  cases moves with
  | @connect q peer breaks =>
    obtain ⟨endpoint, whole, -, same, -⟩ := s.connect_put q peer breaks
    rw [whole]
    exact here _ q endpoint same
  | send =>
    unfold Network.send
    split <;> exact receives
  | accept | pass => exact here _ _ _ rfl
  | leave found joins reads read dropped left =>
    refine here _ _ _ ?_
    rcases left with rfl | ⟨-, rfl⟩ <;> rfl
  | fail found joins open_yet left =>
    refine here _ _ _ ?_
    rcases left with rfl | ⟨-, rfl⟩ <;> rfl
  | @receive q receipt inbox => exact here s.links q { s.endpoints q with inbox := inbox } rfl
  | @stop q => exact absurd rfl (running q)
  | @restart q =>
    by_cases other : p = q
    · subst other
      simp [Network.restart, put, Endpoint.new]
    · simpa [Network.restart, put, other] using receives

theorem Moves.sentBy [Bincode T] {total p : Nat} {s t : Network T} {a : Action T}
    (moves : Moves total s a t) (silent : ∀ message, a ≠ .send p message) :
    t.sentBy p = s.sentBy p := by
  unfold Network.sentBy
  rw [moves.history.1, List.filterMap_append]
  cases a with
  | send q message =>
    have other : q ≠ p := fun same => silent message (by rw [same])
    simp [broadcasts, other]
  | connect | accept | read | fail | receive | stop | restart => simp [broadcasts]

end Network

variable {S C : Type} [StateMachine S C]

structure Host.Looped (host : Host S C) : Prop where
  room : host.outbox.length ≤ 100
  answered : host.runtime.point = .listening → host.responses = []
  listens : host.received.isSome → host.runtime.point = .listening

def Host.waiting (self : Host S C) : List (Message C × Nat) :=
  self.outbox ++ self.handing

theorem Host.Looped.busy {host : Host S C} (looped : host.Looped)
    (many : 100 < host.waiting.length) : host.handing ≠ [] := by
  intro quiet
  rw [Host.waiting, quiet, List.append_nil] at many
  exact absurd looped.room (Nat.not_le.mpr many)

namespace Deployment

def Stays (p : Nat) : Action C → Prop
  | .run q .cancel | .run q .restart => q ≠ p
  | _ => True

def Own (p : Nat) (a : Action C) : Prop :=
  Stays p a ∧ ∃ task, a = .run p task

-- The loop waits with its message for the lock that propose holds, and what propose hands over
-- does not fit in the outbox that the loop empties.
def Deadlocked (d : Deployment S C) (p : Nat) : Prop :=
  (d.hosts p).received.isSome ∧ 100 < (d.hosts p).waiting.length

instance (d : Deployment S C) (p : Nat) : Decidable (d.Deadlocked p) :=
  inferInstanceAs (Decidable (_ ∧ _))

section Step

variable [Bincode (Message C)] [DecidableEq C] [Serde Nat] [Serde C] [Serde (AcceptedValue C)]
  {total p : Nat} {initial : S} {d t : Deployment S C} {a : Action C}

theorem Runs.elsewhere {task : Task C} (runs : Runs total initial d p task t) {q : Nat}
    (other : q ≠ p) : t.hosts q = d.hosts q := by
  cases runs <;> exact Function.update_of_ne other _ _

theorem Runs.looped {task : Task C} (runs : Runs total initial d p task t)
    (looped : (d.hosts p).Looped) : (t.hosts p).Looped := by
  obtain ⟨room, answered, listens⟩ := looped
  cases runs with
  | propose quiet idle done =>
    simp only [put, Function.update_self]
    exact ⟨room, answered, listens⟩
  | hand queued free =>
    simp only [put, Function.update_self]
    exact ⟨by simpa using free, answered, listens⟩
  | cancel =>
    simp only [put, Function.update_self]
    exact ⟨room, answered, listens⟩
  | forward unread idle queued sent =>
    simp only [put, Function.update_self]
    rw [queued] at room
    exact ⟨Nat.le_of_succ_le room, answered, listens⟩
  | receive unread idle arrived taken =>
    simp only [put, Function.update_self]
    exact ⟨room, answered, fun _ => idle⟩
  | handle read quiet idle done =>
    simp only [put, Function.update_self]
    exact ⟨room, by simp, by simp⟩
  | respond queued sent =>
    simp only [put, Function.update_self]
    refine ⟨room, fun idle => ?_, listens⟩
    rw [answered idle] at queued
    simp at queued
  | advance settled advances =>
    simp only [put, Function.update_self]
    refine ⟨room, fun _ => settled, fun read => ?_⟩
    simp [SmrRuntime.advance, listens read] at advances
  | restart recovers fresh =>
    simp only [put, Function.update_self]
    exact ⟨Nat.zero_le _, fun _ => rfl, by simp [Host.idle]⟩

structure Ready (total : Nat) (initial : S) (p : Nat) (d : Deployment S C) : Prop where
  looped : (d.hosts p).Looped
  receives : (d.network.endpoints p).receives = true
  fetched : Runtime.Fetched (Cluster.config total p) (d.hosts p).runtime

theorem Ready.step (ready : Ready total initial p d) (moves : Moves total initial d a t) :
    Ready total initial p t := by
  obtain ⟨looped, receives, fetched⟩ := ready
  cases moves with
  | @run q task _ member runs =>
    refine ⟨?_, ?_, ?_⟩
    · by_cases other : p = q
      · subst other
        exact runs.looped looped
      · rw [runs.elsewhere other]
        exact looped
    · rcases runs.network with ⟨-, same⟩ | ⟨b, transmitted, stepped⟩
      · rw [same]
        exact receives
      · refine (Network.step_moves stepped).receives ?_ p receives
        rintro q rfl
        cases task <;> simp [transmits] at transmitted
    · rcases runs.runtime p with same | ⟨rfl, b, -, stepped⟩
      · rw [same]
        exact fetched
      · exact fetched.step stepped
  | network wires next =>
    refine ⟨looped, (Network.step_moves next).receives ?_ p receives, fetched⟩
    rintro q rfl
    exact wires.elim

theorem ready_reachable {guard : Deployment S C → Action C → Prop} (member : p < total)
    (reachable : (system total initial).Reachable guard d) : Ready total initial p d := by
  refine reachable.invariant (Ready total initial p) ?_
    fun _ _ _ _ ready _ next => ready.step (step_moves next)
  intro d starts
  obtain ⟨runtime, boots, same⟩ := Init.boots starts p member
  refine ⟨?_, ?_, ?_⟩
  · rw [same]
    exact ⟨Nat.zero_le _, fun _ => rfl, by simp [Host.idle]⟩
  · rw [Init.network starts]
    rfl
  · rw [same]
    have begins : (Runtime.system (Cluster.config total p) initial).Reachable
        (fun _ _ => True) runtime := .init boots
    exact Runtime.fetched_reachable begins

-- Some steps of p's own bring p there, while no write to a connection blocks.
def Leads (total : Nat) (initial : S) (p : Nat) (d : Deployment S C) (host : Host S C) : Prop :=
  ∃ t, (system total initial).Steps (fun _ => Own p) d t ∧ Ready total initial p t ∧
    t.hosts p = host

theorem Leads.trans {host last : Host S C} (leads : Leads total initial p d host)
    (onward : ∀ t, Ready total initial p t → t.hosts p = host → Leads total initial p t last) :
    Leads total initial p d last := by
  obtain ⟨t, steps, ready, here⟩ := leads
  obtain ⟨t', steps', ready', there⟩ := onward t ready here
  exact ⟨t', steps.trans steps', ready', there⟩

theorem Ready.stay (ready : Ready total initial p d) : Leads total initial p d (d.hosts p) :=
  ⟨d, .refl, ready, rfl⟩

theorem Ready.goes {task : Task C} (ready : Ready total initial p d) (member : p < total)
    (next : d.run total initial p task = some t) (stays : Stays p (.run p task)) :
    Leads total initial p d (t.hosts p) := by
  have stepped : Deployment.step total initial d (.run p task) = some t := by
    rw [Deployment.step, if_pos member, next]
  exact ⟨t, .one ⟨stays, task, rfl⟩ stepped, ready.step (step_moves stepped), rfl⟩

omit [DecidableEq C] [Serde C] in
theorem Ready.sends (ready : Ready total initial p d) (member : p < total)
    (item : Message C × Nat) (host : Host S C) :
    ∃ t, d.send total p item host = some t ∧ t.hosts p = host := by
  rw [send, Network.step, if_pos ⟨member, ready.receives⟩]
  exact ⟨_, rfl, by simp [put]⟩

theorem Ready.responds (ready : Ready total initial p d) (member : p < total) :
    Leads total initial p d { d.hosts p with responses := [] } := by
  induction queued : (d.hosts p).responses generalizing d with
  | nil => exact queued ▸ ready.stay
  | cons item rest ih =>
    obtain ⟨t, sent, here⟩ := ready.sends member item { d.hosts p with responses := rest }
    have next : d.run total initial p .respond = some t := by
      simp only [run, queued, sent]
    refine (ready.goes member next trivial).trans fun t' ready' same => ?_
    rw [here] at same
    have leads := ih ready' (by rw [same])
    rwa [same] at leads

theorem Ready.hands (ready : Ready total initial p d) (member : p < total)
    (room : (d.hosts p).waiting.length ≤ 100) :
    Leads total initial p d
      { d.hosts p with handing := [], outbox := (d.hosts p).waiting } := by
  unfold Host.waiting at room ⊢
  induction queued : (d.hosts p).handing generalizing d with
  | nil =>
    rw [List.append_nil]
    exact queued ▸ ready.stay
  | cons item rest ih =>
    simp only [queued, List.length_append, List.length_cons] at room
    have next : d.run total initial p .hand = some (d.put p
        { d.hosts p with handing := rest, outbox := (d.hosts p).outbox ++ [item] }) := by
      simp only [run, queued]
      rw [if_pos (by omega)]
    refine (ready.goes member next trivial).trans fun t ready' same => ?_
    simp only [put, Function.update_self] at same
    have leads := ih ready' (by rw [same]; simp; omega) (by rw [same])
    rw [same] at leads
    simpa using leads

theorem Ready.settles (ready : Ready total initial p d) (member : p < total)
    (answered : (d.hosts p).responses = []) :
    ∃ runtime : SmrRuntime S C, runtime.point = .listening ∧
      Leads total initial p d { d.hosts p with runtime := runtime } := by
  induction many : Runtime.remaining (d.hosts p).runtime using Nat.strong_induction_on
    generalizing d with
  | _ many' ih =>
    by_cases listens : (d.hosts p).runtime.point = .listening
    · exact ⟨_, listens, ready.stay⟩
    · obtain ⟨runtime, advances⟩ := ready.fetched.advances listens
      have next : d.run total initial p .advance =
          some (d.put p { d.hosts p with runtime := runtime }) := by
        simp only [run, answered, advances, Option.map_some]
      have less := (ready.fetched.advance (SmrRuntime.advance_some advances)).2
      obtain ⟨t, steps, ready', same⟩ := ready.goes member next trivial
      simp only [put, Function.update_self] at same
      obtain ⟨last, idle, leads⟩ := ih _ (many ▸ less) ready' (by rw [same]; exact answered)
        (by rw [same])
      obtain ⟨t', steps', ready', same'⟩ := leads
      exact ⟨last, idle, t', steps.trans steps', ready', by rw [same', same]⟩

theorem Ready.empties (ready : Ready total initial p d) (member : p < total)
    (unread : (d.hosts p).received = none) (listens : (d.hosts p).runtime.point = .listening) :
    Leads total initial p d { d.hosts p with handing := [], outbox := [] } := by
  induction many : 2 * (d.hosts p).handing.length + (d.hosts p).outbox.length
    using Nat.strong_induction_on generalizing d with
  | _ many' ih =>
    cases queued : (d.hosts p).outbox with
    | cons item outbox =>
      obtain ⟨t, sent, here⟩ := ready.sends member item { d.hosts p with outbox := outbox }
      have next : d.run total initial p .forward = some t := by
        simp only [run]
        split
        next _ _ first =>
          obtain ⟨rfl, rfl⟩ := List.cons.inj (queued.symm.trans first)
          exact sent
        next blocked => exact (blocked item outbox unread listens queued).elim
      refine (ready.goes member next trivial).trans fun t' ready' same => ?_
      rw [here] at same
      have leads := ih _ (by rw [← many, queued, same, List.length_cons]; exact Nat.lt_succ_self _)
        ready' (by rw [same]; exact unread) (by rw [same]; exact listens) rfl
      rwa [same] at leads
    | nil =>
      cases waits : (d.hosts p).handing with
      | cons item handing =>
        have next : d.run total initial p .hand =
            some (d.put p { d.hosts p with handing := handing, outbox := [item] }) := by
          simp [run, queued, waits]
        refine (ready.goes member next trivial).trans fun t ready' same => ?_
        simp only [put, Function.update_self] at same
        have leads := ih _ (by rw [← many, queued, waits, same]; simp; omega) ready'
          (by rw [same]; exact unread) (by rw [same]; exact listens) rfl
        rwa [same] at leads
      | nil =>
        have same : { d.hosts p with handing := [], outbox := [] } = d.hosts p := by
          generalize d.hosts p = host at queued waits
          cases host
          subst queued waits
          rfl
        exact same ▸ ready.stay

theorem Ready.unread_empties (ready : Ready total initial p d) (member : p < total)
    (unread : (d.hosts p).received = none) :
    ∃ host : Host S C, host.queue = [] ∧ Leads total initial p d host := by
  obtain ⟨t, steps, ready', same⟩ := ready.responds member
  obtain ⟨runtime, listens, leads⟩ := ready'.settles member (by rw [same])
  obtain ⟨t', steps', ready', same'⟩ := leads
  rw [same] at same'
  obtain ⟨last, onward, emptied, same''⟩ :=
    ready'.empties member (by rw [same']; exact unread) (by rw [same']; exact listens)
  rw [same'] at same''
  exact ⟨_, rfl, last, steps.trans (steps'.trans onward), emptied, same''⟩

theorem Ready.handles (ready : Ready total initial p d) (member : p < total)
    {receipt : Receipt (Message C)} (read : (d.hosts p).received = some receipt)
    (quiet : (d.hosts p).handing = []) {msgs : List (Message C)}
    (done : ((d.hosts p).runtime.algorithm.handleMessage receipt.message).result = .ok msgs) :
    ∃ host : Host S C, host.received = none ∧ Leads total initial p d host := by
  have listens := ready.looped.listens (by rw [read]; rfl)
  have next : (d.run total initial p .handle).isSome := by
    simp [run, read, quiet, listens, done]
  obtain ⟨t, next⟩ := Option.isSome_iff_exists.mp next
  refine ⟨t.hosts p, ?_, ready.goes member next trivial⟩
  cases run_runs next with
  | handle => simp [put]

theorem Deadlocked.step (stuck : d.Deadlocked p) (ready : Ready total initial p d)
    (stays : Stays p a) (moves : Moves total initial d a t) :
    (t.hosts p).received = (d.hosts p).received ∧ (t.hosts p).waiting = (d.hosts p).waiting ∧
      (t.hosts p).runtime = (d.hosts p).runtime ∧
      t.network.sentBy p = d.network.sentBy p := by
  obtain ⟨read, many⟩ := stuck
  have listens := ready.looped.listens read
  have answered := ready.looped.answered listens
  have busy := ready.looped.busy many
  have still (sent : t.network.sentBy p = d.network.sentBy p) (same : t.hosts p = d.hosts p) :
      (t.hosts p).received = (d.hosts p).received ∧ (t.hosts p).waiting = (d.hosts p).waiting ∧
        (t.hosts p).runtime = (d.hosts p).runtime ∧
        t.network.sentBy p = d.network.sentBy p :=
    ⟨by rw [same], by rw [same], by rw [same], sent⟩
  cases moves with
  | @run q task _ member runs =>
    by_cases other : p = q
    · subst other
      cases runs with
      | propose quiet | handle _ quiet => exact absurd quiet busy
      | @hand item rest queued free =>
        have same : Host.waiting
            { d.hosts p with handing := rest, outbox := (d.hosts p).outbox ++ [item] } =
              (d.hosts p).waiting := by
          simp [Host.waiting, queued]
        simp only [put, Function.update_self]
        exact ⟨trivial, same, trivial, trivial⟩
      | cancel | restart => exact absurd rfl stays
      | forward unread | receive unread => simp [unread] at read
      | respond queued => simp [answered] at queued
      | advance settled advances => simp [SmrRuntime.advance, listens] at advances
    · refine still ?_ (runs.elsewhere other)
      rcases runs.network with ⟨-, same⟩ | ⟨b, transmitted, stepped⟩
      · rw [same]
      · refine (Network.step_moves stepped).sentBy ?_
        rintro message rfl
        cases task <;> simp [transmits] at transmitted <;> exact other transmitted.2.symm
  | network wires next =>
    refine still ((Network.step_moves next).sentBy ?_) rfl
    rintro message rfl
    exact wires.elim

theorem deadlocked_stays {guard : Deployment S C → Action C → Prop} (member : p < total)
    (reachable : (system total initial).Reachable guard d) (stuck : d.Deadlocked p)
    (steps : (system total initial).Steps (fun _ => Stays p) d t) :
    (t.hosts p).received = (d.hosts p).received ∧ (t.hosts p).waiting = (d.hosts p).waiting ∧
      (t.hosts p).handing ≠ [] ∧ (t.hosts p).runtime = (d.hosts p).runtime ∧
      t.network.sentBy p = d.network.sentBy p := by
  have ready := ready_reachable member reachable
  have halts : Ready total initial p t ∧ (t.hosts p).received = (d.hosts p).received ∧
      (t.hosts p).waiting = (d.hosts p).waiting ∧ (t.hosts p).runtime = (d.hosts p).runtime ∧
      t.network.sentBy p = d.network.sentBy p := by
    induction steps with
    | refl => exact ⟨ready, rfl, rfl, rfl, rfl⟩
    | @tail s _ _ last ih =>
      obtain ⟨a, stays, next⟩ := last
      obtain ⟨ready', read, waiting, runtime, sent⟩ := ih
      have stuck' : s.Deadlocked p := by
        rw [Deadlocked, read, waiting]
        exact stuck
      obtain ⟨read', waiting', runtime', sent'⟩ := stuck'.step ready' stays (step_moves next)
      exact ⟨ready'.step (step_moves next), read'.trans read, waiting'.trans waiting,
        runtime'.trans runtime, sent'.trans sent⟩
  obtain ⟨ready', read, waiting, runtime, sent⟩ := halts
  exact ⟨read, waiting, ready'.looped.busy (waiting ▸ stuck.2), runtime, sent⟩

-- In all other states it can bring all its messages out on its own, if the message in its hand is
-- handled without an error and no write to a connection blocks.
theorem undeadlocked_empties {guard : Deployment S C → Action C → Prop} (member : p < total)
    (reachable : (system total initial).Reachable guard d) (free : ¬d.Deadlocked p)
    (sound : ∀ receipt ∈ (d.hosts p).received, ∃ msgs,
      ((d.hosts p).runtime.algorithm.handleMessage receipt.message).result = .ok msgs) :
    ∃ t, (system total initial).Steps (fun _ => Own p) d t ∧ (t.hosts p).queue = [] := by
  have ready := ready_reachable member reachable
  cases read : (d.hosts p).received with
  | none =>
    obtain ⟨host, empty, t, steps, -, same⟩ := ready.unread_empties member read
    exact ⟨t, steps, same ▸ empty⟩
  | some receipt =>
    have fits : (d.hosts p).waiting.length ≤ 100 := by
      refine Nat.le_of_not_lt fun many => free ⟨?_, many⟩
      rw [read]
      rfl
    obtain ⟨msgs, done⟩ := sound receipt read
    obtain ⟨t, steps, ready', same⟩ := ready.hands member fits
    obtain ⟨host, read', t', steps', ready', same'⟩ := ready'.handles member
      (by rw [same]; exact read) (by rw [same]) (by rw [same]; exact done)
    obtain ⟨last, empty, t'', onward, -, same''⟩ :=
      ready'.unread_empties member (by rw [same']; exact read')
    exact ⟨t'', steps.trans (steps'.trans onward), same'' ▸ empty⟩

end Step

-- A message of node 1 waits at node 0, where 51 commands are proposed before it is taken.
def jammedRun : List (Action Nat) :=
  [.network (.connect 0 1 fun _ => none), .network (.accept 0), .run 1 (.propose 7), .run 1 .hand,
    .run 1 .forward, .network (.read 0 0)] ++
  (List.replicate 50 [.run 0 (.propose 1), .run 0 .hand, .run 0 .hand]).flatten ++
  [.run 0 (.propose 1), .run 0 .receive]

def jammed : Deployment Runtime.Purse Nat :=
  Run.System.final (step 3 ⟨10⟩) (fun _ _ => True) (boot 3 ⟨10⟩) jammedRun

theorem deadlocked_stays_jammed :
    jammed.Deadlocked 0 ∧ ∀ t, (system 3 (⟨10⟩ : Runtime.Purse)).Steps (fun _ => Stays 0) jammed t →
      (t.hosts 0).waiting.length = 102 ∧ t.network.sentBy 0 = [] := by
  have starts : (system 3 (⟨10⟩ : Runtime.Purse)).init (boot 3 ⟨10⟩) := boot_init 3 _
  have reachable : (system 3 (⟨10⟩ : Runtime.Purse)).Reachable (fun _ _ => True) jammed :=
    Run.System.final_reachable (fun _ _ _ next => next) (.init starts) (by decide +kernel)
  have state : jammed.Deadlocked 0 ∧ (jammed.hosts 0).waiting.length = 102 ∧
      (jammed.network.sentBy 0).length = 0 := by
    decide +kernel
  obtain ⟨stuck, many, silent⟩ := state
  refine ⟨stuck, fun t steps => ?_⟩
  obtain ⟨-, waiting, -, -, sent⟩ := deadlocked_stays (by decide) reachable stuck steps
  rw [waiting, sent]
  exact ⟨many, List.length_eq_zero_iff.mp silent⟩

end Deployment

end Smr
