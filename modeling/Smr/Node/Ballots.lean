import Smr.Node.MultiPaxosNode
import Smr.Synod.Headroom

set_option autoImplicit false

namespace Smr

variable {C : Type}

def InReach (block k : Nat) : Prop :=
  k = 2 * block + 1 ∨ 3 * block + 2 ≤ k

instance (block k : Nat) : Decidable (InReach block k) :=
  inferInstanceAs (Decidable (k = 2 * block + 1 ∨ 3 * block + 2 ≤ k))

def Possible (nodeId totalNodes ballot : Nat) : Prop :=
  ballot ≤ u32Max ∧ ballot % totalNodes = nodeId % totalNodes ∧
    InReach (nodeId / totalNodes) (ballot / totalNodes)

section Blocks

variable {nodeId totalNodes : Nat}

theorem next_split (positive : totalNodes ≠ 0) (highest nodeId : Nat) :
    ((highest / totalNodes + 1) * totalNodes + nodeId) % totalNodes = nodeId % totalNodes ∧
      ((highest / totalNodes + 1) * totalNodes + nodeId) / totalNodes =
        highest / totalNodes + 1 + nodeId / totalNodes := by
  have wide := Nat.pos_of_ne_zero positive
  constructor
  · rw [Nat.mul_comm, Nat.mul_add_mod]
  · rw [Nat.mul_comm, Nat.mul_add_div wide]

theorem first_possible (positive : totalNodes ≠ 0)
    (fits : (nodeId / totalNodes + 1) * totalNodes + nodeId ≤ u32Max) :
    Possible nodeId totalNodes ((nodeId / totalNodes + 1) * totalNodes + nodeId) := by
  obtain ⟨rest, block⟩ := next_split positive nodeId nodeId
  exact ⟨fits, rest, .inl (by omega)⟩

theorem later_possible (positive : totalNodes ≠ 0) {highest : Nat}
    (beyond : 2 * (nodeId / totalNodes) + 1 ≤ highest / totalNodes)
    (fits : (highest / totalNodes + 1) * totalNodes + nodeId ≤ u32Max) :
    Possible nodeId totalNodes ((highest / totalNodes + 1) * totalNodes + nodeId) := by
  obtain ⟨rest, block⟩ := next_split positive highest nodeId
  exact ⟨fits, rest, .inr (by omega)⟩

theorem Possible.block {ballot : Nat} (possible : Possible nodeId totalNodes ballot) :
    2 * (nodeId / totalNodes) + 1 ≤ ballot / totalNodes := by
  obtain ⟨-, -, first | later⟩ := possible <;> omega

end Blocks

namespace InnerState

structure Numbered (nodeId totalNodes : Nat) (state : InnerState C) : Prop where
  own : state.header.proposerId = nodeId
  total : state.header.totalNodes = totalNodes
  ballot : (¬state.Begun ∧ state.header.ballot = nodeId) ∨
    2 * (nodeId / totalNodes) + 1 ≤ state.header.ballot / totalNodes

theorem Answers.prepares {self next : InnerState C} {input : ProposerCall C} {p : Prepare}
    (answers : self.Answers input (some (.prepareMsg p)) next) :
    ∃ highest, (¬self.Begun → highest = 0) ∧ p.ballot = self.ballotAbove highest ∧
      self.header.totalNodes ≠ 0 ∧ p.ballot ≤ u32Max ∧ next.header.ballot = p.ballot := by
  generalize answered : some (MessageKind.prepareMsg p) = response at answers
  cases answers with
  | prepared value positive fits =>
    obtain rfl : p = _ := by simpa using answered
    exact ⟨0, fun _ => rfl, by simp [ballotAbove, StateWrapper.nextBallot], positive, fits, rfl⟩
  | accepted ballot value => simp at answered
  | stepped step =>
    cases step with
    | request w cmd forwardId positive fits =>
      obtain rfl : p = _ := by simpa using answered
      exact ⟨0, fun _ => rfl, by simp [ballotAbove, StateWrapper.nextBallot, header], positive, fits,
        rfl⟩
    | retryPrepare w m refused positive fits =>
      obtain rfl : p = _ := by simpa using answered
      exact ⟨m.maxBallot, fun initial => absurd trivial initial, retry_ballot w m.maxBallot,
        positive, fits, rfl⟩
    | retryAccept w m refused positive fits =>
      obtain rfl : p = _ := by simpa using answered
      exact ⟨m.maxBallot, fun initial => absurd trivial initial, retry_ballot w m.maxBallot,
        positive, fits, rfl⟩
    | _ => simp at answered

theorem Answers.unbegun {self next : InnerState C} {input : ProposerCall C}
    {response : Option (MessageKind C)} (answers : self.Answers input response next)
    (ordinary : input.Ordinary) (unbegun : ¬self.Begun)
    (quiet : ∀ p, response ≠ some (.prepareMsg p)) : ¬next.Begun := by
  cases answers with
  | prepared value positive fits => exact absurd rfl (quiet _)
  | accepted ballot value => exact ordinary.elim
  | stepped step =>
    cases step with
    | request w cmd forwardId positive fits => exact absurd rfl (quiet _)
    | ignored => exact unbegun
    | _ => exact absurd trivial unbegun

theorem Numbered.possible {self next : InnerState C} {input : ProposerCall C} {p : Prepare}
    {nodeId totalNodes : Nat} (numbered : self.Numbered nodeId totalNodes)
    (answers : self.Answers input (some (.prepareMsg p)) next) :
    Possible nodeId totalNodes p.ballot := by
  obtain ⟨highest, first, ballot, positive, fits, -⟩ := answers.prepares
  unfold ballotAbove at ballot
  rw [numbered.own, numbered.total] at ballot
  rw [numbered.total] at positive
  rw [ballot] at fits ⊢
  rcases numbered.ballot with ⟨untouched, own⟩ | beyond
  · rw [first untouched, own, Nat.max_zero] at fits ⊢
    exact first_possible positive fits
  · exact later_possible positive
      (Nat.le_trans beyond (Nat.div_le_div_right (Nat.le_max_left _ _))) fits

theorem Numbered.answers {self next : InnerState C} {input : ProposerCall C}
    {response : Option (MessageKind C)} {nodeId totalNodes : Nat}
    (numbered : self.Numbered nodeId totalNodes) (answers : self.Answers input response next)
    (ordinary : input.Ordinary) : next.Numbered nodeId totalNodes := by
  have kept := answers.configured ⟨rfl, rfl, rfl⟩
  refine ⟨kept.proposerId.trans numbered.own, kept.totalNodes.trans numbered.total, ?_⟩
  rcases answers.ballots ordinary with ⟨p, rfl, -, same⟩ | ⟨a, -, proposing, -, same, -⟩ |
    ⟨quiet, -, same, -⟩
  · exact .inr (same ▸ (numbered.possible answers).block)
  · rw [same]
    refine .inr (numbered.ballot.resolve_left fun ⟨untouched, _⟩ => untouched ?_)
    cases self with
    | proposal w => trivial
    | initial w | accepting w | learning w => exact proposing.elim
  · rw [same]
    exact numbered.ballot.imp_left fun ⟨untouched, own⟩ =>
      ⟨answers.unbegun ordinary untouched quiet, own⟩

end InnerState

def StateWrapper.withNacks (self : StateWrapper (ProposalState C)) (nacks : Nat) :
    StateWrapper (ProposalState C) :=
  { self with state := { self.state with nacks := nacks } }

namespace SmrConfig

open Proposer

theorem call_handles {state next : InnerState C} {message : MessageKind C}
    {response : Option (MessageKind C)}
    (handled : state.handleMessage message = .ok (response, next)) :
    Proposer.call ⟨state⟩ (.handleMessage message) = .ok (response, ⟨next⟩) := by
  simp only [Proposer.call, Proposer.handleMessage, handled, bind, Except.bind, pure, Except.pure]

variable (C) in
def proposer (config : SmrConfig) : Proposer C :=
  Proposer.new config.nodeId config.quorum config.totalNodes

def Started (led : Set Nat) (past : Past C) : Prop :=
  (∀ call ∈ past, call.input.Ordinary) ∨
  ∃ first rest ballot value, past = first :: rest ∧ first.input = .newAccept ballot value ∧
    ballot ∈ led ∧ ∀ call ∈ rest, call.input.Ordinary

variable (C) in
def asked (config : SmrConfig) : Nat → Set Nat
  | 0 => ∅
  | n + 1 => { ballot | ∃ (past : Past C) (self : Proposer C), Run (config.proposer C) past self ∧
      Started (asked config n) past ∧ ballot ∈ prepareBallots past }

variable (C) in
def Issues (config : SmrConfig) (ballot : Nat) : Prop :=
  ∃ n, ballot ∈ config.asked C n

section Runs

variable {config : SmrConfig} {past : Past C} {start self : Proposer C}

theorem numbered_run (prior : Past C)
    (numbered : start.innerState.Numbered config.nodeId config.totalNodes)
    (possible : ∀ ballot ∈ prepareBallots prior,
      Possible config.nodeId config.totalNodes ballot)
    (run : Run start past self) (ordinary : ∀ call ∈ past, call.input.Ordinary) :
    self.innerState.Numbered config.nodeId config.totalNodes ∧
      ∀ ballot ∈ prepareBallots (prior ++ past),
        Possible config.nodeId config.totalNodes ballot := by
  induction run with
  | start => exact ⟨numbered, by simpa using possible⟩
  | @call past s t input output earlier now ih =>
    obtain ⟨before, below⟩ := ih fun call asked => ordinary call (List.mem_append_left _ asked)
    have answers := call_answers now
    refine ⟨before.answers answers (ordinary ⟨s, input, output, t⟩ (by simp)), ?_⟩
    rw [← List.append_assoc, prepareBallots_append]
    intro ballot asked
    rcases List.mem_append.mp asked with older | new
    · exact below ballot older
    · cases output with
      | none => simp [prepareBallots] at new
      | some message =>
        cases message with
        | prepareMsg p =>
          obtain rfl : ballot = p.ballot := by simpa [prepareBallots] using new
          exact before.possible answers
        | _ => simp [prepareBallots] at new

theorem proposer_numbered :
    (config.proposer C).innerState.Numbered config.nodeId config.totalNodes :=
  ⟨rfl, rfl, .inl ⟨id, rfl⟩⟩

theorem led_numbered {first : Machine.Call (Proposer C) (ProposerCall C) (Option (MessageKind C))}
    {rest : Past C} {led : Nat} {value : C} (run : Run (config.proposer C) (first :: rest) self)
    (input : first.input = .newAccept led value)
    (possible : Possible config.nodeId config.totalNodes led) :
    first.after.innerState.Numbered config.nodeId config.totalNodes ∧
      prepareBallots [first] = [] ∧ Run first.after rest self := by
  obtain ⟨-, now, later⟩ := Machine.Run.cons_inv run
  have answers := call_answers now
  rw [input] at answers
  generalize answered : first.output = output, reached : first.after.innerState = state at answers
  cases answers with
  | accepted ballot value =>
    exact ⟨⟨rfl, rfl, .inr possible.block⟩, by simp [prepareBallots, answered], later⟩

theorem asked_possible (n : Nat) {ballot : Nat} (asked : ballot ∈ config.asked C n) :
    Possible config.nodeId config.totalNodes ballot := by
  induction n generalizing ballot with
  | zero => exact absurd asked (Set.notMem_empty _)
  | succ n ih =>
    obtain ⟨past, self, run, started, prepared⟩ := asked
    rcases started with ordinary | ⟨first, rest, led, value, rfl, input, leads, ordinary⟩
    · exact (numbered_run [] proposer_numbered (by simp [prepareBallots]) run
        ordinary).2 ballot (by simpa using prepared)
    · obtain ⟨numbered, quiet, later⟩ := led_numbered run input (ih leads)
      have possible := (numbered_run [first] numbered (by simp [quiet]) later ordinary).2
      exact possible ballot (by simpa using prepared)

theorem tolerated_run (w : StateWrapper (ProposalState C)) (m : NackPrepare) (count : Nat)
    (room : w.state.nacks + count ≤ w.totalNodes - w.quorumSize)
    (fits : ∀ nacks, nacks ≤ w.totalNodes - w.quorumSize →
      (InnerState.proposal (w.withNacks nacks)).Headroom (.nackPrepareMsg m)) :
    ∃ past : Past C, Run ⟨.proposal w⟩ past ⟨.proposal (w.withNacks (w.state.nacks + count))⟩ ∧
      (∀ call ∈ past, call.input.Ordinary) ∧ prepareBallots past = [] := by
  induction count with
  | zero => exact ⟨[], .start, by simp, rfl⟩
  | succ count ih =>
    obtain ⟨past, run, ordinary, quiet⟩ := ih (by omega)
    obtain ⟨⟨response, next⟩, done⟩ :=
      InnerState.handleMessage_fits (fits (w.state.nacks + count) (by omega))
    have whole := done
    cases InnerState.handleMessage_step done with
    | nackPrepare w' m' tolerated =>
      refine ⟨_, .call run (call_handles whole), ?_, by rw [prepareBallots_append, quiet]; rfl⟩
      exact List.forall_mem_append.mpr ⟨ordinary, by simp [ProposerCall.Ordinary]⟩
    | retryPrepare w' m' refused =>
      exact absurd refused (by dsimp only [StateWrapper.withNacks]; omega)
    | ignored state message ignores => exact ignores.elim

theorem retry_run (w : StateWrapper (ProposalState C)) (m : NackPrepare)
    (fresh : w.state.nacks = 0)
    (fits : ∀ nacks, nacks ≤ w.totalNodes - w.quorumSize →
      (InnerState.proposal (w.withNacks nacks)).Headroom (.nackPrepareMsg m)) :
    ∃ (past : Past C) (self : Proposer C), Run ⟨.proposal w⟩ past self ∧
      (∀ call ∈ past, call.input.Ordinary) ∧
      prepareBallots past = [(InnerState.proposal w).ballotAbove m.maxBallot] := by
  obtain ⟨past, run, ordinary, quiet⟩ := tolerated_run w m (w.totalNodes - w.quorumSize)
    (by omega) fits
  obtain ⟨⟨response, next⟩, done⟩ := InnerState.handleMessage_fits
    (fits (w.state.nacks + (w.totalNodes - w.quorumSize)) (by omega))
  have whole := done
  cases InnerState.handleMessage_step done with
  | nackPrepare w' m' tolerated =>
    exact absurd tolerated (by dsimp only [StateWrapper.withNacks]; omega)
  | retryPrepare w' m' refused positive bound =>
    refine ⟨_, _, .call run (call_handles whole), ?_, ?_⟩
    · exact List.forall_mem_append.mpr ⟨ordinary, by simp [ProposerCall.Ordinary]⟩
    · rw [prepareBallots_append, quiet]
      exact congrArg (fun ballot => [ballot]) (InnerState.retry_ballot _ _)
  | ignored state message ignores => exact ignores.elim

theorem first_run [Inhabited C] (positive : config.totalNodes ≠ 0)
    (fits : (config.nodeId / config.totalNodes + 1) * config.totalNodes + config.nodeId ≤ u32Max) :
    ∃ w : StateWrapper (ProposalState C), w.state.nacks = 0 ∧ w.proposerId = config.nodeId ∧
      w.quorumSize = config.quorum ∧ w.totalNodes = config.totalNodes ∧
      w.ballot = (config.nodeId / config.totalNodes + 1) * config.totalNodes + config.nodeId ∧
      ∃ past : Past C, Run (config.proposer C) past ⟨.proposal w⟩ ∧
        (∀ call ∈ past, call.input.Ordinary) ∧ prepareBallots past = [w.ballot] := by
  let w : StateWrapper InitialState :=
    { state := {}
      ballot := config.nodeId
      proposerId := config.nodeId
      quorumSize := config.quorum
      totalNodes := config.totalNodes }
  have prepared := w.newPrepare_fits (default : C) positive fits
  have now : Proposer.call (config.proposer C) (.newPrepare default) =
      .ok (some (.prepareMsg { sender := config.nodeId, ballot := w.nextBallot }),
        ⟨.proposal (w.enter w.nextBallot (ProposalState.new default))⟩) := by
    simp only [Proposer.call, Proposer.newPrepare, SmrConfig.proposer, Proposer.new,
      InnerState.newPrepare]
    rw [prepared]
    rfl
  refine ⟨w.enter w.nextBallot (ProposalState.new default), rfl, rfl, rfl, rfl, rfl, _,
    .call .start now, by simp [ProposerCall.Ordinary], rfl⟩

theorem Possible.same {nodeId totalNodes ballot other : Nat}
    (possible : Possible nodeId totalNodes ballot)
    (rest : other % totalNodes = nodeId % totalNodes)
    (block : other / totalNodes = ballot / totalNodes) : other = ballot := by
  rw [← Nat.div_add_mod other totalNodes, ← Nat.div_add_mod ballot totalNodes, block, rest,
    possible.2.1]

theorem max_div {low high total : Nat} (below : low / total ≤ high / total) :
    max low high / total = high / total := by
  rcases Nat.le_total low high with less | more
  · rw [Nat.max_eq_right less]
  · rw [Nat.max_eq_left more]
    exact Nat.le_antisymm below (Nat.div_le_div_right more)

theorem possible_issued [Inhabited C] {ballot : Nat} (positive : config.totalNodes ≠ 0)
    (possible : Possible config.nodeId config.totalNodes ballot) : config.Issues C ballot := by
  have wide := Nat.pos_of_ne_zero positive
  have first := next_split positive config.nodeId config.nodeId
  have least : (config.nodeId / config.totalNodes + 1) * config.totalNodes + config.nodeId ≤
      ballot := by
    have block := possible.block
    rw [← Nat.div_add_mod ((config.nodeId / config.totalNodes + 1) * config.totalNodes +
      config.nodeId) config.totalNodes, ← Nat.div_add_mod ballot config.totalNodes, first.1, first.2,
      possible.2.1]
    exact Nat.add_le_add_right (Nat.mul_le_mul_left _ (by omega)) _
  obtain ⟨w, fresh, own, quorum, total, opening, past, run, ordinary, asked⟩ :=
    first_run (C := C) positive (Nat.le_trans least possible.1)
  rcases possible.2.2 with block | beyond
  · have same := Possible.same possible first.1 (by rw [first.2, block]; omega)
    refine ⟨1, past, _, run, .inl ordinary, ?_⟩
    rw [asked, opening, same]
    exact List.mem_singleton_self _
  · obtain ⟨named, named_block⟩ : ∃ named, named / config.totalNodes =
        ballot / config.totalNodes - config.nodeId / config.totalNodes - 1 :=
      ⟨_ * config.totalNodes, Nat.mul_div_cancel _ wide⟩
    have below : w.ballot / config.totalNodes ≤ named / config.totalNodes := by
      rw [opening, first.2, named_block]
      omega
    have reached : (InnerState.proposal w).ballotAbove named = ballot := by
      have split := next_split positive (max w.ballot named) config.nodeId
      rw [max_div below] at split
      refine Possible.same possible ?_ ?_ <;>
        simp only [InnerState.ballotAbove, InnerState.header, StateWrapper.enter, own, total,
          max_div below]
      · exact split.1
      · rw [split.2, named_block]
        omega
    have fits (nacks : Nat) (room : nacks ≤ w.totalNodes - w.quorumSize) :
        (InnerState.proposal (w.withNacks nacks)).Headroom
          (.nackPrepareMsg { sender := 0, maxBallot := named }) := by
      have narrow : config.totalNodes ≤ ballot := by
        refine Nat.le_trans ?_ (Nat.le_trans (Nat.le_add_right _ _) least)
        exact Nat.le_mul_of_pos_left _ (Nat.succ_pos _)
      have bounded := possible.1
      have next : ((w.withNacks nacks).adopt named).nextBallot = ballot :=
        (InnerState.retry_ballot _ _).trans reached
      refine ⟨?_, ?_, ?_, Nat.le_trans (Nat.le_of_eq next) bounded⟩
      · show nacks + 1 ≤ u32Max
        rw [total, quorum, SmrConfig.quorum] at room
        omega
      · show w.quorumSize ≤ w.totalNodes
        rw [total, quorum, SmrConfig.quorum]
        omega
      · exact total ▸ positive
    obtain ⟨later, self, retried, ordinary', asked'⟩ := retry_run w _ fresh fits
    refine ⟨1, past ++ later, self, Machine.Run.append run retried,
      .inl (List.forall_mem_append.mpr ⟨ordinary, ordinary'⟩), ?_⟩
    rw [prepareBallots_append, asked', reached]
    exact List.mem_append_right _ (List.mem_singleton_self _)

theorem issues_iff [Inhabited C] {ballot : Nat} (positive : config.totalNodes ≠ 0) :
    config.Issues C ballot ↔ Possible config.nodeId config.totalNodes ballot :=
  ⟨fun ⟨n, asked⟩ => asked_possible n asked, possible_issued positive⟩

theorem led_climbs {first : Machine.Call (Proposer C) (ProposerCall C) (Option (MessageKind C))}
    {rest : Past C} {led : Nat} {value : C} (run : Run (config.proposer C) (first :: rest) self)
    (input : first.input = .newAccept led value) :
    Climbs [first] first.after.innerState := by
  obtain ⟨-, now, -⟩ := Machine.Run.cons_inv run
  have answers := call_answers now
  rw [input] at answers
  generalize answered : first.output = output, reached : first.after.innerState = state at answers
  cases answers with
  | accepted ballot value =>
    have prepares : prepareBallots [first] = [] := by simp [prepareBallots, answered]
    have accepts : acceptBallots [first] = [led] := by simp [acceptBallots, answered]
    constructor
    · rw [prepares]
      exact List.Pairwise.nil
    · rw [accepts]
      exact List.pairwise_singleton _ _
    · simp [prepares]
    · rw [accepts]
      exact fun ballot sent => Nat.le_of_eq (List.mem_singleton.mp sent)
    · exact fun proposing => proposing.elim

theorem asked_rising {led : Set Nat} (run : Run (config.proposer C) past self)
    (started : Started led past) : (prepareBallots past).Pairwise (· < ·) := by
  rcases started with ordinary | ⟨first, rest, ballot, value, rfl, input, -, ordinary⟩
  · exact (Climbs.run (climbs_nil _) run ordinary).prepares
  · obtain ⟨-, -, later⟩ := Machine.Run.cons_inv run
    exact (Climbs.run (led_climbs run input) later ordinary).prepares

end Runs

-- Two ids of one rest, the lower able to reach the first ballot of the higher or both
-- its second, within u32.
def Collide (p q : SmrConfig) : Prop :=
  p.nodeId < q.nodeId ∧ p.nodeId % q.totalNodes = q.nodeId % q.totalNodes ∧
    (3 * (p.nodeId / q.totalNodes) + 2 ≤ 2 * (q.nodeId / q.totalNodes) + 1 ∧
      (2 * (q.nodeId / q.totalNodes) + 1) * q.totalNodes + q.nodeId % q.totalNodes ≤ u32Max ∨
    (3 * (q.nodeId / q.totalNodes) + 2) * q.totalNodes + q.nodeId % q.totalNodes ≤ u32Max)

instance (p q : SmrConfig) : Decidable (Collide p q) :=
  inferInstanceAs (Decidable (_ ∧ _ ∧ (_ ∧ _ ∨ _)))

theorem possible_at {nodeId totalNodes k : Nat} (positive : totalNodes ≠ 0)
    (reach : InReach (nodeId / totalNodes) k)
    (fits : k * totalNodes + nodeId % totalNodes ≤ u32Max) :
    Possible nodeId totalNodes (k * totalNodes + nodeId % totalNodes) := by
  have wide := Nat.pos_of_ne_zero positive
  refine ⟨fits, ?_, ?_⟩
  · rw [Nat.mul_comm, Nat.mul_add_mod, Nat.mod_mod]
  · rw [Nat.mul_comm, Nat.mul_add_div wide, Nat.div_eq_of_lt (Nat.mod_lt _ wide), Nat.add_zero]
    exact reach

theorem collide_iff {p q : SmrConfig} (positive : q.totalNodes ≠ 0) (below : p.nodeId < q.nodeId) :
    (∃ ballot, Possible p.nodeId q.totalNodes ballot ∧ Possible q.nodeId q.totalNodes ballot) ↔
      Collide p q := by
  constructor
  · rintro ⟨ballot, ⟨fits, rest, near⟩, -, rest', far⟩
    have same : p.nodeId % q.totalNodes = q.nodeId % q.totalNodes := rest.symm.trans rest'
    have blocks : p.nodeId / q.totalNodes ≠ q.nodeId / q.totalNodes := by
      intro equal
      have whole := Nat.div_add_mod p.nodeId q.totalNodes
      rw [equal, same, Nat.div_add_mod] at whole
      omega
    have order : p.nodeId / q.totalNodes ≤ q.nodeId / q.totalNodes :=
      Nat.div_le_div_right (Nat.le_of_lt below)
    have whole := Nat.div_add_mod ballot q.totalNodes
    rw [rest', Nat.mul_comm] at whole
    refine ⟨below, same, ?_⟩
    rcases far with first | later
    · refine .inl ⟨?_, ?_⟩
      · rcases near with near | near <;> omega
      · rw [← first, whole]
        exact fits
    · refine .inr (Nat.le_trans (Nat.add_le_add_right (Nat.mul_le_mul_right _ later) _) ?_)
      rw [whole]
      exact fits
  · rintro ⟨-, same, ⟨reach, fits⟩ | fits⟩
    · refine ⟨_, ?_, possible_at positive (.inl rfl) fits⟩
      rw [← same] at fits ⊢
      exact possible_at positive (.inr reach) fits
    · have order : p.nodeId / q.totalNodes ≤ q.nodeId / q.totalNodes :=
        Nat.div_le_div_right (Nat.le_of_lt below)
      refine ⟨_, ?_, possible_at positive (.inr (Nat.le_refl _)) fits⟩
      rw [← same] at fits ⊢
      exact possible_at positive (.inr (by omega)) fits

structure IsCluster (configs : List SmrConfig) : Prop where
  accepted : ∀ config ∈ configs, ∃ nodeId otherNodes, nodeId ≤ u32Max ∧
    otherNodes.length + 1 = configs.length ∧ SmrConfig.new nodeId otherNodes = .ok config
  distinct : (configs.map SmrConfig.nodeId).Nodup

variable (C) in
structure CollisionFree (configs : List SmrConfig) : Prop where
  rising : ∀ config ∈ configs, ∀ n (past : Past C) self, Run (config.proposer C) past self →
    Started (config.asked C n) past → (prepareBallots past).Pairwise (· < ·)
  apart : ∀ p ∈ configs, ∀ q ∈ configs, p.nodeId ≠ q.nodeId →
    ∀ ballot, ¬(p.Issues C ballot ∧ q.Issues C ballot)

theorem IsCluster.totalNodes {configs : List SmrConfig} (cluster : IsCluster configs)
    {config : SmrConfig} (member : config ∈ configs) :
    config.totalNodes = (configs.length - 1) % 2 ^ 32 + 1 := by
  obtain ⟨nodeId, otherNodes, -, length, made⟩ := cluster.accepted config member
  obtain ⟨totalNodes, added, made⟩ := bind_ok.mp made
  rw [u32Add_ok] at added
  simp only [pure, Except.pure, Except.ok.injEq] at made
  subst made
  dsimp only
  rw [added.2, ← length, Nat.add_sub_cancel]

theorem ballots_collide [Inhabited C] {configs : List SmrConfig} (cluster : IsCluster configs) :
    CollisionFree C configs ↔ ∀ p ∈ configs, ∀ q ∈ configs, ¬Collide p q := by
  have total {p q : SmrConfig} (here : p ∈ configs) (there : q ∈ configs) :
      p.totalNodes = q.totalNodes :=
    (cluster.totalNodes here).trans (cluster.totalNodes there).symm
  have positive {q : SmrConfig} (there : q ∈ configs) : q.totalNodes ≠ 0 := by
    rw [cluster.totalNodes there]
    omega
  have both {p q : SmrConfig} (here : p ∈ configs) (there : q ∈ configs)
      (below : p.nodeId < q.nodeId) :
      (∃ ballot, p.Issues C ballot ∧ q.Issues C ballot) ↔ Collide p q := by
    rw [← collide_iff (positive there) below]
    simp only [issues_iff (positive here), issues_iff (positive there), total here there]
  constructor
  · intro free p here q there collide
    obtain ⟨ballot, shared⟩ := (both here there collide.1).mpr collide
    exact free.apart p here q there (Nat.ne_of_lt collide.1) ballot shared
  · intro apart
    refine ⟨fun config _ n past self run started => asked_rising run started, ?_⟩
    intro p here q there differ ballot ⟨first, second⟩
    rcases Nat.lt_or_gt_of_ne differ with below | above
    · exact apart p here q there ((both here there below).mp ⟨ballot, first, second⟩)
    · exact apart q there p here ((both there here above).mp ⟨ballot, second, first⟩)

def three (i j k : Nat) : List SmrConfig :=
  [⟨i, 3⟩, ⟨j, 3⟩, ⟨k, 3⟩]

theorem three_cluster {i j k : Nat} (fits : i ≤ u32Max ∧ j ≤ u32Max ∧ k ≤ u32Max)
    (distinct : [i, j, k].Nodup) : IsCluster (three i j k) where
  accepted := by
    have made (own one other : Nat) (fits : own ≤ u32Max) : ∃ nodeId otherNodes,
        nodeId ≤ u32Max ∧ otherNodes.length + 1 = 3 ∧
          SmrConfig.new nodeId otherNodes = .ok ⟨own, 3⟩ :=
      ⟨own, [(one, "127.0.0.1:9000"), (other, "127.0.0.1:9001")], fits, rfl, rfl⟩
    intro config member
    simp only [three, List.mem_cons, List.not_mem_nil, or_false] at member
    rcases member with rfl | rfl | rfl
    · exact made i j k fits.1
    · exact made j i k fits.2.1
    · exact made k i j fits.2.2
  distinct := distinct

theorem ballots_collide_numbered : CollisionFree Nat (three 0 1 2) :=
  (ballots_collide (three_cluster (by decide) (by decide))).mpr (by decide)

def secondRound : Past Nat × Proposer Nat :=
  Machine.performed Proposer.call (proposer Nat ⟨0, 3⟩)
    [.newPrepare 100, nackCall 1 6, nackCall 3 6]

def firstRound : Past Nat × Proposer Nat :=
  Machine.performed Proposer.call (proposer Nat ⟨3, 3⟩) [.newPrepare 200]

theorem ballots_collide_unranged : IsCluster (three 0 1 3) ∧
    prepareBallots secondRound.1 = [3, 9] ∧ prepareBallots firstRound.1 = [9] ∧
    ¬CollisionFree Nat (three 0 1 3) := by
  have second : prepareBallots secondRound.1 = [3, 9] := by decide +kernel
  have first : prepareBallots firstRound.1 = [9] := by decide +kernel
  refine ⟨three_cluster (by decide) (by decide), second, first, fun free => ?_⟩
  refine free.apart ⟨0, 3⟩ (by decide) ⟨3, 3⟩ (by decide) (by decide) 9 ⟨⟨1, ?_⟩, ⟨1, ?_⟩⟩
  · exact ⟨secondRound.1, secondRound.2, Machine.performed_run (by decide +kernel),
      .inl (by decide +kernel), by rw [second]; decide⟩
  · exact ⟨firstRound.1, firstRound.2, Machine.performed_run (by decide +kernel),
      .inl (by decide +kernel), by rw [first]; decide⟩

end SmrConfig

end Smr
