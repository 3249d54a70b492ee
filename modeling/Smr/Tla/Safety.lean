import Smr.Shared.Voting
import Smr.Tla.Paxos

set_option autoImplicit false

namespace Smr

namespace Paxos

variable {C : Type} {nodes : Finset Nat} {quorum : Nat} {s t : Paxos C}

def Msg.sender : Msg C → Nat
  | .phase1a sender _ | .phase2a sender _ _ | .phase2b sender _ _ => sender
  | .phase1b report => report.sender

def Msg.ballot : Msg C → Nat
  | .phase1a _ ballot | .phase2a _ ballot _ | .phase2b _ ballot _ => ballot
  | .phase1b report => report.ballot

def Chosen (quorum : Nat) (v : C) (s : Paxos C) : Prop :=
  ∃ b ∈ Set.image Msg.ballot s.msgs, ∃ votes : Set (Msg C),
    (∀ m ∈ votes, m ∈ s.msgs ∧ ∃ sender, m = .phase2b sender b v) ∧
    quorum ≤ (Set.image Msg.sender votes).ncard

def Agreement (quorum : Nat) (s : Paxos C) : Prop :=
  ∀ v1 v2, Chosen quorum v1 s → Chosen quorum v2 s → v1 = v2

def Proposed (s : Paxos C) (ballot : Nat) (value : C) : Prop :=
  ∃ sender, .phase2a sender ballot value ∈ s.msgs

def election (nodes : Finset Nat) (s : Paxos C) : Voting.Election Nat C :=
  { members := nodes
    voted := fun a ballot value => .phase2b a ballot value ∈ s.msgs
    bound := fun a => (s.maxBal a).toNat }

-- What a promise tells of its sender: every vote below it, and that of `maxVBal` was cast.
structure Report.Faithful (r : Report C) (nodes : Finset Nat) (s : Paxos C) : Prop where
  member : r.sender ∈ nodes
  promised : (r.ballot : Int) ≤ s.maxBal r.sender
  complete : ∀ low value, low < r.ballot → .phase2b r.sender low value ∈ s.msgs →
    (low : Int) ≤ r.maxVBal
  cast : ∀ ballot : Nat, r.maxVBal = ballot → ∀ value, r.maxVal = some value →
    .phase2b r.sender ballot value ∈ s.msgs

structure Lawful (nodes : Finset Nat) (s : Paxos C) : Prop where
  single : ∀ p b v q w, .phase2a p b v ∈ s.msgs → .phase2a q b w ∈ s.msgs → v = w
  voted : ∀ a b v, .phase2b a b v ∈ s.msgs →
    a ∈ nodes ∧ s.Proposed b v ∧ (b : Int) ≤ s.maxVBal a
  latest : ∀ a ∈ nodes, s.maxVBal a ≤ s.maxBal a ∧
    ∀ b : Nat, s.maxVBal a = b → ∀ v, s.maxVal a = some v → .phase2b a b v ∈ s.msgs
  reported : ∀ r, .phase1b r ∈ s.msgs → r.Faithful nodes s
  prepared : ∀ b v, s.Proposed b v → ∃ majority, Voting.Majority nodes majority ∧
    ∀ a ∈ majority, b ≤ (s.maxBal a).toNat
  safe : (election nodes s).Safe s.Proposed

theorem Init.lawful (starts : Init nodes s) : Lawful nodes s where
  single p b v q w proposed := by simp [starts.msgs] at proposed
  voted a b v vote := by simp [starts.msgs] at vote
  latest a member := by
    refine ⟨by rw [starts.maxVBal a member, starts.maxBal a member], fun b cast => ?_⟩
    rw [starts.maxVBal a member] at cast
    omega
  reported r told := by simp [starts.msgs] at told
  prepared b v proposed := by
    obtain ⟨p, proposed⟩ := proposed
    simp [starts.msgs] at proposed
  safe low high value other less proposed := by
    obtain ⟨p, proposed⟩ := proposed
    simp [starts.msgs] at proposed

theorem Lawful.votes (lawful : Lawful nodes s) : (s.election nodes).Lawful s.Proposed where
  single b v w left right := by
    obtain ⟨p, left⟩ := left
    obtain ⟨q, right⟩ := right
    exact lawful.single p b v q w left right
  proposed a _ b v vote := (lawful.voted a b v vote).2.1

theorem Lawful.settled (lawful : Lawful nodes s)
    (advances : (election nodes s).Advances (election nodes t))
    (same : ∀ b v, t.Proposed b v → s.Proposed b v) :
    (∀ b v, t.Proposed b v → ∃ majority, Voting.Majority nodes majority ∧
      ∀ a ∈ majority, b ≤ (t.maxBal a).toNat) ∧ (election nodes t).Safe t.Proposed := by
  refine ⟨fun b v proposed => ?_, fun low high value other less plow phigh => ?_⟩
  · obtain ⟨majority, large, past⟩ := lawful.prepared b v (same b v proposed)
    exact ⟨majority, large, fun a member =>
      Nat.le_trans (past a member) (advances.bound a (large.1 member))⟩
  · exact (lawful.safe.persists advances) low high value other less (same low value plow)
      (same high other phigh)

theorem Phase1a.lawful {p b : Nat} (taken : Phase1a p b s t) (lawful : Lawful nodes s) :
    Lawful nodes t := by
  unfold Phase1a at taken
  subst taken
  obtain ⟨prepared, safe⟩ := lawful.settled (t := { s with msgs := insert (.phase1a p b) s.msgs })
    ⟨rfl, fun _ _ => Nat.le_refl _, fun _ _ _ vote => .inr vote, fun _ _ _ _ vote =>
      .inl (vote.resolve_left nofun)⟩ fun _ _ ⟨q, proposed⟩ => ⟨q, proposed.resolve_left nofun⟩
  exact
    { single := by simpa using lawful.single
      voted := fun a b v vote => by
        obtain ⟨member, ⟨q, proposed⟩, below⟩ := lawful.voted a b v (vote.resolve_left nofun)
        exact ⟨member, ⟨q, .inr proposed⟩, below⟩
      latest := fun a member => by simpa using lawful.latest a member
      reported := fun r told => by
        obtain ⟨member, promised, complete, cast⟩ := lawful.reported r (told.resolve_left nofun)
        exact ⟨member, promised, by simpa using complete, by simpa using cast⟩
      prepared := prepared
      safe := safe }

theorem Phase1b.lawful {a : Nat} (taken : Phase1b a s t) (member : a ∈ nodes)
    (lawful : Lawful nodes s) : Lawful nodes t := by
  obtain ⟨sender, ballot, -, higher, rfl⟩ := taken
  have rises (c : Nat) : s.maxBal c ≤ Function.update s.maxBal a (ballot : Int) c := by
    by_cases same : c = a
    · subst same
      simpa using Int.le_of_lt higher
    · simp [same]
  obtain ⟨prepared, safe⟩ := lawful.settled
    (t :=
      { s with
        maxBal := Function.update s.maxBal a ballot
        msgs := insert (.phase1b ⟨a, ballot, s.maxVBal a, s.maxVal a⟩) s.msgs })
    ⟨rfl, fun c _ => Int.toNat_le_toNat (rises c), fun _ _ _ vote => .inr vote,
      fun _ _ _ _ vote => .inl (vote.resolve_left nofun)⟩
    fun _ _ ⟨q, proposed⟩ => ⟨q, proposed.resolve_left nofun⟩
  exact
    { single := by simpa using lawful.single
      voted := fun c b v vote => by
        obtain ⟨inside, ⟨q, proposed⟩, below⟩ := lawful.voted c b v (vote.resolve_left nofun)
        exact ⟨inside, ⟨q, .inr proposed⟩, below⟩
      latest := fun c inside => by
        obtain ⟨below, cast⟩ := lawful.latest c inside
        exact ⟨Int.le_trans below (rises c), by simpa using cast⟩
      reported := fun r told => by
        rcases told with new | old
        · obtain rfl := Msg.phase1b.inj new
          refine ⟨member, by simp, fun low v _ vote => ?_, fun b cast v value => ?_⟩
          · exact (lawful.voted a low v (vote.resolve_left nofun)).2.2
          · exact .inr ((lawful.latest a member).2 b cast v value)
        · obtain ⟨inside, promised, complete, cast⟩ := lawful.reported r old
          exact ⟨inside, Int.le_trans promised (rises _), by simpa using complete,
            by simpa using cast⟩
      prepared := prepared
      safe := safe }

theorem Phase2b.lawful {a : Nat} (taken : Phase2b a s t) (member : a ∈ nodes)
    (lawful : Lawful nodes s) : Lawful nodes t := by
  obtain ⟨sender, ballot, value, proposal, current, rfl⟩ := taken
  have rises (c : Nat) : s.maxBal c ≤ Function.update s.maxBal a (ballot : Int) c := by
    by_cases same : c = a
    · subst same
      simpa using current
    · simp [same]
  have higher := Int.le_trans (lawful.latest a member).1 current
  have votes (c : Nat) : s.maxVBal c ≤ Function.update s.maxVBal a (ballot : Int) c := by
    by_cases same : c = a
    · subst same
      simpa using higher
    · simp [same]
  obtain ⟨prepared, safe⟩ := lawful.settled
    (t :=
      { maxBal := Function.update s.maxBal a ballot
        maxVBal := Function.update s.maxVBal a ballot
        maxVal := Function.update s.maxVal a (some value)
        msgs := insert (.phase2b a ballot value) s.msgs })
    ⟨rfl, fun c _ => Int.toNat_le_toNat (rises c), fun _ _ _ vote => .inr vote,
      fun c _ b v vote => by
        rcases vote with new | old
        · obtain ⟨rfl, rfl, rfl⟩ := Msg.phase2b.inj new
          exact .inr (Int.toNat_le.mpr current)
        · exact .inl old⟩
    fun _ _ ⟨q, proposed⟩ => ⟨q, proposed.resolve_left nofun⟩
  exact
    { single := by simpa using lawful.single
      voted := fun c b v vote => by
        rcases vote with new | old
        · obtain ⟨rfl, rfl, rfl⟩ := Msg.phase2b.inj new
          exact ⟨member, ⟨sender, .inr proposal⟩, by simp⟩
        · obtain ⟨inside, ⟨q, proposed⟩, below⟩ := lawful.voted c b v old
          exact ⟨inside, ⟨q, .inr proposed⟩, Int.le_trans below (votes c)⟩
      latest := fun c inside => by
        by_cases same : c = a
        · subst same
          refine ⟨by simp, fun b cast v known => ?_⟩
          simp only [Function.update_self, Nat.cast_inj, Option.some.injEq] at cast known
          subst cast known
          exact .inl rfl
        · obtain ⟨below, cast⟩ := lawful.latest c inside
          simp only [Function.update_of_ne same]
          exact ⟨below, fun b vb v known => .inr (cast b vb v known)⟩
      reported := fun r told => by
        obtain ⟨inside, promised, complete, cast⟩ := lawful.reported r (told.resolve_left nofun)
        refine ⟨inside, Int.le_trans promised (rises _), fun low v less vote => ?_,
          fun b vb v known => .inr (cast b vb v known)⟩
        rcases vote with new | old
        · -- The acceptor is past every ballot below its promise.
          obtain ⟨same, rfl, rfl⟩ := Msg.phase2b.inj new
          rw [same] at promised
          omega
        · exact complete low v less old
      prepared := prepared
      safe := safe }

theorem Phase2a.lawful {p b : Nat} {v : C} (taken : Phase2a quorum p b v s t)
    (majority : nodes.card < 2 * quorum) (lawful : Lawful nodes s) : Lawful nodes t := by
  obtain ⟨unproposed, ⟨reports, told, many, value⟩, rfl⟩ := taken
  have inside : Set.image Report.sender reports ⊆ (nodes : Set Nat) := by
    rintro a ⟨r, listed, rfl⟩
    exact (lawful.reported r (told r listed).1).member
  obtain ⟨voters, senders⟩ : ∃ voters : Finset Nat,
      (voters : Set Nat) = Set.image Report.sender reports :=
    ⟨_, (nodes.finite_toSet.subset inside).coe_toFinset⟩
  have large : Voting.Majority nodes voters := by
    refine ⟨Finset.coe_subset.mp (senders ▸ inside), ?_⟩
    rw [← senders, Set.ncard_coe_finset] at many
    omega
  have heard {a : Nat} (member : a ∈ voters) : ∃ r ∈ reports, r.sender = a := by
    have listed : a ∈ Set.image Report.sender reports := senders ▸ Finset.mem_coe.mpr member
    exact listed
  have promised : ∀ a ∈ voters, b ≤ (s.maxBal a).toNat := by
    intro a member
    obtain ⟨r, listed, rfl⟩ := heard member
    have bound := (lawful.reported r (told r listed).1).promised
    rw [(told r listed).2] at bound
    omega
  have above : ∀ low other, low < b → s.Proposed low other →
      other = v ∨ ¬(election nodes s).Choosable low other := by
    intro low other less plow
    rcases value with silent | ⟨m, listed, cast, maxVal, highest⟩
    · refine Voting.Election.promised_safe lawful.votes lawful.safe large none promised
        (fun a member low' other' below vote => ?_) (by simp) less plow
      obtain ⟨r, here, rfl⟩ := heard member
      have least := (lawful.reported r (told r here).1).complete low' other'
        (by rw [(told r here).2]; exact below) vote
      rw [silent r here] at least
      omega
    · obtain ⟨top, same⟩ := Int.eq_ofNat_of_zero_le cast
      have vote := (lawful.reported m (told m listed).1).cast top same v maxVal
      refine Voting.Election.promised_safe lawful.votes lawful.safe large (some (top, v)) promised
        (fun a member low' other' below vote' => ⟨_, rfl, ?_⟩) (fun report same' => ?_) less plow
      · obtain ⟨r, here, rfl⟩ := heard member
        have least := (lawful.reported r (told r here).1).complete low' other'
          (by rw [(told r here).2]; exact below) vote'
        have most := highest r here
        dsimp only
        omega
      · obtain rfl := Option.some.inj same'
        exact ⟨(lawful.voted _ _ _ vote).2.1, rfl⟩
  have below : ∀ high other, b < high → s.Proposed high other →
      v = other ∨ ¬(election nodes s).Choosable b v := by
    intro high other less phigh
    obtain ⟨past, wide, bound⟩ := lawful.prepared high other phigh
    refine .inr (Voting.Election.passed_over wide
      (fun a member => Nat.lt_of_lt_of_le less (bound a member)) fun a member vote => ?_)
    obtain ⟨q, proposed⟩ := (lawful.voted a b v vote).2.1
    exact unproposed ⟨q, v, proposed⟩
  have proposals {low : Nat} {other : C}
      (proposed : Proposed { s with msgs := insert (.phase2a p b v) s.msgs } low other) :
      s.Proposed low other ∨ low = b ∧ other = v := by
    obtain ⟨q, new | old⟩ := proposed
    · obtain ⟨-, rfl, rfl⟩ := Msg.phase2a.inj new
      exact .inr ⟨rfl, rfl⟩
    · exact .inl ⟨q, old⟩
  have same : election nodes { s with msgs := insert (.phase2a p b v) s.msgs } =
      election nodes s := by simp [election]
  exact
    { single := fun p' b' left q' right first second => by
        rcases proposals ⟨p', first⟩ with older | ⟨here, rfl⟩ <;>
          rcases proposals ⟨q', second⟩ with old | ⟨there, rfl⟩
        · exact lawful.votes.single b' left right older old
        · subst there
          exact absurd ⟨_, left, older.choose_spec⟩ unproposed
        · subst here
          exact absurd ⟨_, right, old.choose_spec⟩ unproposed
        · rfl
      voted := fun a b' v' vote => by
        obtain ⟨member, ⟨q, proposed⟩, bound⟩ := lawful.voted a b' v' (vote.resolve_left nofun)
        exact ⟨member, ⟨q, .inr proposed⟩, bound⟩
      latest := fun a member => by simpa using lawful.latest a member
      reported := fun r told => by
        obtain ⟨member, bound, complete, cast⟩ := lawful.reported r (told.resolve_left nofun)
        exact ⟨member, bound, by simpa using complete, by simpa using cast⟩
      prepared := fun b' v' proposed => by
        rcases proposals proposed with old | ⟨rfl, rfl⟩
        · exact lawful.prepared b' v' old
        · exact ⟨voters, large, promised⟩
      safe := same ▸ lawful.safe.propose above below _ fun _ _ => proposals }

theorem lawful_reachable (majority : nodes.card < 2 * quorum)
    (reachable : (spec nodes quorum).Reachable (fun _ _ => True) s) : Lawful nodes s := by
  refine reachable.invariant (Lawful nodes) (fun _ starts => Init.lawful starts) ?_
  rintro s _ t - lawful - (next | rfl)
  · cases next with
    | phase1a p b member taken => exact taken.lawful lawful
    | phase1b a member taken => exact taken.lawful member lawful
    | phase2a p b v member taken => exact taken.lawful majority lawful
    | phase2b a member taken => exact taken.lawful member lawful
  · exact lawful

theorem Chosen.elected (lawful : Lawful nodes s) (majority : nodes.card < 2 * quorum) {v : C}
    (chosen : Chosen quorum v s) : ∃ b, (election nodes s).Chosen b v := by
  obtain ⟨b, -, votes, cast, many⟩ := chosen
  have inside : Set.image Msg.sender votes ⊆ (nodes : Set Nat) := by
    rintro a ⟨m, listed, rfl⟩
    obtain ⟨present, sender, rfl⟩ := cast m listed
    exact (lawful.voted _ _ _ present).1
  have finite := nodes.finite_toSet.subset inside
  refine ⟨b, finite.toFinset, ⟨fun a member => inside (finite.mem_toFinset.mp member), ?_⟩, ?_⟩
  · rw [Set.ncard_eq_toFinset_card _ finite] at many
    show nodes.card < 2 * finite.toFinset.card
    omega
  · intro a member
    obtain ⟨m, listed, rfl⟩ := finite.mem_toFinset.mp member
    obtain ⟨present, sender, rfl⟩ := cast m listed
    exact present

theorem Lawful.agreement (lawful : Lawful nodes s) (majority : nodes.card < 2 * quorum) :
    Agreement quorum s := by
  intro v1 v2 left right
  obtain ⟨low, first⟩ := left.elected lawful majority
  obtain ⟨high, second⟩ := right.elected lawful majority
  refine Voting.Election.agreement lawful.votes lawful.safe ?_ first second
  obtain ⟨voters, large, -⟩ := first
  by_contra empty
  have few := Finset.card_le_card large.1
  have wide := large.2
  rw [Finset.not_nonempty_iff_eq_empty.mp empty, Finset.card_empty] at few wide
  omega

section Rivals

structure Decides (voters : Finset Nat) (b : Nat) (v : C) (s t : Paxos C) : Prop where
  apart : ∀ a ∉ voters, t.maxBal a = s.maxBal a ∧ t.maxVBal a = s.maxVBal a
  kept : s.msgs ⊆ t.msgs
  proposals : ∀ p b' w, .phase2a p b' w ∈ t.msgs → .phase2a p b' w ∈ s.msgs ∨ b' = b
  votes : ∀ a ∈ voters, .phase2b a b v ∈ t.msgs

structure Promises (voters : Finset Nat) (b : Nat) (s t : Paxos C) : Prop where
  apart : ∀ a ∉ voters, t.maxBal a = s.maxBal a
  bound : ∀ a ∈ voters, t.maxBal a = b
  maxVBal : t.maxVBal = s.maxVBal
  kept : s.msgs ⊆ t.msgs
  proposals : ∀ p b' w, .phase2a p b' w ∈ t.msgs → .phase2a p b' w ∈ s.msgs
  told : ∀ a ∈ voters, ∃ v, .phase1b ⟨a, b, -1, v⟩ ∈ t.msgs

theorem promises_reach (nodes : Finset Nat) (quorum : Nat) {p b : Nat}
    (asked : .phase1a p b ∈ s.msgs) (voters : Finset Nat) (inside : voters ⊆ nodes)
    (below : ∀ a ∈ voters, s.maxBal a < b)
    (fresh : ∀ a ∈ voters, s.maxVBal a = -1) :
    ∃ t, (spec nodes quorum).Steps (fun _ _ => True) s t ∧ Promises voters b s t := by
  induction voters using Finset.induction_on with
  | empty =>
    exact ⟨s, .refl, ⟨fun _ _ => rfl, by simp, rfl, fun _ => id, fun _ _ _ => id, by simp⟩⟩
  | @insert a voters new ih =>
    obtain ⟨t, steps, promised⟩ := ih (fun c member => inside (Finset.mem_insert_of_mem member))
      (fun c member => below c (Finset.mem_insert_of_mem member))
      fun c member => fresh c (Finset.mem_insert_of_mem member)
    have higher : t.maxBal a < b := by
      rw [promised.apart a new]
      exact below a (Finset.mem_insert_self a voters)
    have silent : t.maxVBal a = -1 := by
      rw [promised.maxVBal]
      exact fresh a (Finset.mem_insert_self a voters)
    refine ⟨_, steps.tail ⟨(), trivial, .inl (.phase1b a (inside (Finset.mem_insert_self a voters))
      ⟨p, b, promised.kept asked, higher, rfl⟩)⟩, ?_⟩
    exact
      { apart := fun c outside => by
          obtain ⟨other, outside⟩ := not_or.mp (Finset.mem_insert.not.mp outside)
          rw [← promised.apart c outside]
          exact Function.update_of_ne other _ _
        bound := fun c member => by
          by_cases same : c = a
          · subst same
            simp
          · refine (Function.update_of_ne same _ _).trans ?_
            exact promised.bound c ((Finset.mem_insert.mp member).resolve_left same)
        maxVBal := promised.maxVBal
        kept := fun m member => .inr (promised.kept member)
        proposals := fun q b' w member =>
          promised.proposals q b' w (member.resolve_left nofun)
        told := fun c member => by
          rcases Finset.mem_insert.mp member with rfl | old
          · exact ⟨t.maxVal c, .inl (by rw [silent])⟩
          · obtain ⟨w, told⟩ := promised.told c old
            exact ⟨w, .inr told⟩ }

theorem votes_reach (nodes : Finset Nat) (quorum : Nat) {p b : Nat} {v : C}
    (proposed : .phase2a p b v ∈ s.msgs) (voters : Finset Nat) (inside : voters ⊆ nodes)
    (below : ∀ a ∈ voters, s.maxBal a ≤ b) :
    ∃ t, (spec nodes quorum).Steps (fun _ _ => True) s t ∧ Decides voters b v s t := by
  induction voters using Finset.induction_on with
  | empty => exact ⟨s, .refl, ⟨fun _ _ => ⟨rfl, rfl⟩, fun _ => id, fun _ _ _ => .inl, by simp⟩⟩
  | @insert a voters new ih =>
    obtain ⟨t, steps, decided⟩ := ih (fun c member => inside (Finset.mem_insert_of_mem member))
      fun c member => below c (Finset.mem_insert_of_mem member)
    have current : t.maxBal a ≤ b := by
      rw [(decided.apart a new).1]
      exact below a (Finset.mem_insert_self a voters)
    refine ⟨_, steps.tail ⟨(), trivial, .inl (.phase2b a (inside (Finset.mem_insert_self a voters))
      ⟨p, b, v, decided.kept proposed, current, rfl⟩)⟩, ?_⟩
    exact
      { apart := fun c outside => by
          obtain ⟨other, outside⟩ := not_or.mp (Finset.mem_insert.not.mp outside)
          simp only [Function.update_of_ne other]
          exact decided.apart c outside
        kept := fun m member => .inr (decided.kept member)
        proposals := fun q b' w member =>
          decided.proposals q b' w (member.resolve_left nofun)
        votes := fun c member => by
          rcases Finset.mem_insert.mp member with rfl | old
          · exact .inl rfl
          · exact .inr (decided.votes c old) }

theorem decides_reach {p b : Nat} (v : C) (asks : p ∈ nodes) {voters : Finset Nat}
    (inside : voters ⊆ nodes) (many : quorum ≤ voters.card) (below : ∀ a ∈ voters, s.maxBal a < b)
    (fresh : ∀ a ∈ voters, s.maxVBal a = -1)
    (unproposed : ∀ q w, .phase2a q b w ∉ s.msgs) :
    ∃ t, (spec nodes quorum).Steps (fun _ _ => True) s t ∧ Decides voters b v s t ∧
      .phase2a p b v ∈ t.msgs := by
  obtain ⟨t, steps, promised⟩ := promises_reach nodes quorum
    (s := { s with msgs := insert (.phase1a p b) s.msgs }) (Set.mem_insert _ _) voters inside below
    fresh
  have older {q b' : Nat} {w : C} (member : .phase2a q b' w ∈ t.msgs) :
      .phase2a q b' w ∈ s.msgs := (promised.proposals q b' w member).resolve_left nofun
  have proposes : Phase2a quorum p b v t { t with msgs := insert (.phase2a p b v) t.msgs } := by
    refine ⟨fun ⟨q, w, member⟩ => unproposed q w (older member),
      ⟨{r | ∃ a ∈ voters, ∃ w, r = ⟨a, b, -1, w⟩ ∧ .phase1b r ∈ t.msgs}, ?_, ?_, .inl ?_⟩, rfl⟩
    · rintro r ⟨a, -, w, rfl, told⟩
      exact ⟨told, rfl⟩
    · have senders : Set.image Report.sender
          {r | ∃ a ∈ voters, ∃ w, r = ⟨a, b, -1, w⟩ ∧ Msg.phase1b r ∈ t.msgs} = voters := by
        ext a
        constructor
        · rintro ⟨r, ⟨a, member, w, rfl, -⟩, rfl⟩
          exact member
        · intro member
          obtain ⟨w, told⟩ := promised.told a member
          exact ⟨_, ⟨a, member, w, rfl, told⟩, rfl⟩
      rwa [senders, Set.ncard_coe_finset]
    · rintro r ⟨a, -, w, rfl, -⟩
      rfl
  obtain ⟨u, more, decided⟩ := votes_reach nodes quorum (p := p) (v := v)
    (s := { t with msgs := insert (.phase2a p b v) t.msgs }) (Set.mem_insert _ _) voters inside
    fun a member => (promised.bound a member).le
  refine ⟨u, ?_, ⟨fun a outside => ?_, fun m member => ?_, fun q b' w member => ?_,
    decided.votes⟩, decided.kept (.inl rfl)⟩
  · refine (Relation.ReflTransGen.head ⟨(), trivial, .inl (.phase1a p b asks rfl)⟩ steps).trans ?_
    exact Relation.ReflTransGen.head ⟨(), trivial, .inl (.phase2a p b v asks proposes)⟩ more
  · obtain ⟨bal, vbal⟩ := decided.apart a outside
    exact ⟨bal.trans (promised.apart a outside), vbal.trans (congrFun promised.maxVBal a)⟩
  · exact decided.kept (.inr (promised.kept (.inr member)))
  · rcases decided.proposals q b' w member with (new | old) | same
    · exact .inr (Msg.phase2a.inj new).2.1
    · exact .inl (older old)
    · exact .inr same

theorem votes_chosen {voters : Finset Nat} {b : Nat} {v : C}
    (votes : ∀ a ∈ voters, .phase2b a b v ∈ t.msgs) (many : quorum ≤ voters.card) {m : Msg C}
    (some_msg : m ∈ t.msgs) (ballot : m.ballot = b) : Chosen quorum v t := by
  refine ⟨b, ⟨m, some_msg, ballot⟩, {m | ∃ a ∈ voters, m = .phase2b a b v}, ?_, ?_⟩
  · rintro m ⟨a, member, rfl⟩
    exact ⟨votes a member, a, rfl⟩
  · have senders : Set.image Msg.sender {m : Msg C | ∃ a ∈ voters, m = .phase2b a b v} =
        voters := by
      ext a
      constructor
      · rintro ⟨m, ⟨a, member, rfl⟩, rfl⟩
        exact member
      · exact fun member => ⟨_, ⟨a, member, rfl⟩, rfl⟩
    rwa [senders, Set.ncard_coe_finset]

end Rivals

def empty : Paxos C :=
  { maxBal := fun _ => -1
    maxVBal := fun _ => -1
    maxVal := fun _ => none
    msgs := ∅ }

theorem empty_init (nodes : Finset Nat) : Init nodes (empty : Paxos C) where
  maxBal _ _ := rfl
  maxVBal _ _ := rfl
  maxVal _ _ := rfl
  msgs := rfl

theorem disagreement [Nontrivial C] (asks : nodes.Nonempty) (few : 2 * quorum ≤ nodes.card) :
    ∃ s : Paxos C, (spec nodes quorum).Reachable (fun _ _ => True) s ∧ ¬Agreement quorum s := by
  obtain ⟨p, member⟩ := asks
  obtain ⟨v, w, differ⟩ := exists_pair_ne C
  obtain ⟨both, inside, size⟩ := Finset.exists_subset_card_eq few
  obtain ⟨first, within, half⟩ := Finset.exists_subset_card_eq (show quorum ≤ both.card by omega)
  have rest : (both \ first).card = quorum := by
    rw [Finset.card_sdiff_of_subset within]
    omega
  have starts : (spec nodes quorum).Reachable (fun _ _ => True) (empty : Paxos C) :=
    .init (empty_init nodes)
  obtain ⟨s, steps, decided, out⟩ := decides_reach (s := empty) (b := 0) v member
    (within.trans inside) half.ge (fun _ _ => by simp [empty]) (fun _ _ => rfl)
    fun _ _ => Set.notMem_empty _
  have outside {a : Nat} (listed : a ∈ both \ first) :
      s.maxBal a = -1 ∧ s.maxVBal a = -1 := decided.apart a (Finset.mem_sdiff.mp listed).2
  obtain ⟨t, more, decided', out'⟩ := decides_reach (s := s) (b := 1) w member
    (Finset.sdiff_subset.trans inside) rest.ge (fun a listed => by rw [(outside listed).1]; decide)
    (fun a listed => (outside listed).2) fun q u proposed =>
      (decided.proposals q 1 u proposed).elim (Set.notMem_empty _) (by decide)
  refine ⟨t, (starts.steps steps).steps more, fun agreement => differ (agreement v w ?_ ?_)⟩
  · exact votes_chosen (fun a listed => decided'.kept (decided.votes a listed)) half.ge
      (decided'.kept out) rfl
  · exact votes_chosen decided'.votes rest.ge out' rfl

theorem agreement_iff [Nontrivial C] (asks : nodes.Nonempty) :
    (∀ s : Paxos C, (spec nodes quorum).Reachable (fun _ _ => True) s → Agreement quorum s) ↔
      nodes.card < 2 * quorum := by
  constructor
  · intro agree
    by_contra few
    obtain ⟨s, reachable, differs⟩ := disagreement (C := C) asks (Nat.le_of_not_lt few)
    exact differs (agree s reachable)
  · exact fun majority s reachable => (lawful_reachable majority reachable).agreement majority

theorem agreement_iff_three :
    (∀ s : Paxos Bool, (spec (Finset.range 3) 2).Reachable (fun _ _ => True) s → Agreement 2 s) ∧
      ¬∀ s : Paxos Bool, (spec (Finset.range 3) 1).Reachable (fun _ _ => True) s →
        Agreement 1 s :=
  ⟨(agreement_iff ⟨0, by decide⟩).mpr (by decide),
    fun agree => absurd ((agreement_iff ⟨0, by decide⟩).mp agree) (by decide)⟩

end Paxos

end Smr
