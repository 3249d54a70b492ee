import Mathlib

set_option autoImplicit false

namespace Voting

variable {A V : Type}

-- Members cast votes for values in numbered ballots. A member whose bound is past
-- a ballot casts no vote in that ballot any more.
structure Election (A V : Type) where
  members : Finset A
  voted : A → Nat → V → Prop
  bound : A → Nat

def Majority (members quorum : Finset A) : Prop :=
  quorum ⊆ members ∧ members.card < 2 * quorum.card

theorem Majority.meet [DecidableEq A] {members left right : Finset A} (hleft : Majority members left)
    (hright : Majority members right) : ∃ a, a ∈ left ∧ a ∈ right := by
  have overlap := Finset.inter_nonempty_of_card_lt_card_add_card hleft.1 hright.1
    (by have := hleft.2; have := hright.2; omega)
  obtain ⟨a, member⟩ := overlap
  exact ⟨a, Finset.mem_inter.mp member⟩

theorem Majority.grow {members small large : Finset A} (majority : Majority members small)
    (inside : large ⊆ members) (grows : small ⊆ large) : Majority members large :=
  ⟨inside, Nat.lt_of_lt_of_le majority.2 (Nat.mul_le_mul_left 2 (Finset.card_le_card grows))⟩

theorem distinct_voters [DecidableEq A] {voter : V → A} {counted all : List V} {vote : V}
    (distinct : (counted.map voter).Nodup) (first : voter vote ∉ counted.map voter)
    (inside : counted ++ [vote] ⊆ all) :
    counted.length + 1 ≤ ((all.map voter).toFinset).card := by
  have nodup : ((counted ++ [vote]).map voter).Nodup := by
    rw [List.map_append]
    refine List.nodup_append.mpr ⟨distinct, List.nodup_singleton _, ?_⟩
    rintro a older b new rfl
    exact first (List.mem_singleton.mp new ▸ older)
  calc counted.length + 1 = ((counted ++ [vote]).map voter).length := by simp
    _ = ((counted ++ [vote]).map voter).toFinset.card := (List.toFinset_card_of_nodup nodup).symm
    _ ≤ ((all.map voter).toFinset).card := Finset.card_le_card fun a voted =>
      List.mem_toFinset.mpr (List.map_subset _ inside (List.mem_toFinset.mp voted))

namespace Election

variable {e later : Election A V} {proposed : Nat → V → Prop}

def Chosen (e : Election A V) (ballot : Nat) (value : V) : Prop :=
  ∃ quorum, Majority e.members quorum ∧ ∀ a ∈ quorum, e.voted a ballot value

def CanVote (e : Election A V) (ballot : Nat) (value : V) (a : A) : Prop :=
  e.voted a ballot value ∨ e.bound a ≤ ballot

def Choosable (e : Election A V) (ballot : Nat) (value : V) : Prop :=
  ∃ quorum, Majority e.members quorum ∧ ∀ a ∈ quorum, e.CanVote ballot value a

theorem Chosen.choosable {ballot : Nat} {value : V} (chosen : e.Chosen ballot value) :
    e.Choosable ballot value := by
  obtain ⟨quorum, majority, votes⟩ := chosen
  exact ⟨quorum, majority, fun a member => .inl (votes a member)⟩

-- The largest set of possible voters decides, so the question can be computed.
theorem choosable_iff {ballot : Nat} {value : V} [DecidablePred (e.CanVote ballot value)] :
    e.Choosable ballot value ↔
      e.members.card < 2 * (e.members.filter (e.CanVote ballot value)).card := by
  constructor
  · rintro ⟨quorum, majority, able⟩
    refine (majority.grow (Finset.filter_subset _ _) fun a member => ?_).2
    exact Finset.mem_filter.mpr ⟨majority.1 member, able a member⟩
  · intro many
    exact ⟨_, ⟨Finset.filter_subset _ _, many⟩, fun a member => (Finset.mem_filter.mp member).2⟩

structure Lawful (e : Election A V) (proposed : Nat → V → Prop) : Prop where
  single : ∀ ballot value other, proposed ballot value → proposed ballot other → value = other
  proposed : ∀ a ∈ e.members, ∀ ballot value, e.voted a ballot value → proposed ballot value

-- A value proposed below another ballot is its value or can no longer be chosen.
def Safe (e : Election A V) (proposed : Nat → V → Prop) : Prop :=
  ∀ low high value other, low < high → proposed low value → proposed high other →
    value = other ∨ ¬e.Choosable low value

theorem Chosen.is_proposed (lawful : e.Lawful proposed) (some_member : e.members.Nonempty)
    {ballot : Nat} {value : V} (chosen : e.Chosen ballot value) : proposed ballot value := by
  obtain ⟨quorum, majority, votes⟩ := chosen
  have nonempty : quorum.Nonempty := by
    rw [← Finset.card_pos]
    have := majority.2
    have := some_member.card_pos
    omega
  obtain ⟨a, member⟩ := nonempty
  exact lawful.proposed a (majority.1 member) ballot value (votes a member)

theorem agreement (lawful : e.Lawful proposed) (safe : e.Safe proposed)
    (some_member : e.members.Nonempty) {left right : Nat} {value other : V}
    (hleft : e.Chosen left value) (hright : e.Chosen right other) : value = other := by
  have pleft := hleft.is_proposed lawful some_member
  have pright := hright.is_proposed lawful some_member
  rcases Nat.lt_trichotomy left right with less | rfl | greater
  · exact (safe left right value other less pleft pright).resolve_right
      (not_not.mpr hleft.choosable)
  · exact lawful.single left value other pleft pright
  · exact ((safe right left other value greater pright pleft).resolve_right
      (not_not.mpr hright.choosable)).symm

structure Advances (e later : Election A V) : Prop where
  members : later.members = e.members
  bound : ∀ a ∈ e.members, e.bound a ≤ later.bound a
  kept : ∀ a ballot value, e.voted a ballot value → later.voted a ballot value
  voted : ∀ a ∈ e.members, ∀ ballot value, later.voted a ballot value →
    e.voted a ballot value ∨ e.bound a ≤ ballot

theorem Chosen.persists (advances : e.Advances later) {ballot : Nat} {value : V}
    (chosen : e.Chosen ballot value) : later.Chosen ballot value := by
  obtain ⟨quorum, majority, votes⟩ := chosen
  exact ⟨quorum, by rwa [advances.members], fun a member =>
    advances.kept a ballot value (votes a member)⟩

theorem Choosable.earlier (advances : e.Advances later) {ballot : Nat} {value : V}
    (choosable : later.Choosable ballot value) : e.Choosable ballot value := by
  obtain ⟨quorum, majority, able⟩ := choosable
  rw [advances.members] at majority
  refine ⟨quorum, majority, fun a member => ?_⟩
  rcases able a member with vote | below
  · exact advances.voted a (majority.1 member) ballot value vote
  · exact .inr (Nat.le_trans (advances.bound a (majority.1 member)) below)

theorem Safe.persists (advances : e.Advances later) (safe : e.Safe proposed) :
    later.Safe proposed := by
  intro low high value other less plow phigh
  exact (safe low high value other less plow phigh).imp_right
    fun settled choosable => settled (choosable.earlier advances)

theorem Safe.propose (safe : e.Safe proposed) {ballot : Nat} {value : V}
    (above : ∀ low other, low < ballot → proposed low other →
      other = value ∨ ¬e.Choosable low other)
    (below : ∀ high other, ballot < high → proposed high other →
      value = other ∨ ¬e.Choosable ballot value)
    (proposed' : Nat → V → Prop)
    (extends_by : ∀ b v, proposed' b v → proposed b v ∨ b = ballot ∧ v = value) :
    e.Safe proposed' := by
  intro low high left right less plow phigh
  rcases extends_by low left plow with plow | ⟨rfl, rfl⟩ <;>
    rcases extends_by high right phigh with phigh | ⟨rfl, rfl⟩
  · exact safe low high left right less plow phigh
  · exact above low left less plow
  · exact below high right less phigh
  · exact .inl rfl

-- Phase 1: a majority promised the ballot, and `best` is at least as high as every
-- vote below it that one of them had cast.
theorem promised_safe [DecidableEq A] (lawful : e.Lawful proposed) (safe : e.Safe proposed)
    {ballot : Nat} {value : V} {quorum : Finset A} (majority : Majority e.members quorum)
    (best : Option (Nat × V)) (promised : ∀ a ∈ quorum, ballot ≤ e.bound a)
    (heard : ∀ a ∈ quorum, ∀ low other, low < ballot → e.voted a low other →
      ∃ report, best = some report ∧ low ≤ report.1)
    (origin : ∀ report, best = some report → proposed report.1 report.2 ∧ value = report.2)
    {low : Nat} {other : V} (less : low < ballot) (plow : proposed low other) :
    other = value ∨ ¬e.Choosable low other := by
  rw [or_iff_not_imp_right, not_not]
  rintro ⟨rivals, rival_majority, able⟩
  obtain ⟨a, member, rival⟩ := majority.meet rival_majority
  have vote : e.voted a low other := by
    rcases able a rival with vote | below
    · exact vote
    · exact absurd (promised a member) (by omega)
  obtain ⟨report, is_best, higher⟩ := heard a member low other less vote
  obtain ⟨preport, rfl⟩ := origin report is_best
  rcases Nat.lt_or_eq_of_le higher with lower | same
  · exact (safe low report.1 other report.2 lower plow preport).resolve_right
      (not_not.mpr ⟨rivals, rival_majority, able⟩)
  · exact lawful.single low other report.2 plow (same ▸ preport)

theorem passed_over [DecidableEq A] {ballot : Nat} {value : V} {quorum : Finset A}
    (majority : Majority e.members quorum) (past : ∀ a ∈ quorum, ballot < e.bound a)
    (unvoted : ∀ a ∈ quorum, ¬e.voted a ballot value) : ¬e.Choosable ballot value := by
  rintro ⟨rivals, rival_majority, able⟩
  obtain ⟨a, member, rival⟩ := majority.meet rival_majority
  rcases able a rival with vote | below
  · exact unvoted a member vote
  · exact absurd (past a member) (by omega)

end Election

end Voting
