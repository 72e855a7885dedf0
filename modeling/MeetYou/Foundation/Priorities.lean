import Mathlib.Data.List.Basic

/-!
# Entries in the order of their ranks

Entries leave a list one at a time, each time the first one of the least rank. The order in which
they leave is known beforehand: rank by rank, and within a rank as they stand.
-/

namespace Priorities

universe u
variable {α : Type u} {ranks : List Nat} {rank : α → Nat} {entries : List α}

/-- The entries of the ranks, rank by rank. -/
def ranked (ranks : List Nat) (rank : α → Nat) (entries : List α) : List α :=
  ranks.flatMap fun least => entries.filter fun entry => decide (rank entry = least)

/-- The entries of the first rank come first. -/
theorem ranked_least (least : Nat) (ranks : List Nat) (rank : α → Nat) (entries : List α) :
    ranked (least :: ranks) rank entries =
      (entries.filter fun entry => decide (rank entry = least)) ++ ranked ranks rank entries :=
  List.flatMap_cons

/-- Ranking takes the entries that have one of the ranks. -/
theorem mem_ranked {entry : α} :
    entry ∈ ranked ranks rank entries ↔ entry ∈ entries ∧ rank entry ∈ ranks := by
  unfold ranked
  rw [List.mem_flatMap]
  constructor
  · rintro ⟨least, listed, member⟩
    obtain ⟨inside, same⟩ := List.mem_filter.mp member
    exact ⟨inside, of_decide_eq_true same ▸ listed⟩
  · rintro ⟨inside, listed⟩
    exact ⟨_, listed, List.mem_filter.mpr ⟨inside, decide_eq_true rfl⟩⟩

/-- Nothing is left exactly when there was nothing. -/
theorem ranked_nil_iff (within : ∀ entry ∈ entries, rank entry ∈ ranks) :
    ranked ranks rank entries = [] ↔ entries = [] := by
  constructor
  · intro none
    refine List.eq_nil_iff_forall_not_mem.mpr fun entry member => ?_
    have listed : entry ∈ ranked ranks rank entries := mem_ranked.mpr ⟨member, within entry member⟩
    rw [none] at listed
    cases listed
  · rintro rfl
    unfold ranked
    exact List.flatMap_eq_nil_iff.mpr fun _ _ => rfl

/-- The entry that comes first by its rank is the first one of the least rank, and without it the
others come as they did. -/
theorem ranked_cons (ascending : ranks.Pairwise (· < ·))
    (within : ∀ entry ∈ entries, rank entry ∈ ranks) {first : α} {rest : List α}
    (starts : ranked ranks rank entries = first :: rest) :
    ∃ before after, entries = before ++ first :: after ∧
      (∀ entry ∈ before, rank first < rank entry) ∧ (∀ entry ∈ after, rank first ≤ rank entry) ∧
        ranked ranks rank (before ++ after) = rest := by
  induction ranks with
  | nil => cases starts
  | cons least ranks inductionHypothesis =>
    obtain ⟨below, ascending⟩ := List.pairwise_cons.mp ascending
    have above : ∀ entry ∈ entries, rank entry ≠ least → rank entry ∈ ranks :=
      fun entry member other => (List.mem_cons.mp (within entry member)).resolve_left other
    rw [ranked_least] at starts
    cases here : entries.filter fun entry => decide (rank entry = least) with
    | nil =>
      rw [here, List.nil_append] at starts
      have others : ∀ entry ∈ entries, rank entry ≠ least := fun entry member same =>
        absurd (List.mem_filter.mpr ⟨member, decide_eq_true same⟩) (by rw [here]; simp)
      obtain ⟨before, after, split_, ahead, behind, rest_⟩ := inductionHypothesis ascending
        (fun entry member => above entry member (others entry member)) starts
      refine ⟨before, after, split_, ahead, behind, ?_⟩
      have none : ((before ++ after).filter fun entry => decide (rank entry = least)) = [] := by
        refine List.filter_eq_nil_iff.mpr fun entry member same => ?_
        have inside : entry ∈ entries := by
          rw [split_]
          rcases List.mem_append.mp member with front | back
          · exact List.mem_append_left _ front
          · exact List.mem_append_right _ (List.mem_cons_of_mem _ back)
        exact others entry inside (of_decide_eq_true same)
      rw [ranked_least, none, List.nil_append]
      exact rest_
    | cons head more =>
      rw [here, List.cons_append] at starts
      obtain ⟨rfl, rfl⟩ := List.cons.inj starts
      obtain ⟨before, after, split_, ahead, same, rest_⟩ := List.filter_eq_cons_iff.mp here
      have least_ := of_decide_eq_true same
      have inFront : ∀ entry ∈ before, rank entry ≠ least := fun entry member equal =>
        ahead entry member (decide_eq_true equal)
      refine ⟨before, after, split_, ?_, ?_, ?_⟩
      · intro entry member
        rw [least_]
        exact below _ (above entry (split_ ▸ List.mem_append_left _ member) (inFront entry member))
      · intro entry member
        have inside : entry ∈ entries :=
          split_ ▸ List.mem_append_right _ (List.mem_cons_of_mem _ member)
        rcases List.mem_cons.mp (within entry inside) with equal | later
        · exact Nat.le_of_eq (least_.trans equal.symm)
        · rw [least_]
          exact Nat.le_of_lt (below _ later)
      · have front : (before.filter fun entry => decide (rank entry = least)) = [] :=
          List.filter_eq_nil_iff.mpr fun entry member equal => ahead entry member equal
        rw [ranked_least, List.filter_append, front, List.nil_append, rest_]
        congr 1
        refine List.flatMap_congr fun other listed => ?_
        have apart : rank head ≠ other := by
          rw [least_]
          exact Nat.ne_of_lt (below other listed)
        rw [split_, List.filter_append, List.filter_append,
          List.filter_cons_of_neg (by simpa using apart)]

end Priorities
