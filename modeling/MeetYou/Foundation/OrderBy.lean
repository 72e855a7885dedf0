import Mathlib.Data.List.Sort
import Mathlib.Data.List.Nodup
import Mathlib.Data.List.Pairwise

/-!
# Rows in the order of a key

A query that orders its rows by a key returns every row, in an order that never
decreases in the key. Rows with equal keys may come in either order, and the
order may differ from one execution to the next, so the ordering of a database
is a value of a structure with exactly these two laws.

A list is what every such ordering returns precisely when it is a rearrangement
of the rows that strictly increases in the key. That statement is used to say
when a query has one possible answer.
-/

universe u v

/-- An implementation of ordering by `key`, ties left open. -/
structure OrderBy {α : Type u} {κ : Type v} [LinearOrder κ] (key : α → κ) where
  sort : List α → List α
  perm : ∀ rows, (sort rows).Perm rows
  sorted : ∀ rows, (sort rows).Pairwise fun first second => key first ≤ key second

namespace OrderBy

variable {α : Type u} {κ : Type v} [LinearOrder κ] {key : α → κ}

instance keyTotal : Std.Total fun first second : α => key first ≤ key second :=
  ⟨fun first second => le_total (key first) (key second)⟩

instance keyTrans : IsTrans α fun first second => key first ≤ key second :=
  ⟨fun _ _ _ => le_trans⟩

/-- Rearrange the rows first, then sort stably: rows with equal keys come out in
the order the rearrangement gave them. -/
def after (rearrange : List α → List α) (perm : ∀ rows, (rearrange rows).Perm rows) :
    OrderBy key where
  sort rows := (rearrange rows).insertionSort fun first second => key first ≤ key second
  perm rows := (List.perm_insertionSort _ _).trans (perm rows)
  sorted _ := List.pairwise_insertionSort _ _

/-- Rows with equal keys keep the order they had. -/
def stable : OrderBy key := after id fun _ => List.Perm.refl _

/-- Two rows cannot stand in both orders in a list without repetition. -/
theorem not_both_orders {rows : List α} (distinct : rows.Nodup) {first second : α}
    (forward : [first, second].Sublist rows) : ¬ [second, first].Sublist rows := by
  induction rows with
  | nil => cases forward
  | cons head rest inductionHypothesis =>
    obtain ⟨absent, tailDistinct⟩ := List.nodup_cons.mp distinct
    intro backward
    rcases List.sublist_cons_iff.mp forward with below | ⟨_, equal, below⟩
    · rcases List.sublist_cons_iff.mp backward with under | ⟨_, equal, _⟩
      · exact inductionHypothesis tailDistinct below under
      · injection equal with isHead _
        exact absent (isHead ▸ below.subset (by simp))
    · injection equal with isHead same
      subst same isHead
      have secondBelow : second ∈ rest := below.subset (by simp)
      rcases List.sublist_cons_iff.mp backward with under | ⟨_, equal, _⟩
      · exact absent (under.subset (by simp))
      · injection equal with isHead _
        exact absent (isHead ▸ secondBelow)

open Classical in
/-- Rows without repetition have `target` as their only possible order exactly
when it rearranges them and strictly increases in the key.

A tie between two rows of the target would let another ordering return them the
other way round: move the later one to the front and sort stably. -/
theorem always_iff {rows target : List α} (distinct : rows.Nodup) :
    (∀ order : OrderBy key, order.sort rows = target) ↔
      target.Perm rows ∧ target.Pairwise fun first second => key first < key second := by
  constructor
  · intro always
    have perm : target.Perm rows := always stable ▸ stable.perm rows
    have ordered : target.Pairwise fun first second => key first ≤ key second :=
      always stable ▸ stable.sorted rows
    have targetDistinct : target.Nodup := perm.nodup_iff.mpr distinct
    refine ⟨perm, List.pairwise_iff_forall_sublist.mpr ?_⟩
    intro first second pair
    have below : key first ≤ key second := List.pairwise_iff_forall_sublist.mp ordered pair
    refine lt_of_le_of_ne below fun tie => ?_
    have present : second ∈ rows := perm.mem_iff.mp (pair.subset (by simp))
    have other : first ∈ rows.erase second := by
      have different : first ≠ second := by
        rintro rfl
        exact not_both_orders targetDistinct pair pair
      exact (List.mem_erase_of_ne different).mpr (perm.mem_iff.mp (pair.subset (by simp)))
    let favouring : OrderBy key := after
      (fun given => if second ∈ given then second :: given.erase second else given)
      (fun given => by
        split
        · next member => exact (List.perm_cons_erase member).symm
        · exact List.Perm.refl _)
    have swapped : [second, first].Sublist (favouring.sort rows) := by
      have moved : [second, first].Sublist
          (if second ∈ rows then second :: rows.erase second else rows) := by
        rw [if_pos present]
        exact (List.singleton_sublist.mpr other).cons_cons second
      exact List.pair_sublist_insertionSort (r := fun first second : α => key first ≤ key second)
        (le_of_eq tie.symm) moved
    exact not_both_orders targetDistinct pair (always favouring ▸ swapped)
  · rintro ⟨perm, strict⟩ order
    refine List.Perm.eq_of_pairwise ?_ (order.sorted rows) (strict.imp le_of_lt)
      ((order.perm rows).trans perm.symm)
    intro first second inSorted inTarget forward backward
    have firstInTarget : first ∈ target :=
      perm.mem_iff.mpr ((order.perm rows).mem_iff.mp inSorted)
    by_contra different
    have apart : key first ≠ key second := by
      have symmetric : Std.Symm fun first second : α => key first ≠ key second :=
        ⟨fun _ _ => Ne.symm⟩
      exact (strict.imp ne_of_lt).forall firstInTarget inTarget different
    exact apart (le_antisymm forward backward)

/-- Selecting by a narrower test from a list in two parts gives the wider
selection from the second part exactly when the narrower test rejects the first
part and loses nothing of the second. -/
theorem perm_selection_iff {front back : List α} {narrow wide : α → Bool}
    (implied : ∀ row, narrow row = true → wide row = true) (distinct : (front ++ back).Nodup) :
    (back.filter wide).Perm ((front ++ back).filter narrow) ↔
      (∀ row ∈ front, narrow row = false) ∧ ∀ row ∈ back, wide row = true → narrow row = true := by
  have apart := (List.nodup_append.mp distinct).2.2
  constructor
  · intro perm
    constructor
    · intro row member
      by_contra selected
      have chosen : row ∈ (front ++ back).filter narrow :=
        List.mem_filter.mpr ⟨List.mem_append_left back member, by simpa using selected⟩
      exact apart row member row (List.mem_filter.mp (perm.mem_iff.mpr chosen)).1 rfl
    · intro row member selected
      have chosen : row ∈ back.filter wide := List.mem_filter.mpr ⟨member, selected⟩
      exact (List.mem_filter.mp (perm.mem_iff.mp chosen)).2
  · rintro ⟨rejected, kept⟩
    have none : front.filter narrow = [] :=
      List.filter_eq_nil_iff.mpr fun row member => by simp [rejected row member]
    have same : back.filter wide = back.filter narrow := by
      refine List.filter_congr fun row member => ?_
      by_cases selected : wide row = true
      · rw [selected, kept row member selected]
      · have unselected : ¬ narrow row = true := fun chosen => selected (implied row chosen)
        simp only [Bool.not_eq_true] at selected unselected
        rw [selected, unselected]
    rw [List.filter_append, none, same, List.nil_append]

/-- In an ascending list the rows with a smaller key stand in front of a row, and those in front of
it have no greater one. -/
theorem counts_around {rows : List α}
    (ascending : rows.Pairwise fun first second => key first ≤ key second) {place : Nat} {row : α}
    (found : rows[place]? = some row) :
    rows.countP (fun other => key other < key row) ≤ place ∧
      place < rows.countP fun other => key other ≤ key row := by
  obtain ⟨bound, rfl⟩ := List.getElem?_eq_some_iff.mp found
  have split_ : rows = rows.take place ++ rows[place] :: rows.drop (place + 1) := by
    rw [← List.drop_eq_getElem_cons bound, List.take_append_drop]
  have sorted := ascending
  rw [split_, List.pairwise_append] at sorted
  obtain ⟨_, later, across⟩ := sorted
  have before : (rows.take place).length = place := List.length_take_of_le (Nat.le_of_lt bound)
  have none_ : (rows[place] :: rows.drop (place + 1)).countP
      (fun other => key other < key rows[place]) = 0 := by
    rw [List.countP_eq_zero]
    intro other member
    rcases List.mem_cons.mp member with rfl | behind
    · simp
    · simpa using (List.pairwise_cons.mp later).1 other behind
  have all : (rows.take place).countP (fun other => key other ≤ key rows[place]) = place := by
    refine Eq.trans ?_ before
    rw [List.countP_eq_length]
    exact fun other member => decide_eq_true (across other member _ List.mem_cons_self)
  generalize rows[place] = row at *
  constructor
  · have most := @List.countP_le_length _ (fun other => decide (key other < key row))
      (rows.take place)
    rw [split_, List.countP_append, none_]
    omega
  · have itself : 0 < (row :: rows.drop (place + 1)).countP fun other => key other ≤ key row :=
      List.countP_pos_iff.mpr ⟨row, List.mem_cons_self, decide_eq_true (le_refl _)⟩
    rw [split_, List.countP_append, all]
    omega

end OrderBy
