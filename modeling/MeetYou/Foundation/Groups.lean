import Mathlib
import MeetYou.Foundation.Dict

/-!
# Groups and their best elements

Elements with one key form a group, in the order they come in; the groups are in the order of their
first elements. The best element of a group has the highest score, and among those that have it, it
comes first.
-/

namespace Groups

section
variable {α κ : Type} [DecidableEq κ] (key : α → κ)

/-- `groups.setdefault(key(item), []).append(item)` -/
def add (groups : Dict κ (List α)) (item : α) : Dict κ (List α) :=
  groups.set (key item) ((groups.get (key item)).getD [] ++ [item])

/-- The groups of the items. -/
def grouped (items : List α) : Dict κ (List α) := items.foldl (add key) Dict.empty

theorem getD_fold (items : List α) (groups : Dict κ (List α)) (name : κ) :
    ((items.foldl (add key) groups).get name).getD [] =
      (groups.get name).getD [] ++ items.filter fun item => decide (key item = name) := by
  induction items generalizing groups with
  | nil => exact (List.append_nil _).symm
  | cons item rest inductionHypothesis =>
    rw [List.foldl_cons, inductionHypothesis, add, Dict.get_set]
    by_cases same : key item = name
    · rw [if_pos same, List.filter_cons_of_pos (by simpa using same), Option.getD_some, same,
        List.append_assoc]
      rfl
    · rw [if_neg same, List.filter_cons_of_neg (by simpa using same)]

/-- No group is empty. -/
theorem get_fold_ne_nil (items : List α) {groups : Dict κ (List α)}
    (filled : ∀ name rows, groups.get name = some rows → rows ≠ []) :
    ∀ name rows, (items.foldl (add key) groups).get name = some rows → rows ≠ [] := by
  induction items generalizing groups with
  | nil => exact filled
  | cons item rest inductionHypothesis =>
    rw [List.foldl_cons]
    refine inductionHypothesis fun name rows found => ?_
    rw [add, Dict.get_set] at found
    split at found
    · injection found with same
      rw [← same]
      exact List.append_ne_nil_of_right_ne_nil _ (List.cons_ne_nil item [])
    · exact filled name rows found

/-- A group has the items with its key. -/
theorem mem_grouped_iff (items : List α) (name : κ) (rows : List α) :
    (name, rows) ∈ (grouped key items).entries ↔
      rows = (items.filter fun item => decide (key item = name)) ∧ rows ≠ [] := by
  have all := getD_fold key items Dict.empty name
  rw [← Dict.get_some_iff]
  constructor
  · intro found
    rw [← grouped, found] at all
    exact ⟨all, get_fold_ne_nil key items (fun _ _ found => by cases found) name rows found⟩
  · rintro ⟨same, filled⟩
    cases found : (grouped key items).get name with
    | none =>
      rw [← grouped, found] at all
      rw [same] at filled
      exact absurd all.symm filled
    | some others =>
      rw [← grouped, found] at all
      rw [same]
      exact congrArg some all

end

section
variable {α σ : Type} [LinearOrder σ] (score : α → σ)

/-- The rows from the best on, those of one score in their order. -/
def ranked (rows : List α) : List α :=
  rows.mergeSort fun row other => decide (score other ≤ score row)

/-- A row is in front of another one in the ranking: it has a higher score, or the same one and
comes first. -/
def Ahead (rows : List α) (row other : α) : Prop :=
  score other < score row ∨ score other = score row ∧ [row, other].Sublist rows

variable {score}

theorem mem_ranked {rows : List α} {row : α} : row ∈ ranked score rows ↔ row ∈ rows :=
  List.mem_mergeSort

theorem ranked_ne_nil {rows : List α} (some_ : rows ≠ []) : ranked score rows ≠ [] := by
  intro none_
  apply some_
  have same : (ranked score rows).length = rows.length := List.length_mergeSort rows
  rw [none_] at same
  exact List.length_eq_zero_iff.mp same.symm

/-- Two rows come in one order or the other. -/
theorem pair_either {rows : List α} {first second : α} (among : first ∈ rows)
    (also : second ∈ rows) (different : first ≠ second) :
    [first, second].Sublist rows ∨ [second, first].Sublist rows := by
  induction rows with
  | nil => cases among
  | cons row rest inductionHypothesis =>
    rcases List.mem_cons.mp among with same | below
    · subst same
      have later := (List.mem_cons.mp also).resolve_left (Ne.symm different)
      exact .inl ((List.singleton_sublist.mpr later).cons_cons first)
    · rcases List.mem_cons.mp also with same | under
      · subst same
        exact .inr ((List.singleton_sublist.mpr below).cons_cons second)
      · exact (inductionHypothesis below under).imp (.cons row) (.cons row)

/-- No row is in front of the first one of the ranking. -/
theorem not_ahead_of_head {rows : List α} (distinct : rows.Nodup) {row other : α}
    (first : (ranked score rows).head? = some row) (among : other ∈ rows) :
    ¬Ahead score rows other row := by
  have transitive : ∀ a b c : α, decide (score b ≤ score a) = true →
      decide (score c ≤ score b) = true → decide (score c ≤ score a) = true := by
    intro a b c ab bc
    exact decide_eq_true (le_trans (of_decide_eq_true bc) (of_decide_eq_true ab))
  have total : ∀ a b : α, (decide (score b ≤ score a) || decide (score a ≤ score b)) = true := by
    intro a b
    rw [Bool.or_eq_true, decide_eq_true_eq, decide_eq_true_eq]
    exact le_total _ _
  have sorted := List.pairwise_mergeSort transitive total rows
  have unique : (ranked score rows).Nodup := (List.mergeSort_perm rows _).nodup_iff.mpr distinct
  obtain ⟨tail, shape⟩ := List.head?_eq_some_iff.mp first
  rw [shape] at unique
  change (ranked score rows).Pairwise _ at sorted
  rw [shape] at sorted
  rintro (higher | ⟨same, order⟩)
  · have listed : other ∈ row :: tail := by
      rw [← shape]
      exact mem_ranked.mpr among
    rcases List.mem_cons.mp listed with equal | below
    · rw [equal] at higher
      exact lt_irrefl _ higher
    · have notHigher := of_decide_eq_true (List.rel_of_pairwise_cons sorted below)
      exact absurd higher (not_lt.mpr notHigher)
  · have kept : [other, row].Sublist (ranked score rows) :=
      List.pair_sublist_mergeSort transitive total (decide_eq_true same.le) order
    rw [shape] at kept
    have absent := (List.nodup_cons.mp unique).1
    have below : row ∈ tail := by
      cases kept with
      | cons _ kept => exact kept.subset (by simp)
      | cons_cons _ kept => exact kept.subset (by simp)
    exact absent below

/-- The best row is the one that no other is in front of. -/
theorem head_ranked_iff {rows : List α} (distinct : rows.Nodup) (row : α) :
    (ranked score rows).head? = some row ↔
      row ∈ rows ∧ ∀ other ∈ rows, ¬Ahead score rows other row := by
  constructor
  · intro first
    refine ⟨?_, fun other among => not_ahead_of_head distinct first among⟩
    exact mem_ranked.mp (List.mem_of_head? first)
  · rintro ⟨among, leads⟩
    obtain ⟨best, tail, shape⟩ :=
      List.exists_cons_of_ne_nil (@ranked_ne_nil _ _ _ score _ (List.ne_nil_of_mem among))
    have first : (ranked score rows).head? = some best := by rw [shape]; rfl
    rw [first]
    by_contra other
    have different : best ≠ row := fun same => other (congrArg some same)
    have listed : best ∈ rows := mem_ranked.mp (List.mem_of_head? first)
    have notAhead := leads best listed
    have notBehind := not_ahead_of_head distinct first among
    simp only [Ahead, not_or, not_and, not_lt] at notAhead notBehind
    have same : score row = score best := le_antisymm notBehind.1 notAhead.1
    rcases pair_either listed among different with order | order
    · exact notAhead.2 same order
    · exact notBehind.2 same.symm order

end

section
variable {α σ : Type} [LinearOrder σ] (order : α → σ)

/-- The rows from the least on. -/
def ascending (rows : List α) : List α :=
  rows.mergeSort fun row other => decide (order row ≤ order other)

variable {order}

/-- Rows with different values stand in strict order. -/
theorem pairwise_ascending {rows : List α} (distinct : (rows.map order).Nodup) :
    (ascending order rows).Pairwise fun row other => order row < order other := by
  have transitive : ∀ a b c : α, decide (order a ≤ order b) = true →
      decide (order b ≤ order c) = true → decide (order a ≤ order c) = true := by
    intro a b c ab bc
    exact decide_eq_true (le_trans (of_decide_eq_true ab) (of_decide_eq_true bc))
  have total : ∀ a b : α, (decide (order a ≤ order b) || decide (order b ≤ order a)) = true := by
    intro a b
    rw [Bool.or_eq_true, decide_eq_true_eq, decide_eq_true_eq]
    exact le_total _ _
  have least : (ascending order rows).Pairwise fun a b => decide (order a ≤ order b) = true :=
    List.pairwise_mergeSort transitive total rows
  have unique : ((ascending order rows).map order).Nodup :=
    ((List.mergeSort_perm rows _).map order).nodup_iff.mpr distinct
  have different : (ascending order rows).Pairwise fun a b => order a ≠ order b :=
    List.pairwise_map.mp unique
  exact (least.and different).imp fun both => lt_of_le_of_ne (of_decide_eq_true both.1) both.2

/-- The first row of a strict order is the least one. -/
theorem head_strict_iff {rows : List α}
    (strict : rows.Pairwise fun row other => order row < order other) (row : α) :
    rows.head? = some row ↔ row ∈ rows ∧ ∀ other ∈ rows, order row ≤ order other := by
  cases strict with
  | nil => simp
  | @cons first rest smaller _ =>
    rw [List.head?_cons, Option.some.injEq]
    constructor
    · rintro rfl
      refine ⟨List.mem_cons_self, fun other member => ?_⟩
      rcases List.mem_cons.mp member with same | later
      · exact (congrArg order same).ge
      · exact (smaller other later).le
    · rintro ⟨member, least⟩
      rcases List.mem_cons.mp member with same | later
      · exact same.symm
      · exact absurd (least first List.mem_cons_self) (not_le.mpr (smaller row later))

/-- The rows in front of a limit are those with few rows below them. -/
theorem mem_take_strict_iff {rows : List α}
    (strict : rows.Pairwise fun row other => order row < order other) (limit : Nat) (row : α) :
    row ∈ rows.take limit ↔ row ∈ rows ∧
      (rows.filter fun other => decide (order other < order row)).length < limit := by
  induction strict generalizing limit with
  | nil => simp
  | @cons first rest smaller _ inductionHypothesis =>
    cases limit with
    | zero => simp
    | succ limit =>
      rw [List.take_succ_cons, List.mem_cons, inductionHypothesis, List.mem_cons]
      by_cases same : row = first
      · subst same
        have none_ : ((row :: rest).filter fun other => decide (order other < order row)) = [] := by
          rw [List.filter_eq_nil_iff]
          intro other member below
          rcases List.mem_cons.mp member with same | later
          · rw [same] at below
            exact lt_irrefl _ (of_decide_eq_true below)
          · exact lt_asymm (smaller other later) (of_decide_eq_true below)
        rw [none_]
        simp
      · by_cases later : row ∈ rest
        · have counted : ((first :: rest).filter fun other => decide (order other < order row)) =
              first :: rest.filter fun other => decide (order other < order row) :=
            List.filter_cons_of_pos (decide_eq_true (smaller row later))
          rw [counted, List.length_cons]
          simp [same, later]
        · simp [same, later]

theorem mem_ascending {rows : List α} {row : α} : row ∈ ascending order rows ↔ row ∈ rows :=
  List.mem_mergeSort

/-- The first row in order is the least one. -/
theorem head_ascending_iff {rows : List α} (distinct : (rows.map order).Nodup) (row : α) :
    (ascending order rows).head? = some row ↔
      row ∈ rows ∧ ∀ other ∈ rows, order row ≤ order other := by
  rw [head_strict_iff (pairwise_ascending distinct), mem_ascending]
  simp only [mem_ascending]

/-- The rows in front of a limit in order are those with few rows below them. -/
theorem mem_take_ascending_iff {rows : List α} (distinct : (rows.map order).Nodup) (limit : Nat)
    (row : α) : row ∈ (ascending order rows).take limit ↔ row ∈ rows ∧
      (rows.filter fun other => decide (order other < order row)).length < limit := by
  rw [mem_take_strict_iff (pairwise_ascending distinct), mem_ascending]
  have same : ((ascending order rows).filter fun other => decide (order other < order row)).Perm
      (rows.filter fun other => decide (order other < order row)) :=
    (List.mergeSort_perm rows _).filter _
  rw [same.length_eq]

end

end Groups
