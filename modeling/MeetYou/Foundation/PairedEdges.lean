import Mathlib.Order.Basic
import Mathlib.Data.List.Nodup
import Mathlib.Data.Set.Basic

/-!
# Edges stored once for each pair

An undirected graph is kept as a list of edges. Each edge stores the smaller of its two
nodes first and is looked up in that order, so both directions find it. An upsert of a
pair changes the edge it finds and adds one only where there is none.

The list is a simple graph on a set of nodes when every edge joins two different nodes of
the set in their order, and no pair has two edges. Upserts between nodes of the set keep
this. So does taking nodes away together with the edges at them.
-/

namespace PairedEdges

universe u v

/-- A stored edge. -/
structure Edge (κ : Type u) (α : Type v) where
  fromId : κ
  toId : κ
  data : α

variable {κ : Type u} {α : Type v} [LinearOrder κ]

/-- The nodes an edge joins, in the order they are stored in. -/
def Edge.pair (edge : Edge κ α) : κ × κ := (edge.fromId, edge.toId)

/-- Two nodes in the order they are stored in. -/
def ends (left right : κ) : κ × κ := if right < left then (right, left) else (left, right)

/-- The edge of the pair. -/
def find (edges : List (Edge κ α)) (left right : κ) : Option (Edge κ α) :=
  edges.find? fun edge => edge.pair = ends left right

/-- Change the first edge of the pair. -/
def revise (pair : κ × κ) (change : α → α) : List (Edge κ α) → List (Edge κ α)
  | [] => []
  | edge :: rest =>
      if edge.pair = pair then { edge with data := change edge.data } :: rest
      else edge :: revise pair change rest

/-- Change the edge between two different nodes, or add one. -/
def upsert (edges : List (Edge κ α)) (left right : κ) (new : α) (change : α → α) :
    List (Edge κ α) :=
  if left = right then edges
  else match find edges left right with
    | none => edges ++ [⟨(ends left right).1, (ends left right).2, new⟩]
    | some _ => revise (ends left right) change edges

/-- Take away the edges at the given nodes. -/
def remove (edges : List (Edge κ α)) (nodes : List κ) : List (Edge κ α) :=
  edges.filter fun edge => edge.fromId ∉ nodes ∧ edge.toId ∉ nodes

/-- A simple graph on the nodes. -/
structure Simple (nodes : Set κ) (edges : List (Edge κ α)) : Prop where
  joined : ∀ edge ∈ edges, edge.fromId ∈ nodes ∧ edge.toId ∈ nodes
  ordered : ∀ edge ∈ edges, edge.fromId < edge.toId
  single : (edges.map Edge.pair).Nodup

theorem simple_nil (nodes : Set κ) : Simple nodes ([] : List (Edge κ α)) where
  joined := fun _ member => (List.not_mem_nil member).elim
  ordered := fun _ member => (List.not_mem_nil member).elim
  single := List.nodup_nil

/-- More nodes do no harm. -/
theorem Simple.mono {nodes more : Set κ} {edges : List (Edge κ α)} (simple : Simple nodes edges)
    (within : nodes ⊆ more) : Simple more edges where
  joined := fun edge member =>
    ⟨within (simple.joined edge member).1, within (simple.joined edge member).2⟩
  ordered := simple.ordered
  single := simple.single

/-- Different nodes are stored in their order. -/
theorem ends_lt {left right : κ} (different : left ≠ right) :
    (ends left right).1 < (ends left right).2 := by
  unfold ends
  split
  · assumption
  · rename_i behind
    exact lt_of_le_of_ne (not_lt.mp behind) different

/-- Storing the nodes in their order keeps them. -/
theorem ends_mem {nodes : Set κ} {left right : κ} (first : left ∈ nodes) (second : right ∈ nodes) :
    (ends left right).1 ∈ nodes ∧ (ends left right).2 ∈ nodes := by
  unfold ends
  split
  · exact ⟨second, first⟩
  · exact ⟨first, second⟩

/-- A revision keeps the pairs. -/
theorem revise_pairs (pair : κ × κ) (change : α → α) (edges : List (Edge κ α)) :
    (revise pair change edges).map Edge.pair = edges.map Edge.pair := by
  induction edges with
  | nil => rfl
  | cons edge rest inductionHypothesis =>
    unfold revise
    split
    · rfl
    · simp [inductionHypothesis]

omit [LinearOrder κ] in
/-- What holds of the pairs of all edges is seen in the list of pairs. -/
theorem forall_pairs {property : κ × κ → Prop} {edges : List (Edge κ α)} :
    (∀ edge ∈ edges, property edge.pair) ↔ ∀ pair ∈ edges.map Edge.pair, property pair := by
  simp

/-- Whether a list of edges is simple depends on its pairs alone. -/
theorem simple_iff {nodes : Set κ} {edges : List (Edge κ α)} :
    Simple nodes edges ↔
      (∀ pair ∈ edges.map Edge.pair, (pair.1 ∈ nodes ∧ pair.2 ∈ nodes) ∧ pair.1 < pair.2) ∧
        (edges.map Edge.pair).Nodup := by
  rw [← forall_pairs]
  constructor
  · intro simple
    exact ⟨fun edge member => ⟨simple.joined edge member, simple.ordered edge member⟩,
      simple.single⟩
  · rintro ⟨each, single⟩
    exact ⟨fun edge member => (each edge member).1, fun edge member => (each edge member).2, single⟩

/-- Upserting an edge between nodes of a simple graph leaves one. -/
theorem Simple.upsert {nodes : Set κ} {edges : List (Edge κ α)} (simple : Simple nodes edges)
    {left right : κ} (first : left ∈ nodes) (second : right ∈ nodes) (new : α) (change : α → α) :
    Simple nodes (upsert edges left right new change) := by
  unfold PairedEdges.upsert
  split
  · exact simple
  rename_i different
  split
  · rename_i absent
    rw [simple_iff] at simple ⊢
    rw [List.map_append]
    constructor
    · intro pair member
      rcases List.mem_append.mp member with old | added
      · exact simple.1 pair old
      · obtain rfl := List.mem_singleton.mp added
        exact ⟨ends_mem first second, ends_lt different⟩
    · apply List.nodup_append.mpr
      refine ⟨simple.2, List.nodup_singleton _, ?_⟩
      intro pair old other added same
      obtain rfl := List.mem_singleton.mp added
      subst same
      obtain ⟨edge, member, named⟩ := List.mem_map.mp old
      have unlike := List.find?_eq_none.mp absent edge member
      exact unlike (decide_eq_true (named.trans rfl))
  · rw [simple_iff, revise_pairs, ← simple_iff]
    exact simple

/-- Taking nodes away with their edges leaves a simple graph on the others. -/
theorem Simple.remove {nodes : Set κ} {edges : List (Edge κ α)} (simple : Simple nodes edges)
    (gone : List κ) : Simple { node | node ∈ nodes ∧ node ∉ gone } (remove edges gone) := by
  have kept : ∀ edge ∈ PairedEdges.remove edges gone,
      edge ∈ edges ∧ edge.fromId ∉ gone ∧ edge.toId ∉ gone := by
    intro edge member
    obtain ⟨old, apart⟩ := List.mem_filter.mp member
    exact ⟨old, of_decide_eq_true apart⟩
  constructor
  · intro edge member
    obtain ⟨old, left, right⟩ := kept edge member
    obtain ⟨first, second⟩ := simple.joined edge old
    exact ⟨⟨first, left⟩, second, right⟩
  · exact fun edge member => simple.ordered edge (kept edge member).1
  · exact simple.single.sublist (List.filter_sublist.map Edge.pair)

end PairedEdges
