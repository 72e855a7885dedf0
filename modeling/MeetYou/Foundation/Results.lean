import Mathlib.Data.List.Forall2

/-!
# Results of a list of calls

Calls that are made one after the other stop at the first that fails. Where all succeed, each result
stands beside the item it was made from.
-/

namespace Results

section
variable {α β : Type} {call : α → Option β} {items : List α} {results : List β}

/-- Calls that all succeed have their results. -/
theorem succeed (each : ∀ item ∈ items, ∃ result, call item = some result) :
    ∃ results, items.mapM call = some results := by
  induction items with
  | nil => exact ⟨[], rfl⟩
  | cons item rest inductionHypothesis =>
    obtain ⟨result, called⟩ := each item List.mem_cons_self
    obtain ⟨results, others⟩ := inductionHypothesis fun other member =>
      each other (List.mem_cons_of_mem item member)
    refine ⟨result :: results, ?_⟩
    rw [List.mapM_cons, called, others]
    rfl

/-- The results of a list of calls stand beside them. -/
theorem beside (succeeded : items.mapM call = some results) :
    List.Forall₂ (fun item result => call item = some result) items results := by
  induction items generalizing results with
  | nil =>
    obtain rfl := Option.some.inj succeeded
    exact .nil
  | cons item rest inductionHypothesis =>
    rw [List.mapM_cons] at succeeded
    obtain ⟨result, called, later⟩ := Option.bind_eq_some_iff.mp succeeded
    obtain ⟨results, others, same⟩ := Option.bind_eq_some_iff.mp later
    obtain rfl := Option.some.inj same
    exact .cons called (inductionHypothesis others)

end

section
variable {α β : Type} {related : α → β → Prop} {items : List α} {results : List β}

/-- A result was made from an item. -/
theorem exists_item (beside : List.Forall₂ related items results) {result : β}
    (inside : result ∈ results) : ∃ item ∈ items, related item result := by
  induction beside with
  | nil => cases inside
  | cons first _ inductionHypothesis =>
    rcases List.mem_cons.mp inside with rfl | later
    · exact ⟨_, List.mem_cons_self, first⟩
    · obtain ⟨item, member, other⟩ := inductionHypothesis later
      exact ⟨item, List.mem_cons_of_mem _ member, other⟩

/-- An item has a result. -/
theorem exists_result (beside : List.Forall₂ related items results) {item : α}
    (inside : item ∈ items) : ∃ result ∈ results, related item result := by
  induction beside with
  | nil => cases inside
  | cons first _ inductionHypothesis =>
    rcases List.mem_cons.mp inside with rfl | later
    · exact ⟨_, List.mem_cons_self, first⟩
    · obtain ⟨result, member, other⟩ := inductionHypothesis later
      exact ⟨result, List.mem_cons_of_mem _ member, other⟩

/-- What a result has in common with its item, the results have in common with the items. -/
theorem map_eq {γ : Type} {found : α → γ} {kept : β → γ}
    (same : ∀ item result, related item result → kept result = found item)
    (beside : List.Forall₂ related items results) : results.map kept = items.map found := by
  induction beside with
  | nil => rfl
  | cons first _ inductionHypothesis =>
    rw [List.map_cons, List.map_cons, same _ _ first, inductionHypothesis]

end

end Results
