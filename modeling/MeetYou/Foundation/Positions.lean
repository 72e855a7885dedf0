import Mathlib.Data.List.Basic

/-!
# Lists read at positions

A list that grows at its end and is changed in place keeps a position for each of its entries.
What stands at a position after a change is the new entry or what stood there before.
-/

namespace Positions

universe u
variable {α : Type u} {items : List α} {index other : Nat} {item held : α}

/-- After an entry is replaced, a position holds the new entry or what it held. -/
theorem set_cases (placed : (items.set index item)[other]? = some held) :
    (other = index ∧ held = item) ∨ (other ≠ index ∧ items[other]? = some held) := by
  by_cases same : other = index
  · subst same
    obtain ⟨within, got⟩ := List.getElem?_eq_some_iff.mp placed
    rw [List.getElem_set_self] at got
    exact Or.inl ⟨rfl, got.symm⟩
  · rw [List.getElem?_set_ne (Ne.symm same)] at placed
    exact Or.inr ⟨same, placed⟩

/-- The replaced entry stands at its position. -/
theorem set_self (found : items[index]? = some held) (item : α) :
    (items.set index item)[index]? = some item :=
  List.getElem?_set_self (List.getElem?_eq_some_iff.mp found).1

/-- Behind a grown list stands its last entry, before it what stood there. -/
theorem append_cases (placed : (items ++ [item])[other]? = some held) :
    items[other]? = some held ∨ (other = items.length ∧ held = item) := by
  by_cases within : other < items.length
  · rw [List.getElem?_append_left within] at placed
    exact Or.inl placed
  · rw [List.getElem?_append_right (Nat.le_of_not_lt within)] at placed
    obtain ⟨last, same⟩ := List.getElem?_eq_some_iff.mp placed
    rw [List.length_singleton] at last
    rw [List.getElem_singleton] at same
    exact Or.inr ⟨by omega, same.symm⟩

/-- Growth keeps what a position holds. -/
theorem append_of_some (found : items[index]? = some held) (item : α) :
    (items ++ [item])[index]? = some held :=
  (List.getElem?_append_left (List.getElem?_eq_some_iff.mp found).1).trans found

/-- A replaced entry is counted in place of the one before. -/
theorem countP_set (found : items[index]? = some held) (test : α → Bool) :
    (items.set index item).countP test + (if test held then 1 else 0) =
      items.countP test + (if test item then 1 else 0) := by
  obtain ⟨within, got⟩ := List.getElem?_eq_some_iff.mp found
  have positive : test held = true → 0 < items.countP test := fun passes =>
    List.countP_pos_iff.mpr ⟨held, List.mem_of_getElem? found, passes⟩
  rw [List.countP_set within, got]
  split
  case isTrue passes =>
    have some_ := positive passes
    omega
  case isFalse => omega

/-- An entry stands between those in front and those behind. -/
theorem parts_of_some (found : items[index]? = some held) :
    items = items.take index ++ held :: items.drop (index + 1) := by
  obtain ⟨within, got⟩ := List.getElem?_eq_some_iff.mp found
  rw [← got, List.getElem_cons_drop, List.take_append_drop]

/-- An entry that a test leaves out can be taken out unnoticed. -/
theorem filter_erased (found : items[index]? = some held) {test : α → Bool}
    (fails : test held = false) : (items.eraseIdx index).filter test = items.filter test := by
  conv_rhs => rw [parts_of_some found]
  rw [List.eraseIdx_eq_take_drop_succ, List.filter_append, List.filter_append,
    List.filter_cons_of_neg (by simp [fails])]

/-- An entry that passes a test is missed. -/
theorem length_filter_erased (found : items[index]? = some held) {test : α → Bool}
    (passes : test held = true) :
    ((items.eraseIdx index).filter test).length + 1 = (items.filter test).length := by
  conv_rhs => rw [parts_of_some found]
  rw [List.eraseIdx_eq_take_drop_succ, List.filter_append, List.filter_append,
    List.filter_cons_of_pos passes, List.length_append, List.length_append, List.length_cons]
  omega

theorem append_self (items : List α) (item : α) : (items ++ [item])[items.length]? = some item := by
  simp

end Positions
