import Mathlib.Logic.Function.Basic

/-!
# Tables related key by key

Two partial functions from the same keys are related when each key is absent from
both or holds related entries. Writing related entries under one key keeps them
related, and an entry on one side gives its counterpart on the other.
-/

namespace RelatedTables

universe u v w x
variable {α : Type u} {β : Type v} {γ : Type w} {δ : Type x}

/-- Related tables stay related where related entries are written under one key. -/
theorem rel_update [DecidableEq γ] {relation : γ → α → β → Prop} {first : γ → Option α}
    {second : γ → Option β} (related : ∀ key, Option.Rel (relation key) (first key) (second key))
    {key : γ} {left : α} {right : β} (entry : relation key left right) (tested : γ) :
    Option.Rel (relation tested) (Function.update first key (some left) tested)
      (Function.update second key (some right) tested) := by
  by_cases same : tested = key
  · subst same
    simpa using Option.Rel.some entry
  · simpa [same] using related tested

variable {relation : α → β → Prop} {left : Option α} {right : Option β}

/-- A weaker relation holds as well. -/
theorem rel_imp {weaker : α → β → Prop} (related : Option.Rel relation left right)
    (implied : ∀ first second, relation first second → weaker first second) :
    Option.Rel weaker left right := by
  cases related with
  | none => exact .none
  | some holds => exact .some (implied _ _ holds)

/-- An entry on one side has its counterpart on the other. -/
theorem rel_some {value : α} (related : Option.Rel relation left right)
    (found : left = some value) : ∃ other, right = some other ∧ relation value other := by
  cases related with
  | none => cases found
  | some holds =>
    cases found
    exact ⟨_, rfl, holds⟩

theorem rel_none (related : Option.Rel relation left right) (absent : left = none) :
    right = none := by
  cases related with
  | none => rfl
  | some _ => cases absent

/-- Tests that agree on related entries keep or drop both. -/
theorem rel_filter {keepLeft : α → Bool} {keepRight : β → Bool}
    (related : Option.Rel relation left right)
    (agree : ∀ first second, relation first second → keepLeft first = keepRight second) :
    Option.Rel relation (left.filter keepLeft) (right.filter keepRight) := by
  cases related with
  | none => exact .none
  | @some first second holds =>
    simp only [Option.filter, agree first second holds]
    split
    · exact .some holds
    · exact .none

/-- Related entries that are looked up only where two other entries are related. -/
theorem rel_guard {guard : γ → δ → Prop} {first : Option γ} {second : Option δ}
    (guarded : Option.Rel guard first second) (related : Option.Rel relation left right) :
    Option.Rel relation (first.bind fun _ => left) (second.bind fun _ => right) := by
  cases guarded with
  | none => exact .none
  | some _ => exact related

end RelatedTables
