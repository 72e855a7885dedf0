import MeetYou.Foundation.Dict

/-!
# Stored values: JSON, keyed fields and instants

JSON values as they arrive in a frame or stand in a column, the dictionaries of
named fields the programs pass around, and instants of a clock. A value counts
as present under `value or default` when it is true in the source language's
sense: not null, false, zero or empty.
-/

/-- A decoded JSON value. -/
inductive Json where
  | null
  | bool (value : Bool)
  | num (value : Rat)
  | str (value : String)
  | arr (items : List Json)
  | obj (fields : List (String × Json))

namespace Json

/-- Truth of a value where a condition is expected. -/
def truthy : Json → Bool
  | .null => false
  | .bool value => value
  | .num value => decide (value ≠ 0)
  | .str value => decide (value ≠ "")
  | .arr items => !items.isEmpty
  | .obj fields => !fields.isEmpty

end Json

/-- A dictionary of named JSON values. -/
abbrev Fields := Dict String Json

namespace Fields

/-- Fields in the given order; a repeated name keeps its last value. -/
def of (pairs : List (String × Json)) : Fields :=
  pairs.foldl (fun fields pair => fields.set pair.1 pair.2) Dict.empty

/-- `fields.get(name) or default`. -/
def getOr (fields : Fields) (name : String) (default : Json) : Json :=
  match fields.get name with
  | none => default
  | some value => if value.truthy then value else default

/-- `fields.setdefault(name, default)`. -/
def setDefault (fields : Fields) (name : String) (default : Json) : Fields :=
  match fields.get name with
  | none => fields.set name default
  | some _ => fields

/-- `{**fields, **changes}`, also `fields.update(changes)`. -/
def update (fields changes : Fields) : Fields :=
  changes.entries.foldl (fun merged entry => merged.set entry.1 entry.2) fields

/-- The fields as a nested value. -/
def toJson (fields : Fields) : Json := .obj fields.entries

/-- Assigning a list of entries leaves a name outside it alone. -/
theorem fold_set_absent (name : String) (entries : List (String × Json)) (merged : Fields)
    (absent : name ∉ entries.map Prod.fst) :
    (entries.foldl (fun fields entry => fields.set entry.1 entry.2) merged).get name =
      merged.get name := by
  induction entries generalizing merged with
  | nil => rfl
  | cons entry rest inductionHypothesis =>
    simp only [List.map_cons, List.mem_cons, not_or] at absent
    rw [List.foldl_cons, inductionHypothesis _ absent.2, Dict.get_set_ne _ _ (Ne.symm absent.1)]

/-- Fields given in order have no other names. -/
theorem get_of_absent {name : String} {pairs : List (String × Json)}
    (absent : name ∉ pairs.map Prod.fst) : (of pairs).get name = none :=
  fold_set_absent name pairs Dict.empty absent

/-- Assigning a list of entries with distinct names gives each its value. -/
theorem fold_set_present (name : String) (value : Json) (entries : List (String × Json))
    (merged : Fields) (distinct : (entries.map Prod.fst).Nodup)
    (member : (name, value) ∈ entries) :
    (entries.foldl (fun fields entry => fields.set entry.1 entry.2) merged).get name =
      some value := by
  induction entries generalizing merged with
  | nil => cases member
  | cons entry rest inductionHypothesis =>
    obtain ⟨headAbsent, restDistinct⟩ := List.nodup_cons.mp distinct
    rw [List.foldl_cons]
    rcases List.mem_cons.mp member with same | below
    · subst same
      rw [fold_set_absent name rest _ headAbsent, Dict.get_set_self]
    · exact inductionHypothesis _ restDistinct below

/-- The single lookup law of an update: the changes win where they have the name. -/
theorem get_update (fields changes : Fields) (name : String) :
    (fields.update changes).get name =
      match changes.get name with
      | none => fields.get name
      | some value => some value := by
  cases found : changes.get name with
  | none => exact fold_set_absent name _ fields ((Dict.get_none_iff changes name).mp found)
  | some value =>
    exact fold_set_present name value _ fields changes.distinct
      ((Dict.get_some_iff changes name value).mp found)

end Fields

/-- A clock reading in microseconds since the epoch. -/
abbrev Instant := Int

/-- `timedelta(seconds=count)`. -/
def seconds (count : Int) : Int := count * 1000000
