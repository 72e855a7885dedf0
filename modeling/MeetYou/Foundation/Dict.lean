import Mathlib.Data.List.Nodup

/-!
# Insertion-ordered dictionaries

A dictionary holds each key once and lists its entries in the order their keys
were first assigned. Assigning to a present key replaces the value in its place;
a new key goes last; removing a key and assigning it again puts it last. A table
of rows under a primary key is the same structure, its order being that of
insertion.

Keys are distinct by construction, so a lookup is determined by membership and
no later proof has to show it again. `AList` has the same entries but puts an
assigned key first, which an iteration over the values would show.
-/

universe u v

/-- Entries with distinct keys, in insertion order. -/
structure Dict (κ : Type u) (ν : Type v) where
  entries : List (κ × ν)
  distinct : (entries.map Prod.fst).Nodup

namespace Dict

variable {κ : Type u} {ν : Type v}

/-- The dictionary without entries. -/
def empty : Dict κ ν := ⟨[], List.nodup_nil⟩

/-- The keys in insertion order. -/
def keys (dict : Dict κ ν) : List κ := dict.entries.map Prod.fst

/-- The values in the insertion order of their keys. -/
def values (dict : Dict κ ν) : List ν := dict.entries.map Prod.snd

/-- The test holds of every entry. -/
def all (dict : Dict κ ν) (test : κ → ν → Bool) : Bool :=
  dict.entries.all fun entry => test entry.1 entry.2

variable [DecidableEq κ]

/-- The value of the first entry with this key. -/
def find (key : κ) : List (κ × ν) → Option ν
  | [] => none
  | (other, value) :: rest => if other = key then some value else find key rest

/-- Replace the entry with this key in its place, or append a new one. -/
def assign (key : κ) (value : ν) : List (κ × ν) → List (κ × ν)
  | [] => [(key, value)]
  | (other, held) :: rest =>
      if other = key then (key, value) :: rest else (other, held) :: assign key value rest

theorem find_none_iff (key : κ) (entries : List (κ × ν)) :
    find key entries = none ↔ key ∉ entries.map Prod.fst := by
  induction entries with
  | nil => simp [find]
  | cons entry rest inductionHypothesis =>
    by_cases same : entry.1 = key
    · simp [find, same]
    · simp [find, same, inductionHypothesis, Ne.symm same]

/-- Distinct keys make a lookup and membership of the entry the same. -/
theorem find_some_iff (key : κ) (value : ν) (entries : List (κ × ν))
    (distinct : (entries.map Prod.fst).Nodup) :
    find key entries = some value ↔ (key, value) ∈ entries := by
  induction entries with
  | nil => simp [find]
  | cons entry rest inductionHypothesis =>
    obtain ⟨other, held⟩ := entry
    simp only [List.map_cons, List.nodup_cons] at distinct
    by_cases same : other = key
    · subst same
      have absent : (other, value) ∉ rest := fun member =>
        distinct.1 (List.mem_map.mpr ⟨_, member, rfl⟩)
      simp [find, absent, eq_comm]
    · have other_key : (key, value) ≠ (other, held) := fun equal =>
        same (congrArg Prod.fst equal).symm
      simp [find, same, other_key, inductionHypothesis distinct.2]

theorem find_assign (key tested : κ) (value : ν) (entries : List (κ × ν)) :
    find tested (assign key value entries) =
      if key = tested then some value else find tested entries := by
  induction entries with
  | nil => simp [assign, find]
  | cons entry rest inductionHypothesis =>
    by_cases same : entry.1 = key
    · by_cases wanted : key = tested
      · simp [assign, find, same, wanted]
      · simp [assign, find, same, wanted]
    · by_cases wanted : entry.1 = tested
      · have different : key ≠ tested := fun equal => same (wanted.trans equal.symm)
        have kept : tested ≠ key := Ne.symm different
        simp [assign, find, wanted, different, kept]
      · simp [assign, find, same, wanted, inductionHypothesis]

/-- Assignment keeps the key order and appends only an absent key. -/
theorem keys_assign (key : κ) (value : ν) (entries : List (κ × ν)) :
    (assign key value entries).map Prod.fst =
      if key ∈ entries.map Prod.fst then entries.map Prod.fst
      else entries.map Prod.fst ++ [key] := by
  induction entries with
  | nil => simp [assign]
  | cons entry rest inductionHypothesis =>
    by_cases same : entry.1 = key
    · simp [assign, same]
    · by_cases present : key ∈ rest.map Prod.fst
      · simp [assign, same, inductionHypothesis, present]
      · simp [assign, same, inductionHypothesis, present, Ne.symm same]

/-- Lookup among entries that are computed from their keys. -/
theorem find_map (key : κ) (keys : List κ) (value : κ → ν) :
    find key (keys.map fun other => (other, value other)) =
      if key ∈ keys then some (value key) else none := by
  induction keys with
  | nil => rfl
  | cons other rest inductionHypothesis =>
    rw [List.map_cons, find]
    by_cases same : other = key
    · simp [same]
    · simp [same, inductionHypothesis, Ne.symm same]

/-- Assignment among entries that are computed from their keys. -/
theorem assign_map (key : κ) {keys : List κ} (distinct : keys.Nodup) {value changed : κ → ν}
    (others : ∀ other, other ≠ key → changed other = value other) :
    assign key (changed key) (keys.map fun other => (other, value other)) =
      (if key ∈ keys then keys else keys ++ [key]).map fun other => (other, changed other) := by
  induction keys with
  | nil => rfl
  | cons other rest inductionHypothesis =>
    obtain ⟨fresh, later⟩ := List.nodup_cons.mp distinct
    rw [List.map_cons, assign]
    by_cases same : other = key
    · subst same
      have kept : rest.map (fun other => (other, value other)) =
          rest.map fun other => (other, changed other) := by
        refine List.map_congr_left fun tested member => ?_
        rw [others tested fun equal => fresh (equal ▸ member)]
      rw [if_pos rfl, if_pos List.mem_cons_self, kept, List.map_cons]
    · rw [if_neg same, inductionHypothesis later, ← others other same]
      by_cases member : key ∈ rest
      · rw [if_pos member, if_pos (List.mem_cons_of_mem _ member), List.map_cons]
      · have absent : key ∉ other :: rest := by simp [member, Ne.symm same]
        rw [if_neg member, if_neg absent, List.cons_append, List.map_cons]

theorem nodup_assign (key : κ) (value : ν) (entries : List (κ × ν))
    (distinct : (entries.map Prod.fst).Nodup) :
    ((assign key value entries).map Prod.fst).Nodup := by
  rw [keys_assign]
  split
  · exact distinct
  · next absent =>
    exact List.nodup_append.mpr ⟨distinct, List.nodup_singleton key, by
      intro held member other single
      rw [List.mem_singleton] at single
      exact single ▸ fun equal => absent (equal ▸ member)⟩

/-- The value under a key. -/
def get (dict : Dict κ ν) (key : κ) : Option ν := find key dict.entries

/-- Assign a value to a key. -/
def set (dict : Dict κ ν) (key : κ) (value : ν) : Dict κ ν :=
  ⟨assign key value dict.entries, nodup_assign key value dict.entries dict.distinct⟩

/-- Remove a key; nothing happens when it is absent. -/
def pop (dict : Dict κ ν) (key : κ) : Dict κ ν :=
  ⟨dict.entries.filter (fun entry => decide (entry.1 ≠ key)),
    dict.distinct.sublist (List.filter_sublist.map Prod.fst)⟩

/-- Rewrite the row under a key in place; an absent row stays absent. -/
def revise (dict : Dict κ ν) (key : κ) (change : ν → ν) : Dict κ ν :=
  match dict.get key with
  | none => dict
  | some value => dict.set key (change value)

/-- Rewrite the rows under several keys, one after the other. -/
def reviseAll (dict : Dict κ ν) (keys : List κ) (change : ν → ν) : Dict κ ν :=
  keys.foldl (fun revised key => revised.revise key change) dict

/-- Assign several values in turn. -/
def setAll (dict : Dict κ ν) (entries : List (κ × ν)) : Dict κ ν :=
  entries.foldl (fun written entry => written.set entry.1 entry.2) dict

/-- Remove every entry that passes a test. -/
def discard (dict : Dict κ ν) (test : κ → ν → Bool) : Dict κ ν :=
  ⟨dict.entries.filter fun entry => !test entry.1 entry.2,
    dict.distinct.sublist (List.filter_sublist.map Prod.fst)⟩

/-- Insert a row under a key that is not taken; a taken key is refused. -/
def insertNew (dict : Dict κ ν) (key : κ) (value : ν) : Option (Dict κ ν) :=
  match dict.get key with
  | none => some (dict.set key value)
  | some _ => none

/-- Rewrite every value in its place. -/
def mapValues (dict : Dict κ ν) (change : ν → ν) : Dict κ ν :=
  ⟨dict.entries.map fun entry => (entry.1, change entry.2), by
    rw [List.map_map]
    exact dict.distinct⟩

@[simp] theorem get_empty (key : κ) : (empty : Dict κ ν).get key = none := rfl

/-- The single lookup law of assignment. -/
theorem get_set (dict : Dict κ ν) (key tested : κ) (value : ν) :
    (dict.set key value).get tested = if key = tested then some value else dict.get tested :=
  find_assign key tested value dict.entries

@[simp] theorem get_set_self (dict : Dict κ ν) (key : κ) (value : ν) :
    (dict.set key value).get key = some value := by simp [get_set]

theorem get_set_ne (dict : Dict κ ν) {key tested : κ} (value : ν) (different : key ≠ tested) :
    (dict.set key value).get tested = dict.get tested := by simp [get_set, different]

/-- What is found after an assignment is the assigned value or an untouched one. -/
theorem get_of_set {dict : Dict κ ν} {key tested : κ} {value found : ν}
    (present : (dict.set key value).get tested = some found) :
    (key = tested ∧ value = found) ∨ (key ≠ tested ∧ dict.get tested = some found) := by
  rw [get_set] at present
  split at present
  · next same => exact Or.inl ⟨same, Option.some.inj present⟩
  · next different => exact Or.inr ⟨different, present⟩

/-- A key that is absent is not one that is present. -/
theorem ne_of_absent {dict : Dict κ ν} {absent present : κ} {value : ν}
    (none : dict.get absent = none) (stored : dict.get present = some value) :
    absent ≠ present := by
  rintro rfl
  rw [none] at stored
  cases stored

/-- A lookup returns exactly the stored entry. -/
theorem get_some_iff (dict : Dict κ ν) (key : κ) (value : ν) :
    dict.get key = some value ↔ (key, value) ∈ dict.entries :=
  find_some_iff key value dict.entries dict.distinct

theorem all_iff (dict : Dict κ ν) (test : κ → ν → Bool) :
    dict.all test = true ↔ ∀ key value, dict.get key = some value → test key value = true := by
  simp only [all, List.all_eq_true, get_some_iff, Prod.forall]

theorem get_none_iff (dict : Dict κ ν) (key : κ) : dict.get key = none ↔ key ∉ dict.keys :=
  find_none_iff key dict.entries

/-- The single lookup law of removal. -/
theorem get_pop (dict : Dict κ ν) (key tested : κ) :
    (dict.pop key).get tested = if key = tested then none else dict.get tested := by
  by_cases same : key = tested
  · subst same
    rw [if_pos rfl, get_none_iff]
    simp [keys, pop]
  · rw [if_neg same]
    apply Option.ext
    intro value
    rw [get_some_iff, get_some_iff]
    simp [pop, Ne.symm same]

@[simp] theorem get_pop_self (dict : Dict κ ν) (key : κ) : (dict.pop key).get key = none := by
  simp [get_pop]

theorem get_pop_ne (dict : Dict κ ν) {key tested : κ} (different : key ≠ tested) :
    (dict.pop key).get tested = dict.get tested := by simp [get_pop, different]

/-- What removal leaves was there before. -/
theorem get_of_pop {dict : Dict κ ν} {key tested : κ} {value : ν}
    (found : (dict.pop key).get tested = some value) :
    key ≠ tested ∧ dict.get tested = some value := by
  rw [get_pop] at found
  split at found
  · cases found
  · next different => exact ⟨different, found⟩

/-- The single lookup law of an in-place rewrite. -/
theorem get_revise (dict : Dict κ ν) (key tested : κ) (change : ν → ν) :
    (dict.revise key change).get tested =
      if key = tested then (dict.get key).map change else dict.get tested := by
  unfold revise
  cases found : dict.get key with
  | none =>
    by_cases same : key = tested
    · simp [← same, found]
    · simp [same]
  | some value => simp [get_set]

@[simp] theorem get_revise_self (dict : Dict κ ν) (key : κ) (change : ν → ν) :
    (dict.revise key change).get key = (dict.get key).map change := by simp [get_revise]

theorem get_revise_ne (dict : Dict κ ν) {key tested : κ} (change : ν → ν)
    (different : key ≠ tested) : (dict.revise key change).get tested = dict.get tested := by
  simp [get_revise, different]

/-- What is found after an in-place rewrite is a rewritten value or an untouched one. -/
theorem get_of_revise {dict : Dict κ ν} {key tested : κ} {change : ν → ν} {value : ν}
    (found : (dict.revise key change).get tested = some value) :
    (key = tested ∧ ∃ held, dict.get tested = some held ∧ change held = value) ∨
      (key ≠ tested ∧ dict.get tested = some value) := by
  rw [get_revise] at found
  split at found
  · next same =>
    subst same
    exact Or.inl ⟨rfl, Option.map_eq_some_iff.mp found⟩
  · next different => exact Or.inr ⟨different, found⟩

/-- What is found after several assignments was assigned or was there before. -/
theorem get_of_setAll {dict : Dict κ ν} {entries : List (κ × ν)} {key : κ} {value : ν}
    (found : (dict.setAll entries).get key = some value) :
    key ∈ entries.map Prod.fst ∨ dict.get key = some value := by
  induction entries generalizing dict with
  | nil => exact Or.inr found
  | cons entry rest inductionHypothesis =>
    rw [setAll, List.foldl_cons, ← setAll] at found
    rcases inductionHypothesis found with later | earlier
    · exact Or.inl (List.mem_cons_of_mem _ later)
    · rcases get_of_set earlier with ⟨same, _⟩ | ⟨_, held⟩
      · exact Or.inl (same ▸ List.mem_cons_self)
      · exact Or.inr held

/-- Assignments elsewhere leave a value alone. -/
theorem get_setAll_of_notMem (dict : Dict κ ν) {entries : List (κ × ν)} {key : κ}
    (elsewhere : key ∉ entries.map Prod.fst) : (dict.setAll entries).get key = dict.get key := by
  induction entries generalizing dict with
  | nil => rfl
  | cons entry rest inductionHypothesis =>
    simp only [List.map_cons, List.mem_cons, not_or] at elsewhere
    rw [setAll, List.foldl_cons, ← setAll, inductionHypothesis _ elsewhere.2,
      get_set_ne _ _ (Ne.symm elsewhere.1)]

/-- Rewriting rows elsewhere leaves a row alone. -/
theorem get_reviseAll_of_notMem (dict : Dict κ ν) {keys : List κ} {tested : κ} (change : ν → ν)
    (elsewhere : tested ∉ keys) : (dict.reviseAll keys change).get tested = dict.get tested := by
  induction keys generalizing dict with
  | nil => rfl
  | cons key rest inductionHypothesis =>
    simp only [List.mem_cons, not_or] at elsewhere
    rw [reviseAll, List.foldl_cons, ← reviseAll, inductionHypothesis _ elsewhere.2,
      get_revise_ne _ _ (Ne.symm elsewhere.1)]

/-- Rewriting rows neither adds nor removes one. -/
theorem get_reviseAll_none_iff (dict : Dict κ ν) (keys : List κ) (tested : κ) (change : ν → ν) :
    (dict.reviseAll keys change).get tested = none ↔ dict.get tested = none := by
  induction keys generalizing dict with
  | nil => rfl
  | cons key rest inductionHypothesis =>
    rw [reviseAll, List.foldl_cons, ← reviseAll, inductionHypothesis, get_revise]
    split
    · next same => rw [Option.map_eq_none_iff, same]
    · rfl

/-- The single lookup law of removal by a test. -/
theorem get_discard_iff (dict : Dict κ ν) (test : κ → ν → Bool) (key : κ) (value : ν) :
    (dict.discard test).get key = some value ↔
      dict.get key = some value ∧ test key value = false := by
  simp [get_some_iff, discard]

/-- An insertion is an assignment to an absent key. -/
theorem insertNew_some_iff {dict next : Dict κ ν} {key : κ} {value : ν} :
    dict.insertNew key value = some next ↔ dict.get key = none ∧ next = dict.set key value := by
  unfold insertNew
  cases found : dict.get key with
  | none => simp [eq_comm]
  | some held => simp

/-- An assignment to an absent key appends its entry. -/
theorem assign_absent {key : κ} {value : ν} {entries : List (κ × ν)}
    (absent : key ∉ entries.map Prod.fst) :
    assign key value entries = entries ++ [(key, value)] := by
  induction entries with
  | nil => rfl
  | cons entry rest inductionHypothesis =>
    simp only [List.map_cons, List.mem_cons, not_or] at absent
    rw [assign, if_neg (Ne.symm absent.1), inductionHypothesis absent.2, List.cons_append]

theorem entries_set_absent {dict : Dict κ ν} {key : κ} {value : ν} (absent : dict.get key = none) :
    (dict.set key value).entries = dict.entries ++ [(key, value)] :=
  assign_absent ((get_none_iff dict key).mp absent)

/-- The single lookup law of rewriting every value. -/
theorem get_mapValues (dict : Dict κ ν) (key : κ) (change : ν → ν) :
    (dict.mapValues change).get key = (dict.get key).map change := by
  have law : ∀ entries : List (κ × ν),
      find key (entries.map fun entry => (entry.1, change entry.2)) =
        (find key entries).map change := by
    intro entries
    induction entries with
    | nil => rfl
    | cons entry rest inductionHypothesis =>
      by_cases same : entry.1 = key
      · simp [find, same]
      · simp [find, same, inductionHypothesis]
  exact law dict.entries

/-- A value is listed exactly when some key holds it. -/
theorem mem_values_iff (dict : Dict κ ν) (value : ν) :
    value ∈ dict.values ↔ ∃ key, dict.get key = some value := by
  simp only [values, List.mem_map, get_some_iff]
  constructor
  · rintro ⟨⟨key, held⟩, member, rfl⟩
    exact ⟨key, member⟩
  · rintro ⟨key, member⟩
    exact ⟨(key, value), member, rfl⟩

end Dict
