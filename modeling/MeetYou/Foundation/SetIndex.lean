import Mathlib.Data.Finset.Basic
import MeetYou.Foundation.Dict

/-!
# Indexes of sets

An index holds a set of members under each key, and a companion table holds the
keys of each member. Adding under a new key creates its set, and taking the last
member out removes the key, so that no empty set stays behind.

`Mirrors` says that the two agree. An operation for one member changes only that
member's keys; `Mirrors.rekey` carries the agreement across any such operation,
whatever it does to the sets on its way.
-/

universe u v

namespace SetIndex

variable {κ : Type u} {σ : Type v} [DecidableEq κ] [DecidableEq σ]

/-- The members under a key; an absent key has none. -/
def members (index : Dict κ (Finset σ)) (key : κ) : Finset σ := (index.get key).getD ∅

/-- `index.setdefault(key, set()).add(member)`. -/
def add (index : Dict κ (Finset σ)) (key : κ) (member : σ) : Dict κ (Finset σ) :=
  index.set key (insert member (members index key))

/-- Discard a member from the set of a key, and the key when its set is left empty. -/
def remove (index : Dict κ (Finset σ)) (key : κ) (member : σ) : Dict κ (Finset σ) :=
  match index.get key with
  | none => index
  | some held => if held.erase member = ∅ then index.pop key else index.set key (held.erase member)

/-- Discard a member only where the set of the key is not empty. -/
def discard (index : Dict κ (Finset σ)) (key : κ) (member : σ) : Dict κ (Finset σ) :=
  if members index key = ∅ then index else remove index key member

/-- No key holds an empty set. -/
def NoEmpty (index : Dict κ (Finset σ)) : Prop :=
  ∀ key held, index.get key = some held → held.Nonempty

/-- The index and the keys of each member agree, and no member lists a key twice. -/
structure Mirrors (index : Dict κ (Finset σ)) (keys : σ → List κ) : Prop where
  member : ∀ member key, member ∈ members index key ↔ key ∈ keys member
  single : ∀ member, (keys member).Nodup
  noEmpty : NoEmpty index

/-- The single membership law of addition. -/
theorem mem_add (index : Dict κ (Finset σ)) (key tested : κ) (added member : σ) :
    member ∈ members (add index key added) tested ↔
      (tested = key ∧ member = added) ∨ member ∈ members index tested := by
  by_cases same : key = tested
  · subst same
    simp [members, add]
  · simp [members, add, Dict.get_set, same, Ne.symm same]

/-- The single membership law of removal. -/
theorem mem_remove (index : Dict κ (Finset σ)) (key tested : κ) (removed member : σ) :
    member ∈ members (remove index key removed) tested ↔
      member ∈ members index tested ∧ ¬ (tested = key ∧ member = removed) := by
  unfold remove
  cases found : index.get key with
  | none =>
    by_cases same : tested = key
    · simp [members, same, found]
    · simp [same]
  | some held =>
    by_cases same : key = tested
    · subst same
      simp only [members, found, Option.getD_some, true_and]
      split
      · next emptied =>
        have gone : member ∉ held.erase removed := by simp [emptied]
        rw [Finset.mem_erase] at gone
        simp only [Dict.get_pop_self, Option.getD_none, Finset.notMem_empty, false_iff]
        tauto
      · simp only [Dict.get_set_self, Option.getD_some, Finset.mem_erase]
        tauto
    · have other : ¬ tested = key := Ne.symm same
      simp only [members, other, false_and, not_false_eq_true, and_true]
      split
      · rw [Dict.get_pop_ne index same]
      · rw [Dict.get_set_ne index _ same]

/-- The single membership law of discarding. -/
theorem mem_discard (index : Dict κ (Finset σ)) (key tested : κ) (removed member : σ) :
    member ∈ members (discard index key removed) tested ↔
      member ∈ members index tested ∧ ¬ (tested = key ∧ member = removed) := by
  unfold discard
  split
  · next blank =>
    constructor
    · intro present
      refine ⟨present, fun same => ?_⟩
      simp [same.1, blank] at present
    · exact And.left
  · exact mem_remove index key tested removed member

omit [DecidableEq σ] in
theorem NoEmpty.empty : NoEmpty (Dict.empty : Dict κ (Finset σ)) := by
  intro key held found
  cases found

theorem NoEmpty.add {index : Dict κ (Finset σ)} (noEmpty : NoEmpty index) (key : κ) (member : σ) :
    NoEmpty (SetIndex.add index key member) := by
  intro tested held found
  rw [SetIndex.add, Dict.get_set] at found
  split at found
  · exact Option.some.inj found ▸ Finset.insert_nonempty _ _
  · exact noEmpty tested held found

theorem NoEmpty.remove {index : Dict κ (Finset σ)} (noEmpty : NoEmpty index) (key : κ)
    (member : σ) : NoEmpty (SetIndex.remove index key member) := by
  intro tested held found
  unfold SetIndex.remove at found
  split at found
  · exact noEmpty tested held found
  · split at found
    · exact noEmpty tested held (Dict.get_of_pop found).2
    · next occupied =>
      rw [Dict.get_set] at found
      split at found
      · exact Option.some.inj found ▸ Finset.nonempty_iff_ne_empty.mpr occupied
      · exact noEmpty tested held found

theorem NoEmpty.discard {index : Dict κ (Finset σ)} (noEmpty : NoEmpty index) (key : κ)
    (member : σ) : NoEmpty (SetIndex.discard index key member) := by
  unfold SetIndex.discard
  split
  · exact noEmpty
  · exact noEmpty.remove key member

/-- Add one member under every listed key. -/
def addAll (index : Dict κ (Finset σ)) (keys : List κ) (member : σ) : Dict κ (Finset σ) :=
  keys.foldl (fun index key => add index key member) index

/-- Discard one member under every listed key. -/
def discardAll (index : Dict κ (Finset σ)) (keys : List κ) (member : σ) : Dict κ (Finset σ) :=
  keys.foldl (fun index key => discard index key member) index

/-- Remove one member from the set of every key of the index. -/
def removeEverywhere (index : Dict κ (Finset σ)) (member : σ) : Dict κ (Finset σ) :=
  index.keys.foldl (fun index key => remove index key member) index

theorem mem_addAll (index : Dict κ (Finset σ)) (keys : List κ) (tested : κ) (added member : σ) :
    member ∈ members (addAll index keys added) tested ↔
      (tested ∈ keys ∧ member = added) ∨ member ∈ members index tested := by
  induction keys generalizing index with
  | nil => simp [addAll]
  | cons key rest inductionHypothesis =>
    have unfolded : addAll index (key :: rest) added = addAll (add index key added) rest added := rfl
    rw [unfolded, inductionHypothesis, mem_add, List.mem_cons]
    tauto

/-- Taking one member out under a list of keys, by either removal. -/
theorem mem_foldl_removal {removal : Dict κ (Finset σ) → κ → σ → Dict κ (Finset σ)}
    {removed : σ}
    (law : ∀ index key tested member, member ∈ members (removal index key removed) tested ↔
      member ∈ members index tested ∧ ¬ (tested = key ∧ member = removed))
    (index : Dict κ (Finset σ)) (keys : List κ) (tested : κ) (member : σ) :
    member ∈ members (keys.foldl (fun index key => removal index key removed) index) tested ↔
      member ∈ members index tested ∧ ¬ (tested ∈ keys ∧ member = removed) := by
  induction keys generalizing index with
  | nil => simp
  | cons key rest inductionHypothesis =>
    rw [List.foldl_cons, inductionHypothesis, law, List.mem_cons]
    tauto

theorem mem_discardAll (index : Dict κ (Finset σ)) (keys : List κ) (tested : κ)
    (removed member : σ) :
    member ∈ members (discardAll index keys removed) tested ↔
      member ∈ members index tested ∧ ¬ (tested ∈ keys ∧ member = removed) :=
  mem_foldl_removal (fun index key tested member => mem_discard index key tested removed member)
    index keys tested member

theorem mem_removeEverywhere (index : Dict κ (Finset σ)) (tested : κ) (removed member : σ) :
    member ∈ members (removeEverywhere index removed) tested ↔
      member ∈ members index tested ∧ member ≠ removed := by
  rw [removeEverywhere, mem_foldl_removal
    (fun index key tested member => mem_remove index key tested removed member)]
  by_cases listed : tested ∈ index.keys
  · simp [listed]
  · have nobody : index.get tested = none := (Dict.get_none_iff index tested).mpr listed
    simp [listed, members, nobody]

omit [DecidableEq σ] in
/-- What one step keeps, a pass over a list of keys keeps. -/
theorem NoEmpty.foldl {change : Dict κ (Finset σ) → κ → Dict κ (Finset σ)}
    (step : ∀ index key, NoEmpty index → NoEmpty (change index key))
    {index : Dict κ (Finset σ)} (noEmpty : NoEmpty index) (keys : List κ) :
    NoEmpty (keys.foldl change index) := by
  induction keys generalizing index with
  | nil => exact noEmpty
  | cons key rest inductionHypothesis => exact inductionHypothesis (step index key noEmpty)

theorem NoEmpty.addAll {index : Dict κ (Finset σ)} (noEmpty : NoEmpty index) (keys : List κ)
    (member : σ) : NoEmpty (SetIndex.addAll index keys member) :=
  noEmpty.foldl (fun _ key holds => holds.add key member) keys

theorem NoEmpty.discardAll {index : Dict κ (Finset σ)} (noEmpty : NoEmpty index) (keys : List κ)
    (member : σ) : NoEmpty (SetIndex.discardAll index keys member) :=
  noEmpty.foldl (fun _ key holds => holds.discard key member) keys

theorem NoEmpty.removeEverywhere {index : Dict κ (Finset σ)} (noEmpty : NoEmpty index)
    (member : σ) : NoEmpty (SetIndex.removeEverywhere index member) :=
  noEmpty.foldl (fun _ key holds => holds.remove key member) index.keys

omit [DecidableEq σ] in
/-- An empty index mirrors members without keys. -/
theorem Mirrors.empty : Mirrors (Dict.empty : Dict κ (Finset σ)) fun _ => [] where
  member := by simp [members]
  single _ := List.nodup_nil
  noEmpty := NoEmpty.empty

/-- An operation for one member keeps the agreement when it leaves every other
member in place and files this one under exactly its new keys. -/
theorem Mirrors.rekey {index changed : Dict κ (Finset σ)} {keys changedKeys : σ → List κ}
    (mirrors : Mirrors index keys) (moved : σ)
    (others : ∀ member, member ≠ moved → changedKeys member = keys member ∧
      ∀ key, member ∈ members changed key ↔ member ∈ members index key)
    (filed : ∀ key, moved ∈ members changed key ↔ key ∈ changedKeys moved)
    (single : (changedKeys moved).Nodup) (noEmpty : NoEmpty changed) :
    Mirrors changed changedKeys where
  member member key := by
    by_cases same : member = moved
    · subst same
      exact filed key
    · obtain ⟨sameKeys, sameMembers⟩ := others member same
      rw [sameMembers key, sameKeys, mirrors.member]
  single member := by
    by_cases same : member = moved
    · exact same ▸ single
    · exact (others member same).1 ▸ mirrors.single member
  noEmpty := noEmpty

end SetIndex
