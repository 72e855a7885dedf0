import MeetYou.Foundation.JsonText

/-!
# JSON values with sorted names

`json.dumps` with `sort_keys` writes the members of every object in the order of their names.
The sorted value is equal to the one it comes from as dictionaries are equal, and it can be
written where that one can.
-/

namespace JsonText

/-- Names in the order of their characters, the shorter of two first where one begins the
other. -/
def precedes : List Char → List Char → Bool
  | [], _ => true
  | _ :: _, [] => false
  | first :: rest, other :: others =>
    if first = other then precedes rest others else first.toNat < other.toNat

section
variable {Real : Type}

/-- The members in the order of their names. -/
def byName (members : List (List Char × Value Real)) : List (List Char × Value Real) :=
  members.mergeSort fun member other => precedes member.1 other.1

mutual

/-- The value with the members of every object in it sorted. -/
def sortKeys : Value Real → Value Real
  | .object members => .object (byName (sortMembers members))
  | .list items => .list (sortItems items)
  | .null => .null
  | .bool value => .bool value
  | .int value => .int value
  | .real value => .real value
  | .text characters => .text characters

/-- The members with their values sorted. -/
def sortMembers : List (List Char × Value Real) → List (List Char × Value Real)
  | [] => []
  | (name, value) :: rest => (name, sortKeys value) :: sortMembers rest

/-- A list keeps the order of its items. -/
def sortItems : List (Value Real) → List (Value Real)
  | [] => []
  | value :: rest => sortKeys value :: sortItems rest

end

theorem byName_perm (members : List (List Char × Value Real)) : (byName members).Perm members :=
  List.mergeSort_perm _ _

theorem names_sortMembers (members : List (List Char × Value Real)) :
    (sortMembers members).map Prod.fst = members.map Prod.fst := by
  induction members with
  | nil => rfl
  | cons member rest inductionHypothesis =>
    rw [sortMembers, List.map_cons, List.map_cons, inductionHypothesis]

/-- Sorting keeps the names of an object. -/
theorem names_perm (members : List (List Char × Value Real)) :
    ((byName (sortMembers members)).map Prod.fst).Perm (members.map Prod.fst) := by
  have sorted := (byName_perm (sortMembers members)).map Prod.fst
  rwa [names_sortMembers] at sorted

theorem properMembers_iff (members : List (List Char × Value Real)) :
    ProperMembers members ↔ ∀ member ∈ members, member.2.Proper := by
  induction members with
  | nil => simp [ProperMembers]
  | cons member rest inductionHypothesis =>
    rw [ProperMembers, inductionHypothesis, List.forall_mem_cons]

theorem printableMembers_iff (members : List (List Char × Value Real)) :
    PrintableMembers members ↔ ∀ member ∈ members, member.2.Printable := by
  induction members with
  | nil => simp [PrintableMembers]
  | cons member rest inductionHypothesis =>
    rw [PrintableMembers, inductionHypothesis, List.forall_mem_cons]

theorem properMembers_byName {members : List (List Char × Value Real)}
    (proper : ProperMembers members) : ProperMembers (byName members) := by
  rw [properMembers_iff] at proper ⊢
  exact fun member inside => proper member ((byName_perm members).mem_iff.mp inside)

theorem printableMembers_byName {members : List (List Char × Value Real)}
    (printable : PrintableMembers members) : PrintableMembers (byName members) := by
  rw [printableMembers_iff] at printable ⊢
  exact fun member inside => printable member ((byName_perm members).mem_iff.mp inside)

mutual

/-- The names in the dictionaries of a sorted value are distinct. -/
theorem sortKeys_proper : (value : Value Real) → value.Proper → (sortKeys value).Proper
  | .object members, proper => by
    rw [sortKeys]
    exact ⟨(names_perm members).nodup_iff.mpr proper.1,
      properMembers_byName (sortMembers_proper members proper.2)⟩
  | .list items, proper => by
    rw [sortKeys]
    exact sortItems_proper items proper
  | .null, _ => trivial
  | .bool _, _ => trivial
  | .int _, _ => trivial
  | .real _, _ => trivial
  | .text _, _ => trivial

theorem sortMembers_proper : (members : List (List Char × Value Real)) →
    ProperMembers members → ProperMembers (sortMembers members)
  | [], _ => trivial
  | (_, value) :: rest, proper =>
    ⟨sortKeys_proper value proper.1, sortMembers_proper rest proper.2⟩

theorem sortItems_proper : (items : List (Value Real)) → ProperItems items →
    ProperItems (sortItems items)
  | [], _ => trivial
  | value :: rest, proper => ⟨sortKeys_proper value proper.1, sortItems_proper rest proper.2⟩

end

mutual

/-- A sorted value can be written where the value can. -/
theorem sortKeys_printable : (value : Value Real) → value.Printable → (sortKeys value).Printable
  | .object members, printable => by
    rw [sortKeys]
    exact printableMembers_byName (sortMembers_printable members printable)
  | .list items, printable => by
    rw [sortKeys]
    exact sortItems_printable items printable
  | .null, _ => trivial
  | .bool _, _ => trivial
  | .int _, printable => printable
  | .real _, _ => trivial
  | .text _, _ => trivial

theorem sortMembers_printable : (members : List (List Char × Value Real)) →
    PrintableMembers members → PrintableMembers (sortMembers members)
  | [], _ => trivial
  | (_, value) :: rest, printable =>
    ⟨sortKeys_printable value printable.1, sortMembers_printable rest printable.2⟩

theorem sortItems_printable : (items : List (Value Real)) → PrintableItems items →
    PrintableItems (sortItems items)
  | [], _ => trivial
  | value :: rest, printable =>
    ⟨sortKeys_printable value printable.1, sortItems_printable rest printable.2⟩

end

mutual

/-- A sorted value is equal to the value. -/
theorem same_sortKeys : (value : Value Real) → Same value (sortKeys value)
  | .object members => by
    rw [sortKeys]
    exact ⟨fun name => (names_perm members).symm.mem_iff,
      sameMembers_sortMembers members _ fun member inside =>
        (byName_perm (sortMembers members)).mem_iff.mpr inside⟩
  | .list items => by
    rw [sortKeys]
    exact sameItems_sortItems items
  | .null => rfl
  | .bool _ => rfl
  | .int _ => rfl
  | .real _ => rfl
  | .text _ => rfl

theorem sameMembers_sortMembers : (members others : List (List Char × Value Real)) →
    (∀ member ∈ sortMembers members, member ∈ others) →
      AlikeMembers (fun _ => false) members others
  | [], _, _ => trivial
  | (_, value) :: rest, others, subset =>
    ⟨.inr ⟨sortKeys value, subset _ List.mem_cons_self, same_sortKeys value⟩,
      sameMembers_sortMembers rest others fun member inside =>
        subset member (List.mem_cons_of_mem _ inside)⟩

theorem sameItems_sortItems : (items : List (Value Real)) →
    AlikeItems (fun _ => false) items (sortItems items)
  | [] => rfl
  | value :: rest => ⟨same_sortKeys value, sameItems_sortItems rest⟩

end

end

end JsonText
