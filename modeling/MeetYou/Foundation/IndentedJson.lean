import MeetYou.Foundation.JsonText

/-!
# Indented JSON texts

What `json.dumps` writes with an indentation of two: an entry of a list or of an object stands on
a line of its own. Every value is read back from it, whatever white space stands in front.
-/

namespace JsonText

/-- A line break and the white space in front of an entry. -/
def indentation (depth : Nat) : List Char := '\n' :: List.replicate (2 * depth) ' '

section
variable (reals : Reals)

mutual

/-- `json.dumps` with an indentation, of a value that stands at a depth. -/
def writeIndented (depth : Nat) : Value reals.Carrier → List Char
  | .list [] => ['[', ']']
  | .list (value :: rest) =>
      '[' :: (indentation (depth + 1) ++
        (writeIndented (depth + 1) value ++ writeMoreIndentedItems depth rest))
  | .object [] => ['\x7b', '\x7d']
  | .object ((name, value) :: rest) =>
      '\x7b' :: (indentation (depth + 1) ++ '\x22' :: (writeText name ++ ':' :: ' ' ::
        (writeIndented (depth + 1) value ++ writeMoreIndentedMembers depth rest)))
  | .null => write reals .null
  | .bool value => write reals (.bool value)
  | .int value => write reals (.int value)
  | .real value => write reals (.real value)
  | .text characters => write reals (.text characters)

/-- The items behind the first one, with the bracket that ends the list. -/
def writeMoreIndentedItems (depth : Nat) : List (Value reals.Carrier) → List Char
  | [] => indentation depth ++ [']']
  | value :: rest => ',' :: (indentation (depth + 1) ++
      (writeIndented (depth + 1) value ++ writeMoreIndentedItems depth rest))

/-- The members behind the first one, with the brace that ends the object. -/
def writeMoreIndentedMembers (depth : Nat) : List (List Char × Value reals.Carrier) → List Char
  | [] => indentation depth ++ ['\x7d']
  | (name, value) :: rest => ',' :: (indentation (depth + 1) ++ '\x22' :: (writeText name ++
      ':' :: ' ' :: (writeIndented (depth + 1) value ++ writeMoreIndentedMembers depth rest)))

end

end

/-- White space in front of a visible character is skipped. -/
theorem skip_white {white : List Char} (all : ∀ character ∈ white, isWhite character = true)
    {first : Char} (visible : isWhite first = false) (rest : List Char) :
    skip (white ++ first :: rest) = first :: rest := by
  unfold skip
  rw [List.dropWhile_append_of_pos all]
  exact skip_cons visible rest

theorem indentation_white (depth : Nat) :
    ∀ character ∈ indentation depth, isWhite character = true := by
  intro character member
  rcases List.mem_cons.mp member with rfl | spaces
  · decide
  · rw [List.eq_of_mem_replicate spaces]
    decide

section
variable (reals : Reals) {bound : Nat}

/-- Values whose texts the reader's bound suffices for are read back. -/
def ReadsIndented (bound : Nat) : Prop :=
  ∀ (depth : Nat) (value : Value reals.Carrier) (white rest : List Char),
    (writeIndented reals depth value).length ≤ bound → value.Printable → value.Proper →
      (∀ character ∈ white, isWhite character = true) → Ends rest →
        readValue reals bound (white ++ (writeIndented reals depth value ++ rest)) =
          some (value, rest)

def ReadsIndentedItems (bound : Nat) : Prop :=
  ∀ (depth : Nat) (items read : List (Value reals.Carrier)) (value : Value reals.Carrier)
    (rest : List Char),
    (writeIndented reals (depth + 1) value).length +
        (writeMoreIndentedItems reals depth items).length ≤ bound →
      PrintableItems (value :: items) → ProperItems (value :: items) →
        readItems reals bound read (indentation (depth + 1) ++
          (writeIndented reals (depth + 1) value ++
            (writeMoreIndentedItems reals depth items ++ rest))) =
              some (.list (read ++ value :: items), rest)

def ReadsIndentedMembers (bound : Nat) : Prop :=
  ∀ (depth : Nat) (members read : List (List Char × Value reals.Carrier)) (name : List Char)
    (value : Value reals.Carrier) (rest : List Char),
    (writeIndented reals (depth + 1) value).length +
        (writeMoreIndentedMembers reals depth members).length ≤ bound →
      ((read ++ (name, value) :: members).map Prod.fst).Nodup →
        PrintableMembers ((name, value) :: members) → ProperMembers ((name, value) :: members) →
          readMembers reals bound read (indentation (depth + 1) ++ '\x22' :: (writeText name ++
            ':' :: ' ' :: (writeIndented reals (depth + 1) value ++
              (writeMoreIndentedMembers reals depth members ++ rest)))) =
                some (.object (read ++ (name, value) :: members), rest)

/-- The text of a value starts with a character that is neither white nor a closing one. -/
theorem writeIndented_head (depth : Nat) (value : Value reals.Carrier) :
    ∃ first more, writeIndented reals depth value = first :: more ∧
      isWhite first = false ∧ first ≠ ']' ∧ first ≠ '\x7d' := by
  match value with
  | .null => exact write_head reals .null
  | .bool value => exact write_head reals (.bool value)
  | .int value => exact write_head reals (.int value)
  | .real value => exact write_head reals (.real value)
  | .text characters => exact write_head reals (.text characters)
  | .list [] => exact ⟨_, _, rfl, by decide, by decide, by decide⟩
  | .list (_ :: _) => exact ⟨_, _, by rw [writeIndented], by decide, by decide, by decide⟩
  | .object [] => exact ⟨_, _, rfl, by decide, by decide, by decide⟩
  | .object ((_, _) :: _) =>
    exact ⟨_, _, by rw [writeIndented], by decide, by decide, by decide⟩

theorem writeIndented_length (depth : Nat) (value : Value reals.Carrier) :
    0 < (writeIndented reals depth value).length := by
  obtain ⟨first, more, same, _⟩ := writeIndented_head reals depth value
  rw [same]
  exact Nat.succ_pos _

/-- White space in front of a value is skipped. -/
theorem readValue_white {white : List Char} (all : ∀ character ∈ white, isWhite character = true)
    {text : List Char} {first : Char} (head : text.head? = some first)
    (visible : isWhite first = false) :
    readValue reals (bound + 1) (white ++ text) = readValue reals (bound + 1) text := by
  obtain ⟨rest, rfl⟩ : ∃ rest, text = first :: rest := by
    cases text with
    | nil => cases head
    | cons other rest =>
      cases head
      exact ⟨rest, rfl⟩
  rw [readValue, readValue, skip_white all visible, skip_cons visible]

/-- A value that is not written over several lines is read back behind white space. -/
theorem readValue_line {white : List Char} (all : ∀ character ∈ white, isWhite character = true)
    (value : Value reals.Carrier) {rest : List Char} (proper : value.Proper)
    (printable : value.Printable) (ends : Ends rest)
    (short : (write reals value).length ≤ bound + 1) :
    readValue reals (bound + 1) (white ++ (write reals value ++ rest)) = some (value, rest) := by
  obtain ⟨first, more, starts, visible, _⟩ := write_head reals value
  have head : (write reals value ++ rest).head? = some first := by rw [starts]; rfl
  rw [readValue_white reals all head visible]
  exact (reads reals (bound + 1)).1 value rest short proper printable ends

theorem readsIndentedItems_succ (values : ReadsIndented reals bound)
    (further : ReadsIndentedItems reals bound) : ReadsIndentedItems reals (bound + 1) := by
  intro depth items read value rest short printable proper
  have ends : Ends (writeMoreIndentedItems reals depth items ++ rest) := by
    intro character head
    cases items <;> cases head <;> decide
  have first := values (depth + 1) value (indentation (depth + 1))
    (writeMoreIndentedItems reals depth items ++ rest) (by
      have tail : 0 < (writeMoreIndentedItems reals depth items).length := by
        cases items <;> simp [writeMoreIndentedItems]
      omega) printable.1 proper.1 (indentation_white _) ends
  rw [readItems, first]
  cases items with
  | nil =>
    have closing : skip (writeMoreIndentedItems reals depth [] ++ rest) = ']' :: rest := by
      rw [writeMoreIndentedItems, List.append_assoc]
      exact skip_white (indentation_white depth) (by decide) rest
    simp only [closing]
  | cons next items =>
    have later := further depth items (read ++ [value]) next rest (by
      have some := writeIndented_length reals (depth + 1) value
      simp only [writeMoreIndentedItems, List.length_cons, List.length_append] at short
      omega) printable.2 proper.2
    rw [List.append_assoc, List.singleton_append] at later
    rw [writeMoreIndentedItems]
    simp only [List.cons_append, skip_cons (show isWhite ',' = false by decide),
      List.append_assoc]
    exact later

theorem readsIndentedMembers_succ (values : ReadsIndented reals bound)
    (further : ReadsIndentedMembers reals bound) : ReadsIndentedMembers reals (bound + 1) := by
  intro depth members read name value rest short distinct printable proper
  have ends : Ends (writeMoreIndentedMembers reals depth members ++ rest) := by
    intro character head
    cases members <;> cases head <;> decide
  have first := values (depth + 1) value [' ']
    (writeMoreIndentedMembers reals depth members ++ rest) (by
      have tail : 0 < (writeMoreIndentedMembers reals depth members).length := by
        cases members <;> simp [writeMoreIndentedMembers]
      omega) printable.1 proper.1 (by simp [isWhite]) ends
  have absent : name ∉ read.map Prod.fst := by
    rw [List.map_append, List.nodup_append] at distinct
    intro member
    exact distinct.2.2 name member name (by simp) rfl
  rw [readMembers, skip_white (indentation_white _) (by decide)]
  rw [List.singleton_append] at first
  simp only [readText_writeText, skip_cons (show isWhite ':' = false by decide), first]
  rw [Dict.assign_absent absent]
  cases members with
  | nil =>
    have closing : skip (writeMoreIndentedMembers reals depth [] ++ rest) = '\x7d' :: rest := by
      rw [writeMoreIndentedMembers, List.append_assoc]
      exact skip_white (indentation_white depth) (by decide) rest
    simp only [closing]
  | cons next members =>
    obtain ⟨nextName, nextValue⟩ := next
    have later := further depth members (read ++ [(name, value)]) nextName nextValue rest (by
      have some := writeIndented_length reals (depth + 1) value
      simp only [writeMoreIndentedMembers, List.length_cons, List.length_append] at short
      omega) (by simpa using distinct) printable.2 proper.2
    rw [List.append_assoc, List.singleton_append] at later
    rw [writeMoreIndentedMembers]
    simp only [List.cons_append, skip_cons (show isWhite ',' = false by decide),
      List.append_assoc] at later ⊢
    exact later

theorem readsIndented_succ (items : ReadsIndentedItems reals bound)
    (members : ReadsIndentedMembers reals bound) : ReadsIndented reals (bound + 1) := by
  intro depth value white rest short printable proper all ends
  match value, printable with
  | .null, printable => exact readValue_line reals all .null proper printable ends short
  | .bool value, printable =>
    exact readValue_line reals all (.bool value) proper printable ends short
  | .int value, printable => exact readValue_line reals all (.int value) proper printable ends short
  | .real value, printable =>
    exact readValue_line reals all (.real value) proper printable ends short
  | .text characters, printable =>
    exact readValue_line reals all (.text characters) proper printable ends short
  | .list [], _ =>
    rw [writeIndented, readValue, List.cons_append, skip_white all (by decide)]
    rfl
  | .list (value :: values), printable =>
    obtain ⟨first, more, starts, visible, other, _⟩ := writeIndented_head reals (depth + 1) value
    have read := items depth values [] value rest (by
      simp only [writeIndented, List.length_cons, List.length_append] at short
      omega) printable proper
    rw [writeIndented, List.cons_append, readValue, skip_white all (by decide)]
    simp only [List.append_assoc]
    rw [starts, List.cons_append] at read ⊢
    simp only [skip_white (indentation_white (depth + 1)) visible]
    split
    case h_1 same => exact absurd (List.cons.inj same).1 other
    case h_2 => exact read
  | .object [], _ =>
    rw [writeIndented, readValue, List.cons_append, skip_white all (by decide)]
    rfl
  | .object ((name, value) :: fields), printable =>
    have read := members depth fields [] name value rest (by
      simp only [writeIndented, List.length_cons, List.length_append] at short
      omega) proper.1 printable proper.2
    rw [writeIndented, List.cons_append, readValue, skip_white all (by decide)]
    simp only [List.append_assoc, List.cons_append,
      skip_white (indentation_white (depth + 1)) (show isWhite '\x22' = false by decide)]
      at read ⊢
    exact read

/-- Every text that was written is read back. -/
theorem readsIndented (bound : Nat) : ReadsIndented reals bound ∧ ReadsIndentedItems reals bound ∧
    ReadsIndentedMembers reals bound := by
  induction bound with
  | zero =>
    refine ⟨fun depth value _ _ short printable => ?_, fun depth _ _ value _ short printable => ?_,
      fun depth _ _ _ value _ short _ printable => ?_⟩
    · have some := writeIndented_length reals depth value
      omega
    · have some := writeIndented_length reals (depth + 1) value
      omega
    · have some := writeIndented_length reals (depth + 1) value
      omega
  | succ bound inductionHypothesis =>
    obtain ⟨values, items, members⟩ := inductionHypothesis
    exact ⟨readsIndented_succ reals items members, readsIndentedItems_succ reals values items,
      readsIndentedMembers_succ reals values members⟩

/-- `json.loads` gives back what was written with an indentation. -/
theorem loads_writeIndented {value : Value reals.Carrier} (printable : value.Printable)
    (proper : value.Proper) : loads reals (writeIndented reals 0 value) = some value := by
  have read := (readsIndented reals ((writeIndented reals 0 value).length + 1)).1 0 value [] []
    (Nat.le_succ _) printable proper (fun _ member => by cases member) (fun _ head => by cases head)
  rw [List.append_nil, List.nil_append] at read
  unfold loads
  rw [read]
  rfl

end

end JsonText
