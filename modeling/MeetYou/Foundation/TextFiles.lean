import MeetYou.Foundation.IndentedJson
import MeetYou.Foundation.SpacedWords

/-!
# Files with texts

A file holds characters, or bytes that are no text. A file that is opened as a text is read
with every line end turned into a line break. The text that `json.dumps` writes has no line end
of another kind and no white space at its ends, so it is read as the value it was written from.
-/

namespace TextFiles

open JsonText Text

/-- What a file holds. -/
inductive File
  | text (characters : List Char)
  | undecodable
  deriving DecidableEq

/-- A line end becomes a line break. -/
def universalNewlines : List Char → List Char
  | [] => []
  | '\r' :: '\n' :: rest => '\n' :: universalNewlines rest
  | '\r' :: rest => '\n' :: universalNewlines rest
  | character :: rest => character :: universalNewlines rest

/-- What a file that is opened as a text is read as, `none` where its bytes are no text. -/
def File.read : File → Option (List Char)
  | .text characters => some (universalNewlines characters)
  | .undecodable => none

theorem universalNewlines_self {text : List Char} (absent : '\r' ∉ text) :
    universalNewlines text = text := by
  induction text with
  | nil => rfl
  | cons character rest inductionHypothesis =>
    have different : character ≠ '\r' := fun same => absent (same ▸ List.mem_cons_self)
    rw [universalNewlines.eq_4 _ _ (fun _ same => absurd same different)
      (fun same => absurd same different),
      inductionHypothesis fun member => absent (List.mem_cons_of_mem _ member)]

/-! ## Characters of a written value -/

/-- A printed ASCII character that is not white space. -/
def isInk (character : Char) : Bool := 33 ≤ character.toNat && character.toNat < 127

theorem isSpace_of_isInk {character : Char} (ink : isInk character = true) :
    isSpace character = false := by
  unfold isInk at ink
  simp only [Bool.and_eq_true, decide_eq_true_eq] at ink
  by_contra space
  have codes := space_codes (Bool.eq_true_of_not_eq_false space)
  omega

theorem isInk_of_isDigit {character : Char} (digit : JsonText.isDigit character = true) :
    isInk character = true := by
  unfold JsonText.isDigit at digit
  unfold isInk
  simp only [Bool.and_eq_true, decide_eq_true_eq] at digit ⊢
  omega

/-- The text of a number has nothing but ink. -/
theorem isReal_ink {text : List Char} (is : IsReal text) :
    text ≠ [] ∧ ∀ character ∈ text, isInk character = true := by
  obtain ⟨sign, whole, fraction, exponent, signs, ⟨some, digits, _⟩, fractionIs, exponentIs, _,
    rfl⟩ := is
  have signInk : ∀ character ∈ sign, isInk character = true := by
    simp only [List.mem_cons, List.not_mem_nil, or_false] at signs
    rcases signs with rfl | rfl
    · intro character member
      cases member
    · simp [isInk]
  have fractionInk : ∀ character ∈ fraction, isInk character = true := by
    rcases fractionIs with rfl | ⟨more, _, all, rfl⟩
    · intro character member
      cases member
    · intro character member
      rcases List.mem_cons.mp member with rfl | later
      · decide
      · exact isInk_of_isDigit (all character later)
  have exponentInk : ∀ character ∈ exponent, isInk character = true := by
    rcases exponentIs with rfl | ⟨mark, signed, more, marks, signeds, _, all, rfl⟩
    · intro character member
      cases member
    · simp only [List.mem_cons, List.not_mem_nil, or_false] at marks signeds
      intro character member
      rcases List.mem_cons.mp member with rfl | later
      · rcases marks with rfl | rfl
        · decide
        · decide
      · rcases List.mem_append.mp later with front | back
        · rcases signeds with rfl | rfl | rfl
          · cases front
          · rw [List.mem_singleton.mp front]
            decide
          · rw [List.mem_singleton.mp front]
            decide
        · exact isInk_of_isDigit (all character back)
  refine ⟨fun nothing => some (by simp at nothing; exact nothing.2.1), fun character member => ?_⟩
  simp only [List.mem_append] at member
  rcases member with front | inside | middle | back
  · exact signInk character front
  · exact isInk_of_isDigit (digits character inside)
  · exact fractionInk character middle
  · exact exponentInk character back

theorem writeInt_ink (value : Int) :
    writeInt value ≠ [] ∧ ∀ character ∈ writeInt value, isInk character = true := by
  cases value with
  | ofNat number =>
    obtain ⟨some, digits, _⟩ := writeNat_whole number
    exact ⟨some, fun character member => isInk_of_isDigit (digits character member)⟩
  | negSucc number =>
    obtain ⟨_, digits, _⟩ := writeNat_whole (number + 1)
    refine ⟨List.cons_ne_nil _ _, fun character member => ?_⟩
    rcases List.mem_cons.mp member with rfl | later
    · decide
    · exact isInk_of_isDigit (digits character later)

/-- An escape has no line break of any kind. -/
theorem escape_breaks (character : Char) : '\r' ∉ escape character := by
  unfold escape
  cases short : shortEscape character with
  | some letter =>
    simp only [List.mem_cons, List.not_mem_nil, or_false, not_or]
    refine ⟨by decide, ?_⟩
    rintro rfl
    cases (longEscape_shortEscape short).1
  | none =>
    dsimp only
    split
    case isTrue small =>
      intro member
      have codes : ∀ code < 32, '\r' ∉ ['\x5c', 'u', '0', '0', hexDigit (code / 16),
          hexDigit (code % 16)] := by decide
      exact codes character.toNat small member
    case isFalse =>
      intro member
      rw [← List.mem_singleton.mp member] at short
      cases short

theorem writeText_breaks (characters : List Char) : '\r' ∉ writeText characters := by
  intro member
  rcases List.mem_append.mp member with escaped | mark
  · obtain ⟨character, _, inside⟩ := List.mem_flatMap.mp escaped
    exact escape_breaks character inside
  · exact absurd (List.mem_singleton.mp mark) (by decide)

theorem indentation_breaks (depth : Nat) : '\r' ∉ indentation depth := by
  intro member
  rcases List.mem_cons.mp member with newline | spaces
  · exact absurd newline (by decide)
  · exact absurd (List.eq_of_mem_replicate spaces) (by decide)

theorem ink_breaks {text : List Char} (ink : ∀ character ∈ text, isInk character = true) :
    '\r' ∉ text := fun member => absurd (ink _ member) (by decide)

section
variable (reals : Reals)

mutual

/-- No other line end than the line break is written. -/
theorem writeIndented_breaks (depth : Nat) :
    (value : Value reals.Carrier) → '\r' ∉ writeIndented reals depth value
  | .null => by rw [writeIndented, write]; decide
  | .bool true => by rw [writeIndented, write]; decide
  | .bool false => by rw [writeIndented, write]; decide
  | .int value => by rw [writeIndented, write]; exact ink_breaks (writeInt_ink value).2
  | .real value => by
    rw [writeIndented, write]
    exact ink_breaks (isReal_ink (reals.written value)).2
  | .text characters => by
    rw [writeIndented, write]
    exact List.not_mem_cons_of_ne_of_not_mem (by decide) (writeText_breaks characters)
  | .list [] => by rw [writeIndented]; decide
  | .list (value :: rest) => by
    rw [writeIndented]
    simp only [List.mem_cons, List.mem_append, not_or]
    exact ⟨by decide, indentation_breaks _, writeIndented_breaks (depth + 1) value,
      writeMoreIndentedItems_breaks depth rest⟩
  | .object [] => by rw [writeIndented]; decide
  | .object ((name, value) :: rest) => by
    rw [writeIndented]
    simp only [List.mem_cons, List.mem_append, not_or]
    exact ⟨by decide, indentation_breaks _, by decide, writeText_breaks name, by decide, by decide,
      writeIndented_breaks (depth + 1) value, writeMoreIndentedMembers_breaks depth rest⟩

theorem writeMoreIndentedItems_breaks (depth : Nat) :
    (items : List (Value reals.Carrier)) → '\r' ∉ writeMoreIndentedItems reals depth items
  | [] => by
    rw [writeMoreIndentedItems]
    simp only [List.mem_append, List.mem_singleton, not_or]
    exact ⟨indentation_breaks depth, by decide⟩
  | value :: rest => by
    rw [writeMoreIndentedItems]
    simp only [List.mem_cons, List.mem_append, not_or]
    exact ⟨by decide, indentation_breaks _, writeIndented_breaks (depth + 1) value,
      writeMoreIndentedItems_breaks depth rest⟩

theorem writeMoreIndentedMembers_breaks (depth : Nat) :
    (members : List (List Char × Value reals.Carrier)) →
      '\r' ∉ writeMoreIndentedMembers reals depth members
  | [] => by
    rw [writeMoreIndentedMembers]
    simp only [List.mem_append, List.mem_singleton, not_or]
    exact ⟨indentation_breaks depth, by decide⟩
  | (name, value) :: rest => by
    rw [writeMoreIndentedMembers]
    simp only [List.mem_cons, List.mem_append, not_or]
    exact ⟨by decide, indentation_breaks _, by decide, writeText_breaks name, by decide, by decide,
      writeIndented_breaks (depth + 1) value, writeMoreIndentedMembers_breaks depth rest⟩

end

/-- A text whose last character is ink. -/
def EndsInInk (text : List Char) : Prop :=
  ∃ front last, text = front ++ [last] ∧ isInk last = true

theorem EndsInInk.append {text : List Char} (ends : EndsInInk text) (before : List Char) :
    EndsInInk (before ++ text) := by
  obtain ⟨front, last, rfl, ink⟩ := ends
  exact ⟨before ++ front, last, (List.append_assoc ..).symm, ink⟩

theorem EndsInInk.cons {text : List Char} (ends : EndsInInk text) (first : Char) :
    EndsInInk (first :: text) := ends.append [first]

theorem endsInInk_all {text : List Char}
    (all : text ≠ [] ∧ ∀ character ∈ text, isInk character = true) : EndsInInk text :=
  ⟨text.dropLast, text.getLast all.1, (List.dropLast_append_getLast all.1).symm,
    all.2 _ (List.getLast_mem all.1)⟩

theorem endsInInk_moreItems (depth : Nat) (items : List (Value reals.Carrier)) :
    EndsInInk (writeMoreIndentedItems reals depth items) := by
  induction items with
  | nil =>
    rw [writeMoreIndentedItems]
    exact ⟨indentation depth, ']', rfl, by decide⟩
  | cons value rest inductionHypothesis =>
    rw [writeMoreIndentedItems]
    exact ((inductionHypothesis.append _).append _).cons ','

theorem endsInInk_moreMembers (depth : Nat) (members : List (List Char × Value reals.Carrier)) :
    EndsInInk (writeMoreIndentedMembers reals depth members) := by
  induction members with
  | nil =>
    rw [writeMoreIndentedMembers]
    exact ⟨indentation depth, '\x7d', rfl, by decide⟩
  | cons member rest inductionHypothesis =>
    obtain ⟨name, value⟩ := member
    rw [writeMoreIndentedMembers]
    exact ((((((inductionHypothesis.append _).cons ' ').cons ':').append _).cons _).append _).cons _

/-- The text of a value ends with ink. -/
theorem writeIndented_last (depth : Nat) (value : Value reals.Carrier) :
    EndsInInk (writeIndented reals depth value) := by
  match value with
  | .null => exact endsInInk_all (by rw [writeIndented, write]; simp [isInk])
  | .bool true => exact endsInInk_all (by rw [writeIndented, write]; simp [isInk])
  | .bool false => exact endsInInk_all (by rw [writeIndented, write]; simp [isInk])
  | .int value =>
    rw [writeIndented, write]
    exact endsInInk_all (writeInt_ink value)
  | .real value =>
    rw [writeIndented, write]
    exact endsInInk_all (isReal_ink (reals.written value))
  | .text characters =>
    rw [writeIndented, write]
    exact ⟨'\x22' :: characters.flatMap escape, '\x22', rfl, by decide⟩
  | .list [] =>
    rw [writeIndented]
    exact ⟨['['], ']', rfl, by decide⟩
  | .list (value :: rest) =>
    rw [writeIndented]
    exact (((endsInInk_moreItems reals depth rest).append _).append _).cons _
  | .object [] =>
    rw [writeIndented]
    exact ⟨['\x7b'], '\x7d', rfl, by decide⟩
  | .object ((name, value) :: rest) =>
    rw [writeIndented]
    exact (((((((endsInInk_moreMembers reals depth rest).append _).cons ' ').cons ':').append
      _).cons _).append _).cons _

/-- The text of a value starts with ink. -/
theorem writeIndented_first (depth : Nat) (value : Value reals.Carrier) :
    ∀ character ∈ (writeIndented reals depth value).head?, isInk character = true := by
  have inked : ∀ text : List Char, (∀ character ∈ text, isInk character = true) →
      ∀ character ∈ text.head?, isInk character = true :=
    fun text all character head => all character (List.mem_of_mem_head? head)
  match value with
  | .null => exact inked _ (by rw [writeIndented, write]; simp [isInk])
  | .bool true => exact inked _ (by rw [writeIndented, write]; simp [isInk])
  | .bool false => exact inked _ (by rw [writeIndented, write]; simp [isInk])
  | .int value =>
    rw [writeIndented, write]
    exact inked _ (writeInt_ink value).2
  | .real value =>
    rw [writeIndented, write]
    exact inked _ (isReal_ink (reals.written value)).2
  | .text characters =>
    rw [writeIndented, write]
    rintro character ⟨⟩
    decide
  | .list [] =>
    rw [writeIndented]
    rintro character ⟨⟩
    decide
  | .list (value :: rest) =>
    rw [writeIndented]
    rintro character ⟨⟩
    decide
  | .object [] =>
    rw [writeIndented]
    rintro character ⟨⟩
    decide
  | .object ((name, value) :: rest) =>
    rw [writeIndented]
    rintro character ⟨⟩
    decide

/-- No white space stands around a written value. -/
theorem writeIndented_trimmed (depth : Nat) (value : Value reals.Carrier) :
    Trimmed (writeIndented reals depth value) := by
  refine ⟨fun character head =>
    isSpace_of_isInk (writeIndented_first reals depth value character head), ?_⟩
  obtain ⟨front, last, same, ink⟩ := writeIndented_last reals depth value
  intro character final
  rw [same, List.getLast?_concat] at final
  cases final
  exact isSpace_of_isInk ink

end

end TextFiles
