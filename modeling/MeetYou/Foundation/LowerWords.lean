import MeetYou.Foundation.Text

/-!
# Words in lower case

A word that is compared is stripped and lowered. Lowering neither makes nor removes white space,
so doing both twice is doing both once.
-/

namespace Text

/-- A capital moves by 32, another character stays. -/
theorem toLower_of_capital (character : Char) :
    (65 ≤ character.toNat ∧ character.toNat ≤ 90 ∧
      character.toLower.toNat = character.toNat + 32) ∨ character.toLower = character := by
  unfold Char.toLower
  split
  case isTrue capital =>
    left
    have lower : 65 ≤ character.toNat := UInt32.le_iff_toNat_le.mp capital.1
    have upper : character.toNat ≤ 90 := UInt32.le_iff_toNat_le.mp capital.2
    refine ⟨lower, upper, ?_⟩
    show (character.val + 32).toNat = character.val.toNat + 32
    have same : character.toNat = character.val.toNat := rfl
    rw [UInt32.toNat_add]
    have small : (32 : UInt32).toNat = 32 := rfl
    rw [small]
    omega
  case isFalse => exact Or.inr rfl

/-- The character in lower case, as `lowerWord` has it. -/
def wordCharacter (character : Char) : Char :=
  if character.toNat = 0x212a then 'k' else character.toLower

theorem isSpace_wordCharacter (character : Char) :
    isSpace (wordCharacter character) = isSpace character := by
  unfold wordCharacter
  split
  case isTrue kelvin =>
    unfold isSpace
    rw [kelvin]
    decide
  case isFalse =>
    rcases toLower_of_capital character with ⟨above, below, code⟩ | same
    · unfold isSpace
      rw [code, Bool.eq_iff_iff]
      simp only [Bool.or_eq_true, Bool.and_eq_true, decide_eq_true_eq, beq_iff_eq]
      omega
    · rw [same]

theorem wordCharacter_wordCharacter (character : Char) :
    wordCharacter (wordCharacter character) = wordCharacter character := by
  unfold wordCharacter
  split
  case isTrue => decide
  case isFalse other =>
    rcases toLower_of_capital character with ⟨above, below, code⟩ | same
    · rw [if_neg (by omega)]
      rcases toLower_of_capital character.toLower with ⟨_, late, _⟩ | again
      · omega
      · exact again
    · rw [same, if_neg other, same]

theorem trim_map_wordCharacter (characters : List Char) :
    trim (characters.map wordCharacter) = (trim characters).map wordCharacter := by
  have front : ∀ characters : List Char, (characters.map wordCharacter).dropWhile isSpace =
      (characters.dropWhile isSpace).map wordCharacter := by
    intro characters
    rw [List.dropWhile_map]
    congr 2
    funext character
    exact isSpace_wordCharacter character
  unfold trim List.rdropWhile
  rw [front, ← List.map_reverse, front, ← List.map_reverse]

/-- Stripping and lowering a word twice is doing so once. -/
theorem lowerWord_strip_self (text : String) :
    lowerWord (strip (lowerWord (strip text))) = lowerWord (strip text) := by
  have lower : ∀ text : String, lowerWord text = String.ofList (text.toList.map wordCharacter) :=
    fun _ => rfl
  unfold strip
  rw [lower, lower, String.toList_ofList, String.toList_ofList, String.toList_ofList,
    trim_map_wordCharacter, trim_trim, List.map_map]
  exact congrArg String.ofList
    (List.map_congr_left fun character _ => wordCharacter_wordCharacter character)

end Text
