import Mathlib.Data.List.Basic

/-!
# Base64

Three bytes are four characters of six bits each; an end of one or two bytes is filled up
with equals signs. The reader takes the characters one by one. It skips those that are not of
the alphabet, stops at an equals sign that completes a group, and refuses a text whose last
group is not complete.
-/

namespace Base64

/-- The characters for six bits. -/
def alphabet : List Char :=
  "ABCDEFGHIJKLMNOPQRSTUVWXYZabcdefghijklmnopqrstuvwxyz0123456789+/".toList

def character (bits : Nat) : Char := alphabet.getD bits 'A'

/-- The six bits of a character of the alphabet. -/
def bits (character : Char) : Option Nat :=
  let position := alphabet.idxOf character
  if position < 64 then some position else none

/-- `base64.b64encode` -/
def encode : List UInt8 → List Char
  | a :: b :: c :: rest =>
      [character (a.toNat / 4), character (a.toNat % 4 * 16 + b.toNat / 16),
        character (b.toNat % 16 * 4 + c.toNat / 64), character (c.toNat % 64)] ++ encode rest
  | [a, b] =>
      [character (a.toNat / 4), character (a.toNat % 4 * 16 + b.toNat / 16),
        character (b.toNat % 16 * 4), '=']
  | [a] => [character (a.toNat / 4), character (a.toNat % 4 * 16), '=', '=']
  | [] => []

/-- How much of a group was read: how many characters, the bits that wait, and the equals
signs since the last character. -/
structure Group where
  position : Nat
  left : Nat
  pads : Nat

/-- The bytes from a group on. -/
def decodeFrom (group : Group) : List Char → Option (List UInt8)
  | [] => if group.position = 0 then some [] else none
  | first :: rest =>
      if first = '=' then
        if 2 ≤ group.position ∧ 4 ≤ group.position + (group.pads + 1) then some []
        else decodeFrom { group with
          pads := if 2 ≤ group.position then group.pads + 1 else group.pads } rest
      else match bits first with
        | none => decodeFrom group rest
        | some sextet =>
          match group.position with
          | 0 => decodeFrom ⟨1, sextet, 0⟩ rest
          | 1 => (decodeFrom ⟨2, sextet % 16, 0⟩ rest).map
              (UInt8.ofNat (group.left * 4 + sextet / 16) :: ·)
          | 2 => (decodeFrom ⟨3, sextet % 4, 0⟩ rest).map
              (UInt8.ofNat (group.left * 16 + sextet / 4) :: ·)
          | _ => (decodeFrom ⟨0, 0, 0⟩ rest).map (UInt8.ofNat (group.left * 64 + sextet) :: ·)

/-- `base64.b64decode` of a text that `encode("ascii")` accepts. -/
def decode (text : List Char) : Option (List UInt8) :=
  if text.all fun character => decide (character.toNat < 128) then decodeFrom ⟨0, 0, 0⟩ text
  else none

theorem character_bits {sextet : Nat} (small : sextet < 64) :
    bits (character sextet) = some sextet ∧ character sextet ≠ '=' ∧
      (character sextet).toNat < 128 := by
  revert sextet
  decide +kernel

section
variable {sextet left pads : Nat} (small : sextet < 64) (rest : List Char)
include small

theorem decode_first :
    decodeFrom ⟨0, left, pads⟩ (character sextet :: rest) = decodeFrom ⟨1, sextet, 0⟩ rest := by
  obtain ⟨known, unequal, _⟩ := character_bits small
  rw [decodeFrom, if_neg unequal, known]
  rfl

theorem decode_second :
    decodeFrom ⟨1, left, pads⟩ (character sextet :: rest) =
      (decodeFrom ⟨2, sextet % 16, 0⟩ rest).map (UInt8.ofNat (left * 4 + sextet / 16) :: ·) := by
  obtain ⟨known, unequal, _⟩ := character_bits small
  rw [decodeFrom, if_neg unequal, known]
  rfl

theorem decode_third :
    decodeFrom ⟨2, left, pads⟩ (character sextet :: rest) =
      (decodeFrom ⟨3, sextet % 4, 0⟩ rest).map (UInt8.ofNat (left * 16 + sextet / 4) :: ·) := by
  obtain ⟨known, unequal, _⟩ := character_bits small
  rw [decodeFrom, if_neg unequal, known]
  rfl

theorem decode_fourth :
    decodeFrom ⟨3, left, pads⟩ (character sextet :: rest) =
      (decodeFrom ⟨0, 0, 0⟩ rest).map (UInt8.ofNat (left * 64 + sextet) :: ·) := by
  obtain ⟨known, unequal, _⟩ := character_bits small
  rw [decodeFrom, if_neg unequal, known]
  rfl

end

/-- Bits that make up a byte give it back. -/
theorem byte_of {byte : UInt8} {number : Nat} (same : number = byte.toNat) :
    UInt8.ofNat number = byte := by
  rw [same, UInt8.ofNat_toNat]

theorem decodeFrom_encode (bytes : List UInt8) :
    decodeFrom ⟨0, 0, 0⟩ (encode bytes) = some bytes := by
  fun_induction encode bytes with
  | case1 a b c rest inductionHypothesis =>
    have := a.toNat_lt
    have := b.toNat_lt
    have := c.toNat_lt
    simp only [List.cons_append, List.nil_append]
    rw [decode_first (by omega), decode_second (by omega), decode_third (by omega),
      decode_fourth (by omega), inductionHypothesis]
    simp only [Option.map_some]
    rw [(@byte_of a) (by omega), (@byte_of b) (by omega),
      (@byte_of c) (by omega)]
  | case2 a b =>
    have := a.toNat_lt
    have := b.toNat_lt
    rw [decode_first (by omega), decode_second (by omega), decode_third (by omega)]
    have ends : ∀ left, decodeFrom ⟨3, left, 0⟩ ['='] = some [] := fun _ => rfl
    rw [ends]
    simp only [Option.map_some]
    rw [(@byte_of a) (by omega), (@byte_of b) (by omega)]
  | case3 a =>
    have := a.toNat_lt
    rw [decode_first (by omega), decode_second (by omega)]
    have ends : ∀ left, decodeFrom ⟨2, left, 0⟩ ['=', '='] = some [] := fun _ => rfl
    rw [ends]
    simp only [Option.map_some]
    rw [(@byte_of a) (by omega)]
  | case4 => rfl

theorem encode_ascii (bytes : List UInt8) : ∀ character ∈ encode bytes, character.toNat < 128 := by
  fun_induction encode bytes with
  | case1 a b c rest inductionHypothesis =>
    have := a.toNat_lt
    have := b.toNat_lt
    have := c.toNat_lt
    simp only [List.cons_append, List.nil_append, List.forall_mem_cons]
    exact ⟨(character_bits (by omega)).2.2, (character_bits (by omega)).2.2,
      (character_bits (by omega)).2.2, (character_bits (by omega)).2.2, inductionHypothesis⟩
  | case2 a b =>
    have := a.toNat_lt
    have := b.toNat_lt
    simp only [List.forall_mem_cons, List.not_mem_nil, false_implies, implies_true, and_true]
    exact ⟨(character_bits (by omega)).2.2, (character_bits (by omega)).2.2,
      (character_bits (by omega)).2.2, by decide⟩
  | case3 a =>
    have := a.toNat_lt
    simp only [List.forall_mem_cons, List.not_mem_nil, false_implies, implies_true, and_true]
    exact ⟨(character_bits (by omega)).2.2, (character_bits (by omega)).2.2, by decide, by decide⟩
  | case4 => simp

/-- What was encoded is decoded again. -/
theorem decode_encode (bytes : List UInt8) : decode (encode bytes) = some bytes := by
  unfold decode
  rw [if_pos (by simpa using encode_ascii bytes), decodeFrom_encode]

end Base64
