import Mathlib.Data.List.DropRight

/-!
# Text methods of the source language

The string methods the source calls, on Unicode characters: which characters
count as white space or as digits, trimming, reading a digit string as a number,
and comparing with a lower-case word. The tables are those of Unicode 14, which
the source's language version carries.

`isdigit` accepts more characters than `int` can read: superscripts, circled
digits and the like are digits without a decimal value. `int` also refuses a
string of more than 4300 digits. Both facts are visible to callers that test the
one and then apply the other.
-/

namespace Text

/-- The characters `isspace` accepts, which are those `strip` removes. -/
def isSpace (character : Char) : Bool :=
  let code := character.toNat
  (9 ≤ code && code ≤ 13) || (28 ≤ code && code ≤ 32) || code == 0x85 || code == 0xa0 ||
    code == 0x1680 || (0x2000 ≤ code && code ≤ 0x200a) || code == 0x2028 || code == 0x2029 ||
    code == 0x202f || code == 0x205f || code == 0x3000

/-- Remove the white space at both ends of a list of characters. -/
def trim (characters : List Char) : List Char :=
  (characters.dropWhile isSpace).rdropWhile isSpace

/-- Remove the white space at both ends. -/
def strip (text : String) : String := String.ofList (trim text.toList)

/-- Trimming at the end keeps a front that is already free of white space. -/
theorem dropWhile_rdropWhile (characters : List Char)
    (front : characters.dropWhile isSpace = characters) :
    (characters.rdropWhile isSpace).dropWhile isSpace = characters.rdropWhile isSpace := by
  cases characters with
  | nil => simp [List.rdropWhile]
  | cons first rest =>
    have visible : isSpace first = false := by
      by_contra blank
      have shorter : ((first :: rest).dropWhile isSpace).length ≤ rest.length := by
        rw [List.dropWhile_cons_of_pos (by simpa using blank)]
        exact (List.dropWhile_suffix isSpace).length_le
      rw [front, List.length_cons] at shorter
      omega
    rcases List.rdropWhile_prefix isSpace (l := first :: rest) with ⟨removed, split⟩
    cases kept : (first :: rest).rdropWhile isSpace with
    | nil => rfl
    | cons head tail =>
      have sameHead : head = first := by
        rw [kept] at split
        exact (List.cons.inj split).1
      rw [sameHead, List.dropWhile_cons_of_neg (by simp [visible])]

theorem trim_trim (characters : List Char) : trim (trim characters) = trim characters := by
  unfold trim
  rw [dropWhile_rdropWhile _ (List.dropWhile_idempotent isSpace characters),
    List.rdropWhile_idempotent]

/-- Stripping twice is stripping once. -/
@[simp] theorem strip_strip (text : String) : strip (strip text) = strip text := by
  simp [strip, trim_trim]

/-- A text without white space at its ends. -/
abbrev Plain := { text : String // strip text = text }

instance : LawfulBEq Plain := inferInstance

instance lawfulBEqChars : LawfulBEq (List Char) := inferInstance

/-- `str(text or "").strip()`. -/
def plain (text : String) : Plain := ⟨strip text, strip_strip text⟩

/-- Stripping a stored text again gives the same text. -/
@[simp] theorem plain_val (text : Plain) : plain text.1 = text := Subtype.ext text.2

/-- Replace each run of white space by one blank; `inside` is set behind a white space. -/
def collapseFrom (inside : Bool) : List Char → List Char
  | [] => []
  | character :: rest =>
      if isSpace character then
        if inside then collapseFrom true rest else ' ' :: collapseFrom true rest
      else character :: collapseFrom false rest

/-- `re.sub(r"\s+", " ", text)`. -/
def collapse (text : String) : String := String.ofList (collapseFrom false text.toList)

/-- The first code point of each block of ten decimal digits. -/
def decimalStarts : List Nat :=
  [0x30, 0x660, 0x6f0, 0x7c0, 0x966, 0x9e6, 0xa66, 0xae6, 0xb66, 0xbe6, 0xc66, 0xce6, 0xd66,
    0xde6, 0xe50, 0xed0, 0xf20, 0x1040, 0x1090, 0x17e0, 0x1810, 0x1946, 0x19d0, 0x1a80, 0x1a90,
    0x1b50, 0x1bb0, 0x1c40, 0x1c50, 0xa620, 0xa8d0, 0xa900, 0xa9d0, 0xa9f0, 0xaa50, 0xabf0,
    0xff10, 0x104a0, 0x10d30, 0x11066, 0x110f0, 0x11136, 0x111d0, 0x112f0, 0x11450, 0x114d0,
    0x11650, 0x116c0, 0x11730, 0x118e0, 0x11950, 0x11c50, 0x11d50, 0x11da0, 0x16a60, 0x16ac0,
    0x16b50, 0x1d7ce, 0x1d7d8, 0x1d7e2, 0x1d7ec, 0x1d7f6, 0x1e140, 0x1e2f0, 0x1e950, 0x1fbf0]

/-- First and last code point of the digits without a decimal value. -/
def otherDigits : List (Nat × Nat) :=
  [(0xb2, 0xb3), (0xb9, 0xb9), (0x1369, 0x1371), (0x19da, 0x19da), (0x2070, 0x2070),
    (0x2074, 0x2079), (0x2080, 0x2089), (0x2460, 0x2468), (0x2474, 0x247c), (0x2488, 0x2490),
    (0x24ea, 0x24ea), (0x24f5, 0x24fd), (0x24ff, 0x24ff), (0x2776, 0x277e), (0x2780, 0x2788),
    (0x278a, 0x2792), (0x10a40, 0x10a43), (0x10e60, 0x10e68), (0x11052, 0x1105a),
    (0x1f100, 0x1f10a)]

/-- The value of a decimal digit. -/
def decimal (character : Char) : Option Nat :=
  decimalStarts.findSome? fun start =>
    if start ≤ character.toNat ∧ character.toNat < start + 10 then some (character.toNat - start)
    else none

/-- `isdigit` on one character: decimal digits and the other digits. -/
def isDigit (character : Char) : Bool :=
  (decimal character).isSome ||
    otherDigits.any fun range => range.1 ≤ character.toNat && character.toNat ≤ range.2

/-- `isdigit`: at least one character, and every one a digit. -/
def isdigit (text : String) : Bool := !text.toList.isEmpty && text.toList.all isDigit

/-- The longest digit string `int` converts. -/
def maxStrDigits : Nat := 4300

/-- `int` on a string of digits: `none` is the raised `ValueError`. -/
def int (text : String) : Option Nat :=
  if maxStrDigits < text.toList.length then none
  else text.toList.foldl
    (fun value character => value.bind fun total => (decimal character).map (10 * total + ·))
    (some 0)

/-- `int` of a text, with its sign and its separators. -/
def intOfText (text : String) : Option Int :=
  let digits (sign : Int) (characters : List Char) : Option Int :=
    let groups := characters.splitOn '_'
    if groups.any List.isEmpty then none
    else (int (String.ofList groups.flatten)).map fun number => sign * number
  match (strip text).toList with
  | '-' :: rest => digits (-1) rest
  | '+' :: rest => digits 1 rest
  | characters => digits 1 characters

/-- `text or default` -/
def orElse (text default : String) : String := if text = "" then default else text

/-- `lower`, as far as a comparison with a word of ASCII letters can tell: beside
the capitals only the Kelvin sign lowers to an ASCII letter. -/
def lowerWord (text : String) : String :=
  String.ofList (text.toList.map fun character =>
    if character.toNat = 0x212a then 'k' else character.toLower)

end Text
