import MeetYou.Foundation.Dict
import MeetYou.Foundation.Text
import Mathlib.Data.Nat.Digits.Lemmas

/-!
# JSON texts

Values and the texts that `json.dumps` writes for them, without white space and with every
character that needs no escape as it is, and the reader `json.loads`. An object is a
dictionary: of two members with one name a reader keeps the last value, in the place of the
first. Integers have any size up to the number of digits that the source language converts.

A number with a fraction or an exponent is a float. Which floats there are and how their
digits are chosen is a parameter: their texts, and that a text is read back as the float it
was written for.

The reader goes on with what is left of the text, so it carries a bound on its depth, for
which the length of the text suffices. Half of a surrogate pair stands for no character and
is not read.
-/

namespace JsonText

/-- A digit. -/
def isDigit (character : Char) : Bool := 48 ≤ character.toNat && character.toNat ≤ 57

/-- An optional part of a number: nothing, or a point and digits. -/
def IsFraction (text : List Char) : Prop :=
  text = [] ∨ ∃ digits, digits ≠ [] ∧ (∀ digit ∈ digits, isDigit digit = true) ∧
    text = '.' :: digits

/-- Nothing, or an exponent with its sign. -/
def IsExponent (text : List Char) : Prop :=
  text = [] ∨ ∃ (mark : Char) (sign digits : List Char), mark ∈ ['e', 'E'] ∧
    sign ∈ [[], ['-'], ['+']] ∧ digits ≠ [] ∧ (∀ digit ∈ digits, isDigit digit = true) ∧
      text = mark :: (sign ++ digits)

/-- Digits without a zero in front of others. -/
def IsWhole (digits : List Char) : Prop :=
  digits ≠ [] ∧ (∀ digit ∈ digits, isDigit digit = true) ∧ (digits.head? = some '0' → digits = ['0'])

/-- The text of a float. -/
def IsReal (text : List Char) : Prop :=
  ∃ sign whole fraction exponent : List Char, sign ∈ [[], ['-']] ∧ IsWhole whole ∧
    IsFraction fraction ∧ IsExponent exponent ∧ (fraction ≠ [] ∨ exponent ≠ []) ∧
      text = sign ++ (whole ++ (fraction ++ exponent))

/-- A text of a float, for a type of floats that has only one. -/
theorem isReal_half : IsReal ['0', '.', '5'] :=
  ⟨[], ['0'], ['.', '5'], [], by simp, ⟨by simp, by simp [isDigit], fun _ => rfl⟩,
    Or.inr ⟨['5'], by simp, by simp [isDigit], rfl⟩, Or.inl rfl, Or.inl (by simp), rfl⟩

/-- The floats of the source language: what `repr` writes and what `float` reads. -/
structure Reals where
  Carrier : Type
  write : Carrier → List Char
  read : List Char → Carrier
  written : ∀ real, IsReal (write real)
  read_write : ∀ real, read (write real) = real

/-- Floats of which there is one. -/
def halves : Reals where
  Carrier := Unit
  write _ := ['0', '.', '5']
  read _ := ()
  written _ := isReal_half
  read_write _ := rfl

/-- A JSON value. -/
inductive Value (Real : Type)
  | null
  | bool (value : Bool)
  | int (value : Int)
  | real (value : Real)
  | text (characters : List Char)
  | list (items : List (Value Real))
  | object (members : List (List Char × Value Real))

section
variable {Real : Type}

mutual

/-- In every object the names are distinct. -/
def Value.Proper : Value Real → Prop
  | .object members => (members.map Prod.fst).Nodup ∧ ProperMembers members
  | .list items => ProperItems items
  | _ => True

/-- All values of the members are proper. -/
def ProperMembers : List (List Char × Value Real) → Prop
  | [] => True
  | (_, value) :: rest => value.Proper ∧ ProperMembers rest

/-- All items are proper. -/
def ProperItems : List (Value Real) → Prop
  | [] => True
  | value :: rest => value.Proper ∧ ProperItems rest

end

mutual

/-- Every integer has few enough digits to be converted. -/
def Value.Printable : Value Real → Prop
  | .object members => PrintableMembers members
  | .list items => PrintableItems items
  | .int value => value.natAbs < 10 ^ Text.maxStrDigits
  | _ => True

/-- All values of the members can be written. -/
def PrintableMembers : List (List Char × Value Real) → Prop
  | [] => True
  | (_, value) :: rest => value.Printable ∧ PrintableMembers rest

/-- All items can be written. -/
def PrintableItems : List (Value Real) → Prop
  | [] => True
  | value :: rest => value.Printable ∧ PrintableItems rest

end

mutual

/-- Whether a value can be written is decided along its structure. -/
def Value.decidablePrintable : (value : Value Real) → Decidable value.Printable
  | .object members => decidablePrintableMembers members
  | .list items => decidablePrintableItems items
  | .int value => inferInstanceAs (Decidable (value.natAbs < 10 ^ Text.maxStrDigits))
  | .null => isTrue trivial
  | .bool _ => isTrue trivial
  | .real _ => isTrue trivial
  | .text _ => isTrue trivial

def decidablePrintableMembers :
    (members : List (List Char × Value Real)) → Decidable (PrintableMembers members)
  | [] => isTrue trivial
  | (_, value) :: rest =>
      @instDecidableAnd _ _ value.decidablePrintable (decidablePrintableMembers rest)

def decidablePrintableItems : (items : List (Value Real)) → Decidable (PrintableItems items)
  | [] => isTrue trivial
  | value :: rest => @instDecidableAnd _ _ value.decidablePrintable (decidablePrintableItems rest)

end

instance (value : Value Real) : Decidable value.Printable := value.decidablePrintable

/-! ## Agreement -/

mutual

/-- The values agree but for the members with a hidden name. The order of members does not
count. -/
def Alike (hidden : List Char → Bool) : Value Real → Value Real → Prop
  | .object members, other =>
      match other with
      | .object others => (∀ name, name ∈ members.map Prod.fst ↔ name ∈ others.map Prod.fst) ∧
          AlikeMembers hidden members others
      | _ => False
  | .list items, other =>
      match other with
      | .list others => AlikeItems hidden items others
      | _ => False
  | value, other => value = other

/-- Every member is found among the others. -/
def AlikeMembers (hidden : List Char → Bool) :
    List (List Char × Value Real) → List (List Char × Value Real) → Prop
  | [], _ => True
  | (name, value) :: rest, others =>
      (hidden name = true ∨ ∃ other, (name, other) ∈ others ∧ Alike hidden value other) ∧
        AlikeMembers hidden rest others

/-- Item by item, the two lists are alike. -/
def AlikeItems (hidden : List Char → Bool) : List (Value Real) → List (Value Real) → Prop
  | [], others => others = []
  | value :: rest, others =>
      match others with
      | [] => False
      | other :: others => Alike hidden value other ∧ AlikeItems hidden rest others

end

/-- The values are equal, the order of members aside. -/
def Same (value other : Value Real) : Prop := Alike (fun _ => false) value other

mutual

theorem Alike.refl (hidden : List Char → Bool) : ∀ value : Value Real, Alike hidden value value
  | .object members => ⟨fun _ => Iff.rfl, AlikeMembers.of_subset hidden members members fun _ => id⟩
  | .list items => AlikeItems.refl hidden items
  | .null => rfl
  | .bool _ => rfl
  | .int _ => rfl
  | .real _ => rfl
  | .text _ => rfl

theorem AlikeMembers.of_subset (hidden : List Char → Bool) :
    ∀ members others : List (List Char × Value Real), (∀ member ∈ members, member ∈ others) →
      AlikeMembers hidden members others
  | [], _, _ => trivial
  | (_, value) :: rest, others, subset =>
      ⟨Or.inr ⟨value, subset _ List.mem_cons_self, Alike.refl hidden value⟩,
        AlikeMembers.of_subset hidden rest others fun member inside =>
          subset member (List.mem_cons_of_mem _ inside)⟩

theorem AlikeItems.refl (hidden : List Char → Bool) :
    ∀ items : List (Value Real), AlikeItems hidden items items
  | [] => rfl
  | value :: rest => ⟨Alike.refl hidden value, AlikeItems.refl hidden rest⟩

end

end

/-! ## Writing -/

/-- The character of a digit. -/
def digitChar (digit : Nat) : Char := Char.ofNat (48 + digit)

/-- The decimal digits of a number. -/
def writeNat (number : Nat) : List Char :=
  if number = 0 then ['0'] else ((Nat.digits 10 number).map digitChar).reverse

/-- A whole number with its sign. -/
def writeInt : Int → List Char
  | .ofNat number => writeNat number
  | .negSucc number => '-' :: writeNat (number + 1)

/-- The character of a digit to the base sixteen. -/
def hexDigit (digit : Nat) : Char :=
  if digit < 10 then Char.ofNat (48 + digit) else Char.ofNat (87 + digit)

/-- The letter that stands behind a backslash for a character. -/
def shortEscape (character : Char) : Option Char :=
  if character = '\x22' then some '\x22'
  else if character = '\x5c' then some '\x5c'
  else if character = '\x0a' then some 'n'
  else if character = '\x0d' then some 'r'
  else if character = '\x09' then some 't'
  else if character = '\x08' then some 'b'
  else if character = '\x0c' then some 'f'
  else none

/-- A character as it stands in a text. -/
def escape (character : Char) : List Char :=
  match shortEscape character with
  | some letter => ['\x5c', letter]
  | none =>
      if character.toNat < 32 then
        ['\x5c', 'u', '0', '0', hexDigit (character.toNat / 16), hexDigit (character.toNat % 16)]
      else [character]

/-- A text between quotation marks, with the mark that ends it. -/
def writeText (characters : List Char) : List Char := characters.flatMap escape ++ ['\x22']

section
variable (reals : Reals)

mutual

/-- `json.dumps` -/
def write : Value reals.Carrier → List Char
  | .null => ['n', 'u', 'l', 'l']
  | .bool true => ['t', 'r', 'u', 'e']
  | .bool false => ['f', 'a', 'l', 's', 'e']
  | .int value => writeInt value
  | .real value => reals.write value
  | .text characters => '\x22' :: writeText characters
  | .list items => '[' :: writeItems items
  | .object members => '\x7b' :: writeMembers members

/-- The items of a list with the bracket that ends it. -/
def writeItems : List (Value reals.Carrier) → List Char
  | [] => [']']
  | value :: rest => write value ++ writeMoreItems rest

/-- The items behind the first one. -/
def writeMoreItems : List (Value reals.Carrier) → List Char
  | [] => [']']
  | value :: rest => ',' :: (write value ++ writeMoreItems rest)

/-- The members of an object with the brace that ends it. -/
def writeMembers : List (List Char × Value reals.Carrier) → List Char
  | [] => ['\x7d']
  | (name, value) :: rest =>
      '\x22' :: (writeText name ++ ':' :: (write value ++ writeMoreMembers rest))

/-- The members behind the first one. -/
def writeMoreMembers : List (List Char × Value reals.Carrier) → List Char
  | [] => ['\x7d']
  | (name, value) :: rest =>
      ',' :: '\x22' :: (writeText name ++ ':' :: (write value ++ writeMoreMembers rest))

end

end

/-! ## Reading -/

/-- The four characters of white space. -/
def isWhite (character : Char) : Bool := character ∈ [' ', '\x09', '\x0a', '\x0d']

/-- What follows the white space. -/
def skip (text : List Char) : List Char := text.dropWhile isWhite

/-- The value of decimal digits. -/
def readNat (digits : List Char) : Nat :=
  digits.foldl (fun total digit => 10 * total + (digit.toNat - 48)) 0

/-- The value of a digit to the base sixteen. -/
def hexValue (character : Char) : Option Nat :=
  if isDigit character then some (character.toNat - 48)
  else if 97 ≤ character.toNat ∧ character.toNat ≤ 102 then some (character.toNat - 87)
  else if 65 ≤ character.toNat ∧ character.toNat ≤ 70 then some (character.toNat - 55)
  else none

/-- Four hexadecimal digits. -/
def hexCode (first second third fourth : Char) : Option Nat :=
  (hexValue first).bind fun a => (hexValue second).bind fun b => (hexValue third).bind fun c =>
    (hexValue fourth).map fun d => ((a * 16 + b) * 16 + c) * 16 + d

/-- The character that a letter behind a backslash stands for. -/
def longEscape (letter : Char) : Option Char :=
  if letter = '\x22' then some '\x22'
  else if letter = '\x5c' then some '\x5c'
  else if letter = '/' then some '/'
  else if letter = 'n' then some '\x0a'
  else if letter = 'r' then some '\x0d'
  else if letter = 't' then some '\x09'
  else if letter = 'b' then some '\x08'
  else if letter = 'f' then some '\x0c'
  else none

/-- The rest of a text behind its quotation mark. -/
def readText : List Char → Option (List Char × List Char)
  | [] => none
  | '\x22' :: rest => some ([], rest)
  | '\x5c' :: 'u' :: a :: b :: c :: d :: rest =>
      match hexCode a b c d with
      | none => none
      | some code =>
        if 0xd800 ≤ code ∧ code < 0xdc00 then
          match rest with
          | '\x5c' :: 'u' :: e :: f :: g :: h :: more =>
            match hexCode e f g h with
            | some low =>
              if 0xdc00 ≤ low ∧ low < 0xe000 then
                (readText more).map fun read =>
                  (Char.ofNat (0x10000 + (code - 0xd800) * 0x400 + (low - 0xdc00)) :: read.1, read.2)
              else none
            | none => none
          | _ => none
        else if 0xdc00 ≤ code ∧ code < 0xe000 then none
        else (readText rest).map fun read => (Char.ofNat code :: read.1, read.2)
  | '\x5c' :: letter :: rest =>
      match longEscape letter with
      | none => none
      | some character => (readText rest).map fun read => (character :: read.1, read.2)
  | character :: rest =>
      if character.toNat < 32 ∨ character = '\x5c' then none
      else (readText rest).map fun read => (character :: read.1, read.2)

/-- The parts of a number: the whole digits, the fraction and the exponent, and the rest. -/
def splitWhole (text : List Char) : Option (List Char × List Char) :=
  match text with
  | '0' :: rest => some (['0'], rest)
  | _ =>
      if text.takeWhile isDigit = [] then none
      else some (text.takeWhile isDigit, text.dropWhile isDigit)

/-- A fraction has a digit behind its point; else there is none. -/
def splitFraction (text : List Char) : List Char × List Char :=
  match text with
  | '.' :: rest =>
      if rest.takeWhile isDigit = [] then ([], text)
      else ('.' :: rest.takeWhile isDigit, rest.dropWhile isDigit)
  | _ => ([], text)

/-- A sign in front of the digits of an exponent. -/
def splitSign (text : List Char) : List Char × List Char :=
  match text with
  | '-' :: rest => (['-'], rest)
  | '+' :: rest => (['+'], rest)
  | _ => ([], text)

/-- An exponent has a digit behind its sign; else there is none. -/
def splitExponent (text : List Char) : List Char × List Char :=
  match text with
  | mark :: rest =>
      if mark ∈ ['e', 'E'] ∧ (splitSign rest).2.takeWhile isDigit ≠ [] then
        (mark :: ((splitSign rest).1 ++ (splitSign rest).2.takeWhile isDigit),
          (splitSign rest).2.dropWhile isDigit)
      else ([], text)
  | [] => ([], [])

section
variable (reals : Reals)

/-- A number behind its sign. -/
def readUnsigned (negative : Bool) (text : List Char) :
    Option (Value reals.Carrier × List Char) :=
  match splitWhole text with
  | none => none
  | some (whole, rest) =>
    let fraction := splitFraction rest
    let exponent := splitExponent fraction.2
    if fraction.1 = [] ∧ exponent.1 = [] then
      if Text.maxStrDigits < whole.length then none
      else some (.int (if negative then -(readNat whole : Int) else readNat whole), exponent.2)
    else some (.real (reals.read ((if negative then ['-'] else []) ++
      (whole ++ (fraction.1 ++ exponent.1)))), exponent.2)

/-- The names of single values, and numbers. -/
def readAtom (text : List Char) : Option (Value reals.Carrier × List Char) :=
  match text with
  | 'n' :: 'u' :: 'l' :: 'l' :: rest => some (.null, rest)
  | 't' :: 'r' :: 'u' :: 'e' :: rest => some (.bool true, rest)
  | 'f' :: 'a' :: 'l' :: 's' :: 'e' :: rest => some (.bool false, rest)
  | '-' :: rest => readUnsigned reals true rest
  | _ => readUnsigned reals false text

mutual

/-- A value at the start of a text, to a bounded depth. -/
def readValue : Nat → List Char → Option (Value reals.Carrier × List Char)
  | 0, _ => none
  | bound + 1, text =>
    match skip text with
    | '\x22' :: rest => (readText rest).map fun read => (.text read.1, read.2)
    | '[' :: rest =>
      match skip rest with
      | ']' :: more => some (.list [], more)
      | _ => readItems bound [] rest
    | '\x7b' :: rest =>
      match skip rest with
      | '\x7d' :: more => some (.object [], more)
      | _ => readMembers bound [] rest
    | other => readAtom reals other

/-- The items of a list, behind those that were read. -/
def readItems : Nat → List (Value reals.Carrier) → List Char →
    Option (Value reals.Carrier × List Char)
  | 0, _, _ => none
  | bound + 1, items, text =>
    match readValue bound text with
    | none => none
    | some (value, rest) =>
      match skip rest with
      | ',' :: more => readItems bound (items ++ [value]) more
      | ']' :: more => some (.list (items ++ [value]), more)
      | _ => none

/-- The members of an object, behind those that were read. -/
def readMembers : Nat → List (List Char × Value reals.Carrier) → List Char →
    Option (Value reals.Carrier × List Char)
  | 0, _, _ => none
  | bound + 1, members, text =>
    match skip text with
    | '\x22' :: rest =>
      match readText rest with
      | none => none
      | some (name, behind) =>
        match skip behind with
        | ':' :: rest =>
          match readValue bound rest with
          | none => none
          | some (value, rest) =>
            match skip rest with
            | ',' :: more => readMembers bound (Dict.assign name value members) more
            | '\x7d' :: more => some (.object (Dict.assign name value members), more)
            | _ => none
        | _ => none
    | _ => none

end

/-- `json.loads` -/
def loads (text : List Char) : Option (Value reals.Carrier) :=
  match readValue reals (text.length + 1) text with
  | some (value, rest) => if skip rest = [] then some value else none
  | none => none

end

/-! ## Numbers -/

/-- The text does not go on with a digit. -/
def NoDigit (rest : List Char) : Prop := ∀ character ∈ rest.head?, isDigit character = false

theorem digits_span {digits rest : List Char} (all : ∀ digit ∈ digits, isDigit digit = true)
    (stops : NoDigit rest) :
    (digits ++ rest).takeWhile isDigit = digits ∧ (digits ++ rest).dropWhile isDigit = rest := by
  rw [List.takeWhile_append_of_pos all, List.dropWhile_append_of_pos all]
  cases rest with
  | nil => simp
  | cons first rest =>
    have none : isDigit first = false := stops first rfl
    simp [none]

theorem digitChar_digit {digit : Nat} (small : digit < 10) :
    isDigit (digitChar digit) = true ∧ (digitChar digit).toNat - 48 = digit ∧
      (digitChar digit = '0' → digit = 0) := by
  revert digit
  decide

/-- A number is read back. -/
theorem readNat_writeNat (number : Nat) : readNat (writeNat number) = number := by
  unfold readNat writeNat
  split
  case isTrue zero => rw [zero]; rfl
  case isFalse =>
    have folds : ∀ digits : List Nat, (∀ digit ∈ digits, digit < 10) →
        (digits.map digitChar).foldr (fun digit total => 10 * total + (digit.toNat - 48)) 0 =
          Nat.ofDigits 10 digits := by
      intro digits small
      induction digits with
      | nil => rfl
      | cons digit digits inductionHypothesis =>
        rw [List.map_cons, List.foldr_cons, Nat.ofDigits_cons, inductionHypothesis fun other member =>
          small other (List.mem_cons_of_mem _ member),
          (digitChar_digit (small digit List.mem_cons_self)).2.1, Nat.add_comm]
    rw [List.foldl_reverse, folds _ fun digit member => Nat.digits_lt_base (by decide) member,
      Nat.ofDigits_digits]

theorem writeNat_whole (number : Nat) : IsWhole (writeNat number) := by
  unfold writeNat
  split
  case isTrue => exact ⟨by simp, by simp [isDigit], fun _ => rfl⟩
  case isFalse positive =>
    have some : Nat.digits 10 number ≠ [] := Nat.digits_ne_nil_iff_ne_zero.mpr positive
    refine ⟨by simpa using some, ?_, ?_⟩
    · intro character member
      obtain ⟨digit, among, rfl⟩ := List.mem_map.mp (List.mem_reverse.mp member)
      exact (digitChar_digit (Nat.digits_lt_base (by decide) among)).1
    · intro head
      rw [List.head?_reverse, List.getLast?_map, List.getLast?_eq_some_getLast some,
        Option.map_some, Option.some.injEq] at head
      have small := Nat.digits_lt_base (by decide) (List.getLast_mem some)
      exact absurd ((digitChar_digit small).2.2 head) (Nat.getLast_digit_ne_zero 10 positive)

theorem writeNat_length {number : Nat} (small : number < 10 ^ Text.maxStrDigits) :
    (writeNat number).length ≤ Text.maxStrDigits := by
  unfold writeNat
  split
  · decide
  · rw [List.length_reverse, List.length_map]
    exact (Nat.digits_length_le_iff (by decide) number).mpr small

theorem splitWhole_append {whole rest : List Char} (is : IsWhole whole) (stops : NoDigit rest) :
    splitWhole (whole ++ rest) = some (whole, rest) := by
  obtain ⟨nonempty, all, zero⟩ := is
  obtain ⟨first, more, rfl⟩ := List.exists_cons_of_ne_nil nonempty
  unfold splitWhole
  rw [List.cons_append]
  split
  case h_1 rest' same =>
    simp only [List.cons.injEq] at same
    obtain ⟨rfl, rfl⟩ := same
    have only := (List.cons.inj (zero rfl)).2
    rw [only]
    rfl
  case h_2 =>
    obtain ⟨take, drop⟩ := digits_span all stops
    rw [List.cons_append] at take drop
    rw [take, drop, if_neg nonempty]

theorem splitFraction_append {fraction rest : List Char} (is : IsFraction fraction)
    (stops : NoDigit rest) (point : rest.head? ≠ some '.') :
    splitFraction (fraction ++ rest) = (fraction, rest) := by
  unfold splitFraction
  rcases is with rfl | ⟨digits, nonempty, all, rfl⟩
  · split
    case h_1 more same =>
      rw [List.nil_append] at same
      rw [same] at point
      exact absurd rfl point
    case h_2 => rfl
  · obtain ⟨take, drop⟩ := digits_span all stops
    rw [List.cons_append]
    simp only [take, drop, if_neg nonempty]

theorem splitSign_append {sign digits rest : List Char} (is : sign ∈ [[], ['-'], ['+']])
    (nonempty : digits ≠ []) (all : ∀ digit ∈ digits, isDigit digit = true) :
    splitSign (sign ++ (digits ++ rest)) = (sign, digits ++ rest) := by
  simp only [List.mem_cons, List.not_mem_nil, or_false] at is
  rcases is with rfl | rfl | rfl
  · obtain ⟨first, more, rfl⟩ := List.exists_cons_of_ne_nil nonempty
    have digit := all first List.mem_cons_self
    unfold splitSign
    rw [List.nil_append, List.cons_append]
    split
    case h_1 rest' same =>
      simp only [List.cons.injEq] at same
      rw [same.1] at digit
      exact absurd digit (by decide)
    case h_2 rest' same =>
      simp only [List.cons.injEq] at same
      rw [same.1] at digit
      exact absurd digit (by decide)
    case h_3 => rfl
  · rfl
  · rfl

theorem splitExponent_append {exponent rest : List Char} (is : IsExponent exponent)
    (stops : NoDigit rest) (mark : ∀ character ∈ rest.head?, character ∉ ['e', 'E']) :
    splitExponent (exponent ++ rest) = (exponent, rest) := by
  unfold splitExponent
  rcases is with rfl | ⟨letter, sign, digits, among, signs, nonempty, all, rfl⟩
  · cases rest with
    | nil => rfl
    | cons first more => exact if_neg fun both => mark first rfl both.1
  · obtain ⟨take, drop⟩ := digits_span all stops
    have same : letter :: (sign ++ digits) ++ rest = letter :: (sign ++ (digits ++ rest)) := by
      simp
    rw [same]
    simp only [splitSign_append signs nonempty all, take, drop]
    rw [if_pos ⟨among, nonempty⟩]

/-- What may follow a value. -/
def Ends (rest : List Char) : Prop :=
  ∀ character ∈ rest.head?, character ∈ [',', ']', '\x7d', '\x0a']

theorem Ends.unlike {rest : List Char} (ends : Ends rest) {accepted : Char → Bool}
    (none : ∀ character ∈ [',', ']', '\x7d', '\x0a'], accepted character = false) :
    ∀ character ∈ rest.head?, accepted character = false :=
  fun character head => none character (ends character head)

theorem Ends.noDigit {rest : List Char} (ends : Ends rest) : NoDigit rest :=
  ends.unlike (by simp [isDigit])

theorem Ends.noPoint {rest : List Char} (ends : Ends rest) : rest.head? ≠ some '.' := fun head =>
  absurd (ends '.' head) (by decide)

theorem Ends.noMark {rest : List Char} (ends : Ends rest) :
    ∀ character ∈ rest.head?, character ∉ ['e', 'E'] := by
  intro character head
  have unlike := @Ends.unlike _ ends (fun character => decide (character ∈ ['e', 'E']))
    (by simp) character head
  simpa using unlike

section
variable (reals : Reals) {rest : List Char}

theorem readUnsigned_whole (negative : Bool) {whole : List Char} (is : IsWhole whole)
    (short : whole.length ≤ Text.maxStrDigits) (ends : Ends rest) :
    readUnsigned reals negative (whole ++ rest) =
      some (.int (if negative then -(readNat whole : Int) else readNat whole), rest) := by
  have fraction := (@splitFraction_append []) (Or.inl rfl) ends.noDigit ends.noPoint
  have exponent := (@splitExponent_append []) (Or.inl rfl) ends.noDigit ends.noMark
  rw [List.nil_append] at fraction exponent
  unfold readUnsigned
  rw [splitWhole_append is ends.noDigit]
  dsimp only
  rw [fraction, exponent, if_pos ⟨rfl, rfl⟩, if_neg (Nat.not_lt.mpr short)]

theorem readUnsigned_real (negative : Bool) {whole fraction exponent : List Char}
    (is : IsWhole whole) (fractionIs : IsFraction fraction) (exponentIs : IsExponent exponent)
    (some : fraction ≠ [] ∨ exponent ≠ []) (ends : Ends rest) :
    readUnsigned reals negative (whole ++ (fraction ++ exponent) ++ rest) =
      Option.some (.real (reals.read ((if negative then ['-'] else []) ++
        (whole ++ (fraction ++ exponent)))), rest) := by
  have behindFraction : NoDigit (exponent ++ rest) ∧ (exponent ++ rest).head? ≠ Option.some '.' := by
    rcases exponentIs with rfl | ⟨mark, sign, digits, among, _, _, _, rfl⟩
    · exact ⟨ends.noDigit, ends.noPoint⟩
    · simp only [List.mem_cons, List.not_mem_nil, or_false] at among
      rcases among with rfl | rfl <;> exact ⟨by intro c h; cases h; decide, by simp⟩
  have behindWhole : NoDigit (fraction ++ (exponent ++ rest)) := by
    rcases fractionIs with rfl | ⟨digits, _, _, rfl⟩
    · exact behindFraction.1
    · intro character head
      cases head
      decide
  have together : whole ++ (fraction ++ exponent) ++ rest =
      whole ++ (fraction ++ (exponent ++ rest)) := by simp
  unfold readUnsigned
  rw [together, splitWhole_append is behindWhole]
  dsimp only
  rw [splitFraction_append fractionIs behindFraction.1 behindFraction.2,
    splitExponent_append exponentIs ends.noDigit ends.noMark]
  rw [if_neg fun both => some.elim (fun fraction => fraction both.1) fun exponent => exponent both.2]

/-- A text that begins with a digit is no name of a value and has no sign. -/
theorem readAtom_digit {text : List Char} {first : Char} (head : text.head? = some first)
    (digit : isDigit first = true) : readAtom reals text = readUnsigned reals false text := by
  obtain ⟨rest, rfl⟩ : ∃ rest, text = first :: rest := by
    cases text with
    | nil => cases head
    | cons other rest =>
      cases head
      exact ⟨rest, rfl⟩
  unfold readAtom
  split
  all_goals first
    | rfl
    | (next same => simp only [List.cons.injEq] at same; rw [same.1] at digit
                    exact absurd digit (by decide))

theorem whole_head {whole more : List Char} (is : IsWhole whole) :
    ∃ first, (whole ++ more).head? = some first ∧ isDigit first = true := by
  obtain ⟨first, others, rfl⟩ := List.exists_cons_of_ne_nil is.1
  exact ⟨first, rfl, is.2.1 first List.mem_cons_self⟩

/-- An integer is read back. -/
theorem readAtom_int {value : Int} (small : value.natAbs < 10 ^ Text.maxStrDigits)
    (ends : Ends rest) :
    readAtom reals (writeInt value ++ rest) = some (.int value, rest) := by
  cases value with
  | ofNat number =>
    obtain ⟨first, head, digit⟩ := @whole_head _ rest (writeNat_whole number)
    have read := readUnsigned_whole reals false (writeNat_whole number) (writeNat_length small) ends
    rw [writeInt, readAtom_digit reals head digit, read, readNat_writeNat]
    rfl
  | negSucc number =>
    have read := readUnsigned_whole reals true (writeNat_whole (number + 1))
      (writeNat_length small) ends
    rw [readNat_writeNat] at read
    exact read

/-- A float is read back. -/
theorem readAtom_real (value : reals.Carrier) (ends : Ends rest) :
    readAtom reals (reals.write value ++ rest) = some (.real value, rest) := by
  obtain ⟨sign, whole, fraction, exponent, signs, is, fractionIs, exponentIs, some, same⟩ :=
    reals.written value
  have back := reals.read_write value
  simp only [List.mem_cons, List.not_mem_nil, or_false] at signs
  rcases signs with rfl | rfl
  · have read := readUnsigned_real reals false is fractionIs exponentIs some ends
    obtain ⟨first, head, digit⟩ := @whole_head _ ((fraction ++ exponent) ++ rest) is
    rw [← List.append_assoc] at head
    rw [same, List.nil_append, readAtom_digit reals head digit, read]
    rw [same, List.nil_append] at back
    simp only [Bool.false_eq_true, if_false, List.nil_append, back]
  · have read := readUnsigned_real reals true is fractionIs exponentIs some ends
    rw [same] at back ⊢
    simp only [if_true] at read
    rw [back] at read
    exact read

end

/-! ## Texts -/

theorem hexValue_hexDigit {digit : Nat} (small : digit < 16) :
    hexValue (hexDigit digit) = some digit := by
  revert digit
  decide

theorem longEscape_shortEscape {character letter : Char}
    (short : shortEscape character = some letter) :
    longEscape letter = some character ∧ letter ≠ 'u' := by
  unfold shortEscape at short
  iterate 7
    split at short
    case isTrue same => cases short; exact ⟨by rw [same]; rfl, by decide⟩
  cases short

/-- One character is read back from its escape. -/
theorem readText_escape (character : Char) (rest : List Char) :
    readText (escape character ++ rest) =
      (readText rest).map fun read => (character :: read.1, read.2) := by
  unfold escape
  cases short : shortEscape character with
  | some letter =>
    obtain ⟨long, other⟩ := longEscape_shortEscape short
    dsimp only [List.cons_append, List.nil_append]
    rw [readText.eq_4 _ _ (fun _ _ _ _ _ same => (other same).elim), long]
  | none =>
    dsimp only
    split
    case isTrue control =>
      have code : hexCode '0' '0' (hexDigit (character.toNat / 16))
          (hexDigit (character.toNat % 16)) = some character.toNat := by
        unfold hexCode
        rw [hexValue_hexDigit (by omega), hexValue_hexDigit (by omega)]
        have zero : hexValue '0' = some 0 := by decide
        rw [zero]
        simp only [Option.bind_some, Option.map_some, Option.some.injEq]
        omega
      dsimp only [List.cons_append, List.nil_append]
      rw [readText.eq_3, code]
      dsimp only
      rw [if_neg (by omega), if_neg (by omega), Char.ofNat_toNat]
    case isFalse visible =>
      have plain : character ≠ '\x22' ∧ character ≠ '\x5c' := by
        constructor <;> rintro rfl <;> cases short
      rw [List.singleton_append, readText.eq_5 _ _ plain.1 (fun _ _ _ _ _ same => (plain.2 same).elim)
        (fun _ _ same => (plain.2 same).elim), if_neg (by simp [visible, plain.2])]

/-- A text is read back. -/
theorem readText_writeText (characters rest : List Char) :
    readText (writeText characters ++ rest) = some (characters, rest) := by
  unfold writeText
  induction characters with
  | nil => rfl
  | cons character characters inductionHypothesis =>
    rw [List.flatMap_cons, List.append_assoc, List.append_assoc, readText_escape,
      ← List.append_assoc, inductionHypothesis]
    rfl

/-! ## Values -/

/-- Nothing white stands in front. -/
theorem skip_cons {first : Char} (visible : isWhite first = false) (rest : List Char) :
    skip (first :: rest) = first :: rest :=
  List.dropWhile_cons_of_neg (by simp [visible])

section
variable (reals : Reals) {bound : Nat}

/-- Neither white nor an end of a text, a list or an object. -/
def startsAtom (character : Char) : Bool :=
  !isWhite character && character ∉ ['\x22', '[', '\x7b', ']', '\x7d']

theorem readValue_atom {text : List Char} {first : Char} (head : text.head? = some first)
    (atom : startsAtom first = true) : readValue reals (bound + 1) text = readAtom reals text := by
  obtain ⟨rest, rfl⟩ : ∃ rest, text = first :: rest := by
    cases text with
    | nil => cases head
    | cons other rest =>
      cases head
      exact ⟨rest, rfl⟩
  unfold startsAtom at atom
  simp only [List.mem_cons, List.not_mem_nil, or_false, Bool.and_eq_true, Bool.not_eq_true',
    decide_eq_true_eq, not_or] at atom
  obtain ⟨visible, one, two, three, _, _⟩ := atom
  rw [readValue, skip_cons visible]
  split
  case h_1 same => exact absurd (List.cons.inj same).1 one
  case h_2 same => exact absurd (List.cons.inj same).1 two
  case h_3 same => exact absurd (List.cons.inj same).1 three
  case h_4 => rfl

theorem digit_startsAtom {character : Char} (digit : isDigit character = true) :
    startsAtom character = true := by
  by_contra other
  have listed :
      character ∈ [' ', '\x09', '\x0a', '\x0d', '\x22', '[', '\x7b', ']', '\x7d'] := by
    simp [startsAtom, isWhite] at other
    simp only [List.mem_cons, List.not_mem_nil, or_false]
    tauto
  have none : ∀ character ∈ [' ', '\x09', '\x0a', '\x0d', '\x22', '[', '\x7b', ']', '\x7d'],
      isDigit character = false := by simp [isDigit]
  rw [none character listed] at digit
  cases digit

/-- The text of a number starts with a digit or a sign. -/
theorem sign_head {sign whole : List Char} (more : List Char) (signs : sign ∈ [[], ['-']])
    (is : IsWhole whole) : ∃ first, (sign ++ (whole ++ more)).head? = some first ∧
      startsAtom first = true := by
  simp only [List.mem_cons, List.not_mem_nil, or_false] at signs
  rcases signs with rfl | rfl
  · obtain ⟨first, head, digit⟩ := @whole_head _ more is
    exact ⟨first, head, digit_startsAtom digit⟩
  · exact ⟨'-', rfl, by decide⟩

theorem writeInt_head (value : Int) (more : List Char) :
    ∃ first, (writeInt value ++ more).head? = some first ∧ startsAtom first = true := by
  cases value with
  | ofNat number => exact (@sign_head []) more (by simp) (writeNat_whole number)
  | negSucc number => exact (@sign_head ['-']) more (by simp) (writeNat_whole (number + 1))

theorem writeReal_head (value : reals.Carrier) (more : List Char) :
    ∃ first, (reals.write value ++ more).head? = some first ∧ startsAtom first = true := by
  obtain ⟨sign, whole, fraction, exponent, signs, is, _, _, _, same⟩ := reals.written value
  rw [same, List.append_assoc, List.append_assoc]
  exact sign_head _ signs is

/-- The text of a value starts with a character that is neither white nor a closing one. -/
theorem write_head (value : Value reals.Carrier) :
    ∃ first more, write reals value = first :: more ∧ isWhite first = false ∧ first ≠ ']' ∧
      first ≠ '\x7d' := by
  have atom : ∀ text : List Char,
      (∃ first, (text ++ []).head? = some first ∧ startsAtom first = true) →
        ∃ first more, text = first :: more ∧ isWhite first = false ∧ first ≠ ']' ∧
          first ≠ '\x7d' := by
    rintro text ⟨first, head, starts⟩
    cases text with
    | nil => cases head
    | cons other more =>
      cases head
      simp [startsAtom] at starts
      exact ⟨first, more, rfl, starts.1, starts.2.2.2.2.1, starts.2.2.2.2.2⟩
  cases value with
  | null => exact ⟨_, _, rfl, by decide, by decide, by decide⟩
  | bool value => cases value <;> exact ⟨_, _, rfl, by decide, by decide, by decide⟩
  | int value => exact atom _ (writeInt_head value [])
  | real value => exact atom _ (writeReal_head reals value [])
  | text characters => exact ⟨_, _, rfl, by decide, by decide, by decide⟩
  | list items => exact ⟨_, _, rfl, by decide, by decide, by decide⟩
  | object members => exact ⟨_, _, rfl, by decide, by decide, by decide⟩

/-- Values whose texts the reader's bound suffices for are read back. -/
def ReadsValues (bound : Nat) : Prop :=
  ∀ (value : Value reals.Carrier) (rest : List Char), (write reals value).length ≤ bound →
    value.Proper → value.Printable → Ends rest →
      readValue reals bound (write reals value ++ rest) = some (value, rest)

/-- Up to the bound, items behind the first one are read back. -/
def ReadsItems (bound : Nat) : Prop :=
  ∀ (items read : List (Value reals.Carrier)) (value : Value reals.Carrier) (rest : List Char),
    (write reals value).length + (writeMoreItems reals items).length ≤ bound →
      ProperItems (value :: items) → PrintableItems (value :: items) →
        readItems reals bound read (write reals value ++ (writeMoreItems reals items ++ rest)) =
          some (.list (read ++ value :: items), rest)

/-- Up to the bound, members behind the first one are read back. -/
def ReadsMembers (bound : Nat) : Prop :=
  ∀ (members read : List (List Char × Value reals.Carrier)) (name : List Char)
    (value : Value reals.Carrier) (rest : List Char),
    (write reals value).length + (writeMoreMembers reals members).length ≤ bound →
      ((read ++ (name, value) :: members).map Prod.fst).Nodup →
        ProperMembers ((name, value) :: members) → PrintableMembers ((name, value) :: members) →
          readMembers reals bound read ('\x22' :: (writeText name ++
            ':' :: (write reals value ++ (writeMoreMembers reals members ++ rest)))) =
              some (.object (read ++ (name, value) :: members), rest)

/-- The text of a value is not empty. -/
theorem write_length (value : Value reals.Carrier) : 0 < (write reals value).length := by
  obtain ⟨first, more, same, _⟩ := write_head reals value
  rw [same]
  exact Nat.succ_pos _

theorem readsItems_succ (values : ReadsValues reals bound) (further : ReadsItems reals bound) :
    ReadsItems reals (bound + 1) := by
  intro items read value rest short proper printable
  have ends : Ends (writeMoreItems reals items ++ rest) := by
    intro character head
    cases items <;> cases head <;> decide
  have first := values value _ (by
    have tail : 0 < (writeMoreItems reals items).length := by cases items <;> simp [writeMoreItems]
    omega) proper.1 printable.1 ends
  rw [readItems, first]
  cases items with
  | nil => rfl
  | cons next items =>
    have later := further items (read ++ [value]) next rest (by
      have some := write_length reals value
      simp only [writeMoreItems, List.length_cons, List.length_append] at short
      omega) proper.2 printable.2
    simp only [writeMoreItems, List.cons_append, List.append_assoc] at later ⊢
    rw [skip_cons (by decide)]
    exact later

theorem readsMembers_succ (values : ReadsValues reals bound)
    (further : ReadsMembers reals bound) : ReadsMembers reals (bound + 1) := by
  intro members read name value rest short distinct proper printable
  have ends : Ends (writeMoreMembers reals members ++ rest) := by
    intro character head
    cases members <;> cases head <;> decide
  have first := values value _ (by
    have tail : 0 < (writeMoreMembers reals members).length := by
      cases members <;> simp [writeMoreMembers]
    omega) proper.1 printable.1 ends
  have absent : name ∉ read.map Prod.fst := by
    rw [List.map_append, List.nodup_append] at distinct
    intro member
    exact distinct.2.2 name member name (by simp) rfl
  have colon : skip (':' :: (write reals value ++ (writeMoreMembers reals members ++ rest))) =
      ':' :: (write reals value ++ (writeMoreMembers reals members ++ rest)) :=
    skip_cons (by decide) _
  rw [readMembers, skip_cons (by decide)]
  simp only [readText_writeText, colon, first]
  rw [Dict.assign_absent absent]
  cases members with
  | nil => rfl
  | cons next members =>
    obtain ⟨nextName, nextValue⟩ := next
    have later := further members (read ++ [(name, value)]) nextName nextValue rest (by
      have some := write_length reals value
      simp only [writeMoreMembers, List.length_cons, List.length_append] at short
      omega) (by simpa using distinct) proper.2 printable.2
    simp only [writeMoreMembers, List.cons_append, List.append_assoc] at later ⊢
    rw [skip_cons (by decide)]
    exact later

theorem readsValues_succ (items : ReadsItems reals bound) (members : ReadsMembers reals bound) :
    ReadsValues reals (bound + 1) := by
  intro value rest short proper printable ends
  cases value with
  | null => rfl
  | bool value => cases value <;> rfl
  | int value =>
    obtain ⟨first, head, atom⟩ := writeInt_head value rest
    rw [← readAtom_int reals printable ends]
    exact readValue_atom reals head atom
  | real value =>
    obtain ⟨first, head, atom⟩ := writeReal_head reals value rest
    rw [← readAtom_real reals value ends]
    exact readValue_atom reals head atom
  | text characters =>
    rw [write, List.cons_append, readValue, skip_cons (by decide)]
    simp only [readText_writeText, Option.map_some]
  | list values =>
    cases values with
    | nil => rfl
    | cons value values =>
      obtain ⟨first, more, starts, visible, other, _⟩ := write_head reals value
      have read := items values [] value rest (by
        simp only [write, writeItems, List.length_cons, List.length_append] at short
        omega) proper printable
      rw [write, writeItems, List.cons_append, readValue, skip_cons (by decide)]
      rw [List.append_assoc]
      rw [starts, List.cons_append] at read ⊢
      simp only [skip_cons visible]
      split
      case h_1 same => exact absurd (List.cons.inj same).1 other
      case h_2 => exact read
  | object fields =>
    cases fields with
    | nil => rfl
    | cons field fields =>
      obtain ⟨name, value⟩ := field
      have read := members fields [] name value rest (by
        simp only [write, writeMembers, List.length_cons, List.length_append] at short
        omega) proper.1 proper.2 printable
      rw [write, writeMembers, List.cons_append, readValue, skip_cons (by decide)]
      have starts : ∀ more, skip ('\x22' :: more) = '\x22' :: more := skip_cons (by decide)
      simp only [List.append_assoc, List.cons_append, starts] at read ⊢
      exact read

/-- Every text that was written is read back, in front of whatever may follow it. -/
theorem reads (bound : Nat) :
    ReadsValues reals bound ∧ ReadsItems reals bound ∧ ReadsMembers reals bound := by
  induction bound with
  | zero =>
    refine ⟨fun value _ short => ?_, fun _ _ value _ short => ?_, fun _ _ _ value _ short => ?_⟩
    all_goals
      have some := write_length reals value
      omega
  | succ bound inductionHypothesis =>
    obtain ⟨values, items, members⟩ := inductionHypothesis
    exact ⟨readsValues_succ reals items members, readsItems_succ reals values items,
      readsMembers_succ reals values members⟩

/-- `json.loads` gives back what `json.dumps` was given. -/
theorem loads_write {value : Value reals.Carrier} (proper : value.Proper)
    (printable : value.Printable) : loads reals (write reals value) = some value := by
  have read := (reads reals ((write reals value).length + 1)).1 value [] (Nat.le_succ _) proper
    printable fun _ head => by cases head
  rw [List.append_nil] at read
  unfold loads
  rw [read]
  rfl

end

end JsonText
