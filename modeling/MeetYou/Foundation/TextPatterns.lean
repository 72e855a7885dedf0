import MeetYou.Foundation.Text

/-!
# Search patterns

Regular expressions as far as they ask whether a text holds a match: classes of characters,
repetitions of one class, the two ends of the text and the boundaries of words. A match is
looked for at every position. The position keeps the character in front of it, which the
start of the text and a word boundary ask for. What comes behind a part of a pattern is a
test on the position that the part ends at, so every way to match is tried.

Which characters belong to words is a table of the source language that is not written out
here; it is a parameter.
-/

/-- A regular expression. -/
inductive Pattern
  | empty
  | character (accepted : Char → Bool)
  | many (accepted : Char → Bool)
  | start
  | stop
  | boundary
  | both (first second : Pattern)
  | either (left right : Pattern)

namespace Pattern

/-- A test on a position: the character in front of it and the rest of the text. -/
abbrev Test := Option Char → List Char → Bool

/-- Any number of accepted characters in front of a position that passes the test. -/
def repeats (accepted : Char → Bool) (next : Test) (before : Option Char) : List Char → Bool
  | [] => next before []
  | first :: rest =>
      next before (first :: rest) || (accepted first && repeats accepted next (some first) rest)

section
variable (isWord : Char → Bool)

/-- The pattern matches from the position on, up to one that passes the test. -/
def accepts : Pattern → Test → Test
  | empty, next, before, text => next before text
  | character accepted, next, _, text =>
      match text with
      | [] => false
      | first :: rest => accepted first && next (some first) rest
  | many accepted, next, before, text => repeats accepted next before text
  | start, next, before, text => before.isNone && next before text
  | stop, next, before, text => (text = [] || text = ['\x0a']) && next before text
  | boundary, next, before, text =>
      before.any isWord != text.head?.any isWord && next before text
  | both first second, next, before, text => first.accepts (second.accepts next) before text
  | either left right, next, before, text =>
      left.accepts next before text || right.accepts next before text

/-- A match starts at the position or behind it. -/
def searchFrom (pattern : Pattern) (before : Option Char) : List Char → Bool
  | [] => pattern.accepts isWord (fun _ _ => true) before []
  | first :: rest =>
      pattern.accepts isWord (fun _ _ => true) before (first :: rest) ||
        searchFrom pattern (some first) rest

/-- `re.search`. -/
def search (pattern : Pattern) (text : List Char) : Bool := searchFrom isWord pattern none text

/-- `re.match`. -/
def matchesStart (pattern : Pattern) (text : List Char) : Bool :=
  pattern.accepts isWord (fun _ _ => true) none text

end

/-- The text itself. -/
def literal (text : List Char) : Pattern :=
  text.foldr (fun wanted rest => both (character (· == wanted)) rest) empty

/-- The letters agree when case is ignored. Beside the two forms of a letter these are the
Kelvin sign, the long `s` and the two forms of `i` that have a dot too much or too few. -/
def sameLetter (wanted found : Char) : Bool :=
  found.toLower == wanted.toLower ||
    (wanted.toLower == 'k' && found.toNat == 0x212a) ||
    (wanted.toLower == 's' && found.toNat == 0x17f) ||
    (wanted.toLower == 'i' && (found.toNat == 0x130 || found.toNat == 0x131))

/-- The text up to letter case. -/
def letters (text : List Char) : Pattern :=
  text.foldr (fun wanted rest => both (character (sameLetter wanted)) rest) empty

/-- One of the patterns. -/
def oneOf (patterns : List Pattern) : Pattern :=
  patterns.foldr either (character fun _ => false)

/-- The pattern or nothing. -/
def optional (pattern : Pattern) : Pattern := either pattern empty

/-- A white space. -/
def space : Pattern := character Text.isSpace

theorem searchFrom_either (isWord : Char → Bool) (left right : Pattern) (before : Option Char)
    (text : List Char) :
    (either left right).searchFrom isWord before text =
      (left.searchFrom isWord before text || right.searchFrom isWord before text) := by
  induction text generalizing before with
  | nil => rfl
  | cons first rest inductionHypothesis =>
    rw [searchFrom, inductionHypothesis, searchFrom, searchFrom, accepts]
    simp only [Bool.or_assoc, Bool.or_left_comm]

/-- A search for a class finds any character of it. -/
theorem searchFrom_character (isWord : Char → Bool) (accepted : Char → Bool)
    (before : Option Char) (text : List Char) :
    (character accepted).searchFrom isWord before text = text.any accepted := by
  induction text generalizing before with
  | nil => rfl
  | cons first rest inductionHypothesis =>
    rw [searchFrom, inductionHypothesis, accepts, List.any_cons, Bool.and_true]

end Pattern
