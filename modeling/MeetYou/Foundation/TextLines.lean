import Mathlib.Data.List.SplitBy
import MeetYou.Foundation.Text

/-!
# Lines of a text

A text is split at its line ends, and a line is wrapped to a width: it is cut into words and
the white space between them, as many of these as fit make a line, and a word that fits no line
is cut itself. White space at the end of a line and at the start of a later one is dropped.

Wrapping goes round by round. Each round takes something from the text, so the number of its
characters bounds the rounds.
-/

namespace TextLines

open Text

/-- `splitlines` -/
def splitlinesFrom (line : List Char) : List Char → List (List Char)
  | [] => if line = [] then [] else [line.reverse]
  | '\r' :: '\n' :: rest => line.reverse :: splitlinesFrom [] rest
  | character :: rest =>
    if character.toNat ∈ [0x0a, 0x0b, 0x0c, 0x0d, 0x1c, 0x1d, 0x1e, 0x85, 0x2028, 0x2029] then
      line.reverse :: splitlinesFrom [] rest
    else splitlinesFrom (character :: line) rest

/-- `expandtabs`, from a column on. -/
def expandTabs : Nat → List Char → List Char
  | _, [] => []
  | column, character :: rest =>
    if character = '\t' then
      List.replicate (8 - column % 8) ' ' ++ expandTabs (column + (8 - column % 8)) rest
    else if character = '\n' ∨ character = '\r' then character :: expandTabs 0 rest
    else character :: expandTabs (column + 1) rest

/-! ## Wrapping -/

/-- The white space a text is cut at. -/
def isBlank (character : Char) : Bool :=
  character ∈ [' ', '\t', '\n', '\x0b', '\x0c', '\r']

/-- The words of a text and the white space between them. -/
def chunksOf (text : List Char) : List (List Char) :=
  text.splitBy fun character other => isBlank character == isBlank other

/-- The first chunks that fit into a line together, and the others. -/
def fill (width used : Nat) : List (List Char) → List (List Char) × List (List Char)
  | [] => ([], [])
  | chunk :: rest =>
    if used + chunk.length ≤ width then
      (chunk :: (fill width (used + chunk.length) rest).1,
        (fill width (used + chunk.length) rest).2)
    else ([], chunk :: rest)

/-- The chunks of one line; a word that is too long for any line is cut at the width, where
nothing of it may be left on the line. -/
def takeLine (width : Nat) (chunks : List (List Char)) :
    List (List Char) × List (List Char) :=
  let filled := fill width 0 chunks
  match filled.2 with
  | [] => filled
  | chunk :: rest =>
    let left := width - filled.1.flatten.length
    if width < chunk.length then
      (filled.1 ++ [chunk.take left], chunk.drop left :: rest)
    else filled

/-- White space at the start of a line that is not the first one is dropped. -/
def dropFirst (later : Bool) : List (List Char) → List (List Char)
  | [] => []
  | chunk :: rest => if later && decide (trim chunk = []) then rest else chunk :: rest

/-- White space at the end of a line is dropped. -/
def dropLast (line : List (List Char)) : List (List Char) :=
  if line.getLast?.any fun chunk => decide (trim chunk = []) then line.dropLast else line

/-- `_wrap_chunks`, for so many rounds. -/
def wrapChunks (width : Nat) : Nat → Bool → List (List Char) → List (List Char)
  | 0, _, _ => []
  | rounds + 1, later, chunks =>
    if chunks = [] then []
    else
      let line := takeLine width (dropFirst later chunks)
      let kept := dropLast line.1
      if kept = [] then wrapChunks width rounds later line.2
      else kept.flatten :: wrapChunks width rounds true line.2

/-- `textwrap.wrap` with long words cut, without breaks at hyphens and with its white space
kept. -/
def wrap (width : Nat) (text : List Char) : List (List Char) :=
  let expanded := expandTabs 0 text
  wrapChunks width expanded.length false (chunksOf expanded)

end TextLines
