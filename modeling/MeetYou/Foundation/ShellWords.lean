import Mathlib.Data.List.Infix

/-!
# The words of a shell command

A POSIX shell reads a command line from left to right and cuts it into words, operators and
line breaks. Quotes, an escaping backslash and expansions keep characters together. A
comment reaches to the end of its line. A command substitution starts at a backquote or at a
dollar sign with an opening parenthesis. It may hold any script, so reading it once is noted
and what stands inside is not read further. Two opening parentheses are an arithmetic
expansion, unless it does not end with two closing ones.

Reading goes character by character. The state holds the quotes and expansions that are
open, a character that waits for the next one, and the word that is being read. A word is
given with its quotes taken off.

A simple command is one line of words alone, the first of them no reserved word.
-/

namespace ShellWords

/-- A word without its quotes, and whether it had any. -/
structure Word where
  text : List Char
  quoted : Bool
  deriving DecidableEq

/-- What a text is cut into. -/
inductive Token
  | word (word : Word)
  | operator (character : Char)
  | newline
  | substitution
  | unclosed
  deriving DecidableEq

/-- What is open around a character. An arithmetic expansion counts the parentheses that
are open within it. -/
inductive Context
  | comment
  | single
  | double
  | brace
  | arithmetic (depth : Nat)
  deriving DecidableEq

/-- What was read that waits for the next character: a backslash, a dollar sign, that with
an opening parenthesis, or the first parenthesis that closes an arithmetic expansion. -/
inductive Pending
  | nothing
  | escape
  | dollar
  | paren
  | close
  deriving DecidableEq

/-- Where the lexer stands: in which quotes, behind what, and in which word. -/
structure State where
  stack : List Context
  pending : Pending
  word : Option Word

/-- Between two words. -/
def between : State := ⟨[], .nothing, none⟩

def singleQuote : Char := '\x27'
def doubleQuote : Char := '\x22'
def backslash : Char := '\x5c'
def backquote : Char := '\x60'
def openBrace : Char := '\x7b'
def closeBrace : Char := '\x7d'
def lineBreak : Char := '\x0a'

/-- A space or a tab. -/
def isBlank (character : Char) : Bool := character = ' ' || character = '\x09'

/-- The characters operators are made of. -/
def isOperator (character : Char) : Bool := character ∈ ['&', ';', '|', '<', '>', '(', ')']

/-- The characters join the word that is being read, or start one. -/
def State.add (state : State) (characters : List Char) (quoted : Bool) : State :=
  { state with
    word := match state.word with
      | none => some ⟨characters, quoted⟩
      | some word => some ⟨word.text ++ characters, word.quoted || quoted⟩ }

/-- The word that is being read ends. -/
def State.flush (state : State) : List Token × State :=
  match state.word with
  | none => ([], state)
  | some word => ([.word word], { state with word := none })

/-- The word ends in front of another token. -/
def State.cut (state : State) (token : Token) : List Token × State :=
  (state.flush.1 ++ [token], state.flush.2)

/-- A character outside of quotes and expansions. -/
def bare (state : State) (character : Char) : List Token × State :=
  if character = backslash then ([], { state with pending := .escape })
  else if character = singleQuote then
    ([], { state.add [] true with stack := .single :: state.stack })
  else if character = doubleQuote then
    ([], { state.add [] true with stack := .double :: state.stack })
  else if character = '$' then ([], { state with pending := .dollar })
  else if character = backquote then ([.substitution], state)
  else if character = lineBreak then state.cut .newline
  else if isBlank character then state.flush
  else if isOperator character then state.cut (.operator character)
  else if character = '#' ∧ state.word.isNone then
    ([], { state with stack := .comment :: state.stack })
  else ([], state.add [character] false)

/-- A character in double quotes or in an expansion that does not end them. -/
def within (state : State) (character : Char) : List Token × State :=
  if character = backslash then ([], { state with pending := .escape })
  else if character = '$' then ([], { state with pending := .dollar })
  else if character = backquote then ([.substitution], state)
  else ([], state.add [character] false)

/-- A character when nothing waits for it. -/
def read (state : State) (character : Char) : List Token × State :=
  match state.stack with
  | [] => bare state character
  | .comment :: rest =>
      if character = lineBreak then ({ state with stack := rest } : State).cut .newline
      else ([], state)
  | .single :: rest =>
      if character = singleQuote then ([], { state with stack := rest })
      else ([], state.add [character] false)
  | .double :: rest =>
      if character = doubleQuote then ([], { state with stack := rest })
      else within state character
  | .brace :: rest =>
      if character = closeBrace then ([], { state.add [character] false with stack := rest })
      else if character = doubleQuote then
        ([], { state.add [] true with stack := .double :: state.stack })
      else if character = singleQuote ∧ .double ∉ rest then
        ([], { state.add [] true with stack := .single :: state.stack })
      else within state character
  | .arithmetic depth :: rest =>
      if character = '(' then
        ([], { state.add [character] false with stack := .arithmetic (depth + 1) :: rest })
      else if character = ')' then
        match depth with
        | 0 => ([], { state with pending := .close })
        | depth + 1 =>
            ([], { state.add [character] false with stack := .arithmetic depth :: rest })
      else within state character

/-- The character behind a backslash. An escaped line break joins two lines. -/
def unescape (state : State) (character : Char) : State :=
  if character = lineBreak then state
  else match state.stack with
    | .double :: _ | .arithmetic _ :: _ =>
        if character ∈ ['$', backquote, doubleQuote, backslash] then state.add [character] true
        else state.add [backslash, character] true
    | _ => state.add [character] true

/-- A step of the reading: the tokens that are complete, and the state. -/
def step (state : State) (character : Char) : List Token × State :=
  let ready := { state with pending := .nothing }
  match state.pending with
  | .nothing => read state character
  | .escape => ([], unescape ready character)
  | .dollar =>
      if character = '(' then ([], { state with pending := .paren })
      else if character = openBrace then
        ([], { ready.add ['$', openBrace] false with stack := .brace :: state.stack })
      else read (ready.add ['$'] false) character
  | .paren =>
      if character = '(' then
        ([], { ready.add ['$', '(', '('] false with stack := .arithmetic 0 :: state.stack })
      else ([.substitution], ready)
  | .close =>
      if character = ')' then
        ([], { ready.add [')', ')'] false with stack := state.stack.tail })
      else ([.substitution], ready)

/-- The end of the text. A backslash or a dollar sign in front of it stands for itself. -/
def finish (state : State) : List Token :=
  let ended := match state.pending with
    | .escape => state.add [backslash] false
    | .dollar => state.add ['$'] false
    | _ => state
  let rest := if state.pending = .paren ∨ state.pending = .close ∨
      ¬ (state.stack = [] ∨ state.stack = [.comment]) then [.unclosed] else []
  ended.flush.1 ++ rest

/-- The tokens from a state on. -/
def lexFrom (state : State) : List Char → List Token
  | [] => finish state
  | character :: rest => (step state character).1 ++ lexFrom (step state character).2 rest

/-- The tokens of a text. -/
def lex (text : List Char) : List Token := lexFrom between text

/-! ## Simple commands -/

/-- The words with a meaning of their own in front of a command. -/
def reservedWords : List (List Char) :=
  [['!'], [openBrace], [closeBrace], ['c', 'a', 's', 'e'], ['d', 'o'], ['d', 'o', 'n', 'e'],
    ['e', 'l', 'i', 'f'], ['e', 'l', 's', 'e'], ['e', 's', 'a', 'c'], ['f', 'i'],
    ['f', 'o', 'r'], ['i', 'f'], ['i', 'n'], ['t', 'h', 'e', 'n'], ['u', 'n', 't', 'i', 'l'],
    ['w', 'h', 'i', 'l', 'e']]

/-- The word is reserved in front of a command. -/
def Word.reserved (word : Word) : Prop := word.quoted = false ∧ word.text ∈ reservedWords

instance (word : Word) : Decidable word.reserved := inferInstanceAs (Decidable (_ ∧ _))

/-- The tokens are one simple command with the given words: line breaks around a single line
of words, the first of which is not reserved. -/
structure SimpleCommand (tokens : List Token) (words : List Word) : Prop where
  line : ∃ front behind : Nat, tokens =
    List.replicate front .newline ++ words.map .word ++ List.replicate behind .newline
  nonempty : words ≠ []
  unreserved : ∀ word ∈ words.head?, ¬ word.reserved

/-! ## Reading words -/

/-- The character has no meaning to the shell. -/
def Ordinary (character : Char) : Prop :=
  character ∉ [backslash, singleQuote, doubleQuote, '$', backquote, lineBreak, '#'] ∧
    isBlank character = false ∧ isOperator character = false

instance (character : Char) : Decidable (Ordinary character) :=
  inferInstanceAs (Decidable (_ ∧ _))

/-- The characters that have a meaning. -/
def meaningful : List Char :=
  [backslash, singleQuote, doubleQuote, '$', backquote, lineBreak, '#', ' ', '\x09', '&', ';', '|',
    '<', '>', '(', ')']

theorem ordinary_of_unlisted {character : Char} (unlisted : character ∉ meaningful) :
    Ordinary character := by
  unfold meaningful at unlisted
  simp only [List.mem_cons, List.not_mem_nil, or_false, not_or] at unlisted
  unfold Ordinary isBlank isOperator
  simp [unlisted]

/-- A property that no character with a meaning has belongs to ordinary characters. -/
theorem ordinary_of {property : Char → Bool} {character : Char}
    (here : property character = true) (nowhere : meaningful.any property = false) :
    Ordinary character :=
  ordinary_of_unlisted fun member =>
    absurd here (List.any_eq_false.mp nowhere character member)

/-- Inside of a word outside of quotes. -/
def inWord (text : List Char) : State := ⟨[], .nothing, some ⟨text, false⟩⟩

theorem bare_ordinary (state : State) {character : Char} (ordinary : Ordinary character) :
    bare state character = ([], state.add [character] false) := by
  obtain ⟨unlisted, blank, operator⟩ := ordinary
  simp only [List.mem_cons, List.not_mem_nil, or_false, not_or] at unlisted
  obtain ⟨one, two, three, four, five, six, seven⟩ := unlisted
  unfold bare
  simp only [one, two, three, four, five, six, seven, blank, operator, if_false, false_and]
  simp

theorem step_inWord (text : List Char) {character : Char} (ordinary : Ordinary character) :
    step (inWord text) character = ([], inWord (text ++ [character])) :=
  bare_ordinary (inWord text) ordinary

theorem step_between {character : Char} (ordinary : Ordinary character) :
    step between character = ([], inWord [character]) :=
  bare_ordinary between ordinary

/-- Ordinary characters go on with a word. -/
theorem lexFrom_inWord (text : List Char) {more : List Char}
    (ordinary : ∀ character ∈ more, Ordinary character) (rest : List Char) :
    lexFrom (inWord text) (more ++ rest) = lexFrom (inWord (text ++ more)) rest := by
  induction more generalizing text with
  | nil => simp
  | cons character more inductionHypothesis =>
    rw [List.cons_append, lexFrom, step_inWord text (ordinary character List.mem_cons_self),
      List.nil_append, inductionHypothesis _ fun other member =>
        ordinary other (List.mem_cons_of_mem _ member), List.append_assoc]
    rfl

/-- Ordinary characters are a word. -/
theorem lexFrom_word {word : List Char} (nonempty : word ≠ [])
    (ordinary : ∀ character ∈ word, Ordinary character) (rest : List Char) :
    lexFrom between (word ++ rest) = lexFrom (inWord word) rest := by
  cases word with
  | nil => exact absurd rfl nonempty
  | cons first more =>
    rw [List.cons_append, lexFrom, step_between (ordinary first List.mem_cons_self),
      List.nil_append, lexFrom_inWord [first] fun other member =>
        ordinary other (List.mem_cons_of_mem _ member)]
    rfl

theorem blank_unlike {character : Char} (blank : isBlank character = true) :
    character ≠ backslash ∧ character ≠ singleQuote ∧ character ≠ doubleQuote ∧ character ≠ '$' ∧
      character ≠ backquote ∧ character ≠ lineBreak := by
  unfold isBlank at blank
  simp only [Bool.or_eq_true, decide_eq_true_eq] at blank
  rcases blank with rfl | rfl <;> decide

theorem bare_blank (state : State) {character : Char} (blank : isBlank character = true) :
    bare state character = state.flush := by
  obtain ⟨one, two, three, four, five, six⟩ := blank_unlike blank
  unfold bare
  simp only [one, two, three, four, five, six, blank, if_false, if_true]

/-- Blanks between words are skipped. -/
theorem lexFrom_blanks {gap : List Char} (blank : ∀ character ∈ gap, isBlank character = true)
    (rest : List Char) : lexFrom between (gap ++ rest) = lexFrom between rest := by
  induction gap with
  | nil => rfl
  | cons character gap inductionHypothesis =>
    have skipped : step between character = ([], between) :=
      bare_blank between (blank character List.mem_cons_self)
    rw [List.cons_append, lexFrom, skipped, List.nil_append]
    exact inductionHypothesis fun other member => blank other (List.mem_cons_of_mem _ member)

/-- A blank ends a word. -/
theorem lexFrom_inWord_blank (text : List Char) {character : Char}
    (blank : isBlank character = true) (rest : List Char) :
    lexFrom (inWord text) (character :: rest) =
      .word ⟨text, false⟩ :: lexFrom between rest := by
  have ended : step (inWord text) character = ([.word ⟨text, false⟩], between) :=
    bare_blank (inWord text) blank
  rw [lexFrom, ended]
  rfl

/-- A line break ends a word and the line. -/
theorem lexFrom_inWord_newline (text rest : List Char) :
    lexFrom (inWord text) (lineBreak :: rest) =
      .word ⟨text, false⟩ :: .newline :: lexFrom between rest := by
  have ended : step (inWord text) lineBreak =
      ([.word ⟨text, false⟩, .newline], between) := rfl
  rw [lexFrom, ended]
  rfl

theorem lexFrom_inWord_end (text : List Char) :
    lexFrom (inWord text) [] = [.word ⟨text, false⟩] := rfl

/-! ## What a word keeps -/

/-- A word that is being read is a front of the next word, where a word comes next. -/
def Continues (text : List Char) (result : List Token × State) : Prop :=
  match result.1 with
  | [] => ∃ word, result.2.word = some word ∧ text <+: word.text
  | .word word :: _ => text <+: word.text
  | .newline :: _ => False
  | _ => True

section
variable {state : State} {word : Word} {text : List Char}

theorem continues_same (reading : state.word = some word) (front : text <+: word.text)
    {next : State} (same : next.word = state.word) : Continues text ([], next) :=
  ⟨word, same.trans reading, front⟩

theorem continues_add (reading : state.word = some word) (front : text <+: word.text)
    {characters : List Char} {quoted : Bool} {next : State}
    (same : next.word = (state.add characters quoted).word) : Continues text ([], next) := by
  refine ⟨⟨word.text ++ characters, word.quoted || quoted⟩, ?_, front.trans ⟨characters, rfl⟩⟩
  rw [same]
  simp only [State.add, reading]

theorem continues_cut (reading : state.word = some word) (front : text <+: word.text)
    (token : Token) : Continues text (state.cut token) := by
  unfold State.cut State.flush
  simp only [reading]
  exact front

theorem bare_continues (reading : state.word = some word) (front : text <+: word.text)
    (character : Char) : Continues text (bare state character) := by
  unfold bare
  split
  · exact continues_same reading front rfl
  split
  · exact continues_add reading front rfl
  split
  · exact continues_add reading front rfl
  split
  · exact continues_same reading front rfl
  split
  · trivial
  split
  · exact continues_cut reading front .newline
  split
  · unfold State.flush
    simp only [reading]
    exact front
  split
  · exact continues_cut reading front (.operator character)
  split
  · exact continues_same reading front rfl
  · exact continues_add reading front rfl

theorem within_continues (reading : state.word = some word) (front : text <+: word.text)
    (character : Char) : Continues text (within state character) := by
  unfold within
  split
  · exact continues_same reading front rfl
  split
  · exact continues_same reading front rfl
  split
  · trivial
  · exact continues_add reading front rfl

theorem read_continues (reading : state.word = some word) (front : text <+: word.text)
    (character : Char) : Continues text (read state character) := by
  unfold read
  split
  case h_1 => exact bare_continues reading front character
  case h_2 =>
    split
    case isTrue rest _ _ =>
      have ended : ({ state with stack := rest } : State).word = some word := reading
      exact continues_cut ended front .newline
    · exact continues_same reading front rfl
  case h_3 =>
    split
    · exact continues_same reading front rfl
    · exact continues_add reading front rfl
  case h_4 =>
    split
    · exact continues_same reading front rfl
    · exact within_continues reading front character
  case h_5 =>
    split
    · exact continues_add reading front rfl
    split
    · exact continues_add reading front rfl
    split
    · exact continues_add reading front rfl
    · exact within_continues reading front character
  case h_6 =>
    split
    · exact continues_add reading front rfl
    split
    · split
      · exact continues_same reading front rfl
      · exact continues_add reading front rfl
    · exact within_continues reading front character

theorem unescape_continues (reading : state.word = some word) (front : text <+: word.text)
    (character : Char) : Continues text ([], unescape state character) := by
  unfold unescape
  split
  · exact continues_same reading front rfl
  split
  · split
    · exact continues_add reading front rfl
    · exact continues_add reading front rfl
  · split
    · exact continues_add reading front rfl
    · exact continues_add reading front rfl
  · exact continues_add reading front rfl

/-- A step goes on with the word, or ends it. -/
theorem step_continues (reading : state.word = some word) (front : text <+: word.text)
    (character : Char) : Continues text (step state character) := by
  have ready : ({ state with pending := .nothing } : State).word = some word := reading
  unfold step
  dsimp only
  split
  · exact read_continues reading front character
  · exact unescape_continues ready front character
  · split
    · exact continues_same reading front rfl
    split
    · exact continues_add ready front rfl
    · have dollar : (({ state with pending := .nothing } : State).add ['$'] false).word =
          some ⟨word.text ++ ['$'], word.quoted || false⟩ := by
        simp only [State.add, reading]
      exact read_continues dollar (front.trans ⟨['$'], rfl⟩) character
  · split
    · exact continues_add ready front rfl
    · trivial
  · split
    · exact continues_add ready front rfl
    · trivial

/-- At the end the word is complete. -/
theorem finish_continues (reading : state.word = some word) (front : text <+: word.text)
    {first : Word} {rest : List Token} (tokens : finish state = .word first :: rest) :
    text <+: first.text := by
  have ended : ∀ (characters : List Char) {unclosed : List Token},
      (state.add characters false).flush.1 ++ unclosed = .word first :: rest →
        text <+: first.text := by
    intro characters unclosed same
    simp only [State.add, reading, State.flush, List.cons_append, List.cons.injEq,
      Token.word.injEq] at same
    rw [← same.1]
    exact front.trans ⟨characters, rfl⟩
  unfold finish at tokens
  dsimp only at tokens
  cases waits : state.pending with
  | escape => exact ended [backslash] (by simpa only [waits] using tokens)
  | dollar => exact ended ['$'] (by simpa only [waits] using tokens)
  | _ =>
    simp only [waits, State.flush, reading, List.cons_append, List.cons.injEq,
      Token.word.injEq] at tokens
    rw [← tokens.1]
    exact front

end

/-- What was read of a word is a front of it. -/
theorem lexFrom_continues {state : State} {word : Word} (reading : state.word = some word)
    {text : List Char} (front : text <+: word.text) {more : List Char} {first : Word}
    {rest : List Token} (tokens : lexFrom state more = .word first :: rest) :
    text <+: first.text := by
  induction more generalizing state word with
  | nil => exact finish_continues reading front tokens
  | cons character more inductionHypothesis =>
    have continues := step_continues reading front character
    rw [lexFrom] at tokens
    generalize step state character = result at continues tokens
    obtain ⟨emitted, next⟩ := result
    cases emitted with
    | nil =>
      obtain ⟨longer, still, further⟩ := continues
      exact inductionHypothesis still further tokens
    | cons token others =>
      rw [List.cons_append, List.cons.injEq] at tokens
      obtain ⟨rfl, _⟩ := tokens
      exact continues

/-- A word that is being read comes before every line break. -/
theorem lexFrom_head {state : State} {word : Word} (reading : state.word = some word)
    (more : List Char) : ∃ token rest, lexFrom state more = token :: rest ∧ token ≠ .newline := by
  induction more generalizing state word with
  | nil =>
    have some : ∀ characters, (state.add characters false).word.isSome := fun _ => by
      simp only [State.add, reading, Option.isSome_some]
    unfold lexFrom finish
    dsimp only
    generalize ends : (match state.pending with
        | .escape => state.add [backslash] false
        | .dollar => state.add ['$'] false
        | _ => state) = ended
    have complete : ended.word.isSome := by
      rw [← ends]
      split <;> first | exact some _ | rw [reading]; rfl
    obtain ⟨last, same⟩ := Option.isSome_iff_exists.mp complete
    unfold State.flush
    simp only [same]
    exact ⟨.word last, _, rfl, by simp⟩
  | cons character more inductionHypothesis =>
    have continues := step_continues reading List.nil_prefix character
    rw [lexFrom]
    generalize step state character = result at continues
    obtain ⟨emitted, next⟩ := result
    cases emitted with
    | nil =>
      obtain ⟨longer, still, _⟩ := continues
      exact inductionHypothesis still
    | cons token others =>
      refine ⟨token, others ++ lexFrom next more, rfl, ?_⟩
      rintro rfl
      exact continues

/-- Words and line breaks, with no word behind a line break. -/
theorem line_of_tokens {tokens : List Token}
    (words : ∀ token ∈ tokens, token = .newline ∨ ∃ word, token = .word word)
    (oneLine : tokens.Pairwise fun earlier later => earlier = .newline → later = .newline) :
    ∃ (line : List Word) (behind : Nat),
      tokens = line.map .word ++ List.replicate behind .newline := by
  induction tokens with
  | nil => exact ⟨[], 0, rfl⟩
  | cons token tokens inductionHypothesis =>
    obtain ⟨first, rest⟩ := List.pairwise_cons.mp oneLine
    rcases words token List.mem_cons_self with rfl | ⟨word, rfl⟩
    · refine ⟨[], tokens.length + 1, ?_⟩
      rw [List.map_nil, List.nil_append, List.replicate_succ,
        List.eq_replicate_iff.mpr ⟨rfl, fun other member => first other member rfl⟩]
      simp
    · obtain ⟨line, behind, same⟩ := inductionHypothesis
        (fun other member => words other (List.mem_cons_of_mem _ member)) rest
      exact ⟨word :: line, behind, by rw [same]; rfl⟩

/-! ## Operators -/

/-- Every operator that is complete is the given character, and an operator's. -/
def OperatorsAre (character : Char) (tokens : List Token) : Prop :=
  ∀ operator, .operator operator ∈ tokens → operator = character ∧ isOperator character = true

theorem flush_operators (state : State) (character : Char) :
    OperatorsAre character state.flush.1 := by
  intro operator member
  unfold State.flush at member
  split at member
  · cases member
  · cases List.mem_singleton.mp member

theorem cut_operators (state : State) {token : Token} {character : Char}
    (own : ∀ operator, token = .operator operator →
      operator = character ∧ isOperator character = true) :
    OperatorsAre character (state.cut token).1 := by
  intro operator member
  rcases List.mem_append.mp member with word | last
  · exact flush_operators state character operator word
  · exact own operator (List.mem_singleton.mp last).symm

theorem nothing_operators (character : Char) : OperatorsAre character [] :=
  fun _ member => (List.not_mem_nil member).elim

theorem substitution_operators (character : Char) : OperatorsAre character [.substitution] :=
  fun _ member => by cases List.mem_singleton.mp member

theorem bare_operators (state : State) (character : Char) :
    OperatorsAre character (bare state character).1 := by
  unfold bare
  split
  · exact nothing_operators character
  split
  · exact nothing_operators character
  split
  · exact nothing_operators character
  split
  · exact nothing_operators character
  split
  · exact substitution_operators character
  split
  · exact cut_operators state fun _ same => by cases same
  split
  · exact flush_operators state character
  split
  case isTrue operator =>
    exact cut_operators state fun _ same => ⟨(Token.operator.inj same).symm, operator⟩
  split
  · exact nothing_operators character
  · exact nothing_operators character

theorem within_operators (state : State) (character : Char) :
    OperatorsAre character (within state character).1 := by
  unfold within
  split
  · exact nothing_operators character
  split
  · exact nothing_operators character
  split
  · exact substitution_operators character
  · exact nothing_operators character

theorem read_operators (state : State) (character : Char) :
    OperatorsAre character (read state character).1 := by
  unfold read
  split
  case h_1 => exact bare_operators state character
  case h_2 =>
    split
    · exact cut_operators _ fun _ same => by cases same
    · exact nothing_operators character
  case h_3 => split <;> exact nothing_operators character
  case h_4 =>
    split
    · exact nothing_operators character
    · exact within_operators state character
  case h_5 =>
    split
    · exact nothing_operators character
    split
    · exact nothing_operators character
    split
    · exact nothing_operators character
    · exact within_operators state character
  case h_6 =>
    split
    · exact nothing_operators character
    split
    · split <;> exact nothing_operators character
    · exact within_operators state character

theorem step_operators (state : State) (character : Char) :
    OperatorsAre character (step state character).1 := by
  unfold step
  dsimp only
  split
  · exact read_operators state character
  · exact nothing_operators character
  · split
    · exact nothing_operators character
    split
    · exact nothing_operators character
    · exact read_operators _ character
  · split
    · exact nothing_operators character
    · exact substitution_operators character
  · split
    · exact nothing_operators character
    · exact substitution_operators character

theorem finish_operators (state : State) (operator : Char) : .operator operator ∉ finish state := by
  intro member
  unfold finish at member
  dsimp only at member
  rcases List.mem_append.mp member with word | last
  · -- a flush gives words only
    have any := flush_operators _ 'a' operator word
    have other := flush_operators _ 'b' operator word
    exact absurd (any.1.symm.trans other.1) (by decide)
  · split at last
    · cases List.mem_singleton.mp last
    · cases last

/-- Every operator is a character of the text, and an operator's. -/
theorem operator_mem {state : State} {text : List Char} {operator : Char}
    (member : .operator operator ∈ lexFrom state text) :
    operator ∈ text ∧ isOperator operator = true := by
  induction text generalizing state with
  | nil => exact absurd member (finish_operators state operator)
  | cons character text inductionHypothesis =>
    rcases List.mem_append.mp member with here | later
    · obtain ⟨rfl, meaning⟩ := step_operators state character operator here
      exact ⟨List.mem_cons_self, meaning⟩
    · exact (inductionHypothesis later).imp_left (List.mem_cons_of_mem _)

end ShellWords
