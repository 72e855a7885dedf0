import MeetYou.CommandPolicy

/-!
# What the white list admits

A command is admitted when a shell reads it as one simple command that an entry of the white
list leads, letter case aside as the policy compares. A safe command is admitted exactly when
the shell reads no ampersand, parenthesis or command substitution outside of quotes, closes
every quote, meets no word behind a line break and no reserved word in front, and takes the
white space that the policy matched for the blanks of an entry.

The guard rules the other operators out, and the white list settles which words stand in
front, as long as the shell cuts them where the policy does. Where it does not, a shorter
entry may still lead the command: the words that both cut alike are led by the same entries.
-/

namespace CommandPolicy

open Text ShellWords

/-- One simple command whose words an entry leads. -/
def Admitted (whitelist : List Entry) (command : List Char) : Prop :=
  ∃ words, SimpleCommand (lex command) words ∧
    ∃ entry ∈ whitelist, entry.words ≠ [] ∧
      entry.words.map lowered <+: words.map fun word => lowered word.text

/-- What the guard leaves open about the shell's reading of a command. -/
structure Readable (tokens : List Token) : Prop where
  unjoined : ∀ operator ∈ ['&', '(', ')'], Token.operator operator ∉ tokens
  unsubstituted : .substitution ∉ tokens
  closed : .unclosed ∉ tokens
  oneLine : tokens.Pairwise fun earlier later => earlier = .newline → later = .newline
  unreserved : ∀ word rest, tokens = .word word :: rest → ¬ word.reserved

/-- The shell cuts the first words of the text where the white space is. -/
def Spaced : Nat → List Char → Prop
  | 0, _ => True
  | 1, text => ∀ character ∈ (gap text).head?, isBlank character = true ∨ character = lineBreak
  | more + 2, text => (∀ character ∈ gap text, isBlank character = true) ∧
      Spaced (more + 1) (behind text)

/-! ## Characters of words -/

theorem plain_ordinary {character : Char} (plain : plainCharacter character = true) :
    Ordinary character := ordinary_of plain (by decide)

theorem plain_visible {character : Char} (plain : plainCharacter character = true) :
    isSpace character = false := by
  by_contra space
  have codes := space_codes (by simpa using space)
  unfold plainCharacter at plain
  rcases Bool.or_eq_true_iff.mp plain with letter | listed
  · have range : (65 ≤ character.toNat ∧ character.toNat ≤ 90) ∨
        (97 ≤ character.toNat ∧ character.toNat ≤ 122) ∨
        (48 ≤ character.toNat ∧ character.toNat ≤ 57) := by
      simpa [isAlphanum_iff, isUpper_iff, isLower_iff, Char.isDigit,
        UInt32.le_iff_toNat_le] using letter
    omega
  · simp only [List.mem_cons, List.not_mem_nil, or_false, decide_eq_true_eq] at listed
    rcases listed with rfl | rfl | rfl | rfl | rfl | rfl | rfl | rfl <;> revert codes <;> decide

/-- A capital is a plain character. -/
theorem upper_plain {character : Char} (upper : character.isUpper) :
    plainCharacter character = true := by
  simp [plainCharacter, isAlphanum_iff, upper]

/-- What lowers to plain characters is ordinary. -/
theorem ordinary_of_lowered {character : Char}
    (plain : ∀ lower ∈ lowerCharacter character, plainCharacter lower = true) :
    Ordinary character := by
  unfold lowerCharacter at plain
  split at plain
  case isTrue kelvin =>
    have same : character = Char.ofNat 0x212a := by rw [← kelvin, Char.ofNat_toNat]
    rw [same]
    decide
  case isFalse =>
    split at plain
    · exact absurd (plain (Char.ofNat 0x307) (by simp)) (by decide)
    · have lower := plain character.toLower (by simp)
      rcases toLower_cases character with same | ⟨upper, _⟩
      · exact plain_ordinary (same ▸ lower)
      · exact plain_ordinary (upper_plain upper)

/-- White space that is neither a blank nor a line break. -/
def oddSpace (character : Char) : Bool :=
  isSpace character && !isBlank character && character != lineBreak

/-- It belongs to a word for the shell. -/
theorem odd_ordinary {character : Char} (odd : oddSpace character = true) : Ordinary character :=
  ordinary_of odd (by decide)

theorem space_cases {character : Char} (space : isSpace character = true) :
    isBlank character = true ∨ character = lineBreak ∨ oddSpace character = true := by
  by_cases blank : isBlank character = true
  · exact Or.inl blank
  by_cases line : character = lineBreak
  · exact Or.inr (Or.inl line)
  · exact Or.inr (Or.inr (by simp [oddSpace, space, blank, line]))

theorem lexFrom_between_blank {character : Char} (blank : isBlank character = true)
    (rest : List Char) : lexFrom between (character :: rest) = lexFrom between rest :=
  @lexFrom_blanks [character] (by simpa using blank) rest

theorem lexFrom_between_odd {character : Char} (odd : oddSpace character = true)
    (rest : List Char) :
    lexFrom between (character :: rest) = lexFrom (inWord [character]) rest :=
  @lexFrom_word [character] (List.cons_ne_nil _ _)
    (fun other member => by rw [List.mem_singleton.mp member]; exact odd_ordinary odd) rest

theorem lexFrom_inWord_odd {character : Char} (odd : oddSpace character = true)
    (text rest : List Char) :
    lexFrom (inWord text) (character :: rest) = lexFrom (inWord (text ++ [character])) rest :=
  @lexFrom_inWord text [character]
    (fun other member => by rw [List.mem_singleton.mp member]; exact odd_ordinary odd) rest

/-! ## Words of entries -/

/-- A word that an entry can have. -/
structure PlainWord (word : List Char) : Prop where
  nonempty : word ≠ []
  plain : ∀ character ∈ word, plainCharacter character = true

theorem Entry.plainWord {entry : Entry} {word : List Char} (member : word ∈ entry.words) :
    PlainWord word := by
  obtain ⟨nonempty, visible⟩ := wordsOf_visible (trim_trimmed entry.1) member
  refine ⟨nonempty, fun character inside => ?_⟩
  obtain ⟨shown, among⟩ := visible character inside
  have stored : character ∈ entry.1 :=
    (List.dropWhile_sublist isSpace).subset ((List.rdropWhile_prefix isSpace _).subset among)
  rcases entry.2 character stored with plain | space
  · exact plain
  · rw [space] at shown
    cases shown

theorem lowerCharacter_plain {character lower : Char} (plain : plainCharacter character = true)
    (member : lower ∈ lowerCharacter character) : plainCharacter lower = true := by
  unfold lowerCharacter at member
  split at member
  · rw [List.mem_singleton.mp member]
    decide
  split at member
  case isTrue dotted =>
    have same : character = Char.ofNat 0x130 := by rw [← dotted, Char.ofNat_toNat]
    rw [same] at plain
    exact absurd plain (by decide)
  case isFalse =>
    rw [List.mem_singleton.mp member]
    rcases toLower_cases character with same | ⟨_, small⟩
    · rw [same]
      exact plain
    · simp [plainCharacter, isAlphanum_iff, small]

section
variable {word other : List Char}

/-- A text with the lower case of a plain word is ordinary. -/
theorem PlainWord.ordinary (plain : PlainWord word) (same : lowered word = lowered other) :
    other ≠ [] ∧ ∀ character ∈ other, Ordinary character := by
  constructor
  · rintro rfl
    exact lowered_ne_nil plain.nonempty same
  · intro character member
    apply ordinary_of_lowered
    intro lower comes
    have inside : lower ∈ lowered word := by
      rw [same]
      exact List.mem_flatMap.mpr ⟨character, member, comes⟩
    obtain ⟨source, sourceMember, sourceComes⟩ := List.mem_flatMap.mp inside
    exact lowerCharacter_plain (plain.plain source sourceMember) sourceComes

/-- A text with the lower case of a plain word holds no white space. -/
theorem PlainWord.unspaced (plain : PlainWord word) (same : lowered word = lowered other)
    {character : Char} (member : character ∈ other) : isSpace character = false := by
  by_contra space
  have inside : character ∈ lowered word := by
    rw [same]
    exact mem_lowered member (by simpa using space)
  have shown := lowered_visible (fun letter letterMember =>
    plain_visible (plain.plain letter letterMember)) inside
  rw [shown] at space
  exact space rfl

end

/-! ## The words the shell reads -/

/-- A text is read from its first word, when that is ordinary. -/
theorem lex_firstWord {text : List Char} (nonempty : firstWord text ≠ [])
    (ordinary : ∀ character ∈ firstWord text, Ordinary character) :
    lex text = lexFrom (inWord (firstWord text)) (gap text ++ behind text) := by
  conv_lhs => rw [lex, ← parts text]
  exact lexFrom_word nonempty ordinary _

/-- The words the policy counts for an entry are the first words the shell reads, as long as
the shell cuts the text there. -/
theorem shell_words {text : List Char} {words : List (List Char)} (trimmed : Trimmed text)
    (plain : ∀ word ∈ words, PlainWord word)
    (leads : words.map lowered <+: (wordsOf text).map lowered) (spaced : Spaced words.length text) :
    ∃ (line : List Word) (rest : List Token), lex text = line.map .word ++ rest ∧
      words.map lowered = line.map fun word => lowered word.text := by
  induction words generalizing text with
  | nil => exact ⟨[], lex text, rfl, rfl⟩
  | cons word words inductionHypothesis =>
    have some : text ≠ [] := by
      rintro rfl
      simp [wordsOf_nil] at leads
    rw [wordsOf_trimmed trimmed some, List.map_cons, List.map_cons, List.cons_prefix_cons] at leads
    obtain ⟨same, further⟩ := leads
    obtain ⟨nonempty, ordinary⟩ := (plain word List.mem_cons_self).ordinary same
    have reads := lex_firstWord nonempty ordinary
    cases words with
    | nil =>
      have single : [word].map lowered =
          [(⟨firstWord text, false⟩ : Word)].map fun word => lowered word.text := by
        rw [List.map_singleton, List.map_singleton, same]
      cases shape : gap text with
      | nil =>
        rw [shape, behind_of_gap shape] at reads
        exact ⟨_, [], reads.trans (lexFrom_inWord_end _), single⟩
      | cons first rest =>
        rw [shape] at reads
        rcases spaced first (by rw [shape]; rfl) with blank | rfl
        · exact ⟨_, _, reads.trans (lexFrom_inWord_blank _ blank _), single⟩
        · exact ⟨_, _, reads.trans (lexFrom_inWord_newline _ _), single⟩
    | cons second words =>
      obtain ⟨blanks, later⟩ := spaced
      obtain ⟨line, rest, tokens, lines⟩ := inductionHypothesis (behind_trimmed trimmed)
        (fun other member => plain other (List.mem_cons_of_mem _ member)) further later
      cases shape : gap text with
      | nil =>
        rw [behind_of_gap shape] at further
        simp [wordsOf_nil] at further
      | cons first others =>
        rw [shape] at reads blanks
        refine ⟨⟨firstWord text, false⟩ :: line, rest, ?_, ?_⟩
        · rw [reads, List.cons_append, lexFrom_inWord_blank _ (blanks first List.mem_cons_self),
            lexFrom_blanks fun other member => blanks other (List.mem_cons_of_mem _ member),
            ← lex, tokens]
          rfl
        · rw [List.map_cons, same, lines]
          rfl

/-- The ways a gap begins. -/
theorem gap_cases (text : List Char) :
    gap text = [] ∨ ∃ first rest, gap text = first :: rest ∧
      (isBlank first = true ∨ first = lineBreak ∨ oddSpace first = true) := by
  cases shape : gap text with
  | nil => exact Or.inl rfl
  | cons first rest =>
    have space : isSpace first = true := (@gap_space text) (by simp [shape])
    exact Or.inr ⟨first, rest, rfl, space_cases space⟩

section
variable {spaces word : List Char}

/-- A gap in front of an ordinary word does not end the text. -/
theorem gap_token (space : ∀ character ∈ spaces, isSpace character = true) (nonempty : word ≠ [])
    (ordinary : ∀ character ∈ word, Ordinary character) (rest : List Char) :
    ∃ token ∈ lexFrom between (spaces ++ (word ++ rest)), token ≠ .newline := by
  have reading : ∀ text more, ∃ token ∈ lexFrom (inWord text) more, token ≠ .newline := by
    intro text more
    obtain ⟨token, others, same, other⟩ := (@lexFrom_head (inWord text)) rfl more
    exact ⟨token, by rw [same]; exact List.mem_cons_self, other⟩
  induction spaces with
  | nil =>
    rw [List.nil_append, lexFrom_word nonempty ordinary]
    exact reading word rest
  | cons first spaces inductionHypothesis =>
    have further := inductionHypothesis fun other member =>
      space other (List.mem_cons_of_mem _ member)
    rcases space_cases (space first List.mem_cons_self) with blank | rfl | odd
    · rw [List.cons_append, lexFrom_between_blank blank]
      exact further
    · obtain ⟨token, member, other⟩ := further
      exact ⟨token, List.mem_cons_of_mem _ member, other⟩
    · rw [List.cons_append, lexFrom_between_odd odd]
      exact reading [first] _

/-- How the shell reads a gap in front of an ordinary word: as blanks, as the end of a line
that is not the last, or as the start of a word. -/
theorem gap_reading (space : ∀ character ∈ spaces, isSpace character = true)
    (nonempty : word ≠ []) (ordinary : ∀ character ∈ word, Ordinary character)
    (rest : List Char) :
    (∀ character ∈ spaces, isBlank character = true) ∨
      (∃ tokens, lexFrom between (spaces ++ (word ++ rest)) = .newline :: tokens ∧
        ∃ token ∈ tokens, token ≠ .newline) ∨
      ∃ odd more, oddSpace odd = true ∧
        lexFrom between (spaces ++ (word ++ rest)) = lexFrom (inWord [odd]) more := by
  induction spaces with
  | nil => exact Or.inl fun _ member => (List.not_mem_nil member).elim
  | cons first spaces inductionHypothesis =>
    have later : ∀ character ∈ spaces, isSpace character = true := fun other member =>
      space other (List.mem_cons_of_mem _ member)
    rcases space_cases (space first List.mem_cons_self) with blank | rfl | odd
    · rw [List.cons_append, lexFrom_between_blank blank]
      exact (inductionHypothesis later).imp_left fun blanks =>
        List.forall_mem_cons.mpr ⟨blank, blanks⟩
    · exact Or.inr (Or.inl ⟨_, rfl, gap_token later nonempty ordinary rest⟩)
    · exact Or.inr (Or.inr ⟨first, _, odd, lexFrom_between_odd odd _⟩)

end

/-- A plain word does not lead a word with white space in it. -/
theorem PlainWord.not_odd {word text front : List Char} {odd : Char} (plain : PlainWord word)
    (same : lowered word = lowered text) (begins : front ++ [odd] <+: text)
    (space : oddSpace odd = true) : False := by
  have inside : odd ∈ text := begins.subset (List.mem_append_right _ List.mem_cons_self)
  have shown := plain.unspaced same inside
  unfold oddSpace at space
  rw [shown] at space
  cases space

/-- Words that lead both the text and the shell's reading of it are cut alike, or the shell's
first words are led by fewer words, which are cut alike. -/
theorem spaced_or_leads {text : List Char} {words others : List (List Char)} {line : List Word}
    {rest : List Token} (trimmed : Trimmed text) (plain : ∀ word ∈ words, PlainWord word)
    (leads : words.map lowered <+: (wordsOf text).map lowered)
    (otherPlain : ∀ word ∈ others, PlainWord word) (otherSome : others ≠ [])
    (reads : lex text = line.map .word ++ rest)
    (otherLeads : others.map lowered <+: line.map fun word => lowered word.text)
    (oneLine : (lex text).Pairwise fun earlier later => earlier = .newline → later = .newline) :
    Spaced words.length text ∨
      (others.map lowered <+: (wordsOf text).map lowered ∧ Spaced others.length text) := by
  induction words generalizing text others line with
  | nil => exact Or.inl trivial
  | cons word words inductionHypothesis =>
    have some : text ≠ [] := by
      rintro rfl
      simp [wordsOf_nil] at leads
    have cut := wordsOf_trimmed trimmed some
    rw [cut, List.map_cons, List.map_cons, List.cons_prefix_cons] at leads
    obtain ⟨same, further⟩ := leads
    obtain ⟨nonempty, ordinary⟩ := (plain word List.mem_cons_self).ordinary same
    have starts := lex_firstWord nonempty ordinary
    obtain ⟨other, more, rfl⟩ := List.exists_cons_of_ne_nil otherSome
    have otherWord := otherPlain other List.mem_cons_self
    cases line with
    | nil => simp at otherLeads
    | cons first line =>
    rw [List.map_cons, List.map_cons, List.cons_prefix_cons] at otherLeads
    obtain ⟨otherSame, otherFurther⟩ := otherLeads
    rcases gap_cases text with none | ⟨space, spaces, shape, begins⟩
    · -- the text is one word
      rw [behind_of_gap none, wordsOf_nil, List.map_nil, List.prefix_nil, List.map_eq_nil_iff]
        at further
      subst further
      left
      intro character head
      rw [none] at head
      cases head
    rw [shape, List.cons_append] at starts
    have ends : isBlank space = true ∨ space = lineBreak := by
      rcases begins with blank | line | odd
      · exact Or.inl blank
      · exact Or.inr line
      · -- the shell's word goes on with white space
        rw [lexFrom_inWord_odd odd] at starts
        have longer := (@lexFrom_continues (inWord (firstWord text ++ [space]))) rfl
          List.prefix_rfl (starts.symm.trans reads)
        exact (otherWord.not_odd otherSame longer odd).elim
    have single : Spaced 1 text := by
      intro character head
      rw [shape] at head
      cases head
      exact ends
    cases words with
    | nil => exact Or.inl single
    | cons second words =>
    have behindTrimmed := behind_trimmed trimmed
    have behindSome : behind text ≠ [] := by
      intro empty
      rw [empty] at further
      simp [wordsOf_nil] at further
    obtain ⟨secondSome, secondOrdinary⟩ : firstWord (behind text) ≠ [] ∧
        ∀ character ∈ firstWord (behind text), Ordinary character := by
      have secondLeads := further
      rw [wordsOf_trimmed behindTrimmed behindSome, List.map_cons, List.map_cons,
        List.cons_prefix_cons] at secondLeads
      exact (plain second (by simp)).ordinary secondLeads.1
    have gapSpaces : ∀ character ∈ spaces, isSpace character = true := fun character member =>
      (@gap_space text) (by rw [shape]; exact List.mem_cons_of_mem _ member)
    rcases ends with blank | rfl
    case inr =>
      -- a word would stand behind a line break
      obtain ⟨token, member, unlike⟩ := gap_token gapSpaces secondSome secondOrdinary
        (gap (behind text) ++ behind (behind text))
      rw [parts] at member
      rw [starts, lexFrom_inWord_newline] at oneLine
      have later := (List.pairwise_cons.mp (List.pairwise_cons.mp oneLine).2).1 token member rfl
      exact absurd later unlike
    rw [lexFrom_inWord_blank _ blank] at starts
    have tokens := starts.symm.trans reads
    rw [List.map_cons, List.cons_append, List.cons.injEq, Token.word.injEq] at tokens
    obtain ⟨rfl, tokens⟩ := tokens
    by_cases last : more = []
    · -- the other words end where both end the word
      subst last
      right
      refine ⟨?_, single⟩
      rw [cut, List.map_singleton, List.map_cons, List.cons_prefix_cons]
      exact ⟨otherSame, List.nil_prefix⟩
    obtain ⟨third, others, rfl⟩ := List.exists_cons_of_ne_nil last
    have reading := gap_reading gapSpaces secondSome secondOrdinary
      (gap (behind text) ++ behind (behind text))
    rw [parts] at reading
    rcases reading with blanks | ⟨broken, same, token, member, unlike⟩ | ⟨odd, tail, is, same⟩
    · -- both go on behind the gap
      rw [lexFrom_blanks blanks] at tokens starts
      have oneLineBehind : (lex (behind text)).Pairwise
          fun earlier later => earlier = .newline → later = .newline := by
        rw [starts] at oneLine
        exact (List.pairwise_cons.mp oneLine).2
      have whole : ∀ character ∈ gap text, isBlank character = true := by
        rw [shape]
        exact List.forall_mem_cons.mpr ⟨blank, blanks⟩
      refine (inductionHypothesis behindTrimmed
        (fun word member => plain word (List.mem_cons_of_mem _ member)) further
        (fun word member => otherPlain word (List.mem_cons_of_mem _ member)) last tokens
        otherFurther oneLineBehind).imp (fun spaced => ⟨whole, spaced⟩) ?_
      rintro ⟨leads, spaced⟩
      refine ⟨?_, whole, spaced⟩
      rw [cut]
      exact List.cons_prefix_cons.mpr ⟨otherSame, leads⟩
    · -- a word would stand behind a line break
      rw [starts, same] at oneLine
      have later := (List.pairwise_cons.mp (List.pairwise_cons.mp oneLine).2).1 token member rfl
      exact absurd later unlike
    · -- the shell's next word begins with white space
      cases line with
      | nil => simp at otherFurther
      | cons next line =>
        rw [List.map_cons, List.map_cons, List.cons_prefix_cons] at otherFurther
        have begins := (@lexFrom_continues (inWord [odd])) rfl List.prefix_rfl
          (same.symm.trans tokens)
        have plain := otherPlain third (by simp)
        exact (@PlainWord.not_odd _ _ [] _ plain otherFurther.1 begins is).elim

/-! ## Admitted commands -/

/-- A simple command that begins with a word is one line. -/
theorem simple_line {tokens : List Token} {words : List Word}
    (simple : SimpleCommand tokens words) {token : Token} {rest : List Token}
    (begins : tokens = token :: rest) (word : token ≠ .newline) :
    ∃ behind, tokens = words.map .word ++ List.replicate behind .newline := by
  obtain ⟨front, behind, same⟩ := simple.line
  cases front with
  | zero => exact ⟨behind, same⟩
  | succ front =>
    rw [begins, List.replicate_succ] at same
    simp only [List.cons_append, List.cons.injEq] at same
    exact absurd same.1 word

theorem line_readable {words : List Word} (behind : Nat)
    (unreserved : ∀ word ∈ words.head?, ¬ word.reserved) (nonempty : words ≠ []) :
    Readable (words.map .word ++ List.replicate behind .newline) := by
  have only : ∀ token ∈ words.map Token.word ++ List.replicate behind .newline,
      token = .newline ∨ ∃ word, token = .word word := by
    intro token member
    rcases List.mem_append.mp member with inside | last
    · obtain ⟨word, _, rfl⟩ := List.mem_map.mp inside
      exact Or.inr ⟨word, rfl⟩
    · exact Or.inl (List.eq_of_mem_replicate last)
  refine ⟨fun operator _ member => ?_, fun member => ?_, fun member => ?_, ?_, ?_⟩
  · rcases only _ member with same | ⟨_, same⟩ <;> cases same
  · rcases only _ member with same | ⟨_, same⟩ <;> cases same
  · rcases only _ member with same | ⟨_, same⟩ <;> cases same
  · refine List.pairwise_append.mpr ⟨?_, ?_, ?_⟩
    · exact List.pairwise_map.mpr (List.pairwise_of_forall fun _ _ same => by cases same)
    · exact List.pairwise_replicate.mpr (Or.inr fun _ => rfl)
    · exact fun _ _ token member _ => List.eq_of_mem_replicate member
  · intro word rest same
    cases words with
    | nil => exact absurd rfl nonempty
    | cons first words =>
      simp only [List.map_cons, List.cons_append, List.cons.injEq, Token.word.injEq] at same
      exact same.1 ▸ unreserved first rfl

/-- The first words of a line of words. -/
theorem line_leads {words line : List Word} {rest : List Token} {behind : Nat}
    (same : words.map Token.word ++ rest = line.map .word ++ List.replicate behind .newline) :
    words <+: line := by
  induction words generalizing line with
  | nil => exact List.nil_prefix
  | cons word words inductionHypothesis =>
    cases line with
    | nil =>
      have member : Token.word word ∈ List.replicate behind Token.newline := by
        rw [List.map_nil, List.nil_append] at same
        rw [← same]
        exact List.mem_cons_self
      cases List.eq_of_mem_replicate member
    | cons first line =>
      simp only [List.map_cons, List.cons_append, List.cons.injEq, Token.word.injEq] at same
      exact List.cons_prefix_cons.mpr ⟨same.1, inductionHypothesis same.2⟩

section
variable {isWord : Char → Bool} {dangerous : List Char → List Char → Option String}

/-- A command that Core runs under a white list is admitted exactly when the shell reads the
rest of it as words and cuts the words of a matching entry where the policy does. -/
theorem execCoreCmd_admitted {enabled : Bool} {policy : Policy} {cmd command : List Char}
    (whitelisting : policy.readMode = "whitelist")
    (runs : execCoreCmd isWord dangerous enabled (some policy) cmd = .ok command) :
    Admitted policy.whitelist command ↔
      Readable (lex command) ∧
        ∃ entry ∈ policy.whitelist, whitelistMatches command [entry] true = true ∧
          Spaced entry.words.length command := by
  obtain ⟨trimmed, some, guarded, listed⟩ := execCoreCmd_ok whitelisting runs
  have single : ∀ entry : Entry,
      whitelistMatches command [entry] true = true ↔ leadsWords entry command := by
    intro entry
    rw [whitelistMatches_iff trimmed some]
    simp
  obtain ⟨matched, matchedMember, matchedSome, matchedLeads⟩ :=
    (whitelistMatches_iff trimmed some _).mp listed
  have plain : ∀ entry : Entry, ∀ word ∈ entry.words, PlainWord word :=
    fun entry word member => Entry.plainWord member
  constructor
  · rintro ⟨words, simple, entry, member, entrySome, entryLeads⟩
    -- the matched entry's first word is the first thing the shell reads
    obtain ⟨token, rest, begins, word⟩ : ∃ token rest, lex command = token :: rest ∧
        token ≠ .newline := by
      obtain ⟨first, more, shape⟩ := List.exists_cons_of_ne_nil matchedSome
      rw [shape, wordsOf_trimmed trimmed some, List.map_cons, List.map_cons,
        List.cons_prefix_cons] at matchedLeads
      obtain ⟨nonempty, ordinary⟩ :=
        (plain matched first (by rw [shape]; exact List.mem_cons_self)).ordinary matchedLeads.1
      rw [lex_firstWord nonempty ordinary]
      exact lexFrom_head rfl _
    obtain ⟨behind, line⟩ := simple_line simple begins word
    have readable : Readable (lex command) := by
      rw [line]
      exact line_readable behind simple.unreserved simple.nonempty
    refine ⟨readable, ?_⟩
    rcases spaced_or_leads trimmed (plain matched) matchedLeads (plain entry) entrySome line
      entryLeads readable.oneLine with spaced | ⟨leads, spaced⟩
    · exact ⟨matched, matchedMember, (single matched).mpr ⟨matchedSome, matchedLeads⟩, spaced⟩
    · exact ⟨entry, member, (single entry).mpr ⟨entrySome, leads⟩, spaced⟩
  · rintro ⟨readable, entry, member, found, spaced⟩
    obtain ⟨entrySome, leads⟩ := (single entry).mp found
    obtain ⟨first, rest, tokens, same⟩ := shell_words trimmed (plain entry) leads spaced
    have only : ∀ token ∈ lex command, token = .newline ∨ ∃ word, token = .word word := by
      intro token inside
      cases token with
      | word word => exact Or.inr ⟨word, rfl⟩
      | newline => exact Or.inl rfl
      | substitution => exact absurd inside readable.unsubstituted
      | unclosed => exact absurd inside readable.closed
      | operator character =>
        obtain ⟨among, meaning⟩ := operator_mem inside
        have unguardable : character ∈ ['&', '(', ')'] := by
          have unguarded := guarded character among
          unfold isOperator at meaning
          simp only [List.mem_cons, List.not_mem_nil, or_false, not_or,
            decide_eq_true_eq] at meaning unguarded ⊢
          tauto
        exact absurd inside (readable.unjoined character unguardable)
    obtain ⟨line, behind, shape⟩ := line_of_tokens only readable.oneLine
    have front : first <+: line := line_leads (tokens.symm.trans shape)
    have firstSome : first ≠ [] := by
      rintro rfl
      simp only [List.map_nil, List.map_eq_nil_iff] at same
      exact entrySome same
    have lineSome : line ≠ [] := by
      rintro rfl
      exact firstSome (List.prefix_nil.mp front)
    refine ⟨line, ⟨⟨0, behind, shape⟩, lineSome, ?_⟩, entry, member, entrySome, ?_⟩
    · intro word head
      cases line with
      | nil => cases head
      | cons other line =>
        cases head
        exact readable.unreserved _ _ shape
    · rw [same]
      exact front.map _

end

/-- The test of a text for an entry. -/
theorem plain_of_all {text : List Char}
    (every : (text.all fun character => plainCharacter character || isSpace character) = true) :
    ∀ character ∈ text, plainCharacter character = true ∨ isSpace character = true :=
  fun character member => Bool.or_eq_true_iff.mp (List.all_eq_true.mp every character member)

/-- A white list with two entries. -/
def inspection : Policy :=
  ⟨"whitelist", [⟨"git status".toList, plain_of_all (by decide +kernel)⟩,
    ⟨"echo".toList, plain_of_all (by decide +kernel)⟩]⟩

theorem execCoreCmd_admitted_status :
    Admitted inspection.whitelist "git status --short".toList ↔
      Readable (lex "git status --short".toList) ∧
        ∃ entry ∈ inspection.whitelist,
          whitelistMatches "git status --short".toList [entry] true = true ∧
            Spaced entry.words.length "git status --short".toList :=
  @execCoreCmd_admitted (fun _ => false) (fun _ _ => none) true inspection
    " git status --short".toList "git status --short".toList (by decide +kernel)
    (by decide +kernel)

/-- The second line of a command runs whatever it says. -/
theorem second_line_runs :
    ∃ command, execCoreCmd Char.isAlphanum (fun _ _ => none) true (some inspection)
        "echo hi\nrm x".toList = .ok command ∧ ¬ Admitted inspection.whitelist command := by
  refine ⟨"echo hi\nrm x".toList, by decide +kernel, ?_⟩
  rintro ⟨words, simple, _⟩
  have tokens : lex "echo hi\nrm x".toList =
      [.word ⟨"echo".toList, false⟩, .word ⟨"hi".toList, false⟩, .newline,
        .word ⟨"rm".toList, false⟩, .word ⟨"x".toList, false⟩] := by decide +kernel
  obtain ⟨behind, line⟩ := simple_line simple tokens (by simp)
  have oneLine := (line_readable behind simple.unreserved simple.nonempty).oneLine
  rw [← line, tokens] at oneLine
  simp at oneLine

end CommandPolicy
