import MeetYou.Foundation.Text

/-!
# Words between white space

A text is cut at its white space. Its words are what stands between; collapsing each run of
white space to one blank, of a text without white space at its ends, joins the words by
single blanks. With a blank behind every word, one joined text begins with another exactly
when its words begin with the other's words, so a comparison of joined texts that stops at a
blank is a comparison of words.

Letter case is put aside as far as a comparison with ASCII words can tell: besides the
capitals, the Kelvin sign lowers to a letter `k`, and a capital `I` with a dot lowers to an
`i` with a combining dot behind it.
-/

namespace Text

/-- The characters in front of the first white space. -/
def firstWord (text : List Char) : List Char := text.takeWhile fun character => !isSpace character

/-- The text behind its first word. -/
def afterWord (text : List Char) : List Char := text.dropWhile fun character => !isSpace character

/-- The white space behind the first word. -/
def gap (text : List Char) : List Char := (afterWord text).takeWhile isSpace

/-- The text from the second word on. -/
def behind (text : List Char) : List Char := (afterWord text).dropWhile isSpace

/-- The words of a text. -/
def wordsOf (text : List Char) : List (List Char) :=
  (text.splitOnP isSpace).filter fun word => !word.isEmpty

/-- Every word with a blank behind it. -/
def joined (words : List (List Char)) : List Char := words.flatMap fun word => word ++ [' ']

/-- No white space stands at an end of the text. -/
structure Trimmed (text : List Char) : Prop where
  front : ∀ character ∈ text.head?, isSpace character = false
  back : ∀ character ∈ text.getLast?, isSpace character = false

/-! ## The parts of a text -/

theorem head_dropWhile {text : List Char} {removed : Char → Bool} {character : Char}
    (head : character ∈ (text.dropWhile removed).head?) : removed character = false := by
  have stays := List.head?_dropWhile_not removed text
  rw [Option.mem_def.mp head] at stays
  simpa using stays

/-- A text is its first word, the gap and the rest. -/
theorem parts (text : List Char) : firstWord text ++ (gap text ++ behind text) = text := by
  unfold firstWord gap behind
  rw [List.takeWhile_append_dropWhile]
  exact List.takeWhile_append_dropWhile

theorem firstWord_visible {text : List Char} {character : Char}
    (member : character ∈ firstWord text) : isSpace character = false := by
  simpa using List.mem_takeWhile_imp member

theorem gap_space {text : List Char} {character : Char} (member : character ∈ gap text) :
    isSpace character = true := List.mem_takeWhile_imp member

theorem afterWord_parts (text : List Char) : gap text ++ behind text = afterWord text :=
  List.takeWhile_append_dropWhile

/-- Without a gap the first word is the whole text. -/
theorem behind_of_gap {text : List Char} (empty : gap text = []) : behind text = [] := by
  have whole := afterWord_parts text
  rw [empty, List.nil_append] at whole
  cases rest : behind text with
  | nil => rfl
  | cons first more =>
    have space : isSpace first = true := by
      have head : first ∈ (afterWord text).head? := by rw [← whole, rest]; rfl
      simpa using head_dropWhile head
    have visible : isSpace first = false :=
      (@head_dropWhile (afterWord text)) (by rw [← behind, rest]; rfl)
    rw [space] at visible
    cases visible

theorem firstWord_ne_nil {text : List Char} (trimmed : Trimmed text) (some : text ≠ []) :
    firstWord text ≠ [] := by
  cases text with
  | nil => exact absurd rfl some
  | cons first rest =>
    have visible : isSpace first = false := trimmed.front first rfl
    unfold firstWord
    rw [List.takeWhile_cons_of_pos (by simp [visible])]
    exact List.cons_ne_nil _ _

theorem behind_trimmed {text : List Char} (trimmed : Trimmed text) : Trimmed (behind text) := by
  constructor
  · exact fun character head => head_dropWhile head
  · intro character last
    apply trimmed.back character
    rw [← parts text, ← List.append_assoc, List.getLast?_append, Option.mem_def.mp last]
    rfl

/-- What follows a gap of a trimmed text is not empty. -/
theorem gap_of_behind {text : List Char} (trimmed : Trimmed text) (empty : behind text = []) :
    gap text = [] := by
  cases last : (gap text).getLast? with
  | none => exact List.getLast?_eq_none_iff.mp last
  | some character =>
    have visible : isSpace character = false := by
      apply trimmed.back character
      rw [← parts text, empty, List.append_nil, List.getLast?_append, last]
      rfl
    rw [gap_space (List.mem_of_getLast? last)] at visible
    cases visible

theorem behind_length {text : List Char} (trimmed : Trimmed text) (some : text ≠ []) :
    (behind text).length < text.length := by
  have word := List.length_pos_of_ne_nil (firstWord_ne_nil trimmed some)
  have whole := congrArg List.length (parts text)
  simp only [List.length_append] at whole
  omega

/-- Induction over the words of a trimmed text. -/
theorem trimmed_induction {motive : List Char → Prop} (nil : motive [])
    (word : ∀ text, Trimmed text → text ≠ [] → motive (behind text) → motive text) :
    ∀ text, Trimmed text → motive text := by
  suffices all : ∀ size text, text.length ≤ size → Trimmed text → motive text from
    fun text => all text.length text le_rfl
  intro size
  induction size with
  | zero =>
    intro text short _
    rw [List.length_eq_zero_iff.mp (Nat.le_zero.mp short)]
    exact nil
  | succ size inductionHypothesis =>
    intro text short trimmed
    by_cases empty : text = []
    · rw [empty]
      exact nil
    · have shorter := behind_length trimmed empty
      exact word text trimmed empty
        (inductionHypothesis (behind text) (by omega) (behind_trimmed trimmed))

theorem trim_trimmed (text : List Char) : Trimmed (trim text) := by
  constructor
  · intro character head
    unfold trim at head
    rw [← dropWhile_rdropWhile _ (List.dropWhile_idempotent isSpace text)] at head
    exact head_dropWhile head
  · intro character last
    have member := List.mem_of_getLast? last
    have blankless := List.rdropWhile_last_not isSpace (text.dropWhile isSpace)
      (List.ne_nil_of_mem member)
    rw [List.getLast?_eq_some_getLast (List.ne_nil_of_mem member)] at last
    rw [← Option.some.inj last]
    exact Bool.eq_false_iff.mpr blankless

theorem trim_of_trimmed {text : List Char} (trimmed : Trimmed text) : trim text = text := by
  have front : text.dropWhile isSpace = text := by
    cases text with
    | nil => rfl
    | cons first rest => exact List.dropWhile_cons_of_neg (by simp [trimmed.front first rfl])
  unfold trim
  rw [front]
  by_cases empty : text = []
  · rw [empty]
    rfl
  · rw [List.rdropWhile_eq_self_iff]
    intro some
    simp [trimmed.back _ (List.getLast?_eq_some_getLast some)]

/-! ## Words -/

theorem wordsOf_spaces {spaces : List Char} (space : ∀ character ∈ spaces, isSpace character)
    (rest : List Char) : wordsOf (spaces ++ rest) = wordsOf rest := by
  induction spaces with
  | nil => rfl
  | cons first spaces inductionHypothesis =>
    rw [← inductionHypothesis fun other member => space other (List.mem_cons_of_mem _ member)]
    unfold wordsOf
    rw [List.cons_append, List.splitOnP_cons_eq_if_modifyHead, if_pos (space first List.mem_cons_self)]
    rfl

/-- The words are the first word and the words behind it. -/
theorem wordsOf_trimmed {text : List Char} (trimmed : Trimmed text) (some : text ≠ []) :
    wordsOf text = firstWord text :: wordsOf (behind text) := by
  have visible : ∀ character ∈ firstWord text, isSpace character = false :=
    fun _ => firstWord_visible
  have nonempty : (!(firstWord text).isEmpty) = true := by
    simpa using firstWord_ne_nil trimmed some
  cases between : gap text with
  | nil =>
    have whole : firstWord text = text := by
      have all := parts text
      rwa [between, behind_of_gap between, List.append_nil, List.append_nil] at all
    rw [behind_of_gap between, ← whole] at *
    unfold wordsOf
    rw [whole, List.splitOnP_eq_singleton (by rwa [whole] at visible)]
    rw [whole] at nonempty
    simp [nonempty]
  | cons first rest =>
    have space : ∀ character ∈ first :: rest, isSpace character :=
      fun character member => gap_space (between ▸ member)
    have split : wordsOf text = firstWord text :: wordsOf (rest ++ behind text) := by
      conv_lhs => rw [← parts text, between]
      unfold wordsOf
      rw [List.cons_append, List.splitOnP_append_cons_of_forall_mem visible first (space first List.mem_cons_self),
        List.filter_cons, if_pos nonempty]
    rw [split, wordsOf_spaces fun other member => space other (List.mem_cons_of_mem _ member)]

theorem wordsOf_nil : wordsOf [] = [] := rfl

/-- No word is empty or holds white space. -/
theorem wordsOf_visible {text word : List Char} (trimmed : Trimmed text)
    (member : word ∈ wordsOf text) :
    word ≠ [] ∧ ∀ character ∈ word, isSpace character = false ∧ character ∈ text := by
  revert member
  refine trimmed_induction (motive := fun text => word ∈ wordsOf text → word ≠ [] ∧
    ∀ character ∈ word, isSpace character = false ∧ character ∈ text) ?_ ?_ text trimmed
  · intro member
    cases member
  · intro text trimmed some inductionHypothesis member
    rw [wordsOf_trimmed trimmed some] at member
    have whole := parts text
    rcases List.mem_cons.mp member with rfl | later
    · refine ⟨firstWord_ne_nil trimmed some, fun character inside =>
        ⟨firstWord_visible inside, ?_⟩⟩
      rw [← whole]
      exact List.mem_append_left _ inside
    · obtain ⟨nonempty, visible⟩ := inductionHypothesis later
      refine ⟨nonempty, fun character inside => ⟨(visible character inside).1, ?_⟩⟩
      rw [← whole]
      exact List.mem_append_right _ (List.mem_append_right _ (visible character inside).2)

/-! ## Collapsed white space -/

theorem collapseFrom_visible {word : List Char}
    (visible : ∀ character ∈ word, isSpace character = false) (rest : List Char) :
    collapseFrom false (word ++ rest) = word ++ collapseFrom false rest := by
  induction word with
  | nil => rfl
  | cons first word inductionHypothesis =>
    have shown := visible first List.mem_cons_self
    rw [List.cons_append, collapseFrom, shown,
      inductionHypothesis fun other member => visible other (List.mem_cons_of_mem _ member)]
    rfl

theorem collapseFrom_spaces {spaces : List Char}
    (space : ∀ character ∈ spaces, isSpace character) (rest : List Char) :
    collapseFrom true (spaces ++ rest) = collapseFrom true rest := by
  induction spaces with
  | nil => rfl
  | cons first spaces inductionHypothesis =>
    rw [List.cons_append, collapseFrom, if_pos (space first List.mem_cons_self), if_pos rfl]
    exact inductionHypothesis fun other member => space other (List.mem_cons_of_mem _ member)

theorem collapseFrom_front {text : List Char} (trimmed : Trimmed text) :
    collapseFrom true text = collapseFrom false text := by
  cases text with
  | nil => rfl
  | cons first rest => simp [collapseFrom, trimmed.front first rfl]

/-- A single word stays as it is. -/
theorem collapse_word {text : List Char} (last : gap text = []) :
    collapseFrom false text = text := by
  have whole := parts text
  rw [last, behind_of_gap last, List.append_nil, List.append_nil] at whole
  have kept := collapseFrom_visible (@firstWord_visible text) []
  rwa [List.append_nil, whole, collapseFrom, List.append_nil] at kept

/-- A gap collapses to one blank. -/
theorem collapse_parts {text : List Char} (trimmed : Trimmed text) (follows : gap text ≠ []) :
    collapseFrom false text = firstWord text ++ ' ' :: collapseFrom false (behind text) := by
  conv_lhs => rw [← parts text, collapseFrom_visible fun _ => firstWord_visible]
  cases between : gap text with
  | nil => exact absurd between follows
  | cons first rest =>
    have space : ∀ character ∈ first :: rest, isSpace character :=
      fun character member => gap_space (between ▸ member)
    rw [List.cons_append, collapseFrom, if_pos (space first List.mem_cons_self),
      collapseFrom_spaces fun other member => space other (List.mem_cons_of_mem _ member),
      collapseFrom_front (behind_trimmed trimmed)]
    rfl

/-- Collapsing the white space of a trimmed text joins its words by blanks. -/
theorem collapse_joined {text : List Char} (trimmed : Trimmed text) (some : text ≠ []) :
    collapseFrom false text ++ [' '] = joined (wordsOf text) := by
  revert some
  refine trimmed_induction (motive := fun text => text ≠ [] →
    collapseFrom false text ++ [' '] = joined (wordsOf text)) ?_ ?_ text trimmed
  · exact fun empty => absurd rfl empty
  · intro text trimmed some inductionHypothesis _
    rw [wordsOf_trimmed trimmed some]
    by_cases last : gap text = []
    · have whole := parts text
      rw [last, behind_of_gap last, List.append_nil, List.append_nil] at whole
      rw [collapse_word last, behind_of_gap last, whole]
      simp [joined, wordsOf_nil]
    · have follows : behind text ≠ [] := fun empty => last (gap_of_behind trimmed empty)
      rw [collapse_parts trimmed last, joined, List.flatMap_cons, ← joined,
        ← inductionHypothesis follows]
      simp

theorem collapse_ne_nil {text : List Char} (trimmed : Trimmed text) (some : text ≠ []) :
    collapseFrom false text ≠ [] := by
  cases text with
  | nil => exact absurd rfl some
  | cons first rest =>
    rw [collapseFrom, if_neg (by simp [trimmed.front first rfl])]
    exact List.cons_ne_nil _ _

theorem collapse_trimmed {text : List Char} (trimmed : Trimmed text) :
    Trimmed (collapseFrom false text) := by
  refine trimmed_induction (motive := fun text => Trimmed (collapseFrom false text)) ?_ ?_
    text trimmed
  · exact ⟨fun _ head => (nomatch head), fun _ last => (nomatch last)⟩
  · intro text trimmed some inductionHypothesis
    by_cases last : gap text = []
    · rw [collapse_word last]
      exact trimmed
    · have word := firstWord_ne_nil trimmed some
      have follows : behind text ≠ [] := fun empty => last (gap_of_behind trimmed empty)
      have rest := collapse_ne_nil (behind_trimmed trimmed) follows
      rw [collapse_parts trimmed last]
      constructor
      · intro character head
        cases shape : firstWord text with
        | nil => exact absurd shape word
        | cons first more =>
          rw [shape] at head
          cases head
          exact (@firstWord_visible text) (by rw [shape]; exact List.mem_cons_self)
      · intro character ends
        apply inductionHypothesis.back character
        rw [List.getLast?_append, List.getLast?_cons] at ends
        cases tail : (collapseFrom false (behind text)).getLast? with
        | none => exact absurd (List.getLast?_eq_none_iff.mp tail) rest
        | some other =>
          rw [tail] at ends
          simpa using ends

theorem collapseFrom_twice (inside : Bool) (text : List Char) :
    collapseFrom inside (collapseFrom inside text) = collapseFrom inside text := by
  induction text generalizing inside with
  | nil => rfl
  | cons first rest inductionHypothesis =>
    by_cases space : isSpace first = true
    · cases inside with
      | false =>
        rw [collapseFrom, if_pos space, if_neg Bool.false_ne_true, collapseFrom,
          if_pos (by decide), if_neg Bool.false_ne_true, inductionHypothesis]
      | true =>
        rw [collapseFrom, if_pos space, if_pos rfl, inductionHypothesis]
    · rw [collapseFrom, if_neg space, collapseFrom, if_neg space, inductionHypothesis]

/-! ## Comparing joined texts -/

/-- Up to the first separator the texts agree. -/
theorem separated_front {separator : Char} {left right leftRest rightRest : List Char}
    (leftFree : separator ∉ left) (rightFree : separator ∉ right) :
    left ++ separator :: leftRest <+: right ++ separator :: rightRest ↔
      left = right ∧ leftRest <+: rightRest := by
  induction left generalizing right with
  | nil =>
    cases right with
    | nil => simp
    | cons first right =>
      have other : separator ≠ first := fun same => rightFree (same ▸ List.mem_cons_self)
      simp [List.cons_prefix_cons, other]
  | cons leftFirst left inductionHypothesis =>
    cases right with
    | nil =>
      have other : leftFirst ≠ separator := fun same => leftFree (same ▸ List.mem_cons_self)
      simp [List.cons_prefix_cons, other]
    | cons first right =>
      rw [List.cons_append, List.cons_append, List.cons_prefix_cons,
        inductionHypothesis (fun member => leftFree (List.mem_cons_of_mem _ member))
          (fun member => rightFree (List.mem_cons_of_mem _ member)), List.cons.injEq, and_assoc]

/-- One joined text begins with another exactly when the words do. -/
theorem joined_front {left right : List (List Char)} (leftFree : ∀ word ∈ left, ' ' ∉ word)
    (rightFree : ∀ word ∈ right, ' ' ∉ word) :
    joined left <+: joined right ↔ left <+: right := by
  induction left generalizing right with
  | nil => simp [joined]
  | cons word left inductionHypothesis =>
    cases right with
    | nil => simp [joined]
    | cons other right =>
      have further := inductionHypothesis
        (fun word member => leftFree word (List.mem_cons_of_mem _ member))
        (fun word member => rightFree word (List.mem_cons_of_mem _ member))
      unfold joined at *
      rw [List.flatMap_cons, List.flatMap_cons, List.append_assoc, List.append_assoc,
        List.singleton_append, List.singleton_append,
        separated_front (leftFree word List.mem_cons_self)
          (rightFree other List.mem_cons_self), further, List.cons_prefix_cons]

/-- A text is a pattern, or goes on with a blank behind it. -/
theorem blank_behind {pattern text : List Char} :
    text = pattern ∨ pattern ++ [' '] <+: text ↔ pattern ++ [' '] <+: text ++ [' '] := by
  constructor
  · rintro (rfl | front)
    · exact List.prefix_rfl
    · exact front.trans (List.prefix_append _ _)
  · intro front
    rcases List.prefix_concat_iff.mp front with same | shorter
    · exact Or.inl (List.append_cancel_right same).symm
    · exact Or.inr shorter

/-! ## Lower case -/

/-- `lower` on a character, as far as ASCII letters come out of it. -/
def lowerCharacter (character : Char) : List Char :=
  if character.toNat = 0x212a then ['k']
  else if character.toNat = 0x130 then ['i', Char.ofNat 0x307]
  else [character.toLower]

/-- `lower`, as far as a comparison with ASCII words can tell. -/
def lowered (text : List Char) : List Char := text.flatMap lowerCharacter

theorem lowered_append (left right : List Char) :
    lowered (left ++ right) = lowered left ++ lowered right := List.flatMap_append

theorem lowerCharacter_ne_nil (character : Char) : lowerCharacter character ≠ [] := by
  unfold lowerCharacter
  split
  · exact List.cons_ne_nil _ _
  split <;> exact List.cons_ne_nil _ _

theorem lowered_ne_nil {text : List Char} (some : text ≠ []) : lowered text ≠ [] := by
  cases text with
  | nil => exact absurd rfl some
  | cons first rest =>
    exact List.append_ne_nil_of_left_ne_nil (lowerCharacter_ne_nil first) _

theorem lowered_joined (words : List (List Char)) :
    lowered (joined words) = joined (words.map lowered) := by
  induction words with
  | nil => rfl
  | cons word words inductionHypothesis =>
    rw [joined, List.flatMap_cons, ← joined, lowered_append, lowered_append, inductionHypothesis]
    rfl

theorem isUpper_iff {character : Char} :
    character.isUpper = true ↔ 65 ≤ character.toNat ∧ character.toNat ≤ 90 := by
  change decide (_ ∧ _) = true ↔ _
  rw [decide_eq_true_eq]
  exact and_congr UInt32.le_iff_toNat_le UInt32.le_iff_toNat_le

theorem isLower_iff {character : Char} :
    character.isLower = true ↔ 97 ≤ character.toNat ∧ character.toNat ≤ 122 := by
  change (decide _ && decide _) = true ↔ _
  rw [Bool.and_eq_true, decide_eq_true_eq, decide_eq_true_eq]
  exact and_congr UInt32.le_iff_toNat_le UInt32.le_iff_toNat_le

/-- A letter or a digit is a capital, a small letter or a digit. -/
theorem isAlphanum_iff {character : Char} : character.isAlphanum = true ↔
    character.isUpper = true ∨ character.isLower = true ∨ character.isDigit = true := by
  change ((character.isUpper || character.isLower) || character.isDigit) = true ↔ _
  rw [Bool.or_eq_true, Bool.or_eq_true, or_assoc]

/-- Only a capital is changed, into a small letter. -/
theorem toLower_cases (character : Char) :
    character.toLower = character ∨
      (character.isUpper ∧ character.toLower.isLower) := by
  unfold Char.toLower
  split
  case isTrue upper =>
    right
    have low : 65 ≤ character.val.toNat := UInt32.le_iff_toNat_le.mp upper.1
    have high : character.val.toNat ≤ 90 := UInt32.le_iff_toNat_le.mp upper.2
    refine ⟨isUpper_iff.mpr ⟨low, high⟩, isLower_iff.mpr ?_⟩
    constructor
    · change 97 ≤ (character.val.toNat + 32) % 2 ^ 32
      omega
    · change (character.val.toNat + 32) % 2 ^ 32 ≤ 122
      omega
  case isFalse => exact Or.inl rfl

theorem space_codes {character : Char} (space : isSpace character = true) :
    character.toNat ≤ 32 ∨ 133 ≤ character.toNat := by
  unfold isSpace at space
  simp only [Bool.or_eq_true, Bool.and_eq_true, decide_eq_true_eq, beq_iff_eq] at space
  omega

/-- White space has no lower case. -/
theorem lowerCharacter_space {character : Char} (space : isSpace character = true) :
    lowerCharacter character = [character] := by
  have codes := space_codes space
  have kelvin : character.toNat ≠ 0x212a := by
    intro same
    simp [isSpace, same] at space
  have dotted : character.toNat ≠ 0x130 := by
    intro same
    simp [isSpace, same] at space
  unfold lowerCharacter
  rw [if_neg kelvin, if_neg dotted]
  rcases toLower_cases character with same | ⟨upper, _⟩
  · rw [same]
  · have letter := isUpper_iff.mp upper
    omega

/-- No white space comes out of a character that is none. -/
theorem lowerCharacter_visible {character lower : Char} (visible : isSpace character = false)
    (member : lower ∈ lowerCharacter character) : isSpace lower = false := by
  unfold lowerCharacter at member
  split at member
  · rw [List.mem_singleton.mp member]
    decide
  split at member
  · rcases List.mem_cons.mp member with rfl | last
    · decide
    · rw [List.mem_singleton.mp last]
      decide
  · rw [List.mem_singleton.mp member]
    rcases toLower_cases character with same | ⟨_, small⟩
    · rw [same]
      exact visible
    · have letter := isLower_iff.mp small
      by_contra space
      have codes := space_codes (by simpa using space)
      omega

/-- The lower case of a word holds no white space. -/
theorem lowered_visible {word : List Char}
    (visible : ∀ character ∈ word, isSpace character = false) {lower : Char}
    (member : lower ∈ lowered word) : isSpace lower = false := by
  obtain ⟨character, inside, comes⟩ := List.mem_flatMap.mp member
  exact lowerCharacter_visible (visible character inside) comes

/-- The lower case of a text with white space holds the white space. -/
theorem mem_lowered {text : List Char} {character : Char} (member : character ∈ text)
    (space : isSpace character = true) : character ∈ lowered text :=
  List.mem_flatMap.mpr ⟨character, member, by rw [lowerCharacter_space space]; simp⟩

/-- A text begins with a pattern up to letter case, at the end of a word, exactly when the
words of the pattern lead the words of the text. -/
theorem lowered_match {pattern text : List Char} (patternTrimmed : Trimmed pattern)
    (textTrimmed : Trimmed text) (patternSome : pattern ≠ []) (textSome : text ≠ []) :
    (lowered (collapseFrom false text) = lowered (collapseFrom false pattern) ∨
      lowered (collapseFrom false pattern) ++ [' '] <+: lowered (collapseFrom false text)) ↔
      (wordsOf pattern).map lowered <+: (wordsOf text).map lowered := by
  have blank : ∀ other, lowered (collapseFrom false other) ++ [' '] =
      lowered (collapseFrom false other ++ [' ']) := fun other =>
    (lowered_append (collapseFrom false other) [' ']).symm
  have free : ∀ {other : List Char}, Trimmed other →
      ∀ word ∈ (wordsOf other).map lowered, ' ' ∉ word := by
    intro other trimmed word member inside
    obtain ⟨source, among, rfl⟩ := List.mem_map.mp member
    have shown := lowered_visible
      (fun character here => ((wordsOf_visible trimmed among).2 character here).1) inside
    exact absurd shown (by decide)
  rw [blank_behind, blank, blank, collapse_joined patternTrimmed patternSome,
    collapse_joined textTrimmed textSome, lowered_joined, lowered_joined,
    joined_front (free patternTrimmed) (free textTrimmed)]

end Text
