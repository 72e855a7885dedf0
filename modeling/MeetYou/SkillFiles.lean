import MeetYou.Foundation.TextFiles

/-!
# Files of project skills

A project skill is a text file: metadata as an indented JSON object between two headings, then
the content. The object is found by a regular expression that takes the first closing brace in
front of the second heading, wherever that brace stands. A file is read with every line end
turned into a line break.

Texts are lists of characters. The floats of JSON and the texts of other values than texts are
given from outside.
-/

namespace MeetYou.SkillRegistry

open JsonText Text TextFiles

/-! ## Identifiers -/

/-- `lower` of one character, as far as ASCII letters come of it. -/
def lowerCharacter (character : Char) : List Char :=
  if character.toNat = 0x212a then ['k']
  else if character.toNat = 0x130 then ['i', Char.ofNat 0x307]
  else [character.toLower]

/-- A character that `_SKILL_ID_RE` does not replace. -/
def isIdCharacter (character : Char) : Bool :=
  (97 ≤ character.toNat && character.toNat ≤ 122) ||
    (48 ≤ character.toNat && character.toNat ≤ 57) || character.toNat == 95

/-- `_SKILL_ID_RE.sub`: a run of other characters becomes one underscore. -/
def subRuns : Bool → List Char → List Char
  | _, [] => []
  | inside, character :: rest =>
    if isIdCharacter character then character :: subRuns false rest
    else if inside then subRuns true rest
    else '_' :: subRuns true rest

def isUnderscore (character : Char) : Bool := character = '_'

/-- `strip("_")` -/
def stripUnderscores (text : List Char) : List Char :=
  (text.dropWhile isUnderscore).rdropWhile isUnderscore

/-- What names of modes begin with. -/
def modeStart : List Char := ['m', 'o', 'd', 'e', ':']

/-- `_normalize_identifier` -/
def normalizeIdentifier (value : List Char) : List Char :=
  let raw := (trim value).flatMap lowerCharacter
  if modeStart.isPrefixOf raw then
    let suffix := stripUnderscores (subRuns false (raw.drop modeStart.length))
    if suffix = [] then [] else modeStart ++ suffix
  else stripUnderscores (subRuns false (raw.map fun character =>
    if character = '-' then '_' else character))

/-- `_display_file_name` of a normalised identifier of a reusable skill. -/
def displayFileName (skillId : List Char) : List Char :=
  skillId.map fun character => if character = '_' then '-' else character

/-- The identifier of a reusable skill, as normalisation gives it. -/
structure IsReusableId (skillId : List Char) : Prop where
  some_ : skillId ≠ []
  characters : ∀ character ∈ skillId, isIdCharacter character = true
  first : skillId.head? ≠ some '_'
  last : skillId.getLast? ≠ some '_'

theorem idCharacter_lower {character : Char} (is : isIdCharacter character = true) :
    lowerCharacter character = [character] := by
  unfold isIdCharacter at is
  simp only [Bool.or_eq_true, Bool.and_eq_true, decide_eq_true_eq, beq_iff_eq] at is
  unfold lowerCharacter
  rw [if_neg (by omega), if_neg (by omega)]
  have small : ¬(65 ≤ character.toNat ∧ character.toNat ≤ 90) := by omega
  have same : character.toLower = character := by
    unfold Char.toLower
    rw [dif_neg]
    intro capital
    exact small ⟨capital.1, capital.2⟩
  rw [same]

theorem idCharacter_visible {character : Char} (is : isIdCharacter character = true) :
    isSpace character = false := by
  unfold isIdCharacter at is
  simp only [Bool.or_eq_true, Bool.and_eq_true, decide_eq_true_eq, beq_iff_eq] at is
  simp only [isSpace, Bool.or_eq_false_iff, Bool.and_eq_false_iff, decide_eq_false_iff_not,
    beq_eq_false_iff_ne]
  omega

theorem idCharacter_ne {character other : Char} (is : isIdCharacter character = true)
    (not_ : isIdCharacter other = false) : character ≠ other := by
  rintro rfl
  rw [is] at not_
  cases not_

/-- A run of characters of identifiers is left as it is. -/
theorem subRuns_self {text : List Char}
    (all : ∀ character ∈ text, isIdCharacter character = true) (inside : Bool) :
    subRuns inside text = text := by
  induction text generalizing inside with
  | nil => rfl
  | cons character rest inductionHypothesis =>
    rw [subRuns, if_pos (all character List.mem_cons_self),
      inductionHypothesis fun other member => all other (List.mem_cons_of_mem _ member)]

theorem subRuns_characters (inside : Bool) (text : List Char) :
    ∀ character ∈ subRuns inside text, isIdCharacter character = true := by
  induction text generalizing inside with
  | nil => exact fun _ member => nomatch member
  | cons first rest inductionHypothesis =>
    intro character member
    rw [subRuns] at member
    split at member
    case isTrue is =>
      rcases List.mem_cons.mp member with rfl | later
      · exact is
      · exact inductionHypothesis false character later
    case isFalse =>
      split at member
      · exact inductionHypothesis true character member
      · rcases List.mem_cons.mp member with rfl | later
        · decide
        · exact inductionHypothesis true character later

theorem stripUnderscores_self {text : List Char} (first : text.head? ≠ some '_')
    (last : text.getLast? ≠ some '_') : stripUnderscores text = text := by
  have front : text.dropWhile isUnderscore = text := by
    cases text with
    | nil => rfl
    | cons character rest =>
      refine List.dropWhile_cons_of_neg ?_
      intro is
      exact first (by simpa [isUnderscore] using is)
  unfold stripUnderscores
  rw [front, List.rdropWhile_eq_self_iff]
  intro some_ is
  rw [List.getLast?_eq_getLast_of_ne_nil some_] at last
  exact last (by simpa [isUnderscore] using is)

theorem stripUnderscores_ends (text : List Char) :
    (stripUnderscores text).head? ≠ some '_' ∧ (stripUnderscores text).getLast? ≠ some '_' ∧
      ∀ character ∈ stripUnderscores text, character ∈ text := by
  have within : ∀ character ∈ stripUnderscores text, character ∈ text.dropWhile isUnderscore :=
    fun character member => (List.rdropWhile_prefix isUnderscore _).subset member
  refine ⟨?_, ?_, fun character member =>
    (List.dropWhile_suffix isUnderscore).subset (within character member)⟩
  · intro head
    obtain ⟨rest, whole⟩ : ∃ rest, stripUnderscores text = '_' :: rest := by
      cases same : stripUnderscores text with
      | nil =>
        rw [same] at head
        cases head
      | cons character rest =>
        rw [same] at head
        cases head
        exact ⟨rest, rfl⟩
    obtain ⟨removed, split⟩ := List.rdropWhile_prefix isUnderscore
      (text.dropWhile isUnderscore)
    unfold stripUnderscores at whole
    rw [whole, List.cons_append] at split
    have again := List.dropWhile_idempotent isUnderscore text
    rw [← split, List.dropWhile_cons_of_pos (by decide)] at again
    have shorter := (List.dropWhile_suffix isUnderscore (l := rest ++ removed)).length_le
    rw [again, List.length_cons] at shorter
    omega
  · intro last
    have some_ : stripUnderscores text ≠ [] := by
      intro none_
      rw [none_] at last
      cases last
    rw [List.getLast?_eq_getLast_of_ne_nil some_] at last
    have not_ := List.rdropWhile_last_not isUnderscore (text.dropWhile isUnderscore) some_
    refine not_ ?_
    have same := Option.some.inj last
    unfold stripUnderscores at same
    rw [same]
    decide

theorem trim_identifier {skillId : List Char} (is : IsReusableId skillId) :
    trim skillId = skillId := by
  unfold trim
  have front : skillId.dropWhile isSpace = skillId := by
    cases skillId with
    | nil => rfl
    | cons first rest =>
      refine List.dropWhile_cons_of_neg ?_
      rw [idCharacter_visible (is.characters first List.mem_cons_self)]
      decide
  rw [front, List.rdropWhile_eq_self_iff]
  intro some_ space
  rw [idCharacter_visible (is.characters _ (List.getLast_mem some_))] at space
  cases space

theorem IsReusableId.notMode {skillId : List Char} (is : IsReusableId skillId) :
    ¬modeStart.isPrefixOf skillId = true := by
  intro starts
  have colon : ':' ∈ skillId := (List.isPrefixOf_iff_prefix.mp starts).subset (by decide)
  exact absurd (is.characters ':' colon) (by decide)

/-- What normalisation gives for a reusable skill is its own normal form. -/
theorem normalizeIdentifier_self {skillId : List Char} (is : IsReusableId skillId) :
    normalizeIdentifier skillId = skillId := by
  have lowered : skillId.flatMap lowerCharacter = skillId := by
    rw [List.flatMap_congr fun character member => idCharacter_lower (is.characters character member)]
    exact List.flatMap_singleton' skillId
  have kept : (skillId.map fun character => if character = '-' then '_' else character) =
      skillId := by
    refine (List.map_congr_left fun character member => ?_).trans (List.map_id skillId)
    exact if_neg (idCharacter_ne (is.characters character member) (by decide))
  unfold normalizeIdentifier
  dsimp only
  rw [trim_identifier is, lowered, if_neg is.notMode, kept, subRuns_self is.characters,
    stripUnderscores_self is.first is.last]

/-- Normalisation gives nothing, the identifier of a mode, or that of a reusable skill. -/
theorem normalizeIdentifier_cases (value : List Char) : normalizeIdentifier value = [] ∨
    modeStart.isPrefixOf (normalizeIdentifier value) = true ∨
      IsReusableId (normalizeIdentifier value) := by
  unfold normalizeIdentifier
  dsimp only
  split
  · split
    · exact Or.inl rfl
    · exact Or.inr (Or.inl (List.isPrefixOf_iff_prefix.mpr (List.prefix_append _ _)))
  · obtain ⟨first, last, within⟩ := stripUnderscores_ends (subRuns false
      (((trim value).flatMap lowerCharacter).map fun character =>
        if character = '-' then '_' else character))
    by_cases none_ : stripUnderscores (subRuns false
        (((trim value).flatMap lowerCharacter).map fun character =>
          if character = '-' then '_' else character)) = []
    · exact Or.inl none_
    · exact Or.inr (Or.inr ⟨none_, fun character member =>
        subRuns_characters _ _ character (within character member), first, last⟩)

/-- Different identifiers have different file names. -/
theorem displayFileName_injective {skillId other : List Char} (is : IsReusableId skillId)
    (also : IsReusableId other) (same : displayFileName skillId = displayFileName other) :
    skillId = other := by
  have back : ∀ text : List Char, (∀ character ∈ text, isIdCharacter character = true) →
      (displayFileName text).map (fun character => if character = '-' then '_' else character) =
        text := by
    intro text all
    unfold displayFileName
    rw [List.map_map]
    refine (List.map_congr_left fun character member => ?_).trans (List.map_id text)
    by_cases underscore : character = '_'
    · rw [underscore]
      decide
    · have dash := idCharacter_ne (all character member) (show isIdCharacter '-' = false by decide)
      simp [underscore, dash]
  rw [← back skillId is.characters, same, back other also.characters]

/-! ## Skills and their files -/

/-- The fields of a skill that a file keeps. -/
structure Skill where
  title : List Char
  summary : List Char
  content : List Char
  recommendedTools : List (List Char)
  applicableModes : List (List Char)
  scenarios : List (List Char)
  deriving DecidableEq

/-- `_normalized_list` -/
def normalizedList (values : List (List Char)) : List (List Char) :=
  (values.map trim).filter fun value => value ≠ []

/-- The fields as `_render_skill_file` writes them. -/
def Skill.normalized (skillId : List Char) (skill : Skill) : Skill where
  title := trim (if skill.title = [] then skillId else skill.title)
  summary := trim skill.summary
  content := trim skill.content
  recommendedTools := normalizedList skill.recommendedTools
  applicableModes := normalizedList skill.applicableModes
  scenarios := normalizedList skill.scenarios

/-- The fields as they are read again: a blank title is that of the identifier. -/
def Skill.written (skillId : List Char) (skill : Skill) : Skill :=
  let normalized := skill.normalized skillId
  { normalized with title := if normalized.title = [] then skillId else normalized.title }

/-- The heading in front of the metadata. -/
def metadataHeading : List Char := "[Skill Metadata]".toList

/-- The heading in front of the content. -/
def contentHeading : List Char := "[Skill Content]".toList

section
variable (reals : Reals)

/-- The metadata of a skill. -/
def payload (skillId : List Char) (skill : Skill) : Value reals.Carrier :=
  let texts (items : List (List Char)) : Value reals.Carrier := .list (items.map .text)
  .object [("id".toList, .text skillId), ("title".toList, .text skill.title),
    ("summary".toList, .text skill.summary),
    ("recommended_tools".toList, texts skill.recommendedTools),
    ("applicable_modes".toList, texts skill.applicableModes),
    ("scenarios".toList, texts skill.scenarios)]

/-- The lines of a file. -/
def fileText (skillId : List Char) (skill : Skill) : List Char :=
  metadataHeading ++ '\n' :: (writeIndented reals 0 (payload reals skillId skill) ++
    '\n' :: '\n' :: (contentHeading ++ '\n' :: (skill.content ++ ['\n'])))

/-- `_render_skill_file`, or `none` where it raises. -/
def renderSkillFile (skillId : List Char) (skill : Skill) : Option (List Char) :=
  let normalized := skill.normalized skillId
  if skillId = [] ∨ modeStart.isPrefixOf skillId = true then none
  else if normalized.summary = [] ∨ normalized.content = [] then none
  else some (fileText reals skillId normalized)

end

/-! ## Reading -/

/-- What is given from outside: the floats, the truth of a value and its text. -/
structure Formats where
  reals : Reals
  truthy : Value reals.Carrier → Bool
  str : Value reals.Carrier → List Char

/-- The second heading follows, behind white space. -/
def endsMetadata (rest : List Char) : Bool := contentHeading.isPrefixOf (rest.dropWhile isSpace)

/-- The text up to the first closing brace in front of the second heading, and the text behind
that heading. -/
def findEnd : List Char → Option (List Char × List Char)
  | [] => none
  | character :: rest =>
    if character = '\x7d' ∧ endsMetadata rest = true then
      some ([character], (rest.dropWhile isSpace).drop contentHeading.length)
    else (findEnd rest).map fun found => (character :: found.1, found.2)

/-- `_PROJECT_SKILL_FILE_RE`: the metadata and the content. -/
def splitSkillFile (raw : List Char) : Option (List Char × List Char) :=
  if metadataHeading.isPrefixOf raw then
    match (raw.drop metadataHeading.length).dropWhile isSpace with
    | '\x7b' :: rest => (findEnd rest).map fun found => ('\x7b' :: found.1, found.2)
    | _ => none
  else none

section
variable (formats : Formats)

/-- `str` of a value. -/
def textOf : Value formats.reals.Carrier → List Char
  | .text characters => characters
  | value => formats.str value

/-- `str(value or default)` -/
def textOr (value : Option (Value formats.reals.Carrier)) (default : List Char) : List Char :=
  match value with
  | none => default
  | some (.text characters) => if characters = [] then default else characters
  | some value => if formats.truthy value then formats.str value else default

/-- The stripped texts of what a value iterates over, or `none` where it cannot be iterated. -/
def textsOf : Option (Value formats.reals.Carrier) → Option (List (List Char))
  | none => some []
  | some (.list items) => some (normalizedList (items.map (textOf formats)))
  | some (.text characters) => some (normalizedList (characters.map fun character => [character]))
  | some (.object members) => some (normalizedList (members.map Prod.fst))
  | some _ => none

/-- `SkillRecord`: the identifier and the fields. -/
structure SkillRecord where
  skillId : List Char
  skill : Skill
  deriving DecidableEq

/-- `_parse_project_skill_file`; the stem is that of the file. -/
def parseProjectSkillFile (stem text : List Char) : Option SkillRecord :=
  (splitSkillFile (trim (universalNewlines text))).bind fun (metadata, content) =>
    match loads formats.reals metadata with
    | some (.object members) =>
      let skillId := normalizeIdentifier (textOr formats (Dict.find "id".toList members) stem)
      (textsOf formats (Dict.find "recommended_tools".toList members)).bind fun tools =>
        (textsOf formats (Dict.find "applicable_modes".toList members)).bind fun modes =>
          (textsOf formats (Dict.find "scenarios".toList members)).map fun scenarios =>
            { skillId
              skill :=
                { title := textOr formats (Dict.find "title".toList members) skillId
                  summary := trim (textOr formats (Dict.find "summary".toList members) [])
                  content := trim content
                  recommendedTools := tools
                  applicableModes := modes
                  scenarios } }
    | _ => none

end

/-! ## Texts that do not end the metadata -/

/-- A closing brace stands in front of the second heading. -/
def breaksOff : List Char → Bool
  | [] => false
  | character :: rest => (character = '\x7d' && endsMetadata rest) || breaksOff rest

/-- The text, as JSON has it, does not end the metadata. -/
def Unbroken (text : List Char) : Prop := breaksOff (writeText (trim text)) = false

instance (text : List Char) : Decidable (Unbroken text) := inferInstanceAs (Decidable (_ = false))

theorem unbroken_trim {text : List Char} (unbroken : Unbroken text) : Unbroken (trim text) := by
  unfold Unbroken
  rw [trim_trim]
  exact unbroken

/-- A trimmed text does not end the metadata as it is. -/
theorem Unbroken.of_trimmed {text : List Char} (unbroken : Unbroken text)
    (trimmed : trim text = text) : breaksOff (writeText text) = false := by
  unfold Unbroken at unbroken
  rwa [trimmed] at unbroken

/-- The texts of the metadata do not end them, and the content has no line ends but line
breaks. -/
structure Plain (skill : Skill) : Prop where
  title : Unbroken skill.title
  summary : Unbroken skill.summary
  content : '\r' ∉ trim skill.content
  recommendedTools : ∀ item ∈ skill.recommendedTools, Unbroken item
  applicableModes : ∀ item ∈ skill.applicableModes, Unbroken item
  scenarios : ∀ item ∈ skill.scenarios, Unbroken item

/-- Nothing ends in the text, whatever follows it, and it has line breaks only. -/
structure Inert (text : List Char) : Prop where
  passed : ∀ rest, findEnd (text ++ rest) = (findEnd rest).map fun found =>
    (text ++ found.1, found.2)
  breaks : '\r' ∉ text

theorem inert_nil : Inert [] := by
  refine ⟨fun rest => ?_, List.not_mem_nil⟩
  rw [List.nil_append]
  cases findEnd rest <;> rfl

theorem Inert.append {text more : List Char} (first : Inert text) (second : Inert more) :
    Inert (text ++ more) := by
  refine ⟨fun rest => ?_, fun member => ?_⟩
  · rw [List.append_assoc, first.passed, second.passed]
    cases findEnd rest with
    | none => rfl
    | some found => simp
  · rcases List.mem_append.mp member with front | back
    · exact first.breaks front
    · exact second.breaks back

theorem Inert.cons {character : Char} {text : List Char} (brace : character ≠ '\x7d')
    (break_ : character ≠ '\r') (inert : Inert text) : Inert (character :: text) := by
  refine ⟨fun rest => ?_, fun member => ?_⟩
  · rw [List.cons_append, findEnd, if_neg (fun both => brace both.1), inert.passed]
    cases findEnd rest <;> rfl
  · rcases List.mem_cons.mp member with same | later
    · exact break_ same.symm
    · exact inert.breaks later

/-- White space in front of a mark is the same whatever follows the mark. -/
theorem dropWhile_mark {mark : Char} (visible : isSpace mark = false) (text rest : List Char) :
    (text ++ mark :: rest).dropWhile isSpace = text.dropWhile isSpace ++ mark :: rest := by
  induction text with
  | nil => exact List.dropWhile_cons_of_neg (by rw [visible]; decide)
  | cons character text inductionHypothesis =>
    by_cases space : isSpace character = true
    · rw [List.cons_append, List.dropWhile_cons_of_pos space, List.dropWhile_cons_of_pos space,
        inductionHypothesis]
    · rw [List.cons_append, List.dropWhile_cons_of_neg space, List.dropWhile_cons_of_neg space]
      rfl

/-- A heading without the mark begins before the mark. -/
theorem prefix_mark {heading text rest : List Char} {mark : Char} (absent : mark ∉ heading)
    (begins : heading <+: text ++ mark :: rest) : heading <+: text := by
  refine List.prefix_of_prefix_length_le begins (List.prefix_append text _) ?_
  by_contra longer
  have within : text ++ [mark] <+: heading := by
    refine @List.prefix_of_prefix_length_le _ _ _ (text ++ mark :: rest) ?_ begins ?_
    · exact ⟨rest, by simp⟩
    · simp only [List.length_append, List.length_singleton]
      omega
  exact absent (within.subset (List.mem_append_right _ List.mem_cons_self))

/-- The quotation mark that ends a text keeps the second heading from beginning in it. -/
theorem endsMetadata_mark {text rest : List Char} :
    endsMetadata (text ++ '\x22' :: rest) = endsMetadata (text ++ ['\x22']) := by
  have same : ∀ rest : List Char, endsMetadata (text ++ '\x22' :: rest) = true ↔
      contentHeading <+: text.dropWhile isSpace := by
    intro rest
    unfold endsMetadata
    rw [List.isPrefixOf_iff_prefix, dropWhile_mark (by decide)]
    exact ⟨prefix_mark (by decide), fun begins => begins.trans (List.prefix_append _ _)⟩
  exact Bool.eq_iff_iff.mpr ((same rest).trans (same []).symm)

/-- A quoted text in which nothing breaks off is passed. -/
theorem passed_quoted {text : List Char} (whole : breaksOff (text ++ ['\x22']) = false)
    (rest : List Char) : findEnd (text ++ '\x22' :: rest) = (findEnd rest).map fun found =>
      (text ++ '\x22' :: found.1, found.2) := by
  induction text with
  | nil =>
    rw [List.nil_append, findEnd, if_neg (fun both => absurd both.1 (by decide))]
    rfl
  | cons character text inductionHypothesis =>
    rw [List.cons_append, breaksOff, Bool.or_eq_false_iff, Bool.and_eq_false_iff] at whole
    have goesOn : ¬(character = '\x7d' ∧ endsMetadata (text ++ '\x22' :: rest) = true) := by
      rintro ⟨brace, ends⟩
      rw [endsMetadata_mark] at ends
      rcases whole.1 with other | not_
      · exact of_decide_eq_false other brace
      · rw [ends] at not_
        cases not_
    rw [List.cons_append, findEnd, if_neg goesOn, inductionHypothesis whole.2]
    cases findEnd rest <;> rfl

theorem inert_writeText {text : List Char} (whole : breaksOff (writeText text) = false) :
    Inert (writeText text) := by
  refine ⟨fun rest => ?_, fun member => ?_⟩
  · unfold writeText at whole ⊢
    rw [List.append_assoc, List.singleton_append, passed_quoted whole]
    cases findEnd rest <;> simp
  · exact writeText_breaks text member

theorem breaksOff_of_notMem {text : List Char} (absent : '\x7d' ∉ text) :
    breaksOff text = false := by
  induction text with
  | nil => rfl
  | cons character rest inductionHypothesis =>
    have different : character ≠ '\x7d' := fun same => absent (same ▸ List.mem_cons_self)
    rw [breaksOff, inductionHypothesis fun member => absent (List.mem_cons_of_mem _ member)]
    simp [different]

/-- An identifier is written as it is. -/
theorem identifier_whole {skillId : List Char} (is : IsReusableId skillId) :
    breaksOff (writeText skillId) = false := by
  have plain : ∀ character ∈ skillId, escape character = [character] := by
    intro character member
    have character_ := is.characters character member
    have other : ∀ mark : Char, isIdCharacter mark = false → character ≠ mark :=
      fun mark not_ => idCharacter_ne character_ not_
    have short : shortEscape character = none := by
      unfold shortEscape
      rw [if_neg (other _ (by decide)), if_neg (other _ (by decide)), if_neg (other _ (by decide)),
        if_neg (other _ (by decide)), if_neg (other _ (by decide)), if_neg (other _ (by decide)),
        if_neg (other _ (by decide))]
    have large : ¬character.toNat < 32 := by
      unfold isIdCharacter at character_
      simp only [Bool.or_eq_true, Bool.and_eq_true, decide_eq_true_eq, beq_iff_eq] at character_
      omega
    unfold escape
    rw [short]
    exact if_neg large
  refine breaksOff_of_notMem fun member => ?_
  unfold writeText at member
  rw [List.flatMap_congr plain, List.flatMap_singleton'] at member
  rcases List.mem_append.mp member with inside | mark
  · exact absurd (is.characters _ inside) (by decide)
  · exact absurd (List.mem_singleton.mp mark) (by decide)

theorem inert_indentation (depth : Nat) : Inert (indentation depth) := by
  have spaces : ∀ count : Nat, Inert (List.replicate count ' ') := by
    intro count
    induction count with
    | zero => exact inert_nil
    | succ count inductionHypothesis => exact inductionHypothesis.cons (by decide) (by decide)
  exact (spaces (2 * depth)).cons (by decide) (by decide)

section
variable {reals : Reals}

theorem inert_text {text : List Char} (whole : breaksOff (writeText text) = false)
    (depth : Nat) : Inert (writeIndented reals depth (.text text)) := by
  rw [writeIndented, write]
  exact (inert_writeText whole).cons (by decide) (by decide)

theorem inert_texts {items : List (List Char)}
    (whole : ∀ item ∈ items, breaksOff (writeText item) = false) (depth : Nat) :
    Inert (writeIndented reals depth (.list (items.map .text))) := by
  have more : ∀ items : List (List Char),
      (∀ item ∈ items, breaksOff (writeText item) = false) →
        Inert (writeMoreIndentedItems reals depth (items.map .text)) := by
    intro items whole
    induction items with
    | nil =>
      rw [List.map_nil, writeMoreIndentedItems]
      exact (inert_indentation depth).append (inert_nil.cons (by decide) (by decide))
    | cons item items inductionHypothesis =>
      rw [List.map_cons, writeMoreIndentedItems]
      refine Inert.cons (by decide) (by decide) ((inert_indentation _).append ?_)
      exact (inert_text (whole item List.mem_cons_self) _).append
        (inductionHypothesis fun other member => whole other (List.mem_cons_of_mem _ member))
  cases items with
  | nil =>
    rw [List.map_nil, writeIndented]
    exact (inert_nil.cons (by decide) (by decide)).cons (by decide) (by decide)
  | cons item items =>
    rw [List.map_cons, writeIndented]
    refine Inert.cons (by decide) (by decide) ((inert_indentation _).append ?_)
    exact (inert_text (whole item List.mem_cons_self) _).append
      (more items fun other member => whole other (List.mem_cons_of_mem _ member))

/-- In the members of an object only the last brace can end the metadata. -/
theorem members_inert {members : List (List Char × Value reals.Carrier)} (depth : Nat)
    (inert : ∀ member ∈ members, Inert (writeText member.1) ∧
      Inert (writeIndented reals (depth + 1) member.2)) :
    ∃ body, writeMoreIndentedMembers reals depth members = body ++ ['\x7d'] ∧ Inert body := by
  induction members with
  | nil => exact ⟨indentation depth, by rw [writeMoreIndentedMembers], inert_indentation depth⟩
  | cons member members inductionHypothesis =>
    obtain ⟨name, value⟩ := member
    obtain ⟨body, same, after⟩ := inductionHypothesis fun other inside =>
      inert other (List.mem_cons_of_mem _ inside)
    obtain ⟨named, valued⟩ := inert (name, value) List.mem_cons_self
    refine ⟨',' :: (indentation (depth + 1) ++ '\x22' :: (writeText name ++ ':' :: ' ' ::
      (writeIndented reals (depth + 1) value ++ body))), ?_, ?_⟩
    · rw [writeMoreIndentedMembers, same]
      simp
    · refine Inert.cons (by decide) (by decide) ((inert_indentation _).append ?_)
      refine Inert.cons (by decide) (by decide) (named.append ?_)
      exact ((valued.append after).cons (by decide) (by decide)).cons (by decide) (by decide)

theorem texts_printable (items : List (List Char)) :
    PrintableItems (items.map (@Value.text reals.Carrier)) := by
  induction items with
  | nil => trivial
  | cons item items inductionHypothesis => exact ⟨trivial, inductionHypothesis⟩

theorem texts_proper (items : List (List Char)) :
    ProperItems (items.map (@Value.text reals.Carrier)) := by
  induction items with
  | nil => trivial
  | cons item items inductionHypothesis => exact ⟨trivial, inductionHypothesis⟩

theorem payload_printable (skillId : List Char) (skill : Skill) :
    (payload reals skillId skill).Printable :=
  ⟨trivial, trivial, trivial, texts_printable _, texts_printable _, texts_printable _, trivial⟩

theorem payload_proper (skillId : List Char) (skill : Skill) :
    (payload reals skillId skill).Proper := by
  refine ⟨?_, trivial, trivial, trivial, texts_proper _, texts_proper _, texts_proper _, trivial⟩
  show ["id".toList, "title".toList, "summary".toList, "recommended_tools".toList,
    "applicable_modes".toList, "scenarios".toList].Nodup
  decide

/-- In the metadata of a plain skill only the last brace can end them. -/
theorem payload_inert {skillId : List Char} {skill : Skill} (is : IsReusableId skillId)
    (title : breaksOff (writeText skill.title) = false)
    (summary : breaksOff (writeText skill.summary) = false)
    (tools : ∀ item ∈ skill.recommendedTools, breaksOff (writeText item) = false)
    (modes : ∀ item ∈ skill.applicableModes, breaksOff (writeText item) = false)
    (scenarios : ∀ item ∈ skill.scenarios, breaksOff (writeText item) = false) :
    ∃ body, writeIndented reals 0 (payload reals skillId skill) = '\x7b' :: (body ++ ['\x7d']) ∧
      Inert body := by
  have identifier := identifier_whole is
  obtain ⟨body, same, inert⟩ := @members_inert reals
    [("title".toList, .text skill.title), ("summary".toList, .text skill.summary),
      ("recommended_tools".toList, .list (skill.recommendedTools.map .text)),
      ("applicable_modes".toList, .list (skill.applicableModes.map .text)),
      ("scenarios".toList, .list (skill.scenarios.map .text))] 0 (by
    simp only [List.forall_mem_cons]
    refine ⟨⟨inert_writeText (by decide), inert_text title _⟩,
      ⟨inert_writeText (by decide), inert_text summary _⟩,
      ⟨inert_writeText (by decide), inert_texts tools _⟩,
      ⟨inert_writeText (by decide), inert_texts modes _⟩,
      ⟨inert_writeText (by decide), inert_texts scenarios _⟩, fun _ member => nomatch member⟩)
  refine ⟨indentation 1 ++ '\x22' :: (writeText "id".toList ++ ':' :: ' ' ::
    (writeIndented reals 1 (.text skillId) ++ body)), ?_, ?_⟩
  · unfold payload
    rw [writeIndented, same]
    simp
  · refine (inert_indentation _).append (Inert.cons (by decide) (by decide) ?_)
    refine (inert_writeText (by decide)).append ?_
    exact (((inert_text identifier 1).append inert).cons (by decide) (by decide)).cons
      (by decide) (by decide)

end

/-! ## What is written is read -/

theorem normalizedList_trimmed {values : List (List Char)} {value : List Char}
    (member : value ∈ normalizedList values) : trim value = value := by
  obtain ⟨original, _, rfl⟩ := List.mem_map.mp (List.mem_of_mem_filter member)
  exact trim_trim original

theorem normalizedList_self (values : List (List Char)) :
    normalizedList (normalizedList values) = normalizedList values := by
  have some_ : ∀ value ∈ normalizedList values, decide (value ≠ []) = true :=
    fun value member => (List.mem_filter.mp member).2
  have same : (normalizedList values).map trim = normalizedList values :=
    (List.map_congr_left fun value member => normalizedList_trimmed member).trans (List.map_id _)
  show ((normalizedList values).map trim).filter _ = _
  rw [same, List.filter_eq_self.mpr some_]

/-- White space behind a visible end is trimmed. -/
theorem trim_file {first : Char} {front content : List Char} (visible : isSpace first = false)
    (trimmed : trim content = content) (some_ : content ≠ []) :
    trim (first :: (front ++ (content ++ ['\n']))) = first :: (front ++ content) := by
  have last : content.rdropWhile isSpace = content := by
    have again := trim_trim content
    unfold trim at trimmed
    calc content.rdropWhile isSpace
        = ((content.dropWhile isSpace).rdropWhile isSpace).rdropWhile isSpace := by rw [trimmed]
      _ = (content.dropWhile isSpace).rdropWhile isSpace := List.rdropWhile_idempotent _ _
      _ = content := trimmed
  have end_ := List.rdropWhile_eq_self_iff.mp last
  unfold trim
  rw [List.dropWhile_cons_of_neg (by rw [visible]; decide),
    show first :: (front ++ (content ++ ['\n'])) = (first :: (front ++ content)) ++ ['\n'] by simp,
    List.rdropWhile_concat_pos _ _ _ (by decide), List.rdropWhile_eq_self_iff]
  intro whole
  have same : (first :: (front ++ content)).getLast whole = content.getLast some_ := by
    rw [List.getLast_cons (List.append_ne_nil_of_right_ne_nil front some_),
      List.getLast_append_of_ne_nil _ some_]
  rw [same]
  exact end_ some_

/-- The file of a skill is split into its metadata and its content. -/
theorem splitSkillFile_file {body content : List Char} (inert : Inert body) :
    splitSkillFile (metadataHeading ++ '\n' :: ('\x7b' :: (body ++ ['\x7d']) ++
      '\n' :: '\n' :: (contentHeading ++ '\n' :: content))) =
        some ('\x7b' :: (body ++ ['\x7d']), '\n' :: content) := by
  have begins : metadataHeading.isPrefixOf (metadataHeading ++ '\n' ::
      ('\x7b' :: (body ++ ['\x7d']) ++ '\n' :: '\n' :: (contentHeading ++ '\n' :: content))) =
        true :=
    List.isPrefixOf_iff_prefix.mpr (List.prefix_append _ _)
  have heading : ('\n' :: '\n' :: (contentHeading ++ '\n' :: content)).dropWhile isSpace =
      contentHeading ++ '\n' :: content := rfl
  have ends : findEnd ('\x7d' :: '\n' :: '\n' :: (contentHeading ++ '\n' :: content)) =
      some (['\x7d'], '\n' :: content) := by
    rw [findEnd, if_pos, heading, List.drop_left]
    refine ⟨rfl, ?_⟩
    unfold endsMetadata
    rw [heading]
    exact List.isPrefixOf_iff_prefix.mpr (List.prefix_append _ _)
  unfold splitSkillFile
  rw [if_pos begins, List.drop_left]
  show (findEnd ((body ++ ['\x7d']) ++ '\n' :: '\n' :: (contentHeading ++ '\n' :: content))).map
    _ = _
  rw [List.append_assoc, List.singleton_append, inert.passed, ends]
  rfl

section
variable (formats : Formats)

/-- The file of a skill is read as the skill that was written. -/
theorem parse_fileText {skillId stem : List Char} {skill : Skill} (is : IsReusableId skillId)
    (plain : Plain (skill.normalized skillId)) (content : trim skill.content ≠ []) :
    parseProjectSkillFile formats stem
        (fileText formats.reals skillId (skill.normalized skillId)) =
      some ⟨skillId, skill.written skillId⟩ := by
  have items : ∀ values : List (List Char), (∀ item ∈ normalizedList values, Unbroken item) →
      ∀ item ∈ normalizedList values, breaksOff (writeText item) = false :=
    fun values whole item member => (whole item member).of_trimmed (normalizedList_trimmed member)
  have title := plain.title.of_trimmed (trim_trim _)
  have summary := plain.summary.of_trimmed (trim_trim _)
  have breaks : '\r' ∉ trim skill.content := by
    have absent := plain.content
    rwa [show trim (skill.normalized skillId).content = trim skill.content from trim_trim _]
      at absent
  obtain ⟨body, metadata, inert⟩ := @payload_inert formats.reals skillId
    (skill.normalized skillId) is title summary (items _ plain.recommendedTools)
    (items _ plain.applicableModes) (items _ plain.scenarios)
  have read : trim (universalNewlines
      (fileText formats.reals skillId (skill.normalized skillId))) =
        metadataHeading ++ '\n' :: ('\x7b' :: (body ++ ['\x7d']) ++
          '\n' :: '\n' :: (contentHeading ++ '\n' :: trim skill.content)) := by
    let front := metadataHeading.tail ++ '\n' :: ('\x7b' :: (body ++ ['\x7d']) ++
      '\n' :: '\n' :: (contentHeading ++ ['\n']))
    have whole : fileText formats.reals skillId (skill.normalized skillId) =
        '[' :: (front ++ (trim skill.content ++ ['\n'])) := by
      unfold fileText
      rw [metadata]
      show '[' :: (metadataHeading.tail ++ _) = _
      simp [front, Skill.normalized]
    have absent : '\r' ∉ '[' :: (front ++ (trim skill.content ++ ['\n'])) := by
      have headings : '\r' ∉ metadataHeading.tail ∧ '\r' ∉ contentHeading := by decide
      simp [front, headings.1, headings.2, inert.breaks, breaks]
    rw [whole, universalNewlines_self absent, trim_file (by decide) (trim_trim _) content]
    show _ = '[' :: (metadataHeading.tail ++ _)
    simp [front]
  have loaded := @loads_writeIndented formats.reals
    (payload formats.reals skillId (skill.normalized skillId)) (payload_printable _ _)
      (payload_proper _ _)
  rw [metadata] at loaded
  unfold parseProjectSkillFile
  rw [read, splitSkillFile_file inert, Option.bind_some]
  dsimp only
  rw [loaded]
  have texts : ∀ values : List (List Char), textsOf formats
      (some (.list ((normalizedList values).map .text))) = some (normalizedList values) := by
    intro values
    have same : ((normalizedList values).map (@Value.text formats.reals.Carrier)).map
        (textOf formats) = normalizedList values := by
      rw [List.map_map]
      exact List.map_id _
    rw [textsOf, same, normalizedList_self]
  have identifier : normalizeIdentifier (textOr formats (some (.text skillId)) stem) =
      skillId := by
    rw [textOr, if_neg is.some_]
    exact normalizeIdentifier_self is
  have title : textOr formats (some (.text (skill.normalized skillId).title)) skillId =
      (skill.written skillId).title := rfl
  have summary : trim (textOr formats (some (.text (skill.normalized skillId).summary)) []) =
      (skill.written skillId).summary := by
    rw [textOr]
    split
    case isTrue none_ =>
      show trim [] = (skill.normalized skillId).summary
      rw [none_]
      rfl
    case isFalse => exact trim_trim _
  have rest : trim ('\n' :: trim skill.content) = (skill.written skillId).content := by
    show (('\n' :: trim skill.content).dropWhile isSpace).rdropWhile isSpace = trim skill.content
    rw [List.dropWhile_cons_of_pos (by decide)]
    exact trim_trim _
  show ((textsOf formats (some (.list
      ((skill.normalized skillId).recommendedTools.map .text)))).bind fun tools =>
    (textsOf formats (some (.list
      ((skill.normalized skillId).applicableModes.map .text)))).bind fun modes =>
    (textsOf formats (some (.list
      ((skill.normalized skillId).scenarios.map .text)))).map fun scenarios =>
        SkillRecord.mk (normalizeIdentifier (textOr formats (some (.text skillId)) stem))
          ⟨textOr formats (some (.text (skill.normalized skillId).title))
            (normalizeIdentifier (textOr formats (some (.text skillId)) stem)),
            trim (textOr formats (some (.text (skill.normalized skillId).summary)) []),
            trim ('\n' :: trim skill.content), tools, modes, scenarios⟩) = _
  rw [identifier, title, summary, rest]
  show ((textsOf formats (some (.list ((normalizedList skill.recommendedTools).map
    .text)))).bind fun tools => (textsOf formats (some (.list
      ((normalizedList skill.applicableModes).map .text)))).bind fun modes =>
        (textsOf formats (some (.list ((normalizedList skill.scenarios).map .text)))).map _) = _
  rw [texts, texts, texts]
  rfl

end

end MeetYou.SkillRegistry
