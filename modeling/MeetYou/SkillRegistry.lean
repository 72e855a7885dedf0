import Mathlib.Data.Char
import Mathlib.Data.List.Lex
import MeetYou.SkillFiles
import MeetYou.Foundation.Runs

/-!
# The skill store

Project skills are kept in files of two directories, built-in and mode skills in files that no
operation touches. A record is found by reading all files; of two records with one identifier
the first is taken. What the operations do is stated by a map from identifiers to skills, which
a step changes when its operation returns.

A write of a file may fail and leave anything in it, and a removal may fail. The map is kept by
every operation whose texts are plain and whose writes succeed, if in the beginning every file is
one that the registry could have written.
-/

namespace MeetYou.SkillRegistry

open Text Runs

/-! ## Files -/

/-- `_created_skill_dir` and `_skill_dir`. -/
inductive Directory
  | created
  | skills
  deriving DecidableEq

/-- A file with the extension of project skills: its directory and its stem. -/
abbrev Path := Directory × List Char

/-- The texts of the files. -/
abbrev Files := Dict Path (List Char)

/-- `_DEFAULT_MODE_SKILL_DEFINITIONS`, by their names. -/
def modeNames : List (List Char) := ["general".toList, "automation".toList, "danxi".toList]

/-- `_DEFAULT_REUSABLE_SKILL_DEFINITIONS`, by their identifiers. -/
def builtinIds : List (List Char) :=
  ["task_recognition".toList, "research_grounding".toList, "study_coaching".toList,
    "knowledge_synthesis".toList, "office_coordination".toList,
    "model_capability_refresh".toList, "hotspot_tracking".toList]

section
variable (formats : Formats)

/-- The record that a file holds, if it holds one. -/
def recordAt (files : Files) (path : Path) : Option SkillRecord :=
  (files.get path).bind (parseProjectSkillFile formats path.2)

/-- The files of a directory, sorted by their names. -/
def pathsIn (files : Files) (directory : Directory) : List Path :=
  (files.keys.filter fun path => path.1 = directory).mergeSort fun path other =>
    path.2 ++ ".md".toList ≤ other.2 ++ ".md".toList

/-- A record with the file it was read from. -/
abbrev Found := Path × SkillRecord

/-- The first record of every identifier. -/
def firstRecords (records : List Found) : List Found :=
  records.foldl (fun seen found =>
    if seen.any fun other => other.2.skillId = found.2.skillId then seen else seen ++ [found]) []

/-- `_iter_created_skill_records` -/
def iterCreatedSkillRecords (files : Files) : List Found :=
  firstRecords ((pathsIn files .created ++ pathsIn files .skills).filterMap fun path =>
    (recordAt formats files path).map fun record => (path, record))

/-- `_created_skill_record` -/
def createdSkillRecord (files : Files) (skillId : List Char) : Option Found :=
  (iterCreatedSkillRecords formats files).find? fun found =>
    found.2.skillId = normalizeIdentifier skillId

/-- What `load_skill` returns: a mode skill, a built-in skill, or a project skill with its
fields. -/
inductive Loaded
  | mode (name : List Char)
  | builtin (skillId : List Char)
  | project (record : SkillRecord)
  deriving DecidableEq

/-- `load_skill` -/
def loadSkill (files : Files) (skillId : List Char) : Option Loaded :=
  let normalizedId := normalizeIdentifier skillId
  if modeStart.isPrefixOf normalizedId then
    let name := trim (normalizedId.drop modeStart.length)
    if name ∈ modeNames then some (.mode name) else none
  else if normalizedId ∈ builtinIds then some (.builtin normalizedId)
  else (createdSkillRecord formats files normalizedId).map fun found => .project found.2

/-! ## Operations -/

/-- How the file operations of a call end: a write may raise and leave the file as it was or with
other contents, a removal may raise. -/
structure Faults where
  firstUnlink : Bool
  write : Option (Option (List Char))
  lastUnlink : Bool

/-- The files after a call, and whether it has raised. -/
structure Result where
  files : Files
  raised : Bool

/-- `_write_skill_file` at a path. -/
def writeSkillFile (files : Files) (skillId : List Char) (skill : Skill) (path : Path)
    (fault : Option (Option (List Char))) : Result :=
  match renderSkillFile formats.reals skillId skill with
  | none => ⟨files, true⟩
  | some text => match fault with
    | some none => ⟨files, true⟩
    | some (some left) => ⟨files.set path left, true⟩
    | none =>
      let files := files.set path text
      ⟨files, (loadSkill formats files skillId).isNone⟩

/-- No reusable skill has the identifier. -/
def refusedId (skillId : List Char) : Bool := skillId = [] || modeStart.isPrefixOf skillId

/-- `create_skill` -/
def createSkill (files : Files) (skillId : List Char) (skill : Skill) (overwrite : Bool)
    (faults : Faults) : Result :=
  let normalizedId := normalizeIdentifier (if skillId = [] then skill.title else skillId)
  if refusedId normalizedId then ⟨files, true⟩
  else
    let existing := loadSkill formats files normalizedId
    let existingCreated := createdSkillRecord formats files normalizedId
    if existing.isSome && !overwrite then ⟨files, true⟩
    else if existing.isSome && existingCreated.isNone then ⟨files, true⟩
    else
      let path := match existingCreated with
        | some found => found.1
        | none => (.created, displayFileName normalizedId)
      if (files.get path).isSome && existingCreated.isNone && !overwrite then ⟨files, true⟩
      else writeSkillFile formats files normalizedId skill path faults.write

/-- The fields that an update gives. -/
structure Changes where
  title : Option (List Char)
  summary : Option (List Char)
  content : Option (List Char)
  recommendedTools : Option (List (List Char))
  applicableModes : Option (List (List Char))
  scenarios : Option (List (List Char))

/-- The fields of a skill with those that are given in their place. -/
def Changes.appliedTo (changes : Changes) (skill : Skill) : Skill where
  title := changes.title.getD skill.title
  summary := changes.summary.getD skill.summary
  content := changes.content.getD skill.content
  recommendedTools := changes.recommendedTools.getD skill.recommendedTools
  applicableModes := changes.applicableModes.getD skill.applicableModes
  scenarios := changes.scenarios.getD skill.scenarios

/-- A new title alone. -/
def Changes.ofTitle (title : Option (List Char)) : Changes := ⟨title, none, none, none, none, none⟩

/-- `update_skill` -/
def updateSkill (files : Files) (skillId : List Char) (changes : Changes) (faults : Faults) :
    Result :=
  match createdSkillRecord formats files skillId with
  | none => ⟨files, true⟩
  | some (path, record) =>
    writeSkillFile formats files record.skillId (changes.appliedTo record.skill) path faults.write

/-- The new file of a renamed skill, and the removal of the old one. -/
def moveSkill (files : Files) (old : Found) (newId : List Char) (title : Option (List Char))
    (faults : Faults) : Result :=
  let written := writeSkillFile formats files newId ((Changes.ofTitle title).appliedTo old.2.skill)
    (.created, displayFileName newId) faults.write
  if written.raised then written
  else if faults.lastUnlink then ⟨written.files, true⟩
  else ⟨written.files.pop old.1, false⟩

/-- `rename_skill` -/
def renameSkill (files : Files) (skillId newSkillId : List Char) (title : Option (List Char))
    (overwrite : Bool) (faults : Faults) : Result :=
  match createdSkillRecord formats files skillId with
  | none => ⟨files, true⟩
  | some old =>
    let newId := normalizeIdentifier newSkillId
    if refusedId newId then ⟨files, true⟩
    else if newId = old.2.skillId then
      if title.isSome then
        updateSkill formats files old.2.skillId (Changes.ofTitle title) faults
      else ⟨files, false⟩
    else
      let existing := loadSkill formats files newId
      let existingCreated := createdSkillRecord formats files newId
      if existing.isSome && !overwrite then ⟨files, true⟩
      else if existing.isSome && existingCreated.isNone then ⟨files, true⟩
      else if (files.get (.created, displayFileName newId)).isSome && existingCreated.isNone &&
          !overwrite then ⟨files, true⟩
      else match existingCreated with
        | none => moveSkill formats files old newId title faults
        | some found =>
          if found.1 = old.1 then moveSkill formats files old newId title faults
          else if faults.firstUnlink then ⟨files, true⟩
          else moveSkill formats (files.pop found.1) old newId title faults

/-- `delete_skill` -/
def deleteSkill (files : Files) (skillId : List Char) (faults : Faults) : Result :=
  match createdSkillRecord formats files skillId with
  | none => ⟨files, true⟩
  | some found => if faults.lastUnlink then ⟨files, true⟩ else ⟨files.pop found.1, false⟩

/-- What the registry is asked to do. -/
inductive Operation
  | create (skillId : List Char) (skill : Skill) (overwrite : Bool)
  | update (skillId : List Char) (changes : Changes)
  | rename (skillId newSkillId : List Char) (title : Option (List Char)) (overwrite : Bool)
  | delete (skillId : List Char)

/-- The operation on the files, with what may fail. -/
def Operation.run (operation : Operation) (files : Files) (faults : Faults) : Result :=
  match operation with
  | .create skillId skill overwrite => createSkill formats files skillId skill overwrite faults
  | .update skillId changes => updateSkill formats files skillId changes faults
  | .rename skillId newSkillId title overwrite =>
    renameSkill formats files skillId newSkillId title overwrite faults
  | .delete skillId => deleteSkill formats files skillId faults

/-! ## The map -/

/-- Project skills by their identifiers. -/
abbrev SkillMap := List Char → Option Skill

/-- What an operation that returns does to the map. -/
def Operation.effect (operation : Operation) (map : SkillMap) : SkillMap :=
  match operation with
  | .create skillId skill _ =>
    let normalizedId := normalizeIdentifier (if skillId = [] then skill.title else skillId)
    Function.update map normalizedId (some (skill.written normalizedId))
  | .update skillId changes =>
    let normalizedId := normalizeIdentifier skillId
    Function.update map normalizedId
      ((map normalizedId).map fun skill => (changes.appliedTo skill).written normalizedId)
  | .rename skillId newSkillId title _ =>
    let oldId := normalizeIdentifier skillId
    let newId := normalizeIdentifier newSkillId
    let renamed := (map oldId).map fun skill => ((Changes.ofTitle title).appliedTo skill).written newId
    Function.update (Function.update map oldId none) newId renamed
  | .delete skillId => Function.update map (normalizeIdentifier skillId) none

/-- What the map shows under an identifier: the mode and built-in skills are not in it. -/
def shown (map : SkillMap) (normalizedId : List Char) : Option Loaded :=
  if modeStart.isPrefixOf normalizedId then
    let name := trim (normalizedId.drop modeStart.length)
    if name ∈ modeNames then some (.mode name) else none
  else if normalizedId ∈ builtinIds then some (.builtin normalizedId)
  else (map normalizedId).map fun skill => .project ⟨normalizedId, skill⟩

/-- The files, and the map that the operations describe. -/
structure State where
  files : Files
  map : SkillMap

/-- An operation changes the map if it returns. -/
def step (state : State) (action : Operation × Faults) : Option State :=
  let result := action.1.run formats state.files action.2
  some ⟨result.files, if result.raised then state.map else action.1.effect state.map⟩

/-- Every skill that is loaded is the one that the map has. -/
def Refines (state : State) : Prop :=
  ∀ skillId, loadSkill formats state.files skillId =
    shown state.map (normalizeIdentifier skillId)

/-- The map of the files, whose keys are normalised. -/
def mapOf (files : Files) : SkillMap := fun skillId =>
  if normalizeIdentifier skillId = skillId then
    (createdSkillRecord formats files skillId).map fun found => found.2.skill
  else none

end

/-! ## Sound files -/

/-- A record that the registry could have written. -/
structure KeptRecord (record : SkillRecord) : Prop where
  skillId : IsReusableId record.skillId
  own : record.skillId ∉ builtinIds
  written : record.skill.written record.skillId = record.skill
  plain : Plain record.skill
  summary : record.skill.summary ≠ []
  content : record.skill.content ≠ []

/-- No two files have one identifier, a created skill stands in the file of its name, and every
record could have been written. -/
structure Sound (formats : Formats) (files : Files) : Prop where
  distinct : ∀ path other record also, recordAt formats files path = some record →
    recordAt formats files other = some also → record.skillId = also.skillId → path = other
  named : ∀ stem record, recordAt formats files (.created, stem) = some record →
    stem = displayFileName record.skillId
  kept : ∀ path record, recordAt formats files path = some record → KeptRecord record

/-- The map has the records of the files. -/
def Holds (formats : Formats) (files : Files) (map : SkillMap) : Prop :=
  ∀ skillId skill, map skillId = some skill ↔
    ∃ path, recordAt formats files path = some ⟨skillId, skill⟩

section
variable {formats : Formats} {files : Files}

theorem mem_pathsIn (files : Files) (path : Path) :
    path ∈ pathsIn files .created ++ pathsIn files .skills ↔ path ∈ files.keys := by
  unfold pathsIn
  rw [List.mem_append, List.mem_mergeSort, List.mem_mergeSort, List.mem_filter, List.mem_filter]
  obtain ⟨directory, stem⟩ := path
  cases directory <;> simp

/-- The first records are among the records. -/
theorem firstRecords_subset (records : List Found) :
    ∀ found ∈ firstRecords records, found ∈ records := by
  have among : ∀ (records seen : List Found), ∀ found ∈ records.foldl (fun seen found =>
      if seen.any fun other => other.2.skillId = found.2.skillId then seen else seen ++ [found])
      seen, found ∈ seen ∨ found ∈ records := by
    intro records
    induction records with
    | nil => exact fun seen found member => Or.inl member
    | cons first rest inductionHypothesis =>
      intro seen found member
      rw [List.foldl_cons] at member
      rcases inductionHypothesis _ found member with before | later
      · split at before
        · exact Or.inl before
        · rcases List.mem_append.mp before with earlier | new
          · exact Or.inl earlier
          · exact Or.inr (List.mem_cons.mpr (Or.inl (List.mem_singleton.mp new)))
      · exact Or.inr (List.mem_cons_of_mem _ later)
  intro found member
  rcases among records [] found member with before | among_
  · cases before
  · exact among_

/-- Every identifier of a record has a first record. -/
theorem firstRecords_any (records : List Found) {found : Found} (member : found ∈ records) :
    ∃ first ∈ firstRecords records, first.2.skillId = found.2.skillId := by
  have kept : ∀ (records seen : List Found), ∀ first ∈ seen, first ∈ records.foldl
      (fun seen found => if seen.any fun other => other.2.skillId = found.2.skillId then seen
        else seen ++ [found]) seen := by
    intro records
    induction records with
    | nil => exact fun _ _ member => member
    | cons next rest inductionHypothesis =>
      intro seen first member
      refine inductionHypothesis _ first ?_
      dsimp only
      split
      · exact member
      · exact List.mem_append_left _ member
  suffices general : ∀ seen : List Found, ∃ first ∈ records.foldl (fun seen found =>
      if seen.any fun other => other.2.skillId = found.2.skillId then seen else seen ++ [found])
      seen, first.2.skillId = found.2.skillId from general []
  induction records with
  | nil => cases member
  | cons next rest inductionHypothesis =>
    intro seen
    rw [List.foldl_cons]
    rcases List.mem_cons.mp member with rfl | later
    · split
      case isTrue before =>
        obtain ⟨first, inside, same⟩ := List.any_eq_true.mp before
        exact ⟨first, kept rest seen first inside, of_decide_eq_true same⟩
      case isFalse =>
        exact ⟨found, kept rest _ found (List.mem_append_right _ List.mem_cons_self), rfl⟩
    · exact inductionHypothesis later _

theorem recordAt_key {path : Path} {record : SkillRecord}
    (found : recordAt formats files path = some record) : path ∈ files.keys := by
  obtain ⟨text, present, _⟩ := Option.bind_eq_some_iff.mp found
  by_contra absent
  rw [(Dict.get_none_iff files path).mpr absent] at present
  cases present

/-- In sound files a record is found by its identifier. -/
theorem createdSkillRecord_iff (sound : Sound formats files) (skillId : List Char) (path : Path)
    (record : SkillRecord) : createdSkillRecord formats files skillId = some (path, record) ↔
      recordAt formats files path = some record ∧
        record.skillId = normalizeIdentifier skillId := by
  have listed : ∀ found : Found, found ∈ (pathsIn files .created ++
      pathsIn files .skills).filterMap (fun path =>
        (recordAt formats files path).map fun record => (path, record)) ↔
          recordAt formats files found.1 = some found.2 := by
    rintro ⟨place, also⟩
    rw [List.mem_filterMap]
    constructor
    · rintro ⟨other, _, made⟩
      obtain ⟨read, present, same⟩ := Option.map_eq_some_iff.mp made
      cases same
      exact present
    · intro present
      refine ⟨place, (mem_pathsIn files place).mpr (recordAt_key present), ?_⟩
      rw [present]
      rfl
  have one : ∀ found : Found, createdSkillRecord formats files skillId = some found →
      recordAt formats files found.1 = some found.2 ∧
        found.2.skillId = normalizeIdentifier skillId := by
    intro found first
    unfold createdSkillRecord at first
    have test := List.find?_some first
    exact ⟨(listed found).mp (firstRecords_subset _ found (List.mem_of_find?_eq_some first)),
      of_decide_eq_true test⟩
  constructor
  · exact one (path, record)
  · rintro ⟨present, identified⟩
    obtain ⟨first, inside, same⟩ := firstRecords_any _ ((listed (path, record)).mpr present)
    cases found : createdSkillRecord formats files skillId with
    | none =>
      have missing := List.find?_eq_none.mp found first inside
      exact absurd (decide_eq_true (same.trans identified)) missing
    | some other =>
      obtain ⟨place, also⟩ := other
      obtain ⟨present', identified'⟩ := one (place, also) found
      obtain rfl := sound.distinct place path also record present' present
        (identified'.trans identified.symm)
      rw [present] at present'
      cases present'
      rfl

/-- No file has a record under an identifier that is not found. -/
theorem createdSkillRecord_none (sound : Sound formats files) {skillId : List Char}
    (missing : createdSkillRecord formats files skillId = none) {path : Path}
    {record : SkillRecord} (present : recordAt formats files path = some record) :
    record.skillId ≠ normalizeIdentifier skillId := by
  intro identified
  rw [(createdSkillRecord_iff sound skillId path record).mpr ⟨present, identified⟩] at missing
  cases missing

theorem recordAt_set (files : Files) (path : Path) (text : List Char) (tested : Path) :
    recordAt formats (files.set path text) tested =
      if tested = path then parseProjectSkillFile formats path.2 text
      else recordAt formats files tested := by
  unfold recordAt
  split
  case isTrue same =>
    subst same
    rw [Dict.get_set_self]
    rfl
  case isFalse different => rw [Dict.get_set_ne _ _ (Ne.symm different)]

theorem recordAt_pop (files : Files) (path tested : Path) :
    recordAt formats (files.pop path) tested =
      if tested = path then none else recordAt formats files tested := by
  unfold recordAt
  split
  case isTrue same =>
    subst same
    rw [Dict.get_pop_self]
    rfl
  case isFalse different => rw [Dict.get_pop_ne _ (Ne.symm different)]

/-- What is loaded from sound files is what their map shows. -/
theorem refines_of_holds {map : SkillMap} (sound : Sound formats files)
    (holds : Holds formats files map) : Refines formats ⟨files, map⟩ := by
  intro skillId
  unfold loadSkill shown
  dsimp only
  split
  · rfl
  · split
    · rfl
    case isFalse.isFalse notMode _ =>
      have normal : normalizeIdentifier (normalizeIdentifier skillId) =
          normalizeIdentifier skillId := by
        rcases normalizeIdentifier_cases skillId with none_ | mode | is
        · rw [none_]
          rfl
        · exact absurd mode notMode
        · exact normalizeIdentifier_self is
      cases found : createdSkillRecord formats files (normalizeIdentifier skillId) with
      | none =>
        cases held : map (normalizeIdentifier skillId) with
        | none => rfl
        | some skill =>
          obtain ⟨path, present⟩ := (holds _ skill).mp held
          exact absurd normal.symm (createdSkillRecord_none sound found present)
      | some other =>
        obtain ⟨path, identifier, skill⟩ := other
        obtain ⟨present, identified⟩ := (createdSkillRecord_iff sound _ _ _).mp found
        rw [normal] at identified
        dsimp only at identified
        subst identified
        rw [(holds _ skill).mpr ⟨path, present⟩]
        rfl

theorem mapOf_holds (sound : Sound formats files) : Holds formats files (mapOf formats files) := by
  intro skillId skill
  unfold mapOf
  constructor
  · intro held
    split at held
    case isFalse => cases held
    case isTrue normal =>
      obtain ⟨⟨path, identifier, also⟩, found, same⟩ := Option.map_eq_some_iff.mp held
      obtain ⟨present, identified⟩ := (createdSkillRecord_iff sound _ _ _).mp found
      dsimp only at same identified
      subst same
      rw [normal] at identified
      subst identified
      exact ⟨path, present⟩
  · rintro ⟨path, present⟩
    have normal := normalizeIdentifier_self (sound.kept path _ present).skillId
    dsimp only at normal
    rw [if_pos normal, (createdSkillRecord_iff sound skillId path ⟨skillId, skill⟩).mpr
      ⟨present, normal.symm⟩]
    rfl

/-! ## Plain texts -/

/-- The texts that an update gives are plain. -/
structure Changes.Plain (changes : Changes) : Prop where
  title : ∀ text ∈ changes.title, Unbroken text
  summary : ∀ text ∈ changes.summary, Unbroken text
  content : ∀ text ∈ changes.content, '\r' ∉ trim text
  recommendedTools : ∀ items ∈ changes.recommendedTools, ∀ item ∈ items, Unbroken item
  applicableModes : ∀ items ∈ changes.applicableModes, ∀ item ∈ items, Unbroken item
  scenarios : ∀ items ∈ changes.scenarios, ∀ item ∈ items, Unbroken item

/-- What holds of a given value and of the value before holds of the chosen one. -/
theorem getD_property {α : Type} {property : α → Prop} {given : Option α} {before : α}
    (each : ∀ value ∈ given, property value) (else_ : property before) :
    property (given.getD before) := by
  cases given with
  | none => exact else_
  | some value => exact each value rfl

theorem over_plain {changes : Changes} {skill : Skill} (plain : changes.Plain)
    (before : SkillRegistry.Plain skill) : SkillRegistry.Plain (changes.appliedTo skill) where
  title := getD_property plain.title before.title
  summary := getD_property plain.summary before.summary
  content := getD_property plain.content before.content
  recommendedTools := getD_property plain.recommendedTools before.recommendedTools
  applicableModes := getD_property plain.applicableModes before.applicableModes
  scenarios := getD_property plain.scenarios before.scenarios

theorem unbroken_identifier {skillId : List Char} (is : IsReusableId skillId) :
    Unbroken skillId := by
  unfold Unbroken
  rw [trim_identifier is]
  exact identifier_whole is

theorem normalizedList_unbroken {items : List (List Char)}
    (unbroken : ∀ item ∈ items, Unbroken item) : ∀ item ∈ normalizedList items, Unbroken item := by
  intro item member
  obtain ⟨original, inside, rfl⟩ := List.mem_map.mp (List.mem_of_mem_filter member)
  exact unbroken_trim (unbroken original inside)

/-- The fields of a plain skill stay plain when they are written. -/
theorem normalized_plain {skillId : List Char} {skill : Skill} (is : IsReusableId skillId)
    (plain : SkillRegistry.Plain skill) : SkillRegistry.Plain (skill.normalized skillId) where
  title := by
    refine unbroken_trim ?_
    split
    · exact unbroken_identifier is
    · exact plain.title
  summary := unbroken_trim plain.summary
  content := by
    show '\r' ∉ trim (trim skill.content)
    rw [trim_trim]
    exact plain.content
  recommendedTools := normalizedList_unbroken plain.recommendedTools
  applicableModes := normalizedList_unbroken plain.applicableModes
  scenarios := normalizedList_unbroken plain.scenarios

theorem written_title (skillId : List Char) (skill : Skill) : (skill.written skillId).title =
    if (skill.normalized skillId).title = [] then skillId
    else (skill.normalized skillId).title := rfl

/-- What has been written could be written again. -/
theorem written_kept {skillId : List Char} {skill : Skill} (is : IsReusableId skillId)
    (own : skillId ∉ builtinIds) (plain : SkillRegistry.Plain skill)
    (summarised : trim skill.summary ≠ []) (filled : trim skill.content ≠ []) :
    KeptRecord ⟨skillId, skill.written skillId⟩ := by
  have normalized := normalized_plain is plain
  refine ⟨is, own, ?_, ?_, summarised, filled⟩
  · have title : ((skill.written skillId).written skillId).title =
        (skill.written skillId).title := by
      have some_ : (skill.written skillId).title ≠ [] := by
        rw [written_title]
        split
        · exact is.some_
        case isFalse notBlank => exact notBlank
      have trimmed : trim (skill.written skillId).title = (skill.written skillId).title := by
        rw [written_title]
        split
        · exact trim_identifier is
        · exact trim_trim _
      have inner : ((skill.written skillId).normalized skillId).title =
          (skill.written skillId).title := by
        show trim (if (skill.written skillId).title = [] then skillId
          else (skill.written skillId).title) = _
        rw [if_neg some_, trimmed]
      rw [written_title skillId (skill.written skillId), inner, if_neg some_]
    have summary : ((skill.written skillId).written skillId).summary =
        (skill.written skillId).summary := trim_trim _
    have content : ((skill.written skillId).written skillId).content =
        (skill.written skillId).content := trim_trim _
    have tools : ((skill.written skillId).written skillId).recommendedTools =
        (skill.written skillId).recommendedTools := normalizedList_self _
    have modes : ((skill.written skillId).written skillId).applicableModes =
        (skill.written skillId).applicableModes := normalizedList_self _
    have scenarios : ((skill.written skillId).written skillId).scenarios =
        (skill.written skillId).scenarios := normalizedList_self _
    exact Skill.mk.injEq .. ▸ ⟨title, summary, content, tools, modes, scenarios⟩
  · refine { normalized with title := ?_ }
    rw [written_title]
    split
    · exact unbroken_identifier is
    · exact normalized.title

/-! ## Writing and removing -/

/-- The files have the record at the path, and elsewhere what they had. -/
def HasAt (formats : Formats) (files next : Files) (path : Path) (record : Option SkillRecord) :
    Prop :=
  ∀ tested, recordAt formats next tested =
    if tested = path then record else recordAt formats files tested

/-- A new record at a path keeps files sound, if it is the only one of its identifier. -/
theorem sound_hasAt {next : Files} {path : Path} {record : SkillRecord}
    (sound : Sound formats files) (hasAt : HasAt formats files next path (some record))
    (kept : KeptRecord record)
    (single : ∀ other also, recordAt formats files other = some also →
      also.skillId = record.skillId → other = path)
    (named : path.1 = .created → path.2 = displayFileName record.skillId) :
    Sound formats next := by
  have cases_ : ∀ tested also, recordAt formats next tested = some also →
      (tested = path ∧ also = record) ∨
        (tested ≠ path ∧ recordAt formats files tested = some also) := by
    intro tested also present
    rw [hasAt] at present
    split at present
    case isTrue same =>
      cases present
      exact Or.inl ⟨same, rfl⟩
    case isFalse different => exact Or.inr ⟨different, present⟩
  refine ⟨?_, ?_, ?_⟩
  · intro tested other one two onePresent twoPresent same
    rcases cases_ tested one onePresent with ⟨rfl, rfl⟩ | ⟨different, before⟩
    · rcases cases_ other two twoPresent with ⟨rfl, rfl⟩ | ⟨elsewhere, also⟩
      · rfl
      · exact absurd (single other two also same.symm) elsewhere
    · rcases cases_ other two twoPresent with ⟨rfl, rfl⟩ | ⟨elsewhere, also⟩
      · exact absurd (single tested one before same) different
      · exact sound.distinct tested other one two before also same
  · intro stem also present
    rcases cases_ _ also present with ⟨rfl, rfl⟩ | ⟨_, before⟩
    · exact named rfl
    · exact sound.named stem also before
  · intro tested also present
    rcases cases_ tested also present with ⟨_, rfl⟩ | ⟨_, before⟩
    · exact kept
    · exact sound.kept tested also before

/-- Removing a file keeps files sound. -/
theorem sound_pop (sound : Sound formats files) (path : Path) :
    Sound formats (files.pop path) := by
  have before : ∀ tested also, recordAt formats (files.pop path) tested = some also →
      recordAt formats files tested = some also := by
    intro tested also present
    rw [recordAt_pop] at present
    split at present
    · cases present
    · exact present
  refine ⟨?_, ?_, ?_⟩
  · exact fun tested other one two first second same =>
      sound.distinct tested other one two (before _ _ first) (before _ _ second) same
  · exact fun stem also present => sound.named stem also (before _ _ present)
  · exact fun tested also present => sound.kept tested also (before _ _ present)

/-- A write that succeeds puts the written skill in its file. -/
theorem writeSkillFile_spec {skillId : List Char} {skill : Skill} {path : Path}
    (sound : Sound formats files) (is : IsReusableId skillId) (own : skillId ∉ builtinIds)
    (plain : SkillRegistry.Plain skill)
    (single : ∀ other also, recordAt formats files other = some also →
      also.skillId = skillId → other = path)
    (named : path.1 = .created → path.2 = displayFileName skillId) :
    let result := writeSkillFile formats files skillId skill path none
    (result.raised = true ∧ result.files = files ∧ (trim skill.summary = [] ∨
      trim skill.content = [])) ∨
      (result.raised = false ∧ Sound formats result.files ∧
        HasAt formats files result.files path (some ⟨skillId, skill.written skillId⟩)) := by
  dsimp only
  unfold writeSkillFile
  cases rendered : renderSkillFile formats.reals skillId skill with
  | none =>
    refine Or.inl ⟨rfl, rfl, ?_⟩
    unfold renderSkillFile at rendered
    dsimp only at rendered
    split at rendered
    case isTrue refused => exact absurd refused (not_or.mpr ⟨is.some_, is.notMode⟩)
    case isFalse =>
      split at rendered
      case isTrue blank => exact blank
      case isFalse => cases rendered
  | some text =>
    have content : (trim skill.summary ≠ [] ∧ trim skill.content ≠ []) ∧
        text = fileText formats.reals skillId (skill.normalized skillId) := by
      unfold renderSkillFile at rendered
      dsimp only at rendered
      split at rendered
      · cases rendered
      split at rendered
      · cases rendered
      case isFalse filled => exact ⟨not_or.mp filled, (Option.some.inj rendered).symm⟩
    have hasAt : HasAt formats files (files.set path text) path
        (some ⟨skillId, skill.written skillId⟩) := by
      intro tested
      rw [recordAt_set, content.2,
        parse_fileText formats is (normalized_plain is plain) content.1.2]
    have kept := written_kept is own plain content.1.1 content.1.2
    have after := sound_hasAt sound hasAt kept single named
    have loaded : loadSkill formats (files.set path text) skillId =
        some (.project ⟨skillId, skill.written skillId⟩) := by
      have found := (createdSkillRecord_iff after skillId path _).mpr
        ⟨(hasAt path).trans (if_pos rfl), (normalizeIdentifier_self is).symm⟩
      unfold loadSkill
      dsimp only
      rw [normalizeIdentifier_self is, if_neg is.notMode, if_neg own, found]
      rfl
    refine Or.inr ⟨?_, after, hasAt⟩
    dsimp only
    rw [loaded]
    rfl

end

end MeetYou.SkillRegistry
