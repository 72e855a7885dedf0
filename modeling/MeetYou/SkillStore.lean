import MeetYou.SkillRegistry

/-!
# The skill store is a map

Every operation with plain texts keeps the files sound and changes what they hold as it says,
or raises and changes nothing. Between the headings of a file the reader looks for a closing
brace by a regular expression: a text in which a brace stands in front of the second heading
ends the metadata there, and the skill that is written with it is lost.
-/

namespace MeetYou.SkillRegistry

open Text Runs JsonText

/-- After a call the files are sound and hold the map, changed if the call has returned. -/
def Kept (formats : Formats) (result : Result) (map effect : SkillMap) : Prop :=
  Sound formats result.files ∧
    Holds formats result.files (if result.raised then map else effect)

/-- The texts of an operation are plain. -/
def Operation.Plain : Operation → Prop
  | .create _ skill _ => SkillRegistry.Plain skill
  | .update _ changes => changes.Plain
  | .rename _ _ title _ => (Changes.ofTitle title).Plain
  | .delete _ => True

/-- The texts are plain, the file is written and the last removal succeeds. -/
def Clean (_ : State) (action : Operation × Faults) : Prop :=
  action.1.Plain ∧ action.2.write = none ∧ action.2.lastUnlink = false

section
variable {formats : Formats} {files : Files} {map : SkillMap}

/-- A new record at a path replaces what the map has under its identifier. -/
theorem holds_hasAt {next : Files} {path : Path} {skillId : List Char} {skill : Skill}
    (holds : Holds formats files map)
    (hasAt : HasAt formats files next path (some ⟨skillId, skill⟩))
    (single : ∀ other also, recordAt formats files other = some also →
      also.skillId = skillId → other = path)
    (displaced : ∀ also, recordAt formats files path = some also → also.skillId = skillId) :
    Holds formats next (Function.update map skillId (some skill)) := by
  intro asked also
  by_cases same : asked = skillId
  · subst same
    rw [Function.update_self]
    constructor
    · rintro held
      cases held
      exact ⟨path, (hasAt path).trans (if_pos rfl)⟩
    · rintro ⟨other, present⟩
      rw [hasAt] at present
      split at present
      · cases present
        rfl
      case isFalse elsewhere => exact absurd (single other _ present rfl) elsewhere
  · rw [Function.update_of_ne same, holds asked also]
    constructor
    · rintro ⟨other, present⟩
      refine ⟨other, (hasAt other).trans ((if_neg ?_).trans present)⟩
      rintro rfl
      exact same (displaced _ present)
    · rintro ⟨other, present⟩
      rw [hasAt] at present
      split at present
      · cases present
        exact absurd rfl same
      · exact ⟨other, present⟩

/-- Removing the file of a record removes its identifier from the map. -/
theorem holds_pop (sound : Sound formats files) (holds : Holds formats files map) {path : Path}
    {record : SkillRecord} (there : recordAt formats files path = some record) :
    Holds formats (files.pop path) (Function.update map record.skillId none) := by
  intro asked also
  by_cases same : asked = record.skillId
  · subst same
    rw [Function.update_self]
    constructor
    · intro held
      cases held
    rintro ⟨other, present⟩
    rw [recordAt_pop] at present
    split at present
    · cases present
    case isFalse elsewhere =>
      exact absurd (sound.distinct other path _ record present there rfl) elsewhere
  · rw [Function.update_of_ne same, holds asked also]
    constructor
    · rintro ⟨other, present⟩
      refine ⟨other, (recordAt_pop files path other).trans ((if_neg ?_).trans present)⟩
      rintro rfl
      rw [there] at present
      cases present
      exact same rfl
    · rintro ⟨other, present⟩
      rw [recordAt_pop] at present
      split at present
      · cases present
      · exact ⟨other, present⟩

/-- Writing the only file of an identifier. -/
theorem writeSkillFile_kept {skillId : List Char} {skill : Skill} {path : Path}
    (sound : Sound formats files) (holds : Holds formats files map) (is : IsReusableId skillId)
    (own : skillId ∉ builtinIds) (plain : SkillRegistry.Plain skill)
    (single : ∀ other also, recordAt formats files other = some also →
      also.skillId = skillId → other = path)
    (named : path.1 = .created → path.2 = displayFileName skillId)
    (displaced : ∀ also, recordAt formats files path = some also → also.skillId = skillId) :
    Kept formats (writeSkillFile formats files skillId skill path none) map
      (Function.update map skillId (some (skill.written skillId))) := by
  rcases writeSkillFile_spec sound is own plain single named with
    ⟨raised, same, _⟩ | ⟨returned, after, hasAt⟩
  · unfold Kept
    rw [raised, same]
    exact ⟨sound, holds⟩
  · unfold Kept
    rw [returned]
    exact ⟨after, holds_hasAt holds hasAt single displaced⟩

theorem kept_of_raised (sound : Sound formats files) (holds : Holds formats files map)
    (effect : SkillMap) : Kept formats ⟨files, true⟩ map effect := ⟨sound, holds⟩

/-- An identifier that is not refused is that of a reusable skill. -/
theorem isReusableId_of_not_refused {value : List Char}
    (accepted : ¬refusedId (normalizeIdentifier value) = true) :
    IsReusableId (normalizeIdentifier value) := by
  unfold refusedId at accepted
  rw [Bool.or_eq_true, not_or, decide_eq_true_eq] at accepted
  rcases normalizeIdentifier_cases value with none_ | mode | is
  · exact absurd none_ accepted.1
  · exact absurd mode accepted.2
  · exact is

/-- An identifier that is free, or that of a created skill, is not built in. -/
theorem own_of_free {skillId : List Char} (sound : Sound formats files)
    (is : IsReusableId skillId)
    (free : ¬((loadSkill formats files skillId).isSome && (createdSkillRecord formats files
      skillId).isNone) = true) : skillId ∉ builtinIds := by
  intro builtin
  cases found : createdSkillRecord formats files skillId with
  | none =>
    refine free ?_
    unfold loadSkill
    dsimp only
    rw [normalizeIdentifier_self is, if_neg is.notMode, if_pos builtin, found]
    rfl
  | some other =>
    obtain ⟨path, record⟩ := other
    obtain ⟨present, identified⟩ := (createdSkillRecord_iff sound _ _ _).mp found
    rw [normalizeIdentifier_self is] at identified
    exact (sound.kept path record present).own (identified ▸ builtin)

/-- The path of a created skill's name has no other record. -/
theorem displaced_of_named {skillId : List Char} (sound : Sound formats files)
    (is : IsReusableId skillId) {record : SkillRecord}
    (present : recordAt formats files (.created, displayFileName skillId) = some record) :
    record.skillId = skillId :=
  displayFileName_injective (sound.kept _ record present).skillId is
    (sound.named _ record present).symm

theorem createSkill_kept (sound : Sound formats files) (holds : Holds formats files map)
    (skillId : List Char) {skill : Skill} (plain : SkillRegistry.Plain skill) (overwrite : Bool)
    {faults : Faults} (written : faults.write = none) :
    Kept formats (createSkill formats files skillId skill overwrite faults) map
      ((Operation.create skillId skill overwrite).effect map) := by
  unfold createSkill Operation.effect
  dsimp only
  generalize (if skillId = [] then skill.title else skillId) = asked
  split
  · exact kept_of_raised sound holds _
  case isFalse accepted =>
  have is := isReusableId_of_not_refused accepted
  generalize normalizeIdentifier asked = newId at *
  split
  · exact kept_of_raised sound holds _
  split
  · exact kept_of_raised sound holds _
  case isFalse free =>
  have own := own_of_free sound is free
  rw [written]
  cases found : createdSkillRecord formats files newId with
  | none =>
    dsimp only
    split
    · exact kept_of_raised sound holds _
    have missing : ∀ other also, recordAt formats files other = some also →
        also.skillId ≠ newId := by
      intro other also present
      have different := createdSkillRecord_none sound found present
      rwa [normalizeIdentifier_self is] at different
    exact writeSkillFile_kept sound holds is own plain
      (fun other also present same => absurd same (missing other also present)) (fun _ => rfl)
      (fun also present => displaced_of_named sound is present)
  | some other =>
    obtain ⟨path, record⟩ := other
    obtain ⟨present, identified⟩ := (createdSkillRecord_iff sound _ _ _).mp found
    rw [normalizeIdentifier_self is] at identified
    dsimp only
    split
    · exact kept_of_raised sound holds _
    refine writeSkillFile_kept sound holds is own plain ?_ ?_ ?_
    · exact fun tested also there same =>
        sound.distinct tested path also record there present (same.trans identified.symm)
    · intro created
      obtain ⟨directory, stem⟩ := path
      cases created
      exact identified ▸ sound.named stem record present
    · intro also there
      rw [present] at there
      cases there
      exact identified

/-- The file of a created skill is written again. -/
theorem rewrite_kept (sound : Sound formats files) (holds : Holds formats files map)
    {path : Path} {record : SkillRecord} (present : recordAt formats files path = some record)
    {skill : Skill} (plain : SkillRegistry.Plain skill) :
    Kept formats (writeSkillFile formats files record.skillId skill path none) map
      (Function.update map record.skillId (some (skill.written record.skillId))) := by
  have kept := sound.kept path record present
  refine writeSkillFile_kept sound holds kept.skillId kept.own plain ?_ ?_ ?_
  · exact fun tested also there same => sound.distinct tested path also record there present same
  · intro created
    obtain ⟨directory, stem⟩ := path
    cases created
    exact sound.named stem record present
  · intro also there
    rw [present] at there
    cases there
    rfl

theorem updateSkill_kept (sound : Sound formats files) (holds : Holds formats files map)
    (skillId : List Char) {changes : Changes} (plain : changes.Plain) {faults : Faults}
    (written : faults.write = none) :
    Kept formats (updateSkill formats files skillId changes faults) map
      ((Operation.update skillId changes).effect map) := by
  unfold updateSkill
  split
  · exact kept_of_raised sound holds _
  case h_2 path record found =>
    obtain ⟨present, identified⟩ := (createdSkillRecord_iff sound _ _ _).mp found
    have kept := sound.kept path record present
    have held : map record.skillId = some record.skill := (holds _ _).mpr ⟨path, present⟩
    unfold Operation.effect
    dsimp only
    rw [written, ← identified, held]
    exact rewrite_kept sound holds present (over_plain plain kept.plain)

theorem deleteSkill_kept (sound : Sound formats files) (holds : Holds formats files map)
    (skillId : List Char) {faults : Faults} (removed : faults.lastUnlink = false) :
    Kept formats (deleteSkill formats files skillId faults) map
      ((Operation.delete skillId).effect map) := by
  unfold deleteSkill
  split
  · exact kept_of_raised sound holds _
  case h_2 found there =>
    obtain ⟨path, record⟩ := found
    obtain ⟨present, identified⟩ := (createdSkillRecord_iff sound _ _ _).mp there
    rw [if_neg (by rw [removed]; decide)]
    unfold Operation.effect
    dsimp only
    rw [← identified]
    exact ⟨sound_pop sound path, holds_pop sound holds present⟩

/-- A skill is moved to an identifier that no file has. -/
theorem moveSkill_kept (sound : Sound formats files) (holds : Holds formats files map)
    (old : Found) (present : recordAt formats files old.1 = some old.2) {newId : List Char}
    (is : IsReusableId newId) (own : newId ∉ builtinIds) (different : newId ≠ old.2.skillId)
    (free : ∀ path record, recordAt formats files path = some record → record.skillId ≠ newId)
    {title : Option (List Char)} (plain : (Changes.ofTitle title).Plain) {faults : Faults}
    (written : faults.write = none) (removed : faults.lastUnlink = false) :
    let result := moveSkill formats files old newId title faults
    result.raised = false ∧ Sound formats result.files ∧
      Holds formats result.files (Function.update (Function.update map newId
        (some (((Changes.ofTitle title).appliedTo old.2.skill).written newId))) old.2.skillId none) := by
  have kept := sound.kept old.1 old.2 present
  have single : ∀ other also, recordAt formats files other = some also →
      also.skillId = newId → other = (.created, displayFileName newId) :=
    fun other also there same => absurd same (free other also there)
  have displaced : ∀ also, recordAt formats files (.created, displayFileName newId) = some also →
      also.skillId = newId := fun also there => displaced_of_named sound is there
  have spec := writeSkillFile_spec sound is own
    (over_plain plain kept.plain) single (fun _ => rfl)
  rw [← written] at spec
  rcases spec with ⟨_, _, summary | content⟩ | ⟨returned, after, hasAt⟩
  · have same : trim old.2.skill.summary = old.2.skill.summary :=
      congrArg Skill.summary kept.written
    exact absurd (same.symm.trans summary) kept.summary
  · have same : trim old.2.skill.content = old.2.skill.content :=
      congrArg Skill.content kept.written
    exact absurd (same.symm.trans content) kept.content
  · have elsewhere : old.1 ≠ (.created, displayFileName newId) := by
      intro same
      rw [same] at present
      exact different (displaced _ present).symm
    have still := (hasAt old.1).trans ((if_neg elsewhere).trans present)
    unfold moveSkill
    dsimp only
    rw [if_neg (by rw [returned]; decide), if_neg (by rw [removed]; decide)]
    exact ⟨rfl, sound_pop after _, holds_pop after (holds_hasAt holds hasAt single displaced) still⟩

theorem renameSkill_kept (sound : Sound formats files) (holds : Holds formats files map)
    (skillId newSkillId : List Char) {title : Option (List Char)}
    (plain : (Changes.ofTitle title).Plain) (overwrite : Bool) {faults : Faults}
    (written : faults.write = none) (removed : faults.lastUnlink = false) :
    Kept formats (renameSkill formats files skillId newSkillId title overwrite faults) map
      ((Operation.rename skillId newSkillId title overwrite).effect map) := by
  unfold renameSkill
  split
  · exact kept_of_raised sound holds _
  case h_2 old there =>
  obtain ⟨oldPath, record⟩ := old
  obtain ⟨present, identified⟩ := (createdSkillRecord_iff sound _ _ _).mp there
  have kept := sound.kept oldPath record present
  have held : map record.skillId = some record.skill := (holds _ _).mpr ⟨oldPath, present⟩
  unfold Operation.effect
  dsimp only
  rw [← identified, held]
  split
  · exact kept_of_raised sound holds _
  case isFalse accepted =>
  have is := isReusableId_of_not_refused accepted
  generalize normalizeIdentifier newSkillId = newId at *
  split
  case isTrue same =>
    subst same
    rw [Function.update_idem]
    split
    case isTrue =>
      have updated := updateSkill_kept sound holds record.skillId plain written
      unfold Operation.effect at updated
      dsimp only at updated
      rw [normalizeIdentifier_self is, held] at updated
      exact updated
    case isFalse untitled =>
      cases title with
      | some given => exact absurd rfl untitled
      | none =>
        have same : ((Changes.ofTitle none).appliedTo record.skill).written record.skillId =
            record.skill := kept.written
        refine ⟨sound, ?_⟩
        show Holds formats files (Function.update map record.skillId (some
          (((Changes.ofTitle none).appliedTo record.skill).written record.skillId)))
        rw [same, ← held, Function.update_eq_self]
        exact holds
  case isFalse different =>
  split
  · exact kept_of_raised sound holds _
  split
  · exact kept_of_raised sound holds _
  case isFalse free =>
  have own := own_of_free sound is free
  split
  · exact kept_of_raised sound holds _
  cases found : createdSkillRecord formats files newId with
  | none =>
    have missing : ∀ other also, recordAt formats files other = some also →
        also.skillId ≠ newId := by
      intro other also presence
      have unlike := createdSkillRecord_none sound found presence
      rwa [normalizeIdentifier_self is] at unlike
    obtain ⟨returned, after, holding⟩ := moveSkill_kept sound holds
      (oldPath, record) present is own different missing plain written removed
    unfold Kept
    dsimp only
    rw [returned]
    refine ⟨after, ?_⟩
    rw [Function.update_comm different] at holding
    exact holding
  | some other =>
    obtain ⟨path, also⟩ := other
    obtain ⟨presence, equal⟩ := (createdSkillRecord_iff sound _ _ _).mp found
    rw [normalizeIdentifier_self is] at equal
    have apart : path ≠ oldPath := by
      rintro rfl
      rw [present] at presence
      cases presence
      exact different equal.symm
    dsimp only
    rw [if_neg apart]
    split
    · exact kept_of_raised sound holds _
    have fewer := sound_pop sound path
    have without := holds_pop sound holds presence
    have still := (recordAt_pop files path oldPath).trans ((if_neg (Ne.symm apart)).trans present)
    have missing : ∀ tested next, recordAt formats (files.pop path) tested = some next →
        next.skillId ≠ newId := by
      intro tested next presence' same
      rw [recordAt_pop] at presence'
      split at presence'
      · cases presence'
      case isFalse elsewhere =>
        exact elsewhere (sound.distinct tested path next also presence' presence
          (same.trans equal.symm))
    obtain ⟨returned, after, holding⟩ := moveSkill_kept fewer without
      (oldPath, record) still is own different missing plain written removed
    unfold Kept
    rw [returned]
    refine ⟨after, ?_⟩
    rw [equal, Function.update_idem, Function.update_comm different] at holding
    exact holding

/-- One clean call keeps the map. -/
theorem run_kept (sound : Sound formats files) (holds : Holds formats files map)
    (state : State) {action : Operation × Faults} (clean : Clean state action) :
    Kept formats (action.1.run formats files action.2) map (action.1.effect map) := by
  obtain ⟨plain, written, removed⟩ := clean
  obtain ⟨operation, faults⟩ := action
  cases operation with
  | create skillId skill overwrite =>
    exact createSkill_kept sound holds skillId plain overwrite written
  | update skillId changes => exact updateSkill_kept sound holds skillId plain written
  | rename skillId newSkillId title overwrite =>
    exact renameSkill_kept sound holds skillId newSkillId plain overwrite written removed
  | delete skillId => exact deleteSkill_kept sound holds skillId removed

/-- From sound files, clean calls load what the map has, whatever they write. -/
theorem run_refines (sound : Sound formats files) {actions : List (Operation × Faults)}
    (clean : Taking (step formats) Clean ⟨files, mapOf formats files⟩ actions) :
    Throughout (step formats) (Refines formats) ⟨files, mapOf formats files⟩ actions := by
  refine ⟨refines_of_holds sound (mapOf_holds sound), ?_⟩
  have stepped : ∀ state action next,
      (Sound formats state.files ∧ Holds formats state.files state.map) →
      (∀ next, step formats state action = some next → Clean state action) →
      step formats state action = some next →
      Sound formats next.files ∧ Holds formats next.files next.map := by
    intro state action next ⟨soundFiles, holds⟩ met taken
    have kept := run_kept soundFiles holds state (met next taken)
    obtain rfl := Option.some.inj taken
    exact kept
  refine Along.imp_of_invariant (fun state => Sound formats state.files ∧
    Holds formats state.files state.map) stepped ?_ ⟨sound, mapOf_holds sound⟩ clean
  intro state action held met next taken
  obtain ⟨soundFiles, holds⟩ := stepped state action next held met taken
  exact refines_of_holds soundFiles holds

end

/-! ## A run, and a skill that is lost -/

/-- Floats of which there is one. -/
def plainFormats : Formats where
  reals :=
    { Carrier := Unit
      write := fun _ => ['0', '.', '5']
      read := fun _ => ()
      written := fun _ => isReal_half
      read_write := fun _ => rfl }
  truthy _ := true
  str _ := []

def noFaults : Faults := ⟨false, none, false⟩

def noteSkill : Skill where
  title := "Notes".toList
  summary := "Keeps \x7bnotes\x7d".toList
  content := "Write them down.".toList
  recommendedTools := ["memory".toList]
  applicableModes := []
  scenarios := []

/-- A skill is created, gets a new summary and another identifier, and is deleted. -/
def noteActions : List (Operation × Faults) :=
  [(.create "my-notes".toList noteSkill false, noFaults),
    (.update "My notes".toList ⟨none, some "Short".toList, none, none, none, none⟩, noFaults),
    (.rename "my_notes".toList "Notes 2".toList (some "Other".toList) true, noFaults),
    (.delete "notes-2".toList, noFaults)]

/-- No files. -/
def noFiles : State := ⟨.empty, mapOf plainFormats .empty⟩

theorem run_refines_notes :
    Throughout (step plainFormats) (Refines plainFormats) noFiles
      noteActions := by
  have sound : Sound plainFormats .empty := by
    refine ⟨?_, ?_, ?_⟩
    · intro _ _ _ _ present
      cases present
    · intro _ _ present
      cases present
    · intro _ _ present
      cases present
  refine run_refines sound ?_
  refine along_of_mem (fun state action member => ?_) _
  intro _ _
  have plain : SkillRegistry.Plain noteSkill :=
    ⟨by decide, by decide, by decide, by decide, by decide, by decide⟩
  have summary : Changes.Plain ⟨none, some "Short".toList, none, none, none, none⟩ :=
    ⟨by simp, by simpa using (by decide), by simp, by simp, by simp, by simp⟩
  have title : (Changes.ofTitle (some "Other".toList)).Plain := by
    refine ⟨?_, by simp [Changes.ofTitle], by simp [Changes.ofTitle], by simp [Changes.ofTitle],
      by simp [Changes.ofTitle], by simp [Changes.ofTitle]⟩
    intro text given
    cases given
    decide
  rcases List.mem_cons.mp member with rfl | member
  · exact ⟨plain, rfl, rfl⟩
  rcases List.mem_cons.mp member with rfl | member
  · exact ⟨summary, rfl, rfl⟩
  rcases List.mem_cons.mp member with rfl | member
  · exact ⟨title, rfl, rfl⟩
  · obtain rfl := List.mem_singleton.mp member
    exact ⟨trivial, rfl, rfl⟩

/-- A summary with a brace in front of the words that end the metadata. -/
def brokenActions : List (Operation × Faults) :=
  [(.create "notes".toList noteSkill false, noFaults),
    (.update "notes".toList
      ⟨none, some "a\x7d [Skill Content] b".toList, none, none, none, none⟩, noFaults)]

/-- The update raises, and the skill is gone. -/
theorem brace_loses_skill :
    ¬Throughout (step plainFormats) (Refines plainFormats) noFiles
      brokenActions := by
  intro throughout
  obtain ⟨state, ran⟩ : ∃ state, run (step plainFormats) noFiles
      brokenActions = some state := ⟨_, rfl⟩
  have loaded := throughout.final ran "notes".toList
  have lost : ((run (step plainFormats) noFiles brokenActions).any
      fun state => loadSkill plainFormats state.files "notes".toList =
        shown state.map (normalizeIdentifier "notes".toList)) = false := by
    decide +kernel
  rw [ran] at lost
  rw [Option.any_some, decide_eq_false_iff_not] at lost
  exact lost loaded

end MeetYou.SkillRegistry
