import MeetYou.Foundation.Runs
import MeetYou.Foundation.SortedJson
import MeetYou.Foundation.TextFiles

/-!
# Runtime state in files

A runtime state is saved under a namespace and a key. The file backend makes a path of the
two, by a function that forgets most characters other than letters and digits, and writes the
file in place. The database backend keeps a row under one text made of the two.

Both are maps from pairs as long as no two pairs in use share a path or a row, and no save is
cut off in the middle of its file.
-/

namespace MeetYou.StateFiles

open JsonText TextFiles Text

/-! ## Paths -/

/-- A character that `_safe_file_part` does not replace. -/
def isPart (character : Char) : Bool :=
  character.isAlphanum || character = '_' || character = '.' || character = '-'

/-- A run of other characters becomes one underscore. -/
def replaceRuns : Bool → List Char → List Char
  | _, [] => []
  | inside, character :: rest =>
    if isPart character then character :: replaceRuns false rest
    else if inside then replaceRuns true rest
    else '_' :: replaceRuns true rest

/-- Dots and underscores are stripped from the ends of a name. -/
def isMargin (character : Char) : Bool := character = '.' || character = '_'

/-- `_safe_file_part` -/
def safeFilePart (value : List Char) : List Char :=
  let normalized := replaceRuns false (trim value)
  let stripped := (normalized.dropWhile isMargin).rdropWhile isMargin
  if stripped = [] then "default".toList else stripped

/-- A namespace and a key. -/
abbrev Pair := List Char × List Char

/-- Both parts of a pair are trimmed. -/
def trimmed (pair : Pair) : Pair := (trim pair.1, trim pair.2)

/-- `_path`: the directory and the file below the root. -/
def path (pair : Pair) : Pair := (safeFilePart pair.1, safeFilePart pair.2 ++ ".json".toList)

/-- `namespaced_key`, or `none` where it raises. -/
def namespacedKey (pair : Pair) : Option (List Char) :=
  let (normalizedNamespace, normalizedKey) := trimmed pair
  if normalizedKey = [] then none
  else
    let stateKey := if normalizedNamespace = [] then normalizedKey
      else normalizedNamespace ++ ':' :: normalizedKey
    if 64 < stateKey.length then none else some stateKey

section
variable (reals : Reals)

/-! ## Calls -/

/-- A state: a dictionary with distinct names. -/
abbrev Payload := { members : List (List Char × Value reals.Carrier) //
  (Value.object members).Proper }

/-- How a save ends: it is cut off before it opens its file, or when the file holds
something else than the whole text. -/
inductive Ending
  | completed
  | cutBefore
  | cutInside (left : File)
  deriving DecidableEq

/-- What a load ends with: a state from the file, that of the default factory, or an
exception. -/
inductive Loaded
  | stored (members : List (List Char × Value reals.Carrier))
  | default
  | raised

/-- What `json.dump` writes for a state. -/
def written (payload : Payload reals) : List Char :=
  writeIndented reals 0 (sortKeys (.object payload.val))

/-- `json.load` of an open file, with what becomes of the value it returns. -/
def loadFile (file : File) : Loaded reals :=
  match file.read with
  | none => .raised
  | some text =>
    match loads reals text with
    | some (.object members) => .stored members
    | _ => .default

/-- `FileRuntimeStateStoreBackend.load`; the file may fail to be read. -/
def load (files : Pair → Option File) (pair : Pair) (fails : Bool) : Loaded reals :=
  match files (path pair) with
  | none => .default
  | some file => if fails then .default else loadFile reals file

/-- `FileRuntimeStateStoreBackend.save`, or `none` where a state cannot be written whole. -/
def save (files : Pair → Option File) (pair : Pair) (payload : Payload reals) (ending : Ending) :
    Option (Pair → Option File) :=
  match ending with
  | .completed =>
    if (Value.object payload.val).Printable then
      some (Function.update files (path pair) (some (.text (written reals payload))))
    else none
  | .cutBefore => some files
  | .cutInside left => some (Function.update files (path pair) (some left))

/-- `DatabaseRuntimeStateStoreBackend.load`, with the row of a namespaced key. -/
def loadRow (rows : List Char → Option (Payload reals)) (pair : Pair) : Loaded reals :=
  match namespacedKey pair with
  | none => .raised
  | some key =>
    match rows key with
    | none => .default
    | some payload => .stored payload.val

/-- `DatabaseRuntimeStateStoreBackend.save`: a transaction that is cut off leaves the rows. -/
def saveRow (rows : List Char → Option (Payload reals)) (pair : Pair) (payload : Payload reals)
    (ending : Ending) : List Char → Option (Payload reals) :=
  match namespacedKey pair with
  | none => rows
  | some key => if ending = .completed then Function.update rows key (some payload) else rows

/-! ## Histories -/

/-- A call on a backend. -/
inductive Event
  | save (pair : Pair) (payload : Payload reals) (ending : Ending)
  | load (pair : Pair) (fails : Bool)

/-- A save that was made, under its trimmed pair. -/
structure Save where
  pair : Pair
  payload : Payload reals
  ending : Ending

/-- The files, the rows of the database backend under the same calls, and the saves made so
far, the last one first. -/
structure State where
  files : Pair → Option File
  rows : List Char → Option (Payload reals)
  saves : List (Save reals)

/-- Nothing has been saved. -/
def start : State reals := ⟨fun _ => none, fun _ => none, []⟩

/-- A save writes the file and the row; a load changes nothing. -/
def step (state : State reals) : Event reals → Option (State reals)
  | .save pair payload ending => (save reals state.files pair payload ending).map fun files =>
      ⟨files, saveRow reals state.rows pair payload ending,
        ⟨trimmed pair, payload, ending⟩ :: state.saves⟩
  | .load _ _ => some state

/-- A state that may be under a pair: the one last saved, or one whose save was cut off
behind it. -/
def MayHold (saves : List (Save reals)) (pair : Pair) (payload : Payload reals) : Prop :=
  ∃ later save earlier, saves = later ++ save :: earlier ∧ save.pair = pair ∧
    save.payload = payload ∧ ∀ other ∈ later, other.pair = pair → other.ending ≠ .completed

/-- No save under the pair was completed. -/
def NeverSaved (saves : List (Save reals)) (pair : Pair) : Prop :=
  ∀ save ∈ saves, save.pair = pair → save.ending ≠ .completed

/-- A load answers with a state that may be under the pair, as dictionaries are equal, or
with the default where nothing was ever saved under it. -/
def Answers (saves : List (Save reals)) (pair : Pair) : Loaded reals → Prop
  | .stored members => ∃ payload, MayHold reals saves pair payload ∧
      Same (.object payload.val) (.object members)
  | .default => NeverSaved reals saves pair
  | .raised => False

/-- The answers of the two backends are equal. -/
def Agree : Loaded reals → Loaded reals → Prop
  | .stored members, .stored others => Same (.object members) (.object others)
  | .default, .default => True
  | .raised, .raised => True
  | _, _ => False

/-- The loads of a pair answer as the map does. Where the database takes the pair and keeps
it apart from the others, and no save under it was cut off, they answer as it does. -/
def LoadsRight (state : State reals) : Event reals → Prop
  | .load pair fails =>
    Answers reals state.saves (trimmed pair) (load reals state.files pair fails) ∧
      (namespacedKey pair ≠ none →
        (∀ save ∈ state.saves, save.pair ≠ trimmed pair →
          namespacedKey save.pair ≠ namespacedKey pair) →
        (∀ save ∈ state.saves, save.pair = trimmed pair → save.ending = .completed) →
          Agree reals (loadRow reals state.rows pair) (load reals state.files pair fails))
  | _ => True

/-- No two different pairs share a file. -/
def KeepsApart (state : State reals) : Prop :=
  ∀ save ∈ state.saves, ∀ other ∈ state.saves, save.pair ≠ other.pair →
    path save.pair ≠ path other.pair

/-- What a cut-off save leaves is the whole text, or a text that is no JSON dictionary where
no save under the pair was completed. -/
def LeavesGood (saves : List (Save reals)) (pair : Pair) (payload : Payload reals)
    (left : File) : Prop :=
  ((Value.object payload.val).Printable ∧ left = .text (written reals payload)) ∨
    (NeverSaved reals saves pair ∧ ∃ text, left.read = some text ∧
      ∀ members, loads reals text ≠ some (.object members))

/-- No other pair in use has the same path, a save that is cut off leaves nothing bad, and a
file with a state can be read. -/
def Careful (state : State reals) : Event reals → Prop
  | .save pair payload ending =>
    (∀ save ∈ state.saves, save.pair ≠ trimmed pair → path save.pair ≠ path pair) ∧
      ∀ left, ending = .cutInside left →
        LeavesGood reals state.saves (trimmed pair) payload left
  | .load pair fails =>
    (∀ save ∈ state.saves, save.pair ≠ trimmed pair → path save.pair ≠ path pair) ∧
      (fails = true → NeverSaved reals state.saves (trimmed pair))

end

/-! ## What stands in a file -/

section
variable {reals : Reals}

theorem path_trimmed (pair : Pair) : path (trimmed pair) = path pair := by
  unfold path trimmed safeFilePart
  rw [trim_trim, trim_trim]

theorem namespacedKey_trimmed (pair : Pair) :
    namespacedKey (trimmed pair) = namespacedKey pair := by
  unfold namespacedKey trimmed
  rw [trim_trim, trim_trim]

/-- A written state is read back, its members sorted. -/
theorem loadFile_written {payload : Payload reals}
    (printable : (Value.object payload.val).Printable) :
    loadFile reals (.text (written reals payload)) =
      .stored (byName (sortMembers payload.val)) := by
  have read : universalNewlines (written reals payload) = written reals payload :=
    universalNewlines_self (writeIndented_breaks reals 0 _)
  have loaded : loads reals (written reals payload) =
      some (.object (byName (sortMembers payload.val))) :=
    loads_writeIndented reals (sortKeys_printable _ printable)
      (sortKeys_proper _ payload.property)
  unfold loadFile
  simp only [File.read, read, loaded]

/-- A text that is no JSON dictionary is passed over. -/
theorem loadFile_refused {left : File} {text : List Char} (read : left.read = some text)
    (refused : ∀ members, loads reals text ≠ some (.object members)) :
    loadFile reals left = .default := by
  unfold loadFile
  rw [read]
  dsimp only
  split
  · rename_i members loaded
    exact absurd loaded (refused members)
  · rfl

/-- What a save leaves in its file, `none` where it does not open it. -/
def Save.left (save : Save reals) : Option File :=
  match save.ending with
  | .completed => some (.text (written reals save.payload))
  | .cutBefore => none
  | .cutInside left => some left

/-- A save that leaves nothing was not completed. -/
theorem Save.not_completed {save : Save reals} (nothing : save.left = none) :
    save.ending ≠ .completed := by
  intro completed
  unfold Save.left at nothing
  rw [completed] at nothing
  cases nothing

/-- What the newest save at a path left there. -/
def lastLeft (saves : List (Save reals)) (place : Pair) : Option File :=
  saves.findSome? fun save => if path save.pair = place then save.left else none

/-- The state of the newest completed save under a row's key. -/
def lastRow (saves : List (Save reals)) (key : List Char) : Option (Payload reals) :=
  saves.findSome? fun save =>
    if namespacedKey save.pair = some key ∧ save.ending = .completed then some save.payload
    else none

/-- What holds of the backends after careful calls. -/
structure Sound (state : State reals) : Prop where
  files : ∀ place, state.files place = lastLeft state.saves place
  rows : ∀ key, state.rows key = lastRow state.saves key
  apart : KeepsApart reals state
  good : ∀ later save earlier, state.saves = later ++ save :: earlier →
    (save.ending = .completed → (Value.object save.payload.val).Printable) ∧
      ∀ left, save.ending = .cutInside left →
        LeavesGood reals earlier save.pair save.payload left

theorem sound_start : Sound (start reals) := by
  refine ⟨fun _ => rfl, fun _ => rfl, fun _ member => ?_, fun later save earlier parts => ?_⟩
  · cases member
  · cases later <;> cases parts

/-- A search is decided by what it finds at each entry. -/
theorem findSome_congr {α β : Type} {entries : List α} {first second : α → Option β}
    (same : ∀ entry ∈ entries, first entry = second entry) :
    entries.findSome? first = entries.findSome? second := by
  induction entries with
  | nil => rfl
  | cons entry rest inductionHypothesis =>
    rw [List.findSome?_cons, List.findSome?_cons, same entry List.mem_cons_self,
      inductionHypothesis fun other member => same other (List.mem_cons_of_mem entry member)]

/-- Saves of other pairs leave nothing at a path that is the pair's alone. -/
theorem lastLeft_own {saves : List (Save reals)} {pair : Pair}
    (apart : ∀ save ∈ saves, save.pair ≠ trimmed pair → path save.pair ≠ path pair) :
    lastLeft saves (path pair) =
      saves.findSome? fun save => if save.pair = trimmed pair then save.left else none := by
  apply findSome_congr
  intro save member
  by_cases own : save.pair = trimmed pair
  · rw [if_pos own, if_pos (by rw [own, path_trimmed])]
  · rw [if_neg own, if_neg (apart save member own)]

/-- Where every save under a pair was completed, the row and the file come from the same
save. -/
theorem last_completed {saves : List (Save reals)} {pair : Pair} {key : List Char}
    (named : namespacedKey pair = some key)
    (paths : ∀ save ∈ saves, save.pair ≠ trimmed pair → path save.pair ≠ path pair)
    (keys : ∀ save ∈ saves, save.pair ≠ trimmed pair →
      namespacedKey save.pair ≠ namespacedKey pair)
    (completed : ∀ save ∈ saves, save.pair = trimmed pair → save.ending = .completed) :
    lastLeft saves (path pair) =
      (lastRow saves key).map fun payload => .text (written reals payload) := by
  rw [lastLeft_own paths, lastRow, List.map_findSome?]
  apply findSome_congr
  intro save member
  by_cases own : save.pair = trimmed pair
  · have ending := completed save member own
    have key : namespacedKey save.pair = some key := by rw [own, namespacedKey_trimmed, named]
    rw [if_pos own, Function.comp_apply, if_pos ⟨key, ending⟩]
    unfold Save.left
    rw [ending]
    rfl
  · have other := keys save member own
    rw [named] at other
    rw [if_neg own, Function.comp_apply, if_neg fun both => other both.1]
    rfl

/-- The backends answer a load of a pair that has its path to itself. -/
theorem Sound.answers {state : State reals} (sound : Sound state) {pair : Pair} {fails : Bool}
    (apart : ∀ save ∈ state.saves, save.pair ≠ trimmed pair → path save.pair ≠ path pair)
    (readable : fails = true → NeverSaved reals state.saves (trimmed pair)) :
    Answers reals state.saves (trimmed pair) (load reals state.files pair fails) := by
  unfold load
  rw [sound.files, lastLeft_own apart]
  cases found : state.saves.findSome? fun save =>
      if save.pair = trimmed pair then save.left else none with
  | none =>
    -- no save under the pair opened its file
    intro save member own
    have nothing := List.findSome?_eq_none_iff.mp found save member
    rw [if_pos own] at nothing
    exact Save.not_completed nothing
  | some file =>
    obtain ⟨later, save, earlier, parts, leaves, nothing⟩ := List.findSome?_eq_some_iff.mp found
    have own : save.pair = trimmed pair := by
      by_contra other
      rw [if_neg other] at leaves
      cases leaves
    rw [if_pos own] at leaves
    have behind : ∀ other ∈ later, other.pair = trimmed pair → other.ending ≠ .completed := by
      intro other member same
      have left := nothing other member
      rw [if_pos same] at left
      exact Save.not_completed left
    have held : MayHold reals state.saves (trimmed pair) save.payload :=
      ⟨later, save, earlier, parts, own, rfl, behind⟩
    have good := sound.good later save earlier parts
    by_cases failing : fails = true
    · rw [failing]
      exact readable failing
    · rw [Bool.not_eq_true] at failing
      subst failing
      have whole : (Value.object save.payload.val).Printable →
          file = .text (written reals save.payload) →
            Answers reals state.saves (trimmed pair) (loadFile reals file) := by
        intro printable same
        rw [same, loadFile_written printable]
        exact ⟨save.payload, held, same_sortKeys (.object save.payload.val)⟩
      unfold Save.left at leaves
      cases ending : save.ending with
      | completed =>
        rw [ending] at leaves
        exact whole (good.1 ending) (Option.some.inj leaves).symm
      | cutBefore =>
        rw [ending] at leaves
        cases leaves
      | cutInside left =>
        rw [ending] at leaves
        obtain rfl := Option.some.inj leaves
        rcases good.2 left ending with ⟨printable, same⟩ | ⟨never, text, read, refused⟩
        · exact whole printable same
        · show Answers reals state.saves (trimmed pair) (loadFile reals left)
          rw [loadFile_refused read refused]
          -- neither this save nor one on either side of it was completed
          intro other member same
          rw [parts] at member
          rcases List.mem_append.mp member with after | inside
          · exact behind other after same
          · rcases List.mem_cons.mp inside with rfl | before
            · rw [ending]
              exact Ending.noConfusion
            · exact never other before (same.trans own.symm)

/-- Where no save under a pair was cut off, the file answers as the row does. -/
theorem Sound.agree {state : State reals} (sound : Sound state) {pair : Pair} {fails : Bool}
    (paths : ∀ save ∈ state.saves, save.pair ≠ trimmed pair → path save.pair ≠ path pair)
    (readable : fails = true → NeverSaved reals state.saves (trimmed pair))
    (taken : namespacedKey pair ≠ none)
    (keys : ∀ save ∈ state.saves, save.pair ≠ trimmed pair →
      namespacedKey save.pair ≠ namespacedKey pair)
    (completed : ∀ save ∈ state.saves, save.pair = trimmed pair → save.ending = .completed) :
    Agree reals (loadRow reals state.rows pair) (load reals state.files pair fails) := by
  obtain ⟨key, named⟩ := Option.ne_none_iff_exists'.mp taken
  unfold loadRow load
  rw [named, sound.files, last_completed named paths keys completed]
  dsimp only
  rw [sound.rows]
  cases last : lastRow state.saves key with
  | none => trivial
  | some payload =>
    obtain ⟨later, save, earlier, parts, found, _⟩ := List.findSome?_eq_some_iff.mp last
    have same : namespacedKey save.pair = some key ∧ save.ending = .completed := by
      by_contra other
      rw [if_neg other] at found
      cases found
    rw [if_pos same] at found
    obtain rfl := Option.some.inj found
    have member : save ∈ state.saves := by
      rw [parts]
      exact List.mem_append_right later List.mem_cons_self
    have own : save.pair = trimmed pair := by
      by_contra other
      exact keys save member other (same.1.trans named.symm)
    have reads : fails = false := by
      by_contra failing
      exact readable (Bool.eq_true_of_not_eq_false failing) save member own same.2
    subst reads
    show Agree reals (.stored save.payload.val)
      (loadFile reals (.text (written reals save.payload)))
    rw [loadFile_written ((sound.good later save earlier parts).1 same.2)]
    exact same_sortKeys (.object save.payload.val)

/-! ## Every history -/

/-- A save that is made puts what it leaves at its path. -/
theorem save_left {files next : Pair → Option File} {pair : Pair} {payload : Payload reals}
    {ending : Ending} (made : save reals files pair payload ending = some next) (place : Pair) :
    next place = (if path pair = place then (Save.mk (trimmed pair) payload ending).left
      else none).or (files place) := by
  unfold save at made
  cases ending with
  | completed =>
    dsimp only at made
    split at made
    · obtain rfl := Option.some.inj made
      by_cases here : path pair = place
      · rw [← here, Function.update_self, if_pos rfl]
        rfl
      · rw [Function.update_of_ne (Ne.symm here), if_neg here, Option.none_or]
    · cases made
  | cutBefore =>
    obtain rfl := Option.some.inj made
    unfold Save.left
    simp
  | cutInside left =>
    obtain rfl := Option.some.inj made
    by_cases here : path pair = place
    · rw [← here, Function.update_self, if_pos rfl]
      rfl
    · rw [Function.update_of_ne (Ne.symm here), if_neg here, Option.none_or]

theorem lastLeft_cons (save : Save reals) (saves : List (Save reals)) (place : Pair) :
    lastLeft (save :: saves) place =
      (if path save.pair = place then save.left else none).or (lastLeft saves place) := by
  unfold lastLeft
  rw [List.findSome?_cons]
  split
  · rename_i found
    rw [found]
    rfl
  · rename_i nothing
    rw [nothing]
    rfl

/-- A completed save puts its state in the row of its key. -/
theorem saveRow_row (rows : List Char → Option (Payload reals)) (pair : Pair)
    (payload : Payload reals) (ending : Ending) (key : List Char) :
    saveRow reals rows pair payload ending key =
      (if namespacedKey pair = some key ∧ ending = .completed then some payload else none).or
        (rows key) := by
  unfold saveRow
  cases named : namespacedKey pair with
  | none => rfl
  | some own =>
    dsimp only
    by_cases completed : ending = .completed
    · rw [if_pos completed]
      by_cases here : own = key
      · rw [here, Function.update_self, if_pos ⟨rfl, completed⟩]
        rfl
      · rw [Function.update_of_ne (Ne.symm here),
          if_neg fun both => here (Option.some.inj both.1), Option.none_or]
    · rw [if_neg completed, if_neg fun both => completed both.2, Option.none_or]

theorem lastRow_cons (save : Save reals) (saves : List (Save reals)) (key : List Char) :
    lastRow (save :: saves) key =
      (if namespacedKey save.pair = some key ∧ save.ending = .completed then some save.payload
        else none).or (lastRow saves key) := by
  unfold lastRow
  rw [List.findSome?_cons]
  split
  · rename_i found
    rw [found]
    rfl
  · rename_i nothing
    rw [nothing]
    rfl

/-- A careful call keeps what holds of the backends. -/
theorem Sound.step {state next : State reals} {event : Event reals} (sound : Sound state)
    (careful : Careful reals state event) (taken : step reals state event = some next) :
    Sound next := by
  cases event with
  | load pair fails =>
    obtain rfl := Option.some.inj taken
    exact sound
  | save pair payload ending =>
    obtain ⟨files, made, rfl⟩ := Option.map_eq_some_iff.mp taken
    obtain ⟨apart, leaves⟩ := careful
    refine ⟨fun place => ?_, fun key => ?_, ?_, ?_⟩
    · show files place = lastLeft (_ :: state.saves) place
      rw [save_left made place, sound.files place, lastLeft_cons, path_trimmed]
    · show saveRow reals state.rows pair payload ending key = lastRow (_ :: state.saves) key
      rw [saveRow_row, sound.rows key, lastRow_cons, namespacedKey_trimmed]
    · intro save member other inside different
      rcases List.mem_cons.mp member with rfl | earlier
      · rcases List.mem_cons.mp inside with rfl | before
        · exact absurd rfl different
        · rw [path_trimmed]
          exact (apart other before different.symm).symm
      · rcases List.mem_cons.mp inside with rfl | before
        · rw [path_trimmed]
          exact apart save earlier different
        · exact sound.apart save earlier other before different
    · intro later save earlier parts
      cases later with
      | nil =>
        obtain ⟨rfl, rfl⟩ := List.cons.inj parts
        refine ⟨fun completed => ?_, leaves⟩
        dsimp only at completed
        subst completed
        by_contra unprintable
        unfold StateFiles.save at made
        rw [if_neg unprintable] at made
        cases made
      | cons first later =>
        obtain ⟨_, below⟩ := List.cons.inj parts
        exact sound.good later save earlier below

/-- In every history of careful calls on an empty root, with saves that may be cut off: no two
different pairs share a file, and each load answers with the state last saved under exactly
its trimmed pair, or one whose save was cut off behind it, or with the default where nothing
was ever saved under it. Where the database backend takes the pair and keeps it apart too,
the two backends answer the same. -/
theorem careful_calls_make_a_map (reals : Reals) (events : List (Event reals))
    (careful : Runs.Along (step reals) (Careful reals) (start reals) events) :
    Runs.Throughout (step reals) (KeepsApart reals) (start reals) events ∧
      Runs.Along (step reals) (LoadsRight reals) (start reals) events := by
  have kept : ∀ state event next, Sound state → Careful reals state event →
      step reals state event = some next → Sound next :=
    fun state event next sound met taken => sound.step met taken
  refine ⟨⟨sound_start.apart, ?_⟩, ?_⟩
  · refine Runs.Along.imp_of_invariant Sound kept ?_ sound_start careful
    exact fun state event sound met next taken => (sound.step met taken).apart
  · refine Runs.Along.imp_of_invariant Sound kept ?_ sound_start careful
    intro state event sound met
    cases event with
    | save pair payload ending => trivial
    | load pair fails =>
      exact ⟨sound.answers met.1 met.2, fun taken keys completed =>
        sound.agree met.1 met.2 taken keys completed⟩

end

/-- The state `{"value": text}`. -/
def valued (text : List Char) : Payload halves :=
  ⟨[("value".toList, .text text)], ⟨List.nodup_singleton _, trivial, trivial⟩⟩

/-- The state after such a save. -/
def afterSave (state : State halves) (pair : Pair) (text : List Char) : State halves where
  files := Function.update state.files (path pair) (some (.text (written halves (valued text))))
  rows := saveRow halves state.rows pair (valued text) .completed
  saves := ⟨trimmed pair, valued text, .completed⟩ :: state.saves

theorem step_valued (state : State halves) (pair : Pair) (text : List Char) :
    step halves state (.save pair (valued text) .completed) =
      some (afterSave state pair text) := by
  have printable : (Value.object (valued text).val).Printable := ⟨trivial, trivial⟩
  rw [step, save, if_pos printable]
  rfl

/-- One pair is saved, the first save of another one is cut off in its empty file, and both
are loaded. -/
def twoPairs : List (Event halves) :=
  [.save ("tool".toList, "state".toList) (valued ['a']) .completed,
    .save ("source".toList, "state".toList) (valued ['b']) (.cutInside (.text [])),
    .load ("tool".toList, "state".toList) false, .load ("source".toList, "state".toList) false]

theorem careful_calls_make_a_map_twoPairs :
    Runs.Along (step halves) (LoadsRight halves) (start halves) twoPairs := by
  refine (careful_calls_make_a_map halves twoPairs ?_).2
  refine Runs.along_cons ⟨by decide, fun _ cut => by cases cut⟩ (step_valued _ _ _) ?_
  refine Runs.along_cons ⟨by decide, ?_⟩ rfl (Runs.along_cons ⟨by decide, fun failing => ?_⟩ rfl
    (Runs.along_cons ⟨by decide, fun failing => ?_⟩ rfl trivial))
  · intro left cut
    obtain rfl := Ending.cutInside.inj cut
    exact .inr ⟨by unfold NeverSaved; decide, [], rfl, fun members other => by cases other⟩
  · cases failing
  · cases failing

/-- A state saved under one pair is loaded under another one, whose path is the same. -/
theorem other_pair_is_loaded :
    ∃ state, Runs.run (step halves) (start halves)
        [.save ("tool".toList, "x".toList) (valued ['a']) .completed] = some state ∧
      trimmed ("tool".toList, "x!".toList) ≠ trimmed ("tool".toList, "x".toList) ∧
      path ("tool".toList, "x!".toList) = path ("tool".toList, "x".toList) ∧
      NeverSaved halves state.saves (trimmed ("tool".toList, "x!".toList)) ∧
      load halves state.files ("tool".toList, "x!".toList) false = .stored (valued ['a']).val := by
  have shared : path ("tool".toList, "x!".toList) = path ("tool".toList, "x".toList) := by decide
  refine ⟨afterSave (start halves) ("tool".toList, "x".toList) ['a'],
    Runs.run_cons.mpr ⟨_, step_valued _ _ _, rfl⟩, by decide, shared, ?_, ?_⟩
  · intro save member
    rcases List.mem_cons.mp member with rfl | none
    · intro same
      exact absurd same (by decide)
    · cases none
  · unfold load
    rw [shared, afterSave]
    dsimp only
    rw [Function.update_self]
    have loaded := @loadFile_written halves (valued ['a']) ⟨trivial, trivial⟩
    rwa [show byName (sortMembers (valued ['a']).val) = (valued ['a']).val from
      List.mergeSort_singleton _] at loaded

end MeetYou.StateFiles
