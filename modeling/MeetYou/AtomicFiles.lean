import MeetYou.Foundation.TextFiles
import MeetYou.Foundation.Runs

/-!
# A JSON file that survives crashes

A store is written to a temporary file, which replaces the file in one step and is then
copied to a backup. Loading reads the file, and the backup where the file cannot be read; it
then writes the file again from the backup.

A call may stop at any of its steps, by a crash of the process or by an exception that the
caller sees. The file holds the payload of a whole call at all times, so only the copying
tells the two apart: an exception there comes after the file was replaced.
-/

namespace MeetYou.AtomicFiles

open JsonText TextFiles Text

/-! ## Files -/

/-- The files of one path: the file, its backup and what interrupted calls left beside them. -/
structure Files where
  main : Option File
  backup : Option File
  temporary : List File

/-- A step of a call, with what stays of the file it was writing. -/
inductive Stage
  | makeParent
  | makeTemp
  | writeTemp (left : File)
  | syncTemp
  | replace
  | copyBackup (left : Option File)

/-- How a call ends: at its end, by an exception in a step, or by a crash in a step. -/
inductive Ending
  | completed
  | raised (stage : Stage)
  | crashed (stage : Stage)

/-- What the caller of a call sees. -/
inductive Outcome
  | returned
  | raised
  | crashed
  deriving DecidableEq

/-- What the caller of a write sees. -/
def Ending.outcome : Ending → Outcome
  | .completed => .returned
  | .raised _ => .raised
  | .crashed _ => .crashed

/-- The files where a call for a text stops in a step. The file is replaced at once. -/
def stoppedAt (files : Files) (text : List Char) : Stage → Files
  | .makeParent => files
  | .makeTemp => files
  | .writeTemp left => { files with temporary := left :: files.temporary }
  | .syncTemp => { files with temporary := .text text :: files.temporary }
  | .replace => { files with temporary := .text text :: files.temporary }
  | .copyBackup left => { files with main := some (.text text), backup := left }

/-- `atomic_write_text`; an exception removes the temporary file. -/
def atomicWriteText (files : Files) (text : List Char) : Ending → Files
  | .completed => { files with main := some (.text text), backup := some (.text text) }
  | .raised stage => { stoppedAt files text stage with temporary := files.temporary }
  | .crashed stage => stoppedAt files text stage

section
variable (reals : Reals)

/-- `json.dumps(payload, ensure_ascii=False, indent=2)`, or `none` where it raises. -/
def dumps (payload : Value reals.Carrier) : Option (List Char) :=
  if payload.Printable then some (writeIndented reals 0 payload) else none

/-- `atomic_write_json` -/
def atomicWriteJson (files : Files) (payload : Value reals.Carrier) (ending : Ending) :
    Files × Outcome :=
  match dumps reals payload with
  | none => (files, .raised)
  | some text => (atomicWriteText files text ending, ending.outcome)

/-- A candidate that is there, can be read and is valid. -/
def readCandidate (validator : Value reals.Carrier → Bool) (candidate : Option File) :
    Option (Value reals.Carrier) :=
  (candidate.bind File.read).bind fun text =>
    let raw := trim text
    if raw = [] then none else (loads reals raw).filter validator

/-- What `load_json_with_recovery` ends with; `fallback` is the value of the default factory,
or an exception where there is none. -/
inductive Loaded
  | payload (value : Value reals.Carrier)
  | fallback
  | raised
  | crashed

/-- `load_json_with_recovery`; the ending is that of the call that writes a recovered payload. -/
def loadJsonWithRecovery (validator : Value reals.Carrier → Bool) (files : Files)
    (ending : Ending) : Loaded reals × Files :=
  match readCandidate reals validator files.main with
  | some payload => (.payload payload, files)
  | none =>
    match readCandidate reals validator files.backup with
    | some payload =>
      let written := atomicWriteJson reals files payload ending
      (match written.2 with
        | .returned => .payload payload
        | .raised => .raised
        | .crashed => .crashed, written.1)
    | none => (.fallback, files)

/-- What loading returns where nothing stops it. -/
def returned (validator : Value reals.Carrier → Bool) (files : Files) : Loaded reals :=
  (loadJsonWithRecovery reals validator files .completed).1

/-! ## Histories -/

/-- A payload: the names in a dictionary are distinct. -/
abbrev Payload := { value : Value reals.Carrier // value.Proper }

/-- A call on the path, or a power failure between the calls: the backup is not synchronised
and may hold anything behind it. -/
inductive Event
  | write (payload : Payload reals) (ending : Ending)
  | load (ending : Ending)
  | outage (backup : Option File)

/-- The files, and the payloads a load may return once a call has completed: that of the
last completed call and those of the calls a crash interrupted behind it. -/
structure State where
  files : Files
  candidates : Option (List (Value reals.Carrier))

def step (validator : Value reals.Carrier → Bool) (state : State reals) : Event reals →
    Option (State reals)
  | .write payload ending =>
    let written := atomicWriteJson reals state.files payload.val ending
    some ⟨written.1, match written.2 with
      | .returned => some [payload.val]
      | .raised => state.candidates
      | .crashed => state.candidates.map (· ++ [payload.val])⟩
  | .load ending =>
    some { state with files := (loadJsonWithRecovery reals validator state.files ending).2 }
  | .outage backup => some { state with files := { state.files with backup } }

/-- Once a call has completed, loading returns one of the candidates and changes nothing. -/
def Survives (validator : Value reals.Carrier → Bool) (state : State reals) : Prop :=
  ∀ candidates, state.candidates = some candidates → ∀ ending, ∃ payload ∈ candidates,
    loadJsonWithRecovery reals validator state.files ending = (.payload payload, state.files)

/-- A call that raises leaves loading as it was. -/
def RaisesClean (validator : Value reals.Carrier → Bool) (state : State reals) :
    Event reals → Prop
  | .write payload ending =>
    (atomicWriteJson reals state.files payload.val ending).2 = .raised →
      returned reals validator (atomicWriteJson reals state.files payload.val ending).1 =
        returned reals validator state.files
  | _ => True

/-- No exception comes while the backup is copied, unless loading returned the same payload
before. -/
def CopiesOrSame (validator : Value reals.Carrier → Bool) (state : State reals) :
    Event reals → Prop
  | .write payload (.raised (.copyBackup _)) =>
    payload.val.Printable → returned reals validator state.files = .payload payload.val
  | _ => True

end

section
variable {reals : Reals} {validator : Value reals.Carrier → Bool}

/-! ## Reading what was written -/

/-- A written payload is read back, where it is valid. -/
theorem readCandidate_written {payload : Payload reals} (printable : payload.val.Printable)
    (accepted : validator payload.val = true) :
    readCandidate reals validator (some (.text (writeIndented reals 0 payload.val))) =
      some payload.val := by
  have some_ : writeIndented reals 0 payload.val ≠ [] :=
    List.ne_nil_of_length_pos (writeIndented_length reals 0 payload.val)
  have read : universalNewlines (writeIndented reals 0 payload.val) =
      writeIndented reals 0 payload.val :=
    universalNewlines_self (writeIndented_breaks reals 0 payload.val)
  have trimmed := trim_of_trimmed (writeIndented_trimmed reals 0 payload.val)
  unfold readCandidate
  rw [Option.bind_some, File.read, Option.bind_some, read]
  dsimp only
  rw [trimmed, if_neg some_, loads_writeIndented reals printable payload.property]
  exact Option.filter_some_pos accepted

/-- The file holds the text of a payload. -/
def Holds (files : Files) (payload : Payload reals) : Prop :=
  payload.val.Printable ∧ files.main = some (.text (writeIndented reals 0 payload.val))

/-- Loading returns the payload the file holds and changes nothing. -/
theorem load_of_holds {files : Files} {payload : Payload reals} (holds : Holds files payload)
    (accepted : validator payload.val = true) (ending : Ending) :
    loadJsonWithRecovery reals validator files ending = (.payload payload.val, files) := by
  unfold loadJsonWithRecovery
  rw [holds.2, readCandidate_written holds.1 accepted]

/-! ## One call -/

/-- A call for a payload that cannot be written raises at once. -/
theorem atomicWriteJson_unprintable {payload : Value reals.Carrier}
    (unprintable : ¬payload.Printable) (files : Files) (ending : Ending) :
    atomicWriteJson reals files payload ending = (files, .raised) := by
  unfold atomicWriteJson dumps
  rw [if_neg unprintable]

theorem atomicWriteJson_printable {payload : Value reals.Carrier}
    (printable : payload.Printable) (files : Files) (ending : Ending) :
    atomicWriteJson reals files payload ending =
      (atomicWriteText files (writeIndented reals 0 payload) ending, ending.outcome) := by
  unfold atomicWriteJson dumps
  rw [if_pos printable]

/-- What a call leaves in the file: its own payload where it completes, its own or what was
there where it stops. -/
theorem atomicWriteText_main (files : Files) (text : List Char) (ending : Ending) :
    (atomicWriteText files text ending).main = some (.text text) ∨
      ending ≠ .completed ∧ (atomicWriteText files text ending).main = files.main := by
  cases ending with
  | completed => exact .inl rfl
  | raised stage =>
    cases stage with
    | copyBackup left => exact .inl rfl
    | _ => exact .inr ⟨by simp, rfl⟩
  | crashed stage =>
    cases stage with
    | copyBackup left => exact .inl rfl
    | _ => exact .inr ⟨by simp, rfl⟩

/-- An exception in front of the copying leaves the files as they were. -/
theorem atomicWriteText_raised (files : Files) (text : List Char) {stage : Stage}
    (early : ∀ left, stage ≠ .copyBackup left) :
    atomicWriteText files text (.raised stage) = files := by
  cases stage with
  | copyBackup left => exact absurd rfl (early left)
  | _ => rfl

/-- A call that raises leaves loading as it was exactly where it does not stop at the
copying, or loading returned the same payload before. -/
theorem raisesClean_iff {state : State reals} {event : Event reals}
    (accepted : ∀ payload ending, event = .write payload ending →
      validator payload.val = true) :
    RaisesClean reals validator state event ↔ CopiesOrSame reals validator state event := by
  cases event with
  | load ending => exact Iff.rfl
  | outage backup => exact Iff.rfl
  | write payload ending =>
    have valid := accepted payload ending rfl
    by_cases printable : payload.val.Printable
    · rw [RaisesClean, atomicWriteJson_printable printable]
      cases ending with
      | completed => exact ⟨fun _ => trivial, fun _ raised => by cases raised⟩
      | crashed stage => exact ⟨fun _ => trivial, fun _ raised => by cases raised⟩
      | raised stage =>
        cases stage with
        | copyBackup left =>
          have after : returned reals validator
              (atomicWriteText state.files (writeIndented reals 0 payload.val)
                (.raised (.copyBackup left))) = .payload payload.val := by
            unfold returned
            rw [load_of_holds ⟨printable, rfl⟩ valid]
          dsimp only
          rw [after]
          exact ⟨fun clean _ => (clean rfl).symm, fun same _ => (same printable).symm⟩
        | _ => exact ⟨fun _ => trivial, fun _ _ => rfl⟩
    · have raises : RaisesClean reals validator state (.write payload ending) := by
        intro _
        rw [atomicWriteJson_unprintable printable]
      refine ⟨fun _ => ?_, fun _ => raises⟩
      unfold CopiesOrSame
      split
      · exact fun is => absurd is (by rename_i same; cases same; exact printable)
      · trivial

/-! ## Every history -/

/-- Once a call has completed the file holds a valid candidate. -/
def Sound (validator : Value reals.Carrier → Bool) (state : State reals) : Prop :=
  ∀ candidates, state.candidates = some candidates → ∃ payload : Payload reals,
    payload.val ∈ candidates ∧ validator payload.val = true ∧ Holds state.files payload

theorem Sound.survives {state : State reals} (sound : Sound validator state) :
    Survives reals validator state := by
  intro candidates known ending
  obtain ⟨payload, among, accepted, holds⟩ := sound candidates known
  exact ⟨payload.val, among, load_of_holds holds accepted ending⟩

/-- A step keeps the file a candidate, where it copies or loading returned the same payload
before. -/
theorem Sound.step {state next : State reals} {event : Event reals}
    (sound : Sound validator state)
    (accepted : ∀ payload ending, event = .write payload ending → validator payload.val = true)
    (met : CopiesOrSame reals validator state event)
    (taken : step reals validator state event = some next) : Sound validator next := by
  cases event with
  | outage backup =>
    obtain rfl := Option.some.inj taken
    exact sound
  | load ending =>
    obtain rfl := Option.some.inj taken
    intro candidates known
    obtain ⟨payload, among, valid, holds⟩ := sound candidates known
    rw [load_of_holds holds valid ending]
    exact ⟨payload, among, valid, holds⟩
  | write payload ending =>
    have valid := accepted payload ending rfl
    obtain rfl := Option.some.inj taken
    by_cases printable : payload.val.Printable
    · rw [atomicWriteJson_printable printable]
      intro candidates known
      cases ending with
      | completed =>
        obtain rfl := Option.some.inj known
        exact ⟨payload, List.mem_singleton_self _, valid, printable, rfl⟩
      | crashed stage =>
        obtain ⟨earlier, before, rfl⟩ := Option.map_eq_some_iff.mp known
        obtain ⟨other, among, otherValid, otherHolds⟩ := sound earlier before
        rcases atomicWriteText_main state.files (writeIndented reals 0 payload.val)
          (.crashed stage) with replaced | ⟨_, kept⟩
        · exact ⟨payload, List.mem_append_right _ (List.mem_singleton_self _), valid, printable,
            replaced⟩
        · exact ⟨other, List.mem_append_left _ among, otherValid, otherHolds.1,
            kept.trans otherHolds.2⟩
      | raised stage =>
        obtain ⟨other, among, otherValid, otherHolds⟩ := sound candidates known
        by_cases late : ∃ left, stage = .copyBackup left
        · obtain ⟨left, rfl⟩ := late
          -- the payload is the one that loading returned before
          have same := met printable
          unfold returned at same
          rw [load_of_holds otherHolds otherValid] at same
          injection same with value
          exact ⟨payload, value ▸ among, valid, printable, rfl⟩
        · rw [atomicWriteText_raised _ _ fun left same => late ⟨left, same⟩]
          exact ⟨other, among, otherValid, otherHolds⟩
    · rw [atomicWriteJson_unprintable printable]
      exact sound

/-- The valid payloads of a history. -/
def AllValid (validator : Value reals.Carrier → Bool) (events : List (Event reals)) : Prop :=
  ∀ payload ending, Event.write payload ending ∈ events → validator payload.val = true

/-- In every history from any files, with each call stopped anywhere: once a call has
completed, loading returns the payload of the last completed one or of one a crash
interrupted behind it, and every call that raises leaves loading as it was, exactly where no
exception comes while the backup is copied, unless loading returned the same payload before. -/
theorem json_store_survives_iff (reals : Reals) (validator : Value reals.Carrier → Bool)
    (files : Files) (events : List (Event reals)) (valid : AllValid validator events) :
    Runs.Throughout (step reals validator) (Survives reals validator) ⟨files, none⟩ events ∧
        Runs.Along (step reals validator) (RaisesClean reals validator) ⟨files, none⟩ events ↔
      Runs.Along (step reals validator) (CopiesOrSame reals validator) ⟨files, none⟩ events := by
  have allowed : Runs.Along (step reals validator) (fun _ event => ∀ payload ending,
      event = .write payload ending → validator payload.val = true) ⟨files, none⟩ events := by
    refine Runs.along_of_mem (fun _ event member payload ending same => ?_) _
    subst same
    exact valid payload ending member
  constructor
  · rintro ⟨_, clean⟩
    exact (clean.and allowed).imp fun state event both => (raisesClean_iff both.2).mp both.1
  · intro copies
    have start : Sound validator (⟨files, none⟩ : State reals) := fun _ known => by cases known
    refine ⟨⟨start.survives, ?_⟩,
      (copies.and allowed).imp fun state event both => (raisesClean_iff both.2).mpr both.1⟩
    refine Runs.Along.imp_of_invariant (Sound validator) ?_ ?_ start (copies.and allowed)
    · exact fun state event next sound both taken => sound.step both.2 both.1 taken
    · exact fun state event sound both next taken => (sound.step both.2 both.1 taken).survives

end

/-- The payload `{"version": number}`. -/
def version (number : Int) : Payload halves :=
  ⟨.object [("version".toList, .int number)], ⟨List.nodup_singleton _, trivial, trivial⟩⟩

/-- A first call completes, a second one is stopped by a crash, and a third one by an
exception before it replaced the file. -/
def threeCalls : List (Event halves) :=
  [.write (version 1) .completed, .write (version 2) (.crashed (.writeTemp (.text []))),
    .write (version 3) (.raised .syncTemp)]

theorem json_store_survives_iff_threeCalls :
    Runs.Throughout (step halves fun _ => true) (Survives halves fun _ => true)
      ⟨⟨none, none, []⟩, none⟩ threeCalls :=
  ((json_store_survives_iff halves (fun _ => true) ⟨none, none, []⟩ threeCalls
    (fun _ _ _ => rfl)).mpr ⟨trivial, fun _ _ => ⟨trivial, fun _ _ => ⟨trivial, fun _ _ =>
      trivial⟩⟩⟩).1

/-- A call that raises while it copies the backup has replaced the file: loading returns its
payload, not the one of the completed call before it. -/
theorem failed_copy_shows_new_payload :
    ∃ files : Files,
      returned halves (fun _ => true)
          (atomicWriteJson halves ⟨none, none, []⟩ (version 1).val .completed).1 =
        .payload (version 1).val ∧
      atomicWriteJson halves
          (atomicWriteJson halves ⟨none, none, []⟩ (version 1).val .completed).1 (version 2).val
          (.raised (.copyBackup (some (.text [])))) = (files, .raised) ∧
      returned halves (fun _ => true) files = .payload (version 2).val ∧
      (version 2).val ≠ (version 1).val := by
  have printable : ∀ number : Int, number.natAbs < 10 → (version number).val.Printable :=
    fun number small => ⟨Nat.lt_of_lt_of_le small (Nat.le_self_pow (by decide) 10), trivial⟩
  have first := printable 1 (by decide)
  have second := printable 2 (by decide)
  rw [atomicWriteJson_printable first, atomicWriteJson_printable second]
  refine ⟨_, ?_, rfl, ?_, ?_⟩
  · unfold returned
    rw [load_of_holds ⟨first, rfl⟩ rfl]
  · unfold returned
    rw [load_of_holds ⟨second, rfl⟩ rfl]
  · intro same
    simp [version] at same

end MeetYou.AtomicFiles
