import MeetYou.TaskEdits
import MeetYou.Foundation.Runs

/-!
# One task under each key

Creating a task picks a free key and then waits for the embedding of its summary; updating one
waits for it as well, and deleting and restoring wait for the user to confirm. Other operations
take their steps meanwhile. A state holds the tasks, at their positions, and the operations that
wait.

A key is looked for among the active tasks of one user. A task that is restored, or that belongs to
everybody, meets the tasks of users whose keys nobody looked at.
-/

namespace MeetYou.TaskKeys

open TaskRecords TaskEdits Runs

section
variable (calendar : Calendar)

/-! ## Tasks to delete or to restore -/

/-- Which tasks of a user are to be deleted or restored. -/
structure Selection where
  userId : String
  restores : Bool
  taskKeys : List Json := []
  taskKey : Json := .str ""
  query : Json := .str ""
  summary : Json := .str ""

/-- The keys of a selection that are not blank. -/
def Selection.keys (selection : Selection) : List String :=
  (selection.taskKeys.map calendar.normalizeText).filter fun key => key ≠ ""

/-- What a selection without a known key searches. -/
def Selection.needle (selection : Selection) : String :=
  calendar.normalizeText
    (if selection.query.truthy then selection.query else selection.summary)

/-- The lifecycle statuses a selection by keys looks at. -/
def kept (status : String) : Bool := decide (status = "active" ∨ status = "deleted")

/-- The domain of the tasks `manage_tasks` is for. -/
def userTodo : Option String := some "user_todo"

/-- The records under several keys, one look after the other. -/
def findAll (now : Instant) (userId : String) : List String → List Record → Looked (List Nat)
  | [], tasks => (tasks, .ok [])
  | key :: rest, tasks =>
      match findTaskRecord calendar now userId (.str key) kept userTodo tasks with
      | (after, .error raised) => (after, .error raised)
      | (after, .ok found) =>
          let (others, positions) := findAll now userId rest after
          (others, positions.map fun below => found.toList ++ below)

/-- The fields `_looks_like_match` searches. -/
def searchedFields : List String :=
  ["task_key", "content", "project", "deadline", "due_at", "next_run_at", "job_prompt"]

/-- `_looks_like_match` of a query that is not blank. -/
def looksLikeMatch (record : Record) (query : String) : Bool :=
  searchedFields.any fun name =>
    let item := calendar.fieldText record name
    decide (item ≠ "") &&
      decide ((calendar.lower query).toList <:+: (calendar.lower item).toList)

/-- The query is a key, a summary or an identifier of the record. -/
def matchesExactly (record : Record) (needle : String) : Bool :=
  ["task_key", "content", "id"].any fun name =>
    decide (calendar.lower (calendar.fieldText record name) = calendar.lower needle)

/-- The positions whose record passes a test. -/
def passing (tasks : List Record) (test : Record → Bool) (positions : List Nat) : List Nat :=
  positions.filter fun position => (tasks[position]?.map test).getD false

/-- The lifecycle statuses a selection without keys looks at. -/
def Selection.shown (selection : Selection) : String → Bool :=
  if selection.restores then kept else active

/-- `_find_task_targets`: the positions and whether they are exact. Their order is left out, since
only a single one is used. -/
def findTaskTargets (now : Instant) (selection : Selection) (tasks : List Record) :
    Looked (List Nat × Bool) :=
  match findTaskRecord calendar now selection.userId selection.taskKey selection.shown userTodo
    tasks with
  | (after, .error raised) => (after, .error raised)
  | (after, .ok (some position)) => (after, .ok ([position], true))
  | (after, .ok none) =>
      let needle := selection.needle calendar
      if needle = "" then (after, .ok ([], false))
      else
        match iterUserTasks calendar now selection.userId selection.shown userTodo 0 after with
        | (others, .error raised) => (others, .error raised)
        | (others, .ok pool) =>
            let exact := passing others (fun record => matchesExactly calendar record needle) pool
            if exact.length = 1 then (others, .ok (exact, true))
            else
              (others, .ok (passing others (fun record => looksLikeMatch calendar record needle)
                pool, false))

/-- The tasks the user is asked about; none if there is none or the selection is ambiguous. -/
def select (now : Instant) (selection : Selection) (tasks : List Record) : Looked (List Nat) :=
  if (selection.keys calendar).isEmpty then
    let (after, found) := findTaskTargets calendar now selection tasks
    (after, found.map fun (positions, exact) =>
      if positions.length > 1 ∧ exact = false then [] else positions)
  else findAll calendar now selection.userId (selection.keys calendar) tasks

/-- A change of the lifecycle status the user is asked to confirm. -/
structure StatusChange where
  restores : Bool
  positions : List Nat

/-- The lifecycle status a change gives. -/
def StatusChange.status (change : StatusChange) : String :=
  if change.restores then "active" else "deleted"

/-- Give a record a lifecycle status. -/
def changeStatus (status : String) (now : Instant) : Change Unit := do
  Edit.write "status" (.str status)
  Edit.write "last_updated_at" (.str (calendar.iso now))

/-- Give the records at some positions a lifecycle status. -/
def changeAll (status : String) (now : Instant) (positions : List Nat) (tasks : List Record) :
    List Record :=
  positions.foldl (fun tasks position => (editAt (changeStatus calendar status now) position
    tasks).1) tasks

/-! ## Operations that wait -/

/-- An update that waits for the embedding of its summary. -/
structure Updating where
  request : Request
  now : Instant
  position : Nat

/-- The tasks and the operations that wait. -/
structure State where
  tasks : List Record
  creating : List Creation := []
  updating : List Updating := []
  changing : List StatusChange := []

/-- What one operation does up to its next await. -/
inductive Action where
  | beginCreate (now : Instant) (request : Request)
  | endCreate (index : Nat)
  | beginUpdate (now : Instant) (request : Request)
  | endUpdate (index : Nat)
  | beginChange (now : Instant) (selection : Selection)
  | endChange (index : Nat) (confirmed : Bool) (now : Instant)

/-- `create` up to the embedding. -/
def State.beginCreate (state : State) (now : Instant) (request : Request) : State :=
  match TaskEdits.beginCreate calendar now request state.tasks with
  | (after, .error _) => { state with tasks := after }
  | (after, .ok creation) =>
      { state with tasks := after, creating := state.creating ++ [creation] }

/-- The tasks with the record of a request, unless it is refused. -/
def appended (creation : Creation) (tasks : List Record) : List Record :=
  match creation.record calendar with
  | .error _ => tasks
  | .ok record => tasks ++ [record]

/-- `update` and `complete` up to the embedding, or to the end when no summary is given. -/
def State.beginUpdate (state : State) (now : Instant) (request : Request) : State :=
  match lookUp calendar now request state.tasks with
  | (after, .error _) => { state with tasks := after }
  | (after, .ok position) =>
      let written := (editAt (request.writeSummary calendar) position after).1
      if calendar.normalizeText request.summary = "" then
        { state with tasks := (editAt (request.endUpdate calendar now) position written).1 }
      else
        { state with tasks := written
                     updating := state.updating ++ [{ request, now, position }] }

/-- `delete` and `restore` up to the question to the user. -/
def State.beginChange (state : State) (now : Instant) (selection : Selection) : State :=
  match select calendar now selection state.tasks with
  | (after, .error _) => { state with tasks := after }
  | (after, .ok []) => { state with tasks := after }
  | (after, .ok (position :: rest)) =>
      { state with tasks := after
                   changing := state.changing ++
                     [{ restores := selection.restores, positions := position :: rest }] }

/-- One step of the operations. -/
def step (state : State) : Action → Option State
  | .beginCreate now request => some (state.beginCreate calendar now request)
  | .endCreate index =>
      state.creating[index]?.map fun creation =>
        { state with tasks := appended calendar creation state.tasks
                     creating := state.creating.eraseIdx index }
  | .beginUpdate now request => some (state.beginUpdate calendar now request)
  | .endUpdate index =>
      state.updating[index]?.map fun updating =>
        { state with tasks := (editAt (updating.request.endUpdate calendar updating.now)
                       updating.position state.tasks).1
                     updating := state.updating.eraseIdx index }
  | .beginChange now selection => some (state.beginChange calendar now selection)
  | .endChange index confirmed now =>
      state.changing[index]?.map fun change =>
        { state with tasks := if confirmed then changeAll calendar change.status now change.positions
                         state.tasks
                       else state.tasks
                     changing := state.changing.eraseIdx index }

/-! ## Keys -/

/-- The user sees the record when looking at some lifecycle statuses. -/
def Seen (shown : String → Bool) (userId : String) (record : Record) : Prop :=
  shown (recordStatus calendar record) = true ∧ ofUser userId record = .ok true

/-- The key of a task. -/
def keyOf (record : Record) : String := calendar.fieldText record "task_key"

/-- No two active tasks of a user have the same key. -/
def Unique (tasks : List Record) : Prop :=
  ∀ (userId : String) (position other : Nat) (first second : Record),
    tasks[position]? = some first → tasks[other]? = some second →
    Seen calendar active userId first → Seen calendar active userId second →
    keyOf calendar first = keyOf calendar second → position = other

/-- An active task of a user stands in front of whatever else he keeps under its key, active or
deleted. -/
def Leads (tasks : List Record) : Prop :=
  ∀ (userId : String) (position other : Nat) (first second : Record), position < other →
    tasks[position]? = some first → tasks[other]? = some second →
    Seen calendar kept userId first → Seen calendar active userId second →
    keyOf calendar first ≠ keyOf calendar second

/-- The selection is by one key: the only one of its keys, or its key where it has none. -/
def Selection.Names (selection : Selection) (key : String) : Prop :=
  if (selection.keys calendar).isEmpty then calendar.normalizeText selection.taskKey = key
  else ∃ given, selection.keys calendar = [given] ∧ calendar.normalizeText (.str given) = key

/-- The lifecycle statuses a selection by a key looks at. -/
def Selection.looked (selection : Selection) : String → Bool :=
  if (selection.keys calendar).isEmpty then selection.shown else kept

/-- What a look by the key of an active task of the user finds is that task: a look at the active
tasks, as creating makes it, and a look at the deleted ones as well, where the task is among those
that it passes. So an update by the key waits with that task, and a deletion or a restore by the key
selects it and no other. -/
structure Reaches (tasks : List Record) : Prop where
  amongActive : ∀ (now : Instant) (userId : String) (taskKey : Json) (domain : Option String)
    (position : Nat) (record : Record), tasks[position]? = some record →
    Seen calendar active userId record → keyOf calendar record = calendar.normalizeText taskKey →
    ∀ found, (findTaskRecord calendar now userId taskKey active domain tasks).2 =
      .ok (some found) → found = position
  amongKept : ∀ (now : Instant) (userId : String) (taskKey : Json) (domain : Option String)
    (position : Nat) (record : Record) (passed : List Nat), tasks[position]? = some record →
    Seen calendar active userId record → keyOf calendar record = calendar.normalizeText taskKey →
    (iterUserTasks calendar now userId kept domain 0 tasks).2 = .ok passed → position ∈ passed →
    ∀ found, (findTaskRecord calendar now userId taskKey kept domain tasks).2 =
      .ok (some found) → found = position
  updates : ∀ (now : Instant) (request : Request) (position : Nat) (record : Record),
    tasks[position]? = some record → Seen calendar active request.userId record →
    keyOf calendar record = calendar.normalizeText request.taskKey →
    ∀ found, (lookUp calendar now request tasks).2 = .ok found → found = position
  selects : ∀ (now : Instant) (selection : Selection) (position : Nat) (record : Record)
    (passed : List Nat), tasks[position]? = some record →
    Seen calendar active selection.userId record → keyOf calendar record ≠ "" →
    selection.Names calendar (keyOf calendar record) →
    (iterUserTasks calendar now selection.userId (selection.looked calendar) userTodo 0 tasks).2 =
      .ok passed → position ∈ passed →
    ∀ chosen, (select calendar now selection tasks).2 = .ok chosen → chosen = [position]

/-- A task key names one active task, which is the first one under the key, and an operation by
the key reaches it. -/
structure Named (state : State) : Prop where
  unique : Unique calendar state.tasks
  leads : Leads calendar state.tasks
  reaches : Reaches calendar state.tasks

/-- Nobody who sees the record keeps a task with its key, active or deleted. -/
def Fresh (tasks : List Record) (record : Record) : Prop :=
  ∀ userId, Seen calendar active userId record → ∀ other ∈ tasks,
    Seen calendar kept userId other → keyOf calendar other ≠ keyOf calendar record

/-- Where a user sees two records, of which the first one is kept or among those to change, and
the second one is to be restored, or is active and not to be deleted, they have different keys. -/
def Changeable (tasks : List Record) (change : StatusChange) : Prop :=
  ∀ (userId : String) (position other : Nat) (first second : Record), position < other →
    tasks[position]? = some first → tasks[other]? = some second →
    ofUser userId first = .ok true → ofUser userId second = .ok true →
    (position ∈ change.positions ∨ kept (recordStatus calendar first) = true) →
    (if other ∈ change.positions then change.restores = true
      else active (recordStatus calendar second) = true) →
    keyOf calendar first ≠ keyOf calendar second

/-- A new task is appended while nothing is kept under its key, and tasks are deleted or restored
while their keys allow it. -/
def KeysFree (state : State) : Action → Prop
  | .endCreate index => ∀ creation record, state.creating[index]? = some creation →
      creation.record calendar = .ok record → Fresh calendar state.tasks record
  | .endChange index confirmed _ => ∀ change, state.changing[index]? = some change →
      confirmed = true → Changeable calendar state.tasks change
  | _ => True

end

/-! ## What the edits leave alone -/

section
variable {calendar : Calendar} {now : Instant}

open Edit

/-- The fields an update may write. -/
def updatedFields : List String :=
  normalizedFields ++ ["task_status", "content", "canonical_text", "embedding", "embedding_model",
    "project", "deadline", "last_updated_at"]

section
variable {name : String} (apart : ∀ written ∈ updatedFields, written ≠ name)
include apart

theorem keeps_updated {written : String} (member : written ∈ updatedFields) (value : Json) :
    Keeps name (write written value : Change Unit) := keeps_write (apart written member) value

theorem keeps_defaults : Keeps name (calendar.ensureTaskDefaults now) :=
  keeps_ensureTaskDefaults (fun written member => apart written (List.mem_append_left _ member))
    (apart "task_status" (by decide))

theorem keeps_job (changes : List (String × Json)) :
    Keeps name (calendar.updateTaskJob now changes) :=
  keeps_updateTaskJob (fun written member => apart written (List.mem_append_left _ member)) changes

theorem keeps_orchestration : Keeps name (calendar.syncOrchestrationState now) :=
  keeps_syncOrchestrationState fun written member =>
    apart written (List.mem_append_left _ member)

theorem keeps_writeSummary (request : Request) : Keeps name (request.writeSummary calendar) := by
  simp only [Request.writeSummary]
  repeat' with_reducible first
    | refine keeps_bind ?_ fun _ => ?_
    | exact keeps_updated apart (by decide) _
    | exact keeps_pure name _
    | split

theorem keeps_writeTexts (request : Request) : Keeps name (request.writeTexts calendar) := by
  simp only [Request.writeTexts]
  repeat' with_reducible first
    | refine keeps_bind ?_ fun _ => ?_
    | exact keeps_updated apart (by decide) _
    | exact keeps_pure name _
    | split

theorem keeps_markTaskCompleted (summary : Json) :
    Keeps name (markTaskCompleted calendar now summary) := by
  simp only [markTaskCompleted]
  repeat' with_reducible first
    | refine keeps_bind ?_ fun _ => ?_
    | exact keeps_defaults apart
    | exact keeps_job apart _
    | exact keeps_orchestration apart
    | exact keeps_now name
    | exact keeps_lift name _
    | exact keeps_updated apart (by decide) _

theorem keeps_writeStatus (request : Request) :
    Keeps name (request.writeStatus calendar now) := by
  simp only [Request.writeStatus]
  repeat' with_reducible first
    | refine keeps_bind ?_ fun _ => ?_
    | exact keeps_markTaskCompleted apart _
    | exact keeps_now name
    | exact keeps_lift name _
    | exact keeps_updated apart (by decide) _
    | exact keeps_pure name _
    | split

theorem keeps_writeDeadline (request : Request) : Keeps name (request.writeDeadline calendar) := by
  simp only [Request.writeDeadline]
  repeat' with_reducible first
    | refine keeps_bind ?_ fun _ => ?_
    | exact keeps_updated apart (by decide) _
    | exact keeps_pure name _
    | split

theorem keeps_checkSchedule (request : Request) :
    Keeps name (request.checkSchedule calendar now) := by
  simp only [Request.checkSchedule]
  repeat' with_reducible first
    | refine keeps_bind ?_ fun _ => ?_
    | exact keeps_defaults apart
    | exact keeps_now name
    | exact keeps_lift name _
    | exact keeps_pure name _
    | split

theorem keeps_writeDiffering {payload : List (String × Json)}
    (names : ∀ entry ∈ payload, entry.1 ∈ updatedFields) : Keeps name (writeDiffering payload) := by
  induction payload with
  | nil => exact keeps_pure name _
  | cons entry rest inductionHypothesis =>
    have others := inductionHypothesis fun other member => names other
      (List.mem_cons_of_mem entry member)
    simp only [writeDiffering]
    repeat' with_reducible first
      | refine keeps_bind ?_ fun _ => ?_
      | exact others
      | exact keeps_now name
      | exact keeps_updated apart (names entry List.mem_cons_self) _
      | exact keeps_pure name _
      | split

theorem keeps_writeSchedule {payload : List (String × Json)}
    (names : ∀ entry ∈ payload, entry.1 ∈ updatedFields) :
    Keeps name (writeSchedule calendar now payload) := by
  simp only [writeSchedule]
  repeat' with_reducible first
    | refine keeps_bind ?_ fun _ => ?_
    | exact keeps_writeDiffering apart names
    | exact keeps_now name
    | exact keeps_updated apart (by decide) _
    | exact keeps_pure name _
    | split

omit apart in
/-- A schedule that is accepted writes its seven fields. -/
theorem schedulePayload_names {summary deadline : String} {timezoneName : Json}
    {inputs : ScheduleInputs} {existing : Record} {allowClear infer : Bool}
    {payload : List (String × Json)}
    (accepted : schedulePayload calendar summary deadline timezoneName inputs existing allowClear
      infer = .ok payload) : ∀ entry ∈ payload, entry.1 ∈ updatedFields := by
  have written : payload.map Prod.fst = ["schedule_kind", "due_at", "timezone", "recurrence",
      "auto_run", "job_prompt", "notify_policy"] := by
    simp only [schedulePayload] at accepted
    obtain ⟨schedule, _, accepted⟩ := bind_ok accepted
    split at accepted
    all_goals
      obtain ⟨stated, _, accepted⟩ := bind_ok accepted
      obtain ⟨policy, _, accepted⟩ := bind_ok accepted
      rw [← Except.ok.inj accepted]
      rfl
  intro entry member
  have named := List.mem_map_of_mem (f := Prod.fst) member
  rw [written] at named
  exact (by decide : ∀ name ∈ ["schedule_kind", "due_at", "timezone", "recurrence", "auto_run",
    "job_prompt", "notify_policy"], name ∈ updatedFields) entry.1 named

theorem keeps_writePreferences (request : Request) :
    Keeps name (request.writePreferences calendar) := by
  simp only [Request.writePreferences, writeGiven]
  repeat' with_reducible first
    | refine keeps_bind ?_ fun _ => ?_
    | exact keeps_updated apart (by decide) _
    | exact keeps_pure name _
    | split

theorem keeps_finishUpdate (request : Request) :
    Keeps name (request.finishUpdate calendar now) := by
  simp only [Request.finishUpdate]
  repeat' with_reducible first
    | refine keeps_bind ?_ fun _ => ?_
    | exact keeps_orchestration apart
    | exact keeps_now name
    | exact keeps_lift name _
    | exact keeps_updated apart (by decide) _
    | exact keeps_pure name _
    | split

theorem keeps_updateSchedule (request : Request) (changed : Bool) :
    Keeps name (request.updateSchedule calendar now changed) := by
  intro record
  refine keepsAt_bind (keeps_checkSchedule apart request record) fun payload after checked => ?_
  suffices names : ∀ entry ∈ payload, entry.1 ∈ updatedFields by
    refine keeps_bind (keeps_writeSchedule apart names) (fun schedule => ?_) after
    refine keeps_bind (keeps_writePreferences apart request) fun preferences => ?_
    split
    · exact keeps_finishUpdate apart request
    · exact keeps_refuse name _
  rw [Request.checkSchedule] at checked
  split at checked
  · obtain ⟨read, first, _, checked⟩ := ok_of_bind checked
    simp only at checked
    split at checked
    · obtain ⟨_, second, _, checked⟩ := ok_of_bind checked
      obtain ⟨existing, third, _, checked⟩ := ok_of_bind checked
      exact schedulePayload_names (Prod.mk.inj checked).1
    · obtain ⟨existing, third, _, checked⟩ := ok_of_bind checked
      exact schedulePayload_names (Prod.mk.inj checked).1
  · obtain rfl := Except.ok.inj (Prod.mk.inj checked).1
    exact fun entry member => by cases member

theorem keeps_endUpdate (request : Request) : Keeps name (request.endUpdate calendar now) := by
  simp only [Request.endUpdate]
  refine keeps_bind (keeps_writeTexts apart request) fun texts => ?_
  refine keeps_bind (keeps_writeStatus apart request) fun status => ?_
  refine keeps_bind (keeps_writeDeadline apart request) fun deadline => ?_
  exact keeps_updateSchedule apart request _

end

/-! ## Who sees a task under which key -/

/-- The fields that say who sees a record under which key. -/
def identity (record : Record) : Option Json × Option Json × Option Json :=
  (record.get "scope", record.get "status", record.get "task_key")

/-- An edit that keeps all fields but those of an update keeps who sees a record. -/
theorem identity_kept {change : Change Unit}
    (keeps : ∀ name, (∀ written ∈ updatedFields, written ≠ name) → Keeps name change)
    (record : Record) : identity (change.leaves record) = identity record := by
  rw [identity, keeps "scope" (by decide), keeps "status" (by decide),
    keeps "task_key" (by decide), identity]

theorem identity_defaults (record : Record) :
    identity ((calendar.ensureTaskDefaults now).leaves record) = identity record :=
  identity_kept (fun _ apart => keeps_defaults apart) record

theorem seen_congr {shown : String → Bool} {userId : String} {first second : Record}
    (same : identity first = identity second) :
    Seen calendar shown userId first ↔ Seen calendar shown userId second := by
  obtain ⟨scope, status, _⟩ : first.get "scope" = second.get "scope" ∧
    first.get "status" = second.get "status" ∧ first.get "task_key" = second.get "task_key" := by
      simpa [identity] using same
  have statuses : recordStatus calendar first = recordStatus calendar second := by
    rw [recordStatus, recordStatus, Calendar.fieldText, Calendar.fieldText, field, field, status]
  have owners : ofUser userId first = ofUser userId second := by rw [ofUser, ofUser, scope]
  rw [Seen, Seen, statuses, owners]

theorem keyOf_congr {first second : Record} (same : identity first = identity second) :
    keyOf calendar first = keyOf calendar second := by
  have key : first.get "task_key" = second.get "task_key" := congrArg (fun of => of.2.2) same
  simp only [keyOf, Calendar.fieldText, field, key]

/-- Edits in place that keep who sees a record keep it of all records. -/
theorem identities_editAt {change : Change Unit}
    (kept : ∀ record, identity (change.leaves record) = identity record) (position : Nat)
    (tasks : List Record) :
    (editAt change position tasks).1.map identity = tasks.map identity := by
  rw [editAt]
  split
  · rfl
  · next record stored =>
    obtain ⟨below, found⟩ := List.getElem?_eq_some_iff.mp stored
    have same := kept record
    rw [leaves] at same
    simp only [List.map_set, same]
    rw [← found, ← List.getElem_map identity (h := by simpa using below)]
    exact List.set_getElem_self _

theorem identities_iterUserTasks (userId : String) (shown : String → Bool)
    (domain : Option String) (start : Nat) (tasks : List Record) :
    (iterUserTasks calendar now userId shown domain start tasks).1.map identity =
      tasks.map identity := by
  induction tasks generalizing start with
  | nil => rfl
  | cons record rest inductionHypothesis =>
    have others := inductionHypothesis (start + 1)
    rw [iterUserTasks]
    split
    · split
      · rfl
      · exact congrArg (identity record :: ·) others
      · have same := @identity_defaults calendar now record
        rw [leaves] at same
        split
        · next raised after ensured =>
          rw [ensured] at same
          exact congrArg (· :: rest.map identity) same
        · next done after ensured =>
          rw [ensured] at same
          simp only [List.map_cons, others, same]
    · exact congrArg (identity record :: ·) others

theorem identities_findTaskRecord (userId : String) (taskKey : Json) (shown : String → Bool)
    (domain : Option String) (tasks : List Record) :
    (findTaskRecord calendar now userId taskKey shown domain tasks).1.map identity =
      tasks.map identity := by
  rw [findTaskRecord]
  split
  · rfl
  · exact identities_iterUserTasks userId shown domain 0 tasks

theorem identities_ensureUniqueTaskKey (userId preferredKey : String) (tasks : List Record) :
    (ensureUniqueTaskKey calendar now userId preferredKey tasks).1.map identity =
      tasks.map identity := by
  rw [ensureUniqueTaskKey]
  generalize tasks.length + 1 = tries
  generalize 0 = index
  induction tries generalizing index tasks with
  | zero => rfl
  | succ tries inductionHypothesis =>
    have same := @identities_findTaskRecord calendar now userId
      (.str (candidateKey (slugify preferredKey) index)) active none tasks
    rw [freeKeyFrom]
    split
    · next after raised looked => rw [looked] at same; exact same
    · next after looked => rw [looked] at same; exact same
    · next after position looked =>
      rw [looked] at same
      exact (inductionHypothesis after (index + 1)).trans same

theorem identities_beginCreate (request : Request) (tasks : List Record) :
    (beginCreate calendar now request tasks).1.map identity = tasks.map identity := by
  rw [beginCreate]
  split
  · rfl
  · have same := @identities_ensureUniqueTaskKey calendar now
      request.userId (calendar.text
        (if request.taskKey.truthy then request.taskKey else request.summary)) tasks
    simp only
    split
    · next after raised searched => rw [searched] at same; exact same
    · next after key searched => rw [searched] at same; exact same

theorem identities_lookUp (request : Request) (tasks : List Record) :
    (lookUp calendar now request tasks).1.map identity = tasks.map identity := by
  rw [lookUp]
  split
  · rfl
  · next domain expected =>
    have same := @identities_findTaskRecord calendar now request.userId
      request.taskKey active domain tasks
    split
    · next after raised found => rw [found] at same; exact same
    · next after found => rw [found] at same; exact same
    · next after position found =>
      rw [found] at same
      exact (identities_editAt identity_defaults position after).trans same

theorem identities_findAll (userId : String) (keys : List String) (tasks : List Record) :
    (findAll calendar now userId keys tasks).1.map identity = tasks.map identity := by
  induction keys generalizing tasks with
  | nil => rfl
  | cons key rest inductionHypothesis =>
    have same := @identities_findTaskRecord calendar now userId (.str key)
      kept userTodo tasks
    rw [findAll]
    split
    · next after raised found => rw [found] at same; exact same
    · next after position found =>
      rw [found] at same
      exact (inductionHypothesis after).trans same

theorem identities_findTaskTargets (selection : Selection) (tasks : List Record) :
    (findTaskTargets calendar now selection tasks).1.map identity = tasks.map identity := by
  have same := @identities_findTaskRecord calendar now selection.userId
    selection.taskKey selection.shown userTodo tasks
  rw [findTaskTargets]
  split
  · next after raised found => rw [found] at same; exact same
  · next after position found => rw [found] at same; exact same
  · next after found =>
    rw [found] at same
    simp only
    split
    · exact same
    · have pooled := @identities_iterUserTasks calendar now selection.userId
        selection.shown userTodo 0 after
      split
      · next others raised looked => rw [looked] at pooled; exact pooled.trans same
      · next others pool looked =>
        rw [looked] at pooled
        split
        · exact pooled.trans same
        · exact pooled.trans same

theorem identities_select (selection : Selection) (tasks : List Record) :
    (select calendar now selection tasks).1.map identity = tasks.map identity := by
  rw [select]
  split
  · have same := @identities_findTaskTargets calendar now selection tasks
    generalize findTaskTargets calendar now selection tasks = found at same ⊢
    obtain ⟨after, result⟩ := found
    exact same
  · exact identities_findAll selection.userId _ tasks

/-- Records that are seen alike stand at the same positions. -/
theorem getElem_of_identities {before after : List Record} {position : Nat} {record : Record}
    (same : after.map identity = before.map identity) (stored : after[position]? = some record) :
    ∃ held, before[position]? = some held ∧ identity held = identity record := by
  have found : (before.map identity)[position]? = some (identity record) := by
    rw [← same, List.getElem?_map, stored]
    rfl
  rw [List.getElem?_map] at found
  exact Option.map_eq_some_iff.mp found

theorem leads_of_identities {before after : List Record}
    (same : after.map identity = before.map identity) (leads : Leads calendar before) :
    Leads calendar after := by
  intro userId position other first second below stored also mine his
  obtain ⟨held, found, alike⟩ := getElem_of_identities same stored
  obtain ⟨otherHeld, otherFound, otherAlike⟩ := getElem_of_identities same also
  rw [← keyOf_congr alike, ← keyOf_congr otherAlike]
  exact leads userId position other held otherHeld below found otherFound
    ((seen_congr alike).mpr mine) ((seen_congr otherAlike).mpr his)

/-- What is active is kept. -/
theorem kept_of_active {userId : String} {record : Record}
    (seen : Seen calendar active userId record) : Seen calendar kept userId record :=
  ⟨decide_eq_true (Or.inl (of_decide_eq_true seen.1)), seen.2⟩

/-- A look returns positions of tasks that the user sees. -/
theorem seen_of_iterUserTasks {userId : String} {shown : String → Bool} {domain : Option String}
    {start : Nat} {tasks : List Record} {positions : List Nat}
    (found : (iterUserTasks calendar now userId shown domain start tasks).2 = .ok positions) :
    ∀ position ∈ positions, ∃ index record, position = start + index ∧
      tasks[index]? = some record ∧ Seen calendar shown userId record := by
  induction tasks generalizing start positions with
  | nil =>
    obtain rfl := Except.ok.inj found
    exact fun position member => nomatch member
  | cons record rest inductionHypothesis =>
    have shifted {below : List Nat} (others : (iterUserTasks calendar now userId shown domain
          (start + 1) rest).2 = .ok below) :
        ∀ position ∈ below, ∃ index held, position = start + index ∧
          (record :: rest)[index]? = some held ∧ Seen calendar shown userId held := by
      intro position member
      obtain ⟨index, held, rfl, stored, mine⟩ := inductionHypothesis others position member
      exact ⟨index + 1, held, by omega, stored, mine⟩
    rw [iterUserTasks] at found
    split at found
    · next isShown =>
      split at found
      · cases found
      · exact shifted found
      · next owner =>
        split at found
        · cases found
        · simp only at found
          cases others : (iterUserTasks calendar now userId shown domain (start + 1) rest).2 with
          | error raised => rw [others] at found; cases found
          | ok below =>
            rw [others] at found
            have chosen := Except.ok.inj found
            intro position member
            rw [← chosen] at member
            split at member
            · rcases List.mem_cons.mp member with rfl | later
              · exact ⟨0, record, rfl, rfl, isShown, owner⟩
              · exact shifted others position later
            · exact shifted others position member
    · exact shifted found

/-- A look returns positions in their order. -/
theorem sorted_iterUserTasks {userId : String} {shown : String → Bool} {domain : Option String}
    {start : Nat} {tasks : List Record} {positions : List Nat}
    (found : (iterUserTasks calendar now userId shown domain start tasks).2 = .ok positions) :
    positions.Pairwise (· < ·) := by
  induction tasks generalizing start positions with
  | nil =>
    obtain rfl := Except.ok.inj found
    exact List.Pairwise.nil
  | cons record rest inductionHypothesis =>
    rw [iterUserTasks] at found
    split at found
    · split at found
      · cases found
      · exact inductionHypothesis found
      · split at found
        · cases found
        · simp only at found
          cases others : (iterUserTasks calendar now userId shown domain (start + 1) rest).2 with
          | error raised => rw [others] at found; cases found
          | ok below =>
            rw [others] at found
            have chosen := Except.ok.inj found
            rw [← chosen]
            split
            · refine List.pairwise_cons.mpr ⟨fun position member => ?_, inductionHypothesis others⟩
              obtain ⟨index, _, rfl, _⟩ := seen_of_iterUserTasks others position member
              omega
            · exact inductionHypothesis others
    · exact inductionHypothesis found

/-- A look by a key returns the position of a task that the user sees under this key, and in front
of any other such task that it passes. -/
theorem findTaskRecord_found {userId : String} {taskKey : Json} {shown : String → Bool}
    {domain : Option String} {tasks : List Record} {found : Nat}
    (looked : (findTaskRecord calendar now userId taskKey shown domain tasks).2 =
      .ok (some found)) :
    (∃ record, tasks[found]? = some record ∧ Seen calendar shown userId record ∧
      keyOf calendar record = calendar.normalizeText taskKey) ∧
    ∀ passed, (iterUserTasks calendar now userId shown domain 0 tasks).2 = .ok passed →
      ∀ position ∈ passed, ∀ record, tasks[position]? = some record →
        keyOf calendar record = calendar.normalizeText taskKey → found ≤ position := by
  have same := @identities_iterUserTasks calendar now userId shown domain 0 tasks
  rw [findTaskRecord] at looked
  split at looked
  · cases looked
  generalize searched : iterUserTasks calendar now userId shown domain 0 tasks = result
    at looked same ⊢
  obtain ⟨after, positions⟩ := result
  cases positions with
  | error raised => cases looked
  | ok positions =>
    have chosen := Except.ok.inj looked
    beta_reduce at chosen
    obtain ⟨tested, front, behind, whole, before⟩ := List.find?_eq_some_iff_append.mp chosen
    constructor
    · have seen := seen_of_iterUserTasks (congrArg Prod.snd searched) found
        (List.mem_of_find?_eq_some chosen)
      obtain ⟨index, record, placed, stored, seen⟩ := seen
      obtain rfl : found = index := by omega
      refine ⟨record, stored, seen, ?_⟩
      rw [decide_eq_true_eq] at tested
      obtain ⟨held, kept, key⟩ := Option.map_eq_some_iff.mp tested
      obtain ⟨_, original, alike⟩ := getElem_of_identities same kept
      rw [stored] at original
      obtain rfl := Option.some.inj original
      rw [keyOf_congr alike]
      exact key
    · intro passed is position member record stored key
      obtain rfl := Except.ok.inj is
      have sorted : positions.Pairwise (· < ·) :=
        sorted_iterUserTasks (congrArg Prod.snd searched)
      rw [whole] at member sorted
      have rising := (List.pairwise_append.mp sorted).2.1
      rcases List.mem_append.mp member with earlier | later
      · -- a task in front of the one that is found has another key
        have apart := before position earlier
        obtain ⟨held, kept, alike⟩ := getElem_of_identities same.symm stored
        rw [kept, Option.map_some] at apart
        rw [← keyOf_congr alike] at key
        simp [← key, keyOf] at apart
      · rcases List.mem_cons.mp later with rfl | beyond
        · exact Nat.le_refl _
        · exact Nat.le_of_lt (List.rel_of_pairwise_cons rising beyond)

/-- A look by a key that finds nothing passes no task with the key. -/
theorem findTaskRecord_none {userId : String} {taskKey : Json} {shown : String → Bool}
    {domain : Option String} {tasks : List Record} {passed : List Nat}
    (named : calendar.normalizeText taskKey ≠ "")
    (missed : (findTaskRecord calendar now userId taskKey shown domain tasks).2 = .ok none)
    (is : (iterUserTasks calendar now userId shown domain 0 tasks).2 = .ok passed) :
    ∀ position ∈ passed, ∀ record, tasks[position]? = some record →
      keyOf calendar record ≠ calendar.normalizeText taskKey := by
  intro position member record stored key
  have same := @identities_iterUserTasks calendar now userId shown domain 0 tasks
  rw [findTaskRecord, if_neg named] at missed
  dsimp only at missed
  rw [is] at missed
  have misses := List.find?_eq_none.mp (Except.ok.inj missed) position member
  obtain ⟨held, kept, alike⟩ := getElem_of_identities same.symm stored
  rw [kept, Option.map_some, ← key, ← keyOf_congr alike] at misses
  exact misses (decide_eq_true rfl)

/-- Where active tasks lead, a look by the key of one that it passes finds no other. -/
theorem found_of_leads {userId : String} {taskKey : Json} {shown : String → Bool}
    {domain : Option String} {tasks : List Record} {position found : Nat} {record : Record}
    {passed : List Nat} (leads : Leads calendar tasks)
    (within : ∀ status, shown status = true → kept status = true)
    (stored : tasks[position]? = some record) (mine : Seen calendar active userId record)
    (key : keyOf calendar record = calendar.normalizeText taskKey)
    (is : (iterUserTasks calendar now userId shown domain 0 tasks).2 = .ok passed)
    (member : position ∈ passed)
    (looked : (findTaskRecord calendar now userId taskKey shown domain tasks).2 =
      .ok (some found)) : found = position := by
  obtain ⟨⟨other, also, his, same⟩, first⟩ := findTaskRecord_found looked
  rcases Nat.lt_or_eq_of_le (first passed is position member record stored key) with before | here
  · exact absurd (same.trans key.symm) (leads userId found position other record before also
      stored ⟨within _ his.1, his.2⟩ mine)
  · exact here

/-- Such a look finds it. -/
theorem looked_of_leads {userId : String} {taskKey : Json} {shown : String → Bool}
    {domain : Option String} {tasks : List Record} {position : Nat} {record : Record}
    {passed : List Nat} {found : Option Nat} (leads : Leads calendar tasks)
    (within : ∀ status, shown status = true → kept status = true)
    (stored : tasks[position]? = some record) (mine : Seen calendar active userId record)
    (named : keyOf calendar record ≠ "")
    (key : calendar.normalizeText taskKey = keyOf calendar record)
    (is : (iterUserTasks calendar now userId shown domain 0 tasks).2 = .ok passed)
    (member : position ∈ passed)
    (looked : (findTaskRecord calendar now userId taskKey shown domain tasks).2 = .ok found) :
    found = some position := by
  cases found with
  | none =>
    have misses := findTaskRecord_none (key ▸ named) looked is
    exact absurd key.symm (misses position member record stored)
  | some found =>
    exact congrArg some (found_of_leads leads within stored mine key.symm is member looked)

/-- What a selection by a key looks at is kept. -/
theorem Selection.looked_kept (selection : Selection) (status : String)
    (looks : selection.looked calendar status = true) : kept status = true := by
  unfold Selection.looked Selection.shown at looks
  split_ifs at looks
  · exact looks
  · exact decide_eq_true (Or.inl (of_decide_eq_true looks))
  · exact looks

/-- Where active tasks lead, a selection by the key of one selects it. -/
theorem selects_of_leads {tasks : List Record} {selection : Selection} {position : Nat}
    {record : Record} {passed chosen : List Nat} (leads : Leads calendar tasks)
    (stored : tasks[position]? = some record)
    (mine : Seen calendar active selection.userId record) (named : keyOf calendar record ≠ "")
    (names : selection.Names calendar (keyOf calendar record))
    (is : (iterUserTasks calendar now selection.userId (selection.looked calendar) userTodo 0
      tasks).2 = .ok passed) (member : position ∈ passed)
    (selected : (select calendar now selection tasks).2 = .ok chosen) : chosen = [position] := by
  have within := @Selection.looked_kept calendar selection
  unfold Selection.looked at is within
  unfold Selection.Names at names
  unfold select at selected
  by_cases none_ : (selection.keys calendar).isEmpty = true
  · rw [if_pos none_] at is within names selected
    unfold findTaskTargets at selected
    rcases looked : findTaskRecord calendar now selection.userId selection.taskKey selection.shown
      userTodo tasks with ⟨after, raised | found⟩ <;> rw [looked] at selected
    · cases selected
    · obtain rfl := looked_of_leads leads within stored mine named names is member
        (congrArg Prod.snd looked)
      exact (Except.ok.inj selected).symm
  · rw [if_neg none_] at is within names selected
    obtain ⟨given, keys, names⟩ := names
    rw [keys, findAll] at selected
    rcases looked : findTaskRecord calendar now selection.userId (.str given) kept userTodo
      tasks with ⟨after, raised | found⟩ <;> rw [looked] at selected
    · cases selected
    · obtain rfl := looked_of_leads leads within stored mine named names is member
        (congrArg Prod.snd looked)
      exact (Except.ok.inj selected).symm

/-- Where active tasks lead, a look by the key of one reaches it. -/
theorem amongActive_of_leads {userId : String} {taskKey : Json} {domain : Option String}
    {tasks : List Record} {position found : Nat} {record : Record} (leads : Leads calendar tasks)
    (stored : tasks[position]? = some record) (mine : Seen calendar active userId record)
    (key : keyOf calendar record = calendar.normalizeText taskKey)
    (looked : (findTaskRecord calendar now userId taskKey active domain tasks).2 =
      .ok (some found)) : found = position := by
  obtain ⟨⟨other, also, his, same⟩, _⟩ := findTaskRecord_found looked
  rcases Nat.lt_trichotomy found position with before | here | behind
  · exact absurd (same.trans key.symm) (leads userId found position other record before also
      stored (kept_of_active his) mine)
  · exact here
  · exact absurd (key.trans same.symm) (leads userId position found record other behind stored
      also (kept_of_active mine) his)

/-- Where active tasks lead, an operation by the key of one reaches it. -/
theorem reaches_of_leads {tasks : List Record} (leads : Leads calendar tasks) :
    Reaches calendar tasks where
  amongActive _ _ _ _ _ _ stored mine key _ looked :=
    amongActive_of_leads leads stored mine key looked
  amongKept _ _ _ _ _ _ _ stored mine key is member _ looked :=
    found_of_leads leads (fun _ shown => shown) stored mine key is member looked
  updates now request position record stored mine key found looked := by
    unfold lookUp at looked
    split at looked
    · cases looked
    · split at looked
      · cases looked
      · cases looked
      · next after position searched =>
        have here := amongActive_of_leads leads stored mine key (congrArg Prod.snd searched)
        cases edited : (editAt (calendar.ensureTaskDefaults now) position after).2 with
        | error raised => simp [edited, Except.map] at looked
        | ok done =>
          simp only [edited, Except.map, Except.ok.injEq] at looked
          exact looked.symm.trans here
  selects _ _ _ _ _ stored mine named names is member _ selected :=
    selects_of_leads leads stored mine named names is member selected

theorem named_iff (state : State) : Named calendar state ↔ Leads calendar state.tasks := by
  refine ⟨fun named => named.leads, fun leads => ⟨?_, leads, reaches_of_leads leads⟩⟩
  intro userId position other first second stored also mine his equal
  rcases Nat.lt_trichotomy position other with below | here | above
  · exact absurd equal (leads userId position other first second below stored also
      (kept_of_active mine) his)
  · exact here
  · exact absurd equal.symm (leads userId other position second first above also stored
      (kept_of_active his) mine)

/-! ## New tasks -/

theorem mem_or_last {tasks : List Record} {record found : Record} {position : Nat}
    (stored : (tasks ++ [record])[position]? = some found) :
    tasks[position]? = some found ∨ (position = tasks.length ∧ record = found) := by
  rcases Nat.lt_or_ge position tasks.length with below | beyond
  · rw [List.getElem?_append_left below] at stored
    exact Or.inl stored
  · rw [List.getElem?_append_right beyond, List.getElem?_singleton] at stored
    split at stored
    · next last => exact Or.inr ⟨by omega, Option.some.inj stored⟩
    · cases stored

/-- Behind a task that is appended active tasks lead where nobody who sees it keeps its key. -/
theorem leads_append {tasks : List Record} {record : Record} (leads : Leads calendar tasks) :
    Leads calendar (tasks ++ [record]) ↔ Fresh calendar tasks record := by
  constructor
  · intro still userId mine other member his
    obtain ⟨position, stored⟩ := List.mem_iff_getElem?.mp member
    have below := (List.getElem?_eq_some_iff.mp stored).1
    exact still userId position tasks.length other record below
      (by rw [List.getElem?_append_left below, stored])
      (by rw [List.getElem?_append_right (Nat.le_refl _), Nat.sub_self]; rfl) his mine
  · intro fresh userId position other first second below stored also mine his
    rcases mem_or_last also with oldAlso | ⟨rfl, rfl⟩
    · rcases mem_or_last stored with old | ⟨rfl, rfl⟩
      · exact leads userId position other first second below old oldAlso mine his
      · have inside := (List.getElem?_eq_some_iff.mp oldAlso).1
        omega
    · rcases mem_or_last stored with old | ⟨rfl, rfl⟩
      · exact fresh userId his first (List.mem_of_getElem? old) mine
      · omega

/-! ## Tasks that are deleted or restored -/

/-- How a record is seen once its status is changed. -/
def changed (status : String) (record : Record) : Option Json × Option Json × Option Json :=
  (record.get "scope", some (.str status), record.get "task_key")

theorem identity_changeStatus (status : String) (record : Record) :
    identity ((changeStatus calendar status now).leaves record) = changed status record := by
  rw [leaves, changeStatus, bind_apply, write_apply, identity, changed]
  simp [Dict.get_set]

/-- The record at a position behind an edit of one in place. -/
theorem getElem_editAt (change : Change Unit) (edited position : Nat) (tasks : List Record) :
    (editAt change edited tasks).1[position]? =
      if edited = position then tasks[position]?.map change.leaves else tasks[position]? := by
  rw [editAt]
  cases stored : tasks[edited]? with
  | none =>
    change tasks[position]? = _
    split
    · next same => rw [← same, stored]; rfl
    · rfl
  | some record =>
    simp only [List.getElem?_set]
    split
    · next same =>
      rw [← same, stored, if_pos (List.getElem?_eq_some_iff.mp stored).1]
      rfl
    · rfl

/-- Behind a change of status the records at its positions have the status, and the others are
seen as before. -/
theorem identities_changeAll (status : String) (positions : List Nat) (tasks : List Record)
    (position : Nat) :
    ((changeAll calendar status now positions tasks)[position]?.map identity) =
      tasks[position]?.map fun record =>
        if position ∈ positions then changed status record else identity record := by
  induction positions generalizing tasks with
  | nil => simp [changeAll]
  | cons first rest inductionHypothesis =>
    rw [changeAll, List.foldl_cons, ← changeAll, inductionHypothesis, getElem_editAt]
    by_cases here : first = position
    · rw [if_pos here, Option.map_map]
      refine congrFun (congrArg _ (funext fun record => ?_)) _
      have kept := @identity_changeStatus calendar now status record
      have scope := congrArg (fun of => of.1) kept
      have key := congrArg (fun of => of.2.2) kept
      simp only [identity, changed] at scope key
      simp only [Function.comp, here, List.mem_cons, true_or, if_true]
      split
      · rw [changed, scope, key, changed]
      · exact kept
    · simp only [if_neg here, List.mem_cons, Ne.symm here, false_or]

/-- Who sees a record whose status is changed. -/
theorem seen_changed {status : String} {first second : Record}
    (seen : identity first = changed status second) (given : status = "active" ∨ status = "deleted")
    (shown : String → Bool) (userId : String) :
    Seen calendar shown userId first ↔ shown status = true ∧ ofUser userId second = .ok true := by
  have scope := congrArg (fun of => of.1) seen
  have stored := congrArg (fun of => of.2.1) seen
  simp only [identity, changed] at scope stored
  have owners : ofUser userId first = ofUser userId second := by rw [ofUser, ofUser, scope]
  have status : recordStatus calendar first = status := by
    have plain : ∀ text ∈ ["active", "deleted"], Text.collapse (Text.strip text) = text := by
      decide +kernel
    have text : calendar.fieldText first "status" = status := by
      rw [Calendar.fieldText, field, stored]
      exact plain status (by simpa using given)
    rw [recordStatus, text]
    rcases given with rfl | rfl
    · rfl
    · rfl
  rw [Seen, status, owners]

/-- The key of a record whose status is changed. -/
theorem keyOf_changed {status : String} {first second : Record}
    (seen : identity first = changed status second) :
    keyOf calendar first = keyOf calendar second := by
  have key := congrArg (fun of => of.2.2) seen
  simp only [identity, changed] at key
  rw [keyOf, keyOf, Calendar.fieldText, Calendar.fieldText, field, field, key]

theorem StatusChange.status_cases (change : StatusChange) :
    change.status = "active" ∨ change.status = "deleted" := by
  rw [StatusChange.status]
  split
  · exact Or.inl rfl
  · exact Or.inr rfl

/-- The change restores exactly where the status it gives is the active one, and what it changes
is kept. -/
theorem StatusChange.status_shown (change : StatusChange) :
    (active change.status = true ↔ change.restores = true) ∧ kept change.status = true := by
  rw [StatusChange.status]
  cases change.restores with
  | true => decide
  | false => decide

/-- How a task is seen behind a change of status. -/
theorem seen_of_changeAll {change : StatusChange} {tasks : List Record} {position : Nat}
    {record : Record}
    (stored : (changeAll calendar change.status now change.positions tasks)[position]? =
      some record) :
    ∃ held, tasks[position]? = some held ∧ keyOf calendar record = keyOf calendar held ∧
      ∀ shown userId, Seen calendar shown userId record ↔ ofUser userId held = .ok true ∧
        if position ∈ change.positions then shown change.status = true
        else shown (recordStatus calendar held) = true := by
  have seen := @identities_changeAll calendar now change.status
    change.positions tasks position
  rw [stored] at seen
  obtain ⟨held, found, alike⟩ := Option.map_eq_some_iff.mp seen.symm
  refine ⟨held, found, ?_⟩
  split at alike
  · next chosen =>
    refine ⟨keyOf_changed alike.symm, fun shown userId => ?_⟩
    rw [seen_changed alike.symm change.status_cases shown userId, if_pos chosen, and_comm]
  · next apart =>
    refine ⟨(keyOf_congr alike).symm, fun shown userId => ?_⟩
    rw [if_neg apart, ← seen_congr alike, Seen, and_comm]

/-- Behind a change of status active tasks lead exactly where the keys allow the change. -/
theorem leads_changeAll {change : StatusChange} {tasks : List Record} :
    Leads calendar (changeAll calendar change.status now change.positions tasks) ↔
      Changeable calendar tasks change := by
  obtain ⟨restores, keeps⟩ := change.status_shown
  have placed : ∀ (index : Nat) (held : Record), tasks[index]? = some held →
      ∃ record, (changeAll calendar change.status now change.positions tasks)[index]? =
        some record := by
    intro index held found
    have same := @identities_changeAll calendar now change.status
      change.positions tasks index
    rw [found] at same
    obtain ⟨record, kept, _⟩ := Option.map_eq_some_iff.mp same
    exact ⟨record, kept⟩
  have shownFirst (position : Nat) (held : Record) :
      (if position ∈ change.positions then kept change.status = true
        else kept (recordStatus calendar held) = true) ↔
      (position ∈ change.positions ∨ kept (recordStatus calendar held) = true) := by
    by_cases chosen : position ∈ change.positions
    · simp [chosen, keeps]
    · simp [chosen]
  constructor
  · intro still userId position other first second below stored also mine his held active
    obtain ⟨changedFirst, firstPlaced⟩ := placed position first stored
    obtain ⟨changedSecond, secondPlaced⟩ := placed other second also
    obtain ⟨_, found, key, seen⟩ := seen_of_changeAll firstPlaced
    obtain ⟨_, otherFound, otherKey, otherSeen⟩ := seen_of_changeAll secondPlaced
    obtain rfl := Option.some.inj (found.symm.trans stored)
    obtain rfl := Option.some.inj (otherFound.symm.trans also)
    rw [← key, ← otherKey]
    refine still userId position other changedFirst changedSecond below firstPlaced secondPlaced
      ((seen _ userId).mpr ⟨mine, (shownFirst position _).mpr held⟩)
      ((otherSeen _ userId).mpr ⟨his, ?_⟩)
    rwa [restores]
  · intro changeable userId position other first second below stored also mine his
    obtain ⟨held, found, key, seen⟩ := seen_of_changeAll stored
    obtain ⟨otherHeld, otherFound, otherKey, otherSeen⟩ := seen_of_changeAll also
    obtain ⟨sees, shown⟩ := (seen _ userId).mp mine
    obtain ⟨otherSees, otherShown⟩ := (otherSeen _ userId).mp his
    rw [restores] at otherShown
    rw [key, otherKey]
    exact changeable userId position other held otherHeld below found otherFound sees otherSees
      ((shownFirst position held).mp shown) otherShown

/-! ## Every interleaving -/

theorem identities_beginCreated (state : State) (request : Request) :
    (state.beginCreate calendar now request).tasks.map identity = state.tasks.map identity := by
  have same := @identities_beginCreate calendar now request state.tasks
  rw [State.beginCreate]
  split
  · next after raised begun => rw [begun] at same; exact same
  · next after creation begun => rw [begun] at same; exact same

theorem identities_beginUpdate (state : State) (request : Request) :
    (state.beginUpdate calendar now request).tasks.map identity = state.tasks.map identity := by
  have same := @identities_lookUp calendar now request state.tasks
  rw [State.beginUpdate]
  split
  · next after raised looked => rw [looked] at same; exact same
  · next after position looked =>
    rw [looked] at same
    have summary := identities_editAt (identity_kept fun _ apart =>
      @keeps_writeSummary calendar _ apart request) position after
    simp only
    split
    · have rest := identities_editAt (identity_kept fun _ apart =>
        @keeps_endUpdate calendar now _ apart request) position
        (editAt (request.writeSummary calendar) position after).1
      exact rest.trans (summary.trans same)
    · exact summary.trans same

theorem identities_beginChange (state : State) (selection : Selection) :
    (state.beginChange calendar now selection).tasks.map identity = state.tasks.map identity := by
  have same := @identities_select calendar now selection state.tasks
  rw [State.beginChange]
  split
  · next after raised chosen => rw [chosen] at same; exact same
  · next after chosen => rw [chosen] at same; exact same
  · next after position rest chosen => rw [chosen] at same; exact same

/-- Where keys name one task, they still do behind a step exactly if the step finds its keys
free. -/
theorem step_named {state next : State} {action : Action} (leads : Leads calendar state.tasks)
    (taken : step calendar state action = some next) :
    Named calendar next ↔ KeysFree calendar state action := by
  rw [named_iff]
  cases action with
  | beginCreate now request =>
    obtain rfl := Option.some.inj taken
    exact iff_of_true (leads_of_identities (identities_beginCreated state request) leads) trivial
  | beginUpdate now request =>
    obtain rfl := Option.some.inj taken
    exact iff_of_true (leads_of_identities (identities_beginUpdate state request) leads) trivial
  | beginChange now selection =>
    obtain rfl := Option.some.inj taken
    exact iff_of_true (leads_of_identities (identities_beginChange state selection) leads) trivial
  | endUpdate index =>
    obtain ⟨updating, waiting, rfl⟩ := Option.map_eq_some_iff.mp taken
    have same := identities_editAt (identity_kept fun _ apart =>
      @keeps_endUpdate calendar updating.now _ apart updating.request) updating.position state.tasks
    exact iff_of_true (leads_of_identities same leads) trivial
  | endCreate index =>
    obtain ⟨creation, waiting, rfl⟩ := Option.map_eq_some_iff.mp taken
    simp only [KeysFree, waiting, Option.some.injEq, appended]
    cases completed : creation.record calendar with
    | error raised =>
      refine iff_of_true leads fun other record same made => ?_
      rw [← same, completed] at made
      cases made
    | ok record =>
      refine (leads_append leads).trans ⟨fun fresh other made same finished => ?_, fun free =>
        free creation record rfl completed⟩
      rw [← same, completed] at finished
      exact Except.ok.inj finished ▸ fresh
  | endChange index confirmed now =>
    obtain ⟨change, waiting, rfl⟩ := Option.map_eq_some_iff.mp taken
    simp only [KeysFree, waiting, Option.some.injEq, forall_eq']
    cases confirmed with
    | false => exact iff_of_true leads fun no => nomatch no
    | true => simpa using leads_changeAll

end

/-! ## A restored task -/

/-- Ada creates a task with the key "milk". -/
def createMilk (now : Instant) : List Action :=
  [.beginCreate now { userId := "ada", summary := .str "milk" }, .endCreate 0]

/-- Ada deletes or restores the first task with the key "milk". -/
def changeMilk (now : Instant) (restores : Bool) : List Action :=
  [.beginChange now { userId := "ada", restores, taskKeys := [.str "milk"] }, .endChange 0 true now]

/-- No tasks and no operations. -/
def noTasks : State := { tasks := [] }

/-- Ada's active tasks and their keys, in the order of the store. -/
def adasTasks (state : State) : List (Bool × String) :=
  state.tasks.map fun record =>
    (active (recordStatus plainCalendar record) && match ofUser "ada" record with
      | .ok true => true
      | _ => false, keyOf plainCalendar record)

end MeetYou.TaskKeys
