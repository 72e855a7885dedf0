import Mathlib.Data.List.Infix
import MeetYou.TaskRecords

/-!
# Creating and updating tasks

A task is created and updated through the records in memory, and the store is saved after that.
Each look for a task normalizes the active records of the user on the way. An update writes to the
record it found as it goes, and only later checks the status, the schedule and whether there was
anything to change.

A request is read with one reading of the clock. The embedding of a summary and what becomes of
the saving are given with it.
-/

namespace MeetYou.TaskEdits

open TaskRecords

/-! ## Equal values -/

mutual

/-- The two values are the same. -/
def identical : Json → Json → Bool
  | .null, .null => true
  | .bool first, .bool second => decide (first = second)
  | .num first, .num second => decide (first = second)
  | .str first, .str second => decide (first = second)
  | .arr first, .arr second => identicalItems first second
  | .obj first, .obj second => identicalFields first second
  | _, _ => false

def identicalItems : List Json → List Json → Bool
  | [], [] => true
  | first :: rest, second :: others => identical first second && identicalItems rest others
  | _, _ => false

def identicalFields : List (String × Json) → List (String × Json) → Bool
  | [], [] => true
  | (name, first) :: rest, (other, second) :: others =>
      decide (name = other) && identical first second && identicalFields rest others
  | _, _ => false

end

section
variable (calendar : Calendar) (now : Instant)

/-! ## Looking for a task -/

/-- `normalize_text(record.get("status")) or "active"` -/
def recordStatus (record : Record) : String :=
  let status := calendar.fieldText record "status"
  if status = "" then "active" else status

/-- The scope of a record is of this user, or global. -/
def ofUser (userId : String) (record : Record) : Except Raised Bool :=
  match record.get "scope" with
  | none => .ok false
  | some (.obj scope) =>
      match (Dict.find "user_id" scope).getD .null with
      | .arr _ => .error .other
      | .obj _ => .error .other
      | user => .ok (isText userId user || isText "global" user)
  | some _ => .error .other

/-- What a look through the tasks leaves of them, and what it returns. -/
abbrev Looked (α : Type) := List Record × Except Raised α

/-- A record in front of the others. -/
def before {α : Type} (record : Record) (looked : Looked α) : Looked α :=
  (record :: looked.1, looked.2)

/-- `_iter_user_tasks`: the positions of the tasks it returns. -/
def iterUserTasks (userId : String) (shown : String → Bool) (domain : Option String) :
    Nat → List Record → Looked (List Nat)
  | _, [] => ([], .ok [])
  | position, record :: rest =>
      if shown (recordStatus calendar record) then
        match ofUser userId record with
        | .error raised => (record :: rest, .error raised)
        | .ok false => before record (iterUserTasks userId shown domain (position + 1) rest)
        | .ok true =>
            match calendar.ensureTaskDefaults now record with
            | (.error raised, after) => (after :: rest, .error raised)
            | (.ok _, after) =>
                let (others, found) := iterUserTasks userId shown domain (position + 1) rest
                (after :: others, found.map fun positions =>
                  if domain.all fun wanted => isText wanted (field after "task_domain") then
                    position :: positions
                  else positions)
      else before record (iterUserTasks userId shown domain (position + 1) rest)

/-- Only active tasks are looked at. -/
def active (status : String) : Bool := decide (status = "active")

/-- `_find_task_record`: the position of the record. -/
def findTaskRecord (userId : String) (taskKey : Json) (shown : String → Bool)
    (domain : Option String) (tasks : List Record) : Looked (Option Nat) :=
  let key := calendar.normalizeText taskKey
  if key = "" then (tasks, .ok none)
  else
    let (after, found) := iterUserTasks calendar now userId shown domain 0 tasks
    (after, found.map fun positions => positions.find? fun position =>
      decide ((after[position]?.map fun record => calendar.fieldText record "task_key") = some key))

/-- The keys `_ensure_unique_task_key` tries, in their order. -/
def candidateKey (base : String) : Nat → String
  | 0 => base
  | index + 1 => s!"{base}-{index + 2}"

/-- The loop of `_ensure_unique_task_key` from a candidate on. -/
def freeKeyFrom (userId base : String) : Nat → Nat → List Record → Looked String
  | 0, _, tasks => (tasks, .error .other)
  | tries + 1, index, tasks =>
      match findTaskRecord calendar now userId (.str (candidateKey base index)) active none
        tasks with
      | (after, .error raised) => (after, .error raised)
      | (after, .ok none) => (after, .ok (candidateKey base index))
      | (after, .ok (some _)) => freeKeyFrom userId base tries (index + 1) after

/-- `_ensure_unique_task_key`; one candidate more than there are tasks is free. -/
def ensureUniqueTaskKey (userId preferredKey : String) (tasks : List Record) : Looked String :=
  freeKeyFrom calendar now userId (slugify preferredKey) (tasks.length + 1) 0 tasks

/-! ## Requests -/

/-- The schedule fields of a request; null is none. -/
structure ScheduleInputs where
  scheduleKind : Json := .null
  dueAt : Json := .null
  timezone : Json := .null
  recurrence : Json := .null
  autoRun : Json := .null
  jobPrompt : Json := .null
  notifyPolicy : Json := .null

/-- One of the schedule fields is not none. -/
def ScheduleInputs.given (inputs : ScheduleInputs) : Bool :=
  [inputs.scheduleKind, inputs.dueAt, inputs.recurrence, inputs.autoRun, inputs.jobPrompt,
    inputs.notifyPolicy, inputs.timezone].any fun value => !identical value .null

/-- The arguments `_create_task` and `_update_task` share. -/
structure Request where
  userId : String
  taskDomain : Json := .null
  taskKey : Json := .str ""
  summary : Json := .str ""
  project : Json := .str ""
  taskStatus : Json := .str ""
  deadline : Json := .null
  clearDeadline : Bool := false
  schedule : ScheduleInputs := {}
  preferredToolKey : Json := .null
  preferredTargetEndpointIds : Json := .null
  preferredEndpointProviderTypes : Json := .null
  toolTargetRoutingPolicy : Json := .null
  completionSummary : Json := .str ""
  sessionId : Json := .str ""
  /-- Kind and identifier of the source, if there is one. -/
  source : Option (String × String) := none
  /-- Kind and identifier of the target of the event. -/
  contextTarget : String × String := ("", "")
  /-- What `_maybe_embed` returns, and the model it uses. -/
  embedding : Json := .arr []
  embeddingModel : Json := .null

/-- `_delivery_target_payload` -/
def Request.deliveryTarget (request : Request) (sessionId : Json) : Json :=
  let stripped := Text.strip request.contextTarget.1
  .obj
    [("kind", .str (if stripped = "" then "current_session" else stripped)),
      ("id", .str (Text.strip request.contextTarget.2)),
      ("session_id", .str (Text.strip (calendar.text sessionId))),
      ("source_kind", .str (Text.strip ((request.source.map Prod.fst).getD ""))),
      ("source_id", .str (Text.strip ((request.source.map Prod.snd).getD "")))]

/-! ## Schedules -/

/-- A schedule: its kind, when it is due, and its recurrence. -/
structure Schedule where
  kind : String
  dueAt : Json
  recurrence : Json

/-- A text that was parsed, and null if there is none. -/
def parsed (found : Option String) : Json :=
  match found with
  | none => .null
  | some text => orNull text

/-- `_derive_schedule_from_text` -/
def deriveScheduleFromText (summary deadline timezone : String) : Except Raised Schedule := do
  match calendar.recurrenceFromText summary with
  | some recurrence => pure ⟨"recurring", .null, recurrence⟩
  | none =>
      let first ← calendar.parseIsoOrDate (.str deadline) timezone
      let dueAt ← if (parsed first).truthy then pure first
        else calendar.parseIsoOrDate (.str summary) timezone
      if (parsed dueAt).truthy then pure ⟨"once", parsed dueAt, .null⟩
      else pure ⟨"none", .null, .null⟩

/-- `_AUTO_RUN_HINTS` -/
def autoRunHints : List String := ["自动", "auto", "automatically", "scheduled workflow", "定时执行"]

/-- `_guess_auto_run` -/
def guessAutoRun (summary jobPrompt kind : String) : Bool :=
  decide (kind ≠ "none") && autoRunHints.any fun hint =>
    decide (hint.toList <:+: (calendar.lower s!"{summary} {jobPrompt}").toList)

/-- The kind, the time and the recurrence `_schedule_payload` settles on. -/
def settleSchedule (summary deadline timezone : String) (inputs : ScheduleInputs)
    (existing : Record) (allowClear inferFromText : Bool) : Except Raised Schedule := do
  let stated := if identical inputs.scheduleKind .null then
    (existing.get "schedule_kind").getD (.str "none") else inputs.scheduleKind
  let kind ← calendar.normalizeScheduleKind stated "none"
  let dueAt ← if allowClear && isText "" inputs.dueAt then pure .null
    else if absent inputs.dueAt then pure (field existing "due_at")
    else (calendar.parseIsoOrDate inputs.dueAt timezone).map parsed
  let recurrence ← if allowClear && isText "" inputs.recurrence then pure .null
    else if absent inputs.recurrence then pure (field existing "recurrence")
    else calendar.normalizeRecurrence inputs.recurrence
  let derived ← if inferFromText then deriveScheduleFromText calendar summary deadline timezone
    else pure ⟨"none", .null, .null⟩
  let open_ := decide (kind = "none") &&
    (existing.entries.isEmpty || isText "none" (field existing "schedule_kind"))
  let kind := if !open_ then kind else if recurrence.truthy then "recurring"
    else if dueAt.truthy then "once" else derived.kind
  let recurrence := if kind = "recurring" ∧ recurrence.truthy = false then derived.recurrence
    else recurrence
  let dueAt := if kind = "once" ∧ dueAt.truthy = false then derived.dueAt else dueAt
  if kind = "recurring" ∧ recurrence.truthy = false then
    invalid "recurring tasks require recurrence or a parseable recurring summary."
  else if kind = "once" ∧ dueAt.truthy = false then
    invalid "once tasks require due_at/deadline or a parseable due time."
  else if kind = "none" then pure ⟨"none", .null, .null⟩
  else pure ⟨kind, dueAt, recurrence⟩

/-- `_schedule_payload`, once the defaults of the existing record are ensured. -/
def schedulePayload (summary deadline : String) (timezoneName : Json) (inputs : ScheduleInputs)
    (existing : Record) (allowClear inferFromText : Bool) :
    Except Raised (List (String × Json)) := do
  let timezone := calendar.resolveTimezoneName
    (if timezoneName.truthy then timezoneName else field existing "timezone")
  let schedule ← settleSchedule calendar summary deadline timezone inputs existing allowClear
    inferFromText
  let jobPrompt := calendar.normalizeText
    (if identical inputs.jobPrompt .null then field existing "job_prompt" else inputs.jobPrompt)
  let stated ← if identical inputs.autoRun .null then pure (field existing "auto_run")
    else (calendar.normalizeBool inputs.autoRun).map .bool
  let autoRun := if identical stated .null then
      guessAutoRun calendar summary jobPrompt schedule.kind
    else stated.truthy
  let policy ← calendar.normalizeNotifyPolicy
    (if identical inputs.notifyPolicy .null then field existing "notify_policy"
    else inputs.notifyPolicy)
    (if autoRun then "on_completion" else "on_due")
  pure
    [("schedule_kind", .str schedule.kind), ("due_at", schedule.dueAt),
      ("timezone", .str timezone),
      ("recurrence", if absent schedule.recurrence then .null else schedule.recurrence),
      ("auto_run", .bool autoRun), ("job_prompt", .str jobPrompt),
      ("notify_policy", .str policy)]

/-! ## Creating -/

/-- `create` refuses the request before it looks at any task. -/
def Request.createStatus (request : Request) : Except Raised String :=
  if calendar.normalizeText request.summary = "" then
    invalid "create requires a non-empty summary."
  else calendar.normalizeStatus
    (if request.taskStatus.truthy then request.taskStatus else .str "open") "open"

/-- The domain and the schedule of a new task. -/
def Request.createSchedule (request : Request) : Except Raised (String × List (String × Json)) := do
  let summary := calendar.normalizeText request.summary
  let inputs := request.schedule
  let domain ← calendar.normalizeTaskDomain request.taskDomain
    (if inputs.scheduleKind.truthy then inputs.scheduleKind else .str "none")
  let payload ← schedulePayload calendar summary (calendar.normalizeText request.deadline)
    (if inputs.timezone.truthy then inputs.timezone else .str "UTC") inputs Dict.empty false
    (decide (domain = "assistant_schedule"))
  if domain = "assistant_schedule" ∧ payload.any (fun entry =>
      decide (entry.1 = "schedule_kind") && isText "none" entry.2) = true then
    invalid "scheduled tasks require trigger time or recurrence."
  else pure (domain, payload)

/-- The job of a new task. -/
def Request.createJob (key domain : String) (payload : Fields) : Json :=
  let automatic := (field payload "auto_run").truthy
  (calendar.defaultJobRecord now
    (if automatic then "scheduled_task"
    else if domain = "assistant_schedule" then "scheduled_reminder" else "user_task")
    key (if automatic then 3 else 0) "task_manager.create").toJson

/-- The digits of a time, for the identifier of a record. -/
def compactTime (text : String) : String :=
  String.ofList (text.toList.filterMap fun character =>
    if character = ':' ∨ character = '-' ∨ character = 'Z' then none
    else if character = 'T' then some '_' else some character)

/-- The record `_create_task` puts together. -/
def Request.newRecord (request : Request) (key status domain : String)
    (payload : List (String × Json)) : Record :=
  let summary := calendar.normalizeText request.summary
  let time := calendar.iso now
  Fields.of
    ([("id", .str s!"task_{key}_{compactTime time}"), ("type", .str (taskRecordType domain)),
      ("scope", .obj [("user_id", .str request.userId), ("session_id", .str "")]),
      ("content", .str summary), ("canonical_text", .str (calendar.lower summary)),
      ("embedding", request.embedding), ("embedding_model", request.embeddingModel),
      ("strength", .num (72 / 100)), ("importance", .num (7 / 10)), ("confidence", .num 1),
      ("created_at", .str time), ("last_accessed_at", .str time), ("last_updated_at", .str time),
      ("access_count", .num 0), ("status", .str "active"), ("tags", .arr []),
      ("entity_keys", .arr []), ("source_record_ids", .arr []), ("task_key", .str key),
      ("task_domain", .str domain), ("project", .str (calendar.normalizeText request.project)),
      ("task_status", .str status),
      ("deadline", orNull (calendar.normalizeText request.deadline))] ++ payload ++
    [("schedule_anchor_at", .str time), ("last_completed_at", .null), ("last_triggered_at", .null),
      ("last_completion_summary", .str ""), ("last_run_at", .null), ("last_run_status", .str ""),
      ("last_run_summary", .str ""),
      ("preferred_tool_key", .str (calendar.normalizeText request.preferredToolKey)),
      ("preferred_target_endpoint_ids",
        calendar.normalizeStringList request.preferredTargetEndpointIds),
      ("preferred_endpoint_provider_types",
        calendar.normalizeStringList request.preferredEndpointProviderTypes),
      ("tool_target_routing_policy",
        .str (calendar.normalizeRoutingPolicy request.toolTargetRoutingPolicy)),
      ("delivery_target", request.deliveryTarget calendar request.sessionId),
      ("origin_session_id", .str (calendar.normalizeText request.sessionId)),
      ("run_lock_until", .null), ("active_claim_token", .null), ("run_history", .arr []),
      ("pending_delivery", .null),
      ("job", Request.createJob calendar now key domain (Fields.of payload)),
      ("orchestration", .obj [])])

/-- The edit that completes a new record. -/
def completeNewRecord : Change Unit := do
  let next ← Edit.lift (calendar.nextRunAt now (← Edit.now))
  Edit.write "next_run_at" next
  calendar.syncOrchestrationState now

/-- A create request whose summary is being embedded. -/
structure Creation where
  request : Request
  now : Instant
  key : String
  status : String
  domain : String
  payload : List (String × Json)

/-- `_create_task` up to the embedding of the summary. -/
def beginCreate (request : Request) (tasks : List Record) : Looked Creation :=
  match request.createStatus calendar with
  | .error raised => (tasks, .error raised)
  | .ok status =>
      let preferred := calendar.text
        (if request.taskKey.truthy then request.taskKey else request.summary)
      match ensureUniqueTaskKey calendar now request.userId preferred tasks with
      | (after, .error raised) => (after, .error raised)
      | (after, .ok key) =>
          (after, (request.createSchedule calendar).map fun (domain, payload) =>
            { request, now, key, status, domain, payload })

/-- The record of a request whose summary is embedded. -/
def Creation.record (creation : Creation) : Except Raised Record :=
  match completeNewRecord calendar creation.now
    (creation.request.newRecord calendar creation.now creation.key creation.status creation.domain
      creation.payload) with
  | (.error raised, _) => .error raised
  | (.ok _, record) => .ok record

/-! ## Updating -/

/-- The summary of an update, if it is given. It is embedded behind this. -/
def Request.writeSummary (request : Request) : Change Unit := do
  let summary := calendar.normalizeText request.summary
  if summary ≠ "" then
    Edit.write "content" (.str summary)
    Edit.write "canonical_text" (.str (calendar.lower summary))
  else pure ()

/-- The embedding of the summary, and the project, if they are given. -/
def Request.writeTexts (request : Request) : Change Bool := do
  let summary := calendar.normalizeText request.summary
  if summary ≠ "" then
    Edit.write "embedding" request.embedding
    Edit.write "embedding_model" request.embeddingModel
  else pure ()
  if !isText "" request.project then
    Edit.write "project" (.str (calendar.normalizeText request.project))
  else pure ()
  pure (decide (summary ≠ "") || !isText "" request.project)

/-- `_mark_task_completed` -/
def markTaskCompleted (summary : Json) : Change Unit := do
  calendar.ensureTaskDefaults now
  let time := calendar.iso now
  let stated := calendar.normalizeText summary
  let shown := if stated = "" then "Task marked complete." else stated
  Edit.write "last_completed_at" (.str time)
  Edit.write "last_completion_summary" (.str shown)
  Edit.write "last_triggered_at" (Fields.getOr (← Edit.now) "last_triggered_at" (.str time))
  Edit.write "run_lock_until" .null
  Edit.write "active_claim_token" .null
  Edit.write "pending_delivery" .null
  Edit.write "task_status" (.str
    (if isText "recurring" (field (← Edit.now) "schedule_kind") then "open" else "done"))
  calendar.updateTaskJob now
    [("status", .str "completed"), ("last_runtime_source", .str "task_manager.complete"),
      ("status_source", .str "task_manager.complete"), ("last_finished_at", .str time),
      ("last_success_at", .str time), ("next_retry_at", .null), ("retry_count", .num 0),
      ("last_result", .obj
        [("status", .str "completed"), ("summary", .str shown), ("at", .str time)]),
      ("last_failure", .null)]
  let next ← Edit.lift (calendar.nextRunAt now (← Edit.now))
  Edit.write "next_run_at" next
  calendar.syncOrchestrationState now

/-- The status of an update, with the record's own for a blank one. -/
def Request.updateStatus (request : Request) (record : Record) : Except Raised String :=
  calendar.normalizeStatus request.taskStatus
    (calendar.text (Fields.getOr record "task_status" (.str "open")))

/-- The status of an update, if it is given. -/
def Request.writeStatus (request : Request) : Change Bool := do
  if request.taskStatus.truthy then
    let record ← Edit.now
    let status ← Edit.lift (request.updateStatus calendar record)
    if status = "done" then
      markTaskCompleted calendar now
        (if request.completionSummary.truthy then request.completionSummary
        else .str "Task marked complete.")
      pure true
    else if !isText status (field record "task_status") then
      Edit.write "task_status" (.str status)
      Edit.write "last_completion_summary" (.str "")
      pure true
    else pure false
  else pure false

/-- The deadline of an update, if it is given or cleared. -/
def Request.writeDeadline (request : Request) : Change Bool := do
  if request.clearDeadline then
    Edit.write "deadline" .null
    pure true
  else if !identical request.deadline .null then
    Edit.write "deadline" (orNull (calendar.normalizeText request.deadline))
    pure true
  else pure false

/-- Write the values that differ from those of the record. -/
def writeDiffering : List (String × Json) → Change Bool
  | [] => pure false
  | (name, value) :: rest => do
      let differs := !identical (field (← Edit.now) name) value
      if differs then Edit.write name value else pure ()
      let others ← writeDiffering rest
      pure (differs || others)

/-- The schedule an update writes to a record, which `existing` is with its defaults ensured. -/
def Request.updatePayload (request : Request) (record existing : Record) :
    Except Raised (List (String × Json)) :=
  let inputs := request.schedule
  let summary := calendar.normalizeText request.summary
  schedulePayload calendar
    (if summary = "" then calendar.fieldText record "content" else summary)
    (calendar.fieldText record "deadline")
    (if inputs.timezone.truthy then inputs.timezone
    else Fields.getOr record "timezone" (.str "UTC"))
    { inputs with
      scheduleKind := if identical inputs.scheduleKind .null then
        (record.get "schedule_kind").getD (.str "none") else inputs.scheduleKind }
    existing true (isText "assistant_schedule" (field record "task_domain"))

/-- The call of `_schedule_payload`, if one of the schedule fields is given. -/
def Request.checkSchedule (request : Request) : Change (List (String × Json)) := do
  if request.schedule.given then
    let record ← Edit.now
    if !record.entries.isEmpty then calendar.ensureTaskDefaults now else pure ()
    let existing ← Edit.now
    Edit.lift (request.updatePayload calendar record existing)
  else pure []

/-- Write the schedule of an update. -/
def writeSchedule (payload : List (String × Json)) : Change Bool := do
  let changed ← writeDiffering payload
  if changed then
    Edit.write "schedule_anchor_at" (.str (calendar.iso now))
    if isText "none" (field (← Edit.now) "schedule_kind") then
      Edit.write "last_completed_at" .null
      Edit.write "last_triggered_at" .null
      Edit.write "last_completion_summary" (.str "")
      Edit.write "active_claim_token" .null
      Edit.write "pending_delivery" .null
      Edit.write "orchestration" (.obj [])
    else pure ()
  else pure ()
  pure changed

/-- A field of an update that is written if it is not none. -/
def writeGiven (name : String) (given value : Json) : Change Bool := do
  if identical given .null then pure false
  else
    Edit.write name value
    pure true

/-- The routing preferences of an update, as far as they are given. -/
def Request.writePreferences (request : Request) : Change Bool := do
  let tool ← writeGiven "preferred_tool_key" request.preferredToolKey
    (.str (calendar.normalizeText request.preferredToolKey))
  let endpoints ← writeGiven "preferred_target_endpoint_ids" request.preferredTargetEndpointIds
    (calendar.normalizeStringList request.preferredTargetEndpointIds)
  let providers ← writeGiven "preferred_endpoint_provider_types"
    request.preferredEndpointProviderTypes
    (calendar.normalizeStringList request.preferredEndpointProviderTypes)
  let routing ← writeGiven "tool_target_routing_policy" request.toolTargetRoutingPolicy
    (.str (calendar.normalizeRoutingPolicy request.toolTargetRoutingPolicy))
  pure (tool || endpoints || providers || routing)

/-- The end of an update that changes something. -/
def Request.finishUpdate (request : Request) : Change Unit := do
  if request.sessionId.truthy || request.source.isSome then
    let stated := calendar.normalizeText request.sessionId
    let held := calendar.fieldText (← Edit.now) "origin_session_id"
    let origin := if stated = "" then held else stated
    Edit.write "origin_session_id" (.str origin)
    Edit.write "delivery_target" (request.deliveryTarget calendar (.str origin))
  else pure ()
  let next ← Edit.lift (calendar.nextRunAt now (← Edit.now))
  Edit.write "next_run_at" next
  calendar.syncOrchestrationState now
  Edit.write "last_updated_at" (.str (calendar.iso now))

/-- An update from its schedule on; `changed` says that something was changed before. -/
def Request.updateSchedule (request : Request) (changed : Bool) : Change Unit := do
  let payload ← request.checkSchedule calendar now
  let schedule ← writeSchedule calendar now payload
  let preferences ← request.writePreferences calendar
  if changed || schedule || preferences then
    request.finishUpdate calendar now
  else Edit.refuse (.value "update requires at least one field to change.")

/-- What `_update_task` does to the record once the summary is embedded. -/
def Request.endUpdate (request : Request) : Change Unit := do
  let texts ← request.writeTexts calendar
  let status ← request.writeStatus calendar now
  let deadline ← request.writeDeadline calendar
  request.updateSchedule calendar now (texts || status || deadline)

/-- Edit the record at a position. -/
def editAt (change : Change Unit) (position : Nat) (tasks : List Record) : Looked Unit :=
  match tasks[position]? with
  | none => (tasks, .ok ())
  | some record =>
      let (result, after) := change record
      (tasks.set position after, result)

/-- The domain an update looks in. -/
def Request.expectedDomain (request : Request) : Except Raised (Option String) :=
  if identical request.taskDomain .null then .ok none
  else (calendar.normalizeTaskDomain request.taskDomain (.str "none")).map some

/-- The error of an update that finds no task. -/
def Request.notFound (request : Request) (domain : Option String) : Raised :=
  .value (if domain = some "assistant_schedule" then
    s!"scheduled task not found: {calendar.text request.taskKey}"
  else s!"task_key not found: {calendar.text request.taskKey}")

/-- `_update_task` up to the record it has found and normalized: its position. -/
def lookUp (request : Request) (tasks : List Record) : Looked Nat :=
  match request.expectedDomain calendar with
  | .error raised => (tasks, .error raised)
  | .ok domain =>
      match findTaskRecord calendar now request.userId request.taskKey active domain tasks with
      | (after, .error raised) => (after, .error raised)
      | (after, .ok none) => (after, .error (request.notFound calendar domain))
      | (after, .ok (some position)) =>
          let (normalized, result) := editAt (calendar.ensureTaskDefaults now) position after
          (normalized, result.map fun _ => position)

end

end MeetYou.TaskEdits
