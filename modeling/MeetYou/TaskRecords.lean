import MeetYou.Foundation.FieldEdits
import MeetYou.Foundation.SpacedWords
import MeetYou.Foundation.Values

/-!
# Task records and their defaults

A task record is a dictionary that every look at it normalizes in place: `_ensure_task_defaults`
rewrites its fields one after the other, and raises where a field cannot be normalized, with the
fields before it written.

What the calendar computes, the cycle a task is in and what follows from it, is a parameter.
-/

namespace MeetYou.TaskRecords

/-- A task record. -/
abbrev Record := Fields

/-- A raised `ValueError` with its message, or another exception. -/
inductive Raised where
  | value (message : String)
  | other

/-- What a record is completed with. -/
structure Calendar where
  /-- `str` of a value that is no text. -/
  str : Json → String
  /-- `str.lower`. -/
  lower : String → String
  /-- `_dt_to_iso`. -/
  iso : Instant → String
  /-- The time zone database knows the name. -/
  zoneExists : String → Bool
  /-- `_normalize_recurrence` with `_serialize_jsonish`; no recurrence is null. -/
  normalizeRecurrence : Json → Except Raised Json
  /-- `_recurrence_from_text`. -/
  recurrenceFromText : String → Option Json
  /-- `_parse_iso_or_date`: text and time zone. -/
  parseIsoOrDate : Json → String → Except Raised (Option String)
  /-- `_schedule_state(record)["next_run_at"]`. -/
  nextRunAt : Instant → Record → Except Raised Json
  /-- `_orchestration_state`. -/
  orchestration : Instant → Record → Except Raised Json

/-- A calendar without recurrences, which writes an instant as its number. -/
def plainCalendar : Calendar where
  str := fun _ => ""
  lower := id
  iso := fun now => toString now
  zoneExists := fun name => decide (name = "UTC")
  normalizeRecurrence := fun value => .ok value
  recurrenceFromText := fun _ => none
  parseIsoOrDate := fun _ _ => .ok none
  nextRunAt := fun _ _ => .ok .null
  orchestration := fun _ _ => .ok (.obj [])

/-- An edit of a record. -/
abbrev Change := Edit String Json Raised

/-- Raise a `ValueError`. -/
def invalid {α : Type} (message : String) : Except Raised α := .error (.value message)

section
variable (calendar : Calendar)

/-! ## Values -/

/-- `str(value or "")` -/
def Calendar.text (value : Json) : String :=
  match value with
  | .str text => text
  | value => if value.truthy then calendar.str value else ""

/-- `_normalize_text` -/
def Calendar.normalizeText (value : Json) : String :=
  Text.collapse (Text.strip (calendar.text value))

/-- `text or None` -/
def orNull (text : String) : Json := if text = "" then .null else .str text

/-- `record.get(name)` -/
def field (record : Record) (name : String) : Json := (record.get name).getD .null

/-- The normalized text of a field. -/
def Calendar.fieldText (record : Record) (name : String) : String :=
  calendar.normalizeText (field record name)

/-- `value == text` -/
def isText (text : String) : Json → Bool
  | .str held => decide (held = text)
  | _ => false

/-- `value in ("", None)` -/
def absent : Json → Bool
  | .null => true
  | .str text => decide (text = "")
  | _ => false

/-- `str(value or default).strip().lower() or default`, for a comparison with ASCII words. -/
def Calendar.word (value : Json) (default : String) : String :=
  let text := Text.lowerWord (Text.strip (if value.truthy then calendar.text value else default))
  if text = "" then default else text

/-- `_normalize_status` -/
def Calendar.normalizeStatus (value : Json) (default : String) : Except Raised String :=
  let normalized := calendar.word value default
  if normalized ∈ ["open", "blocked", "done"] then .ok normalized
  else invalid "task_status must be one of: open, blocked, done."

/-- `_normalize_schedule_kind` -/
def Calendar.normalizeScheduleKind (value : Json) (default : String) : Except Raised String :=
  let normalized := calendar.word value default
  if normalized ∈ ["none", "once", "recurring"] then .ok normalized
  else invalid "schedule_kind must be one of: none, once, recurring."

/-- `_default_task_domain` -/
def Calendar.defaultTaskDomain (scheduleKind : Json) : Except Raised String :=
  (calendar.normalizeScheduleKind (if scheduleKind.truthy then scheduleKind else .str "none")
    "none").map fun kind =>
    if kind = "none" then "user_todo" else "assistant_schedule"

/-- `_normalize_task_domain` -/
def Calendar.normalizeTaskDomain (value scheduleKind : Json) : Except Raised String := do
  let normalized := Text.lowerWord (Text.strip (calendar.text value))
  let domain ← if normalized = "" then calendar.defaultTaskDomain scheduleKind else .ok normalized
  if domain ∈ ["user_todo", "assistant_schedule"] then .ok domain
  else invalid "task_domain must be one of: user_todo, assistant_schedule."

/-- `_normalize_notify_policy` -/
def Calendar.normalizeNotifyPolicy (value : Json) (default : String) : Except Raised String :=
  let normalized := calendar.word value default
  if normalized ∈ ["on_due", "on_completion", "silent"] then .ok normalized
  else invalid "notify_policy must be one of: on_due, on_completion, silent."

/-- `_normalize_bool` of a value that is not null, without a default. -/
def Calendar.normalizeBool (value : Json) : Except Raised Bool :=
  match value with
  | .bool value => .ok value
  | value =>
      let shown := match value with
        | .str text => text
        | value => calendar.str value
      let text := Text.lowerWord (Text.strip shown)
      if text ∈ ["1", "true", "yes", "on"] then .ok true
      else if text ∈ ["0", "false", "no", "off"] then .ok false
      else invalid "auto_run must be a boolean."

/-- The texts of a list, without blanks and repetitions. -/
def collectTexts (texts : List String) : List String :=
  texts.foldl (fun taken text => if text = "" ∨ text ∈ taken then taken else taken ++ [text]) []

/-- `_normalize_string_list` -/
def Calendar.normalizeStringList : Json → Json
  | .arr items => .arr ((collectTexts (items.map calendar.normalizeText)).map .str)
  | _ => .arr []

/-- `_normalize_routing_policy` with the default "balanced". -/
def Calendar.normalizeRoutingPolicy (value : Json) : String :=
  let normalized := Text.lowerWord
    (calendar.normalizeText (if value.truthy then value else .str "balanced"))
  if normalized ∈ ["balanced", "prefer_origin_endpoint", "strict_preferred_endpoint"] then
    normalized
  else "balanced"

/-- `_TIMEZONE_ALIASES` -/
def timezoneAlias (name : String) : String :=
  match Text.lowerWord name with
  | "asia/shanghai" => "Asia/Shanghai"
  | "utc" => "UTC"
  | "z" => "UTC"
  | _ => name

/-- `_resolve_timezone_name` -/
def Calendar.resolveTimezoneName (value : Json) : String :=
  let normalized := Text.strip (calendar.text value)
  if normalized ≠ "" ∧ calendar.zoneExists (timezoneAlias normalized) = true then
    timezoneAlias normalized
  else "UTC"

/-- The characters a task key keeps. -/
def isSlugCharacter (character : Char) : Bool :=
  ('a' ≤ character && character ≤ 'z') || ('0' ≤ character && character ≤ '9')

/-- Write one dash for each run of other characters. White space is such a run as well. -/
def slugFrom (inside : Bool) : List Char → List Char
  | [] => []
  | character :: rest =>
      if isSlugCharacter character then character :: slugFrom false rest
      else if inside then slugFrom true rest
      else '-' :: slugFrom true rest

/-- `_slugify` -/
def slugify (value : String) : String :=
  let dashed := slugFrom false (Text.lowered (Text.strip value).toList)
  let isDash (character : Char) : Bool := decide (character = '-')
  let slug := (dashed.dropWhile isDash).rdropWhile isDash
  if slug.isEmpty then "task" else String.ofList slug

/-! ## The job of a task -/

/-- A field of a dictionary inside a record. -/
def member (name : String) : Json → Json
  | .obj fields => (Dict.find name fields).getD .null
  | _ => .null

/-- A dictionary as it is, and anything else as `other`. -/
def dictOr (other : Json) : Json → Json
  | .obj fields => .obj fields
  | _ => other

/-- `max(int(value or 0), 0)` -/
def count : Json → Except Raised Json
  | .bool true => .ok (.num 1)
  | .num value => .ok (.num ((max (if value < 0 then value.ceil else value.floor) 0 : Int) : Rat))
  | .str text =>
      if text = "" then .ok (.num 0)
      else match Text.intOfText text with
        | some value => .ok (.num ((max value 0 : Int) : Rat))
        | none => invalid ("invalid literal for int() with base 10: '" ++ text ++ "'")
  | value => if value.truthy then .error .other else .ok (.num 0)

variable (now : Instant)

/-- `JOB_STATUS_VALUES` -/
def jobStatuses : List String :=
  ["idle", "queued", "running", "succeeded", "failed", "retry_waiting", "awaiting_delivery",
    "completed", "stalled", "not_applicable"]

/-- `JOB_DELIVERY_STATE_VALUES` -/
def deliveryStates : List String :=
  ["not_applicable", "pending", "delivered", "pending_redelivery", "suppressed", "failed"]

/-- `normalize_delivery` of a payload, and of an empty one for anything else. -/
def Calendar.normalizeDelivery (payload : Json) : Json :=
  let stated := Text.lowerWord (calendar.normalizeText (member "state" payload))
  let state := if stated ∈ deliveryStates then stated else "not_applicable"
  let delivered := match member "delivered" payload with
    | .null => decide (state = "delivered")
    | value => value.truthy
  let at_ := calendar.normalizeText (member "at" payload)
  .obj
    [("state", .str state), ("delivered", .bool delivered),
      ("channel", .str (calendar.normalizeText (member "channel" payload))),
      ("message", .str (calendar.normalizeText (member "message" payload))),
      ("event_id", orNull (calendar.normalizeText (member "event_id" payload))),
      ("source_event_id", orNull (calendar.normalizeText (member "source_event_id" payload))),
      ("at", .str (if at_ = "" then calendar.iso now else at_)),
      ("details", dictOr (.obj []) (member "details" payload))]

/-- `normalize_failure` -/
def Calendar.normalizeFailure (payload : Json) : Json :=
  let message := calendar.normalizeText (member "message" payload)
  let code := calendar.normalizeText (member "code" payload)
  let category := Text.lowerWord (calendar.normalizeText (member "category" payload))
  if message = "" ∧ code = "" ∧ category = "" then .null
  else
    let known := if category ∈ ["retryable", "non_retryable", "manual_intervention", "delivery"]
      then category else "retryable"
    let retryable := match member "retryable" payload with
      | .null => decide (known = "retryable" ∨ known = "delivery")
      | value => value.truthy
    let at_ := calendar.normalizeText (member "at" payload)
    .obj
      [("category", .str known), ("retryable", .bool retryable),
        ("code", .str (if code = "" then "job_failure" else code)), ("message", .str message),
        ("at", .str (if at_ = "" then calendar.iso now else at_)),
        ("details", dictOr (.obj []) (member "details" payload))]

/-- `_task_job_kind` -/
def jobKind (record : Record) : String :=
  if !isText "assistant_schedule" (field record "task_domain") then "user_task"
  else if (field record "auto_run").truthy then "scheduled_task"
  else "scheduled_reminder"

/-- `_task_job_name` -/
def Calendar.jobName (record : Record) : String :=
  let key := calendar.fieldText record "task_key"
  let content := calendar.fieldText record "content"
  if key ≠ "" then key else if content ≠ "" then content else "task"

/-- `_task_job_max_retries` -/
def jobMaxRetries (record : Record) : Rat := if (field record "auto_run").truthy then 3 else 0

/-- `default_job_record` -/
def Calendar.defaultJobRecord (kind name : String) (maxRetries : Rat) (statusSource : String) :
    Fields :=
  Fields.of
    [("name", .str name), ("kind", .str kind), ("status", .str "idle"), ("attempt_count", .num 0),
      ("retry_count", .num 0), ("max_retries", .num maxRetries), ("next_retry_at", .null),
      ("last_started_at", .null), ("last_finished_at", .null), ("last_success_at", .null),
      ("last_runtime_source", .str statusSource), ("status_source", .str statusSource),
      ("last_result", .obj []), ("last_failure", .null),
      ("last_delivery", calendar.normalizeDelivery now .null), ("metadata", .obj [])]

/-- `normalize_job_record` on the job of a record. -/
def Calendar.jobRecord (record : Record) : Except Raised Fields :=
  let source := "task_manager.defaults"
  let fresh := calendar.defaultJobRecord now (jobKind record) (calendar.jobName record)
    (jobMaxRetries record) source
  match field record "job" with
  | .obj fields => do
      let part (name : String) : Json := member name (.obj fields)
      let textOr (name default : String) : Json :=
        let text := calendar.normalizeText (part name)
        .str (if text = "" then default else text)
      let status := Text.lowerWord (calendar.normalizeText (part "status"))
      let attempts ← count (part "attempt_count")
      let retries ← count (part "retry_count")
      let maxRetries ← count ((Dict.find "max_retries" fields).getD (.num (jobMaxRetries record)))
      pure (fresh.setAll
        [("name", textOr "name" (calendar.jobName record)),
          ("kind", textOr "kind" (jobKind record)),
          ("status", .str (if status ∈ jobStatuses then status else "idle")),
          ("attempt_count", attempts), ("retry_count", retries), ("max_retries", maxRetries),
          ("next_retry_at", orNull (calendar.normalizeText (part "next_retry_at"))),
          ("last_started_at", orNull (calendar.normalizeText (part "last_started_at"))),
          ("last_finished_at", orNull (calendar.normalizeText (part "last_finished_at"))),
          ("last_success_at", orNull (calendar.normalizeText (part "last_success_at"))),
          ("last_runtime_source", textOr "last_runtime_source" source),
          ("status_source", textOr "status_source" source),
          ("last_result", dictOr (.obj []) (part "last_result")),
          ("last_failure", calendar.normalizeFailure now (part "last_failure")),
          ("last_delivery", calendar.normalizeDelivery now (part "last_delivery")),
          ("metadata", dictOr (.obj []) (part "metadata"))])
  | _ => pure fresh

/-- `_update_task_job` with the fields that change, normalized. -/
def Calendar.updateTaskJob (changes : List (String × Json)) : Change Unit := do
  let record ← Edit.now
  let job ← Edit.lift (calendar.jobRecord now record)
  Edit.write "job" (Fields.toJson (job.setAll changes))

/-! ## Defaults -/

/-- Write the normalized text of a field. -/
def Calendar.writeText (name : String) : Change Unit := do
  Edit.write name (.str (calendar.fieldText (← Edit.now) name))

/-- Write the normalized text of a field, and null if it is blank. -/
def Calendar.writeTextOrNull (name : String) : Change Unit := do
  Edit.write name (orNull (calendar.fieldText (← Edit.now) name))

/-- `_sync_orchestration_state` -/
def Calendar.syncOrchestrationState : Change Unit := do
  let state ← Edit.lift (calendar.orchestration now (← Edit.now))
  Edit.write "orchestration" state

/-- `_task_record_type` -/
def taskRecordType (taskDomain : String) : String :=
  if taskDomain = "assistant_schedule" then "scheduled_task" else "todo"

/-- `_task_default_delivery_state` -/
def Calendar.defaultDeliveryState (record : Record) : String :=
  if jobKind record = "user_task" then "not_applicable"
  else if Text.lowerWord (calendar.fieldText record "notify_policy") = "silent" then "suppressed"
  else "pending"

/-- The first part of `_ensure_task_defaults`, where the schedule is normalized. -/
def Calendar.ensureScheduleDefaults : Change Unit := do
  let kind ← Edit.lift (calendar.normalizeScheduleKind
    (Fields.getOr (← Edit.now) "schedule_kind" (.str "none")) "none")
  Edit.write "schedule_kind" (.str kind)
  let domain ← Edit.lift (calendar.normalizeTaskDomain (field (← Edit.now) "task_domain")
    (Fields.getOr (← Edit.now) "schedule_kind" (.str "none")))
  Edit.write "task_domain" (.str domain)
  Edit.write "type" (.str (taskRecordType domain))
  Edit.write "timezone" (.str (calendar.resolveTimezoneName
    (Fields.getOr (← Edit.now) "timezone" (.str "UTC"))))
  let recurrence := field (← Edit.now) "recurrence"
  let normalized ← Edit.lift
    (if absent recurrence then .ok .null else calendar.normalizeRecurrence recurrence)
  Edit.write "recurrence" normalized
  calendar.writeTextOrNull "due_at"
  calendar.writeTextOrNull "next_run_at"
  calendar.writeTextOrNull "last_run_at"
  calendar.writeText "last_run_status"
  calendar.writeText "last_run_summary"
  Edit.write "auto_run" (.bool (field (← Edit.now) "auto_run").truthy)
  calendar.writeText "job_prompt"
  let record ← Edit.now
  let policy ← Edit.lift (calendar.normalizeNotifyPolicy (field record "notify_policy")
    (if (field record "auto_run").truthy then "on_completion" else "on_due"))
  Edit.write "notify_policy" (.str policy)

/-- The second part, where the state of runs and of deliveries is normalized. -/
def Calendar.ensureRunDefaults : Change Unit := do
  Edit.write "delivery_target" (dictOr .null (field (← Edit.now) "delivery_target"))
  calendar.writeText "origin_session_id"
  calendar.writeTextOrNull "run_lock_until"
  calendar.writeTextOrNull "active_claim_token"
  Edit.write "run_history" (match field (← Edit.now) "run_history" with
    | .arr items => .arr items
    | _ => .arr [])
  Edit.write "pending_delivery" (dictOr .null (field (← Edit.now) "pending_delivery"))
  calendar.writeText "preferred_tool_key"
  Edit.write "preferred_target_endpoint_ids"
    (calendar.normalizeStringList (field (← Edit.now) "preferred_target_endpoint_ids"))
  Edit.write "preferred_endpoint_provider_types"
    (calendar.normalizeStringList (field (← Edit.now) "preferred_endpoint_provider_types"))
  Edit.write "tool_target_routing_policy"
    (.str (calendar.normalizeRoutingPolicy (field (← Edit.now) "tool_target_routing_policy")))
  calendar.writeTextOrNull "last_operation_id"
  calendar.writeTextOrNull "last_operation_status"
  calendar.updateTaskJob now []
  Edit.write "orchestration" (dictOr (.obj []) (field (← Edit.now) "orchestration"))

/-- The first of the texts that is not blank. -/
def firstText (texts : List String) : String := (texts.find? fun text => text ≠ "").getD ""

/-- `record["job"].get("last_delivery")` -/
def lastDelivery (record : Record) : Json := member "last_delivery" (field record "job")

/-- The delivery state of a task whose message waits to be delivered again. -/
def Calendar.pendingRedelivery (payload : Json) : Json :=
  calendar.normalizeDelivery now
    (.obj
      [("state", .str "pending_redelivery"), ("delivered", .bool false),
        ("channel", .str "task_update"), ("message", member "message" payload),
        ("event_id", member "event_id" payload),
        ("source_event_id", member "source_event_id" payload), ("at", member "created_at" payload)])

/-- The third part, where the anchor, the completion and the job follow. -/
def Calendar.ensureJobDefaults : Change Unit := do
  let record ← Edit.now
  Edit.write "schedule_anchor_at" (.str (firstText
    [calendar.fieldText record "schedule_anchor_at", calendar.fieldText record "created_at",
      calendar.fieldText record "last_updated_at", calendar.iso now]))
  calendar.writeTextOrNull "last_completed_at"
  calendar.writeTextOrNull "last_triggered_at"
  calendar.writeText "last_completion_summary"
  let record ← Edit.now
  if jobKind record = "user_task" then
    calendar.updateTaskJob now
      [("status", .str "not_applicable"), ("next_retry_at", .null),
        ("last_delivery", calendar.normalizeDelivery now (.obj [("state", .str "not_applicable")]))]
  else if (field record "pending_delivery").truthy then
    calendar.updateTaskJob now
      [("status", .str "awaiting_delivery"),
        ("next_retry_at", orNull (calendar.fieldText record "run_lock_until")),
        ("last_delivery", calendar.pendingRedelivery now (field record "pending_delivery"))]
  else if !(lastDelivery record).truthy ||
      isText "not_applicable" (member "state" (lastDelivery record)) then
    calendar.updateTaskJob now
      [("last_delivery", calendar.normalizeDelivery now
        (.obj [("state", .str (calendar.defaultDeliveryState record))]))]
  else pure ()

/-- The last part, where a recurring task is reopened and the next run is computed. -/
def Calendar.ensureCycleDefaults : Change Unit := do
  let record ← Edit.now
  if isText "recurring" (field record "schedule_kind") &&
      isText "done" (field record "task_status") then
    Edit.write "last_completed_at" (.str (firstText
      [calendar.text (field record "last_completed_at"), calendar.text (field record "last_run_at"),
        calendar.fieldText record "last_updated_at", calendar.fieldText record "created_at",
        calendar.iso now]))
    Edit.write "task_status" (.str "open")
  else pure ()
  let record ← Edit.now
  if absent (field record "next_run_at") then
    let next ← Edit.lift (calendar.nextRunAt now record)
    Edit.write "next_run_at" next
  else pure ()
  calendar.syncOrchestrationState now

/-- `_ensure_task_defaults` -/
@[irreducible] def Calendar.ensureTaskDefaults : Change Unit := do
  let record ← Edit.now
  if Text.lowerWord (calendar.fieldText record "type") ∈ ["task", "todo", "scheduled_task"] then
    calendar.ensureScheduleDefaults
    calendar.ensureRunDefaults now
    calendar.ensureJobDefaults now
    calendar.ensureCycleDefaults now
  else pure ()

/-! ## What the defaults leave alone -/

/-- The fields `_ensure_task_defaults` normalizes. -/
def normalizedFields : List String :=
  ["schedule_kind", "task_domain", "type", "timezone", "recurrence", "due_at", "next_run_at",
    "last_run_at", "last_run_status", "last_run_summary", "auto_run", "job_prompt",
    "notify_policy", "delivery_target", "origin_session_id", "run_lock_until",
    "active_claim_token", "run_history", "pending_delivery", "preferred_tool_key",
    "preferred_target_endpoint_ids", "preferred_endpoint_provider_types",
    "tool_target_routing_policy", "last_operation_id", "last_operation_status", "job",
    "orchestration", "schedule_anchor_at", "last_completed_at", "last_triggered_at",
    "last_completion_summary"]

section
variable {calendar now} {name : String} (apart : ∀ written ∈ normalizedFields, written ≠ name)
include apart

open Edit

theorem keeps_writeText {written : String} (member : written ∈ normalizedFields) :
    Keeps name (calendar.writeText written) :=
  keeps_bind (keeps_now name) fun _ => keeps_write (apart written member) _

theorem keeps_writeTextOrNull {written : String} (member : written ∈ normalizedFields) :
    Keeps name (calendar.writeTextOrNull written) :=
  keeps_bind (keeps_now name) fun _ => keeps_write (apart written member) _

theorem keeps_updateTaskJob (changes : List (String × Json)) :
    Keeps name (calendar.updateTaskJob now changes) :=
  keeps_bind (keeps_now name) fun _ => keeps_bind (keeps_lift name _) fun _ =>
    keeps_write (apart "job" (by decide)) _

theorem keeps_syncOrchestrationState : Keeps name (calendar.syncOrchestrationState now) :=
  keeps_bind (keeps_now name) fun _ => keeps_bind (keeps_lift name _) fun _ =>
    keeps_write (apart "orchestration" (by decide)) _

theorem keeps_ensureScheduleDefaults : Keeps name calendar.ensureScheduleDefaults := by
  unfold Calendar.ensureScheduleDefaults
  repeat' with_reducible first
    | refine keeps_bind ?_ fun _ => ?_
    | exact keeps_now name
    | exact keeps_lift name _
    | exact keeps_writeText apart (by decide)
    | exact keeps_writeTextOrNull apart (by decide)
    | exact keeps_write (apart _ (by decide)) _

theorem keeps_ensureRunDefaults : Keeps name (calendar.ensureRunDefaults now) := by
  unfold Calendar.ensureRunDefaults
  repeat' with_reducible first
    | refine keeps_bind ?_ fun _ => ?_
    | exact keeps_now name
    | exact keeps_updateTaskJob apart _
    | exact keeps_writeText apart (by decide)
    | exact keeps_writeTextOrNull apart (by decide)
    | exact keeps_write (apart _ (by decide)) _

theorem keeps_ensureJobDefaults : Keeps name (calendar.ensureJobDefaults now) := by
  unfold Calendar.ensureJobDefaults
  repeat' with_reducible first
    | refine keeps_bind ?_ fun _ => ?_
    | exact keeps_now name
    | exact keeps_updateTaskJob apart _
    | exact keeps_writeText apart (by decide)
    | exact keeps_writeTextOrNull apart (by decide)
    | exact keeps_write (apart _ (by decide)) _
    | exact keeps_pure name _
    | split

/-- The parts in front of the last one leave every other field as it is. -/
theorem keepsAt_ensureTaskDefaults {record : Record}
    (last : ∀ written : Record, written.get name = record.get name →
      KeepsAt name (calendar.ensureCycleDefaults now) written) :
    KeepsAt name (calendar.ensureTaskDefaults now) record := by
  unfold Calendar.ensureTaskDefaults
  refine keepsAt_bind (keeps_now name record) fun value after read => ?_
  obtain rfl : record = after := (Prod.mk.inj read).2
  split
  · refine keepsAt_bind (keeps_ensureScheduleDefaults apart _) fun _ scheduled first => ?_
    refine keepsAt_bind (keeps_ensureRunDefaults apart _) fun _ ran second => ?_
    refine keepsAt_bind (keeps_ensureJobDefaults apart _) fun _ worked third => ?_
    have firstKept := (@keeps_ensureScheduleDefaults calendar) apart record
    have secondKept := (@keeps_ensureRunDefaults calendar now) apart scheduled
    have thirdKept := (@keeps_ensureJobDefaults calendar now) apart ran
    rw [leaves, first] at firstKept
    rw [leaves, second] at secondKept
    rw [leaves, third] at thirdKept
    exact last worked (thirdKept.trans (secondKept.trans firstKept))
  · exact keeps_pure name _ record

end

section
variable {calendar now} {name : String}

open Edit

/-- Every other field is as it was, whether or not a field could not be normalized. -/
theorem keeps_ensureTaskDefaults (apart : ∀ written ∈ normalizedFields, written ≠ name)
    (other : "task_status" ≠ name) : Keeps name (calendar.ensureTaskDefaults now) := by
  refine fun record => keepsAt_ensureTaskDefaults apart fun written _ => ?_
  suffices Keeps name (calendar.ensureCycleDefaults now) from this written
  unfold Calendar.ensureCycleDefaults
  repeat' with_reducible first
    | refine keeps_bind ?_ fun _ => ?_
    | exact keeps_now name
    | exact keeps_lift name _
    | exact keeps_syncOrchestrationState apart
    | exact keeps_write (apart _ (by decide)) _
    | exact keeps_write other _
    | exact keeps_pure name _
    | split

end

end

end MeetYou.TaskRecords
