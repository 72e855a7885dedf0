import MeetYou.Foundation.TextLines
import MeetYou.Foundation.Runs
import MeetYou.ScheduledJobs

/-!
# Edits of scheduled jobs

A job is created, rescheduled, switched and deleted through the scheduler service, while its runs
go on. Its trigger stands in two columns, a type and a configuration that may name a type again.
The system heartbeat is guarded by a flag of its row, and only in some of the writers. A run that
ends computes the next firing from the row as it finds it.

Local time and the reading of a date are parameters. A call that raises is rolled back, and is
no step.
-/

namespace MeetYou.ScheduleEdits

open Text ScheduledJobs

/-! ## Trigger configurations -/

/-- What the time of a trigger is computed with. -/
structure Calendar where
  /-- `str` of a value that is no text. -/
  str : Json → String
  /-- `_parse_iso_datetime`: time zone and text. -/
  parseIsoDatetime : String → String → Option Instant
  /-- The next instant with this hour and minute, in a time zone. -/
  nextAt : String → Nat × Nat → Instant → Instant
  /-- `_cron_next_after`: time zone and expression. -/
  cronNextAfter : String → String → Instant → Option Instant

/-- `str(value)` -/
def Calendar.text (calendar : Calendar) : Json → String
  | .str text => text
  | value => calendar.str value

/-- `_parse_time_of_day` -/
def parseTimeOfDay (value : String) : Nat × Nat :=
  let parts := (orElse (strip (orElse value "08:00")) "08:00").toList.splitOn ':'
  let number (characters : List Char) : Option Int :=
    intOfText (String.ofList characters)
  let parsed : Option (Int × Int) := match parts with
    | [] => none
    | [hour] => (number hour).map fun hour => (hour, 0)
    | hour :: minute :: _ => (number hour).bind fun hour =>
        (number minute).map fun minute => (hour, minute)
  let (hour, minute) := parsed.getD (8, 0)
  ((max 0 (min hour 23)).toNat, (max 0 (min minute 59)).toNat)

/-- `value not in (None, "")` -/
def given : Json → Bool
  | .null => false
  | .str text => decide (text ≠ "")
  | _ => true

/-- `_time_of_day_value` -/
def Calendar.timeOfDayValue (calendar : Calendar) (config : Fields) : Option String :=
  match (["time_of_day", "at", "time", "daily_time", "run_time"].filterMap config.get).find?
      given with
  | some value => some (strip (calendar.text value))
  | none =>
      let part (name : String) : String := calendar.text ((config.get name).getD (.num 0))
      if (config.get "hour").isSome || (config.get "minute").isSome then
        some (part "hour" ++ ":" ++ part "minute")
      else none

/-- Two digits of a number below 100. -/
def twoDigits (number : Nat) : String :=
  if number < 10 then "0" ++ toString number else toString number

/-- `canonical_time_of_day` -/
def canonicalTimeOfDay (value : Option String) : String :=
  let (hour, minute) := parseTimeOfDay (orElse (value.getD "") "08:00")
  twoDigits hour ++ ":" ++ twoDigits minute

/-- `normalize_daily_trigger_config` -/
def Calendar.normalizeDailyTriggerConfig (calendar : Calendar) (config fallback : Fields) :
    Fields :=
  let value := (calendar.timeOfDayValue config).or (calendar.timeOfDayValue fallback)
  Fields.of [("type", .str "daily"), ("time_of_day", .str (canonicalTimeOfDay value))]

/-- The word of a trigger type that is not empty, for comparison. -/
def typeWord (triggerType : String) : String := lowerWord (strip triggerType)

/-- `str(trigger_type or config.get("type") or default).strip().lower()` -/
def Calendar.typeOr (calendar : Calendar) (triggerType : String) (config : Fields)
    (default : String) : String :=
  typeWord (if triggerType = "" then calendar.text (config.getOr "type" (.str default))
    else triggerType)

/-- `_normalize_trigger_config` -/
def Calendar.normalizeTriggerConfig (calendar : Calendar) (triggerType : String)
    (config fallback : Fields) : Fields :=
  if calendar.typeOr triggerType config "" = "daily" then
    calendar.normalizeDailyTriggerConfig config fallback
  else config

/-- `int(config.get("interval_seconds") or 0)`, and zero where it raises. -/
def intervalSeconds (config : Fields) : Int :=
  match config.getOr "interval_seconds" (.num 0) with
  | .bool true => 1
  | .num value => value.num.tdiv value.den
  | .str text => (intOfText text).getD 0
  | _ => 0

/-- The kind of trigger that `compute_next_fire_at` goes by. -/
def Calendar.kind (calendar : Calendar) (triggerType : String) (config : Fields) : String :=
  orElse (calendar.typeOr triggerType config "interval") "interval"

/-- The instant that a one-shot configuration names. -/
def Calendar.runAt (calendar : Calendar) (config : Fields) (timezone : String) : Option Instant :=
  calendar.parseIsoDatetime timezone
    (calendar.text (config.getOr "run_at" (config.getOr "at" (.str ""))))

/-- `compute_next_fire_at` -/
def Calendar.computeNextFireAt (calendar : Calendar) : NextFire :=
  fun triggerType config timezone now =>
    let kind := calendar.kind triggerType config
    if kind = "interval" then
      if 0 < intervalSeconds config then some (now + seconds (intervalSeconds config)) else none
    else if kind = "daily" then
      some (calendar.nextAt timezone
        (parseTimeOfDay (orElse ((calendar.timeOfDayValue config).getD "") "08:00")) now)
    else if kind = "one_shot" then
      (calendar.runAt config timezone).filter fun runAt => decide (now < runAt)
    else if kind = "cron" then
      calendar.cronNextAfter timezone
        (strip (calendar.text (config.getOr "expression" (config.getOr "cron" (.str ""))))) now
    else none

/-- `datetime.max` -/
def latest : Instant := 253402300799999999

/-! ## Rows -/

/-- A row of `scheduled_jobs` with what the edits read and write. The columns that none of them
reads are `details`, by their names. -/
structure JobRow extends ScheduledJob where
  kind : String
  deletable : Bool
  actionRef : String
  singletonKey : Option String
  details : Fields

/-- The next firing of the row after an instant, unless the sum of the times overflows. -/
def Calendar.next (calendar : Calendar) (row : JobRow) (after : Instant) :
    Option (Option Instant) :=
  let next := row.nextAfter calendar.computeNextFireAt after
  if next.all fun instant => decide (instant ≤ latest) then some next else none

/-- The row with its next firing computed. -/
def Calendar.scheduled (calendar : Calendar) (row : JobRow) (after : Instant) : Option JobRow :=
  (calendar.next row after).map fun next => { row with nextFireAt := next }

/-- `scheduled_jobs`, by id. -/
abbrev Rows := Dict JobId JobRow

/-- The unique key is free for a row with this identifier. -/
def keyFree (rows : Rows) (jobId : JobId) : Option String → Bool
  | none => true
  | some key => rows.all fun other row => decide (other = jobId ∨ row.singletonKey ≠ some key)

/-- The id of the heartbeat's job. -/
def heartbeatId : JobId := "system.heartbeat"

/-- The action of the heartbeat's job. -/
def heartbeatAction : String := "core.workflow.heartbeat"

/-- The trigger configuration of an interval. -/
def intervalConfig (intervalSeconds : Int) : Fields :=
  Fields.of [("type", .str "interval"), ("interval_seconds", .num intervalSeconds)]

/-! ## Creating -/

/-- The arguments of `create_job`. -/
structure CreateRequest where
  jobId : Option JobId
  hex : String
  kind : String
  singletonKey : Option String
  enabled : Bool
  triggerType : String
  triggerConfig : Fields
  timezone : String
  actionRef : String
  concurrencyPolicy : Fields
  details : Fields

/-- `job_id or f"job_{uuid4().hex}"` -/
def CreateRequest.id (request : CreateRequest) : JobId :=
  orElse (request.jobId.getD "") ("job_" ++ request.hex)

/-- `str(trigger_type or "interval").strip() or "interval"` -/
def CreateRequest.type (request : CreateRequest) : String :=
  orElse (strip (orElse request.triggerType "interval")) "interval"

/-- The row of `create_job`, before its next firing is computed. -/
def Calendar.created (calendar : Calendar) (request : CreateRequest) : JobRow where
  enabled := request.enabled
  triggerType := request.type
  triggerConfig := calendar.normalizeTriggerConfig request.type request.triggerConfig Dict.empty
  timezone := request.timezone
  concurrencyPolicy := request.concurrencyPolicy
  kind := request.kind
  deletable := true
  actionRef := request.actionRef
  singletonKey := request.singletonKey
  details := request.details

/-- `SchedulerService.create_job` -/
def Calendar.createJob (calendar : Calendar) (rows : Rows) (request : CreateRequest)
    (now : Instant) : Option Rows :=
  (calendar.scheduled (calendar.created request) now).bind fun row =>
    if keyFree rows request.id request.singletonKey then rows.insertNew request.id row else none

/-- `int(interval_seconds or 600)` -/
def heartbeatInterval (intervalSeconds : Int) : Int :=
  if intervalSeconds = 0 then 600 else intervalSeconds

/-- The row that `ensure_system_heartbeat` creates. -/
def heartbeatRow (intervalSeconds : Int) : JobRow where
  triggerType := "interval"
  triggerConfig := intervalConfig (heartbeatInterval intervalSeconds)
  concurrencyPolicy := Fields.of [("mode", .str "skip_if_running")]
  kind := "system_heartbeat"
  deletable := false
  actionRef := heartbeatAction
  singletonKey := some "core.system.heartbeat"
  details := Fields.of [("name", .str "System heartbeat"),
    ("run_template", .obj [("trigger_type", .str "system_heartbeat"),
      ("origin_actor_id", .str "system.heartbeat")]),
    ("execution_policy", .obj [("limits", .obj [("max_runtime_seconds", .num 120)])]),
    ("delivery_policy", .obj [("targets", .arr [.obj [("endpoint_id", .str "core.inbox"),
      ("required", .bool true)]])]),
    ("misfire_policy", .obj [("mode", .str "run_once")])]

/-- What `ensure_system_heartbeat` writes into a row that is there. -/
def JobRow.asHeartbeat (row : JobRow) (intervalSeconds : Int) : JobRow :=
  { row with
    kind := "system_heartbeat"
    singletonKey := some "core.system.heartbeat"
    deletable := false
    actionRef := heartbeatAction
    triggerConfig := if row.triggerConfig.entries = [] then
      intervalConfig (heartbeatInterval intervalSeconds) else row.triggerConfig }

/-- `row.next_fire_at` is computed where it is missing. -/
def Calendar.fillNext (calendar : Calendar) (row : JobRow) (now : Instant) : Option JobRow :=
  match row.nextFireAt with
  | some _ => some row
  | none => calendar.scheduled row now

/-- `SchedulerService.ensure_system_heartbeat` -/
def Calendar.ensureSystemHeartbeat (calendar : Calendar) (rows : Rows) (intervalSeconds : Int)
    (now : Instant) : Option Rows :=
  let row := match rows.get heartbeatId with
    | none => heartbeatRow intervalSeconds
    | some row => row.asHeartbeat intervalSeconds
  if keyFree rows heartbeatId row.singletonKey then
    (calendar.fillNext row now).map fun row => rows.set heartbeatId row
  else none

/-! ## Updating -/

/-- The keywords of `update_job`. A trigger keyword may be there with the value none. -/
structure Updates where
  triggerType : Option (Option String)
  triggerConfig : Option (Option Fields)
  timezone : Option (Option String)
  enabled : Option Bool
  actionRef : Option String
  concurrencyPolicy : Option Fields
  details : Fields
  nextFireAt : Option Instant
  lastFireAt : Option Instant
  leaseOwner : Option String
  leaseUntilAt : Option Instant

/-- No keyword. -/
def Updates.none : Updates where
  triggerType := Option.none
  triggerConfig := Option.none
  timezone := Option.none
  enabled := Option.none
  actionRef := Option.none
  concurrencyPolicy := Option.none
  details := Dict.empty
  nextFireAt := Option.none
  lastFireAt := Option.none
  leaseOwner := Option.none
  leaseUntilAt := Option.none

/-- The configuration is normalized. -/
def Updates.normalizes (updates : Updates) : Bool :=
  updates.triggerType.isSome || updates.triggerConfig.isSome

/-- `should_recompute` -/
def Updates.recomputes (updates : Updates) : Bool :=
  updates.normalizes || updates.timezone.isSome

/-- `next_trigger_type` -/
def Updates.nextTriggerType (updates : Updates) (row : JobRow) : String :=
  strip (orElse (updates.triggerType.join.getD "") row.triggerType)

/-- The configuration that is normalized: the given one, or that of the row. -/
def Updates.requestedConfig (updates : Updates) (row : JobRow) : Fields :=
  match updates.triggerConfig with
  | some config => config.getD Dict.empty
  | Option.none => row.triggerConfig

/-- The configuration that the repository is given, if any. -/
def Calendar.newConfig (calendar : Calendar) (updates : Updates) (row : JobRow) :
    Option Fields :=
  if updates.normalizes then
    some (calendar.normalizeTriggerConfig (updates.nextTriggerType row)
      (updates.requestedConfig row) row.triggerConfig)
  else none

/-- A keyword is given that the system's job may not take. -/
def Updates.disallowed (updates : Updates) : Bool :=
  updates.triggerType.join.isSome || updates.timezone.join.isSome || updates.actionRef.isSome ||
    updates.concurrencyPolicy.isSome || !updates.details.entries.isEmpty

/-- A configuration that the system's job may be given. -/
def Calendar.allowed (calendar : Calendar) (requested : Fields) : Bool :=
  requested.keys.all (fun name => name == "type" || name == "interval_seconds") &&
    decide (orElse (strip (calendar.text (requested.getOr "type" (.str "interval")))) "interval" =
      "interval") &&
    (requested.get "interval_seconds").isSome && decide (0 < intervalSeconds requested)

/-- `ScheduledJobRepository.update` on a row that is not deletable. -/
def Calendar.updateSystem (calendar : Calendar) (row : JobRow) (updates : Updates)
    (config : Option Fields) : Option JobRow :=
  if updates.disallowed then none
  else
    let switched : JobRow := { row with enabled := updates.enabled.getD row.enabled }
    match config with
    | none => some switched
    | some requested =>
        if calendar.allowed requested then
          some { switched with triggerConfig := intervalConfig (intervalSeconds requested) }
        else none

/-- `ScheduledJobRepository.update` on another row. -/
def updateOther (row : JobRow) (updates : Updates) (config : Option Fields) : JobRow :=
  { row with
    enabled := updates.enabled.getD row.enabled
    triggerType := orElse (updates.triggerType.join.getD "") row.triggerType
    triggerConfig := config.getD row.triggerConfig
    timezone := updates.timezone.join.getD row.timezone
    actionRef := updates.actionRef.getD row.actionRef
    concurrencyPolicy := updates.concurrencyPolicy.getD row.concurrencyPolicy
    details := row.details.update updates.details
    nextFireAt := updates.nextFireAt.or row.nextFireAt
    lastFireAt := updates.lastFireAt.or row.lastFireAt
    leaseOwner := updates.leaseOwner.getD row.leaseOwner
    leaseUntilAt := updates.leaseUntilAt.or row.leaseUntilAt }

/-- `ScheduledJobRepository.update` on a stored row. -/
def Calendar.update (calendar : Calendar) (row : JobRow) (updates : Updates)
    (config : Option Fields) : Option JobRow :=
  if row.deletable then some (updateOther row updates config)
  else calendar.updateSystem row updates config

/-- `SchedulerService.update_job` on a stored row. -/
def Calendar.updated (calendar : Calendar) (row : JobRow) (updates : Updates) (now : Instant) :
    Option JobRow :=
  (calendar.update row updates (calendar.newConfig updates row)).bind fun written =>
    if updates.recomputes then calendar.scheduled written now else some written

/-- The row after `update_interval` of the repository. -/
def JobRow.withInterval (row : JobRow) (intervalSeconds : Int) : JobRow :=
  let config := row.triggerConfig.set "type" (.str "interval")
  { row with triggerConfig := config.set "interval_seconds" (.num intervalSeconds) }

/-- `SchedulerService.update_interval` on a stored row. -/
def Calendar.intervalUpdated (calendar : Calendar) (row : JobRow) (intervalSeconds : Int)
    (now : Instant) : Option JobRow :=
  calendar.scheduled (row.withInterval intervalSeconds) now

/-- A service call that looks up a row and writes it; an unknown identifier changes nothing. -/
def rewrite (rows : Rows) (jobId : JobId) (change : JobRow → Option JobRow) : Option Rows :=
  match rows.get jobId with
  | none => some rows
  | some row => (change row).map fun written => rows.set jobId written

/-- `ScheduledJobRepository.delete` -/
def delete (rows : Rows) (jobId : JobId) : Option Rows :=
  match rows.get jobId with
  | none => some rows
  | some row => if row.deletable then some (rows.pop jobId) else none

/-- `SchedulerService.mark_fired` on a stored row. -/
def Calendar.marked (calendar : Calendar) (row : JobRow) (firedAt : Instant) : Option JobRow :=
  (calendar.next row firedAt).map fun next =>
    { row with toScheduledJob := row.toScheduledJob.fired firedAt next }

/-! ## Runs -/

abbrev RunId := Nat

/-- A run in progress, with the one-shot instant that the latest update of its job since the
start of the run has set. -/
structure Running where
  jobId : JobId
  rescheduledTo : Option Instant

/-- The rows with the runs that were started. -/
structure Core where
  rows : Rows
  runs : Dict RunId Running

/-- One call of the scheduler service, or the start or failure of a run. -/
inductive Action
  | createJob (request : CreateRequest) (now : Instant)
  | ensureSystemHeartbeat (intervalSeconds : Int) (now : Instant)
  | updateJob (jobId : JobId) (updates : Updates) (now : Instant)
  | updateInterval (jobId : JobId) (intervalSeconds : Int) (now : Instant)
  | setEnabled (jobId : JobId) (enabled : Bool)
  | deleteJob (jobId : JobId)
  | ensureNextFireAt (jobId : JobId) (now : Instant)
  | startRun (run : RunId) (jobId : JobId) (now : Instant) (leaseOwner : String)
  | failRun (run : RunId)
  | markFired (run : RunId) (firedAt : Instant)

/-- The row fires once. -/
def Calendar.oneShot (calendar : Calendar) (row : JobRow) : Bool :=
  decide (calendar.kind row.triggerType row.triggerConfig = "one_shot")

/-- The instant at which the updated job fires once, if the update sets one. -/
def Calendar.setsInstant (calendar : Calendar) (updates : Updates) (written : Option JobRow) :
    Option (Option Instant) :=
  if updates.recomputes || updates.nextFireAt.isSome then
    some (written.bind fun row => if calendar.oneShot row then row.nextFireAt else none)
  else none

/-- The runs of a job take note of the instant that an update sets. -/
def noted (runs : Dict RunId Running) (jobId : JobId) : Option (Option Instant) →
    Dict RunId Running
  | none => runs
  | some instant => runs.mapValues fun running =>
      if running.jobId = jobId then { running with rescheduledTo := instant } else running

/-- The steps of the service. -/
def Calendar.step (calendar : Calendar) (core : Core) : Action → Option Core
  | .createJob request now =>
      (calendar.createJob core.rows request now).map fun rows => { core with rows }
  | .ensureSystemHeartbeat intervalSeconds now =>
      (calendar.ensureSystemHeartbeat core.rows intervalSeconds now).map
        fun rows => { core with rows }
  | .updateJob jobId updates now =>
      (rewrite core.rows jobId fun row => calendar.updated row updates now).map fun rows =>
        { rows, runs := noted core.runs jobId (calendar.setsInstant updates (rows.get jobId)) }
  | .updateInterval jobId intervalSeconds now =>
      if intervalSeconds ≤ 0 then none
      else (rewrite core.rows jobId fun row =>
        calendar.intervalUpdated row intervalSeconds now).map fun rows => { core with rows }
  | .setEnabled jobId enabled =>
      (rewrite core.rows jobId fun row => some { row with enabled }).map
        fun rows => { core with rows }
  | .deleteJob jobId => (delete core.rows jobId).map fun rows => { core with rows }
  | .ensureNextFireAt jobId now =>
      (rewrite core.rows jobId fun row => calendar.fillNext row now).map
        fun rows => { core with rows }
  | .startRun run jobId now leaseOwner =>
      match core.runs.get run, core.rows.get jobId with
      | none, some row =>
          if row.acquirable now then
            some { rows := core.rows.set jobId { row with
                     toScheduledJob := row.toScheduledJob.withLease leaseOwner
                       (now + leaseLength 300) }
                   runs := core.runs.set run ⟨jobId, none⟩ }
          else none
      | _, _ => none
  | .failRun run =>
      (core.runs.get run).map fun running =>
        { rows := core.rows.revise running.jobId fun row =>
            { row with toScheduledJob := row.toScheduledJob.released }
          runs := core.runs.pop run }
  | .markFired run firedAt =>
      (core.runs.get run).bind fun running =>
        (rewrite core.rows running.jobId fun row => calendar.marked row firedAt).map
          fun rows => { rows, runs := core.runs.pop run }

end MeetYou.ScheduleEdits
