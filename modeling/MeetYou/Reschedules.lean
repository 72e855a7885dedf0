import MeetYou.Foundation.Persistence
import MeetYou.ScheduleEdits

/-!
# Coherent triggers and kept reschedules

Nothing compares the type in a trigger configuration with the type of the trigger, and three
writers set one without the other. The guard of the system heartbeat stands in the update and in
the deletion, and it goes by a flag that a created job does not have. A run that ends at or after
the instant that it was rescheduled to computes that there is nothing left to fire.

`edits_keep_iff` says of every call exactly when it keeps the rows in order.
-/

namespace MeetYou.ScheduleEdits

open Text ScheduledJobs Runs

/-! ## Rows in order -/

/-- The row agrees with itself, and the heartbeat is what it should be. -/
structure RowSound (jobId : JobId) (row : JobRow) : Prop where
  coherent : ∀ value, row.triggerConfig.get "type" = some value → value = .str row.triggerType
  heartbeat : jobId = heartbeatId → row.triggerType = "interval" ∧
    row.actionRef = heartbeatAction ∧ 0 < intervalSeconds row.triggerConfig

/-- Every row is in order. -/
def Sound (rows : Rows) : Prop := ∀ jobId row, rows.get jobId = some row → RowSound jobId row

/-- What a call must leave behind. -/
structure Keeps (calendar : Calendar) (core : Core) (action : Action) (next : Core) : Prop where
  sound : Sound next.rows
  heartbeat : (core.rows.get heartbeatId).isSome → (next.rows.get heartbeatId).isSome
  reschedule : ∀ run firedAt running row instant, action = .markFired run firedAt →
    core.runs.get run = some running → core.rows.get running.jobId = some row →
    calendar.oneShot row = true → running.rescheduledTo = some instant →
    row.nextFireAt = some instant →
    ∃ later, next.rows.get running.jobId = some later ∧ later.nextFireAt = some instant

/-! ## When a call keeps them -/

/-- The configuration names this type, or none. -/
def names (config : Fields) (triggerType : String) : Bool :=
  match config.get "type" with
  | none => true
  | some (.str name) => decide (name = triggerType)
  | some _ => false

/-- A daily trigger is spelled `daily`; another configuration names the type that is written. -/
def Calendar.agrees (calendar : Calendar) (nextType written : String) (config : Fields) : Bool :=
  if calendar.typeOr nextType config "" = "daily" then decide (written = "daily")
  else names config written

/-- A heartbeat with these values is in order. -/
def beats (triggerType actionRef : String) (config : Fields) : Bool :=
  decide (triggerType = "interval") && decide (actionRef = heartbeatAction) &&
    decide (0 < intervalSeconds config)

/-- The job is created with a configuration of its type, and a heartbeat as a heartbeat. -/
def Calendar.createsOrderly (calendar : Calendar) (request : CreateRequest) : Bool :=
  calendar.agrees request.type request.type request.triggerConfig &&
    (decide (request.id ≠ heartbeatId) ||
      beats request.type request.actionRef request.triggerConfig)

/-- The type that an update writes. -/
def Updates.writtenType (updates : Updates) (row : JobRow) : String :=
  orElse (updates.triggerType.join.getD "") row.triggerType

/-- The update gives a configuration of the type that it writes, and the heartbeat stays one. -/
def Calendar.updatesOrderly (calendar : Calendar) (jobId : JobId) (row : JobRow)
    (updates : Updates) : Bool :=
  if row.deletable then
    (!updates.normalizes || calendar.agrees (updates.nextTriggerType row)
      (updates.writtenType row) (updates.requestedConfig row)) &&
    (decide (jobId ≠ heartbeatId) || beats (updates.writtenType row)
      (updates.actionRef.getD row.actionRef) (updates.requestedConfig row))
  else !updates.normalizes || decide (row.triggerType = "interval")

/-- The run ends before the instant that the configuration of its rescheduled job names. -/
def Calendar.endsBefore (calendar : Calendar) (running : Running) (row : JobRow)
    (firedAt : Instant) : Bool :=
  match running.rescheduledTo with
  | none => true
  | some instant =>
      !(calendar.oneShot row && decide (row.nextFireAt = some instant)) ||
        (decide (calendar.runAt row.triggerConfig row.timezone = some instant) &&
          decide (firedAt < instant))

/-- The call leaves the rows in order. -/
def Calendar.orderly (calendar : Calendar) (core : Core) : Action → Bool
  | .createJob request _ => calendar.createsOrderly request
  | .ensureSystemHeartbeat intervalSeconds _ =>
      (core.rows.get heartbeatId).isSome || decide (0 ≤ intervalSeconds)
  | .updateJob jobId updates _ =>
      (core.rows.get jobId).all fun row => calendar.updatesOrderly jobId row updates
  | .updateInterval jobId _ _ =>
      (core.rows.get jobId).all fun row => decide (row.triggerType = "interval")
  | .deleteJob jobId => decide (jobId ≠ heartbeatId) || (core.rows.get jobId).isNone
  | .markFired run firedAt =>
      (core.runs.get run).all fun running => (core.rows.get running.jobId).all fun row =>
        calendar.endsBefore running row firedAt
  | _ => true

theorem names_iff (config : Fields) (triggerType : String) :
    names config triggerType = true ↔
      ∀ value, config.get "type" = some value → value = .str triggerType := by
  unfold names
  cases config.get "type" with
  | none => simp
  | some value => cases value <;> simp

theorem beats_iff (triggerType actionRef : String) (config : Fields) :
    beats triggerType actionRef config = true ↔
      triggerType = "interval" ∧ actionRef = heartbeatAction ∧ 0 < intervalSeconds config := by
  unfold beats
  rw [Bool.and_eq_true, Bool.and_eq_true, decide_eq_true_eq, decide_eq_true_eq, decide_eq_true_eq,
    and_assoc]

/-- A row is in order by its type, its action and its configuration. -/
theorem rowSound_iff (jobId : JobId) (row : JobRow) :
    RowSound jobId row ↔ names row.triggerConfig row.triggerType = true ∧
      (jobId = heartbeatId → beats row.triggerType row.actionRef row.triggerConfig = true) := by
  rw [names_iff, beats_iff]
  exact ⟨fun sound => ⟨sound.coherent, sound.heartbeat⟩, fun both => ⟨both.1, both.2⟩⟩

/-- Other columns do not matter. -/
theorem RowSound.congr {jobId : JobId} {row other : JobRow}
    (type : other.triggerType = row.triggerType) (action : other.actionRef = row.actionRef)
    (config : other.triggerConfig = row.triggerConfig) :
    RowSound jobId other ↔ RowSound jobId row := by
  rw [rowSound_iff, rowSound_iff, type, action, config]

/-- Where one row is written, the table is in order if the row is. -/
theorem Sound.set_iff {rows : Rows} (sound : Sound rows) (jobId : JobId) (row : JobRow) :
    Sound (rows.set jobId row) ↔ RowSound jobId row := by
  constructor
  · exact fun all => all jobId row (Dict.get_set_self rows jobId row)
  · intro new tested found present
    rw [Dict.get_set] at present
    split at present
    case isTrue same => exact Option.some.inj present ▸ same ▸ new
    case isFalse => exact sound tested found present

/-- Where one row is dropped, it stays in order. -/
theorem Sound.pop {rows : Rows} (sound : Sound rows) (jobId : JobId) : Sound (rows.pop jobId) :=
  fun tested row present => sound tested row (Dict.get_of_pop present).2

theorem isSome_set (rows : Rows) (jobId tested : JobId) (row : JobRow) :
    (rows.get tested).isSome → ((rows.set jobId row).get tested).isSome := by
  intro present
  rw [Dict.get_set]
  split
  · rfl
  · exact present

/-! ## What each writer makes of a row -/

/-- A row with its next firing computed differs in nothing else. -/
theorem Calendar.scheduled_sound {calendar : Calendar} {row written : JobRow} {after : Instant}
    (computed : calendar.scheduled row after = some written) (jobId : JobId) :
    RowSound jobId written ↔ RowSound jobId row := by
  unfold Calendar.scheduled at computed
  obtain ⟨next, _, rfl⟩ := Option.map_eq_some_iff.mp computed
  exact RowSound.congr rfl rfl rfl

theorem Calendar.fillNext_sound {calendar : Calendar} {row written : JobRow} {now : Instant}
    (filled : calendar.fillNext row now = some written) (jobId : JobId) :
    RowSound jobId written ↔ RowSound jobId row := by
  unfold Calendar.fillNext at filled
  split at filled
  · exact Option.some.inj filled ▸ Iff.rfl
  · exact scheduled_sound filled jobId

theorem Calendar.marked_sound {calendar : Calendar} {row written : JobRow} {firedAt : Instant}
    (fired : calendar.marked row firedAt = some written) (jobId : JobId) :
    RowSound jobId written ↔ RowSound jobId row := by
  unfold Calendar.marked at fired
  obtain ⟨next, _, rfl⟩ := Option.map_eq_some_iff.mp fired
  exact RowSound.congr rfl rfl rfl

/-- A normalized configuration names the written type exactly when the two agree. -/
theorem Calendar.names_normalize (calendar : Calendar) (nextType written : String)
    (config fallback : Fields) :
    names (calendar.normalizeTriggerConfig nextType config fallback) written =
      calendar.agrees nextType written config := by
  unfold Calendar.normalizeTriggerConfig Calendar.agrees
  by_cases daily : calendar.typeOr nextType config "" = "daily"
  · rw [if_pos daily, if_pos daily, Bool.eq_iff_iff, decide_eq_true_eq]
    have named : (calendar.normalizeDailyTriggerConfig config fallback).get "type" =
        some (.str "daily") := by
      unfold Calendar.normalizeDailyTriggerConfig
      exact Fields.fold_set_present "type" (.str "daily") _ _
        (show ["type", "time_of_day"].Nodup by decide) List.mem_cons_self
    rw [names, named]
    simp [eq_comm]
  · rw [if_neg daily, if_neg daily]

/-- An interval trigger is not normalized. -/
theorem Calendar.normalize_interval (calendar : Calendar) (config fallback : Fields) :
    calendar.normalizeTriggerConfig "interval" config fallback = config := by
  have word : typeWord "interval" = "interval" := by decide +kernel
  unfold Calendar.normalizeTriggerConfig Calendar.typeOr
  rw [if_neg (show "interval" ≠ "" by decide), word, if_neg (show "interval" ≠ "daily" by decide)]

theorem intervalSeconds_num (config : Fields) (interval : Int) :
    intervalSeconds (config.set "interval_seconds" (.num interval)) = interval := by
  unfold intervalSeconds Fields.getOr
  rw [Dict.get_set_self]
  by_cases zero : interval = 0
  · simp [Json.truthy, zero]
  · have present : (Json.num (interval : Rat)).truthy = true := by simp [Json.truthy, zero]
    simp only [present, if_true, Rat.num_intCast, Rat.den_intCast]
    simp

theorem Calendar.created_sound (calendar : Calendar) (request : CreateRequest) :
    RowSound request.id (calendar.created request) ↔
      calendar.createsOrderly request = true := by
  have type : (calendar.created request).triggerType = request.type := by
    simp only [Calendar.created]
  have action : (calendar.created request).actionRef = request.actionRef := by
    simp only [Calendar.created]
  have config : (calendar.created request).triggerConfig =
      calendar.normalizeTriggerConfig request.type request.triggerConfig Dict.empty := by
    simp only [Calendar.created]
  unfold Calendar.createsOrderly
  rw [rowSound_iff, type, action, config, calendar.names_normalize, Bool.and_eq_true,
    Bool.or_eq_true, decide_eq_true_eq, ne_eq, ← imp_iff_not_or]
  apply and_congr_right'
  apply imp_congr_right
  intro _
  rw [beats_iff, beats_iff]
  apply and_congr_right
  intro interval
  rw [interval, normalize_interval]

theorem intervalConfig_names (interval : Int) (triggerType : String) :
    names (intervalConfig interval) triggerType = decide ("interval" = triggerType) := by
  have named : (intervalConfig interval).get "type" = some (.str "interval") :=
    Fields.fold_set_present "type" (.str "interval") _ _
      (show ["type", "interval_seconds"].Nodup by decide) List.mem_cons_self
  rw [names, named]

theorem intervalConfig_seconds (interval : Int) :
    intervalSeconds (intervalConfig interval) = interval :=
  intervalSeconds_num _ interval

/-- The heartbeat is created in order for an interval that is positive or left out. -/
theorem heartbeatRow_sound (interval : Int) :
    RowSound heartbeatId (heartbeatRow interval) ↔ 0 ≤ interval := by
  have type : (heartbeatRow interval).triggerType = "interval" := rfl
  have action : (heartbeatRow interval).actionRef = heartbeatAction := rfl
  have config : (heartbeatRow interval).triggerConfig =
      intervalConfig (heartbeatInterval interval) := by
    simp only [heartbeatRow]
  rw [rowSound_iff, beats_iff, type, action, config, intervalConfig_names, intervalConfig_seconds]
  unfold heartbeatInterval
  simp only [decide_true, true_and, forall_const]
  split <;> omega

/-- A configuration with a positive interval is not empty. -/
theorem entries_of_seconds {config : Fields} (positive : 0 < intervalSeconds config) :
    config.entries ≠ [] := by
  intro empty
  have absent : config.get "interval_seconds" = none := by
    rw [Dict.get, empty]
    rfl
  unfold intervalSeconds Fields.getOr at positive
  rw [absent] at positive
  exact absurd positive (by decide)

theorem asHeartbeat_sound {row : JobRow} (sound : RowSound heartbeatId row) (interval : Int) :
    RowSound heartbeatId (row.asHeartbeat interval) := by
  obtain ⟨_, action, positive⟩ := sound.heartbeat rfl
  have config : (row.asHeartbeat interval).triggerConfig = row.triggerConfig :=
    if_neg (entries_of_seconds positive)
  exact (@RowSound.congr heartbeatId row (row.asHeartbeat interval) rfl action.symm
    config).mpr sound

theorem withInterval_sound {jobId : JobId} {row : JobRow} (sound : RowSound jobId row)
    {interval : Int} (positive : 0 < interval) :
    RowSound jobId (row.withInterval interval) ↔ row.triggerType = "interval" := by
  have named : (row.withInterval interval).triggerConfig.get "type" = some (.str "interval") := by
    unfold JobRow.withInterval
    dsimp only
    rw [Dict.get_set_ne _ _ (show "interval_seconds" ≠ "type" by decide), Dict.get_set_self]
  have counted : intervalSeconds (row.withInterval interval).triggerConfig = interval :=
    intervalSeconds_num _ interval
  constructor
  · intro written
    exact (Json.str.inj (written.coherent _ named)).symm
  · intro type
    constructor
    · intro value found
      rw [named] at found
      rw [← Option.some.inj found]
      exact congrArg Json.str type.symm
    · intro beat
      exact ⟨type, (sound.heartbeat beat).2.1, counted.symm ▸ positive⟩

/-- An update of a job that may be deleted is checked nowhere. -/
theorem Calendar.updateOther_sound (calendar : Calendar) {jobId : JobId} {row : JobRow}
    (sound : RowSound jobId row) (deletable : row.deletable = true) (updates : Updates) :
    RowSound jobId (updateOther row updates (calendar.newConfig updates row)) ↔
      calendar.updatesOrderly jobId row updates = true := by
  have stored := (rowSound_iff jobId row).mp sound
  have type : (updateOther row updates (calendar.newConfig updates row)).triggerType =
      updates.writtenType row := by
    simp only [updateOther, Updates.writtenType]
  have action : (updateOther row updates (calendar.newConfig updates row)).actionRef =
      updates.actionRef.getD row.actionRef := by
    simp only [updateOther]
  have config : (updateOther row updates (calendar.newConfig updates row)).triggerConfig =
      (calendar.newConfig updates row).getD row.triggerConfig := by
    simp only [updateOther]
  unfold Calendar.updatesOrderly
  rw [if_pos deletable, rowSound_iff, type, action, config, Bool.and_eq_true]
  by_cases normalizes : updates.normalizes = true
  · have requested : (calendar.newConfig updates row).getD row.triggerConfig =
        calendar.normalizeTriggerConfig (updates.nextTriggerType row)
          (updates.requestedConfig row) row.triggerConfig := by
      rw [Calendar.newConfig, if_pos normalizes, Option.getD_some]
    rw [requested, calendar.names_normalize, normalizes, Bool.not_true, Bool.false_or,
      Bool.or_eq_true, decide_eq_true_eq, ne_eq, ← imp_iff_not_or]
    apply and_congr_right'
    apply imp_congr_right
    intro _
    rw [beats_iff, beats_iff]
    apply and_congr_right
    intro interval
    have next : updates.nextTriggerType row = "interval" := by
      have spelled : strip (updates.writtenType row) = strip "interval" :=
        congrArg strip interval
      exact spelled.trans (by decide +kernel)
    rw [next, normalize_interval]
  · have plain : updates.triggerType = none ∧ updates.triggerConfig = none := by
      unfold Updates.normalizes at normalizes
      simpa using normalizes
    have written : updates.writtenType row = row.triggerType := by
      rw [Updates.writtenType, plain.1]
      exact if_pos rfl
    have kept : (calendar.newConfig updates row).getD row.triggerConfig = row.triggerConfig := by
      rw [Calendar.newConfig, if_neg normalizes, Option.getD_none]
    have own : updates.requestedConfig row = row.triggerConfig := by
      rw [Updates.requestedConfig, plain.2]
    rw [Bool.not_eq_true] at normalizes
    rw [kept, written, own, normalizes, Bool.not_false, Bool.true_or, Bool.or_eq_true,
      decide_eq_true_eq, ne_eq, ← imp_iff_not_or]
    exact and_congr_left' ⟨fun _ => rfl, fun _ => stored.1⟩

/-- An update of the system's job writes an interval, whatever the type of the trigger is. -/
theorem Calendar.updateSystem_sound {calendar : Calendar} {jobId : JobId} {row written : JobRow}
    (sound : RowSound jobId row) (fixed : row.deletable = false) {updates : Updates}
    (done : calendar.updateSystem row updates (calendar.newConfig updates row) = some written) :
    RowSound jobId written ↔ calendar.updatesOrderly jobId row updates = true := by
  have stored := (rowSound_iff jobId row).mp sound
  have beat := sound.heartbeat
  unfold Calendar.updatesOrderly
  rw [if_neg (by rw [fixed]; decide)]
  unfold Calendar.updateSystem Calendar.newConfig at done
  split at done
  · cases done
  dsimp only at done
  by_cases normalizes : updates.normalizes = true
  · rw [if_pos normalizes] at done
    dsimp only at done
    split at done
    case isFalse => cases done
    case isTrue allowed =>
      obtain rfl := Option.some.inj done
      rw [rowSound_iff, normalizes, Bool.not_true, Bool.false_or, decide_eq_true_eq]
      dsimp only
      rw [intervalConfig_names, decide_eq_true_eq, beats_iff, intervalConfig_seconds]
      have positive : 0 < intervalSeconds (calendar.normalizeTriggerConfig
          (updates.nextTriggerType row) (updates.requestedConfig row) row.triggerConfig) := by
        unfold Calendar.allowed at allowed
        rw [Bool.and_eq_true, decide_eq_true_eq] at allowed
        exact allowed.2
      constructor
      · exact fun both => both.1.symm
      · exact fun interval => ⟨interval.symm, fun same => ⟨interval, (beat same).2.1, positive⟩⟩
  · rw [if_neg normalizes] at done
    obtain rfl := Option.some.inj done
    rw [Bool.not_eq_true] at normalizes
    rw [normalizes, Bool.not_false, Bool.true_or]
    exact ⟨fun _ => rfl, fun _ => ⟨sound.coherent, sound.heartbeat⟩⟩

theorem Calendar.updated_sound {calendar : Calendar} {jobId : JobId} {row written : JobRow}
    (sound : RowSound jobId row) {updates : Updates} {now : Instant}
    (done : calendar.updated row updates now = some written) :
    RowSound jobId written ↔ calendar.updatesOrderly jobId row updates = true := by
  unfold Calendar.updated at done
  obtain ⟨edited, stored, computed⟩ := Option.bind_eq_some_iff.mp done
  have same : RowSound jobId written ↔ RowSound jobId edited := by
    split at computed
    · exact scheduled_sound computed jobId
    · exact Option.some.inj computed ▸ Iff.rfl
  rw [same]
  unfold Calendar.update at stored
  split at stored
  case isTrue deletable =>
    exact Option.some.inj stored ▸ calendar.updateOther_sound sound deletable updates
  case isFalse fixed => exact updateSystem_sound sound (Bool.not_eq_true _ ▸ fixed) stored

/-! ## What each call makes of the table -/

theorem rewrite_sound {rows next : Rows} (sound : Sound rows) {jobId : JobId}
    {change : JobRow → Option JobRow} {test : JobRow → Bool}
    (decided : ∀ row written, RowSound jobId row → change row = some written →
      (RowSound jobId written ↔ test row = true))
    (done : rewrite rows jobId change = some next) :
    Sound next ↔ (rows.get jobId).all test = true := by
  unfold rewrite at done
  cases stored : rows.get jobId with
  | none =>
    rw [stored] at done
    obtain rfl := Option.some.inj done
    exact ⟨fun _ => rfl, fun _ => sound⟩
  | some row =>
    rw [stored] at done
    obtain ⟨written, changed, rfl⟩ := Option.map_eq_some_iff.mp done
    rw [sound.set_iff, decided row written (sound jobId row stored) changed, Option.all_some]

/-- A call that changes only what does not matter keeps the rows in order. -/
theorem rewrite_keeps {rows next : Rows} (sound : Sound rows) {jobId : JobId}
    {change : JobRow → Option JobRow}
    (same : ∀ row written, change row = some written →
      (RowSound jobId written ↔ RowSound jobId row))
    (done : rewrite rows jobId change = some next) : Sound next := by
  refine (@rewrite_sound _ _ sound _ _ (fun _ => true) ?_ done).mpr (by simp)
  exact fun row written held changed => ⟨fun _ => rfl, fun _ => (same row written changed).mpr held⟩

/-- No rewriting drops a row. -/
theorem rewrite_present {rows next : Rows} {jobId : JobId} {change : JobRow → Option JobRow}
    (done : rewrite rows jobId change = some next) (tested : JobId) :
    (rows.get tested).isSome → (next.get tested).isSome := by
  unfold rewrite at done
  split at done
  · exact Option.some.inj done ▸ id
  · obtain ⟨written, _, rfl⟩ := Option.map_eq_some_iff.mp done
    exact isSome_set rows jobId tested written

/-- Only the end of a run can lose an instant. -/
theorem keeps_iff {calendar : Calendar} {core next : Core} (action : Action)
    (quiet : ∀ run firedAt, action ≠ .markFired run firedAt)
    (present : (core.rows.get heartbeatId).isSome → (next.rows.get heartbeatId).isSome) :
    Keeps calendar core action next ↔ Sound next.rows :=
  ⟨Keeps.sound, fun sound => ⟨sound, present,
    fun run firedAt _ _ _ ends => absurd ends (quiet run firedAt)⟩⟩

theorem createJob_sound {calendar : Calendar} {rows next : Rows} (sound : Sound rows)
    {request : CreateRequest} {now : Instant}
    (done : calendar.createJob rows request now = some next) :
    (Sound next ↔ calendar.createsOrderly request = true) ∧
      ∀ tested, (rows.get tested).isSome → (next.get tested).isSome := by
  unfold Calendar.createJob at done
  obtain ⟨row, computed, inserted⟩ := Option.bind_eq_some_iff.mp done
  split at inserted
  case isFalse => cases inserted
  case isTrue =>
    obtain ⟨_, rfl⟩ := Dict.insertNew_some_iff.mp inserted
    rw [sound.set_iff, Calendar.scheduled_sound computed, calendar.created_sound]
    exact ⟨Iff.rfl, fun tested => isSome_set rows request.id tested row⟩

theorem ensureSystemHeartbeat_sound {calendar : Calendar} {rows next : Rows} (sound : Sound rows)
    {interval : Int} {now : Instant}
    (done : calendar.ensureSystemHeartbeat rows interval now = some next) :
    (Sound next ↔ ((rows.get heartbeatId).isSome || decide (0 ≤ interval)) = true) ∧
      ∀ tested, (rows.get tested).isSome → (next.get tested).isSome := by
  unfold Calendar.ensureSystemHeartbeat at done
  cases stored : rows.get heartbeatId with
  | none =>
    rw [stored] at done
    obtain ⟨_, filled⟩ := Option.ite_none_right_eq_some.mp done
    obtain ⟨written, computed, rfl⟩ := Option.map_eq_some_iff.mp filled
    refine ⟨?_, fun tested => isSome_set rows heartbeatId tested written⟩
    rw [sound.set_iff, Calendar.fillNext_sound computed, Option.isSome_none, Bool.false_or,
      decide_eq_true_eq]
    exact heartbeatRow_sound interval
  | some row =>
    rw [stored] at done
    obtain ⟨_, filled⟩ := Option.ite_none_right_eq_some.mp done
    obtain ⟨written, computed, rfl⟩ := Option.map_eq_some_iff.mp filled
    refine ⟨?_, fun tested => isSome_set rows heartbeatId tested written⟩
    rw [sound.set_iff, Calendar.fillNext_sound computed, Option.isSome_some, Bool.true_or]
    exact ⟨fun _ => rfl, fun _ => asHeartbeat_sound (sound heartbeatId row stored) interval⟩

theorem delete_sound {rows next : Rows} (sound : Sound rows) {jobId : JobId}
    (done : delete rows jobId = some next) : Sound next ∧
      (((rows.get heartbeatId).isSome → (next.get heartbeatId).isSome) ↔
        (decide (jobId ≠ heartbeatId) || (rows.get jobId).isNone) = true) := by
  unfold delete at done
  cases stored : rows.get jobId with
  | none =>
    rw [stored] at done
    obtain rfl := Option.some.inj done
    simp [sound]
  | some row =>
    rw [stored] at done
    dsimp only at done
    split at done
    case isFalse => cases done
    case isTrue =>
      obtain rfl := Option.some.inj done
      refine ⟨sound.pop jobId, ?_⟩
      by_cases own : jobId = heartbeatId
      · subst own
        simp [stored]
      · simp [own, Dict.get_pop_ne rows own]

/-- The next firing after the end of a run is the instant its job is to fire at, if the
configuration names this instant and it has not come. -/
theorem Calendar.next_oneShot {calendar : Calendar} {row : JobRow}
    (oneShot : calendar.oneShot row = true) (firedAt instant : Instant) :
    row.nextAfter calendar.computeNextFireAt firedAt = some instant ↔
      calendar.runAt row.triggerConfig row.timezone = some instant ∧ firedAt < instant := by
  have kind := of_decide_eq_true oneShot
  unfold ScheduledJob.nextAfter Calendar.computeNextFireAt
  dsimp only
  rw [kind, if_neg (show "one_shot" ≠ "interval" by decide),
    if_neg (show "one_shot" ≠ "daily" by decide), if_pos rfl, Option.filter_eq_some_iff,
    decide_eq_true_eq]

theorem marked_keeps {calendar : Calendar} {row written : JobRow} {firedAt : Instant}
    (done : calendar.marked row firedAt = some written) :
    written.nextFireAt = row.nextAfter calendar.computeNextFireAt firedAt := by
  unfold Calendar.marked at done
  obtain ⟨next, computed, rfl⟩ := Option.map_eq_some_iff.mp done
  unfold Calendar.next at computed
  dsimp only at computed
  split at computed
  · exact (Option.some.inj computed).symm
  · cases computed

/-- The end of a run keeps the rows in order, and the instant its job was rescheduled to exactly
if that has not come. -/
theorem markFired_keeps_iff {calendar : Calendar} {core next : Core} (sound : Sound core.rows)
    {run : RunId} {firedAt : Instant}
    (taken : calendar.step core (.markFired run firedAt) = some next) :
    Keeps calendar core (.markFired run firedAt) next ↔
      calendar.orderly core (.markFired run firedAt) = true := by
  simp only [Calendar.step] at taken
  obtain ⟨running, active, ended⟩ := Option.bind_eq_some_iff.mp taken
  obtain ⟨rows, done, rfl⟩ := Option.map_eq_some_iff.mp ended
  have still : Sound rows :=
    rewrite_keeps sound (fun row written marked => Calendar.marked_sound marked running.jobId) done
  have present := rewrite_present done heartbeatId
  simp only [Calendar.orderly, active, Option.all_some]
  cases stored : core.rows.get running.jobId with
  | none =>
    refine ⟨fun _ => rfl, fun _ => ⟨still, present, ?_⟩⟩
    intro other at_ found row instant ends running' row'
    cases ends
    rw [active] at running'
    rw [← Option.some.inj running', stored] at row'
    cases row'
  | some row =>
    have written : ∃ later, calendar.marked row firedAt = some later ∧
        rows = core.rows.set running.jobId later := by
      unfold rewrite at done
      rw [stored] at done
      obtain ⟨later, marked, same⟩ := Option.map_eq_some_iff.mp done
      exact ⟨later, marked, same.symm⟩
    obtain ⟨later, marked, rfl⟩ := written
    have fires := marked_keeps marked
    rw [Option.all_some]
    unfold Calendar.endsBefore
    cases noted : running.rescheduledTo with
    | none =>
      refine ⟨fun _ => rfl, fun _ => ⟨still, present, ?_⟩⟩
      intro other at_ found row' instant ends running' _ _ set
      cases ends
      rw [active] at running'
      rw [← Option.some.inj running', noted] at set
      cases set
    | some instant =>
      dsimp only
      rw [Bool.or_eq_true, Bool.not_eq_true', ← Bool.not_eq_true, Bool.and_eq_true,
        Bool.and_eq_true, decide_eq_true_eq, decide_eq_true_eq, decide_eq_true_eq,
        ← imp_iff_not_or]
      constructor
      · rintro kept ⟨oneShot, due⟩
        obtain ⟨found, there, fired⟩ :=
          kept.reschedule run firedAt running row instant rfl active stored oneShot noted due
        rw [Dict.get_set_self] at there
        rw [← Option.some.inj there, fires] at fired
        exact (Calendar.next_oneShot oneShot firedAt instant).mp fired
      · intro before
        refine ⟨still, present, ?_⟩
        intro other at_ found row' set ends running' row'' oneShot noted' due
        cases ends
        rw [active] at running'
        obtain rfl := Option.some.inj running'
        rw [stored] at row''
        obtain rfl := Option.some.inj row''
        rw [noted] at noted'
        obtain rfl := Option.some.inj noted'
        refine ⟨later, Dict.get_set_self _ _ _, ?_⟩
        rw [fires]
        exact (Calendar.next_oneShot oneShot firedAt instant).mpr (before ⟨oneShot, due⟩)

/-- A call keeps the rows in order exactly if it is orderly. -/
theorem step_keeps_iff {calendar : Calendar} {core next : Core} {action : Action}
    (sound : Sound core.rows) (taken : calendar.step core action = some next) :
    Keeps calendar core action next ↔ calendar.orderly core action = true := by
  cases action with
  | createJob request now =>
    simp only [Calendar.step] at taken
    obtain ⟨rows, done, rfl⟩ := Option.map_eq_some_iff.mp taken
    obtain ⟨decided, present⟩ := createJob_sound sound done
    exact (keeps_iff (.createJob request now) (fun _ _ other => by cases other)
      (present heartbeatId)).trans decided
  | ensureSystemHeartbeat interval now =>
    simp only [Calendar.step] at taken
    obtain ⟨rows, done, rfl⟩ := Option.map_eq_some_iff.mp taken
    obtain ⟨decided, present⟩ := ensureSystemHeartbeat_sound sound done
    exact (keeps_iff (.ensureSystemHeartbeat interval now) (fun _ _ other => by cases other)
      (present heartbeatId)).trans decided
  | updateJob jobId updates now =>
    simp only [Calendar.step] at taken
    obtain ⟨rows, done, rfl⟩ := Option.map_eq_some_iff.mp taken
    rw [keeps_iff (.updateJob jobId updates now) (fun _ _ other => by cases other)
      (rewrite_present done heartbeatId)]
    exact rewrite_sound sound (fun row written held => Calendar.updated_sound held) done
  | updateInterval jobId interval now =>
    simp only [Calendar.step] at taken
    obtain ⟨positive, edited⟩ := Option.ite_none_left_eq_some.mp taken
    obtain ⟨rows, done, rfl⟩ := Option.map_eq_some_iff.mp edited
    rw [keeps_iff (.updateInterval jobId interval now) (fun _ _ other => by cases other)
      (rewrite_present done heartbeatId)]
    refine rewrite_sound sound (fun row written held computed => ?_) done
    rw [Calendar.scheduled_sound computed, withInterval_sound held (Int.not_le.mp positive),
      decide_eq_true_eq]
  | setEnabled jobId enabled =>
    simp only [Calendar.step] at taken
    obtain ⟨rows, done, rfl⟩ := Option.map_eq_some_iff.mp taken
    rw [keeps_iff (.setEnabled jobId enabled) (fun _ _ other => by cases other)
      (rewrite_present done heartbeatId)]
    refine ⟨fun _ => rfl, fun _ => rewrite_keeps sound (fun row written switched => ?_) done⟩
    exact Option.some.inj switched ▸ RowSound.congr rfl rfl rfl
  | deleteJob jobId =>
    simp only [Calendar.step] at taken
    obtain ⟨rows, done, rfl⟩ := Option.map_eq_some_iff.mp taken
    obtain ⟨still, decided⟩ := delete_sound sound done
    refine Iff.trans ⟨fun kept => kept.heartbeat, fun present => ?_⟩ decided
    exact ⟨still, present, fun _ _ _ _ _ other => by cases other⟩
  | ensureNextFireAt jobId now =>
    simp only [Calendar.step] at taken
    obtain ⟨rows, done, rfl⟩ := Option.map_eq_some_iff.mp taken
    rw [keeps_iff (.ensureNextFireAt jobId now) (fun _ _ other => by cases other)
      (rewrite_present done heartbeatId)]
    exact ⟨fun _ => rfl, fun _ => rewrite_keeps sound
      (fun row written filled => Calendar.fillNext_sound filled jobId) done⟩
  | startRun run jobId now leaseOwner =>
    simp only [Calendar.step] at taken
    split at taken
    case h_1 row idle stored =>
      obtain ⟨_, started⟩ := Option.ite_none_right_eq_some.mp taken
      obtain rfl := Option.some.inj started
      rw [keeps_iff (.startRun run jobId now leaseOwner) (fun _ _ other => by cases other)
        (isSome_set core.rows jobId heartbeatId _)]
      refine ⟨fun _ => rfl, fun _ => (sound.set_iff jobId _).mpr ?_⟩
      exact ⟨(sound jobId row stored).coherent, (sound jobId row stored).heartbeat⟩
    case h_2 => cases taken
  | failRun run =>
    simp only [Calendar.step] at taken
    obtain ⟨running, active, rfl⟩ := Option.map_eq_some_iff.mp taken
    have present : (core.rows.get heartbeatId).isSome →
        ((core.rows.revise running.jobId fun row =>
          { row with toScheduledJob := row.toScheduledJob.released }).get heartbeatId).isSome := by
      rw [Dict.get_revise]
      split
      case isTrue same => rw [same, Option.isSome_map]; exact id
      case isFalse => exact id
    rw [keeps_iff (.failRun run) (fun _ _ other => by cases other) present]
    refine ⟨fun _ => rfl, fun _ tested row found => ?_⟩
    rw [Dict.get_revise] at found
    split at found
    case isTrue same =>
      obtain ⟨old, stored, rfl⟩ := Option.map_eq_some_iff.mp found
      have held := sound tested old (same ▸ stored)
      exact ⟨held.coherent, held.heartbeat⟩
    case isFalse => exact sound tested row found
  | markFired run firedAt => exact markFired_keeps_iff sound taken

/-- Every call of a run leaves the rows in order, keeps the heartbeat and drops no instant that a
job was rescheduled to, exactly if every call is orderly. -/
theorem edits_keep_iff (calendar : Calendar) (core : Core) (sound : Sound core.rows)
    (actions : List Action) :
    Along calendar.step (fun core action => ∀ next, calendar.step core action = some next →
        Keeps calendar core action next) core actions ↔
      Taking calendar.step (fun core action => calendar.orderly core action = true) core actions :=
  @along_iff_taking Core Action calendar.step
    (fun core action => calendar.orderly core action = true) (fun core => Sound core.rows)
    (Keeps calendar) (fun _ _ _ _ _ kept => kept.sound)
    (fun _ _ _ held taken => step_keeps_iff held taken) core sound actions

/-! ## Two runs -/

/-- A clock that reads two dates, 20 seconds apart. -/
def twoDates : Calendar where
  str _ := ""
  parseIsoDatetime _ text :=
    if text = "2026-01-01T00:00:00+00:00" then some (seconds 1767225600)
    else if text = "2026-01-01T00:00:20+00:00" then some (seconds 1767225620)
    else none
  nextAt _ _ now := now
  cronNextAfter _ _ now := some (now + seconds 60)

def runAtConfig (runAt : String) : Fields :=
  Fields.of [("type", .str "one_shot"), ("run_at", .str runAt)]

/-- A job that is due once, at the first date. -/
def reportRow : JobRow where
  triggerType := "one_shot"
  triggerConfig := runAtConfig "2026-01-01T00:00:00+00:00"
  nextFireAt := some (seconds 1767225600)
  kind := "workflow"
  deletable := true
  actionRef := "core.workflow.assistant_turn"
  singletonKey := none
  details := Dict.empty

/-- A job with a cron expression. -/
def digestRow : JobRow where
  triggerType := "cron"
  triggerConfig := Fields.of [("type", .str "cron"), ("expression", .str "* * * * *")]
  kind := "workflow"
  deletable := true
  actionRef := "core.workflow.assistant_turn"
  singletonKey := none
  details := Dict.empty

def sampleRows : Rows :=
  ((Dict.empty.set heartbeatId (heartbeatRow 600)).set "report" reportRow).set "digest" digestRow

theorem sampleRows_sound : Sound sampleRows := by
  have empty : Sound Dict.empty := fun _ _ absent => nomatch absent
  have first := (empty.set_iff heartbeatId _).mpr ((heartbeatRow_sound 600).mpr (by decide))
  have second := (first.set_iff "report" reportRow).mpr
    ((rowSound_iff _ _).mpr ⟨by decide, fun other => absurd other (by decide)⟩)
  exact (second.set_iff "digest" digestRow).mpr
    ((rowSound_iff _ _).mpr ⟨by decide, fun other => absurd other (by decide)⟩)

/-- While the report runs, it is set to the second date; the run ends at the given second. -/
def rescheduledRun (ends : Int) : List Action :=
  [.startRun 1 "report" (seconds 1767225600) "core.scheduler.1",
    .updateJob "report" { Updates.none with
      triggerConfig := some (some (runAtConfig "2026-01-01T00:00:20+00:00")) }
      (seconds 1767225610),
    .markFired 1 (seconds ends)]

/-- The run that ends in time keeps the second date, and the heartbeat takes another interval. -/
theorem run_in_time_keeps : Along twoDates.step
    (fun core action => ∀ next, twoDates.step core action = some next →
      Keeps twoDates core action next) ⟨sampleRows, Dict.empty⟩
    (rescheduledRun 1767225615 ++ [.updateInterval heartbeatId 60 (seconds 1767225616)]) :=
  (edits_keep_iff twoDates ⟨sampleRows, Dict.empty⟩ sampleRows_sound _).mpr (by decide +kernel)

/-- The run that ends after the second date drops it, and a new interval leaves a cron job with a
configuration of another type. -/
theorem late_run_drops_instant :
    (¬ Along twoDates.step (fun core action => ∀ next, twoDates.step core action = some next →
        Keeps twoDates core action next) ⟨sampleRows, Dict.empty⟩ (rescheduledRun 1767225630)) ∧
      ¬ Along twoDates.step (fun core action => ∀ next, twoDates.step core action = some next →
        Keeps twoDates core action next) ⟨sampleRows, Dict.empty⟩
        [.updateInterval "digest" 60 (seconds 1767225600)] := by
  have decided := fun actions => @along_iff_taking Core Action twoDates.step
    (fun core action => twoDates.orderly core action = true) (fun core => Sound core.rows)
    (Keeps twoDates) (fun _ _ _ _ _ kept => kept.sound)
    (fun _ _ _ held taken => step_keeps_iff held taken) ⟨sampleRows, Dict.empty⟩ sampleRows_sound
    actions
  constructor
  · exact fun kept => absurd ((decided _).mp kept) (by decide +kernel)
  · exact fun kept => absurd ((decided _).mp kept) (by decide +kernel)

end MeetYou.ScheduleEdits
