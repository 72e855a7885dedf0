import MeetYou.CronSearch
import MeetYou.ScheduleEdits

/-!
# The next firing in a time zone

The next firing of a job is looked for in local time and read back as an instant. Where a time zone
repeats a stretch of local time, a later local time may be an earlier instant: the flag that tells
the two readings apart is lost when a length of time is added.

What a name of a time zone stands for is a parameter, like the text of a value and the reading of a
date.
-/

namespace MeetYou.ScheduleTime

open Text TimeZones CronSearch ScheduleEdits

/-! ## The calendar of a time zone -/

/-- A time of day as a length of time. -/
def timeOfDay (time : Nat × Nat) : Int := ((time.1 : Int) * 60 + time.2) * aMinute

/-- `local.replace(hour, minute)`: the time of day on the same local day. -/
def sameDay (time : Nat × Nat) (wall : Int) : Int := wall - wall % aDay + timeOfDay time

/-- The daily branch of `compute_next_fire_at`. The sum of two times has no fold flag. -/
def nextAt (zone : Zone) (time : Nat × Nat) (now : Instant) : Instant :=
  let candidate := sameDay time (zone.toLocal now)
  if candidate ≤ zone.toLocal now then zone.toInstant (candidate + aDay) false
  else zone.toInstant candidate (zone.foldAt now)

/-- The calendar with the time zones that the names stand for. -/
def calendarOf (str : Json → String) (parseIsoDatetime : String → String → Option Instant)
    (zoneOf : String → Zone) : Calendar where
  str := str
  parseIsoDatetime := parseIsoDatetime
  nextAt timezone time now := nextAt (zoneOf timezone) time now
  cronNextAfter timezone expression after := cronNextAfter expression (zoneOf timezone) after

theorem calendarOf_nextAt {str : Json → String}
    {parseIsoDatetime : String → String → Option Instant} {zoneOf : String → Zone}
    (timezone : String) (time : Nat × Nat) (now : Instant) :
    (calendarOf str parseIsoDatetime zoneOf).nextAt timezone time now =
      nextAt (zoneOf timezone) time now := rfl

theorem calendarOf_cronNextAfter {str : Json → String}
    {parseIsoDatetime : String → String → Option Instant} {zoneOf : String → Zone}
    (timezone expression : String) (after : Instant) :
    (calendarOf str parseIsoDatetime zoneOf).cronNextAfter timezone expression after =
      cronNextAfter expression (zoneOf timezone) after := rfl

/-- The time of day of a daily trigger. -/
def dailyTime (calendar : Calendar) (config : Fields) : Nat × Nat :=
  parseTimeOfDay (orElse ((calendar.timeOfDayValue config).getD "") "08:00")

/-- The expression of a cron trigger. -/
def cronText (calendar : Calendar) (config : Fields) : String :=
  strip (calendar.text (config.getOr "expression" (config.getOr "cron" (.str ""))))

/-! ## What keeps a trigger going forward -/

/-- No minute that the expression stands for lies behind the instant in local time and in the
stretch that the last change of the offset repeats. -/
def CronClear (zone : Zone) (expression : String) (after : Instant) : Prop :=
  ∀ fields, cronFields expression = some fields → ∀ wall, zone.toLocal after < wall →
    wall ≤ firstMinute (zone.toLocal after) + 366 * aDay → fields.Denotes countedStep wall →
      zone.Repeating after wall = false

/-- The time of day on the same day, if it is still to come, is not skipped by a change of the
offset in front of it while the instant has the flag. On the next day it does not lie in the
stretch that the last change of the offset repeats. -/
def DailyClear (zone : Zone) (time : Nat × Nat) (after : Instant) : Prop :=
  if zone.toLocal after < sameDay time (zone.toLocal after) then
    zone.foldAt after = true → zone.Skipping after (sameDay time (zone.toLocal after)) = false
  else zone.Repeating after (sameDay time (zone.toLocal after) + aDay) = false

/-- The condition for a trigger of any type. -/
def Clear (calendar : Calendar) (zone : Zone) (triggerType : String) (config : Fields)
    (after : Instant) : Prop :=
  (calendar.kind triggerType config = "daily" → DailyClear zone (dailyTime calendar config) after) ∧
    (calendar.kind triggerType config = "cron" → CronClear zone (cronText calendar config) after)

/-! ## The two searches -/

/-- What lies in the repeated stretch lies there with all that is earlier. -/
theorem repeating_earlier {zone : Zone} {instant earlier wall : Int} (before : earlier ≤ wall)
    (repeating : zone.Repeating instant wall = true) : zone.Repeating instant earlier = true := by
  unfold Zone.Repeating at *
  cases found : zone.last instant with
  | none =>
    rw [found] at repeating
    cases repeating
  | some last =>
    rw [found] at repeating
    simp only [Option.any_some, repeats, decide_eq_true_eq] at repeating ⊢
    omega

/-- The answers of the search are the minutes behind a local time that the expression stands
for. -/
theorem mem_answers_iff {expression : String} {fields : CronFields}
    (parsed : cronFields expression = some fields) {start wall : Int} :
    wall ∈ answers fields.hits (firstMinute start + 366 * aDay) (windowMinutes + 1)
        (firstMinute start) ↔
      start < wall ∧ wall ≤ firstMinute start + 366 * aDay ∧ fields.Denotes countedStep wall := by
  have same := @mem_firings fields 0 start wall (cronFields_words parsed)
  simp only [add_zero] at same
  rw [← same, firings]
  simp only [Set.mem_ofPred_eq, add_zero, sub_zero]

theorem cron_forward_iff (zone : Zone) (expression : String) (after : Instant) :
    (∀ next, cronNextAfter expression zone after = some next → after < next) ↔
      CronClear zone expression after := by
  unfold CronClear cronNextAfter
  cases parsed : cronFields expression with
  | none => simp
  | some fields =>
    have first := search_first fields.hits (firstMinute (zone.toLocal after) + 366 * aDay)
      (windowMinutes + 1) (firstMinute (zone.toLocal after))
    have denoted := @mem_answers_iff expression fields parsed (zone.toLocal after)
    simp only [CronFields.next]
    cases found : search fields.hits (firstMinute (zone.toLocal after) + 366 * aDay)
        (windowMinutes + 1) (firstMinute (zone.toLocal after)) with
    | none =>
      rw [found, Option.elim_none] at first
      refine iff_of_true (fun next answered => by cases answered) ?_
      intro fields' same wall behind inTime denotes
      obtain rfl := Option.some.inj same
      have answered := denoted.mpr ⟨behind, inTime, denotes⟩
      rw [first] at answered
      cases answered
    | some least =>
      rw [found, Option.elim_some] at first
      have ahead : zone.toLocal after < least := (denoted.mp first.1).1
      constructor
      · intro forward fields' same wall behind inTime denotes
        obtain rfl := Option.some.inj same
        have later := (Zone.later_unflagged ahead).mp (forward _ rfl)
        have order := first.2 (denoted.mpr ⟨behind, inTime, denotes⟩)
        rw [Bool.eq_false_iff] at later ⊢
        exact fun repeating => later (repeating_earlier order repeating)
      · intro clear next answered
        obtain rfl := Option.some.inj answered
        obtain ⟨behind, inTime, denotes⟩ := denoted.mp first.1
        exact (Zone.later_unflagged ahead).mpr (clear fields rfl least behind inTime denotes)

theorem daily_forward_iff (zone : Zone) {time : Nat × Nat} (after : Instant) :
    after < nextAt zone time after ↔ DailyClear zone time after := by
  unfold nextAt DailyClear
  by_cases ahead : zone.toLocal after < sameDay time (zone.toLocal after)
  · simp only [ahead, if_true, not_le.mpr ahead, if_false]
    cases flag : zone.foldAt after with
    | true => simpa using Zone.later_flagged ahead
    | false =>
      refine iff_of_true ((Zone.later_unflagged ahead).mpr ?_) (fun flagged => by cases flagged)
      by_contra repeating
      rw [Zone.foldAt_of_repeating ahead.le (by simpa using repeating)] at flag
      cases flag
  · simp only [ahead, if_false, not_lt.mp ahead, if_true]
    refine Zone.later_unflagged ?_
    unfold sameDay timeOfDay aDay aMinute
    omega

/-- The next firing is behind the instant it is computed for if and only if the trigger asks for no
local time that is read wrongly. -/
theorem next_firing_later (str : Json → String)
    (parseIsoDatetime : String → String → Option Instant) (zoneOf : String → Zone)
    (triggerType : String) (config : Fields) (timezone : String) (after : Instant) :
    (∀ next, (calendarOf str parseIsoDatetime zoneOf).computeNextFireAt triggerType config timezone
        after = some next → after < next) ↔
      Clear (calendarOf str parseIsoDatetime zoneOf) (zoneOf timezone) triggerType config
        after := by
  have daily := fun time => @daily_forward_iff (zoneOf timezone) time after
  have cron := fun expression => cron_forward_iff (zoneOf timezone) expression after
  unfold Clear Calendar.computeNextFireAt
  generalize (calendarOf str parseIsoDatetime zoneOf).kind triggerType config = kind
  dsimp only
  by_cases interval : kind = "interval"
  · subst interval
    rw [if_pos rfl]
    refine iff_of_true (fun next answered => ?_)
      ⟨fun other => absurd other (by decide), fun other => absurd other (by decide)⟩
    split at answered
    · next positive =>
      obtain rfl := Option.some.inj answered
      exact lt_add_of_pos_right after (mul_pos positive (by decide))
    · cases answered
  rw [if_neg interval]
  by_cases asksDaily : kind = "daily"
  · subst asksDaily
    rw [if_pos rfl, calendarOf_nextAt, ← dailyTime, ← daily]
    constructor
    · intro forward
      exact ⟨fun _ => forward _ rfl, fun other => absurd other (by decide)⟩
    · rintro ⟨clear, -⟩ next answered
      obtain rfl := Option.some.inj answered
      exact clear rfl
  rw [if_neg asksDaily]
  by_cases oneShot : kind = "one_shot"
  · subst oneShot
    rw [if_pos rfl]
    refine iff_of_true (fun next answered => ?_)
      ⟨fun other => absurd other (by decide), fun other => absurd other (by decide)⟩
    exact of_decide_eq_true (Option.filter_eq_some_iff.mp answered).2
  rw [if_neg oneShot]
  by_cases asksCron : kind = "cron"
  · subst asksCron
    rw [if_pos rfl, calendarOf_cronNextAfter, ← cronText, ← cron]
    exact ⟨fun forward => ⟨fun other => absurd other (by decide), fun _ => forward⟩,
      fun clear => clear.2 rfl⟩
  · rw [if_neg asksCron]
    exact iff_of_true (fun next answered => by cases answered)
      ⟨fun other => absurd other asksDaily, fun other => absurd other asksCron⟩

/-! ## An hour that is set back -/

/-- New York at the end of the summer time of 2024. -/
def newYork : Zone where
  before := -14400000000
  transitions := [⟨1730613600000000, -18000000000⟩]
  separate := trivial

/-- In the second pass of the repeated hour, the next minute is read in the first pass. -/
theorem repeated_hour_goes_back :
    ¬∀ next, (calendarOf (fun _ => "") (fun _ _ => none) fun _ => newYork).computeNextFireAt "cron"
      (Fields.of [("expression", .str "*/5 * * * *")]) "America/New_York" 1730615400000000 =
        some next → 1730615400000000 < next := by
  intro forward
  have fired : (calendarOf (fun _ => "") (fun _ _ => none) fun _ => newYork).computeNextFireAt
      "cron" (Fields.of [("expression", .str "*/5 * * * *")]) "America/New_York"
        1730615400000000 = some 1730612100000000 := by
    decide +kernel
  exact absurd (forward _ fired) (by decide)

end MeetYou.ScheduleTime
