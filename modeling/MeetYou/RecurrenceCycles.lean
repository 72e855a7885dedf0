import Mathlib.Order.Bounds.Basic
import MeetYou.Foundation.Months
import MeetYou.Foundation.ShownTimes
import MeetYou.ScheduleTime

/-!
# Cycles of a recurring task

A recurring task is due at the local times that match its recurrence. Its cycle at an instant runs
from the last of them to the next one: a completion in between counts for it. One function looks
back from the instant and another one looks ahead, both in local time, and both read the local time
they find with the flag they have at hand.

A time of day that is moved to another hour keeps the flag of the instant; a length of time that is
added drops it.
-/

namespace MeetYou.RecurrenceCycles

open TimeZones Months CronSearch ScheduleTime

/-- A second, in microseconds. -/
def aSecond : Int := 1000000

/-- An hour, in microseconds. -/
def anHour : Int := 3600000000

/-- A time zone as `ZoneInfo` has it: its offsets are whole seconds. -/
structure ClockZone extends Zone where
  beforeWhole : aSecond ∣ before
  offsetsWhole : ∀ transition ∈ transitions, aSecond ∣ transition.offset

/-- A recurrence as `_normalize_recurrence` leaves it. -/
inductive Recurrence
  | daily (hour : Fin 24) (minute : Fin 60)
  | weekly (weekday : Fin 7) (hour : Fin 24) (minute : Fin 60)
  | monthly (day : { day : Nat // 1 ≤ day ∧ day ≤ 31 }) (hour : Fin 24) (minute : Fin 60)
  | hourly (minute : Fin 60)

/-! ## Local times -/

/-- A local time with the flag that tells its two readings apart. -/
structure Local where
  wall : Int
  fold : Bool

/-- `reference.astimezone(zone)` -/
def localTime (zone : ClockZone) (reference : Int) : Local :=
  ⟨zone.toLocal reference, zone.foldAt reference⟩

/-- `astimezone(timezone.utc)` -/
def Local.instant (zone : ClockZone) (candidate : Local) : Int :=
  zone.toInstant candidate.wall candidate.fold

/-- `replace(hour=hour, minute=minute, second=0, microsecond=0)` -/
def Local.withTime (candidate : Local) (hour : Fin 24) (minute : Fin 60) : Local :=
  { candidate with wall := sameDay (hour, minute) candidate.wall }

/-- `replace(minute=minute, second=0, microsecond=0)` -/
def Local.withMinute (candidate : Local) (minute : Fin 60) : Local :=
  { candidate with wall := candidate.wall - candidate.wall % anHour + minute * aMinute }

/-- `replace(year=year, month=month, day=day)` -/
def Local.onDate (candidate : Local) (month day : Int) : Local :=
  { candidate with wall := (monthStart month + day - 1) * aDay + candidate.wall % aDay }

/-- The sum of a local time and a length of time has no flag. -/
def Local.plus (candidate : Local) (delta : Int) : Local := ⟨candidate.wall + delta, false⟩

/-- `weekday()`, where Monday is 0. -/
def weekdayOf (wall : Int) : Int := (toordinal wall + 6) % 7

/-- The month of a local time; a month is numbered `year * 12 + (month - 1)`. -/
def monthOfWall (wall : Int) : Int := Months.monthOf (wall / aDay)

/-- `_month_shift` -/
def monthShift (month delta : Int) : Int := month + delta

/-- `max(1, min(day, max_day))`, where `max_day` is the last day of the month. -/
def clampedDay (day : Nat) (month : Int) : Int := max 1 (min (day : Int) (monthLength month))

/-! ## The two searches -/

/-- The local time that `_recurrence_occurrence_at_or_before` finds. -/
def occurrenceLocal (recurrence : Recurrence) (localReference : Local) : Local :=
  match recurrence with
  | .daily hour minute =>
      let candidate := localReference.withTime hour minute
      if localReference.wall < candidate.wall then candidate.plus (-aDay) else candidate
  | .weekly weekday hour minute =>
      let daysBack := (weekdayOf localReference.wall - weekday) % 7
      let candidate := (localReference.withTime hour minute).plus (-(daysBack * aDay))
      if localReference.wall < candidate.wall then candidate.plus (-(7 * aDay)) else candidate
  | .monthly day hour minute =>
      let month := monthOfWall localReference.wall
      let candidate := (localReference.withTime hour minute).onDate month (clampedDay day month)
      if localReference.wall < candidate.wall then
        let month := monthShift month (-1)
        candidate.onDate month (clampedDay day month)
      else candidate
  | .hourly minute =>
      let candidate := localReference.withMinute minute
      if localReference.wall < candidate.wall then
        (candidate.plus (-anHour)).withMinute minute
      else candidate

/-- `_recurrence_occurrence_at_or_before` -/
def recurrenceOccurrenceAtOrBefore (zone : ClockZone) (recurrence : Recurrence)
    (reference : Int) : Int :=
  (occurrenceLocal recurrence (localTime zone reference)).instant zone

/-- `candidate < local_reference or (candidate == local_reference and not inclusive)` -/
def Local.passed (candidate localReference : Local) (inclusive : Bool) : Bool :=
  decide (candidate.wall < localReference.wall) ||
    (decide (candidate.wall = localReference.wall) && !inclusive)

/-- The local time that `_next_run_from_recurrence` finds. -/
def nextLocal (recurrence : Recurrence) (localReference : Local) (inclusive : Bool) : Local :=
  match recurrence with
  | .daily hour minute =>
      let candidate := localReference.withTime hour minute
      if candidate.passed localReference inclusive then candidate.plus aDay else candidate
  | .weekly weekday hour minute =>
      let daysAhead := (weekday - weekdayOf localReference.wall) % 7
      let candidate := (localReference.withTime hour minute).plus (daysAhead * aDay)
      if candidate.passed localReference inclusive then candidate.plus (7 * aDay) else candidate
  | .monthly day hour minute =>
      let month := monthOfWall localReference.wall
      let candidate := (localReference.withTime hour minute).onDate month (clampedDay day month)
      if candidate.passed localReference inclusive then
        let month := monthShift month 1
        candidate.onDate month (clampedDay day month)
      else candidate
  | .hourly minute =>
      let candidate := localReference.withMinute minute
      if candidate.passed localReference inclusive then
        (candidate.plus anHour).withMinute minute
      else candidate

/-- `_dt_to_iso`, as the instant that its text stands for. -/
def dtToIso (value : Int) : Int := value / aSecond * aSecond

/-- `_next_run_from_recurrence` -/
def nextRunFromRecurrence (zone : ClockZone) (recurrence : Recurrence) (now : Int)
    (inclusive : Bool) : Int :=
  dtToIso ((nextLocal recurrence (localTime zone now) inclusive).instant zone)

/-- `_timestamp_in_window` -/
def timestampInWindow (timestamp start finish : Option Int) : Bool :=
  match timestamp, start with
  | some timestamp, some start =>
      if timestamp < start then false
      else
        match finish with
        | none => true
        | some finish => decide (timestamp < finish)
  | _, _ => false

/-- The cycle in the answer of `_schedule_state`: none in front of the first occurrence behind the
anchor. -/
def scheduleCycle (zone : ClockZone) (recurrence : Recurrence) (anchor current : Int) :
    Option (Int × Int) :=
  let firstOccurrence := nextRunFromRecurrence zone recurrence anchor true
  let latestDue := recurrenceOccurrenceAtOrBefore zone recurrence current
  if latestDue < firstOccurrence then none
  else some (latestDue, nextRunFromRecurrence zone recurrence latestDue false)

/-! ## What the searches look for -/

/-- A local time matches a recurrence. A day that the month does not have is its last day. -/
def Recurrence.Matches : Recurrence → Int → Prop
  | .daily hour minute, wall => wall % aDay = timeOfDay (hour, minute)
  | .weekly weekday hour minute, wall =>
      wall % aDay = timeOfDay (hour, minute) ∧ weekdayOf wall = weekday
  | .monthly day hour minute, wall =>
      wall % aDay = timeOfDay (hour, minute) ∧
        wall / aDay + 1 = monthStart (monthOfWall wall) +
          min (day : Int) (monthLength (monthOfWall wall))
  | .hourly minute, wall => wall % anHour = minute * aMinute

/-- The flag stays with a time on the same day or in the same hour, and in another month. -/
def Recurrence.keeps : Recurrence → Int → Int → Bool
  | .daily _ _, reference, wall => decide (reference / aDay = wall / aDay)
  | .weekly _ _ _, _, _ => false
  | .monthly _ _ _, _, _ => true
  | .hourly _, reference, wall => decide (reference / anHour = wall / anHour)

/-- The last matching local time up to a local time, and the first one behind it. -/
structure Surrounds (recurrence : Recurrence) (wall last next : Int) : Prop where
  last : IsGreatest { time | recurrence.Matches time ∧ time ≤ wall } last
  next : IsLeast { time | recurrence.Matches time ∧ wall < time } next

/-- A time of day is a whole minute of one day. -/
theorem timeOfDay_bounds (hour : Fin 24) (minute : Fin 60) :
    0 ≤ timeOfDay (hour, minute) ∧ timeOfDay (hour, minute) < aDay ∧
      timeOfDay (hour, minute) % aMinute = 0 := by
  have hours := hour.isLt
  have minutes := minute.isLt
  simp only [timeOfDay, aDay, aMinute]
  omega

/-- A search for a later time has passed every time up to the reference. -/
@[simp] theorem passed_exclusive (candidate reference : Local) :
    candidate.passed reference false = decide (candidate.wall ≤ reference.wall) := by
  rw [Local.passed, Bool.not_false, Bool.and_true, ← Bool.decide_or]
  exact decide_eq_decide.mpr (by omega)

/-- Two neighbouring matches with the time between them surround it. -/
theorem Surrounds.intro {recurrence : Recurrence} {wall last next : Int}
    (matched : recurrence.Matches last) (further : recurrence.Matches next)
    (gap : ∀ time, recurrence.Matches time → time ≤ last ∨ next ≤ time)
    (notBehind : last ≤ wall) (ahead : wall < next) : Surrounds recurrence wall last next := by
  constructor
  · refine ⟨⟨matched, notBehind⟩, ?_⟩
    rintro time ⟨matches_, upTo⟩
    have apart := gap time matches_
    omega
  · refine ⟨⟨further, ahead⟩, ?_⟩
    rintro time ⟨matches_, behind⟩
    have apart := gap time matches_
    omega

/-! ## Days, weeks and hours -/

/-- A recurrence with a period: the next matching local time is a period later. -/
structure Periodic (recurrence : Recurrence) (period : Int) : Prop where
  further : ∀ time, recurrence.Matches (time + period) ↔ recurrence.Matches time
  gap : ∀ first time, recurrence.Matches first → recurrence.Matches time →
    time ≤ first ∨ first + period ≤ time

section
variable {recurrence : Recurrence} {period wall time : Int}

/-- Of a periodic recurrence, a match within one period below and the next one surround a time. -/
theorem Periodic.surrounds_last (periodic : Periodic recurrence period)
    (matched : recurrence.Matches time) (notBehind : time ≤ wall) (ahead : wall < time + period) :
    Surrounds recurrence wall time (time + period) :=
  .intro matched ((periodic.further time).mpr matched)
    (fun other => periodic.gap time other matched) notBehind ahead

/-- So do a match within one period above and the one before it. -/
theorem Periodic.surrounds_next (periodic : Periodic recurrence period)
    (matched : recurrence.Matches time) (notBehind : time + -period ≤ wall) (ahead : wall < time) :
    Surrounds recurrence wall (time + -period) time := by
  have back : time + -period + period = time := by omega
  have earlier : recurrence.Matches (time + -period) := by
    rw [← periodic.further, back]
    exact matched
  have around := periodic.surrounds_last earlier notBehind (by rw [back]; exact ahead)
  rw [back] at around
  exact around

end

/-- A time of day comes back every day. -/
theorem daily_periodic (hour : Fin 24) (minute : Fin 60) : Periodic (.daily hour minute) aDay := by
  constructor
  · intro time
    simp only [Recurrence.Matches, aDay]
    omega
  · intro first time matched other
    simp only [Recurrence.Matches, aDay] at matched other ⊢
    omega

/-- A time of a weekday comes back every seven days. -/
theorem weekly_periodic (weekday : Fin 7) (hour : Fin 24) (minute : Fin 60) :
    Periodic (.weekly weekday hour minute) (7 * aDay) := by
  constructor
  · intro time
    simp only [Recurrence.Matches, weekdayOf, toordinal, aDay]
    omega
  · intro first time matched other
    simp only [Recurrence.Matches, weekdayOf, toordinal, aDay] at matched other ⊢
    omega

/-- A minute comes back every hour. -/
theorem hourly_periodic (minute : Fin 60) : Periodic (.hourly minute) anHour := by
  constructor
  · intro time
    simp only [Recurrence.Matches, anHour, aMinute]
    omega
  · intro first time matched other
    simp only [Recurrence.Matches, anHour, aMinute] at matched other ⊢
    omega

/-- A time of day on the day of a local time. -/
theorem withTime_spec (reference : Local) (hour : Fin 24) (minute : Fin 60) :
    (reference.withTime hour minute).wall % aDay = timeOfDay (hour, minute) ∧
      (reference.withTime hour minute).wall / aDay = reference.wall / aDay := by
  obtain ⟨least, greatest, _⟩ := timeOfDay_bounds hour minute
  have today : (reference.withTime hour minute).wall =
    reference.wall - reference.wall % aDay + timeOfDay (hour, minute) := rfl
  unfold aDay at *
  omega

/-- The two searches for a daily recurrence find the times around the reference. -/
theorem daily_surrounds (hour : Fin 24) (minute : Fin 60) (reference : Local) :
    Surrounds (.daily hour minute) reference.wall
      (occurrenceLocal (.daily hour minute) reference).wall
      (nextLocal (.daily hour minute) reference false).wall := by
  have periodic := daily_periodic hour minute
  obtain ⟨matched, today⟩ := withTime_spec reference hour minute
  unfold occurrenceLocal nextLocal
  dsimp only
  generalize reference.withTime hour minute = candidate at matched today ⊢
  by_cases ahead : reference.wall < candidate.wall
  · rw [if_pos ahead, if_neg (by simpa using ahead)]
    refine periodic.surrounds_next matched ?_ ahead
    unfold aDay at *
    omega
  · rw [if_neg ahead, if_pos (by simpa using ahead)]
    refine periodic.surrounds_last matched (by omega) ?_
    unfold aDay at *
    omega

/-- So do those for a weekly one, which step by a week after they have found the weekday. -/
theorem weekly_surrounds (weekday : Fin 7) (hour : Fin 24) (minute : Fin 60)
    (reference : Local) :
    Surrounds (.weekly weekday hour minute) reference.wall
      (occurrenceLocal (.weekly weekday hour minute) reference).wall
      (nextLocal (.weekly weekday hour minute) reference false).wall := by
  have periodic := weekly_periodic weekday hour minute
  obtain ⟨matched, today⟩ := withTime_spec reference hour minute
  have weekdays := weekday.isLt
  unfold occurrenceLocal nextLocal
  dsimp only
  generalize reference.withTime hour minute = candidate at matched today ⊢
  set daysBack := (weekdayOf reference.wall - weekday) % 7 with back
  set daysAhead := (weekday - weekdayOf reference.wall) % 7 with forth
  have opposite : daysBack = 0 ∧ daysAhead = 0 ∨
      0 < daysBack ∧ daysBack < 7 ∧ daysAhead = 7 - daysBack := by
    omega
  have onWeekday : (Recurrence.weekly weekday hour minute).Matches
      (candidate.plus (-(daysBack * aDay))).wall := by
    simp only [Recurrence.Matches, Local.plus, weekdayOf, toordinal, aDay] at *
    omega
  by_cases ahead : reference.wall < (candidate.plus (-(daysBack * aDay))).wall
  · have same : candidate.plus (daysAhead * aDay) = candidate.plus (-(daysBack * aDay)) := by
      simp only [Local.plus, Local.mk.injEq, and_true, aDay] at *
      omega
    rw [same, if_pos ahead, if_neg (by simpa using ahead)]
    refine periodic.surrounds_next onWeekday ?_ ahead
    simp only [Local.plus, aDay] at *
    omega
  · rw [if_neg ahead]
    by_cases ended : (candidate.plus (daysAhead * aDay)).wall ≤ reference.wall
    · have same : candidate.plus (daysAhead * aDay) = candidate.plus (-(daysBack * aDay)) := by
        simp only [Local.plus, Local.mk.injEq, and_true, aDay] at *
        omega
      rw [if_pos (by simpa using ended), same]
      refine periodic.surrounds_last onWeekday (by omega) ?_
      simp only [Local.plus, aDay] at *
      omega
    · have later : (candidate.plus (daysAhead * aDay)).wall =
          (candidate.plus (-(daysBack * aDay))).wall + 7 * aDay := by
        simp only [Local.plus, aDay] at *
        omega
      rw [if_neg (by simpa using ended), later]
      refine periodic.surrounds_last onWeekday (by omega) ?_
      omega

/-- A minute in the hour of a local time. -/
theorem withMinute_spec (reference : Local) (minute : Fin 60) :
    (reference.withMinute minute).wall % anHour = minute * aMinute ∧
      (reference.withMinute minute).wall / anHour = reference.wall / anHour := by
  have minutes := minute.isLt
  simp only [Local.withMinute, anHour, aMinute]
  omega

/-- A time at the minute is not moved by setting it. -/
theorem withMinute_self {candidate : Local} {minute : Fin 60}
    (there : candidate.wall % anHour = minute * aMinute) :
    candidate.withMinute minute = candidate := by
  have same : candidate.wall - candidate.wall % anHour + minute * aMinute = candidate.wall := by
    omega
  rw [Local.withMinute, same]

/-- So do those for an hourly one. -/
theorem hourly_surrounds (minute : Fin 60) (reference : Local) :
    Surrounds (.hourly minute) reference.wall
      (occurrenceLocal (.hourly minute) reference).wall
      (nextLocal (.hourly minute) reference false).wall := by
  have periodic := hourly_periodic minute
  obtain ⟨matched, thisHour⟩ := withMinute_spec reference minute
  unfold occurrenceLocal nextLocal
  dsimp only
  generalize reference.withMinute minute = candidate at matched thisHour ⊢
  by_cases ahead : reference.wall < candidate.wall
  · have there : (candidate.plus (-anHour)).wall % anHour = minute * aMinute := by
      simp only [Local.plus, anHour] at *
      omega
    rw [if_pos ahead, if_neg (by simpa using ahead), withMinute_self there]
    refine periodic.surrounds_next matched ?_ ahead
    unfold anHour at *
    omega
  · have there : (candidate.plus anHour).wall % anHour = minute * aMinute := by
      simp only [Local.plus, anHour] at *
      omega
    rw [if_neg ahead, if_pos (by simpa using ahead), withMinute_self there]
    refine periodic.surrounds_last matched (by omega) ?_
    unfold anHour at *
    omega

/-! ## Months -/

section
variable {day : { day : Nat // 1 ≤ day ∧ day ≤ 31 }} {hour : Fin 24} {minute : Fin 60}

/-- The day that stands for a day of a month is a day of that month. -/
theorem clampedDay_bounds (day : Nat) (month : Int) :
    1 ≤ clampedDay day month ∧ clampedDay day month ≤ monthLength month := by
  have length := monthLength_bounds month
  unfold clampedDay
  omega

/-- The date of a local time in a month, at the same time of day. -/
theorem onDate_spec (candidate : Local) (day : Nat) (month : Int) :
    (candidate.onDate month (clampedDay day month)).wall % aDay = candidate.wall % aDay ∧
      (candidate.onDate month (clampedDay day month)).wall / aDay + 1 =
        monthStart month + clampedDay day month ∧
      monthOfWall (candidate.onDate month (clampedDay day month)).wall = month := by
  have date : (candidate.onDate month (clampedDay day month)).wall / aDay + 1 =
      monthStart month + clampedDay day month := by
    simp only [Local.onDate, aDay]
    omega
  have bounds := clampedDay_bounds day month
  refine ⟨?_, date, monthOf_unique ?_ ?_⟩
  · simp only [Local.onDate, aDay]
    omega
  · omega
  · rw [monthStart_next]
    omega

/-- The day of a month with the time of day is a match. -/
theorem onDate_matches {candidate : Local}
    (there : candidate.wall % aDay = timeOfDay (hour, minute)) (month : Int) :
    (Recurrence.monthly day hour minute).Matches
      (candidate.onDate month (clampedDay day month)).wall := by
  obtain ⟨time, date, inMonth⟩ := onDate_spec candidate day month
  have length := monthLength_bounds month
  have first := day.property.1
  refine ⟨time.trans there, ?_⟩
  rw [inMonth, date, clampedDay]
  omega

/-- The dates of a monthly recurrence are in the order of their months. -/
theorem monthly_order {first second : Int}
    (matched : (Recurrence.monthly day hour minute).Matches first)
    (other : (Recurrence.monthly day hour minute).Matches second)
    (months : monthOfWall first ≤ monthOfWall second) : first ≤ second := by
  obtain ⟨time, date⟩ := matched
  obtain ⟨time', date'⟩ := other
  rcases months.eq_or_lt with same | earlier
  · rw [same] at date
    unfold aDay at *
    omega
  · have ended := (monthOf_spec (first / aDay)).2
    have started := (monthOf_spec (second / aDay)).1
    have apart : monthStart (monthOfWall first + 1) ≤ monthStart (monthOfWall second) :=
      monthStart_strictMono.monotone (by omega)
    unfold monthOfWall aDay at *
    omega

/-- Between the matches of two neighbouring months there is none. -/
theorem monthly_gap {first second : Int}
    (matched : (Recurrence.monthly day hour minute).Matches first)
    (other : (Recurrence.monthly day hour minute).Matches second)
    (months : monthOfWall second = monthOfWall first + 1) (time : Int)
    (third : (Recurrence.monthly day hour minute).Matches time) : time ≤ first ∨ second ≤ time := by
  by_cases early : monthOfWall time ≤ monthOfWall first
  · exact .inl (monthly_order third matched early)
  · exact .inr (monthly_order other third (by omega))

/-- The two searches for a monthly recurrence find the times around the reference, though months
differ in length. -/
theorem monthly_surrounds (reference : Local) :
    Surrounds (.monthly day hour minute) reference.wall
      (occurrenceLocal (.monthly day hour minute) reference).wall
      (nextLocal (.monthly day hour minute) reference false).wall := by
  have there := (withTime_spec reference hour minute).1
  obtain ⟨started, notOver⟩ := monthOf_spec (reference.wall / aDay)
  unfold occurrenceLocal nextLocal monthShift
  dsimp only
  change monthStart (monthOfWall reference.wall) ≤ _ at started
  change _ < monthStart (monthOfWall reference.wall + 1) at notOver
  generalize monthOfWall reference.wall = month at started notOver ⊢
  have matched := @onDate_matches day hour minute _ there month
  obtain ⟨time, date, inMonth⟩ := onDate_spec (reference.withTime hour minute) day month
  generalize (reference.withTime hour minute).onDate month (clampedDay day month) = candidate at *
  rw [there] at time
  by_cases ahead : reference.wall < candidate.wall
  · rw [if_pos ahead, if_neg (by simpa using ahead)]
    obtain ⟨_, date', inMonth'⟩ := onDate_spec candidate day (month + -1)
    have earlier := @onDate_matches day hour minute _ time (month + -1)
    refine .intro earlier matched (monthly_gap earlier matched (by omega)) ?_ ahead
    have bounds := clampedDay_bounds day (month + -1)
    have next := monthStart_next (month + -1)
    rw [Int.neg_add_cancel_right] at next
    unfold aDay at *
    omega
  · rw [if_neg ahead, if_pos (by simpa using ahead)]
    obtain ⟨_, date', inMonth'⟩ := onDate_spec candidate day (month + 1)
    have later := @onDate_matches day hour minute _ time (month + 1)
    refine .intro matched later (monthly_gap matched later (by omega)) (by omega) ?_
    have bounds := clampedDay_bounds day (month + 1)
    unfold aDay at *
    omega

end

/-- The two searches find the last matching local time and the next one. -/
theorem searches_surround (recurrence : Recurrence) (reference : Local) :
    Surrounds recurrence reference.wall (occurrenceLocal recurrence reference).wall
      (nextLocal recurrence reference false).wall := by
  cases recurrence with
  | daily hour minute => exact daily_surrounds hour minute reference
  | weekly weekday hour minute => exact weekly_surrounds weekday hour minute reference
  | monthly day hour minute => exact monthly_surrounds reference
  | hourly minute => exact hourly_surrounds minute reference

/-! ## The flags they keep -/

/-- The day before and the day behind are other days. -/
theorem daily_keeps_not {hour : Fin 24} {minute : Fin 60} {reference candidate : Local}
    (today : candidate.wall / aDay = reference.wall / aDay) {delta : Int}
    (shifted : delta = aDay ∨ delta = -aDay) :
    (Recurrence.daily hour minute).keeps reference.wall (candidate.plus delta).wall = false := by
  apply decide_eq_false
  simp only [Local.plus, aDay] at *
  omega

/-- The hour before and the hour behind are other hours. -/
theorem hourly_keeps_not {minute : Fin 60} {reference : Local} {delta : Int}
    (shifted : delta = anHour ∨ delta = -anHour) :
    (Recurrence.hourly minute).keeps reference.wall
      (((reference.withMinute minute).plus delta).withMinute minute).wall = false := by
  obtain ⟨matched, thisHour⟩ := withMinute_spec reference minute
  have there : ((reference.withMinute minute).plus delta).wall % anHour = minute * aMinute := by
    simp only [Local.plus, anHour] at *
    omega
  rw [withMinute_self there]
  apply decide_eq_false
  simp only [Local.plus, anHour] at *
  omega

/-- The search back keeps the flag with the time it finds. -/
theorem occurrence_fold (recurrence : Recurrence) (reference : Local) :
    (occurrenceLocal recurrence reference).fold =
      (recurrence.keeps reference.wall (occurrenceLocal recurrence reference).wall &&
        reference.fold) := by
  cases recurrence with
  | daily hour minute =>
    have today := (withTime_spec reference hour minute).2
    simp only [occurrenceLocal]
    split
    · rw [daily_keeps_not today (.inr rfl)]
      rfl
    · rw [Recurrence.keeps, decide_eq_true today.symm]
      rfl
  | weekly weekday hour minute =>
    simp only [occurrenceLocal, Recurrence.keeps, Bool.false_and]
    split
    · rfl
    · rfl
  | monthly day hour minute =>
    simp only [occurrenceLocal, Recurrence.keeps, Bool.true_and]
    split
    · rfl
    · rfl
  | hourly minute =>
    have thisHour := (withMinute_spec reference minute).2
    simp only [occurrenceLocal]
    split
    · rw [hourly_keeps_not (.inr rfl)]
      rfl
    · rw [Recurrence.keeps, decide_eq_true thisHour.symm]
      rfl

/-- The search ahead keeps the flag with the time it finds. -/
theorem next_fold (recurrence : Recurrence) (reference : Local) :
    (nextLocal recurrence reference false).fold =
      (recurrence.keeps reference.wall (nextLocal recurrence reference false).wall &&
        reference.fold) := by
  cases recurrence with
  | daily hour minute =>
    have today := (withTime_spec reference hour minute).2
    simp only [nextLocal]
    split
    · rw [daily_keeps_not today (.inl rfl)]
      rfl
    · rw [Recurrence.keeps, decide_eq_true today.symm]
      rfl
  | weekly weekday hour minute =>
    simp only [nextLocal, Recurrence.keeps, Bool.false_and]
    split
    · rfl
    · rfl
  | monthly day hour minute =>
    simp only [nextLocal, Recurrence.keeps, Bool.true_and]
    split
    · rfl
    · rfl
  | hourly minute =>
    have thisHour := (withMinute_spec reference minute).2
    simp only [nextLocal]
    split
    · rw [hourly_keeps_not (.inl rfl)]
      rfl
    · rw [Recurrence.keeps, decide_eq_true thisHour.symm]
      rfl

/-! ## Whole seconds -/

/-- An offset is a whole number of seconds where all offsets are. -/
theorem offsetWhere_whole {passed : Int → Transition → Bool} {before : Int}
    {transitions : List Transition} (beforeWhole : aSecond ∣ before)
    (offsetsWhole : ∀ transition ∈ transitions, aSecond ∣ transition.offset) :
    aSecond ∣ offsetWhere passed before transitions := by
  induction transitions generalizing before with
  | nil => exact beforeWhole
  | cons transition rest inductionHypothesis =>
    rw [offsetWhere_cons]
    split
    · exact inductionHypothesis (offsetsWhole transition List.mem_cons_self)
        fun other member => offsetsWhole other (List.mem_cons_of_mem transition member)
    · exact beforeWhole

/-- A match is a whole second. -/
theorem Recurrence.Matches.whole {recurrence : Recurrence} {wall : Int}
    (matched : recurrence.Matches wall) : aSecond ∣ wall := by
  cases recurrence with
  | daily hour minute =>
    have whole := (timeOfDay_bounds hour minute).2.2
    simp only [Recurrence.Matches, aSecond, aDay, aMinute] at *
    omega
  | weekly weekday hour minute =>
    have whole := (timeOfDay_bounds hour minute).2.2
    have time := matched.1
    simp only [aSecond, aDay, aMinute] at *
    omega
  | monthly day hour minute =>
    have whole := (timeOfDay_bounds hour minute).2.2
    have time := matched.1
    simp only [aSecond, aDay, aMinute] at *
    omega
  | hourly minute =>
    simp only [Recurrence.Matches, aSecond, anHour, aMinute] at *
    omega

/-- The text of a matching time loses no part of a second. -/
theorem dtToIso_reading (zone : ClockZone) {recurrence : Recurrence} {wall : Int}
    (matched : recurrence.Matches wall) (fold : Bool) :
    dtToIso (zone.toInstant wall fold) = zone.toInstant wall fold := by
  have offset : aSecond ∣ zone.offsetOf wall fold :=
    offsetWhere_whole zone.beforeWhole zone.offsetsWhole
  exact Int.ediv_mul_cancel (Int.dvd_sub matched.whole offset)

/-! ## Cycles -/

/-- The bounds of the cycle of `_schedule_state`. -/
def cycleStart (zone : ClockZone) (recurrence : Recurrence) (current : Int) : Int :=
  recurrenceOccurrenceAtOrBefore zone recurrence current

/-- The end of the cycle at an instant, the next run behind its start. -/
def cycleEnd (zone : ClockZone) (recurrence : Recurrence) (current : Int) : Int :=
  nextRunFromRecurrence zone recurrence (cycleStart zone recurrence current) false

/-- An occurrence is an instant that one of the two searches finds, whatever instant it looks
from. -/
def Occurs (zone : ClockZone) (recurrence : Recurrence) (instant : Int) : Prop :=
  ∃ reference, recurrenceOccurrenceAtOrBefore zone recurrence reference = instant ∨
    nextRunFromRecurrence zone recurrence reference false = instant

/-- The cycle at an instant holds it, holds no occurrence but its start, and ends with the next run
from the instant: a completion at the instant counts for the cycle that is reported there. -/
structure Tiles (zone : ClockZone) (recurrence : Recurrence) (current : Int) : Prop where
  begun : cycleStart zone recurrence current ≤ current
  notOver : current < cycleEnd zone recurrence current
  alone : ∀ instant, Occurs zone recurrence instant →
    ¬(cycleStart zone recurrence current < instant ∧ instant < cycleEnd zone recurrence current)
  agrees : nextRunFromRecurrence zone recurrence current false = cycleEnd zone recurrence current
  counted : ∀ anchor start finish,
    scheduleCycle zone recurrence anchor current = some (start, finish) →
      timestampInWindow (some current) (some start) (some finish) = true

/-- The instant the search back reads a time as. -/
def startOf (zone : ClockZone) (recurrence : Recurrence) (current last : Int) : Int :=
  zone.toInstant last (recurrence.keeps (zone.toLocal current) last && zone.foldAt current)

/-- At the reading of the last time, the clock shows a local time from that time on and in front of
the next one. -/
def Stays (zone : ClockZone) (recurrence : Recurrence) (current last next : Int) : Prop :=
  last ≤ zone.toLocal (startOf zone recurrence current last) ∧
    zone.toLocal (startOf zone recurrence current last) < next

/-- The search ahead keeps a flag with a time. -/
def flagAhead (zone : ClockZone) (recurrence : Recurrence) (current next : Int) : Bool :=
  recurrence.keeps (zone.toLocal current) next && zone.foldAt current

/-- The instant the search ahead reads a time as. -/
def endOf (zone : ClockZone) (recurrence : Recurrence) (current next : Int) : Int :=
  zone.toInstant next (flagAhead zone recurrence current next)

/-- What keeps the clock from coming between the two searches, for the matching times around an
instant. -/
structure Clear (zone : ClockZone) (recurrence : Recurrence) (current last next : Int) :
    Prop where
  /-- The last time is read with the flag, or the instant is not in front of its reading, which
  the clock skips. -/
  begun : (recurrence.keeps (zone.toLocal current) last && zone.foldAt current) = true ∨
    zone.Missing current last = false
  stays : Stays zone recurrence current last next
  /-- The next time is not repeated behind the instant; with the flag, it is not skipped. -/
  ahead : (if flagAhead zone recurrence current next then zone.Skipping current next
    else zone.Repeating current next) = false
  /-- It is read with the same flag from both instants, or it has one reading. -/
  agrees : flagAhead zone recurrence (startOf zone recurrence current last) next =
      flagAhead zone recurrence current next ∨
    zone.toInstant next false = zone.toInstant next true
  /-- Where the flag stays with a time in its own day or hour: the start is the second time that the
  clock shows the last time, or the cycle ends before that. -/
  again : recurrence.keeps last last = true → zone.Shows last = true →
    startOf zone recurrence current last = zone.toInstant last true ∨
      endOf zone recurrence current next ≤ zone.toInstant last true
  /-- Where the next time is read with the flag, the clock has shown it before the start, or shows
  it once or not at all. -/
  onward : flagAhead zone recurrence current next = true → zone.Shows next = true →
    zone.Repeating (startOf zone recurrence current last) next = true ∨
      zone.toInstant next false = zone.toInstant next true
  /-- Where the clock skips the next time, the matching times behind it that the clock shows are not
  read before it. -/
  further : zone.Shows next = false → ∀ wall, recurrence.Matches wall → next < wall →
    zone.Shows wall = true → endOf zone recurrence current next ≤ zone.toInstant wall false
  /-- A time that the clock skips and a search finds is read up to the start or from the end on. -/
  skipped : ∀ wall fold, recurrence.Matches wall → zone.Shows wall = false →
    Occurs zone recurrence (zone.toInstant wall fold) →
      zone.toInstant wall fold ≤ startOf zone recurrence current last ∨
        endOf zone recurrence current next ≤ zone.toInstant wall fold

section
variable {zone : ClockZone} {recurrence : Recurrence} {current last next : Int}

/-- Only one pair of matches surrounds a time. -/
theorem Surrounds.unique {wall last' next' : Int} (around : Surrounds recurrence wall last next)
    (other : Surrounds recurrence wall last' next') : last' = last ∧ next' = next :=
  ⟨other.last.unique around.last, other.next.unique around.next⟩

/-- The same times are around every local time from the last one on and in front of the next. -/
theorem Surrounds.moved {wall wall' : Int} (around : Surrounds recurrence wall last next)
    (notBefore : last ≤ wall') (notBehind : wall' < next) :
    Surrounds recurrence wall' last next := by
  refine .intro around.last.1.1 around.next.1.1 (fun time matched => ?_) notBefore notBehind
  by_cases early : time ≤ wall
  · exact .inl (around.last.2 ⟨matched, early⟩)
  · exact .inr (around.next.2 ⟨matched, not_le.mp early⟩)

/-- The start of the cycle is the last match, read with the flag that its search leaves. -/
theorem cycleStart_eq (around : Surrounds recurrence (zone.toLocal current) last next) :
    cycleStart zone recurrence current = startOf zone recurrence current last := by
  have found := searches_surround recurrence (localTime zone current)
  have same := (around.unique found).1
  rw [cycleStart, recurrenceOccurrenceAtOrBefore, Local.instant, occurrence_fold, same]
  rfl

/-- The next run is the next match, read with the flag that its search leaves. -/
theorem nextRun_eq (around : Surrounds recurrence (zone.toLocal current) last next) :
    nextRunFromRecurrence zone recurrence current false =
      zone.toInstant next (flagAhead zone recurrence current next) := by
  have found := searches_surround recurrence (localTime zone current)
  have same := (around.unique found).2
  rw [nextRunFromRecurrence, Local.instant, next_fold, same,
    dtToIso_reading zone around.next.1.1]
  rfl

/-- The end of the cycle is read from the start of the cycle. -/
theorem cycleEnd_eq (around : Surrounds recurrence (zone.toLocal current) last next)
    (stays : Stays zone recurrence current last next) :
    cycleEnd zone recurrence current =
      zone.toInstant next
        (flagAhead zone recurrence (startOf zone recurrence current last) next) := by
  rw [cycleEnd, cycleStart_eq around, nextRun_eq (around.moved stays.1 stays.2)]

/-- The cycle has begun exactly when its start keeps the flag of the instant, or its local time was
not missed. -/
theorem start_begun_iff (around : Surrounds recurrence (zone.toLocal current) last next) :
    startOf zone recurrence current last ≤ current ↔
      (recurrence.keeps (zone.toLocal current) last && zone.foldAt current) = true ∨
        zone.Missing current last = false := by
  rw [startOf]
  cases second : recurrence.keeps (zone.toLocal current) last && zone.foldAt current with
  | true =>
    have flagged : zone.foldAt current = true := (Bool.and_eq_true_iff.mp second).2
    exact iff_of_true (Zone.earlier_flagged flagged around.last.1.2) (.inl rfl)
  | false =>
    rw [Zone.earlier_unflagged around.last.1.2]
    exact (or_iff_right Bool.false_ne_true).symm

/-- The end lies ahead exactly when its local time is not skipped, where the flag is carried, or not
repeated, where it is not. -/
theorem end_ahead_iff (around : Surrounds recurrence (zone.toLocal current) last next) :
    current < zone.toInstant next (flagAhead zone recurrence current next) ↔
      (if flagAhead zone recurrence current next then zone.Skipping current next
        else zone.Repeating current next) = false := by
  cases flagAhead zone recurrence current next with
  | true => exact Zone.later_flagged around.next.1.2
  | false => exact Zone.later_unflagged around.next.1.2

/-- Two readings of a local time agree when their flags do, or when it is read one way only. -/
theorem same_reading_iff (zone : ClockZone) (wall : Int) (first second : Bool) :
    zone.toInstant wall first = zone.toInstant wall second ↔
      first = second ∨ zone.toInstant wall false = zone.toInstant wall true := by
  cases first with
  | true =>
    cases second with
    | true => exact iff_of_true rfl (.inl rfl)
    | false => rw [or_iff_right (by decide), eq_comm]
  | false =>
    cases second with
    | true => rw [or_iff_right (by decide)]
    | false => exact iff_of_true rfl (.inl rfl)

/-- The clock stays in the cycle of the last time where it shows that time, and in front of an
instant without the flag. -/
theorem stays_of (around : Surrounds recurrence (zone.toLocal current) last next)
    (begun : startOf zone recurrence current last ≤ current)
    (direct : zone.foldAt current = false ∨ zone.Shows last = true) :
    Stays zone recurrence current last next := by
  unfold Stays
  have between := lt_of_le_of_lt around.last.1.2 around.next.1.2
  rcases direct with first | shown
  · have notLater := Zone.toLocal_le_of_unflagged first begun
    refine ⟨?_, lt_of_le_of_lt notLater around.next.1.2⟩
    rw [startOf, first, Bool.and_false]
    exact zone.le_toLocal_toInstant last
  · rw [startOf, Zone.toLocal_toInstant shown]
    exact ⟨le_rfl, between⟩

/-! ## Occurrences -/

/-- A time of day that keeps the flag once keeps it from itself. -/
theorem keeps_self {reference wall other : Int} (kept : recurrence.keeps reference wall = true) :
    recurrence.keeps other other = true := by
  cases recurrence with
  | daily => exact decide_eq_true rfl
  | weekly => cases kept
  | monthly => rfl
  | hourly => exact decide_eq_true rfl

/-- An occurrence is the reading of a matching time, with the flag where the recurrence keeps it. -/
theorem Occurs.reading {instant : Int} (occurs : Occurs zone recurrence instant) :
    ∃ wall fold, recurrence.Matches wall ∧ zone.toInstant wall fold = instant ∧
      (fold = true → ∀ other, recurrence.keeps other other = true) := by
  obtain ⟨reference, found⟩ := occurs
  have around := searches_surround recurrence (localTime zone reference)
  rcases found with back | forth
  · refine ⟨_, _, around.last.1.1, (cycleStart_eq around).symm.trans back, ?_⟩
    exact fun kept _ => keeps_self (Bool.and_eq_true_iff.mp kept).1
  · refine ⟨_, _, around.next.1.1, (nextRun_eq around).symm.trans forth, ?_⟩
    exact fun kept _ => keeps_self (Bool.and_eq_true_iff.mp kept).1

/-- What the search back finds at an instant that shows a matching time. -/
theorem occurs_of_shown {wall instant : Int} (matched : recurrence.Matches wall)
    (shown : zone.toLocal instant = wall) :
    Occurs zone recurrence
      (zone.toInstant wall (recurrence.keeps wall wall && zone.foldAt instant)) := by
  have around := searches_surround recurrence (localTime zone instant)
  have same : (occurrenceLocal recurrence (localTime zone instant)).wall = wall :=
    le_antisymm (shown ▸ around.last.1.2) (around.last.2 ⟨matched, shown.ge⟩)
  refine ⟨instant, .inl ((cycleStart_eq around).trans ?_)⟩
  rw [startOf, same, shown]

/-- The first reading of a matching time that the clock shows is an occurrence. -/
theorem occurs_first {wall : Int} (matched : recurrence.Matches wall)
    (shown : zone.Shows wall = true) : Occurs zone recurrence (zone.toInstant wall false) := by
  have found := occurs_of_shown matched (Zone.toLocal_toInstant shown false)
  rw [Zone.foldAt_toInstant shown, Bool.and_false] at found
  exact found

/-- So is the second one, where the recurrence keeps the flag. -/
theorem occurs_second {wall : Int} (matched : recurrence.Matches wall)
    (kept : recurrence.keeps wall wall = true) (shown : zone.Shows wall = true)
    (twice : zone.toInstant wall false ≠ zone.toInstant wall true) :
    Occurs zone recurrence (zone.toInstant wall true) := by
  have found := occurs_of_shown matched (Zone.toLocal_toInstant shown true)
  rw [Zone.foldAt_second shown twice, kept] at found
  exact found

/-! ## Between two times -/

/-- The end of the cycle is read without the flag, or the start has the flag too and the clock
reads the end twice. -/
theorem end_cases (clear : Clear zone recurrence current last next) :
    endOf zone recurrence current next = zone.toInstant next false ∨
      (flagAhead zone recurrence current next = true ∧
        zone.foldAt (startOf zone recurrence current last) = true ∧
          zone.toInstant next false ≠ zone.toInstant next true) := by
  by_cases once : zone.toInstant next false = zone.toInstant next true
  · exact .inl ((same_reading_iff zone next _ _).mpr (.inr once))
  have same := clear.agrees.resolve_right once
  cases flag : flagAhead zone recurrence current next with
  | false => exact .inl (by rw [endOf, flag])
  | true => exact .inr ⟨rfl, (Bool.and_eq_true_iff.mp (same.trans flag)).2, once⟩

/-- An earlier matching time that the clock shows is not read in the cycle. -/
theorem earlier_not_between (clear : Clear zone recurrence current last next)
    {wall : Int} {fold : Bool} (shown : zone.Shows wall = true) (early : wall ≤ last)
    (kept : fold = true → recurrence.keeps last last = true)
    (begun : startOf zone recurrence current last < zone.toInstant wall fold) :
    endOf zone recurrence current next ≤ zone.toInstant wall fold := by
  obtain ⟨notBefore, notBehind⟩ := clear.stays
  cases fold with
  | false =>
    have passed := Zone.Shows.earlier shown (early.trans notBefore)
    omega
  | true =>
    by_contra before
    have there := Zone.toLocal_toInstant shown true
    generalize zone.toInstant wall true = instant at *
    -- the clock was set back behind the start, and shows the last time once more
    have repeating := Zone.repeating_of_set_back begun (there.trans_le early) notBefore
    have second := Zone.toInstant_of_repeating repeating (there.trans_le early)
    have first := Zone.foldAt_of_set_back begun (there.trans_le (early.trans notBefore))
    rcases clear.again (kept rfl) (Zone.shows_of_repeating repeating (there.trans_le early))
      with start | ended
    · omega
    rcases end_cases clear with unflagged | ⟨_, flagged, _⟩
    · -- where the cycle has ended by then, the next time is repeated too, and read before
      have shows := @Zone.toLocal_of_repeating _ _ _ (zone.toInstant last true) repeating
        (by omega) (by omega)
      have between : last < next := lt_of_le_of_lt notBefore notBehind
      have reread : zone.Repeating (zone.toInstant last true) next = true := by
        by_contra once
        have later := (Zone.later_unflagged (by omega)).mpr (Bool.eq_false_iff.mpr once)
        omega
      have same := @Zone.last_of_repeating _ _ _ (zone.toInstant last true) repeating
        (by omega) (by omega)
      rw [Zone.Repeating, same] at reread
      have ahead : ¬instant < zone.toInstant next false := by
        rw [Zone.later_unflagged (by omega)]
        exact fun none => Bool.false_ne_true (none.symm.trans reread)
      omega
    · rw [first] at flagged
      cases flagged

/-- A later matching time that the clock shows is not read in the cycle. -/
theorem later_not_between (clear : Clear zone recurrence current last next)
    {wall : Int} {fold : Bool} (matched : recurrence.Matches wall) (shown : zone.Shows wall = true)
    (late : next ≤ wall) (begun : startOf zone recurrence current last < zone.toInstant wall fold) :
    endOf zone recurrence current next ≤ zone.toInstant wall fold := by
  have there := Zone.toLocal_toInstant shown fold
  have firstReading : zone.toInstant wall false ≤ zone.toInstant wall fold := by
    cases fold with
    | false => exact le_rfl
    | true => exact Zone.readings_le shown
  rcases end_cases clear with unflagged | ⟨flag, _, twice⟩
  · cases nextShown : zone.Shows next with
    | true =>
      rw [unflagged]
      exact Zone.Shows.earlier nextShown (late.trans there.ge)
    | false =>
      have apart : next ≠ wall := fun same => by
        rw [same, shown] at nextShown
        cases nextShown
      exact (clear.further nextShown wall matched (lt_of_le_of_ne late apart) shown).trans
        firstReading
  · have ends : endOf zone recurrence current next = zone.toInstant next true := by
      rw [endOf, flag]
    rw [ends]
    cases nextShown : zone.Shows next with
    | false => exact Zone.skipped_flagged nextShown (late.trans there.ge)
    | true =>
      -- the clock runs on from the start until it shows the next time once more
      have repeating := (clear.onward flag nextShown).resolve_right twice
      have second := Zone.toInstant_of_repeating repeating clear.stays.2.le
      by_contra before
      have runs := @Zone.toLocal_of_repeating _ _ _ (zone.toInstant wall fold) repeating
        begun.le (by omega)
      omega

/-- The cycle reported at an instant is its cycle. -/
theorem scheduleCycle_some {anchor start finish : Int}
    (reported : scheduleCycle zone recurrence anchor current = some (start, finish)) :
    start = cycleStart zone recurrence current ∧ finish = cycleEnd zone recurrence current := by
  unfold scheduleCycle at reported
  dsimp only at reported
  split at reported
  · cases reported
  · injection reported with pair
    injection pair with starts ends
    exact ⟨starts.symm, ends.symm⟩

/-- A clear cycle tiles the time. -/
theorem Tiles.of_clear (around : Surrounds recurrence (zone.toLocal current) last next)
    (clear : Clear zone recurrence current last next) : Tiles zone recurrence current := by
  have starts := cycleStart_eq around
  have ends : cycleEnd zone recurrence current =
      zone.toInstant next (flagAhead zone recurrence current next) :=
    (cycleEnd_eq around clear.stays).trans
      ((same_reading_iff zone next _ _).mpr clear.agrees)
  have begun : cycleStart zone recurrence current ≤ current := by
    rw [starts]
    exact (start_begun_iff around).mpr clear.begun
  have notOver : current < cycleEnd zone recurrence current := by
    rw [ends]
    exact (end_ahead_iff around).mpr clear.ahead
  refine ⟨begun, notOver, ?_, (nextRun_eq around).trans ends.symm, ?_⟩
  · rintro _ occurs ⟨behind, before⟩
    obtain ⟨wall, fold, matched, rfl, kept⟩ := occurs.reading
    rw [starts] at behind
    rw [ends] at before
    cases shown : zone.Shows wall with
    | false =>
      have outside := clear.skipped wall fold matched shown occurs
      rw [endOf] at outside
      omega
    | true =>
      by_cases early : wall ≤ zone.toLocal current
      · exact absurd before (not_lt.mpr (earlier_not_between clear shown
          (around.last.2 ⟨matched, early⟩) (fun flag => kept flag last) behind))
      · exact absurd before (not_lt.mpr (later_not_between clear matched shown
          (around.next.2 ⟨matched, not_le.mp early⟩) behind))
  · intro anchor start finish reported
    obtain ⟨rfl, rfl⟩ := scheduleCycle_some reported
    simp only [timestampInWindow, if_neg (not_lt.mpr begun), decide_eq_true notOver]

/-- A cycle that tiles the time is clear, where the instant shows the last match directly. -/
theorem Tiles.clear (tiles : Tiles zone recurrence current)
    (around : Surrounds recurrence (zone.toLocal current) last next)
    (direct : zone.foldAt current = false ∨ zone.Shows last = true ∨
      Stays zone recurrence current last next) :
    Clear zone recurrence current last next := by
  have starts := cycleStart_eq around
  have begun := tiles.begun
  rw [starts] at begun
  have stays : Stays zone recurrence current last next := by
    rcases direct with first | shown | stays
    · exact stays_of around begun (.inl first)
    · exact stays_of around begun (.inr shown)
    · exact stays
  have ends : cycleEnd zone recurrence current = endOf zone recurrence current next :=
    tiles.agrees.symm.trans (nextRun_eq around)
  have alone := tiles.alone
  rw [starts, ends] at alone
  have matched := around.last.1.1
  have further := around.next.1.1
  refine ⟨(start_begun_iff around).mp begun, stays, ?_, ?_, ?_, ?_, ?_, ?_⟩
  · have notOver := tiles.notOver
    rw [ends] at notOver
    exact (end_ahead_iff around).mp notOver
  · rw [← same_reading_iff, ← cycleEnd_eq around stays, ends]
    rfl
  · intro kept shown
    by_contra neither
    obtain ⟨notSecond, before⟩ := not_or.mp neither
    have first : startOf zone recurrence current last = zone.toInstant last false := by
      unfold startOf at notSecond ⊢
      cases flag : recurrence.keeps (zone.toLocal current) last && zone.foldAt current with
      | true => exact absurd (by rw [flag]) notSecond
      | false => rfl
    rw [first] at notSecond
    refine alone _ (occurs_second matched kept shown notSecond) ⟨?_, not_le.mp before⟩
    rw [first]
    exact lt_of_le_of_ne (Zone.readings_le shown) notSecond
  · intro flag shown
    by_contra neither
    obtain ⟨notRepeating, twice⟩ := not_or.mp neither
    refine alone _ (occurs_first further shown) ⟨?_, ?_⟩
    · exact (Zone.later_unflagged stays.2).mpr (Bool.eq_false_iff.mpr notRepeating)
    · rw [endOf, flag]
      exact lt_of_le_of_ne (Zone.readings_le shown) twice
  · intro skipped wall matched later shown
    by_contra before
    refine alone _ (occurs_first matched shown) ⟨?_, not_le.mp before⟩
    rw [Zone.later_unflagged (stays.2.trans later)]
    by_contra repeating
    -- what the clock repeats it has shown
    have also := Zone.repeating_earlier (by simpa using repeating) later.le
    rw [Zone.shows_of_repeating also stays.2.le] at skipped
    cases skipped
  · intro wall fold _ _ occurs
    have outside := alone _ occurs
    omega

end

/-- New York at the end of summer time, in whole seconds. -/
def newYorkClock : ClockZone where
  toZone := newYork
  beforeWhole := by decide
  offsetsWhole := by decide

end MeetYou.RecurrenceCycles
