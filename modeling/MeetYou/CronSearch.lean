import MeetYou.Foundation.SpacedWords
import MeetYou.Foundation.TimeZones
import MeetYou.Foundation.Values

/-!
# The next minute of a cron expression

A cron expression has five fields, one for each part of a local minute. The search tries the local
minutes behind an instant, one after the other, for 366 days. A field stands for a set of numbers:
the union of what its tokens stand for.

An instant, and a local time, is a number of microseconds since the epoch.
-/

namespace MeetYou.CronSearch

open Text TimeZones

/-! ## Local dates -/

/-- A minute and a day in microseconds. -/
def aMinute : Int := 60000000

def aDay : Int := 86400000000

/-- `_DAYS_IN_MONTH` -/
def daysInMonth : List Int := [-1, 31, 28, 31, 30, 31, 30, 31, 31, 30, 31, 30, 31]

/-- `_DAYS_BEFORE_MONTH` -/
def daysBeforeMonth : List Int := [-1, 0, 31, 59, 90, 120, 151, 181, 212, 243, 273, 304, 334]

/-- The month and the day of the month, for a day of a year that is counted from zero. -/
def monthAndDay (leap : Bool) (dayOfYear : Nat) : Int × Int :=
  let month := (dayOfYear + 50) / 32
  let before := daysBeforeMonth.getD month 0 + if 2 < month ∧ leap then 1 else 0
  if dayOfYear < before then
    let length := daysInMonth.getD (month - 1) 0 + if month - 1 = 2 ∧ leap then 1 else 0
    ((month : Int) - 1, dayOfYear - (before - length) + 1)
  else (month, dayOfYear - before + 1)

/-- `_ord2ymd` without the year: the month and the day of an ordinal. -/
def ord2md (ordinal : Int) : Int × Int :=
  let inFourCenturies := (ordinal - 1) % 146097
  let centuries := inFourCenturies / 36524
  let inCentury := inFourCenturies % 36524
  let quads := inCentury / 1461
  let inQuad := inCentury % 1461
  let years := inQuad / 365
  if years = 4 ∨ centuries = 4 then (12, 31)
  else
    monthAndDay (decide (years = 3 ∧ (quads ≠ 24 ∨ centuries = 3))) (inQuad % 365).toNat

/-- `date(1970, 1, 1).toordinal()` -/
def epochOrdinal : Int := 719163

/-- `toordinal` of a local time. -/
def toordinal (wall : Int) : Int := epochOrdinal + wall / aDay

def minuteOf (wall : Int) : Int := wall % aDay / aMinute % 60

def hourOf (wall : Int) : Int := wall % aDay / aMinute / 60

def dayOf (wall : Int) : Int := (ord2md (toordinal wall)).2

def monthOf (wall : Int) : Int := (ord2md (toordinal wall)).1

/-- `(local.weekday() + 1) % 7`, where Monday is the weekday 0. -/
def dowOf (wall : Int) : Int := ((toordinal wall + 6) % 7 + 1) % 7

/-! ## Fields -/

/-- `int` of a part of a token. -/
def numeral (text : List Char) : Option Int := intOfText (String.ofList text)

/-- `text.split(mark, 1)` of a text that has the mark. -/
def cut (mark : Char) (text : List Char) : Option (List Char × List Char) :=
  match text.span fun character => character ≠ mark with
  | (_, []) => none
  | (front, _ :: back) => some (front, back)

/-- `max(int(raw_step), 1)`, and 1 where it raises. -/
def stepOf (raw : List Char) : Int := max ((numeral raw).getD 1) 1

/-- The step of a token, and the token in front of it. -/
def withStep (token : List Char) : List Char × Int :=
  match cut '/' token with
  | none => (token, 1)
  | some (front, raw) => (front, stepOf raw)

/-- The first and the last number of a token without its step. -/
def bounds (least greatest : Int) (token : List Char) : Option (Int × Int) :=
  if token = ['*'] then some (least, greatest)
  else
    match cut '-' token with
    | some (first, last) => (numeral first).bind fun first => (numeral last).map fun last =>
        (first, last)
    | none => (numeral token).map fun number => (number, number)

/-- One round of the loop of `_field_matches`. -/
def tokenMatches (value least greatest : Int) (part : List Char) : Bool :=
  let token := trim part
  if token = [] then false
  else
    match bounds least greatest (withStep token).1 with
    | none => false
    | some (first, last) =>
        let start := max first least
        decide (start ≤ value ∧ value ≤ min last greatest) &&
          decide ((value - start) % (withStep token).2 = 0)

/-- `_field_matches` -/
def fieldMatches (value : Int) (expression : List Char) (least greatest : Int) : Bool :=
  let text := trim expression
  if text = [] ∨ text = ['*'] then true
  else (text.splitOn ',').any (tokenMatches value least greatest)

/-! ## The search -/

/-- The fields of a cron expression. -/
structure CronFields where
  minute : List Char
  hour : List Char
  day : List Char
  month : List Char
  weekday : List Char
deriving DecidableEq

/-- The five fields of an expression; none if it has not five. -/
def cronFields (expression : String) : Option CronFields :=
  match wordsOf (trim expression.toList) with
  | [minute, hour, day, month, weekday] => some { minute, hour, day, month, weekday }
  | _ => none

/-- The test of the search on a local minute. -/
def CronFields.hits (fields : CronFields) (wall : Int) : Bool :=
  let dow := dowOf wall
  let cronDowMatch := fieldMatches dow fields.weekday 0 7 ||
    (decide (dow = 0) && fieldMatches 7 fields.weekday 0 7)
  fieldMatches (minuteOf wall) fields.minute 0 59 && fieldMatches (hourOf wall) fields.hour 0 23 &&
    fieldMatches (dayOf wall) fields.day 1 31 && fieldMatches (monthOf wall) fields.month 1 12 &&
    cronDowMatch

/-- The loop of `_cron_next_after`: the local minutes up to the end. -/
def search (hits : Int → Bool) (stop : Int) : Nat → Int → Option Int
  | 0, _ => none
  | rounds + 1, wall =>
      if wall ≤ stop then
        if hits wall then some wall else search hits stop rounds (wall + aMinute)
      else none

/-- The minutes of 366 days. -/
def windowMinutes : Nat := 366 * 24 * 60

/-- The first whole minute behind a local time. -/
def firstMinute (wall : Int) : Int := wall - wall % aMinute + aMinute

/-- The local minute the search ends with. -/
def CronFields.next (fields : CronFields) (wall : Int) : Option Int :=
  search fields.hits (firstMinute wall + 366 * aDay) (windowMinutes + 1) (firstMinute wall)

/-- `_cron_next_after`. The sum of two times has no fold flag. -/
def cronNextAfter (expression : String) (zone : Zone) (after : Instant) : Option Instant :=
  match cronFields expression with
  | none => none
  | some fields => (fields.next (zone.toLocal after)).map fun wall => zone.toInstant wall false

/-! ## What a field stands for -/

/-- The numbers of a range that are whole steps away from its start. The range is clipped to the
bounds of the field. -/
def progression (least greatest : Int) (range : Int × Int) (step : Int) : Set Int :=
  { value | value ≤ min range.2 greatest ∧ ∃ count : Nat, value = max range.1 least + count * step }

/-- What a token stands for, where `step` says what its step is. A token that cannot be read stands
for nothing. -/
def tokenSet (step : List Char → Option Int) (least greatest : Int) (token : List Char) :
    Set Int :=
  { value | ∃ base width range, (cut '/' token = none ∧ base = token ∧ width = 1 ∨
      ∃ raw, cut '/' token = some (base, raw) ∧ step raw = some width) ∧
    bounds least greatest base = some range ∧ value ∈ progression least greatest range width }

/-- What a field stands for: the union over its tokens. -/
def fieldSet (step : List Char → Option Int) (least greatest : Int) (field : List Char) : Set Int :=
  { value | ∃ part ∈ field.splitOn ',', value ∈ tokenSet step least greatest (trim part) }

/-- The local minutes an expression stands for. The weekday 7 is the weekday 0. -/
def CronFields.Denotes (step : List Char → Option Int) (fields : CronFields) (wall : Int) : Prop :=
  wall % aMinute = 0 ∧ minuteOf wall ∈ fieldSet step 0 59 fields.minute ∧
    hourOf wall ∈ fieldSet step 0 23 fields.hour ∧ dayOf wall ∈ fieldSet step 1 31 fields.day ∧
    monthOf wall ∈ fieldSet step 1 12 fields.month ∧
    ∃ weekday ∈ fieldSet step 0 7 fields.weekday, weekday % 7 = dowOf wall

/-- The instants behind another one, up to 366 days behind the first whole minute, whose local
minute the expression stands for. -/
def firings (step : List Char → Option Int) (fields : CronFields) (offset after : Int) : Set Int :=
  { instant | after < instant ∧ instant ≤ firstMinute (after + offset) - offset + 366 * aDay ∧
      fields.Denotes step (instant + offset) }

/-- A step that is a positive number. -/
def positiveStep (raw : List Char) : Option Int :=
  (numeral raw).filter fun step => decide (0 < step)

/-- A step that is no positive number counts as 1. -/
def countedStep (raw : List Char) : Option Int := some ((positiveStep raw).getD 1)

/-! ## Fields and their sets -/

theorem countedStep_eq (raw : List Char) : countedStep raw = some (stepOf raw) := by
  unfold countedStep stepOf positiveStep
  cases numeral raw with
  | none => rfl
  | some step =>
    rw [Option.filter_some, Option.getD_some]
    by_cases positive : 0 < step
    · rw [if_pos (decide_eq_true positive), Option.getD_some, max_eq_left (by omega)]
    · rw [if_neg (by simpa using positive), Option.getD_none, max_eq_right (by omega)]

theorem withStep_positive (token : List Char) : 0 < (withStep token).2 := by
  unfold withStep
  split
  · exact one_pos
  · exact lt_of_lt_of_le one_pos (le_max_right _ _)

/-- The step and the range of a token. -/
theorem mem_tokenSet {value least greatest : Int} {token : List Char} :
    value ∈ tokenSet countedStep least greatest token ↔
      ∃ range, bounds least greatest (withStep token).1 = some range ∧
        value ∈ progression least greatest range (withStep token).2 := by
  simp only [tokenSet, Set.mem_ofPred_eq, countedStep_eq, withStep]
  cases found : cut '/' token with
  | none => simp
  | some parts =>
    constructor
    · rintro ⟨base, width, range, ⟨absent, -⟩ | ⟨raw, same, step⟩, read, inside⟩
      · cases absent
      · obtain rfl := Option.some.inj same
        obtain rfl := Option.some.inj step
        exact ⟨range, read, inside⟩
    · rintro ⟨range, read, inside⟩
      exact ⟨parts.1, stepOf parts.2, range, .inr ⟨parts.2, rfl, rfl⟩, read, inside⟩

theorem mem_progression {value least greatest step : Int} {range : Int × Int}
    (positive : 0 < step) :
    value ∈ progression least greatest range step ↔
      (max range.1 least ≤ value ∧ value ≤ min range.2 greatest) ∧
        (value - max range.1 least) % step = 0 := by
  constructor
  · rintro ⟨below, count, rfl⟩
    have ahead : (0 : Int) ≤ count * step := by positivity
    refine ⟨⟨by omega, below⟩, ?_⟩
    rw [add_sub_cancel_left]
    exact Int.mul_emod_left _ _
  · rintro ⟨⟨above, below⟩, whole⟩
    obtain ⟨steps, same⟩ := Int.dvd_of_emod_eq_zero whole
    have ahead : 0 ≤ steps := by
      by_contra negative
      have back := mul_neg_of_pos_of_neg positive (not_le.mp negative)
      omega
    refine ⟨below, steps.toNat, ?_⟩
    rw [Int.toNat_of_nonneg ahead, mul_comm]
    omega

theorem tokenMatches_iff {value least greatest : Int} (part : List Char) :
    tokenMatches value least greatest part = true ↔
      value ∈ tokenSet countedStep least greatest (trim part) := by
  have unreadable : bounds least greatest (withStep []).1 = none := rfl
  rw [mem_tokenSet]
  unfold tokenMatches
  by_cases empty : trim part = []
  · simp [empty, unreadable]
  · simp only [empty, if_false]
    cases bounds least greatest (withStep (trim part)).1 with
    | none => simp
    | some range =>
      have positive := withStep_positive (trim part)
      simp only [Option.some.injEq, exists_eq_left', mem_progression positive, Bool.and_eq_true,
        decide_eq_true_eq]

/-- The test of a field on a number within the bounds. -/
theorem fieldMatches_iff {value least greatest : Int} {field : List Char}
    (word : trim field = field ∧ field ≠ []) (within : least ≤ value ∧ value ≤ greatest) :
    fieldMatches value field least greatest = true ↔
      value ∈ fieldSet countedStep least greatest field := by
  unfold fieldMatches
  rw [word.1]
  by_cases all : field = ['*']
  · refine iff_of_true (by simp [all]) ⟨['*'], by rw [all]; decide, mem_tokenSet.mpr ?_⟩
    refine ⟨(least, greatest), rfl, (mem_progression one_pos).mpr ?_⟩
    simp [within]
  · simp only [word.2, all, or_self, if_false, List.any_eq_true, tokenMatches_iff]
    rfl

/-- A field stands for numbers within its bounds. -/
theorem fieldSet_within {value least greatest : Int} {field : List Char}
    (member : value ∈ fieldSet countedStep least greatest field) :
    least ≤ value ∧ value ≤ greatest := by
  obtain ⟨part, -, inside⟩ := member
  obtain ⟨range, -, stepped⟩ := mem_tokenSet.mp inside
  obtain ⟨⟨above, below⟩, -⟩ := (mem_progression (withStep_positive _)).mp stepped
  exact ⟨le_trans (le_max_right _ _) above, le_trans below (min_le_right _ _)⟩

/-- The fields of an expression are words. -/
theorem cronFields_words {expression : String} {fields : CronFields}
    (parsed : cronFields expression = some fields) :
    ∀ field ∈ [fields.minute, fields.hour, fields.day, fields.month, fields.weekday],
      trim field = field ∧ field ≠ [] := by
  unfold cronFields at parsed
  split at parsed
  · next split =>
    obtain rfl := Option.some.inj parsed
    intro field member
    obtain ⟨nonempty, visible⟩ := wordsOf_visible (trim_trimmed expression.toList)
      (split ▸ member : field ∈ wordsOf (trim expression.toList))
    refine ⟨trim_of_trimmed ⟨fun character head => ?_, fun character last => ?_⟩, nonempty⟩
    · exact (visible character (List.mem_of_mem_head? head)).1
    · exact (visible character (List.mem_of_getLast? last)).1
  · cases parsed

/-! ## Parts of a minute -/

theorem monthAndDay_within (leap : Bool) {dayOfYear : Nat} (inYear : dayOfYear < 365) :
    (1 ≤ (monthAndDay leap dayOfYear).1 ∧ (monthAndDay leap dayOfYear).1 ≤ 12) ∧
      1 ≤ (monthAndDay leap dayOfYear).2 ∧ (monthAndDay leap dayOfYear).2 ≤ 31 := by
  have all : ∀ leap, ∀ dayOfYear < 365,
      (1 ≤ (monthAndDay leap dayOfYear).1 ∧ (monthAndDay leap dayOfYear).1 ≤ 12) ∧
        1 ≤ (monthAndDay leap dayOfYear).2 ∧ (monthAndDay leap dayOfYear).2 ≤ 31 := by
    decide +kernel
  exact all leap dayOfYear inYear

theorem ord2md_within (ordinal : Int) :
    (1 ≤ (ord2md ordinal).1 ∧ (ord2md ordinal).1 ≤ 12) ∧
      1 ≤ (ord2md ordinal).2 ∧ (ord2md ordinal).2 ≤ 31 := by
  simp only [ord2md]
  split
  · decide
  · exact monthAndDay_within _ (by omega)

theorem minuteOf_within (wall : Int) : 0 ≤ minuteOf wall ∧ minuteOf wall ≤ 59 := by
  unfold minuteOf
  omega

theorem hourOf_within (wall : Int) : 0 ≤ hourOf wall ∧ hourOf wall ≤ 23 := by
  unfold hourOf aDay aMinute
  omega

theorem dowOf_within (wall : Int) : 0 ≤ dowOf wall ∧ dowOf wall ≤ 6 := by
  unfold dowOf
  omega

/-- The weekday is tested as 0 and as 7. -/
theorem weekday_iff {wall : Int} {field : List Char} (word : trim field = field ∧ field ≠ []) :
    (fieldMatches (dowOf wall) field 0 7 ||
        (decide (dowOf wall = 0) && fieldMatches 7 field 0 7)) = true ↔
      ∃ weekday ∈ fieldSet countedStep 0 7 field, weekday % 7 = dowOf wall := by
  have within := dowOf_within wall
  rw [Bool.or_eq_true, Bool.and_eq_true, decide_eq_true_eq,
    fieldMatches_iff word ⟨by omega, by omega⟩, fieldMatches_iff word ⟨by omega, by omega⟩]
  constructor
  · rintro (same | ⟨sunday, seven⟩)
    · exact ⟨dowOf wall, same, by omega⟩
    · exact ⟨7, seven, by omega⟩
  · rintro ⟨weekday, member, same⟩
    have inBounds := fieldSet_within member
    by_cases seven : weekday = 7
    · subst seven
      exact .inr ⟨by omega, member⟩
    · have low : weekday = dowOf wall := by omega
      exact .inl (low ▸ member)

/-- A whole minute passes the test of the search if the expression stands for it. -/
theorem hits_iff {fields : CronFields} {wall : Int}
    (words : ∀ field ∈ [fields.minute, fields.hour, fields.day, fields.month, fields.weekday],
      trim field = field ∧ field ≠ []) (whole : wall % aMinute = 0) :
    fields.hits wall = true ↔ fields.Denotes countedStep wall := by
  have date : (1 ≤ monthOf wall ∧ monthOf wall ≤ 12) ∧ 1 ≤ dayOf wall ∧ dayOf wall ≤ 31 :=
    ord2md_within (toordinal wall)
  unfold CronFields.hits CronFields.Denotes
  simp only [Bool.and_eq_true]
  rw [fieldMatches_iff (words _ (by simp)) (minuteOf_within wall),
    fieldMatches_iff (words _ (by simp)) (hourOf_within wall),
    fieldMatches_iff (words _ (by simp)) date.2, fieldMatches_iff (words _ (by simp)) date.1,
    weekday_iff (words _ (by simp))]
  simp only [and_assoc, whole, true_and]

/-! ## The first minute -/

/-- The minutes that a search may answer. -/
def answers (hits : Int → Bool) (stop : Int) (rounds : Nat) (wall : Int) : Set Int :=
  { found | ∃ count < rounds, found = wall + count * aMinute ∧ found ≤ stop ∧ hits found = true }

/-- The answers of one more round. -/
theorem mem_answers_succ {hits : Int → Bool} {stop wall found : Int} {rounds : Nat} :
    found ∈ answers hits stop (rounds + 1) wall ↔
      (found = wall ∧ wall ≤ stop ∧ hits wall = true) ∨
        found ∈ answers hits stop rounds (wall + aMinute) := by
  constructor
  · rintro ⟨count, fewer, same, early, hit⟩
    cases count with
    | zero =>
      obtain rfl : found = wall := by simpa using same
      exact .inl ⟨rfl, early, hit⟩
    | succ count => exact .inr ⟨count, by omega, by rw [same]; push_cast; linarith, early, hit⟩
  · rintro (⟨rfl, early, hit⟩ | ⟨count, fewer, same, early, hit⟩)
    · exact ⟨0, by omega, by simp, early, hit⟩
    · exact ⟨count + 1, by omega, by rw [same]; push_cast; linarith, early, hit⟩

theorem answers_behind {hits : Int → Bool} {stop wall found : Int} {rounds : Nat}
    (member : found ∈ answers hits stop rounds wall) : wall ≤ found := by
  obtain ⟨count, -, same, -⟩ := member
  unfold aMinute at same
  omega

/-- The search answers the first of the minutes it may answer, and nothing if there is none. -/
theorem search_first (hits : Int → Bool) (stop : Int) (rounds : Nat) (wall : Int) :
    (search hits stop rounds wall).elim (answers hits stop rounds wall = ∅)
      (IsLeast (answers hits stop rounds wall)) := by
  induction rounds generalizing wall with
  | zero =>
    refine Set.eq_empty_of_forall_notMem ?_
    rintro found ⟨count, fewer, -⟩
    cases fewer
  | succ rounds inductionHypothesis =>
    have later := inductionHypothesis (wall + aMinute)
    rw [search]
    by_cases early : wall ≤ stop
    · rw [if_pos early]
      cases hit : hits wall with
      | true =>
        refine ⟨mem_answers_succ.mpr (.inl ⟨rfl, early, hit⟩), fun found member => ?_⟩
        obtain ⟨count, -, same, -⟩ := member
        unfold aMinute at same
        omega
      | false =>
        have same : answers hits stop (rounds + 1) wall =
            answers hits stop rounds (wall + aMinute) := by
          ext found
          rw [mem_answers_succ, hit]
          simp
        rw [same]
        exact later
    · rw [if_neg early]
      refine Set.eq_empty_of_forall_notMem fun found member => ?_
      have behind := answers_behind member
      obtain ⟨-, -, -, inTime, -⟩ := member
      omega

/-- The instants an expression stands for are the answers of the search. -/
theorem mem_firings {fields : CronFields} {offset after instant : Int}
    (words : ∀ field ∈ [fields.minute, fields.hour, fields.day, fields.month, fields.weekday],
      trim field = field ∧ field ≠ []) :
    instant ∈ firings countedStep fields offset after ↔
      instant + offset ∈ answers fields.hits (firstMinute (after + offset) + 366 * aDay)
        (windowMinutes + 1) (firstMinute (after + offset)) := by
  constructor
  · rintro ⟨later, early, denoted⟩
    have whole := denoted.1
    unfold firstMinute aMinute aDay at *
    refine ⟨((instant - after - 1) / 60000000).toNat, ?_, ?_, by omega,
      (hits_iff words whole).mpr denoted⟩
    · unfold windowMinutes
      omega
    · unfold aMinute
      omega
  · rintro ⟨count, fewer, same, early, hit⟩
    have whole : (instant + offset) % aMinute = 0 := by
      unfold firstMinute aMinute at *
      omega
    refine ⟨?_, ?_, (hits_iff words whole).mp hit⟩ <;> unfold firstMinute aMinute aDay at * <;>
      omega

/-- The search answers the first instant the expression stands for, and nothing if there is none,
where a step that is no positive number counts as 1. -/
theorem cron_next_first {expression : String} {fields : CronFields}
    (parsed : cronFields expression = some fields) (offset after : Int) :
    (∀ instant, cronNextAfter expression (Zone.fixed offset) after = some instant ↔
        IsLeast (firings countedStep fields offset after) instant) ∧
      (cronNextAfter expression (Zone.fixed offset) after = none ↔
        firings countedStep fields offset after = ∅) := by
  have words := cronFields_words parsed
  have answer : cronNextAfter expression (Zone.fixed offset) after =
      (fields.next (after + offset)).map fun wall => wall - offset := by
    rw [cronNextAfter, parsed]
    rfl
  have first := search_first fields.hits (firstMinute (after + offset) + 366 * aDay)
    (windowMinutes + 1) (firstMinute (after + offset))
  rw [answer, CronFields.next]
  cases found : search fields.hits (firstMinute (after + offset) + 366 * aDay)
      (windowMinutes + 1) (firstMinute (after + offset)) with
  | none =>
    rw [found] at first
    have empty : firings countedStep fields offset after = ∅ := by
      refine Set.eq_empty_of_forall_notMem fun instant member => ?_
      have answered := (mem_firings words).mp member
      rw [first] at answered
      exact answered
    simp [empty, IsLeast]
  | some wall =>
    rw [found] at first
    have least : IsLeast (firings countedStep fields offset after) (wall - offset) := by
      refine ⟨(mem_firings words).mpr (by rw [sub_add_cancel]; exact first.1), ?_⟩
      intro instant member
      have behind := first.2 ((mem_firings words).mp member)
      omega
    refine ⟨fun instant => ⟨fun same => ?_, fun other => ?_⟩, ?_⟩
    · obtain rfl := Option.some.inj same
      exact least
    · rw [Option.map_some, least.unique other]
    · refine iff_of_false (by simp) fun empty => ?_
      have member := least.1
      rw [empty] at member
      exact member

/-- Every five minutes in a zone that is an hour ahead. -/
theorem every_five_minutes :
    (∀ instant, cronNextAfter "*/5 * * * *" (Zone.fixed 3600000000) 7 = some instant ↔
        IsLeast (firings countedStep ⟨"*/5".toList, ['*'], ['*'], ['*'], ['*']⟩ 3600000000 7)
          instant) ∧
      (cronNextAfter "*/5 * * * *" (Zone.fixed 3600000000) 7 = none ↔
        firings countedStep ⟨"*/5".toList, ['*'], ['*'], ['*'], ['*']⟩ 3600000000 7 = ∅) :=
  cron_next_first (by decide +kernel) 3600000000 7

/-- A token whose step is no number stands for every number. -/
theorem unreadable_step_fires :
    ¬∀ (expression : String) (fields : CronFields), cronFields expression = some fields →
      ∀ offset after instant : Int,
        cronNextAfter expression (Zone.fixed offset) after = some instant →
          IsLeast (firings positiveStep fields offset after) instant := by
  intro claimed
  have fired : cronNextAfter "*/x * * * *" (Zone.fixed 0) 0 = some 60000000 := by decide +kernel
  obtain ⟨-, -, -, ⟨part, piece, base, width, range, stepped, -⟩, -⟩ :=
    (claimed "*/x * * * *" ⟨"*/x".toList, ['*'], ['*'], ['*'], ['*']⟩ (by decide +kernel)
      0 0 60000000 fired).1
  have one : "*/x".toList.splitOn ',' = ["*/x".toList] := by decide +kernel
  obtain rfl : part = "*/x".toList := by simpa only [one, List.mem_singleton] using piece
  rcases stepped with ⟨absent, -⟩ | ⟨raw, same, step⟩
  · exact absurd absent (by decide)
  · have parts : cut '/' (trim "*/x".toList) = some (['*'], ['x']) := by decide
    obtain ⟨rfl, rfl⟩ := Prod.mk.inj (Option.some.inj (parts.symm.trans same))
    have unread : positiveStep ['x'] = none := by decide
    rw [unread] at step
    cases step

end MeetYou.CronSearch
