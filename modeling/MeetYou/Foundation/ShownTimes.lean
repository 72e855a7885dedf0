import MeetYou.Foundation.TimeZones

/-!
# Local times a clock shows

A local time that a transition skips is shown by no clock of the time zone. It is read all the same:
without the flag at the offset before the transition, as an instant behind it, and with the flag at
the offset from there on.

A clock that a transition sets back shows the local times in between once more, and reads them with
the flag as the later instants.

The results say when an earlier local time is read as an earlier instant, that the reading of a
local time that is shown shows it, and how the clock runs on where it repeats local times.
-/

namespace TimeZones

/-- A transition skips the local time, and the instant lies in front of its reading. -/
def misses (instant wall : Int) : Int → List Transition → Bool
  | _, [] => false
  | before, transition :: rest =>
      (decide (transition.start + before ≤ wall) &&
        decide (wall < transition.start + transition.offset) &&
          decide (instant < wall - before)) || misses instant wall transition.offset rest

/-- The last transition brought local time back, and it has not caught up. -/
def flagged (instant : Int) (last : Int × Transition) : Bool :=
  decide (instant - last.2.start < last.1 - last.2.offset)

/-- A transition has happened from its start on. -/
theorem happened_iff {instant before : Int} {transition : Transition} :
    happened instant before transition = true ↔ transition.start ≤ instant :=
  decide_eq_true_iff

/-- A local time in front of the end of a stretch is not skipped by a later transition. -/
theorem misses_of_before {before instant wall : Int} {transition : Transition}
    {rest : List Transition} (separate : Separate before (transition :: rest))
    (early : wall < transition.start + max before transition.offset) :
    misses instant wall transition.offset rest = false := by
  induction rest generalizing before transition with
  | nil => rfl
  | cons second rest inductionHypothesis =>
    have apart := separate.1
    rw [misses, inductionHypothesis separate.2 (by omega), Bool.or_false]
    have outside : ¬second.start + transition.offset ≤ wall := by omega
    rw [decide_eq_false outside, Bool.false_and, Bool.false_and]

/-- Behind a transition, local time is behind the end of its stretch at the offset from there
on. -/
theorem local_after {before instant : Int} {transition : Transition} {rest : List Transition}
    (separate : Separate before (transition :: rest)) (elapsed : transition.start ≤ instant) :
    transition.start + transition.offset ≤
      instant + offsetWhere (happened instant) transition.offset rest := by
  cases rest with
  | nil =>
    change _ ≤ instant + transition.offset
    omega
  | cons second rest =>
    rw [offsetWhere_cons]
    split
    · next next =>
      have later := local_of_happened separate.2 (of_decide_eq_true next)
      have apart := separate.1
      omega
    · omega

/-- In front of the end of a stretch, the transitions behind it are not passed. -/
theorem rest_not_happened {before instant : Int} {transition : Transition} {rest : List Transition}
    (separate : Separate before (transition :: rest))
    (early : instant + transition.offset < transition.start + max before transition.offset) :
    lastPassed (happened instant) transition.offset rest = none := by
  cases rest with
  | nil => rfl
  | cons second rest =>
    have apart := separate.1
    have ahead : ¬happened instant transition.offset second = true := by
      simp only [happened, decide_eq_true_eq]
      omega
    rw [lastPassed_cons, if_neg ahead]

/-- The same for local times. -/
theorem rest_not_behind {before wall : Int} {fold : Bool} {transition : Transition}
    {rest : List Transition} (separate : Separate before (transition :: rest))
    (early : wall < transition.start + max before transition.offset) :
    lastPassed (behind wall fold) transition.offset rest = none := by
  cases rest with
  | nil => rfl
  | cons second rest =>
    have apart := separate.1
    have ahead : ¬behind wall fold transition.offset second = true := by
      simp only [behind, decide_eq_true_eq]
      split <;> omega
    rw [lastPassed_cons, if_neg ahead]

/-- Before any transition the first offset applies. -/
theorem offsetWhere_of_none {passed : Int → Transition → Bool} {before : Int}
    {transitions : List Transition} (none_ : lastPassed passed before transitions = none) :
    offsetWhere passed before transitions = before := by
  rw [offsetWhere, none_]
  rfl

/-! ## Earlier local times -/

/-- An earlier local time is read as an earlier instant without the flag, unless a transition
skips it and the instant lies in front of its reading. -/
theorem earlier_iff_misses {before instant wall : Int} {transitions : List Transition}
    (separate : Separate before transitions)
    (notBehind : wall ≤ instant + offsetWhere (happened instant) before transitions) :
    wall - offsetWhere (behind wall false) before transitions ≤ instant ↔
      misses instant wall before transitions = false := by
  induction transitions generalizing before with
  | nil =>
    refine iff_of_true ?_ rfl
    change wall - before ≤ instant
    change wall ≤ instant + before at notBehind
    omega
  | cons transition rest inductionHypothesis =>
    rw [offsetWhere_cons] at notBehind ⊢
    rw [misses]
    by_cases passed : behind wall false before transition = true
    · have ended : transition.start + max before transition.offset ≤ wall := by
        simpa [behind] using passed
      rw [if_pos passed]
      have outside : ¬wall < transition.start + transition.offset := by omega
      rw [decide_eq_false outside, Bool.and_false, Bool.false_and, Bool.false_or]
      by_cases elapsed : happened instant before transition = true
      · rw [if_pos elapsed] at notBehind
        exact inductionHypothesis (separate_rest separate) notBehind
      · rw [if_neg elapsed] at notBehind
        have coming : instant < transition.start := by simpa [happened] using elapsed
        omega
    · have inside : wall < transition.start + max before transition.offset := by
        simpa [behind] using passed
      rw [if_neg passed, misses_of_before separate inside, Bool.or_false]
      simp only [Bool.and_eq_false_iff, decide_eq_false_iff_not]
      by_cases elapsed : happened instant before transition = true
      · have started : transition.start ≤ instant := of_decide_eq_true elapsed
        omega
      · rw [if_neg elapsed] at notBehind
        omega

/-- An instant with the flag: a local time that is not behind its own is read with the flag as an
instant that is not behind it. -/
theorem earlier_flagged_where {before instant wall : Int} {transitions : List Transition}
    (separate : Separate before transitions)
    (second : (lastPassed (happened instant) before transitions).any (flagged instant) = true)
    (notBehind : wall ≤ instant + offsetWhere (happened instant) before transitions) :
    wall - offsetWhere (behind wall true) before transitions ≤ instant := by
  induction transitions generalizing before with
  | nil => cases second
  | cons transition rest inductionHypothesis =>
    rw [offsetWhere_cons] at notBehind ⊢
    rw [lastPassed_cons] at second
    by_cases elapsed : happened instant before transition = true
    · have started : transition.start ≤ instant := of_decide_eq_true elapsed
      rw [if_pos elapsed] at notBehind second
      split
      · cases found : lastPassed (happened instant) transition.offset rest with
        | some last =>
          rw [found] at second
          refine inductionHypothesis (separate_rest separate) ?_ notBehind
          rw [found]
          exact second
        | none =>
          rw [found] at second
          simp only [Option.getD_none, Option.any_some, flagged, decide_eq_true_eq] at second
          rw [offsetWhere_of_none found] at notBehind
          have only : lastPassed (behind wall true) transition.offset rest = none :=
            rest_not_behind separate (by omega)
          rw [offsetWhere_of_none only]
          omega
      · next passed =>
        have early : wall < transition.start + min before transition.offset := by
          simpa [behind] using passed
        omega
    · rw [if_neg elapsed] at second
      cases second

/-! ## Local times that are shown -/

/-- A local time that is shown is shown by its readings. -/
theorem reading_shows {before instant reading wall : Int} {fold : Bool}
    {transitions : List Transition} (separate : Separate before transitions)
    (shown : instant + offsetWhere (happened instant) before transitions = wall)
    (read : reading + offsetWhere (behind wall fold) before transitions = wall) :
    reading + offsetWhere (happened reading) before transitions = wall := by
  induction transitions generalizing before with
  | nil => exact read
  | cons transition rest inductionHypothesis =>
    rw [offsetWhere_cons] at shown read ⊢
    by_cases elapsed : happened instant before transition = true
    · rw [if_pos elapsed] at shown
      have after := local_after separate (of_decide_eq_true elapsed)
      rw [shown] at after
      by_cases passed : behind wall fold before transition = true
      · rw [if_pos passed] at read
        have later := inductionHypothesis (separate_rest separate) shown read
        have started : transition.start ≤ reading := by
          by_contra early
          have only : lastPassed (happened reading) transition.offset rest = none :=
            rest_not_happened separate (by omega)
          rw [offsetWhere_of_none only] at later
          omega
        rw [if_pos (happened_iff.mpr started)]
        exact later
      · rw [if_neg passed] at read
        simp only [behind, decide_eq_true_eq, not_le] at passed
        have coming : reading < transition.start := by split at passed <;> omega
        rw [if_neg (by simpa [happened] using coming)]
        exact read
    · rw [if_neg elapsed] at shown
      have coming : instant < transition.start := by simpa [happened] using elapsed
      by_cases passed : behind wall fold before transition = true
      · rw [if_pos passed] at read
        have none_ : lastPassed (behind wall fold) transition.offset rest = none :=
          rest_not_behind separate (by omega)
        rw [offsetWhere_of_none none_] at read
        simp only [behind, decide_eq_true_eq] at passed
        have started : transition.start ≤ reading := by split at passed <;> omega
        have only : lastPassed (happened reading) transition.offset rest = none :=
          rest_not_happened separate (by omega)
        rw [if_pos (happened_iff.mpr started), offsetWhere_of_none only]
        exact read
      · rw [if_neg passed] at read
        have same : reading = instant := by omega
        rw [same, if_neg elapsed]
        exact shown

/-- The first reading of a local time that is shown has no flag. -/
theorem reading_unflagged {before instant reading wall : Int} {transitions : List Transition}
    (separate : Separate before transitions)
    (shown : instant + offsetWhere (happened instant) before transitions = wall)
    (read : reading + offsetWhere (behind wall false) before transitions = wall) :
    (lastPassed (happened reading) before transitions).any (flagged reading) = false := by
  induction transitions generalizing before with
  | nil => rfl
  | cons transition rest inductionHypothesis =>
    rw [offsetWhere_cons] at shown read
    rw [lastPassed_cons]
    by_cases started : happened reading before transition = true
    · rw [if_pos started]
      have begun : transition.start ≤ reading := of_decide_eq_true started
      by_cases passed : behind wall false before transition = true
      · rw [if_pos passed] at read
        have ended : transition.start + max before transition.offset ≤ wall := by
          simpa [behind] using passed
        have elapsed : happened instant before transition = true := by
          by_contra early
          rw [if_neg early] at shown
          simp only [happened, decide_eq_true_eq, not_le] at early
          omega
        rw [if_pos elapsed] at shown
        have later := inductionHypothesis (separate_rest separate) shown read
        cases found : lastPassed (happened reading) transition.offset rest with
        | some last =>
          rw [found] at later
          exact later
        | none =>
          have shows := reading_shows (separate_rest separate) shown read
          rw [offsetWhere_of_none found] at shows
          simp only [Option.getD_none, Option.any_some, flagged, decide_eq_false_iff_not]
          omega
      · rw [if_neg passed] at read
        have inside : wall < transition.start + max before transition.offset := by
          simpa [behind] using passed
        exfalso
        by_cases elapsed : happened instant before transition = true
        · rw [if_pos elapsed] at shown
          have after := local_after separate (of_decide_eq_true elapsed)
          omega
        · rw [if_neg elapsed] at shown
          simp only [happened, decide_eq_true_eq, not_le] at elapsed
          omega
    · rw [if_neg started]
      rfl

/-- A local time that is shown is not skipped. -/
theorem shown_not_missed {before instant wall : Int} {transitions : List Transition}
    (separate : Separate before transitions)
    (shown : instant + offsetWhere (happened instant) before transitions = wall) (other : Int) :
    misses other wall before transitions = false := by
  induction transitions generalizing before with
  | nil => rfl
  | cons transition rest inductionHypothesis =>
    rw [offsetWhere_cons] at shown
    rw [misses]
    by_cases elapsed : happened instant before transition = true
    · rw [if_pos elapsed] at shown
      have after := local_after separate (of_decide_eq_true elapsed)
      rw [inductionHypothesis (separate_rest separate) shown, Bool.or_false]
      have outside : ¬wall < transition.start + transition.offset := by omega
      rw [decide_eq_false outside, Bool.and_false, Bool.false_and]
    · rw [if_neg elapsed] at shown
      have coming : instant < transition.start := by simpa [happened] using elapsed
      rw [misses_of_before separate (by omega), Bool.or_false]
      have outside : ¬transition.start + before ≤ wall := by omega
      rw [decide_eq_false outside, Bool.false_and, Bool.false_and]

/-- A local time is read without the flag as an instant that shows it or a later one. -/
theorem reading_not_before {before reading wall : Int} {transitions : List Transition}
    (separate : Separate before transitions)
    (read : reading + offsetWhere (behind wall false) before transitions = wall) :
    wall ≤ reading + offsetWhere (happened reading) before transitions := by
  induction transitions generalizing before with
  | nil => exact read.ge
  | cons transition rest inductionHypothesis =>
    rw [offsetWhere_cons] at read ⊢
    by_cases passed : behind wall false before transition = true
    · rw [if_pos passed] at read
      have ended : transition.start + max before transition.offset ≤ wall := by
        simpa [behind] using passed
      have started := instant_of_behind separate ended
      have same : wall - offsetWhere (behind wall false) transition.offset rest = reading := by
        omega
      rw [same] at started
      rw [if_pos (happened_iff.mpr started)]
      exact inductionHypothesis (separate_rest separate) read
    · rw [if_neg passed] at read
      have inside : wall < transition.start + max before transition.offset := by
        simpa [behind] using passed
      split
      · next elapsed =>
        have started : transition.start ≤ reading := of_decide_eq_true elapsed
        have after := local_after separate started
        omega
      · omega

/-- An instant without the flag shows the latest local time so far. -/
theorem latest_of_unflagged {before earlier instant : Int} {transitions : List Transition}
    (separate : Separate before transitions)
    (first : (lastPassed (happened instant) before transitions).any (flagged instant) = false)
    (notBehind : earlier ≤ instant) :
    earlier + offsetWhere (happened earlier) before transitions ≤
      instant + offsetWhere (happened instant) before transitions := by
  induction transitions generalizing before with
  | nil => exact Int.add_le_add_right notBehind before
  | cons transition rest inductionHypothesis =>
    rw [offsetWhere_cons, offsetWhere_cons]
    rw [lastPassed_cons] at first
    by_cases elapsed : happened instant before transition = true
    · have started : transition.start ≤ instant := of_decide_eq_true elapsed
      rw [if_pos elapsed] at first ⊢
      split
      · refine inductionHypothesis (separate_rest separate) ?_
        cases found : lastPassed (happened instant) transition.offset rest with
        | none => rfl
        | some last =>
          rw [found] at first
          exact first
      · next early =>
        have coming : earlier < transition.start := by simpa [happened] using early
        cases rest with
        | nil =>
          simp only [lastPassed, Option.getD_none, Option.any_some, flagged,
            decide_eq_false_iff_not] at first
          change _ ≤ instant + transition.offset
          omega
        | cons second rest =>
          by_cases next : happened instant transition.offset second = true
          · have later := local_of_happened separate.2 (of_decide_eq_true next)
            have apart := separate.1
            rw [offsetWhere_cons, if_pos next]
            omega
          · rw [lastPassed_cons, if_neg next] at first
            simp only [Option.getD_none, Option.any_some, flagged,
              decide_eq_false_iff_not] at first
            rw [offsetWhere_cons, if_neg next]
            omega
    · have coming : instant < transition.start := by simpa [happened] using elapsed
      have early : ¬happened earlier before transition = true := by
        simp only [happened, decide_eq_true_eq]
        omega
      rw [if_neg elapsed, if_neg early]
      omega

/-! ## Local times that are shown again -/

/-- Where the clock does not show a later local time than before, the last transition repeats what
lies between. -/
theorem repeats_of_set_back {before earlier instant wall : Int} {transitions : List Transition}
    (separate : Separate before transitions) (sooner : earlier < instant)
    (notAhead : instant + offsetWhere (happened instant) before transitions ≤ wall)
    (reached : wall ≤ earlier + offsetWhere (happened earlier) before transitions) :
    (lastPassed (happened instant) before transitions).any (repeats wall) = true := by
  induction transitions generalizing before with
  | nil =>
    change instant + before ≤ wall at notAhead
    change wall ≤ earlier + before at reached
    omega
  | cons transition rest inductionHypothesis =>
    rw [offsetWhere_cons] at notAhead reached
    rw [lastPassed_cons]
    by_cases elapsed : happened instant before transition = true
    · rw [if_pos elapsed] at notAhead ⊢
      by_cases early : happened earlier before transition = true
      · rw [if_pos early] at reached
        have later := inductionHypothesis (separate_rest separate) notAhead reached
        cases found : lastPassed (happened instant) transition.offset rest with
        | none =>
          rw [found] at later
          cases later
        | some last =>
          rw [found] at later
          exact later
      · rw [if_neg early] at reached
        have coming : earlier < transition.start := by simpa [happened] using early
        have least := le_max_left before transition.offset
        cases rest with
        | nil =>
          simp only [lastPassed, Option.getD_none, Option.any_some, repeats, decide_eq_true_eq]
          omega
        | cons second rest =>
          have ahead : ¬happened instant transition.offset second = true := by
            intro next
            have later := local_of_happened separate.2 (of_decide_eq_true next)
            have apart := separate.1
            rw [offsetWhere_cons, if_pos next] at notAhead
            omega
          rw [lastPassed_cons, if_neg ahead]
          simp only [Option.getD_none, Option.any_some, repeats, decide_eq_true_eq]
          omega
    · have coming : instant < transition.start := by simpa [happened] using elapsed
      have early : ¬happened earlier before transition = true := by
        simp only [happened, decide_eq_true_eq]
        omega
      rw [if_neg elapsed] at notAhead
      rw [if_neg early] at reached
      omega

/-- In front of a later instant that shows no later local time, the clock is not behind. -/
theorem unflagged_of_set_back {before earlier instant : Int} {transitions : List Transition}
    (separate : Separate before transitions) (sooner : earlier < instant)
    (notAhead : instant + offsetWhere (happened instant) before transitions ≤
      earlier + offsetWhere (happened earlier) before transitions) :
    (lastPassed (happened earlier) before transitions).any (flagged earlier) = false := by
  induction transitions generalizing before with
  | nil => rfl
  | cons transition rest inductionHypothesis =>
    rw [offsetWhere_cons, offsetWhere_cons] at notAhead
    rw [lastPassed_cons]
    by_cases early : happened earlier before transition = true
    · have started : transition.start ≤ earlier := of_decide_eq_true early
      have elapsed : happened instant before transition = true :=
        decide_eq_true (started.trans sooner.le)
      rw [if_pos early, if_pos elapsed] at notAhead
      rw [if_pos early]
      have later := inductionHypothesis (separate_rest separate) notAhead
      cases found : lastPassed (happened earlier) transition.offset rest with
      | some last =>
        rw [found] at later
        exact later
      | none =>
        simp only [Option.getD_none, Option.any_some, flagged, decide_eq_false_iff_not]
        intro behind_
        rw [offsetWhere_of_none found] at notAhead
        have least := le_max_left before transition.offset
        cases rest with
        | nil =>
          change instant + transition.offset ≤ _ at notAhead
          omega
        | cons second rest =>
          by_cases next : happened instant transition.offset second = true
          · have reached := local_of_happened separate.2 (of_decide_eq_true next)
            have apart := separate.1
            rw [offsetWhere_cons, if_pos next] at notAhead
            omega
          · rw [offsetWhere_cons, if_neg next] at notAhead
            omega
    · rw [if_neg early]
      rfl

/-- Until the clock shows a local time that the last transition repeats, no transition happens. -/
theorem lastPassed_of_repeats {before instant later wall : Int} {transitions : List Transition}
    (separate : Separate before transitions)
    (again : (lastPassed (happened instant) before transitions).any (repeats wall) = true)
    (notBehind : instant ≤ later)
    (upTo : later + offsetWhere (happened instant) before transitions ≤ wall) :
    lastPassed (happened later) before transitions =
      lastPassed (happened instant) before transitions := by
  induction transitions generalizing before with
  | nil => rfl
  | cons transition rest inductionHypothesis =>
    rw [offsetWhere_cons] at upTo
    rw [lastPassed_cons] at again ⊢
    rw [lastPassed_cons]
    by_cases elapsed : happened instant before transition = true
    · have started : transition.start ≤ instant := of_decide_eq_true elapsed
      have also : happened later before transition = true :=
        decide_eq_true (started.trans notBehind)
      rw [if_pos elapsed] at again upTo ⊢
      rw [if_pos also]
      cases found : lastPassed (happened instant) transition.offset rest with
      | some last =>
        rw [found] at again
        rw [inductionHypothesis (separate_rest separate) (by rw [found]; exact again) upTo, found]
      | none =>
        rw [found] at again
        simp only [Option.getD_none, Option.any_some, repeats, decide_eq_true_eq] at again
        rw [offsetWhere_of_none found] at upTo
        have least := le_max_left before transition.offset
        rw [rest_not_happened separate (by omega)]
    · rw [if_neg elapsed] at again
      cases again

/-- A local time that the last transition repeats is read with the flag at the offset from there
on. -/
theorem offsetWhere_of_repeats {before instant wall : Int} {transitions : List Transition}
    (separate : Separate before transitions)
    (again : (lastPassed (happened instant) before transitions).any (repeats wall) = true)
    (notAhead : instant + offsetWhere (happened instant) before transitions ≤ wall) :
    offsetWhere (behind wall true) before transitions =
      offsetWhere (happened instant) before transitions := by
  induction transitions generalizing before with
  | nil => rfl
  | cons transition rest inductionHypothesis =>
    rw [offsetWhere_cons] at notAhead ⊢
    rw [lastPassed_cons] at again
    rw [offsetWhere_cons]
    by_cases elapsed : happened instant before transition = true
    · have started : transition.start ≤ instant := of_decide_eq_true elapsed
      rw [if_pos elapsed] at again notAhead ⊢
      have least := local_of_happened separate started
      have passed : behind wall true before transition = true := by
        simp only [behind, if_true, decide_eq_true_eq]
        omega
      rw [if_pos passed]
      cases found : lastPassed (happened instant) transition.offset rest with
      | some last =>
        rw [found] at again
        exact inductionHypothesis (separate_rest separate) (by rw [found]; exact again) notAhead
      | none =>
        rw [found] at again
        simp only [Option.getD_none, Option.any_some, repeats, decide_eq_true_eq] at again
        have greatest := le_max_left before transition.offset
        rw [offsetWhere_of_none found, offsetWhere_of_none (rest_not_behind separate (by omega))]
    · rw [if_neg elapsed] at again
      cases again

/-- A local time is read with the flag as an instant that shows it or an earlier one. -/
theorem reading_not_behind {before reading wall : Int} {transitions : List Transition}
    (separate : Separate before transitions)
    (read : reading + offsetWhere (behind wall true) before transitions = wall) :
    reading + offsetWhere (happened reading) before transitions ≤ wall := by
  induction transitions generalizing before with
  | nil => exact read.le
  | cons transition rest inductionHypothesis =>
    rw [offsetWhere_cons] at read ⊢
    by_cases passed : behind wall true before transition = true
    · rw [if_pos passed] at read
      have begun : transition.start + min before transition.offset ≤ wall := by
        simpa [behind] using passed
      by_cases elapsed : happened reading before transition = true
      · rw [if_pos elapsed]
        exact inductionHypothesis (separate_rest separate) read
      · rw [if_neg elapsed]
        have coming : reading < transition.start := by simpa [happened] using elapsed
        by_cases inside : wall < transition.start + max before transition.offset
        · rw [offsetWhere_of_none (rest_not_behind separate inside)] at read
          omega
        · omega
    · rw [if_neg passed] at read
      have early : wall < transition.start + min before transition.offset := by
        simpa [behind] using passed
      have coming : ¬happened reading before transition = true := by
        simp only [happened, decide_eq_true_eq]
        omega
      rw [if_neg coming]
      exact read.le

namespace Zone

/-- A transition skips the local time, and the instant lies in front of its reading. -/
def Missing (zone : Zone) (instant wall : Int) : Bool :=
  misses instant wall zone.before zone.transitions

/-- A clock of the time zone shows the local time. -/
def Shows (zone : Zone) (wall : Int) : Bool :=
  decide (zone.toLocal (zone.toInstant wall false) = wall)

variable {zone : Zone} {instant wall : Int}

/-- The reading of an earlier local time without the flag. -/
theorem earlier_unflagged (notBehind : wall ≤ zone.toLocal instant) :
    zone.toInstant wall false ≤ instant ↔ zone.Missing instant wall = false :=
  earlier_iff_misses zone.separate notBehind

/-- The reading of an earlier local time with the flag, for an instant that has it. -/
theorem earlier_flagged (second : zone.foldAt instant = true)
    (notBehind : wall ≤ zone.toLocal instant) : zone.toInstant wall true ≤ instant :=
  earlier_flagged_where zone.separate second notBehind

/-- A local time is shown when it is read without the flag as an instant that shows it. -/
theorem shows_iff : zone.Shows wall = true ↔ zone.toLocal (zone.toInstant wall false) = wall :=
  decide_eq_true_iff

/-- A shown local time is shown by both of its readings. -/
theorem toLocal_toInstant (shown : zone.Shows wall = true) (fold : Bool) :
    zone.toLocal (zone.toInstant wall fold) = wall := by
  have read : zone.toInstant wall fold + zone.offsetOf wall fold = wall := by
    rw [toInstant]
    omega
  exact reading_shows zone.separate (shows_iff.mp shown) read

/-- The reading without the flag is the first time that it is shown. -/
theorem foldAt_toInstant (shown : zone.Shows wall = true) :
    zone.foldAt (zone.toInstant wall false) = false := by
  have read : zone.toInstant wall false + zone.offsetOf wall false = wall := by
    rw [toInstant]
    omega
  exact reading_unflagged zone.separate (shows_iff.mp shown) read

/-- A local time that is shown is read behind no instant with a later one. -/
theorem Shows.earlier (shown : zone.Shows wall = true) (notBehind : wall ≤ zone.toLocal instant) :
    zone.toInstant wall false ≤ instant :=
  (earlier_unflagged notBehind).mpr (shown_not_missed zone.separate (shows_iff.mp shown) instant)

/-- A local time is read without the flag as an instant that shows it or a later one. -/
theorem le_toLocal_toInstant (zone : Zone) (wall : Int) :
    wall ≤ zone.toLocal (zone.toInstant wall false) := by
  have read : zone.toInstant wall false + zone.offsetOf wall false = wall := by
    rw [toInstant]
    omega
  exact reading_not_before zone.separate read

/-- An instant without the flag shows the latest local time so far. -/
theorem toLocal_le_of_unflagged {earlier : Int} (first : zone.foldAt instant = false)
    (notBehind : earlier ≤ instant) : zone.toLocal earlier ≤ zone.toLocal instant :=
  latest_of_unflagged zone.separate first notBehind

/-- A local time that an instant shows is shown. -/
theorem shows_of_toLocal (shown : zone.toLocal instant = wall) : zone.Shows wall = true := by
  have read : zone.toInstant wall false + zone.offsetOf wall false = wall := by
    rw [toInstant]
    omega
  exact shows_iff.mpr (reading_shows zone.separate shown read)

/-- The reading without the flag is the earlier one. -/
theorem readings_le (shown : zone.Shows wall = true) :
    zone.toInstant wall false ≤ zone.toInstant wall true :=
  Shows.earlier shown (toLocal_toInstant shown true).ge

/-- A clock that shows less than before repeats what lies between. -/
theorem repeating_of_set_back {earlier : Int} (sooner : earlier < instant)
    (notAhead : zone.toLocal instant ≤ wall) (reached : wall ≤ zone.toLocal earlier) :
    zone.Repeating instant wall = true :=
  repeats_of_set_back zone.separate sooner notAhead reached

/-- What is repeated later had no flag the first time. -/
theorem foldAt_of_set_back {earlier : Int} (sooner : earlier < instant)
    (notAhead : zone.toLocal instant ≤ zone.toLocal earlier) : zone.foldAt earlier = false :=
  unflagged_of_set_back zone.separate sooner notAhead

/-- Where a local time is repeated, earlier ones that are still to come are repeated, too. -/
theorem repeating_earlier {other : Int} (repeating : zone.Repeating instant wall = true)
    (notBehind : other ≤ wall) : zone.Repeating instant other = true := by
  rw [Repeating, Option.any_eq_true] at repeating ⊢
  obtain ⟨last, found, inside⟩ := repeating
  simp only [repeats, decide_eq_true_eq] at inside
  exact ⟨last, found, decide_eq_true (by omega)⟩

/-- Until it shows a repeated local time again, the clock is not changed. -/
theorem last_of_repeating {later : Int} (repeating : zone.Repeating instant wall = true)
    (notBehind : instant ≤ later) (upTo : zone.toLocal instant + (later - instant) ≤ wall) :
    zone.last later = zone.last instant := by
  refine lastPassed_of_repeats zone.separate repeating notBehind ?_
  change later + zone.offsetAt instant ≤ wall
  rw [toLocal] at upTo
  omega

/-- Until then the clock runs on steadily. -/
theorem toLocal_of_repeating {later : Int} (repeating : zone.Repeating instant wall = true)
    (notBehind : instant ≤ later) (upTo : zone.toLocal instant + (later - instant) ≤ wall) :
    zone.toLocal later = zone.toLocal instant + (later - instant) := by
  have same : zone.offsetAt later = zone.offsetAt instant := by
    rw [offsetAt, offsetWhere, ← last, last_of_repeating repeating notBehind upTo]
    rfl
  rw [toLocal, toLocal, same]
  omega

/-- The reading of a repeated local time with the flag. -/
theorem toInstant_of_repeating (repeating : zone.Repeating instant wall = true)
    (notAhead : zone.toLocal instant ≤ wall) :
    zone.toInstant wall true = instant + (wall - zone.toLocal instant) := by
  have same : zone.offsetOf wall true = zone.offsetAt instant :=
    offsetWhere_of_repeats zone.separate repeating notAhead
  rw [toInstant, same, toLocal]
  omega

/-- A repeated local time is shown. -/
theorem shows_of_repeating (repeating : zone.Repeating instant wall = true)
    (notAhead : zone.toLocal instant ≤ wall) : zone.Shows wall = true := by
  have there := @toLocal_of_repeating zone instant wall
    (instant + (wall - zone.toLocal instant)) repeating (by omega) (by omega)
  exact shows_of_toLocal (there.trans (by omega))

/-- A local time that is read twice has the flag where it is read with it. -/
theorem foldAt_second (shown : zone.Shows wall = true)
    (twice : zone.toInstant wall false ≠ zone.toInstant wall true) :
    zone.foldAt (zone.toInstant wall true) = true := by
  have second := toLocal_toInstant shown true
  have repeating := repeating_of_set_back (lt_of_le_of_ne (readings_le shown) twice) second.le
    (toLocal_toInstant shown false).ge
  exact foldAt_of_repeating second.le repeating

/-- A local time that is skipped is read with the flag by the time the clock is behind it. -/
theorem skipped_flagged (skipped : zone.Shows wall = false)
    (notBehind : wall ≤ zone.toLocal instant) : zone.toInstant wall true ≤ instant := by
  by_contra ahead
  have read : zone.toInstant wall true + zone.offsetOf wall true = wall := by
    rw [toInstant]
    omega
  have notAhead : zone.toLocal (zone.toInstant wall true) ≤ wall :=
    reading_not_behind zone.separate read
  have repeating := repeating_of_set_back (not_le.mp ahead) notAhead notBehind
  rw [shows_of_repeating repeating notAhead] at skipped
  cases skipped

end Zone

end TimeZones
