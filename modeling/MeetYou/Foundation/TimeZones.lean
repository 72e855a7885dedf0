import Mathlib.Order.Basic
import Mathlib.Tactic.Linarith

/-!
# Time zones as lists of transitions

A time zone is an offset and the transitions that change it. Local time is the instant with the
offset added, so that it repeats a stretch where the offset falls and skips one where it rises. A
local time is read back with a flag that chooses between the two readings of a stretch: the earlier
offset without the flag, and the later one with it.

No local time lies in the stretches of two transitions; a flag could not choose between more than
two readings. The results say when a later local time is read as a later instant.
-/

namespace TimeZones

/-- An instant and the offset from there on. -/
structure Transition where
  start : Int
  offset : Int
deriving DecidableEq

/-- The stretch of local time a transition repeats or skips ends before the next one begins. -/
def Separate : Int → List Transition → Prop
  | _, [] => True
  | _, [_] => True
  | before, first :: second :: rest =>
      first.start + max before first.offset ≤ second.start + min first.offset second.offset ∧
        Separate first.offset (second :: rest)

instance decidableSeparate : ∀ before transitions, Decidable (Separate before transitions)
  | _, [] => isTrue trivial
  | _, [_] => isTrue trivial
  | _, first :: second :: rest =>
      have := decidableSeparate first.offset (second :: rest)
      inferInstanceAs (Decidable (_ ∧ _))

/-- An offset and the transitions behind it. -/
structure Zone where
  before : Int
  transitions : List Transition
  separate : Separate before transitions

/-- The zone with one offset. -/
def Zone.fixed (offset : Int) : Zone := ⟨offset, [], trivial⟩

/-- The last of the first transitions that are passed, with the offset before it. -/
def lastPassed (passed : Int → Transition → Bool) : Int → List Transition →
    Option (Int × Transition)
  | _, [] => none
  | before, transition :: rest =>
      if passed before transition then
        some ((lastPassed passed transition.offset rest).getD (before, transition))
      else none

/-- The offset behind the first transitions that are passed. -/
def offsetWhere (passed : Int → Transition → Bool) (before : Int) (transitions : List Transition) :
    Int :=
  ((lastPassed passed before transitions).map fun last => last.2.offset).getD before

/-- The transition has happened at this instant. -/
def happened (instant : Int) (_ : Int) (transition : Transition) : Bool :=
  decide (transition.start ≤ instant)

/-- A local time is behind the stretch of the transition, or with the flag behind its start. -/
def behind (wall : Int) (fold : Bool) (before : Int) (transition : Transition) : Bool :=
  decide (transition.start +
    (if fold then min before transition.offset else max before transition.offset) ≤ wall)

/-- A transition behind the instant skips the local time, and shows it at its offset by the
instant. -/
def skips (instant wall : Int) : Int → List Transition → Bool
  | _, [] => false
  | before, transition :: rest =>
      (decide (instant < transition.start) && decide (transition.start + before ≤ wall) &&
        decide (wall ≤ instant + transition.offset)) || skips instant wall transition.offset rest

/-- The local time lies in front of the end of the stretch a transition repeats. -/
def repeats (wall : Int) (last : Int × Transition) : Bool :=
  decide (wall < last.2.start + last.1)

/-! ## Readings -/

theorem lastPassed_cons (passed : Int → Transition → Bool) (before : Int)
    (transition : Transition) (rest : List Transition) :
    lastPassed passed before (transition :: rest) =
      if passed before transition then
        some ((lastPassed passed transition.offset rest).getD (before, transition))
      else none := rfl

theorem offsetWhere_cons (passed : Int → Transition → Bool) (before : Int)
    (transition : Transition) (rest : List Transition) :
    offsetWhere passed before (transition :: rest) =
      if passed before transition then offsetWhere passed transition.offset rest else before := by
  rw [offsetWhere, lastPassed_cons, offsetWhere]
  split
  · cases lastPassed passed transition.offset rest with
    | none => rfl
    | some last => rfl
  · rfl

theorem separate_rest {before : Int} {transition : Transition} {rest : List Transition}
    (separate : Separate before (transition :: rest)) : Separate transition.offset rest := by
  cases rest with
  | nil => trivial
  | cons second rest => exact separate.2

/-- Behind a transition, local time is behind the start of its stretch. -/
theorem local_of_happened {before instant : Int} {transition : Transition}
    {rest : List Transition} (separate : Separate before (transition :: rest))
    (elapsed : transition.start ≤ instant) :
    transition.start + min before transition.offset ≤
      instant + offsetWhere (happened instant) transition.offset rest := by
  induction rest generalizing before transition with
  | nil =>
    have least := min_le_right before transition.offset
    change _ ≤ instant + transition.offset
    omega
  | cons second rest inductionHypothesis =>
    rw [offsetWhere_cons]
    split
    · next next =>
      have later := inductionHypothesis separate.2 (of_decide_eq_true next)
      have apart := separate.1
      omega
    · have least := min_le_right before transition.offset
      omega

/-- A local time behind a stretch is read as an instant behind the transition. -/
theorem instant_of_behind {before wall : Int} {transition : Transition} {rest : List Transition}
    (separate : Separate before (transition :: rest))
    (elapsed : transition.start + max before transition.offset ≤ wall) :
    transition.start ≤ wall - offsetWhere (behind wall false) transition.offset rest := by
  induction rest generalizing before transition with
  | nil =>
    change _ ≤ wall - transition.offset
    omega
  | cons second rest inductionHypothesis =>
    rw [offsetWhere_cons]
    split
    · next next =>
      have later := inductionHypothesis separate.2 (by simpa [behind] using next)
      have apart := separate.1
      omega
    · omega

/-- A local time in front of the end of a stretch is not skipped by a later transition. -/
theorem skips_of_before {before instant wall : Int} {transition : Transition}
    {rest : List Transition} (separate : Separate before (transition :: rest))
    (early : wall < transition.start + max before transition.offset) :
    skips instant wall transition.offset rest = false := by
  induction rest generalizing before transition with
  | nil => rfl
  | cons second rest inductionHypothesis =>
    have apart := separate.1
    rw [skips, inductionHypothesis separate.2 (by omega), Bool.or_false]
    have outside : ¬second.start + transition.offset ≤ wall := by omega
    rw [decide_eq_false outside, Bool.and_false, Bool.false_and]

/-! ## Later local times -/

/-- A later local time is read as a later instant without the flag, unless the last transition
repeats it. -/
theorem later_iff_repeats {before instant wall : Int} {transitions : List Transition}
    (separate : Separate before transitions)
    (ahead : instant + offsetWhere (happened instant) before transitions < wall) :
    instant < wall - offsetWhere (behind wall false) before transitions ↔
      (lastPassed (happened instant) before transitions).any (repeats wall) = false := by
  induction transitions generalizing before with
  | nil =>
    refine iff_of_true ?_ rfl
    change instant < wall - before
    change instant + before < wall at ahead
    omega
  | cons transition rest inductionHypothesis =>
    rw [offsetWhere_cons] at ahead ⊢
    rw [lastPassed_cons]
    by_cases elapsed : happened instant before transition = true
    · rw [if_pos elapsed] at ahead ⊢
      have started : transition.start ≤ instant := of_decide_eq_true elapsed
      by_cases passed : behind wall false before transition = true
      · rw [if_pos passed, inductionHypothesis (separate_rest separate) ahead]
        have ended : transition.start + max before transition.offset ≤ wall := by
          simpa [behind] using passed
        cases lastPassed (happened instant) transition.offset rest with
        | none => simp only [Option.getD_none, Option.any_some, Option.any_none, repeats,
            decide_eq_false_iff_not, true_iff, not_lt]; omega
        | some last => rfl
      · rw [if_neg passed]
        have inside : wall < transition.start + max before transition.offset := by
          simpa [behind] using passed
        have only : lastPassed (happened instant) transition.offset rest = none := by
          cases rest with
          | nil => rfl
          | cons second rest =>
            rw [lastPassed_cons, if_neg]
            intro next
            have later := local_of_happened separate.2 (of_decide_eq_true next)
            have apart := separate.1
            rw [offsetWhere_cons, if_pos next] at ahead
            omega
        rw [offsetWhere, only] at ahead
        simp only [Option.map_none, Option.getD_none] at ahead
        simp only [only, Option.getD_none, Option.any_some, repeats, decide_eq_false_iff_not]
        constructor
        · intro later
          omega
        · intro outside
          omega
    · rw [if_neg elapsed] at ahead ⊢
      have ahead' : instant < transition.start := by simpa [happened] using elapsed
      refine iff_of_true ?_ rfl
      split
      · next passed =>
        have later := instant_of_behind separate (by simpa [behind] using passed)
        omega
      · omega

/-- A local time is read with the flag as a later instant, unless a transition still to come skips
it and shows it by then; here for the transitions that are behind the instant. -/
theorem later_iff_skips_behind {before instant wall : Int} {transition : Transition}
    {rest : List Transition} (separate : Separate before (transition :: rest))
    (coming : instant < transition.start)
    (passed : transition.start + min before transition.offset ≤ wall) :
    instant < wall - offsetWhere (behind wall true) transition.offset rest ↔
      skips instant wall before (transition :: rest) = false := by
  induction rest generalizing before transition with
  | nil =>
    change instant < wall - transition.offset ↔ _
    simp only [skips, Bool.or_false, Bool.and_eq_false_iff, decide_eq_false_iff_not]
    omega
  | cons second rest inductionHypothesis =>
    have apart := separate.1
    rw [offsetWhere_cons, skips]
    split
    · next next =>
      have inside : second.start + min transition.offset second.offset ≤ wall := by
        simpa [behind] using next
      rw [inductionHypothesis separate.2 (by omega) inside]
      have outside : ¬wall ≤ instant + transition.offset := by omega
      rw [decide_eq_false outside, Bool.and_false, Bool.false_or]
    · next next =>
      have early : wall < second.start + min transition.offset second.offset := by
        simpa [behind] using next
      have none : skips instant wall transition.offset (second :: rest) = false := by
        have outside : ¬second.start + transition.offset ≤ wall := by omega
        rw [skips, skips_of_before separate.2 (by omega), decide_eq_false outside, Bool.and_false,
          Bool.false_and, Bool.or_false]
      rw [none, Bool.or_false]
      simp only [Bool.and_eq_false_iff, decide_eq_false_iff_not]
      omega

/-- A later local time is read as a later instant with the flag, unless a transition still to come
skips it and shows it by then. -/
theorem later_iff_skips {before instant wall : Int} {transitions : List Transition}
    (separate : Separate before transitions)
    (ahead : instant + offsetWhere (happened instant) before transitions < wall) :
    instant < wall - offsetWhere (behind wall true) before transitions ↔
      skips instant wall before transitions = false := by
  induction transitions generalizing before with
  | nil =>
    refine iff_of_true ?_ rfl
    change instant < wall - before
    change instant + before < wall at ahead
    omega
  | cons transition rest inductionHypothesis =>
    rw [offsetWhere_cons] at ahead ⊢
    by_cases elapsed : happened instant before transition = true
    · have started : transition.start ≤ instant := of_decide_eq_true elapsed
      rw [if_pos elapsed] at ahead
      have least := local_of_happened separate started
      have passed : behind wall true before transition = true := by
        simp only [behind, if_true, decide_eq_true_eq]
        omega
      rw [if_pos passed, inductionHypothesis (separate_rest separate) ahead, skips]
      have gone : ¬instant < transition.start := by omega
      rw [decide_eq_false gone, Bool.false_and, Bool.false_and, Bool.false_or]
    · rw [if_neg elapsed] at ahead
      have coming : instant < transition.start := by simpa [happened] using elapsed
      split
      · next passed =>
        exact later_iff_skips_behind separate coming (by simpa [behind] using passed)
      · next passed =>
        have early : wall < transition.start + min before transition.offset := by
          simpa [behind] using passed
        refine iff_of_true (by omega) ?_
        have outside : ¬transition.start + before ≤ wall := by omega
        rw [skips, skips_of_before separate (by omega), decide_eq_false outside, Bool.and_false,
          Bool.false_and, Bool.or_false]

namespace Zone

/-- The last transition that has happened, with the offset before it. -/
def last (zone : Zone) (instant : Int) : Option (Int × Transition) :=
  lastPassed (happened instant) zone.before zone.transitions

/-- The offset at an instant. -/
def offsetAt (zone : Zone) (instant : Int) : Int :=
  offsetWhere (happened instant) zone.before zone.transitions

/-- The local time at an instant. -/
def toLocal (zone : Zone) (instant : Int) : Int := instant + zone.offsetAt instant

/-- The flag at an instant: its local time was there before, at the offset before the last
transition. -/
def foldAt (zone : Zone) (instant : Int) : Bool :=
  (zone.last instant).any fun last =>
    decide (instant - last.2.start < last.1 - last.2.offset)

/-- The offset a local time is read with. -/
def offsetOf (zone : Zone) (wall : Int) (fold : Bool) : Int :=
  offsetWhere (behind wall fold) zone.before zone.transitions

/-- The instant a local time is read as. -/
def toInstant (zone : Zone) (wall : Int) (fold : Bool) : Int := wall - zone.offsetOf wall fold

/-- The last transition repeats a stretch of local time, and the local time lies in front of the
end of that stretch. -/
def Repeating (zone : Zone) (instant wall : Int) : Bool := (zone.last instant).any (repeats wall)

/-- A transition still to come skips the local time, and shows it at its offset by the instant. -/
def Skipping (zone : Zone) (instant wall : Int) : Bool :=
  skips instant wall zone.before zone.transitions

variable {zone : Zone} {instant wall : Int}

/-- The reading of a later local time without the flag. -/
theorem later_unflagged (ahead : zone.toLocal instant < wall) :
    instant < zone.toInstant wall false ↔ zone.Repeating instant wall = false :=
  later_iff_repeats zone.separate ahead

/-- The reading of a later local time with the flag. -/
theorem later_flagged (ahead : zone.toLocal instant < wall) :
    instant < zone.toInstant wall true ↔ zone.Skipping instant wall = false :=
  later_iff_skips zone.separate ahead

/-- A local time from the instant's on that is repeated belongs to an instant with the flag. -/
theorem foldAt_of_repeating (notAhead : zone.toLocal instant ≤ wall)
    (repeating : zone.Repeating instant wall = true) : zone.foldAt instant = true := by
  rw [toLocal, offsetAt, offsetWhere, ← last] at notAhead
  rw [Repeating] at repeating
  rw [foldAt]
  cases found : zone.last instant with
  | none => rw [found] at repeating; cases repeating
  | some last =>
    rw [found] at notAhead repeating
    simp only [Option.map_some, Option.getD_some] at notAhead
    simp only [Option.any_some, repeats, decide_eq_true_eq] at repeating ⊢
    omega

end Zone

end TimeZones
