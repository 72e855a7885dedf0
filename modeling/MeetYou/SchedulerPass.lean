import Mathlib.Data.String.Basic
import MeetYou.Foundation.Runs
import MeetYou.Foundation.Text
import MeetYou.ScheduledJobs

/-!
# One pass of the scheduler

A pass lists the due jobs, oldest firing time first, and runs each one whose
lease it can take. A job that raises gives its lease back and raises on, past the
rest of the list, so the pass ends there; its firing time stays in the past.

`attemptsEveryLease_iff` says which passes attempt every job they could: behind a
failing job nothing may stand that was not taken before it, and
`passes_attempt_every_lease_iff` says it of pass after pass. What happens over
many passes otherwise is `raising_head_starves`: an oldest due job that keeps
failing is the only one ever attempted.
-/

namespace MeetYou.SchedulerPass

open ScheduledJobs

/-- How a run of a job ends; a completed run is marked at a clock reading. -/
inductive Outcome where
  | raises
  | completes (firedAt : Instant)
deriving DecidableEq

/-- What a pass does not decide for itself: its clock readings and the outcome of
each job it runs. -/
structure Pass where
  now : Instant
  missingAt : JobId → Instant
  acquireAt : JobId → Instant
  outcome : JobId → Outcome

/-- What a pass leaves behind: the table, the jobs it ran in order, and the seconds
to the next pass. -/
structure PassResult where
  jobs : Jobs
  attempted : List JobId
  waitSeconds : Int

section
variable {κ : Type} [LinearOrder κ] {collate : JobId → κ}
variable (queries : Queries collate) (computeNextFireAt : NextFire) (leaseOwner : String)

/-- The loop over the listed jobs. -/
def sweep (pass : Pass) : List (JobId × ScheduledJob) → Jobs → Jobs × List JobId
  | [], jobs => (jobs, [])
  | (listedId, listed) :: rest, jobs =>
      let jobId := Text.strip listedId
      if jobId = "" ∨ listed.enabled = false then sweep pass rest jobs
      else
        match acquireDueLease jobs jobId (pass.acquireAt listedId) leaseOwner 300 with
        | none => sweep pass rest jobs
        | some (_, leasedJobs) =>
            match pass.outcome jobId with
            | .raises => (releaseLease leasedJobs jobId, [jobId])
            | .completes firedAt =>
                let swept := sweep pass rest
                  (markFired computeNextFireAt leasedJobs jobId firedAt)
                (swept.1, jobId :: swept.2)

/-- The seconds to wait: up to the next firing time, between 1 and 30. -/
def waitSeconds (jobs : Jobs) (now : Instant) : Int :=
  match nextFireAt jobs with
  | none => 30
  | some fireAt => max 1 (min 30 ((fireAt - now).tdiv (seconds 1) + 1))

/-- The table once the missing firing times are filled in. -/
def prepared (jobs : Jobs) (pass : Pass) : Jobs :=
  ensureMissingNextFireTimes queries computeNextFireAt jobs pass.missingAt 100

/-- The due jobs a pass lists. -/
def listed (jobs : Jobs) (pass : Pass) : List (JobId × ScheduledJob) :=
  listDue queries (prepared queries computeNextFireAt jobs pass) pass.now 50

/-- The body of the loop of `scheduler_processor`. -/
def schedulerPass (jobs : Jobs) (pass : Pass) : PassResult :=
  let filled := prepared queries computeNextFireAt jobs pass
  let swept := sweep computeNextFireAt leaseOwner pass
    (listDue queries filled pass.now 50) filled
  { jobs := swept.1, attempted := swept.2, waitSeconds := waitSeconds filled pass.now }

/-- One pass after another over the same table. -/
def tick (jobs : Jobs) (pass : Pass) : Option Jobs :=
  some (schedulerPass queries computeNextFireAt leaseOwner jobs pass).jobs

/-- A listed job whose lease can be taken, from the table the pass starts with. -/
def leasable (jobs : Jobs) (pass : Pass) (entry : JobId × ScheduledJob) : Bool :=
  decide (Text.strip entry.1 ≠ "") && entry.2.enabled &&
    canAcquire jobs (Text.strip entry.1) (pass.acquireAt entry.1)

/-- The jobs of a list whose lease can be taken, in their order. -/
def turnsOf (jobs : Jobs) (pass : Pass) (entries : List (JobId × ScheduledJob)) : List JobId :=
  (entries.filter (leasable jobs pass)).map fun entry => Text.strip entry.1

/-- The due jobs of a pass whose lease it can take, oldest first. -/
def turns (jobs : Jobs) (pass : Pass) : List JobId :=
  turnsOf (prepared queries computeNextFireAt jobs pass) pass
    (listed queries computeNextFireAt jobs pass)

/-- The pass attempts every due job whose lease it can take. -/
def AttemptsEveryLease (jobs : Jobs) (pass : Pass) : Prop :=
  ∀ jobId ∈ turns queries computeNextFireAt jobs pass,
    jobId ∈ (schedulerPass queries computeNextFireAt leaseOwner jobs pass).attempted

/-- Behind a failing job stands nothing that was not taken before it. -/
def NothingBehind (outcome : JobId → Outcome) (turns : List JobId) : Prop :=
  ∀ front failing back, turns = front ++ failing :: back → outcome failing = .raises →
    ∀ jobId ∈ back, jobId ∈ front ++ [failing]

/-- The job comes no later than the first failing one. -/
def Reached (outcome : JobId → Outcome) : List JobId → JobId → Prop
  | [], _ => False
  | first :: rest, jobId =>
      jobId = first ∨ (outcome first ≠ .raises ∧ Reached outcome rest jobId)

/-- A reached job stands at or before every failing one. -/
theorem Reached.before {outcome : JobId → Outcome} {jobId failing : JobId}
    {front back : List JobId} (reached : Reached outcome (front ++ failing :: back) jobId)
    (fails : outcome failing = .raises) : jobId ∈ front ++ [failing] := by
  induction front with
  | nil =>
    rcases reached with same | ⟨quiet, _⟩
    · simp [same]
    · exact absurd fails quiet
  | cons first rest inductionHypothesis =>
    rcases reached with same | ⟨_, below⟩
    · simp [same]
    · exact List.mem_cons_of_mem first (inductionHypothesis below)

/-- Nothing stands behind a failing job exactly when every job is reached. -/
theorem nothingBehind_iff_reached (outcome : JobId → Outcome) (turns : List JobId) :
    NothingBehind outcome turns ↔ ∀ jobId ∈ turns, Reached outcome turns jobId := by
  constructor
  · intro nothing
    have reach : ∀ front back, (∀ jobId ∈ front, outcome jobId ≠ .raises) →
        NothingBehind outcome (front ++ back) →
        ∀ jobId ∈ back, jobId ∉ front → Reached outcome back jobId := by
      intro front back
      induction back generalizing front with
      | nil => intro _ _ jobId member; cases member
      | cons first rest inductionHypothesis =>
        intro quiet nothing jobId member fresh
        by_cases same : jobId = first
        · exact Or.inl same
        · have below : jobId ∈ rest := (List.mem_cons.mp member).resolve_left same
          by_cases fails : outcome first = .raises
          · have before := nothing front first rest rfl fails jobId below
            rw [List.mem_append, List.mem_singleton] at before
            exact absurd before (not_or.mpr ⟨fresh, same⟩)
          · refine Or.inr ⟨fails, inductionHypothesis (front ++ [first]) ?_ ?_ jobId below ?_⟩
            · intro earlier listed
              rcases List.mem_append.mp listed with inFront | single
              · exact quiet earlier inFront
              · rw [List.mem_singleton.mp single]
                exact fails
            · rwa [List.append_assoc]
            · rw [List.mem_append, List.mem_singleton]
              exact not_or.mpr ⟨fresh, same⟩
    exact fun jobId member => reach [] turns (fun _ none => absurd none List.not_mem_nil) nothing
      jobId member List.not_mem_nil
  · rintro reached front failing back rfl fails jobId member
    exact (reached jobId (List.mem_append_right front (List.mem_cons_of_mem failing member))).before
      fails

theorem turnsOf_cons (start : Jobs) (pass : Pass) (entry : JobId × ScheduledJob)
    (rest : List (JobId × ScheduledJob)) :
    turnsOf start pass (entry :: rest) =
      if leasable start pass entry then Text.strip entry.1 :: turnsOf start pass rest
      else turnsOf start pass rest := by
  by_cases turn : leasable start pass entry = true
  · simp [turnsOf, turn]
  · simp [turnsOf, turn]

/-- A further turn of a job that completes does not change whether another job is
reached. -/
theorem reached_quiet_turn {start : Jobs} {pass : Pass} (entry : JobId × ScheduledJob)
    (rest : List (JobId × ScheduledJob)) {jobId : JobId} (other : jobId ≠ Text.strip entry.1)
    (quiet : leasable start pass entry = true →
      pass.outcome (Text.strip entry.1) ≠ .raises) :
    Reached pass.outcome (turnsOf start pass (entry :: rest)) jobId ↔
      Reached pass.outcome (turnsOf start pass rest) jobId := by
  rw [turnsOf_cons]
  by_cases turn : leasable start pass entry = true
  · simp [turn, Reached, other, quiet turn]
  · simp [turn]

/-- Running one job and marking it fired rewrites no other row. -/
theorem markFired_acquired_get {jobs leasedJobs : Jobs} {target tested : JobId} {now : Instant}
    {leased : ScheduledJob}
    (acquired : acquireDueLease jobs target now leaseOwner 300 = some (leased, leasedJobs))
    (firedAt : Instant) (different : target ≠ tested) :
    (markFired computeNextFireAt leasedJobs target firedAt).get tested = jobs.get tested := by
  rw [markFired, Dict.get_revise_ne _ _ different, acquireDueLease_get acquired different]

/-- A sweep attempts the jobs its list reaches.

The induction carries the identifiers already taken: their rows may differ from
the first table, but each was taken by a completed run, so a further turn of the
same job changes neither what was attempted nor whether the sweep goes on. -/
theorem mem_sweep (pass : Pass) (start : Jobs) (entries : List (JobId × ScheduledJob))
    (jobs : Jobs) (taken : List JobId)
    (same : ∀ jobId, jobId ∉ taken → jobs.get jobId = start.get jobId)
    (quiet : ∀ jobId ∈ taken, pass.outcome jobId ≠ .raises) (jobId : JobId)
    (fresh : jobId ∉ taken) :
    jobId ∈ (sweep computeNextFireAt leaseOwner pass entries jobs).2 ↔
      Reached pass.outcome (turnsOf start pass entries) jobId := by
  induction entries generalizing jobs taken with
  | nil => simp [sweep, turnsOf, Reached]
  | cons entry rest inductionHypothesis =>
    obtain ⟨listedId, row⟩ := entry
    simp only [sweep]
    by_cases skipped : Text.strip listedId = "" ∨ row.enabled = false
    · have noTurn : ¬ leasable start pass (listedId, row) = true := by
        rcases skipped with unnamed | disabled
        · simp [leasable, unnamed]
        · simp [leasable, disabled]
      rw [if_pos skipped, inductionHypothesis jobs taken same quiet fresh, turnsOf_cons,
        if_neg noTurn]
    · rw [if_neg skipped]
      obtain ⟨named, enabled⟩ := not_or.mp skipped
      have turn : leasable start pass (listedId, row) =
          canAcquire start (Text.strip listedId) (pass.acquireAt listedId) := by
        simp [leasable, named, enabled]
      generalize targeted : Text.strip listedId = target at turn named
      have current : target ∉ taken →
          canAcquire jobs target (pass.acquireAt listedId) = leasable start pass (listedId, row) := by
        intro absent
        rw [turn, canAcquire, canAcquire, same target absent]
      cases acquired : acquireDueLease jobs target (pass.acquireAt listedId) leaseOwner 300 with
      | none =>
        have refused : canAcquire jobs target (pass.acquireAt listedId) = false := by
          rw [← acquireDueLease_isSome jobs target _ leaseOwner 300, acquired]
          rfl
        by_cases recorded : target ∈ taken
        · have other : jobId ≠ Text.strip listedId := by
            rintro rfl
            exact fresh (targeted ▸ recorded)
          rw [inductionHypothesis jobs taken same quiet fresh,
            reached_quiet_turn (listedId, row) rest other
              (fun _ => by rw [targeted]; exact quiet target recorded)]
        · have noTurn : ¬ leasable start pass (listedId, row) = true := by
            rw [← current recorded, refused]
            exact Bool.false_ne_true
          rw [inductionHypothesis jobs taken same quiet fresh, turnsOf_cons, if_neg noTurn]
      | some leasedPair =>
        obtain ⟨leased, leasedJobs⟩ := leasedPair
        have free : canAcquire jobs target (pass.acquireAt listedId) = true := by
          rw [← acquireDueLease_isSome jobs target _ leaseOwner 300, acquired]
          rfl
        have oneTurn : target ∉ taken → turnsOf start pass ((listedId, row) :: rest) =
            target :: turnsOf start pass rest := by
          intro absent
          rw [turnsOf_cons, if_pos (by rw [← current absent, free]), targeted]
        cases ended : pass.outcome target with
        | raises =>
          have absent : target ∉ taken := fun recorded => quiet target recorded ended
          rw [oneTurn absent]
          simp [Reached, ended]
        | completes firedAt =>
          have passes : pass.outcome target ≠ .raises := by simp [ended]
          have agree : ∀ tested, tested ∉ target :: taken →
              (markFired computeNextFireAt leasedJobs target firedAt).get tested =
                start.get tested := by
            intro tested absent
            obtain ⟨different, unrecorded⟩ := not_or.mp (List.mem_cons.not.mp absent)
            rw [markFired_acquired_get computeNextFireAt leaseOwner acquired firedAt
              (Ne.symm different), same tested unrecorded]
          have quietAll : ∀ other ∈ target :: taken, pass.outcome other ≠ .raises := by
            intro other listed
            rcases List.mem_cons.mp listed with isTarget | recorded
            · rw [isTarget]
              exact passes
            · exact quiet other recorded
          by_cases isTarget : jobId = target
          · have absent : target ∉ taken := isTarget ▸ fresh
            rw [oneTurn absent]
            simp [Reached, isTarget]
          · have freshTail : jobId ∉ target :: taken := by
              rw [List.mem_cons]
              exact not_or.mpr ⟨isTarget, fresh⟩
            rw [List.mem_cons, or_iff_right isTarget,
              inductionHypothesis _ (target :: taken) agree quietAll freshTail,
              reached_quiet_turn (listedId, row) rest (targeted ▸ isTarget)
                (fun _ => by rw [targeted]; exact passes)]

/-- A pass attempts every due job whose lease it can take exactly when nothing
stands behind a failing job. -/
theorem attemptsEveryLease_iff (jobs : Jobs) (pass : Pass) :
    AttemptsEveryLease queries computeNextFireAt leaseOwner jobs pass ↔
      NothingBehind pass.outcome (turns queries computeNextFireAt jobs pass) := by
  rw [nothingBehind_iff_reached]
  have attempted := mem_sweep computeNextFireAt leaseOwner pass
    (prepared queries computeNextFireAt jobs pass) (listed queries computeNextFireAt jobs pass)
    (prepared queries computeNextFireAt jobs pass) [] (fun _ _ => rfl)
    (fun _ none => absurd none List.not_mem_nil)
  exact forall₂_congr fun jobId _ => attempted jobId List.not_mem_nil

/-- Pass after pass attempts every due job whose lease it can take exactly when in
no pass anything stands behind a failing job. -/
theorem passes_attempt_every_lease_iff (jobs : Jobs) (passes : List Pass) :
    Runs.Along (tick queries computeNextFireAt leaseOwner)
        (AttemptsEveryLease queries computeNextFireAt leaseOwner) jobs passes ↔
      Runs.Along (tick queries computeNextFireAt leaseOwner)
        (fun jobs pass => NothingBehind pass.outcome (turns queries computeNextFireAt jobs pass))
        jobs passes :=
  ⟨Runs.Along.imp fun jobs pass =>
      (attemptsEveryLease_iff queries computeNextFireAt leaseOwner jobs pass).mp,
    Runs.Along.imp fun jobs pass =>
      (attemptsEveryLease_iff queries computeNextFireAt leaseOwner jobs pass).mpr⟩

end

/-- Rows by firing time, then by code points. -/
def byCodePoints : Queries (id : JobId → String) := ⟨OrderBy.stable, OrderBy.stable⟩

/-- Two due jobs, the older of which raises: the pass never reaches the other. -/
theorem raising_job_ends_pass : ¬ AttemptsEveryLease byCodePoints everyTenMinutes
    "core.scheduler.1"
    ((Dict.empty.set "broken" { nextFireAt := some 1 }).set "waiting" { nextFireAt := some 2 })
    { now := 10, missingAt := fun _ => 10, acquireAt := fun _ => 10,
      outcome := fun jobId => if jobId = "broken" then .raises else .completes 11 } := by
  intro every
  exact absurd (every "waiting" (by decide)) (by decide)

section
variable {κ : Type} [LinearOrder κ] {collate : JobId → κ}
variable (queries : Queries collate) (computeNextFireAt : NextFire) (leaseOwner : String)

/-- The job is the oldest due one: enabled, without a lease, and ahead of every
other enabled job, each of which has a firing time. -/
structure OldestDue (collate : JobId → κ) (head : JobId) (dueAt : Instant) (jobs : Jobs) : Prop where
  present : ∃ row, jobs.get head = some row ∧ row.enabled = true ∧
    row.nextFireAt = some dueAt ∧ ∀ now, row.leased now = false
  ahead : ∀ entry ∈ jobs.entries, entry.2.enabled = true →
    entry.2.nextFireAt.isSome ∧
      (entry.1 ≠ head → toLex (dueAt, collate head) < dueKey collate entry)

/-- With every firing time known a pass fills in none. -/
theorem prepared_eq {jobs : Jobs} (known : ∀ entry ∈ jobs.entries, entry.2.enabled = true →
    entry.2.nextFireAt.isSome) (pass : Pass) : prepared queries computeNextFireAt jobs pass = jobs := by
  have none : jobs.entries.filter
      (fun entry => entry.2.enabled && entry.2.nextFireAt.isNone) = [] := by
    refine List.filter_eq_nil_iff.mpr fun entry member => ?_
    by_cases enabled : entry.2.enabled = true
    · simp [Option.isSome_iff_ne_none.mp (known entry member enabled)]
    · simp [enabled]
  have empty : listMissingNextFireAt queries jobs 100 = [] := by
    rw [listMissingNextFireAt, none, (queries.byId.perm []).eq_nil]
    exact List.take_nil
  rw [prepared, ensureMissingNextFireTimes, empty]
  rfl

/-- The oldest due job is listed first. -/
theorem listed_head {head : JobId} {dueAt : Instant} {jobs : Jobs}
    (oldest : OldestDue collate head dueAt jobs) {pass : Pass} (due : dueAt ≤ pass.now) :
    ∃ row rest, jobs.get head = some row ∧ row.enabled = true ∧
      listed queries computeNextFireAt jobs pass = (head, row) :: rest := by
  obtain ⟨row, stored, enabled, firing, _⟩ := oldest.present
  rw [listed, prepared_eq queries computeNextFireAt
    (fun entry member enabled => (oldest.ahead entry member enabled).1) pass, listDue]
  generalize dueRows : jobs.entries.filter (fun entry => entry.2.enabled && entry.2.dueBy pass.now) =
    rows
  have isDue : (head, row) ∈ rows := by
    rw [← dueRows, List.mem_filter]
    exact ⟨(Dict.get_some_iff jobs head row).mp stored, by
      simp [enabled, ScheduledJob.dueBy, firing, due]⟩
  have inSorted := (queries.byDue.perm rows).mem_iff.mpr isDue
  cases sorted : queries.byDue.sort rows with
  | nil => rw [sorted] at inSorted; cases inSorted
  | cons first rest =>
    have isFirst : (head, row) = first := by
      rw [sorted] at inSorted
      rcases List.mem_cons.mp inSorted with same | later
      · exact same
      · have below := queries.byDue.sorted rows
        rw [sorted] at below
        have ordered := (List.pairwise_cons.mp below).1 (head, row) later
        have firstDue : first ∈ rows :=
          (queries.byDue.perm rows).mem_iff.mp (sorted ▸ List.mem_cons_self)
        rw [← dueRows, List.mem_filter, Bool.and_eq_true] at firstDue
        by_contra different
        have other : first.1 ≠ head := by
          intro sameId
          have sameRow := (Dict.get_some_iff jobs first.1 first.2).mpr firstDue.1
          rw [sameId, stored] at sameRow
          exact different (Prod.ext sameId.symm (Option.some.inj sameRow))
        have strictly := (oldest.ahead first firstDue.1 firstDue.2.1).2 other
        have headKey : dueKey collate (head, row) = toLex (dueAt, collate head) := by
          rw [dueKey, firing, Option.getD_some]
        rw [headKey] at ordered
        exact absurd ordered (not_le.mpr strictly)
    exact ⟨row, rest.take 49, stored, enabled, by rw [← isFirst]; rfl⟩

/-- A pass whose oldest due job raises attempts that job alone and leaves it the
oldest due job. -/
theorem raising_head_pass {head : JobId} {dueAt : Instant} {jobs : Jobs}
    (oldest : OldestDue collate head dueAt jobs) (plain : Text.strip head = head)
    (named : head ≠ "") {pass : Pass} (due : dueAt ≤ pass.now) (dueThen : dueAt ≤ pass.acquireAt head)
    (fails : pass.outcome head = .raises) :
    (schedulerPass queries computeNextFireAt leaseOwner jobs pass).attempted = [head] ∧
      OldestDue collate head dueAt
        (schedulerPass queries computeNextFireAt leaseOwner jobs pass).jobs := by
  obtain ⟨row, rest, stored, enabled, listing⟩ := listed_head queries computeNextFireAt oldest due
  have unchanged := prepared_eq queries computeNextFireAt
    (fun entry member enabled => (oldest.ahead entry member enabled).1) pass
  rw [listed, unchanged] at listing
  obtain ⟨sameRow, again, _, firing, unleased⟩ := oldest.present
  have same : sameRow = row := Option.some.inj (again.symm.trans stored)
  subst same
  have free : sameRow.acquirable (pass.acquireAt head) = true := by
    simp [ScheduledJob.acquirable, enabled, ScheduledJob.dueBy, firing, dueThen, unleased]
  have outcome : schedulerPass queries computeNextFireAt leaseOwner jobs pass =
      { jobs := releaseLease (jobs.set head (sameRow.withLease leaseOwner
          (pass.acquireAt head + leaseLength 300))) head
        attempted := [head]
        waitSeconds := waitSeconds jobs pass.now } := by
    simp only [schedulerPass, unchanged, listing, sweep, plain, named, enabled, acquireDueLease,
      stored, free, fails, if_true, false_or, Bool.true_eq_false, if_false]
  rw [outcome]
  refine ⟨rfl, ?_, ?_⟩
  · refine ⟨sameRow.released, ?_, enabled, firing, fun _ => rfl⟩
    rw [releaseLease, Dict.get_revise_self, Dict.get_set_self]
    rfl
  · intro entry member entryEnabled
    have held := (Dict.get_some_iff _ entry.1 entry.2).mpr member
    rw [releaseLease, Dict.get_revise, Dict.get_set_self, Dict.get_set] at held
    by_cases isHead : head = entry.1
    · rw [if_pos isHead, Option.map_some, Option.some.injEq] at held
      refine ⟨?_, fun other => absurd isHead.symm other⟩
      rw [← held]
      exact Option.isSome_iff_exists.mpr ⟨dueAt, firing⟩
    · rw [if_neg isHead, if_neg isHead] at held
      exact oldest.ahead entry ((Dict.get_some_iff jobs entry.1 entry.2).mp held) entryEnabled

/-- An oldest due job that raises in every pass is the only job any pass attempts. -/
theorem raising_head_starves {head : JobId} {dueAt : Instant} {jobs : Jobs}
    (oldest : OldestDue collate head dueAt jobs) (plain : Text.strip head = head)
    (named : head ≠ "") (passes : List Pass)
    (failing : ∀ pass ∈ passes, dueAt ≤ pass.now ∧ dueAt ≤ pass.acquireAt head ∧
      pass.outcome head = .raises) :
    Runs.Along (tick queries computeNextFireAt leaseOwner)
      (fun jobs pass =>
        (schedulerPass queries computeNextFireAt leaseOwner jobs pass).attempted = [head])
      jobs passes := by
  induction passes generalizing jobs with
  | nil => trivial
  | cons pass rest inductionHypothesis =>
    obtain ⟨due, dueThen, fails⟩ := failing pass List.mem_cons_self
    obtain ⟨alone, still⟩ := raising_head_pass queries computeNextFireAt leaseOwner oldest plain
      named due dueThen fails
    refine ⟨alone, fun next taken => ?_⟩
    rw [← Option.some.inj taken]
    exact inductionHypothesis still fun later member =>
      failing later (List.mem_cons_of_mem pass member)

end
end MeetYou.SchedulerPass
