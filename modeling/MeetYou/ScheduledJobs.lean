import Mathlib.Data.Prod.Lex
import MeetYou.Foundation.OrderBy
import MeetYou.Foundation.Values

/-!
# The table of scheduled jobs

A job is due once its next firing time has come. A worker takes a due job by
writing a lease into its row, and clears the lease when it marks the job fired
or gives it back. The lease records an owner and an end; taking a lease asks
only whether an unexpired one is there, and clearing it asks nothing.

The rows are keyed by job identifier. Ordering by identifier uses the collation
of the database, which is a parameter.
-/

namespace MeetYou.ScheduledJobs

abbrev JobId := String

/-- A row of `scheduled_jobs`. -/
structure ScheduledJob where
  enabled : Bool := true
  triggerType : String := "interval"
  triggerConfig : Fields := Dict.empty
  timezone : String := "UTC"
  concurrencyPolicy : Fields := Dict.empty
  nextFireAt : Option Instant := none
  lastFireAt : Option Instant := none
  leaseOwner : String := ""
  leaseUntilAt : Option Instant := none

abbrev Jobs := Dict JobId ScheduledJob

/-- `compute_next_fire_at`: trigger type, trigger configuration, time zone, and the
instant to go on from. -/
abbrev NextFire := String → Fields → String → Instant → Option Instant

/-- An interval of 600 seconds, that of the heartbeat. -/
def everyTenMinutes : NextFire := fun _ _ _ after => some (after + seconds 600)

/-- The next firing of a row after an instant. -/
def ScheduledJob.nextAfter (row : ScheduledJob) (computeNextFireAt : NextFire) (after : Instant) :
    Option Instant :=
  computeNextFireAt row.triggerType row.triggerConfig row.timezone after

/-- The next firing time has come. -/
def ScheduledJob.dueBy (row : ScheduledJob) (now : Instant) : Bool :=
  match row.nextFireAt with
  | none => false
  | some dueAt => decide (dueAt ≤ now)

/-- Someone's lease has not run out. -/
def ScheduledJob.leased (row : ScheduledJob) (now : Instant) : Bool :=
  match row.leaseUntilAt with
  | none => false
  | some leaseUntilAt => decide (now < leaseUntilAt) && decide (row.leaseOwner ≠ "")

/-- The checks of `acquire_due_lease` on a row it has read. -/
def ScheduledJob.acquirable (row : ScheduledJob) (now : Instant) : Bool :=
  row.enabled && row.dueBy now && !row.leased now

/-- The length of a lease: 300 seconds for none given, and at least one. -/
def leaseLength (leaseSeconds : Int) : Int :=
  seconds (max (if leaseSeconds = 0 then 300 else leaseSeconds) 1)

/-- The writes of `acquire_due_lease`. -/
def ScheduledJob.withLease (row : ScheduledJob) (leaseOwner : String) (leaseUntilAt : Instant) :
    ScheduledJob :=
  { row with leaseOwner := leaseOwner, leaseUntilAt := some leaseUntilAt }

/-- `ScheduledJobRepository.acquire_due_lease`, with the leased row. -/
def acquireDueLease (jobs : Jobs) (jobId : JobId) (now : Instant) (leaseOwner : String)
    (leaseSeconds : Int) : Option (ScheduledJob × Jobs) :=
  match jobs.get jobId with
  | none => none
  | some row =>
      if row.acquirable now then
        let leased := row.withLease leaseOwner (now + leaseLength leaseSeconds)
        some (leased, jobs.set jobId leased)
      else none

/-- The writes of `mark_fired`. -/
def ScheduledJob.fired (row : ScheduledJob) (firedAt : Instant) (nextFireAt : Option Instant) :
    ScheduledJob :=
  { row with lastFireAt := some firedAt, nextFireAt := nextFireAt, leaseOwner := "",
             leaseUntilAt := none }

/-- `SchedulerService.mark_fired`. -/
def markFired (computeNextFireAt : NextFire) (jobs : Jobs) (jobId : JobId) (firedAt : Instant) :
    Jobs :=
  jobs.revise jobId fun row => row.fired firedAt (row.nextAfter computeNextFireAt firedAt)

/-- The writes of `release_lease`. -/
def ScheduledJob.released (row : ScheduledJob) : ScheduledJob :=
  { row with leaseOwner := "", leaseUntilAt := none }

/-- `ScheduledJobRepository.release_lease`. -/
def releaseLease (jobs : Jobs) (jobId : JobId) : Jobs := jobs.revise jobId ScheduledJob.released

/-- `max(1, int(limit or 50))`. -/
def normalizedLimit (limit : Int) : Nat := (max 1 (if limit = 0 then 50 else limit)).toNat

section
variable {κ : Type} [LinearOrder κ]

/-- The order of due rows: next firing time first, then identifier. -/
def dueKey (collate : JobId → κ) (entry : JobId × ScheduledJob) : Instant ×ₗ κ :=
  toLex (entry.2.nextFireAt.getD 0, collate entry.1)

/-- The two orderings the job queries use. -/
structure Queries (collate : JobId → κ) where
  byDue : OrderBy (dueKey collate)
  byId : OrderBy fun entry : JobId × ScheduledJob => collate entry.1

variable {collate : JobId → κ}

/-- `ScheduledJobRepository.list_due`. -/
def listDue (queries : Queries collate) (jobs : Jobs) (now : Instant) (limit : Int) :
    List (JobId × ScheduledJob) :=
  (queries.byDue.sort
    (jobs.entries.filter fun entry => entry.2.enabled && entry.2.dueBy now)).take
      (normalizedLimit limit)

/-- `ScheduledJobRepository.list_missing_next_fire_at`. -/
def listMissingNextFireAt (queries : Queries collate) (jobs : Jobs) (limit : Int) :
    List (JobId × ScheduledJob) :=
  (queries.byId.sort
    (jobs.entries.filter fun entry => entry.2.enabled && entry.2.nextFireAt.isNone)).take
      (normalizedLimit limit)

/-- `SchedulerService.ensure_missing_next_fire_times`; each row reads the clock. -/
def ensureMissingNextFireTimes (queries : Queries collate) (computeNextFireAt : NextFire)
    (jobs : Jobs) (utcnow : JobId → Instant) (limit : Int) : Jobs :=
  (listMissingNextFireAt queries jobs limit).foldl
    (fun jobs entry => jobs.revise entry.1 fun row =>
      { row with nextFireAt := row.nextAfter computeNextFireAt (utcnow entry.1) })
    jobs

end

/-- `ScheduledJobRepository.next_fire_at`. -/
def nextFireAt (jobs : Jobs) : Option Instant :=
  (jobs.entries.filterMap fun entry =>
    if entry.2.enabled then entry.2.nextFireAt else none).min?

/-- The stored row passes the checks of `acquire_due_lease`. -/
def canAcquire (jobs : Jobs) (jobId : JobId) (now : Instant) : Bool :=
  (jobs.get jobId).any fun row => row.acquirable now

/-- A lease is taken exactly when the stored row passes the checks. -/
theorem acquireDueLease_isSome (jobs : Jobs) (jobId : JobId) (now : Instant) (leaseOwner : String)
    (leaseSeconds : Int) :
    (acquireDueLease jobs jobId now leaseOwner leaseSeconds).isSome =
      canAcquire jobs jobId now := by
  unfold acquireDueLease canAcquire
  cases jobs.get jobId with
  | none => rfl
  | some row =>
    by_cases free : row.acquirable now = true
    · simp [free]
    · simp [free]

/-- Taking a lease rewrites no other row. -/
theorem acquireDueLease_get {jobs leasedJobs : Jobs} {jobId tested : JobId} {now : Instant}
    {leaseOwner : String} {leaseSeconds : Int} {leased : ScheduledJob}
    (taken : acquireDueLease jobs jobId now leaseOwner leaseSeconds = some (leased, leasedJobs))
    (different : jobId ≠ tested) : leasedJobs.get tested = jobs.get tested := by
  unfold acquireDueLease at taken
  split at taken
  · cases taken
  · split at taken
    · cases taken
      exact Dict.get_set_ne jobs _ different
    · cases taken

end MeetYou.ScheduledJobs
