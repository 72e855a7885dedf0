import MeetYou.Foundation.Runs
import MeetYou.Foundation.Text
import MeetYou.ScheduledJobs

/-!
# Runs of one job by several workers

Several Core processes share the table of jobs. A worker reads a row, finds its
lease free, writes its own lease, runs the job for any time, and then marks the
job fired or gives the lease back. The read and the write are separate steps of
the database, so another worker's write may fall between them. A manual trigger
runs a job without touching its lease. The concurrency policy of a job is read
by none of these steps.

So two runs of a job can overlap. `exclusive_along` says when they do not: every
start finds the stored lease still free, no worker with an unfinished claim past
the end of its lease, and no manual run of the job. Under that condition a
worker also clears no lease but its own.
-/

namespace MeetYou.SchedulerLeases

open ScheduledJobs

/-- The scheduler of a Core process and a manual trigger, by number. -/
abbrev Worker := Nat
abbrev Trigger := Nat

/-- `f"core.scheduler.{id(self)}"`. -/
def leaseOwner (worker : Worker) : String := "core.scheduler." ++ toString worker

/-- Where a worker stands with a job. An idle worker has no phase. -/
inductive Phase where
  /-- The row was read at this instant and passed the checks; the lease is not yet written. -/
  | found (jobId : JobId) (now : Instant)
  /-- The job runs under a lease up to this instant. -/
  | running (jobId : JobId) (leaseUntilAt : Instant)
  /-- The run has ended, by raising or not, and the lease is not yet cleared. -/
  | ended (jobId : JobId) (leaseUntilAt : Instant) (raised : Bool)

/-- The job a phase has leased, with the end of the lease. -/
def Phase.claim : Phase → Option (JobId × Instant)
  | .found _ _ => none
  | .running jobId leaseUntilAt => some (jobId, leaseUntilAt)
  | .ended jobId leaseUntilAt _ => some (jobId, leaseUntilAt)

/-- The table, the phases of the workers, and the manual runs in progress. -/
structure Core where
  jobs : Jobs
  workers : Dict Worker Phase
  manual : Dict Trigger JobId

/-- No worker and no manual run is active. -/
def start (jobs : Jobs) : Core := ⟨jobs, Dict.empty, Dict.empty⟩

/-- The columns an update may set; the lease is not among them. -/
structure JobUpdate where
  enabled : Bool
  triggerType : String
  triggerConfig : Fields
  timezone : String
  concurrencyPolicy : Fields
  nextFireAt : Option Instant

/-- The columns that an update writes. -/
def JobUpdate.apply (update : JobUpdate) (row : ScheduledJob) : ScheduledJob :=
  { row with enabled := update.enabled, triggerType := update.triggerType,
             triggerConfig := update.triggerConfig, timezone := update.timezone,
             concurrencyPolicy := update.concurrencyPolicy, nextFireAt := update.nextFireAt }

/-- One step of one party. A manual trigger does not read the clock; its instant
says when it happens. -/
inductive Action where
  | readRow (worker : Worker) (jobId : JobId) (now : Instant)
  | writeLease (worker : Worker)
  | endRun (worker : Worker) (raised : Bool)
  | markFired (worker : Worker) (firedAt : Instant)
  | releaseLease (worker : Worker)
  | crash (worker : Worker)
  | trigger (trigger : Trigger) (jobId : JobId) (now : Instant)
  | endTrigger (trigger : Trigger)
  | update (jobId : JobId) (update : JobUpdate)

/-- The steps of the machine; an action whose party stands elsewhere is refused. -/
def step (computeNextFireAt : NextFire) (core : Core) : Action → Option Core
  | .readRow worker jobId now =>
      match core.workers.get worker with
      | some _ => none
      | none =>
          if canAcquire core.jobs jobId now then
            some { core with workers := core.workers.set worker (.found jobId now) }
          else some core
  | .writeLease worker =>
      match core.workers.get worker with
      | some (.found jobId now) =>
          let leaseUntilAt := now + leaseLength 300
          some { core with
                 jobs := core.jobs.revise jobId fun row =>
                   row.withLease (leaseOwner worker) leaseUntilAt
                 workers := core.workers.set worker (.running jobId leaseUntilAt) }
      | _ => none
  | .endRun worker raised =>
      match core.workers.get worker with
      | some (.running jobId leaseUntilAt) =>
          some { core with workers := core.workers.set worker (.ended jobId leaseUntilAt raised) }
      | _ => none
  | .markFired worker firedAt =>
      match core.workers.get worker with
      | some (.ended jobId _ false) =>
          some { core with jobs := ScheduledJobs.markFired computeNextFireAt core.jobs jobId firedAt
                           workers := core.workers.pop worker }
      | _ => none
  | .releaseLease worker =>
      match core.workers.get worker with
      | some (.ended jobId _ true) =>
          some { core with jobs := ScheduledJobs.releaseLease core.jobs jobId
                           workers := core.workers.pop worker }
      | _ => none
  | .crash worker => some { core with workers := core.workers.pop worker }
  | .trigger trigger jobId _ =>
      match core.manual.get trigger with
      | some _ => none
      | none =>
          match core.jobs.get (Text.strip jobId) with
          | none => some core
          | some _ => some { core with manual := core.manual.set trigger (Text.strip jobId) }
  | .endTrigger trigger => some { core with manual := core.manual.pop trigger }
  | .update jobId update => some { core with jobs := core.jobs.revise jobId update.apply }

/-- Who runs a job. -/
inductive Party where
  | worker (worker : Worker)
  | manual (trigger : Trigger)

/-- The party has a run of the job in progress. -/
def InProgress (core : Core) (jobId : JobId) : Party → Prop
  | .worker worker => ∃ leaseUntilAt, core.workers.get worker = some (.running jobId leaseUntilAt)
  | .manual trigger => core.manual.get trigger = some jobId

/-- No job has two runs in progress. -/
def AtMostOneRun (core : Core) : Prop :=
  ∀ jobId first second, InProgress core jobId first → InProgress core jobId second →
    first = second

/-- A worker about to clear a lease would clear its own. -/
def ClearsOwnLease (core : Core) : Prop :=
  ∀ worker jobId leaseUntilAt raised,
    core.workers.get worker = some (.ended jobId leaseUntilAt raised) →
    ∃ row, core.jobs.get jobId = some row ∧ row.leaseOwner = leaseOwner worker ∧
      row.leaseUntilAt = some leaseUntilAt

/-- A run of the job may start at this instant: the stored lease is free, no worker
that has yet to clear its lease is past the end of it, and no manual run of the
job is in progress. -/
def uncontended (core : Core) (jobId : JobId) (now : Instant) : Bool :=
  (core.jobs.get jobId).any (fun row => !row.leased now) &&
    core.workers.all (fun _ phase =>
      phase.claim.all fun claim => decide (claim.1 = jobId → now < claim.2)) &&
    core.manual.all fun _ running => decide (running ≠ jobId)

/-- Each start of a run, by a worker's lease or by hand, is uncontended. -/
def startsUncontended (core : Core) : Action → Bool
  | .writeLease worker =>
      match core.workers.get worker with
      | some (.found jobId now) => uncontended core jobId now
      | _ => true
  | .trigger _ jobId now =>
      (core.jobs.get (Text.strip jobId)).isNone || uncontended core (Text.strip jobId) now
  | _ => true

theorem leaseOwner_ne_empty (worker : Worker) : leaseOwner worker ≠ "" := by
  intro empty
  have shorter : ("core.scheduler." ++ toString worker).length = "".length :=
    congrArg String.length empty
  rw [String.length_append] at shorter
  have prefixLength : "core.scheduler.".length = 15 := by decide
  have emptyLength : "".length = 0 := by decide
  omega

/-- The worker has leased the job up to this instant and has yet to clear the lease. -/
def Claims (core : Core) (worker : Worker) (jobId : JobId) (leaseUntilAt : Instant) : Prop :=
  ∃ phase, core.workers.get worker = some phase ∧ phase.claim = some (jobId, leaseUntilAt)

/-- The stored row carries the worker's lease. -/
def HoldsLease (jobs : Jobs) (worker : Worker) (jobId : JobId) (leaseUntilAt : Instant) : Prop :=
  ∃ row, jobs.get jobId = some row ∧ row.leaseOwner = leaseOwner worker ∧
    row.leaseUntilAt = some leaseUntilAt

/-- Claims are backed by the stored lease, one for a job, and none beside a manual
run. -/
structure Guarded (core : Core) : Prop where
  backed : ∀ worker jobId leaseUntilAt, Claims core worker jobId leaseUntilAt →
    HoldsLease core.jobs worker jobId leaseUntilAt
  single : ∀ jobId first firstUntil second secondUntil, Claims core first jobId firstUntil →
    Claims core second jobId secondUntil → first = second
  apart : ∀ jobId worker leaseUntilAt trigger, Claims core worker jobId leaseUntilAt →
    core.manual.get trigger ≠ some jobId
  once : ∀ jobId first second, core.manual.get first = some jobId →
    core.manual.get second = some jobId → first = second

theorem start_guarded (jobs : Jobs) : Guarded (start jobs) where
  backed := by rintro _ _ _ ⟨_, active, _⟩; cases active
  single := by rintro _ _ _ _ _ ⟨_, active, _⟩; cases active
  apart := by rintro _ _ _ _ ⟨_, active, _⟩; cases active
  once := by rintro _ _ _ active; cases active

/-- The claims after a worker moved to a phase. -/
theorem claims_set (core : Core) (jobs : Jobs) (moved worker : Worker) (phase : Phase)
    (jobId : JobId) (leaseUntilAt : Instant) :
    Claims { core with jobs := jobs, workers := core.workers.set moved phase } worker jobId
        leaseUntilAt ↔
      if moved = worker then phase.claim = some (jobId, leaseUntilAt)
      else Claims core worker jobId leaseUntilAt := by
  unfold Claims
  simp only [Dict.get_set]
  split
  · simp
  · rfl

/-- The claims after a worker became idle. -/
theorem claims_pop (core : Core) (jobs : Jobs) (moved worker : Worker) (jobId : JobId)
    (leaseUntilAt : Instant) :
    Claims { core with jobs := jobs, workers := core.workers.pop moved } worker jobId
        leaseUntilAt ↔
      moved ≠ worker ∧ Claims core worker jobId leaseUntilAt := by
  unfold Claims
  simp only [Dict.get_pop]
  split
  · next same => simp [same]
  · next other => simp [other]

/-- Where a run may start, nobody claims the job or runs it by hand. -/
theorem Guarded.unclaimed {core : Core} (guarded : Guarded core) {jobId : JobId} {now : Instant}
    (free : uncontended core jobId now = true) :
    (∀ worker leaseUntilAt, ¬ Claims core worker jobId leaseUntilAt) ∧
      ∀ trigger, core.manual.get trigger ≠ some jobId := by
  simp only [uncontended, Bool.and_eq_true, Dict.all_iff, decide_eq_true_eq] at free
  obtain ⟨⟨leaseFree, unexpired⟩, noManual⟩ := free
  refine ⟨?_, fun trigger running => noManual trigger jobId running rfl⟩
  rintro worker leaseUntilAt ⟨phase, active, claimed⟩
  obtain ⟨row, stored, owner, untilAt⟩ := guarded.backed worker jobId leaseUntilAt
    ⟨phase, active, claimed⟩
  have current := unexpired worker phase active
  simp only [claimed, Option.all_some, decide_eq_true_eq, forall_const] at current
  have named : row.leaseOwner ≠ "" := owner ▸ leaseOwner_ne_empty worker
  simp [stored, ScheduledJob.leased, untilAt, current, named] at leaseFree

/-- A step that makes no new claim and no new manual run, and leaves the leases of
the remaining claims in place, keeps the guard. -/
theorem Guarded.narrow {core next : Core} (guarded : Guarded core)
    (fewer : ∀ worker jobId leaseUntilAt, Claims next worker jobId leaseUntilAt →
      Claims core worker jobId leaseUntilAt)
    (kept : ∀ worker jobId leaseUntilAt, Claims next worker jobId leaseUntilAt →
      HoldsLease core.jobs worker jobId leaseUntilAt →
      HoldsLease next.jobs worker jobId leaseUntilAt)
    (fewerManual : ∀ trigger jobId, next.manual.get trigger = some jobId →
      core.manual.get trigger = some jobId) : Guarded next where
  backed worker jobId leaseUntilAt claims :=
    kept worker jobId leaseUntilAt claims
      (guarded.backed worker jobId leaseUntilAt (fewer worker jobId leaseUntilAt claims))
  single jobId first firstUntil second secondUntil claims others :=
    guarded.single jobId first firstUntil second secondUntil (fewer _ _ _ claims) (fewer _ _ _ others)
  apart jobId worker leaseUntilAt trigger claims running :=
    guarded.apart jobId worker leaseUntilAt trigger (fewer _ _ _ claims) (fewerManual _ _ running)
  once jobId first second running others :=
    guarded.once jobId first second (fewerManual _ _ running) (fewerManual _ _ others)

/-- Rewriting the row of another job leaves a lease in place. -/
theorem HoldsLease.revise_ne {jobs : Jobs} {worker : Worker} {jobId : JobId}
    {leaseUntilAt : Instant} (holds : HoldsLease jobs worker jobId leaseUntilAt) {revised : JobId}
    (change : ScheduledJob → ScheduledJob) (different : revised ≠ jobId) :
    HoldsLease (jobs.revise revised change) worker jobId leaseUntilAt := by
  obtain ⟨row, stored, lease⟩ := holds
  exact ⟨row, by rw [Dict.get_revise_ne _ _ different, stored], lease⟩

/-- Writing a lease where nobody claims the job makes the writer its one claimant. -/
theorem Guarded.writeLease {core : Core} (guarded : Guarded core) (worker : Worker) {jobId : JobId}
    {now : Instant} (free : uncontended core jobId now = true) (leaseUntilAt : Instant) :
    Guarded { core with
      jobs := core.jobs.revise jobId fun row => row.withLease (leaseOwner worker) leaseUntilAt
      workers := core.workers.set worker (.running jobId leaseUntilAt) } := by
  obtain ⟨unclaimed, noManual⟩ := guarded.unclaimed free
  obtain ⟨row, present⟩ : ∃ row, core.jobs.get jobId = some row := by
    simp only [uncontended, Bool.and_eq_true, Option.any_eq_true] at free
    obtain ⟨⟨⟨row, present, _⟩, _⟩, _⟩ := free
    exact ⟨row, present⟩
  constructor
  · intro claimant claimedJob claimedUntil claims
    rw [claims_set] at claims
    split at claims
    · next same =>
      cases claims
      exact ⟨row.withLease (leaseOwner worker) leaseUntilAt,
        by rw [Dict.get_revise_self, present]; rfl, same ▸ rfl, rfl⟩
    · have different : jobId ≠ claimedJob := fun same => unclaimed _ _ (same ▸ claims)
      exact (guarded.backed _ _ _ claims).revise_ne _ different
  · intro claimedJob first firstUntil second secondUntil firstClaims secondClaims
    rw [claims_set] at firstClaims secondClaims
    split at firstClaims <;> split at secondClaims
    · next isFirst isSecond => exact isFirst.symm.trans isSecond
    · cases firstClaims
      exact absurd secondClaims (unclaimed _ _)
    · cases secondClaims
      exact absurd firstClaims (unclaimed _ _)
    · exact guarded.single _ _ _ _ _ firstClaims secondClaims
  · intro claimedJob claimant claimedUntil trigger claims
    rw [claims_set] at claims
    split at claims
    · cases claims
      exact noManual trigger
    · exact guarded.apart _ _ _ trigger claims
  · exact guarded.once

/-- Starting a manual run where nobody claims the job makes it the only one. -/
theorem Guarded.trigger {core : Core} (guarded : Guarded core) (trigger : Trigger) {jobId : JobId}
    {now : Instant} (free : uncontended core jobId now = true) :
    Guarded { core with manual := core.manual.set trigger jobId } := by
  obtain ⟨unclaimed, noManual⟩ := guarded.unclaimed free
  refine ⟨guarded.backed, guarded.single, ?_, ?_⟩
  · intro claimedJob worker leaseUntilAt other claims running
    rw [Dict.get_set] at running
    split at running
    · exact unclaimed worker leaseUntilAt (Option.some.inj running ▸ claims)
    · exact guarded.apart claimedJob worker leaseUntilAt other claims running
  · intro runJob first second firstRuns secondRuns
    rw [Dict.get_set] at firstRuns secondRuns
    split at firstRuns <;> split at secondRuns
    · next isFirst isSecond => exact isFirst.symm.trans isSecond
    · exact absurd (Option.some.inj firstRuns ▸ secondRuns) (noManual second)
    · exact absurd (Option.some.inj secondRuns ▸ firstRuns) (noManual first)
    · exact guarded.once runJob first second firstRuns secondRuns

/-- A worker that clears the lease of its own claim leaves every other claim backed. -/
theorem Guarded.clear {core : Core} (guarded : Guarded core) {worker : Worker} {jobId : JobId}
    {leaseUntilAt : Instant} {raised : Bool}
    (active : core.workers.get worker = some (.ended jobId leaseUntilAt raised))
    (change : ScheduledJob → ScheduledJob) :
    Guarded { core with jobs := core.jobs.revise jobId change
                        workers := core.workers.pop worker } := by
  refine guarded.narrow ?_ ?_ (fun _ _ running => running)
  · intro other claimedJob claimedUntil claims
    exact ((claims_pop core _ _ _ _ _).mp claims).2
  · intro other claimedJob claimedUntil claims holds
    obtain ⟨different, claimed⟩ := (claims_pop core _ _ _ _ _).mp claims
    refine holds.revise_ne change fun same => different ?_
    exact guarded.single claimedJob worker leaseUntilAt other claimedUntil
      ⟨_, active, same ▸ rfl⟩ claimed

/-- Every step whose start, if it is one, is uncontended keeps the guard. -/
theorem step_guarded {computeNextFireAt : NextFire} {core next : Core} {action : Action}
    (guarded : Guarded core) (starts : startsUncontended core action = true)
    (taken : step computeNextFireAt core action = some next) : Guarded next := by
  cases action with
  | readRow worker jobId now =>
    simp only [step] at taken
    split at taken
    · cases taken
    · next idle =>
      split at taken
      · cases taken
        refine guarded.narrow ?_ (fun _ _ _ _ holds => holds) (fun _ _ running => running)
        intro other claimedJob claimedUntil claims
        rw [claims_set core core.jobs] at claims
        split at claims
        · cases claims
        · exact claims
      · cases taken
        exact guarded
  | writeLease worker =>
    simp only [step] at taken
    split at taken
    · next jobId now found =>
      cases taken
      simp only [startsUncontended, found] at starts
      exact guarded.writeLease worker starts _
    · cases taken
  | endRun worker raised =>
    simp only [step] at taken
    split at taken
    · next jobId leaseUntilAt active =>
      cases taken
      refine guarded.narrow ?_ (fun _ _ _ _ holds => holds) (fun _ _ running => running)
      intro other claimedJob claimedUntil claims
      rw [claims_set core core.jobs] at claims
      split at claims
      · next same =>
        exact ⟨.running jobId leaseUntilAt, same ▸ active, claims⟩
      · exact claims
    · cases taken
  | markFired worker firedAt =>
    simp only [step] at taken
    split at taken
    · next jobId leaseUntilAt active =>
      cases taken
      exact guarded.clear active _
    · cases taken
  | releaseLease worker =>
    simp only [step] at taken
    split at taken
    · next jobId leaseUntilAt active =>
      cases taken
      exact guarded.clear active _
    · cases taken
  | crash worker =>
    cases taken
    refine guarded.narrow ?_ (fun _ _ _ _ holds => holds) (fun _ _ running => running)
    intro other claimedJob claimedUntil claims
    exact ((claims_pop core core.jobs _ _ _ _).mp claims).2
  | trigger trigger jobId now =>
    simp only [step] at taken
    split at taken
    · cases taken
    · split at taken
      · cases taken
        exact guarded
      · next row stored =>
        cases taken
        simp only [startsUncontended, stored, Option.isNone_some, Bool.false_or] at starts
        exact guarded.trigger trigger starts
  | endTrigger trigger =>
    cases taken
    refine guarded.narrow (fun _ _ _ claims => claims) (fun _ _ _ _ holds => holds) ?_
    exact fun other jobId running => (Dict.get_of_pop running).2
  | update jobId update =>
    cases taken
    refine guarded.narrow (fun _ _ _ claims => claims) ?_ (fun _ _ running => running)
    rintro worker claimedJob leaseUntilAt _ ⟨row, stored, lease⟩
    by_cases same : jobId = claimedJob
    · subst same
      exact ⟨update.apply row, by rw [Dict.get_revise_self, stored]; rfl, lease⟩
    · exact HoldsLease.revise_ne ⟨row, stored, lease⟩ _ same

/-- A run in progress is a claim or a manual run. -/
theorem Guarded.atMostOneRun {core : Core} (guarded : Guarded core) : AtMostOneRun core := by
  intro jobId first second firstRuns secondRuns
  have claims : ∀ {worker leaseUntilAt},
      core.workers.get worker = some (.running jobId leaseUntilAt) →
      Claims core worker jobId leaseUntilAt := fun active => ⟨_, active, rfl⟩
  cases first with
  | worker first =>
    obtain ⟨firstUntil, firstActive⟩ := firstRuns
    cases second with
    | worker second =>
      obtain ⟨secondUntil, secondActive⟩ := secondRuns
      rw [guarded.single _ _ _ _ _ (claims firstActive) (claims secondActive)]
    | manual second => exact absurd secondRuns (guarded.apart _ _ _ second (claims firstActive))
  | manual first =>
    cases second with
    | worker second =>
      obtain ⟨secondUntil, secondActive⟩ := secondRuns
      exact absurd firstRuns (guarded.apart _ _ _ first (claims secondActive))
    | manual second => rw [guarded.once jobId first second firstRuns secondRuns]

/-- In every run whose starts are all uncontended no job has two runs in progress,
and a worker about to clear a lease would clear its own. -/
theorem exclusive_along (computeNextFireAt : NextFire) (jobs : Jobs) (actions : List Action)
    {core : Core}
    (uncontended : Runs.Along (step computeNextFireAt)
      (fun core action => startsUncontended core action = true) (start jobs) actions)
    (completed : Runs.run (step computeNextFireAt) (start jobs) actions = some core) :
    AtMostOneRun core ∧ ClearsOwnLease core := by
  have guarded : Guarded core := Runs.run_preserves
    (fun _ _ _ holds starts taken => step_guarded holds starts taken) (start_guarded jobs)
    uncontended completed
  exact ⟨guarded.atMostOneRun, fun worker jobId leaseUntilAt raised active =>
    guarded.backed worker jobId leaseUntilAt ⟨_, active, rfl⟩⟩

/-- A due job that declares one run at a time. -/
def declaredSingle : Jobs :=
  Dict.empty.set "job" { concurrencyPolicy := Fields.of [("mode", .str "skip_if_running")],
                         nextFireAt := some 0 }

/-- Two workers in turn and then a manual trigger, each run within its lease. -/
def runsInTurn : List Action :=
  [.readRow 1 "job" 0, .readRow 2 "job" 0, .writeLease 1, .endRun 1 false,
    .markFired 1 (seconds 20), .crash 2, .trigger 7 "job" (seconds 30)]

theorem runsInTurn_exclusive :
    ∃ core, Runs.run (step everyTenMinutes) (start declaredSingle) runsInTurn = some core ∧
      AtMostOneRun core ∧ ClearsOwnLease core :=
  ⟨_, rfl, exclusive_along everyTenMinutes declaredSingle runsInTurn (by decide) rfl⟩

/-- The first worker's run outlives its lease: the second takes the job over and
both run it, and the first is then about to clear the lease of the second. -/
theorem outlived_lease_overlaps :
    (∃ core, Runs.run (step everyTenMinutes) (start declaredSingle)
      [.readRow 1 "job" 0, .writeLease 1, .readRow 2 "job" (seconds 301), .writeLease 2] =
        some core ∧ ¬ AtMostOneRun core) ∧
    ∃ core, Runs.run (step everyTenMinutes) (start declaredSingle)
      [.readRow 1 "job" 0, .writeLease 1, .readRow 2 "job" (seconds 301), .writeLease 2,
        .endRun 1 false] = some core ∧ ¬ ClearsOwnLease core := by
  refine ⟨⟨_, rfl, fun single => ?_⟩, ⟨_, rfl, fun own => ?_⟩⟩
  · have same := single "job" (.worker 1) (.worker 2) ⟨_, rfl⟩ ⟨_, rfl⟩
    cases same
  · obtain ⟨row, stored, owner, _⟩ := own 1 "job" (seconds 300) false rfl
    cases stored
    exact absurd owner (by decide)

end MeetYou.SchedulerLeases
