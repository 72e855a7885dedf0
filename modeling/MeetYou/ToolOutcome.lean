import MeetYou.ToolDispatch

/-!
# The outcome of a tool call

The records of a call overwrite whatever its row holds. A settled call stays
settled exactly as long as nothing further is recorded of it, except for what it
was settled with (`settled_once_iff`).

What the caller of a dispatch is told reaches it through the future, which is
settled once. `told_agrees` says when the row agrees with it for good: nothing
is recorded of a settled call that would turn a success into a failure, a
failure into a success, or one result into another. A call that is refused and
that its policy lets wait is recorded as failed, and its caller is told that it
waits; this happens to no call as long as no such call is refused.
-/

namespace MeetYou.ToolOutcome

open OperationCalls ToolDispatch

/-- The step leaves every settled row as it is, under a parent operation whose
status matches. -/
def KeepsSettled (router next : Router) : Prop :=
  ∀ callId row, router.ledger.calls.get callId = some row → row.status.terminal = true →
    next.ledger.calls.get callId = some row ∧
      ∃ operation, next.ledger.operations.get row.operationId = some operation ∧
        operation.status = row.status.operationStatus

/-- The record is what the row was settled with. -/
def Repeats (mark : Mark) (row : OperationCall) : Prop :=
  match mark with
  | .dispatched | .accepted | .progress .. => False
  | .succeeded result => row.status = .succeeded ∧ row.result = result
  | .failed error => row.status = .failed ∧ row.error = error
  | .cancelled error => row.status = .cancelled ∧ row.error = error

/-- Nothing is recorded of a settled call but what it was settled with. -/
def RecordsRepeat (router : Router) (action : Action) : Prop :=
  ∀ callId mark, recordOf router action = some (callId, mark) →
    ∀ row, router.ledger.calls.get callId = some row → row.status.terminal = true →
      Repeats mark row

/-- A record keeps a settled row exactly when it repeats what settled it. -/
theorem apply_eq_iff_repeats (mark : Mark) {row : OperationCall}
    (settled : row.status.terminal = true) : mark.change.apply row = row ↔ Repeats mark row := by
  obtain ⟨operationId, status, result, error⟩ := row
  cases mark with
  | dispatched =>
    simp only [Mark.change, CallChange.apply, Repeats, iff_false]
    intro same
    cases same
    cases settled
  | accepted =>
    simp only [Mark.change, CallChange.apply, Repeats, iff_false]
    intro same
    cases same
    cases settled
  | progress detail metadata =>
    simp only [Mark.change, CallChange.apply, Repeats, iff_false]
    intro same
    cases same
    cases settled
  | succeeded recorded =>
    simp [Mark.change, CallChange.apply, Repeats, eq_comm]
  | failed recorded =>
    simp [Mark.change, CallChange.apply, Repeats, eq_comm]
  | cancelled recorded =>
    simp [Mark.change, CallChange.apply, Repeats, eq_comm]

/-- Every step keeps the tables linked. -/
theorem step_linked {router next : Router} {action : Action} (linked : Linked router.ledger)
    (taken : step router action = some next) : Linked next.ledger := by
  cases records : recordOf router action with
  | none =>
    rcases step_of_no_record records taken with same | ⟨_, _, _, created, _, fresh⟩
    · exact same ▸ linked
    · exact created ▸ linked.create fresh _
  | some recorded =>
    obtain ⟨callId, mark⟩ := recorded
    obtain ⟨reached, takes, ledger⟩ := step_of_record records
    rw [takes] at taken
    cases taken
    exact ledger ▸ linked.record callId mark

/-- A step that repeats what settled a call, if it records anything of it, keeps
every settled row. -/
theorem keepsSettled_of_repeat {router next : Router} {action : Action}
    (linked : Linked router.ledger) (repeats : RecordsRepeat router action)
    (taken : step router action = some next) : KeepsSettled router next := by
  intro callId row stored settled
  have kept : next.ledger.calls.get callId = some row := by
    cases records : recordOf router action with
    | none =>
      rcases step_of_no_record records taken with same | ⟨created, _, _, ledger, fresh, _⟩
      · rw [same, stored]
      · have other : created ≠ callId := Dict.ne_of_absent fresh stored
        rw [ledger, createCall, Dict.get_set_ne _ _ other, stored]
    | some recorded =>
      obtain ⟨marked, mark⟩ := recorded
      obtain ⟨reached, takes, ledger⟩ := step_of_record records
      rw [takes] at taken
      cases taken
      rw [ledger, get_record]
      split
      · next same =>
        subst same
        rw [stored, Option.map_some,
          (apply_eq_iff_repeats mark settled).mpr (repeats marked mark records row stored settled)]
      · exact stored
  exact ⟨kept, (step_linked linked taken).own callId row kept⟩

/-- A step that keeps every settled row repeats what settled a call, if it records
anything of it. -/
theorem repeat_of_keepsSettled {router : Router} {action : Action}
    (keeps : ∀ next, step router action = some next → KeepsSettled router next) :
    RecordsRepeat router action := by
  intro callId mark records row stored settled
  obtain ⟨next, taken, ledger⟩ := step_of_record records
  have kept := (keeps next taken callId row stored settled).1
  rw [ledger, get_record, if_pos rfl, stored, Option.map_some, Option.some.injEq] at kept
  exact (apply_eq_iff_repeats mark settled).mp kept

/-- Over every run no step changes a settled call exactly when no step records
anything of a settled call but what it was settled with. -/
theorem settled_once_iff (actions : List Action) :
    Runs.Along step (fun router action => ∀ next, step router action = some next →
        KeepsSettled router next) start actions ↔
      Runs.Along step RecordsRepeat start actions := by
  constructor
  · exact Runs.Along.imp fun _ _ => repeat_of_keepsSettled
  · intro repeats
    refine repeats.imp_of_invariant (fun router => Linked router.ledger) ?_ ?_ start_linked
    · intro router action next linked _ taken
      exact step_linked linked taken
    · intro router action linked repeating next taken
      exact keepsSettled_of_repeat linked repeating taken

/-- A progress frame after the result: the succeeded call is running again. -/
theorem late_progress_unsettles :
    ∃ router next, Runs.run step start
        [.dispatch "call" 1 { targetId := "desk" } Dict.empty, .task "call" .register,
          .task "call" (.sent true), .frame "call" (.result Dict.empty)] = some router ∧
      step router (.frame "call" (.progress "" "")) = some next ∧ ¬ KeepsSettled router next := by
  refine ⟨_, _, rfl, rfl, fun keeps => ?_⟩
  have kept := (keeps "call" _ rfl rfl).1
  have status := congrArg (fun row => row.map OperationCall.status) kept
  exact absurd status (by decide)

/-- What a future, a notice or an outcome says of a call. -/
inductive Verdict where
  | success (result : Fields)
  | failure

/-- The row says what the verdict says. -/
def Verdict.Holds (verdict : Verdict) (row : OperationCall) : Prop :=
  match verdict with
  | .success result => row.status = .succeeded ∧ row.result = result
  | .failure => row.status = .failed ∨ row.status = .cancelled

/-- The row of the call, if it has one, says what the verdict says. -/
def Confirms (ledger : Ledger) (callId : CallId) (verdict : Verdict) : Prop :=
  ∀ row, ledger.calls.get callId = some row → verdict.Holds row

/-- What a notice says of the call. -/
def noticeVerdict : Notice → Verdict
  | .result result => .success result
  | .error _ => .failure

/-- What a future says of the call, once it is done. -/
def futureVerdict : FutureState → Option Verdict
  | .result result => some (.success result)
  | .failed _ => some .failure
  | _ => none

/-- What the caller is told. -/
inductive Told where
  | verdict (verdict : Verdict)
  | waits
  | nothing

/-- What the caller is told by a reply. -/
def Reply.told : Reply → Told
  | .result result => .verdict (.success result)
  | .operation _ _ _ result => .verdict (.success result)
  | .waitingForEndpoint _ _ => .waits

/-- What the caller is told in the end. -/
def Outcome.told : Outcome → Told
  | .returned reply => Reply.told reply
  | .raised _ => .verdict .failure
  | .interrupted => .nothing

/-- What is stored agrees with what the caller was told: a returned result is that
of a succeeded row, and a raised error goes with a failed or cancelled row. -/
def Agrees (ledger : Ledger) (callId : CallId) (outcome : Outcome) : Prop :=
  match Outcome.told outcome with
  | .verdict verdict => Confirms ledger callId verdict
  | .waits | .nothing => True

/-- Every finished dispatch has a row that agrees with its outcome. -/
def ToldAgrees (router : Router) : Prop :=
  ∀ callId dispatch outcome, router.dispatches.get callId = some dispatch →
    dispatch.phase = .finished outcome →
    (∃ row, router.ledger.calls.get callId = some row) ∧ Agrees router.ledger callId outcome

/-- The record leaves the verdict of a settled row standing. -/
def Accords (mark : Mark) (row : OperationCall) : Prop :=
  match mark with
  | .dispatched | .accepted | .progress .. => False
  | .succeeded result => row.status = .succeeded ∧ row.result = result
  | .failed _ | .cancelled _ => row.status ≠ .succeeded

/-- Nothing is recorded of a settled call that goes against its verdict. -/
def RecordsAccord (router : Router) (action : Action) : Prop :=
  ∀ callId mark, recordOf router action = some (callId, mark) →
    ∀ row, router.ledger.calls.get callId = some row → row.status.terminal = true →
      Accords mark row

/-- The transport refuses no call that its policy lets wait. -/
def RefusesNoWaiting (router : Router) (action : Action) : Prop :=
  ∀ callId dispatch, action = .task callId .refuse →
    router.dispatches.get callId = some dispatch → dispatch.request.queues = false

/-- No finished dispatch has told its caller that the call waits. -/
def NoneWaits (router : Router) : Prop :=
  ∀ callId dispatch outcome, router.dispatches.get callId = some dispatch →
    dispatch.phase = .finished outcome → Outcome.told outcome ≠ .waits

/-- What the phase of a dispatch says of its call. -/
def PhaseAgrees (ledger : Ledger) (callId : CallId) : Phase → Prop
  | .leaving outcome | .finished outcome => Agrees ledger callId outcome
  | _ => True

/-- Futures, notices and phases are confirmed by the rows, and every dispatch has
a row. -/
structure Truthful (router : Router) : Prop where
  rows : ∀ callId dispatch, router.dispatches.get callId = some dispatch →
    ∃ row, router.ledger.calls.get callId = some row
  notices : ∀ callId notice, (callId, notice) ∈ router.notices →
    Confirms router.ledger callId (noticeVerdict notice)
  futures : ∀ callId dispatch verdict, router.dispatches.get callId = some dispatch →
    futureVerdict dispatch.future = some verdict → Confirms router.ledger callId verdict
  phases : ∀ callId dispatch, router.dispatches.get callId = some dispatch →
    PhaseAgrees router.ledger callId dispatch.phase

theorem start_truthful : Truthful start where
  rows := by intro _ _ found; cases found
  notices := by intro _ _ member; cases member
  futures := by intro _ _ _ found; cases found
  phases := by intro _ _ found; cases found

/-- A verdict that holds keeps holding under an accordant record. -/
theorem holds_apply {mark : Mark} {row : OperationCall} {verdict : Verdict}
    (holds : verdict.Holds row) (accords : row.status.terminal = true → Accords mark row) :
    verdict.Holds (mark.change.apply row) := by
  have settled : row.status.terminal = true := by
    cases verdict with
    | success result => simp [holds.1, CallStatus.terminal]
    | failure => rcases holds with failed | cancelled <;> simp [*, CallStatus.terminal]
  have accord := accords settled
  cases mark with
  | dispatched => exact accord.elim
  | accepted => exact accord.elim
  | progress detail metadata => exact accord.elim
  | succeeded result =>
    cases verdict with
    | success told => exact ⟨rfl, accord.2.symm.trans holds.2⟩
    | failure => rcases holds with failed | cancelled <;> simp_all [Accords]
  | failed error =>
    cases verdict with
    | success told => exact absurd holds.1 accord
    | failure => exact Or.inl rfl
  | cancelled error =>
    cases verdict with
    | success told => exact absurd holds.1 accord
    | failure => exact Or.inr rfl

/-- What an accordant record, if there is one, leaves confirmed. -/
theorem confirms_recorded {ledger : Ledger} {marked callId : CallId} {mark : Option Mark}
    {verdict : Verdict}
    (accords : ∀ recorded, mark = some recorded → ∀ row, ledger.calls.get marked = some row →
      row.status.terminal = true → Accords recorded row)
    (confirms : Confirms ledger callId verdict) :
    Confirms (recorded ledger marked mark) callId verdict := by
  cases mark with
  | none => exact confirms
  | some mark =>
    intro after found
    rw [recorded, get_record] at found
    split at found
    · next same =>
      subst same
      obtain ⟨row, stored, applied⟩ := Option.map_eq_some_iff.mp found
      exact applied ▸ holds_apply (confirms row stored) (accords mark rfl row stored)
    · exact confirms after found

/-- A record confirms its own verdict. -/
theorem confirms_own {ledger : Ledger} {callId : CallId} {mark : Mark} {verdict : Verdict}
    (own : ∀ row, verdict.Holds (mark.change.apply row)) :
    Confirms (mark.record ledger callId) callId verdict := by
  intro after found
  rw [get_record, if_pos rfl] at found
  obtain ⟨row, _, applied⟩ := Option.map_eq_some_iff.mp found
  exact applied ▸ own row

/-- No record removes a row. -/
theorem rows_recorded {ledger : Ledger} {callId : CallId} (marked : CallId) (mark : Option Mark)
    (present : ∃ row, ledger.calls.get callId = some row) :
    ∃ row, (recorded ledger marked mark).calls.get callId = some row := by
  obtain ⟨row, stored⟩ := present
  cases mark with
  | none => exact ⟨row, stored⟩
  | some mark =>
    rw [recorded, get_record]
    split
    · next same => exact ⟨mark.change.apply row, by rw [same, stored]; rfl⟩
    · exact ⟨row, stored⟩

/-- An outcome agrees with whatever ledger confirms as much. -/
theorem Agrees.mono {ledger next : Ledger} {callId : CallId} {outcome : Outcome}
    (agrees : Agrees ledger callId outcome)
    (more : ∀ verdict, Confirms ledger callId verdict → Confirms next callId verdict) :
    Agrees next callId outcome := by
  unfold Agrees at agrees ⊢
  split
  · next verdict told =>
    rw [told] at agrees
    exact more verdict agrees
  · trivial
  · trivial

theorem PhaseAgrees.mono {ledger next : Ledger} {callId : CallId} {phase : Phase}
    (agrees : PhaseAgrees ledger callId phase)
    (more : ∀ verdict, Confirms ledger callId verdict → Confirms next callId verdict) :
    PhaseAgrees next callId phase := by
  cases phase with
  | leaving outcome => exact Agrees.mono agrees more
  | finished outcome => exact Agrees.mono agrees more
  | _ => trivial

/-- A wait that ends with its future tells what the future says. -/
theorem conclude_agrees {ledger : Ledger} {callId : CallId} {dispatch next : Dispatch}
    (future : ∀ verdict, futureVerdict dispatch.future = some verdict →
      Confirms ledger callId verdict)
    (concluded : dispatch.conclude callId = some next) :
    next.future = dispatch.future ∧ PhaseAgrees ledger callId next.phase := by
  unfold Dispatch.conclude at concluded
  split at concluded
  · cases concluded
  · next result settled =>
    cases concluded
    have confirmed := future (.success result) (by rw [settled]; rfl)
    refine ⟨rfl, ?_⟩
    by_cases operation : dispatch.request.returnOperation = true
    · rw [PhaseAgrees, if_pos operation]
      exact confirmed
    · rw [PhaseAgrees, if_neg operation]
      exact confirmed
  · next error settled =>
    cases concluded
    exact ⟨rfl, future .failure (by rw [settled]; rfl)⟩
  · cases concluded
    exact ⟨rfl, trivial⟩

theorem stopWaiting_agrees {ledger : Ledger} {callId : CallId} {dispatch next : Dispatch}
    {cancelled : Bool}
    (future : ∀ verdict, futureVerdict dispatch.future = some verdict →
      Confirms ledger callId verdict)
    (stopped : dispatch.stopWaiting callId cancelled = some next) :
    (next.future = dispatch.future ∨ next.future = .cancelled) ∧
      PhaseAgrees ledger callId next.phase := by
  unfold Dispatch.stopWaiting at stopped
  split at stopped
  · cases stopped
    exact ⟨Or.inr rfl, trivial⟩
  · obtain ⟨same, agrees⟩ := conclude_agrees future stopped
    exact ⟨Or.inl same, agrees⟩

/-- What a step of a dispatch tells is confirmed after what it records: the future
where it concludes, the record itself where it raises on its own account. -/
theorem advance_agrees {ledger : Ledger} {callId : CallId} {dispatch next : Dispatch}
    {event : Event} {mark : Option Mark}
    (future : ∀ verdict, futureVerdict dispatch.future = some verdict →
      Confirms ledger callId verdict)
    (phase : PhaseAgrees ledger callId dispatch.phase)
    (advanced : advance dispatch callId event = some (next, mark)) :
    (next.future = dispatch.future ∨ next.future = .cancelled) ∧
      PhaseAgrees (recorded ledger callId mark) callId next.phase := by
  unfold advance at advanced
  split at advanced
  case h_1 => cases advanced; exact ⟨Or.inl rfl, trivial⟩
  case h_2 =>
    cases advanced
    exact ⟨Or.inl rfl, confirms_own fun row => Or.inl rfl⟩
  case h_3 => cases advanced; exact ⟨Or.inl rfl, trivial⟩
  case h_4 => cases advanced; exact ⟨Or.inl rfl, trivial⟩
  case h_5 => cases advanced; exact ⟨Or.inl rfl, trivial⟩
  case h_6 =>
    split at advanced
    · cases advanced
      exact ⟨Or.inl rfl, trivial⟩
    · cases advanced
      exact ⟨Or.inl rfl, confirms_own fun row => Or.inl rfl⟩
  case h_7 =>
    obtain ⟨concluded, ends, same⟩ := Option.map_eq_some_iff.mp advanced
    cases same
    obtain ⟨kept, agrees⟩ := conclude_agrees future ends
    exact ⟨Or.inl kept, agrees⟩
  case h_8 =>
    obtain ⟨concluded, ends, same⟩ := Option.map_eq_some_iff.mp advanced
    cases same
    exact stopWaiting_agrees future ends
  case h_9 =>
    cases advanced
    exact ⟨Or.inl rfl, confirms_own fun row => Or.inl rfl⟩
  case h_10 => cases advanced; exact ⟨Or.inl rfl, trivial⟩
  case h_11 outcome leaving =>
    cases advanced
    rw [leaving] at phase
    exact ⟨Or.inl rfl, phase⟩
  case h_12 => cases advanced; exact ⟨Or.inl rfl, trivial⟩
  case h_13 => cases advanced; exact ⟨Or.inl rfl, trivial⟩
  case h_14 => cases advanced; exact ⟨Or.inl rfl, trivial⟩
  case h_15 =>
    obtain ⟨concluded, ends, same⟩ := Option.map_eq_some_iff.mp advanced
    cases same
    exact stopWaiting_agrees future ends
  case h_16 => cases advanced; exact ⟨Or.inl rfl, trivial⟩
  case h_17 => cases advanced; exact ⟨Or.inl rfl, trivial⟩
  case h_18 => cases advanced

/-- The record of a frame confirms what its notice will tell the future. -/
theorem frame_confirms {ledger : Ledger} {callId : CallId} {frame : Frame} {notice : Notice}
    (told : frame.notice = some notice) :
    Confirms (frame.mark.record ledger callId) callId (noticeVerdict notice) := by
  cases frame with
  | accepted => cases told
  | progress detail phase => cases told
  | result fields =>
    cases told
    exact confirms_own fun row => ⟨rfl, rfl⟩
  | error fields =>
    cases told
    exact confirms_own fun row => Or.inl rfl
  | cancel reason =>
    cases told
    exact confirms_own fun row => Or.inr rfl

/-- A notice gives a future that was open its own verdict. -/
theorem settle_verdict {dispatch : Dispatch} {notice : Notice} {verdict : Verdict}
    (telling : futureVerdict (dispatch.settle notice).future = some verdict) :
    futureVerdict dispatch.future = some verdict ∨ noticeVerdict notice = verdict := by
  unfold Dispatch.settle at telling
  split at telling
  · right
    cases notice <;> exact Option.some.inj telling
  · exact Or.inl telling

theorem settle_phase (dispatch : Dispatch) (notice : Notice) :
    (dispatch.settle notice).phase = dispatch.phase := by
  unfold Dispatch.settle
  split <;> rfl

/-- What is confirmed of a call stays so when another call is created. -/
theorem confirms_create {ledger : Ledger} {callId created : CallId} {verdict : Verdict}
    {operationId : OperationId} {metadata : Fields} (other : created ≠ callId)
    (confirms : Confirms ledger callId verdict) :
    Confirms (createCall ledger created operationId metadata) callId verdict := by
  intro row stored
  rw [createCall, Dict.get_set_ne _ _ other] at stored
  exact confirms row stored

/-- A new call keeps the futures, notices and phases of all others truthful and
brings none of its own. -/
theorem dispatch_truthful {router next : Router} {callId : CallId} {operationId : OperationId}
    {request : Request} {metadata : Fields} (truthful : Truthful router)
    (taken : step router (.dispatch callId operationId request metadata) = some next) :
    Truthful next := by
  obtain ⟨_, _, _, unnoticed, rfl⟩ := dispatch_spec taken
  constructor
  · intro tested dispatch found
    simp only [createCall, Dict.get_set]
    split
    · exact ⟨_, rfl⟩
    · next other =>
      rw [Dict.get_set_ne _ _ other] at found
      exact truthful.rows tested dispatch found
  · intro tested notice member
    exact confirms_create (Ne.symm (unnoticed _ member)) (truthful.notices tested notice member)
  · intro tested dispatch verdict found telling
    rcases Dict.get_of_set found with ⟨_, rfl⟩ | ⟨other, earlier⟩
    · cases telling
    · exact confirms_create other (truthful.futures tested dispatch verdict earlier telling)
  · intro tested dispatch found
    rcases Dict.get_of_set found with ⟨_, rfl⟩ | ⟨other, earlier⟩
    · trivial
    · exact (truthful.phases tested dispatch earlier).mono fun _ => confirms_create other

/-- A step of a dispatch that records no discord keeps the router truthful. -/
theorem task_truthful {router next : Router} {callId : CallId} {event : Event}
    (truthful : Truthful router) (accord : RecordsAccord router (.task callId event))
    (taken : step router (.task callId event) = some next) : Truthful next := by
  obtain ⟨dispatch, after, mark, found, advanced, rfl⟩ := task_spec taken
  have accords : ∀ recorded, mark = some recorded → ∀ row,
      router.ledger.calls.get callId = some row → row.status.terminal = true →
      Accords recorded row := by
    rintro recorded rfl
    exact accord callId recorded (by simp only [recordOf, found, advanced])
  have future := fun verdict => truthful.futures callId dispatch verdict found
  obtain ⟨kept, agrees⟩ :=
    advance_agrees future (truthful.phases callId dispatch found) advanced
  constructor
  · intro tested held stored
    refine rows_recorded callId mark ?_
    rcases Dict.get_of_set stored with ⟨rfl, _⟩ | ⟨_, earlier⟩
    · exact truthful.rows callId dispatch found
    · exact truthful.rows tested held earlier
  · intro tested notice member
    exact confirms_recorded accords (truthful.notices tested notice member)
  · intro tested held verdict stored telling
    rcases Dict.get_of_set stored with ⟨rfl, rfl⟩ | ⟨_, earlier⟩
    · rcases kept with unchanged | cancelled
      · exact confirms_recorded accords (future verdict (unchanged ▸ telling))
      · rw [cancelled] at telling
        cases telling
    · exact confirms_recorded accords (truthful.futures tested held verdict earlier telling)
  · intro tested held stored
    rcases Dict.get_of_set stored with ⟨rfl, rfl⟩ | ⟨_, earlier⟩
    · exact agrees
    · exact (truthful.phases tested held earlier).mono fun _ => confirms_recorded accords

/-- A frame that records no discord keeps the router truthful. -/
theorem frame_truthful {router next : Router} {callId : String} {frame : Frame}
    (truthful : Truthful router) (accord : RecordsAccord router (.frame callId frame))
    (taken : step router (.frame callId frame) = some next) : Truthful next := by
  rcases frame_spec taken with ⟨_, rfl⟩ | ⟨named, rfl⟩
  · exact truthful
  · have accords : ∀ recorded, some frame.mark = some recorded → ∀ row,
        router.ledger.calls.get (Text.strip callId) = some row → row.status.terminal = true →
        Accords recorded row := by
      intro recorded same
      cases same
      exact accord (Text.strip callId) frame.mark (by rw [recordOf, if_neg named])
    have kept := fun {tested verdict} (before : Confirms router.ledger tested verdict) =>
      confirms_recorded accords before
    constructor
    · intro tested held stored
      exact rows_recorded _ (some frame.mark) (truthful.rows tested held stored)
    · intro tested notice member
      cases told : frame.notice with
      | none =>
        simp only [told] at member
        exact kept (truthful.notices tested notice member)
      | some fresh =>
        simp only [told, List.mem_append, List.mem_singleton] at member
        rcases member with earlier | new
        · exact kept (truthful.notices tested notice earlier)
        · cases new
          exact frame_confirms told
    · intro tested held verdict stored telling
      exact kept (truthful.futures tested held verdict stored telling)
    · intro tested held stored
      exact (truthful.phases tested held stored).mono fun _ => kept

/-- A notice brings a future only what the row confirms. -/
theorem settle_truthful {router next : Router} {position : Nat} (truthful : Truthful router)
    (taken : step router (.settle position) = some next) : Truthful next := by
  obtain ⟨callId, notice, listed, rfl⟩ := settle_spec taken
  have member : (callId, notice) ∈ router.notices := List.mem_of_getElem? listed
  constructor
  · intro tested held stored
    rcases Dict.get_of_revise stored with ⟨_, dispatch, present, _⟩ | ⟨_, present⟩
    · exact truthful.rows tested dispatch present
    · exact truthful.rows tested held present
  · intro tested remaining kept
    exact truthful.notices tested remaining (List.mem_of_mem_eraseIdx kept)
  · intro tested held verdict stored telling
    rcases Dict.get_of_revise stored with ⟨rfl, dispatch, present, rfl⟩ | ⟨_, present⟩
    · rcases settle_verdict telling with earlier | told
      · exact truthful.futures callId dispatch verdict present earlier
      · exact told ▸ truthful.notices callId notice member
    · exact truthful.futures tested held verdict present telling
  · intro tested held stored
    rcases Dict.get_of_revise stored with ⟨_, dispatch, present, rfl⟩ | ⟨_, present⟩
    · rw [settle_phase]
      exact truthful.phases tested dispatch present
    · exact truthful.phases tested held present

/-- Every step that records no discord keeps the router truthful. -/
theorem step_truthful {router next : Router} {action : Action} (truthful : Truthful router)
    (accord : RecordsAccord router action) (taken : step router action = some next) :
    Truthful next := by
  cases action with
  | dispatch callId operationId request metadata => exact dispatch_truthful truthful taken
  | task callId event => exact task_truthful truthful accord taken
  | frame callId frame => exact frame_truthful truthful accord taken
  | settle position => exact settle_truthful truthful taken
  | restart =>
    cases taken
    constructor
    · intro callId dispatch found
      cases found
    · intro callId notice member
      cases member
    · intro callId dispatch verdict found
      cases found
    · intro callId dispatch found
      cases found

/-- The dispatch is about to tell its caller, or has told it, that the call waits. -/
def Phase.waits : Phase → Prop
  | .leaving outcome | .finished outcome => Outcome.told outcome = .waits
  | _ => False

theorem conclude_waits {callId : CallId} {dispatch next : Dispatch}
    (concluded : dispatch.conclude callId = some next) : ¬ Phase.waits next.phase := by
  unfold Dispatch.conclude at concluded
  split at concluded
  · cases concluded
  · cases concluded
    by_cases operation : dispatch.request.returnOperation = true <;>
      simp [Phase.waits, Outcome.told, Reply.told, operation]
  · cases concluded
    simp [Phase.waits, Outcome.told]
  · cases concluded
    simp [Phase.waits, Outcome.told]

theorem stopWaiting_waits {callId : CallId} {dispatch next : Dispatch} {cancelled : Bool}
    (stopped : dispatch.stopWaiting callId cancelled = some next) :
    ¬ Phase.waits next.phase := by
  unfold Dispatch.stopWaiting at stopped
  split at stopped
  · cases stopped
    exact not_false
  · exact conclude_waits stopped

/-- Only a refusal under a policy that queues tells a caller that the call waits. -/
theorem advance_waits {callId : CallId} {dispatch next : Dispatch} {event : Event}
    {mark : Option Mark} (none : ¬ Phase.waits dispatch.phase)
    (refusal : event = .refuse → dispatch.request.queues = false)
    (advanced : advance dispatch callId event = some (next, mark)) :
    ¬ Phase.waits next.phase := by
  unfold advance at advanced
  split at advanced
  case h_6 =>
    rw [if_neg (by simp [refusal rfl])] at advanced
    cases advanced
    simp [Phase.waits, Outcome.told]
  case h_7 =>
    obtain ⟨concluded, ends, same⟩ := Option.map_eq_some_iff.mp advanced
    cases same
    exact conclude_waits ends
  case h_8 =>
    obtain ⟨stopped, ends, same⟩ := Option.map_eq_some_iff.mp advanced
    cases same
    exact stopWaiting_waits ends
  case h_11 outcome leaving =>
    cases advanced
    rw [leaving] at none
    exact none
  case h_15 =>
    obtain ⟨stopped, ends, same⟩ := Option.map_eq_some_iff.mp advanced
    cases same
    exact stopWaiting_waits ends
  all_goals
    cases advanced
    try simp [Phase.waits, Outcome.told]

/-- No dispatch waits after a step that refuses none whose policy queues. -/
theorem step_noneWaits {router next : Router} {action : Action}
    (none : ∀ callId dispatch, router.dispatches.get callId = some dispatch →
      ¬ Phase.waits dispatch.phase)
    (refuses : RefusesNoWaiting router action) (taken : step router action = some next) :
    ∀ callId dispatch, next.dispatches.get callId = some dispatch →
      ¬ Phase.waits dispatch.phase := by
  intro tested held stored
  cases action with
  | dispatch callId operationId request metadata =>
    obtain ⟨_, _, _, _, rfl⟩ := dispatch_spec taken
    rcases Dict.get_of_set stored with ⟨_, rfl⟩ | ⟨_, earlier⟩
    · exact not_false
    · exact none tested held earlier
  | task callId event =>
    obtain ⟨dispatch, after, mark, found, advanced, rfl⟩ := task_spec taken
    rcases Dict.get_of_set stored with ⟨_, rfl⟩ | ⟨_, earlier⟩
    · refine advance_waits (none callId dispatch found) ?_ advanced
      rintro rfl
      exact refuses callId dispatch rfl found
    · exact none tested held earlier
  | frame callId frame =>
    rcases frame_spec taken with ⟨_, rfl⟩ | ⟨_, rfl⟩
    · exact none tested held stored
    · exact none tested held stored
  | settle position =>
    obtain ⟨callId, notice, _, rfl⟩ := settle_spec taken
    rcases Dict.get_of_revise stored with ⟨_, dispatch, present, rfl⟩ | ⟨_, present⟩
    · rw [settle_phase]
      exact none tested dispatch present
    · exact none tested held present
  | restart =>
    cases taken
    cases stored

/-- Over every run in which nothing is recorded of a settled call that goes against
its verdict, what is stored agrees with what every caller was told; and no caller
was told that its call waits as long as no call is refused whose policy lets it. -/
theorem told_agrees {actions : List Action} {router : Router}
    (accord : Runs.Along step RecordsAccord start actions)
    (completed : Runs.run step start actions = some router) :
    ToldAgrees router ∧
      (Runs.Along step RefusesNoWaiting start actions → NoneWaits router) := by
  constructor
  · have truthful : Truthful router := by
      refine Runs.run_preserves ?_ start_truthful accord completed
      intro state action next before accords taken
      exact step_truthful before accords taken
    intro callId dispatch outcome found finished
    refine ⟨truthful.rows callId dispatch found, ?_⟩
    have agrees := truthful.phases callId dispatch found
    rw [finished] at agrees
    exact agrees
  · intro refuses callId dispatch outcome found finished
    have none := Runs.run_preserves (fun state action next before condition taken =>
      step_noneWaits before condition taken)
      (show ∀ callId dispatch, start.dispatches.get callId = some dispatch →
        ¬ Phase.waits dispatch.phase by intro _ _ found; cases found) refuses completed
    have waits := none callId dispatch found
    rw [finished] at waits
    exact waits

/-- A call that is sent, answered with a result and returned. -/
def answeredCall : List Action :=
  [.dispatch "call" 1 { targetId := "desk" } Dict.empty, .task "call" .register,
    .task "call" (.sent true), .frame "call" (.result Dict.empty), .settle 0, .task "call" .wake,
    .task "call" .leave]

/-- A step that records nothing is in accord with every row. -/
theorem accord_of_silent {router : Router} {action : Action}
    (silent : recordOf router action = none) : RecordsAccord router action := by
  intro callId mark records
  rw [silent] at records
  cases records

/-- A record of a call that is not settled is in accord with its row. -/
theorem accord_of_open {router : Router} {action : Action} {callId : CallId} {mark : Mark}
    {row : OperationCall} (records : recordOf router action = some (callId, mark))
    (stored : router.ledger.calls.get callId = some row) (notSettled : row.status.terminal = false) :
    RecordsAccord router action := by
  intro marked recorded also held found settled
  rw [records] at also
  cases also
  rw [stored] at found
  cases found
  rw [notSettled] at settled
  cases settled

theorem answeredCall_accords : Runs.Along step RecordsAccord start answeredCall := by
  refine Runs.along_cons (accord_of_silent rfl) rfl ?_
  refine Runs.along_cons (accord_of_silent rfl) rfl ?_
  refine Runs.along_cons (accord_of_open rfl rfl rfl) rfl ?_
  refine Runs.along_cons (accord_of_open rfl rfl rfl) rfl ?_
  refine Runs.along_cons (accord_of_silent rfl) rfl ?_
  refine Runs.along_cons (accord_of_silent rfl) rfl ?_
  exact Runs.along_cons (accord_of_silent rfl) rfl trivial

theorem answeredCall_refusesNone : Runs.Along step RefusesNoWaiting start answeredCall := by
  refine Runs.along_of_mem (fun router action member callId dispatch refuses => ?_) start
  simp [refuses, answeredCall] at member

theorem answeredCall_told : ∃ router, Runs.run step start answeredCall = some router ∧
    ToldAgrees router ∧ NoneWaits router := by
  have agrees := told_agrees answeredCall_accords rfl
  exact ⟨_, rfl, agrees.1, agrees.2 answeredCall_refusesNone⟩

/-- A result after the timeout: the caller was told of an error, and the row has
succeeded. -/
theorem late_result_disagrees : ∃ router, Runs.run step start
      [.dispatch "call" 1 { targetId := "desk" } Dict.empty, .task "call" .register,
        .task "call" (.sent true), .task "call" .timeout, .task "call" .expire,
        .task "call" .leave, .frame "call" (.result Dict.empty)] = some router ∧
    ¬ ToldAgrees router := by
  refine ⟨_, rfl, fun agrees => ?_⟩
  have confirms := (agrees "call" _ _ rfl rfl).2 _ rfl
  rcases confirms with failed | cancelled
  · cases failed
  · cases cancelled

end MeetYou.ToolOutcome
