import MeetYou.Foundation.Runs
import MeetYou.InteractiveRequests

/-!
# Requesters of the event bus

A call of `request_confirmation` or `request_human_input` registers its request,
publishes the event, waits for its future, and clears its request when the wait
is over. Each await may end by cancellation. The wait sits inside a `finally`
that clears the request; the publication does not, so a requester cancelled
while it is still publishing leaves its request behind.

The two tables stay consistent whatever happens. `tables_unwedged` says when they
also never wedge a session: no requester is cancelled during its publication
while its request is still stored. A future is cancelled one turn of the event
loop before its waiter goes on, which is a phase of its own here.
-/

namespace MeetYou.InteractiveRuns

open InteractiveRequests

/-- Why a call raises. -/
inductive Raised where
  | alreadyPending
  | cancelled

/-- What a call returns: the value its future was resolved with, or the default of
a wait that timed out. -/
inductive Returned where
  | value (value : Value)
  | rejected
  | timedOut (requestId : RequestId)

/-- How a request ends for its caller. -/
inductive Outcome where
  | returned (returned : Returned)
  | raised (error : Raised)

/-- Where a requester stands. -/
inductive Phase where
  | publishing
  | waiting
  /-- The wait has cancelled the future, for a timeout or for a cancellation of the task. -/
  | expiring (cancelled : Bool)
  | finished (outcome : Outcome)

/-- A call in progress or finished, by the identifier of its request. -/
structure Requester where
  sessionId : SessionId
  kind : Kind
  phase : Phase

/-- The call has returned or raised. -/
def Requester.isFinished (requester : Requester) : Bool :=
  match requester.phase with
  | .finished _ => true
  | _ => false

/-- The bus and the callers that wait on it. -/
structure Runtime where
  bus : EventBus
  requesters : Dict RequestId Requester

/-- Nobody waits. -/
def start : Runtime := ⟨EventBus.start, Dict.empty⟩

/-- The stripped options that are not blank. -/
def cleanOptions (options : List String) : List String :=
  (options.map Text.strip).filter fun option => decide (option ≠ "")

/-- The arguments of a call that its event keeps. -/
inductive Call where
  | requestConfirmation
  | requestHumanInput (options : List String)

/-- What a call announces. -/
def Call.event : Call → RequestEvent
  | .requestConfirmation => .confirm
  | .requestHumanInput options => .humanInput (cleanOptions options)

/-- One step of one party of the event loop. -/
inductive Action where
  | request (requestId : RequestId) (sessionId : SessionId) (call : Call)
  | published (requestId : RequestId)
  | wake (requestId : RequestId)
  | timeout (requestId : RequestId)
  | cancel (requestId : RequestId)
  | expire (requestId : RequestId)
  | confirm (accepted : Bool) (requestId : RequestId) (sessionId : SessionId)
      (endpointId approvalId reason : String)
  | answer (answerText : String) (requestId : RequestId) (sessionId : SessionId)
      (selectedOption : Option String)

/-- Where the requester of a request stands. -/
def Runtime.phase (runtime : Runtime) (requestId : RequestId) : Option Phase :=
  (runtime.requesters.get requestId).map Requester.phase

/-- The requester goes on to a phase. -/
def Runtime.move (runtime : Runtime) (requestId : RequestId) (phase : Phase) : Runtime :=
  { runtime with
    requesters := runtime.requesters.revise requestId fun requester =>
      { requester with phase := phase } }

/-- The `finally` clause: clear the request, then return or raise. -/
def Runtime.finish (runtime : Runtime) (requestId : RequestId) (outcome : Outcome) : Runtime :=
  { runtime.move requestId (.finished outcome) with
    bus := clearPendingRequest runtime.bus requestId }

/-- A wait whose future is done ends with the future. -/
def Runtime.conclude (runtime : Runtime) (requestId : RequestId) : Option Runtime :=
  match runtime.bus.future requestId with
  | .pending => none
  | .result value => some (runtime.finish requestId (.returned (.value value)))
  | .cancelled => some (runtime.finish requestId (.raised .cancelled))

/-- A wait that is over takes a future that is done, and otherwise cancels it. -/
def Runtime.stopWaiting (runtime : Runtime) (requestId : RequestId) (cancelled : Bool) :
    Option Runtime :=
  if runtime.bus.done requestId then runtime.conclude requestId
  else
    some { runtime.move requestId (.expiring cancelled) with
           bus := runtime.bus.settle requestId .cancelled }

/-- What a wait that timed out returns. -/
def timedOutReturn (requestId : RequestId) : Kind → Returned
  | .confirm => .rejected
  | .humanInput => .timedOut requestId

variable (casefold : String → String)

/-- The steps of the event loop; an action whose requester stands elsewhere is
refused, and every call has a fresh identifier. -/
def step (runtime : Runtime) : Action → Option Runtime
  | .request requestId sessionId call =>
      if requestId = "" then none
      else
        match runtime.requesters.get requestId with
        | some _ => none
        | none =>
            match registerPendingRequest runtime.bus ⟨requestId, sessionId, call.event⟩ with
            | none =>
                some { runtime with
                       requesters := runtime.requesters.set requestId
                         ⟨sessionId, call.event.kind, .finished (.raised .alreadyPending)⟩ }
            | some registered =>
                some { bus := registered
                       requesters := runtime.requesters.set requestId
                         ⟨sessionId, call.event.kind, .publishing⟩ }
  | .published requestId =>
      match runtime.phase requestId with
      | some .publishing => some (runtime.move requestId .waiting)
      | _ => none
  | .wake requestId =>
      match runtime.phase requestId with
      | some .waiting => runtime.conclude requestId
      | _ => none
  | .timeout requestId =>
      match runtime.phase requestId with
      | some .waiting => runtime.stopWaiting requestId false
      | _ => none
  | .cancel requestId =>
      match runtime.phase requestId with
      | some .publishing => some (runtime.move requestId (.finished (.raised .cancelled)))
      | some .waiting => runtime.stopWaiting requestId true
      | some (.expiring _) => some (runtime.finish requestId (.raised .cancelled))
      | _ => none
  | .expire requestId =>
      match runtime.requesters.get requestId with
      | some ⟨_, kind, .expiring false⟩ =>
          some (runtime.finish requestId (.returned (timedOutReturn requestId kind)))
      | some ⟨_, _, .expiring true⟩ => some (runtime.finish requestId (.raised .cancelled))
      | _ => none
  | .confirm accepted requestId sessionId endpointId approvalId reason =>
      some { runtime with
             bus := (resolveConfirmation runtime.bus accepted requestId sessionId endpointId
               approvalId reason).bus }
  | .answer answerText requestId sessionId selectedOption =>
      match submitHumanInputResponse casefold runtime.bus answerText requestId sessionId
          selectedOption with
      | .error _ => some runtime
      | .ok resolution => some { runtime with bus := resolution.bus }

/-- Each session entry names a stored request of its session, and no session has
two unresolved requests. -/
structure TablesConsistent (bus : EventBus) : Prop where
  names : ∀ sessionId requestId, bus.pendingRequestBySession.get sessionId = some requestId →
    ∃ request, bus.pendingRequests.get requestId = some request ∧ request.sessionId = sessionId
  single : ∀ first firstRequest second secondRequest,
    bus.pendingRequests.get first = some firstRequest → bus.done first = false →
    bus.pendingRequests.get second = some secondRequest → bus.done second = false →
    firstRequest.sessionId = secondRequest.sessionId → first = second

/-- No finished call has left its request in a table, and a session whose calls
have all finished accepts a new one. -/
structure Unwedged (runtime : Runtime) : Prop where
  cleared : ∀ requestId requester, runtime.requesters.get requestId = some requester →
    requester.isFinished = true →
    runtime.bus.pendingRequests.get requestId = none ∧
      ∀ sessionId, runtime.bus.pendingRequestBySession.get sessionId ≠ some requestId
  accepts : ∀ sessionId,
    (∀ requestId requester, runtime.requesters.get requestId = some requester →
      requester.sessionId = sessionId → requester.isFinished = true) →
    ∀ requestId event,
      (registerPendingRequest runtime.bus ⟨requestId, sessionId, event⟩).isSome = true

/-- No requester is cancelled during its publication while its request is stored. -/
def publishesUndisturbed (runtime : Runtime) : Action → Bool
  | .cancel requestId =>
      match runtime.phase requestId with
      | some .publishing => (runtime.bus.pendingRequests.get requestId).isNone
      | _ => true
  | _ => true

/-- Every stored request has a requester of its session, which meets a test. -/
structure Attended (test : Requester → Prop) (runtime : Runtime) : Prop where
  consistent : Consistent runtime.bus
  attended : ∀ requestId request, runtime.bus.pendingRequests.get requestId = some request →
    ∃ requester, runtime.requesters.get requestId = some requester ∧
      requester.sessionId = request.sessionId ∧ test requester

theorem start_attended (test : Requester → Prop) : Attended test start where
  consistent := start_consistent
  attended := by intro _ _ found; cases found

variable {test : Requester → Prop}

/-- Fewer requests under the same requesters stay attended. -/
theorem Attended.narrow {runtime : Runtime} (attended : Attended test runtime) {bus : EventBus}
    (narrows : Narrows runtime.bus bus) : Attended test { runtime with bus := bus } where
  consistent := narrows.consistent attended.consistent
  attended requestId request found :=
    attended.attended requestId request (narrows.fewer requestId request found)

/-- A requester may go on to a phase that meets the test. -/
theorem Attended.move {runtime : Runtime} (attended : Attended test runtime)
    (requestId : RequestId) {phase : Phase}
    (meets : ∀ sessionId kind, test ⟨sessionId, kind, phase⟩) :
    Attended test (runtime.move requestId phase) where
  consistent := attended.consistent
  attended other request found := by
    obtain ⟨requester, present, session, met⟩ := attended.attended other request found
    by_cases same : requestId = other
    · subst same
      refine ⟨{ requester with phase := phase }, ?_, session, meets _ _⟩
      rw [Runtime.move, Dict.get_revise_self, present]
      rfl
    · exact ⟨requester, by rw [Runtime.move, Dict.get_revise_ne _ _ same, present], session, met⟩

/-- A requester whose request is in no table may go on to any phase. -/
theorem Attended.move_absent {runtime : Runtime} (attended : Attended test runtime)
    {requestId : RequestId} (absent : runtime.bus.pendingRequests.get requestId = none)
    (phase : Phase) : Attended test (runtime.move requestId phase) where
  consistent := attended.consistent
  attended other request found := by
    obtain ⟨requester, present, session, met⟩ := attended.attended other request found
    have different : requestId ≠ other := by
      rintro rfl
      rw [Runtime.move, absent] at found
      cases found
    exact ⟨requester, by rw [Runtime.move, Dict.get_revise_ne _ _ different, present], session, met⟩

/-- A requester that clears its request may return or raise. -/
theorem Attended.finish {runtime : Runtime} (attended : Attended test runtime)
    (requestId : RequestId) (outcome : Outcome) : Attended test (runtime.finish requestId outcome) := by
  have cleared : Attended test { runtime with bus := clearPendingRequest runtime.bus requestId } :=
    attended.narrow (Narrows.clear runtime.bus requestId)
  refine cleared.move_absent ?_ (.finished outcome)
  rw [clear_pendingRequests, if_pos rfl]

theorem Attended.conclude {runtime next : Runtime} (attended : Attended test runtime)
    {requestId : RequestId} (taken : runtime.conclude requestId = some next) :
    Attended test next := by
  unfold Runtime.conclude at taken
  split at taken
  · cases taken
  · cases taken
    exact attended.finish requestId _
  · cases taken
    exact attended.finish requestId _

theorem Attended.stopWaiting {runtime next : Runtime} (attended : Attended test runtime)
    {requestId : RequestId} {cancelled : Bool}
    (meets : ∀ sessionId kind, test ⟨sessionId, kind, .expiring cancelled⟩)
    (taken : runtime.stopWaiting requestId cancelled = some next) : Attended test next := by
  unfold Runtime.stopWaiting at taken
  split at taken
  · exact attended.conclude taken
  · cases taken
    exact (attended.move requestId meets).narrow (Narrows.settle _ _ _)

/-- A call under a fresh identifier attends the request it registers. -/
theorem Attended.request {runtime next : Runtime} (attended : Attended test runtime)
    {requestId : RequestId} {sessionId : SessionId} {call : Call}
    (meets : ∀ sessionId kind, test ⟨sessionId, kind, .publishing⟩)
    (taken : step casefold runtime (.request requestId sessionId call) = some next) :
    Attended test next := by
  simp only [step] at taken
  split at taken
  · cases taken
  · next identified =>
    split at taken
    · cases taken
    · next unused =>
      have fresh : runtime.bus.pendingRequests.get requestId = none := by
        cases found : runtime.bus.pendingRequests.get requestId with
        | none => rfl
        | some request =>
          obtain ⟨requester, present, _⟩ := attended.attended requestId request found
          rw [unused] at present
          cases present
      split at taken
      · cases taken
        refine ⟨attended.consistent, fun other request found => ?_⟩
        have different : requestId ≠ other := by
          rintro rfl
          rw [fresh] at found
          cases found
        obtain ⟨requester, present, session, met⟩ := attended.attended other request found
        exact ⟨requester, by rw [Dict.get_set_ne _ _ different, present], session, met⟩
      · next registered registering =>
        cases taken
        refine ⟨register_consistent attended.consistent identified fresh registering, ?_⟩
        intro other request found
        rw [(register_spec attended.consistent registering).1] at found
        split at found
        · next same =>
          cases found
          refine ⟨⟨sessionId, call.event.kind, .publishing⟩, ?_, rfl, meets _ _⟩
          have own : requestId = other := same
          rw [own, Dict.get_set_self]
        · next different =>
          split at found
          · cases found
          · obtain ⟨requester, present, session, met⟩ := attended.attended other request found
            exact ⟨requester, by rw [Dict.get_set_ne _ _ different, present], session, met⟩

/-- Every step keeps the requests attended, provided that a requester cancelled
during its publication still meets the test or has no request stored. -/
theorem step_attended {runtime next : Runtime} {action : Action}
    (attended : Attended test runtime)
    (meets : ∀ sessionId kind, test ⟨sessionId, kind, .publishing⟩ ∧
      test ⟨sessionId, kind, .waiting⟩ ∧
      ∀ cancelled, test ⟨sessionId, kind, .expiring cancelled⟩)
    (undisturbed : (∀ requester, test requester) ∨ publishesUndisturbed runtime action = true)
    (taken : step casefold runtime action = some next) : Attended test next := by
  cases action with
  | request requestId sessionId call =>
    exact attended.request casefold (fun sessionId kind => (meets sessionId kind).1) taken
  | published requestId =>
    simp only [step] at taken
    split at taken
    · cases taken
      exact attended.move requestId fun sessionId kind => (meets sessionId kind).2.1
    · cases taken
  | wake requestId =>
    simp only [step] at taken
    split at taken
    · exact attended.conclude taken
    · cases taken
  | timeout requestId =>
    simp only [step] at taken
    split at taken
    · exact attended.stopWaiting (fun sessionId kind => (meets sessionId kind).2.2 false) taken
    · cases taken
  | cancel requestId =>
    simp only [step] at taken
    split at taken
    · next publishing =>
      cases taken
      rcases undisturbed with always | quiet
      · exact attended.move requestId fun _ _ => always _
      · simp only [publishesUndisturbed, publishing, Option.isNone_iff_eq_none] at quiet
        exact attended.move_absent quiet _
    · exact attended.stopWaiting (fun sessionId kind => (meets sessionId kind).2.2 true) taken
    · cases taken
      exact attended.finish requestId _
    · cases taken
  | expire requestId =>
    simp only [step] at taken
    split at taken
    · cases taken
      exact attended.finish requestId _
    · cases taken
      exact attended.finish requestId _
    · cases taken
  | confirm accepted requestId sessionId endpointId approvalId reason =>
    cases taken
    exact attended.narrow (resolveConfirmation_narrows _ _ _ _ _ _ _)
  | answer answerText requestId sessionId selectedOption =>
    simp only [step] at taken
    split at taken
    · cases taken
      exact attended
    · next resolution answered =>
      cases taken
      exact attended.narrow (submitHumanInputResponse_narrows casefold answered)

/-- Consistent tables name requests of their sessions and hold one of each session. -/
theorem tablesConsistent {bus : EventBus} (consistent : Consistent bus) :
    TablesConsistent bus where
  names sessionId requestId named := (consistent.named sessionId requestId named).2
  single _ _ _ _ firstStored _ secondStored _ sameSession :=
    consistent.single firstStored secondStored sameSession

/-- With an unfinished requester for every stored request nothing is wedged. -/
theorem Attended.unwedged {runtime : Runtime}
    (attended : Attended (fun requester => requester.isFinished = false) runtime) :
    Unwedged runtime where
  cleared requestId requester present finished := by
    have absent : runtime.bus.pendingRequests.get requestId = none := by
      cases found : runtime.bus.pendingRequests.get requestId with
      | none => rfl
      | some request =>
        obtain ⟨other, same, _, unfinished⟩ := attended.attended requestId request found
        rw [present] at same
        cases same
        rw [finished] at unfinished
        cases unfinished
    refine ⟨absent, fun sessionId named => ?_⟩
    obtain ⟨_, request, stored, _⟩ := attended.consistent.named sessionId requestId named
    rw [absent] at stored
    cases stored
  accepts sessionId ended requestId event := by
    cases registering : registerPendingRequest runtime.bus ⟨requestId, sessionId, event⟩ with
    | some registered => rfl
    | none =>
      obtain ⟨existing, named, _⟩ := (register_none_iff attended.consistent _).mp registering
      obtain ⟨_, request, stored, session⟩ := attended.consistent.named sessionId existing named
      obtain ⟨requester, present, sameSession, unfinished⟩ :=
        attended.attended existing request stored
      rw [ended existing requester present (sameSession.trans session)] at unfinished
      cases unfinished

/-- A requester cancelled during its publication leaves a stored request behind. -/
theorem undisturbed_of_unwedged {runtime : Runtime} {action : Action}
    (settles : ∀ next, step casefold runtime action = some next → Unwedged next) :
    publishesUndisturbed runtime action = true := by
  unfold publishesUndisturbed
  split
  · next requestId =>
    split
    · next publishing =>
      have unwedged := settles (runtime.move requestId (.finished (.raised .cancelled)))
        (by simp only [step, publishing])
      obtain ⟨requester, present, _⟩ := Option.map_eq_some_iff.mp publishing
      have finished : (runtime.move requestId (.finished (.raised .cancelled))).requesters.get
          requestId = some { requester with phase := .finished (.raised .cancelled) } := by
        rw [Runtime.move, Dict.get_revise_self, present]
        rfl
      exact Option.isNone_iff_eq_none.mpr (unwedged.cleared requestId _ finished rfl).1
    · rfl
  · rfl

/-- The tables of every reachable bus are consistent. -/
theorem reachable_consistent {runtime : Runtime}
    (reachable : Runs.Reachable (step casefold) start runtime) : Consistent runtime.bus := by
  have attended : Attended (fun _ => True) runtime := Runs.reachable_preserves
    (fun _ _ _ holds taken =>
      step_attended casefold holds (by simp) (Or.inl fun _ => trivial) taken)
    (start_attended _) reachable
  exact attended.consistent

/-- Over every run of requests, responses, timeouts and cancellations the tables
stay consistent, and no step of the run leaves a session wedged exactly when no
requester is cancelled during its publication while its request is stored. -/
theorem tables_unwedged (actions : List Action) :
    Runs.Along (step casefold)
        (fun runtime action => ∀ next, step casefold runtime action = some next →
          TablesConsistent next.bus) start actions ∧
      (Runs.Along (step casefold)
          (fun runtime action => ∀ next, step casefold runtime action = some next →
            Unwedged next) start actions ↔
        Runs.Along (step casefold)
          (fun runtime action => publishesUndisturbed runtime action = true) start actions) := by
  refine ⟨?_, ?_, ?_⟩
  · have unconditional : Runs.Along (step casefold) (fun _ _ => True) start actions :=
      Runs.along_of_mem (fun _ _ _ => trivial) start
    refine unconditional.imp_of_invariant (Attended fun _ => True) ?_ ?_ (start_attended _)
    · intro runtime action next attended _ taken
      exact step_attended casefold attended (by simp) (Or.inl fun _ => trivial) taken
    · intro runtime action attended _ next taken
      exact tablesConsistent
        (step_attended casefold attended (by simp) (Or.inl fun _ => trivial) taken).consistent
  · exact Runs.Along.imp fun runtime action settles =>
      undisturbed_of_unwedged casefold settles
  · intro quietly
    refine quietly.imp_of_invariant (Attended fun requester => requester.isFinished = false) ?_ ?_
      (start_attended _)
    · intro runtime action next attended quiet taken
      exact step_attended casefold attended (by simp [Requester.isFinished]) (Or.inr quiet) taken
    · intro runtime action attended quiet next taken
      exact (step_attended casefold attended (by simp [Requester.isFinished]) (Or.inr quiet)
        taken).unwedged

/-- A requester cancelled while its event is published: its request stays, and the
session refuses the next one. -/
theorem cancelled_publication_wedges :
    ∃ runtime, Runs.run (step id) start
      [.request "r" "web" .requestConfirmation, .cancel "r"] = some runtime ∧
      ¬ Unwedged runtime ∧
      registerPendingRequest runtime.bus ⟨"q", "web", .confirm⟩ = none := by
  refine ⟨_, rfl, fun unwedged => ?_, rfl⟩
  have stored := (unwedged.cleared "r" ⟨"web", .confirm, .finished (.raised .cancelled)⟩ rfl rfl).1
  cases stored

end MeetYou.InteractiveRuns
