import MeetYou.Foundation.Runs
import MeetYou.Foundation.Text
import MeetYou.OperationCalls

/-!
# Dispatching a tool call to an endpoint

A dispatch creates the rows of its call, registers a future, sends the request
and waits for the future. Frames from the endpoint are recorded in the rows, and
a result, an error or a cancellation then settles the future if it is still
registered and open. The dispatch itself records that the call was sent, refused
or timed out.

Every await is a point where other parties may act: taking the lock, the
transport's send, the wait, and the turn of the event loop between cancelling a
future and going on. A frame is therefore two steps, and what it has still to
tell the future is kept as a notice.
-/

namespace MeetYou.ToolDispatch

open OperationCalls

/-- `ToolRouterError`. Code and message are kept as the values they are the texts of. -/
structure ToolRouterError where
  code : Json
  message : Json
  details : Fields := Dict.empty
  retryable : Bool := false

/-- The state of the future of a call. -/
inductive FutureState where
  | pending
  | result (result : Fields)
  | failed (error : ToolRouterError)
  | cancelled

/-- What a dispatch returns. -/
inductive Reply where
  | result (result : Fields)
  | operation (operationId : OperationId) (callId : CallId) (targetId : String) (result : Fields)
  | waitingForEndpoint (operationId : OperationId) (callId : CallId)

/-- How a dispatch ends; an interruption is a cancelled task or an exception of the
transport. -/
inductive Outcome where
  | returned (reply : Reply)
  | raised (error : ToolRouterError)
  | interrupted

/-- Where a dispatch stands. -/
inductive Phase where
  | registering
  | sending
  | refused
  | waiting
  /-- The wait has cancelled the future, for a timeout or for a cancellation of the task. -/
  | expiring (cancelled : Bool)
  | leaving (outcome : Outcome)
  | finished (outcome : Outcome)

/-- The arguments of a dispatch that it reads later. -/
structure Request where
  targetId : String
  offlinePolicy : String := "fail_fast"
  timeoutSeconds : Int := 120
  returnOperation : Bool := false

/-- The policy lets a call wait for its endpoint. -/
def Request.queues (request : Request) : Bool :=
  decide (request.offlinePolicy ∈ ["queue_until_online", "store_in_outbox"])

/-- A dispatch; `registered` says whether `_pending` holds its future. -/
structure Dispatch where
  operationId : OperationId
  request : Request
  phase : Phase := .registering
  future : FutureState := .pending
  registered : Bool := false

/-- What a frame has still to tell the future of its call. -/
inductive Notice where
  | result (result : Fields)
  | error (error : ToolRouterError)

/-- The rows of calls, the dispatches that wait, and what came for them. -/
structure Router where
  ledger : Ledger
  dispatches : Dict CallId Dispatch
  notices : List (CallId × Notice)

/-- No call was dispatched. -/
def start : Router := ⟨Ledger.start, Dict.empty, []⟩

/-- The error fields the router records itself. -/
def errorCode (code : String) : Fields := Fields.of [("code", .str code)]

/-- A retryable error the router raises itself. -/
def retryableError (code message : String) : ToolRouterError where
  code := .str code
  message := .str message
  retryable := true

/-- The exception a future gets for the error of a frame. -/
def frameError (code message : String) (error : Fields) : ToolRouterError where
  code := error.getOr "code" (.str code)
  message := error.getOr "message" (.str message)
  details := error
  retryable := (error.get "retryable").any Json.truthy

/-- A step of the dispatching task. -/
inductive Event where
  | register
  | unavailable
  | sent (accepted : Bool)
  | sendRaised
  | refuse
  | wake
  | timeout
  | expire
  | leave
  | cancel

/-- A wait whose future is done ends with the future. -/
def Dispatch.conclude (dispatch : Dispatch) (callId : CallId) : Option Dispatch :=
  match dispatch.future with
  | .pending => none
  | .result result =>
      some { dispatch with
             phase := .leaving (.returned
               (if dispatch.request.returnOperation then
                 .operation dispatch.operationId callId dispatch.request.targetId result
               else .result result)) }
  | .failed error => some { dispatch with phase := .leaving (.raised error) }
  | .cancelled => some { dispatch with phase := .leaving .interrupted }

/-- A wait that is over takes a future that is done, and otherwise cancels it. -/
def Dispatch.stopWaiting (dispatch : Dispatch) (callId : CallId) (cancelled : Bool) :
    Option Dispatch :=
  match dispatch.future with
  | .pending => some { dispatch with future := .cancelled, phase := .expiring cancelled }
  | _ => dispatch.conclude callId

/-- The error of a timeout. -/
def timeoutError (request : Request) : ToolRouterError :=
  retryableError "endpoint_tool_timeout"
    s!"Endpoint tool call timed out after {request.timeoutSeconds} seconds"

/-- The steps of `_dispatch_target` after the rows exist: the dispatch after a step,
and what the step records of the call. -/
def advance (dispatch : Dispatch) (callId : CallId) (event : Event) :
    Option (Dispatch × Option Mark) :=
  match event, dispatch.phase with
  | .register, .registering => some ({ dispatch with registered := true, phase := .sending }, none)
  | .unavailable, .registering =>
      some ({ dispatch with
              phase := .finished (.raised (retryableError "endpoint_transport_unavailable"
                "Endpoint transport is unavailable")) },
        some (.failed (errorCode "endpoint_transport_unavailable")))
  | .sent true, .sending => some ({ dispatch with phase := .waiting }, some .dispatched)
  | .sent false, .sending => some ({ dispatch with phase := .refused }, none)
  | .sendRaised, .sending => some ({ dispatch with phase := .finished .interrupted }, none)
  | .refuse, .refused =>
      if dispatch.request.queues then
        some ({ dispatch with
                registered := false
                phase := .finished (.returned (.waitingForEndpoint dispatch.operationId callId)) },
          some (.failed (errorCode "waiting_for_endpoint")))
      else
        some ({ dispatch with
                registered := false
                phase := .finished (.raised (retryableError "target_endpoint_unavailable"
                  s!"Endpoint is unavailable: {dispatch.request.targetId}")) },
          some (.failed (errorCode "target_endpoint_unavailable")))
  | .wake, .waiting => (dispatch.conclude callId).map fun next => (next, none)
  | .timeout, .waiting => (dispatch.stopWaiting callId false).map fun next => (next, none)
  | .expire, .expiring false =>
      some ({ dispatch with phase := .leaving (.raised (timeoutError dispatch.request)) },
        some (.failed (errorCode "endpoint_tool_timeout")))
  | .expire, .expiring true => some ({ dispatch with phase := .leaving .interrupted }, none)
  | .leave, .leaving outcome =>
      some ({ dispatch with registered := false, phase := .finished outcome }, none)
  | .cancel, .registering => some ({ dispatch with phase := .finished .interrupted }, none)
  | .cancel, .sending => some ({ dispatch with phase := .finished .interrupted }, none)
  | .cancel, .refused => some ({ dispatch with phase := .finished .interrupted }, none)
  | .cancel, .waiting => (dispatch.stopWaiting callId true).map fun next => (next, none)
  | .cancel, .expiring _ => some ({ dispatch with phase := .leaving .interrupted }, none)
  | .cancel, .leaving _ => some ({ dispatch with phase := .finished .interrupted }, none)
  | _, _ => none

/-- A frame about a call. -/
inductive Frame where
  | accepted
  | progress (detail phase : String)
  | result (result : Fields)
  | error (error : Fields)
  | cancel (reason : String)

/-- The error `ToolResultHandler` makes of a cancellation. -/
def cancelError (reason : String) : Fields :=
  Fields.of
    [("code", .str "endpoint_tool_cancelled"),
      ("message", .str (if reason ≠ "" then reason else "endpoint cancelled tool call")),
      ("retryable", .bool false)]

/-- The payload `notify_call_cancelled` records. -/
def cancelPayload (error : Fields) : Fields :=
  ((error.setDefault "code" (.str "endpoint_tool_cancelled")).setDefault "message"
    (.str "Endpoint tool call cancelled")).setDefault "retryable" (.bool false)

/-- What `ToolResultHandler` and the `notify_call` functions record of a frame. -/
def Frame.mark : Frame → Mark
  | .accepted => .accepted
  | .progress detail phase =>
      .progress detail (Fields.of [("phase", .str (if phase ≠ "" then phase else "running"))])
  | .result fields => .succeeded fields
  | .error fields => .failed fields
  | .cancel reason => .cancelled (cancelPayload (cancelError reason))

/-- What the `notify_call` functions then tell the future. -/
def Frame.notice : Frame → Option Notice
  | .accepted | .progress .. => none
  | .result fields => some (.result fields)
  | .error fields =>
      some (.error (frameError "endpoint_tool_failed" "Endpoint tool call failed" fields))
  | .cancel reason =>
      some (.error (frameError "endpoint_tool_cancelled" "Endpoint tool call cancelled"
        (cancelPayload (cancelError reason))))

/-- The future of a dispatch once a notice has reached it. -/
def Notice.future : Notice → FutureState
  | .result fields => .result fields
  | .error raised => .failed raised

/-- Settle the future unless it is done or no longer registered. -/
def Dispatch.settle (dispatch : Dispatch) (notice : Notice) : Dispatch :=
  match dispatch.registered, dispatch.future with
  | true, .pending => { dispatch with future := notice.future }
  | _, _ => dispatch

/-- One step of one party. -/
inductive Action where
  | dispatch (callId : CallId) (operationId : OperationId) (request : Request) (metadata : Fields)
  | task (callId : CallId) (event : Event)
  | frame (callId : String) (frame : Frame)
  | settle (position : Nat)
  | restart

/-- New rows have identifiers nothing else uses yet. -/
def unused (router : Router) (callId : CallId) (operationId : OperationId) : Bool :=
  (router.ledger.calls.get callId).isNone && (router.ledger.operations.get operationId).isNone &&
    (router.dispatches.get callId).isNone &&
    router.notices.all fun notice => decide (notice.1 ≠ callId)

/-- Record what there is to record. -/
def recorded (ledger : Ledger) (callId : CallId) : Option Mark → Ledger
  | none => ledger
  | some mark => mark.record ledger callId

/-- The steps of the router. A restart keeps the tables and nothing else. -/
def step (router : Router) : Action → Option Router
  | .dispatch callId operationId request metadata =>
      if unused router callId operationId then
        some { router with
               ledger := createCall router.ledger callId operationId metadata
               dispatches := router.dispatches.set callId
                 { operationId := operationId, request := request } }
      else none
  | .task callId event =>
      match router.dispatches.get callId with
      | none => none
      | some dispatch =>
          match advance dispatch callId event with
          | none => none
          | some (next, mark) =>
              some { router with ledger := recorded router.ledger callId mark
                                 dispatches := router.dispatches.set callId next }
  | .frame callId frame =>
      if Text.strip callId = "" then some router
      else
        some { router with
               ledger := frame.mark.record router.ledger (Text.strip callId)
               notices := match frame.notice with
                 | none => router.notices
                 | some notice => router.notices ++ [(Text.strip callId, notice)] }
  | .settle position =>
      match router.notices[position]? with
      | none => none
      | some (callId, notice) =>
          some { router with
                 dispatches := router.dispatches.revise callId fun dispatch =>
                   dispatch.settle notice
                 notices := router.notices.eraseIdx position }
  | .restart => some { router with dispatches := Dict.empty, notices := [] }

/-- What a step records, and of which call. -/
def recordOf (router : Router) : Action → Option (CallId × Mark)
  | .task callId event =>
      match router.dispatches.get callId with
      | none => none
      | some dispatch =>
          match advance dispatch callId event with
          | some (_, some mark) => some (callId, mark)
          | _ => none
  | .frame callId frame =>
      if Text.strip callId = "" then none else some (Text.strip callId, frame.mark)
  | _ => none

/-- A dispatch takes identifiers that nothing uses. -/
theorem dispatch_spec {router next : Router} {callId : CallId} {operationId : OperationId}
    {request : Request} {metadata : Fields}
    (taken : step router (.dispatch callId operationId request metadata) = some next) :
    router.ledger.calls.get callId = none ∧ router.ledger.operations.get operationId = none ∧
      router.dispatches.get callId = none ∧ (∀ notice ∈ router.notices, notice.1 ≠ callId) ∧
      next = { router with
               ledger := createCall router.ledger callId operationId metadata
               dispatches := router.dispatches.set callId
                 { operationId := operationId, request := request } } := by
  simp only [step] at taken
  split at taken
  case isFalse => cases taken
  case isTrue fresh =>
    simp only [unused, Bool.and_eq_true, Option.isNone_iff_eq_none, List.all_eq_true,
      decide_eq_true_eq] at fresh
    obtain ⟨⟨⟨newCall, newOperation⟩, newDispatch⟩, unnoticed⟩ := fresh
    exact ⟨newCall, newOperation, newDispatch, unnoticed, (Option.some.inj taken).symm⟩

theorem task_spec {router next : Router} {callId : CallId} {event : Event}
    (taken : step router (.task callId event) = some next) :
    ∃ dispatch after mark, router.dispatches.get callId = some dispatch ∧
      advance dispatch callId event = some (after, mark) ∧
      next = { router with ledger := recorded router.ledger callId mark
                           dispatches := router.dispatches.set callId after } := by
  simp only [step] at taken
  split at taken
  case h_1 => cases taken
  case h_2 dispatch found =>
    split at taken
    case h_1 => cases taken
    case h_2 after mark advanced =>
      exact ⟨dispatch, after, mark, found, advanced, (Option.some.inj taken).symm⟩

/-- A frame without a call identifier is dropped. -/
theorem frame_spec {router next : Router} {callId : String} {frame : Frame}
    (taken : step router (.frame callId frame) = some next) :
    Text.strip callId = "" ∧ next = router ∨
      Text.strip callId ≠ "" ∧
        next = { router with
                 ledger := frame.mark.record router.ledger (Text.strip callId)
                 notices := match frame.notice with
                   | none => router.notices
                   | some notice => router.notices ++ [(Text.strip callId, notice)] } := by
  by_cases blank : Text.strip callId = ""
  · rw [step, if_pos blank] at taken
    exact Or.inl ⟨blank, (Option.some.inj taken).symm⟩
  · rw [step, if_neg blank] at taken
    exact Or.inr ⟨blank, (Option.some.inj taken).symm⟩

theorem settle_spec {router next : Router} {position : Nat}
    (taken : step router (.settle position) = some next) :
    ∃ callId notice, router.notices[position]? = some (callId, notice) ∧
      next = { router with
               dispatches := router.dispatches.revise callId fun dispatch =>
                 dispatch.settle notice
               notices := router.notices.eraseIdx position } := by
  simp only [step] at taken
  split at taken
  case h_1 => cases taken
  case h_2 callId notice listed =>
    exact ⟨callId, notice, listed, (Option.some.inj taken).symm⟩

/-- A step that records something records it, and it is never refused. -/
theorem step_of_record {router : Router} {action : Action} {callId : CallId} {mark : Mark}
    (records : recordOf router action = some (callId, mark)) :
    ∃ next, step router action = some next ∧ next.ledger = mark.record router.ledger callId := by
  cases action with
  | task tasked event =>
    simp only [recordOf] at records
    cases found : router.dispatches.get tasked with
    | none => simp [found] at records
    | some dispatch =>
      simp only [found] at records
      split at records
      · next next mark advanced =>
        cases records
        simp only [step, found, advanced]
        exact ⟨_, rfl, rfl⟩
      · cases records
  | frame framed frame =>
    simp only [recordOf] at records
    by_cases blank : Text.strip framed = ""
    · simp [blank] at records
    · rw [if_neg blank] at records
      cases records
      rw [step, if_neg blank]
      exact ⟨_, rfl, rfl⟩
  | dispatch => cases records
  | settle => cases records
  | restart => cases records

/-- A step that records nothing keeps the rows of all calls; it may create one. -/
theorem step_of_no_record {router next : Router} {action : Action}
    (silent : recordOf router action = none) (taken : step router action = some next) :
    next.ledger = router.ledger ∨
      ∃ callId operationId metadata, next.ledger =
          createCall router.ledger callId operationId metadata ∧
        router.ledger.calls.get callId = none ∧ router.ledger.operations.get operationId = none := by
  cases action with
  | dispatch callId operationId request metadata =>
    obtain ⟨newCall, newOperation, _, _, rfl⟩ := dispatch_spec taken
    exact Or.inr ⟨callId, operationId, metadata, rfl, newCall, newOperation⟩
  | task callId event =>
    obtain ⟨dispatch, after, mark, found, advanced, rfl⟩ := task_spec taken
    left
    simp only [recordOf, found, advanced] at silent
    cases mark with
    | none => rfl
    | some mark => cases silent
  | frame callId frame =>
    left
    rcases frame_spec taken with ⟨_, rfl⟩ | ⟨named, _⟩
    · rfl
    · rw [recordOf, if_neg named] at silent
      cases silent
  | settle position =>
    obtain ⟨callId, notice, _, rfl⟩ := settle_spec taken
    exact Or.inl rfl
  | restart =>
    cases taken
    exact Or.inl rfl

end MeetYou.ToolDispatch
