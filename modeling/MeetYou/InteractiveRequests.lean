import MeetYou.Foundation.Dict
import MeetYou.Foundation.Text

/-!
# The tables of interactive requests

The event bus keeps the requests that wait for an answer in one table by request
and names, in a second table, the request of each session. Each request has a
future; its requester keeps the future after the request has left the tables.
A response finds a request and settles its future.

A confirmation is looked up in its session first, and the session of the request
found there is then required of the named one; a human-input response goes back
to the named request instead. The text of a human-input response may choose one
of the options by number or by word; reading a number may fail.
-/

namespace MeetYou.InteractiveRequests

abbrev RequestId := String
abbrev SessionId := String

/-- What a request asks for. -/
inductive Kind where
  | confirm
  | humanInput
deriving DecidableEq

/-- The published request event, as far as responses read it. -/
inductive RequestEvent where
  | confirm
  | humanInput (options : List String)

/-- The kind of a request that is announced. -/
def RequestEvent.kind : RequestEvent → Kind
  | .confirm => .confirm
  | .humanInput _ => .humanInput

/-- `_PendingRequest`. Its kind is that of its event. -/
structure PendingRequest where
  requestId : RequestId
  sessionId : SessionId
  event : RequestEvent

/-- The kind of a request that waits. -/
def PendingRequest.kind (request : PendingRequest) : Kind := request.event.kind

/-- The options of a human-input request. -/
def PendingRequest.options (request : PendingRequest) : List String :=
  match request.event with
  | .confirm => []
  | .humanInput options => options

/-- The payload that answers a human-input request. -/
structure HumanInputResponse where
  answered : Bool
  timedOut : Bool
  selectedOption : Option String
  answerText : String
  requestId : RequestId
  sessionId : SessionId
deriving DecidableEq

/-- The payload of a published confirmation response. -/
structure ConfirmResponse where
  accepted : Bool
  requestId : RequestId
  sessionId : SessionId
  endpointId : String
  approvalId : String
  reason : String
deriving DecidableEq

/-- The value a future is resolved with. -/
inductive Value where
  | decision (accepted : Bool)
  | answer (response : HumanInputResponse)
deriving DecidableEq

/-- The state of a future. -/
inductive Future where
  | pending
  | result (value : Value)
  | cancelled
deriving DecidableEq

/-- The event a response has published. -/
inductive Published where
  | confirmResponse (payload : ConfirmResponse)
  | humanInputResponse (payload : HumanInputResponse)

/-- The tables of `EventBus`, with the future of every request made so far. -/
structure EventBus where
  pendingRequests : Dict RequestId PendingRequest
  pendingRequestBySession : Dict SessionId RequestId
  futures : Dict RequestId Future

/-- A bus without requests. -/
def EventBus.start : EventBus := ⟨Dict.empty, Dict.empty, Dict.empty⟩

/-- The future of a request. -/
def EventBus.future (bus : EventBus) (requestId : RequestId) : Future :=
  (bus.futures.get requestId).getD .pending

/-- `future.done()`. -/
def EventBus.done (bus : EventBus) (requestId : RequestId) : Bool :=
  decide (bus.future requestId ≠ .pending)

/-- Settle the future of a request. -/
def EventBus.settle (bus : EventBus) (requestId : RequestId) (future : Future) : EventBus :=
  { bus with futures := bus.futures.set requestId future }

/-- `_find_pending_request` for a kind. -/
def findPendingRequest (bus : EventBus) (kind : Kind) (sessionId : SessionId) :
    Option PendingRequest :=
  bus.pendingRequests.values.find? fun request =>
    decide (request.kind = kind) &&
      (decide (sessionId = "") || decide (request.sessionId = sessionId)) &&
      !bus.done request.requestId

/-- Store a request with a new future. -/
def store (bus : EventBus) (request : PendingRequest) : EventBus where
  pendingRequests := bus.pendingRequests.set request.requestId request
  pendingRequestBySession := bus.pendingRequestBySession.set request.sessionId request.requestId
  futures := bus.futures.set request.requestId .pending

/-- `_register_pending_request`; `none` is the raised `RuntimeError`. -/
def registerPendingRequest (bus : EventBus) (request : PendingRequest) : Option EventBus :=
  let existingRequestId := (bus.pendingRequestBySession.get request.sessionId).getD ""
  if existingRequestId = "" then some (store bus request)
  else
    let evicted := { bus with pendingRequests := bus.pendingRequests.pop existingRequestId }
    match bus.pendingRequests.get existingRequestId with
    | none => some (store evicted request)
    | some existing =>
        if bus.done existing.requestId then some (store evicted request) else none

/-- `_clear_pending_request`. -/
def clearPendingRequest (bus : EventBus) (requestId : RequestId) : EventBus :=
  match bus.pendingRequests.get requestId with
  | none => bus
  | some request =>
      { bus with
        pendingRequests := bus.pendingRequests.pop requestId
        pendingRequestBySession :=
          if (bus.pendingRequestBySession.get request.sessionId).getD "" = requestId then
            bus.pendingRequestBySession.pop request.sessionId
          else bus.pendingRequestBySession }

/-- The outcome of a response: whether it resolved a request, the bus it leaves,
and the event it has published. -/
structure Resolution where
  resolved : Bool
  bus : EventBus
  published : Option Published

/-- Nothing resolved. -/
def unresolved (bus : EventBus) : Resolution := ⟨false, bus, none⟩

/-- The request `_resolve_pending_request` looks at. -/
def lookedUp (bus : EventBus) (kind : Kind) (requestId : RequestId) (sessionId : SessionId) :
    Option PendingRequest :=
  if requestId ≠ "" then bus.pendingRequests.get requestId
  else if sessionId ≠ "" then
    match bus.pendingRequestBySession.get sessionId with
    | none => none
    | some pendingRequestId =>
        if pendingRequestId = "" then none else bus.pendingRequests.get pendingRequestId
  else findPendingRequest bus kind ""

/-- `_resolve_pending_request`. -/
def resolvePendingRequest (bus : EventBus) (kind : Kind) (value : Value) (requestId : RequestId)
    (sessionId : SessionId) (published : Published) : Resolution :=
  match lookedUp bus kind requestId sessionId with
  | none => unresolved bus
  | some request =>
      if request.kind ≠ kind then unresolved bus
      else if sessionId ≠ "" ∧ request.sessionId ≠ sessionId then unresolved bus
      else if requestId ≠ "" ∧ request.requestId ≠ requestId then unresolved bus
      else if bus.done request.requestId then
        unresolved (clearPendingRequest bus request.requestId)
      else ⟨true, bus.settle request.requestId (.result value), some published⟩

/-- `resolve_confirmation`. -/
def resolveConfirmation (bus : EventBus) (accepted : Bool) (requestId : RequestId)
    (sessionId : SessionId) (endpointId approvalId reason : String) : Resolution :=
  let found := findPendingRequest bus .confirm sessionId
  let pending :=
    if requestId ≠ "" ∧ found.isNone then bus.pendingRequests.get requestId else found
  match pending with
  | none => unresolved bus
  | some request =>
      if request.kind ≠ .confirm then unresolved bus
      else
        resolvePendingRequest bus .confirm (.decision accepted)
          (Text.orElse requestId request.requestId) (Text.orElse sessionId request.sessionId)
          (.confirmResponse
            { accepted := accepted, requestId := request.requestId,
              sessionId := request.sessionId, endpointId := Text.strip endpointId,
              approvalId := Text.strip approvalId, reason := Text.strip reason })

/-- A digit string `int` refuses. -/
structure ValueError where
  text : String

section
variable (casefold : String → String)

/-- The first option equal to the text up to case. -/
def optionByWord (stripped : String) (options : List String) : Option String :=
  options.find? fun option => decide (casefold stripped = casefold (Text.strip option))

/-- `_match_option_from_text`. -/
def matchOptionFromText (text : String) (options : List String) :
    Except ValueError (Option String) :=
  let stripped := Text.strip text
  if stripped = "" ∨ options = [] then .ok none
  else if Text.isdigit stripped then
    match Text.int stripped with
    | none => .error ⟨stripped⟩
    | some number =>
        if 1 ≤ number ∧ number ≤ options.length then .ok options[number - 1]?
        else .ok (optionByWord casefold stripped options)
  else .ok (optionByWord casefold stripped options)

/-- The option the `selected_option` argument chooses. -/
def chosenByOption (selectedOption : Option String) (options : List String) :
    Except ValueError (Option String) :=
  match selectedOption with
  | none => .ok none
  | some selected =>
      match matchOptionFromText casefold selected options with
      | .error error => .error error
      | .ok (some option) => .ok (some option)
      | .ok none =>
          if Text.strip selected ∈ options then .ok (some (Text.strip selected)) else .ok none

/-- The option a response chooses: by `selected_option`, else by its text. -/
def normalizedSelected (answerText : String) (selectedOption : Option String)
    (options : List String) : Except ValueError (Option String) :=
  match chosenByOption casefold selectedOption options with
  | .error error => .error error
  | .ok (some option) => .ok (some option)
  | .ok none => matchOptionFromText casefold answerText options

/-- The answer text of a response: the chosen option stands in for a blank or a number. -/
def finalAnswerText (answerText : String) (selected : Option String) : String :=
  match selected.filter fun option => decide (option ≠ "") with
  | none => Text.strip answerText
  | some option =>
      if Text.strip answerText = "" ∨ Text.isdigit (Text.strip answerText) then option
      else Text.strip answerText

/-- The payload that answers a request. -/
def responsePayload (request : PendingRequest) (answerText : String) (selected : Option String) :
    HumanInputResponse where
  answered := true
  timedOut := false
  selectedOption := selected
  answerText := finalAnswerText answerText selected
  requestId := request.requestId
  sessionId := request.sessionId

/-- The request `submit_human_input_response` answers. -/
def answeredRequest (bus : EventBus) (requestId : RequestId) (sessionId : SessionId) :
    Option PendingRequest :=
  match findPendingRequest bus .humanInput sessionId with
  | some found =>
      if requestId = "" ∨ found.requestId = requestId then some found
      else (bus.pendingRequests.get requestId).filter fun named => decide (named.kind = .humanInput)
  | none =>
      if requestId = "" then none
      else (bus.pendingRequests.get requestId).filter fun named => decide (named.kind = .humanInput)

/-- `submit_human_input_response`. -/
def submitHumanInputResponse (bus : EventBus) (answerText : String) (requestId : RequestId)
    (sessionId : SessionId) (selectedOption : Option String) : Except ValueError Resolution :=
  match answeredRequest bus requestId sessionId with
  | none => .ok (unresolved bus)
  | some request =>
      match normalizedSelected casefold answerText selectedOption request.options with
      | .error error => .error error
      | .ok selected =>
          let payload := responsePayload request answerText selected
          .ok (resolvePendingRequest bus .humanInput (.answer payload)
            (Text.orElse requestId request.requestId) (Text.orElse sessionId request.sessionId)
            (.humanInputResponse payload))

end

/-- The tables agree: every stored request is the one its session names, and every
session names a stored request of its own. -/
structure Consistent (bus : EventBus) : Prop where
  stored : ∀ requestId request, bus.pendingRequests.get requestId = some request →
    request.requestId = requestId ∧
      bus.pendingRequestBySession.get request.sessionId = some requestId
  named : ∀ sessionId requestId, bus.pendingRequestBySession.get sessionId = some requestId →
    requestId ≠ "" ∧ ∃ request, bus.pendingRequests.get requestId = some request ∧
      request.sessionId = sessionId

theorem start_consistent : Consistent EventBus.start where
  stored := by intro _ _ found; cases found
  named := by intro _ _ found; cases found

/-- Two stored requests of one session are the same request. -/
theorem Consistent.single {bus : EventBus} (consistent : Consistent bus) {first second : RequestId}
    {firstRequest secondRequest : PendingRequest}
    (firstStored : bus.pendingRequests.get first = some firstRequest)
    (secondStored : bus.pendingRequests.get second = some secondRequest)
    (sameSession : firstRequest.sessionId = secondRequest.sessionId) : first = second := by
  have firstNamed := (consistent.stored first firstRequest firstStored).2
  have secondNamed := (consistent.stored second secondRequest secondStored).2
  rw [sameSession, secondNamed] at firstNamed
  exact (Option.some.inj firstNamed).symm

@[simp] theorem future_settle (bus : EventBus) (settled other : RequestId) (future : Future) :
    (bus.settle settled future).future other =
      if other = settled then future else bus.future other := by
  rw [EventBus.settle, EventBus.future, Dict.get_set]
  by_cases same : settled = other
  · simp [same]
  · simp [same, Ne.symm same, EventBus.future]

/-- Settling a future leaves the tables alone. -/
theorem Consistent.settle {bus : EventBus} (consistent : Consistent bus) (requestId : RequestId)
    (future : Future) : Consistent (bus.settle requestId future) :=
  ⟨consistent.stored, consistent.named⟩

/-- Clearing a request touches no future. -/
@[simp] theorem future_clear (bus : EventBus) (requestId other : RequestId) :
    (clearPendingRequest bus requestId).future other = bus.future other := by
  unfold clearPendingRequest
  split <;> rfl

/-- Of consistent tables clearing removes exactly the one request. -/
theorem clear_pendingRequests (bus : EventBus) (cleared requestId : RequestId) :
    (clearPendingRequest bus cleared).pendingRequests.get requestId =
      if cleared = requestId then none else bus.pendingRequests.get requestId := by
  unfold clearPendingRequest
  cases found : bus.pendingRequests.get cleared with
  | none =>
    by_cases same : cleared = requestId
    · simp [← same, found]
    · simp [same]
  | some request => exact Dict.get_pop _ _ _

/-- Clearing a stored request also takes its name from its session. -/
theorem Consistent.clear_bySession {bus : EventBus} (consistent : Consistent bus)
    (cleared : RequestId) (sessionId : SessionId) :
    (clearPendingRequest bus cleared).pendingRequestBySession.get sessionId =
      if bus.pendingRequestBySession.get sessionId = some cleared then none
      else bus.pendingRequestBySession.get sessionId := by
  unfold clearPendingRequest
  cases found : bus.pendingRequests.get cleared with
  | none =>
    have unnamed : bus.pendingRequestBySession.get sessionId ≠ some cleared := by
      intro named
      obtain ⟨_, request, stored, _⟩ := consistent.named sessionId cleared named
      rw [found] at stored
      cases stored
    simp [unnamed]
  | some request =>
    have names := (consistent.stored cleared request found).2
    simp only [names, Option.getD_some, if_true, Dict.get_pop]
    by_cases own : request.sessionId = sessionId
    · simp [← own, names]
    · rw [if_neg own]
      split
      · next named =>
        obtain ⟨_, other, stored, session⟩ := consistent.named sessionId cleared named
        rw [found] at stored
        cases stored
        exact absurd session own
      · rfl

theorem Consistent.clear {bus : EventBus} (consistent : Consistent bus) (cleared : RequestId) :
    Consistent (clearPendingRequest bus cleared) where
  stored requestId request found := by
    rw [clear_pendingRequests] at found
    split at found
    · cases found
    · next different =>
      obtain ⟨own, names⟩ := consistent.stored requestId request found
      refine ⟨own, ?_⟩
      rw [consistent.clear_bySession, names, if_neg]
      exact fun same => different (Option.some.inj same).symm
  named sessionId requestId found := by
    rw [consistent.clear_bySession] at found
    split at found
    · cases found
    · next different =>
      obtain ⟨nonempty, request, stored, session⟩ := consistent.named sessionId requestId found
      refine ⟨nonempty, request, ?_, session⟩
      rw [clear_pendingRequests, if_neg, stored]
      rintro rfl
      exact different found

/-- Registering is refused exactly while the session names an unresolved request. -/
theorem register_none_iff {bus : EventBus} (consistent : Consistent bus)
    (request : PendingRequest) :
    registerPendingRequest bus request = none ↔
      ∃ existing, bus.pendingRequestBySession.get request.sessionId = some existing ∧
        bus.done existing = false := by
  unfold registerPendingRequest
  cases names : bus.pendingRequestBySession.get request.sessionId with
  | none => simp
  | some existing =>
    obtain ⟨nonempty, held, stored, _⟩ := consistent.named _ existing names
    have own := (consistent.stored existing held stored).1
    simp [nonempty, stored, own]

/-- What registering leaves: the new request in place of the session's old one. -/
theorem register_spec {bus next : EventBus} (consistent : Consistent bus)
    {request : PendingRequest} (registered : registerPendingRequest bus request = some next) :
    (∀ requestId, next.pendingRequests.get requestId =
      if request.requestId = requestId then some request
      else if bus.pendingRequestBySession.get request.sessionId = some requestId then none
      else bus.pendingRequests.get requestId) ∧
    (∀ sessionId, next.pendingRequestBySession.get sessionId =
      if request.sessionId = sessionId then some request.requestId
      else bus.pendingRequestBySession.get sessionId) ∧
    ∀ requestId, next.future requestId =
      if request.requestId = requestId then .pending else bus.future requestId := by
  have stores : ∀ evicted : EventBus, evicted.futures = bus.futures →
      ∀ requestId, (store evicted request).future requestId =
        if request.requestId = requestId then .pending else bus.future requestId := by
    intro evicted same requestId
    rw [store, EventBus.future, Dict.get_set, same]
    split <;> rfl
  unfold registerPendingRequest at registered
  cases names : bus.pendingRequestBySession.get request.sessionId with
  | none =>
    rw [names, Option.getD_none, if_pos rfl] at registered
    cases registered
    refine ⟨fun requestId => ?_, fun sessionId => Dict.get_set _ _ _ _, stores bus rfl⟩
    simp only [store, Dict.get_set, reduceCtorEq, if_false]
  | some existing =>
    obtain ⟨nonempty, held, stored, _⟩ := consistent.named _ existing names
    simp only [names, Option.getD_some, if_neg nonempty, stored] at registered
    split at registered
    · cases registered
      refine ⟨fun requestId => ?_, fun sessionId => Dict.get_set _ _ _ _, stores _ rfl⟩
      simp only [store, Dict.get_set, Dict.get_pop, Option.some.injEq]
    · cases registered

/-- Registering a request under a fresh identifier keeps the tables consistent. -/
theorem register_consistent {bus next : EventBus} (consistent : Consistent bus)
    {request : PendingRequest} (identified : request.requestId ≠ "")
    (fresh : bus.pendingRequests.get request.requestId = none)
    (registered : registerPendingRequest bus request = some next) : Consistent next := by
  obtain ⟨storing, naming, _⟩ := register_spec consistent registered
  constructor
  · intro requestId held found
    rw [storing] at found
    split at found
    · next same =>
      cases found
      exact ⟨same, by rw [naming, if_pos rfl, same]⟩
    · split at found
      · cases found
      · next unnamed =>
        obtain ⟨own, names⟩ := consistent.stored requestId held found
        refine ⟨own, ?_⟩
        rw [naming, if_neg, names]
        intro same
        exact unnamed (same ▸ names)
  · intro sessionId requestId found
    rw [naming] at found
    split at found
    · next same =>
      cases found
      exact ⟨identified, request, by rw [storing, if_pos rfl], same⟩
    · next otherSession =>
      obtain ⟨nonempty, held, stored, session⟩ := consistent.named sessionId requestId found
      refine ⟨nonempty, held, ?_, session⟩
      rw [storing, if_neg, if_neg, stored]
      · intro named
        obtain ⟨_, other, otherStored, otherNamed⟩ := consistent.named _ requestId named
        rw [stored] at otherStored
        cases otherStored
        exact otherSession (otherNamed.symm.trans session)
      · intro same
        rw [same, stored] at fresh
        cases fresh

/-- No request was added and the tables still agree. -/
structure Narrows (bus next : EventBus) : Prop where
  consistent : Consistent bus → Consistent next
  fewer : ∀ requestId request, next.pendingRequests.get requestId = some request →
    bus.pendingRequests.get requestId = some request

theorem Narrows.refl (bus : EventBus) : Narrows bus bus := ⟨id, fun _ _ found => found⟩

theorem Narrows.settle (bus : EventBus) (requestId : RequestId) (future : Future) :
    Narrows bus (bus.settle requestId future) :=
  ⟨fun consistent => consistent.settle requestId future, fun _ _ found => found⟩

theorem Narrows.clear (bus : EventBus) (requestId : RequestId) :
    Narrows bus (clearPendingRequest bus requestId) where
  consistent consistent := consistent.clear requestId
  fewer other request found := by
    rw [clear_pendingRequests] at found
    split at found
    · cases found
    · exact found

/-- A resolution settles a future, clears a request that is done, or does nothing. -/
theorem resolve_narrows (bus : EventBus) (kind : Kind) (value : Value) (requestId : RequestId)
    (sessionId : SessionId) (published : Published) :
    Narrows bus (resolvePendingRequest bus kind value requestId sessionId published).bus := by
  unfold resolvePendingRequest
  split
  · exact Narrows.refl bus
  · next request found =>
    split
    · exact Narrows.refl bus
    · split
      · exact Narrows.refl bus
      · split
        · exact Narrows.refl bus
        · split
          · exact Narrows.clear bus request.requestId
          · exact Narrows.settle bus request.requestId _

theorem resolveConfirmation_narrows (bus : EventBus) (accepted : Bool) (requestId : RequestId)
    (sessionId : SessionId) (endpointId approvalId reason : String) :
    Narrows bus (resolveConfirmation bus accepted requestId sessionId endpointId approvalId
      reason).bus := by
  unfold resolveConfirmation
  dsimp only
  split
  · exact Narrows.refl bus
  · split
    · exact Narrows.refl bus
    · exact resolve_narrows bus _ _ _ _ _

theorem submitHumanInputResponse_narrows (casefold : String → String) {bus : EventBus}
    {answerText : String} {requestId : RequestId} {sessionId : SessionId}
    {selectedOption : Option String} {resolution : Resolution}
    (answered : submitHumanInputResponse casefold bus answerText requestId sessionId
      selectedOption = .ok resolution) : Narrows bus resolution.bus := by
  unfold submitHumanInputResponse at answered
  split at answered
  · cases answered
    exact Narrows.refl bus
  · split at answered
    · cases answered
    · cases answered
      exact resolve_narrows bus _ _ _ _ _

end MeetYou.InteractiveRequests
