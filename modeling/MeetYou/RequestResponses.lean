import MeetYou.InteractiveRuns

/-!
# Responses that name a request

A response may carry the identifier of the request it answers. It should then
resolve that request and nothing else, and nothing at all when no unresolved
request of its kind and session has that identifier.

`reaches_named_iff_heard` says for every reachable bus when this is so. A
confirmation without a session is measured against the oldest unresolved
confirmation of any session, so it must be of the same session or of none. A
human-input response must not ask for the value of a digit string that has none.
-/

namespace MeetYou.RequestResponses

open InteractiveRequests InteractiveRuns

/-- A response, apart from the request and the session it names. -/
inductive Response where
  | confirm (accepted : Bool) (endpointId approvalId reason : String)
  | answer (answerText : String) (selectedOption : Option String)

/-- The kind of request that is answered. -/
def Response.kind : Response → Kind
  | .confirm .. => .confirm
  | .answer .. => .humanInput

variable (casefold : String → String)

/-- The bus after a response; one that raises leaves the bus as it is. -/
def respond (bus : EventBus) (requestId : RequestId) (sessionId : SessionId) : Response → EventBus
  | .confirm accepted endpointId approvalId reason =>
      (resolveConfirmation bus accepted requestId sessionId endpointId approvalId reason).bus
  | .answer answerText selectedOption =>
      match submitHumanInputResponse casefold bus answerText requestId sessionId
          selectedOption with
      | .error _ => bus
      | .ok resolution => resolution.bus

/-- The value a response gives to a request, if it has one. -/
def Response.value (request : PendingRequest) : Response → Option Value
  | .confirm accepted .. => some (.decision accepted)
  | .answer answerText selectedOption =>
      match normalizedSelected casefold answerText selectedOption request.options with
      | .error _ => none
      | .ok selected => some (.answer (responsePayload request answerText selected))

/-- The response names this request: unresolved, of its kind, and of its session if
it carries one. -/
structure Named (bus : EventBus) (kind : Kind) (requestId : RequestId) (sessionId : SessionId)
    (request : PendingRequest) : Prop where
  stored : bus.pendingRequests.get requestId = some request
  sameKind : request.kind = kind
  waiting : bus.done requestId = false
  session : sessionId = "" ∨ request.sessionId = sessionId

/-- The futures after are those before, except that one request has a result. -/
def ResolvesOnly (bus after : EventBus) (requestId : RequestId) (value : Value) : Prop :=
  ∀ other, after.future other = if other = requestId then .result value else bus.future other

/-- The response resolves the request it names with its value and no other, and
resolves nothing when it names none. -/
structure ReachesNamed (bus : EventBus) (requestId : RequestId) (sessionId : SessionId)
    (response : Response) : Prop where
  named : ∀ request, Named bus response.kind requestId sessionId request →
    ∃ value, response.value casefold request = some value ∧
      ResolvesOnly bus (respond casefold bus requestId sessionId response) requestId value
  unnamed : (∀ request, ¬ Named bus response.kind requestId sessionId request) →
    ∀ other, (respond casefold bus requestId sessionId response).future other = bus.future other

/-- A text of digits that `int` refuses. -/
def unreadable (text : String) : Bool :=
  Text.isdigit (Text.strip text) && (Text.int (Text.strip text)).isNone

/-- The `selected_option` of a response is one of the options. -/
def Selects (selected : String) (options : List String) : Prop :=
  (∃ option, matchOptionFromText casefold selected options = .ok (some option)) ∨
    Text.strip selected ∈ options

/-- Choosing an option reads no unreadable number: there are no options, or the
selection is readable and either settles the choice or leaves it to a readable
text. -/
def ReadableChoice (options : List String) (answerText : String) (selectedOption : Option String) :
    Prop :=
  options = [] ∨
    ((∀ selected, selectedOption = some selected → unreadable selected = false) ∧
      (unreadable answerText = true →
        ∃ selected, selectedOption = some selected ∧ Selects casefold selected options))

/-- The response is heard by the request it names. -/
def Heard (bus : EventBus) (requestId : RequestId) (sessionId : SessionId) :
    Response → Prop
  | .confirm .. =>
      ∀ request, Named bus .confirm requestId sessionId request → sessionId ≠ "" ∨
        ∀ first, findPendingRequest bus .confirm "" = some first →
          first.sessionId = "" ∨ first.sessionId = request.sessionId
  | .answer answerText selectedOption =>
      ∀ request, Named bus .humanInput requestId sessionId request →
        ReadableChoice casefold request.options answerText selectedOption

variable {bus : EventBus} {requestId : RequestId} {sessionId : SessionId}

/-- A resolution under the identifier of a named request resolves it alone. -/
theorem resolve_named (consistent : Consistent bus) (identified : requestId ≠ "") {kind : Kind}
    {request : PendingRequest} (named : Named bus kind requestId sessionId request) (value : Value)
    (published : Published) :
    ResolvesOnly bus (resolvePendingRequest bus kind value requestId sessionId published).bus
      requestId value := by
  have own := (consistent.stored requestId request named.stored).1
  have session : ¬ (sessionId ≠ "" ∧ request.sessionId ≠ sessionId) := by
    rcases named.session with blank | same
    · simp [blank]
    · simp [same]
  intro other
  simp only [resolvePendingRequest, lookedUp, ne_eq, identified, not_false_eq_true, if_true,
    named.stored, named.sameKind, not_true, if_false, session, own, and_false, named.waiting,
    Bool.false_eq_true, future_settle]

/-- A resolution under an identifier that names no request resolves nothing. -/
theorem resolve_unnamed (consistent : Consistent bus) (identified : requestId ≠ "") {kind : Kind}
    (unnamed : ∀ request, ¬ Named bus kind requestId sessionId request) (value : Value)
    (published : Published) (other : RequestId) :
    (resolvePendingRequest bus kind value requestId sessionId published).bus.future other =
      bus.future other := by
  unfold resolvePendingRequest
  split
  · rfl
  · next request found =>
    simp only [lookedUp, ne_eq, identified, not_false_eq_true, if_true] at found
    have own := (consistent.stored requestId request found).1
    split
    · rfl
    · next sameKind =>
      split
      · rfl
      · next session =>
        split
        · rfl
        · split
          · exact future_clear bus _ other
          · next waiting =>
            exfalso
            refine unnamed request ⟨found, not_not.mp sameKind, ?_, ?_⟩
            · rw [← own]
              simpa using waiting
            · by_cases blank : sessionId = ""
              · exact Or.inl blank
              · exact Or.inr (not_not.mp fun other => session ⟨blank, other⟩)

/-- The request found for a kind and a session is a named one. -/
theorem find_named (consistent : Consistent bus) {kind : Kind} {first : PendingRequest}
    (found : findPendingRequest bus kind sessionId = some first) :
    Named bus kind first.requestId sessionId first := by
  have member := List.mem_of_find?_eq_some found
  have tested := List.find?_some found
  obtain ⟨key, stored⟩ := (Dict.mem_values_iff _ _).mp member
  have own := (consistent.stored key first stored).1
  simp only [Bool.and_eq_true, Bool.or_eq_true, decide_eq_true_eq, Bool.not_eq_true'] at tested
  exact ⟨own ▸ stored, tested.1.1, tested.2, tested.1.2⟩

/-- Where a request is named, some request of its kind and session is found. -/
theorem found_of_named (consistent : Consistent bus) {kind : Kind} {request : PendingRequest}
    (named : Named bus kind requestId sessionId request) :
    ∃ first, findPendingRequest bus kind sessionId = some first := by
  have own := (consistent.stored requestId request named.stored).1
  have present : (findPendingRequest bus kind sessionId).isSome = true := by
    refine List.find?_isSome.mpr ⟨request, ?_, ?_⟩
    · exact (Dict.mem_values_iff _ _).mpr ⟨requestId, named.stored⟩
    · simp only [Bool.and_eq_true, Bool.or_eq_true, decide_eq_true_eq, Bool.not_eq_true']
      exact ⟨⟨named.sameKind, named.session⟩, own ▸ named.waiting⟩
  exact Option.isSome_iff_exists.mp present

/-- A request named in the session of a response, or in a stand-in for a missing
session, is named by the response. -/
theorem Named.of_orElse {kind : Kind} {standIn : SessionId} {request : PendingRequest}
    (named : Named bus kind requestId (Text.orElse sessionId standIn) request) :
    Named bus kind requestId sessionId request := by
  refine ⟨named.stored, named.sameKind, named.waiting, ?_⟩
  by_cases blank : sessionId = ""
  · exact Or.inl blank
  · have session := named.session
    rw [Text.orElse, if_neg blank] at session
    exact session

/-- What a confirmation under an identifier comes to: a resolution in its session,
or without one in the session of the oldest unresolved confirmation. -/
theorem resolveConfirmation_found (consistent : Consistent bus) (identified : requestId ≠ "")
    (accepted : Bool) (endpointId approvalId reason : String) {first : PendingRequest}
    (found : findPendingRequest bus .confirm sessionId = some first) :
    ∃ published, resolveConfirmation bus accepted requestId sessionId endpointId approvalId reason =
      resolvePendingRequest bus .confirm (.decision accepted) requestId
        (Text.orElse sessionId first.sessionId) published := by
  have sameKind := (find_named consistent found).sameKind
  simp only [resolveConfirmation, found, Option.isNone_some, Bool.false_eq_true, and_false,
    if_false, sameKind, ne_eq, not_true, Text.orElse, identified]
  exact ⟨_, rfl⟩

/-- A confirmation that names no request resolves nothing. -/
theorem resolveConfirmation_unnamed (consistent : Consistent bus) (identified : requestId ≠ "")
    (accepted : Bool) (endpointId approvalId reason : String)
    (unnamed : ∀ request, ¬ Named bus .confirm requestId sessionId request) (other : RequestId) :
    (resolveConfirmation bus accepted requestId sessionId endpointId approvalId
      reason).bus.future other = bus.future other := by
  unfold resolveConfirmation
  dsimp only
  split
  · rfl
  · next request _ =>
    split
    · rfl
    · simp only [Text.orElse, identified, if_false]
      exact resolve_unnamed consistent identified
        (fun candidate named => unnamed candidate (Named.of_orElse named)) _ _ other

/-- A confirmation resolves the request it names exactly when the session it is
measured against is blank or that of the request. -/
theorem resolveConfirmation_named (consistent : Consistent bus) (identified : requestId ≠ "")
    (accepted : Bool) (endpointId approvalId reason : String) {request : PendingRequest}
    (named : Named bus .confirm requestId sessionId request) :
    ResolvesOnly bus (resolveConfirmation bus accepted requestId sessionId endpointId approvalId
        reason).bus requestId (.decision accepted) ↔
      (sessionId ≠ "" ∨ ∀ first, findPendingRequest bus .confirm "" = some first →
        first.sessionId = "" ∨ first.sessionId = request.sessionId) := by
  obtain ⟨first, found⟩ := found_of_named consistent named
  obtain ⟨published, comesTo⟩ := resolveConfirmation_found consistent identified accepted
    endpointId approvalId reason found
  rw [comesTo]
  by_cases blank : sessionId = ""
  · subst blank
    have standIn : Text.orElse "" first.sessionId = first.sessionId := by simp [Text.orElse]
    simp only [standIn, ne_eq, not_true, false_or, found, Option.some.injEq, forall_eq']
    constructor
    · intro resolves
      by_contra apart
      have unnamed : ∀ candidate, ¬ Named bus .confirm requestId first.sessionId candidate := by
        intro candidate other
        have same : candidate = request :=
          Option.some.inj (other.stored.symm.trans named.stored)
        exact apart (other.session.imp id fun session => same ▸ session.symm)
      have stays := resolve_unnamed consistent identified unnamed (.decision accepted) published
        requestId
      rw [resolves requestId, if_pos rfl] at stays
      have waiting := named.waiting
      simp [EventBus.done, ← stays] at waiting
    · intro agrees
      refine resolve_named consistent identified ⟨named.stored, named.sameKind, named.waiting, ?_⟩
        _ _
      exact agrees.imp id Eq.symm
  · have own : Text.orElse sessionId first.sessionId = sessionId := by simp [Text.orElse, blank]
    rw [own]
    exact iff_of_true (resolve_named consistent identified named _ _) (Or.inl blank)

/-- A match raises exactly on an unreadable text with options to choose from. -/
theorem matchOptionFromText_error_iff (text : String) (options : List String) :
    (∃ error, matchOptionFromText casefold text options = .error error) ↔
      options ≠ [] ∧ unreadable text = true := by
  unfold matchOptionFromText unreadable
  by_cases nothing : Text.strip text = "" ∨ options = []
  · simp only [nothing, if_true, reduceCtorEq, exists_false, false_iff, not_and]
    intro options
    have blank : Text.strip text = "" := nothing.resolve_right options
    have noDigits : Text.isdigit "" = false := by decide
    simp [blank, noDigits]
  · obtain ⟨_, options⟩ := not_or.mp nothing
    simp only [nothing, if_false]
    cases digits : Text.isdigit (Text.strip text) with
    | false => simp
    | true =>
      cases Text.int (Text.strip text) with
      | none => simp [options]
      | some number =>
        simp only [if_true, Option.isNone_some, Bool.and_false, Bool.false_eq_true, and_false,
          iff_false, not_exists]
        intro error
        split <;> simp

/-- The choice of an option raises exactly when it reads an unreadable number. -/
theorem normalizedSelected_error_iff (answerText : String) (selectedOption : Option String)
    (options : List String) :
    (∃ error, normalizedSelected casefold answerText selectedOption options = .error error) ↔
      ¬ ReadableChoice casefold options answerText selectedOption := by
  have byText := matchOptionFromText_error_iff casefold answerText options
  unfold normalizedSelected chosenByOption ReadableChoice
  cases selectedOption with
  | none =>
    simp only [reduceCtorEq, false_implies, implies_true, true_and, false_and, exists_false,
      imp_false]
    rw [byText, not_or, not_not]
  | some selected =>
    have bySelected := matchOptionFromText_error_iff casefold selected options
    simp only [Option.some.injEq, forall_eq', exists_eq_left', Selects]
    cases matched : matchOptionFromText casefold selected options with
    | error error =>
      have raises := bySelected.mp ⟨error, matched⟩
      simp [raises.1, raises.2]
    | ok option =>
      have reads : ¬ (options ≠ [] ∧ unreadable selected = true) := by
        rw [← bySelected, matched]
        simp
      have readable : options = [] ∨ unreadable selected = false := by
        by_cases noOptions : options = []
        · exact Or.inl noOptions
        · exact Or.inr (by simpa [noOptions] using reads)
      cases option with
      | some option =>
        simp only [reduceCtorEq, exists_false, false_iff, not_not]
        exact readable.imp id fun reads => ⟨reads, fun _ => Or.inl ⟨option, rfl⟩⟩
      | none =>
        by_cases member : Text.strip selected ∈ options
        · simp only [member, if_true, reduceCtorEq, exists_false, false_iff, not_not]
          exact readable.imp id fun reads => ⟨reads, fun _ => Or.inr trivial⟩
        · simp only [member, if_false, or_false, Except.ok.injEq, reduceCtorEq, exists_false,
            imp_false]
          rw [byText, not_or]
          constructor
          · rintro ⟨options, unread⟩
            exact ⟨options, fun both => both.2 unread⟩
          · rintro ⟨options, notBoth⟩
            refine ⟨options, ?_⟩
            by_contra read
            exact notBoth ⟨readable.resolve_left options, read⟩

/-- Under an identifier the answered request is the stored one of that identifier,
if it asks for human input. -/
theorem answeredRequest_eq (consistent : Consistent bus) (identified : requestId ≠ "") :
    answeredRequest bus requestId sessionId =
      (bus.pendingRequests.get requestId).filter
        fun named => decide (named.kind = .humanInput) := by
  unfold answeredRequest
  split
  · next found finding =>
    by_cases same : found.requestId = requestId
    · have named := find_named consistent finding
      rw [same] at named
      simp [same, named.stored, Option.filter, named.sameKind]
    · simp [identified, same]
  · simp [identified]

/-- What a human-input response comes to: nothing without a request of its kind
under its identifier, and else a resolution in its session or that of the request. -/
theorem respond_answer (consistent : Consistent bus) (identified : requestId ≠ "")
    (answerText : String) (selectedOption : Option String) :
    respond casefold bus requestId sessionId (.answer answerText selectedOption) =
      match (bus.pendingRequests.get requestId).filter
          fun named => decide (named.kind = .humanInput) with
      | none => bus
      | some request =>
          match normalizedSelected casefold answerText selectedOption request.options with
          | .error _ => bus
          | .ok selected =>
              (resolvePendingRequest bus .humanInput
                (.answer (responsePayload request answerText selected)) requestId
                (Text.orElse sessionId request.sessionId)
                (.humanInputResponse (responsePayload request answerText selected))).bus := by
  rw [respond, submitHumanInputResponse, answeredRequest_eq consistent identified]
  cases stored : (bus.pendingRequests.get requestId).filter
      fun named => decide (named.kind = .humanInput) with
  | none => rfl
  | some request =>
    dsimp only
    cases normalizedSelected casefold answerText selectedOption request.options with
    | error error => rfl
    | ok selected => simp [Text.orElse, identified]

/-- A human-input response that names no request resolves nothing. -/
theorem answer_unnamed (consistent : Consistent bus) (identified : requestId ≠ "")
    (answerText : String) (selectedOption : Option String)
    (unnamed : ∀ request, ¬ Named bus .humanInput requestId sessionId request)
    (other : RequestId) :
    (respond casefold bus requestId sessionId (.answer answerText selectedOption)).future other =
      bus.future other := by
  rw [respond_answer casefold consistent identified]
  split
  · rfl
  · split
    · rfl
    · exact resolve_unnamed consistent identified
        (fun candidate named => unnamed candidate (Named.of_orElse named)) _ _ other

/-- A human-input response whose choice raises resolves nothing, and any other one
resolves the request it names. -/
theorem answer_named (consistent : Consistent bus) (identified : requestId ≠ "")
    (answerText : String) (selectedOption : Option String) {request : PendingRequest}
    (named : Named bus .humanInput requestId sessionId request) :
    (∃ value, (Response.answer answerText selectedOption).value casefold request = some value ∧
        ResolvesOnly bus
          (respond casefold bus requestId sessionId (.answer answerText selectedOption)) requestId
          value) ↔
      ReadableChoice casefold request.options answerText selectedOption := by
  have raising := normalizedSelected_error_iff casefold answerText selectedOption request.options
  rw [respond_answer casefold consistent identified, named.stored]
  simp only [Option.filter_some, named.sameKind, decide_true, if_true, Response.value]
  cases choice : normalizedSelected casefold answerText selectedOption request.options with
  | error error =>
    have unread := raising.mp ⟨error, choice⟩
    simp [unread]
  | ok selected =>
    have reads : ReadableChoice casefold request.options answerText selectedOption := by
      by_contra unread
      obtain ⟨error, raises⟩ := raising.mpr unread
      rw [choice] at raises
      cases raises
    refine iff_of_true ⟨_, rfl, ?_⟩ reads
    refine resolve_named consistent identified ⟨named.stored, named.sameKind, named.waiting, ?_⟩ _ _
    by_cases blank : sessionId = ""
    · simp [Text.orElse, blank]
    · have own := named.session.resolve_left blank
      simp [Text.orElse, blank, own]

/-- On every reachable bus a response that carries an identifier resolves the
request it names with its value and no other, and nothing when it names none,
exactly when the request it names hears it. -/
theorem reaches_named_iff_heard {runtime : Runtime}
    (reachable : Runs.Reachable (step casefold) start runtime) (identified : requestId ≠ "")
    (response : Response) :
    ReachesNamed casefold runtime.bus requestId sessionId response ↔
      Heard casefold runtime.bus requestId sessionId response := by
  have consistent := reachable_consistent casefold reachable
  cases response with
  | confirm accepted endpointId approvalId reason =>
    constructor
    · intro reaches request named
      obtain ⟨value, given, resolves⟩ := reaches.named request named
      cases given
      exact (resolveConfirmation_named consistent identified accepted endpointId approvalId reason
        named).mp resolves
    · intro heard
      refine ⟨fun request named => ⟨.decision accepted, rfl, ?_⟩, fun unnamed => ?_⟩
      · exact (resolveConfirmation_named consistent identified accepted endpointId approvalId
          reason named).mpr (heard request named)
      · exact resolveConfirmation_unnamed consistent identified accepted endpointId approvalId
          reason unnamed
  | answer answerText selectedOption =>
    constructor
    · intro reaches request named
      exact (answer_named casefold consistent identified answerText selectedOption named).mp
        (reaches.named request named)
    · intro heard
      refine ⟨fun request named => ?_, fun unnamed => ?_⟩
      · exact (answer_named casefold consistent identified answerText selectedOption named).mpr
          (heard request named)
      · exact answer_unnamed casefold consistent identified answerText selectedOption unnamed

/-- Confirmations pending in two sessions. -/
def twoConfirmations : List Action :=
  [.request "a" "web" .requestConfirmation, .request "b" "feishu" .requestConfirmation,
    .published "a", .published "b"]

/-- The later one answered with its session. -/
theorem twoConfirmations_heard :
    ∃ runtime, Runs.run (step id) start twoConfirmations = some runtime ∧
      (ReachesNamed id runtime.bus "b" "feishu" (.confirm true "" "" "") ↔
        Heard id runtime.bus "b" "feishu" (.confirm true "" "" "")) :=
  ⟨_, rfl, reaches_named_iff_heard id ⟨twoConfirmations, rfl⟩ (by decide) _⟩

/-- The later one answered without a session stays unresolved; so does a request
for human input answered with a superscript digit. -/
theorem named_request_unreached :
    (∃ runtime, Runs.run (step id) start twoConfirmations = some runtime ∧
      ¬ ReachesNamed id runtime.bus "b" "" (.confirm true "" "" "")) ∧
    ∃ runtime, Runs.run (step id) start [.request "a" "web" (.requestHumanInput ["yes", "no"])] =
        some runtime ∧
      ¬ ReachesNamed id runtime.bus "a" "" (.answer "²" none) := by
  refine ⟨⟨_, rfl, fun reaches => ?_⟩, ⟨_, rfl, fun reaches => ?_⟩⟩
  · obtain ⟨value, given, resolves⟩ := reaches.named ⟨"b", "feishu", .confirm⟩
      ⟨rfl, rfl, rfl, Or.inl rfl⟩
    cases given
    exact absurd (resolves "b") (by decide)
  · obtain ⟨value, given, _⟩ := reaches.named ⟨"a", "web", .humanInput ["yes", "no"]⟩
      ⟨rfl, rfl, rfl, Or.inl rfl⟩
    have raises : (Response.answer "²" none).value id ⟨"a", "web", .humanInput ["yes", "no"]⟩ =
        none := by decide
    rw [raises] at given
    cases given

end MeetYou.RequestResponses
