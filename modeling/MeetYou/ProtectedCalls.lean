import MeetYou.CredentialTransport

/-!
# Tool arguments on their way to an endpoint

A dispatch to an endpoint records an operation and a call and sends a frame. All three hold
the arguments in the open; the frame also holds the envelope when there is one. The frame is
written as JSON. The endpoint's runtime reads it and takes the envelope's content for the
arguments when there is an envelope, and else the arguments in the open.
-/

namespace CredentialTransport

open Text JsonText

/-! ## Core -/

/-- The row of a capability, as far as a call reads it. -/
structure EndpointCapability where
  id : List Char
  capabilityId : List Char
  requiresConfirmation : Bool
  riskLevel : List Char

/-- Where a call goes: the endpoint's row, the capability that was chosen and why. -/
structure CallTarget (Real : Type) where
  targetId : List Char
  targetType : List Char
  endpoint : Option (List Char)
  endpointCapability : Option EndpointCapability
  routingDecision : Arguments Real

/-- A tool call to be dispatched. -/
structure ToolCall (Real : Type) where
  target : CallTarget Real
  toolKey : List Char
  workspaceId : List Char
  threadRowId : Option (List Char)
  requestedByActorId : Option (List Char)
  requestedByRunId : Option (List Char)
  title : List Char
  timeoutSeconds : Int
  confirmed : Bool

/-- The row of a workspace. -/
structure WorkspaceRow where
  id : List Char
  workspaceId : List Char

/-- What the services give out for new rows, and the nonce for an envelope. -/
structure Drawn where
  operationRow : List Char
  operationId : List Char
  callSuffix : List Char
  iv : Bytes

/-- The error of a call, with its details. -/
structure ToolRouterError (Real : Type) where
  code : String
  message : String
  details : Object Real

/-- The operation row of a call. -/
structure OperationRecord (Real : Type) where
  threadId : Option (List Char)
  workspaceId : List Char
  operationType : String
  executionTarget : List Char
  executionTargetType : List Char
  executionTargetId : List Char
  targetEndpointId : Option (List Char)
  requestedByActorId : Option (List Char)
  requestedByRunId : Option (List Char)
  title : List Char
  status : String
  metadata : Object Real

/-- The call row. -/
structure CallRecord (Real : Type) where
  callId : List Char
  operationId : List Char
  endpointCapabilityId : Option (List Char)
  targetEndpointId : Option (List Char)
  executionTargetId : List Char
  status : String
  arguments : Object Real

/-- What a dispatched call leaves: two rows and a frame. -/
structure Dispatched (Real : Type) where
  operation : OperationRecord Real
  call : CallRecord Real
  frame : Object Real

/-- `ENDPOINT_TOOL_ARGUMENTS_PURPOSE` -/
def endpointToolArgumentsPurpose : List Char := "endpoint.tool.arguments.v4".toList

section
variable {Real : Type}

/-- The metadata of the operation row, with the public arguments. -/
def operationMetadata (call : ToolCall Real) (arguments : ProtectedArguments Real) :
    Object Real :=
  [("tool_key".toList, .text call.toolKey),
    ("execution_target_id".toList, .text call.target.targetId),
    ("target_endpoint_id".toList, .text call.target.targetId),
    ("routing_decision".toList, .object call.target.routingDecision.members),
    ("arguments".toList, .object arguments.publicArguments),
    ("arguments_encrypted".toList, .bool arguments.encryptedArguments.isSome)]

/-- The payload of the frame, with the public arguments and the envelope. -/
def framePayload (call : ToolCall Real) (workspace : WorkspaceRow) (operationId callId : List Char)
    (arguments : ProtectedArguments Real) : Object Real :=
  [("operation_id".toList, .text operationId), ("call_id".toList, .text callId),
    ("workspace_id".toList, .text workspace.workspaceId),
    ("tool_key".toList, .text (trim call.toolKey)),
    ("capability_id".toList,
      .text (call.target.endpointCapability.elim [] EndpointCapability.capabilityId)),
    ("arguments".toList, .object arguments.publicArguments),
    ("encrypted_arguments".toList, arguments.encryptedArguments.elim .null .object),
    ("timeout_seconds".toList, .int call.timeoutSeconds),
    ("audit_context".toList, .object
      [("requested_by_actor_id".toList, .text (call.requestedByActorId.getD [])),
        ("requested_by_run_id".toList, .text (call.requestedByRunId.getD [])),
        ("execution_target_id".toList, .text call.target.targetId)])]

/-- The frame that goes to the endpoint. -/
def requestFrame (call : ToolCall Real) (workspace : WorkspaceRow)
    (operationId callId : List Char) (arguments : ProtectedArguments Real) : Object Real :=
  [("schema".toList, .text "meetyou.endpoint.ws.v4".toList),
    ("type".toList, .text "tool.call.request".toList),
    ("endpoint_id".toList, .text call.target.targetId),
    ("message_id".toList, .text ("dispatch-".toList ++ callId)),
    ("payload".toList, .object (framePayload call workspace operationId callId arguments))]

/-- The arguments in the open of a frame. -/
def plainArguments (frame : Object Real) : Option (Value Real) :=
  match Dict.find "payload".toList frame with
  | some (.object payload) => Dict.find "arguments".toList payload
  | _ => none

end

section
variable (reals : Reals) (cipher : Cipher) (deriveKey : List Char → List Char → Bytes)

/-- `_dispatch_target` up to the frame it sends. -/
def dispatchTarget (process : Process) (workspaces : List Char → Option WorkspaceRow)
    (call : ToolCall reals.Carrier) (arguments : Arguments reals.Carrier) (drawn : Drawn) :
    Except (ToolRouterError reals.Carrier) (Dispatched reals.Carrier) :=
  match workspaces call.workspaceId with
  | none => .error ⟨"workspace_not_found",
      "Workspace not found: " ++ String.ofList call.workspaceId, []⟩
  | some workspace =>
    if call.target.endpointCapability.any EndpointCapability.requiresConfirmation ∧
        call.confirmed = false then
      .error ⟨"tool_confirmation_required",
        "Tool call requires explicit confirmation before dispatch.",
        [("endpoint_id".toList, .text call.target.targetId),
          ("tool_key".toList, .text call.toolKey),
          ("risk_level".toList,
            .text (call.target.endpointCapability.elim [] EndpointCapability.riskLevel))]⟩
    else match protectSensitiveArguments reals cipher deriveKey process arguments.members
        endpointToolArgumentsPurpose [] drawn.iv with
      | .error error => .error ⟨error.code, error.message, []⟩
      | .ok protectedArguments =>
        let callId := "call_".toList ++ drawn.callSuffix
        .ok {
          operation := {
            threadId := call.threadRowId
            workspaceId := workspace.id
            operationType := "tool_call"
            executionTarget := call.target.targetId
            executionTargetType := call.target.targetType
            executionTargetId := call.target.targetId
            targetEndpointId := call.target.endpoint
            requestedByActorId := call.requestedByActorId
            requestedByRunId := call.requestedByRunId
            title := if call.title = [] then "Tool: ".toList ++ call.toolKey else call.title
            status := "queued"
            metadata := operationMetadata call protectedArguments }
          call := {
            callId := callId
            operationId := drawn.operationRow
            endpointCapabilityId := call.target.endpointCapability.map EndpointCapability.id
            targetEndpointId := call.target.endpoint
            executionTargetId := call.target.targetId
            status := "queued"
            arguments := protectedArguments.publicArguments }
          frame := requestFrame call workspace drawn.operationId callId protectedArguments }

/-- The text of a frame, when it can be written. -/
def sendFrame (frame : Object reals.Carrier) : Option (List Char) :=
  if (Value.object frame).Printable then some (write reals (.object frame)) else none

end

/-! ## The endpoint -/

/-- What becomes of a message. -/
inductive Received (Real : Type)
  | ignored
  | refused (callId : List Char) (error : CredentialTransportError)
  | executes (callId toolKey toolId : List Char) (arguments envelopePayload : Object Real)

section
variable (reals : Reals) (cipher : Cipher) (deriveKey : List Char → List Char → Bytes)
  (shown : Value reals.Carrier → List Char)

/-- The dictionary under a name, or the empty one. -/
def objectField (members : Object reals.Carrier) (name : String) : Object reals.Carrier :=
  match Dict.find name.toList members with
  | some (.object fields) => fields
  | _ => []

/-- The endpoint decrypts the envelope, if there is one. -/
def resolveCallArguments (process : Process) (arguments encryptedArguments : Object reals.Carrier) :
    Except CredentialTransportError (Object reals.Carrier) :=
  if encryptedArguments = [] then .ok arguments
  else decryptJsonPayload reals cipher deriveKey shown process (some encryptedArguments)
    endpointToolArgumentsPurpose []

/-- `_handle_call_request` up to the tool. -/
def handleCallRequest (process : Process) (message : Object reals.Carrier) :
    Received reals.Carrier :=
  let payload := objectField reals message "payload"
  let callId := textField reals shown payload "call_id"
  let toolId := textField reals shown payload "tool_id"
  let toolKey := trim (if textField reals shown payload "tool_key" = [] then toolId
    else textField reals shown payload "tool_key")
  if callId = [] ∨ toolKey = [] then .ignored
  else match resolveCallArguments reals cipher deriveKey shown process
      (objectField reals payload "arguments") (objectField reals payload "encrypted_arguments") with
    | .error error => .refused callId error
    | .ok arguments => .executes callId toolKey toolId arguments payload

/-- A message on the socket; only tool calls are looked at. -/
def receive (process : Process) (text : List Char) : Received reals.Carrier :=
  match loads reals text with
  | some (.object message) =>
      if textField reals shown message "type" = "tool.call.request".toList then
        handleCallRequest reals cipher deriveKey shown process message
      else .ignored
  | _ => .ignored

end

/-! ## What arrives -/

section
variable {reals : Reals} {cipher : Cipher} {deriveKey : List Char → List Char → Bytes}

/-- A dispatch that succeeds has protected the arguments and recorded what is public. -/
theorem dispatchTarget_ok {process : Process} {workspaces : List Char → Option WorkspaceRow}
    {call : ToolCall reals.Carrier} {arguments : Arguments reals.Carrier} {drawn : Drawn}
    {dispatched : Dispatched reals.Carrier}
    (dispatches : dispatchTarget reals cipher deriveKey process workspaces call arguments drawn =
      .ok dispatched) :
    ∃ workspace result, workspaces call.workspaceId = some workspace ∧
      protectSensitiveArguments reals cipher deriveKey process arguments.members
        endpointToolArgumentsPurpose [] drawn.iv = .ok result ∧
      dispatched.operation.metadata = operationMetadata call result ∧
      dispatched.call.arguments = result.publicArguments ∧
      dispatched.frame = requestFrame call workspace drawn.operationId
        ("call_".toList ++ drawn.callSuffix) result := by
  unfold dispatchTarget at dispatches
  split at dispatches
  · cases dispatches
  case h_2 workspace found =>
    split at dispatches
    · cases dispatches
    split at dispatches
    · cases dispatches
    case h_2 result protects =>
      obtain rfl := Except.ok.inj dispatches
      exact ⟨workspace, result, found, protects, rfl, rfl, rfl⟩

/-- Metadata that differs in the public arguments only. -/
theorem operationMetadata_same {call : ToolCall reals.Carrier}
    {left right : ProtectedArguments reals.Carrier}
    (same : Same (.object left.publicArguments) (.object right.publicArguments))
    (encrypted : left.encryptedArguments.isSome = right.encryptedArguments.isSome) :
    Same (.object (operationMetadata call left)) (.object (operationMetadata call right)) := by
  unfold operationMetadata
  rw [encrypted]
  refine ⟨fun name => by simp, ?_⟩
  refine ⟨Or.inr ⟨_, by simp, Alike.refl _ _⟩, Or.inr ⟨_, by simp, Alike.refl _ _⟩,
    Or.inr ⟨_, by simp, Alike.refl _ _⟩, Or.inr ⟨_, by simp, Alike.refl _ _⟩,
    Or.inr ⟨.object right.publicArguments, by simp, same⟩,
    Or.inr ⟨_, by simp, Alike.refl _ _⟩, trivial⟩

theorem plainArguments_requestFrame (call : ToolCall reals.Carrier) (workspace : WorkspaceRow)
    (operationId callId : List Char) (result : ProtectedArguments reals.Carrier) :
    plainArguments (requestFrame call workspace operationId callId result) =
      some (.object result.publicArguments) := rfl

/-- The public arguments and the envelope have distinct names. -/
theorem protected_proper {process : Process} {arguments : Arguments reals.Carrier}
    {purpose explicitSecret : List Char} {iv : Bytes} {result : ProtectedArguments reals.Carrier}
    (protects : protectSensitiveArguments reals cipher deriveKey process arguments.members purpose
      explicitSecret iv = .ok result) :
    (Value.object result.publicArguments).Proper ∧
      (result.encryptedArguments.elim .null Value.object).Proper := by
  rcases protectSensitiveArguments_ok reals cipher deriveKey protects with
    ⟨_, rfl⟩ | ⟨_, encrypted, encrypts, rfl⟩
  · exact ⟨arguments.proper, trivial⟩
  · refine ⟨redact_proper _ arguments.proper, ?_⟩
    unfold encryptJsonPayload at encrypts
    split at encrypts
    · cases encrypts
    split at encrypts
    · cases encrypts
    split at encrypts
    · cases encrypts
    obtain rfl := Except.ok.inj encrypts
    refine ⟨?_, trivial, trivial, trivial, trivial, trivial, trivial, trivial⟩
    simp only [envelope, List.map_cons, List.map_nil]
    decide +kernel

theorem requestFrame_proper {call : ToolCall reals.Carrier} {workspace : WorkspaceRow}
    {operationId callId : List Char} {result : ProtectedArguments reals.Carrier}
    (visible : (Value.object result.publicArguments).Proper)
    (closed : (result.encryptedArguments.elim .null Value.object).Proper) :
    (Value.object (requestFrame call workspace operationId callId result)).Proper := by
  have payload : (Value.object
      (framePayload call workspace operationId callId result)).Proper := by
    refine ⟨?_, trivial, trivial, trivial, trivial, trivial, visible, closed, trivial,
      ⟨?_, trivial, trivial, trivial, trivial⟩, trivial⟩
    · simp only [framePayload, List.map_cons, List.map_nil]
      decide +kernel
    · simp only [List.map_cons, List.map_nil]
      decide +kernel
  refine ⟨?_, trivial, trivial, trivial, trivial, payload, trivial⟩
  simp only [requestFrame, List.map_cons, List.map_nil]
  decide +kernel

/-- The envelope of protected arguments opens to the arguments, and without one they are in the
open. -/
theorem resolve_protected (inverts : cipher.Inverts) (shown : Value reals.Carrier → List Char)
    {core runtime : Process} {arguments : Arguments reals.Carrier} {iv : Bytes}
    {result : ProtectedArguments reals.Carrier}
    (shared : runtime.resolveCredentialSecret [] = core.resolveCredentialSecret [])
    (installed : runtime.cipherInstalled = true)
    (protects : protectSensitiveArguments reals cipher deriveKey core arguments.members
      endpointToolArgumentsPurpose [] iv = .ok result) :
    resolveCallArguments reals cipher deriveKey shown runtime result.publicArguments
      (match result.encryptedArguments.elim .null Value.object with
        | .object fields => fields
        | _ => []) = .ok arguments.members := by
  unfold resolveCallArguments
  rcases protectSensitiveArguments_ok reals cipher deriveKey protects with
    ⟨_, rfl⟩ | ⟨_, encrypted, encrypts, rfl⟩
  · exact if_pos rfl
  · have filled : encrypted ≠ [] := by
      rintro rfl
      unfold encryptJsonPayload envelope at encrypts
      split at encrypts
      · cases encrypts
      split at encrypts
      · cases encrypts
      split at encrypts
      · cases encrypts
      · cases Except.ok.inj encrypts
    have opens := decrypt_encrypt reals cipher deriveKey shown inverts arguments.proper shared
      installed encrypts
    exact (if_neg filled).trans opens

/-- What the runtime makes of a request's frame. -/
theorem handleCallRequest_frame (shown : Value reals.Carrier → List Char) (runtime : Process)
    (call : ToolCall reals.Carrier) (workspace : WorkspaceRow) (operationId callId : List Char)
    (result : ProtectedArguments reals.Carrier) :
    handleCallRequest reals cipher deriveKey shown runtime
        (requestFrame call workspace operationId callId result) =
      if callId = [] ∨ trim call.toolKey = [] then .ignored
      else match resolveCallArguments reals cipher deriveKey shown runtime result.publicArguments
          (match result.encryptedArguments.elim .null Value.object with
            | .object fields => fields
            | _ => []) with
        | .error error => .refused callId error
        | .ok arguments => .executes callId (trim call.toolKey) [] arguments
            (framePayload call workspace operationId callId result) := by
  have payload : objectField reals (requestFrame call workspace operationId callId result)
      "payload" = framePayload call workspace operationId callId result := rfl
  have key : textField reals shown (framePayload call workspace operationId callId result)
      "tool_key" = trim call.toolKey := rfl
  have toolId : textField reals shown (framePayload call workspace operationId callId result)
      "tool_id" = [] := rfl
  have id : textField reals shown (framePayload call workspace operationId callId result)
      "call_id" = callId := rfl
  have plain : objectField reals (framePayload call workspace operationId callId result)
      "arguments" = result.publicArguments := rfl
  have closed : objectField reals (framePayload call workspace operationId callId result)
      "encrypted_arguments" = (match result.encryptedArguments.elim .null Value.object with
        | .object fields => fields
        | _ => []) := by
    obtain ⟨_, envelope, _⟩ := result
    cases envelope <;> rfl
  unfold handleCallRequest
  dsimp only
  rw [payload, key, toolId, id, plain, closed]
  have same : trim (if trim call.toolKey = [] then [] else trim call.toolKey) =
      trim call.toolKey := by
    split
    case isTrue empty => rw [empty]; rfl
    case isFalse => exact trim_trim call.toolKey
  rw [same]

/-- Two dispatches whose arguments agree outside of sensitive fields record and show the same;
and the endpoint's runtime hands the tool the very arguments of the call. -/
theorem dispatchTarget_protects (inverts : cipher.Inverts)
    (shown : Value reals.Carrier → List Char) {core runtime : Process}
    (shared : runtime.resolveCredentialSecret [] = core.resolveCredentialSecret [])
    (installed : runtime.cipherInstalled = true)
    (workspaces : List Char → Option WorkspaceRow) (call : ToolCall reals.Carrier)
    (arguments : Arguments reals.Carrier) (drawn : Drawn) (dispatched : Dispatched reals.Carrier)
    (dispatches : dispatchTarget reals cipher deriveKey core workspaces call arguments drawn =
      .ok dispatched) :
    (∀ (others : Arguments reals.Carrier) (otherDrawn : Drawn)
        (other : Dispatched reals.Carrier),
      Alike sensitive (.object arguments.members) (.object others.members) →
        dispatchTarget reals cipher deriveKey core workspaces call others otherDrawn = .ok other →
          Same (.object dispatched.operation.metadata) (.object other.operation.metadata) ∧
          Same (.object dispatched.call.arguments) (.object other.call.arguments) ∧
          ∃ plain otherPlain, plainArguments dispatched.frame = some plain ∧
            plainArguments other.frame = some otherPlain ∧ Same plain otherPlain) ∧
      ∀ text, sendFrame reals dispatched.frame = some text →
        if trim call.toolKey = [] then
          receive reals cipher deriveKey shown runtime text = .ignored
        else ∃ callId payload,
          receive reals cipher deriveKey shown runtime text =
            .executes callId (trim call.toolKey) [] arguments.members payload := by
  obtain ⟨workspace, result, found, protects, metadata, recorded, frame⟩ :=
    dispatchTarget_ok dispatches
  constructor
  · intro others otherDrawn other alike otherDispatches
    obtain ⟨otherWorkspace, otherResult, otherFound, otherProtects, otherMetadata, otherRecorded,
      otherFrame⟩ := dispatchTarget_ok otherDispatches
    obtain ⟨same, encrypted⟩ := public_alike reals cipher deriveKey alike protects otherProtects
    rw [metadata, otherMetadata, recorded, otherRecorded, frame, otherFrame]
    exact ⟨operationMetadata_same same encrypted, same, _, _,
      plainArguments_requestFrame _ _ _ _ _, plainArguments_requestFrame _ _ _ _ _, same⟩
  · intro text sends
    obtain ⟨visible, closed⟩ := protected_proper protects
    rw [frame] at sends
    unfold sendFrame at sends
    split at sends
    case isFalse => cases sends
    case isTrue printable =>
      obtain rfl := Option.some.inj sends
      unfold receive
      rw [loads_write reals (requestFrame_proper visible closed) printable]
      dsimp only
      have type : textField reals shown (requestFrame call workspace drawn.operationId
          ("call_".toList ++ drawn.callSuffix) result) "type" = "tool.call.request".toList := rfl
      rw [if_pos type, handleCallRequest_frame, resolve_protected inverts shown shared installed
        protects]
      have named : "call_".toList ++ drawn.callSuffix ≠ [] :=
        List.append_ne_nil_of_left_ne_nil (by decide) _
      split
      case isTrue blank => exact if_pos (Or.inr blank)
      case isFalse key => exact ⟨_, _, if_neg (not_or.mpr ⟨named, key⟩)⟩

end

/-! ### A call with a token -/

/-- A cipher that hides nothing. -/
def openCipher : Cipher := ⟨fun _ _ _ plaintext => (plaintext, []), fun _ _ _ text _ => some text⟩

def keyedProcess : Process := ⟨fun _ => ['k'], true⟩

/-- A user's name and a token. -/
def tokenArguments (token : List Char) : Arguments Unit where
  members := [(['u'], .text ['a', 'n', 'n']), ("token".toList, .text token)]
  proper := ⟨by simp only [List.map_cons, List.map_nil]; decide +kernel, trivial, trivial, trivial⟩

def lookupCall : ToolCall Unit where
  target := ⟨['e'], ['e'], none, none, ⟨[], ⟨List.nodup_nil, trivial⟩⟩⟩
  toolKey := ['l']
  workspaceId := ['w']
  threadRowId := none
  requestedByActorId := none
  requestedByRunId := none
  title := []
  timeoutSeconds := 120
  confirmed := false

/-- A dispatch of the call with a token. -/
def dispatchToken (token : List Char) : Except (ToolRouterError Unit) (Dispatched Unit) :=
  dispatchTarget halves openCipher (fun _ _ => []) keyedProcess (fun _ => some ⟨['w'], ['w']⟩)
    lookupCall (tokenArguments token) ⟨['o'], ['o'], ['c'], [1]⟩

theorem dispatchTarget_protects_token :
    ∃ left right, dispatchToken ['x'] = .ok left ∧ dispatchToken ['y'] = .ok right ∧
      Same (.object left.operation.metadata) (.object right.operation.metadata) := by
  have succeeds : ∀ token : List Char, (dispatchToken token).toBool = true →
      ∃ dispatched, dispatchToken token = .ok dispatched := by
    intro token is
    cases result : dispatchToken token with
    | error error => rw [result] at is; cases is
    | ok dispatched => exact ⟨dispatched, rfl⟩
  obtain ⟨left, leftOk⟩ := succeeds ['x'] (by decide +kernel)
  obtain ⟨right, rightOk⟩ := succeeds ['y'] (by decide +kernel)
  have token : sensitive "token".toList = true := by decide +kernel
  have inverts : openCipher.Inverts := fun _ _ _ _ => rfl
  have both := @dispatchTarget_protects _ _ _ inverts (fun _ => []) _ keyedProcess rfl rfl _ _
    _ _ _ leftOk
  exact ⟨left, right, leftOk, rightOk, (both.1 (tokenArguments ['y']) _ right
    ⟨fun _ => Iff.rfl, Or.inr ⟨_, List.mem_cons_self, rfl⟩, Or.inl token, trivial⟩ rightOk).1⟩

end CredentialTransport
