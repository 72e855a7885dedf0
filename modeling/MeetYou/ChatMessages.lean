import MeetYou.BrainTurn

/-!
# Chat messages for a provider

The adapter first drops tool calls that are not answered and answers that belong to no call.
For a provider that wants the reasoning of tool calls back it then turns every answered call
into text, except one: where the messages end with the answers of the newest call, that call
stays as it is.

The plan of a model call ends with the position of the user's cursor, a system message. So the
messages never end with answers, and no call stays.
-/

namespace MeetYou.OpenAIAdapter

open ContextBudget BrainSession BrainTurn

section
variable (render : Rendering)

/-- `str(value or "")` -/
def textOr (value : Json) (default : String) : String :=
  match value with
  | .str text => if text = "" then default else text
  | value => if value.truthy then render.str value else default

/-- `str(message.get("role") or "")` -/
def roleOf (message : Fields) : String := textOr render (valueOf message "role") ""

/-- `str(message.get("tool_call_id") or "").strip()` -/
def toolCallId (message : Fields) : String := plainText render (valueOf message "tool_call_id")

/-- A field of a value that is a dictionary. -/
def member (value : Json) (name : String) : Option Json :=
  match value with
  | .obj fields => Dict.find name fields
  | _ => none

/-- `message.get("provider_items") or []` -/
def providerItemsOf (message : Fields) : List Json :=
  match message.get "provider_items" with
  | some (.arr items) => items
  | _ => []

/-- The value is a text, and this one. -/
def isString (value : Option Json) (text : String) : Bool :=
  match value with
  | some (.str other) => decide (other = text)
  | _ => false

/-- The entry of `provider_items` is a call. -/
def isFunctionCall (item : Json) : Bool := isString (member item "type") "function_call"

/-- `str(item.get("call_id") or item.get("id") or "").strip()` -/
def providerCallId (item : Json) : String :=
  let callId := (member item "call_id").getD .null
  plainText render (if callId.truthy then callId else (member item "id").getD .null)

/-- The identifiers of the entries of `tool_calls`. -/
def toolCallIds (message : Fields) : List String :=
  ((toolCallsOf message).map (callId render)).filter fun id => id ≠ ""

/-- `_assistant_call_ids` -/
def assistantCallIds (message : Fields) : List String :=
  let callIds := toolCallIds render message
  if callIds ≠ [] then callIds
  else (((providerItemsOf message).filter isFunctionCall).map (providerCallId render)).filter
    fun id => id ≠ ""

/-! ## Calls and their answers -/

/-- The locals of `_sanitize_tool_message_history`: the messages so far, and the call whose
answers are being collected. -/
structure Sanitizing where
  sanitized : List Fields
  pendingAssistant : Option Fields
  pendingCallIds : List String
  pendingToolMessages : List Fields
  seenToolCallIds : List String

/-- `drop_pending` -/
def Sanitizing.dropPending (state : Sanitizing) : Sanitizing :=
  { state with
    pendingAssistant := none, pendingCallIds := [], pendingToolMessages := []
    seenToolCallIds := [] }

/-- `flush_pending` -/
def Sanitizing.flushPending (state : Sanitizing) : Sanitizing :=
  match state.pendingAssistant with
  | none => state
  | some assistant =>
    { state with sanitized := state.sanitized ++ assistant :: state.pendingToolMessages }.dropPending

/-- `sanitized.append(message)` -/
def Sanitizing.keep (state : Sanitizing) (message : Fields) : Sanitizing :=
  { state with sanitized := state.sanitized ++ [message] }

/-- One round of `_sanitize_tool_message_history`. -/
def sanitizeMessage (state : Sanitizing) (message : Fields) : Sanitizing :=
  let role := roleOf render message
  let assistantIds := if role = "assistant" then assistantCallIds render message else []
  if assistantIds ≠ [] then
    ⟨state.sanitized, some message, assistantIds, [], []⟩
  else if state.pendingAssistant.isSome then
    if role ≠ "tool" then state.dropPending.keep message
    else
      let id := toolCallId render message
      if id ∈ state.pendingCallIds ∧ id ∉ state.seenToolCallIds then
        let next := { state with
          pendingToolMessages := state.pendingToolMessages ++ [message]
          seenToolCallIds := state.seenToolCallIds ++ [id] }
        if next.seenToolCallIds.length = next.pendingCallIds.length then next.flushPending
        else next
      else state
  else if role = "tool" then state
  else state.keep message

/-- `_sanitize_tool_message_history` -/
def sanitizeToolMessageHistory (messages : List Fields) : List Fields :=
  (messages.foldl (sanitizeMessage render) ⟨[], none, [], [], []⟩).sanitized

/-- `_active_tail_tool_chain_start` -/
def activeTailToolChainStart (messages : List Fields) : Option Nat :=
  let before := messages.rdropWhile fun message => roleOf render message = "tool"
  match before.getLast? with
  | none => none
  | some candidate =>
    if roleOf render candidate ≠ "assistant" ∨ ¬isTrue candidate "tool_calls" then none
    else
      let expectedIds := assistantCallIds render candidate
      let seenIds := (messages.drop before.length).map (toolCallId render)
      if expectedIds ≠ [] ∧ ∀ id ∈ expectedIds, id ∈ seenIds then some (before.length - 1)
      else none

/-! ## Text in place of a call -/

/-- `_stringify_content` -/
def stringifyContent : Json → String
  | .null => ""
  | .str text => text
  | value => render.dumps value

/-- The first characters of a text. -/
def cut (text : String) (count : Nat) : String := String.ofList (text.toList.take count)

/-- `_tool_call_summary`; it raises where the entry is no dictionary. -/
def toolCallSummary (toolCall : Json) : Option String :=
  match toolCall with
  | .obj fields =>
    let function := match Dict.find "function" fields with
      | some (.obj inner) => inner
      | _ => []
    let named := (Dict.find "name" function).getD .null
    let name := textOr render
      (if named.truthy then named else (Dict.find "name" fields).getD .null) "function"
    let given := (Dict.find "arguments" function).getD
      ((Dict.find "arguments" fields).getD (.str ""))
    let arguments := match given with
      | .str text => text
      | value => render.dumps value
    let ownId := (Dict.find "id" fields).getD .null
    let id := plainText render
      (if ownId.truthy then ownId else (Dict.find "call_id" fields).getD .null)
    let suffix := if id = "" then "" else " id=" ++ id
    some ("- " ++ name ++ suffix ++ " args=" ++ cut arguments 1200)
  | _ => none

/-- `_tool_result_summary` -/
def toolResultSummary (message : Fields) : String :=
  let id := toolCallId render message
  let content := Text.strip (stringifyContent render (valueOf message "content"))
  (if id = "" then "- result: " else "- result for " ++ id ++ ": ") ++ cut content 1600

/-- The message in place of a call and its answers. -/
def collapsedMessage (message : Fields) (results : List Fields) : Option Fields :=
  let content := Text.strip (stringifyContent render (valueOf message "content"))
  let protocolItems := if isTrue message "tool_calls" then toolCallsOf message
    else (providerItemsOf message).filter isFunctionCall
  (protocolItems.mapM (toolCallSummary render)).map fun summaries =>
    Fields.of [("role", .str "assistant"), ("content", .str ("\n".intercalate
      (["[Tool history collapsed for provider compatibility]"] ++
        (if content = "" then [] else ["assistant_content: " ++ cut content 1600]) ++
        ["tool_calls:"] ++ summaries ++
        (if results = [] then [] else "tool_results:" :: results.map (toolResultSummary render)))))]

/-- The answers behind a call, up to the one that completes them. -/
def resultMessages (callIds : List String) : List String → List Fields → List Fields
  | _, [] => []
  | seenIds, message :: rest =>
    let id := toolCallId render message
    if roleOf render message = "tool" ∧ id ≠ "" ∧ id ∈ callIds then
      if ∀ other ∈ callIds, other ∈ id :: seenIds then [message]
      else message :: resultMessages callIds (id :: seenIds) rest
    else []

/-- The loop of `_collapse_resolved_tool_history`. Each round takes a message at least, so
the number of messages bounds the rounds. -/
def collapseLoop (keepFrom : Option Nat) : Nat → Nat → List Fields → Option (List Fields)
  | 0, _, _ => some []
  | _ + 1, _, [] => some []
  | rounds + 1, index, message :: rest =>
    let kept := (collapseLoop keepFrom rounds (index + 1) rest).map fun later => message :: later
    let callIds := assistantCallIds render message
    if keepFrom.any (· ≤ index) then kept
    else if roleOf render message ≠ "assistant" then kept
    else if callIds = [] then kept
    else
      let results := resultMessages render callIds [] rest
      if ∀ id ∈ callIds, id ∈ results.map (toolCallId render) then
        (collapsedMessage render message results).bind fun collapsed =>
          (collapseLoop keepFrom rounds (index + 1 + results.length)
            (rest.drop results.length)).map fun later => collapsed :: later
      else kept

/-- `_collapse_resolved_tool_history` -/
def collapseResolvedToolHistory (messages : List Fields) : Option (List Fields) :=
  collapseLoop render (activeTailToolChainStart render messages) messages.length 0 messages

/-! ## The request -/

/-- A part of a content that is a list; `none` where a field is missing or no text. -/
def formatPart (part : Json) : Option (List Json) :=
  if isString (member part "type") "text" then
    (member part "text").map fun text => [.obj [("type", .str "text"), ("text", text)]]
  else if isString (member part "type") "image" then
    match (member part "image_data").getD (.str "") with
    | .str image =>
      let mime := match (member part "mime_type").getD (.str "image/png") with
        | .str text => text
        | value => render.str value
      let url := if "http".toList.isPrefixOf image.toList then image
        else "data:" ++ mime ++ ";base64," ++ image
      some [.obj [("type", .str "image_url"), ("image_url", .obj [("url", .str url)])]]
    | _ => none
  else some []

/-- The content of a message of the request. -/
def formatContent (content : Json) : Option Json :=
  match content with
  | .arr parts => (parts.mapM (formatPart render)).map fun formatted => .arr formatted.flatten
  | value => some value

/-- A message of the request, or `none` where `_format_chat_messages` raises. -/
def formatMessage (preserveReasoningContent : Bool) (message : Fields) : Option Fields :=
  (message.get "role").bind fun role =>
    (formatContent render (valueOf message "content")).map fun content =>
      let reasoning := match message.get "reasoning_content" with
        | some (.str text) => text
        | _ => ""
      Fields.of ([("role", role), ("content", content)] ++
        (match message.get "tool_calls" with
          | some toolCalls => ("tool_calls", toolCalls) ::
              if preserveReasoningContent then [("reasoning_content", .str reasoning)] else []
          | none => []) ++
        (match message.get "tool_call_id" with
          | some id => [("tool_call_id", id)]
          | none => []))

/-- `_is_deepseek_family_model` -/
def isDeepseekFamilyModel (model : String) : Bool :=
  let normalizedModel := Text.lowerWord (Text.strip model)
  "deepseek-".toList.isPrefixOf normalizedModel.toList ||
    "deepseek/".toList.isPrefixOf normalizedModel.toList ||
    contains normalizedModel "/deepseek-"

/-- `_supports_chat_reasoning_content_roundtrip`; `hostname` is that of the URL. -/
def supportsChatReasoningContentRoundtrip (hostname model : String) : Bool :=
  Text.lowerWord hostname = "api.deepseek.com" || isDeepseekFamilyModel model

/-- `_format_chat_messages` -/
def formatChatMessages (messages : List Fields) (hostname model : String) : Option (List Fields) :=
  let preserve := supportsChatReasoningContentRoundtrip hostname model
  let sanitized := sanitizeToolMessageHistory render messages
  (if preserve then collapseResolvedToolHistory render sanitized else some sanitized).bind
    fun selected => selected.mapM (formatMessage render preserve)

/-- The `proprioception_message` that `input_brain` makes for every model call. -/
def proprioceptionMessage (proprioceptionInfo : Json) : Fields :=
  Fields.of [("role", .str "system"),
    ("content", .str ("当前用户电脑光标信息：" ++ render.dumps proprioceptionInfo))]

/-- The messages that the adapter sends for one model call of a turn. -/
def requestMessages (session : Session) (turn : Turn) (inputs : PlanInputs) (planFails : Bool)
    (proprioceptionInfo : Json) (hostname model : String) : Option (List Fields) :=
  formatChatMessages render
    (planMessages render session turn
      { inputs with proprioception := some (proprioceptionMessage render proprioceptionInfo) }
      planFails).1 hostname model

end

end MeetYou.OpenAIAdapter
