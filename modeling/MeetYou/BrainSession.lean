import MeetYou.ContextBudget

/-!
# A session of the brain

A session holds one chat history behind a system prompt. A turn first fetches the
context of its thread if the history has none of it, remembers how long the history
is, records a reply checkpoint with just that length, and appends the user's input.

The model adds to the code's state what it forgets: which append brought each
message, which messages a checkpoint saw, and which were summarised away since.
-/

namespace MeetYou.BrainSession

open ContextBudget

/-- `checkpoint_id`: fresh for each checkpoint, so they are numbered as they are made. -/
abbrev CheckpointId := Nat

/-- A reply checkpoint. The code keeps `historyLength` only; `seen` are the messages
in the history when it was made and `mark` the number of appends before it. -/
structure Checkpoint where
  id : CheckpointId
  turnId : String
  historyLength : Nat
  seen : List Nat
  mark : Nat

/-- `active_turn` of the reply control state. -/
structure ActiveTurn where
  turnId : String
  streamId : String
  checkpointId : CheckpointId
  inputInfo : Fields

/-- What a control request may ask for. -/
inductive ControlAction
  | listCheckpoints
  | stop
  | appendGuidance
  | regenerate
  | rollback
  deriving DecidableEq

/-- `pending_command` of the reply control state. -/
structure PendingCommand where
  action : ControlAction
  checkpointId : CheckpointId
  guidance : String

/-- `latest_replay_input`; its `checkpoint_id` may be empty. -/
structure ReplayInput where
  turnId : String
  checkpointId : Option CheckpointId
  inputInfo : Fields

/-- What the limits of a turn are worked out from: the arguments of `input_brain`,
the adapter's limit for the model, the context limit resolved for the turn, and the
router's limits for one round of tools. -/
structure Settings where
  providerName : String
  apiUrl : String
  modelLimit : Int
  contextLimitTokens : Int
  thinking : Thinking
  keepsReasoning : Bool
  maxSwitchesPerRound : Option Nat
  maxToolCallsPerRound : Option Nat
  globalContext : String

/-- A tool call the model asked for. -/
structure ToolCall where
  id : String
  name : String
  argumentsStr : String

/-- What is handed to `build_context_plan` and what is sent for it. -/
structure ModelCall where
  currentTurnMessages : List ChatMessage
  messages : List Fields

/-- Where `input_brain` stands between two of its awaited calls. -/
inductive Phase
  | starting
  | planning
  | calling (call : ModelCall)
  | executing (calls : List ToolCall)
  | raised

/-- The locals of a running `input_brain`. The code keeps `turnInputIndex` only;
`appended` are the messages the turn itself has added. -/
structure Turn where
  turnInputIndex : Nat
  transient : Bool
  settings : Settings
  inputInfo : Fields
  phase : Phase
  preflightCompactionAttempted : Bool
  providerContextRetryAttempted : Bool
  appended : List ChatMessage

/-- A session and the turn running on it. `compacted` are the messages summarised
away so far and `appends` counts those ever added. -/
structure Session where
  chatHistory : List ChatMessage
  threadId : String
  hydratedThreadId : String
  conversationSummary : String
  heartbeatCompacted : Bool
  checkpoints : List Checkpoint
  created : CheckpointId
  activeTurn : Option ActiveTurn
  pendingCommand : Option PendingCommand
  latestReplayInput : Option ReplayInput
  lastFinishReason : String
  turn : Option Turn
  appends : Nat
  compacted : List Nat

/-- `_base_message_count`: an initialised brain has one base message. -/
def baseMessageCount : Nat := 1

/-- The system prompt of a session, its first message. -/
def baseMessage (sysPrompt : String) : ChatMessage :=
  ⟨0, Fields.of [("role", .str "system"), ("content", .str sysPrompt)]⟩

/-- `get_or_create_session` for a new identifier. -/
def create (sysPrompt : String) : Session where
  chatHistory := [baseMessage sysPrompt]
  threadId := ""
  hydratedThreadId := ""
  conversationSummary := ""
  heartbeatCompacted := false
  checkpoints := []
  created := 0
  activeTurn := none
  pendingCommand := none
  latestReplayInput := none
  lastFinishReason := ""
  turn := none
  appends := 1
  compacted := []

/-- The dictionaries as the messages their appends make of them. -/
def numbered (first : Nat) (messages : List Fields) : List ChatMessage :=
  messages.zipIdx.map fun entry => ⟨first + entry.2, entry.1⟩

/-- `session.chat_history.extend(messages)`. -/
def Session.extend (session : Session) (messages : List Fields) : Session :=
  { session with
    chatHistory := session.chatHistory ++ numbered session.appends messages
    appends := session.appends + messages.length }

/-! ## Hydration -/

section Hydration
variable (render : Rendering)

/-- `str(metadata.get(name) or "").strip()`. -/
def metadataText (fields : Fields) (name : String) : String :=
  plainText render ((Dict.find name (metadataOf fields)).getD .null)

/-- `_session_known_thread_id`. -/
def Session.knownThreadId (session : Session) : String :=
  Text.strip (if session.threadId ≠ "" then session.threadId else session.hydratedThreadId)

/-- `_history_thread_ids`. -/
def historyThreadIds (session : Session) : List String :=
  ((session.chatHistory.drop baseMessageCount).map fun message =>
    metadataText render message.fields "thread_id").filter (· ≠ "")

/-- `_clear_thread_scoped_history`; the base messages stay. -/
def clearThreadScopedHistory (session : Session) : Session :=
  { session with
    chatHistory := session.chatHistory.take baseMessageCount
    conversationSummary := ""
    threadId := ""
    hydratedThreadId := "" }

/-- `_session_has_non_system_history_for_thread`. -/
def hasHistoryForThread (session : Session) (threadId : String) : Bool :=
  let hasHistory := (session.chatHistory.drop baseMessageCount).any fun message =>
    !metadataTrue message.fields "transient" && !isText message.fields "role" "system"
  let known := session.knownThreadId
  let inHistory := historyThreadIds render session
  hasHistory &&
    (if known ≠ "" then decide (known = threadId)
      else inHistory.isEmpty || decide (threadId ∈ inHistory))

/-- `metadata.get(first) or metadata.get(second)` as a stripped text. -/
def messageIdOf (metadata : List (String × Json)) : String :=
  let value := (Dict.find "thread_context_message_id" metadata).getD .null
  plainText render (if value.truthy then value
    else (Dict.find "message_id" metadata).getD .null)

/-- `_known_thread_context_message_ids`. -/
def knownThreadContextMessageIds (session : Session) : List String :=
  ((session.chatHistory.drop baseMessageCount).map fun message =>
    messageIdOf render (metadataOf message.fields)).filter (· ≠ "")

/-- The entry of the history a message of the payload becomes. -/
def hydratedMessage (threadId : String) (message : ThreadSummary.ModelMessage) : Fields :=
  let metadata := message.metadata.update (Fields.of
    [("context_layer", message.metadata.getOr "context_layer" (.str "thread_history")),
      ("thread_id", message.metadata.getOr "thread_id" (.str threadId)),
      ("transient", .bool false)])
  Fields.of [("role", .str (Text.strip message.role)), ("content", .str message.content),
    ("metadata", metadata.toJson)]

/-- The loop over the payload's messages; known messages are not added twice. -/
def hydratedMessages (threadId : String) :
    List String → List ThreadSummary.ModelMessage → List Fields
  | _, [] => []
  | known, message :: rest =>
      let role := Text.strip message.role
      let messageId := messageIdOf render message.metadata.entries
      if (role ≠ "user" ∧ role ≠ "assistant") ∨ Text.strip message.content = "" ∨
          (messageId ≠ "" ∧ messageId ∈ known) then
        hydratedMessages threadId known rest
      else hydratedMessage threadId message :: hydratedMessages threadId (messageId :: known) rest

/-- What a turn starts with: the input, the `thread_id` of the event context, the
stored summary of the session, what the hydrator returns (`none` where it raises or
is missing), and the identifiers of the runtime state. -/
structure TurnInput where
  inputInfo : Fields
  contextThreadId : String
  loadedContext : String
  hydrated : Option ThreadSummary.Hydrated
  turnId : String
  streamId : String
  settings : Settings

/-- `_current_thread_id`. -/
def currentThreadId (input : TurnInput) : String :=
  let own := (Dict.find "thread_id" (metadataOf input.inputInfo)).getD .null
  if own.truthy then plainText render own else Text.strip input.contextThreadId

/-- The input after `metadata.setdefault("thread_id", thread_id)`. -/
def withThreadId (inputInfo : Fields) (threadId : String) : Fields :=
  let metadata := (Fields.of (metadataOf inputInfo)).setDefault "thread_id" (.str threadId)
  inputInfo.set "metadata" metadata.toJson

/-- The session without the history of another thread. -/
def scopedToThread (session : Session) (threadId : String) : Session :=
  let known := session.knownThreadId
  let inHistory := historyThreadIds render session
  if (known ≠ "" ∧ known ≠ threadId) ∨ (known = "" ∧ inHistory ≠ [] ∧ threadId ∉ inHistory) then
    clearThreadScopedHistory session
  else session

/-- The session with the context that the hydrator returned, if it did. -/
def receiveThreadContext (session : Session) (threadId : String) :
    Option ThreadSummary.Hydrated → Session
  | none => session
  | some payload =>
      let summary := Text.strip payload.summary
      { session.extend (hydratedMessages render threadId
          (knownThreadContextMessageIds render session) payload.messages) with
        conversationSummary := if summary = "" then session.conversationSummary else summary
        threadId := threadId
        hydratedThreadId := if payload.threadId = "" then threadId else payload.threadId }

/-- The session of a thread whose history it has. -/
def keepThread (session : Session) (threadId : String) : Session :=
  { session with threadId := if session.threadId = "" then threadId else session.threadId }

/-- The session with the context of the thread, fetched where it has none of it. -/
def withThreadContext (session : Session) (threadId : String)
    (hydrated : Option ThreadSummary.Hydrated) : Session :=
  if hasHistoryForThread render session threadId then keepThread session threadId
  else receiveThreadContext render session threadId hydrated

/-- `_hydrate_thread_context_if_needed`; the input may get a thread, too. -/
def hydrateThreadContextIfNeeded (session : Session) (input : TurnInput) : Session × Fields :=
  let threadId := currentThreadId render input
  if threadId = "" then (session, input.inputInfo)
  else (withThreadContext render (scopedToThread render session threadId) threadId input.hydrated,
    withThreadId input.inputInfo threadId)

end Hydration

/-! ## The start of a turn -/

/-- `_create_reply_checkpoint` with the list cut to its newest twelve. -/
def Session.createReplyCheckpoint (session : Session) (turnId : String) (historyLength : Nat) :
    Session :=
  let checkpoints := session.checkpoints ++ [{
    id := session.created
    turnId := turnId
    historyLength := historyLength
    seen := session.chatHistory.map ChatMessage.serial
    mark := session.appends }]
  { session with
    checkpoints := checkpoints.drop (checkpoints.length - 12)
    created := session.created + 1 }

/-- `input_brain` from the checkpoint to its first trim, with the index that it noted before. -/
def openTurnAt (session : Session) (input : TurnInput) (inputInfo : Fields)
    (turnInputIndex : Nat) : Session :=
  let kept := session.createReplyCheckpoint input.turnId turnInputIndex
  { kept.extend [inputInfo] with
    activeTurn := some {
      turnId := input.turnId
      streamId := input.streamId
      checkpointId := session.created
      inputInfo := inputInfo }
    pendingCommand := none
    turn := some {
      turnInputIndex := turnInputIndex
      transient := metadataTrue inputInfo "transient"
      settings := input.settings
      inputInfo := inputInfo
      phase := .starting
      preflightCompactionAttempted := false
      providerContextRetryAttempted := false
      appended := numbered session.appends [inputInfo] } }

/-- The same where nothing came in between. -/
def openTurn (session : Session) (input : TurnInput) (inputInfo : Fields) : Session :=
  openTurnAt session input inputInfo session.chatHistory.length

/-- `input_brain` up to its first trim. -/
def beginTurn (render : Rendering) (session : Session) (input : TurnInput) : Session :=
  let refreshed := { session with conversationSummary := Text.strip input.loadedContext }
  let hydrated := hydrateThreadContextIfNeeded render refreshed input
  openTurn hydrated.1 input hydrated.2

end MeetYou.BrainSession
