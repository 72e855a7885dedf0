import MeetYou.BrainTurn

/-!
# Reply control

A user can stop a reply, have it given again, add guidance to it, or go back to an
earlier checkpoint. While a turn runs a request is only noted and the turn is
cancelled; what was asked for happens when the cancelled turn is finalised. Without a
running turn it happens at once. A turn that fails goes back to its own checkpoint.

Between two turns the session may get a proactive message, and an idle session has
its history compacted once.
-/

namespace MeetYou.ReplyControl

open ContextBudget BrainSession BrainTurn Runs

/-! ## Going back to a checkpoint -/

/-- The newest checkpoint of the identifier; an empty identifier has none. -/
def findCheckpoint (session : Session) (checkpointId : Option CheckpointId) : Option Checkpoint :=
  session.checkpoints.reverse.find? fun checkpoint => decide (some checkpoint.id = checkpointId)

/-- `_restore_reply_checkpoint` once the checkpoint is found. -/
def restoreTo (session : Session) (checkpoint : Checkpoint) : Session :=
  { session with
    chatHistory := session.chatHistory.take checkpoint.historyLength
    activeTurn := none
    pendingCommand := none
    checkpoints := session.checkpoints.filter fun item =>
      decide (item.historyLength ≤ checkpoint.historyLength) }

/-- `_restore_reply_checkpoint`: `none` is the raised `ValueError`. -/
def restoreReplyCheckpoint (session : Session) (checkpointId : Option CheckpointId) :
    Option Session :=
  (findCheckpoint session checkpointId).map (restoreTo session)

/-! ## Requests -/

/-- A reply control request; an empty identifier is `none`. -/
structure ControlRequest where
  action : Option ControlAction
  guidance : String
  checkpointId : Option CheckpointId
  turnId : String
  streamId : String

/-- The answer to a request. A completed replay names the input to submit again. -/
inductive ControlResult
  | rejected (reason : String)
  | accepted
  | completed (replayInput : Option Fields)

/-- The request is noted for the running turn. -/
def notePending (session : Session) (action : ControlAction) (checkpointId : CheckpointId)
    (guidance : String) : Session × ControlResult :=
  ({ session with pendingCommand := some ⟨action, checkpointId, guidance⟩ }, .accepted)

/-- `request_reply_control`. -/
def requestReplyControl (session : Session) (request : ControlRequest) : Session × ControlResult :=
  match session.activeTurn with
  | some active =>
      if request.turnId ≠ "" ∧ request.turnId ≠ active.turnId then
        (session, .rejected "turn_id 不匹配。")
      else if request.streamId ≠ "" ∧ request.streamId ≠ active.streamId then
        (session, .rejected "stream_id 不匹配。")
      else match request.action with
        | some .listCheckpoints => (session, .completed none)
        | some .stop => notePending session .stop active.checkpointId ""
        | some .appendGuidance =>
            let guidance := Text.strip request.guidance
            if guidance = "" then (session, .rejected "guidance 不能为空。")
            else notePending session .appendGuidance active.checkpointId guidance
        | some .regenerate => notePending session .regenerate active.checkpointId ""
        | some .rollback =>
            match request.checkpointId with
            | none => (session, .rejected "checkpoint_id 为必填字段。")
            | some checkpointId =>
                if findCheckpoint session (some checkpointId) = none then
                  (session, .rejected "检查点不存在或已失效。")
                else notePending session .rollback checkpointId ""
        | none => (session, .rejected "不支持的控制动作。")
  | none =>
      match request.action with
      | some .listCheckpoints => (session, .completed none)
      | some .stop => (session, .rejected "当前没有进行中的回复。")
      | some .appendGuidance => (session, .rejected "当前没有可追加引导的进行中回复。")
      | some .regenerate =>
          match session.latestReplayInput with
          | none => (session, .rejected "当前没有可重新回复的最近输入。")
          | some replay =>
              if replay.checkpointId = none then (session, .rejected "最近输入缺少可恢复检查点。")
              else match restoreReplyCheckpoint session replay.checkpointId with
                | none => (session, .rejected "检查点不存在或已失效。")
                | some restored => (restored, .completed (some replay.inputInfo))
      | some .rollback =>
          if request.checkpointId = none then (session, .rejected "checkpoint_id 为必填字段。")
          else match restoreReplyCheckpoint session request.checkpointId with
            | none => (session, .rejected "检查点不存在或已失效。")
            | some restored =>
                ({ restored with lastFinishReason := "rolled_back" }, .completed none)
      | none => (session, .rejected "不支持的控制动作。")

/-! ## The end of a turn that did not complete -/

/-- The finish reason of a finalised command. -/
def ControlAction.finishReason : ControlAction → String
  | .appendGuidance => "replayed"
  | .regenerate => "replayed"
  | .rollback => "rolled_back"
  | _ => "stopped"

/-- The active turn of the identifier. -/
def activeOf (session : Session) (turnId : String) : Option ActiveTurn :=
  session.activeTurn.filter fun active => decide (active.turnId = turnId)

/-- The command goes back to a checkpoint. -/
def ControlAction.restores (action : ControlAction) : Bool :=
  action = .appendGuidance || action = .regenerate || action = .rollback

/-- `finalize_reply_control` for an interrupted turn: `none` is the `ValueError` of a
checkpoint that is gone. -/
def finalizeReplyControl (session : Session) (turnId : String) : Option Session :=
  match activeOf session turnId with
  | none => some session
  | some _ =>
      match session.pendingCommand with
      | none => some { session with activeTurn := none, lastFinishReason := "stopped" }
      | some command =>
          let finished := fun (after : Session) =>
            { after with
              activeTurn := none
              pendingCommand := none
              lastFinishReason := ControlAction.finishReason command.action }
          if ControlAction.restores command.action then
            (restoreReplyCheckpoint session (some command.checkpointId)).map finished
          else some (finished session)

/-- `mark_reply_turn_failed`; a checkpoint that is gone is passed over. -/
def markReplyTurnFailed (session : Session) (turnId : String) : Session :=
  match activeOf session turnId with
  | none => session
  | some active =>
      { (restoreReplyCheckpoint session (some active.checkpointId)).getD session with
        activeTurn := none
        pendingCommand := none
        lastFinishReason := "failed" }

/-- The loop of `discard_trailing_transient_messages`, on the messages behind the
base ones. -/
def discardTrailing (messages : List ChatMessage) : List ChatMessage :=
  messages.rdropWhile fun message => metadataTrue message.fields "transient"

/-- `discard_trailing_transient_messages`. -/
def discardTrailingTransientMessages (session : Session) : Session :=
  { session with chatHistory := session.chatHistory.take baseMessageCount ++
      discardTrailing (session.chatHistory.drop baseMessageCount) }

/-! ## An idle session -/

/-- `record_proactive_assistant_message`. -/
def recordProactiveAssistantMessage (session : Session) (content createdAt : String)
    (metadata : Fields) : Session :=
  let text := Text.strip content
  if text = "" then session
  else
    let merged := (Fields.of [("proactive", .bool true),
      ("heartbeat_signal_kind", .str "idle_poke"), ("created_at", .str createdAt)]).update metadata
    session.extend [Fields.of [("role", .str "assistant"), ("content", .str text),
      ("metadata", merged.toJson)]]

/-- `compact_session_for_idle_heartbeat`: only the first one that removes anything
has an effect. -/
def compactSessionForIdleHeartbeat (render : Rendering) (session : Session)
    (loadedContext : String) (calls : SummaryCalls) : Session :=
  let refreshed := { session with conversationSummary := Text.strip loadedContext }
  if session.heartbeatCompacted then refreshed
  else
    let result := compactHistoryForIdleHeartbeat render baseMessageCount 6 calls session.chatHistory
    if result.removed = [] then refreshed
    else { refreshed with
      chatHistory := result.history
      compacted := session.compacted ++ result.removed.map ChatMessage.serial
      heartbeatCompacted := true
      conversationSummary :=
        if result.summary = "" then refreshed.conversationSummary else result.summary }

/-! ## Runs of a session -/

/-- What happens to a session. Turns and idle work are taken one at a time by the
session's actor; requests come in at any time. `interrupted` is the finalisation of a
cancelled turn, `failed` what the actor does with an exception of one. -/
inductive Action
  | begin (input : TurnInput)
  | turn (action : TurnAction)
  | request (request : ControlRequest)
  | interrupted (turnId : String)
  | failed (turnId : String) (transient : Bool)
  | proactive (content createdAt : String) (metadata : Fields)
  | compactIdle (loadedContext : String) (calls : SummaryCalls)

/-- The session without the coroutine of its turn. -/
def ended (session : Session) : Session := { session with turn := none }

/-- The session a failed turn leaves before its checkpoint is restored. -/
def swept (session : Session) (transient : Bool) : Session :=
  if transient then discardTrailingTransientMessages (ended session) else ended session

/-- One step of a session; `none` where the actor is busy with a turn. -/
def step (render : Rendering) (session : Session) : Action → Option Session
  | .begin input => if session.turn.isNone then some (beginTurn render session input) else none
  | .turn action => turnStep render session action
  | .request request => some (requestReplyControl session request).1
  | .interrupted turnId =>
      some ((finalizeReplyControl (ended session) turnId).getD (ended session))
  | .failed turnId transient => some (markReplyTurnFailed (swept session transient) turnId)
  | .proactive content createdAt metadata =>
      if session.turn.isNone then
        some (recordProactiveAssistantMessage session content createdAt metadata)
      else none
  | .compactIdle loadedContext calls =>
      if session.turn.isNone then
        some (compactSessionForIdleHeartbeat render session loadedContext calls)
      else none

end MeetYou.ReplyControl
