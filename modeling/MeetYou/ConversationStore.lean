import MeetYou.Foundation.OrderBy
import MeetYou.Foundation.ParentChains
import MeetYou.Foundation.Text
import MeetYou.Foundation.Values

/-!
# Stored conversations and their version operations

Threads, messages, branches and checkpoints, and the service that moves a thread
between versions of its history. A message points to the message before it; a
branch and a thread each point to the message their history ends with. No
operation deletes a message.

A row has one identifier here: its internal and its public one are both unique
and are drawn together. An operation draws fresh identifiers and clock readings
from outside; a drawn identifier that is taken violates a unique constraint, and
the operation is refused with its transaction. An operation that finds no row to
work on returns without a result and changes nothing.

The orders of the database are values with ties left open.
-/

namespace MeetYou.ConversationStore

abbrev ThreadId := String
abbrev SessionId := String
abbrev MessageId := String
abbrev BranchId := String
abbrev CheckpointId := String

/-- A row of `messages`. -/
structure Message where
  threadId : ThreadId
  sessionId : Option SessionId := none
  role : String
  channel : String := "message"
  content : String
  contentType : String := "text"
  status : String := "completed"
  createdByActorId : Option String := none
  originEndpointId : Option String := none
  activeWorkspaceId : Option String := none
  parentMessageId : Option MessageId := none
  branchId : Option BranchId := none
  revisionOfMessageId : Option MessageId := none
  variantIndex : Nat := 0
  metadata : Fields := Dict.empty
  createdAt : Instant

/-- A row of `threads`. -/
structure Thread where
  activeBranchId : Option BranchId := none
  currentLeafMessageId : Option MessageId := none
  summary : String := ""
  metadata : Fields := Dict.empty

/-- A row of `sessions`. -/
structure Session where
  threadId : ThreadId
  activeWorkspaceId : Option String := none
  originEndpointId : Option String := none

/-- A row of `thread_branches`. -/
structure ThreadBranch where
  threadId : ThreadId
  parentBranchId : Option BranchId := none
  rootMessageId : Option MessageId := none
  currentLeafMessageId : Option MessageId := none
  title : String := ""
  metadata : Fields := Dict.empty
  createdAt : Instant

/-- A row of `conversation_checkpoints`. -/
structure ConversationCheckpoint where
  threadId : ThreadId
  branchId : Option BranchId := none
  messageId : Option MessageId := none
  checkpointType : String := "manual"
  title : String := ""
  state : Fields := Dict.empty
  metadata : Fields := Dict.empty

/-- The tables. -/
structure Store where
  threads : Dict ThreadId Thread
  sessions : Dict SessionId Session
  messages : Dict MessageId Message
  branches : Dict BranchId ThreadBranch
  checkpoints : Dict CheckpointId ConversationCheckpoint

/-- The store before anything is written. -/
def Store.start : Store := ⟨Dict.empty, Dict.empty, Dict.empty, Dict.empty, Dict.empty⟩

/-- The orders the queries ask for. -/
structure Orders where
  oldestFirst : OrderBy fun entry : MessageId × Message => entry.2.createdAt
  newestFirst : OrderBy fun entry : MessageId × Message => OrderDual.toDual entry.2.createdAt
  branches : OrderBy fun entry : BranchId × ThreadBranch => entry.2.createdAt

/-- The orders of a database that breaks ties by position. -/
def Orders.positions : Orders := ⟨OrderBy.stable, OrderBy.stable, OrderBy.stable⟩

/-- What an operation draws from outside: identifiers and clock readings for the
rows it may write. -/
structure Draws where
  defaultBranchId : BranchId := ""
  defaultBranchUtcnow : Instant := 0
  branchId : BranchId := ""
  branchUtcnow : Instant := 0
  messageId : MessageId := ""
  messageUtcnow : Instant := 0
  checkpointId : CheckpointId := ""

/-- `text or default`. -/
def orText (text default : String) : String := if text = "" then default else text

/-- `text[-count:]`. -/
def lastCharacters (count : Nat) (text : String) : String :=
  String.ofList (text.toList.drop (text.toList.length - count))

section
variable (orders : Orders)

/-- The rows of a thread, in table order. -/
def rowsOfThread (store : Store) (threadId : ThreadId) : List (MessageId × Message) :=
  store.messages.entries.filter fun entry => decide (entry.2.threadId = threadId)

/-- `MessageRepository.list_by_thread_id`. -/
def listByThreadId (store : Store) (threadId : ThreadId) : List (MessageId × Message) :=
  orders.oldestFirst.sort (rowsOfThread store threadId)

/-- `by_id.get`, with the parent the walk goes on to. -/
def parentAmong (rows : List (MessageId × Message)) (messageId : MessageId) :
    Option (Option MessageId) :=
  (Dict.find messageId rows).map Message.parentMessageId

/-- `MessageRepository.list_branch_path`: walk the parents of the leaf among the
rows of the thread, then turn the path round. -/
def listBranchPath (store : Store) (threadId : ThreadId) (leafMessageId : Option MessageId) :
    List (MessageId × Message) :=
  match leafMessageId with
  | none => []
  | some leaf =>
      let rows := listByThreadId orders store threadId
      let path := ParentChains.follow (parentAmong rows) rows.length [] (some leaf)
      (path.filterMap fun id => (Dict.find id rows).map fun row => (id, row)).reverse

/-- `MessageService.list_messages_for_thread`. -/
def listMessagesForThread (store : Store) (threadId : ThreadId) : List (MessageId × Message) :=
  match (store.threads.get threadId).bind Thread.currentLeafMessageId with
  | none => listByThreadId orders store threadId
  | some leaf =>
      let path := listBranchPath orders store threadId (some leaf)
      if path.isEmpty then listByThreadId orders store threadId else path

/-- `last_message_for_thread`. -/
def lastMessageForThread (store : Store) (threadId : ThreadId) : Option MessageId :=
  ((orders.newestFirst.sort (rowsOfThread store threadId)).head?).map Prod.fst

/-- `dict(row.meta or {}).get("default_branch")`. -/
def ThreadBranch.isDefault (branch : ThreadBranch) : Bool :=
  (branch.metadata.get "default_branch").any Json.truthy

/-- `ThreadBranchRepository.find_default_for_thread`. -/
def findDefaultForThread (store : Store) (threadId : ThreadId) : Option (BranchId × ThreadBranch) :=
  let rows := orders.branches.sort
    (store.branches.entries.filter fun entry => decide (entry.2.threadId = threadId))
  (rows.find? fun entry => entry.2.isDefault).or rows.head?

/-- `update_thread_version_pointer`. -/
def updateThreadVersionPointer (store : Store) (threadId : ThreadId)
    (activeBranchId : Option BranchId) (currentLeafMessageId : Option MessageId) : Store :=
  { store with threads := store.threads.revise threadId fun row =>
      { row with activeBranchId := activeBranchId.or row.activeBranchId,
                 currentLeafMessageId := currentLeafMessageId } }

/-- `ThreadBranchRepository.create`. -/
def createBranch (store : Store) (branchId : BranchId) (branch : ThreadBranch) : Option Store :=
  (store.branches.insertNew branchId branch).map fun branches => { store with branches }

/-- `ConversationCheckpointRepository.create`. -/
def createCheckpointRow (store : Store) (checkpointId : CheckpointId)
    (checkpoint : ConversationCheckpoint) : Option Store :=
  (store.checkpoints.insertNew checkpointId checkpoint).map fun checkpoints =>
    { store with checkpoints }

/-- `MessageRepository.create`. -/
def createMessageRow (store : Store) (messageId : MessageId) (message : Message) : Option Store :=
  (store.messages.insertNew messageId message).map fun messages => { store with messages }

/-- Make the branch the active one of a thread that has none. -/
def activateIfNone (store : Store) (threadId : ThreadId) (branchId : BranchId)
    (leaf : Option MessageId) : Store :=
  match (store.threads.get threadId).bind Thread.activeBranchId with
  | none => updateThreadVersionPointer store threadId (some branchId) leaf
  | some _ => store

/-- `message.branch_id = branch.id` for every message of the thread. -/
def adoptMessages (store : Store) (threadId : ThreadId) (branchId : BranchId) : Store :=
  { store with messages := store.messages.mapValues fun row =>
      if row.threadId = threadId then { row with branchId := some branchId } else row }

/-- `ConversationVersionService._ensure_default_branch_in_session`. A new default
branch ends with the last created message of the thread and adopts every message. -/
def ensureDefaultBranchInSession (store : Store) (threadId : ThreadId) (draws : Draws) :
    Option (Store × BranchId) :=
  match findDefaultForThread orders store threadId with
  | some (branchId, branch) =>
      some (activateIfNone store threadId branchId branch.currentLeafMessageId, branchId)
  | none =>
      let leaf := lastMessageForThread orders store threadId
      (createBranch store draws.defaultBranchId
        { threadId := threadId, currentLeafMessageId := leaf, title := "默认分支",
          metadata := Fields.of [("default_branch", .bool true)],
          createdAt := draws.defaultBranchUtcnow }).map fun created =>
        (activateIfNone (adoptMessages created threadId draws.defaultBranchId) threadId
          draws.defaultBranchId leaf, draws.defaultBranchId)

/-- `ThreadBranchRepository.get_by_id(thread.active_branch_id) or branch`. -/
def activeBranchOr (store : Store) (threadId : ThreadId) (branchId : BranchId) : BranchId :=
  match (store.threads.get threadId).bind Thread.activeBranchId with
  | none => branchId
  | some active => if (store.branches.get active).isSome then active else branchId

/-- The label of a role in an automatic checkpoint's title. -/
def roleLabel (role : String) : String :=
  match Text.lowerWord (Text.strip role) with
  | "user" => "用户消息"
  | "assistant" => "助手消息"
  | "system" => "系统消息"
  | "tool" => "工具消息"
  | _ => "消息"

/-- `str(message_meta.get(name) or "")`, for a text field. -/
def textField (fields : Fields) (name : String) : Json :=
  fields.getOr name (.str "")

/-- The state a checkpoint stores. -/
def checkpointState (threadId : ThreadId) (branchId : BranchId) (leaf : String) : Fields :=
  Fields.of [("thread_id", .str threadId), ("active_branch_id", .str branchId),
    ("current_leaf_message_id", .str leaf)]

/-- `_create_auto_checkpoint_in_session`: one automatic checkpoint for a message;
`one_or_none` raises when there are several. -/
def createAutoCheckpointInSession (store : Store) (threadId : ThreadId) (branchId : BranchId)
    (messageId : MessageId) (draws : Draws) : Option Store :=
  match store.messages.get messageId with
  | none => some store
  | some message =>
      let existing := store.checkpoints.entries.filter fun entry =>
        decide (entry.2.threadId = threadId ∧ entry.2.messageId = some messageId ∧
          entry.2.checkpointType = "auto")
      match existing with
      | [] => createCheckpointRow store draws.checkpointId
          { threadId := threadId, branchId := some branchId, messageId := some messageId,
            checkpointType := "auto",
            title := "自动检查点：" ++ roleLabel message.role ++ " " ++ lastCharacters 8 messageId,
            state := checkpointState threadId branchId messageId,
            metadata := Fields.of [("auto", .bool true), ("auto_reason", .str "message_persisted"),
              ("message_id", .str messageId), ("role", .str message.role),
              ("turn_id", textField message.metadata "turn_id"),
              ("stream_id", textField message.metadata "stream_id")] }
      | [_] => some store
      | _ => none

/-- The message joins the active branch, and hangs below the current leaf when it
has no parent and is not that leaf. -/
def hang (store : Store) (threadId : ThreadId) (messageId : MessageId) (branchId : BranchId) :
    Store :=
  let leaf := (store.threads.get threadId).bind Thread.currentLeafMessageId
  { store with messages := store.messages.revise messageId fun row =>
      { row with
        branchId := row.branchId.or (some branchId)
        parentMessageId :=
          if row.parentMessageId = none ∧ leaf ≠ some messageId then leaf
          else row.parentMessageId } }

/-- `active_branch.current_leaf_message_id = message.id`. -/
def setBranchLeaf (store : Store) (branchId : BranchId) (messageId : MessageId) : Store :=
  { store with branches := store.branches.revise branchId fun row =>
      { row with currentLeafMessageId := some messageId } }

/-- `ConversationVersionService.attach_message_to_active_branch`. -/
def attachMessageToActiveBranch (store : Store) (threadId : ThreadId) (messageId : MessageId)
    (draws : Draws) : Option (Store × Option MessageId) :=
  match store.threads.get threadId, store.messages.get messageId with
  | some _, some _ =>
      (ensureDefaultBranchInSession orders store threadId draws).bind fun (ensured, branchId) =>
        let activeBranchId := activeBranchOr ensured threadId branchId
        let hung := setBranchLeaf (hang ensured threadId messageId activeBranchId) activeBranchId
          messageId
        let moved := updateThreadVersionPointer hung threadId (some activeBranchId) (some messageId)
        (createAutoCheckpointInSession moved threadId activeBranchId messageId draws).map
          fun final => (final, some messageId)
  | _, _ => some (store, none)

/-- `ConversationVersionService.list_branches`. -/
def listBranches (store : Store) (threadId : ThreadId) (draws : Draws) :
    Option (Store × Option (List (BranchId × ThreadBranch))) :=
  match store.threads.get threadId with
  | none => some (store, none)
  | some _ =>
      (ensureDefaultBranchInSession orders store threadId draws).map fun (ensured, _) =>
        (ensured, some (orders.branches.sort
          (ensured.branches.entries.filter fun entry => decide (entry.2.threadId = threadId))))

/-- `ConversationVersionService.create_checkpoint`. -/
def createCheckpoint (store : Store) (threadId : ThreadId) (title checkpointType : String)
    (metadata : Fields) (draws : Draws) : Option (Store × Option CheckpointId) :=
  match store.threads.get threadId with
  | none => some (store, none)
  | some _ =>
      (ensureDefaultBranchInSession orders store threadId draws).bind fun (ensured, branchId) =>
        let activeBranchId := activeBranchOr ensured threadId branchId
        let branchLeaf := (ensured.branches.get activeBranchId).bind
          ThreadBranch.currentLeafMessageId
        let leafId := ((ensured.threads.get threadId).bind Thread.currentLeafMessageId).or branchLeaf
        let leaf := leafId.filter fun id => (ensured.messages.get id).isSome
        (createCheckpointRow ensured draws.checkpointId
          { threadId := threadId, branchId := some activeBranchId, messageId := leafId,
            checkpointType := checkpointType, title := orText (Text.strip title) "检查点",
            state := checkpointState threadId activeBranchId (leaf.getD ""),
            metadata := metadata }).map fun final => (final, some draws.checkpointId)

/-- The checkpoint with this public identifier, when it belongs to the thread. -/
def checkpointOfThread (store : Store) (threadId : ThreadId) (checkpointId : String) :
    Option ConversationCheckpoint :=
  (store.threads.get threadId).bind fun _ =>
    (store.checkpoints.get (Text.strip checkpointId)).filter fun checkpoint =>
      decide (checkpoint.threadId = threadId)

/-- `ConversationVersionService.restore_checkpoint`. -/
def restoreCheckpoint (store : Store) (threadId : ThreadId) (checkpointId : String) :
    Store × Option CheckpointId :=
  match checkpointOfThread store threadId checkpointId with
  | none => (store, none)
  | some checkpoint =>
      (updateThreadVersionPointer store threadId checkpoint.branchId checkpoint.messageId,
        some (Text.strip checkpointId))

/-- `ConversationVersionService.checkout_checkpoint`. -/
def checkoutCheckpoint (store : Store) (threadId : ThreadId) (checkpointId title : String)
    (draws : Draws) : Option (Store × Option BranchId) :=
  match checkpointOfThread store threadId checkpointId with
  | none => some (store, none)
  | some checkpoint =>
      (createBranch store draws.branchId
        { threadId := threadId, parentBranchId := checkpoint.branchId,
          rootMessageId := checkpoint.messageId, currentLeafMessageId := checkpoint.messageId,
          title := orText (Text.strip title)
            ("从检查点签出 " ++ lastCharacters 8 (Text.strip checkpointId)),
          metadata := Fields.of [("checkout_checkpoint_id", .str (Text.strip checkpointId))],
          createdAt := draws.branchUtcnow }).map fun created =>
        (updateThreadVersionPointer created threadId (some draws.branchId) checkpoint.messageId,
          some draws.branchId)

/-- The branch with this public identifier, when it belongs to the thread. -/
def branchOfThread (store : Store) (threadId : ThreadId) (branchId : String) :
    Option ThreadBranch :=
  (store.threads.get threadId).bind fun _ =>
    (store.branches.get (Text.strip branchId)).filter fun branch =>
      decide (branch.threadId = threadId)

/-- `ConversationVersionService.activate_branch`. -/
def activateBranch (store : Store) (threadId : ThreadId) (branchId : String) :
    Store × Option BranchId :=
  match branchOfThread store threadId branchId with
  | none => (store, none)
  | some branch =>
      (updateThreadVersionPointer store threadId (some (Text.strip branchId))
        branch.currentLeafMessageId, some (Text.strip branchId))

/-- The arguments of `edit_retry` beside the message. -/
structure Edit where
  newContent : String
  title : String := ""
  fallbackSessionRowId : Option SessionId := none
  fallbackOriginEndpointRowId : Option String := none
  fallbackActiveWorkspaceRowId : Option String := none
  metadata : Fields := Dict.empty

/-- `str(value or "").strip()` is not empty. -/
def showsText : Json → Bool
  | .str text => decide (Text.strip text ≠ "")
  | value => value.truthy

/-- The session the caller names, when it belongs to the thread. -/
def fallbackSession (store : Store) (threadId : ThreadId) (edit : Edit) :
    Option (SessionId × Session) :=
  edit.fallbackSessionRowId.bind fun sessionId =>
    ((store.sessions.get sessionId).filter fun session => decide (session.threadId = threadId)).map
      fun session => (sessionId, session)

/-- The edited copy of a message. -/
def editedMessage (store : Store) (messageId : MessageId) (message : Message) (edit : Edit)
    (branchId : BranchId) (draws : Draws) : Message :=
  let session := fallbackSession store message.threadId edit
  let siblings := store.messages.entries.countP fun entry =>
    decide (entry.2.revisionOfMessageId = some messageId)
  { threadId := message.threadId
    sessionId := message.sessionId.or (session.map Prod.fst)
    role := message.role
    channel := message.channel
    content := edit.newContent
    contentType := message.contentType
    status := "completed"
    createdByActorId := message.createdByActorId
    originEndpointId := message.originEndpointId.or
      ((session.bind fun entry => entry.2.originEndpointId).or edit.fallbackOriginEndpointRowId)
    activeWorkspaceId := message.activeWorkspaceId.or
      ((session.bind fun entry => entry.2.activeWorkspaceId).or edit.fallbackActiveWorkspaceRowId)
    parentMessageId := message.parentMessageId
    branchId := some branchId
    revisionOfMessageId := some messageId
    variantIndex := siblings + 1
    metadata := ((message.metadata.update (Fields.of (edit.metadata.entries.filter fun entry =>
      showsText entry.2))).set "edit_retry" (.bool true)).set "revision_of_message_id"
        (.str messageId)
    createdAt := draws.messageUtcnow }

/-- `ConversationVersionService.edit_retry`: a new branch that ends with an edited
copy of a user's message. -/
def editRetry (store : Store) (messageId : MessageId) (edit : Edit) (draws : Draws) :
    Option (Store × Option (BranchId × MessageId)) :=
  match (store.messages.get messageId).filter fun row => decide (row.role = "user") with
  | none => some (store, none)
  | some message =>
      match store.threads.get message.threadId with
      | none => some (store, none)
      | some _ =>
          (ensureDefaultBranchInSession orders store message.threadId draws).bind
            fun (ensured, _) =>
            let original := (ensured.messages.get messageId).getD message
            let edited := editedMessage ensured messageId original edit draws.branchId draws
            (createBranch ensured draws.branchId
              { threadId := message.threadId, parentBranchId := original.branchId,
                rootMessageId := original.parentMessageId,
                currentLeafMessageId := some draws.messageId,
                title := orText (Text.strip edit.title)
                  ("编辑重试 " ++ lastCharacters 8 messageId),
                metadata := Fields.of [("edit_retry_of_message_id", .str messageId)],
                createdAt := draws.branchUtcnow }).bind fun branched =>
            (createMessageRow branched draws.messageId edited).bind fun written =>
            (createAutoCheckpointInSession
              (updateThreadVersionPointer written message.threadId (some draws.branchId)
                (some draws.messageId))
              message.threadId draws.branchId draws.messageId draws).map
              fun final => (final, some (draws.branchId, draws.messageId))

end

/-- The arguments of `create_message` its callers give. -/
structure NewMessage where
  threadId : ThreadId
  sessionId : Option SessionId := none
  role : String
  channel : String := "message"
  content : String
  contentType : String := "text"
  status : String := "completed"
  createdByActorId : Option String := none
  originEndpointId : Option String := none
  activeWorkspaceId : Option String := none
  metadata : Fields := Dict.empty

/-- The row of a new message. -/
def NewMessage.row (message : NewMessage) (utcnow : Instant) : Message where
  threadId := message.threadId
  sessionId := message.sessionId
  role := message.role
  channel := message.channel
  content := message.content
  contentType := message.contentType
  status := message.status
  createdByActorId := message.createdByActorId
  originEndpointId := message.originEndpointId
  activeWorkspaceId := message.activeWorkspaceId
  metadata := message.metadata
  createdAt := utcnow

/-- `MessageService.create_message`; the thread is a foreign key. -/
def createMessage (store : Store) (message : NewMessage) (draws : Draws) : Option Store :=
  match store.threads.get message.threadId with
  | none => none
  | some _ => createMessageRow store draws.messageId (message.row draws.messageUtcnow)

/-- `ThreadService.create_thread`. -/
def createThread (store : Store) (threadId : ThreadId) (metadata : Fields) : Option Store :=
  (store.threads.insertNew threadId { metadata := metadata }).map fun threads => { store with threads }

end MeetYou.ConversationStore
