import MeetYou.Foundation.Dict
import MeetYou.Foundation.Positions
import MeetYou.Foundation.Runs
import MeetYou.Foundation.Text

/-!
# Messages from WeChat

One loop asks for new messages with the cursor it has stored. It puts the messages of an answer
in a queue, waits until the queue has been worked off, and only then stores the cursor of the
answer. Several workers take messages from the queue; a worker holds the lock of its
conversation while it handles a message. It hands the message to Core and waits for the reply,
or submits it as the answer to a question that Core has asked in the conversation.

Every wait of a worker may end in several ways, and everything but the file is lost when the
process is restarted. Digests and what Core does are given from outside. A turn that ends or is
given up leaves no pending reply behind, and the lock admits one turn in a conversation, so no
turn finds the pending reply of another.
-/

namespace MeetYou.ClawBotInbound

open Text

/-! ## Messages -/

/-- An item of a message. -/
structure MessageItem where
  type : Int
  text : String
  isCompleted : Bool

/-- `ClawBotMessage`, without the fields that neither identify nor filter a message. -/
structure Message where
  seq : Int
  messageId : String
  fromUserId : String
  toUserId : String
  createTimeMs : Int
  groupId : String
  messageType : Int
  messageState : Int
  contextToken : String
  items : List MessageItem

/-- `text_content` -/
def Message.textContent (message : Message) : String :=
  let fragments := (message.items.filter fun item => item.type = 1).map fun item => strip item.text
  strip ("\n".intercalate (fragments.filter fun fragment => fragment ≠ ""))

/-- `is_complete_text` -/
def Message.isCompleteText (message : Message) : Bool :=
  let textItems := message.items.filter fun item => item.type = 1
  decide (message.messageState ∈ [0, 2]) && !textItems.isEmpty &&
    textItems.all MessageItem.isCompleted

/-- The peer is the sender, or who the bot wrote to. -/
def Message.peerId (message : Message) : String :=
  if message.fromUserId = "" then message.toUserId else message.fromUserId

/-- `_message_drop_reason` -/
def messageDropReason (message : Message) : String :=
  if message.groupId ≠ "" then "group_message_unsupported"
  else if message.messageType = 2 then "outbound_or_bot_message"
  else if message.isCompleteText = false then "not_completed_text"
  else if message.textContent = "" then "empty_text"
  else if message.peerId = "" then "missing_peer_id"
  else if message.contextToken = "" then "missing_context_token"
  else ""

/-- A complete text that a user has written to the bot directly, with the token that an answer
needs. -/
structure Message.IsInboundText (message : Message) : Prop where
  direct : message.groupId = ""
  inbound : message.messageType ≠ 2
  complete : message.isCompleteText = true
  written : message.textContent ≠ ""
  peer : message.peerId ≠ ""
  answerable : message.contextToken ≠ ""

/-- No complete text of a user is dropped. -/
theorem messageDropReason_eq_empty_iff (message : Message) :
    messageDropReason message = "" ↔ message.IsInboundText := by
  unfold messageDropReason
  constructor
  · intro kept
    iterate 6
      split at kept
      · exact absurd kept (by decide)
    constructor <;> simp_all
  · rintro ⟨direct, inbound, complete, written, peer, answerable⟩
    simp [direct, inbound, complete, written, peer, answerable]

/-- `conversation_ref` -/
def conversationRef (botId peerId : String) : String :=
  (if botId = "" then "default" else botId) ++ "::" ++ peerId

/-- The `event_id` of a message, with the digest it is made by. -/
def Message.eventId (digest : String → String) (botId : String) (message : Message) : String :=
  let number (value : Int) : String := if value = 0 then "" else toString value
  let identitySeed := "\n".intercalate
    [if botId = "" then "default" else botId, message.messageId, number message.seq,
      number message.createTimeMs, message.peerId, digest message.textContent]
  "clawbot:" ++ String.ofList ((digest identitySeed).toList.take 32)

/-- What is queued of a message; `poll` is no field, it tells which poll brought the message. -/
structure Event where
  ref : String
  eventId : String
  text : String
  poll : Nat
  deriving DecidableEq

/-- `event_from_message` -/
def eventFromMessage (digest : String → String) (botId : String) (poll : Nat)
    (message : Message) : Option Event :=
  if messageDropReason message ≠ "" then none
  else some ⟨conversationRef botId message.peerId, message.eventId digest botId,
    message.textContent, poll⟩

/-! ## Answers -/

/-- `_parse_confirm_response` -/
def parseConfirmResponse (text : String) : Option Bool :=
  let normalized := lowerWord (strip text)
  if normalized ∈ ["y", "yes", "ok", "confirm", "approve", "allow", "true", "确认", "同意", "允许"]
    then some true
  else if normalized ∈ ["n", "no", "reject", "deny", "cancel", "false", "拒绝", "取消", "不同意"]
    then some false
  else none

/-- A human-input request that waits for its answer. -/
structure HumanInputRequest where
  requestId : String
  options : List String

/-- The answer to a request for human input. -/
structure HumanInput where
  requestId : String
  answerText : String
  selectedOption : Option String

/-- `resolve_human_input` of a request that waits; the number of an option may be refused by
`int`, which raises. -/
def resolveHumanInput (request : HumanInputRequest) (rawText : String) : Option HumanInput :=
  let text := strip rawText
  let options := (request.options.map strip).filter fun option => option ≠ ""
  let answer (selected : Option String) : HumanInput :=
    let selected := if selected = none ∧ text ∈ options then some text else selected
    ⟨request.requestId, if (selected.getD "") = "" then text else selected.getD "", selected⟩
  if isdigit text then
    (int text).map fun number =>
      answer (if 1 ≤ number ∧ number ≤ options.length then options[number - 1]? else none)
  else some (answer none)

/-- An answer that Core has accepted. -/
inductive Answer
  | confirm (requestId : String) (accepted : Bool) (event : Event)
  | humanInput (input : HumanInput) (event : Event)

/-- The event that an answer was taken from. -/
def Answer.event : Answer → Event
  | .confirm _ _ event | .humanInput _ event => event

/-! ## The adapter -/

/-- Where a worker is with its event: at the lock of the conversation, or at the wait of
`_handle_event` that has the name. -/
inductive Stage
  | locking
  | remembering
  | connectingConfirm (requestId : String) (accepted : Bool)
  | submittingConfirm (requestId : String) (accepted : Bool)
  | connectingInput (input : HumanInput)
  | submittingInput (input : HumanInput)
  | processing
  | connecting
  | sending
  | waiting
  | marking (status : String)

/-- An event in work, with the result of its reply future: whether the reply was sent. -/
structure Job where
  event : Event
  stage : Stage
  reply : Option Bool

/-- Where the poll loop is: in its request, in the queueing of an answer's events, at the end of
the queue's work, or about to store the cursor. -/
inductive Poller
  | polling
  | putting (events : List Event) (messages : List Message) (cursor : String)
  | joining (messages : List Message) (cursor : String)
  | saving (messages : List Message) (cursor : String)

/-- The payload of the state store. -/
structure Store where
  getUpdatesBuf : String
  eventStatuses : Dict String String

/-- The adapter with its file, its queue and its tasks. -/
structure State where
  store : Store
  /-- What the file has of it. -/
  file : Store
  poller : Poller
  queue : List Event
  /-- `_unfinished_tasks` of the queue. -/
  unfinished : Nat
  workers : List (Option Job)
  /-- The locked locks of the conversations, with the workers that hold them. -/
  locks : Dict String Nat
  /-- The workers that wait for a reply in a conversation. -/
  pendingReplies : Dict String Nat
  pendingConfirms : Dict String String
  pendingInputs : Dict String HumanInputRequest
  /-- How many polls have been answered. -/
  polls : Nat
  /-- The messages of the answers whose cursor has been stored. -/
  passed : List Message
  /-- The event ids under which Core has stored a message. -/
  accepted : List String
  /-- The answers that Core has accepted. -/
  answers : List Answer

/-- What the adapter is configured with. -/
structure Adapter where
  botId : String
  digest : String → String
  inboundWorkerCount : Nat
  inboundQueueSize : Nat

/-- One worker, for which the digest of a text is the text. -/
def oneWorker : Adapter := ⟨"bot", id, 1, 1⟩

/-- A process that begins with a file, while Core keeps what it has. -/
def boot (adapter : Adapter) (file : Store) (passed : List Message) (polls : Nat)
    (accepted : List String) (answers : List Answer) : State where
  store := file
  file := file
  poller := .polling
  queue := []
  unfinished := 0
  workers := List.replicate adapter.inboundWorkerCount none
  locks := Dict.empty
  pendingReplies := Dict.empty
  pendingConfirms := Dict.empty
  pendingInputs := Dict.empty
  polls := polls
  passed := passed
  accepted := accepted
  answers := answers

/-- The adapter boots without a file. -/
def start (adapter : Adapter) : State := boot adapter ⟨"", Dict.empty⟩ [] 0 [] []

/-! ## Workers -/

/-- A worker is given a job. -/
def State.setJob (state : State) (index : Nat) (job : Job) : State :=
  { state with workers := state.workers.set index (some job) }

/-- `mark_event_status`, whose change of the payload stands before its write. -/
def State.mark (state : State) (eventId status : String) : State :=
  { state with store := { state.store with
      eventStatuses := state.store.eventStatuses.set eventId status } }

/-- `discard_pending` -/
def State.discardPending (state : State) (index : Nat) (ref : String) : State :=
  if state.pendingReplies.get ref = some index then
    { state with pendingReplies := state.pendingReplies.pop ref }
  else state

/-- The worker leaves the lock and calls `task_done`. -/
def State.finishJob (state : State) (index : Nat) (job : Job) : State :=
  { state with
    workers := state.workers.set index none
    unfinished := state.unfinished - 1
    locks := if state.locks.get job.event.ref = some index then state.locks.pop job.event.ref
      else state.locks }

/-- The statuses after which an event is not handled again. -/
def processedStatuses : List String := ["sent", "submitted", "skipped", "read_only", "failed"]

/-- A request for human input is taken, else the event is a message. -/
def State.choosesInput (state : State) (index : Nat) (job : Job) : State :=
  match state.pendingInputs.get job.event.ref with
  | none => state.setJob index { job with stage := .processing }
  | some request =>
    let taken := { state with pendingInputs := state.pendingInputs.pop job.event.ref }
    match resolveHumanInput request job.event.text with
    | none => taken.finishJob index job
    | some input => taken.setJob index { job with stage := .connectingInput input }

/-- `_handle_event` after the context is remembered: which path the event takes. -/
def State.chooses (state : State) (index : Nat) (job : Job) : State :=
  let requestId := (state.pendingConfirms.get job.event.ref).getD ""
  match parseConfirmResponse job.event.text with
  | some accepted =>
    if requestId ≠ "" then
      state.setJob index { job with stage := .connectingConfirm requestId accepted }
    else state.choosesInput index job
  | none => state.choosesInput index job

/-- How a wait of a worker ends: it returns or raises; an answer is accepted by Core or not, and
its call returns or raises; Core stores a message or does not, and its call raises or returns
whether it is a replay; a reply future is done, or not in time. -/
inductive Outcome
  | returns
  | raises
  | submitted (accepted raises : Bool)
  | sent (stored : Bool) (replay : Option Bool)
  | replied
  | timedOut

/-- `submit_confirm_response`, or the command in its place. -/
def State.submit (state : State) (index : Nat) (job : Job) (answer : Answer)
    (settled : State → State) (accepted raises : Bool) : State :=
  let answered := if accepted then { state with answers := state.answers ++ [answer] } else state
  if raises then answered.finishJob index job
  else (settled answered).setJob index { job with stage := .marking "sent" }

/-- `clear_pending_confirm_request` -/
def clearPendingConfirm (ref requestId : String) (state : State) : State :=
  if state.pendingConfirms.get ref = some requestId then
    { state with pendingConfirms := state.pendingConfirms.pop ref }
  else state

/-- Core stores a message under its event id. -/
def State.storeMessage (state : State) (eventId : String) (stored : Bool) : State :=
  if stored ∧ eventId ∉ state.accepted then
    { state with accepted := state.accepted ++ [eventId] }
  else state

/-- A wait of a worker ends. -/
def move (state : State) (index : Nat) (job : Job) (outcome : Outcome) : Option State :=
  let ref := job.event.ref
  let goes (state : State) (stage : Stage) : State := state.setJob index { job with stage }
  match job.stage, outcome with
  | .locking, .returns =>
    if state.locks.get ref ≠ none then none
    else
      let locked := { state with locks := state.locks.set ref index }
      if (state.store.eventStatuses.get job.event.eventId).getD "" ∈ processedStatuses then
        some (locked.finishJob index job)
      else some (goes locked .remembering)
  | .remembering, .returns => some (state.chooses index job)
  | .connectingConfirm requestId accepted, .returns =>
    some (goes state (.submittingConfirm requestId accepted))
  | .submittingConfirm requestId accepted, .submitted stored raises =>
    some (state.submit index job (.confirm requestId accepted job.event)
      (clearPendingConfirm ref requestId) stored raises)
  | .connectingInput input, .returns => some (goes state (.submittingInput input))
  | .submittingInput input, .submitted stored raises =>
    some (state.submit index job (.humanInput input job.event) id stored raises)
  | .processing, .returns => some (goes (state.mark job.event.eventId "processing") .connecting)
  | .processing, .raises => some ((state.mark job.event.eventId "processing").finishJob index job)
  | .connecting, .returns =>
    some (goes { state with pendingReplies := state.pendingReplies.set ref index } .sending)
  | .sending, .sent stored replay =>
    let kept := state.storeMessage job.event.eventId stored
    match replay with
    | none => some (goes (kept.discardPending index ref) (.marking "failed"))
    | some true => some (goes (kept.discardPending index ref) (.marking "submitted"))
    | some false => some (goes kept .waiting)
  | .waiting, .replied =>
    job.reply.map fun ok => goes state (.marking (if ok then "sent" else "submitted"))
  | .waiting, .timedOut => some (goes (state.discardPending index ref) (.marking "submitted"))
  | .marking status, .returns | .marking status, .raises =>
    some ((state.mark job.event.eventId status).finishJob index job)
  | .remembering, .raises | .connectingConfirm _ _, .raises | .connectingInput _, .raises
  | .connecting, .raises => some (state.finishJob index job)
  | _, _ => none

/-! ## The poll loop -/

/-- How a poll ends: with messages and a cursor, with an expired session, or otherwise. -/
inductive PollResult
  | fetched (messages : List Message) (getUpdatesBuf : String)
  | expired
  | raised

/-- `get_updates` ends. -/
def poll (adapter : Adapter) (state : State) (result : PollResult) : Option State :=
  match state.poller with
  | .polling =>
    match result with
    | .fetched messages cursor =>
      let events := messages.filterMap (eventFromMessage adapter.digest adapter.botId state.polls)
      some { state with
        polls := state.polls + 1
        poller := if events = [] then .saving messages cursor
          else .putting events messages cursor }
    | .expired =>
      let cleared : Store := { state.store with getUpdatesBuf := "" }
      some { state with store := cleared, file := cleared }
    | .raised => some state
  | _ => none

/-- `handle_events` puts the next event, or has put the last. -/
def put (adapter : Adapter) (state : State) : Option State :=
  match state.poller with
  | .putting [] messages cursor => some { state with poller := .joining messages cursor }
  | .putting (event :: events) messages cursor =>
    if adapter.inboundQueueSize ≤ state.queue.length then none
    else some { state with
      queue := state.queue ++ [event]
      unfinished := state.unfinished + 1
      poller := .putting events messages cursor }
  | _ => none

/-- `join` returns. -/
def join (state : State) : Option State :=
  match state.poller with
  | .joining messages cursor =>
    if state.unfinished ≠ 0 then none else some { state with poller := .saving messages cursor }
  | _ => none

/-- `set_cursor`, whose change of the payload stands before its write. -/
def save (state : State) : Option State :=
  match state.poller with
  | .saving messages cursor =>
    let polled := { state with poller := .polling }
    if cursor = "" then some polled
    else some { polled with
      store := { state.store with getUpdatesBuf := cursor }
      passed := state.passed ++ messages }
  | _ => none

/-- An idle worker takes the next event. -/
def take (state : State) (index : Nat) : Option State :=
  match state.workers[index]?, state.queue with
  | some none, event :: queue =>
    some { state with
      queue
      workers := state.workers.set index (some ⟨event, .locking, none⟩) }
  | _, _ => none

/-! ## Frames from Core -/

/-- What Core sends the adapter. -/
inductive CoreFrame
  | confirmRequested (requestId : String)
  | confirmResolved (requestId : String)
  | humanInputRequested (request : HumanInputRequest)
  | humanInputResolved (requestId : String)
  | completes (ok : Bool)

/-- A frame for a conversation: a question is kept if a turn waits, and a final reply, or an
error, completes the pending reply. -/
def receive (state : State) (ref : String) : CoreFrame → State
  | .confirmRequested requestId =>
    if state.pendingReplies.get ref = none then state
    else { state with pendingConfirms := state.pendingConfirms.set ref requestId }
  | .confirmResolved requestId =>
    if requestId = "" ∨ state.pendingConfirms.get ref = some requestId then
      { state with pendingConfirms := state.pendingConfirms.pop ref }
    else state
  | .humanInputRequested request =>
    if state.pendingReplies.get ref = none then state
    else { state with pendingInputs := state.pendingInputs.set ref request }
  | .humanInputResolved requestId =>
    if requestId = "" ∨ (state.pendingInputs.get ref).any (fun request =>
        request.requestId = requestId) then
      { state with pendingInputs := state.pendingInputs.pop ref }
    else state
  | .completes ok =>
    match state.pendingReplies.get ref with
    | none => state
    | some index =>
      let completed := { state with pendingReplies := state.pendingReplies.pop ref }
      match state.workers[index]? with
      | some (some job) => completed.setJob index { job with reply := some (job.reply.getD ok) }
      | _ => completed

/-! ## Steps -/

/-- What happens next. A write of the payload drops the oldest statuses, when there are too
many of them. -/
inductive Action
  | polls (result : PollResult)
  | puts
  | joins
  | saves
  | takes (worker : Nat)
  | moves (worker : Nat) (outcome : Outcome)
  | receives (ref : String) (frame : CoreFrame)
  | writes (oldest : List String)
  | restarts

/-- `MAX_PROCESSED_EVENTS` -/
def maxProcessedEvents : Nat := 4096

/-- `_persist_now_locked` -/
def write (state : State) (oldest : List String) : State :=
  let statuses := if state.store.eventStatuses.entries.length > maxProcessedEvents then
      state.store.eventStatuses.discard fun eventId _ => eventId ∈ oldest
    else state.store.eventStatuses
  let trimmed : Store := { state.store with eventStatuses := statuses }
  { state with store := trimmed, file := trimmed }

/-- One step of the poller or of a worker, or a frame from Core. -/
def step (adapter : Adapter) (state : State) : Action → Option State
  | .polls result => poll adapter state result
  | .puts => put adapter state
  | .joins => join state
  | .saves => save state
  | .takes index => take state index
  | .moves index outcome =>
    match state.workers[index]? with
    | some (some job) => move state index job outcome
    | _ => none
  | .receives ref frame => some (receive state ref frame)
  | .writes oldest => some (write state oldest)
  | .restarts =>
    some (boot adapter state.file state.passed state.polls state.accepted state.answers)

/-! ## What a move changes -/

/-- Neither queue nor workers nor poll loop differ. -/
structure SameWork (kept state : State) : Prop where
  queue : kept.queue = state.queue
  workers : kept.workers = state.workers
  unfinished : kept.unfinished = state.unfinished
  poller : kept.poller = state.poller
  polls : kept.polls = state.polls
  passed : kept.passed = state.passed

section
variable {state kept next : State} {index : Nat} {job : Job}

theorem sameWork_self : SameWork state state := ⟨rfl, rfl, rfl, rfl, rfl, rfl⟩

theorem discardPending_same (ref : String) (same : SameWork kept state) :
    SameWork (kept.discardPending index ref) state := by
  unfold State.discardPending
  split
  · exact { same with }
  · exact same

theorem storeMessage_same (eventId : String) (stored : Bool) (same : SameWork kept state) :
    SameWork (kept.storeMessage eventId stored) state := by
  unfold State.storeMessage
  split
  · exact { same with }
  · exact same

theorem clearPendingConfirm_same (ref requestId : String) (same : SameWork kept state) :
    SameWork (clearPendingConfirm ref requestId kept) state := by
  unfold clearPendingConfirm
  split
  · exact { same with }
  · exact same

/-- A move of a worker leaves its event in work or finishes it. -/
def Worked (state : State) (index : Nat) (job : Job) (next : State) : Prop :=
  ∃ kept, SameWork kept state ∧ (next = kept.finishJob index job ∨
    ∃ after : Job, after.event = job.event ∧ next = kept.setJob index after)

theorem worked_finish (same : SameWork kept state) :
    Worked state index job (kept.finishJob index job) :=
  ⟨kept, same, Or.inl rfl⟩

theorem worked_set (same : SameWork kept state) (after : Job) (event : after.event = job.event) :
    Worked state index job (kept.setJob index after) :=
  ⟨kept, same, Or.inr ⟨after, event, rfl⟩⟩

theorem choosesInput_worked : Worked state index job (state.choosesInput index job) := by
  unfold State.choosesInput
  split
  · exact worked_set sameWork_self _ rfl
  · dsimp only
    split
    · exact worked_finish (by constructor <;> rfl)
    · exact worked_set (by constructor <;> rfl) _ rfl

theorem chooses_worked : Worked state index job (state.chooses index job) := by
  unfold State.chooses
  dsimp only
  split
  · split
    · exact worked_set sameWork_self _ rfl
    · exact choosesInput_worked
  · exact choosesInput_worked

theorem submit_worked (answer : Answer) {settled : State → State}
    (settles : ∀ kept, SameWork kept state → SameWork (settled kept) state)
    (accepted raises : Bool) :
    Worked state index job (state.submit index job answer settled accepted raises) := by
  have answered : SameWork (if accepted = true then
      { state with answers := state.answers ++ [answer] } else state) state := by
    split
    · exact ⟨rfl, rfl, rfl, rfl, rfl, rfl⟩
    · exact sameWork_self
  unfold State.submit
  dsimp only
  split
  · exact worked_finish answered
  · exact worked_set (settles _ answered) _ rfl

theorem move_worked {outcome : Outcome} (moved : move state index job outcome = some next) :
    Worked state index job next := by
  have stored := fun eventId stored =>
    @storeMessage_same state state eventId stored sameWork_self
  unfold move at moved
  dsimp only at moved
  split at moved
  · split at moved
    · cases moved
    · split at moved
      · obtain rfl := Option.some.inj moved
        exact worked_finish (by constructor <;> rfl)
      · obtain rfl := Option.some.inj moved
        exact worked_set (by constructor <;> rfl) _ rfl
  · obtain rfl := Option.some.inj moved
    exact chooses_worked
  · obtain rfl := Option.some.inj moved
    exact worked_set sameWork_self _ rfl
  · obtain rfl := Option.some.inj moved
    exact submit_worked _ (fun _ same => clearPendingConfirm_same _ _ same) _ _
  · obtain rfl := Option.some.inj moved
    exact worked_set sameWork_self _ rfl
  · obtain rfl := Option.some.inj moved
    exact submit_worked _ (fun _ same => same) _ _
  · obtain rfl := Option.some.inj moved
    exact worked_set (by constructor <;> rfl) _ rfl
  · obtain rfl := Option.some.inj moved
    exact worked_finish (by constructor <;> rfl)
  · obtain rfl := Option.some.inj moved
    exact worked_set (by constructor <;> rfl) _ rfl
  · split at moved
    · obtain rfl := Option.some.inj moved
      exact worked_set (discardPending_same _ (stored _ _)) _ rfl
    · obtain rfl := Option.some.inj moved
      exact worked_set (discardPending_same _ (stored _ _)) _ rfl
    · obtain rfl := Option.some.inj moved
      exact worked_set (stored _ _) _ rfl
  · obtain ⟨ok, _, rfl⟩ := Option.map_eq_some_iff.mp moved
    exact worked_set sameWork_self _ rfl
  · obtain rfl := Option.some.inj moved
    exact worked_set (discardPending_same _ sameWork_self) _ rfl
  · obtain rfl := Option.some.inj moved
    exact worked_finish (by constructor <;> rfl)
  · obtain rfl := Option.some.inj moved
    exact worked_finish (by constructor <;> rfl)
  · obtain rfl := Option.some.inj moved
    exact worked_finish sameWork_self
  · obtain rfl := Option.some.inj moved
    exact worked_finish sameWork_self
  · obtain rfl := Option.some.inj moved
    exact worked_finish sameWork_self
  · obtain rfl := Option.some.inj moved
    exact worked_finish sameWork_self
  · cases moved

end

/-! ## Bookkeeping -/

/-- A worker has an event. -/
def busy (worker : Option Job) : Bool := worker.isSome

/-- The queue counts the events that wait and those in work; between two answers there are none;
and every event was brought by an earlier poll. -/
structure Kept (state : State) : Prop where
  counted : state.unfinished = state.queue.length + state.workers.countP busy
  idle : (state.poller = .polling ∨ ∃ messages cursor, state.poller = .saving messages cursor) →
    state.unfinished = 0
  queued : ∀ event ∈ state.queue, event.poll < state.polls
  working : ∀ (index : Nat) (job : Job), state.workers[index]? = some (some job) →
    job.event.poll < state.polls
  putting : ∀ events messages cursor, state.poller = .putting events messages cursor →
    ∀ event ∈ events, event.poll < state.polls

section
variable {state next : State} {index : Nat} {job : Job}

theorem start_kept (adapter : Adapter) (file : Store) (passed : List Message) (polls : Nat)
    (accepted : List String) (answers : List Answer) :
    Kept (boot adapter file passed polls accepted answers) := by
  refine ⟨?_, ?_, ?_, ?_, ?_⟩
  · simp [boot, List.countP_replicate, busy]
  · exact fun _ => rfl
  · simp [boot]
  · intro index job found
    have member := List.mem_of_getElem? found
    exact nomatch List.eq_of_mem_replicate member
  · intro events messages cursor putting
    cases putting

/-- The queue counts an event that a worker has. -/
theorem Kept.unfinished_pos (kept : Kept state)
    (found : state.workers[index]? = some (some job)) : 0 < state.unfinished := by
  have positive : 0 < state.workers.countP busy :=
    List.countP_pos_iff.mpr ⟨some job, List.mem_of_getElem? found, rfl⟩
  rw [kept.counted]
  omega

/-- While a worker has an event, the poll loop queues events or waits for the queue. -/
theorem Kept.poller_of_busy (kept : Kept state)
    (found : state.workers[index]? = some (some job)) :
    (∃ events messages cursor, state.poller = .putting events messages cursor) ∨
      ∃ messages cursor, state.poller = .joining messages cursor := by
  have positive := kept.unfinished_pos found
  cases at_ : state.poller with
  | polling =>
    have none_ := kept.idle (Or.inl at_)
    omega
  | saving messages cursor =>
    have none_ := kept.idle (Or.inr ⟨messages, cursor, at_⟩)
    omega
  | putting events messages cursor => exact Or.inl ⟨events, messages, cursor, rfl⟩
  | joining messages cursor => exact Or.inr ⟨messages, cursor, rfl⟩

/-- The workers after one of them is changed have events of earlier polls, if it has. -/
theorem Kept.working_set (kept : Kept state) {worker : Option Job}
    (earlier : ∀ after, worker = some after → after.event.poll < state.polls)
    (other : Nat) (held : Job)
    (placed : (state.workers.set index worker)[other]? = some (some held)) :
    held.event.poll < state.polls := by
  rcases Positions.set_cases placed with ⟨_, same⟩ | ⟨_, before⟩
  · exact earlier held same.symm
  · exact kept.working other held before

theorem worked_kept (kept : Kept state) (found : state.workers[index]? = some (some job))
    (worked : Worked state index job next) : Kept next := by
  have positive := kept.unfinished_pos found
  have busyPoller := kept.poller_of_busy found
  obtain ⟨middle, same, rfl | ⟨after, event, rfl⟩⟩ := worked
  · have counted := @Positions.countP_set _ _ _ none _ found busy
    have before := kept.counted
    refine ⟨?_, ?_, ?_, ?_, ?_⟩
    · simp only [State.finishJob, same.unfinished, same.queue, same.workers]
      simp [busy] at counted
      omega
    · intro between
      simp only [State.finishJob, same.poller] at between
      rcases busyPoller with ⟨_, _, _, putting⟩ | ⟨_, _, joining⟩
      · rw [putting] at between
        simp at between
      · rw [joining] at between
        simp at between
    · simp only [State.finishJob, same.queue, same.polls]
      exact kept.queued
    · simp only [State.finishJob, same.workers, same.polls]
      exact kept.working_set (fun _ none_ => by cases none_)
    · simp only [State.finishJob, same.poller, same.polls]
      exact kept.putting
  · have counted := @Positions.countP_set _ _ _ (some after) _ found busy
    have before := kept.counted
    refine ⟨?_, ?_, ?_, ?_, ?_⟩
    · simp only [State.setJob, same.unfinished, same.queue, same.workers]
      simp [busy] at counted
      omega
    · intro between
      simp only [State.setJob, same.poller] at between
      simp only [State.setJob, same.unfinished]
      exact kept.idle between
    · simp only [State.setJob, same.queue, same.polls]
      exact kept.queued
    · simp only [State.setJob, same.workers, same.polls]
      refine kept.working_set fun held equal => ?_
      obtain rfl := Option.some.inj equal
      rw [event]
      exact kept.working index job found
    · simp only [State.setJob, same.poller, same.polls]
      exact kept.putting

/-- What a poll brings is dated by the poll. -/
theorem eventFromMessage_poll {digest : String → String} {botId : String} {number : Nat}
    {message : Message} {event : Event}
    (made : eventFromMessage digest botId number message = some event) :
    event.poll = number := by
  unfold eventFromMessage at made
  split at made
  · cases made
  · obtain rfl := Option.some.inj made
    rfl

theorem poll_kept {adapter : Adapter} {result : PollResult} (kept : Kept state)
    (polled : poll adapter state result = some next) : Kept next := by
  unfold poll at polled
  split at polled
  case h_2 => cases polled
  case h_1 polling =>
    have idle := kept.idle (Or.inl polling)
    split at polled
    · obtain rfl := Option.some.inj polled
      refine ⟨kept.counted, fun _ => idle, ?_, ?_, ?_⟩
      · exact fun event member => Nat.lt_succ_of_lt (kept.queued event member)
      · exact fun index job found => Nat.lt_succ_of_lt (kept.working index job found)
      · intro events messages cursor putting event member
        dsimp only at putting
        split at putting
        · cases putting
        · cases putting
          obtain ⟨message, _, made⟩ := List.mem_filterMap.mp member
          rw [eventFromMessage_poll made]
          exact Nat.lt_succ_self state.polls
    · obtain rfl := Option.some.inj polled
      exact { kept with }
    · obtain rfl := Option.some.inj polled
      exact kept

theorem put_kept {adapter : Adapter} (kept : Kept state) (puts : put adapter state = some next) :
    Kept next := by
  unfold put at puts
  split at puts
  · obtain rfl := Option.some.inj puts
    refine ⟨kept.counted, ?_, kept.queued, kept.working, ?_⟩
    · rintro (polling | ⟨_, _, saving⟩)
      · cases polling
      · cases saving
    · intro events messages cursor putting
      cases putting
  case h_2 event events messages cursor putting =>
    split at puts
    · cases puts
    · obtain rfl := Option.some.inj puts
      have counted := kept.counted
      have earlier := kept.putting _ _ _ putting
      refine ⟨?_, ?_, ?_, kept.working, ?_⟩
      · simp only [List.length_append, List.length_singleton]
        omega
      · rintro (polling | ⟨_, _, saving⟩)
        · cases polling
        · cases saving
      · intro held member
        rcases List.mem_append.mp member with before | new
        · exact kept.queued held before
        · obtain rfl := List.mem_singleton.mp new
          exact earlier held List.mem_cons_self
      · intro others messages' cursor' putting' held member
        cases putting'
        exact earlier held (List.mem_cons_of_mem _ member)
  · cases puts

theorem join_kept (kept : Kept state) (joins : join state = some next) : Kept next := by
  unfold join at joins
  split at joins
  · split at joins
    case isTrue => cases joins
    case isFalse none_ =>
      obtain rfl := Option.some.inj joins
      refine ⟨kept.counted, fun _ => Decidable.not_not.mp none_, kept.queued, kept.working, ?_⟩
      intro events messages cursor putting
      cases putting
  · cases joins

theorem save_kept (kept : Kept state) (saves : save state = some next) : Kept next := by
  unfold save at saves
  split at saves
  case h_2 => cases saves
  case h_1 messages cursor saving =>
    have idle := kept.idle (Or.inr ⟨messages, cursor, saving⟩)
    split at saves
    · obtain rfl := Option.some.inj saves
      exact ⟨kept.counted, fun _ => idle, kept.queued, kept.working,
        fun _ _ _ putting => nomatch putting⟩
    · obtain rfl := Option.some.inj saves
      exact ⟨kept.counted, fun _ => idle, kept.queued, kept.working,
        fun _ _ _ putting => nomatch putting⟩

theorem take_kept (kept : Kept state) (takes : take state index = some next) : Kept next := by
  unfold take at takes
  split at takes
  case h_2 => cases takes
  case h_1 event queue free queued =>
    obtain rfl := Option.some.inj takes
    have before := kept.counted
    have counted := @Positions.countP_set _ _ _ (some ⟨event, .locking, none⟩) _ free busy
    have earlier := kept.queued
    rw [queued] at before earlier
    refine ⟨?_, ?_, ?_, ?_, kept.putting⟩
    · simp [busy] at counted
      rw [List.length_cons] at before
      dsimp only
      omega
    · intro between
      exact kept.idle between
    · exact fun held member => earlier held (List.mem_cons_of_mem _ member)
    · refine kept.working_set fun held equal => ?_
      obtain rfl := Option.some.inj equal
      exact earlier event List.mem_cons_self

theorem receive_kept (kept : Kept state) (ref : String) (frame : CoreFrame) :
    Kept (receive state ref frame) := by
  unfold receive
  split
  · split
    · exact kept
    · exact { kept with }
  · split
    · exact { kept with }
    · exact kept
  · split
    · exact kept
    · exact { kept with }
  · split
    · exact { kept with }
    · exact kept
  · split
    · exact kept
    · dsimp only
      split
      case h_1 found =>
        exact worked_kept kept found (worked_set (by constructor <;> rfl) _ rfl)
      · exact { kept with }

theorem step_kept {adapter : Adapter} {action : Action} (kept : Kept state)
    (stepped : step adapter state action = some next) : Kept next := by
  cases action with
  | polls result => exact poll_kept kept stepped
  | puts => exact put_kept kept stepped
  | joins => exact join_kept kept stepped
  | saves => exact save_kept kept stepped
  | takes index => exact take_kept kept stepped
  | moves index outcome =>
    unfold step at stepped
    dsimp only at stepped
    split at stepped
    case h_1 found => exact worked_kept kept found (move_worked stepped)
    · cases stepped
  | receives ref frame =>
    obtain rfl := Option.some.inj stepped
    exact receive_kept kept ref frame
  | writes oldest =>
    obtain rfl := Option.some.inj stepped
    exact { kept with }
  | restarts =>
    obtain rfl := Option.some.inj stepped
    exact start_kept adapter _ _ _ _ _

end

theorem reachable_kept {adapter : Adapter} {state : State}
    (reachable : Runs.Reachable (step adapter) (start adapter) state) : Kept state :=
  Runs.reachable_preserves (fun _ _ _ kept stepped => step_kept kept stepped)
    (start_kept adapter _ _ _ _ _) reachable

end MeetYou.ClawBotInbound
