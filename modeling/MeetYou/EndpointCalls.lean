import Mathlib.Algebra.GroupWithZero.Nat
import MeetYou.Foundation.Positions
import MeetYou.Foundation.Runs
import MeetYou.Foundation.Text
import MeetYou.Foundation.Values

/-!
# Calls at an endpoint

The runtime of an endpoint starts a task for every call request and keeps it in a table under
its call id. The task announces the call, waits for a slot and for the tool, executes and
answers. A cancel frame asks the task of its call id to stop; the request reaches the task
where it next waits, and only within the block around slot, tool and execution does it lead
to an answer.

Several tasks move in any order. Between two waits a task is not interrupted in the source;
here each of its moves is a step of its own, which adds runs and takes none away. The socket
stays open.
-/

namespace MeetYou.EndpointCalls

open Runs Text

/-! ## Frames -/

/-- A `tool.call.request` frame, its texts as `str` makes them. -/
structure CallRequest where
  messageId : String
  callId : String
  toolId : String
  toolKey : String
  arguments : Fields
  encryptedArguments : Fields

/-- `tool_key` of the handler. -/
def CallRequest.key (request : CallRequest) : String :=
  strip (if request.toolKey = "" then request.toolId else request.toolKey)

/-- The request carries a call id and a tool key. -/
def CallRequest.Complete (request : CallRequest) : Prop :=
  request.callId ≠ "" ∧ request.key ≠ ""

instance (request : CallRequest) : Decidable request.Complete := by
  unfold CallRequest.Complete
  infer_instance

/-- What the runtime sends for a call. A result that has no JSON text is `none`. -/
inductive Body
  | accepted
  | progress (phase detail : String)
  | result (payload : Option Fields)
  | error (code message : String) (retryable : Bool)

/-- The frame answers its call. -/
def Body.isTerminal : Body → Bool
  | .result _ | .error _ _ _ => true
  | .accepted | .progress _ _ => false

/-- The frame has a JSON text. -/
def Body.isWritable : Body → Bool
  | .result payload => payload.isSome
  | _ => true

/-- A sent frame; `task` is no field of it, it tells which task sent it. -/
structure Frame where
  task : Nat
  callId : String
  correlationId : String
  body : Body

/-! ## Tasks -/

/-- Where a task is: before its first step, at the send lock with a frame, in the send of a
frame, at the semaphore, at the lock of its tool, in the tool, or done. -/
inductive Phase
  | created
  | sending (body : Body)
  | writing (body : Body)
  | waitingSlot
  | waitingTool
  | executing
  | finished

/-- A call with what its task has come to. -/
structure Task where
  request : CallRequest
  resolvedArguments : Fields
  phase : Phase
  /-- A cancellation has been requested and not been raised yet. -/
  cancelling : Bool

/-- What `execute_tool` ends with. -/
inductive ToolOutcome
  | returned (result : Option Fields)
  | refused (code message : String) (retryable : Bool)
  | cancelled
  | raised (message : String)

/-- A start of `execute_tool`. -/
structure Execution where
  task : Nat
  callId : String
  toolKey : String
  toolId : String
  arguments : Fields

/-- What an endpoint configures and implements. -/
structure Runtime where
  maxParallelCalls : Int
  allowsParallelTool : String → Bool
  callProgressDetail : String → String
  /-- The arguments, or the code and the message of the error. -/
  decryptJsonPayload : Fields → Except (String × String) Fields

/-- The value the semaphore starts with. -/
def Runtime.slots (runtime : Runtime) : Nat := (max 1 (min runtime.maxParallelCalls 4)).toNat

/-- Whether executions of the tool may overlap. -/
def Runtime.Exclusive (runtime : Runtime) (toolKey : String) : Prop :=
  runtime.allowsParallelTool toolKey = false

instance (runtime : Runtime) (toolKey : String) : Decidable (runtime.Exclusive toolKey) := by
  unfold Runtime.Exclusive
  infer_instance

/-- The runtime with its tasks, locks and frames. -/
structure State where
  tasks : List Task
  /-- `_active_call_tasks_by_call_id` -/
  active : Dict String Nat
  /-- The tasks that hold the semaphore. -/
  slots : List Nat
  /-- The locked locks of `_call_locks`, with the tasks that hold them. -/
  locks : Dict String Nat
  sendLock : Option Nat
  frames : List Frame
  executions : List Execution

/-- The runtime without calls. -/
def start : State := ⟨[], Dict.empty, [], Dict.empty, none, [], []⟩

/-! ## The handler -/

/-- `_resolve_call_arguments` -/
def resolveCallArguments (runtime : Runtime) (request : CallRequest) :
    Except (String × String) Fields :=
  if request.encryptedArguments.entries = [] then .ok request.arguments
  else runtime.decryptJsonPayload request.encryptedArguments

/-- The answer to a cancelled call. -/
def cancelledBody : Body := .error "tool_call_cancelled" "Tool call cancelled" false

/-- The answer to a call whose tool has ended. -/
def answer : ToolOutcome → Body
  | .returned result => .result result
  | .refused code message retryable => .error code message retryable
  | .cancelled => cancelledBody
  | .raised message => .error "tool_execution_failed" message false

/-- Where a task goes after a frame. -/
def following (runtime : Runtime) (task : Task) : Body → Phase
  | .accepted => .sending (.progress "running" (runtime.callProgressDetail task.request.key))
  | .progress _ _ => .waitingSlot
  | .result _ | .error _ _ _ => .finished

/-- The task has come to a phase. -/
def Task.to (task : Task) (phase : Phase) : Task := { task with phase }

/-- A cancellation is raised in the block that answers it. -/
def Task.interrupted (task : Task) : Task :=
  { task with phase := .sending cancelledBody, cancelling := false }

/-- A task is replaced. -/
def State.put (state : State) (index : Nat) (task : Task) : State :=
  { state with tasks := state.tasks.set index task }

/-- The task ends, and `_discard_call_task` takes it out of the table. -/
def State.finish (state : State) (index : Nat) (task : Task) : State :=
  let activeCallId := strip task.request.callId
  { state.put index (task.to .finished) with
    active :=
      if activeCallId ≠ "" ∧ state.active.get activeCallId = some index then
        state.active.pop activeCallId
      else state.active }

/-- The send lock is released. -/
def State.releaseSend (state : State) : State := { state with sendLock := none }

/-- The task leaves the semaphore. -/
def State.releaseSlot (state : State) (index : Nat) : State :=
  { state with slots := state.slots.filter fun holder => holder ≠ index }

/-- The task executes its tool. -/
def State.execute (state : State) (index : Nat) (task : Task) : State :=
  { state.put index (task.to .executing) with
    executions := state.executions ++
      [⟨index, task.request.callId, task.request.key, task.request.toolId,
        task.resolvedArguments⟩] }

/-- `_handle_call_request` from one wait to the next, apart from the tool's end. A task that
has to wait for a lock does not move. -/
def proceed (runtime : Runtime) (state : State) (index : Nat) (task : Task) : Option State :=
  match task.phase with
  | .created =>
    if task.cancelling ∨ ¬ task.request.Complete then some (state.finish index task)
    else match resolveCallArguments runtime task.request with
      | .error (code, message) =>
        some (state.put index (task.to (.sending (.error code message false))))
      | .ok arguments =>
        some (state.put index
          { task with resolvedArguments := arguments, phase := .sending .accepted })
  | .sending body =>
    if task.cancelling then some (state.finish index task)
    else if state.sendLock ≠ none then none
    else if body.isWritable = false then some (state.finish index task)
    else some { state.put index (task.to (.writing body)) with
      sendLock := some index
      frames := state.frames ++ [⟨index, task.request.callId, task.request.messageId, body⟩] }
  | .writing body =>
    if task.cancelling ∨ body.isTerminal then some (state.releaseSend.finish index task)
    else some (state.releaseSend.put index (task.to (following runtime task body)))
  | .waitingSlot =>
    if task.cancelling then some (state.put index task.interrupted)
    else if runtime.slots ≤ state.slots.length then none
    else
      let holding := { state with slots := state.slots ++ [index] }
      if runtime.Exclusive task.request.key then some (holding.put index (task.to .waitingTool))
      else some (holding.execute index task)
  | .waitingTool =>
    if task.cancelling then some ((state.releaseSlot index).put index task.interrupted)
    else if state.locks.get task.request.key ≠ none then none
    else some ({ state with locks := state.locks.set task.request.key index }.execute index task)
  | .executing | .finished => none

/-- `execute_tool` ends; lock and semaphore are released. -/
def conclude (runtime : Runtime) (state : State) (index : Nat) (task : Task)
    (outcome : ToolOutcome) : Option State :=
  match task.phase with
  | .executing =>
    let unlocked : State :=
      if runtime.Exclusive task.request.key then
        { state with locks := state.locks.pop task.request.key }
      else state
    some ((unlocked.releaseSlot index).put index
      { task with phase := .sending (answer outcome), cancelling := false })
  | _ => none

/-! ## The connection -/

/-- A call request creates a task and puts it in the table. -/
def createTask (state : State) (request : CallRequest) : State :=
  let callId := strip request.callId
  { state with
    tasks := state.tasks ++ [⟨request, Dict.empty, .created, false⟩]
    active := if callId = "" then state.active else state.active.set callId state.tasks.length }

/-- `_handle_call_cancel` -/
def handleCallCancel (state : State) (callId : String) : State :=
  match state.active.get (strip callId) with
  | none => state
  | some index =>
    match state.tasks[index]? with
    | none => state
    | some task =>
      match task.phase with
      | .finished => state
      | _ => state.put index { task with cancelling := true }

/-- A frame comes in, or a task goes on. -/
inductive Action
  | request (request : CallRequest)
  | cancel (callId : String)
  | proceeds (task : Nat)
  | concludes (task : Nat) (outcome : ToolOutcome)

/-- A task moves; no frame arrives. -/
def Action.OfTask : Action → Prop
  | .request _ | .cancel _ => False
  | .proceeds _ | .concludes _ _ => True

/-- One frame or one step of one task. -/
def step (runtime : Runtime) (state : State) : Action → Option State
  | .request request => some (createTask state request)
  | .cancel callId => some (handleCallCancel state callId)
  | .proceeds index => state.tasks[index]?.bind fun task => proceed runtime state index task
  | .concludes index outcome =>
    state.tasks[index]?.bind fun task => conclude runtime state index task outcome

/-! ## What the runtime owes -/

/-- The frames by which a task has answered. -/
def State.answers (state : State) (index : Nat) : List Frame :=
  state.frames.filter fun frame => frame.task = index && frame.body.isTerminal

/-- The moves that a task has before it, at most. -/
def Phase.remaining : Phase → Nat
  | .created => 10
  | .sending .accepted => 9
  | .writing .accepted => 8
  | .sending (.progress _ _) => 7
  | .writing (.progress _ _) => 6
  | .waitingSlot => 5
  | .waitingTool => 4
  | .executing => 3
  | .sending (.result _) | .sending (.error _ _ _) => 2
  | .writing (.result _) | .writing (.error _ _ _) => 1
  | .finished => 0

/-- The steps that all tasks still have in front of them. -/
def State.remaining (state : State) : Nat :=
  (state.tasks.map fun task => task.phase.remaining).sum

/-- Every call is answered once. A complete request whose task is done has one terminal frame,
and before it has at most one; while a task is not done a task can move, and no more often
than is left; a call id is executed once, and an exclusive tool by one task at a time. -/
structure AnswersOnce (runtime : Runtime) (state : State) : Prop where
  once : ∀ index, (state.answers index).length ≤ 1
  answered : ∀ (index : Nat) (task : Task), state.tasks[index]? = some task → task.request.Complete →
    task.phase = .finished → ∃ frame, state.answers index = [frame] ∧
      frame.callId = task.request.callId ∧ frame.correlationId = task.request.messageId
  moves : (∃ task ∈ state.tasks, task.phase ≠ .finished) →
    ∃ action next, Action.OfTask action ∧ step runtime state action = some next
  bounded : ∀ action next, Action.OfTask action → step runtime state action = some next →
    next.remaining < state.remaining
  executedOnce : (state.executions.map Execution.callId).Nodup
  apart : ∀ (one other : Nat) (oneTask otherTask : Task), state.tasks[one]? = some oneTask →
    state.tasks[other]? = some otherTask → oneTask.phase = .executing →
    otherTask.phase = .executing → oneTask.request.key = otherTask.request.key →
    runtime.Exclusive oneTask.request.key → one = other

/-! ## When it pays -/

/-- A cancellation in this phase leads to an answer, or comes after it. -/
def Phase.interruptible : Phase → Bool
  | .waitingSlot | .waitingTool | .executing | .finished => true
  | .writing body => body.isTerminal
  | .created | .sending _ => false

/-- A complete request brings a call id that no complete request before it had; a cancel frame
finds the task of a complete request where it waits for slot or tool, in the tool, or after its
answer; and a tool returns what has a JSON text. -/
def Fresh (state : State) : Action → Prop
  | .request request => request.Complete → ∀ task ∈ state.tasks, task.request.Complete →
      task.request.callId ≠ request.callId
  | .cancel callId => ∀ index ∈ state.active.get (strip callId),
      ∀ task ∈ state.tasks[index]?, task.request.Complete → task.phase.interruptible = true
  | .proceeds _ => True
  | .concludes _ outcome => outcome ≠ .returned none

/-! ## Moves of a task -/

/-- What a move of a task can be, with what its tool ended with. -/
inductive Moves (runtime : Runtime) (state : State) (index : Nat) (task : Task) :
    Option ToolOutcome → State → Prop
  | dropped (created : task.phase = .created)
      (idle : task.cancelling = true ∨ ¬ task.request.Complete) :
      Moves runtime state index task none (state.finish index task)
  | refused (code message : String) (created : task.phase = .created)
      (going : task.cancelling = false) (complete : task.request.Complete) :
      Moves runtime state index task none
        (state.put index (task.to (.sending (.error code message false))))
  | accepted (arguments : Fields) (created : task.phase = .created)
      (going : task.cancelling = false) (complete : task.request.Complete) :
      Moves runtime state index task none
        (state.put index { task with resolvedArguments := arguments, phase := .sending .accepted })
  | lost (body : Body) (sending : task.phase = .sending body)
      (why : task.cancelling = true ∨ body.isWritable = false) :
      Moves runtime state index task none (state.finish index task)
  | written (body : Body) (sending : task.phase = .sending body)
      (going : task.cancelling = false) (free : state.sendLock = none) :
      Moves runtime state index task none
        { state.put index (task.to (.writing body)) with
          sendLock := some index
          frames := state.frames ++
            [⟨index, task.request.callId, task.request.messageId, body⟩] }
  | ended (body : Body) (writing : task.phase = .writing body)
      (finished : task.cancelling = true ∨ body.isTerminal = true) :
      Moves runtime state index task none (state.releaseSend.finish index task)
  | continued (body : Body) (writing : task.phase = .writing body)
      (going : task.cancelling = false) (more : body.isTerminal = false) :
      Moves runtime state index task none
        (state.releaseSend.put index (task.to (following runtime task body)))
  | interruptedAtSlot (waiting : task.phase = .waitingSlot) :
      Moves runtime state index task none (state.put index task.interrupted)
  | waitsForTool (waiting : task.phase = .waitingSlot) (going : task.cancelling = false)
      (exclusive : runtime.Exclusive task.request.key) :
      Moves runtime state index task none
        ({ state with slots := state.slots ++ [index] }.put index (task.to .waitingTool))
  | executes (waiting : task.phase = .waitingSlot) (going : task.cancelling = false)
      (shared : ¬ runtime.Exclusive task.request.key) :
      Moves runtime state index task none
        ({ state with slots := state.slots ++ [index] }.execute index task)
  | interruptedAtTool (waiting : task.phase = .waitingTool) :
      Moves runtime state index task none ((state.releaseSlot index).put index task.interrupted)
  | executesAlone (waiting : task.phase = .waitingTool) (going : task.cancelling = false)
      (free : state.locks.get task.request.key = none) :
      Moves runtime state index task none
        ({ state with locks := state.locks.set task.request.key index }.execute index task)
  | concluded (outcome : ToolOutcome) (executing : task.phase = .executing)
      (exclusive : runtime.Exclusive task.request.key) :
      Moves runtime state index task (some outcome)
        (({ state with locks := state.locks.pop task.request.key }.releaseSlot index).put index
          { task with phase := .sending (answer outcome), cancelling := false })
  | concludedShared (outcome : ToolOutcome) (executing : task.phase = .executing)
      (shared : ¬ runtime.Exclusive task.request.key) :
      Moves runtime state index task (some outcome)
        ((state.releaseSlot index).put index
          { task with phase := .sending (answer outcome), cancelling := false })

section
variable {runtime : Runtime} {state next : State} {index : Nat} {task : Task}

theorem proceed_moves (moved : proceed runtime state index task = some next) :
    Moves runtime state index task none next := by
  unfold proceed at moved
  cases phase : task.phase with
  | created =>
    rw [phase] at moved
    dsimp only at moved
    split at moved
    case isTrue idle =>
      obtain rfl := Option.some.inj moved
      exact .dropped phase idle
    case isFalse going =>
      obtain ⟨kept, complete⟩ := not_or.mp going
      have uncancelled : task.cancelling = false := by simpa using kept
      split at moved
      · obtain rfl := Option.some.inj moved
        exact .refused _ _ phase uncancelled (not_not.mp complete)
      · obtain rfl := Option.some.inj moved
        exact .accepted _ phase uncancelled (not_not.mp complete)
  | sending body =>
    rw [phase] at moved
    dsimp only at moved
    split at moved
    case isTrue cancelling =>
      obtain rfl := Option.some.inj moved
      exact .lost body phase (Or.inl cancelling)
    case isFalse going =>
      split at moved
      · cases moved
      case isFalse free =>
        split at moved
        case isTrue unwritable =>
          obtain rfl := Option.some.inj moved
          exact .lost body phase (Or.inr unwritable)
        case isFalse =>
          obtain rfl := Option.some.inj moved
          exact .written body phase (by simpa using going) (not_not.mp free)
  | writing body =>
    rw [phase] at moved
    dsimp only at moved
    split at moved
    case isTrue finished =>
      obtain rfl := Option.some.inj moved
      exact .ended body phase finished
    case isFalse going =>
      obtain ⟨kept, more⟩ := not_or.mp going
      obtain rfl := Option.some.inj moved
      exact .continued body phase (by simpa using kept) (by simpa using more)
  | waitingSlot =>
    rw [phase] at moved
    dsimp only at moved
    split at moved
    · obtain rfl := Option.some.inj moved
      exact .interruptedAtSlot phase
    case isFalse going =>
      have uncancelled : task.cancelling = false := by simpa using going
      split at moved
      · cases moved
      split at moved
      case isTrue exclusive =>
        obtain rfl := Option.some.inj moved
        exact .waitsForTool phase uncancelled exclusive
      case isFalse shared =>
        obtain rfl := Option.some.inj moved
        exact .executes phase uncancelled shared
  | waitingTool =>
    rw [phase] at moved
    dsimp only at moved
    split at moved
    · obtain rfl := Option.some.inj moved
      exact .interruptedAtTool phase
    case isFalse going =>
      split at moved
      · cases moved
      case isFalse free =>
        obtain rfl := Option.some.inj moved
        exact .executesAlone phase (by simpa using going) (not_not.mp free)
  | executing =>
    rw [phase] at moved
    cases moved
  | finished =>
    rw [phase] at moved
    cases moved

theorem conclude_moves {outcome : ToolOutcome}
    (moved : conclude runtime state index task outcome = some next) :
    Moves runtime state index task (some outcome) next := by
  unfold conclude at moved
  split at moved
  case h_1 executing =>
    dsimp only at moved
    obtain rfl := Option.some.inj moved
    split
    case isTrue exclusive => exact .concluded outcome executing exclusive
    case isFalse shared => exact .concludedShared outcome executing shared
  case h_2 => cases moved

end

/-! ## What holds between moves -/

/-- The task of an index has a property. -/
def Holds (tasks : List Task) (index : Nat) (property : Task → Prop) : Prop :=
  ∃ task ∈ tasks[index]?, property task

/-- The task holds the semaphore. -/
def Phase.holdsSlot : Phase → Bool
  | .waitingTool | .executing => true
  | _ => false

/-- The task holds the send lock. -/
def Phase.holdsSend : Phase → Bool
  | .writing _ => true
  | _ => false

/-- The task has sent its answer. -/
def Phase.answered : Phase → Bool
  | .finished => true
  | .writing body => body.isTerminal
  | _ => false

/-- The task may have started its tool. -/
def Phase.started : Phase → Bool
  | .executing | .finished => true
  | .sending body | .writing body => body.isTerminal
  | _ => false

/-- Locks are held by the tasks that are inside them, and the frames and executions are those
of the tasks so far. -/
structure Sound (runtime : Runtime) (state : State) : Prop where
  slots : ∀ index, index ∈ state.slots ↔
    Holds state.tasks index fun task => task.phase.holdsSlot = true
  sends : ∀ index, state.sendLock = some index ↔
    Holds state.tasks index fun task => task.phase.holdsSend = true
  locks : ∀ key index, state.locks.get key = some index ↔
    Holds state.tasks index fun task =>
      task.phase = .executing ∧ task.request.key = key ∧ runtime.Exclusive key
  exclusive : ∀ (index : Nat) (task : Task), state.tasks[index]? = some task →
    task.phase = .waitingTool → runtime.Exclusive task.request.key
  frames : ∀ frame ∈ state.frames, Holds state.tasks frame.task fun task =>
    frame.callId = task.request.callId ∧ frame.correlationId = task.request.messageId
  answers : ∀ (index : Nat) (task : Task), state.tasks[index]? = some task →
    (state.answers index).length =
      if task.request.Complete ∧ task.phase.answered = true then 1 else 0
  incomplete : ∀ (index : Nat) (task : Task), state.tasks[index]? = some task →
    ¬ task.request.Complete → task.phase = .created ∨ task.phase = .finished
  interruptible : ∀ (index : Nat) (task : Task), state.tasks[index]? = some task →
    task.request.Complete → task.cancelling = true → task.phase.interruptible = true
  writable : ∀ (index : Nat) (task : Task), state.tasks[index]? = some task →
    ∀ body, task.phase = .sending body → body.isWritable = true
  executions : ∀ execution ∈ state.executions, Holds state.tasks execution.task fun task =>
    execution.callId = task.request.callId ∧ task.request.Complete ∧ task.phase.started = true
  executedOnce : (state.executions.map Execution.task).Nodup
  distinct : ∀ (one other : Nat) (oneTask otherTask : Task), state.tasks[one]? = some oneTask →
    state.tasks[other]? = some otherTask → oneTask.request.Complete →
    otherTask.request.Complete → oneTask.request.callId = otherTask.request.callId → one = other

section
variable {runtime : Runtime} {state next : State} {index : Nat} {task : Task}

theorem holds_self {tasks : List Task} (found : tasks[index]? = some task)
    (property : Task → Prop) : Holds tasks index property ↔ property task := by
  simp [Holds, found]

theorem holds_set {tasks : List Task} (found : tasks[index]? = some task) (after : Task)
    (other : Nat) (property : Task → Prop) :
    Holds (tasks.set index after) other property ↔
      if other = index then property after else Holds tasks other property := by
  have within : index < tasks.length := (List.getElem?_eq_some_iff.mp found).1
  unfold Holds
  by_cases same : other = index
  · subst same
    simp [within]
  · simp [same, Ne.symm same]

attribute [local simp] State.put State.finish State.releaseSend State.releaseSlot State.execute
  Task.to Task.interrupted

/-- After a frame that does not answer, no lock is held. -/
theorem following_cases {body : Body} (more : body.isTerminal = false) :
    (following runtime task body).holdsSlot = false ∧
      (following runtime task body).holdsSend = false ∧
      following runtime task body ≠ .executing := by
  cases body with
  | accepted => exact ⟨rfl, rfl, nofun⟩
  | progress phase detail => exact ⟨rfl, rfl, nofun⟩
  | result payload => cases more
  | error code message retryable => cases more

/-- A task between its first and its last step has a complete request. -/
theorem Sound.complete (sound : Sound runtime state) (found : state.tasks[index]? = some task)
    (begun : task.phase ≠ .created) (going : task.phase ≠ .finished) :
    task.request.Complete := by
  by_contra incomplete
  exact (sound.incomplete index task found incomplete).elim begun going

theorem answer_isWritable {outcome : ToolOutcome} (writable : outcome ≠ .returned none) :
    (answer outcome).isWritable = true := by
  cases outcome with
  | returned result =>
    cases result with
    | none => exact absurd rfl writable
    | some payload => rfl
  | refused code message retryable => rfl
  | cancelled => rfl
  | raised message => rfl

theorem answer_isTerminal (outcome : ToolOutcome) : (answer outcome).isTerminal = true := by
  cases outcome <;> rfl

variable (sound : Sound runtime state) (found : state.tasks[index]? = some task)
  {ending : Option ToolOutcome} (moves : Moves runtime state index task ending next)
include sound found moves

theorem Moves.slots (other : Nat) :
    other ∈ next.slots ↔ Holds next.tasks other fun task => task.phase.holdsSlot = true := by
  have before := sound.slots other
  by_cases same : other = index
  · subst same
    rw [holds_self found] at before
    cases moves with
    | continued body writing going more =>
      have outside : other ∉ state.slots := fun held =>
        nomatch (writing ▸ before.mp held : (Phase.writing body).holdsSlot = true)
      simpa [holds_set found, (following_cases more).1] using outside
    | _ => simp_all [holds_set found, Phase.holdsSlot]
  · cases moves <;> simp_all [holds_set found]

theorem Moves.sends (other : Nat) :
    next.sendLock = some other ↔
      Holds next.tasks other fun task => task.phase.holdsSend = true := by
  have before := sound.sends other
  have mine := (sound.sends index).trans (holds_self found _)
  by_cases same : other = index
  · subst same
    cases moves with
    | continued body writing going more =>
      simp [holds_set found, (following_cases more).2.1]
    | _ => simp_all [holds_set found, Phase.holdsSend]
  · -- a task that gives the lock up held it, so nobody else did
    have alone : task.phase.holdsSend = true →
        ¬ Holds state.tasks other fun task => task.phase.holdsSend = true := by
      intro held holds
      rw [mine.mpr held] at before
      exact same (Option.some.inj (before.mpr holds)).symm
    cases moves with
    | ended body writing finished =>
      rw [writing] at alone
      simpa [holds_set found, same] using alone rfl
    | continued body writing going more =>
      rw [writing] at alone
      simpa [holds_set found, same] using alone rfl
    | written body sending going free =>
      rw [free] at before
      simpa [holds_set found, same, Ne.symm same] using before
    | _ => simpa [holds_set found, same] using before

theorem Moves.locks (key : String) (other : Nat) :
    next.locks.get key = some other ↔ Holds next.tasks other fun task =>
      task.phase = .executing ∧ task.request.key = key ∧ runtime.Exclusive key := by
  have before := sound.locks key other
  have mine := (sound.locks key index).trans (holds_self found _)
  by_cases same : other = index
  · subst same
    cases moves with
    | continued body writing going more =>
      simpa [holds_set found, (following_cases more).2.2, writing] using mine
    | executes waiting going shared =>
      have other_key : ¬ (task.request.key = key ∧ runtime.Exclusive key) := by
        rintro ⟨rfl, exclusive⟩
        exact shared exclusive
      simpa [holds_set found, waiting, other_key] using mine
    | executesAlone waiting going free =>
      have exclusive := sound.exclusive other task found waiting
      simp only [State.put, State.execute, Task.to, holds_set found, if_true, true_and]
      by_cases keyed : task.request.key = key
      · subst keyed
        simp [exclusive]
      · rw [Dict.get_set_ne _ _ keyed]
        simpa [waiting, keyed] using mine
    | concluded outcome executing exclusive =>
      simp only [State.put, State.releaseSlot, holds_set found, if_true]
      by_cases keyed : task.request.key = key
      · subst keyed
        simp
      · rw [Dict.get_pop_ne _ keyed]
        simpa [keyed] using mine
    | concludedShared outcome executing shared =>
      have other_key : ¬ (task.request.key = key ∧ runtime.Exclusive key) := by
        rintro ⟨rfl, exclusive⟩
        exact shared exclusive
      simpa [holds_set found, other_key] using mine
    | _ => simp_all [holds_set found]
  · cases moves with
    | executesAlone waiting going free =>
      simp only [State.put, State.execute, holds_set found, if_neg same]
      by_cases keyed : task.request.key = key
      · subst keyed
        rw [free] at before
        simpa [Ne.symm same] using before
      · rw [Dict.get_set_ne _ _ keyed]
        exact before
    | concluded outcome executing exclusive =>
      simp only [State.put, State.releaseSlot, holds_set found, if_neg same]
      by_cases keyed : task.request.key = key
      · subst keyed
        rw [mine.mpr ⟨executing, rfl, exclusive⟩] at before
        simpa [Ne.symm same] using before
      · rw [Dict.get_pop_ne _ keyed]
        exact before
    | _ => simpa [holds_set found, same] using before

/-- The task that a move puts in place of its own. -/
theorem Moves.after (writable : ending ≠ some (.returned none)) :
    ∃ after : Task, next.tasks = state.tasks.set index after ∧ after.request = task.request ∧
      (after.phase = .waitingTool → runtime.Exclusive after.request.key) ∧
      (∀ body, after.phase = .sending body → body.isWritable = true) ∧
      (after.cancelling = true → after.phase = .finished) ∧
      (¬ after.request.Complete → after.phase = .finished) := by
  have idle := fun incomplete => sound.incomplete index task found incomplete
  cases moves with
  | continued body writing going more =>
    refine ⟨_, rfl, rfl, ?_⟩
    cases body with
    | accepted => simp_all [following, Body.isWritable]
    | progress phase detail => simp_all [following]
    | result payload => cases more
    | error code message retryable => cases more
  | concluded outcome executing exclusive =>
    have fits := @answer_isWritable outcome (fun same => writable (congrArg some same))
    refine ⟨_, rfl, rfl, ?_⟩
    simp_all
  | concludedShared outcome executing shared =>
    have fits := @answer_isWritable outcome (fun same => writable (congrArg some same))
    refine ⟨_, rfl, rfl, ?_⟩
    simp_all
  | _ =>
    refine ⟨_, rfl, rfl, ?_⟩
    simp_all [Body.isWritable, cancelledBody]

theorem Moves.frames : ∀ frame ∈ next.frames, Holds next.tasks frame.task fun task =>
    frame.callId = task.request.callId ∧ frame.correlationId = task.request.messageId := by
  have kept : ∀ after : Task, after.request = task.request → ∀ frame ∈ state.frames,
      Holds (state.tasks.set index after) frame.task fun task =>
        frame.callId = task.request.callId ∧ frame.correlationId = task.request.messageId := by
    intro after same frame member
    have before := sound.frames frame member
    rw [holds_set found]
    split
    case isTrue mine =>
      rw [mine, holds_self found] at before
      rwa [same]
    case isFalse => exact before
  cases moves with
  | written body sending going free =>
    intro frame member
    rcases List.mem_append.mp member with old | new
    · exact kept (task.to (.writing body)) rfl frame old
    · obtain rfl := List.mem_singleton.mp new
      simp [holds_set found]
  | _ => exact kept _ rfl

/-- A task that drops out has answered before, or has nothing to answer. -/
theorem Moves.answers (other : Nat) (after : Task) (placed : next.tasks[other]? = some after) :
    (next.answers other).length =
      if after.request.Complete ∧ after.phase.answered = true then 1 else 0 := by
  have mine := sound.answers index task found
  have stops := sound.interruptible index task found
  have sends := sound.writable index task found
  have within : index < state.tasks.length := (List.getElem?_eq_some_iff.mp found).1
  by_cases same : other = index
  · subst same
    cases moves with
    | dropped created why =>
      have incomplete : ¬ task.request.Complete := by
        intro complete
        have cancelling := why.resolve_right (not_not.mpr complete)
        have stopped := stops complete cancelling
        rw [created] at stopped
        cases stopped
      obtain rfl : task.to .finished = after := by simpa [within] using placed
      simpa [incomplete, State.answers] using mine
    | lost body sending why =>
      have complete := sound.complete found (by rw [sending]; intro same; cases same)
        (by rw [sending]; intro same; cases same)
      rcases why with cancelling | unwritable
      · have stopped := stops complete cancelling
        rw [sending] at stopped
        cases stopped
      · rw [sends body sending] at unwritable
        cases unwritable
    | written body sending going free =>
      have complete := sound.complete found (by rw [sending]; intro same; cases same)
        (by rw [sending]; intro same; cases same)
      obtain rfl : task.to (.writing body) = after := by simpa [within] using placed
      rw [sending] at mine
      cases terminal : body.isTerminal <;>
        simp_all [State.answers, Phase.answered, List.filter_append]
    | ended body writing finished =>
      have complete := sound.complete found (by rw [writing]; intro same; cases same)
        (by rw [writing]; intro same; cases same)
      have terminal : body.isTerminal = true := by
        rcases finished with cancelling | terminal
        · exact (writing ▸ stops complete cancelling : (Phase.writing body).interruptible = true)
        · exact terminal
      obtain rfl : task.to .finished = after := by simpa [within] using placed
      rw [writing] at mine
      simpa [State.answers, Phase.answered, complete, terminal] using mine
    | continued body writing going more =>
      obtain rfl : task.to (following runtime task body) = after := by
        simpa [within] using placed
      rw [writing] at mine
      have unanswered : (following runtime task body).answered = false := by
        cases body with
        | accepted => rfl
        | progress phase detail => rfl
        | result payload => cases more
        | error code message retryable => cases more
      simp only [Phase.answered, more, Bool.false_eq_true, and_false, if_false] at mine
      simp only [Task.to, unanswered, Bool.false_eq_true, and_false, if_false]
      exact mine
    | _ =>
      obtain rfl := (by simpa [within] using placed : _ = after)
      simp_all [State.answers, Phase.answered]
  · have kept : next.answers other = state.answers other := by
      cases moves with
      | written body sending going free =>
        simp [State.answers, List.filter_append, Ne.symm same]
      | _ => rfl
    have old : state.tasks[other]? = some after := by
      cases moves <;> simpa [Ne.symm same] using placed
    rw [kept]
    exact sound.answers other after old

theorem Moves.executions : ∀ execution ∈ next.executions,
    Holds next.tasks execution.task fun task =>
      execution.callId = task.request.callId ∧ task.request.Complete ∧
        task.phase.started = true := by
  have kept : ∀ after : Task, after.request = task.request →
      (task.phase.started = true → after.phase.started = true) →
        ∀ execution ∈ state.executions, Holds (state.tasks.set index after) execution.task
          fun task => execution.callId = task.request.callId ∧ task.request.Complete ∧
            task.phase.started = true := by
    intro after same goes execution member
    have before := sound.executions execution member
    rw [holds_set found]
    split
    case isTrue mine =>
      rw [mine, holds_self found] at before
      rw [same]
      exact ⟨before.1, before.2.1, goes before.2.2⟩
    case isFalse => exact before
  have starts : ∀ execution : Execution, task.phase ≠ .created → task.phase ≠ .finished →
      execution = ⟨index, task.request.callId, task.request.key, task.request.toolId,
        task.resolvedArguments⟩ → Holds (state.tasks.set index (task.to .executing)) execution.task
          fun task => execution.callId = task.request.callId ∧ task.request.Complete ∧
            task.phase.started = true := by
    rintro _ begun unfinished rfl
    have complete := sound.complete found begun unfinished
    rw [holds_set found, if_pos rfl]
    exact ⟨rfl, complete, rfl⟩
  cases moves with
  | executes waiting going shared =>
    intro execution member
    rcases List.mem_append.mp member with old | new
    · exact kept (task.to .executing) rfl (fun _ => rfl) execution old
    · exact starts execution (by rw [waiting]; nofun) (by rw [waiting]; nofun)
        (List.mem_singleton.mp new)
  | executesAlone waiting going free =>
    intro execution member
    rcases List.mem_append.mp member with old | new
    · exact kept (task.to .executing) rfl (fun _ => rfl) execution old
    · exact starts execution (by rw [waiting]; nofun) (by rw [waiting]; nofun)
        (List.mem_singleton.mp new)
  | concluded outcome executing exclusive =>
    exact kept _ rfl (fun _ => answer_isTerminal outcome)
  | concludedShared outcome executing shared =>
    exact kept _ rfl (fun _ => answer_isTerminal outcome)
  | _ => exact kept _ rfl (by simp_all [Phase.started])

theorem Moves.executedOnce : (next.executions.map Execution.task).Nodup := by
  have starts : task.phase.started = false → (state.executions.map Execution.task ++ [index]).Nodup
      := by
    intro waiting
    refine List.nodup_append.mpr ⟨sound.executedOnce, List.nodup_singleton index, ?_⟩
    rintro one member other single rfl
    obtain rfl := List.mem_singleton.mp single
    obtain ⟨execution, listed, same⟩ := List.mem_map.mp member
    have started := sound.executions execution listed
    rw [same, holds_self found] at started
    rw [started.2.2] at waiting
    cases waiting
  cases moves with
  | executes waiting going shared => simpa using starts (by rw [waiting]; rfl)
  | executesAlone waiting going free => simpa using starts (by rw [waiting]; rfl)
  | _ => exact sound.executedOnce

/-- A move keeps what holds between moves. -/
theorem Moves.keeps (writable : ending ≠ some (.returned none)) : Sound runtime next := by
  obtain ⟨after, tasks, request, exclusive, writes, stops, idles⟩ :=
    moves.after sound found writable
  have at_other : ∀ {other : Nat} {held : Task}, next.tasks[other]? = some held →
      (other = index ∧ held = after) ∨ state.tasks[other]? = some held := by
    intro other held placed
    rw [tasks] at placed
    exact (Positions.set_cases placed).imp_right And.right
  have requested : ∀ {other : Nat} {held : Task}, next.tasks[other]? = some held →
      ∃ before : Task, state.tasks[other]? = some before ∧ before.request = held.request := by
    intro other held placed
    rcases at_other placed with ⟨rfl, rfl⟩ | old
    · exact ⟨task, found, request.symm⟩
    · exact ⟨held, old, rfl⟩
  refine
    { slots := moves.slots sound found
      sends := moves.sends sound found
      locks := moves.locks sound found
      exclusive := ?_
      frames := moves.frames sound found
      answers := moves.answers sound found
      incomplete := ?_
      interruptible := ?_
      writable := ?_
      executions := moves.executions sound found
      executedOnce := moves.executedOnce sound found
      distinct := ?_ }
  · intro other held placed waiting
    rcases at_other placed with ⟨rfl, rfl⟩ | old
    · exact exclusive waiting
    · exact sound.exclusive other held old waiting
  · intro other held placed incomplete
    rcases at_other placed with ⟨rfl, rfl⟩ | old
    · exact Or.inr (idles incomplete)
    · exact sound.incomplete other held old incomplete
  · intro other held placed complete cancelling
    rcases at_other placed with ⟨rfl, rfl⟩ | old
    · rw [stops cancelling]
      rfl
    · exact sound.interruptible other held old complete cancelling
  · intro other held placed
    rcases at_other placed with ⟨rfl, rfl⟩ | old
    · exact writes
    · exact sound.writable other held old
  · intro one other oneTask otherTask placedOne placedOther completeOne completeOther same
    obtain ⟨oneBefore, oneOld, oneSame⟩ := requested placedOne
    obtain ⟨otherBefore, otherOld, otherSame⟩ := requested placedOther
    exact sound.distinct one other oneBefore otherBefore oneOld otherOld (oneSame ▸ completeOne)
      (otherSame ▸ completeOther) (oneSame ▸ otherSame ▸ same)

end

/-! ## Frames that arrive -/

section
variable {tasks : List Task} {index : Nat} {property : Task → Prop}

/-- A task that replaces one of the same property changes nothing. -/
theorem holds_same {task : Task} (found : tasks[index]? = some task) {after : Task}
    (same : property after ↔ property task) (other : Nat) :
    Holds (tasks.set index after) other property ↔ Holds tasks other property := by
  rw [holds_set found]
  split
  case isTrue mine => rw [mine, holds_self found, same]
  case isFalse => exact Iff.rfl

theorem Holds.append (holds : Holds tasks index property) (created : Task) :
    Holds (tasks ++ [created]) index property := by
  obtain ⟨task, found, has⟩ := holds
  exact ⟨task, Positions.append_of_some found created, has⟩

theorem holds_append {created : Task} (without : ¬ property created) :
    Holds (tasks ++ [created]) index property ↔ Holds tasks index property := by
  constructor
  · rintro ⟨task, placed, has⟩
    rcases Positions.append_cases placed with old | ⟨_, rfl⟩
    · exact ⟨task, old, has⟩
    · exact absurd has without
  · exact fun holds => holds.append created

end

section
variable {runtime : Runtime} {state : State} (sound : Sound runtime state)
include sound

/-- A task that is not there has sent nothing. -/
theorem answers_of_absent {index : Nat} (absent : state.tasks[index]? = none) :
    state.answers index = [] := by
  refine List.filter_eq_nil_iff.mpr fun frame member => ?_
  obtain ⟨task, found, _⟩ := sound.frames frame member
  have other : frame.task ≠ index := by
    rintro rfl
    rw [absent] at found
    cases found
  simp [other]

/-- A request keeps what holds between moves, if its call id is new. -/
theorem createTask_sound {request : CallRequest} (fresh : Fresh state (.request request)) :
    Sound runtime (createTask state request) := by
  have unanswered := answers_of_absent sound (List.getElem?_eq_none (Nat.le_refl _))
  refine
    { slots := fun index => (sound.slots index).trans (holds_append (by nofun)).symm
      sends := fun index => (sound.sends index).trans (holds_append (by nofun)).symm
      locks := fun key index => (sound.locks key index).trans (holds_append (by nofun)).symm
      exclusive := ?_
      frames := fun frame member => (sound.frames frame member).append _
      answers := ?_
      incomplete := ?_
      interruptible := ?_
      writable := ?_
      executions := fun execution member => (sound.executions execution member).append _
      executedOnce := sound.executedOnce
      distinct := ?_ }
  · intro index task placed waiting
    rcases Positions.append_cases placed with old | ⟨_, rfl⟩
    · exact sound.exclusive index task old waiting
    · cases waiting
  · intro index task placed
    rcases Positions.append_cases placed with old | ⟨rfl, rfl⟩
    · exact sound.answers index task old
    · change (state.answers state.tasks.length).length = _
      rw [unanswered]
      simp [Phase.answered]
  · intro index task placed incomplete
    rcases Positions.append_cases placed with old | ⟨_, rfl⟩
    · exact sound.incomplete index task old incomplete
    · exact Or.inl rfl
  · intro index task placed complete cancelling
    rcases Positions.append_cases placed with old | ⟨_, rfl⟩
    · exact sound.interruptible index task old complete cancelling
    · cases cancelling
  · intro index task placed body sending
    rcases Positions.append_cases placed with old | ⟨_, rfl⟩
    · exact sound.writable index task old body sending
    · cases sending
  · intro one other oneTask otherTask placedOne placedOther completeOne completeOther same
    rcases Positions.append_cases placedOne with oldOne | ⟨oneLast, rfl⟩
    · rcases Positions.append_cases placedOther with oldOther | ⟨_, rfl⟩
      · exact sound.distinct one other oneTask otherTask oldOne oldOther completeOne completeOther
          same
      · exact absurd same
          (fresh completeOther oneTask (List.mem_of_getElem? oldOne) completeOne)
    · rcases Positions.append_cases placedOther with oldOther | ⟨otherLast, _⟩
      · exact absurd same.symm
          (fresh completeOne otherTask (List.mem_of_getElem? oldOther) completeOther)
      · exact oneLast.trans otherLast.symm

/-- A cancellation that its task answers keeps what holds between moves. -/
theorem cancelling_sound {index : Nat} {task : Task} (found : state.tasks[index]? = some task)
    (stops : task.request.Complete → task.phase.interruptible = true) :
    Sound runtime (state.put index { task with cancelling := true }) := by
  have at_other : ∀ {other : Nat} {held : Task},
      (state.put index { task with cancelling := true }).tasks[other]? = some held →
        ∃ before : Task, state.tasks[other]? = some before ∧ held.request = before.request ∧
          held.phase = before.phase ∧ (held.cancelling = before.cancelling ∨
            (held.request.Complete → held.phase.interruptible = true)) := by
    intro other held placed
    rcases Positions.set_cases placed with ⟨rfl, rfl⟩ | ⟨_, old⟩
    · exact ⟨task, found, rfl, rfl, Or.inr stops⟩
    · exact ⟨held, old, rfl, rfl, Or.inl rfl⟩
  have kept : ∀ property : Task → Prop, (property { task with cancelling := true } ↔ property task) →
      ∀ other, Holds (state.put index { task with cancelling := true }).tasks other property ↔
        Holds state.tasks other property :=
    fun property same other => holds_same found same other
  refine
    { slots := fun other => (sound.slots other).trans (kept _ Iff.rfl other).symm
      sends := fun other => (sound.sends other).trans (kept _ Iff.rfl other).symm
      locks := fun key other => (sound.locks key other).trans (kept _ Iff.rfl other).symm
      exclusive := ?_
      frames := fun frame member => (kept _ Iff.rfl _).mpr (sound.frames frame member)
      answers := ?_
      incomplete := ?_
      interruptible := ?_
      writable := ?_
      executions := fun execution member =>
        (kept _ Iff.rfl _).mpr (sound.executions execution member)
      executedOnce := sound.executedOnce
      distinct := ?_ }
  · intro other held placed waiting
    obtain ⟨before, old, request, phase, _⟩ := at_other placed
    rw [request]
    exact sound.exclusive other before old (phase ▸ waiting)
  · intro other held placed
    obtain ⟨before, old, request, phase, _⟩ := at_other placed
    rw [request, phase]
    exact sound.answers other before old
  · intro other held placed incomplete
    obtain ⟨before, old, request, phase, _⟩ := at_other placed
    rw [phase]
    exact sound.incomplete other before old (request ▸ incomplete)
  · intro other held placed complete cancelling
    obtain ⟨before, old, request, phase, flagged | answered⟩ := at_other placed
    · rw [phase]
      exact sound.interruptible other before old (request ▸ complete) (flagged ▸ cancelling)
    · exact answered complete
  · intro other held placed body sending
    obtain ⟨before, old, _, phase, _⟩ := at_other placed
    exact sound.writable other before old body (phase ▸ sending)
  · intro one other oneTask otherTask placedOne placedOther completeOne completeOther same
    obtain ⟨oneBefore, oneOld, oneSame, _⟩ := at_other placedOne
    obtain ⟨otherBefore, otherOld, otherSame, _⟩ := at_other placedOther
    exact sound.distinct one other oneBefore otherBefore oneOld otherOld (oneSame ▸ completeOne)
      (otherSame ▸ completeOther) (oneSame ▸ otherSame ▸ same)

/-- A cancel frame keeps what holds between moves, if its task answers. -/
theorem handleCallCancel_sound {callId : String} (fresh : Fresh state (.cancel callId)) :
    Sound runtime (handleCallCancel state callId) := by
  unfold handleCallCancel
  split
  · exact sound
  case h_2 index active =>
    split
    · exact sound
    case h_2 task found =>
      split
      · exact sound
      · exact cancelling_sound sound found (fresh index active task found)

/-- A step that meets the condition keeps what holds between moves. -/
theorem step_sound {action : Action} {next : State} (fresh : Fresh state action)
    (taken : step runtime state action = some next) : Sound runtime next := by
  cases action with
  | request request =>
    obtain rfl := Option.some.inj taken
    exact createTask_sound sound fresh
  | cancel callId =>
    obtain rfl := Option.some.inj taken
    exact handleCallCancel_sound sound fresh
  | proceeds index =>
    obtain ⟨task, found, moved⟩ := Option.bind_eq_some_iff.mp taken
    exact (proceed_moves moved).keeps sound found nofun
  | concludes index outcome =>
    obtain ⟨task, found, moved⟩ := Option.bind_eq_some_iff.mp taken
    exact (conclude_moves moved).keeps sound found (fun same => fresh (Option.some.inj same))

end

theorem start_sound (runtime : Runtime) : Sound runtime start := by
  refine ⟨?_, ?_, ?_, ?_, ?_, ?_, ?_, ?_, ?_, ?_, ?_, ?_⟩ <;> simp [start, Holds]

/-! ## Progress -/

section
variable {runtime : Runtime} {state next : State}

/-- Replacing a task by one with less before it leaves less in all. -/
theorem remaining_set {tasks : List Task} {index : Nat} {task after : Task}
    (found : tasks[index]? = some task) (less : after.phase.remaining < task.phase.remaining) :
    ((tasks.set index after).map fun task => task.phase.remaining).sum <
      (tasks.map fun task => task.phase.remaining).sum := by
  induction tasks generalizing index with
  | nil => cases found
  | cons first rest inductionHypothesis =>
    cases index with
    | zero =>
      obtain rfl := Option.some.inj found
      simpa using less
    | succ index => simpa using inductionHypothesis found

theorem following_remaining (task : Task) {body : Body} (more : body.isTerminal = false) :
    (following runtime task body).remaining < (Phase.writing body).remaining := by
  cases body with
  | accepted => exact Nat.lt_add_one 7
  | progress phase detail => exact Nat.lt_add_one 5
  | result payload => cases more
  | error code message retryable => cases more

theorem sending_remaining (body : Body) :
    0 < (Phase.writing body).remaining ∧
      (Phase.writing body).remaining < (Phase.sending body).remaining := by
  cases body <;> simp [Phase.remaining]

theorem answer_remaining (outcome : ToolOutcome) :
    (Phase.sending (answer outcome)).remaining = 2 := by
  cases outcome <;> rfl

/-- Every move of a task leaves less to do. -/
theorem Moves.remaining {index : Nat} {task : Task} (found : state.tasks[index]? = some task)
    {ending : Option ToolOutcome} (moves : Moves runtime state index task ending next) :
    next.remaining < state.remaining := by
  cases moves with
  | continued body writing going more =>
    exact remaining_set found (writing ▸ following_remaining task more)
  | lost body sending why =>
    have bound := sending_remaining body
    exact remaining_set found (sending ▸ bound.1.trans bound.2)
  | written body sending going free =>
    exact remaining_set found (sending ▸ (sending_remaining body).2)
  | ended body writing finished => exact remaining_set found (writing ▸ (sending_remaining body).1)
  | concluded outcome executing exclusive =>
    refine remaining_set found ?_
    rw [executing, answer_remaining]
    decide
  | concludedShared outcome executing shared =>
    refine remaining_set found ?_
    rw [executing, answer_remaining]
    decide
  | dropped phase | refused _ _ phase | accepted _ phase | interruptedAtSlot phase
  | waitsForTool phase | executes phase | interruptedAtTool phase | executesAlone phase =>
    refine remaining_set found ?_
    rw [phase]
    simp [Phase.remaining, Task.to, Task.interrupted, cancelledBody]

theorem step_remaining {action : Action} (ofTask : action.OfTask)
    (taken : step runtime state action = some next) : next.remaining < state.remaining := by
  cases action with
  | request request => exact ofTask.elim
  | cancel callId => exact ofTask.elim
  | proceeds index =>
    obtain ⟨task, found, moved⟩ := Option.bind_eq_some_iff.mp taken
    exact (proceed_moves moved).remaining found
  | concludes index outcome =>
    obtain ⟨task, found, moved⟩ := Option.bind_eq_some_iff.mp taken
    exact (conclude_moves moved).remaining found

/-- A task of the list moves. -/
theorem moves_of_proceed {index : Nat} {task : Task} (found : state.tasks[index]? = some task)
    (moves : proceed runtime state index task ≠ none) :
    ∃ action next, Action.OfTask action ∧ step runtime state action = some next := by
  obtain ⟨next, moved⟩ := Option.ne_none_iff_exists'.mp moves
  exact ⟨.proceeds index, next, trivial, Option.bind_eq_some_iff.mpr ⟨task, found, moved⟩⟩

theorem moves_of_executing {index : Nat} {task : Task} (found : state.tasks[index]? = some task)
    (executing : task.phase = .executing) :
    ∃ action next, Action.OfTask action ∧ step runtime state action = some next := by
  obtain ⟨next, moved⟩ : ∃ next, conclude runtime state index task .cancelled = some next := by
    unfold conclude
    rw [executing]
    exact ⟨_, rfl⟩
  exact ⟨.concludes index .cancelled, next, trivial,
    Option.bind_eq_some_iff.mpr ⟨task, found, moved⟩⟩

/-- A task that waits for its tool can move, or the task that has the tool can. -/
theorem moves_of_waitingTool (sound : Sound runtime state) {index : Nat} {task : Task}
    (found : state.tasks[index]? = some task) (waiting : task.phase = .waitingTool) :
    ∃ action next, Action.OfTask action ∧ step runtime state action = some next := by
  cases held : state.locks.get task.request.key with
  | none =>
    refine moves_of_proceed found ?_
    unfold proceed
    rw [waiting]
    dsimp only
    split
    · intro nothing; cases nothing
    · rw [if_neg (not_not.mpr held)]
      intro nothing; cases nothing
  | some holder =>
    obtain ⟨other, placed, executing, _⟩ := (sound.locks task.request.key holder).mp held
    exact moves_of_executing placed executing

/-- While a task is not done, some task can move. -/
theorem moves_of_unfinished (sound : Sound runtime state) {task : Task}
    (member : task ∈ state.tasks) (unfinished : task.phase ≠ .finished) :
    ∃ action next, Action.OfTask action ∧ step runtime state action = some next := by
  obtain ⟨index, found⟩ := List.getElem?_of_mem member
  cases phase : task.phase with
  | created =>
    refine moves_of_proceed found ?_
    unfold proceed
    rw [phase]
    dsimp only
    split
    · nofun
    · split <;> nofun
  | sending body =>
    cases held : state.sendLock with
    | none =>
      refine moves_of_proceed found ?_
      unfold proceed
      rw [phase]
      dsimp only
      split
      · nofun
      · rw [if_neg (not_not.mpr held)]
        split <;> nofun
    | some holder =>
      obtain ⟨other, placed, holds⟩ := (sound.sends holder).mp held
      refine moves_of_proceed placed ?_
      unfold proceed
      cases writing : other.phase with
      | writing body =>
        dsimp only
        split <;> nofun
      | _ =>
        rw [writing] at holds
        cases holds
  | writing body =>
    refine moves_of_proceed found ?_
    unfold proceed
    rw [phase]
    dsimp only
    split <;> nofun
  | waitingSlot =>
    by_cases full : runtime.slots ≤ state.slots.length
    · have someone : state.slots ≠ [] := by
        intro empty
        rw [empty, List.length_nil] at full
        unfold Runtime.slots at full
        omega
      obtain ⟨holder, holds⟩ := List.exists_mem_of_ne_nil _ someone
      obtain ⟨other, placed, inside⟩ := (sound.slots holder).mp holds
      cases holding : other.phase with
      | waitingTool => exact moves_of_waitingTool sound placed holding
      | executing => exact moves_of_executing placed holding
      | _ =>
        rw [holding] at inside
        cases inside
    · refine moves_of_proceed found ?_
      unfold proceed
      rw [phase]
      dsimp only
      split
      · nofun
      · split <;> nofun
  | waitingTool => exact moves_of_waitingTool sound found phase
  | executing => exact moves_of_executing found phase
  | finished => exact absurd phase unfinished

/-- What holds between moves is what the runtime owes. -/
theorem answersOnce_of_sound (sound : Sound runtime state) : AnswersOnce runtime state where
  once := by
    intro index
    cases found : state.tasks[index]? with
    | none => simp [answers_of_absent sound found]
    | some task =>
      rw [sound.answers index task found]
      split <;> omega
  answered := by
    intro index task found complete finished
    have count := sound.answers index task found
    rw [if_pos ⟨complete, by rw [finished]; rfl⟩] at count
    obtain ⟨frame, only⟩ := List.length_eq_one_iff.mp count
    have member : frame ∈ state.answers index := by
      rw [only]
      exact List.mem_singleton_self frame
    obtain ⟨sent, of_task⟩ := List.mem_filter.mp member
    have mine : frame.task = index := by
      simpa using (Bool.and_eq_true_iff.mp of_task).1
    have ids := sound.frames frame sent
    rw [mine, holds_self found] at ids
    exact ⟨frame, only, ids⟩
  moves := fun ⟨_, member, unfinished⟩ => moves_of_unfinished sound member unfinished
  bounded := fun _ _ ofTask taken => step_remaining ofTask taken
  executedOnce := by
    have ids : ∀ one ∈ state.executions, ∀ other ∈ state.executions,
        one.callId = other.callId → one.task = other.task := by
      intro one oneMember other otherMember same
      obtain ⟨oneTask, oneFound, oneId, oneComplete, _⟩ := sound.executions one oneMember
      obtain ⟨otherTask, otherFound, otherId, otherComplete, _⟩ :=
        sound.executions other otherMember
      exact sound.distinct one.task other.task oneTask otherTask oneFound otherFound oneComplete
        otherComplete (oneId.symm.trans (same.trans otherId))
    have pairwise := List.pairwise_map.mp sound.executedOnce
    refine List.pairwise_map.mpr (pairwise.imp_of_mem ?_)
    exact fun oneMember otherMember different same =>
      different (ids _ oneMember _ otherMember same)
  apart := by
    intro one other oneTask otherTask oneFound otherFound oneExecutes otherExecutes same exclusive
    have oneHolds := (sound.locks oneTask.request.key one).mpr
      ⟨oneTask, oneFound, oneExecutes, rfl, exclusive⟩
    have otherHolds := (sound.locks oneTask.request.key other).mpr
      ⟨otherTask, otherFound, otherExecutes, same.symm, exclusive⟩
    exact Option.some.inj (oneHolds.symm.trans otherHolds)

end

/-- In every run whose requests bring new call ids, whose cancel frames find tasks that answer
them, and whose tools return what can be sent, every call is answered once. -/
theorem run_answersOnce (runtime : Runtime) (actions : List Action)
    (fresh : Taking (step runtime) Fresh start actions) :
    Throughout (step runtime) (AnswersOnce runtime) start actions := by
  refine ⟨answersOnce_of_sound (start_sound runtime), ?_⟩
  refine Along.imp_of_invariant (Sound runtime) ?_ ?_ (start_sound runtime) fresh
  · exact fun state action next sound met taken => step_sound sound (met next taken) taken
  · exact fun state action sound met next taken =>
      answersOnce_of_sound (step_sound sound (met next taken) taken)

/-! ## A run with a cancelled call -/

instance (state : State) : DecidablePred (Fresh state)
  | .request request => by unfold Fresh; infer_instance
  | .cancel callId => by unfold Fresh; infer_instance
  | .proceeds _ => isTrue trivial
  | .concludes _ (.returned none) => isFalse fun sendable => sendable rfl
  | .concludes _ (.returned (some _)) | .concludes _ (.refused _ _ _) | .concludes _ .cancelled
  | .concludes _ (.raised _) => isTrue nofun

def plainRuntime : Runtime where
  maxParallelCalls := 2
  allowsParallelTool := fun _ => false
  callProgressDetail := fun _ => "Dispatching tool handler"
  decryptJsonPayload := fun _ => .error ("credential_decrypt_failed", "")

def echoRequest (callId : String) : CallRequest :=
  ⟨"msg_" ++ callId, callId, "", "utility.echo", Dict.empty, Dict.empty⟩

/-- Two calls of one tool, the first cancelled while it executes. -/
theorem run_answersOnce_cancelled :
    Throughout (step plainRuntime) (AnswersOnce plainRuntime) start
      [.request (echoRequest "call_1"), .request (echoRequest "call_2"), .proceeds 0, .proceeds 0,
        .proceeds 0, .proceeds 0, .proceeds 0, .proceeds 0, .proceeds 0, .cancel "call_1",
        .concludes 0 .cancelled, .proceeds 0, .proceeds 0] :=
  run_answersOnce plainRuntime _ (by decide +kernel)

/-- A call that is cancelled before its task has begun is not answered. -/
theorem cancelled_unanswered :
    ¬ ∀ (runtime : Runtime) (actions : List Action),
        Throughout (step runtime) (AnswersOnce runtime) start actions := by
  intro always
  obtain ⟨final, completed⟩ : ∃ final, run (step plainRuntime) start
      [.request (echoRequest "call_1"), .cancel "call_1", .proceeds 0] = some final :=
    ⟨_, rfl⟩
  have owes := (always plainRuntime _).final completed
  obtain rfl := Option.some.inj completed
  obtain ⟨frame, only, _⟩ := owes.answered 0 _ rfl (by decide) rfl
  cases only

end MeetYou.EndpointCalls
