import MeetYou.EndpointCalls

/-!
# Operations of the Raspberry Pi provider

The provider answers a call by running an operation. An operation that has ended keeps its final
record, and a call that names it again gets the record; its handler is not started a second time.
The runner itself takes no lock. What keeps two handlers of one operation apart is the lock of
their tool, which the call holds until the record stands.

Calls arrive, are cancelled and lose their socket in any order, and the provider keeps its records
from one connection to the next. The check of the arguments is a parameter.
-/

namespace MeetYou.OperationRunner

open Runs Text EndpointCalls

/-! ## The runner -/

/-- The request the runner makes of a frame. -/
structure OperationRequest where
  operationId : String
  callId : String
  capabilityName : String
  arguments : Fields

/-- The `error` of a record; that of a cancelled operation has no `retryable`. -/
structure OperationError where
  code : String
  message : String
  retryable : Option Bool

/-- How an operation ends. -/
inductive Status
  | completed
  | failed
  | cancelled
deriving DecidableEq

/-- A payload that has no JSON text is `none`. -/
structure OperationFinal where
  operationId : String
  callId : String
  capabilityName : String
  status : Status
  payload : Option Fields
  error : Option OperationError
  seq : Nat

/-- A capability of the provider. -/
structure Capability where
  inputSchema : Fields
  safeParallel : Bool

/-- The provider, with its schema check and its handlers as parameters. -/
structure Provider where
  maxParallelCalls : Int
  capabilities : Dict String Capability
  /-- `_validate_input_schema`: nothing, or the error it raises. -/
  validateInputSchema : Fields → Fields → Option OperationError
  decryptJsonPayload : Fields → Except (String × String) Fields

/-- `registry.get` -/
def Provider.get (provider : Provider) (name : String) : Option Capability :=
  provider.capabilities.get (strip name)

/-- The runtime of a provider. -/
def Provider.runtime (provider : Provider) : Runtime where
  maxParallelCalls := provider.maxParallelCalls
  allowsParallelTool := fun key => ((provider.get key).map Capability.safeParallel).getD false
  callProgressDetail := fun key => "Dispatching Raspberry Pi capability " ++ key
  decryptJsonPayload := provider.decryptJsonPayload

/-- `_final_by_operation_id` and `_seq_by_operation_id` -/
structure Runner where
  finals : Dict String OperationFinal
  seqs : Dict String Nat

/-- The key under which the events of an operation are counted. -/
def seqKey (operationId : String) : String :=
  if strip operationId = "" then "_missing" else strip operationId

/-- `_next_seq` -/
def Runner.nextSeq (runner : Runner) (operationId : String) : Nat :=
  (runner.seqs.get (seqKey operationId)).getD 0 + 1

/-- The runner after `_next_seq`. -/
def Runner.counted (runner : Runner) (operationId : String) : Runner :=
  { runner with seqs := runner.seqs.set (seqKey operationId) (runner.nextSeq operationId) }

/-- `_final` -/
def Runner.final (runner : Runner) (request : OperationRequest) (status : Status)
    (payload : Option Fields) (error : Option OperationError) : OperationFinal :=
  ⟨request.operationId, request.callId, request.capabilityName, status, payload, error,
    runner.nextSeq request.operationId⟩

/-- The final result of an operation is kept. -/
def Runner.store (runner : Runner) (operationId : String) (final : OperationFinal) : Runner :=
  { runner with finals := runner.finals.set operationId final }

/-- The record `_fail` makes. -/
def Runner.failure (runner : Runner) (request : OperationRequest) (error : OperationError) :
    OperationFinal :=
  runner.final request .failed (some Dict.empty) (some error)

/-- The runner after `_fail`; a request without an operation id leaves no record. -/
def Runner.fail (runner : Runner) (request : OperationRequest) (error : OperationError) :
    Runner :=
  let counted := runner.counted request.operationId
  if request.operationId = "" then counted
  else counted.store (strip request.operationId) (runner.failure request error)

/-- What `run` comes to before its first wait: a record, or a handler that it waits for. -/
inductive Begun
  | ended (final : OperationFinal)
  | handling

/-- The error by which a request is refused. -/
def refusal (provider : Provider) (request : OperationRequest) : Option OperationError :=
  if strip request.callId = "" then
    some ⟨"call_id_required", "call_id is required", some false⟩
  else if strip request.capabilityName = "" then
    some ⟨"capability_required", "capability_name is required", some false⟩
  else
    match provider.get (strip request.capabilityName) with
    | none =>
      some ⟨"capability_not_found",
        "Capability is not registered: " ++ strip request.capabilityName, some false⟩
    | some definition => provider.validateInputSchema definition.inputSchema request.arguments

/-- `run` up to the handler. -/
def Runner.begins (provider : Provider) (runner : Runner) (request : OperationRequest) :
    Begun × Runner :=
  let failing (error : OperationError) : Begun × Runner :=
    (.ended (runner.failure request error), runner.fail request error)
  if strip request.operationId = "" then
    failing ⟨"operation_id_required", "operation_id is required", some false⟩
  else
    match runner.finals.get (strip request.operationId) with
    | some cached => (.ended cached, runner)
    | none =>
      match refusal provider request with
      | some error => failing error
      -- `_emit` counts the progress event, although nobody listens
      | none => (.handling, runner.counted request.operationId)

/-- How the wait for the handler ends. -/
inductive Ending
  | returned (result : Option Fields)
  | refused (code message : String) (retryable : Bool)
  | timedOut (seconds : String)
  | cancelled
  | raised (message : String)

/-- The record that `run` stores behind the handler. -/
def Runner.record (runner : Runner) (request : OperationRequest) : Ending → OperationFinal
  | .returned result => runner.final request .completed result none
  | .refused code message retryable =>
    runner.failure request ⟨code, message, some retryable⟩
  | .timedOut seconds =>
    runner.failure request ⟨"operation_timeout",
      "Operation timed out after " ++ seconds ++ " seconds", some true⟩
  | .cancelled =>
    runner.final request .cancelled (some Dict.empty)
      (some ⟨"operation_cancelled", "Operation cancelled", none⟩)
  | .raised message => runner.failure request ⟨"operation_failed", message, some false⟩

/-- The runner behind the handler. -/
def Runner.ends (runner : Runner) (request : OperationRequest) (ending : Ending) : Runner :=
  (runner.counted request.operationId).store (strip request.operationId)
    (runner.record request ending)

/-- How `execute_tool` ends on a record. -/
def outcomeOf (final : OperationFinal) : ToolOutcome :=
  if final.status = .completed then .returned final.payload
  else
    match final.error with
    | none => .refused "operation_failed" "Operation failed" false
    | some error =>
      .refused (if error.code = "" then "operation_failed" else error.code)
        (if error.message = "" then "Operation failed" else error.message)
        (error.retryable.getD false)

/-- How `execute_tool` ends behind the handler. -/
def outcomeOfEnding (final : OperationFinal) : Ending → ToolOutcome
  | .cancelled => .cancelled
  | _ => outcomeOf final

/-! ## The provider -/

/-- A handler that was started. -/
structure Start where
  task : Nat
  operationId : String
  capabilityName : String

/-- The record on which the run of a task ended, and how `execute_tool` ended on it. -/
structure Reply where
  task : Nat
  operationId : String
  final : OperationFinal
  outcome : ToolOutcome

/-- The calls with the runner and its replies. -/
structure State where
  calls : EndpointCalls.State
  /-- The `operation_id` of each request; one that is absent is empty. -/
  operationIds : List String
  runner : Runner
  starts : List Start
  replies : List Reply

/-- The runner without operations. -/
def start : State := ⟨EndpointCalls.start, [], ⟨Dict.empty, Dict.empty⟩, [], []⟩

/-- The operation a call asks for: `operation_id or call_id`. -/
def operationOf (operationId callId : String) : String :=
  strip (if operationId = "" then strip callId else operationId)

/-- The operation of a task. -/
def State.operation (state : State) (index : Nat) (task : Task) : String :=
  operationOf (state.operationIds.getD index "") task.request.callId

/-- The request `execute_tool` makes. -/
def State.request (state : State) (index : Nat) (task : Task) : OperationRequest :=
  ⟨state.operation index task, strip task.request.callId, task.request.key,
    task.resolvedArguments⟩

/-- A task that has its tool runs its operation; where no handler is started it goes on at once. -/
def enter (provider : Provider) (state : State) (index : Nat) (task : Task) : Option State :=
  let request := state.request index task
  match state.runner.begins provider request with
  | (.handling, runner) =>
    some { state with
      runner
      starts := state.starts ++ [⟨index, request.operationId, request.capabilityName⟩] }
  | (.ended final, runner) =>
    (conclude provider.runtime state.calls index task (outcomeOf final)).map fun calls =>
      { state with
        calls
        runner
        replies := state.replies ++ [⟨index, request.operationId, final, outcomeOf final⟩] }

/-- The handler of a task ends. -/
def leave (provider : Provider) (state : State) (index : Nat) (task : Task) (ending : Ending) :
    Option State :=
  let request := state.request index task
  let final := state.runner.record request ending
  let outcome := outcomeOfEnding final ending
  (conclude provider.runtime state.calls index task outcome).map fun calls =>
    { state with
      calls
      runner := state.runner.ends request ending
      replies := state.replies ++ [⟨index, request.operationId, final, outcome⟩] }

/-- A task is asked to stop. -/
def cancelTask (task : Task) : Task :=
  match task.phase with
  | .finished => task
  | _ => { task with cancelling := true }

/-- The connection ends: every task that is not done is asked to stop. -/
def closes (calls : EndpointCalls.State) : EndpointCalls.State :=
  { calls with tasks := calls.tasks.map cancelTask }

/-- A frame is not sent, since the socket is gone. -/
def loses (calls : EndpointCalls.State) (index : Nat) (task : Task) :
    Option EndpointCalls.State :=
  match task.phase with
  | .sending _ => if calls.sendLock ≠ none then none else some (calls.finish index task)
  | .writing _ => some (calls.releaseSend.finish index task)
  | _ => none

/-- A frame comes in, a task goes on, or the connection closes. -/
inductive Action
  | request (request : CallRequest) (operationId : String)
  | cancel (callId : String)
  | proceeds (task : Nat)
  | concludes (task : Nat) (ending : Ending)
  | closes
  | loses (task : Nat)

/-- A task that has come to its tool runs its operation. -/
def settle (provider : Provider) (state : State) (index : Nat) : Option State :=
  match state.calls.tasks[index]? with
  | none => some state
  | some task =>
    match task.phase with
    | .executing => enter provider state index task
    | _ => some state

/-- One frame or one step of one task. -/
def step (provider : Provider) (state : State) : Action → Option State
  | .request request operationId => some { state with
      calls := createTask state.calls request
      operationIds := state.operationIds ++ [operationId] }
  | .cancel callId => some { state with calls := handleCallCancel state.calls callId }
  | .proceeds index =>
    state.calls.tasks[index]?.bind fun task =>
      (proceed provider.runtime state.calls index task).bind fun calls =>
        settle provider { state with calls } index
  | .concludes index ending =>
    state.calls.tasks[index]?.bind fun task => leave provider state index task ending
  | .closes => some { state with calls := closes state.calls }
  | .loses index =>
    state.calls.tasks[index]?.bind fun task =>
      (loses state.calls index task).map fun calls => { state with calls }

/-- The tool of a handler is never in two calls at once. -/
def Provider.Exclusive (provider : Provider) (name : String) : Prop :=
  provider.runtime.Exclusive name

instance (provider : Provider) (name : String) : Decidable (provider.Exclusive name) := by
  unfold Provider.Exclusive
  infer_instance

/-! ## What the provider owes -/

/-- The handlers of exclusive tools that were started, by operation and tool. -/
def State.started (provider : Provider) (state : State) : List (String × String) :=
  (state.starts.filter fun entry => decide (provider.Exclusive entry.capabilityName)).map
    fun entry => (entry.operationId, entry.capabilityName)

/-- An exclusive tool is started at most once for an operation. -/
def StartsOnce (provider : Provider) (state : State) : Prop := (state.started provider).Nodup

/-! ## Calls in their tools -/

/-- An exclusive tool that is executed is locked by its task, and the tasks that wait for a tool
wait for an exclusive one. -/
structure Locked (runtime : Runtime) (calls : EndpointCalls.State) : Prop where
  alone : ∀ (index : Nat) (task : Task), calls.tasks[index]? = some task →
    task.phase = .executing → runtime.Exclusive task.request.key →
      calls.locks.get task.request.key = some index
  waits : ∀ (index : Nat) (task : Task), calls.tasks[index]? = some task →
    task.phase = .waitingTool → runtime.Exclusive task.request.key

/-- The task has ended its execution so, and has not answered otherwise. -/
def EndedWith (outcome : ToolOutcome) : Phase → Prop
  | .sending body | .writing body => body = answer outcome
  | .finished => True
  | _ => False

/-- A task moves outside its tool. -/
structure Idles (runtime : Runtime) (before : EndpointCalls.State) (index : Nat) (old task : Task)
    (after : EndpointCalls.State) : Prop where
  tasks : after.tasks = before.tasks.set index task
  locks : after.locks = before.locks
  request : task.request = old.request
  outside : old.phase ≠ .executing
  stays : task.phase ≠ .executing
  waits : task.phase = .waitingTool → runtime.Exclusive task.request.key
  ended : ∀ outcome, EndedWith outcome old.phase → EndedWith outcome task.phase
  answered : old.phase.answered = true → task.phase.answered = true
  frames : ∀ frame ∈ after.frames, frame ∈ before.frames ∨
    frame.task = index ∧ old.phase = .sending frame.body ∧ task.phase = .writing frame.body

/-- A task comes to its tool; an exclusive tool was free and is locked now. -/
structure Enters (runtime : Runtime) (before : EndpointCalls.State) (index : Nat) (old task : Task)
    (after : EndpointCalls.State) : Prop where
  tasks : after.tasks = before.tasks.set index task
  request : task.request = old.request
  outside : old.phase ≠ .executing
  unended : ∀ outcome, ¬ EndedWith outcome old.phase
  unanswered : old.phase.answered = false
  executing : task.phase = .executing
  locks : after.locks = before.locks ∧ ¬ runtime.Exclusive task.request.key ∨
    before.locks.get task.request.key = none ∧
      after.locks = before.locks.set task.request.key index
  frames : after.frames = before.frames

/-- A task leaves its tool with an outcome. -/
structure Leaves (runtime : Runtime) (before : EndpointCalls.State) (index : Nat) (old task : Task)
    (outcome : ToolOutcome) (after : EndpointCalls.State) : Prop where
  tasks : after.tasks = before.tasks.set index task
  request : task.request = old.request
  executing : old.phase = .executing
  answers : task.phase = .sending (answer outcome)
  locks : after.locks = before.locks ∧ ¬ runtime.Exclusive old.request.key ∨
    after.locks = before.locks.pop old.request.key
  frames : after.frames = before.frames

/-- No task comes to its tool or leaves it; at most a new one stands behind the others. -/
structure Quiet (runtime : Runtime) (before after : EndpointCalls.State) : Prop where
  locks : after.locks = before.locks
  back : ∀ (index : Nat) (task : Task), after.tasks[index]? = some task →
    (∃ old, before.tasks[index]? = some old ∧ old.request = task.request ∧
      (task.phase = .executing → old.phase = .executing) ∧
        (task.phase = .waitingTool →
          old.phase = .waitingTool ∨ runtime.Exclusive task.request.key)) ∨
      index = before.tasks.length ∧ task.phase = .created
  forth : ∀ (index : Nat) (old : Task), before.tasks[index]? = some old →
    ∃ task, after.tasks[index]? = some task ∧ task.request = old.request ∧
      (old.phase = .executing → task.phase = .executing) ∧
        (∀ outcome, EndedWith outcome old.phase → EndedWith outcome task.phase) ∧
          (old.phase.answered = true → task.phase.answered = true)
  frames : ∀ frame ∈ after.frames, frame ∈ before.frames ∨
    ∃ old task, before.tasks[frame.task]? = some old ∧ after.tasks[frame.task]? = some task ∧
      old.phase = .sending frame.body ∧ task.phase = .writing frame.body

theorem Quiet.refl {runtime : Runtime} (calls : EndpointCalls.State) :
    Quiet runtime calls calls where
  locks := rfl
  back := fun _ task placed => Or.inl ⟨task, placed, rfl, id, Or.inl⟩
  forth := fun _ old placed => ⟨old, placed, rfl, id, fun _ => id, id⟩
  frames := fun _ => Or.inl

section
variable {runtime : Runtime} {before after : EndpointCalls.State} {index : Nat} {old : Task}

/-- A task that moves by itself stays outside its tool or comes to it. -/
theorem proceed_cases (moved : proceed runtime before index old = some after) :
    ∃ task, Idles runtime before index old task after ∨
      Enters runtime before index old task after := by
  cases proceed_moves moved with
  | dropped created idle =>
    refine ⟨old.to .finished, Or.inl
      ⟨rfl, rfl, rfl, ?_, nofun, nofun, fun _ _ => trivial, fun _ => rfl, fun _ => Or.inl⟩⟩
    rw [created]; nofun
  | refused code message created going complete =>
    refine ⟨_, Or.inl ⟨rfl, rfl, rfl, ?_, nofun, nofun, ?_, ?_, fun _ => Or.inl⟩⟩
    · rw [created]; nofun
    · rw [created]; exact fun _ ended => ended.elim
    · rw [created]; nofun
  | accepted arguments created going complete =>
    refine ⟨_, Or.inl ⟨rfl, rfl, rfl, ?_, nofun, nofun, ?_, ?_, fun _ => Or.inl⟩⟩
    · rw [created]; nofun
    · rw [created]; exact fun _ ended => ended.elim
    · rw [created]; nofun
  | lost body sending why =>
    refine ⟨old.to .finished, Or.inl
      ⟨rfl, rfl, rfl, ?_, nofun, nofun, fun _ _ => trivial, fun _ => rfl, fun _ => Or.inl⟩⟩
    rw [sending]; nofun
  | written body sending going free =>
    refine ⟨_, Or.inl ⟨rfl, rfl, rfl, ?_, nofun, nofun, ?_, ?_, ?_⟩⟩
    · rw [sending]; nofun
    · rw [sending]; exact fun _ ended => ended
    · rw [sending]; nofun
    · intro frame member
      rcases List.mem_append.mp member with earlier | new
      · exact Or.inl earlier
      · obtain rfl := List.mem_singleton.mp new
        exact Or.inr ⟨rfl, sending, rfl⟩
  | ended body writing finished =>
    refine ⟨old.to .finished, Or.inl
      ⟨rfl, rfl, rfl, ?_, nofun, nofun, fun _ _ => trivial, fun _ => rfl, fun _ => Or.inl⟩⟩
    rw [writing]; nofun
  | continued body writing going more =>
    have next := @following_cases runtime old body more
    refine ⟨_, Or.inl ⟨rfl, rfl, rfl, ?_, next.2.2, ?_, ?_, ?_, fun _ => Or.inl⟩⟩
    · rw [writing]; nofun
    · intro waiting
      have outside := next.1
      rw [show following runtime old body = .waitingTool from waiting] at outside
      cases outside
    · rw [writing]
      rintro outcome rfl
      rw [answer_isTerminal] at more
      cases more
    · rw [writing]
      intro terminal
      rw [show body.isTerminal = true from terminal] at more
      cases more
  | interruptedAtSlot waiting =>
    refine ⟨_, Or.inl ⟨rfl, rfl, rfl, ?_, nofun, nofun, ?_, ?_, fun _ => Or.inl⟩⟩
    · rw [waiting]; nofun
    · rw [waiting]; exact fun _ ended => ended.elim
    · rw [waiting]; nofun
  | waitsForTool waiting going exclusive =>
    refine ⟨_, Or.inl ⟨rfl, rfl, rfl, ?_, nofun, fun _ => exclusive, ?_, ?_, fun _ => Or.inl⟩⟩
    · rw [waiting]; nofun
    · rw [waiting]; exact fun _ ended => ended.elim
    · rw [waiting]; nofun
  | executes waiting going shared =>
    refine ⟨_, Or.inr ⟨rfl, rfl, ?_, ?_, ?_, rfl, Or.inl ⟨rfl, shared⟩, rfl⟩⟩
    · rw [waiting]; nofun
    · rw [waiting]; exact fun _ => id
    · rw [waiting]; rfl
  | interruptedAtTool waiting =>
    refine ⟨_, Or.inl ⟨rfl, rfl, rfl, ?_, nofun, nofun, ?_, ?_, fun _ => Or.inl⟩⟩
    · rw [waiting]; nofun
    · rw [waiting]; exact fun _ ended => ended.elim
    · rw [waiting]; nofun
  | executesAlone waiting going free =>
    refine ⟨_, Or.inr ⟨rfl, rfl, ?_, ?_, ?_, rfl, Or.inr ⟨free, rfl⟩, rfl⟩⟩
    · rw [waiting]; nofun
    · rw [waiting]; exact fun _ => id
    · rw [waiting]; rfl

/-- A task whose tool ends leaves it. -/
theorem conclude_leaves {outcome : ToolOutcome}
    (moved : conclude runtime before index old outcome = some after) :
    ∃ task, Leaves runtime before index old task outcome after := by
  cases conclude_moves moved with
  | concluded _ executing exclusive =>
    exact ⟨_, rfl, rfl, executing, rfl, Or.inr rfl, rfl⟩
  | concludedShared _ executing shared =>
    exact ⟨_, rfl, rfl, executing, rfl, Or.inl ⟨rfl, shared⟩, rfl⟩

/-- A frame that is not sent ends its task. -/
theorem loses_idles (lost : loses before index old = some after) :
    Idles runtime before index old (old.to .finished) after := by
  unfold loses at lost
  split at lost
  case h_1 body sending =>
    split at lost
    · cases lost
    · obtain rfl := Option.some.inj lost
      refine ⟨rfl, rfl, rfl, ?_, nofun, nofun, fun _ _ => trivial, fun _ => rfl, fun _ => Or.inl⟩
      rw [sending]; nofun
  case h_2 body writing =>
    obtain rfl := Option.some.inj lost
    refine ⟨rfl, rfl, rfl, ?_, nofun, nofun, fun _ _ => trivial, fun _ => rfl, fun _ => Or.inl⟩
    rw [writing]; nofun
  case h_3 => cases lost

variable {task : Task} {outcome : ToolOutcome}

theorem Idles.quiet (found : before.tasks[index]? = some old)
    (idles : Idles runtime before index old task after) : Quiet runtime before after where
  locks := idles.locks
  back := by
    intro other held placed
    rw [idles.tasks] at placed
    rcases Positions.set_cases placed with ⟨rfl, rfl⟩ | ⟨_, kept⟩
    · exact Or.inl ⟨old, found, idles.request.symm, fun executing => absurd executing idles.stays,
        fun waiting => Or.inr (idles.waits waiting)⟩
    · exact Or.inl ⟨held, kept, rfl, id, Or.inl⟩
  forth := by
    intro other held kept
    rw [idles.tasks]
    by_cases same : other = index
    · obtain rfl := same
      obtain rfl := Option.some.inj (found.symm.trans kept)
      exact ⟨task, Positions.set_self found task, idles.request,
        fun executing => absurd executing idles.outside, idles.ended, idles.answered⟩
    · exact ⟨held, by rwa [List.getElem?_set_ne (Ne.symm same)], rfl, id, fun _ => id, id⟩
  frames := by
    intro frame member
    refine (idles.frames frame member).imp_right ?_
    rintro ⟨mine, sending, writing⟩
    refine ⟨old, task, mine ▸ found, ?_, sending, writing⟩
    rw [idles.tasks, mine]
    exact Positions.set_self found task

/-- A new call has not begun. -/
theorem createTask_quiet (request : CallRequest) :
    Quiet runtime before (createTask before request) where
  locks := rfl
  back := by
    intro other held placed
    rcases Positions.append_cases placed with kept | ⟨rfl, rfl⟩
    · exact Or.inl ⟨held, kept, rfl, id, Or.inl⟩
    · exact Or.inr ⟨rfl, rfl⟩
  forth := fun other held kept =>
    ⟨held, Positions.append_of_some kept _, rfl, id, fun _ => id, id⟩
  frames := fun _ => Or.inl

/-- A cancel frame leaves its task where it is. -/
theorem handleCallCancel_quiet (callId : String) :
    Quiet runtime before (handleCallCancel before callId) := by
  unfold handleCallCancel
  split
  · exact Quiet.refl before
  case h_2 index active =>
    split
    · exact Quiet.refl before
    case h_2 task found =>
      have flagged : Quiet runtime before (before.put index { task with cancelling := true }) := by
        refine ⟨rfl, ?_, ?_, fun _ => Or.inl⟩
        · intro other held placed
          rcases Positions.set_cases placed with ⟨rfl, rfl⟩ | ⟨_, kept⟩
          · exact Or.inl ⟨task, found, rfl, id, Or.inl⟩
          · exact Or.inl ⟨held, kept, rfl, id, Or.inl⟩
        · intro other held kept
          by_cases same : other = index
          · obtain rfl := same
            obtain rfl := Option.some.inj (found.symm.trans kept)
            exact ⟨_, Positions.set_self found _, rfl, id, fun _ => id, id⟩
          · refine ⟨held, ?_, rfl, id, fun _ => id, id⟩
            exact (List.getElem?_set_ne (Ne.symm same)).trans kept
      split
      · exact Quiet.refl before
      · exact flagged

theorem cancelTask_same (task : Task) :
    (cancelTask task).request = task.request ∧ (cancelTask task).phase = task.phase := by
  unfold cancelTask
  split <;> exact ⟨rfl, rfl⟩

/-- The end of a connection leaves every task where it is. -/
theorem closes_quiet : Quiet runtime before (closes before) where
  locks := rfl
  back := by
    intro other held placed
    obtain ⟨old, kept, rfl⟩ := Option.map_eq_some_iff.mp (List.getElem?_map.symm.trans placed)
    have same := cancelTask_same old
    exact Or.inl ⟨old, kept, same.1.symm, fun executing => same.2 ▸ executing,
      fun waiting => Or.inl (same.2 ▸ waiting)⟩
  forth := by
    intro other held kept
    have same := cancelTask_same held
    refine ⟨cancelTask held, ?_, same.1, fun executing => same.2.trans executing, ?_, ?_⟩
    · exact List.getElem?_map.trans (congrArg (Option.map cancelTask) kept)
    · rw [same.2]
      exact fun _ => id
    · rw [same.2]
      exact id
  frames := fun _ => Or.inl

theorem Locked.quiet (locked : Locked runtime before) (quiet : Quiet runtime before after) :
    Locked runtime after where
  alone := by
    intro other held placed executing exclusive
    rcases quiet.back other held placed with ⟨was, kept, request, inside, _⟩ | ⟨_, created⟩
    · rw [quiet.locks, ← request]
      exact locked.alone other was kept (inside executing) (request ▸ exclusive)
    · rw [created] at executing
      cases executing
  waits := by
    intro other held placed waiting
    rcases quiet.back other held placed with ⟨was, kept, request, _, waited⟩ | ⟨_, created⟩
    · rcases waited waiting with before_waiting | exclusive
      · exact request ▸ locked.waits other was kept before_waiting
      · exact exclusive
    · rw [created] at waiting
      cases waiting

theorem Locked.enters (locked : Locked runtime before)
    (enters : Enters runtime before index old task after) : Locked runtime after where
  alone := by
    intro other held placed executing exclusive
    rw [enters.tasks] at placed
    rcases Positions.set_cases placed with ⟨rfl, rfl⟩ | ⟨_, kept⟩
    · rcases enters.locks with ⟨_, shared⟩ | ⟨_, taken⟩
      · exact absurd exclusive shared
      · rw [taken, Dict.get_set_self]
    · have held_before := locked.alone other held kept executing exclusive
      rcases enters.locks with ⟨same, _⟩ | ⟨free, taken⟩
      · rw [same, held_before]
      · have different : task.request.key ≠ held.request.key := by
          intro same
          rw [same, held_before] at free
          cases free
        rw [taken, Dict.get_set_ne _ _ different, held_before]
  waits := by
    intro other held placed waiting
    rw [enters.tasks] at placed
    rcases Positions.set_cases placed with ⟨rfl, rfl⟩ | ⟨_, kept⟩
    · rw [enters.executing] at waiting
      cases waiting
    · exact locked.waits other held kept waiting

theorem Locked.leaves (locked : Locked runtime before) (found : before.tasks[index]? = some old)
    (leaves : Leaves runtime before index old task outcome after) : Locked runtime after where
  alone := by
    intro other held placed executing exclusive
    rw [leaves.tasks] at placed
    rcases Positions.set_cases placed with ⟨rfl, rfl⟩ | ⟨apart, kept⟩
    · rw [leaves.answers] at executing
      cases executing
    · have held_before := locked.alone other held kept executing exclusive
      rcases leaves.locks with ⟨same, _⟩ | popped
      · rw [same, held_before]
      · have different : old.request.key ≠ held.request.key := by
          intro same
          have mine := locked.alone index old found leaves.executing (same ▸ exclusive)
          rw [same, held_before] at mine
          exact apart (Option.some.inj mine)
        rw [popped, Dict.get_pop_ne _ different, held_before]
  waits := by
    intro other held placed waiting
    rw [leaves.tasks] at placed
    rcases Positions.set_cases placed with ⟨rfl, rfl⟩ | ⟨_, kept⟩
    · rw [leaves.answers] at waiting
      cases waiting
    · exact locked.waits other held kept waiting

end

end MeetYou.OperationRunner
