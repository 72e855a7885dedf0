import MeetYou.ReplyControl
import MeetYou.SessionService

/-!
# Reply control over the actor of a session

The handlers of a session's actor run one turn after another, and each turn goes
through the brain. A reply control event is handled beside them: the brain notes an
accepted command for the active turn, the events of the acceptance are emitted, the
actor's current handler is cancelled, and the cancelled turn is finalised. Between
these steps the turn may end by itself and the next one may start.

A command respects the turns if its cancellation hits only the turn it was accepted
for, while that turn still answers, and then ends as the last completed command. This
holds throughout a run exactly if each cancellation that hits a handler finds the
turn of its command still active.
-/

namespace MeetYou.ControlledTurns

open BrainSession BrainTurn ReplyControl Runs
open SessionActor (Actor Handler HandlerPhase Progress Outcome outcomeOf isOpen Held)

universe u
variable {Payload : Type u}

/-- Where the code of a handler stands: in front of the active turn, in it, behind its
completion, or behind its interruption or failure. -/
inductive Place
  | opening
  | answering
  | delivering
  | closing
  deriving DecidableEq

/-- `turn_id`: fresh for each handler, so it spells the handler's number. -/
def turnIdOf (handler : Nat) : String := String.ofList (List.replicate (handler + 1) 't')

/-- Where `_handle_reply_control_event` stands once the request is accepted: its events
are emitted, it waits in `cancel` for a handler, or it is over. -/
inductive Stage
  | emitting
  | cancelling (handler : Nat)
  | concluded
  deriving DecidableEq

/-- An accepted command. `named` is the turn its own finalisation names. The code does
not keep the turn that was active at its acceptance, nor the turn its cancellation
struck and where that stood. -/
structure Command where
  requestId : String
  action : ControlAction
  acceptedFor : String
  named : String
  stage : Stage
  struck : Option (String × Place)

/-- A session with its actor. `place` is where the handler in `_active_handler_task`
stands, `pendingRequestId` the `request_id` of the pending command; the command last
accepted is kept until the next request. -/
structure Service (Payload : Type u) where
  actor : Actor Payload
  session : Session
  place : Place
  pendingRequestId : String
  lastCompletedCommand : Option (ControlAction × String)
  command : Option Command

/-- A new session. -/
def start (sysPrompt : String) : Service Payload :=
  ⟨SessionActor.start, create sysPrompt, .opening, "", none, none⟩

/-! ## The code of a handler -/

/-- What `_process_session_execution` does between two suspensions: nothing reply
control knows of, the start of the active turn, a step of it, or its `except
Exception`. -/
inductive Work
  | goesOn
  | begins (input : TurnInput)
  | turns (action : TurnAction)
  | fails (transient : Bool)

/-- How the handler's code can leave a place: it returns outside the turn, and what
escapes it is raised behind an interruption or failure. -/
def Leaves (place : Place) : Progress → Prop
  | .ends .finished => place ≠ .answering
  | .ends .raised => place = .closing
  | .ends .cancelled => False
  | _ => True

instance (place : Place) : ∀ progress, Decidable (Leaves place progress)
  | .ends .finished => inferInstanceAs (Decidable (place ≠ .answering))
  | .ends .raised => inferInstanceAs (Decidable (place = .closing))
  | .ends .cancelled => inferInstanceAs (Decidable False)
  | .suspends => inferInstanceAs (Decidable True)
  | .yields => inferInstanceAs (Decidable True)

section
variable (render : ContextBudget.Rendering)

/-- The session and the place a piece of work leads to. -/
def worked (session : Session) (place : Place) (handler : Nat) : Work → Option (Session × Place)
  | .goesOn => some (session, place)
  | .begins input =>
      if place = .opening ∧ session.turn.isNone then
        some (beginTurn render session { input with turnId := turnIdOf handler }, .answering)
      else none
  | .turns action =>
      if place = .answering then
        (turnStep render session action).map fun next =>
          (next, if next.turn.isNone then .delivering else .answering)
      else none
  | .fails transient =>
      if place ≠ .closing then
        some (markReplyTurnFailed (swept session transient) (turnIdOf handler), .closing)
      else none

/-- A step of a handler into which nothing is thrown. -/
def workStep (service : Service Payload) (handler : Nat) (work : Work) (progress : Progress) :
    Option (Service Payload) :=
  match service.actor.handlers[handler]?.map Handler.phase with
  | some (.ready false) =>
      (worked render service.session service.place handler work).bind fun (session, place) =>
        if Leaves place progress then
          (SessionActor.stepHandler service.actor handler progress).map fun actor =>
            { service with actor := actor, session := session, place := place }
        else none
  | _ => none

end

/-- `last_completed_command` behind the finalisation of a turn. -/
def completedCommand (service : Service Payload) (turnId : String) :
    Option (ControlAction × String) :=
  match activeOf service.session turnId, service.session.pendingCommand with
  | some _, some command => some (command.action, service.pendingRequestId)
  | _, _ => service.lastCompletedCommand

/-- `except asyncio.CancelledError`: the turn is finalised; a `ValueError` of that
escapes the handler. -/
def interrupted (service : Service Payload) (handler : Nat) (progress : Progress) :
    Option (Service Payload) :=
  let left := { service with session := ended service.session, place := .closing }
  match finalizeReplyControl (ended service.session) (turnIdOf handler) with
  | some session =>
      if Leaves .closing progress then
        some { left with
          session := session
          lastCompletedCommand := completedCommand service (turnIdOf handler) }
      else none
  | none => match progress with
    | .ends .raised => some left
    | _ => none

/-- A step of a handler into which a `CancelledError` is thrown. One that has not begun
ends at once, one that is closing is left by the error. -/
def thrownStep (service : Service Payload) (handler : Nat) (progress : Progress) :
    Option (Service Payload) :=
  match service.actor.handlers[handler]? with
  | some ⟨_, begun, .ready true⟩ =>
      (if !begun then some service
        else if service.place = .closing then
          match progress with
          | .ends .cancelled => some service
          | _ => none
        else interrupted service handler progress).bind fun after =>
          (SessionActor.stepHandler service.actor handler progress).map fun actor =>
            { after with actor := actor }
  | _ => none

/-! ## The handling of a reply control event -/

/-- `request_reply_control`, and what the handling keeps of it. -/
def requested (service : Service Payload) (requestId snapshotTurnId : String)
    (request : ControlRequest) : Service Payload :=
  let answer := requestReplyControl service.session request
  match answer.2, request.action, service.session.activeTurn with
  | .accepted, some action, some active =>
      { service with
        session := answer.1
        pendingRequestId := requestId
        command := some {
          requestId := requestId
          action := action
          acceptedFor := active.turnId
          named := if request.turnId = "" then snapshotTurnId else request.turnId
          stage := .emitting
          struck := none } }
  | .completed _, some action, _ =>
      { service with
        session := answer.1
        lastCompletedCommand := some (action, requestId)
        command := none }
  | _, _, _ => { service with session := answer.1, command := none }

/-- The handler `cancel_current` finds, with its phase. -/
def current (actor : Actor Payload) : Option (Nat × HandlerPhase) :=
  actor.activeHandlerTask.bind fun handler =>
    actor.handlers[handler]?.map fun found => (handler, found.phase)

/-- The handler into which a cancellation throws its error. A wait may swallow it. -/
def strikes (actor : Actor Payload) (delivered : Bool) : Option Nat :=
  match current actor with
  | some (handler, .ready _) => some handler
  | some (handler, .waiting) => if delivered then some handler else none
  | _ => none

/-- `cancel`, and where there was nothing to cancel the finalisation behind it. -/
def cancelled (service : Service Payload) (command : Command) (delivered : Bool) :
    Service Payload :=
  match current service.actor with
  | none | some (_, .done _) =>
      let finished := { command with
        stage := .concluded
        struck := (activeOf service.session command.named).map fun active =>
          (active.turnId, service.place) }
      match finalizeReplyControl service.session command.named with
      | some session => { service with
          session := session
          lastCompletedCommand := completedCommand service command.named
          command := some finished }
      | none => { service with command := some finished }
  | some (handler, _) => { service with
      actor := SessionActor.cancelCurrent service.actor delivered
      command := some { command with
        stage := .cancelling handler
        struck := (strikes service.actor delivered).map fun struck =>
          (turnIdOf struck, service.place) } }

/-! ## Runs -/

/-- What can happen next, in any order. The events of a control event are handled one
after another; emitting may raise, which ends the handling. -/
inductive Action (Payload : Type u)
  | submit (payload : Payload)
  | loop (index : Nat)
  | work (handler : Nat) (work : Work) (progress : Progress)
  | thrown (handler : Nat) (progress : Progress)
  | wake (handler : Nat)
  | request (requestId snapshotTurnId : String) (request : ControlRequest)
  | raise
  | cancel (delivered : Bool)
  | returns

/-- The command that is not over. -/
def inFlight (service : Service Payload) : Option Command :=
  service.command.filter fun command => decide (command.stage ≠ .concluded)

/-- A step of the actor, of the running turn, or of a control action. -/
def step (render : ContextBudget.Rendering) (service : Service Payload) :
    Action Payload → Option (Service Payload)
  | .submit payload => some { service with actor := SessionActor.submit service.actor payload }
  | .loop index =>
      (SessionActor.stepLoop service.actor index).map fun actor =>
        { service with actor := actor, place := .opening }
  | .work handler work progress => workStep render service handler work progress
  | .thrown handler progress => thrownStep service handler progress
  | .wake handler =>
      (SessionActor.wakeHandler service.actor handler).map fun actor =>
        { service with actor := actor }
  | .request requestId snapshotTurnId request =>
      if (inFlight service).isNone then some (requested service requestId snapshotTurnId request)
      else none
  | .raise => (inFlight service).bind fun command =>
      if command.stage = .emitting then
        some { service with command := some { command with stage := .concluded } }
      else none
  | .cancel delivered => (inFlight service).bind fun command =>
      if command.stage = .emitting then some (cancelled service command delivered) else none
  | .returns => (inFlight service).bind fun command =>
      (SessionActor.returnCanceller service.actor 0).map fun actor =>
        { service with actor := actor, command := some { command with stage := .concluded } }

/-- The command hits only the turn it was accepted for, while that turn answers; and
one that has hit it ends as the last completed command. -/
structure Respects (service : Service Payload) : Prop where
  own : ∀ command turn place, service.command = some command →
    command.struck = some (turn, place) → turn = command.acceptedFor ∧ place = .answering
  recorded : ∀ command, service.command = some command → command.stage = .concluded →
    command.struck.isSome → service.lastCompletedCommand = some (command.action, command.requestId)

/-- A cancellation that hits a handler finds the turn of its command still active. -/
def FindsItsTurn (service : Service Payload) (action : Action Payload) : Prop :=
  ∀ delivered command, action = .cancel delivered → service.command = some command →
    (strikes service.actor delivered).isSome →
      service.session.activeTurn.map ActiveTurn.turnId = some command.acceptedFor

/-! ## What the brain does with its reply control state -/

/-- Two sessions whose reply control state is the same. -/
structure SameControl (session next : Session) : Prop where
  active : next.activeTurn = session.activeTurn
  pending : next.pendingCommand = session.pendingCommand
  checkpoints : next.checkpoints = session.checkpoints

theorem SameControl.find {session next : Session} (same : SameControl session next)
    (checkpointId : Option CheckpointId) :
    findCheckpoint next checkpointId = findCheckpoint session checkpointId := by
  rw [findCheckpoint, findCheckpoint, same.checkpoints]

/-- A step of the turn leaves the reply control state alone, or completes the turn. -/
theorem turnStep_control {render : ContextBudget.Rendering} {session next : Session}
    {action : TurnAction} (taken : turnStep render session action = some next) :
    (SameControl session next ∧ next.turn.isSome) ∨
      (next.activeTurn = none ∧ next.turn = none) := by
  obtain ⟨turn, running, _⟩ := Option.bind_eq_some_iff.mp taken
  rcases turnStep_cases running taken with ⟨later, ratio, first, second, _, _, rfl⟩ | ⟨_, rest⟩
  · exact .inl ⟨⟨rfl, rfl, rfl⟩, rfl⟩
  · rcases rest with ⟨phase, _, rfl⟩ | ⟨inputs, planFails, rfl⟩ | ⟨phase, messages, _, rfl⟩ |
      ⟨messages, rfl⟩
    · exact .inl ⟨⟨rfl, rfl, rfl⟩, rfl⟩
    · exact .inl ⟨⟨rfl, rfl, rfl⟩, rfl⟩
    · exact .inl ⟨⟨rfl, rfl, rfl⟩, rfl⟩
    · exact .inr ⟨rfl, rfl⟩

/-- The newest checkpoint survives the cut of the list. -/
theorem createReplyCheckpoint_found (session : Session) (turnId : String) (historyLength : Nat) :
    (findCheckpoint (session.createReplyCheckpoint turnId historyLength)
      (some session.created)).isSome := by
  have short : session.checkpoints.length + 1 - 12 ≤ session.checkpoints.length := by omega
  simp only [findCheckpoint, Session.createReplyCheckpoint, List.length_append,
    List.length_singleton, List.drop_append_of_le_length short, List.reverse_append,
    List.reverse_singleton, List.singleton_append]
  simp

/-- A turn that begins is the active one, nothing is pending for it, and its checkpoint
can be found. -/
theorem openTurn_control (session : Session) (input : TurnInput) (inputInfo : Fields) :
    ∃ active, (openTurn session input inputInfo).activeTurn = some active ∧
      active.turnId = input.turnId ∧ (openTurn session input inputInfo).pendingCommand = none ∧
        (findCheckpoint (openTurn session input inputInfo) (some active.checkpointId)).isSome := by
  refine ⟨_, rfl, rfl, rfl, ?_⟩
  have same : (openTurn session input inputInfo).checkpoints =
      (session.createReplyCheckpoint input.turnId session.chatHistory.length).checkpoints := rfl
  rw [findCheckpoint, same]
  exact createReplyCheckpoint_found session input.turnId session.chatHistory.length

/-- While a turn is active a request is refused, answered at once, or noted with a
checkpoint that can be found. -/
theorem request_running {session : Session} {active : ActiveTurn} (request : ControlRequest)
    (running : session.activeTurn = some active) :
    ((requestReplyControl session request).2 ≠ .accepted ∧
        (requestReplyControl session request).1 = session) ∨
      ((requestReplyControl session request).2 = .accepted ∧
        (requestReplyControl session request).1.activeTurn = some active ∧
        (requestReplyControl session request).1.checkpoints = session.checkpoints ∧
        ∃ pending, (requestReplyControl session request).1.pendingCommand = some pending ∧
          request.action = some pending.action ∧
          (pending.checkpointId = active.checkpointId ∨
            (findCheckpoint session (some pending.checkpointId)).isSome)) := by
  unfold requestReplyControl
  rw [running]
  simp only
  split
  · exact .inl ⟨by simp, rfl⟩
  split
  · exact .inl ⟨by simp, rfl⟩
  cases asked : request.action with
  | none => exact .inl ⟨by simp, rfl⟩
  | some action =>
    cases action with
    | listCheckpoints => exact .inl ⟨by simp, rfl⟩
    | stop => exact .inr ⟨rfl, running, rfl, _, rfl, rfl, .inl rfl⟩
    | regenerate => exact .inr ⟨rfl, running, rfl, _, rfl, rfl, .inl rfl⟩
    | appendGuidance =>
      simp only
      split
      · exact .inl ⟨by simp, rfl⟩
      · exact .inr ⟨rfl, running, rfl, _, rfl, rfl, .inl rfl⟩
    | rollback =>
      simp only
      split
      · exact .inl ⟨by simp, rfl⟩
      · split
        · exact .inl ⟨by simp, rfl⟩
        · rename_i there
          exact .inr ⟨rfl, running, rfl, _, rfl, rfl, .inr (Option.isSome_iff_ne_none.mpr there)⟩

/-- Without an active turn nothing is noted. -/
theorem request_idle {session : Session} (request : ControlRequest)
    (idle : session.activeTurn = none) :
    (requestReplyControl session request).2 ≠ .accepted ∧
      (requestReplyControl session request).1.activeTurn = none := by
  unfold requestReplyControl restoreReplyCheckpoint
  rw [idle]
  simp only
  constructor
  · repeat' split
    all_goals simp
  · repeat' split
    all_goals first
      | exact idle
      | (rename_i restored
         obtain ⟨checkpoint, _, rfl⟩ := Option.map_eq_some_iff.mp restored
         rfl)

/-- The turn that fails is no longer active. -/
theorem markReplyTurnFailed_control {session : Session} {turnId : String} (transient : Bool)
    (owned : ∀ active, session.activeTurn = some active → active.turnId = turnId) :
    (markReplyTurnFailed (swept session transient) turnId).activeTurn = none := by
  have same : (swept session transient).activeTurn = session.activeTurn := by
    cases transient <;> rfl
  unfold markReplyTurnFailed activeOf
  rw [same]
  cases running : session.activeTurn with
  | none => exact same.trans running
  | some active =>
    have named : Option.filter (fun active => decide (active.turnId = turnId)) (some active) =
        some active := by simp [Option.filter, owned active running]
    rw [named]

/-- The finalisation of the active turn, with a command noted for it. -/
theorem finalize_control {session : Session} {active : ActiveTurn} {command : PendingCommand}
    (running : session.activeTurn = some active) (pending : session.pendingCommand = some command)
    (listed : (findCheckpoint session (some command.checkpointId)).isSome) :
    ∃ after, finalizeReplyControl session active.turnId = some after ∧ after.activeTurn = none := by
  obtain ⟨checkpoint, found⟩ := Option.isSome_iff_exists.mp listed
  simp only [finalizeReplyControl, activeOf, running, pending, Option.filter_some, decide_true,
    if_true, restoreReplyCheckpoint, found, Option.map_some]
  split
  · exact ⟨_, rfl, rfl⟩
  · exact ⟨_, rfl, rfl⟩

/-- Without an active turn the finalisation does nothing. -/
theorem finalize_idle {session : Session} (turnId : String) (idle : session.activeTurn = none) :
    finalizeReplyControl session turnId = some session := by
  simp [finalizeReplyControl, activeOf, idle]

/-! ## What the actor does with its handlers -/

/-- One handler of the actor changes. -/
structure Revised (actor next : Actor Payload) (index : Nat) (old new : Handler Payload) : Prop where
  there : actor.handlers[index]? = some old
  handlers : next.handlers = actor.handlers.set index new
  task : next.activeHandlerTask = actor.activeHandlerTask

theorem stepHandler_revises {actor next : Actor Payload} {index : Nat} {progress : Progress}
    (taken : SessionActor.stepHandler actor index progress = some next) :
    ∃ payload begun cancelling new,
      Revised actor next index ⟨payload, begun, .ready cancelling⟩ new ∧
        next.cancellers = actor.cancellers ∧
        ((cancelling = true ∧ begun = false ∧ new.phase = .done .cancelled) ∨
          (new.begun = true ∧ new.phase = progress.phase)) := by
  unfold SessionActor.stepHandler at taken
  split at taken
  · rename_i payload begun cancelling there
    split at taken
    · rename_i unbegun
      obtain rfl := Option.some.inj taken
      exact ⟨payload, begun, cancelling, _, ⟨there, rfl, rfl⟩, rfl,
        .inl ⟨unbegun.1, by simpa using unbegun.2, rfl⟩⟩
    · obtain rfl := Option.some.inj taken
      exact ⟨payload, begun, cancelling, _, ⟨there, rfl, rfl⟩, rfl, .inr ⟨rfl, rfl⟩⟩
  · cases taken

theorem wakeHandler_revises {actor next : Actor Payload} {index : Nat}
    (taken : SessionActor.wakeHandler actor index = some next) :
    ∃ payload begun, next.cancellers = actor.cancellers ∧
      Revised actor next index ⟨payload, begun, .waiting⟩ ⟨payload, begun, .ready false⟩ := by
  unfold SessionActor.wakeHandler at taken
  split at taken
  · rename_i payload begun there
    obtain rfl := Option.some.inj taken
    exact ⟨payload, begun, rfl, there, rfl, rfl⟩
  · cases taken

theorem submit_handlers (actor : Actor Payload) (payload : Payload) :
    (SessionActor.submit actor payload).handlers = actor.handlers ∧
      (SessionActor.submit actor payload).activeHandlerTask = actor.activeHandlerTask ∧
        (SessionActor.submit actor payload).cancellers = actor.cancellers := by
  simp only [SessionActor.submit, SessionActor.ensureStarted]
  split
  · exact ⟨rfl, rfl, rfl⟩
  · exact ⟨rfl, rfl, rfl⟩

/-- A loop takes the next payload, if there is one. -/
theorem getPayload_handlers (actor : Actor Payload) (index : Nat) :
    (SessionActor.getPayload actor index).cancellers = actor.cancellers ∧
      ((SessionActor.getPayload actor index).handlers = actor.handlers ∨
        ((SessionActor.getPayload actor index).activeHandlerTask = some actor.handlers.length ∧
          ∃ payload, (SessionActor.getPayload actor index).handlers =
            actor.handlers ++ [⟨payload, false, .ready false⟩])) := by
  unfold SessionActor.getPayload
  split
  · exact ⟨rfl, .inl rfl⟩
  · rename_i payload rest _
    exact ⟨rfl, .inr ⟨rfl, payload, rfl⟩⟩

/-- A loop steps only when no handler is open, and may start one. -/
theorem stepLoop_handlers {actor next : Actor Payload} {index : Nat} (held : Held actor)
    (taken : SessionActor.stepLoop actor index = some next) :
    (∀ (other : Nat) handler, actor.handlers[other]? = some handler → ¬ isOpen handler) ∧
      next.cancellers = actor.cancellers ∧
      (next.handlers = actor.handlers ∨
        (next.activeHandlerTask = some actor.handlers.length ∧
          ∃ payload, next.handlers = actor.handlers ++ [⟨payload, false, .ready false⟩])) := by
  unfold SessionActor.stepLoop at taken
  split at taken
  · rename_i found
    obtain rfl := Option.some.inj taken
    exact ⟨fun other handler => held.closed found (by simp) (fun _ waits => by cases waits),
      getPayload_handlers actor index⟩
  · rename_i found
    obtain rfl := Option.some.inj taken
    exact ⟨fun other handler => held.closed found (by simp) (fun _ waits => by cases waits),
      getPayload_handlers actor index⟩
  · rename_i waitedFor found
    obtain ⟨outcome, finished, collected⟩ := Option.map_eq_some_iff.mp taken
    refine ⟨fun other handler => held.closed found (by simp) ?_, ?_⟩
    · intro handler same
      obtain rfl := SessionActor.Loop.awaiting.inj same
      exact ⟨outcome, finished⟩
    · simp only at collected
      split at collected
      · subst collected
        exact ⟨rfl, .inl rfl⟩
      · subst collected
        exact getPayload_handlers _ index
  · cases taken

/-! ## What holds between the actor and the brain -/

/-- The command waits in `cancel_current` for these handlers. -/
def awaited : Option Command → List Nat
  | some ⟨_, _, _, _, .cancelling handler, _⟩ => [handler]
  | _ => []

/-- What holds of the turns: the handler that has not ended is the one in
`_active_handler_task`, it answers exactly while its turn is the active one, and the
checkpoints of the turn and its command can be found. -/
structure Turns (service : Service Payload) : Prop where
  held : Held service.actor
  running : ∀ (index : Nat) handler, service.actor.handlers[index]? = some handler →
    isOpen handler → service.actor.activeHandlerTask = some index
  answering : ∀ (index : Nat) handler, service.actor.handlers[index]? = some handler →
    isOpen handler → service.place = .answering → handler.begun = true ∧
      ∃ active, service.session.activeTurn = some active ∧ active.turnId = turnIdOf index
  active : ∀ active, service.session.activeTurn = some active → service.place = .answering ∧
    ∃ (index : Nat) (handler : Handler Payload), service.actor.handlers[index]? = some handler ∧
      isOpen handler
  listed : ∀ active, service.session.activeTurn = some active →
    (findCheckpoint service.session (some active.checkpointId)).isSome ∧
      ∀ pending, service.session.pendingCommand = some pending →
        (findCheckpoint service.session (some pending.checkpointId)).isSome

/-- What holds of the command: it was accepted for a turn that has begun, it is noted
as long as that turn is active, and the error it throws either is still to arrive or
has led to the completion of the command. -/
structure Commands (service : Service Payload) : Prop where
  past : ∀ command, service.command = some command → ∃ index : Nat,
    command.acceptedFor = turnIdOf index ∧ index < service.actor.handlers.length ∧
      ∀ handler, service.actor.handlers[index]? = some handler → isOpen handler →
        service.place ≠ .opening
  noted : ∀ command active, service.command = some command →
    service.session.activeTurn = some active → active.turnId = command.acceptedFor →
      ∃ pending, service.session.pendingCommand = some pending ∧
        pending.action = command.action ∧ service.pendingRequestId = command.requestId
  unstruck : ∀ command, service.command = some command → command.stage = .emitting →
    command.struck = none
  thrown : ∀ (index : Nat) handler, service.actor.handlers[index]? = some handler →
    handler.phase = .ready true → ∃ command, service.command = some command ∧
      command.stage = .cancelling index ∧ command.struck = some (turnIdOf index, service.place)
  arrived : ∀ command index, service.command = some command →
    command.stage = .cancelling index → command.struck.isSome →
      (∃ handler, service.actor.handlers[index]? = some handler ∧ handler.phase = .ready true) ∨
        service.lastCompletedCommand = some (command.action, command.requestId)
  cancellers : service.actor.cancellers = awaited service.command

/-- All of it. -/
structure Kept (service : Service Payload) : Prop where
  turns : Turns service
  commands : Commands service
  respects : Respects service

theorem start_kept (sysPrompt : String) : Kept (start sysPrompt : Service Payload) where
  turns := {
    held := SessionActor.start_held
    running := fun _ _ found => by simp [start, SessionActor.start] at found
    answering := fun _ _ found => by simp [start, SessionActor.start] at found
    active := fun _ running => by cases running
    listed := fun _ running => by cases running }
  commands := {
    past := fun _ there => by cases there
    noted := fun _ _ there => by cases there
    unstruck := fun _ there => by cases there
    thrown := fun _ _ found => by simp [start, SessionActor.start] at found
    arrived := fun _ _ there => by cases there
    cancellers := rfl }
  respects := {
    own := fun _ _ _ there => by cases there
    recorded := fun _ there => by cases there }

theorem turnIdOf_injective : Function.Injective turnIdOf := by
  intro first second same
  have lengths := congrArg List.length (String.ofList_injective same)
  simpa using lengths

/-- Where one handler changes, the open handlers are that one. -/
theorem Revised.open_only {actor next : Actor Payload} {index : Nat} {old new : Handler Payload}
    (revised : Revised actor next index old new) (going : isOpen old)
    (running : ∀ (index : Nat) handler, actor.handlers[index]? = some handler → isOpen handler →
      actor.activeHandlerTask = some index)
    {other : Nat} {handler : Handler Payload} (found : next.handlers[other]? = some handler)
    (alive : isOpen handler) : other = index ∧ handler = new := by
  have inside := (List.getElem?_eq_some_iff.mp revised.there).1
  rw [revised.handlers] at found
  by_cases same : other = index
  · subst same
    rw [List.getElem?_set_self inside] at found
    exact ⟨rfl, (Option.some.inj found).symm⟩
  · rw [List.getElem?_set_ne (Ne.symm same)] at found
    have one := running other handler found alive
    have two := running index old revised.there going
    rw [one] at two
    exact absurd (Option.some.inj two) same

/-! ## Steps of the actor -/

theorem submit_kept {service : Service Payload} (kept : Kept service) (payload : Payload) :
    Kept { service with actor := SessionActor.submit service.actor payload } := by
  obtain ⟨turns, commands, respects⟩ := kept
  obtain ⟨handlers, task, cancellers⟩ := submit_handlers service.actor payload
  refine ⟨⟨SessionActor.submit_held turns.held payload, ?_, ?_, ?_, turns.listed⟩,
    ⟨?_, commands.noted, commands.unstruck, ?_, ?_, ?_⟩, ⟨respects.own, respects.recorded⟩⟩
  · simpa only [handlers, task] using turns.running
  · simpa only [handlers] using turns.answering
  · simpa only [handlers] using turns.active
  · simpa only [handlers] using commands.past
  · simpa only [handlers] using commands.thrown
  · simpa only [handlers] using commands.arrived
  · simpa only [cancellers] using commands.cancellers

/-- While no handler is open no turn is active. -/
theorem Turns.idle {service : Service Payload} (turns : Turns service)
    (closed : ∀ (index : Nat) handler, service.actor.handlers[index]? = some handler →
      ¬ isOpen handler) : service.session.activeTurn = none := by
  cases running : service.session.activeTurn with
  | none => rfl
  | some active =>
    obtain ⟨_, index, handler, there, going⟩ := turns.active active running
    exact absurd going (closed index handler there)

/-- A handler into which an error is to be thrown is open. -/
theorem isOpen_of_ready {handler : Handler Payload} {cancelling : Bool}
    (ready : handler.phase = .ready cancelling) : isOpen handler := by
  intro outcome finished
  rw [ready] at finished
  cases finished

theorem loop_kept {service : Service Payload} {index : Nat} {next : Actor Payload}
    (kept : Kept service) (taken : SessionActor.stepLoop service.actor index = some next) :
    Kept { service with actor := next, place := .opening } := by
  obtain ⟨turns, commands, respects⟩ := kept
  obtain ⟨closed, cancellers, handlers⟩ := stepLoop_handlers turns.held taken
  have idle := turns.idle closed
  -- an open handler is the new one
  have newest : ∀ (other : Nat) handler, next.handlers[other]? = some handler → isOpen handler →
      other = service.actor.handlers.length ∧ next.activeHandlerTask = some other ∧
        handler.phase = .ready false := by
    intro other handler found going
    rcases handlers with same | ⟨task, payload, added⟩
    · rw [same] at found
      exact absurd going (closed other handler found)
    · rw [added] at found
      rcases Nat.lt_or_ge other service.actor.handlers.length with before | behind
      · rw [List.getElem?_append_left before] at found
        exact absurd going (closed other handler found)
      · rw [List.getElem?_append_right behind] at found
        obtain ⟨bound, rfl⟩ := List.getElem?_eq_some_iff.mp found
        have last : other = service.actor.handlers.length := by
          simp only [List.length_singleton] at bound
          omega
        subst last
        exact ⟨rfl, task, by simp⟩
  refine ⟨⟨SessionActor.stepLoop_held turns.held taken, ?_, ?_, ?_, ?_⟩,
    ⟨?_, ?_, commands.unstruck, ?_, ?_, ?_⟩, ⟨respects.own, respects.recorded⟩⟩
  · exact fun other handler found going => (newest other handler found going).2.1
  · exact fun _ _ _ _ impossible => by cases impossible
  · exact fun active running => by rw [idle] at running; cases running
  · exact fun active running => by rw [idle] at running; cases running
  · intro command there
    obtain ⟨turn, accepted, begun, _⟩ := commands.past command there
    refine ⟨turn, accepted, ?_, fun handler found going => ?_⟩
    · rcases handlers with same | ⟨_, payload, added⟩
      · exact same ▸ begun
      · simp only [added, List.length_append]
        omega
    · have := (newest turn handler found going).1
      omega
  · exact fun command active _ running => by rw [idle] at running; cases running
  · intro other handler found ready
    have fresh := (newest other handler found (isOpen_of_ready ready)).2.2
    rw [ready] at fresh
    cases fresh
  · intro command other there stage struck
    rcases commands.arrived command other there stage struck with ⟨handler, found, ready⟩ | recorded
    · exact absurd (isOpen_of_ready ready) (closed other handler found)
    · exact .inr recorded
  · exact cancellers.trans commands.cancellers

/-! ## Steps of a handler -/

/-- A step of a handler keeps everything, if what it does to the session fits the place
it leads to, and the error thrown into it completes the command. -/
theorem revised_kept {service : Service Payload} {next : Actor Payload} {index : Nat}
    {old new : Handler Payload} {session : Session} {place : Place}
    {completed : Option (ControlAction × String)} (kept : Kept service)
    (revised : Revised service.actor next index old new) (going : isOpen old) (held : Held next)
    (cancellers : next.cancellers = service.actor.cancellers) (calm : new.phase ≠ .ready true)
    (answering : isOpen new → place = .answering → new.begun = true ∧
      ∃ active, session.activeTurn = some active ∧ active.turnId = turnIdOf index)
    (active : ∀ active, session.activeTurn = some active → place = .answering ∧ isOpen new)
    (listed : ∀ active, session.activeTurn = some active →
      (findCheckpoint session (some active.checkpointId)).isSome ∧
        ∀ pending, session.pendingCommand = some pending →
          (findCheckpoint session (some pending.checkpointId)).isSome)
    (moves : place ≠ .opening ∨ place = service.place)
    (noted : ∀ command active, service.command = some command →
      session.activeTurn = some active → active.turnId = command.acceptedFor →
        ∃ pending, session.pendingCommand = some pending ∧ pending.action = command.action ∧
          service.pendingRequestId = command.requestId)
    (arrives : old.phase = .ready true → ∀ command, service.command = some command →
      completed = some (command.action, command.requestId))
    (leaves : old.phase ≠ .ready true → completed = service.lastCompletedCommand) :
    Kept { service with
      actor := next, session := session, place := place, lastCompletedCommand := completed } := by
  obtain ⟨turns, commands, respects⟩ := kept
  have only : ∀ {other : Nat} {handler : Handler Payload}, next.handlers[other]? = some handler →
      isOpen handler → other = index ∧ handler = new :=
    fun found alive => revised.open_only going turns.running found alive
  have inside := (List.getElem?_eq_some_iff.mp revised.there).1
  refine ⟨⟨held, ?_, ?_, ?_, listed⟩, ⟨?_, noted, commands.unstruck, ?_, ?_, ?_⟩,
    ⟨respects.own, ?_⟩⟩
  · intro other handler found alive
    obtain ⟨rfl, rfl⟩ := only found alive
    exact revised.task.trans (turns.running other old revised.there going)
  · intro other handler found alive stands
    obtain ⟨rfl, rfl⟩ := only found alive
    exact answering alive stands
  · intro turn running
    obtain ⟨stands, alive⟩ := active turn running
    refine ⟨stands, index, new, ?_, alive⟩
    simp only [revised.handlers]
    exact List.getElem?_set_self inside
  · intro command there
    obtain ⟨turn, accepted, begun, open_⟩ := commands.past command there
    refine ⟨turn, accepted, ?_, fun handler found alive => ?_⟩
    · simp only [revised.handlers, List.length_set]
      exact begun
    · obtain ⟨rfl, rfl⟩ := only found alive
      rcases moves with moved | stays
      · exact moved
      · simp only [stays]
        exact open_ old revised.there going
  · intro other handler found ready
    obtain ⟨rfl, rfl⟩ := only found (isOpen_of_ready ready)
    exact absurd ready calm
  · intro command other there stage struck
    by_cases ready : old.phase = .ready true
    · exact .inr (arrives ready command there)
    · refine .inr ((leaves ready).trans ?_)
      rcases commands.arrived command other there stage struck with ⟨handler, found, also⟩ | recorded
      · have one := turns.running other handler found (isOpen_of_ready also)
        have two := turns.running index old revised.there going
        rw [one] at two
        obtain rfl := Option.some.inj two
        rw [revised.there] at found
        obtain rfl := Option.some.inj found
        exact absurd also ready
      · exact recorded
  · exact cancellers.trans commands.cancellers
  · intro command there finished struck
    by_cases ready : old.phase = .ready true
    · exact arrives ready command there
    · exact (leaves ready).trans (respects.recorded command there finished struck)

theorem wake_kept {service : Service Payload} {index : Nat} {next : Actor Payload}
    (kept : Kept service) (taken : SessionActor.wakeHandler service.actor index = some next) :
    Kept { service with actor := next } := by
  obtain ⟨payload, begun, cancellers, revised⟩ := wakeHandler_revises taken
  have going := SessionActor.isOpen_waiting payload begun
  have turns := kept.turns
  refine revised_kept kept revised going (SessionActor.wakeHandler_held turns.held taken)
    cancellers (by simp) ?_ ?_ turns.listed (.inr rfl) kept.commands.noted ?_ (fun _ => rfl)
  · intro _ stands
    exact turns.answering index ⟨payload, begun, .waiting⟩ revised.there going stands
  · exact fun active running =>
      ⟨(turns.active active running).1, SessionActor.isOpen_ready payload begun false⟩
  · intro ready
    cases ready

/-- What a piece of work does to the reply control state. -/
theorem worked_control {render : ContextBudget.Rendering} {session next : Session}
    {place later : Place} {handler : Nat} {work : Work}
    (owned : ∀ active, session.activeTurn = some active → active.turnId = turnIdOf handler)
    (taken : worked render session place handler work = some (next, later)) :
    (SameControl session next ∧ later = place) ∨
      (place = .opening ∧ later = .answering ∧
        ∃ active, next.activeTurn = some active ∧ active.turnId = turnIdOf handler ∧
          next.pendingCommand = none ∧
            (findCheckpoint next (some active.checkpointId)).isSome) ∨
      (next.activeTurn = none ∧ (later = .delivering ∨ later = .closing)) := by
  cases work with
  | goesOn =>
    obtain ⟨rfl, rfl⟩ := Prod.mk.inj (Option.some.inj taken)
    exact .inl ⟨⟨rfl, rfl, rfl⟩, rfl⟩
  | begins input =>
    obtain ⟨opening, made⟩ := Option.ite_none_right_eq_some.mp taken
    obtain ⟨rfl, rfl⟩ := Prod.mk.inj (Option.some.inj made)
    exact .inr (.inl ⟨opening.1, rfl, openTurn_control _ _ _⟩)
  | turns action =>
    obtain ⟨answering, made⟩ := Option.ite_none_right_eq_some.mp taken
    obtain ⟨after, stepped, same⟩ := Option.map_eq_some_iff.mp made
    obtain ⟨rfl, rfl⟩ := Prod.mk.inj same
    rcases turnStep_control stepped with ⟨unchanged, goesOn⟩ | ⟨inactive, ended⟩
    · have still : after.turn ≠ none := Option.isSome_iff_ne_none.mp goesOn
      exact .inl ⟨unchanged, by simp [still, answering]⟩
    · exact .inr (.inr ⟨inactive, .inl (by simp [ended])⟩)
  | fails transient =>
    obtain ⟨_, made⟩ := Option.ite_none_right_eq_some.mp taken
    obtain ⟨rfl, rfl⟩ := Prod.mk.inj (Option.some.inj made)
    exact .inr (.inr ⟨markReplyTurnFailed_control transient owned, .inr rfl⟩)

/-- The turn of an open handler is the active one, if any is. -/
theorem Turns.owned {service : Service Payload} (turns : Turns service) {index : Nat}
    {handler : Handler Payload} (there : service.actor.handlers[index]? = some handler)
    (going : isOpen handler) (active : ActiveTurn)
    (running : service.session.activeTurn = some active) : active.turnId = turnIdOf index := by
  obtain ⟨_, other, same, named⟩ :=
    turns.answering index handler there going (turns.active active running).1
  rw [running] at same
  exact Option.some.inj same ▸ named

/-- A handler that leaves its place by its own code stays outside the turn it has
left, and stays open in it. -/
theorem Leaves.open_of_answering {progress : Progress} (leaves : Leaves .answering progress)
    (new : Handler Payload) (phase : new.phase = progress.phase) : isOpen new := by
  intro outcome finished
  rw [phase] at finished
  cases progress with
  | suspends => cases finished
  | yields => cases finished
  | ends result => cases result with
    | finished => exact leaves rfl
    | raised => cases leaves
    | cancelled => exact leaves

theorem progress_calm (progress : Progress) : progress.phase ≠ .ready true := by
  cases progress <;> simp [Progress.phase]

theorem work_kept {render : ContextBudget.Rendering} {service next : Service Payload}
    {handler : Nat} {work : Work} {progress : Progress} (kept : Kept service)
    (taken : workStep render service handler work progress = some next) : Kept next := by
  unfold workStep at taken
  split at taken
  · rename_i ready
    obtain ⟨⟨session, place⟩, did, rest⟩ := Option.bind_eq_some_iff.mp taken
    obtain ⟨leaves, stepped⟩ := Option.ite_none_right_eq_some.mp rest
    obtain ⟨actor, moved, rfl⟩ := Option.map_eq_some_iff.mp stepped
    obtain ⟨payload, begun, cancelling, new, revised, cancellers, change⟩ :=
      stepHandler_revises moved
    rw [revised.there] at ready
    obtain rfl := HandlerPhase.ready.inj (Option.some.inj ready)
    obtain ⟨entered, phase⟩ : new.begun = true ∧ new.phase = progress.phase := by
      rcases change with ⟨impossible, _⟩ | change
      · cases impossible
      · exact change
    have turns := kept.turns
    have going := SessionActor.isOpen_ready payload begun false
    have held := SessionActor.stepHandler_held turns.held moved
    have calm : new.phase ≠ .ready true := phase ▸ progress_calm progress
    have open_ : place = .answering → isOpen new :=
      fun stands => (stands ▸ leaves : Leaves .answering progress).open_of_answering new phase
    have owned := turns.owned revised.there going
    rcases worked_control owned did with ⟨same, rfl⟩ |
      ⟨opening, rfl, active, running, named, unpending, found⟩ | ⟨inactive, elsewhere⟩
    · -- the reply control state is untouched
      refine revised_kept kept revised going held cancellers calm ?_ ?_ ?_ (.inr rfl) ?_ (by simp)
        (fun _ => rfl)
      · intro _ stands
        obtain ⟨_, active, running, named⟩ := turns.answering handler _ revised.there going stands
        exact ⟨entered, active, same.active.trans running, named⟩
      · intro active running
        have stands := (turns.active active (same.active.symm.trans running)).1
        exact ⟨stands, open_ stands⟩
      · intro active running
        simp only [same.find, same.pending]
        exact turns.listed active (same.active.symm.trans running)
      · intro command active there running accepted
        simp only [same.pending]
        exact kept.commands.noted command active there (same.active.symm.trans running) accepted
    · -- the turn begins; the command was accepted for another one
      refine revised_kept kept revised going held cancellers calm ?_ ?_ ?_ (.inl (by simp)) ?_
        (by simp) (fun _ => rfl)
      · exact fun _ _ => ⟨entered, active, running, named⟩
      · exact fun _ _ => ⟨rfl, open_ rfl⟩
      · intro other also
        rw [running] at also
        obtain rfl := Option.some.inj also
        exact ⟨found, fun pending noted => by rw [unpending] at noted; cases noted⟩
      · intro command other there also accepted
        rw [running] at also
        obtain rfl := Option.some.inj also
        obtain ⟨turn, earlier, _, begunEarlier⟩ := kept.commands.past command there
        obtain rfl := turnIdOf_injective (named.symm.trans (accepted.trans earlier))
        exact absurd opening (begunEarlier _ revised.there going)
    · -- the turn is over
      have outside : place ≠ .opening ∧ place ≠ .answering := by
        rcases elsewhere with rfl | rfl
        · exact ⟨by simp, by simp⟩
        · exact ⟨by simp, by simp⟩
      refine revised_kept kept revised going held cancellers calm ?_ ?_ ?_ (.inl outside.1) ?_
        (by simp) (fun _ => rfl)
      · exact fun _ stands => absurd stands outside.2
      · exact fun active running => by rw [inactive] at running; cases running
      · exact fun active running => by rw [inactive] at running; cases running
      · exact fun command active _ running => by rw [inactive] at running; cases running
  · cases taken

/-- The error finds the turn of the command active, with the command noted for it, so
the finalisation completes the command. -/
theorem thrown_kept {service next : Service Payload} {handler : Nat} {progress : Progress}
    (kept : Kept service) (taken : thrownStep service handler progress = some next) :
    Kept next := by
  unfold thrownStep at taken
  split at taken
  · rename_i payload begun there
    have turns := kept.turns
    have going := SessionActor.isOpen_ready payload begun true
    obtain ⟨command, inForce, _, struck⟩ := kept.commands.thrown handler _ there rfl
    obtain ⟨accepted, stands⟩ := kept.respects.own command _ _ inForce struck
    obtain ⟨entered, active, running, named⟩ := turns.answering handler _ there going stands
    obtain rfl : begun = true := entered
    obtain ⟨pending, noted, action, requestId⟩ :=
      kept.commands.noted command active inForce running (named.trans accepted)
    have listed : (findCheckpoint (ended service.session) (some pending.checkpointId)).isSome :=
      (turns.listed active running).2 pending noted
    obtain ⟨session, finalized, inactive⟩ :=
      @finalize_control (ended service.session) active pending running noted listed
    have completed : completedCommand service (turnIdOf handler) =
        some (command.action, command.requestId) := by
      have found : activeOf service.session (turnIdOf handler) = some active := by
        simp [activeOf, running, named]
      simp [completedCommand, found, noted, action, requestId]
    rw [named] at finalized
    simp only [stands, reduceCtorEq, if_false, Bool.not_true, Bool.false_eq_true, interrupted,
      finalized, Option.bind_eq_some_iff] at taken
    obtain ⟨after, left, stepped⟩ := taken
    obtain ⟨_, same⟩ := Option.ite_none_right_eq_some.mp left
    obtain rfl := Option.some.inj same
    obtain ⟨actor, moved, rfl⟩ := Option.map_eq_some_iff.mp stepped
    obtain ⟨_, _, _, new, revised, cancellers, change⟩ := stepHandler_revises moved
    cases there.symm.trans revised.there
    have calm : new.phase ≠ .ready true := by
      rcases change with ⟨_, _, phase⟩ | ⟨_, phase⟩
      · rw [phase]
        simp
      · rw [phase]
        exact progress_calm progress
    refine @revised_kept Payload service actor handler _ new session .closing _ kept revised going
      (SessionActor.stepHandler_held turns.held moved) cancellers calm ?_ ?_ ?_ (.inl (by simp))
      ?_ ?_ (fun quiet => absurd rfl quiet)
    · exact fun _ impossible => by cases impossible
    · exact fun other also => by rw [inactive] at also; cases also
    · exact fun other also => by rw [inactive] at also; cases also
    · exact fun _ other _ also => by rw [inactive] at also; cases also
    · intro _ other also
      rw [inForce] at also
      obtain rfl := Option.some.inj also
      exact completed
  · cases taken

/-! ## Steps of the handling -/

/-- Without a command in flight no error is on its way. -/
theorem Commands.quiet {service : Service Payload} (commands : Commands service)
    (resting : ∀ command, service.command = some command → command.stage = .concluded) (index : Nat)
    (handler : Handler Payload) (found : service.actor.handlers[index]? = some handler) :
    handler.phase ≠ .ready true := by
  intro ready
  obtain ⟨command, there, stage, _⟩ := commands.thrown index handler found ready
  rw [resting command there] at stage
  cases stage

/-- Without a command in flight nothing waits in `cancel_current`. -/
theorem awaited_resting {service : Service Payload}
    (resting : ∀ command, service.command = some command → command.stage = .concluded) :
    awaited service.command = [] := by
  cases there : service.command with
  | none => rfl
  | some command =>
    have stage := resting command there
    obtain ⟨_, _, _, _, _, _⟩ := command
    subst stage
    rfl

/-- What a request does: it is answered, or accepted for the active turn. -/
theorem requested_cases (service : Service Payload) (requestId snapshotTurnId : String)
    (request : ControlRequest) :
    (∃ session completed, (session = service.session ∨
        (service.session.activeTurn = none ∧ session.activeTurn = none)) ∧
      requested service requestId snapshotTurnId request = { service with
        session := session, lastCompletedCommand := completed, command := none }) ∨
    (∃ active pending session named, service.session.activeTurn = some active ∧
      session.activeTurn = some active ∧ session.checkpoints = service.session.checkpoints ∧
      session.pendingCommand = some pending ∧ (pending.checkpointId = active.checkpointId ∨
        (findCheckpoint service.session (some pending.checkpointId)).isSome) ∧
      requested service requestId snapshotTurnId request = { service with
        session := session
        pendingRequestId := requestId
        command := some ⟨requestId, pending.action, active.turnId, named, .emitting, none⟩ }) := by
  -- an answer at once leaves no command
  have answered : (requestReplyControl service.session request).2 ≠ .accepted →
      ∃ completed, requested service requestId snapshotTurnId request = { service with
        session := (requestReplyControl service.session request).1
        lastCompletedCommand := completed, command := none } := by
    intro unaccepted
    unfold requested
    dsimp only
    split
    · rename_i accepted _ _
      exact absurd accepted unaccepted
    · exact ⟨_, rfl⟩
    · exact ⟨_, rfl⟩
  cases running : service.session.activeTurn with
  | none =>
    obtain ⟨unaccepted, idle⟩ := request_idle request running
    obtain ⟨completed, made⟩ := answered unaccepted
    exact .inl ⟨_, completed, .inr ⟨rfl, idle⟩, made⟩
  | some active =>
    rcases request_running request running with ⟨unaccepted, same⟩ |
      ⟨accepted, still, checkpoints, pending, noted, action, found⟩
    · obtain ⟨completed, made⟩ := answered unaccepted
      exact .inl ⟨_, completed, .inl same, made⟩
    · refine .inr ⟨active, pending, (requestReplyControl service.session request).1,
        if request.turnId = "" then snapshotTurnId else request.turnId,
        rfl, still, checkpoints, noted, found, ?_⟩
      unfold requested
      dsimp only
      rw [accepted, action, running]

theorem request_kept {service : Service Payload} (kept : Kept service)
    (requestId snapshotTurnId : String) (request : ControlRequest)
    (resting : ∀ command, service.command = some command → command.stage = .concluded) :
    Kept (requested service requestId snapshotTurnId request) := by
  obtain ⟨turns, commands, respects⟩ := kept
  have quiet := commands.quiet resting
  have unawaited := commands.cancellers.trans (awaited_resting resting)
  rcases requested_cases service requestId snapshotTurnId request with
    ⟨session, completed, same, made⟩ |
    ⟨active, pending, session, named, running, still, checkpoints, noted, found, made⟩
  · rw [made]
    have none_ : ∀ command : Command, (none : Option Command) ≠ some command :=
      fun _ there => by cases there
    refine ⟨⟨turns.held, turns.running, ?_, ?_, ?_⟩,
      ⟨fun command there => absurd there (none_ command),
        fun command _ there => absurd there (none_ command),
        fun command there => absurd there (none_ command), ?_,
        fun command _ there => absurd there (none_ command), unawaited⟩,
      ⟨fun command _ _ there => absurd there (none_ command),
        fun command there => absurd there (none_ command)⟩⟩
    · intro index handler there going stands
      rcases same with rfl | ⟨idle, _⟩
      · exact turns.answering index handler there going stands
      · obtain ⟨_, other, also, _⟩ := turns.answering index handler there going stands
        rw [idle] at also
        cases also
    · intro other also
      rcases same with rfl | ⟨_, idle⟩
      · exact turns.active other also
      · exact absurd also (by simp [idle])
    · intro other also
      rcases same with rfl | ⟨_, idle⟩
      · exact turns.listed other also
      · exact absurd also (by simp [idle])
    · exact fun index handler there ready => absurd ready (quiet index handler there)
  · rw [made]
    obtain ⟨stands, index, handler, there, going⟩ := turns.active active running
    have find : ∀ checkpointId,
        findCheckpoint session checkpointId = findCheckpoint service.session checkpointId := by
      intro checkpointId
      rw [findCheckpoint, findCheckpoint, checkpoints]
    refine ⟨⟨turns.held, turns.running, ?_, ?_, ?_⟩, ⟨?_, ?_, ?_, ?_, ?_, unawaited⟩, ⟨?_, ?_⟩⟩
    · intro other beside place alive answers
      obtain ⟨entered, also, activeNow, turn⟩ := turns.answering other beside place alive answers
      exact ⟨entered, also, still.trans (running.symm.trans activeNow), turn⟩
    · intro other also
      exact turns.active other (running.trans (still.symm.trans also))
    · intro other also
      obtain rfl := Option.some.inj (still.symm.trans also)
      obtain ⟨own, _⟩ := turns.listed active running
      refine ⟨(find _).symm ▸ own, fun command noticed => ?_⟩
      obtain rfl := Option.some.inj (noted.symm.trans noticed)
      rcases found with mine | listed
      · simp only [find, mine]
        exact own
      · simp only [find]
        exact listed
    · intro command accepted
      obtain rfl := Option.some.inj accepted
      refine ⟨index, turns.owned there going active running,
        (List.getElem?_eq_some_iff.mp there).1, fun _ _ _ => ?_⟩
      simp [stands]
    · intro command other accepted also _
      obtain rfl := Option.some.inj accepted
      exact ⟨pending, noted, rfl, rfl⟩
    · intro command accepted _
      obtain rfl := Option.some.inj accepted
      rfl
    · exact fun index handler there ready => absurd ready (quiet index handler there)
    · intro command other accepted stage
      obtain rfl := Option.some.inj accepted
      cases stage
    · intro command _ _ accepted struck
      obtain rfl := Option.some.inj accepted
      cases struck
    · intro command accepted finished
      obtain rfl := Option.some.inj accepted
      cases finished

/-- A command whose emission raises has struck nothing. -/
theorem raise_kept {service : Service Payload} {command : Command} (kept : Kept service)
    (there : service.command = some command) (emitting : command.stage = .emitting) :
    Kept { service with command := some { command with stage := .concluded } } := by
  obtain ⟨turns, commands, respects⟩ := kept
  have unstruck := commands.unstruck command there emitting
  refine ⟨⟨turns.held, turns.running, turns.answering, turns.active, turns.listed⟩,
    ⟨?_, ?_, ?_, ?_, ?_, ?_⟩, ⟨?_, ?_⟩⟩
  · rintro _ ⟨⟩
    exact commands.past command there
  · rintro _ active ⟨⟩ running accepted
    exact commands.noted command active there running accepted
  · rintro _ ⟨⟩ stage
    cases stage
  · intro index handler found ready
    obtain ⟨other, also, stage, _⟩ := commands.thrown index handler found ready
    rw [there] at also
    obtain rfl := Option.some.inj also
    rw [emitting] at stage
    cases stage
  · rintro _ index ⟨⟩ stage
    cases stage
  · rw [commands.cancellers, there]
    obtain ⟨_, _, _, _, _, _⟩ := command
    subst emitting
    rfl
  · rintro _ turn place ⟨⟩ struck
    exact respects.own command turn place there struck
  · rintro _ ⟨⟩ _ struck
    simp [unstruck] at struck

/-- A command waits for the handler it cancels, and for no other. -/
theorem awaited_first {command : Command} {handler : Nat}
    (waits : (awaited (some command))[0]? = some handler) :
    command.stage = .cancelling handler ∧ awaited (some command) = [handler] := by
  obtain ⟨_, _, _, _, stage, _⟩ := command
  cases stage with
  | emitting => cases waits
  | concluded => cases waits
  | cancelling index =>
    obtain rfl : index = handler := Option.some.inj waits
    exact ⟨rfl, rfl⟩

/-- A command whose events are emitted waits for nothing. -/
theorem awaited_emitting {command : Command} (emitting : command.stage = .emitting) :
    awaited (some command) = [] := by
  obtain ⟨_, _, _, _, stage, _⟩ := command
  obtain rfl : stage = .emitting := emitting
  rfl

/-- A handler into which an error is to be thrown has no outcome. -/
theorem outcome_none {actor : Actor Payload} {index : Nat} {handler : Handler Payload}
    (found : actor.handlers[index]? = some handler) (ready : handler.phase = .ready true) :
    ¬ (outcomeOf actor index).isSome := by
  obtain ⟨payload, begun, phase⟩ := handler
  obtain rfl : phase = .ready true := ready
  simp [outcomeOf, found]

/-- The wait for a cancelled handler ends when the handler has: the error has arrived. -/
theorem returns_kept {service : Service Payload} {command : Command} {next : Actor Payload}
    (kept : Kept service) (there : service.command = some command)
    (taken : SessionActor.returnCanceller service.actor 0 = some next) :
    Kept { service with actor := next, command := some { command with stage := .concluded } } := by
  obtain ⟨turns, commands, respects⟩ := kept
  obtain ⟨handler, waits, returned⟩ := Option.bind_eq_some_iff.mp taken
  obtain ⟨ended, made⟩ := Option.ite_none_right_eq_some.mp returned
  obtain rfl := Option.some.inj made
  have held := SessionActor.returnCanceller_held turns.held taken
  -- the handler waited for is the one the command cancels
  have list := commands.cancellers
  rw [there] at list
  rw [list] at waits
  obtain ⟨stage, only⟩ := awaited_first waits
  refine ⟨⟨held, turns.running, turns.answering, turns.active, turns.listed⟩,
    ⟨?_, ?_, ?_, ?_, ?_, ?_⟩, ⟨?_, ?_⟩⟩
  · rintro _ ⟨⟩
    exact commands.past command there
  · rintro _ active ⟨⟩ running accepted
    exact commands.noted command active there running accepted
  · rintro _ ⟨⟩ emitting
    cases emitting
  · intro other found open_ ready
    obtain ⟨also, same, cancels, _⟩ := commands.thrown other found open_ ready
    rw [there] at same
    obtain rfl := Option.some.inj same
    obtain rfl := Stage.cancelling.inj (stage.symm.trans cancels)
    exact absurd ended (outcome_none open_ ready)
  · rintro _ other ⟨⟩ cancels
    cases cancels
  · have rest : service.actor.cancellers.eraseIdx 0 = [] := by
      rw [list, only]
      rfl
    exact rest
  · rintro _ turn place ⟨⟩ hit
    exact respects.own command turn place there hit
  · rintro _ ⟨⟩ _ hit
    rcases commands.arrived command handler there stage hit with ⟨found, open_, ready⟩ | recorded
    · exact absurd ended (outcome_none open_ ready)
    · exact recorded

/-- What `current` finds. -/
theorem current_found {actor : Actor Payload} {index : Nat} {phase : HandlerPhase}
    (found : current actor = some (index, phase)) : actor.activeHandlerTask = some index ∧
      ∃ payload begun, actor.handlers[index]? = some ⟨payload, begun, phase⟩ := by
  obtain ⟨task, active, rest⟩ := Option.bind_eq_some_iff.mp found
  obtain ⟨⟨payload, begun, stands⟩, there, same⟩ := Option.map_eq_some_iff.mp rest
  obtain ⟨rfl, rfl⟩ := Prod.mk.inj same
  exact ⟨active, payload, begun, there⟩

/-- Nothing to cancel: the turn the command was accepted for has ended, and nothing
happens to another one. -/
theorem cancelled_idle_kept {service : Service Payload} {command : Command} (kept : Kept service)
    (there : service.command = some command) (emitting : command.stage = .emitting)
    (closed : ∀ (index : Nat) handler, service.actor.handlers[index]? = some handler →
      ¬ isOpen handler) (delivered : Bool) :
    Kept (cancelled service command delivered) := by
  have idle := kept.turns.idle closed
  have unfound : activeOf service.session command.named = none := by simp [activeOf, idle]
  have made : cancelled service command delivered =
      { service with command := some { command with stage := .concluded, struck := none } } := by
    unfold cancelled
    split
    · simp [finalize_idle command.named idle, completedCommand, unfound]
    · simp [finalize_idle command.named idle, completedCommand, unfound]
    · rename_i index phase ended found
      obtain ⟨_, payload, begun, handler⟩ := current_found found
      exact absurd (fun outcome finished => ended outcome finished) (closed index _ handler)
  have unstruck := kept.commands.unstruck command there emitting
  rw [made]
  have raised := raise_kept kept there emitting
  rw [unstruck] at raised
  exact raised

/-- A cancellation of an open handler. -/
theorem cancelled_open {service : Service Payload} {index : Nat} {payload : Payload}
    {begun : Bool} {phase : HandlerPhase} (command : Command) (delivered : Bool)
    (task : service.actor.activeHandlerTask = some index)
    (there : service.actor.handlers[index]? = some ⟨payload, begun, phase⟩)
    (going : isOpen (⟨payload, begun, phase⟩ : Handler Payload)) :
    ∃ later, Revised service.actor (SessionActor.cancelCurrent service.actor delivered) index
        ⟨payload, begun, phase⟩ ⟨payload, begun, later⟩ ∧
      (SessionActor.cancelCurrent service.actor delivered).cancellers =
        service.actor.cancellers ++ [index] ∧
      isOpen (⟨payload, begun, later⟩ : Handler Payload) ∧
      (later = .ready true ↔ strikes service.actor delivered = some index) ∧
      (strikes service.actor delivered).isSome = (strikes service.actor delivered = some index) ∧
      cancelled service command delivered = { service with
        actor := SessionActor.cancelCurrent service.actor delivered
        command := some { command with
          stage := .cancelling index
          struck := (strikes service.actor delivered).map fun struck =>
            (turnIdOf struck, service.place) } } := by
  have found : current service.actor = some (index, phase) := by simp [current, task, there]
  cases phase with
  | done outcome => exact absurd rfl (going outcome)
  | ready cancelling =>
    refine ⟨.ready true, ⟨there, ?_, ?_⟩, ?_, SessionActor.isOpen_ready payload begun true,
      ?_, ?_, ?_⟩
    · simp [SessionActor.cancelCurrent, task, there]
    · simp [SessionActor.cancelCurrent, task, there]
    · simp [SessionActor.cancelCurrent, task, there]
    · simp [strikes, found]
    · simp [strikes, found]
    · simp [cancelled, found]
  | waiting =>
    refine ⟨if delivered then .ready true else .waiting, ⟨there, ?_, ?_⟩, ?_, ?_, ?_, ?_, ?_⟩
    · simp [SessionActor.cancelCurrent, task, there]
    · simp [SessionActor.cancelCurrent, task, there]
    · simp [SessionActor.cancelCurrent, task, there]
    · cases delivered
      · exact SessionActor.isOpen_waiting payload begun
      · exact SessionActor.isOpen_ready payload begun true
    · cases delivered <;> simp [strikes, found]
    · cases delivered <;> simp [strikes, found]
    · simp [cancelled, found]

/-- What a cancellation of an open handler keeps, whichever turn it hits. -/
theorem cancelled_open_kept {service : Service Payload} {command : Command} {index : Nat}
    {payload : Payload} {begun : Bool} {phase : HandlerPhase} (kept : Kept service)
    (inForce : service.command = some command) (emitting : command.stage = .emitting)
    (task : service.actor.activeHandlerTask = some index)
    (there : service.actor.handlers[index]? = some ⟨payload, begun, phase⟩)
    (going : isOpen (⟨payload, begun, phase⟩ : Handler Payload)) (delivered : Bool) :
    Turns (cancelled service command delivered) ∧ Commands (cancelled service command delivered) := by
  obtain ⟨turns, commands, _⟩ := kept
  obtain ⟨later, revised, cancellers, still, hit, struck, made⟩ :=
    cancelled_open command delivered task there going
  have inside := (List.getElem?_eq_some_iff.mp there).1
  have placed : (SessionActor.cancelCurrent service.actor delivered).handlers[index]? =
      some ⟨payload, begun, later⟩ := by
    rw [revised.handlers]
    exact List.getElem?_set_self inside
  rw [made]
  refine ⟨⟨SessionActor.cancelCurrent_held turns.held delivered, ?_, ?_, ?_, turns.listed⟩,
    ⟨?_, ?_, ?_, ?_, ?_, ?_⟩⟩
  · intro other handler found alive
    obtain ⟨rfl, _⟩ := revised.open_only going turns.running found alive
    exact revised.task.trans task
  · intro other handler found alive stands
    obtain ⟨rfl, rfl⟩ := revised.open_only going turns.running found alive
    exact turns.answering other ⟨payload, begun, phase⟩ there going stands
  · intro active running
    exact ⟨(turns.active active running).1, index, _, placed, still⟩
  · rintro _ ⟨⟩
    obtain ⟨turn, accepted, before, begunEarlier⟩ := commands.past command inForce
    refine ⟨turn, accepted, ?_, fun handler found alive => ?_⟩
    · simp only [revised.handlers, List.length_set]
      exact before
    · obtain ⟨rfl, rfl⟩ := revised.open_only going turns.running found alive
      exact begunEarlier _ there going
  · rintro _ active ⟨⟩ running accepted
    exact commands.noted command active inForce running accepted
  · rintro _ ⟨⟩ stage
    cases stage
  · intro other handler found ready
    obtain ⟨rfl, rfl⟩ := revised.open_only going turns.running found (isOpen_of_ready ready)
    refine ⟨_, rfl, rfl, ?_⟩
    simp [hit.mp ready]
  · rintro _ other ⟨⟩ stage reached
    obtain rfl := Stage.cancelling.inj stage
    simp only [Option.isSome_map, struck] at reached
    exact .inl ⟨_, placed, hit.mpr reached⟩
  · rw [cancellers, commands.cancellers, inForce, awaited_emitting emitting]
    rfl

/-- Such a cancellation respects the turns exactly if it swallows its error or finds the
turn of its command still active. -/
theorem cancelled_open_respects {service : Service Payload} {command : Command} {index : Nat}
    {payload : Payload} {begun : Bool} {phase : HandlerPhase} (kept : Kept service)
    (task : service.actor.activeHandlerTask = some index)
    (there : service.actor.handlers[index]? = some ⟨payload, begun, phase⟩)
    (going : isOpen (⟨payload, begun, phase⟩ : Handler Payload)) (delivered : Bool) :
    Respects (cancelled service command delivered) ↔
      ((strikes service.actor delivered).isSome →
        service.session.activeTurn.map ActiveTurn.turnId = some command.acceptedFor) := by
  have turns := kept.turns
  obtain ⟨later, _, _, _, _, struck, made⟩ := cancelled_open command delivered task there going
  rw [made]
  constructor
  · intro respects reached
    rw [struck] at reached
    obtain ⟨turn, stands⟩ := respects.own _ (turnIdOf index) service.place rfl (by simp [reached])
    obtain ⟨_, active, running, named⟩ := turns.answering index _ there going stands
    rw [running]
    exact congrArg some (named.trans turn)
  · intro finds
    refine ⟨?_, ?_⟩
    · rintro _ turn place ⟨⟩ reached
      obtain ⟨handler, strike, same⟩ := Option.map_eq_some_iff.mp reached
      obtain ⟨rfl, rfl⟩ := Prod.mk.inj same
      have some_ : (strikes service.actor delivered).isSome := by simp [strike]
      obtain ⟨active, running, accepted⟩ := Option.map_eq_some_iff.mp (finds some_)
      rw [struck] at some_
      obtain rfl := Option.some.inj (strike.symm.trans some_)
      exact ⟨(turns.owned there going active running).symm.trans accepted,
        (turns.active active running).1⟩
    · rintro _ ⟨⟩ finished
      cases finished

/-! ## Every run -/

/-- A command in flight is the command of the service. -/
theorem inFlight_some {service : Service Payload} {command : Command}
    (flying : inFlight service = some command) : service.command = some command :=
  (Option.filter_eq_some_iff.mp flying).1

/-- Without one in flight the command is over. -/
theorem inFlight_none {service : Service Payload} (resting : (inFlight service).isNone = true)
    (command : Command) (there : service.command = some command) : command.stage = .concluded := by
  by_contra flying
  simp [inFlight, there, flying] at resting

/-- The handler a cancellation finds, if there is an open one. -/
theorem Turns.open_or_closed {service : Service Payload} (turns : Turns service) :
    (∀ (index : Nat) handler, service.actor.handlers[index]? = some handler → ¬ isOpen handler) ∨
      ∃ (index : Nat) (payload : Payload) (begun : Bool) (phase : HandlerPhase),
        service.actor.activeHandlerTask = some index ∧
          service.actor.handlers[index]? = some ⟨payload, begun, phase⟩ ∧
            isOpen (⟨payload, begun, phase⟩ : Handler Payload) := by
  by_cases closed : ∀ (index : Nat) handler,
      service.actor.handlers[index]? = some handler → ¬ isOpen handler
  · exact .inl closed
  · simp only [Classical.not_forall, not_not] at closed
    obtain ⟨index, ⟨payload, begun, phase⟩, there, going⟩ := closed
    exact .inr ⟨index, payload, begun, phase, turns.running index _ there going, there, going⟩

/-- Without an open handler a cancellation throws nothing. -/
theorem strikes_closed {actor : Actor Payload} (delivered : Bool)
    (closed : ∀ (index : Nat) handler, actor.handlers[index]? = some handler → ¬ isOpen handler) :
    strikes actor delivered = none := by
  unfold strikes
  split
  · rename_i index cancelling found
    obtain ⟨_, payload, begun, there⟩ := current_found found
    exact absurd (SessionActor.isOpen_ready payload begun cancelling) (closed index _ there)
  · rename_i index found
    obtain ⟨_, payload, begun, there⟩ := current_found found
    exact absurd (SessionActor.isOpen_waiting payload begun) (closed index _ there)
  · rfl

/-- Every step but a cancellation keeps everything; a cancellation respects the turns
exactly if it finds the turn of its command, and then it keeps everything, too. -/
theorem step_decides {render : ContextBudget.Rendering} {service next : Service Payload}
    {action : Action Payload} (kept : Kept service) (taken : step render service action = some next) :
    (Respects next → Kept next) ∧ (Respects next ↔ FindsItsTurn service action) := by
  -- what every other step leads to
  have keeps : (∀ delivered, action ≠ .cancel delivered) → Kept next →
      (Respects next → Kept next) ∧ (Respects next ↔ FindsItsTurn service action) := by
    intro other fine
    refine ⟨fun _ => fine, fun _ => ?_, fun _ => fine.respects⟩
    exact fun delivered _ same => absurd same (other delivered)
  cases action with
  | submit payload =>
    obtain rfl := Option.some.inj taken
    exact keeps (by simp) (submit_kept kept payload)
  | loop index =>
    obtain ⟨actor, moved, rfl⟩ := Option.map_eq_some_iff.mp taken
    exact keeps (by simp) (loop_kept kept moved)
  | work handler work progress => exact keeps (by simp) (work_kept kept taken)
  | thrown handler progress => exact keeps (by simp) (thrown_kept kept taken)
  | wake handler =>
    obtain ⟨actor, moved, rfl⟩ := Option.map_eq_some_iff.mp taken
    exact keeps (by simp) (wake_kept kept moved)
  | request requestId snapshotTurnId request =>
    obtain ⟨resting, made⟩ := Option.ite_none_right_eq_some.mp taken
    obtain rfl := Option.some.inj made
    exact keeps (by simp)
      (request_kept kept requestId snapshotTurnId request (inFlight_none resting))
  | raise =>
    obtain ⟨command, flying, rest⟩ := Option.bind_eq_some_iff.mp taken
    obtain ⟨emitting, made⟩ := Option.ite_none_right_eq_some.mp rest
    obtain rfl := Option.some.inj made
    exact keeps (by simp) (raise_kept kept (inFlight_some flying) emitting)
  | returns =>
    obtain ⟨command, flying, rest⟩ := Option.bind_eq_some_iff.mp taken
    obtain ⟨actor, moved, rfl⟩ := Option.map_eq_some_iff.mp rest
    exact keeps (by simp) (returns_kept kept (inFlight_some flying) moved)
  | cancel delivered =>
    obtain ⟨command, flying, rest⟩ := Option.bind_eq_some_iff.mp taken
    obtain ⟨emitting, made⟩ := Option.ite_none_right_eq_some.mp rest
    obtain rfl := Option.some.inj made
    have there := inFlight_some flying
    rcases kept.turns.open_or_closed with closed | ⟨index, payload, begun, phase, task, found, going⟩
    · have fine := cancelled_idle_kept kept there emitting closed delivered
      refine ⟨fun _ => fine, fun _ => ?_, fun _ => fine.respects⟩
      rintro _ _ ⟨⟩ _ hit
      rw [strikes_closed delivered closed] at hit
      cases hit
    · obtain ⟨turns, commands⟩ :=
        cancelled_open_kept kept there emitting task found going delivered
      have decided : Respects (cancelled service command delivered) ↔ _ :=
        cancelled_open_respects kept task found going delivered
      refine ⟨fun respects => ⟨turns, commands, respects⟩, fun respects => ?_, fun finds => ?_⟩
      · rintro _ other ⟨⟩ also hit
        obtain rfl := Option.some.inj (there.symm.trans also)
        exact decided.mp respects hit
      · exact decided.mpr (finds delivered command rfl there)

/-- Through a run every command respects the turns exactly if each cancellation taken
that hits a handler finds the turn of its command still active. -/
theorem commands_respect_turns_iff (render : ContextBudget.Rendering) (sysPrompt : String)
    (actions : List (Action Payload)) :
    Throughout (step render) Respects (start sysPrompt) actions ↔
      Taking (step render) FindsItsTurn (start sysPrompt) actions :=
  throughout_iff_taking Kept
    (fun _ _ _ kept taken respects => (step_decides kept taken).1 respects)
    (fun _ _ _ kept taken => (step_decides kept taken).2)
    (start_kept sysPrompt) (start_kept sysPrompt).respects actions

/-! A stop that is too late: while the events of its acceptance are emitted the turn is
completed, and the next one starts. -/

/-- A transient question; its turn is not trimmed. -/
def ping : TurnInput :=
  { question with
    inputInfo := Fields.of [("role", .str "user"), ("content", .str "ping"),
      ("metadata", .obj [("transient", .bool true)])] }

/-- The first of two turns is stopped, answers, and ends; the second is started. -/
def lateStop : List (Action String) :=
  let noCalls : ContextBudget.SummaryCalls := ⟨.returned, "", .returned⟩
  [.submit "first", .submit "second", .loop 0, .work 0 (.begins ping) .yields,
    .work 0 (.turns (.trimmed noCalls noCalls)) .yields,
    .work 0 (.turns (.planned ⟨none, [], none, "", none, none⟩ false noCalls noCalls)) .yields,
    .request "stop-1" "t" ⟨some .stop, "", none, "", ""⟩,
    .work 0 (.turns (.replied ⟨"pong", "", [], []⟩ fun _ => "")) .yields,
    .work 0 .goesOn (.ends .finished), .loop 0]

/-- The cancellation of the stop hits the second turn. -/
theorem late_stop_cancels_next_turn :
    ¬ ∀ actions : List (Action String),
      Throughout (step textsOnly) Respects (start "You help.") actions := by
  intro respected
  have ran : ((run (step textsOnly) (start "You help.") (lateStop ++ [.cancel true])).bind
      fun service => service.command.bind fun command => command.struck.map fun hit =>
        decide (hit.1 = command.acceptedFor)) = some false := by decide +kernel
  obtain ⟨service, completed, reached⟩ := Option.bind_eq_some_iff.mp ran
  obtain ⟨command, there, hit⟩ := Option.bind_eq_some_iff.mp reached
  obtain ⟨⟨turn, place⟩, struck, other⟩ := Option.map_eq_some_iff.mp hit
  have respects := (respected _).final completed
  exact of_decide_eq_false other (respects.own command turn place there struck).1

end MeetYou.ControlledTurns
