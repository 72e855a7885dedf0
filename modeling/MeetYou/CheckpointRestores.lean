import MeetYou.ReplyControl

/-!
# What going back to a checkpoint undoes

A checkpoint is a length. Going back cuts the history to that length and drops the
checkpoints that stand at a greater one. That undoes what came after the checkpoint
as long as the length still counts the messages from before it.

It does not always. A turn notes the length of the history, waits for what is remembered, and
makes its checkpoint then: a request that came in between may have cut the history. An idle
compaction puts back the list it began with, shortened, so that what was undone while it
waited returns. And once messages from before a checkpoint have been summarised away, the cut
falls behind later messages, and later checkpoints may stand at no greater length.
-/

namespace MeetYou.CheckpointRestores

open ContextBudget BrainSession BrainTurn ReplyControl Runs

/-! ## A session and its actor -/

/-- What the actor of a session waits for, apart from a turn that has its checkpoint: the stored
summary, the context of the thread, what is remembered for the turn, or the summary of an idle
compaction. The coroutine keeps the length or the list that it had before it waited. -/
inductive Work
  | free
  | refreshing (input : TurnInput)
  | hydrating (input : TurnInput) (inputInfo : Fields) (threadId : String)
  | preparing (input : TurnInput) (inputInfo : Fields) (turnInputIndex : Nat)
  | checkingIdle (loadedContext : String) (calls : SummaryCalls)
  | compacting (calls : SummaryCalls) (history : List ChatMessage)

/-- The actor waits for nothing. -/
def Work.isFree : Work → Bool
  | .free => true
  | _ => false

/-- The list that a compaction keeps while it waits. -/
def Work.held : Work → Option (List ChatMessage)
  | .compacting _ history => some history
  | _ => none

/-- A session with what its actor waits for. -/
structure Actor where
  session : Session
  work : Work

/-- The actor may take the next work: it waits for nothing and no turn is open. -/
def Actor.isFree (actor : Actor) : Bool := actor.work.isFree && actor.session.turn.isNone

/-- `input_brain` from the refreshed summary to its next wait. -/
def scopeTurn (render : Rendering) (session : Session) (input : TurnInput) : Actor :=
  let refreshed := { session with conversationSummary := Text.strip input.loadedContext }
  let threadId := currentThreadId render input
  if threadId = "" then ⟨refreshed, .preparing input input.inputInfo refreshed.chatHistory.length⟩
  else
    let narrowed := scopedToThread render refreshed threadId
    let inputInfo := withThreadId input.inputInfo threadId
    if hasHistoryForThread render narrowed threadId then
      let known := keepThread narrowed threadId
      ⟨known, .preparing input inputInfo known.chatHistory.length⟩
    else ⟨narrowed, .hydrating input inputInfo threadId⟩

/-- `compact_session_for_idle_heartbeat` once the summariser has answered: the list is made from
the one the pass began with. -/
def finishCompaction (render : Rendering) (session : Session) (calls : SummaryCalls)
    (history : List ChatMessage) : Session :=
  let result := compactHistoryForIdleHeartbeat render baseMessageCount 6 calls history
  if result.removed = [] then session
  else
    { session with
      chatHistory := result.history
      compacted := session.compacted ++ result.removed.map ChatMessage.serial
      heartbeatCompacted := true
      conversationSummary :=
        if result.summary = "" then session.conversationSummary else result.summary }

/-- What the actor waits for has come, and it goes on to the next wait. -/
def proceed (render : Rendering) (session : Session) : Work → Option Actor
  | .free => none
  | .refreshing input => some (scopeTurn render session input)
  | .hydrating input inputInfo threadId =>
      let hydrated := receiveThreadContext render session threadId input.hydrated
      some ⟨hydrated, .preparing input inputInfo hydrated.chatHistory.length⟩
  | .preparing input inputInfo turnInputIndex =>
      some ⟨openTurnAt session input inputInfo turnInputIndex, .free⟩
  | .checkingIdle loadedContext calls =>
      let refreshed := { session with conversationSummary := Text.strip loadedContext }
      if session.heartbeatCompacted then some ⟨refreshed, .free⟩
      else some ⟨refreshed, .compacting calls refreshed.chatHistory⟩
  | .compacting calls history => some ⟨finishCompaction render session calls history, .free⟩

/-- The actor takes a turn or an idle session when it is free, and goes on when what it waits for
has come. Requests come in at any time; what ends a turn or a compaction from outside leaves the
actor free. -/
inductive Event
  | take (input : TurnInput)
  | takeIdle (loadedContext : String) (calls : SummaryCalls)
  | proceed
  | act (action : Action)

/-- The work behind an action on the session; `none` where the action is not taken then. -/
def workAfter (actor : Actor) : Action → Option Work
  | .begin _ => none
  | .compactIdle _ _ => none
  | .turn _ => some actor.work
  | .request _ => some actor.work
  | .proactive _ _ _ => if actor.isFree then some actor.work else none
  | .interrupted _ => some .free
  | .failed _ _ => some .free

/-- One event: work is taken, what was waited for comes, or something acts on the session
meanwhile. -/
def step (render : Rendering) (actor : Actor) : Event → Option Actor
  | .take input =>
      if actor.isFree then some { actor with work := .refreshing input } else none
  | .takeIdle loadedContext calls =>
      if actor.isFree then some { actor with work := .checkingIdle loadedContext calls } else none
  | .proceed => proceed render actor.session actor.work
  | .act action =>
      (workAfter actor action).bind fun work =>
        (ReplyControl.step render actor.session action).map fun session => ⟨session, work⟩

/-! ## The order of messages -/

/-- The serial numbers of the messages of a history. -/
def serials (history : List ChatMessage) : List Nat := history.map ChatMessage.serial

/-- The messages stand in the order of their appends. -/
structure Sorted (appends : Nat) (history : List ChatMessage) : Prop where
  sorted : history.Pairwise fun first second => first.serial < second.serial
  appended : ∀ message ∈ history, message.serial < appends

/-- Messages that are left stay in the order of their appends. -/
theorem Sorted.sublist {appends more : Nat} {history fewer : List ChatMessage}
    (sorted : Sorted appends history) (left : fewer.Sublist history) (grown : appends ≤ more) :
    Sorted more fewer where
  sorted := sorted.sorted.sublist left
  appended := fun message member =>
    Nat.lt_of_lt_of_le (sorted.appended message (left.subset member)) grown

/-- The messages of the history stand in the order of their appends, and what a checkpoint saw
was appended before it was made. -/
structure Ordered (session : Session) : Prop where
  history : Sorted session.appends session.chatHistory
  saw : ∀ checkpoint ∈ session.checkpoints, ∀ serial ∈ checkpoint.seen, serial < checkpoint.mark

/-- Messages and checkpoints may leave. -/
theorem Ordered.shrink {session after : Session} (ordered : Ordered session)
    (fewer : after.chatHistory.Sublist session.chatHistory)
    (appends : after.appends = session.appends)
    (checkpoints : after.checkpoints.Sublist session.checkpoints) : Ordered after where
  history := ordered.history.sublist fewer appends.ge
  saw := fun checkpoint member => ordered.saw checkpoint (checkpoints.subset member)

/-- Other fields do not matter. -/
theorem Ordered.relabel {session after : Session} (ordered : Ordered session)
    (history : after.chatHistory = session.chatHistory) (appends : after.appends = session.appends)
    (checkpoints : after.checkpoints = session.checkpoints) : Ordered after :=
  ordered.shrink (history ▸ List.Sublist.refl _) appends (checkpoints ▸ List.Sublist.refl _)

/-- The messages of an append carry the next serial numbers. -/
theorem mem_numbered {first : Nat} {messages : List Fields} {message : ChatMessage}
    (member : message ∈ numbered first messages) :
    first ≤ message.serial ∧ message.serial < first + messages.length := by
  simp only [numbered, List.mem_map] at member
  obtain ⟨⟨fields, index⟩, among, rfl⟩ := member
  have bound := (List.mem_zipIdx among).2.1
  simp only at bound ⊢
  omega

/-- Messages that are numbered in a row are in order. -/
theorem numbered_sorted (first : Nat) (messages : List Fields) :
    (numbered first messages).Pairwise fun left right => left.serial < right.serial := by
  rw [numbered, List.pairwise_map, List.pairwise_iff_getElem]
  intro left right _ _ below
  simp only [List.getElem_zipIdx]
  omega

/-- Messages may be added at the end. -/
theorem Ordered.extend {session : Session} (ordered : Ordered session) (messages : List Fields) :
    Ordered (session.extend messages) where
  history := by
    constructor
    · refine List.pairwise_append.mpr ⟨ordered.history.sorted, numbered_sorted _ _, ?_⟩
      intro old among new member
      have := ordered.history.appended old among
      have := (mem_numbered member).1
      omega
    · intro message member
      simp only [Session.extend]
      rcases List.mem_append.mp member with old | new
      · have := ordered.history.appended message old
        omega
      · exact (mem_numbered new).2
  saw := ordered.saw

/-- A checkpoint sees the history as it is, at whatever length it is made. -/
theorem Ordered.createReplyCheckpoint {session : Session} (ordered : Ordered session)
    (turnId : String) (historyLength : Nat) :
    Ordered (session.createReplyCheckpoint turnId historyLength) where
  history := ordered.history
  saw := fun checkpoint member => by
    rcases List.mem_append.mp (List.mem_of_mem_drop member) with old | new
    · exact ordered.saw checkpoint old
    · obtain rfl := List.mem_singleton.mp new
      intro serial seen
      obtain ⟨message, held, rfl⟩ := List.mem_map.mp seen
      exact ordered.history.appended message held

/-- A new session. -/
theorem create_ordered (sysPrompt : String) : Ordered (create sysPrompt) where
  history := ⟨List.pairwise_singleton _ _, fun message member => by
    obtain rfl := List.mem_singleton.mp member
    exact Nat.zero_lt_one⟩
  saw := fun checkpoint member => by cases member

/-! ## Steps -/

section
variable {render : Rendering}

/-- Leaving out the history of other threads keeps the order. -/
theorem scopedToThread_ordered {session : Session} (ordered : Ordered session)
    (threadId : String) : Ordered (scopedToThread render session threadId) := by
  unfold scopedToThread
  simp only
  split
  · exact ordered.shrink (List.take_sublist _ _) rfl (List.Sublist.refl _)
  · exact ordered

/-- A session that has the thread's history is not changed. -/
theorem keepThread_ordered {session : Session} (ordered : Ordered session) (threadId : String) :
    Ordered (keepThread session threadId) :=
  ordered.relabel rfl rfl rfl

/-- The context of a thread is appended, so the order is kept. -/
theorem receiveThreadContext_ordered {session : Session} (ordered : Ordered session)
    (threadId : String) (hydrated : Option ThreadSummary.Hydrated) :
    Ordered (receiveThreadContext render session threadId hydrated) := by
  cases hydrated with
  | none => exact ordered
  | some payload => exact (ordered.extend _).relabel rfl rfl rfl

/-- A checkpoint sees what was appended before, and the input is appended behind it. -/
theorem openTurnAt_ordered {session : Session} (ordered : Ordered session) (input : TurnInput)
    (inputInfo : Fields) (turnInputIndex : Nat) :
    Ordered (openTurnAt session input inputInfo turnInputIndex) :=
  ((ordered.createReplyCheckpoint input.turnId turnInputIndex).extend _).relabel rfl rfl rfl

/-- Each step of a turn keeps the order. -/
theorem turnStep_ordered {session next : Session} {action : TurnAction} (ordered : Ordered session)
    (taken : turnStep render session action = some next) : Ordered next := by
  cases running : session.turn with
  | none => simp [turnStep, running] at taken
  | some turn =>
    rcases turnStep_cases running taken with
      ⟨later, ratio, first, second, _, _, rfl⟩ |
        ⟨_, ⟨phase, _, rfl⟩ | ⟨inputs, planFails, rfl⟩ | ⟨phase, messages, _, rfl⟩ |
          ⟨messages, rfl⟩⟩
    · refine ordered.shrink ?_ rfl (List.Sublist.refl _)
      rcases attemptCompaction_cases later.settings ratio first second session.chatHistory
        with ⟨_, same, _⟩ | ⟨_, _, cut⟩
      · simp only [compactIn, inPhase]
        rw [same]
      · exact cut.sublist
    · exact ordered.relabel rfl rfl rfl
    · exact ordered.relabel rfl rfl rfl
    · exact (ordered.extend messages).relabel rfl rfl rfl
    · refine (ordered.extend messages).shrink ?_ rfl (List.Sublist.refl _)
      simp only [completeTurn, append]
      split
      · exact List.take_sublist _ _
      · exact List.Sublist.refl _

/-- A turn never takes back the number of appends. -/
theorem turnStep_appends {session next : Session} {action : TurnAction}
    (taken : turnStep render session action = some next) : session.appends ≤ next.appends := by
  cases running : session.turn with
  | none => simp [turnStep, running] at taken
  | some turn =>
    rcases turnStep_cases running taken with
      ⟨later, ratio, first, second, _, _, rfl⟩ |
        ⟨_, ⟨phase, _, rfl⟩ | ⟨inputs, planFails, rfl⟩ | ⟨phase, messages, _, rfl⟩ |
          ⟨messages, rfl⟩⟩
    · exact Nat.le_refl _
    · exact Nat.le_refl _
    · exact Nat.le_refl _
    · exact Nat.le_add_right _ _
    · exact Nat.le_add_right _ _

/-- Sweeping transient messages out keeps the order. -/
theorem swept_ordered {session : Session} (ordered : Ordered session) (transient : Bool) :
    Ordered (swept session transient) := by
  unfold swept
  split
  · refine ordered.shrink ?_ rfl (List.Sublist.refl _)
    have front := (List.rdropWhile_prefix (fun message => metadataTrue message.fields "transient")
      (session.chatHistory.drop baseMessageCount)).sublist
    have whole := front.append_left (session.chatHistory.take baseMessageCount)
    rwa [List.take_append_drop] at whole
  · exact ordered.relabel rfl rfl rfl

/-- The list that a compaction puts back is a part of the one it began with. -/
theorem finishCompaction_ordered {session : Session} {history : List ChatMessage}
    (ordered : Ordered session) (began : Sorted session.appends history) (calls : SummaryCalls) :
    Ordered (finishCompaction render session calls history) := by
  unfold finishCompaction
  simp only
  split
  · exact ordered
  · have cut := @compactHistoryForIdleHeartbeat_cuts render baseMessageCount 6 calls history
    exact ⟨began.sublist cut.sublist (Nat.le_refl _), ordered.saw⟩

/-- A proactive message is appended at the end. -/
theorem proactive_ordered {session : Session} (ordered : Ordered session)
    (content createdAt : String) (metadata : Fields) :
    Ordered (recordProactiveAssistantMessage session content createdAt metadata) := by
  unfold recordProactiveAssistantMessage
  simp only
  split
  · exact ordered
  · exact ordered.extend _

/-- And counts as an append. -/
theorem proactive_appends {session : Session} (content createdAt : String) (metadata : Fields) :
    session.appends ≤
      (recordProactiveAssistantMessage session content createdAt metadata).appends := by
  unfold recordProactiveAssistantMessage
  simp only
  split
  · exact Nat.le_refl _
  · exact Nat.le_add_right _ _

/-- An action starts no compaction. -/
theorem workAfter_held {actor : Actor} {action : Action} {work : Work} {history : List ChatMessage}
    (worked : workAfter actor action = some work) (held : work.held = some history) :
    actor.work.held = some history := by
  cases action with
  | begin input => cases worked
  | compactIdle loadedContext calls => cases worked
  | turn action => exact Option.some.inj worked ▸ held
  | request request => exact Option.some.inj worked ▸ held
  | proactive content createdAt metadata =>
    obtain ⟨_, same⟩ := Option.ite_none_right_eq_some.mp worked
    exact Option.some.inj same ▸ held
  | interrupted turnId =>
    obtain rfl := Option.some.inj worked
    cases held
  | failed turnId transient =>
    obtain rfl := Option.some.inj worked
    cases held

end

/-! ## Restores -/

/-- The session a control action acts on. -/
def site (session : Session) : Action → Session
  | .interrupted _ => ended session
  | .failed _ transient => swept session transient
  | _ => session

/-- The checkpoint an action goes back to: at once for a request without an active
turn, with the noted command when a turn is interrupted, and to its own checkpoint
when a turn fails. -/
def target (session : Session) : Action → Option Checkpoint
  | .request request =>
      match session.activeTurn, request.action with
      | none, some .regenerate =>
          session.latestReplayInput.bind fun replay => findCheckpoint session replay.checkpointId
      | none, some .rollback => findCheckpoint session request.checkpointId
      | _, _ => none
  | .interrupted turnId =>
      (activeOf session turnId).bind fun _ =>
        (session.pendingCommand.filter fun command => ControlAction.restores command.action).bind
          fun command => findCheckpoint session (some command.checkpointId)
  | .failed turnId _ =>
      (activeOf session turnId).bind fun active => findCheckpoint session (some active.checkpointId)
  | _ => none

/-- The two sessions hold the same messages and checkpoints. -/
def Agrees (after model : Session) : Prop :=
  after.chatHistory = model.chatHistory ∧ after.appends = model.appends ∧
    after.checkpoints = model.checkpoints ∧ after.compacted = model.compacted

/-- A control action leaves its session as it is, or goes back to its target. -/
def Controls (session next : Session) (action : Action) : Prop :=
  (target session action = none ∧ Agrees next (site session action)) ∨
    ∃ checkpoint, target session action = some checkpoint ∧
      Agrees next (restoreTo (site session action) checkpoint)

/-- Without an id no checkpoint is found. -/
theorem findCheckpoint_none (session : Session) : findCheckpoint session none = none := by
  simp [findCheckpoint]

/-- A request leaves the session as it is, or goes back to the checkpoint it names. -/
theorem request_controls (session : Session) (request : ControlRequest) :
    Controls session (requestReplyControl session request).1 (.request request) := by
  unfold requestReplyControl
  cases active : session.activeTurn with
  | some turn =>
    -- the request is refused or noted
    refine .inl ⟨by simp [target, active], ?_⟩
    simp only
    repeat' split
    all_goals exact ⟨rfl, rfl, rfl, rfl⟩
  | none =>
    cases asked : request.action with
    | none => exact .inl ⟨by simp [target, active, asked], rfl, rfl, rfl, rfl⟩
    | some action =>
      cases action with
      | listCheckpoints => exact .inl ⟨by simp [target, active, asked], rfl, rfl, rfl, rfl⟩
      | stop => exact .inl ⟨by simp [target, active, asked], rfl, rfl, rfl, rfl⟩
      | appendGuidance => exact .inl ⟨by simp [target, active, asked], rfl, rfl, rfl, rfl⟩
      | regenerate =>
        cases latest : session.latestReplayInput with
        | none => exact .inl ⟨by simp [target, active, asked, latest], rfl, rfl, rfl, rfl⟩
        | some replay =>
          cases found : findCheckpoint session replay.checkpointId with
          | none =>
            refine .inl ⟨by simp [target, active, asked, latest, found], ?_⟩
            simp only [restoreReplyCheckpoint, found, Option.map_none]
            split
            · exact ⟨rfl, rfl, rfl, rfl⟩
            · exact ⟨rfl, rfl, rfl, rfl⟩
          | some checkpoint =>
            refine .inr ⟨checkpoint, by simp [target, active, asked, latest, found], ?_⟩
            have named : replay.checkpointId ≠ none := by
              intro unnamed
              rw [unnamed, findCheckpoint_none] at found
              cases found
            simp only [restoreReplyCheckpoint, found, Option.map_some, named, if_false]
            exact ⟨rfl, rfl, rfl, rfl⟩
      | rollback =>
        cases found : findCheckpoint session request.checkpointId with
        | none =>
          refine .inl ⟨by simp [target, active, asked, found], ?_⟩
          simp only [restoreReplyCheckpoint, found, Option.map_none]
          split
          · exact ⟨rfl, rfl, rfl, rfl⟩
          · exact ⟨rfl, rfl, rfl, rfl⟩
        | some checkpoint =>
          refine .inr ⟨checkpoint, by simp [target, active, asked, found], ?_⟩
          have named : request.checkpointId ≠ none := by
            intro unnamed
            rw [unnamed, findCheckpoint_none] at found
            cases found
          simp only [restoreReplyCheckpoint, found, Option.map_some, named, if_false]
          exact ⟨rfl, rfl, rfl, rfl⟩

/-- A turn that was stopped goes back to the checkpoint of its command, if there is one. -/
theorem interrupted_controls (session : Session) (turnId : String) :
    Controls session ((finalizeReplyControl (ended session) turnId).getD (ended session))
      (.interrupted turnId) := by
  have active : activeOf (ended session) turnId = activeOf session turnId := rfl
  have pending : (ended session).pendingCommand = session.pendingCommand := rfl
  have lookup : ∀ id, findCheckpoint (ended session) id = findCheckpoint session id := fun _ => rfl
  unfold finalizeReplyControl
  rw [active, pending]
  cases running : activeOf session turnId with
  | none => exact .inl ⟨by simp [target, running], rfl, rfl, rfl, rfl⟩
  | some turn =>
    cases noted : session.pendingCommand with
    | none => exact .inl ⟨by simp [target, running, noted], rfl, rfl, rfl, rfl⟩
    | some command =>
      by_cases restores : ControlAction.restores command.action
      · cases found : findCheckpoint session (some command.checkpointId) with
        | none =>
          refine .inl ⟨by simp [target, running, noted, restores, found], ?_⟩
          simp only [restores, if_true, restoreReplyCheckpoint, lookup, found, Option.map_none]
          exact ⟨rfl, rfl, rfl, rfl⟩
        | some checkpoint =>
          refine .inr ⟨checkpoint,
            by simp [target, running, noted, Option.filter, restores, found], ?_⟩
          simp only [restores, if_true, restoreReplyCheckpoint, lookup, found, Option.map_some]
          exact ⟨rfl, rfl, rfl, rfl⟩
      · refine .inl ⟨by simp [target, running, noted, restores], ?_⟩
        simp only [restores]
        exact ⟨rfl, rfl, rfl, rfl⟩

/-- A turn that failed goes back to its own checkpoint, if it was to leave no trace. -/
theorem failed_controls (session : Session) (turnId : String) (transient : Bool) :
    Controls session (markReplyTurnFailed (swept session transient) turnId)
      (.failed turnId transient) := by
  have active : activeOf (swept session transient) turnId = activeOf session turnId := by
    unfold swept
    split <;> rfl
  have lookup : ∀ id, findCheckpoint (swept session transient) id = findCheckpoint session id := by
    intro id
    unfold swept
    split <;> rfl
  unfold markReplyTurnFailed
  rw [active]
  cases running : activeOf session turnId with
  | none => exact .inl ⟨by simp [target, running], rfl, rfl, rfl, rfl⟩
  | some turn =>
    cases found : findCheckpoint session (some turn.checkpointId) with
    | none =>
      refine .inl ⟨by simp [target, running, found], ?_⟩
      simp only [restoreReplyCheckpoint, lookup, found, Option.map_none, Option.getD_none]
      exact ⟨rfl, rfl, rfl, rfl⟩
    | some checkpoint =>
      refine .inr ⟨checkpoint, by simp [target, running, found], ?_⟩
      simp only [restoreReplyCheckpoint, lookup, found, Option.map_some, Option.getD_some]
      exact ⟨rfl, rfl, rfl, rfl⟩

/-- The target is in the list of the session. -/
theorem target_listed {session : Session} {action : Action} {checkpoint : Checkpoint}
    (targeted : target session action = some checkpoint) :
    checkpoint ∈ session.checkpoints := by
  have listed : ∀ id, findCheckpoint session id = some checkpoint →
      checkpoint ∈ session.checkpoints := fun id found =>
    List.mem_reverse.mp (List.mem_of_find?_eq_some found)
  unfold target at targeted
  split at targeted
  · split at targeted
    · obtain ⟨replay, _, found⟩ := Option.bind_eq_some_iff.mp targeted
      exact listed _ found
    · exact listed _ targeted
    · cases targeted
  · obtain ⟨_, _, rest⟩ := Option.bind_eq_some_iff.mp targeted
    obtain ⟨command, _, found⟩ := Option.bind_eq_some_iff.mp rest
    exact listed _ found
  · obtain ⟨active, _, found⟩ := Option.bind_eq_some_iff.mp targeted
    exact listed _ found
  · cases targeted

/-- The checkpoints are not changed in front of a restore. -/
theorem site_checkpoints (session : Session) (action : Action) :
    (site session action).checkpoints = session.checkpoints := by
  unfold site swept
  split
  · rfl
  · split <;> rfl
  · rfl

/-- The session that a restore finds is in order. -/
theorem site_ordered {session : Session} (ordered : Ordered session) (action : Action) :
    Ordered (site session action) := by
  unfold site
  split
  · exact ordered.relabel rfl rfl rfl
  · exact swept_ordered ordered _
  · exact ordered

/-- A control action keeps the order. -/
theorem Controls.ordered {session next : Session} {action : Action}
    (controls : Controls session next action) (ordered : Ordered session) : Ordered next := by
  have there := site_ordered ordered action
  rcases controls with ⟨_, history, appends, checkpoints, _⟩ |
    ⟨checkpoint, _, history, appends, checkpoints, _⟩
  · exact there.relabel history appends checkpoints
  · have restored : Ordered (restoreTo (site session action) checkpoint) :=
      there.shrink (List.take_sublist _ _) rfl List.filter_sublist
    exact restored.relabel history appends checkpoints

/-- No message is appended in front of a restore. -/
theorem site_appends (session : Session) (action : Action) :
    (site session action).appends = session.appends := by
  unfold site swept
  split
  · rfl
  · split <;> rfl
  · rfl

/-- A control action appends nothing. -/
theorem Controls.appends {session next : Session} {action : Action}
    (controls : Controls session next action) : next.appends = session.appends := by
  rcases controls with ⟨_, _, appends, _⟩ | ⟨_, _, _, appends, _⟩
  · exact appends.trans (site_appends session action)
  · exact appends.trans (site_appends session action)

/-- An action beside the actor's own work keeps the order, and only adds messages. -/
theorem acted_ordered {render : Rendering} {actor : Actor} {next : Session} {action : Action}
    {work : Work} (ordered : Ordered actor.session) (taken : workAfter actor action = some work)
    (acted : ReplyControl.step render actor.session action = some next) :
    Ordered next ∧ actor.session.appends ≤ next.appends := by
  cases action with
  | begin input => cases taken
  | compactIdle loadedContext calls => cases taken
  | turn action => exact ⟨turnStep_ordered ordered acted, turnStep_appends acted⟩
  | request request =>
    obtain rfl := Option.some.inj acted
    have controls := request_controls actor.session request
    exact ⟨controls.ordered ordered, controls.appends.ge⟩
  | interrupted turnId =>
    obtain rfl := Option.some.inj acted
    have controls := interrupted_controls actor.session turnId
    exact ⟨controls.ordered ordered, controls.appends.ge⟩
  | failed turnId transient =>
    obtain rfl := Option.some.inj acted
    have controls := failed_controls actor.session turnId transient
    exact ⟨controls.ordered ordered, controls.appends.ge⟩
  | proactive content createdAt metadata =>
    obtain ⟨_, made⟩ := Option.ite_none_right_eq_some.mp acted
    obtain rfl := Option.some.inj made
    exact ⟨proactive_ordered ordered content createdAt metadata,
      proactive_appends content createdAt metadata⟩

/-- The session is in order, and so is the list a compaction keeps while it waits. -/
structure Sound (actor : Actor) : Prop where
  session : Ordered actor.session
  began : ∀ history ∈ actor.work.held, Sorted actor.session.appends history

/-- An actor that keeps no list is sound where its session is in order. -/
theorem Sound.of_ordered {session : Session} {work : Work} (ordered : Ordered session)
    (none : work.held = none) : Sound ⟨session, work⟩ :=
  ⟨ordered, fun history held => by cases none.symm.trans held⟩

/-- What the actor does between two waits keeps the order. -/
theorem proceed_sound {render : Rendering} {actor next : Actor} (sound : Sound actor)
    (goes : proceed render actor.session actor.work = some next) : Sound next := by
  have ordered := sound.session
  cases working : actor.work with
  | free =>
    rw [working] at goes
    cases goes
  | refreshing input =>
    rw [working] at goes
    obtain rfl := Option.some.inj goes
    have refreshed : Ordered { actor.session with
        conversationSummary := Text.strip input.loadedContext } := ordered.relabel rfl rfl rfl
    have narrowed := @scopedToThread_ordered render _ refreshed (currentThreadId render input)
    unfold scopeTurn
    dsimp only
    split
    · exact .of_ordered refreshed rfl
    · split
      · exact .of_ordered (keepThread_ordered narrowed _) rfl
      · exact .of_ordered narrowed rfl
  | hydrating input inputInfo threadId =>
    rw [working] at goes
    obtain rfl := Option.some.inj goes
    exact .of_ordered (receiveThreadContext_ordered ordered threadId input.hydrated) rfl
  | preparing input inputInfo turnInputIndex =>
    rw [working] at goes
    obtain rfl := Option.some.inj goes
    exact .of_ordered (openTurnAt_ordered ordered input inputInfo turnInputIndex) rfl
  | checkingIdle loadedContext calls =>
    rw [working] at goes
    have refreshed : Ordered { actor.session with
        conversationSummary := Text.strip loadedContext } := ordered.relabel rfl rfl rfl
    unfold proceed at goes
    dsimp only at goes
    split at goes
    · obtain rfl := Option.some.inj goes
      exact .of_ordered refreshed rfl
    · obtain rfl := Option.some.inj goes
      refine ⟨refreshed, fun history held => ?_⟩
      exact Option.some.inj held ▸ ordered.history
  | compacting calls history =>
    have began := sound.began history (by rw [working]; rfl)
    rw [working] at goes
    obtain rfl := Option.some.inj goes
    exact .of_ordered (finishCompaction_ordered ordered began calls) rfl

/-- Every step of a session keeps the order. -/
theorem step_sound {render : Rendering} {actor next : Actor} {event : Event}
    (sound : Sound actor) (taken : step render actor event = some next) : Sound next := by
  cases event with
  | take input =>
    obtain ⟨_, made⟩ := Option.ite_none_right_eq_some.mp taken
    obtain rfl := Option.some.inj made
    exact .of_ordered sound.session rfl
  | takeIdle loadedContext calls =>
    obtain ⟨_, made⟩ := Option.ite_none_right_eq_some.mp taken
    obtain rfl := Option.some.inj made
    exact .of_ordered sound.session rfl
  | proceed => exact proceed_sound sound taken
  | act action =>
    obtain ⟨work, worked, rest⟩ := Option.bind_eq_some_iff.mp taken
    obtain ⟨session, acted, rfl⟩ := Option.map_eq_some_iff.mp rest
    obtain ⟨ordered, grown⟩ := acted_ordered sound.session worked acted
    refine ⟨ordered, fun history held => ?_⟩
    have began := sound.began history (workAfter_held worked held)
    exact began.sublist (List.Sublist.refl _) grown

/-- The checkpoint that an event goes back to. -/
def eventTarget (actor : Actor) : Event → Option Checkpoint
  | .act action => target actor.session action
  | _ => none

/-- The session a restore acts on. -/
def eventSite (actor : Actor) : Event → Session
  | .act action => site actor.session action
  | _ => actor.session

/-- An event with a target goes back to it. -/
theorem target_controls {render : Rendering} {actor next : Actor} {event : Event}
    {checkpoint : Checkpoint} (targeted : eventTarget actor event = some checkpoint)
    (taken : step render actor event = some next) :
    Agrees next.session (restoreTo (eventSite actor event) checkpoint) := by
  cases event with
  | take input => cases targeted
  | takeIdle loadedContext calls => cases targeted
  | proceed => cases targeted
  | act action =>
    obtain ⟨work, _, rest⟩ := Option.bind_eq_some_iff.mp taken
    obtain ⟨session, acted, rfl⟩ := Option.map_eq_some_iff.mp rest
    have controls : Controls actor.session session action := by
      cases action with
      | request request =>
        obtain rfl := Option.some.inj acted
        exact request_controls actor.session request
      | interrupted turnId =>
        obtain rfl := Option.some.inj acted
        exact interrupted_controls actor.session turnId
      | failed turnId transient =>
        obtain rfl := Option.some.inj acted
        exact failed_controls actor.session turnId transient
      | begin input => cases targeted
      | turn action => cases targeted
      | proactive content createdAt metadata => cases targeted
      | compactIdle loadedContext calls => cases targeted
    rcases controls with ⟨untargeted, _⟩ | ⟨other, same, agrees⟩
    · cases untargeted.symm.trans targeted
    · exact Option.some.inj (same.symm.trans targeted) ▸ agrees

/-! ## What a restore undoes -/

/-- Going back to the checkpoint has undone exactly what came after it: no message
added later is left, every message it saw is there unless it was summarised away, and
no later checkpoint is listed. -/
structure Undone (checkpoint : Checkpoint) (after : Session) : Prop where
  messages : ∀ message ∈ after.chatHistory, message.serial < checkpoint.mark
  kept : ∀ serial ∈ checkpoint.seen, serial ∉ after.compacted → serial ∈ serials after.chatHistory
  checkpoints : ∀ item ∈ after.checkpoints, item.id ≤ checkpoint.id

/-- The messages of the history that were appended before the checkpoint was made. -/
def older (checkpoint : Checkpoint) (session : Session) : List ChatMessage :=
  session.chatHistory.filter fun message => decide (message.serial < checkpoint.mark)

/-- The length of the checkpoint still means what it meant: at least so many messages are from
before it, or none was added since; what it saw is among so many; what is gone was summarised
away; and later checkpoints stand at greater lengths. -/
structure Meant (checkpoint : Checkpoint) (before : Session) : Prop where
  length : checkpoint.historyLength ≤ (older checkpoint before).length ∨
    ∀ message ∈ before.chatHistory, message.serial < checkpoint.mark
  within : ∀ message ∈ (older checkpoint before).drop checkpoint.historyLength,
    message.serial ∈ checkpoint.seen → message.serial ∈ before.compacted
  gone : ∀ serial ∈ checkpoint.seen, serial ∈ serials before.chatHistory ∨
    serial ∈ before.compacted
  later : ∀ item ∈ before.checkpoints, checkpoint.id < item.id →
    checkpoint.historyLength < item.historyLength

/-- A history in order is the messages added before a mark and those added since. -/
theorem old_then_new (mark : Nat) {history : List ChatMessage}
    (sorted : history.Pairwise fun first second => first.serial < second.serial) :
    ∃ old new, history = old ++ new ∧ (∀ message ∈ old, message.serial < mark) ∧
      ∀ message ∈ new, mark ≤ message.serial := by
  induction history with
  | nil => exact ⟨[], [], rfl, by simp, by simp⟩
  | cons first rest inductionHypothesis =>
    obtain ⟨above, tail⟩ := List.pairwise_cons.mp sorted
    obtain ⟨old, new, whole, before, since⟩ := inductionHypothesis tail
    by_cases early : first.serial < mark
    · refine ⟨first :: old, new, by rw [whole, List.cons_append], ?_, since⟩
      intro message member
      rcases List.mem_cons.mp member with rfl | among
      · exact early
      · exact before message among
    · refine ⟨[], first :: rest, rfl, by simp, ?_⟩
      intro message member
      rcases List.mem_cons.mp member with rfl | among
      · omega
      · have := above message among
        omega

/-- A restore undoes what came after its checkpoint exactly if the length of the
checkpoint still means what it meant. -/
theorem restoreTo_undoes_iff {session : Session} {checkpoint : Checkpoint}
    (ordered : Ordered session) (listed : checkpoint ∈ session.checkpoints) :
    Undone checkpoint (restoreTo session checkpoint) ↔ Meant checkpoint session := by
  have saw := ordered.saw checkpoint listed
  obtain ⟨old, new, whole, before, since⟩ := old_then_new checkpoint.mark ordered.history.sorted
  have sorted := ordered.history.sorted
  rw [whole] at sorted
  have distinct : (serials (old ++ new)).Nodup := (List.pairwise_map.mpr sorted).imp Nat.ne_of_lt
  have oldOnes : older checkpoint session = old := by
    have kept : old.filter (fun message => decide (message.serial < checkpoint.mark)) = old :=
      List.filter_eq_self.mpr fun message member => decide_eq_true (before message member)
    have left : new.filter (fun message => decide (message.serial < checkpoint.mark)) = [] :=
      List.filter_eq_nil_iff.mpr fun message member early =>
        absurd (of_decide_eq_true early) (Nat.not_lt.mpr (since message member))
    rw [older, whole, List.filter_append, kept, left, List.append_nil]
  -- the cut leaves the old messages that the length covers, and new ones behind all of them
  have cut : (restoreTo session checkpoint).chatHistory =
      old.take checkpoint.historyLength ++ new.take (checkpoint.historyLength - old.length) := by
    rw [restoreTo, whole, List.take_append]
  constructor
  · intro undone
    refine ⟨?_, ?_, ?_, ?_⟩
    · rw [oldOnes]
      by_contra neither
      obtain ⟨short, some_⟩ := not_or.mp neither
      -- a new message would be left in front of the cut
      cases new with
      | nil => exact some_ fun message member => before message (by simpa [whole] using member)
      | cons first rest =>
        obtain ⟨extra, more⟩ : ∃ extra, checkpoint.historyLength - old.length = extra + 1 :=
          ⟨checkpoint.historyLength - old.length - 1, by omega⟩
        have left : first ∈ (restoreTo session checkpoint).chatHistory := by
          rw [cut, more, List.take_succ_cons]
          exact List.mem_append_right _ List.mem_cons_self
        have early := undone.messages first left
        have late := since first List.mem_cons_self
        omega
    · rw [oldOnes]
      intro message behind seen
      by_contra standing
      have short : checkpoint.historyLength < old.length := by
        by_contra covered
        rw [List.drop_eq_nil_of_le (Nat.not_lt.mp covered)] at behind
        cases behind
      have kept := undone.kept _ seen standing
      rw [cut, Nat.sub_eq_zero_of_le short.le, List.take_zero, List.append_nil] at kept
      -- it would stand both in front of the cut and behind it
      have apart : (serials (old.take checkpoint.historyLength ++
          old.drop checkpoint.historyLength)).Nodup := by
        rw [List.take_append_drop]
        rw [serials, List.map_append] at distinct
        exact (List.nodup_append.mp distinct).1
      rw [serials, List.map_append] at apart
      exact (List.nodup_append.mp apart).2.2 _ kept _ (List.mem_map_of_mem behind) rfl
    · intro serial member
      by_cases compacted : serial ∈ session.compacted
      · exact .inr compacted
      · left
        obtain ⟨message, among, rfl⟩ := List.mem_map.mp (undone.kept serial member compacted)
        exact List.mem_map_of_mem (List.mem_of_mem_take among)
    · intro item member after
      by_contra short
      have kept : item ∈ (restoreTo session checkpoint).checkpoints :=
        List.mem_filter.mpr ⟨member, by simpa using short⟩
      exact absurd (undone.checkpoints item kept) (Nat.not_le.mpr after)
  · intro meant
    have within := meant.within
    have length := meant.length
    rw [oldOnes] at within length
    refine ⟨?_, ?_, ?_⟩
    · intro message member
      rcases length with covered | none
      · rw [cut, Nat.sub_eq_zero_of_le covered, List.take_zero, List.append_nil] at member
        exact before message (List.mem_of_mem_take member)
      · exact none message (List.mem_of_mem_take member)
    · intro serial member standing
      rcases meant.gone serial member with there | compacted
      · obtain ⟨message, among, rfl⟩ := List.mem_map.mp there
        rw [whole] at among
        rcases List.mem_append.mp among with early | late
        · rw [← List.take_append_drop checkpoint.historyLength old] at early
          rcases List.mem_append.mp early with front | behind
          · rw [cut]
            exact List.mem_map_of_mem (List.mem_append_left _ front)
          · exact absurd (within message behind member) standing
        · have late_ := since message late
          have early := saw _ member
          omega
      · exact absurd compacted standing
    · intro item member
      obtain ⟨among, short⟩ := List.mem_filter.mp member
      by_contra after
      have higher := meant.later item among (Nat.lt_of_not_le after)
      have covered := of_decide_eq_true short
      omega

/-! ## Runs -/

/-- After the event, if it went back to a checkpoint, what came after it is undone. -/
def UndoesTarget (render : Rendering) (actor : Actor) (event : Event) : Prop :=
  ∀ next checkpoint, step render actor event = some next →
    eventTarget actor event = some checkpoint → Undone checkpoint next.session

/-- If the event goes back to a checkpoint, its length still means what it meant. -/
def TargetMeant (render : Rendering) (actor : Actor) (event : Event) : Prop :=
  ∀ next checkpoint, step render actor event = some next →
    eventTarget actor event = some checkpoint → Meant checkpoint (eventSite actor event)

/-- A step that goes back to a checkpoint undoes what came after it exactly when the length of the
checkpoint still means what it meant. -/
theorem step_undoes_iff {render : Rendering} {actor : Actor} {event : Event}
    (ordered : Ordered actor.session) :
    UndoesTarget render actor event ↔ TargetMeant render actor event := by
  refine forall_congr' fun next => forall_congr' fun checkpoint =>
    forall_congr' fun taken => forall_congr' fun targeted => ?_
  have there : Ordered (eventSite actor event) ∧
      checkpoint ∈ (eventSite actor event).checkpoints := by
    cases event with
    | act action =>
      refine ⟨site_ordered ordered action, ?_⟩
      rw [eventSite, site_checkpoints]
      exact target_listed targeted
    | take input => cases targeted
    | takeIdle loadedContext calls => cases targeted
    | proceed => cases targeted
  rw [← restoreTo_undoes_iff there.1 there.2]
  obtain ⟨history, _, checkpoints, compacted⟩ := target_controls targeted taken
  constructor
  · rintro ⟨messages, kept, earlier⟩
    exact ⟨history ▸ messages, history ▸ compacted ▸ kept, checkpoints ▸ earlier⟩
  · rintro ⟨messages, kept, earlier⟩
    exact ⟨history ▸ messages, history ▸ compacted ▸ kept, checkpoints ▸ earlier⟩

/-- A new session, and its actor free. -/
def newActor (sysPrompt : String) : Actor := ⟨create sysPrompt, .free⟩

/-- A new session is in order. -/
theorem newActor_sound (sysPrompt : String) : Sound (newActor sysPrompt) :=
  .of_ordered (create_ordered sysPrompt) rfl

/-- In every run of a session, every restore undoes exactly what came after its
checkpoint if and only if at every restore the length of the checkpoint still means
what it meant. -/
theorem restores_undo_iff_lengths_meant (render : Rendering) (sysPrompt : String)
    (events : List Event) :
    Along (step render) (UndoesTarget render) (newActor sysPrompt) events ↔
      Along (step render) (TargetMeant render) (newActor sysPrompt) events := by
  constructor
  · exact Along.imp_of_invariant Sound
      (fun _ _ _ sound _ taken => step_sound sound taken)
      (fun _ _ sound undoes => (step_undoes_iff sound.session).mp undoes) (newActor_sound sysPrompt)
  · exact Along.imp_of_invariant Sound
      (fun _ _ _ sound _ taken => step_sound sound taken)
      (fun _ _ sound meant => (step_undoes_iff sound.session).mpr meant) (newActor_sound sysPrompt)

/-- Eight proactive messages, a turn that is stopped, and an idle compaction. -/
def stoppedThenIdle : List Event :=
  List.replicate 8 (.act (.proactive "Still here." "now" Dict.empty)) ++
    [.take { question with turnId := "stopped" }, .proceed, .proceed,
      .act (.interrupted "stopped"),
      .takeIdle "" ⟨.returned, "They were idle.", .returned⟩, .proceed, .proceed]

/-- The user goes back to the checkpoint of the stopped turn. -/
def backToStopped : Event := .act (.request ⟨some .rollback, "", some 0, "", ""⟩)

/-- The checkpoint stands at length nine and seven messages are left, so going back to
it leaves the input of the turn it was made for. -/
theorem compacted_restore_keeps_input :
    ¬ Along (step textsOnly) (UndoesTarget textsOnly) (newActor "You help.")
      (stoppedThenIdle ++ [backToStopped]) := by
  intro undone
  have left : (run (step textsOnly) (newActor "You help.") stoppedThenIdle).map (fun state =>
      ((eventTarget state backToStopped).map Checkpoint.mark,
        (step textsOnly state backToStopped).map fun next => serials next.session.chatHistory)) =
        some (some 9, some [0, 4, 5, 6, 7, 8, 9]) := by decide
  obtain ⟨state, completed, sides⟩ := Option.map_eq_some_iff.mp left
  obtain ⟨marked, stepped⟩ := Prod.mk.inj sides
  obtain ⟨checkpoint, targeted, mark⟩ := Option.map_eq_some_iff.mp marked
  obtain ⟨next, taken, held⟩ := Option.map_eq_some_iff.mp stepped
  have messages := (undone.at_action completed next checkpoint taken targeted).messages
  have input : 9 ∈ serials next.session.chatHistory := by
    rw [held]
    decide
  obtain ⟨message, member, serial⟩ := List.mem_map.mp input
  have := messages message member
  omega

end MeetYou.CheckpointRestores
