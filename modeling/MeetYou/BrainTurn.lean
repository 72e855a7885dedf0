import MeetYou.BrainSession
import MeetYou.Foundation.Runs

/-!
# A turn of the brain

A turn calls the model again and again: after each round of tools, after a trim
made because the request is too long, and once more where the provider finds it too
long. Its own messages are those from `turn_input_index` on, the length of the
history when it began.

The trims shorten the history in front of that index and leave the index alone. So
the slice from the index on is the messages of the turn up to the first trim that
removes anything, and is too short from then on.
-/

namespace MeetYou.BrainTurn

open ContextBudget BrainSession Runs

/-! ## Compaction -/

/-- The length policy of a trim and of a plan. -/
def policyOf (settings : Settings) : LengthPolicy :=
  buildLengthPolicy scaled (providerFamily settings.providerName settings.apiUrl)
    settings.contextLimitTokens settings.modelLimit

/-- The usable tokens of a trim with keyword arguments. -/
def usableOf (settings : Settings) (reserveRatio : Rat) : Int :=
  usableTokens (policyOf settings) settings.modelLimit reserveRatio

/-- The usable tokens of the trim a `TypeError` leads to, which passes neither a
limit nor a provider. -/
def plainUsableOf (settings : Settings) : Int :=
  usableTokens (buildLengthPolicy scaled (providerFamily "" settings.apiUrl) 0 settings.modelLimit)
    settings.modelLimit (75 / 100)

section
variable (render : Rendering)

/-- `trim_history` as `input_brain` and `_attempt_compaction_for_budget` call it: once
more with its defaults where the first call raises a `TypeError`. -/
def attemptCompaction (settings : Settings) (reserveRatio : Rat) (first second : SummaryCalls)
    (history : List ChatMessage) : Shortened :=
  let attempt := trimHistory render (usableOf settings reserveRatio) baseMessageCount first history
  if attempt.ended = .typeError then
    let again := trimHistory render (plainUsableOf settings) 1 second attempt.history
    { again with removed := attempt.removed ++ again.removed }
  else attempt

/-- A compaction finds something to remove and gets a summary of it. -/
def CompactionRemoves (settings : Settings) (reserveRatio : Rat) (first second : SummaryCalls)
    (history : List ChatMessage) : Prop :=
  Overflows render (usableOf settings reserveRatio) baseMessageCount history ∧
    (first.summarized = .returned ∨ (first.summarized = .typeError ∧
      Overflows render (plainUsableOf settings) 1 history ∧ second.summarized = .returned))

variable {render}

/-- What a compaction does, by whether it removes anything. -/
theorem attemptCompaction_cases (settings : Settings) (reserveRatio : Rat)
    (first second : SummaryCalls) (history : List ChatMessage) :
    (¬ CompactionRemoves render settings reserveRatio first second history ∧
      (attemptCompaction render settings reserveRatio first second history).history = history ∧
      (attemptCompaction render settings reserveRatio first second history).removed = []) ∨
    (CompactionRemoves render settings reserveRatio first second history ∧
      (attemptCompaction render settings reserveRatio first second history).removed ≠ [] ∧
      Cut baseMessageCount history
        (attemptCompaction render settings reserveRatio first second history).history
        (attemptCompaction render settings reserveRatio first second history).removed) := by
  unfold attemptCompaction CompactionRemoves
  simp only
  rcases @trimHistory_cases render (usableOf settings reserveRatio) baseMessageCount first history
    with ⟨fits, same⟩ | ⟨overflows, failed, same⟩ | ⟨overflows, summarized, something, cut⟩
  · -- the history fits
    rw [same]
    exact .inl ⟨fun removes => fits removes.1, rfl, rfl⟩
  · -- no summary: a `TypeError` leads to a second call on the same history
    rw [same]
    by_cases typeError : first.summarized = .typeError
    · simp only [Shortened.unchanged, typeError, if_true]
      rcases @trimHistory_cases render (plainUsableOf settings) 1 second history
        with ⟨fits, again⟩ | ⟨_, unsummarized, again⟩ | ⟨above, summarized, something, cut⟩
      · rw [again]
        exact .inl ⟨by simp [fits], rfl, rfl⟩
      · rw [again]
        exact .inl ⟨by simp [unsummarized], rfl, rfl⟩
      · refine .inr ⟨⟨overflows, .inr ⟨trivial, above, summarized⟩⟩, ?_, ?_⟩
        · simpa using something
        · exact cut
    · simp only [Shortened.unchanged, typeError, if_false]
      exact .inl ⟨by simp [failed], trivial, trivial⟩
  · -- the first call removes; a `TypeError` after it may remove more
    refine .inr ⟨⟨overflows, .inl summarized⟩, ?_⟩
    split
    · refine ⟨by simp [something], ?_⟩
      have long := overflows.2
      exact cut.trans (by omega) (trimHistory_cuts (plainUsableOf settings) 1 second _)
    · exact ⟨something, cut⟩

end

/-! ## The loop -/

/-- What the model's stream brings. -/
structure Reply where
  content : String
  reasoning : String
  toolCalls : List ToolCall
  providerItems : List Json

/-- What the loop waits for, with what it gets: the turn-start trim; the plan, and
the compaction it may lead to; the stream, which may raise; its reply; the tools. -/
inductive TurnAction
  | trimmed (first second : SummaryCalls)
  | planned (inputs : PlanInputs) (planFails : Bool) (first second : SummaryCalls)
  | refused (contextLimitExceeded : Bool) (first second : SummaryCalls)
  | replied (reply : Reply) (switchMessages : Nat → String)
  | executed (results : Nat → String)

/-- The turn goes on in a phase. -/
def inPhase (session : Session) (turn : Turn) (phase : Phase) : Session :=
  { session with turn := some { turn with phase := phase } }

/-- The turn appends messages. -/
def append (session : Session) (turn : Turn) (messages : List Fields) : Session :=
  { session.extend messages with
    turn := some { turn with appended := turn.appended ++ numbered session.appends messages } }

/-- `{"metadata": {"transient": True}}` in a transient turn. -/
def transientMetadata (transient : Bool) : List (String × Json) :=
  if transient then [("metadata", .obj [("transient", .bool true)])] else []

/-- The message of an answer without tool calls. -/
def assistantMessage (transient : Bool) (content : String) : Fields :=
  Fields.of ([("role", .str "assistant"), ("content", .str content)] ++ transientMetadata transient)

/-- An entry of `tool_calls`. -/
def ToolCall.toJson (call : ToolCall) : Json :=
  .obj [("type", .str "function"), ("id", .str call.id),
    ("function", .obj [("name", .str call.name), ("arguments", .str call.argumentsStr)])]

/-- The message of a reply that asks for tools. -/
def toolCallAssistantMessage (turn : Turn) (reply : Reply) : Fields :=
  Fields.of ([("role", .str "assistant"),
      ("content", if reply.content = "" then .null else .str reply.content)] ++
    transientMetadata turn.transient ++
    [("tool_calls", .arr (reply.toolCalls.map ToolCall.toJson)),
      ("provider_items", .arr reply.providerItems)] ++
    if reply.reasoning ≠ "" ∨ turn.settings.keepsReasoning then
      [("reasoning_content", .str reply.reasoning)] else [])

/-- The answer to one tool call. -/
def toolMessage (content : String) (call : ToolCall) : Fields :=
  Fields.of [("role", .str "tool"), ("content", .str content), ("tool_call_id", .str call.id)]

/-- The answers to the calls of one round: `results` up to the limit, the notice
beyond it. -/
def toolMessages (limit : Option Nat) (results : Nat → String) (notice : Nat → String)
    (calls : List ToolCall) : List Fields :=
  calls.zipIdx.map fun (call, index) =>
    match limit with
    | some most => toolMessage (if index < most then results index else notice most) call
    | none => toolMessage (results index) call

/-- `_INTERNAL_MODE_SWITCH_TOOL_NAME`. -/
def modeSwitchToolName : String := "switch_assistant_mode"

section
variable (render : Rendering)

/-- A compaction of the turn; an exception of it ends the loop. -/
def compactIn (session : Session) (turn : Turn) (reserveRatio : Rat) (first second : SummaryCalls) :
    Session :=
  let result := attemptCompaction render turn.settings reserveRatio first second
    session.chatHistory
  inPhase { session with
      chatHistory := result.history
      compacted := session.compacted ++ result.removed.map ChatMessage.serial
      conversationSummary :=
        if result.ended = .returned ∧ result.summary ≠ "" then result.summary
        else session.conversationSummary }
    turn (if result.ended = .returned then .planning else .raised)

/-- `_build_context_plan`: the messages to send and the response tokens of its length
policy. Where the plan raises a `TypeError` nothing is pruned. -/
def planMessages (session : Session) (turn : Turn) (inputs : PlanInputs) (planFails : Bool) :
    List Fields × Int :=
  let historyBeforeTurn := session.chatHistory.take turn.turnInputIndex
  let currentTurnMessages := session.chatHistory.drop turn.turnInputIndex
  if planFails then
    (dicts historyBeforeTurn ++ inputs.autoMemory.toList ++ inputs.policies ++
      dicts currentTurnMessages ++ inputs.proprioception.toList, 0)
  else
    let summary := if session.conversationSummary ≠ "" then session.conversationSummary
      else Text.strip turn.settings.globalContext
    (buildContextPlan render (policyOf turn.settings) { inputs with summary := summary }
      historyBeforeTurn currentTurnMessages, (policyOf turn.settings).reservedResponseTokens)

/-- The request is over the input budget of the model. -/
def OverBudget (settings : Settings) (plan : List Fields × Int) : Prop :=
  (resolve scaled settings.contextLimitTokens plan.2 settings.thinking).inputBudget <
    estimateTokens render plan.1

instance (settings : Settings) (plan : List Fields × Int) :
    Decidable (OverBudget render settings plan) := inferInstanceAs (Decidable (_ < _))

/-- The end of a turn that answered: the replay input is stored, and a transient turn
leaves no message. -/
def completeTurn (session : Session) (turn : Turn) : Session :=
  { session with
    chatHistory := if turn.transient then session.chatHistory.take turn.turnInputIndex
      else session.chatHistory
    latestReplayInput := some {
      turnId := (session.activeTurn.map ActiveTurn.turnId).getD ""
      checkpointId := session.activeTurn.map ActiveTurn.checkpointId
      inputInfo := turn.inputInfo }
    activeTurn := none
    pendingCommand := none
    lastFinishReason := "completed"
    turn := none }

/-- One step of `input_brain`, from one awaited call to the next. -/
def turnStep (session : Session) (action : TurnAction) : Option Session :=
  session.turn.bind fun turn =>
    match turn.phase, action with
    | .starting, .trimmed first second =>
        if turn.transient then some (inPhase session turn .planning)
        else some (compactIn render session turn (75 / 100) first second)
    | .planning, .planned inputs planFails first second =>
        let plan := planMessages render session turn inputs planFails
        if OverBudget render turn.settings plan ∧ ¬turn.transient ∧
            ¬turn.preflightCompactionAttempted then
          some (compactIn render session { turn with preflightCompactionAttempted := true }
            (62 / 100) first second)
        else some (inPhase session turn (.calling
          ⟨session.chatHistory.drop turn.turnInputIndex, plan.1⟩))
    | .calling _, .refused contextLimitExceeded first second =>
        if contextLimitExceeded ∧ ¬turn.providerContextRetryAttempted ∧ ¬turn.transient then
          some (compactIn render session { turn with providerContextRetryAttempted := true }
            (58 / 100) first second)
        else some (inPhase session turn .raised)
    | .calling _, .replied reply switchMessages =>
        if reply.toolCalls = [] then
          some (completeTurn (append session turn (if reply.content = "" then []
            else [assistantMessage turn.transient reply.content])) turn)
        else
          let switches := reply.toolCalls.filter (·.name = modeSwitchToolName)
          let visible := reply.toolCalls.filter (·.name ≠ modeSwitchToolName)
          some (append session
            { turn with phase := if visible = [] then .planning else .executing visible }
            (toolCallAssistantMessage turn reply ::
              toolMessages turn.settings.maxSwitchesPerRound switchMessages
                (fun most => s!"Ignored: max_switches_per_round={most} reached.") switches))
    | .executing visible, .executed results =>
        some (append session { turn with phase := .planning }
          (toolMessages turn.settings.maxToolCallsPerRound results
            (fun most => s!"Ignored: max_tool_calls_per_round={most} reached.") visible))
    | _, _ => none

/-- The compaction a step runs: its reserve ratio and its awaited calls. -/
def compactionOf (session : Session) (turn : Turn) (action : TurnAction) :
    Option (Rat × SummaryCalls × SummaryCalls) :=
  match turn.phase, action with
  | .starting, .trimmed first second =>
      if turn.transient then none else some (75 / 100, first, second)
  | .planning, .planned inputs planFails first second =>
      if OverBudget render turn.settings (planMessages render session turn inputs planFails) ∧
          ¬turn.transient ∧ ¬turn.preflightCompactionAttempted then
        some (62 / 100, first, second)
      else none
  | .calling _, .refused contextLimitExceeded first second =>
      if contextLimitExceeded ∧ ¬turn.providerContextRetryAttempted ∧ ¬turn.transient then
        some (58 / 100, first, second)
      else none
  | _, _ => none

/-- The step is no trim, or a trim that finds nothing to remove. -/
def TrimsNothing (session : Session) (action : TurnAction) : Prop :=
  ∀ turn, session.turn = some turn → ∀ ratio first second,
    compactionOf render session turn action = some (ratio, first, second) →
      ¬ CompactionRemoves render turn.settings ratio first second session.chatHistory

variable {render}

/-- A turn that differs only in where it stands and which retries it has used. -/
def SameMessages (turn later : Turn) : Prop :=
  later.turnInputIndex = turn.turnInputIndex ∧ later.appended = turn.appended ∧
    later.settings = turn.settings

/-- Everything a step of the turn can do. -/
theorem turnStep_cases {session next : Session} {turn : Turn} {action : TurnAction}
    (running : session.turn = some turn) (taken : turnStep render session action = some next) :
    (∃ later ratio first second, SameMessages turn later ∧
      compactionOf render session turn action = some (ratio, first, second) ∧
      next = compactIn render session later ratio first second) ∨
    (compactionOf render session turn action = none ∧
      ((∃ phase, (∀ call, phase ≠ .calling call) ∧ next = inPhase session turn phase) ∨
        (∃ inputs planFails, next = inPhase session turn (.calling
          ⟨session.chatHistory.drop turn.turnInputIndex,
            (planMessages render session turn inputs planFails).1⟩)) ∨
        (∃ phase messages, (∀ call, phase ≠ .calling call) ∧
          next = append session { turn with phase := phase } messages) ∨
        (∃ messages, next = completeTurn (append session turn messages) turn))) := by
  simp only [turnStep, running, Option.bind_some] at taken
  split at taken
  · -- the trim at the start of the turn
    rename_i first second starting
    simp only [compactionOf, starting]
    split at taken
    · rename_i transient
      simp only [transient, if_true]
      exact .inr ⟨trivial, .inl ⟨.planning, by simp, (Option.some.inj taken).symm⟩⟩
    · rename_i lasting
      simp only [lasting]
      exact .inl ⟨turn, _, first, second, ⟨rfl, rfl, rfl⟩,
        rfl, (Option.some.inj taken).symm⟩
  · -- the plan, and the compaction before a call that is too long
    rename_i inputs planFails first second planning
    simp only [compactionOf, planning]
    split at taken
    · rename_i finished
      rw [if_pos finished]
      exact .inl ⟨{ turn with preflightCompactionAttempted := true }, _, first, second, ⟨rfl, rfl, rfl⟩,
        rfl, (Option.some.inj taken).symm⟩
    · rename_i within
      rw [if_neg within]
      exact .inr ⟨rfl, .inr (.inl ⟨inputs, planFails, (Option.some.inj taken).symm⟩)⟩
  · -- the stream raises
    rename_i call contextLimitExceeded first second calling
    simp only [compactionOf, calling]
    split at taken
    · rename_i retry
      rw [if_pos retry]
      exact .inl ⟨{ turn with providerContextRetryAttempted := true }, _, first, second, ⟨rfl, rfl, rfl⟩,
        rfl, (Option.some.inj taken).symm⟩
    · rename_i ends
      rw [if_neg ends]
      exact .inr ⟨rfl, .inl ⟨.raised, by simp, (Option.some.inj taken).symm⟩⟩
  · -- the reply: an answer, or a round of tools
    rename_i call reply switchMessages calling
    simp only [compactionOf, calling]
    split at taken
    · exact .inr ⟨trivial, .inr (.inr (.inr ⟨_, (Option.some.inj taken).symm⟩))⟩
    · refine .inr ⟨trivial, .inr (.inr (.inl ⟨_, _, ?_, (Option.some.inj taken).symm⟩))⟩
      intro other
      split <;> simp
  · rename_i visible results executing
    simp only [compactionOf, executing]
    exact .inr ⟨trivial, .inr (.inr (.inl ⟨.planning, _, by simp, (Option.some.inj taken).symm⟩))⟩
  · cases taken

end

/-! ## The messages of the turn -/

section
variable {render : Rendering}

/-- The slice from the index on is what the turn appended. -/
def Whole (session : Session) (turn : Turn) : Prop :=
  turn.appended ≠ [] ∧ turn.turnInputIndex ≤ session.chatHistory.length ∧
    session.chatHistory.drop turn.turnInputIndex = turn.appended

/-- The history is shorter than the index and the turn's messages together. -/
def Short (session : Session) (turn : Turn) : Prop :=
  turn.appended ≠ [] ∧
    session.chatHistory.length < turn.turnInputIndex + turn.appended.length

/-- The property holds of the running turn, if one runs. -/
def OfTurn (property : Session → Turn → Prop) (session : Session) : Prop :=
  ∀ turn, session.turn = some turn → property session turn

/-- A history that lost a message cannot hold the turn behind its index. -/
theorem Short.not_whole {session : Session} {turn : Turn} (short : Short session turn) :
    session.chatHistory.drop turn.turnInputIndex ≠ turn.appended := by
  intro same
  have length := congrArg List.length same
  rw [List.length_drop] at length
  have := List.length_pos_iff.mpr short.1
  have := short.2
  omega

theorem Whole.length {session : Session} {turn : Turn} (whole : Whole session turn) :
    session.chatHistory.length = turn.turnInputIndex + turn.appended.length := by
  have length := congrArg List.length whole.2.2
  rw [List.length_drop] at length
  have := whole.2.1
  omega

@[simp] theorem numbered_length (first : Nat) (messages : List Fields) :
    (numbered first messages).length = messages.length := by
  simp [numbered]

/-- The turn's own messages go behind those it has. -/
theorem append_whole {session : Session} {turn later : Turn} (same : SameMessages turn later)
    (messages : List Fields) (whole : Whole session turn) :
    OfTurn Whole (append session later messages) := by
  intro next running
  obtain rfl := Option.some.inj running
  obtain ⟨index, appended, _⟩ := same
  simp only [Whole, append, Session.extend, index, appended, List.length_append]
  refine ⟨List.append_ne_nil_of_left_ne_nil whole.1 _, Nat.le_add_right_of_le whole.2.1, ?_⟩
  rw [List.drop_append_of_le_length whole.2.1, whole.2.2]

theorem append_short {session : Session} {turn later : Turn} (same : SameMessages turn later)
    (messages : List Fields) (short : Short session turn) :
    OfTurn Short (append session later messages) := by
  intro next running
  obtain rfl := Option.some.inj running
  obtain ⟨index, appended, _⟩ := same
  have below := short.2
  simp only [Short, append, Session.extend, index, appended, List.length_append, numbered_length]
  exact ⟨List.append_ne_nil_of_left_ne_nil short.1 _, by omega⟩

/-- A turn that trims nothing keeps its messages behind the index. -/
theorem turnStep_whole {session next : Session} {action : TurnAction}
    (whole : OfTurn Whole session) (nothing : TrimsNothing render session action)
    (taken : turnStep render session action = some next) : OfTurn Whole next := by
  cases running : session.turn with
  | none => simp [turnStep, running] at taken
  | some turn =>
    have kept := whole turn running
    rcases turnStep_cases running taken with
      ⟨later, ratio, first, second, ⟨index, appended, settings⟩, compaction, rfl⟩ |
        ⟨_, ⟨phase, _, rfl⟩ | ⟨inputs, planFails, rfl⟩ | ⟨phase, messages, _, rfl⟩ |
          ⟨messages, rfl⟩⟩
    · -- a trim that removes nothing
      have idle := nothing turn running ratio first second compaction
      rw [← settings] at idle
      rcases attemptCompaction_cases later.settings ratio first second session.chatHistory
        with ⟨_, same, _⟩ | ⟨removes, _⟩
      · intro final going
        obtain rfl := Option.some.inj going
        simp only [Whole, compactIn, inPhase, index, appended]
        rwa [same]
      · exact absurd removes idle
    · intro final going
      obtain rfl := Option.some.inj going
      exact kept
    · intro final going
      obtain rfl := Option.some.inj going
      exact kept
    · exact append_whole ⟨rfl, rfl, rfl⟩ messages kept
    · intro final going
      cases going

/-- What has been lost in front of the index stays lost. -/
theorem turnStep_short {session next : Session} {action : TurnAction}
    (short : OfTurn Short session) (taken : turnStep render session action = some next) :
    OfTurn Short next := by
  cases running : session.turn with
  | none => simp [turnStep, running] at taken
  | some turn =>
    have lost := short turn running
    rcases turnStep_cases running taken with
      ⟨later, ratio, first, second, ⟨index, appended, _⟩, _, rfl⟩ |
        ⟨_, ⟨phase, _, rfl⟩ | ⟨inputs, planFails, rfl⟩ | ⟨phase, messages, _, rfl⟩ |
          ⟨messages, rfl⟩⟩
    · intro final going
      obtain rfl := Option.some.inj going
      simp only [Short, compactIn, inPhase, index, appended]
      rcases attemptCompaction_cases later.settings ratio first second session.chatHistory
        with ⟨_, same, _⟩ | ⟨_, _, cut⟩
      · rwa [same]
      · have counted := cut.length
        have below := lost.2
        exact ⟨lost.1, by omega⟩
    · intro final going
      obtain rfl := Option.some.inj going
      exact lost
    · intro final going
      obtain rfl := Option.some.inj going
      exact lost
    · exact append_short ⟨rfl, rfl, rfl⟩ messages lost
    · intro final going
      cases going

/-- A trim that removes something leaves the slice behind the index too short. -/
theorem turnStep_loses {session next : Session} {action : TurnAction}
    (whole : OfTurn Whole session) (something : ¬ TrimsNothing render session action)
    (taken : turnStep render session action = some next) : OfTurn Short next := by
  simp only [TrimsNothing, Classical.not_forall, not_not] at something
  obtain ⟨turn, running, ratio, first, second, compaction, removes⟩ := something
  have kept := (whole turn running).length
  rcases turnStep_cases running taken with
    ⟨later, _, _, _, ⟨index, appended, settings⟩, found, rfl⟩ | ⟨other, _⟩
  · obtain ⟨rfl, rfl, rfl⟩ : _ ∧ _ ∧ _ := by
      simpa using compaction.symm.trans found
    intro final going
    obtain rfl := Option.some.inj going
    simp only [Short, compactIn, inPhase, index, appended, settings]
    rcases attemptCompaction_cases turn.settings ratio first second session.chatHistory
      with ⟨idle, _⟩ | ⟨_, removed, cut⟩
    · exact absurd removes idle
    · have counted := cut.length
      have := List.length_pos_iff.mpr removed
      exact ⟨(whole turn running).1, by omega⟩
  · rw [compaction] at other
    cases other

/-- Along a turn the messages are whole as long as every trim found nothing to remove,
and short once one did. -/
theorem run_whole_or_short {session final : Session} {actions : List TurnAction}
    (whole : OfTurn Whole session)
    (completed : run (turnStep render) session actions = some final) :
    (Along (turnStep render) (TrimsNothing render) session actions ∧ OfTurn Whole final) ∨
      (¬ Along (turnStep render) (TrimsNothing render) session actions ∧ OfTurn Short final) := by
  induction actions generalizing session with
  | nil =>
    obtain rfl := Option.some.inj completed
    exact .inl ⟨trivial, whole⟩
  | cons action rest inductionHypothesis =>
    obtain ⟨next, taken, remaining⟩ := run_cons.mp completed
    by_cases nothing : TrimsNothing render session action
    · rcases inductionHypothesis (turnStep_whole whole nothing taken) remaining with
        ⟨along, kept⟩ | ⟨broken, lost⟩
      · exact .inl ⟨along_cons nothing taken along, kept⟩
      · exact .inr ⟨fun along => broken (along.2 next taken), lost⟩
    · refine .inr ⟨fun along => nothing along.1, ?_⟩
      have unconditional : Along (turnStep render) (fun _ _ => True) next rest :=
        along_of_mem (fun _ _ _ => trivial) next
      exact run_preserves (fun state action later lost _ step => turnStep_short lost step)
        (turnStep_loses whole nothing taken) unconditional remaining

/-- What a running model call was given: the slice from the index on, every message of
which is sent. -/
def Given (session : Session) (turn : Turn) : Prop :=
  ∀ call, turn.phase = .calling call →
    call.currentTurnMessages = session.chatHistory.drop turn.turnInputIndex ∧
      (dicts call.currentTurnMessages).Sublist call.messages

/-- The plan sends the slice from the index on, pruned or not. -/
theorem planMessages_sends (session : Session) (turn : Turn) (inputs : PlanInputs)
    (planFails : Bool) :
    (dicts (session.chatHistory.drop turn.turnInputIndex)).Sublist
      (planMessages render session turn inputs planFails).1 := by
  unfold planMessages
  simp only
  split
  · exact (List.sublist_append_right _ _).trans (List.sublist_append_left _ _)
  · exact buildContextPlan_sends _ _ _ _ _

theorem turnStep_given {session next : Session} {action : TurnAction}
    (taken : turnStep render session action = some next) : OfTurn Given next := by
  cases running : session.turn with
  | none => simp [turnStep, running] at taken
  | some turn =>
    intro later going call calling
    rcases turnStep_cases running taken with
      ⟨other, ratio, first, second, _, _, rfl⟩ |
        ⟨_, ⟨phase, silent, rfl⟩ | ⟨inputs, planFails, rfl⟩ | ⟨phase, messages, silent, rfl⟩ |
          ⟨messages, rfl⟩⟩
    · obtain rfl := Option.some.inj going
      simp only at calling
      split at calling <;> cases calling
    · obtain rfl := Option.some.inj going
      exact absurd calling (silent call)
    · obtain rfl := Option.some.inj going
      obtain rfl := Phase.calling.inj calling
      exact ⟨rfl, planMessages_sends session turn inputs planFails⟩
    · obtain rfl := Option.some.inj going
      exact absurd calling (silent call)
    · cases going

/-- The turn begins with its input as its only message. -/
theorem beginTurn_whole (session : Session) (input : TurnInput) :
    OfTurn Whole (beginTurn render session input) := by
  intro turn running
  obtain rfl := Option.some.inj running
  simp [Whole, beginTurn, openTurn, openTurnAt, Session.extend, Session.createReplyCheckpoint,
    numbered]

/-- The model call carries the turn: its messages are the suffix of the history from
the index on, are handed to the plan as the current turn, and are sent in order. -/
def CarriesTurn (session : Session) (turn : Turn) (call : ModelCall) : Prop :=
  session.chatHistory.drop turn.turnInputIndex = turn.appended ∧
    call.currentTurnMessages = turn.appended ∧ (dicts turn.appended).Sublist call.messages

/-- At every model call of every turn, the call carries the turn exactly if every trim
of the turn so far found nothing to remove. -/
theorem call_carries_turn_iff_trims_nothing (session : Session) (input : TurnInput)
    (actions : List TurnAction) (final : Session) (turn : Turn) (call : ModelCall)
    (completed : run (turnStep render) (beginTurn render session input) actions = some final)
    (running : final.turn = some turn) (calling : turn.phase = .calling call) :
    CarriesTurn final turn call ↔
      Along (turnStep render) (TrimsNothing render) (beginTurn render session input) actions := by
  have given : OfTurn Given final := by
    have unconditional : Along (turnStep render) (fun _ _ => True)
        (beginTurn render session input) actions := along_of_mem (fun _ _ _ => trivial) _
    refine run_preserves (fun _ _ _ _ _ taken => turnStep_given taken) ?_ unconditional completed
    intro first going call early
    obtain rfl := Option.some.inj going
    cases early
  obtain ⟨same, sent⟩ := given turn running call calling
  rcases run_whole_or_short (beginTurn_whole session input) completed with
    ⟨along, whole⟩ | ⟨broken, lost⟩
  · have suffix := (whole turn running).2.2
    exact iff_of_true ⟨suffix, same.trans suffix, by rwa [same, suffix] at sent⟩ along
  · exact iff_of_false (fun carries => (lost turn running).not_whole carries.1) broken

end

/-! A session that is over its limit when the turn begins. -/

/-- All values of the run are texts. -/
def textsOnly : Rendering := ⟨fun _ => "", fun _ => ""⟩

def said (serial : Nat) (role text : String) : ChatMessage :=
  ⟨serial, Fields.of [("role", .str role), ("content", .str text)]⟩

/-- 20 tokens. -/
def longText : String := "a text of thirty-six letters in all."

def longSession : Session :=
  { create "You help." with
    chatHistory := [baseMessage "You help.", said 1 "user" longText, said 2 "assistant" longText]
    appends := 3 }

/-- A question to a model with a limit of 40 tokens. -/
def question : TurnInput where
  inputInfo := Fields.of [("role", .str "user"), ("content", .str "And then?")]
  contextThreadId := ""
  loadedContext := ""
  hydrated := none
  turnId := "turn"
  streamId := "stream"
  settings := {
    providerName := ""
    apiUrl := ""
    modelLimit := 40
    contextLimitTokens := 40
    thinking := ⟨some false, 0⟩
    keepsReasoning := false
    maxSwitchesPerRound := none
    maxToolCallsPerRound := none
    globalContext := "" }

/-- The turn-start trim gets a summary, and the model is called. -/
def untilCalled : List TurnAction :=
  let summarized : SummaryCalls := ⟨.returned, "They talked.", .returned⟩
  [.trimmed summarized summarized,
    .planned ⟨none, [], none, "", none, none⟩ false summarized summarized]

/-- The model is called with an empty current turn: the trim took the oldest message,
and the input stands in front of the index. -/
theorem long_session_called :
    ∃ final turn call,
      run (turnStep textsOnly) (beginTurn textsOnly longSession question) untilCalled = some final ∧
        final.turn = some turn ∧ turn.phase = .calling call ∧ turn.appended.length = 1 ∧
          call.currentTurnMessages = [] := by
  have ran : (run (turnStep textsOnly) (beginTurn textsOnly longSession question)
      untilCalled).map (fun state => state.turn.map fun turn => (turn.appended.length,
        match turn.phase with
        | .calling call => some call.currentTurnMessages.length
        | _ => none)) = some (some (1, some 0)) := by decide +kernel
  obtain ⟨final, completed, reached⟩ := Option.map_eq_some_iff.mp ran
  obtain ⟨turn, running, counted⟩ := Option.map_eq_some_iff.mp reached
  obtain ⟨one, rest⟩ := Prod.mk.inj counted
  cases phase : turn.phase with
  | calling call =>
    rw [phase] at rest
    exact ⟨final, turn, call, completed, running, phase, one,
      List.length_eq_zero_iff.mp (Option.some.inj rest)⟩
  | starting => simp [phase] at rest
  | planning => simp [phase] at rest
  | executing calls => simp [phase] at rest
  | raised => simp [phase] at rest

/-- The characterisation at that call. -/
theorem long_session_call_decided :
    ∃ final turn call,
      run (turnStep textsOnly) (beginTurn textsOnly longSession question) untilCalled = some final ∧
        final.turn = some turn ∧ turn.phase = .calling call ∧
          (CarriesTurn final turn call ↔ Along (turnStep textsOnly) (TrimsNothing textsOnly)
            (beginTurn textsOnly longSession question) untilCalled) := by
  obtain ⟨final, turn, call, completed, running, calling, _⟩ := long_session_called
  exact ⟨final, turn, call, completed, running, calling,
    call_carries_turn_iff_trims_nothing longSession question untilCalled final turn call
      completed running calling⟩

/-- Not every model call carries its turn. -/
theorem trimmed_call_drops_turn :
    ¬ ∀ (session : Session) (input : TurnInput) (actions : List TurnAction) (final : Session)
      (turn : Turn) (call : ModelCall),
      run (turnStep textsOnly) (beginTurn textsOnly session input) actions = some final →
        final.turn = some turn → turn.phase = .calling call → CarriesTurn final turn call := by
  intro carried
  obtain ⟨final, turn, call, completed, running, calling, one, empty⟩ := long_session_called
  have handed := (carried longSession question untilCalled final turn call completed running
    calling).2.1
  have counted := congrArg List.length handed
  rw [empty, one] at counted
  cases counted

end MeetYou.BrainTurn
