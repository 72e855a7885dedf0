import MeetYou.ChatMessages
import MeetYou.Foundation.Results

/-!
# The tool calls that a model is shown

What the adapter keeps of a history is a sequence of plain messages and of calls with just
their answers. In such a sequence every call that is not at the end becomes text. As the plan
of a model call ends with a system message, that is every call: a provider that wants the
reasoning of tool calls back is never shown one.
-/

namespace MeetYou.OpenAIAdapter

open ContextBudget BrainSession BrainTurn

section
variable (render : Rendering)

/-- An assistant's message with tool calls that are answered behind it, and none later. -/
def AnsweredChain (messages : List Fields) (assistant : Fields) : Prop :=
  ∃ front back, messages = front ++ assistant :: back ∧ roleOf render assistant = "assistant" ∧
    toolCallsOf assistant ≠ [] ∧ (∀ call ∈ toolCallsOf assistant, callId render call ≠ "") ∧
    (∀ later ∈ back, roleOf render later = "assistant" → toolCallsOf later = []) ∧
    ∀ id ∈ toolCallIds render assistant, ∃ answer ∈ back,
      roleOf render answer = "tool" ∧ toolCallId render answer = id

/-- The calls of a message stand in a request in protocol form. -/
def ShowsChain (formatted : List Fields) (assistant : Fields) : Prop :=
  ∃ shown ∈ formatted, roleOf render shown = "assistant" ∧
    toolCallIds render shown = toolCallIds render assistant ∧
    ∀ id ∈ toolCallIds render assistant, ∃ answer ∈ formatted,
      roleOf render answer = "tool" ∧ toolCallId render answer = id

/-- The request shows the answered calls of the turn, and no others. -/
def ActiveChainVisible (turnMessages : List Fields) (request : Option (List Fields)) : Prop :=
  ∀ assistant, AnsweredChain render turnMessages assistant →
    ∃ formatted, request = some formatted ∧ ShowsChain render formatted assistant ∧
      ∀ shown ∈ formatted, roleOf render shown = "assistant" → toolCallIds render shown ≠ [] →
        toolCallIds render shown = toolCallIds render assistant

/-- The messages answer every call, once. -/
structure Answers (callIds : List String) (results : List Fields) : Prop where
  role : ∀ result ∈ results, roleOf render result = "tool"
  among : ∀ result ∈ results, toolCallId render result ∈ callIds
  distinct : (results.map (toolCallId render)).Nodup
  all : results.length = callIds.length

/-- A message that calls no tool. -/
def NoCalls (message : Fields) : Prop :=
  roleOf render message = "assistant" → assistantCallIds render message = []

/-- Plain messages, and calls with their answers. -/
inductive Chained : List Fields → Prop
  | nil : Chained []
  | plain {message : Fields} {rest : List Fields} : NoCalls render message → Chained rest →
      Chained (message :: rest)
  | chain {assistant : Fields} {results rest : List Fields} :
      roleOf render assistant = "assistant" → assistantCallIds render assistant ≠ [] →
      Answers render (assistantCallIds render assistant) results → Chained rest →
      Chained (assistant :: (results ++ rest))

variable {render}

theorem Chained.append {first second : List Fields} (left : Chained render first)
    (right : Chained render second) : Chained render (first ++ second) := by
  induction left with
  | nil => exact right
  | plain noCalls _ inductionHypothesis => exact .plain noCalls inductionHypothesis
  | chain role some_ answers _ inductionHypothesis =>
    rw [List.cons_append, List.append_assoc]
    exact .chain role some_ answers inductionHypothesis

/-! ## What is kept -/

/-- What has been kept is a sequence of plain messages and answered calls, and what is
collected belongs to the pending call. -/
structure Collecting (state : Sanitizing) : Prop where
  chained : Chained render state.sanitized
  pending : ∀ assistant, state.pendingAssistant = some assistant →
    roleOf render assistant = "assistant" ∧ assistantCallIds render assistant ≠ [] ∧
      state.pendingCallIds = assistantCallIds render assistant
  role : ∀ result ∈ state.pendingToolMessages, roleOf render result = "tool"
  among : ∀ result ∈ state.pendingToolMessages, toolCallId render result ∈ state.pendingCallIds
  seen : state.seenToolCallIds = state.pendingToolMessages.map (toolCallId render)
  distinct : state.seenToolCallIds.Nodup

/-- Nothing is collected yet. -/
theorem collecting_none {sanitized : List Fields} (chained : Chained render sanitized) :
    @Collecting render ⟨sanitized, none, [], [], []⟩ where
  chained := chained
  pending := fun _ nothing => nomatch nothing
  role := fun _ nothing => nomatch nothing
  among := fun _ nothing => nomatch nothing
  seen := rfl
  distinct := List.nodup_nil

/-- An answer that is asked for is collected. -/
theorem Collecting.receive {state : Sanitizing} (collecting : @Collecting render state)
    {message : Fields} (isTool : roleOf render message = "tool")
    (asked : toolCallId render message ∈ state.pendingCallIds)
    (unseen : toolCallId render message ∉ state.seenToolCallIds) :
    @Collecting render { state with
      pendingToolMessages := state.pendingToolMessages ++ [message]
      seenToolCallIds := state.seenToolCallIds ++ [toolCallId render message] } where
  chained := collecting.chained
  pending := collecting.pending
  role := by
    intro result inside
    rcases List.mem_append.mp inside with before | new
    · exact collecting.role result before
    · exact List.mem_singleton.mp new ▸ isTool
  among := by
    intro result inside
    rcases List.mem_append.mp inside with before | new
    · exact collecting.among result before
    · exact List.mem_singleton.mp new ▸ asked
  seen := by
    rw [List.map_append, ← collecting.seen]
    rfl
  distinct := List.nodup_append.mpr ⟨collecting.distinct, List.nodup_singleton _,
    fun id before other new => by
      rw [List.mem_singleton.mp new]
      rintro rfl
      exact unseen before⟩

/-- What is collected answers the pending call once it is as long as its identifiers. -/
theorem Collecting.answers {state : Sanitizing} (collecting : @Collecting render state)
    {assistant : Fields} (pending : state.pendingAssistant = some assistant)
    (complete : state.seenToolCallIds.length = state.pendingCallIds.length) :
    Answers render (assistantCallIds render assistant) state.pendingToolMessages := by
  obtain ⟨-, -, expected⟩ := collecting.pending assistant pending
  have distinct := collecting.distinct
  rw [collecting.seen] at complete distinct
  rw [List.length_map] at complete
  exact ⟨collecting.role, expected ▸ collecting.among, distinct, expected ▸ complete⟩

/-- One round keeps it so. -/
theorem collecting_step {state : Sanitizing} (collecting : @Collecting render state)
    (message : Fields) : @Collecting render (sanitizeMessage render state message) := by
  unfold sanitizeMessage
  dsimp only
  generalize ids : (if roleOf render message = "assistant" then assistantCallIds render message
    else []) = assistantIds
  by_cases calls : assistantIds ≠ []
  · rw [if_pos calls]
    have role : roleOf render message = "assistant" := by
      by_contra other
      rw [if_neg other] at ids
      exact calls ids.symm
    rw [if_pos role] at ids
    subst ids
    refine ⟨collecting.chained, ?_, List.forall_mem_nil _, List.forall_mem_nil _, rfl,
      List.nodup_nil⟩
    rintro assistant same
    cases same
    exact ⟨role, calls, rfl⟩
  · rw [if_neg calls]
    have noCalls : NoCalls render message := by
      intro role
      rw [if_pos role] at ids
      exact ids.trans (not_not.mp calls)
    split
    case isTrue waiting =>
      obtain ⟨assistant, pending⟩ := Option.isSome_iff_exists.mp waiting
      obtain ⟨isAssistant, asks, expected⟩ := collecting.pending assistant pending
      split
      · exact collecting_none (collecting.chained.append (.plain noCalls .nil))
      case isFalse isTool =>
        split
        case isFalse => exact collecting
        case isTrue asked =>
          have received := collecting.receive (not_not.mp isTool) asked.1 asked.2
          split
          case isFalse => exact received
          case isTrue complete =>
            -- the last answer: the call goes over to what is kept
            have answers := received.answers pending complete
            unfold Sanitizing.flushPending
            rw [pending]
            dsimp only
            refine collecting_none ?_
            have last := Chained.chain isAssistant asks answers .nil
            rw [List.append_nil] at last
            exact collecting.chained.append last
    case isFalse idle =>
      split
      · exact collecting
      · have nothing : state.pendingAssistant = none := Option.not_isSome_iff_eq_none.mp idle
        refine ⟨collecting.chained.append (.plain noCalls .nil), ?_, collecting.role,
          collecting.among, collecting.seen, collecting.distinct⟩
        intro assistant pending
        rw [Sanitizing.keep, nothing] at pending
        cases pending

/-- What is kept of any messages. -/
theorem sanitize_chained (messages : List Fields) :
    Chained render (sanitizeToolMessageHistory render messages) := by
  have kept : ∀ (messages : List Fields) (state : Sanitizing), @Collecting render state →
      @Collecting render (messages.foldl (sanitizeMessage render) state) := by
    intro messages
    induction messages with
    | nil => exact fun _ collecting => collecting
    | cons message rest inductionHypothesis =>
      exact fun state collecting => inductionHypothesis _ (collecting_step collecting message)
  exact (kept messages _ (collecting_none .nil)).chained

/-- A last message that is neither the assistant's nor an answer stays the last. -/
theorem sanitize_last (messages : List Fields) {last : Fields}
    (notAssistant : roleOf render last ≠ "assistant") (notTool : roleOf render last ≠ "tool") :
    ∃ front, sanitizeToolMessageHistory render (messages ++ [last]) = front ++ [last] := by
  unfold sanitizeToolMessageHistory
  rw [List.foldl_append, List.foldl_cons, List.foldl_nil]
  generalize messages.foldl (sanitizeMessage render) _ = state
  unfold sanitizeMessage
  dsimp only
  rw [if_neg (by rw [if_neg notAssistant]; exact fun some_ => some_ rfl)]
  by_cases waiting : state.pendingAssistant.isSome
  · rw [if_pos waiting, if_pos notTool]
    exact ⟨state.sanitized, rfl⟩
  · rw [if_neg waiting, if_neg notTool]
    exact ⟨state.sanitized, rfl⟩

/-- Messages that end so have no call at their end. -/
theorem activeTail_none (front : List Fields) {last : Fields}
    (notAssistant : roleOf render last ≠ "assistant") (notTool : roleOf render last ≠ "tool") :
    activeTailToolChainStart render (front ++ [last]) = none := by
  unfold activeTailToolChainStart
  rw [List.rdropWhile_concat_neg _ _ _ (by simpa using notTool)]
  simp [notAssistant]

/-! ## What becomes text -/

/-- The answers of a call are found behind it. -/
theorem resultMessages_self {callIds : List String} (rest : List Fields) {results : List Fields}
    {seenIds : List String} (some_ : ∀ id ∈ callIds, id ≠ "") (remaining : results ≠ [])
    (role : ∀ result ∈ results, roleOf render result = "tool")
    (among : ∀ result ∈ results, toolCallId render result ∈ callIds)
    (before : ∀ id ∈ seenIds, id ∈ callIds)
    (distinct : (seenIds.reverse ++ results.map (toolCallId render)).Nodup)
    (all : seenIds.length + results.length = callIds.length) :
    resultMessages render callIds seenIds (results ++ rest) = results := by
  induction results generalizing seenIds with
  | nil => exact absurd rfl remaining
  | cons result others inductionHypothesis =>
    have asked := among result List.mem_cons_self
    rw [List.cons_append, resultMessages, if_pos ⟨role result List.mem_cons_self, some_ _ asked, asked⟩]
    have within : ∀ id ∈ toolCallId render result :: seenIds, id ∈ callIds := by
      intro id inside
      rcases List.mem_cons.mp inside with rfl | earlier
      · exact asked
      · exact before id earlier
    have apart : ((toolCallId render result :: seenIds).reverse ++
        others.map (toolCallId render)).Nodup := by
      rw [List.reverse_cons, List.append_assoc]
      exact distinct
    by_cases finished : others = []
    · subst finished
      have front : (toolCallId render result :: seenIds).Nodup := by
        rw [List.map_nil, List.append_nil] at apart
        exact List.nodup_reverse.mp apart
      have same := (List.subperm_of_subset front within).perm_of_length_le
        (by rw [List.length_cons]; simp only [List.length_cons, List.length_nil] at all; omega)
      rw [if_pos fun other inside => same.mem_iff.mpr inside]
    · obtain ⟨next, following, rfl⟩ := List.exists_cons_of_ne_nil finished
      rw [if_neg]
      · rw [inductionHypothesis finished (fun other inside => role other
          (List.mem_cons_of_mem _ inside)) (fun other inside => among other
          (List.mem_cons_of_mem _ inside)) within apart
          (by simp only [List.length_cons] at all ⊢; omega)]
      · intro covered
        have repeated := covered _ (among next (List.mem_cons_of_mem _ List.mem_cons_self))
        have disjoint := (List.nodup_append.mp apart).2.2
        exact disjoint _ (List.mem_reverse.mpr repeated) _ List.mem_cons_self rfl

theorem assistantCallIds_ne (message : Fields) : ∀ id ∈ assistantCallIds render message,
    id ≠ "" := by
  intro id inside
  unfold assistantCallIds toolCallIds at inside
  dsimp only at inside
  split at inside
  · exact of_decide_eq_true (List.mem_filter.mp inside).2
  · exact of_decide_eq_true (List.mem_filter.mp inside).2

theorem collapsedMessage_noCalls {message : Fields} {results : List Fields} {collapsed : Fields}
    (made : collapsedMessage render message results = some collapsed) :
    NoCalls render collapsed := by
  obtain ⟨summaries, _, rfl⟩ := Option.map_eq_some_iff.mp made
  intro _
  rfl

/-- Where no call is kept, none is left. -/
theorem collapseLoop_noCalls {messages : List Fields} (chained : Chained render messages) :
    ∀ (rounds index : Nat) (collapsed : List Fields),
      collapseLoop render none rounds index messages = some collapsed →
        ∀ message ∈ collapsed, NoCalls render message := by
  induction chained with
  | nil =>
    intro rounds index collapsed made
    cases rounds <;> (cases made; exact fun _ nothing => nomatch nothing)
  | @plain first rest noCalls _ inductionHypothesis =>
    intro rounds index collapsed made
    cases rounds with
    | zero =>
      cases made
      exact fun _ nothing => nomatch nothing
    | succ rounds =>
      have kept : ((collapseLoop render none rounds (index + 1) rest).map fun later =>
          first :: later) = some collapsed := by
        rw [collapseLoop] at made
        dsimp only at made
        rw [if_neg (by simp)] at made
        split at made
        · exact made
        case isFalse assistant =>
          rw [if_pos (noCalls (not_not.mp assistant))] at made
          exact made
      obtain ⟨later, remaining, rfl⟩ := Option.map_eq_some_iff.mp kept
      intro message inside
      rcases List.mem_cons.mp inside with rfl | after
      · exact noCalls
      · exact inductionHypothesis rounds _ later remaining message after
  | @chain assistant results rest isAssistant calls answers _ inductionHypothesis =>
    intro rounds index collapsed made
    cases rounds with
    | zero =>
      cases made
      exact fun _ nothing => nomatch nothing
    | succ rounds =>
      have some_ : results ≠ [] := by
        rintro rfl
        exact calls (List.length_eq_zero_iff.mp answers.all.symm)
      have found := @resultMessages_self render _ rest _ [] (assistantCallIds_ne assistant) some_
        answers.role answers.among (fun _ nothing => nomatch nothing) answers.distinct
        ((Nat.zero_add _).trans answers.all)
      have covered : ∀ id ∈ assistantCallIds render assistant,
          id ∈ results.map (toolCallId render) := by
        have same := (List.subperm_of_subset answers.distinct (fun id inside => by
          obtain ⟨result, among, rfl⟩ := List.mem_map.mp inside
          exact answers.among result among)).perm_of_length_le
            (by rw [List.length_map, answers.all])
        exact fun id inside => same.mem_iff.mpr inside
      rw [collapseLoop] at made
      dsimp only at made
      rw [if_neg (by simp), if_neg (not_not.mpr isAssistant), if_neg calls, found,
        if_pos covered, List.drop_left] at made
      obtain ⟨text, written, remaining⟩ := Option.bind_eq_some_iff.mp made
      obtain ⟨later, after, rfl⟩ := Option.map_eq_some_iff.mp remaining
      intro message inside
      rcases List.mem_cons.mp inside with rfl | behind
      · exact collapsedMessage_noCalls written
      · exact inductionHypothesis rounds _ later after message behind

/-! ## The request -/

/-- A message of the request has the role and the calls of the message it is made from. -/
theorem formatMessage_get {preserve : Bool} {message formatted : Fields}
    (made : formatMessage render preserve message = some formatted) :
    formatted.get "role" = message.get "role" ∧
      formatted.get "tool_calls" = message.get "tool_calls" := by
  unfold formatMessage at made
  obtain ⟨role, given, rest⟩ := Option.bind_eq_some_iff.mp made
  obtain ⟨content, _, rfl⟩ := Option.map_eq_some_iff.mp rest
  rw [given]
  cases calls : message.get "tool_calls" <;> cases ids : message.get "tool_call_id" <;>
    cases preserve <;> exact ⟨rfl, rfl⟩

/-- No message of a request behind a plan calls a tool. -/
theorem request_noCalls {front : List Fields} {last : Fields} {hostname model : String}
    (notAssistant : roleOf render last ≠ "assistant") (notTool : roleOf render last ≠ "tool")
    (preserves : supportsChatReasoningContentRoundtrip hostname model = true)
    {formatted : List Fields}
    (made : formatChatMessages render (front ++ [last]) hostname model = some formatted) :
    ∀ shown ∈ formatted, roleOf render shown = "assistant" → toolCallIds render shown = [] := by
  unfold formatChatMessages at made
  dsimp only at made
  rw [if_pos preserves] at made
  obtain ⟨selected, collapsed, written⟩ := Option.bind_eq_some_iff.mp made
  have noCalls : ∀ message ∈ selected, NoCalls render message := by
    have chained := @sanitize_chained render (front ++ [last])
    obtain ⟨kept, same⟩ := sanitize_last front notAssistant notTool
    unfold collapseResolvedToolHistory at collapsed
    rw [same] at chained collapsed
    rw [activeTail_none kept notAssistant notTool] at collapsed
    exact collapseLoop_noCalls chained _ _ _ collapsed
  intro shown inside isAssistant
  obtain ⟨message, among, one⟩ : ∃ message ∈ selected,
      formatMessage render (supportsChatReasoningContentRoundtrip hostname model) message =
        some shown := Results.exists_item (Results.beside written) inside
  obtain ⟨role, calls⟩ := formatMessage_get one
  have none_ := noCalls message among (by
    unfold roleOf valueOf at isAssistant ⊢
    rwa [role] at isAssistant)
  have same : toolCallIds render shown = toolCallIds render message := by
    unfold toolCallIds toolCallsOf
    rw [calls]
  unfold assistantCallIds at none_
  dsimp only at none_
  split at none_
  case isTrue some_ => exact absurd none_ some_
  case isFalse nothing => exact same.trans (not_not.mp nothing)

/-- The plan of a model call ends with the position of the cursor. -/
theorem planMessages_last (session : Session) (turn : Turn) (inputs : PlanInputs)
    (planFails : Bool) (last : Fields) :
    ∃ front, (planMessages render session turn { inputs with proprioception := some last }
      planFails).1 = front ++ [last] := by
  unfold planMessages
  dsimp only
  split
  · exact ⟨_, rfl⟩
  · exact ⟨_, rfl⟩

/-- The calls of an answered chain have identifiers. -/
theorem AnsweredChain.calls {messages : List Fields} {assistant : Fields}
    (answered : AnsweredChain render messages assistant) : toolCallIds render assistant ≠ [] := by
  obtain ⟨_, _, _, _, calls, identified, _⟩ := answered
  intro none_
  obtain ⟨call, rest, same⟩ := List.exists_cons_of_ne_nil calls
  have inside : call ∈ toolCallsOf assistant := same ▸ List.mem_cons_self
  have kept : callId render call ∈ toolCallIds render assistant :=
    List.mem_filter.mpr ⟨List.mem_map_of_mem inside, decide_eq_true (identified call inside)⟩
  rw [none_] at kept
  cases kept

/-- A provider that wants the reasoning of tool calls back is shown no answered chain of the turn in
any request. So the request shows the answered calls of the turn and no others,
`ActiveChainVisible`, exactly when no call of the turn has been answered. -/
theorem active_chain_visible_iff (session : Session) (turn : Turn) (inputs : PlanInputs)
    (planFails : Bool) (proprioceptionInfo : Json) (hostname model : String)
    (preserves : supportsChatReasoningContentRoundtrip hostname model = true) :
    ActiveChainVisible render (dicts turn.appended) (requestMessages render session turn inputs
        planFails proprioceptionInfo hostname model) ↔
      ∀ assistant, ¬AnsweredChain render (dicts turn.appended) assistant := by
  constructor
  · intro visible assistant answered
    obtain ⟨formatted, made, ⟨shown, inside, role, same, _⟩, _⟩ := visible assistant answered
    unfold requestMessages at made
    obtain ⟨front, ends⟩ := @planMessages_last render session turn inputs planFails
      (proprioceptionMessage render proprioceptionInfo)
    rw [ends] at made
    have system : roleOf render (proprioceptionMessage render proprioceptionInfo) = "system" := rfl
    have none_ := request_noCalls (by rw [system]; decide) (by rw [system]; decide) preserves made
      shown inside role
    exact answered.calls (same.symm.trans none_)
  · intro nothing assistant answered
    exact absurd answered (nothing assistant)

end

/-! ### A lookup that is answered -/

/-- An assistant message that calls a tool. -/
def lookupMessage : Fields := Fields.of [("role", .str "assistant"), ("content", .str ""),
  ("tool_calls", .arr [.obj [("id", .str "call_1"), ("function", .obj [("name", .str "lookup")])]])]

/-- A turn in which the tool has answered. -/
def lookupMessages : List Fields :=
  [Fields.of [("role", .str "user"), ("content", .str "Look it up.")], lookupMessage,
    Fields.of [("role", .str "tool"), ("content", .str "Found."), ("tool_call_id", .str "call_1")]]

/-- A turn that has asked for a lookup and got its result. -/
def lookupTurn : Turn where
  turnInputIndex := 1
  transient := false
  settings := question.settings
  inputInfo := question.inputInfo
  phase := .planning
  preflightCompactionAttempted := false
  providerContextRetryAttempted := false
  appended := numbered 1 lookupMessages

/-- The session in which the turn runs. -/
def lookupSession : Session := (create "You help.").extend lookupMessages

/-- What the next round sends. -/
def lookupRequest : Option (List Fields) :=
  requestMessages textsOnly lookupSession lookupTurn ⟨none, [], none, "", none, none⟩ false .null ""
    "deepseek-chat"

theorem lookup_answered : AnsweredChain textsOnly (dicts lookupTurn.appended) lookupMessage := by
  refine ⟨lookupMessages.take 1, lookupMessages.drop 2, rfl, rfl, ?_, ?_, ?_, ?_⟩
  · exact List.cons_ne_nil _ _
  · decide +kernel
  · decide +kernel
  · decide +kernel

theorem active_chain_visible_iff_lookup :
    ActiveChainVisible textsOnly (dicts lookupTurn.appended) lookupRequest ↔
      ∀ assistant, ¬AnsweredChain textsOnly (dicts lookupTurn.appended) assistant :=
  active_chain_visible_iff lookupSession lookupTurn _ false .null "" "deepseek-chat"
    (by decide +kernel)

/-- The answered lookup is not shown. -/
theorem lookup_not_visible :
    ¬ActiveChainVisible textsOnly (dicts lookupTurn.appended) lookupRequest := by
  intro visible
  obtain ⟨formatted, made, ⟨shown, inside, role, same, _⟩, _⟩ :=
    visible lookupMessage lookup_answered
  have none_ : lookupRequest.all (fun formatted => formatted.all fun shown =>
      !(roleOf textsOnly shown = "assistant" && toolCallIds textsOnly shown = ["call_1"])) =
        true := by decide +kernel
  rw [made, Option.all_some, List.all_eq_true] at none_
  have ids : toolCallIds textsOnly lookupMessage = ["call_1"] := by decide +kernel
  have hidden := none_ shown inside
  rw [role, same, ids] at hidden
  exact absurd hidden (by decide)

end MeetYou.OpenAIAdapter
