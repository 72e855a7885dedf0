import Mathlib.Data.Rat.Floor
import MeetYou.ThreadSummary

/-!
# What a model call has room for

A chat history is a list of dictionaries whose length is estimated in tokens. Two
passes shorten it in place: before and during a turn the least important messages
leave until the estimate fits, and in an idle session everything but the newest
messages leaves. The plan of one model call copies what it sends: it may leave out
messages from before the turn, never one of the turn itself.
-/

namespace MeetYou.ContextBudget

/-- A message of a chat history: its dictionary, and which append of the session
brought it. Equal dictionaries at two places are two messages. -/
structure ChatMessage where
  serial : Nat
  fields : Fields

/-- How the runtime writes a value that is not a text: `str(value)` and
`json.dumps(value, ensure_ascii=False)`. -/
structure Rendering where
  str : Json → String
  dumps : Json → String

/-- `int(len(text) / 1.8)`; the double quotient has the same whole part. -/
def estimateTextTokens (text : String) : Nat := text.toList.length * 5 / 9

section Estimates
variable (render : Rendering)

/-- `_estimate_value_tokens`. -/
def estimateValueTokens : Json → Nat
  | .null => 0
  | .str text => estimateTextTokens text
  | value => estimateTextTokens (render.dumps value)

/-- `message.get(name)`. -/
def valueOf (fields : Fields) (name : String) : Json := (fields.get name).getD .null

/-- `estimate_message_tokens`. -/
def estimateMessageTokens (fields : Fields) : Nat :=
  estimateValueTokens render ((fields.get "content").getD (.str "")) +
    estimateValueTokens render (valueOf fields "tool_calls") +
    estimateValueTokens render (valueOf fields "provider_items") +
    estimateValueTokens render (valueOf fields "tool_call_id")

/-- `estimate_tokens`. -/
def estimateTokens (messages : List Fields) : Nat :=
  (messages.map (estimateMessageTokens render)).sum

end Estimates

/-! ## Limits

Shares of a token limit are products of doubles cut to whole numbers. -/

/-- The nearest whole number, and the even one of two. -/
def roundHalfEven (value : Rat) : Int :=
  let rest := value - value.floor
  if rest < 1 / 2 then value.floor
  else if 1 / 2 < rest then value.floor + 1
  else if value.floor % 2 = 0 then value.floor else value.floor + 1

/-- The exponent of the last power of two up to a positive number. -/
def binaryExponent (value : Rat) : Int :=
  let guess : Int := (Nat.log2 value.num.natAbs : Int) - (Nat.log2 value.den : Int)
  if (2 : Rat) ^ guess ≤ value then guess else guess - 1

/-- The double nearest to a number. -/
def double (value : Rat) : Rat :=
  if value = 0 then 0
  else
    let unit := (2 : Rat) ^ (binaryExponent (if value < 0 then -value else value) - 52)
    roundHalfEven (value / unit) * unit

/-- `int(tokens * ratio)`. -/
def scaled (tokens : Int) (ratio : Rat) : Int :=
  let product := double (double tokens * double ratio)
  product.num.tdiv product.den

/-- The families of providers that have a policy of their own. -/
inductive ProviderFamily
  | openai
  | anthropic
  | gemini
  | generic
  deriving DecidableEq

/-- `word in text`. -/
def contains (text word : String) : Bool := text.toList.tails.any (word.toList.isPrefixOf ·)

/-- `_provider_family`. -/
def providerFamily (providerName apiUrl : String) : ProviderFamily :=
  let providerText := Text.lowerWord (Text.strip providerName)
  let urlText := Text.lowerWord (Text.strip apiUrl)
  if providerText = "openai" then .openai
  else if providerText = "anthropic" then .anthropic
  else if providerText = "gemini" then .gemini
  else if contains urlText "anthropic" || contains urlText "claude" then .anthropic
  else if contains urlText "gemini" || contains urlText "googleapis" then .gemini
  else if contains urlText "openai" then .openai
  else .generic

/-- A row of `_PROVIDER_LENGTH_POLICIES`. -/
structure ProviderPolicy where
  reserveRatio : Rat
  responseRatio : Rat
  minResponseTokens : Int
  recentHistoryTurns : Nat

/-- `_PROVIDER_LENGTH_POLICIES`. -/
def ProviderFamily.policy : ProviderFamily → ProviderPolicy
  | .openai => ⟨72 / 100, 22 / 100, 1024, 8⟩
  | .anthropic => ⟨78 / 100, 18 / 100, 768, 10⟩
  | .gemini => ⟨74 / 100, 20 / 100, 1024, 8⟩
  | .generic => ⟨75 / 100, 20 / 100, 768, 8⟩

/-- What `build_length_policy` returns, as far as a later step reads it. -/
structure LengthPolicy where
  contextLimitTokens : Int
  targetInputTokens : Int
  reservedResponseTokens : Int
  recentHistoryTurns : Nat

/-- The thinking options of a model call. -/
structure Thinking where
  enabled : Option Bool
  budgetTokens : Int

/-- `ModelCapabilityBudget`. -/
structure ModelCapabilityBudget where
  contextWindow : Int
  maxOutputTokens : Int
  reservedReasoningTokens : Int
  toolResultBudget : Int

/-- `input_budget`: what the other shares leave, and never less than 256. -/
def ModelCapabilityBudget.inputBudget (budget : ModelCapabilityBudget) : Int :=
  let consumed := budget.maxOutputTokens + budget.reservedReasoningTokens + budget.toolResultBudget
  max 256 (budget.contextWindow - consumed)

/-- `int(context_limit_override or 0) or self.get_context_limit(model)` -/
def contextLimit (contextLimitOverride modelLimit : Int) : Int :=
  if contextLimitOverride = 0 then modelLimit else contextLimitOverride

section Shares

-- How `int(tokens * ratio)` is computed: with doubles, as `scaled` does, or exactly.
variable (share : Int → Rat → Int)

/-- `build_length_policy`; `modelLimit` is what the adapter names for the model. -/
def buildLengthPolicy (family : ProviderFamily) (contextLimitOverride modelLimit : Int) :
    LengthPolicy :=
  let limit := contextLimit contextLimitOverride modelLimit
  let reserved := max family.policy.minResponseTokens (share limit family.policy.responseRatio)
  { contextLimitTokens := limit
    targetInputTokens := max 512
      (min (share limit family.policy.reserveRatio) (limit - reserved))
    reservedResponseTokens := reserved
    recentHistoryTurns := family.policy.recentHistoryTurns }

/-- `max_output`, as asked for. -/
def maxOutput (contextWindow reservedResponseTokens : Int) : Int :=
  if reservedResponseTokens = 0 then max 768 (share contextWindow (20 / 100))
  else reservedResponseTokens

/-- `reasoning_budget`, as asked for. -/
def reasoningBudget (contextWindow : Int) (thinking : Thinking) : Int :=
  if thinking.enabled = some false then 0
  else if thinking.budgetTokens = 0 then max 128 (share contextWindow (4 / 100))
  else thinking.budgetTokens

/-- `tool_result_budget`, as asked for. -/
def toolResultBudget (contextWindow : Int) : Int := max 128 (share contextWindow (8 / 100))

/-- `ModelContextBudgetResolver.resolve`: what is asked for, cut down where it fills the
window. -/
def resolve (contextLimitTokens reservedResponseTokens : Int) (thinking : Thinking) :
    ModelCapabilityBudget :=
  let window := if contextLimitTokens = 0 then 8192 else contextLimitTokens
  let output := maxOutput share window reservedResponseTokens
  let reasoning := reasoningBudget share window thinking
  let results := toolResultBudget share window
  if window ≤ output + reasoning + results then
    { contextWindow := window
      maxOutputTokens := min output (max 256 (share window (35 / 100)))
      reservedReasoningTokens := min reasoning (max 0 (share window (8 / 100)))
      toolResultBudget := min results (max 64 (share window (8 / 100))) }
  else ⟨window, output, reasoning, results⟩

end Shares

/-! ## Shortening a history -/

/-- How an awaited call ends. -/
inductive Awaited
  | returned
  | typeError
  | raised
  deriving DecidableEq

/-- What the awaited calls of one shortening do: the summariser with the load of the
previous summary before it, and the write of the new summary. -/
structure SummaryCalls where
  summarized : Awaited
  summary : String
  updated : Awaited

/-- A history after a pass over it, and how the pass ended. -/
structure Shortened where
  history : List ChatMessage
  removed : List ChatMessage
  summary : String
  ended : Awaited

/-- A pass that leaves the history alone. -/
def Shortened.unchanged (history : List ChatMessage) (ended : Awaited) : Shortened :=
  ⟨history, [], "", ended⟩

/-- `message.get(name)` is the given text. -/
def isText (fields : Fields) (name text : String) : Bool :=
  match fields.get name with
  | some (.str value) => decide (value = text)
  | _ => false

/-- `bool(message.get(name))`. -/
def isTrue (fields : Fields) (name : String) : Bool := (fields.get name).any Json.truthy

/-- `dict(message.get("metadata") or {})`. -/
def metadataOf (fields : Fields) : List (String × Json) :=
  match fields.get "metadata" with
  | some (.obj metadata) => metadata
  | _ => []

/-- `bool(metadata.get(name))`. -/
def metadataTrue (fields : Fields) (name : String) : Bool :=
  (Dict.find name (metadataOf fields)).any Json.truthy

/-- `_trim_priority`; its second component is always 0. -/
def trimPriority (fields : Fields) : Nat :=
  if isText fields "role" "tool" then 0
  else if isTrue fields "tool_calls" then 1
  else if isText fields "role" "assistant" then 2
  else if isText fields "role" "user" then 3
  else 4

/-- `min(range(len(scores)), key=scores)`. -/
def leastIndex (scores : List Nat) : Nat :=
  scores.findIdx fun score => scores.all fun other => decide (score ≤ other)

/-- `removal_index` of a trim: the newest two messages are no candidates. -/
def trimIndex (removable : List ChatMessage) : Nat :=
  leastIndex ((removable.take (removable.length - 2)).map fun message =>
    trimPriority message.fields)

/-- A least score has a place among the scores. -/
theorem leastIndex_lt {scores : List Nat} (nonempty : scores ≠ []) :
    leastIndex scores < scores.length := by
  have least : ∃ score ∈ scores, ∀ other ∈ scores, score ≤ other := by
    induction scores with
    | nil => exact absurd rfl nonempty
    | cons first rest inductionHypothesis =>
      by_cases last : rest = []
      · exact ⟨first, List.mem_cons_self, by simp [last]⟩
      · obtain ⟨score, member, below⟩ := inductionHypothesis last
        by_cases smaller : first ≤ score
        · refine ⟨first, List.mem_cons_self, fun other among => ?_⟩
          rcases List.mem_cons.mp among with same | later
          · omega
          · have := below other later
            omega
        · refine ⟨score, List.mem_cons_of_mem first member, fun other among => ?_⟩
          rcases List.mem_cons.mp among with same | later
          · omega
          · exact below other later
  obtain ⟨score, member, below⟩ := least
  exact List.findIdx_lt_length_of_exists ⟨score, member, by simpa using below⟩

/-- Where more than two messages may leave, the one that leaves is among them. -/
theorem trimIndex_lt {removable : List ChatMessage} (long : 2 < removable.length) :
    trimIndex removable < removable.length := by
  have candidates : (removable.take (removable.length - 2)).map
      (fun message => trimPriority message.fields) ≠ [] := by
    intro nothing
    have := congrArg List.length nothing
    simp at this
    omega
  have bound := leastIndex_lt candidates
  simp only [List.length_map, List.length_take] at bound
  exact Nat.lt_of_lt_of_le bound (by omega)

/-- The dictionaries of a history. -/
def dicts (history : List ChatMessage) : List Fields := history.map ChatMessage.fields

/-- Messages cut out of a history behind the preserved ones; the others stay in order. -/
def Cut (preserveCount : Nat) (before after removed : List ChatMessage) : Prop :=
  ∃ kept, kept.Sublist (before.drop preserveCount) ∧
    (kept ++ removed).Perm (before.drop preserveCount) ∧ after = before.take preserveCount ++ kept

/-- Nothing is cut. -/
theorem Cut.none (preserveCount : Nat) (history : List ChatMessage) :
    Cut preserveCount history history [] :=
  ⟨_, List.Sublist.refl _, by simp, (List.take_append_drop ..).symm⟩

/-- The history and what is cut out of it. -/
theorem Cut.perm {preserveCount : Nat} {before after removed : List ChatMessage}
    (cut : Cut preserveCount before after removed) : (after ++ removed).Perm before := by
  obtain ⟨kept, _, parts, rfl⟩ := cut
  rw [List.append_assoc]
  exact (parts.append_left _).trans (by rw [List.take_append_drop])

/-- What stays is in order. -/
theorem Cut.sublist {preserveCount : Nat} {before after removed : List ChatMessage}
    (cut : Cut preserveCount before after removed) : after.Sublist before := by
  obtain ⟨kept, sublist, _, rfl⟩ := cut
  have whole := sublist.append_left (before.take preserveCount)
  rwa [List.take_append_drop] at whole

/-- A cut counts what leaves. -/
theorem Cut.length {preserveCount : Nat} {before after removed : List ChatMessage}
    (cut : Cut preserveCount before after removed) :
    after.length + removed.length = before.length := by
  have counted := cut.perm.length_eq
  rwa [List.length_append] at counted

/-- Two cuts in a row. -/
theorem Cut.trans {preserveCount : Nat} {before middle after removed later : List ChatMessage}
    (long : preserveCount ≤ before.length) (first : Cut preserveCount before middle removed)
    (second : Cut preserveCount middle after later) :
    Cut preserveCount before after (removed ++ later) := by
  obtain ⟨kept, sublist, parts, rfl⟩ := first
  obtain ⟨fewer, below, pieces, rfl⟩ := second
  have front : (before.take preserveCount).length = preserveCount := by
    rw [List.length_take]
    omega
  rw [List.drop_left' front] at below pieces
  rw [List.take_left' front]
  refine ⟨fewer, below.trans sublist, ?_, rfl⟩
  have swapped : (fewer ++ (removed ++ later)).Perm ((fewer ++ later) ++ removed) := by
    rw [List.append_assoc]
    exact List.perm_append_comm.append_left fewer
  exact (swapped.trans (pieces.append_right removed)).trans parts

section Passes
variable (render : Rendering)

/-- The loop of `trim_history`: what stays and what is to be summarised. Each round
takes one message, so the number of messages bounds the rounds. -/
def trimLoop (preserved : List ChatMessage) (usable : Int) :
    Nat → List ChatMessage → List ChatMessage × List ChatMessage
  | 0, removable => (removable, [])
  | rounds + 1, removable =>
      if usable < estimateTokens render (dicts (preserved ++ removable)) ∧ 2 < removable.length then
        let rest := trimLoop preserved usable rounds (removable.eraseIdx (trimIndex removable))
        (rest.1, removable[trimIndex removable]?.toList ++ rest.2)
      else (removable, [])

/-- `usable_tokens` of `trim_history`. -/
def usableTokens (policy : LengthPolicy) (modelLimit : Int) (reserveRatio : Rat) : Int :=
  let limit := if policy.contextLimitTokens = 0 then modelLimit else policy.contextLimitTokens
  min (scaled limit reserveRatio)
    (if policy.targetInputTokens = 0 then scaled limit reserveRatio else policy.targetInputTokens)

/-- A trim removes something: the estimate is over the limit and more than two
messages may leave. -/
def Overflows (usable : Int) (preserveCount : Nat) (history : List ChatMessage) : Prop :=
  usable < estimateTokens render (dicts history) ∧ preserveCount + 2 < history.length

/-- What a trim would keep behind the preserved messages, and what it would summarise. -/
def trimParts (usable : Int) (preserveCount : Nat) (history : List ChatMessage) :
    List ChatMessage × List ChatMessage :=
  trimLoop render (history.take preserveCount) usable (history.drop preserveCount).length
    (history.drop preserveCount)

/-- `trim_history` with its usable tokens worked out. -/
def trimHistory (usable : Int) (preserveCount : Nat) (calls : SummaryCalls)
    (history : List ChatMessage) : Shortened :=
  if (estimateTokens render (dicts history) : Int) ≤ usable then .unchanged history .returned
  else if (trimParts render usable preserveCount history).2.isEmpty then
    .unchanged history .returned
  else if calls.summarized = .returned then
    let summary := ThreadSummary.normalizeConversationSummary calls.summary
    { history := history.take preserveCount ++ (trimParts render usable preserveCount history).1
      removed := (trimParts render usable preserveCount history).2
      summary := summary
      ended := if summary = "" then .returned else calls.updated }
  else .unchanged history calls.summarized

/-- `_is_meaningful`. -/
def isMeaningful (fields : Fields) : Bool :=
  let content := valueOf fields "content"
  let text := match content with
    | .str text => text
    | value => if value.truthy then render.str value else ""
  !metadataTrue fields "transient" && (decide (Text.strip text ≠ "") ||
    isTrue fields "tool_calls" || isTrue fields "provider_items")

/-- `compact_history_for_idle_heartbeat`; the summary is written before the history
is replaced. -/
def compactHistoryForIdleHeartbeat (preserveCount : Nat) (recentMessageCount : Int)
    (calls : SummaryCalls) (history : List ChatMessage) : Shortened :=
  let recentCount := (max recentMessageCount 2).toNat
  let preserved := history.take preserveCount
  let tail := history.drop preserveCount
  let older := tail.take (tail.length - recentCount)
  if tail.length ≤ recentCount then .unchanged history .returned
  else if (older.filter fun message => isMeaningful render message.fields).isEmpty then
    .unchanged history .returned
  else if calls.summarized ≠ .returned then .unchanged history calls.summarized
  else
    let summary := ThreadSummary.normalizeConversationSummary calls.summary
    if summary ≠ "" ∧ calls.updated ≠ .returned then .unchanged history calls.updated
    else ⟨preserved ++ tail.drop (tail.length - recentCount), older, summary, .returned⟩

variable {render}

/-- The loop parts the messages that may leave: those kept stay in order. -/
theorem trimLoop_parts (preserved : List ChatMessage) (usable : Int) (rounds : Nat)
    (removable : List ChatMessage) :
    (trimLoop render preserved usable rounds removable).1.Sublist removable ∧
      ((trimLoop render preserved usable rounds removable).1 ++
        (trimLoop render preserved usable rounds removable).2).Perm removable := by
  induction rounds generalizing removable with
  | zero => simp [trimLoop]
  | succ rounds inductionHypothesis =>
    rw [trimLoop]
    split
    · -- one message leaves, then the loop goes on with the others
      rename_i finished
      have inside := trimIndex_lt finished.2
      obtain ⟨sublist, parts⟩ := inductionHypothesis (removable.eraseIdx (trimIndex removable))
      refine ⟨sublist.trans (List.eraseIdx_sublist ..), ?_⟩
      simp only [List.getElem?_eq_getElem inside, Option.toList_some, List.singleton_append]
      exact (List.perm_middle.trans (parts.cons _)).trans (List.getElem_cons_eraseIdx_perm inside)
    · simp

/-- The loop takes a message exactly when it has a round and the history overflows. -/
theorem trimLoop_takes_iff (preserved : List ChatMessage) (usable : Int) (rounds : Nat)
    (removable : List ChatMessage) :
    (trimLoop render preserved usable rounds removable).2 ≠ [] ↔
      0 < rounds ∧ usable < estimateTokens render (dicts (preserved ++ removable)) ∧
        2 < removable.length := by
  cases rounds with
  | zero => simp [trimLoop]
  | succ rounds =>
    rw [trimLoop]
    split
    · rename_i finished
      simp [List.getElem?_eq_getElem (trimIndex_lt finished.2), finished]
    · rename_i fits
      simp [fits]

/-- A trim has something to take exactly where it overflows. -/
theorem trimParts_takes_iff (usable : Int) (preserveCount : Nat) (history : List ChatMessage) :
    (trimParts render usable preserveCount history).2 ≠ [] ↔
      Overflows render usable preserveCount history := by
  have takes := @trimLoop_takes_iff render (history.take preserveCount) usable
    (history.drop preserveCount).length (history.drop preserveCount)
  rw [List.take_append_drop, List.length_drop] at takes
  rw [trimParts, List.length_drop, takes, Overflows]
  omega

/-- What a trim does, by whether it overflows and gets a summary. -/
theorem trimHistory_cases (usable : Int) (preserveCount : Nat) (calls : SummaryCalls)
    (history : List ChatMessage) :
    (¬ Overflows render usable preserveCount history ∧
      trimHistory render usable preserveCount calls history = .unchanged history .returned) ∨
    (Overflows render usable preserveCount history ∧ calls.summarized ≠ .returned ∧
      trimHistory render usable preserveCount calls history =
        .unchanged history calls.summarized) ∨
    (Overflows render usable preserveCount history ∧ calls.summarized = .returned ∧
      (trimHistory render usable preserveCount calls history).removed ≠ [] ∧
      Cut preserveCount history (trimHistory render usable preserveCount calls history).history
        (trimHistory render usable preserveCount calls history).removed) := by
  have takes := @trimParts_takes_iff render usable preserveCount history
  by_cases overflows : Overflows render usable preserveCount history
  · have something := takes.mpr overflows
    have above := overflows.1
    unfold trimHistory
    rw [if_neg (by omega), if_neg (by simpa using something)]
    by_cases summarized : calls.summarized = .returned
    · have parts := @trimLoop_parts render (history.take preserveCount) usable
        (history.drop preserveCount).length (history.drop preserveCount)
      rw [if_pos summarized]
      exact .inr (.inr ⟨overflows, summarized, something, _, parts.1, parts.2, rfl⟩)
    · rw [if_neg summarized]
      exact .inr (.inl ⟨overflows, summarized, rfl⟩)
  · have nothing : (trimParts render usable preserveCount history).2 = [] := by
      by_contra something
      exact overflows (takes.mp something)
    refine .inl ⟨overflows, ?_⟩
    unfold trimHistory
    simp [nothing]

/-- A trim cuts messages out behind the preserved ones. -/
theorem trimHistory_cuts (usable : Int) (preserveCount : Nat) (calls : SummaryCalls)
    (history : List ChatMessage) :
    Cut preserveCount history (trimHistory render usable preserveCount calls history).history
      (trimHistory render usable preserveCount calls history).removed := by
  rcases trimHistory_cases usable preserveCount calls history with
    ⟨_, same⟩ | ⟨_, _, same⟩ | ⟨_, _, _, cut⟩
  · rw [same]
    exact .none preserveCount history
  · rw [same]
    exact .none preserveCount history
  · exact cut

/-- An idle compaction cuts messages out behind the preserved ones, too. -/
theorem compactHistoryForIdleHeartbeat_cuts (preserveCount : Nat) (recentMessageCount : Int)
    (calls : SummaryCalls) (history : List ChatMessage) :
    Cut preserveCount history
      (compactHistoryForIdleHeartbeat render preserveCount recentMessageCount calls history).history
      (compactHistoryForIdleHeartbeat render preserveCount recentMessageCount calls
        history).removed := by
  unfold compactHistoryForIdleHeartbeat
  simp only
  split
  · exact .none preserveCount history
  · split
    · exact .none preserveCount history
    · split
      · exact .none preserveCount history
      · split
        · exact .none preserveCount history
        · refine ⟨_, List.drop_sublist _ _, ?_, rfl⟩
          exact List.perm_append_comm.trans (by rw [List.take_append_drop])

end Passes

/-! ## The plan of one model call -/

mutual
/-- `left == right` for decoded values: fields in any order, and a truth value is
the number 0 or 1. -/
def equalValues : Json → Json → Bool
  | .null, .null => true
  | .bool left, .bool right => left == right
  | .bool left, .num right => decide ((if left then 1 else 0) = right)
  | .num left, .bool right => decide (left = if right then 1 else 0)
  | .num left, .num right => decide (left = right)
  | .str left, .str right => decide (left = right)
  | .arr left, .arr right => equalItems left right
  | .obj left, .obj right => decide (left.length = right.length) && equalFields left right
  | _, _ => false

/-- The items agree in order. -/
def equalItems : List Json → List Json → Bool
  | [], [] => true
  | left :: restLeft, right :: restRight => equalValues left right && equalItems restLeft restRight
  | _, _ => false

/-- Each field has an equal one of its name. -/
def equalFields : List (String × Json) → List (String × Json) → Bool
  | [], _ => true
  | (name, value) :: rest, others =>
      (match Dict.find name others with
        | some other => equalValues value other
        | none => false) && equalFields rest others
end

/-- What one plan is made from beside the history: `auto_memory_message`,
`policy_messages`, `proprioception_message`, `conversation_summary`, and what the
context pool and the project contribute. -/
structure PlanInputs where
  autoMemory : Option Fields
  policies : List Fields
  proprioception : Option Fields
  summary : String
  contextPool : Option Fields
  project : Option Fields

/-- The message of the summary layer. -/
def summaryMessage (summary : String) : Option Fields :=
  let normalized := ThreadSummary.normalizeConversationSummary summary
  if normalized = "" then none
  else some (Fields.of [("role", .str "system"), ("content", .str ("[对话摘要层]\n" ++ normalized)),
    ("metadata", .obj [("context_layer", .str "conversation_summary"), ("transient", .bool true)])])

/-- `compose_messages`. -/
def composeMessages (inputs : PlanInputs) (systemHistory selectedHistory current : List Fields) :
    List Fields :=
  systemHistory ++ (summaryMessage inputs.summary).toList ++ inputs.contextPool.toList ++
    inputs.project.toList ++ inputs.autoMemory.toList ++ inputs.policies ++ selectedHistory ++
    current ++ inputs.proprioception.toList

section Plan
variable (render : Rendering)

/-- `str(value or "").strip()`. -/
def plainText (value : Json) : String :=
  match value with
  | .str text => Text.strip text
  | value => if value.truthy then Text.strip (render.str value) else ""

/-- The `id` of an entry of `tool_calls`. -/
def callId : Json → String
  | .obj call => plainText render ((Dict.find "id" call).getD .null)
  | _ => ""

/-- `message.get("tool_calls") or []`. -/
def toolCallsOf (fields : Fields) : List Json :=
  match fields.get "tool_calls" with
  | some (.arr calls) => calls
  | _ => []

/-- `_pending_tool_call_ids`: requested and not answered. -/
def pendingToolCallIds (history : List Fields) : List String :=
  let requested := history.flatMap fun fields => (toolCallsOf fields).map (callId render)
  let resolved := history.map fun fields => plainText render (valueOf fields "tool_call_id")
  requested.filter fun id => decide (id ≠ "" ∧ id ∉ resolved)

/-- The message answers a pending call. -/
def answersPending (pending : List String) (fields : Fields) : Bool :=
  decide (plainText render (valueOf fields "tool_call_id") ∈ pending)

/-- The position is in `pinned_indexes_for_current_history`. -/
def isPinned (pending : List String) (selected : List Fields) (index : Nat) : Bool :=
  selected[index]?.any (answersPending render pending) ||
    selected[index + 1]?.any (answersPending render pending) ||
    selected[index]?.any fun fields =>
      (toolCallsOf fields).any fun call => decide (callId render call ∈ pending)

/-- The position the pruning loop takes out, `none` where it breaks off. -/
def removalIndex (recentHistoryTurns : Nat) (pending : List String) (selected : List Fields) :
    Option Nat :=
  let removableCount := selected.length - recentHistoryTurns
  if 0 < removableCount then
    let window := ((selected.take removableCount).zipIdx.filter fun entry =>
      !isPinned render pending selected entry.2).map Prod.fst
    window[leastIndex (window.map trimPriority)]?.map fun source =>
      selected.findIdx fun fields => equalValues fields.toJson source.toJson
  else
    (selected.zipIdx.find? fun entry =>
      (isText entry.1 "role" "tool" || isTrue entry.1 "tool_calls") &&
        !isPinned render pending selected entry.2).map Prod.snd

/-- The pruning loop of `build_context_plan`. Each round takes one message. -/
def selectHistory (target : Int) (recentHistoryTurns : Nat) (pending : List String)
    (compose : List Fields → List Fields) : Nat → List Fields → List Fields
  | 0, selected => selected
  | rounds + 1, selected =>
      if target < estimateTokens render (compose selected) ∧ selected ≠ [] then
        match removalIndex render recentHistoryTurns pending selected with
        | none => selected
        | some index =>
            selectHistory target recentHistoryTurns pending compose rounds (selected.eraseIdx index)
      else selected

/-- `build_context_plan`: the messages to send. -/
def buildContextPlan (policy : LengthPolicy) (inputs : PlanInputs)
    (historyBeforeTurn currentTurnMessages : List ChatMessage) : List Fields :=
  let systemHistory := (dicts historyBeforeTurn).filter (isText · "role" "system")
  let nonSystemHistory := (dicts historyBeforeTurn).filter (!isText · "role" "system")
  let compose := fun selected =>
    composeMessages inputs systemHistory selected (dicts currentTurnMessages)
  compose (selectHistory render policy.targetInputTokens policy.recentHistoryTurns
    (pendingToolCallIds render nonSystemHistory) compose nonSystemHistory.length nonSystemHistory)

/-- Whatever is pruned, the plan sends the messages of the turn in order. -/
theorem buildContextPlan_sends (policy : LengthPolicy) (inputs : PlanInputs)
    (historyBeforeTurn currentTurnMessages : List ChatMessage) :
    (dicts currentTurnMessages).Sublist
      (buildContextPlan render policy inputs historyBeforeTurn currentTurnMessages) := by
  unfold buildContextPlan composeMessages
  exact (List.sublist_append_right _ _).trans (List.sublist_append_left _ _)

end Plan

end MeetYou.ContextBudget
