import MeetYou.ActiveChains

/-!
# A history that follows the tool protocol

In the protocol of the providers a tool message stands only behind the assistant's message that
asked for it, in a block that answers every call once. The history is brought into this form in one
pass, which collects the answers of the last call and drops the call if it is interrupted.

One round either keeps a plain message, drops one that is not plain, or keeps a whole block.
-/

namespace MeetYou.OpenAIAdapter

open ContextBudget

section
variable (render : Rendering)

/-- Neither a tool message nor an assistant's message that calls tools. -/
def isPlain (message : Fields) : Bool :=
  decide (roleOf render message ≠ "tool") &&
    decide (roleOf render message = "assistant" → assistantCallIds render message = [])

/-- An assistant's message with different call identifiers, and one tool message for each. -/
structure Block (assistant : Fields) (results : List Fields) : Prop where
  role : roleOf render assistant = "assistant"
  calls : assistantCallIds render assistant ≠ []
  distinct : (assistantCallIds render assistant).Nodup
  tools : ∀ result ∈ results, roleOf render result = "tool"
  each : (results.map (toolCallId render)).Perm (assistantCallIds render assistant)

/-- Plain messages, and blocks. -/
inductive FollowsProtocol : List Fields → Prop
  | nil : FollowsProtocol []
  | plain {message : Fields} {rest : List Fields} : isPlain render message = true →
      FollowsProtocol rest → FollowsProtocol (message :: rest)
  | block {assistant : Fields} {results rest : List Fields} : Block render assistant results →
      FollowsProtocol rest → FollowsProtocol (assistant :: (results ++ rest))

variable {render}

theorem FollowsProtocol.append {first second : List Fields} (left : FollowsProtocol render first)
    (right : FollowsProtocol render second) : FollowsProtocol render (first ++ second) := by
  induction left with
  | nil => exact right
  | plain isPlain _ inductionHypothesis => exact .plain isPlain inductionHypothesis
  | block block _ inductionHypothesis =>
    rw [List.cons_append, List.append_assoc]
    exact .block block inductionHypothesis

/-- Answers of every call make a block. -/
theorem Answers.block {assistant : Fields} {results : List Fields}
    (role : roleOf render assistant = "assistant") (calls : assistantCallIds render assistant ≠ [])
    (answers : Answers render (assistantCallIds render assistant) results) :
    Block render assistant results := by
  have each : (results.map (toolCallId render)).Perm (assistantCallIds render assistant) := by
    have within := List.subperm_of_subset answers.distinct fun id member => by
      obtain ⟨result, inside, rfl⟩ := List.mem_map.mp member
      exact answers.among result inside
    exact within.perm_of_length_le (by rw [List.length_map, answers.all])
  exact ⟨role, calls, each.nodup_iff.mp answers.distinct, answers.role, each⟩

theorem not_plain_of_calls {message : Fields} (role : roleOf render message = "assistant")
    (calls : assistantCallIds render message ≠ []) : isPlain render message = false := by
  simp [isPlain, role, calls]

theorem not_plain_of_tool {message : Fields} (role : roleOf render message = "tool") :
    isPlain render message = false := by
  simp [isPlain, role]

/-- A block has no plain message. -/
theorem Block.filter_plain {assistant : Fields} {results : List Fields}
    (block : Block render assistant results) :
    (assistant :: results).filter (isPlain render) = [] := by
  rw [List.filter_eq_nil_iff]
  intro message member
  rcases List.mem_cons.mp member with rfl | inside
  · simp [not_plain_of_calls block.role block.calls]
  · simp [not_plain_of_tool (block.tools message inside)]

/-! ## One round -/

/-- What one round adds to the messages that are kept. -/
inductive Adds (render : Rendering) (message : Fields) : List Fields → Prop
  | nothing : isPlain render message = false → Adds render message []
  | plain : isPlain render message = true → Adds render message [message]
  | block {assistant : Fields} {results : List Fields} : isPlain render message = false →
      Block render assistant results → Adds render message (assistant :: results)

theorem sanitizeMessage_adds {state : Sanitizing} (collecting : @Collecting render state)
    (message : Fields) :
    ∃ added, (sanitizeMessage render state message).sanitized = state.sanitized ++ added ∧
      Adds render message added := by
  unfold sanitizeMessage
  dsimp only
  by_cases calls : roleOf render message = "assistant" ∧ assistantCallIds render message ≠ []
  · rw [if_pos calls.1, if_pos calls.2]
    exact ⟨[], (List.append_nil _).symm, .nothing (not_plain_of_calls calls.1 calls.2)⟩
  have noCalls : roleOf render message = "assistant" → assistantCallIds render message = [] :=
    fun role => not_not.mp fun some => calls ⟨role, some⟩
  have plain (other : roleOf render message ≠ "tool") : isPlain render message = true := by
    simp only [isPlain, other, ne_eq, not_false_eq_true, decide_true, Bool.true_and,
      decide_eq_true_eq]
    exact noCalls
  have idle : (if roleOf render message = "assistant" then assistantCallIds render message
      else []) = [] := by
    split
    · next role => exact noCalls role
    · rfl
  rw [idle, if_neg (not_not.mpr rfl)]
  by_cases tool : roleOf render message = "tool"
  · have notPlain := not_plain_of_tool tool
    have nothing : ∃ added, state.sanitized = state.sanitized ++ added ∧
        Adds render message added := ⟨[], (List.append_nil _).symm, .nothing notPlain⟩
    split
    case isFalse => exact nothing
    case isTrue waiting =>
      obtain ⟨assistant, pending⟩ := Option.isSome_iff_exists.mp waiting
      rw [if_neg (not_not.mpr tool)]
      split
      case isFalse => exact nothing
      case isTrue asked =>
        have received := collecting.receive tool asked.1 asked.2
        split
        case isFalse => exact nothing
        case isTrue complete =>
          obtain ⟨role, some, -⟩ := collecting.pending assistant pending
          unfold Sanitizing.flushPending
          rw [pending]
          exact ⟨_, rfl, .block notPlain ((received.answers pending complete).block role some)⟩
  · split
    · exact ⟨[message], rfl, .plain (plain tool)⟩
    · exact ⟨[message], rfl, .plain (plain tool)⟩

/-! ## The whole pass -/

/-- What is kept follows the protocol, and the plain messages of it are those that were read. -/
theorem foldl_follows (messages : List Fields) {state : Sanitizing}
    (collecting : @Collecting render state) (follows : FollowsProtocol render state.sanitized) :
    FollowsProtocol render (messages.foldl (sanitizeMessage render) state).sanitized ∧
      (messages.foldl (sanitizeMessage render) state).sanitized.filter (isPlain render) =
        state.sanitized.filter (isPlain render) ++ messages.filter (isPlain render) := by
  induction messages generalizing state with
  | nil => exact ⟨follows, (List.append_nil _).symm⟩
  | cons message rest inductionHypothesis =>
    obtain ⟨added, kept, adds⟩ := sanitizeMessage_adds collecting message
    have next := @inductionHypothesis _ (collecting_step collecting message)
    rw [List.foldl_cons]
    rw [kept, List.filter_append] at next
    cases adds with
    | nothing notPlain =>
      rw [List.filter_cons_of_neg (by simp [notPlain])]
      simpa using next (by simpa using follows)
    | plain plain =>
      rw [List.filter_cons_of_pos plain]
      simpa [plain] using next (follows.append (.plain plain .nil))
    | block notPlain block =>
      rw [List.filter_cons_of_neg (by simp [notPlain])]
      rw [block.filter_plain, List.append_nil] at next
      refine next (follows.append ?_)
      have last := FollowsProtocol.block block .nil
      rwa [List.append_nil] at last

/-- One answer that is asked for. -/
theorem sanitizeMessage_result {sanitized collected : List Fields} {assistant message : Fields}
    {ids seen : List String} (tool : roleOf render message = "tool")
    (asked : toolCallId render message ∈ ids) (unseen : toolCallId render message ∉ seen) :
    sanitizeMessage render ⟨sanitized, some assistant, ids, collected, seen⟩ message =
      if (seen ++ [toolCallId render message]).length = ids.length then
        ⟨sanitized ++ assistant :: (collected ++ [message]), none, [], [], []⟩
      else ⟨sanitized, some assistant, ids, collected ++ [message],
        seen ++ [toolCallId render message]⟩ := by
  unfold sanitizeMessage
  simp [tool, asked, unseen, Sanitizing.flushPending, Sanitizing.dropPending]

/-- The answers of a pending call are collected until the block is whole. -/
theorem foldl_results {assistant : Fields} (sanitized rest : List Fields)
    {results collected : List Fields} (remaining : results ≠ [])
    (block : Block render assistant (collected ++ results)) :
    (results ++ rest).foldl (sanitizeMessage render)
        ⟨sanitized, some assistant, assistantCallIds render assistant, collected,
          collected.map (toolCallId render)⟩ =
      rest.foldl (sanitizeMessage render)
        ⟨sanitized ++ assistant :: (collected ++ results), none, [], [], []⟩ := by
  induction results generalizing collected with
  | nil => exact absurd rfl remaining
  | cons result more inductionHypothesis =>
    have tool := block.tools result (by simp)
    have asked : toolCallId render result ∈ assistantCallIds render assistant :=
      block.each.subset (by simp)
    have once := block.each.nodup_iff.mpr block.distinct
    rw [List.map_append, List.map_cons, List.nodup_append] at once
    have unseen : toolCallId render result ∉ collected.map (toolCallId render) :=
      fun before => once.2.2 _ before _ List.mem_cons_self rfl
    have long := block.each.length_eq
    simp only [List.length_map, List.length_append, List.length_cons] at long
    rw [List.cons_append, List.foldl_cons, sanitizeMessage_result tool asked unseen]
    have more_iff : (collected.map (toolCallId render) ++ [toolCallId render result]).length =
        (assistantCallIds render assistant).length ↔ more = [] := by
      rw [← List.length_eq_zero_iff]
      simp only [List.length_append, List.length_map, List.length_singleton]
      omega
    by_cases last : more = []
    · rw [if_pos (more_iff.mpr last), last, List.nil_append]
    · rw [if_neg fun whole => last (more_iff.mp whole)]
      have whole : collected ++ [result] ++ more = collected ++ result :: more := by simp
      have next := @inductionHypothesis (collected ++ [result]) last (whole ▸ block)
      rw [whole, List.map_append] at next
      exact next

/-- What follows the protocol is kept as it is. -/
theorem foldl_protocol {messages : List Fields} (follows : FollowsProtocol render messages)
    (sanitized : List Fields) :
    messages.foldl (sanitizeMessage render) ⟨sanitized, none, [], [], []⟩ =
      ⟨sanitized ++ messages, none, [], [], []⟩ := by
  induction follows generalizing sanitized with
  | nil => rw [List.foldl_nil, List.append_nil]
  | @plain message rest plain _ inductionHypothesis =>
    have kept : sanitizeMessage render ⟨sanitized, none, [], [], []⟩ message =
        ⟨sanitized ++ [message], none, [], [], []⟩ := by
      simp only [isPlain, ne_eq, Bool.and_eq_true, decide_eq_true_eq] at plain
      unfold sanitizeMessage
      by_cases role : roleOf render message = "assistant"
      · simp [role, plain.2 role, Sanitizing.keep]
      · simp [role, plain.1, Sanitizing.keep]
    rw [List.foldl_cons, kept, inductionHypothesis]
    simp
  | @block assistant results rest block _ inductionHypothesis =>
    have opened : sanitizeMessage render ⟨sanitized, none, [], [], []⟩ assistant =
        ⟨sanitized, some assistant, assistantCallIds render assistant, [], []⟩ := by
      unfold sanitizeMessage
      simp [block.role, block.calls]
    have remaining : results ≠ [] := by
      rintro rfl
      exact block.calls block.each.symm.eq_nil
    have collected := @foldl_results _ assistant sanitized rest results [] remaining block
    rw [List.foldl_cons, opened]
    refine collected.trans ?_
    rw [inductionHypothesis]
    simp

/-- The history that is kept follows the protocol and has every plain message, in order. A history
is kept as it is just if it follows the protocol, and so a second pass changes nothing. -/
theorem sanitized_history (render : Rendering) (messages : List Fields) :
    FollowsProtocol render (sanitizeToolMessageHistory render messages) ∧
      (sanitizeToolMessageHistory render messages).filter (isPlain render) =
        messages.filter (isPlain render) ∧
      (sanitizeToolMessageHistory render messages = messages ↔ FollowsProtocol render messages) ∧
      sanitizeToolMessageHistory render (sanitizeToolMessageHistory render messages) =
        sanitizeToolMessageHistory render messages := by
  have kept (messages : List Fields) (follows : FollowsProtocol render messages) :
      sanitizeToolMessageHistory render messages = messages := by
    rw [sanitizeToolMessageHistory, foldl_protocol follows]
    rfl
  obtain ⟨follows, plain⟩ := foldl_follows messages (@collecting_none render [] .nil) .nil
  exact ⟨follows, plain, ⟨fun same => same ▸ follows, kept messages⟩, kept _ follows⟩

end

end MeetYou.OpenAIAdapter
