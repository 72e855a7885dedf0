import MeetYou.ToolProtocol

/-!
# The turns of a history

Read off the history itself, without a pass over it: an assistant's call is sent if its identifiers
are different and each is answered among the tool messages right behind it, and then it is sent with
the first tool message under each identifier. Any other call is not sent, and no other tool message
is. A plain message is sent as it stands.

The pass over the history keeps just these turns.
-/

namespace MeetYou.OpenAIAdapter

open ContextBudget

section
variable (render : Rendering)

/-- A message that is sent, with the tool messages that answer its calls. -/
structure Turn where
  message : Fields
  results : List Fields

/-- The tool messages right behind a message. -/
def toolsBehind (rest : List Fields) : List Fields :=
  rest.takeWhile fun message => roleOf render message = "tool"

/-- The first tool message under each of different identifiers. -/
def firstAnswers : List String → List Fields → List Fields
  | _, [] => []
  | ids, result :: rest =>
    if toolCallId render result ∈ ids then
      result :: firstAnswers (ids.erase (toolCallId render result)) rest
    else firstAnswers ids rest

/-- Each identifier has a tool message. -/
def AllAnswered (ids : List String) (results : List Fields) : Prop :=
  ∀ id ∈ ids, ∃ result ∈ results, toolCallId render result = id

instance (ids : List String) (results : List Fields) : Decidable (AllAnswered render ids results) :=
  inferInstanceAs (Decidable (∀ id ∈ ids, ∃ result ∈ results, toolCallId render result = id))

/-- The turns of a history: its plain messages, and its calls that are answered right behind. -/
def turns : List Fields → List Turn
  | [] => []
  | message :: rest =>
    if isPlain render message then ⟨message, []⟩ :: turns rest
    else if roleOf render message = "assistant" ∧ (assistantCallIds render message).Nodup ∧
        AllAnswered render (assistantCallIds render message) (toolsBehind render rest) then
      ⟨message, firstAnswers render (assistantCallIds render message) (toolsBehind render rest)⟩ ::
        turns rest
    else turns rest

/-- The messages of turns, in their order. -/
def messagesOf (turns : List Turn) : List Fields :=
  turns.flatMap fun turn => turn.message :: turn.results

variable {render}

/-! ## A tool message, and any other one -/

theorem toolsBehind_tool {message : Fields} (tool : roleOf render message = "tool")
    (rest : List Fields) : toolsBehind render (message :: rest) = message :: toolsBehind render rest :=
  List.takeWhile_cons_of_pos (decide_eq_true tool)

theorem toolsBehind_other {message : Fields} (other : roleOf render message ≠ "tool")
    (rest : List Fields) : toolsBehind render (message :: rest) = [] :=
  List.takeWhile_cons_of_neg (by simpa using other)

/-- A tool message begins no turn. -/
theorem turns_tool {message : Fields} (tool : roleOf render message = "tool")
    (rest : List Fields) : turns render (message :: rest) = turns render rest := by
  rw [turns, if_neg (by simp [not_plain_of_tool tool]), if_neg (by simp [tool])]

theorem firstAnswers_nil (results : List Fields) : firstAnswers render [] results = [] := by
  induction results with
  | nil => rfl
  | cons result rest inductionHypothesis =>
    rw [firstAnswers, if_neg (List.not_mem_nil), inductionHypothesis]

/-- The answers that are taken are among the tool messages. -/
theorem mem_of_firstAnswers {results : List Fields} {ids : List String} {result : Fields}
    (member : result ∈ firstAnswers render ids results) : result ∈ results := by
  induction results generalizing ids with
  | nil => cases member
  | cons first rest inductionHypothesis =>
    rw [firstAnswers] at member
    split at member
    · rcases List.mem_cons.mp member with rfl | later
      · exact List.mem_cons_self
      · exact List.mem_cons_of_mem _ (inductionHypothesis later)
    · exact List.mem_cons_of_mem _ (inductionHypothesis member)

/-- A message that is no tool message ends what is collected. -/
theorem sanitizeMessage_other (sanitized collected : List Fields) (pending : Option Fields)
    (ids seen : List String) (idle : pending = none → ids = [] ∧ collected = [] ∧ seen = [])
    {message : Fields} (other : roleOf render message ≠ "tool") :
    sanitizeMessage render ⟨sanitized, pending, ids, collected, seen⟩ message =
      if isPlain render message then ⟨sanitized ++ [message], none, [], [], []⟩
      else ⟨sanitized, some message, assistantCallIds render message, [], []⟩ := by
  unfold sanitizeMessage
  by_cases calls : roleOf render message = "assistant" ∧ assistantCallIds render message ≠ []
  · rw [not_plain_of_calls calls.1 calls.2, if_neg Bool.false_ne_true]
    dsimp only
    rw [if_pos calls.1, if_pos calls.2]
  · have silent : (if roleOf render message = "assistant" then assistantCallIds render message
        else []) = [] := by
      split
      · next role => exact not_not.mp fun some_ => calls ⟨role, some_⟩
      · rfl
    have plain : isPlain render message = true := by
      simp only [isPlain, other, ne_eq, not_false_eq_true, decide_true, Bool.true_and,
        decide_eq_true_eq]
      exact fun role => not_not.mp fun some_ => calls ⟨role, some_⟩
    rw [if_pos plain]
    dsimp only
    rw [silent, if_neg (not_not.mpr rfl)]
    cases pending with
    | none =>
      obtain ⟨rfl, rfl, rfl⟩ := idle rfl
      simp [other, Sanitizing.keep]
    | some assistant => simp [other, Sanitizing.keep, Sanitizing.dropPending]

/-- A tool message that is not asked for changes nothing. -/
theorem sanitizeMessage_stray {state : Sanitizing} {message : Fields}
    (tool : roleOf render message = "tool")
    (stray : state.pendingAssistant.isSome → ¬(toolCallId render message ∈ state.pendingCallIds ∧
      toolCallId render message ∉ state.seenToolCallIds)) :
    sanitizeMessage render state message = state := by
  unfold sanitizeMessage
  dsimp only
  have silent : (if "tool" = "assistant" then assistantCallIds render message else []) = [] :=
    if_neg (by decide)
  rw [tool, silent, if_neg (not_not.mpr rfl)]
  split
  · next waiting => rw [if_neg (not_not.mpr rfl), if_neg (stray waiting)]
  · rw [if_pos rfl]

/-! ## The whole pass -/

/-- What the pass makes of the rest of a history, from each kind of state: nothing is pending; a
call is, of whose identifiers some are still to be answered; or a call with an identifier twice,
which is never whole. -/
structure Reads (messages : List Fields) : Prop where
  idle : ∀ sanitized,
    (messages.foldl (sanitizeMessage render) ⟨sanitized, none, [], [], []⟩).sanitized =
      sanitized ++ messagesOf (turns render messages)
  waits : ∀ sanitized assistant collected remaining,
    (assistantCallIds render assistant).Nodup → remaining ≠ [] →
    (collected.map (toolCallId render) ++ remaining).Perm (assistantCallIds render assistant) →
    (messages.foldl (sanitizeMessage render) ⟨sanitized, some assistant,
        assistantCallIds render assistant, collected,
        collected.map (toolCallId render)⟩).sanitized =
      sanitized ++ ((if AllAnswered render remaining (toolsBehind render messages) then
          assistant :: (collected ++ firstAnswers render remaining (toolsBehind render messages))
        else []) ++ messagesOf (turns render messages))
  never : ∀ sanitized assistant collected seen, ¬(assistantCallIds render assistant).Nodup →
    seen.Nodup → seen ⊆ assistantCallIds render assistant →
    (messages.foldl (sanitizeMessage render) ⟨sanitized, some assistant,
        assistantCallIds render assistant, collected, seen⟩).sanitized =
      sanitized ++ messagesOf (turns render messages)

theorem reads_nil : @Reads render [] where
  idle := fun sanitized => (List.append_nil sanitized).symm
  waits := by
    intro sanitized assistant collected remaining _ some_ _
    obtain ⟨id, inside⟩ := List.exists_mem_of_ne_nil remaining some_
    have missed : ¬AllAnswered render remaining (toolsBehind render []) := fun all => by
      obtain ⟨_, member, _⟩ := all id inside
      cases member
    rw [if_neg missed]
    exact (List.append_nil sanitized).symm
  never := fun sanitized _ _ _ _ _ _ => (List.append_nil sanitized).symm

/-- A message that is no tool message is read alike from every state. -/
theorem reads_other {message : Fields} (other : roleOf render message ≠ "tool")
    {rest : List Fields} (reads : @Reads render rest) : @Reads render (message :: rest) := by
  have any (sanitized : List Fields) (pending : Option Fields) (ids : List String)
      (collected : List Fields) (seen : List String)
      (idle : pending = none → ids = [] ∧ collected = [] ∧ seen = []) :
      ((message :: rest).foldl (sanitizeMessage render)
        ⟨sanitized, pending, ids, collected, seen⟩).sanitized =
        sanitized ++ messagesOf (turns render (message :: rest)) := by
    rw [List.foldl_cons, sanitizeMessage_other sanitized collected pending ids seen idle other,
      turns]
    by_cases plain : isPlain render message = true
    · rw [if_pos plain, if_pos plain, reads.idle]
      simp [messagesOf]
    · rw [if_neg plain, if_neg plain]
      have role : roleOf render message = "assistant" ∧ assistantCallIds render message ≠ [] := by
        simpa [isPlain, other] using plain
      by_cases distinct : (assistantCallIds render message).Nodup
      · have whole := reads.waits sanitized message [] _ distinct role.2 (List.Perm.refl _)
        rw [List.map_nil] at whole
        rw [whole]
        by_cases answered : AllAnswered render (assistantCallIds render message)
            (toolsBehind render rest)
        · rw [if_pos answered, if_pos ⟨role.1, distinct, answered⟩]
          simp [messagesOf]
        · rw [if_neg answered, if_neg fun all => answered all.2.2, List.nil_append]
      · rw [if_neg fun all => distinct all.2.1]
        exact reads.never sanitized message [] [] distinct List.nodup_nil (List.nil_subset _)
  refine ⟨fun sanitized => any _ _ _ _ _ fun _ => ⟨rfl, rfl, rfl⟩, ?_,
    fun _ assistant _ _ _ _ _ => any _ (some assistant) _ _ _ fun absent => by cases absent⟩
  intro sanitized assistant collected remaining _ some_ _
  have missed : ¬AllAnswered render remaining (toolsBehind render (message :: rest)) := by
    rw [toolsBehind_other other]
    obtain ⟨id, inside⟩ := List.exists_mem_of_ne_nil remaining some_
    intro all
    obtain ⟨_, member, _⟩ := all id inside
    cases member
  rw [any sanitized (some assistant) _ _ _ (fun absent => by cases absent), if_neg missed,
    List.nil_append]

/-- A tool message answers what is still to be answered, or is passed over. -/
theorem reads_tool {message : Fields} (tool : roleOf render message = "tool")
    {rest : List Fields} (reads : @Reads render rest) : @Reads render (message :: rest) where
  idle := by
    intro sanitized
    rw [List.foldl_cons, sanitizeMessage_stray tool (by simp), turns_tool tool]
    exact reads.idle sanitized
  waits := by
    intro sanitized assistant collected remaining distinct some_ whole
    have once := whole.nodup_iff.mpr distinct
    rw [List.nodup_append] at once
    have asked : toolCallId render message ∈ remaining ↔
        toolCallId render message ∈ assistantCallIds render assistant ∧
          toolCallId render message ∉ collected.map (toolCallId render) := by
      rw [← whole.mem_iff, List.mem_append]
      exact ⟨fun inside => ⟨.inr inside, fun before => once.2.2 _ before _ inside rfl⟩,
        fun both => both.1.resolve_left both.2⟩
    rw [List.foldl_cons, toolsBehind_tool tool, turns_tool tool, firstAnswers]
    by_cases inside : toolCallId render message ∈ remaining
    · have left := List.perm_cons_erase inside
      have more : ((collected ++ [message]).map (toolCallId render) ++
          remaining.erase (toolCallId render message)).Perm (assistantCallIds render assistant) := by
        refine List.Perm.trans ?_ whole
        rw [List.map_append, List.append_assoc]
        exact (List.Perm.append_left _ left.symm)
      have answered : AllAnswered render remaining (message :: toolsBehind render rest) ↔
          AllAnswered render (remaining.erase (toolCallId render message))
            (toolsBehind render rest) := by
        constructor
        · intro all id later
          obtain ⟨other, apart⟩ := (once.2.1.mem_erase_iff).mp later
          obtain ⟨result, member, is⟩ := all id apart
          rcases List.mem_cons.mp member with rfl | behind
          · exact absurd is.symm other
          · exact ⟨result, behind, is⟩
        · intro all id member
          by_cases same : id = toolCallId render message
          · exact ⟨message, List.mem_cons_self, same.symm⟩
          · obtain ⟨result, behind, is⟩ := all id ((List.mem_erase_of_ne same).mpr member)
            exact ⟨result, List.mem_cons_of_mem _ behind, is⟩
      rw [if_pos inside, sanitizeMessage_result tool (asked.mp inside).1 (asked.mp inside).2]
      have long := more.length_eq
      rw [List.length_append, List.map_append, List.length_append] at long
      by_cases last : remaining.erase (toolCallId render message) = []
      · rw [last, List.length_nil, Nat.add_zero] at long
        have all : AllAnswered render remaining (message :: toolsBehind render rest) := by
          rw [answered, last]
          exact fun _ member => absurd member List.not_mem_nil
        rw [if_pos (by rw [List.length_append]; exact long), reads.idle, if_pos all, last,
          firstAnswers_nil]
        simp
      · have short : (collected.map (toolCallId render) ++
            [toolCallId render message]).length ≠ (assistantCallIds render assistant).length := by
          have := List.length_pos_iff.mpr last
          rw [List.length_append]
          simp only [List.length_map, List.length_singleton, List.map_cons, List.map_nil] at long ⊢
          omega
        rw [if_neg short]
        have next := reads.waits sanitized assistant (collected ++ [message]) _ distinct last more
        rw [List.map_append, List.map_cons, List.map_nil] at next
        rw [next, if_congr answered rfl rfl]
        split
        · simp
        · rfl
    · rw [if_neg inside, sanitizeMessage_stray tool fun _ both => inside (asked.mpr both),
        reads.waits sanitized assistant collected remaining distinct some_ whole]
      have answered : AllAnswered render remaining (message :: toolsBehind render rest) ↔
          AllAnswered render remaining (toolsBehind render rest) := by
        refine forall₂_congr fun id member => ?_
        constructor
        · rintro ⟨result, among, is⟩
          rcases List.mem_cons.mp among with rfl | behind
          · exact absurd (is ▸ member) inside
          · exact ⟨result, behind, is⟩
        · rintro ⟨result, behind, is⟩
          exact ⟨result, List.mem_cons_of_mem _ behind, is⟩
      rw [if_congr answered rfl rfl]
  never := by
    intro sanitized assistant collected seen twice once among
    rw [List.foldl_cons, turns_tool tool]
    by_cases asked : toolCallId render message ∈ assistantCallIds render assistant ∧
        toolCallId render message ∉ seen
    · have grown : (seen ++ [toolCallId render message]).Nodup :=
        List.nodup_append.mpr ⟨once, List.nodup_singleton _, fun id before other last => by
          rw [List.mem_singleton.mp last]
          exact fun same => asked.2 (same ▸ before)⟩
      have within : seen ++ [toolCallId render message] ⊆ assistantCallIds render assistant :=
        List.append_subset.mpr ⟨among, List.cons_subset.mpr ⟨asked.1, List.nil_subset _⟩⟩
      have short : (seen ++ [toolCallId render message]).length ≠
          (assistantCallIds render assistant).length := fun long =>
        twice (((List.subperm_of_subset grown within).perm_of_length_le long.ge).nodup_iff.mp grown)
      rw [sanitizeMessage_result tool asked.1 asked.2, if_neg short]
      exact reads.never sanitized assistant _ _ twice grown within
    · rw [sanitizeMessage_stray tool fun _ => asked]
      exact reads.never sanitized assistant collected seen twice once among

/-- The pass over a history keeps its turns, and nothing else. -/
theorem sanitizeToolMessageHistory_eq (messages : List Fields) :
    sanitizeToolMessageHistory render messages = messagesOf (turns render messages) := by
  have reads : @Reads render messages := by
    induction messages with
    | nil => exact reads_nil
    | cons message rest inductionHypothesis =>
      by_cases tool : roleOf render message = "tool"
      · exact reads_tool tool inductionHypothesis
      · exact reads_other tool inductionHypothesis
  exact reads.idle []

/-- The results of a turn are tool messages. -/
theorem turns_results {messages : List Fields} {turn : Turn} (member : turn ∈ turns render messages)
    {result : Fields} (inside : result ∈ turn.results) : roleOf render result = "tool" := by
  induction messages with
  | nil => cases member
  | cons message rest inductionHypothesis =>
    rw [turns] at member
    split at member
    · rcases List.mem_cons.mp member with rfl | later
      · cases inside
      · exact inductionHypothesis later
    · split at member
      · rcases List.mem_cons.mp member with rfl | later
        · have tool := List.mem_takeWhile_imp (mem_of_firstAnswers inside)
          exact of_decide_eq_true tool
        · exact inductionHypothesis later
      · exact inductionHypothesis member

/-- A turn's message is no tool message. -/
theorem turns_message {messages : List Fields} {turn : Turn}
    (member : turn ∈ turns render messages) : roleOf render turn.message ≠ "tool" := by
  induction messages with
  | nil => cases member
  | cons message rest inductionHypothesis =>
    rw [turns] at member
    split at member
    · next plain =>
      rcases List.mem_cons.mp member with rfl | later
      · exact fun tool => by simp [not_plain_of_tool tool] at plain
      · exact inductionHypothesis later
    · split at member
      · next whole =>
        rcases List.mem_cons.mp member with rfl | later
        · exact fun tool => absurd (whole.1.symm.trans tool) (by decide)
        · exact inductionHypothesis later
      · exact inductionHypothesis member

end

end MeetYou.OpenAIAdapter
