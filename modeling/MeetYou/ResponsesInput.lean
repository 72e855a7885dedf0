import MeetYou.Foundation.CallEvents
import MeetYou.Foundation.Results
import MeetYou.AnsweredTurns

/-!
# The input of the Responses interface

For the Responses interface a history is written as a list of items: messages, calls and outputs of
calls. The items that the provider once sent with a message are given back to it in place of the
message, wherever the message has a list of them. Such a list need not hold the calls that the
history was sanitized by, and it never holds the text.

So the outputs have their calls just where, turn by turn of the history, the identifiers that are
sent are those that are answered.
-/

namespace MeetYou.OpenAIAdapter

open CallEvents ContextBudget

section
variable (render : Rendering)

/-- `str(msg.get("role") or "user")` -/
def responsesRole (message : Fields) : String := textOr render (valueOf message "role") "user"

/-- `isinstance(msg.get("provider_items"), list)` -/
def hasProviderItems (message : Fields) : Bool :=
  match message.get "provider_items" with
  | some (.arr _) => true
  | _ => false

/-- A part of a content in `_format_responses_content_parts`; `none` where the image is no text. -/
def responsesContentPart (part : Json) : Option (List Json) :=
  if isString (member part "type") "text" then
    some [.obj [("type", .str "input_text"), ("text", (member part "text").getD (.str ""))]]
  else if isString (member part "type") "image" then
    match (member part "image_data").getD (.str "") with
    | .str image =>
      let mime := match (member part "mime_type").getD (.str "image/png") with
        | .str text => text
        | value => render.str value
      let url := if "http".toList.isPrefixOf image.toList then image
        else "data:" ++ mime ++ ";base64," ++ image
      some [.obj [("type", .str "input_image"), ("image_url", .str url)]]
    | _ => none
  else some []

/-- `_format_responses_content_parts` -/
def formatResponsesContentParts (parts : List Json) : Option (List Json) :=
  (parts.mapM (responsesContentPart render)).map List.flatten

/-- The item of a message. -/
def messageItem (role : String) (content : Json) : Json :=
  .obj [("role", .str role), ("content", content)]

/-- The item of a tool message. -/
def outputItem (message : Fields) : Json :=
  .obj [("type", .str "function_call_output"),
    ("call_id", (message.get "tool_call_id").getD (.str "")),
    ("output", .str (stringifyContent render (valueOf message "content")))]

/-- The item of an entry of `tool_calls`; `none` where it or its function is no dictionary. -/
def callItem (toolCall : Json) : Option Json :=
  match toolCall with
  | .obj fields =>
    match (Dict.find "function" fields).getD (.obj []) with
    | .obj function =>
      let arguments := (Dict.find "arguments" function).getD (.str "\x7b\x7d")
      some (.obj [("type", .str "function_call"),
        ("call_id", (Dict.find "id" fields).getD (.str "")),
        ("name", (Dict.find "name" function).getD (.str "")),
        ("arguments", if arguments.truthy then arguments else .str "\x7b\x7d")])
    | _ => none
  | _ => none

/-- The items of `tool_calls`; `none` where it holds no list. -/
def callItems (message : Fields) : Option (List Json) :=
  match message.get "tool_calls" with
  | some (.arr calls) => calls.mapM callItem
  | _ => none

/-- The type of the item cannot be looked up in a set. -/
def unhashableType (item : Json) : Bool :=
  match member item "type" with
  | some (.arr _) => true
  | some (.obj _) => true
  | _ => false

/-- The item is given back to the provider. -/
def isReplayed (item : Json) : Bool :=
  isString (member item "type") "reasoning" || isFunctionCall item

/-- The items of `provider_items` that are given back. -/
def replayedItems (message : Fields) : Option (List Json) :=
  if (providerItemsOf message).any unhashableType then none
  else some ((providerItemsOf message).filter isReplayed)

/-- The text in front of the items of `tool_calls`. -/
def textItems (message : Fields) : List Json :=
  let text := stringifyContent render (valueOf message "content")
  if text = "" then [] else [messageItem "assistant" (.str text)]

/-- The item of a message without calls. -/
def plainItems (message : Fields) : Option (List Json) :=
  match valueOf message "content" with
  | .arr parts => (formatResponsesContentParts render parts).map fun parts =>
      [messageItem (responsesRole render message) (.arr parts)]
  | content => some [messageItem (responsesRole render message)
      (.str (stringifyContent render content))]

/-- One round of `_format_responses_input`. -/
def responsesItems (message : Fields) : Option (List Json) :=
  if responsesRole render message = "system" then some []
  else if responsesRole render message = "tool" then some [outputItem render message]
  else if responsesRole render message = "assistant" ∧ hasProviderItems message then
    replayedItems message
  else if responsesRole render message = "assistant" ∧ isTrue message "tool_calls" then
    (callItems message).map fun calls => textItems render message ++ calls
  else plainItems render message

/-- What `_format_responses_input` returns. -/
structure ResponsesInput where
  instructions : Option String
  input : List Json

/-- `_format_responses_input` -/
def formatResponsesInput (messages : List Fields) : Option ResponsesInput :=
  let kept := sanitizeToolMessageHistory render messages
  let instructions := ((kept.filter fun message => responsesRole render message = "system").map
    fun message => stringifyContent render (valueOf message "content")).filter (· ≠ "")
  (kept.mapM (responsesItems render)).map fun items =>
    { instructions := if instructions = [] then none else some ("\n\n".intercalate instructions)
      input := items.flatten }

/-! ## Calls, outputs and texts -/

/-- The item is the output of a call. -/
def isOutput (item : Json) : Bool := isString (member item "type") "function_call_output"

/-- The call or the output that an item is, with its `call_id`. -/
def itemEvent (item : Json) : Option (Event (Option Json)) :=
  if isFunctionCall item then some (.call (member item "call_id"))
  else if isOutput item then some (.answer (member item "call_id"))
  else none

/-- The identifiers of the calls that are sent for an assistant's message: those of its list of
provider items, if it has one, and else those of its tool calls. -/
def sentCallIds (message : Fields) : List (Option Json) :=
  if hasProviderItems message then
    ((providerItemsOf message).filter isFunctionCall).map fun item => member item "call_id"
  else (toolCallsOf message).map fun call => some ((member call "id").getD (.str ""))

/-- The identifiers of the calls that are sent for a turn. -/
def Turn.sentIds (turn : Turn) : List (Option Json) :=
  if responsesRole render turn.message = "assistant" then sentCallIds turn.message else []

/-- The identifier that a tool message is sent with. -/
def sentToolId (message : Fields) : Option Json :=
  some ((message.get "tool_call_id").getD (.str ""))

/-- The identifiers of the outputs that are sent for a turn. -/
def Turn.answeredIds (turn : Turn) : List (Option Json) := turn.results.map sentToolId

/-- The calls and the answers of a message of the history. -/
def messageEvents (message : Fields) : List (Event (Option Json)) :=
  if responsesRole render message = "tool" then
    [.answer (sentToolId message)]
  else if responsesRole render message = "assistant" then (sentCallIds message).map .call
  else []

/-- An assistant's message with a text. -/
def speaks (message : Fields) : Bool :=
  decide (responsesRole render message = "assistant") &&
    decide (stringifyContent render (valueOf message "content") ≠ "")

/-- The item has the content of the message. -/
def Carries (message : Fields) (item : Json) : Prop :=
  item = messageItem "assistant" (.str (stringifyContent render (valueOf message "content"))) ∨
    ∃ parts formatted, valueOf message "content" = .arr parts ∧
      formatResponsesContentParts render parts = some formatted ∧
      item = messageItem "assistant" (.arr formatted)

/-- Each text of the assistant has an item, in their order. -/
def TextsKept (kept : List Fields) (items : List Json) : Prop :=
  List.SublistForall₂ (Carries render) (kept.filter (speaks render)) items

variable {render}

/-! ## The events of an item -/

theorem callItem_event {toolCall item : Json} (formatted : callItem toolCall = some item) :
    itemEvent item = some (.call (some ((member toolCall "id").getD (.str "")))) := by
  unfold callItem at formatted
  split at formatted
  · next fields =>
    split at formatted
    · obtain rfl := Option.some.inj formatted
      rfl
    · cases formatted
  · cases formatted

/-- The items that are given back have the calls of the list. -/
theorem replayed_events (items : List Json) :
    (items.filter isReplayed).filterMap itemEvent =
      ((items.filter isFunctionCall).map fun item => member item "call_id").map .call := by
  induction items with
  | nil => rfl
  | cons item rest inductionHypothesis =>
    by_cases call : isFunctionCall item = true
    · have replayed : isReplayed item = true := by simp [isReplayed, call]
      have event : itemEvent item = some (.call (member item "call_id")) := if_pos call
      rw [List.filter_cons_of_pos replayed, List.filter_cons_of_pos call,
        List.filterMap_cons_some event, inductionHypothesis]
      rfl
    · rw [List.filter_cons_of_neg call]
      by_cases replayed : isReplayed item = true
      · have reasoning : isString (member item "type") "reasoning" = true := by
          simpa [isReplayed, call] using replayed
        have noOutput : isOutput item = false := by
          unfold isOutput isString at *
          split at reasoning
          · next found =>
            simp only [decide_eq_true_eq] at reasoning
            rw [reasoning]
            rfl
          · cases reasoning
        have event : itemEvent item = none := by simp [itemEvent, call, noOutput]
        rw [List.filter_cons_of_pos replayed, List.filterMap_cons_none event, inductionHypothesis]
      · rw [List.filter_cons_of_neg replayed, inductionHypothesis]

theorem callItems_events {message : Fields} {items : List Json}
    (formatted : callItems message = some items) :
    items.filterMap itemEvent =
      ((toolCallsOf message).map fun call => some ((member call "id").getD (.str ""))).map
        .call := by
  unfold callItems at formatted
  split at formatted
  · next calls found =>
    have same : toolCallsOf message = calls := by
      unfold toolCallsOf
      simp only [found]
    rw [same]
    have beside := Results.beside formatted
    clear formatted found same
    induction beside with
    | nil => rfl
    | cons called _ inductionHypothesis =>
      rw [List.filterMap_cons_some (callItem_event called), inductionHypothesis]
      rfl
  · cases formatted

theorem textItems_events (message : Fields) :
    (textItems render message).filterMap itemEvent = [] := by
  unfold textItems
  dsimp only
  split
  · rfl
  · rfl

/-- Without tool calls there is nothing to send. -/
theorem toolCallsOf_nil {message : Fields}
    (none : ¬ContextBudget.isTrue message "tool_calls" = true) : toolCallsOf message = [] := by
  unfold ContextBudget.isTrue at none
  unfold toolCallsOf
  split
  · next calls found =>
    rw [found] at none
    simpa [Json.truthy] using none
  · rfl

/-- The items of a message have its calls and answers. -/
theorem responsesItems_events {message : Fields} {items : List Json}
    (formatted : responsesItems render message = some items) :
    items.filterMap itemEvent = messageEvents render message := by
  unfold responsesItems at formatted
  unfold messageEvents sentCallIds
  split at formatted
  · next system =>
    obtain rfl := Option.some.inj formatted
    simp [system]
  split at formatted
  · next tool =>
    obtain rfl := Option.some.inj formatted
    rw [if_pos tool]
    rfl
  next notTool =>
  rw [if_neg notTool]
  split at formatted
  · next given =>
    rw [if_pos given.1, if_pos given.2]
    unfold replayedItems at formatted
    split at formatted
    · cases formatted
    · obtain rfl := Option.some.inj formatted
      exact replayed_events (providerItemsOf message)
  next notGiven =>
  split at formatted
  · next calls =>
    obtain ⟨sent, sentItems, rfl⟩ := Option.map_eq_some_iff.mp formatted
    rw [List.filterMap_append, textItems_events, List.nil_append, callItems_events sentItems,
      if_pos calls.1, if_neg fun given => notGiven ⟨calls.1, given⟩]
  · next noCalls =>
    have nothing : items.filterMap itemEvent = [] := by
      unfold plainItems at formatted
      split at formatted
      · obtain ⟨parts, -, rfl⟩ := Option.map_eq_some_iff.mp formatted
        rfl
      · obtain rfl := Option.some.inj formatted
        rfl
    rw [nothing]
    split
    · next assistant =>
      rw [if_neg fun given => notGiven ⟨assistant, given⟩,
        toolCallsOf_nil fun calls => noCalls ⟨assistant, calls⟩]
      rfl
    · rfl

/-! ## The texts of an item -/

/-- The item is a message of the assistant, with a content. -/
def isTextItem (item : Json) : Bool :=
  (member item "type").isNone && isString (member item "role") "assistant" &&
    !isString (member item "content") ""

theorem typed_no_text {item : Json} (typed : (member item "type").isSome = true) :
    isTextItem item = false := by
  unfold isTextItem
  cases found : member item "type" with
  | none => rw [found] at typed; cases typed
  | some value => rfl

theorem replayed_no_text {item : Json} (replayed : isReplayed item = true) :
    isTextItem item = false := by
  refine typed_no_text ?_
  unfold isReplayed isFunctionCall at replayed
  cases found : member item "type" with
  | none => rw [found] at replayed; cases replayed
  | some value => rfl

theorem callItem_no_text {toolCall item : Json} (formatted : callItem toolCall = some item) :
    isTextItem item = false := by
  refine typed_no_text ?_
  unfold callItem at formatted
  split at formatted
  · split at formatted
    · obtain rfl := Option.some.inj formatted
      rfl
    · cases formatted
  · cases formatted

theorem callItems_no_text {message : Fields} {items : List Json}
    (formatted : callItems message = some items) : items.countP isTextItem = 0 := by
  unfold callItems at formatted
  split at formatted
  · rw [List.countP_eq_zero]
    intro item inside
    obtain ⟨toolCall, -, called⟩ := Results.exists_item (Results.beside formatted) inside
    simp [callItem_no_text called]
  · cases formatted

/-- A message has one text item at most, and none if it does not speak or has provider items. -/
theorem responsesItems_texts (dumpsWrites : ∀ value, render.dumps value ≠ "") {message : Fields}
    {items : List Json} (formatted : responsesItems render message = some items) :
    items.countP isTextItem ≤
      if speaks render message && !hasProviderItems message then 1 else 0 := by
  unfold responsesItems at formatted
  split at formatted
  · obtain rfl := Option.some.inj formatted
    exact Nat.zero_le _
  split at formatted
  · obtain rfl := Option.some.inj formatted
    exact Nat.zero_le _
  split at formatted
  · unfold replayedItems at formatted
    split at formatted
    · cases formatted
    · obtain rfl := Option.some.inj formatted
      have none : ((providerItemsOf message).filter isReplayed).countP isTextItem = 0 := by
        rw [List.countP_eq_zero]
        intro item inside
        simp [replayed_no_text (List.mem_filter.mp inside).2]
      rw [none]
      exact Nat.zero_le _
  next notGiven =>
  split at formatted
  · next calls =>
    obtain ⟨sent, sentItems, rfl⟩ := Option.map_eq_some_iff.mp formatted
    rw [List.countP_append, callItems_no_text sentItems]
    unfold textItems
    dsimp only
    split
    · exact Nat.zero_le _
    · next spoken =>
      have given : hasProviderItems message = false := by
        simpa [calls.1] using notGiven
      rw [speaks, given, decide_eq_true calls.1, decide_eq_true spoken]
      exact List.countP_le_length
  · unfold plainItems at formatted
    by_cases assistant : responsesRole render message = "assistant"
    · have given : hasProviderItems message = false := by
        simpa [assistant] using notGiven
      rw [speaks, given, decide_eq_true assistant]
      split at formatted
      · next parts content =>
        obtain ⟨shown, -, rfl⟩ := Option.map_eq_some_iff.mp formatted
        have spoken : stringifyContent render (.arr parts) ≠ "" := dumpsWrites (.arr parts)
        rw [content, decide_eq_true spoken]
        exact List.countP_le_length
      · obtain rfl := Option.some.inj formatted
        by_cases spoken : stringifyContent render (valueOf message "content") = ""
        · have empty : isTextItem (messageItem (responsesRole render message) (.str "")) = false :=
            by simp [isTextItem, messageItem, member, Dict.find, isString]
          rw [spoken]
          simp [empty]
        · rw [decide_eq_true spoken]
          exact List.countP_le_length
    · have silent (content : Json) :
          isTextItem (messageItem (responsesRole render message) content) = false := by
        have other : isString (member (messageItem (responsesRole render message) content) "role")
            "assistant" = false := decide_eq_false assistant
        rw [isTextItem, other, Bool.and_false, Bool.false_and]
      split at formatted
      · obtain ⟨shown, -, rfl⟩ := Option.map_eq_some_iff.mp formatted
        simp [silent]
      · obtain rfl := Option.some.inj formatted
        simp [silent]

/-- A message that speaks and has no provider items has an item for its text. -/
theorem responsesItems_carries {message : Fields} {items : List Json}
    (formatted : responsesItems render message = some items)
    (speaking : speaks render message = true) (given : hasProviderItems message = false) :
    ∃ item ∈ items, Carries render message item := by
  unfold speaks at speaking
  rw [Bool.and_eq_true, decide_eq_true_eq, decide_eq_true_eq] at speaking
  obtain ⟨assistant, spoken⟩ := speaking
  unfold responsesItems at formatted
  rw [assistant, if_neg (by decide), if_neg (by decide), if_neg (by simp [given])] at formatted
  split at formatted
  · obtain ⟨sent, -, rfl⟩ := Option.map_eq_some_iff.mp formatted
    refine ⟨_, List.mem_append_left _ ?_, .inl rfl⟩
    rw [textItems]
    simp [spoken]
  · unfold plainItems at formatted
    rw [assistant] at formatted
    split at formatted
    · next parts content =>
      obtain ⟨shown, readable, rfl⟩ := Option.map_eq_some_iff.mp formatted
      exact ⟨_, List.mem_singleton_self _, .inr ⟨parts, shown, content, readable, rfl⟩⟩
    · obtain rfl := Option.some.inj formatted
      exact ⟨_, List.mem_singleton_self _, .inl rfl⟩

theorem carries_text {message : Fields} {item : Json} (speaking : speaks render message = true)
    (carries : Carries render message item) : isTextItem item = true := by
  rcases carries with rfl | ⟨parts, shown, -, -, rfl⟩
  · unfold speaks at speaking
    simpa [isTextItem, messageItem, member, Dict.find, isString] using
      (Bool.and_eq_true_iff.mp speaking).2
  · rfl

/-! ## The whole input -/

/-- The texts are kept just if no message that speaks has provider items. -/
theorem textsKept_iff (dumpsWrites : ∀ value, render.dumps value ≠ "") {kept : List Fields}
    {items : List (List Json)}
    (beside : List.Forall₂ (fun message items => responsesItems render message = some items)
      kept items) :
    TextsKept render kept items.flatten ↔
      ∀ message ∈ kept, speaks render message = true → hasProviderItems message = false := by
  have most : items.flatten.countP isTextItem ≤
      (kept.filter fun message => speaks render message && !hasProviderItems message).length := by
    induction beside with
    | nil => exact Nat.zero_le _
    | cons formatted _ inductionHypothesis =>
      have one := responsesItems_texts dumpsWrites formatted
      rw [List.flatten_cons, List.countP_append, List.filter_cons]
      split at one
      · next speaking =>
        rw [if_pos speaking, List.length_cons]
        omega
      · next silent =>
        rw [if_neg silent]
        omega
  constructor
  · intro texts
    obtain ⟨carried, beside, among⟩ := List.sublistForall₂_iff.mp texts
    have all : carried.countP isTextItem = carried.length := by
      rw [List.countP_eq_length]
      intro item inside
      obtain ⟨message, member, carries⟩ : ∃ message ∈ kept.filter (speaks render),
          Carries render message item := Results.exists_item beside inside
      exact carries_text (List.mem_filter.mp member).2 carries
    have fewer := @List.Sublist.countP_le _ isTextItem _ _ among
    have same := beside.length_eq
    have whole : ((kept.filter (speaks render)).filter fun message =>
        !hasProviderItems message).length = (kept.filter (speaks render)).length := by
      refine Nat.le_antisymm (List.length_filter_le _ _) ?_
      rw [List.filter_filter]
      simp only [Bool.and_comm] at most ⊢
      omega
    intro message member speaking
    have free := List.length_filter_eq_length_iff.mp whole message
      (List.mem_filter.mpr ⟨member, speaking⟩)
    simpa using free
  · intro free
    clear most
    unfold TextsKept
    induction beside with
    | nil => exact .nil
    | @cons message own kept items formatted _ inductionHypothesis =>
      have later := inductionHypothesis fun other member =>
        free other (List.mem_cons_of_mem _ member)
      obtain ⟨carried, beside, among⟩ := List.sublistForall₂_iff.mp later
      rw [List.flatten_cons, List.sublistForall₂_iff]
      by_cases speaking : speaks render message = true
      · obtain ⟨item, inside, carries⟩ := responsesItems_carries formatted speaking
          (free message List.mem_cons_self speaking)
        rw [List.filter_cons_of_pos speaking]
        exact ⟨item :: carried, .cons carries beside,
          (List.singleton_sublist.mpr inside).append among⟩
      · rw [List.filter_cons_of_neg speaking]
        exact ⟨carried, beside, among.trans (List.sublist_append_right _ _)⟩

theorem roleOf_iff {role : String} (named : role ≠ "") (other : role ≠ "user")
    (message : Fields) : roleOf render message = role ↔ responsesRole render message = role := by
  unfold roleOf responsesRole textOr
  split
  · split
    · exact ⟨fun same => absurd same.symm named, fun same => absurd same.symm other⟩
    · rfl
  · split
    · rfl
    · exact ⟨fun same => absurd same.symm named, fun same => absurd same.symm other⟩

/-- The messages of a turn are sent as its calls, and then its answers. -/
theorem turn_events {messages : List Fields} {turn : Turn} (member : turn ∈ turns render messages) :
    (turn.message :: turn.results).flatMap (messageEvents render) =
      group (Turn.sentIds render) Turn.answeredIds turn := by
  have notTool : responsesRole render turn.message ≠ "tool" := fun tool =>
    turns_message member ((roleOf_iff (by decide) (by decide) _).mpr tool)
  have answers : turn.results.flatMap (messageEvents render) =
      turn.answeredIds.map Event.answer := by
    have tools : ∀ result ∈ turn.results, messageEvents render result =
        [.answer (sentToolId result)] := fun result inside =>
      if_pos ((roleOf_iff (by decide) (by decide) _).mp (turns_results member inside))
    rw [List.flatMap_congr tools, Turn.answeredIds, List.map_map, ← List.map_eq_flatMap]
    rfl
  rw [List.flatMap_cons, answers, group, messageEvents, if_neg notTool, Turn.sentIds]
  split <;> rfl

/-- The history that is kept is sent turn by turn. -/
theorem history_events (messages : List Fields) :
    (sanitizeToolMessageHistory render messages).flatMap (messageEvents render) =
      (turns render messages).flatMap (group (Turn.sentIds render) Turn.answeredIds) := by
  rw [sanitizeToolMessageHistory_eq, messagesOf, List.flatMap_assoc]
  exact List.flatMap_congr fun turn member => turn_events member

/-- A text that is kept is the one of a turn's message. -/
theorem speaks_iff (messages : List Fields) (test : Fields → Prop) :
    (∀ message ∈ sanitizeToolMessageHistory render messages, speaks render message = true →
      test message) ↔
      ∀ turn ∈ turns render messages, speaks render turn.message = true → test turn.message := by
  rw [sanitizeToolMessageHistory_eq, messagesOf]
  constructor
  · intro all turn member
    exact all turn.message (List.mem_flatMap.mpr ⟨turn, member, List.mem_cons_self⟩)
  · intro all message member speaking
    obtain ⟨turn, inside, among⟩ := List.mem_flatMap.mp member
    rcases List.mem_cons.mp among with rfl | result
    · exact all turn inside speaking
    · have tool := (roleOf_iff (by decide) (by decide) message).mp (turns_results inside result)
      simp [speaks, tool] at speaking

/-- The identifiers of a history agree: no one is sent for two calls or two outputs, the output of
each one called is sent in some turn, and each output's call in its turn or an earlier one; and no
turn has both a text and a list of provider items. -/
structure IdsAgree (render : Rendering) (messages : List Fields) : Prop where
  ids : GroupsSettled (Turn.sentIds render) Turn.answeredIds (turns render messages)
  texts : ∀ turn ∈ turns render messages, speaks render turn.message = true →
    hasProviderItems turn.message = false

end

/-! ## A history from the other interface -/

/-- The other values are not written in these examples. -/
def noOthers : Rendering := ⟨fun _ => "", fun _ => "null"⟩

/-- A call as `input_brain` keeps it where the provider has sent no items, and its answer. -/
def chatCall : List Fields :=
  [Fields.of [("role", .str "assistant"), ("content", .null),
      ("tool_calls", .arr [.obj [("type", .str "function"), ("id", .str "call_1"),
        ("function", .obj [("name", .str "search_web"), ("arguments", .str "\x7b\x7d")])]]),
      ("provider_items", .arr [])],
    Fields.of [("role", .str "tool"), ("tool_call_id", .str "call_1"), ("content", .str "sunny")]]

/-- The items of such a history. -/
def chatCallInput : ResponsesInput where
  instructions := none
  input := [.obj [("type", .str "function_call_output"), ("call_id", .str "call_1"),
    ("output", .str "sunny")]]

theorem chatCall_formatted : formatResponsesInput noOthers chatCall = some chatCallInput := rfl

end MeetYou.OpenAIAdapter
