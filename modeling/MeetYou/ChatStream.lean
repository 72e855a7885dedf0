import MeetYou.Foundation.Runs
import MeetYou.Foundation.Values
import Mathlib.Data.List.Induction

/-!
# The stream of a chat completion

A completion comes in chunks, each with a piece of text, of reasoning or of tool calls. Text and
reasoning are passed on as they come. The calls are put together by their index and passed on at the
end.

A chunk with tool calls is not looked at for text, an identifier or a name that comes later takes
the place of an earlier one, and a null in place of a list or a text ends the stream with an error.
Where none of this matters, nothing is lost.
-/

namespace MeetYou.ChatStream

open Runs

/-! ## Chunks -/

/-- A field of a delta: it is not there, it is null, or it has a value. -/
inductive Part (α : Type) where
  | absent
  | null
  | value (content : α)

/-- The text of a field, if it has one. -/
def Part.text : Part String → String
  | .value text => text
  | _ => ""

/-- The value a field writes, if it is there. -/
def Part.written : Part String → Option (Option String)
  | .absent => none
  | .null => some none
  | .value text => some (some text)

/-- The function of a part of a call. -/
structure FunctionPart where
  name : Part String
  arguments : Part String

/-- An entry of `tool_calls`. -/
structure CallPart where
  index : Part Int
  id : Part String
  function : Part FunctionPart

/-- The delta of a chunk, each field given, null or absent. -/
structure Delta where
  content : Part String
  reasoningContent : Part String
  reasoning : Part String
  toolCalls : Part (List CallPart)

/-- A chunk, with what `_extract_chat_usage` makes of it and the delta of its first choice. -/
structure Chunk where
  usage : Option Fields
  delta : Option Delta

/-! ## The stream -/

/-- A call as it is put together from its parts. -/
structure ToolCallInfo where
  id : Option String := some ""
  name : Option String := some ""
  argumentsStr : String := ""
deriving DecidableEq

/-- What the stream hands on. -/
inductive StreamEvent where
  | usage (usage : Fields)
  | reasoning (text : String)
  | text (text : String)
  | toolCalls (calls : List ToolCallInfo)
  | done

/-- The index that an entry belongs to; none is that of a null. -/
def CallPart.key (part : CallPart) : Option Int :=
  match part.index with
  | .absent => some 0
  | .null => none
  | .value index => some index

/-- The identifier or the name of a call after a field. -/
def rewritten (field : Part String) (old : Option String) : Option String :=
  field.written.getD old

/-- One round of the loop over `tool_calls`; none where it raises. -/
def receivePart (calls : Dict (Option Int) ToolCallInfo) (part : CallPart) :
    Option (Dict (Option Int) ToolCallInfo) :=
  let info := (calls.get part.key).getD {}
  let info := { info with id := rewritten part.id info.id }
  match part.function with
  | .absent => some (calls.set part.key info)
  | .null => none
  | .value function =>
    let info := { info with name := rewritten function.name info.name }
    match function.arguments with
    | .absent => some (calls.set part.key info)
    | .null => none
    | .value text =>
      some (calls.set part.key { info with argumentsStr := info.argumentsStr ++ text })

/-- The calls so far and the events that were passed on. -/
structure Streaming where
  calls : Dict (Option Int) ToolCallInfo
  events : List StreamEvent

/-- `delta.get("reasoning_content") or delta.get("reasoning")` -/
def Delta.reasoningText (delta : Delta) : String :=
  if delta.reasoningContent.text = "" then delta.reasoning.text else delta.reasoningContent.text

/-- The event of a text that is not empty. -/
def textEvent (event : String → StreamEvent) (text : String) : List StreamEvent :=
  if text = "" then [] else [event text]

/-- One round of `_stream_chat_completions_once`; none where it raises. -/
def streamChunk (state : Streaming) (chunk : Chunk) : Option Streaming :=
  let events := state.events ++ chunk.usage.toList.map .usage
  match chunk.delta with
  | none => some { state with events }
  | some delta =>
    let events := events ++ textEvent .reasoning delta.reasoningText
    match delta.toolCalls with
    | .null => none
    | .value parts => (run receivePart state.calls parts).map fun calls => { calls, events }
    | .absent => some { state with events := events ++ textEvent .text delta.content.text }

/-- The events behind the last chunk. -/
def endEvents (calls : List ToolCallInfo) : List StreamEvent :=
  (if calls = [] then [] else [.toolCalls calls]) ++ [.done]

/-- `_stream_chat_completions_once` -/
def streamChatCompletions (chunks : List Chunk) : Option (List StreamEvent) :=
  (run streamChunk ⟨Dict.empty, []⟩ chunks).map fun final =>
    final.events ++ endEvents (final.calls.entries.map Prod.snd)

/-! ## What is sent and what is passed on -/

/-- The texts one behind the other. -/
def joined (texts : List String) : String := texts.foldr (· ++ ·) ""

/-- The deltas of the chunks that have one. -/
def deltas (chunks : List Chunk) : List Delta := chunks.filterMap Chunk.delta

/-- The entries of `tool_calls`. -/
def Delta.parts (delta : Delta) : List CallPart :=
  match delta.toolCalls with
  | .value parts => parts
  | _ => []

/-- The parts of calls, in the order they came. -/
def partsOf (chunks : List Chunk) : List CallPart := (deltas chunks).flatMap Delta.parts

/-- The indexes of the entries, in the order they come first. -/
def indexes (parts : List CallPart) : List (Option Int) :=
  parts.foldl (fun seen part => if part.key ∈ seen then seen else seen ++ [part.key]) []

/-- The entries with one index. -/
def ofIndex (parts : List CallPart) (index : Option Int) : List CallPart :=
  parts.filter fun part => part.key = index

/-- The name that an entry brings. -/
def CallPart.name (part : CallPart) : Part String :=
  match part.function with
  | .value function => function.name
  | _ => .absent

/-- The piece of the arguments that an entry brings. -/
def CallPart.arguments (part : CallPart) : String :=
  match part.function with
  | .value function => function.arguments.text
  | _ => ""

/-- The values that are written to a field of a call. -/
def writes (field : CallPart → Part String) (parts : List CallPart) : List (Option String) :=
  parts.filterMap fun part => (field part).written

/-- The text of a value that is not empty. -/
def textOf (value : Option String) : Option String := value.filter fun text => text ≠ ""

/-- The last of the values that is a text and not empty. -/
def lastText (written : List (Option String)) : String :=
  (written.filterMap textOf).getLast?.getD ""

/-- The call that the entries with one index are pieces of. -/
def expectedCall (parts : List CallPart) (index : Option Int) : ToolCallInfo where
  id := some (lastText (writes CallPart.id (ofIndex parts index)))
  name := some (lastText (writes CallPart.name (ofIndex parts index)))
  argumentsStr := joined ((ofIndex parts index).map CallPart.arguments)

/-- The call with empty texts in place of null. -/
def ToolCallInfo.plain (call : ToolCallInfo) : ToolCallInfo :=
  { call with id := some (call.id.getD ""), name := some (call.name.getD "") }

/-- The text of an event. -/
def StreamEvent.text? : StreamEvent → Option String
  | .text piece => some piece
  | _ => none

/-- The calls of an event. -/
def StreamEvent.calls : StreamEvent → List ToolCallInfo
  | .toolCalls sent => sent
  | _ => []

/-- The stream ends; its texts are the contents of the deltas, and its calls are those that the
entries are pieces of. -/
def Lossless (chunks : List Chunk) : Prop :=
  ∃ events, streamChatCompletions chunks = some events ∧
    joined (events.filterMap StreamEvent.text?) =
      joined ((deltas chunks).map fun delta => delta.content.text) ∧
    (events.flatMap StreamEvent.calls).map ToolCallInfo.plain =
      (indexes (partsOf chunks)).map (expectedCall (partsOf chunks))

/-- No null in place of the function or the arguments of a call. -/
def CallPart.readable (part : CallPart) : Bool :=
  match part.function with
  | .null => false
  | .absent => true
  | .value function =>
    match function.arguments with
    | .null => false
    | _ => true

/-- No null in place of a list of calls either. -/
def Delta.readable (delta : Delta) : Bool :=
  match delta.toolCalls with
  | .null => false
  | _ => delta.parts.all CallPart.readable

/-- Tool calls come without text. -/
def Delta.separate (delta : Delta) : Bool :=
  match delta.toolCalls with
  | .absent => true
  | _ => decide (delta.content.text = "")

/-- The last value that is written is not empty, or they all are. -/
def LastCounts (written : List (Option String)) : Prop :=
  ∀ last ∈ written.getLast?, last.getD "" = "" → ∀ value ∈ written, value.getD "" = ""

/-- Every delta can be read and has no text beside its calls, and no identifier or name is written
over with an empty one. -/
def Intact (chunks : List Chunk) : Prop :=
  (∀ delta ∈ deltas chunks, delta.readable = true ∧ delta.separate = true) ∧
    ∀ index, LastCounts (writes CallPart.id (ofIndex (partsOf chunks) index)) ∧
      LastCounts (writes CallPart.name (ofIndex (partsOf chunks) index))

/-! ## The pieces of a call -/

/-- The call after an entry. -/
def ToolCallInfo.revise (info : ToolCallInfo) (part : CallPart) : ToolCallInfo where
  id := rewritten part.id info.id
  name := rewritten part.name info.name
  argumentsStr := info.argumentsStr ++ part.arguments

/-- The calls after an entry that can be read. -/
def received (calls : Dict (Option Int) ToolCallInfo) (part : CallPart) :
    Dict (Option Int) ToolCallInfo :=
  calls.set part.key (((calls.get part.key).getD {}).revise part)

theorem receivePart_eq (calls : Dict (Option Int) ToolCallInfo) (part : CallPart) :
    receivePart calls part = if part.readable then some (received calls part) else none := by
  obtain ⟨index, id, function⟩ := part
  cases function with
  | absent =>
    simp [receivePart, received, ToolCallInfo.revise, CallPart.readable, CallPart.name,
      CallPart.arguments, CallPart.key, rewritten, Part.written]
  | null => rfl
  | value function =>
    obtain ⟨name, arguments⟩ := function
    cases arguments with
    | absent =>
      simp [receivePart, received, ToolCallInfo.revise, CallPart.readable, CallPart.name,
        CallPart.arguments, CallPart.key, Part.text]
    | null => rfl
    | value text => rfl

theorem run_receivePart (parts : List CallPart) (calls : Dict (Option Int) ToolCallInfo) :
    run receivePart calls parts =
      if parts.all CallPart.readable then some (parts.foldl received calls) else none := by
  induction parts generalizing calls with
  | nil => rfl
  | cons part rest inductionHypothesis =>
    rw [run, receivePart_eq, List.all_cons]
    cases part.readable with
    | true => exact inductionHypothesis (received calls part)
    | false => rfl

/-- The call that the entries with one index make. -/
def writtenCall (parts : List CallPart) (index : Option Int) : ToolCallInfo :=
  (ofIndex parts index).foldl ToolCallInfo.revise {}

theorem writtenCall_append (parts : List CallPart) (part : CallPart) (index : Option Int) :
    writtenCall (parts ++ [part]) index =
      if part.key = index then (writtenCall parts index).revise part
      else writtenCall parts index := by
  unfold writtenCall ofIndex
  rw [List.filter_append, List.foldl_append]
  by_cases same : part.key = index
  · simp [same]
  · simp [same]

theorem indexes_append (parts : List CallPart) (part : CallPart) :
    indexes (parts ++ [part]) =
      if part.key ∈ indexes parts then indexes parts else indexes parts ++ [part.key] := by
  unfold indexes
  rw [List.foldl_append]
  rfl

theorem mem_indexes {parts : List CallPart} {index : Option Int} :
    index ∈ indexes parts ↔ ∃ part ∈ parts, part.key = index := by
  induction parts using List.reverseRecOn with
  | nil => simp [indexes]
  | append_singleton parts part inductionHypothesis =>
    rw [indexes_append]
    have last : (∃ other ∈ parts ++ [part], other.key = index) ↔
        (∃ other ∈ parts, other.key = index) ∨ part.key = index := by
      simp only [List.mem_append, List.mem_singleton, or_and_right, exists_or, exists_eq_left]
    rw [last, ← inductionHypothesis]
    split
    · next seen =>
      refine ⟨.inl, fun either => either.elim id fun same => same ▸ seen⟩
    · rw [List.mem_append, List.mem_singleton]
      exact or_congr_right eq_comm

theorem indexes_nodup (parts : List CallPart) : (indexes parts).Nodup := by
  induction parts using List.reverseRecOn with
  | nil => exact List.nodup_nil
  | append_singleton parts part inductionHypothesis =>
    rw [indexes_append]
    split
    · exact inductionHypothesis
    · next fresh =>
      exact List.nodup_append.mpr ⟨inductionHypothesis, List.nodup_singleton _, by
        rintro index seen _ last rfl
        exact fresh (List.mem_singleton.mp last ▸ seen)⟩

theorem ofIndex_fresh {parts : List CallPart} {index : Option Int}
    (fresh : index ∉ indexes parts) : ofIndex parts index = [] := by
  rw [ofIndex, List.filter_eq_nil_iff]
  intro part member
  have other := fun same => fresh (mem_indexes.mpr ⟨part, member, same⟩)
  simpa using other

/-- The calls after the entries, in the order of their indexes. -/
theorem received_entries (parts : List CallPart) :
    (parts.foldl received Dict.empty).entries =
      (indexes parts).map fun index => (index, writtenCall parts index) := by
  induction parts using List.reverseRecOn with
  | nil => rfl
  | append_singleton parts part inductionHypothesis =>
    rw [List.foldl_append, List.foldl_cons, List.foldl_nil]
    generalize parts.foldl received Dict.empty = calls at inductionHypothesis
    have held : ((calls.get part.key).getD {}) = writtenCall parts part.key := by
      rw [Dict.get, inductionHypothesis, Dict.find_map]
      split
      · rfl
      · next fresh =>
        rw [writtenCall, ofIndex_fresh fresh]
        rfl
    have change : ∀ index, index ≠ part.key →
        writtenCall (parts ++ [part]) index = writtenCall parts index := by
      intro index other
      rw [writtenCall_append, if_neg (Ne.symm other)]
    have last : (writtenCall parts part.key).revise part =
        writtenCall (parts ++ [part]) part.key := by
      rw [writtenCall_append, if_pos rfl]
    rw [received, held, last]
    change Dict.assign part.key (writtenCall (parts ++ [part]) part.key) calls.entries = _
    rw [inductionHypothesis, indexes_append]
    refine (Dict.assign_map part.key (indexes_nodup parts) change).trans ?_
    congr

/-! ## The fields of a call -/

/-- A field holds the last value written to it. -/
theorem foldl_id (parts : List CallPart) (info : ToolCallInfo) :
    (parts.foldl ToolCallInfo.revise info).id =
      (writes CallPart.id parts).getLast?.getD info.id := by
  induction parts using List.reverseRecOn with
  | nil => rfl
  | append_singleton parts part inductionHypothesis =>
    rw [List.foldl_append, List.foldl_cons, List.foldl_nil, writes, List.filterMap_append]
    change rewritten part.id _ = _
    rw [inductionHypothesis, rewritten, writes]
    cases written : part.id.written with
    | none => simp [written]
    | some value => simp [written]

theorem foldl_name (parts : List CallPart) (info : ToolCallInfo) :
    (parts.foldl ToolCallInfo.revise info).name =
      (writes CallPart.name parts).getLast?.getD info.name := by
  induction parts using List.reverseRecOn with
  | nil => rfl
  | append_singleton parts part inductionHypothesis =>
    rw [List.foldl_append, List.foldl_cons, List.foldl_nil, writes, List.filterMap_append]
    change rewritten part.name _ = _
    rw [inductionHypothesis, rewritten, writes]
    cases written : part.name.written with
    | none => simp [written]
    | some value => simp [written]

theorem joined_append (first second : List String) :
    joined (first ++ second) = joined first ++ joined second := by
  induction first with
  | nil => simp [joined]
  | cons text rest inductionHypothesis =>
    change text ++ joined (rest ++ second) = text ++ joined rest ++ joined second
    rw [inductionHypothesis, String.append_assoc]

theorem foldl_arguments (parts : List CallPart) (info : ToolCallInfo) :
    (parts.foldl ToolCallInfo.revise info).argumentsStr =
      info.argumentsStr ++ joined (parts.map CallPart.arguments) := by
  induction parts generalizing info with
  | nil => exact (String.append_empty).symm
  | cons part rest inductionHypothesis =>
    rw [List.foldl_cons, inductionHypothesis, List.map_cons]
    exact String.append_assoc

theorem textOf_none_iff {value : Option String} : textOf value = none ↔ value.getD "" = "" := by
  cases value with
  | none => simp [textOf]
  | some text => simp [textOf, Option.filter_some]

theorem textOf_some {value : Option String} (full : value.getD "" ≠ "") :
    textOf value = some (value.getD "") := by
  cases value with
  | none => exact absurd rfl full
  | some text => exact if_pos (decide_eq_true full)

/-- There is no last text just if all values are empty. -/
theorem lastText_empty_iff {written : List (Option String)} :
    lastText written = "" ↔ ∀ value ∈ written, value.getD "" = "" := by
  constructor
  · intro none value member
    by_contra full
    obtain ⟨last, isLast⟩ : ∃ last, (written.filterMap textOf).getLast? = some last :=
      List.getLast?_isSome.mpr (List.ne_nil_of_mem
        (List.mem_filterMap.mpr ⟨value, member, textOf_some full⟩)) |> Option.isSome_iff_exists.mp
    obtain ⟨source, -, same⟩ := List.mem_filterMap.mp (List.mem_of_getLast? isLast)
    rw [lastText, isLast, Option.getD_some] at none
    rw [none, textOf] at same
    exact absurd (Option.filter_eq_some_iff.mp same).2 (by decide)
  · intro all
    have nothing : written.filterMap textOf = [] :=
      List.filterMap_eq_nil_iff.mpr fun value member => textOf_none_iff.mpr (all value member)
    rw [lastText, nothing]
    rfl

/-- The last value is the last text just if it is not empty, or all are empty. -/
theorem last_iff (written : List (Option String)) :
    (written.getLast?.getD (some "")).getD "" = lastText written ↔ LastCounts written := by
  induction written using List.reverseRecOn with
  | nil => simp [lastText, LastCounts]
  | append_singleton written last _ =>
    have atEnd : (written ++ [last]).getLast? = some last := List.getLast?_concat
    unfold LastCounts
    rw [atEnd, Option.getD_some]
    by_cases empty : last.getD "" = ""
    · rw [empty, eq_comm, lastText_empty_iff]
      constructor
      · exact fun all _ _ _ => all
      · exact fun counts => counts last rfl empty
    · rw [lastText, List.filterMap_append, List.filterMap_cons_some (textOf_some empty)]
      refine iff_of_true (by simp) ?_
      intro other isLast none
      obtain rfl := Option.some.inj isLast
      exact absurd none empty

/-! ## The chunks -/

/-- The events of a chunk. -/
def chunkEvents (chunk : Chunk) : List StreamEvent :=
  chunk.usage.toList.map .usage ++ chunk.delta.toList.flatMap fun delta =>
    textEvent .reasoning delta.reasoningText ++
      match delta.toolCalls with
      | .absent => textEvent .text delta.content.text
      | _ => []

theorem streamChunk_eq (state : Streaming) (chunk : Chunk) :
    streamChunk state chunk =
      if (chunk.delta.all Delta.readable) then
        some ⟨(chunk.delta.toList.flatMap Delta.parts).foldl received state.calls,
          state.events ++ chunkEvents chunk⟩
      else none := by
  obtain ⟨usage, delta⟩ := chunk
  cases delta with
  | none => simp [streamChunk, chunkEvents]
  | some delta =>
    obtain ⟨content, reasoningContent, reasoning, toolCalls⟩ := delta
    cases toolCalls with
    | absent => simp [streamChunk, chunkEvents, Delta.readable, Delta.parts]
    | null => rfl
    | value parts =>
      have run := run_receivePart parts state.calls
      simp only [streamChunk, run, chunkEvents, Delta.readable, Delta.parts, Option.all_some]
      by_cases readable : parts.all CallPart.readable = true
      · simp only [readable, if_true, Option.map_some, Option.some.injEq, Streaming.mk.injEq]
        exact ⟨by rw [Option.toList_some, List.flatMap_singleton]; rfl, by simp⟩
      · simp [readable]

theorem deltas_cons (chunk : Chunk) (rest : List Chunk) :
    deltas (chunk :: rest) = chunk.delta.toList ++ deltas rest := by
  unfold deltas
  rw [List.filterMap_cons]
  cases chunk.delta with
  | none => rfl
  | some delta => rfl

theorem run_streamChunk (chunks : List Chunk) (state : Streaming) :
    run streamChunk state chunks =
      if (deltas chunks).all Delta.readable then
        some ⟨(partsOf chunks).foldl received state.calls,
          state.events ++ chunks.flatMap chunkEvents⟩
      else none := by
  induction chunks generalizing state with
  | nil => simp [run, deltas, partsOf]
  | cons chunk rest inductionHypothesis =>
    have all : chunk.delta.toList.all Delta.readable = chunk.delta.all Delta.readable := by
      cases chunk.delta with
      | none => rfl
      | some delta => simp
    rw [run, streamChunk_eq, partsOf, deltas_cons, List.all_append, all]
    cases chunk.delta.all Delta.readable with
    | false => rfl
    | true =>
      rw [if_pos rfl, Option.bind_some, inductionHypothesis, Bool.true_and, List.flatMap_append,
        List.foldl_append, List.flatMap_cons, List.append_assoc]
      rfl

/-! ## Texts -/

/-- The text of a delta that is passed on. -/
def Delta.shown (delta : Delta) : String :=
  match delta.toolCalls with
  | .absent => delta.content.text
  | _ => ""

theorem shown_iff (delta : Delta) :
    delta.shown = delta.content.text ↔ delta.separate = true := by
  unfold Delta.shown Delta.separate
  split
  · simp
  · rw [decide_eq_true_eq]
    exact eq_comm

/-- Leaving texts out of a sequence changes it unless they are empty. -/
theorem joined_eq_iff {α : Type} {items : List α} {shown whole : α → String}
    (left : ∀ item, shown item = "" ∨ shown item = whole item) :
    joined (items.map shown) = joined (items.map whole) ↔
      ∀ item ∈ items, shown item = whole item := by
  have shorter (item : α) : (shown item).length ≤ (whole item).length := by
    rcases left item with empty | same
    · rw [empty]
      exact Nat.zero_le _
    · exact Nat.le_of_eq (congrArg String.length same)
  have shorterAll (items : List α) :
      (joined (items.map shown)).length ≤ (joined (items.map whole)).length := by
    induction items with
    | nil => exact Nat.le_refl _
    | cons item rest inductionHypothesis =>
      change (shown item ++ joined (rest.map shown)).length ≤
        (whole item ++ joined (rest.map whole)).length
      rw [String.length_append, String.length_append]
      exact Nat.add_le_add (shorter item) inductionHypothesis
  constructor
  · induction items with
    | nil => exact fun _ item member => nomatch member
    | cons item rest inductionHypothesis =>
      intro same
      change shown item ++ joined (rest.map shown) = whole item ++ joined (rest.map whole) at same
      have lengths := congrArg String.length same
      rw [String.length_append, String.length_append] at lengths
      have here := shorter item
      have there := shorterAll rest
      have first : shown item = whole item := by
        rcases left item with empty | equal
        · have none : (whole item).length = 0 := by
            rw [empty] at lengths
            change 0 + _ = _ at lengths
            omega
          rw [empty, String.length_eq_zero_iff.mp none]
        · exact equal
      rw [first] at same
      have later := inductionHypothesis (String.append_right_inj _ |>.mp same)
      intro other member
      rcases List.mem_cons.mp member with rfl | behind
      · exact first
      · exact later other behind
  · intro all
    rw [List.map_congr_left all]

theorem textEvent_texts (text : String) :
    joined ((textEvent .text text).filterMap StreamEvent.text?) = text := by
  unfold textEvent
  split
  · next empty => exact empty.symm
  · exact String.append_empty

theorem reasoning_texts (text : String) :
    (textEvent .reasoning text).filterMap StreamEvent.text? = [] := by
  unfold textEvent
  split
  · rfl
  · rfl

theorem chunkEvents_texts (chunk : Chunk) :
    joined ((chunkEvents chunk).filterMap StreamEvent.text?) =
      joined (chunk.delta.toList.map Delta.shown) := by
  obtain ⟨usage, delta⟩ := chunk
  have none : (usage.toList.map StreamEvent.usage).filterMap StreamEvent.text? = [] := by
    cases usage with
    | none => rfl
    | some usage => rfl
  unfold chunkEvents
  rw [List.filterMap_append, none, List.nil_append]
  cases delta with
  | none => rfl
  | some delta =>
    simp only [Option.toList_some, List.flatMap_cons, List.flatMap_nil, List.append_nil,
      List.filterMap_append, reasoning_texts, List.nil_append, List.map_cons, List.map_nil]
    unfold Delta.shown
    split
    · rw [textEvent_texts]
      exact String.append_empty.symm
    · rfl

theorem chunks_texts (chunks : List Chunk) :
    joined ((chunks.flatMap chunkEvents).filterMap StreamEvent.text?) =
      joined ((deltas chunks).map Delta.shown) := by
  induction chunks with
  | nil => rfl
  | cons chunk rest inductionHypothesis =>
    rw [List.flatMap_cons, List.filterMap_append, joined_append, chunkEvents_texts,
      inductionHypothesis, deltas_cons, List.map_append, joined_append]

theorem textEvent_calls {event : String → StreamEvent}
    (none : ∀ text, (event text).calls = []) (text : String) :
    (textEvent event text).flatMap StreamEvent.calls = [] := by
  unfold textEvent
  split
  · rfl
  · rw [List.flatMap_singleton, none]

theorem chunkEvents_calls (chunk : Chunk) :
    (chunkEvents chunk).flatMap StreamEvent.calls = [] := by
  obtain ⟨usage, delta⟩ := chunk
  have none : (usage.toList.map StreamEvent.usage).flatMap StreamEvent.calls = [] := by
    cases usage with
    | none => rfl
    | some usage => rfl
  unfold chunkEvents
  rw [List.flatMap_append, none, List.nil_append]
  cases delta with
  | none => rfl
  | some delta =>
    rw [Option.toList_some, List.flatMap_singleton, List.flatMap_append,
      textEvent_calls fun _ => rfl, List.nil_append]
    split
    · exact textEvent_calls (fun _ => rfl) _
    · rfl

theorem chunks_calls (chunks : List Chunk) :
    (chunks.flatMap chunkEvents).flatMap StreamEvent.calls = [] := by
  rw [List.flatMap_assoc]
  exact List.flatMap_eq_nil_iff.mpr fun chunk _ => chunkEvents_calls chunk

/-! ## The whole stream -/

/-- The stream ends just if every delta can be read, with these texts and calls. -/
theorem streamChatCompletions_iff {chunks : List Chunk} {events : List StreamEvent} :
    streamChatCompletions chunks = some events ↔
      (deltas chunks).all Delta.readable = true ∧
        events = chunks.flatMap chunkEvents ++
          endEvents ((indexes (partsOf chunks)).map (writtenCall (partsOf chunks))) := by
  unfold streamChatCompletions
  rw [run_streamChunk]
  by_cases readable : (deltas chunks).all Delta.readable = true
  · rw [if_pos readable, Option.map_some, received_entries]
    simp only [List.map_map, List.nil_append, Option.some.injEq, readable, true_and]
    exact eq_comm
  · rw [if_neg readable]
    simp [readable]

theorem writtenCall_plain_iff (parts : List CallPart) (index : Option Int) :
    (writtenCall parts index).plain = expectedCall parts index ↔
      LastCounts (writes CallPart.id (ofIndex parts index)) ∧
        LastCounts (writes CallPart.name (ofIndex parts index)) := by
  rw [← last_iff, ← last_iff]
  unfold ToolCallInfo.plain expectedCall writtenCall
  rw [foldl_id, foldl_name, foldl_arguments]
  simp only [ToolCallInfo.mk.injEq, Option.some.injEq, String.empty_append, and_true]

theorem endEvents_texts (calls : List ToolCallInfo) :
    (endEvents calls).filterMap StreamEvent.text? = [] := by
  unfold endEvents
  split
  · rfl
  · rfl

theorem endEvents_calls (calls : List ToolCallInfo) :
    (endEvents calls).flatMap StreamEvent.calls = calls := by
  unfold endEvents
  split
  · next none => exact none.symm
  · exact List.append_nil calls

/-- A stream that ends is compared text by text and call by call. -/
theorem lossless_parts (chunks : List Chunk) :
    Lossless chunks ↔ (deltas chunks).all Delta.readable = true ∧
      joined ((deltas chunks).map Delta.shown) =
        joined ((deltas chunks).map fun delta => delta.content.text) ∧
      ∀ index ∈ indexes (partsOf chunks),
        (writtenCall (partsOf chunks) index).plain = expectedCall (partsOf chunks) index := by
  have calls := @List.map_inj_left _ _ (indexes (partsOf chunks))
    (fun index => (writtenCall (partsOf chunks) index).plain) (expectedCall (partsOf chunks))
  rw [← calls]
  constructor
  · rintro ⟨events, ended, texts, calls⟩
    obtain ⟨readable, rfl⟩ := streamChatCompletions_iff.mp ended
    rw [List.filterMap_append, endEvents_texts, List.append_nil, chunks_texts] at texts
    rw [List.flatMap_append, chunks_calls, endEvents_calls, List.nil_append, List.map_map] at calls
    exact ⟨readable, texts, calls⟩
  · rintro ⟨readable, texts, calls⟩
    refine ⟨_, streamChatCompletions_iff.mpr ⟨readable, rfl⟩, ?_, ?_⟩
    · rw [List.filterMap_append, endEvents_texts, List.append_nil, chunks_texts]
      exact texts
    · rw [List.flatMap_append, chunks_calls, endEvents_calls, List.nil_append, List.map_map]
      exact calls

/-- The stream loses nothing just if its chunks can be read, have no text beside their calls, and
write no identifier or name over with an empty one. -/
theorem lossless_iff (chunks : List Chunk) : Lossless chunks ↔ Intact chunks := by
  have texts := @joined_eq_iff _ (deltas chunks) Delta.shown (fun delta => delta.content.text)
    (fun delta => by
      unfold Delta.shown
      split
      · exact .inr rfl
      · exact .inl rfl)
  have calls : (∀ index ∈ indexes (partsOf chunks),
      (writtenCall (partsOf chunks) index).plain = expectedCall (partsOf chunks) index) ↔
        ∀ index, LastCounts (writes CallPart.id (ofIndex (partsOf chunks) index)) ∧
          LastCounts (writes CallPart.name (ofIndex (partsOf chunks) index)) := by
    constructor
    · intro each index
      rw [← writtenCall_plain_iff]
      by_cases sent : index ∈ indexes (partsOf chunks)
      · exact each index sent
      · have none := ofIndex_fresh sent
        rw [writtenCall, expectedCall, none]
        rfl
    · exact fun each index _ => (writtenCall_plain_iff _ _).mpr (each index)
  rw [lossless_parts, texts, calls, List.all_eq_true, ← and_assoc, ← forall₂_and]
  simp only [shown_iff]
  rfl

/-! ## Text beside a call -/

/-- A chunk with a text and the beginning of a call. -/
def mixedChunk : Chunk where
  usage := none
  delta := some {
    content := .value "Let me look."
    reasoningContent := .absent
    reasoning := .absent
    toolCalls := .value [⟨.value 0, .value "call_1",
      .value ⟨.value "search_web", .value "\x7b\x7d"⟩⟩] }

/-- The text is not passed on. -/
theorem mixed_chunk_loses_text : ¬Lossless [mixedChunk] := by
  rintro ⟨events, ended, texts, -⟩
  obtain ⟨-, rfl⟩ := streamChatCompletions_iff.mp ended
  revert texts
  decide

end MeetYou.ChatStream
