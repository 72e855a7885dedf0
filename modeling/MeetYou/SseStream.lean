import MeetYou.Foundation.SpacedWords
import MeetYou.Foundation.Values

/-!
# Events of a provider

A provider sends its answer as events, each a JSON object on one or more data lines with a blank
line behind it. The object is put together again from its lines: after each line the text so far is
read, and as no beginning of an object can be read, it is read when it is whole.

The end of the stream is marked by a text that is no JSON, and passed on as an object with a field
of its own. A provider's object with this field is taken for the end of the stream.

The JSON reader is a parameter. What is used of it is stated for the texts of an object: it reads
the tokens as the object whatever white space stands between them, and no beginning of them.
-/

namespace MeetYou.SseStream

open Text

/-! ## Lines -/

/-- `raw_line.decode("utf-8").rstrip("\r\n")` of a decoded line. -/
def rstripEnd (raw : List Char) : List Char :=
  raw.rdropWhile fun character => character ∈ ['\r', '\n']

/-- `"\n".join(lines)` -/
def joinLines : List (List Char) → List Char
  | [] => []
  | [line] => line
  | line :: other :: rest => line ++ '\n' :: joinLines (other :: rest)

/-- What stands for the end of the stream. -/
def endMark : Json := .obj [("__done__", .bool true)]

section
variable (loads : List Char → Option Json)

/-- `parse_payload`. A null that is read is the same as nothing. -/
def parsePayload (eventLines : List (List Char)) : Option Json :=
  let payload := trim (joinLines eventLines)
  if payload = [] then none
  else if payload = "[DONE]".toList then some endMark
  else match loads payload with
    | some .null => none
    | parsed => parsed

/-- `parsed.get("__done__")`; none where it raises. -/
def isDone : Json → Option Bool
  | .obj fields => some ((Dict.find "__done__" fields).any Json.truthy)
  | _ => none

/-- `_iter_sse_payloads` with the lines of the event so far; none where it raises. -/
def iterSsePayloads : List (List Char) → List (List Char) → Option (List Json)
  | [], eventLines =>
      if eventLines = [] then some []
      else match parsePayload loads eventLines with
        | none => some []
        | some parsed => (isDone parsed).map fun done => if done then [] else [parsed]
  | raw :: rest, eventLines =>
      let line := rstripEnd raw
      if line = [] then
        if eventLines = [] then iterSsePayloads rest []
        else match parsePayload loads eventLines with
          | none => iterSsePayloads rest []
          | some parsed => (isDone parsed).bind fun done =>
              if done then some [] else (iterSsePayloads rest []).map fun later => parsed :: later
      else if line.head? = some ':' then iterSsePayloads rest eventLines
      else if "data:".toList.isPrefixOf line then
        let eventLines := eventLines ++ [trim (line.drop 5)]
        match parsePayload loads eventLines with
        | none => iterSsePayloads rest eventLines
        | some parsed => (isDone parsed).bind fun done =>
            if done then some [] else (iterSsePayloads rest []).map fun later => parsed :: later
      else iterSsePayloads rest eventLines

end

/-! ## What is sent -/

/-- White space between tokens. -/
def White (gap : List Char) : Prop := ∀ character ∈ gap, character ∈ [' ', '\t', '\n', '\r']

/-- The tokens with white space between them. -/
inductive Arranged : List (List Char) → List Char → Prop
  | nil : Arranged [] []
  | last (token : List Char) : Arranged [token] token
  | cons {token other gap text : List Char} {rest : List (List Char)} : White gap →
      Arranged (other :: rest) text → Arranged (token :: other :: rest) (token ++ (gap ++ text))

/-- The tokens of an object. The reader takes them for the object, and no beginning of them for
anything. -/
structure Reads (loads : List Char → Option Json) (tokens : List (List Char))
    (payload : List (String × Json)) : Prop where
  opens : tokens.head? = some ['\x7b']
  visible : ∀ token ∈ tokens, Trimmed token ∧ token ≠ []
  whole : ∀ text, Arranged tokens text → loads text = some (.obj payload)
  beginning : ∀ count < tokens.length, ∀ text, Arranged (tokens.take count) text →
    loads text = none

/-- The line is blank. -/
def Blank (raw : List Char) : Prop := rstripEnd raw = []

/-- The line is a comment or has another field than data. -/
def Ignored (raw : List Char) : Prop :=
  rstripEnd raw ≠ [] ∧ ((rstripEnd raw).head? = some ':' ∨
    "data:".toList.isPrefixOf (rstripEnd raw) = false)

/-- The line has a text as its data, with any padding. -/
def DataLine (raw text : List Char) : Prop :=
  ∃ padded, rstripEnd raw = "data:".toList ++ padded ∧ trim padded = text

/-- Groups of tokens, each on a data line, with comments and other lines between them. -/
inductive EventLines : List (List (List Char)) → List (List Char) → Prop
  | nil : EventLines [] []
  | ignored {raw : List Char} {groups lines} : Ignored raw → EventLines groups lines →
      EventLines groups (raw :: lines)
  | data {raw text : List Char} {group groups lines} : DataLine raw text → Arranged group text →
      EventLines groups lines → EventLines (group :: groups) (raw :: lines)

/-- The lines of a stream, and the objects in front of its end mark. Behind the mark anything may
stand. -/
inductive Stream (loads : List Char → Option Json) :
    List (List Char) → List (List (String × Json)) → Prop
  | nil : Stream loads [] []
  | skip {raw rest payloads} : Blank raw ∨ Ignored raw → Stream loads rest payloads →
      Stream loads (raw :: rest) payloads
  | event {groups lines blank rest payload payloads} : Reads loads groups.flatten payload →
      EventLines groups lines → Blank blank → Stream loads rest payloads →
      Stream loads (lines ++ blank :: rest) (payload :: payloads)
  | done {raw : List Char} (rest : List (List Char)) : DataLine raw "[DONE]".toList →
      Stream loads (raw :: rest) []

/-- The object has the field that marks the end of the stream. -/
def marksEnd (payload : List (String × Json)) : Bool :=
  (Dict.find "__done__" payload).any Json.truthy

/-! ## Texts of tokens -/

theorem white_newlines {gap : List Char} (newlines : ∀ character ∈ gap, character = '\n') :
    White gap := by
  intro character member
  rw [newlines character member]
  decide

/-- Tokens behind tokens, with white space between them. -/
theorem Arranged.append {first second : List (List Char)} {front gap back : List Char}
    (left : Arranged first front) (right : Arranged second back) (white : White gap)
    (some : first ≠ []) (other : second ≠ []) :
    Arranged (first ++ second) (front ++ (gap ++ back)) := by
  induction left with
  | nil => exact absurd rfl some
  | last token =>
    obtain ⟨next, rest, rfl⟩ := List.exists_cons_of_ne_nil other
    exact .cons white right
  | @cons token next inside text rest inner _ inductionHypothesis =>
    have whole := @Arranged.cons token next inside _ (rest ++ second) inner
      (inductionHypothesis (List.cons_ne_nil _ _))
    simpa using whole

/-- A text of tokens begins and ends with visible characters. -/
theorem Arranged.trimmed {tokens : List (List Char)} {text : List Char}
    (arranged : Arranged tokens text) (visible : ∀ token ∈ tokens, Trimmed token ∧ token ≠ []) :
    Trimmed text ∧ (tokens ≠ [] → text ≠ []) := by
  induction arranged with
  | nil => exact ⟨⟨fun _ head => (nomatch head), fun _ last => (nomatch last)⟩, fun other =>
      absurd rfl other⟩
  | last token =>
    obtain ⟨trimmed, some⟩ := visible token List.mem_cons_self
    exact ⟨trimmed, fun _ => some⟩
  | @cons token next gap text rest _ _ inductionHypothesis =>
    obtain ⟨trimmed, some⟩ := visible token List.mem_cons_self
    obtain ⟨later, full⟩ := inductionHypothesis fun other member =>
      visible other (List.mem_cons_of_mem _ member)
    have behind := full (List.cons_ne_nil _ _)
    refine ⟨⟨fun character head => ?_, fun character last => ?_⟩, fun _ => by simp [some]⟩
    · rw [List.head?_append_of_ne_nil _ some] at head
      exact trimmed.front character head
    · rw [← List.append_assoc, List.getLast?_append_of_ne_nil _ behind] at last
      exact later.back character last

/-- Space around a text is taken away. -/
theorem trim_framed {front text back : List Char} (trimmed : Trimmed text)
    (before : ∀ character ∈ front, isSpace character = true)
    (after : ∀ character ∈ back, isSpace character = true) :
    trim (front ++ (text ++ back)) = text := by
  have whole := trim_of_trimmed trimmed
  unfold trim at whole ⊢
  rw [List.dropWhile_append_of_pos before]
  cases text with
  | nil =>
    rw [List.nil_append, List.dropWhile_eq_nil_iff.mpr after]
    rfl
  | cons first rest =>
    have visible : ¬isSpace first = true := by simp [trimmed.front first rfl]
    rw [List.dropWhile_cons_of_neg visible] at whole
    rw [List.cons_append, List.dropWhile_cons_of_neg visible, ← List.cons_append]
    unfold List.rdropWhile at whole ⊢
    rw [List.reverse_append, List.dropWhile_append_of_pos fun character member =>
      after character (List.mem_reverse.mp member)]
    exact whole

/-- Tokens between line ends. -/
def Framed (tokens : List (List Char)) (text : List Char) : Prop :=
  ∃ front core back, text = front ++ (core ++ back) ∧ (∀ character ∈ front, character = '\n') ∧
    (∀ character ∈ back, character = '\n') ∧ Arranged tokens core

theorem Arranged.eq_nil {text : List Char} (arranged : Arranged [] text) : text = [] := by
  cases arranged
  rfl

/-- The groups of tokens on several lines make one sequence of tokens. -/
theorem joinLines_framed {groups : List (List (List Char))} {texts : List (List Char)}
    (beside : List.Forall₂ Arranged groups texts) : Framed groups.flatten (joinLines texts) := by
  induction beside with
  | nil => exact ⟨[], [], [], rfl, List.forall_mem_nil _, List.forall_mem_nil _, .nil⟩
  | @cons group text groups texts arranged later inductionHypothesis =>
    cases texts with
    | nil =>
      cases later
      refine ⟨[], text, [], (List.append_nil _).symm, List.forall_mem_nil _,
        List.forall_mem_nil _, ?_⟩
      simpa using arranged
    | cons other more =>
      obtain ⟨front, core, back, same, before, after, tokens⟩ := inductionHypothesis
      rw [joinLines, same, List.flatten_cons]
      have newFront : ∀ character ∈ '\n' :: front, character = '\n' := by simpa using before
      by_cases empty : group = []
      · subst empty
        rw [arranged.eq_nil]
        exact ⟨'\n' :: front, core, back, rfl, newFront, after, tokens⟩
      by_cases ends : groups.flatten = []
      · rw [ends] at tokens ⊢
        rw [tokens.eq_nil]
        refine ⟨[], text, '\n' :: (front ++ back), rfl, List.forall_mem_nil _, ?_, ?_⟩
        · intro character member
          rcases List.mem_append.mp (show character ∈ ('\n' :: front) ++ back from member) with
            here | there
          · exact newFront character here
          · exact after character there
        · simpa using arranged
      · exact ⟨[], text ++ (('\n' :: front) ++ core), back, by simp, List.forall_mem_nil _, after,
          arranged.append tokens (white_newlines newFront) empty ends⟩

/-- The text of several lines, without the space around it. -/
theorem joined_arranged {groups : List (List (List Char))} {texts : List (List Char)}
    (beside : List.Forall₂ Arranged groups texts)
    (visible : ∀ token ∈ groups.flatten, Trimmed token ∧ token ≠ []) :
    Arranged groups.flatten (trim (joinLines texts)) := by
  obtain ⟨front, core, back, same, before, after, arranged⟩ := joinLines_framed beside
  rw [same, trim_framed (arranged.trimmed visible).1]
  · exact arranged
  · intro character member
    rw [before character member]
    rfl
  · intro character member
    rw [after character member]
    rfl

/-! ## Reading the lines so far -/

section
variable {loads : List Char → Option Json} {groups : List (List (List Char))}
  {texts : List (List Char)} {tokens later : List (List Char)} {payload : List (String × Json)}

theorem parsePayload_blank (beside : List.Forall₂ Arranged groups texts)
    (empty : groups.flatten = []) : parsePayload loads texts = none := by
  have arranged := joined_arranged beside (by rw [empty]; exact List.forall_mem_nil _)
  rw [empty] at arranged
  unfold parsePayload
  dsimp only
  rw [if_pos arranged.eq_nil]

/-- The text of an object begins with its brace. -/
theorem Arranged.opens {text : List Char} (arranged : Arranged tokens text)
    (opens : tokens.head? = some ['\x7b']) : text.head? = some '\x7b' := by
  cases arranged with
  | nil => cases opens
  | last token =>
    obtain rfl := Option.some.inj opens
    rfl
  | cons _ _ =>
    obtain rfl := Option.some.inj opens
    rfl

theorem parsePayload_opens {texts : List (List Char)}
    (opens : (trim (joinLines texts)).head? = some '\x7b') :
    parsePayload loads texts = match loads (trim (joinLines texts)) with
      | some .null => none
      | parsed => parsed := by
  unfold parsePayload
  dsimp only
  generalize trim (joinLines texts) = text at opens
  rw [if_neg, if_neg]
  · rintro rfl
    revert opens
    decide
  · rintro rfl
    cases opens

/-- A beginning of an object is not read. -/
theorem parsePayload_beginning (reads : Reads loads tokens payload)
    (beside : List.Forall₂ Arranged groups texts) (parts : groups.flatten ++ later = tokens)
    (more : later ≠ []) : parsePayload loads texts = none := by
  by_cases empty : groups.flatten = []
  · exact parsePayload_blank beside empty
  have arranged := joined_arranged beside fun token member =>
    reads.visible token (parts ▸ List.mem_append_left _ member)
  have shorter : groups.flatten.length < tokens.length := by
    rw [← parts, List.length_append]
    exact Nat.lt_add_of_pos_right (List.length_pos_iff.mpr more)
  have first : tokens.take groups.flatten.length = groups.flatten := by
    rw [← parts, List.take_left]
  have unread := reads.beginning _ shorter _ (first.symm ▸ arranged)
  have opens : groups.flatten.head? = some ['\x7b'] := by
    rw [← reads.opens, ← parts, List.head?_append_of_ne_nil _ empty]
  rw [parsePayload_opens (arranged.opens opens), unread]

/-- A whole object is read. -/
theorem parsePayload_whole (reads : Reads loads groups.flatten payload)
    (beside : List.Forall₂ Arranged groups texts) :
    parsePayload loads texts = some (.obj payload) := by
  have arranged := joined_arranged beside reads.visible
  rw [parsePayload_opens (arranged.opens reads.opens), reads.whole _ arranged]

end

/-! ## One line -/

section
variable {loads : List Char → Option Json} {raw : List Char} {rest eventLines : List (List Char)}

theorem iter_ignored (ignored : Ignored raw) :
    iterSsePayloads loads (raw :: rest) eventLines = iterSsePayloads loads rest eventLines := by
  obtain ⟨some, comment | other⟩ := ignored
  · rw [iterSsePayloads]
    dsimp only
    rw [if_neg some, if_pos comment]
  · rw [iterSsePayloads]
    dsimp only
    rw [if_neg some, other]
    split
    · rfl
    · rfl

theorem iter_blank (blank : Blank raw) (unread : parsePayload loads eventLines = none) :
    iterSsePayloads loads (raw :: rest) eventLines = iterSsePayloads loads rest [] := by
  rw [iterSsePayloads]
  dsimp only
  rw [if_pos (show rstripEnd raw = [] from blank), unread]
  split
  · rfl
  · rfl

/-- A data line is read with the lines in front of it. -/
theorem iter_data {text : List Char} (data : DataLine raw text) :
    iterSsePayloads loads (raw :: rest) eventLines =
      match parsePayload loads (eventLines ++ [text]) with
      | none => iterSsePayloads loads rest (eventLines ++ [text])
      | some parsed => (isDone parsed).bind fun done =>
          if done then some [] else (iterSsePayloads loads rest []).map fun later =>
            parsed :: later := by
  obtain ⟨padded, line, rfl⟩ := data
  rw [iterSsePayloads, line]
  dsimp only
  have named : "data:".toList.isPrefixOf ("data:".toList ++ padded) = true :=
    List.isPrefixOf_iff_prefix.mpr (List.prefix_append _ _)
  have behind : ("data:".toList ++ padded).drop 5 = padded := rfl
  have head : ("data:".toList ++ padded).head? = some 'd' := rfl
  rw [if_neg (List.append_ne_nil_of_left_ne_nil (by decide) _), head, if_neg (by decide),
    if_pos named, behind]

/-! ## One event -/

/-- What is left of an event that is read has no tokens, and nothing comes of it. -/
theorem iter_drain {groups : List (List (List Char))} {lines : List (List Char)} {blank : List Char}
    (remaining : EventLines groups lines) (empty : groups.flatten = []) (isBlank : Blank blank)
    {seen : List (List (List Char))} (beside : List.Forall₂ Arranged seen eventLines)
    (none : seen.flatten = []) :
    iterSsePayloads loads (lines ++ blank :: rest) eventLines = iterSsePayloads loads rest [] := by
  induction remaining generalizing seen eventLines with
  | nil => exact iter_blank isBlank (parsePayload_blank beside none)
  | ignored ignored _ inductionHypothesis =>
    rw [List.cons_append, iter_ignored ignored]
    exact inductionHypothesis empty beside none
  | @data raw text group groups lines data arranged _ inductionHypothesis =>
    rw [List.flatten_cons, List.append_eq_nil_iff] at empty
    have more : List.Forall₂ Arranged (seen ++ [group]) (eventLines ++ [text]) :=
      List.rel_append beside (.cons arranged .nil)
    have still : (seen ++ [group]).flatten = [] := by
      rw [List.flatten_append, none, List.flatten_singleton, empty.1, List.append_nil]
    rw [List.cons_append, iter_data data, parsePayload_blank more still]
    exact inductionHypothesis empty.2 more still

/-- An event is read with the line that makes it whole. -/
theorem iter_event {groups seen : List (List (List Char))} {lines : List (List Char)}
    {blank : List Char} {payload : List (String × Json)} (remaining : EventLines groups lines)
    (reads : Reads loads (seen ++ groups).flatten payload) (isBlank : Blank blank)
    (beside : List.Forall₂ Arranged seen eventLines) (more : groups.flatten ≠ []) :
    iterSsePayloads loads (lines ++ blank :: rest) eventLines =
      if marksEnd payload then some []
      else (iterSsePayloads loads rest []).map fun later => .obj payload :: later := by
  induction remaining generalizing seen eventLines with
  | nil => exact absurd rfl more
  | ignored ignored _ inductionHypothesis =>
    rw [List.cons_append, iter_ignored ignored]
    exact inductionHypothesis reads beside more
  | @data raw text group groups lines data arranged later inductionHypothesis =>
    have next : List.Forall₂ Arranged (seen ++ [group]) (eventLines ++ [text]) :=
      List.rel_append beside (.cons arranged .nil)
    have same : seen ++ group :: groups = (seen ++ [group]) ++ groups := by simp
    rw [same] at reads
    rw [List.cons_append, iter_data data]
    by_cases ends : groups.flatten = []
    · have whole : ((seen ++ [group]) ++ groups).flatten = (seen ++ [group]).flatten := by
        rw [List.flatten_append, ends, List.append_nil]
      rw [whole] at reads
      rw [parsePayload_whole reads next]
      change (some (marksEnd payload)).bind _ = _
      rw [Option.bind_some, iter_drain later ends isBlank .nil rfl]
    · have unread := @parsePayload_beginning loads _ _ _ groups.flatten payload reads next
        List.flatten_append.symm ends
      rw [unread]
      exact inductionHypothesis reads next ends

theorem iter_done (data : DataLine raw "[DONE]".toList) :
    iterSsePayloads loads (raw :: rest) [] = some [] := by
  rw [iter_data data]
  have read : parsePayload loads ([] ++ ["[DONE]".toList]) = some endMark := by
    unfold parsePayload
    have trimmed : trim (joinLines ([] ++ ["[DONE]".toList])) = "[DONE]".toList := by decide
    rw [trimmed]
    rfl
  rw [read]
  rfl

end

/-! ## The whole stream -/

/-- The objects come out in front of the first that marks the end. -/
theorem iter_stream {loads : List Char → Option Json} {lines : List (List Char)}
    {payloads : List (List (String × Json))} (stream : Stream loads lines payloads) :
    iterSsePayloads loads lines [] =
      some ((payloads.takeWhile fun payload => !marksEnd payload).map .obj) := by
  induction stream with
  | nil => rfl
  | @skip raw rest payloads passed _ inductionHypothesis =>
    rcases passed with blank | ignored
    · rw [iter_blank blank (parsePayload_blank .nil rfl)]
      exact inductionHypothesis
    · rw [iter_ignored ignored]
      exact inductionHypothesis
  | @event groups lines blank rest payload payloads reads remaining isBlank _ inductionHypothesis =>
    have some : groups.flatten ≠ [] := by
      intro empty
      have opens := reads.opens
      rw [empty] at opens
      cases opens
    rw [@iter_event loads rest [] groups [] lines blank payload remaining reads isBlank .nil some,
      inductionHypothesis, List.takeWhile_cons]
    cases marksEnd payload with
    | true => rfl
    | false => rfl
  | done rest data => exact iter_done data

/-- The objects in front of the end mark come out, each once and in order, just if none of them has
the field that stands for the mark. -/
theorem stream_decoded_iff {loads : List Char → Option Json} {lines : List (List Char)}
    {payloads : List (List (String × Json))} (stream : Stream loads lines payloads) :
    iterSsePayloads loads lines [] = some (payloads.map .obj) ↔
      ∀ payload ∈ payloads, marksEnd payload = false := by
  rw [iter_stream stream, Option.some.injEq]
  constructor
  · intro same payload member
    have lengths := congrArg List.length same
    rw [List.length_map, List.length_map] at lengths
    have all := (List.takeWhile_prefix fun payload => !marksEnd payload).eq_of_length lengths
    simpa using List.takeWhile_eq_self_iff.mp all payload member
  · intro none
    rw [List.takeWhile_eq_self_iff.mpr fun payload member => by simp [none payload member]]

/-! ## A reader of one object -/

/-- The text without its white space. -/
def compact (text : List Char) : List Char :=
  text.filter fun character => !decide (character ∈ [' ', '\t', '\n', '\r'])

/-- Reads one object, whatever white space stands in its text. -/
def readsOnly (tokens : List (List Char)) (payload : List (String × Json)) (text : List Char) :
    Option Json :=
  if compact text = tokens.flatten then some (.obj payload) else none

theorem Arranged.compact_eq {tokens : List (List Char)} {text : List Char}
    (arranged : Arranged tokens text) (solid : ∀ token ∈ tokens, compact token = token) :
    compact text = tokens.flatten := by
  induction arranged with
  | nil => rfl
  | last token => simpa using solid token List.mem_cons_self
  | @cons token next gap text rest white _ inductionHypothesis =>
    have none : compact gap = [] := by
      rw [compact, List.filter_eq_nil_iff]
      intro character member
      rw [decide_eq_true (white character member)]
      decide
    have later := inductionHypothesis fun other member =>
      solid other (List.mem_cons_of_mem _ member)
    unfold compact at none later ⊢
    rw [List.filter_append, List.filter_append, none, List.nil_append, later, List.flatten_cons]
    exact congrArg (· ++ _) (solid token List.mem_cons_self)

/-- Such a reader reads the tokens as the object, and no beginning of them. -/
theorem readsOnly_reads {tokens : List (List Char)} (payload : List (String × Json))
    (opens : tokens.head? = some ['\x7b'])
    (visible : ∀ token ∈ tokens, Trimmed token ∧ token ≠ [])
    (solid : ∀ token ∈ tokens, compact token = token) :
    Reads (readsOnly tokens payload) tokens payload where
  opens := opens
  visible := visible
  whole := fun text arranged => if_pos (arranged.compact_eq solid)
  beginning := by
    intro count shorter text arranged
    refine if_neg ?_
    rw [arranged.compact_eq fun token member => solid token (List.mem_of_mem_take member)]
    intro same
    have parts := congrArg List.length (List.take_append_drop count tokens)
    have lengths := congrArg List.length same
    obtain ⟨token, member⟩ := List.exists_mem_of_ne_nil (tokens.drop count)
      (by rw [Ne, List.drop_eq_nil_iff]; omega)
    have some := List.length_pos_iff.mpr (visible token (List.mem_of_mem_drop member)).2
    have whole : tokens.flatten.length =
        (tokens.take count).flatten.length + (tokens.drop count).flatten.length := by
      rw [← List.length_append, ← List.flatten_append, List.take_append_drop]
    have more : 0 < (tokens.drop count).flatten.length := by
      refine List.length_pos_iff.mpr fun empty => ?_
      rw [List.flatten_eq_nil_iff.mp empty token member] at some
      cases some
    omega

/-- Lines with one object on two of them, between a comment and the end mark. -/
def emptyObjectLines : List (List Char) :=
  ["data: \x7b\r\n", ": ping\n", "data:\x7d  \n", "\n", "data: [DONE]\n", "data: \x7b\n"].map
    String.toList

def emptyObject : List (List Char) := ["\x7b".toList, "\x7d".toList]

theorem emptyObject_stream : Stream (readsOnly emptyObject []) emptyObjectLines [[]] := by
  have reads := @readsOnly_reads emptyObject [] rfl
    (by
      intro token member
      rcases List.mem_pair.mp member with rfl | rfl
      · exact ⟨trim_trimmed "\x7b".toList, by decide⟩
      · exact ⟨trim_trimmed "\x7d".toList, by decide⟩)
    (by decide)
  have lines : EventLines [["\x7b".toList], ["\x7d".toList]]
      ["data: \x7b\r\n".toList, ": ping\n".toList, "data:\x7d  \n".toList] :=
    .data ⟨" \x7b".toList, by decide +kernel, by decide +kernel⟩ (.last _)
      (.ignored ⟨by decide +kernel, .inl (by decide +kernel)⟩
        (.data ⟨"\x7d  ".toList, by decide +kernel, by decide +kernel⟩ (.last _) .nil))
  exact @Stream.event _ _ _ "\n".toList _ [] [] reads lines (by decide +kernel : rstripEnd _ = [])
    (.done _ ⟨" [DONE]".toList, by decide +kernel, by decide +kernel⟩)

theorem emptyObject_decoded_iff :
    iterSsePayloads (readsOnly emptyObject []) emptyObjectLines [] = some ([[]].map .obj) ↔
      ∀ payload ∈ [[]], marksEnd payload = false :=
  stream_decoded_iff emptyObject_stream

/-! ## An object with the field of the mark -/

theorem arranged_flatten (tokens : List (List Char)) : Arranged tokens tokens.flatten := by
  induction tokens with
  | nil => exact .nil
  | cons token rest inductionHypothesis =>
    cases rest with
    | nil => simpa using Arranged.last token
    | cons other rest =>
      have none : White [] := List.forall_mem_nil _
      rw [List.flatten_cons]
      exact @Arranged.cons token other [] _ rest none inductionHypothesis

def markedObject : List (List Char) :=
  ["\x7b", "\x22__done__\x22", ":", "true", "\x7d"].map String.toList

/-- An object that says that something is done is not passed on. -/
theorem marked_object_lost :
    ¬∀ (loads : List Char → Option Json) (lines : List (List Char))
      (payloads : List (List (String × Json))), Stream loads lines payloads →
        iterSsePayloads loads lines [] = some (payloads.map .obj) := by
  intro claimed
  have reads := @readsOnly_reads markedObject [("__done__", .bool true)] rfl
    (by
      intro token member
      have own : ∀ token ∈ markedObject, trim token = token ∧ token ≠ [] := by decide +kernel
      exact ⟨(own token member).1 ▸ trim_trimmed token, (own token member).2⟩)
    (by decide +kernel)
  have line : EventLines [markedObject] ["data: \x7b\x22__done__\x22:true\x7d\n".toList] :=
    .data ⟨" \x7b\x22__done__\x22:true\x7d".toList, by decide +kernel, by decide +kernel⟩
      (arranged_flatten markedObject) .nil
  have stream := @Stream.event _ _ _ "\n".toList [] _ [] reads line
    (by decide +kernel : rstripEnd _ = []) .nil
  have decoded := claimed _ _ _ stream
  rw [iter_stream stream] at decoded
  have lengths := congrArg List.length (Option.some.inj decoded)
  exact absurd lengths (by decide)

end MeetYou.SseStream
