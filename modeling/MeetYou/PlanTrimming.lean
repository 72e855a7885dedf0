import MeetYou.ContextBudget
import MeetYou.Foundation.Positions
import MeetYou.Foundation.Priorities

/-!
# What the plan of a model call leaves out

While the messages of a plan are estimated above the target, one message of the history
leaves. Where the history is longer than the recent turns, the candidates are the messages
in front of them; otherwise the tool messages are. Messages that belong to an unanswered
tool call are pinned and no candidates.

The loop breaks off when every message in front of the recent turns is pinned, even where
a tool message among the recent ones could leave. And it finds the chosen message again by
equality, which may name an earlier one: equal messages have equal call ids, but the
number 1 equals the truth value, and their texts differ.

No message of the history answers an unanswered call, so what pins a message is its own calls
alone. The order in which the others leave from in front of the recent turns is then known
beforehand, and with it every history the loop comes to before it reaches the recent turns.
-/

namespace MeetYou.PlanTrimming

open ContextBudget

/-! ## The loop -/

/-- What the loop reads: the texts, how many turns are recent, the calls without an answer, and
whether the messages are above the target. -/
structure Loop where
  render : Rendering
  recentHistoryTurns : Nat
  pending : List String
  exceeds : List Fields → Bool

/-- The tool messages the loop takes where there is nothing in front of the recent turns. -/
def isToolMessage (fields : Fields) : Bool :=
  isText fields "role" "tool" || isTrue fields "tool_calls"

namespace Loop

variable (loop : Loop)

/-- The index of the next message to leave, with what the loop reads. -/
abbrev removalIndex (selected : List Fields) : Option Nat :=
  ContextBudget.removalIndex loop.render loop.recentHistoryTurns loop.pending selected

/-- The message at the index may not leave. -/
abbrev isPinned (selected : List Fields) (index : Nat) : Bool :=
  ContextBudget.isPinned loop.render loop.pending selected index

/-- The message answers a call that still has no answer in the history at the start. -/
abbrev answersPending (fields : Fields) : Bool :=
  ContextBudget.answersPending loop.render loop.pending fields

/-- A round of the loop: what it leaves of the history, `none` where the loop ends. -/
def round (selected : List Fields) : Option (List Fields) :=
  if loop.exceeds selected && !selected.isEmpty then
    (loop.removalIndex selected).map selected.eraseIdx
  else none

/-- The loop, for so many rounds. -/
def trimLoop : Nat → List Fields → List Fields
  | 0, selected => selected
  | rounds + 1, selected =>
      match loop.round selected with
      | none => selected
      | some next => trimLoop rounds next

/-- The loop comes to the history. -/
inductive Visits (history : List Fields) : List Fields → Prop
  | start : Visits history history
  | next {selected further : List Fields} (visited : Visits history selected)
      (goesOn : loop.round selected = some further) :
      Visits history further

/-- A message with a call that has no answer. -/
def asksPending (fields : Fields) : Bool :=
  (toolCallsOf fields).any fun call => decide (callId loop.render call ∈ loop.pending)

/-- An assistant message that calls a tool and has no answer. -/
def callsPending (fields : Fields) : Bool :=
  isText fields "role" "assistant" && loop.asksPending fields

/-- Every message in front of the recent turns is pinned, and a tool message is not. -/
def Blocked (selected : List Fields) : Prop :=
  loop.exceeds selected = true ∧ 0 < selected.length - loop.recentHistoryTurns ∧
    (∀ index, index < selected.length - loop.recentHistoryTurns →
      loop.isPinned selected index = true) ∧
    ∃ index message, selected[index]? = some message ∧ isToolMessage message = true ∧
      loop.isPinned selected index = false

/-- The chosen message equals an earlier one that calls a tool and has no answer. -/
def Mistaken (selected : List Fields) : Prop :=
  loop.exceeds selected = true ∧ ∃ index message,
    loop.removalIndex selected = some index ∧
      selected[index]? = some message ∧ loop.callsPending message = true

/-- What is not removed: no message in front of the recent turns that is not pinned, and no
tool message that is not. -/
def Maximal (kept : List Fields) : Prop :=
  ∀ index message, kept[index]? = some message → loop.isPinned kept index = false →
    kept.length ≤ index + loop.recentHistoryTurns ∧ isToolMessage message = false

end Loop

/-! ## Equality of values -/

mutual

/-- In every dictionary the names are distinct, as they are in the source's. -/
def Proper : Json → Prop
  | .arr items => ProperItems items
  | .obj fields => (fields.map Prod.fst).Nodup ∧ ProperFields fields
  | _ => True

/-- All items of a list are proper. -/
def ProperItems : List Json → Prop
  | [] => True
  | item :: rest => Proper item ∧ ProperItems rest

/-- All values of a dictionary are proper. -/
def ProperFields : List (String × Json) → Prop
  | [] => True
  | (_, value) :: rest => Proper value ∧ ProperFields rest

end

mutual

/-- A value equals itself. -/
theorem equalValues_self : (value : Json) → Proper value → equalValues value value = true
  | .null, _ => by rw [equalValues]
  | .bool value, _ => by rw [equalValues]; exact beq_self_eq_true value
  | .num value, _ => by rw [equalValues]; exact decide_eq_true rfl
  | .str value, _ => by rw [equalValues]; exact decide_eq_true rfl
  | .arr items, proper => by rw [equalValues]; exact equalItems_self items proper
  | .obj fields, proper => by
    rw [equalValues, decide_eq_true rfl, Bool.true_and]
    exact equalFields_self fields fields proper.2 proper.1 fun _ member => member

/-- A list of proper items equals itself. -/
theorem equalItems_self : (items : List Json) → ProperItems items → equalItems items items = true
  | [], _ => by rw [equalItems]
  | item :: rest, proper => by
    rw [equalItems, equalValues_self item proper.1, equalItems_self rest proper.2]
    rfl

/-- Proper entries are found again in the dictionary they are from. -/
theorem equalFields_self : (entries whole : List (String × Json)) → ProperFields entries →
    (whole.map Prod.fst).Nodup → (∀ entry ∈ entries, entry ∈ whole) →
      equalFields entries whole = true
  | [], _, _, _, _ => by rw [equalFields]
  | (name, value) :: rest, whole, proper, distinct, among => by
    have found : Dict.find name whole = some value :=
      (Dict.find_some_iff name value whole distinct).mpr (among _ List.mem_cons_self)
    rw [equalFields, found]
    dsimp only
    rw [equalValues_self value proper.1, Bool.true_and]
    exact equalFields_self rest whole proper.2 distinct
      fun entry member => among entry (List.mem_cons_of_mem _ member)

end

/-- Equal values are both true or both false. -/
theorem truthy_congr (left right : Json) (equal : equalValues left right = true) :
    left.truthy = right.truthy := by
  cases left with
  | null => cases right <;> simp_all [equalValues, Json.truthy]
  | bool left =>
    cases right with
    | num right =>
      simp only [equalValues, decide_eq_true_eq] at equal
      cases left <;> simp_all [Json.truthy, ← equal]
    | _ => simp_all [equalValues, Json.truthy]
  | num left =>
    cases right with
    | bool right =>
      simp only [equalValues, decide_eq_true_eq] at equal
      cases right <;> simp_all [Json.truthy]
    | _ => simp_all [equalValues, Json.truthy]
  | str left => cases right <;> simp_all [equalValues, Json.truthy]
  | arr left =>
    cases right with
    | arr right => cases left <;> cases right <;> simp_all [equalValues, equalItems, Json.truthy]
    | _ => simp_all [equalValues]
  | obj left =>
    cases right with
    | obj right => cases left <;> cases right <;> simp_all [equalValues, Json.truthy]
    | _ => simp_all [equalValues]

/-- Each entry of a dictionary has an equal one in an equal dictionary. -/
theorem equalFields_find {entries others : List (String × Json)}
    (equal : equalFields entries others = true) {name : String} {value : Json}
    (member : (name, value) ∈ entries) :
    ∃ other, Dict.find name others = some other ∧ equalValues value other = true := by
  induction entries with
  | nil => cases member
  | cons entry rest inductionHypothesis =>
    obtain ⟨first, held⟩ := entry
    rw [equalFields, Bool.and_eq_true] at equal
    rcases List.mem_cons.mp member with same | later
    · obtain ⟨rfl, rfl⟩ := Prod.mk.inj same
      cases found : Dict.find name others with
      | none =>
        rw [found] at equal
        cases equal.1
      | some other =>
        rw [found] at equal
        exact ⟨other, rfl, equal.1⟩
    · exact inductionHypothesis equal.2 later

/-- Equal dictionaries have equal values under a name, or none. -/
theorem equal_get {left right : Fields} (equal : equalValues left.toJson right.toJson = true)
    (name : String) : (left.get name = none ∧ right.get name = none) ∨
      ∃ value other, left.get name = some value ∧ right.get name = some other ∧
        equalValues value other = true := by
  unfold Fields.toJson at equal
  rw [equalValues, Bool.and_eq_true, decide_eq_true_eq] at equal
  have found : ∀ value, left.get name = some value → ∃ other, right.get name = some other ∧
      equalValues value other = true := fun value here =>
    equalFields_find equal.2 ((Dict.get_some_iff left name value).mp here)
  cases here : left.get name with
  | some value =>
    obtain ⟨other, there, same⟩ := found value here
    exact Or.inr ⟨value, other, rfl, there, same⟩
  | none =>
    refine Or.inl ⟨rfl, (Dict.get_none_iff right name).mpr fun present => ?_⟩
    -- the names of the left are among those of the right, which are as many
    have among : left.keys ⊆ right.keys := by
      intro other listed
      obtain ⟨⟨_, value⟩, member, rfl⟩ := List.mem_map.mp listed
      obtain ⟨held, there, _⟩ := equalFields_find equal.2 member
      by_contra absent
      have none := (Dict.get_none_iff right _).mpr absent
      cases none.symm.trans there
    have same := (List.subperm_of_subset left.distinct among).perm_of_length_le
      (by simp [Dict.keys, equal.1])
    exact (Dict.get_none_iff left name).mp here (same.mem_iff.mpr present)

/-- Equal dictionaries have the same text under a name. -/
theorem isText_congr {left right : Fields}
    (equal : equalValues left.toJson right.toJson = true) (name text : String) :
    isText left name text = isText right name text := by
  unfold isText
  rcases equal_get equal name with ⟨here, there⟩ | ⟨value, other, here, there, same⟩
  · rw [here, there]
  · rw [here, there]
    cases value <;> cases other <;> simp_all [equalValues]

/-- Equal dictionaries are true under the same names. -/
theorem isTrue_congr {left right : Fields}
    (equal : equalValues left.toJson right.toJson = true) (name : String) :
    ContextBudget.isTrue left name = ContextBudget.isTrue right name := by
  unfold ContextBudget.isTrue
  rcases equal_get equal name with ⟨here, there⟩ | ⟨value, other, here, there, same⟩
  · rw [here, there]
  · rw [here, there]
    exact truthy_congr value other same

/-- Equal messages have the same priority. -/
theorem trimPriority_congr {left right : Fields}
    (equal : equalValues left.toJson right.toJson = true) :
    trimPriority left = trimPriority right := by
  unfold trimPriority
  simp only [isText_congr equal, isTrue_congr equal]

/-- There are five priorities. -/
theorem trimPriority_lt (fields : Fields) : trimPriority fields ∈ List.range 5 := by
  rw [List.mem_range]
  unfold trimPriority
  split_ifs <;> omega

/-! ## A round -/

section
variable {loop : Loop} {selected : List Fields}

/-- In front of the recent turns, there is no candidate when every message is pinned. -/
theorem window_nil_iff (count : Nat) :
    (((selected.take count).zipIdx.filter fun entry =>
      !loop.isPinned selected entry.2).map Prod.fst) = [] ↔
      ∀ index, index < min count selected.length → loop.isPinned selected index = true := by
  rw [List.map_eq_nil_iff, List.filter_eq_nil_iff]
  constructor
  · intro none index inside
    have within : index < (selected.take count).length := by
      rw [List.length_take]
      exact inside
    have listed : ((selected.take count)[index], index) ∈ (selected.take count).zipIdx := by
      rw [List.mem_zipIdx_iff_getElem?]
      exact List.getElem?_eq_getElem _
    simpa using none _ listed
  · rintro pinned ⟨message, index⟩ member
    have found := (List.mem_zipIdx_iff_getElem?).mp member
    have inside := (List.getElem?_eq_some_iff.mp found).1
    rw [List.length_take] at inside
    simp [pinned index inside]

/-- The loop finds no message when all candidates are pinned. -/
theorem removalIndex_none_iff :
    loop.removalIndex selected = none ↔
      (0 < selected.length - loop.recentHistoryTurns ∧
        ∀ index, index < selected.length - loop.recentHistoryTurns →
          loop.isPinned selected index = true) ∨
      (selected.length ≤ loop.recentHistoryTurns ∧
        ∀ index message, selected[index]? = some message → isToolMessage message = true →
          loop.isPinned selected index = true) := by
  unfold Loop.removalIndex removalIndex
  dsimp only
  split
  case isTrue long =>
    have shown := @window_nil_iff loop selected (selected.length - loop.recentHistoryTurns)
    rw [Nat.min_eq_left (Nat.sub_le _ _)] at shown
    rw [Option.map_eq_none_iff]
    generalize ((selected.take (selected.length - loop.recentHistoryTurns)).zipIdx.filter
      fun entry => !loop.isPinned selected entry.2).map Prod.fst = window at shown ⊢
    have empty : window[leastIndex (window.map trimPriority)]? = none ↔ window = [] := by
      constructor
      · intro none
        by_contra some
        have inside := leastIndex_lt (mt List.map_eq_nil_iff.mp some : window.map trimPriority ≠ [])
        rw [List.length_map] at inside
        exact absurd (List.getElem?_eq_none_iff.mp none) (by omega)
      · rintro rfl
        rfl
    rw [empty, shown]
    constructor
    · exact fun pinned => Or.inl ⟨long, pinned⟩
    · rintro (⟨_, pinned⟩ | ⟨short, _⟩)
      · exact pinned
      · omega
  case isFalse short =>
    rw [Option.map_eq_none_iff, List.find?_eq_none]
    constructor
    · intro none
      refine Or.inr ⟨by omega, fun index message found tool => ?_⟩
      have kept := none (message, index) (List.mem_zipIdx_iff_getElem?.mpr found)
      by_contra free
      exact kept (Bool.and_eq_true_iff.mpr ⟨tool, by simpa using free⟩)
    · rintro (⟨long, _⟩ | ⟨_, pinned⟩)
      · omega
      · rintro ⟨message, index⟩ member
        have found := List.mem_zipIdx_iff_getElem?.mp member
        intro candidate
        obtain ⟨tool, free⟩ := Bool.and_eq_true_iff.mp candidate
        exact absurd (pinned index message found tool) (by simpa using free)

/-- The message the loop takes is in the history. -/
theorem removalIndex_lt (proper : ∀ message ∈ selected, Proper message.toJson) {index : Nat}
    (chosen : loop.removalIndex selected = some index) :
    index < selected.length := by
  unfold Loop.removalIndex removalIndex at chosen
  dsimp only at chosen
  split at chosen
  · obtain ⟨source, found, rfl⟩ := Option.map_eq_some_iff.mp chosen
    obtain ⟨entry, kept, rfl⟩ := List.mem_map.mp (List.mem_of_getElem? found)
    have listed := List.mem_zipIdx_iff_getElem?.mp (List.mem_of_mem_filter kept)
    have member := List.mem_of_mem_take (List.mem_of_getElem? listed)
    exact List.findIdx_lt_length_of_exists ⟨entry.1, member, equalValues_self _ (proper _ member)⟩
  · obtain ⟨entry, found, rfl⟩ := Option.map_eq_some_iff.mp chosen
    have listed := List.mem_zipIdx_iff_getElem?.mp (List.mem_of_find?_eq_some found)
    exact (List.getElem?_eq_some_iff.mp listed).1

/-- A round takes one message out of the history. -/
theorem round_takes (proper : ∀ message ∈ selected, Proper message.toJson) {next : List Fields}
    (goesOn : loop.round selected = some next) :
    ∃ index, index < selected.length ∧ next = selected.eraseIdx index ∧
      loop.removalIndex selected = some index ∧ loop.exceeds selected = true := by
  unfold Loop.round at goesOn
  split at goesOn
  case isFalse => cases goesOn
  case isTrue goes =>
    obtain ⟨index, chosen, rfl⟩ := Option.map_eq_some_iff.mp goesOn
    exact ⟨index, removalIndex_lt proper chosen, rfl, chosen, (Bool.and_eq_true_iff.mp goes).1⟩

/-- The loop ends at a history that fits or is not blocked only where nothing more can
leave. -/
theorem maximal_of_ended (ended : loop.round selected = none)
    (long : loop.exceeds selected = true)
    (free : ¬ loop.Blocked selected) :
    loop.Maximal selected := by
  unfold Loop.round at ended
  intro index message found unpinned
  have inside := (List.getElem?_eq_some_iff.mp found).1
  have some : selected.isEmpty = false := by
    cases selected with
    | nil => simp at inside
    | cons first rest => rfl
  rw [long, some] at ended
  rcases removalIndex_none_iff.mp (Option.map_eq_none_iff.mp ended) with
    ⟨front, pinned⟩ | ⟨short, pinned⟩
  · constructor
    · by_contra behind
      rw [pinned index (by omega)] at unpinned
      cases unpinned
    · by_contra tool
      exact free ⟨long, front, pinned, index, message, found, by simpa using tool, unpinned⟩
  · constructor
    · omega
    · by_contra tool
      rw [pinned index message found (by simpa using tool)] at unpinned
      cases unpinned

/-- A blocked history ends the loop, and something more could leave it. -/
theorem Loop.Blocked.ended (blocked : loop.Blocked selected) :
    loop.round selected = none ∧ ¬ loop.Maximal selected := by
  obtain ⟨long, front, pinned, index, message, found, tool, unpinned⟩ := blocked
  constructor
  · unfold Loop.round
    rw [removalIndex_none_iff.mpr (Or.inl ⟨front, pinned⟩)]
    split <;> rfl
  · intro maximal
    rw [(maximal index message found unpinned).2] at tool
    cases tool

/-! ## The whole loop -/

/-- Where the loop has ended, further rounds leave the history as it is. -/
theorem trimLoop_ended_self (rounds : Nat)
    (ended : loop.round selected = none) :
    loop.trimLoop rounds selected = selected := by
  cases rounds with
  | zero => rfl
  | succ rounds => rw [Loop.trimLoop, ended]

/-- What the loop comes to from a history it comes to, it comes to. -/
theorem Loop.Visits.trans {history further : List Fields}
    (first : loop.Visits history selected)
    (second : loop.Visits selected further) :
    loop.Visits history further := by
  induction second with
  | start => exact first
  | next _ goesOn inductionHypothesis => exact .next inductionHypothesis goesOn

/-- The loop ends at a history it comes to. -/
theorem trimLoop_visited (rounds : Nat) (history : List Fields) :
    loop.Visits history
      (loop.trimLoop rounds history) := by
  induction rounds generalizing history with
  | zero => exact .start
  | succ rounds inductionHypothesis =>
    rw [Loop.trimLoop]
    split
    · exact .start
    · next further goesOn =>
      exact (Loop.Visits.next .start goesOn).trans (inductionHypothesis further)

section
variable {history : List Fields} (wellFormed : ∀ message ∈ history, Proper message.toJson)
include wellFormed

/-- The loop keeps messages of the history, in order. -/
theorem Loop.Visits.ordered
    (visited : loop.Visits history selected) :
    selected.Sublist history := by
  induction visited with
  | start => exact List.Sublist.refl history
  | next _ goesOn ordered =>
    obtain ⟨index, _, rfl, _⟩ := round_takes (fun message member =>
      wellFormed message (ordered.subset member)) goesOn
    exact (List.eraseIdx_sublist _ index).trans ordered

/-- The messages of a visited history are those of the first one, so they are proper. -/
theorem Loop.Visits.proper
    (visited : loop.Visits history selected) :
    ∀ message ∈ selected, Proper message.toJson :=
  fun message member => wellFormed message ((visited.ordered wellFormed).subset member)

/-- The loop has ended after as many rounds as there are messages. -/
theorem trimLoop_ends (rounds : Nat) (enough : history.length ≤ rounds) :
    loop.round
      (loop.trimLoop rounds history) = none := by
  induction rounds generalizing history with
  | zero =>
    rw [Loop.trimLoop, List.eq_nil_of_length_eq_zero (Nat.le_zero.mp enough)]
    unfold Loop.round
    rw [List.isEmpty_nil, Bool.not_true, Bool.and_false]
    rfl
  | succ rounds inductionHypothesis =>
    rw [Loop.trimLoop]
    split
    · assumption
    · next further goesOn =>
      obtain ⟨index, inside, rfl, _⟩ := round_takes wellFormed goesOn
      refine inductionHypothesis (fun message member => ?_) ?_
      · exact wellFormed message ((List.eraseIdx_sublist history index).subset member)
      · rw [List.length_eraseIdx_of_lt inside]
        omega

/-- All bounds that suffice give the same history. -/
theorem trimLoop_agree (rounds other : Nat) (enough : history.length ≤ rounds)
    (suffices_ : history.length ≤ other) :
    loop.trimLoop rounds history = loop.trimLoop other history := by
  induction rounds generalizing history other with
  | zero =>
    have empty := List.eq_nil_of_length_eq_zero (Nat.le_zero.mp enough)
    have ended :=
      @trimLoop_ends loop history wellFormed 0 enough
    rw [Loop.trimLoop] at ended
    rw [trimLoop_ended_self _ ended, trimLoop_ended_self _ ended]
  | succ rounds inductionHypothesis =>
    cases goesOn : loop.round history with
    | none => rw [trimLoop_ended_self _ goesOn, trimLoop_ended_self _ goesOn]
    | some further =>
      obtain ⟨index, inside, rfl, _⟩ := round_takes wellFormed goesOn
      have shorter := List.length_eraseIdx_of_lt inside
      obtain ⟨fewer, rfl⟩ := Nat.exists_eq_succ_of_ne_zero (show other ≠ 0 by omega)
      rw [Loop.trimLoop, goesOn, Loop.trimLoop, goesOn]
      exact inductionHypothesis
        (fun message member =>
          wellFormed message ((List.eraseIdx_sublist history index).subset member))
        fewer (by omega) (by omega)

/-- The loop goes on from each history it comes to. -/
theorem Loop.Visits.agree (visited : loop.Visits history selected) :
    loop.trimLoop history.length history = loop.trimLoop selected.length selected := by
  induction visited with
  | start => rfl
  | next visited goesOn same =>
    obtain ⟨index, inside, rfl, _⟩ := round_takes (visited.proper wellFormed) goesOn
    have shorter := List.length_eraseIdx_of_lt inside
    rw [same]
    obtain ⟨length, longer⟩ := Nat.exists_eq_succ_of_ne_zero (Nat.ne_zero_of_lt inside)
    rw [longer, Loop.trimLoop, goesOn]
    refine trimLoop_agree (fun message member => ?_) _ _ (by omega) (le_refl _)
    exact visited.proper wellFormed message ((List.eraseIdx_sublist _ index).subset member)

/-- While no message is mistaken, the calls without an answer stay. -/
theorem Loop.Visits.calls (visited : loop.Visits history selected)
    (right : ∀ tested, loop.Visits history tested → ¬ loop.Mistaken tested) :
    selected.filter (loop.callsPending) = history.filter (loop.callsPending) := by
  induction visited with
  | start => rfl
  | next visited goesOn same =>
    obtain ⟨index, inside, rfl, chosen, long⟩ := round_takes (visited.proper wellFormed) goesOn
    rw [← same]
    refine Positions.filter_erased (List.getElem?_eq_getElem inside) ?_
    by_contra calls
    exact right _ visited
      ⟨long, index, _, chosen, List.getElem?_eq_getElem inside, by simpa using calls⟩

/-- Where a message is mistaken, a call without an answer leaves. -/
theorem Loop.Mistaken.loses (visited : loop.Visits history selected)
    (mistaken : loop.Mistaken selected) :
    (loop.trimLoop history.length history).filter
        (loop.callsPending) ≠ history.filter (loop.callsPending) := by
  obtain ⟨long, index, message, chosen, found, calls⟩ := mistaken
  obtain ⟨inside, here⟩ := List.getElem?_eq_some_iff.mp found
  have goesOn : loop.round selected = some (selected.eraseIdx index) := by
    unfold Loop.round
    rw [long, chosen]
    cases selected with
    | nil => simp at inside
    | cons first rest => rfl
  have further := Loop.Visits.next visited goesOn
  have rounds : loop.Visits (selected.eraseIdx index)
      (loop.trimLoop (selected.eraseIdx index).length
        (selected.eraseIdx index)) := trimLoop_visited _ _
  have kept := rounds.ordered (further.proper wellFormed)
  rw [← further.agree wellFormed] at kept
  intro same
  have fewer := Positions.length_filter_erased found calls
  have before := ((visited.ordered wellFormed).filter (loop.callsPending)).length_le
  have after := (kept.filter (loop.callsPending)).length_le
  rw [same] at after
  omega

end

end

/-! ## The order in which messages leave -/

namespace Loop

variable (loop : Loop) (history : List Fields)

/-- The messages in front of the recent turns, with their places. -/
def front : List (Fields × Nat) := (history.take (history.length - loop.recentHistoryTurns)).zipIdx

/-- The messages of the recent turns. -/
def recent : List Fields := history.drop (history.length - loop.recentHistoryTurns)

/-- What may leave from in front of the recent turns, the messages without an unanswered call, in
the order of leaving: tool results, then messages with calls, messages of the assistant, of the
user and others, and the oldest first. -/
def leaving : List (Fields × Nat) :=
  Priorities.ranked (List.range 5) (fun entry => trimPriority entry.1)
    ((loop.front history).filter fun entry => !loop.asksPending entry.1)

/-- What is in front of the recent turns when so many have left. -/
def remaining (count : Nat) : List (Fields × Nat) :=
  (loop.front history).filter fun entry =>
    decide (entry.2 ∉ ((loop.leaving history).take count).map Prod.snd)

/-- The history when so many have left. -/
def without (count : Nat) : List Fields :=
  (loop.remaining history count).map Prod.fst ++
    loop.recent history

end Loop

section
variable {loop : Loop} {history : List Fields}

/-- The entries in front of the recent turns stand at increasing places. -/
theorem front_places : (loop.front history).Pairwise fun earlier later =>
    earlier.2 < later.2 := by
  rw [← List.pairwise_map, Loop.front, List.zipIdx_map_snd]
  exact List.pairwise_lt_range'

/-- An entry in front of the recent turns is the message at its place. -/
theorem front_held {entry : Fields × Nat} (member : entry ∈ loop.front history) :
    history[entry.2]? = some entry.1 := by
  have here := List.mem_zipIdx_iff_getElem?.mp member
  rw [List.getElem?_take] at here
  split at here
  · exact here
  · cases here

/-- What is left is of the history. -/
theorem mem_of_without {count : Nat} {message : Fields}
    (member : message ∈ loop.without history count) :
    message ∈ history := by
  rcases List.mem_append.mp member with inFront | inRecent
  · obtain ⟨entry, there, rfl⟩ := List.mem_map.mp inFront
    exact List.mem_of_getElem? (front_held (List.mem_filter.mp there).1)
  · exact List.mem_of_mem_drop inRecent

/-- The history is whole while nothing has left. -/
theorem without_zero : loop.without history 0 = history := by
  have all : loop.remaining history 0 =
      loop.front history := List.filter_eq_self.mpr fun entry _ => by simp
  unfold Loop.without Loop.recent
  rw [all, Loop.front, List.zipIdx_map_fst, List.take_append_drop]

/-- The recent turns are as many as there are to be, where something is in front of them. -/
theorem recent_length {entry : Fields × Nat}
    (member : entry ∈ loop.front history) :
    (loop.recent history).length = loop.recentHistoryTurns := by
  have inside := (List.getElem?_eq_some_iff.mp (List.mem_zipIdx_iff_getElem?.mp member)).1
  rw [List.length_take] at inside
  rw [Loop.recent, List.length_drop]
  omega

/-- There are at most so many recent messages as the policy says. -/
theorem recent_length_le : (loop.recent history).length ≤ loop.recentHistoryTurns := by
  rw [Loop.recent, List.length_drop]
  omega

/-- No earlier message with an unanswered call equals the entry. -/
def Loop.Apart (loop : Loop) (history : List Fields) (entry : Fields × Nat) : Prop :=
  ∀ place message, history[place]? = some message → place < entry.2 →
    loop.asksPending message = true → equalValues message.toJson entry.1.toJson = false

/-- The messages that may still leave do so in the order they had at first. -/
def Loop.Ordered (loop : Loop) (history : List Fields) (count : Nat) : Prop :=
  Priorities.ranked (List.range 5) (fun entry => trimPriority entry.1)
      ((loop.remaining history count).filter fun entry =>
        !loop.asksPending entry.1) =
    (loop.leaving history).drop count

/-- The entry leaves from between the others: of those that may leave, it is the first of the
least priority. -/
structure Loop.Leaves (loop : Loop) (history : List Fields) (count : Nat) (entry : Fields × Nat)
    (before after : List (Fields × Nat)) : Prop where
  now : loop.remaining history count = before ++ entry :: after
  next : loop.remaining history (count + 1) = before ++ after
  free : loop.asksPending entry.1 = false
  places : ∀ other ∈ before, other.2 < entry.2
  ahead : ∀ other ∈ before, loop.asksPending other.1 = false →
    trimPriority entry.1 < trimPriority other.1
  behind : ∀ other ∈ after, loop.asksPending other.1 = false →
    trimPriority entry.1 ≤ trimPriority other.1

/-- The next to leave is the first of the least priority, and the others keep their order. -/
theorem leaves_of_ordered {count : Nat}
    (ordered : loop.Ordered history count) {entry : Fields × Nat}
    (next : (loop.leaving history)[count]? = some entry) :
    ∃ before after, loop.Leaves history count entry before after ∧
      loop.Ordered history (count + 1) := by
  have starts := ordered
  rw [Loop.Ordered, List.drop_eq_getElem?_toList_append, next] at starts
  obtain ⟨ahead, behind, free, above, below, rest⟩ := Priorities.ranked_cons
    List.pairwise_lt_range (fun entry _ => trimPriority_lt entry.1) starts
  obtain ⟨left, right, whole, leftFree, split_⟩ := List.filter_eq_append_iff.mp free
  obtain ⟨more, after, rfl, asking, unasked, afterFree⟩ := List.filter_eq_cons_iff.mp split_
  rw [← List.append_assoc] at whole
  have noneFree : (more.filter fun entry => !loop.asksPending entry.1) = [] :=
    List.filter_eq_nil_iff.mpr asking
  have beforeFree : ((left ++ more).filter fun entry => !loop.asksPending entry.1) = ahead := by
    rw [List.filter_append, leftFree, noneFree, List.append_nil]
  have places : (loop.remaining history count).Pairwise
      fun earlier later => earlier.2 < later.2 := front_places.sublist List.filter_sublist
  rw [whole] at places
  obtain ⟨_, entryPlaces, apart⟩ := List.pairwise_append.mp places
  have fewer : loop.remaining history (count + 1) = (left ++ more) ++ after := by
    have taken : loop.remaining history (count + 1) =
        (loop.remaining history count).filter fun other =>
          decide (other.2 ≠ entry.2) := by
      unfold Loop.remaining
      rw [List.filter_filter, List.take_add_one, next]
      refine List.filter_congr fun other _ => ?_
      simp [not_or, and_comm]
    have stayBefore : (left ++ more).filter (fun other => decide (other.2 ≠ entry.2)) =
        left ++ more := List.filter_eq_self.mpr fun other member =>
      decide_eq_true (apart other member entry List.mem_cons_self).ne
    have stayAfter : after.filter (fun other => decide (other.2 ≠ entry.2)) = after :=
      List.filter_eq_self.mpr fun other member =>
        decide_eq_true ((List.pairwise_cons.mp entryPlaces).1 other member).ne'
    rw [taken, whole, List.filter_append, List.filter_cons_of_neg (by simp), stayBefore, stayAfter]
  refine ⟨left ++ more, after, ⟨whole, fewer, by simpa using unasked, ?_, ?_, ?_⟩, ?_⟩
  · exact fun other member => apart other member entry List.mem_cons_self
  · intro other member unpinned
    refine above other ?_
    rw [← beforeFree]
    exact List.mem_filter.mpr ⟨member, by simp [unpinned]⟩
  · intro other member unpinned
    refine below other ?_
    rw [← afterFree]
    exact List.mem_filter.mpr ⟨member, by simp [unpinned]⟩
  · rw [Loop.Ordered, fewer, List.filter_append, beforeFree, afterFree]
    exact rest

/-- Everything in front is there while nothing has left. -/
theorem remaining_zero : loop.remaining history 0 = loop.front history :=
  List.filter_eq_self.mpr fun entry _ => by simp

/-- In whatever order they leave, those that stay keep theirs. -/
theorem ordered (count : Nat) : loop.Ordered history count := by
  induction count with
  | zero =>
    rw [Loop.Ordered, remaining_zero, List.drop_zero]
    rfl
  | succ count inductionHypothesis =>
    cases next : (loop.leaving history)[count]? with
    | some entry =>
      obtain ⟨_, _, _, later⟩ := leaves_of_ordered inductionHypothesis next
      exact later
    | none =>
      -- all have left before
      have beyond := List.getElem?_eq_none_iff.mp next
      have same : loop.remaining history (count + 1) = loop.remaining history count := by
        unfold Loop.remaining
        rw [List.take_of_length_le beyond, List.take_of_length_le (by omega)]
      rw [Loop.Ordered, same, inductionHypothesis, List.drop_eq_nil_of_le beyond,
        List.drop_eq_nil_of_le (by omega)]

/-- The next entry that leaves is the first of the least priority among those that may. -/
theorem leaves {count : Nat} {entry : Fields × Nat}
    (next : (loop.leaving history)[count]? = some entry) :
    ∃ before after, loop.Leaves history count entry before after := by
  obtain ⟨before, after, here, _⟩ := leaves_of_ordered (ordered count) next
  exact ⟨before, after, here⟩

/-- When all have left, what is in front of the recent turns has unanswered calls. -/
theorem asksPending_of_left {entry : Fields × Nat} (member : entry ∈ loop.remaining history
      (loop.leaving history).length) :
    loop.asksPending entry.1 = true := by
  have none : loop.Ordered history _ := ordered (loop.leaving history).length
  rw [Loop.Ordered, List.drop_length,
    Priorities.ranked_nil_iff fun entry _ => trimPriority_lt entry.1] at none
  by_contra free
  exact List.filter_eq_nil_iff.mp none entry member (by simpa using free)

/-- What has unanswered calls stays in front of the recent turns. -/
theorem mem_remaining_of_asks {entry : Fields × Nat}
    (member : entry ∈ loop.front history)
    (asks : loop.asksPending entry.1 = true) (count : Nat) :
    entry ∈ loop.remaining history count := by
  refine List.mem_filter.mpr ⟨member, decide_eq_true fun left => ?_⟩
  obtain ⟨other, listed, place⟩ := List.mem_map.mp left
  have free := (Priorities.mem_ranked.mp (List.mem_of_mem_take listed)).1
  obtain ⟨there, unasked⟩ := List.mem_filter.mp free
  have same := (front_held there).symm.trans (place ▸ front_held member)
  rw [Option.some.inj same, asks] at unasked
  cases unasked

/-! ## The loop and the order -/

/-- No message of the history answers an unanswered call. -/
theorem answersPending_of_mem {message : Fields} (member : message ∈ history) :
    answersPending loop.render (pendingToolCallIds loop.render history) message = false := by
  refine decide_eq_false fun answers => ?_
  obtain ⟨_, unanswered⟩ := List.mem_filter.mp answers
  exact (of_decide_eq_true unanswered).2 (List.mem_map_of_mem member)

/-- Where no message answers an unanswered call, a message is pinned by its own calls. -/
theorem isPinned_eq {selected : List Fields}
    (quiet : ∀ message ∈ selected, loop.answersPending message = false) {index : Nat}
    {message : Fields} (found : selected[index]? = some message) :
    loop.isPinned selected index = loop.asksPending message := by
  unfold Loop.isPinned isPinned
  have here : (selected[index]?).any (loop.answersPending) = false := by
    rw [found, Option.any_some]
    exact quiet message (List.mem_of_getElem? found)
  have behind : (selected[index + 1]?).any (loop.answersPending) = false := by
    cases next : selected[index + 1]? with
    | none => rfl
    | some other => exact quiet other (List.mem_of_getElem? next)
  rw [here, behind, found, Option.any_some, Bool.false_or, Bool.false_or]
  rfl

/-- The place of the first least score. -/
theorem leastIndex_eq {ahead behind : List Nat} {score : Nat}
    (above : ∀ other ∈ ahead, score < other) (below : ∀ other ∈ behind, score ≤ other) :
    leastIndex (ahead ++ score :: behind) = ahead.length := by
  unfold leastIndex
  have inside : ahead.length < (ahead ++ score :: behind).length := by simp
  rw [List.findIdx_eq inside]
  constructor
  · rw [List.getElem_append_right (le_refl _)]
    simp only [Nat.sub_self, List.getElem_cons_zero, List.all_append, List.all_cons, le_refl,
      decide_true, Bool.true_and, Bool.and_eq_true, List.all_eq_true, decide_eq_true_eq]
    exact ⟨fun other member => (above other member).le, below⟩
  · intro index earlier
    rw [List.getElem_append_left earlier]
    have member := List.getElem_mem earlier
    simp only [List.all_append, List.all_cons, Bool.and_eq_false_iff, decide_eq_false_iff_not]
    exact Or.inr (Or.inl (not_le.mpr (above _ member)))

/-- What the loop takes out while something may leave in front of the recent turns: the first
message that equals the next to leave. -/
theorem removalIndex_leaves
    (quiet : ∀ message ∈ history, loop.answersPending message = false)
    {count : Nat} {entry : Fields × Nat} {before after : List (Fields × Nat)}
    (here : loop.Leaves history count entry before after) :
    loop.removalIndex
        (loop.without history count) =
      some ((loop.without history count).findIdx fun fields =>
        equalValues fields.toJson entry.1.toJson) := by
  have split_ : loop.without history count =
      (before.map Prod.fst ++ entry.1 :: after.map Prod.fst) ++
        loop.recent history := by
    rw [Loop.without, here.now, List.map_append, List.map_cons]
  have member : entry ∈ loop.front history := by
    have listed : entry ∈ loop.remaining history count := by
      rw [here.now]
      exact List.mem_append_right _ List.mem_cons_self
    exact (List.mem_filter.mp listed).1
  have length : (loop.without history count).length -
      loop.recentHistoryTurns = (before.map Prod.fst ++ entry.1 :: after.map Prod.fst).length := by
    rw [split_, List.length_append, recent_length member]
    omega
  have quietNow : ∀ message ∈ loop.without history count,
      loop.answersPending message = false :=
    fun message listed => quiet message (mem_of_without listed)
  have window : ((((loop.without history count).take
      (before.map Prod.fst ++ entry.1 :: after.map Prod.fst).length).zipIdx.filter fun held =>
        !loop.isPinned (loop.without history count)
          held.2).map Prod.fst) =
      ((before.map Prod.fst).filter fun fields => !loop.asksPending fields) ++ entry.1 ::
        (after.map Prod.fst).filter fun fields => !loop.asksPending fields := by
    have own : ∀ held ∈ ((loop.without history count).take
        (before.map Prod.fst ++ entry.1 :: after.map Prod.fst).length).zipIdx,
        (!loop.isPinned (loop.without history count)
            held.2) = !loop.asksPending held.1 := by
      intro held listed
      have found := List.mem_zipIdx_iff_getElem?.mp listed
      rw [List.getElem?_take] at found
      split at found
      · rw [isPinned_eq quietNow found]
      · cases found
    rw [List.filter_congr own, split_, List.take_left]
    have fsts : ∀ items : List Fields, ((items.zipIdx.filter fun held =>
        !loop.asksPending held.1).map Prod.fst) =
          items.filter fun fields => !loop.asksPending fields := by
      intro items
      conv_rhs => rw [← List.zipIdx_map_fst 0 items, List.filter_map]
      rfl
    rw [fsts, List.filter_append, List.filter_cons_of_pos (by simp [here.free])]
  have least : leastIndex ((((before.map Prod.fst).filter fun fields =>
      !loop.asksPending fields) ++ entry.1 :: (after.map Prod.fst).filter fun fields =>
        !loop.asksPending fields).map trimPriority) =
      (((before.map Prod.fst).filter fun fields => !loop.asksPending fields).map
        trimPriority).length := by
    rw [List.map_append, List.map_cons]
    apply leastIndex_eq
    · intro score listed
      obtain ⟨fields, kept, rfl⟩ := List.mem_map.mp listed
      obtain ⟨there, unasked⟩ := List.mem_filter.mp kept
      obtain ⟨other, inBefore, rfl⟩ := List.mem_map.mp there
      exact here.ahead other inBefore (by simpa using unasked)
    · intro score listed
      obtain ⟨fields, kept, rfl⟩ := List.mem_map.mp listed
      obtain ⟨there, unasked⟩ := List.mem_filter.mp kept
      obtain ⟨other, inAfter, rfl⟩ := List.mem_map.mp there
      exact here.behind other inAfter (by simpa using unasked)
  unfold Loop.removalIndex removalIndex
  dsimp only
  rw [length, if_pos (by simp), window, least, List.length_map,
    List.getElem?_append_right (le_refl _), Nat.sub_self, List.getElem?_cons_zero, Option.map_some]

/-- Where no earlier message with an unanswered call equals the next to leave, the loop finds the
next to leave. -/
theorem removalIndex_found (wellFormed : ∀ message ∈ history, Proper message.toJson)
    (quiet : ∀ message ∈ history, loop.answersPending message = false)
    {count : Nat} {entry : Fields × Nat}
    (next : (loop.leaving history)[count]? = some entry)
    (apart : loop.Apart history entry) :
    ∃ index, loop.removalIndex
        (loop.without history count) = some index ∧
      (loop.without history count)[index]? = some entry.1 ∧
      (loop.without history count).eraseIdx index = loop.without history (count + 1) := by
  obtain ⟨before, after, here⟩ := leaves next
  have held : ∀ other ∈ before ++ entry :: after, history[other.2]? = some other.1 := by
    intro other listed
    rw [← here.now] at listed
    exact front_held (List.mem_filter.mp listed).1
  have split_ : loop.without history count =
      before.map Prod.fst ++ (entry.1 :: (after.map Prod.fst ++
        loop.recent history)) := by
    rw [Loop.without, here.now, List.map_append, List.map_cons, List.append_assoc, List.cons_append]
  have place : (loop.without history count).findIdx (fun fields =>
      equalValues fields.toJson entry.1.toJson) = (before.map Prod.fst).length := by
    have inside : (before.map Prod.fst).length <
        (loop.without history count).length := by
      rw [split_]
      simp
    rw [List.findIdx_eq inside]
    simp only [split_]
    constructor
    · rw [List.getElem_append_right (le_refl _)]
      simp only [Nat.sub_self, List.getElem_cons_zero]
      refine equalValues_self _ (wellFormed _ (List.mem_of_getElem? (held entry ?_)))
      exact List.mem_append_right _ List.mem_cons_self
    · intro index earlier
      rw [List.getElem_append_left earlier]
      obtain ⟨other, listed, same⟩ := List.mem_map.mp (List.getElem_mem earlier)
      rw [← same]
      cases asks : loop.asksPending other.1 with
      | true =>
        exact apart other.2 other.1 (held other (List.mem_append_left _ listed))
          (here.places other listed) asks
      | false =>
        -- an equal one would have left before
        by_contra equal
        have above := here.ahead other listed asks
        rw [trimPriority_congr (eq_true_of_ne_false equal)] at above
        exact lt_irrefl _ above
  refine ⟨(before.map Prod.fst).length, ?_, ?_, ?_⟩
  · rw [removalIndex_leaves quiet here, place]
  · rw [split_, List.getElem?_append_right (le_refl _), Nat.sub_self, List.getElem?_cons_zero]
  · rw [split_, List.eraseIdx_append_of_length_le (le_refl _), Nat.sub_self,
      List.eraseIdx_cons_zero, Loop.without, here.next, List.map_append, List.append_assoc]

/-- In the recent turns the loop takes out a message that is not pinned. -/
theorem isPinned_of_short {selected : List Fields}
    (short : selected.length ≤ loop.recentHistoryTurns)
    {index : Nat} (chosen : loop.removalIndex selected = some index) :
    loop.isPinned selected index = false := by
  unfold Loop.removalIndex removalIndex at chosen
  dsimp only at chosen
  rw [if_neg (by omega)] at chosen
  obtain ⟨entry, found, rfl⟩ := Option.map_eq_some_iff.mp chosen
  have tested := List.find?_some found
  rw [Bool.and_eq_true] at tested
  simpa using tested.2

/-- When all have left, what is in front of the recent turns is pinned. -/
theorem isPinned_of_left
    (quiet : ∀ message ∈ history, loop.answersPending message = false)
    {index : Nat} (inside : index < (loop.without history
      (loop.leaving history).length).length - loop.recentHistoryTurns) :
    loop.isPinned (loop.without history
      (loop.leaving history).length) index = true := by
  generalize all : (loop.leaving history).length = count at inside ⊢
  have short := @recent_length_le loop history
  have lengths : (loop.without history count).length =
      (loop.remaining history count).length +
        (loop.recent history).length := by
    rw [Loop.without, List.length_append, List.length_map]
  obtain ⟨some_, member⟩ := List.exists_mem_of_ne_nil
    (loop.remaining history count) (by
      intro nothing
      rw [nothing, List.length_nil] at lengths
      omega)
  have exact_ := recent_length (List.mem_filter.mp member).1
  have within : index < ((loop.remaining history count).map
      Prod.fst).length := by
    rw [List.length_map]
    omega
  have found : (loop.without history count)[index]? =
      some ((loop.remaining history count).map Prod.fst)[index] := by
    rw [Loop.without, List.getElem?_append_left within, List.getElem?_eq_getElem within]
  have quietNow : ∀ message ∈ loop.without history count,
      loop.answersPending message = false :=
    fun message listed => quiet message (mem_of_without listed)
  rw [isPinned_eq quietNow found]
  obtain ⟨entry, listed, same⟩ := List.mem_map.mp (List.getElem_mem within)
  rw [← same]
  exact asksPending_of_left (all ▸ listed)

/-- When all have left, the loop takes out nothing more before it reaches the recent turns. -/
theorem short_of_left (quiet : ∀ message ∈ history, loop.answersPending message = false)
    {count index : Nat} (all : count = (loop.leaving history).length)
    (chosen : loop.removalIndex
      (loop.without history count) = some index) :
    (loop.without history count).length ≤ loop.recentHistoryTurns := by
  subst all
  by_contra longer
  have none := (@removalIndex_none_iff loop _).mpr
    (.inl ⟨Nat.sub_pos_of_lt (not_le.mp longer), fun _ within => isPinned_of_left quiet within⟩)
  rw [none] at chosen
  cases chosen

/-- Where an earlier message with an unanswered call equals the next to leave, such a message is
taken out in its place. -/
theorem mistakes (quiet : ∀ message ∈ history, loop.answersPending message = false)
    {count : Nat} {entry : Fields × Nat}
    (next : (loop.leaving history)[count]? = some entry)
    {place : Nat} {message : Fields} (found : history[place]? = some message)
    (earlier : place < entry.2) (asks : loop.asksPending message = true)
    (equal : equalValues message.toJson entry.1.toJson = true) :
    ∃ index mistaken, loop.removalIndex
        (loop.without history count) = some index ∧
      (loop.without history count)[index]? = some mistaken ∧
      mistaken ∈ history ∧ loop.asksPending mistaken = true := by
  obtain ⟨before, after, here⟩ := leaves next
  have listed : entry ∈ loop.front history :=
    (List.mem_filter.mp (Priorities.mem_ranked.mp (List.mem_of_getElem? next)).1).1
  have inFront : (message, place) ∈ loop.front history := by
    refine List.mem_zipIdx_iff_getElem?.mpr ?_
    have inside := (List.getElem?_eq_some_iff.mp (List.mem_zipIdx_iff_getElem?.mp listed)).1
    rw [List.length_take] at inside
    dsimp only
    rw [List.getElem?_take, if_pos (by omega)]
    exact found
  -- it stands among what is still in front of the one to leave
  have ahead : (message, place) ∈ before := by
    have stays := mem_remaining_of_asks inFront asks count
    rw [here.now] at stays
    rcases List.mem_append.mp stays with ahead | behind
    · exact ahead
    · have places : (loop.remaining history count).Pairwise
          fun earlier later => earlier.2 < later.2 := front_places.sublist List.filter_sublist
      rw [here.now] at places
      have ordered := (List.pairwise_append.mp places).2.1
      rcases List.mem_cons.mp behind with same | later
      · rw [← same] at earlier
        exact absurd earlier (lt_irrefl _)
      · have after_ := (List.pairwise_cons.mp ordered).1 _ later
        exact absurd earlier (not_lt.mpr after_.le)
  have split_ : loop.without history count =
      before.map Prod.fst ++ (entry.1 :: (after.map Prod.fst ++
        loop.recent history)) := by
    rw [Loop.without, here.now, List.map_append, List.map_cons, List.append_assoc, List.cons_append]
  have first : (loop.without history count).findIdx (fun fields =>
      equalValues fields.toJson entry.1.toJson) = (before.map Prod.fst).findIdx fun fields =>
        equalValues fields.toJson entry.1.toJson := by
    rw [split_, List.findIdx_append, if_pos]
    exact List.findIdx_lt_length_of_exists ⟨message, List.mem_map_of_mem ahead, equal⟩
  have inside : (before.map Prod.fst).findIdx (fun fields =>
      equalValues fields.toJson entry.1.toJson) < (before.map Prod.fst).length :=
    List.findIdx_lt_length_of_exists ⟨message, List.mem_map_of_mem ahead, equal⟩
  obtain ⟨other, among, same⟩ := List.mem_map.mp (List.getElem_mem inside)
  have meets := List.findIdx_getElem (w := inside)
  rw [← same] at meets
  refine ⟨_, other.1, removalIndex_leaves quiet here, ?_, ?_, ?_⟩
  · rw [first, split_, List.getElem?_append_left inside, List.getElem?_eq_getElem inside, same]
  · have there : other ∈ loop.remaining history count := by
      rw [here.now]
      exact List.mem_append_left _ among
    exact List.mem_of_getElem? (front_held (List.mem_filter.mp there).1)
  · by_contra free
    have above := here.ahead other among (by simpa using free)
    rw [trimPriority_congr meets] at above
    exact lt_irrefl _ above

end

/-! ## The plan -/

/-- What one plan is made from, with any way to estimate messages. -/
structure PlanRequest where
  estimateTokens : List Fields → Int
  targetInputTokens : Int
  recentHistoryTurns : Nat
  inputs : PlanInputs
  sessionHistoryBeforeTurn : List Fields
  currentTurnMessages : List Fields

namespace PlanRequest

variable (render : Rendering) (request : PlanRequest)

/-- `system_history` -/
def systemHistory : List Fields :=
  request.sessionHistoryBeforeTurn.filter (isText · "role" "system")

/-- `non_system_history` -/
def nonSystemHistory : List Fields :=
  request.sessionHistoryBeforeTurn.filter (!isText · "role" "system")

/-- `pending_tool_call_ids` -/
def pending : List String := pendingToolCallIds render request.nonSystemHistory

/-- `compose_messages` with what is left of the history. -/
def compose (selected : List Fields) : List Fields :=
  composeMessages request.inputs request.systemHistory selected request.currentTurnMessages

/-- The messages are estimated above the target. -/
def exceeds (selected : List Fields) : Bool :=
  decide (request.targetInputTokens < request.estimateTokens (request.compose selected))

/-- What the loop of the request reads. -/
abbrev loop : Loop :=
  ⟨render, request.recentHistoryTurns, request.pending render, request.exceeds⟩

/-- `selected_history` behind the loop. -/
def kept : List Fields :=
  (request.loop render).trimLoop request.nonSystemHistory.length request.nonSystemHistory

/-- `messages` of `build_context_plan`. -/
def buildContextPlan : List Fields := request.compose (request.kept render)

end PlanRequest

/-- With the estimate of the context manager this is its plan. -/
theorem buildContextPlan_estimates (render : Rendering) (policy : LengthPolicy)
    (inputs : PlanInputs) (historyBeforeTurn currentTurnMessages : List ChatMessage) :
    ContextBudget.buildContextPlan render policy inputs historyBeforeTurn currentTurnMessages =
      PlanRequest.buildContextPlan render
        { estimateTokens := fun messages => estimateTokens render messages
          targetInputTokens := policy.targetInputTokens
          recentHistoryTurns := policy.recentHistoryTurns
          inputs := inputs
          sessionHistoryBeforeTurn := dicts historyBeforeTurn
          currentTurnMessages := dicts currentTurnMessages } := by
  have same (compose : List Fields → List Fields) (pending : List String) (rounds : Nat)
      (selected : List Fields) :
      selectHistory render policy.targetInputTokens policy.recentHistoryTurns pending compose
          rounds selected =
        Loop.trimLoop ⟨render, policy.recentHistoryTurns, pending, fun selected =>
          decide (policy.targetInputTokens < estimateTokens render (compose selected))⟩
          rounds selected := by
    induction rounds generalizing selected with
    | zero => rfl
    | succ rounds inductionHypothesis =>
      rw [selectHistory, Loop.trimLoop, Loop.round]
      cases selected with
      | nil => simp
      | cons first rest =>
        by_cases long : policy.targetInputTokens < estimateTokens render (compose (first :: rest))
        · rw [if_pos ⟨long, List.cons_ne_nil _ _⟩, if_pos (by simp [long])]
          dsimp only [Loop.removalIndex]
          cases removalIndex render policy.recentHistoryTurns pending (first :: rest) with
          | none => rfl
          | some index => exact inductionHypothesis _
        · rw [if_neg (fun both => long both.1), if_neg (by simp [long])]
  unfold ContextBudget.buildContextPlan PlanRequest.buildContextPlan PlanRequest.kept
  dsimp only
  rw [same]
  rfl

/-- The loop ends, what it keeps is in order, the system messages and the turn stay, no call
without an answer leaves, and nothing that could leave remains above the target. -/
structure Trims (render : Rendering) (request : PlanRequest) : Prop where
  ends : (request.loop render).round
    (request.kept render) = none
  ordered : (request.kept render).Sublist request.nonSystemHistory
  system : request.systemHistory.Sublist (request.buildContextPlan render)
  turn : request.currentTurnMessages.Sublist (request.buildContextPlan render)
  calls : (request.kept render).filter ((request.loop render).callsPending) =
    request.nonSystemHistory.filter ((request.loop render).callsPending)
  maximal : request.exceeds (request.kept render) = true →
    (request.loop render).Maximal (request.kept render)

namespace PlanRequest

variable (render : Rendering) (request : PlanRequest)

/-- The loop of the request comes to the history. -/
abbrev Visits (selected : List Fields) : Prop :=
  (request.loop render).Visits request.nonSystemHistory selected

/-- The entries that leave from in front of the recent turns, in their order. -/
abbrev leaving : List (Fields × Nat) := (request.loop render).leaving request.nonSystemHistory

/-- The entries in front of the recent turns when so many have left. -/
abbrev remaining (count : Nat) : List (Fields × Nat) :=
  (request.loop render).remaining request.nonSystemHistory count

/-- The history of the request when so many have left. -/
abbrev without (count : Nat) : List Fields :=
  (request.loop render).without request.nonSystemHistory count

/-- The entries in front of the recent turns. -/
abbrev front : List (Fields × Nat) := (request.loop render).front request.nonSystemHistory

/-- No earlier message of the history with an unanswered call equals the entry. -/
abbrev Apart (entry : Fields × Nat) : Prop :=
  (request.loop render).Apart request.nonSystemHistory entry

/-- The recent turns of the history. -/
abbrev recent : List Fields := (request.loop render).recent request.nonSystemHistory

/-- The plan is above the target as long as no more than so many have left. -/
def ExceedsUpTo (count : Nat) : Prop :=
  ∀ fewer ≤ count, request.exceeds (request.without render fewer) = true

/-- Until the plan fits, no earlier message with an unanswered call equals one that is to leave.
And if the plan does not fit when all of them have left, nothing is left in front of the recent
turns, or no tool message among these may leave. -/
structure Clear : Prop where
  apart : ∀ count entry, (request.leaving render)[count]? = some entry →
    request.ExceedsUpTo render count → request.Apart render entry
  goesOn : request.ExceedsUpTo render (request.leaving render).length →
    (∃ entry ∈ request.front render,
      (request.loop render).asksPending entry.1 = true) →
        ∀ message ∈ request.recent render,
          isToolMessage message = true → (request.loop render).asksPending message = true

end PlanRequest

section
variable {render : Rendering} {request : PlanRequest}
  (wellFormed : ∀ message ∈ request.sessionHistoryBeforeTurn, Proper message.toJson)
include wellFormed

/-- The messages the loop works on are proper. -/
theorem wellFormed_nonSystem : ∀ message ∈ request.nonSystemHistory, Proper message.toJson :=
  fun message member => wellFormed message (List.mem_of_mem_filter member)

/-- A blocked history is what the loop keeps, and more could leave it. -/
theorem not_trims_of_blocked {selected : List Fields}
    (visited : request.Visits render selected)
    (blocked : (request.loop render).Blocked
      selected) : ¬ Trims render request := by
  intro trims
  have same : request.kept render = selected :=
    (visited.agree (wellFormed_nonSystem wellFormed)).trans
      (trimLoop_ended_self _ blocked.ended.1)
  have maximal := trims.maximal
  rw [same] at maximal
  exact blocked.ended.2 (maximal blocked.1)

omit wellFormed in

/-- No message the loop works on answers a call that has no answer. -/
theorem quiet_nonSystem : ∀ message ∈ request.nonSystemHistory,
    (request.loop render).answersPending message = false :=
  fun _ member => answersPending_of_mem member

/-- While the plan is above the target, a round takes out the next to leave. -/
theorem round_without {count : Nat} {entry : Fields × Nat}
    (next : (request.leaving render)[count]? = some entry)
    (apart : request.Apart render entry)
    (long : request.exceeds (request.without render count) = true) :
    (request.loop render).round
        (request.without render count) =
      some (request.without render (count + 1)) := by
  obtain ⟨index, chosen, found, left⟩ := removalIndex_found (wellFormed_nonSystem wellFormed)
    quiet_nonSystem next apart
  have some_ : (request.without render count).isEmpty = false :=
    List.isEmpty_eq_false_iff_exists_mem.mpr ⟨_, List.mem_of_getElem? found⟩
  have above : (request.loop render).exceeds (request.without render count) = true := long
  unfold Loop.round
  rw [above, some_]
  simp only [Bool.not_false, Bool.and_self, if_true, chosen, Option.map_some, left]

/-- While the plan is above the target and no message is mistaken for one that is to leave, the
loop comes to each history of the order. -/
theorem visits_without {count : Nat} (enough : count ≤ (request.leaving render).length)
    (apart : ∀ fewer < count, ∀ entry, (request.leaving render)[fewer]? = some entry →
      request.Apart render entry)
    (long : ∀ fewer < count, request.exceeds (request.without render fewer) = true) :
    request.Visits render (request.without render count) := by
  induction count with
  | zero =>
    have all : request.without render 0 = request.nonSystemHistory := without_zero
    rw [all]
    exact .start
  | succ count inductionHypothesis =>
    have before := inductionHypothesis (by omega)
      (fun fewer below => apart fewer (by omega)) fun fewer below => long fewer (by omega)
    have below : count < (request.leaving render).length := by omega
    exact .next before (round_without wellFormed (List.getElem?_eq_getElem below)
      (apart count (by omega) _ (List.getElem?_eq_getElem below)) (long count (by omega)))

/-- What the loop comes to: a history of the order, or one no longer than the recent turns. -/
theorem visited_cases (clear : request.Clear render) {selected : List Fields}
    (visited : request.Visits render selected) :
    (∃ count ≤ (request.leaving render).length, selected = request.without render count ∧
          ∀ fewer < count, request.exceeds (request.without render fewer) = true) ∨
      selected.length ≤ (request.loop render).recentHistoryTurns := by
  induction visited with
  | start => exact .inl ⟨0, Nat.zero_le _, without_zero.symm, fun _ below => absurd below
      (Nat.not_lt_zero _)⟩
  | next visited goesOn cases_ =>
    obtain ⟨index, inside, rfl, chosen, long⟩ :=
      round_takes (visited.proper (wellFormed_nonSystem wellFormed)) goesOn
    rcases cases_ with ⟨count, enough, rfl, above⟩ | short
    swap
    · rw [List.length_eraseIdx_of_lt inside]
      exact .inr (by omega)
    have upTo : request.ExceedsUpTo render count := fun fewer up =>
      (Nat.lt_or_eq_of_le up).elim (above fewer) fun same => same ▸ long
    rcases Nat.lt_or_eq_of_le enough with more | all
    · have next := List.getElem?_eq_getElem more
      have goes := round_without wellFormed next (clear.apart count _ next upTo) long
      rw [goesOn] at goes
      exact .inl ⟨count + 1, more, Option.some.inj goes, fun fewer below =>
        upTo fewer (Nat.lt_succ_iff.mp below)⟩
    · have short : (request.without render count).length ≤
          (request.loop render).recentHistoryTurns := short_of_left quiet_nonSystem all chosen
      rw [List.length_eraseIdx_of_lt inside]
      exact .inr (by omega)

/-- A loop that comes to no mistake and no blocked history trims as it should. -/
theorem trims_of_free (free : ∀ selected, request.Visits render selected →
    ¬ (request.loop render).Blocked selected ∧
      ¬ (request.loop render).Mistaken
        selected) : Trims render request := by
  have proper := wellFormed_nonSystem wellFormed
  have visited : request.Visits render (request.kept render) := trimLoop_visited _ _
  have ended : (request.loop render).round
      (request.kept render) = none := trimLoop_ends proper _ (le_refl _)
  refine ⟨ended, visited.ordered proper, ?_, ?_, ?_, ?_⟩
  · unfold PlanRequest.buildContextPlan PlanRequest.compose composeMessages
    simp only [List.append_assoc]
    exact List.sublist_append_left _ _
  · unfold PlanRequest.buildContextPlan PlanRequest.compose composeMessages
    exact (List.sublist_append_right _ _).trans (List.sublist_append_left _ _)
  · exact visited.calls proper fun tested comes => (free tested comes).2
  · exact fun long => maximal_of_ended ended long (free _ visited).1

/-- A clear request comes to no blocked history. -/
theorem not_blocked (clear : request.Clear render) {selected : List Fields}
    (visited : request.Visits render selected) : ¬ (request.loop render).Blocked selected := by
  intro blocked
  have stuck := blocked.ended.1
  obtain ⟨long, some_, _, index, message, found, tool, unpinned⟩ := blocked
  rcases visited_cases wellFormed clear visited with ⟨count, enough, rfl, above⟩ | short
  swap
  · omega
  have upTo : request.ExceedsUpTo render count := fun fewer up =>
    (Nat.lt_or_eq_of_le up).elim (above fewer) fun same => same ▸ long
  rcases Nat.lt_or_eq_of_le enough with more | all
  · have next := List.getElem?_eq_getElem more
    rw [round_without wellFormed next (clear.apart count _ next upTo) long] at stuck
    cases stuck
  · have quietNow : ∀ message ∈ request.without render count,
        (request.loop render).answersPending message = false :=
      fun message listed => quiet_nonSystem message (mem_of_without listed)
    rw [isPinned_eq quietNow found] at unpinned
    have lengths : (request.without render count).length =
        (request.remaining render count).length + (request.recent render).length := by
      rw [PlanRequest.without, Loop.without, List.length_append, List.length_map]
    have short : (request.recent render).length ≤ (request.loop render).recentHistoryTurns :=
      recent_length_le
    obtain ⟨entry, member⟩ := List.exists_mem_of_ne_nil (request.remaining render count) (by
        intro nothing
        rw [nothing, List.length_nil] at lengths
        omega)
    have asks : (request.loop render).asksPending entry.1 = true :=
      asksPending_of_left (all ▸ member)
    -- the tool message that may leave is one of the recent turns
    rcases List.mem_append.mp (List.mem_of_getElem? found) with inFront | inRecent
    · obtain ⟨other, there, rfl⟩ := List.mem_map.mp inFront
      rw [asksPending_of_left (all ▸ there)] at unpinned
      cases unpinned
    · rw [clear.goesOn (all ▸ upTo) ⟨entry, (List.mem_filter.mp member).1, asks⟩ message inRecent
        tool] at unpinned
      cases unpinned

/-- A clear request mistakes no message for another. -/
theorem not_mistaken (clear : request.Clear render) {selected : List Fields}
    (visited : request.Visits render selected) : ¬ (request.loop render).Mistaken selected := by
  rintro ⟨long, index, message, chosen, found, calls⟩
  have asks : (request.loop render).asksPending message = true :=
    (Bool.and_eq_true_iff.mp calls).2
  have inRecent : selected.length ≤ (request.loop render).recentHistoryTurns → False := by
    intro short
    have quietNow : ∀ message ∈ selected,
        (request.loop render).answersPending message = false := fun message listed =>
      quiet_nonSystem message
        ((visited.ordered (wellFormed_nonSystem wellFormed)).subset listed)
    have free := isPinned_of_short short chosen
    rw [isPinned_eq quietNow found, asks] at free
    cases free
  rcases visited_cases wellFormed clear visited with ⟨count, enough, rfl, above⟩ | short
  swap
  · exact inRecent short
  have upTo : request.ExceedsUpTo render count := fun fewer up =>
    (Nat.lt_or_eq_of_le up).elim (above fewer) fun same => same ▸ long
  rcases Nat.lt_or_eq_of_le enough with more | all
  · have next := List.getElem?_eq_getElem more
    obtain ⟨_, own, there, _⟩ := removalIndex_found (wellFormed_nonSystem wellFormed)
      quiet_nonSystem next (clear.apart count _ next upTo)
    obtain rfl := Option.some.inj (own.symm.trans chosen)
    obtain rfl := Option.some.inj (there.symm.trans found)
    obtain ⟨before, after, here⟩ := leaves next
    rw [here.free] at asks
    cases asks
  · exact inRecent (short_of_left quiet_nonSystem all chosen)

/-- The loop trims a history as it should where the order of leaving is clear, and only there as
far as unanswered calls are the assistant's. -/
theorem plan_trims_iff : (request.Clear render → Trims render request) ∧
    ((∀ message ∈ request.nonSystemHistory,
        (request.loop render).asksPending message = true →
          isText message "role" "assistant" = true) →
      Trims render request → request.Clear render) := by
  constructor
  · intro clear
    exact trims_of_free wellFormed fun selected visited =>
      ⟨not_blocked wellFormed clear visited, not_mistaken wellFormed clear visited⟩
  · intro assistants trims
    have proper := wellFormed_nonSystem wellFormed
    have apart : ∀ count entry, (request.leaving render)[count]? = some entry →
        request.ExceedsUpTo render count → request.Apart render entry := by
      intro count
      induction count using Nat.strong_induction_on with
      | _ count earlier =>
        intro entry next upTo place message found ahead asks
        by_contra equal
        have visited := visits_without wellFormed
          (List.getElem?_eq_some_iff.mp next).1.le
          (fun fewer below other there => earlier fewer below other there
            fun less up => upTo less (up.trans below.le))
          fun fewer below => upTo fewer below.le
        obtain ⟨index, mistaken, chosen, there, member, pinned⟩ := mistakes quiet_nonSystem next
          found ahead asks (eq_true_of_ne_false equal)
        have calls : (request.loop render).callsPending mistaken = true :=
          Bool.and_eq_true_iff.mpr ⟨assistants mistaken member pinned, pinned⟩
        exact Loop.Mistaken.loses proper visited
          ⟨upTo count (le_refl _), index, mistaken, chosen, there, calls⟩ trims.calls
    refine ⟨apart, fun upTo => ?_⟩
    rintro ⟨entry, member, asks⟩ message inRecent tool
    by_contra free
    have visited := visits_without wellFormed (le_refl _)
      (fun fewer below other there => apart fewer other there
        fun less up => upTo less (up.trans below.le))
      fun fewer below => upTo fewer below.le
    refine not_trims_of_blocked wellFormed visited ⟨upTo _ (le_refl _), ?_, fun index inside =>
      isPinned_of_left quiet_nonSystem inside, ?_⟩ trims
    · have stays := mem_remaining_of_asks member asks (request.leaving render).length
      have some_ := List.length_pos_of_mem stays
      rw [PlanRequest.without, Loop.without, List.length_append, List.length_map,
        recent_length member]
      omega
    · have listed : message ∈ request.without render (request.leaving render).length :=
        List.mem_append_right _ inRecent
      obtain ⟨index, found⟩ := List.mem_iff_getElem?.mp listed
      refine ⟨index, message, found, tool, ?_⟩
      rw [isPinned_eq (fun message listed => quiet_nonSystem message (mem_of_without listed)) found]
      simpa using free

end

/-! ## A plan that breaks off -/

/-- An assistant message with one call. -/
def callMessage (id : String) : Fields :=
  ⟨[("role", .str "assistant"), ("tool_calls", .arr [.obj [("id", .str id)]])],
    show ["role", "tool_calls"].Nodup by decide⟩

/-- The answer to one call. -/
def toolMessage (id : String) : Fields :=
  ⟨[("role", .str "tool"), ("tool_call_id", .str id)],
    show ["role", "tool_call_id"].Nodup by decide⟩

/-- A greeting. -/
def userMessage : Fields := ⟨[("role", .str "user"), ("content", .str "hello")], by decide⟩

/-- An old call without an answer, and among the eight recent messages a call with one. -/
def brokenOff : PlanRequest where
  estimateTokens messages := 100 * messages.length
  targetInputTokens := 512
  recentHistoryTurns := 8
  inputs := ⟨none, [], none, "", none, none⟩
  sessionHistoryBeforeTurn :=
    callMessage "a" :: callMessage "b" :: toolMessage "b" :: List.replicate 6 userMessage
  currentTurnMessages := [userMessage]

/-- A rendering in which every value is an empty text. -/
def plainRendering : Rendering := ⟨fun _ => "", fun _ => ""⟩

/-- The messages of the example are proper. -/
theorem brokenOff_wellFormed :
    ∀ message ∈ brokenOff.sessionHistoryBeforeTurn, Proper message.toJson := by
  have calls (id : String) : Proper (callMessage id).toJson :=
    ⟨(callMessage id).distinct, trivial, ⟨⟨List.nodup_singleton _, trivial, trivial⟩, trivial⟩,
      trivial⟩
  intro message member
  simp only [brokenOff, List.mem_cons, List.mem_replicate] at member
  rcases member with rfl | rfl | rfl | ⟨_, rfl⟩
  · exact calls "a"
  · exact calls "b"
  · exact ⟨(toolMessage "b").distinct, trivial, trivial, trivial⟩
  · exact ⟨userMessage.distinct, trivial, trivial, trivial⟩

/-- The request that breaks off satisfies what the theorem asks of the history. -/
theorem plan_trims_iff_brokenOff : (brokenOff.Clear plainRendering →
    Trims plainRendering brokenOff) ∧
      ((∀ message ∈ brokenOff.nonSystemHistory,
          (brokenOff.loop plainRendering).asksPending message = true →
            isText message "role" "assistant" = true) →
        Trims plainRendering brokenOff → brokenOff.Clear plainRendering) :=
  plan_trims_iff brokenOff_wellFormed

/-- The plan stays above its target although a tool result among the recent messages could
leave. -/
theorem recent_tool_result_stays : ¬ Trims plainRendering brokenOff := by
  refine not_trims_of_blocked brokenOff_wellFormed .start ?_
  refine ⟨by decide +kernel, by decide +kernel, fun index front => ?_, 2, toolMessage "b",
    ?_, ?_, ?_⟩
  · have first : index < 1 := front
    obtain rfl := Nat.lt_one_iff.mp first
    decide +kernel
  · rfl
  · decide +kernel
  · decide +kernel

end MeetYou.PlanTrimming
