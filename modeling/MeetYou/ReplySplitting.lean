import MeetYou.Foundation.SpacedWords

/-!
# Splitting a reply for a chat

Both chat adapters cut a long reply into fragments that a message can hold. While the
rest is longer than the limit, it is cut behind the last occurrence of the best
separator in a window of that length, or at the end of the window. The fragment in
front and the rest behind are stripped.

The rest starts with a visible character in each round, so the cut removes it: the loop
ends, and no fragment is empty. Stripping removes white space only.
-/

namespace MeetYou.ReplySplitting

open Text

/-! ## The splitter -/

/-- `separators`, the best first. -/
def separators : List (List Char) :=
  ["\n\n".toList, "\n".toList, ". ".toList, "! ".toList, "? ".toList, "; ".toList, ", ".toList,
    " ".toList]

/-- `window.rfind(separator)`: the last position of the separator. -/
def rfind (window separator : List Char) : Option Nat :=
  (List.range (window.length + 1)).reverse.find? fun index =>
    separator.isPrefixOf (window.drop index)

/-- `split_at`: behind the last occurrence of the first separator that has one behind the
start of the window, or the end of the window. -/
def splitAt (window : List Char) (maxChars : Nat) : Nat :=
  (separators.findSome? fun separator =>
    ((rfind window separator).filter (0 < ·)).map (· + separator.length)).getD maxChars

theorem rfind_within {window separator : List Char} {index : Nat}
    (found : rfind window separator = some index) :
    index + separator.length ≤ window.length := by
  have matched := List.find?_some found
  have member := List.mem_of_find?_eq_some found
  have bounded : index ≤ window.length := by
    have below := List.mem_range.mp (List.mem_reverse.mp member)
    omega
  have length := (List.isPrefixOf_iff_prefix.mp matched).length_le
  rw [List.length_drop] at length
  omega

/-- The cut is behind the start of the window, and within it. -/
theorem splitAt_bounds {window : List Char} {maxChars : Nat} (positive : 0 < maxChars)
    (fills : window.length = maxChars) :
    0 < splitAt window maxChars ∧ splitAt window maxChars ≤ maxChars := by
  unfold splitAt
  cases chosen : separators.findSome? fun separator =>
      ((rfind window separator).filter (0 < ·)).map (· + separator.length) with
  | none => exact ⟨positive, le_refl _⟩
  | some index =>
    obtain ⟨separator, _, cut⟩ := List.exists_of_findSome?_eq_some chosen
    obtain ⟨start, kept, rfl⟩ := Option.map_eq_some_iff.mp cut
    obtain ⟨found, inside⟩ := Option.filter_eq_some_iff.mp kept
    have within := rfind_within found
    have behind : 0 < start := of_decide_eq_true inside
    rw [Option.getD_some]
    omega

theorem trim_length (text : List Char) : (trim text).length ≤ text.length := by
  unfold trim
  have front := (List.dropWhile_suffix isSpace (l := text)).length_le
  have back := (List.rdropWhile_prefix isSpace (l := text.dropWhile isSpace)).length_le
  omega

/-- The loop: the fragments of the rest. -/
def splitLoop (maxChars : { limit : Nat // 0 < limit }) (remaining : List Char) :
    List (List Char) :=
  if maxChars.1 < remaining.length then
    let split := splitAt (remaining.take maxChars.1) maxChars.1
    let fragment := trim (remaining.take split)
    (if fragment ≠ [] then [fragment] else []) ++
      splitLoop maxChars (trim (remaining.drop split))
  else if remaining ≠ [] then [remaining] else []
termination_by remaining.length
decreasing_by
  rename_i longer
  have fills : (remaining.take maxChars.1).length = maxChars.1 := by
    rw [List.length_take]
    omega
  have cut := (splitAt_bounds maxChars.2 fills).1
  have shorter := trim_length (remaining.drop (splitAt (remaining.take maxChars.1) maxChars.1))
  rw [List.length_drop] at shorter
  omega

/-- `max(int(limit or DEFAULT_MAX_TEXT_CHARS), 1)` -/
def maxChars (default limit : Int) : { limit : Nat // 0 < limit } :=
  ⟨(max (if limit = 0 then default else limit) 1).toNat, by omega⟩

/-- The splitter of both adapters, with the limit of one. -/
def splitText (default : Int) (text : List Char) (limit : Int) : List (List Char) :=
  let content := trim text
  if content = [] then [] else splitLoop (maxChars default limit) content

namespace ClawbotWechatAdapter

def defaultMaxTextChars : Int := 1800

/-- `split_text_naturally` of the ClawBot adapter. -/
def splitTextNaturally (text : List Char) (limit : Int) : List (List Char) :=
  splitText defaultMaxTextChars text limit

end ClawbotWechatAdapter

namespace MeetwechatAdapter

def defaultMaxTextChars : Int := 1800

/-- `split_text_naturally` of the MeetWeChat adapter. -/
def splitTextNaturally (text : List Char) (limit : Int) : List (List Char) :=
  splitText defaultMaxTextChars text limit

end MeetwechatAdapter

/-! ## Nothing is lost -/

/-- The characters that are not white space. -/
def visible (text : List Char) : List Char := text.filter fun character => !isSpace character

/-- The fragments are a text cut into trimmed pieces within a limit. -/
structure Splits (limit : Int) (text : List Char) (fragments : List (List Char)) : Prop where
  nonempty : ∀ fragment ∈ fragments, fragment ≠ []
  trimmed : ∀ fragment ∈ fragments, Trimmed fragment
  short : ∀ fragment ∈ fragments, (fragment.length : Int) ≤ limit
  complete : visible fragments.flatten = visible text

theorem visible_append (left right : List Char) :
    visible (left ++ right) = visible left ++ visible right := List.filter_append ..

theorem visible_dropWhile (text : List Char) : visible (text.dropWhile isSpace) = visible text := by
  induction text with
  | nil => rfl
  | cons first rest inductionHypothesis =>
    cases space : isSpace first with
    | false => rw [List.dropWhile_cons_of_neg (by simp [space])]
    | true =>
      rw [List.dropWhile_cons_of_pos space, inductionHypothesis]
      simp [visible, space]

/-- Stripping removes no visible character. -/
theorem visible_trim (text : List Char) : visible (trim text) = visible text := by
  have reversed (characters : List Char) :
      visible characters.reverse = (visible characters).reverse := List.filter_reverse ..
  unfold trim
  rw [List.rdropWhile, reversed, visible_dropWhile, reversed, List.reverse_reverse,
    visible_dropWhile]

/-- A trimmed text that is cut behind its start leaves a fragment in front. -/
theorem fragment_ne_nil {remaining : List Char} (trimmed : Trimmed remaining)
    (some : remaining ≠ []) {split : Nat} (positive : 0 < split) :
    trim (remaining.take split) ≠ [] := by
  cases remaining with
  | nil => exact absurd rfl some
  | cons first rest =>
    have shows : isSpace first = false := trimmed.1 first rfl
    intro empty
    have nothing := visible_trim ((first :: rest).take split)
    rw [empty] at nothing
    obtain ⟨split, rfl⟩ := Nat.exists_eq_succ_of_ne_zero positive.ne'
    simp [visible, shows] at nothing

/-- A round cuts off the front of the rest, and the loop goes on behind it. -/
theorem splitLoop_cut {limit : { limit : Nat // 0 < limit }} {remaining : List Char}
    (trimmed : Trimmed remaining) (longer : limit.1 < remaining.length) :
    ∃ split, 0 < split ∧ split ≤ limit.1 ∧
      splitLoop limit remaining =
        trim (remaining.take split) :: splitLoop limit (trim (remaining.drop split)) := by
  have fills : (remaining.take limit.1).length = limit.1 := by
    rw [List.length_take]
    omega
  obtain ⟨positive, within⟩ := splitAt_bounds limit.2 fills
  refine ⟨_, positive, within, ?_⟩
  have some : remaining ≠ [] := by
    rintro rfl
    simp at longer
  rw [splitLoop, if_pos longer]
  dsimp only
  rw [if_pos (fragment_ne_nil trimmed some positive), List.singleton_append]

/-- The loop cuts a trimmed text. The induction is on its rounds. -/
theorem splitLoop_splits (limit : { limit : Nat // 0 < limit }) (remaining : List Char)
    (trimmed : Trimmed remaining) : Splits limit.1 remaining (splitLoop limit remaining) := by
  by_cases longer : limit.1 < remaining.length
  · obtain ⟨split, positive, within, same⟩ := splitLoop_cut trimmed longer
    have some : remaining ≠ [] := by
      rintro rfl
      simp at longer
    have shorter : (trim (remaining.drop split)).length < remaining.length := by
      have length := trim_length (remaining.drop split)
      rw [List.length_drop] at length
      omega
    have later := splitLoop_splits limit (trim (remaining.drop split)) (trim_trimmed _)
    rw [same]
    refine ⟨?_, ?_, ?_, ?_⟩
    · exact List.forall_mem_cons.mpr ⟨fragment_ne_nil trimmed some positive, later.nonempty⟩
    · exact List.forall_mem_cons.mpr ⟨trim_trimmed _, later.trimmed⟩
    · refine List.forall_mem_cons.mpr ⟨?_, later.short⟩
      have length := trim_length (remaining.take split)
      rw [List.length_take] at length
      omega
    · rw [List.flatten_cons, visible_append, visible_trim, later.complete, visible_trim,
        ← visible_append, List.take_append_drop]
  · rw [splitLoop, if_neg longer]
    by_cases empty : remaining = []
    · rw [if_neg (not_not.mpr empty), empty]
      exact ⟨List.forall_mem_nil _, List.forall_mem_nil _, List.forall_mem_nil _, rfl⟩
    · rw [if_pos empty]
      refine ⟨?_, ?_, ?_, ?_⟩
      · exact List.forall_mem_singleton.mpr empty
      · exact List.forall_mem_singleton.mpr trimmed
      · refine List.forall_mem_singleton.mpr ?_
        omega
      · rw [List.flatten_singleton]
termination_by remaining.length
decreasing_by exact shorter

/-- The splitter cuts every text within every positive limit. -/
theorem splitText_splits (default : Int) (text : List Char) {limit : Int} (positive : 0 < limit) :
    Splits limit text (splitText default text limit) := by
  have loop : splitText default text limit = splitLoop (maxChars default limit) (trim text) := by
    unfold splitText
    dsimp only
    split
    · next empty =>
      rw [empty, splitLoop]
      rfl
    · rfl
  rw [loop]
  have cut := splitLoop_splits (maxChars default limit) (trim text) (trim_trimmed text)
  have same : ((maxChars default limit).1 : Int) = limit := by
    unfold maxChars
    dsimp only
    split <;> omega
  rw [same] at cut
  exact ⟨cut.nonempty, cut.trimmed, cut.short, cut.complete.trans (visible_trim text)⟩

/-- Both adapters cut every text into trimmed fragments within the limit and lose no
visible character. -/
theorem fragments_hold_text (text : List Char) (limit : Int) (positive : 0 < limit) :
    Splits limit text (ClawbotWechatAdapter.splitTextNaturally text limit) ∧
      Splits limit text (MeetwechatAdapter.splitTextNaturally text limit) :=
  ⟨splitText_splits _ text positive, splitText_splits _ text positive⟩

/-- A sentence that two fragments hold. -/
theorem fragments_hold_sentence :
    Splits 6 "One. Two.".toList
        (ClawbotWechatAdapter.splitTextNaturally "One. Two.".toList 6) ∧
      Splits 6 "One. Two.".toList (MeetwechatAdapter.splitTextNaturally "One. Two.".toList 6) :=
  fragments_hold_text "One. Two.".toList 6 (by decide)

end MeetYou.ReplySplitting
