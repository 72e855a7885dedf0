import MeetYou.PdfExport

/-!
# Reading the PDF of a report

A reader starts at the end of the file: the number there is the offset of the table, and the
table names the offset of every object. The reader checks that each object stands at its
offset, that the number of pages is the number of kids, that every kid is a page, and that
every stream ends where its length says. It then decodes the texts of the pages in order.

What it reads from the bytes of any report are the wrapped lines with their control characters
shown as blanks.
-/

namespace MeetYou.PdfReading

open JsonText PdfExport

/-! ## The reader -/

/-- The text behind a word that stands here. -/
def expect : List Char → List Char → Option (List Char)
  | [], text => some text
  | _ :: _, [] => none
  | mark :: word, character :: text => if mark = character then expect word text else none

/-- A decimal number that stands here, and the text behind it. -/
def readNumber (text : List Char) : Option (Nat × List Char) :=
  if text.takeWhile isDigit = [] then none
  else some (readNat (text.takeWhile isDigit), text.dropWhile isDigit)

/-- The value of `startxref`, from the end of the file. -/
def readStart (bytes : List Char) : Option Nat :=
  (expect "\n%%EOF\n".toList.reverse bytes.reverse).bind fun back =>
    (expect "startxref\n".toList.reverse (back.dropWhile isDigit)).bind fun _ =>
      (readNumber (back.takeWhile isDigit).reverse).map Prod.fst

/-- So many entries of the table. -/
def readEntries : Nat → List Char → Option (List Nat × List Char)
  | 0, text => some ([], text)
  | count + 1, text =>
    (readNumber text).bind fun (offset, rest) =>
      (expect " 00000 n \n".toList rest).bind fun rest =>
        (readEntries count rest).map fun (offsets, rest) => (offset :: offsets, rest)

/-- The table at an offset, and the text behind it. -/
def readTable (bytes : List Char) (xrefOffset : Nat) : Option (List Nat × List Char) :=
  (expect "xref\n0 ".toList (bytes.drop xrefOffset)).bind fun rest =>
    (readNumber rest).bind fun (size, rest) =>
      (expect "\n0000000000 65535 f \n".toList rest).bind fun rest =>
        (readEntries (size - 1) rest).bind fun (offsets, rest) =>
          (expect "trailer\n<< /Size ".toList rest).bind fun rest =>
            (readNumber rest).bind fun (again, rest) =>
              if again = size then some (offsets, rest) else none

section
variable (bytes : List Char) (offsets : List Nat)

/-- The text of an object, behind its heading at the offset the table names. -/
def objectAt (objectId : Nat) : Option (List Char) :=
  (if objectId = 0 then none else offsets[objectId - 1]?).bind fun offset =>
    expect (writeNat objectId ++ " 0 obj\n".toList) (bytes.drop offset)

/-- Every entry of the table is the offset of its object. -/
def tableHolds : Bool := (List.range offsets.length).all fun index =>
  (objectAt bytes offsets (index + 1)).isSome

/-- References with blanks between them, at most so many. -/
def readReferences : Nat → List Char → Option (List Nat × List Char)
  | 0, _ => none
  | rounds + 1, text =>
    (readNumber text).bind fun (id, rest) =>
      (expect " 0 R".toList rest).bind fun rest =>
        match expect [' '] rest with
        | none => some ([id], rest)
        | some more => (readReferences rounds more).map fun (ids, rest) => (id :: ids, rest)

/-- The kids of the pages object, whose count is their number. -/
def readKids (pagesId : Nat) : Option (List Nat) :=
  (objectAt bytes offsets pagesId).bind fun text =>
    (expect "<< /Type /Pages /Kids [".toList text).bind fun text =>
      (readReferences text.length text).bind fun (kids, rest) =>
        (expect "] /Count ".toList rest).bind fun rest =>
          (readNumber rest).bind fun (count, _) => if count = kids.length then some kids else none

/-- The stream of an object, which ends where its length says. -/
def readStream (contentId : Nat) : Option (List Char) :=
  (objectAt bytes offsets contentId).bind fun text =>
    (expect "<< /Length ".toList text).bind fun text =>
      (readNumber text).bind fun (length, text) =>
        (expect " >>\nstream\n".toList text).bind fun text =>
          (expect "\nendstream\nendobj\n".toList (text.drop length)).map fun _ => text.take length

/-- The stream of a kid, which has to be a page. -/
def readPage (pageId : Nat) : Option (List Char) :=
  (objectAt bytes offsets pageId).bind fun text =>
    (expect pageStart text).bind fun text =>
      (readNumber text).bind fun (contentId, _) => readStream bytes offsets contentId

end

/-! ### Texts -/

/-- The value of a digit to the base sixteen. -/
def hexValue (character : Char) : Option Nat :=
  if isDigit character then some (character.toNat - 48)
  else if 65 ≤ character.toNat ∧ character.toNat ≤ 70 then some (character.toNat - 55)
  else none

/-- The units that groups of four digits stand for. -/
def readUnits : List Char → Option (List Nat)
  | [] => some []
  | first :: second :: third :: fourth :: rest =>
    (hexValue first).bind fun a => (hexValue second).bind fun b => (hexValue third).bind fun c =>
      (hexValue fourth).bind fun d => (readUnits rest).map fun units =>
        (((a * 16 + b) * 16 + c) * 16 + d) :: units
  | _ => none

/-- The characters that units of UTF-16 stand for. -/
def readCharacters : List Nat → Option (List Char)
  | [] => some []
  | unit :: rest =>
    if 0xd800 ≤ unit ∧ unit < 0xdc00 then
      match rest with
      | low :: rest =>
        (readCharacters rest).map fun text =>
          Char.ofNat (0x10000 + (unit - 0xd800) * 0x400 + (low - 0xdc00)) :: text
      | [] => none
    else (readCharacters rest).map fun text => Char.ofNat unit :: text

/-- The text a command shows, or `none` where it shows none. -/
def shownText : List Char → Option (List Char)
  | '<' :: rest =>
    (expect "> Tj".toList (rest.dropWhile (· ≠ '>'))).bind fun _ =>
      (readUnits (rest.takeWhile (· ≠ '>'))).bind readCharacters
  | _ => none

/-- The texts that a stream shows. -/
def shownTexts (stream : List Char) : List (List Char) :=
  (stream.splitOn '\n').filterMap shownText

/-- The lines of the pages in order, or `none` where a check of the reader fails. -/
def readPdf (bytes : List Char) : Option (List (List Char)) :=
  (readStart bytes).bind fun xrefOffset =>
    (readTable bytes xrefOffset).bind fun (offsets, trailer) =>
      if tableHolds bytes offsets then
        (expect " /Root ".toList trailer).bind fun rest =>
          (readNumber rest).bind fun (rootId, _) =>
            (objectAt bytes offsets rootId).bind fun catalog =>
              (expect "<< /Type /Catalog /Pages ".toList catalog).bind fun rest =>
                (readNumber rest).bind fun (pagesId, _) =>
                  (readKids bytes offsets pagesId).bind fun kids =>
                    (kids.mapM (readPage bytes offsets)).map fun streams =>
                      streams.flatMap shownTexts
      else none

/-! ## Words and numbers -/

theorem expect_append (word rest : List Char) : expect word (word ++ rest) = some rest := by
  induction word with
  | nil => rfl
  | cons mark word inductionHypothesis =>
    rw [List.cons_append, expect, if_pos rfl, inductionHypothesis]

/-- Digits are read up to a character that is none. -/
theorem readNumber_digits {digits rest : List Char} (some_ : digits ≠ [])
    (all : ∀ digit ∈ digits, isDigit digit = true) (stops : NoDigit rest) :
    readNumber (digits ++ rest) = some (readNat digits, rest) := by
  obtain ⟨front, back⟩ := digits_span all stops
  unfold readNumber
  rw [front, back, if_neg some_]

theorem readNumber_write (number : Nat) {rest : List Char} (stops : NoDigit rest) :
    readNumber (writeNat number ++ rest) = some (number, rest) := by
  obtain ⟨some_, all, _⟩ := writeNat_whole number
  rw [readNumber_digits some_ all stops, readNat_writeNat]

/-- Zeros in front do not change a number. -/
theorem readNat_zeros (count : Nat) (digits : List Char) :
    readNat (List.replicate count '0' ++ digits) = readNat digits := by
  unfold readNat
  rw [List.foldl_append]
  congr 1
  induction count with
  | zero => rfl
  | succ count inductionHypothesis =>
    rw [List.replicate_succ, List.foldl_cons]
    exact inductionHypothesis

theorem readNumber_padded (number : Nat) {rest : List Char} (stops : NoDigit rest) :
    readNumber (padded number ++ rest) = some (number, rest) := by
  obtain ⟨some_, all, _⟩ := writeNat_whole number
  unfold padded
  rw [readNumber_digits (List.append_ne_nil_of_right_ne_nil _ some_) ?_ stops, readNat_zeros,
    readNat_writeNat]
  intro digit member
  rcases List.mem_append.mp member with zero | other
  · rw [List.eq_of_mem_replicate zero]
    decide
  · exact all digit other

/-! ## The table -/

theorem readEntries_entries (offsets : List Nat) (rest : List Char) :
    readEntries offsets.length (offsets.flatMap entry ++ rest) = some (offsets, rest) := by
  induction offsets with
  | nil => rfl
  | cons offset offsets inductionHypothesis =>
    have first : (offset :: offsets).flatMap entry ++ rest =
        padded offset ++ (" 00000 n \n".toList ++ (offsets.flatMap entry ++ rest)) := by
      rw [List.flatMap_cons, entry]
      simp only [List.append_assoc]
    rw [first, List.length_cons, readEntries, readNumber_padded offset (by intro c h; cases h; rfl),
      Option.bind_some]
    dsimp only
    rw [expect_append, Option.bind_some, inductionHypothesis]
    rfl

/-- The reader finds the number at the end of the file. -/
theorem readStart_end (front : List Char) (number : Nat) :
    readStart (front ++ ("startxref\n".toList ++ (writeNat number ++ "\n%%EOF\n".toList))) =
      some number := by
  obtain ⟨some_, all, _⟩ := writeNat_whole number
  have reversed : (front ++ ("startxref\n".toList ++ (writeNat number ++
      "\n%%EOF\n".toList))).reverse = "\n%%EOF\n".toList.reverse ++
        ((writeNat number).reverse ++ ("startxref\n".toList.reverse ++ front.reverse)) := by
    simp only [List.reverse_append, List.append_assoc]
  have digits : ∀ digit ∈ (writeNat number).reverse, isDigit digit = true :=
    fun digit member => all digit (List.mem_reverse.mp member)
  obtain ⟨taken, dropped⟩ := @digits_span (writeNat number).reverse
    ("startxref\n".toList.reverse ++ front.reverse) digits (by intro c h; cases h; rfl)
  have read := @readNumber_write number [] (by intro c h; cases h)
  rw [List.append_nil] at read
  unfold readStart
  rw [reversed, expect_append, Option.bind_some, dropped, taken, expect_append, Option.bind_some,
    List.reverse_reverse, read]
  rfl

theorem readStart_fileEnd (front : List Char) (offsets : List Nat) (number : Nat) :
    readStart (front ++ fileEnd offsets number) = some number := by
  have parts : front ++ fileEnd offsets number =
      (front ++ ("xref\n0 ".toList ++ (writeNat (offsets.length + 1) ++
        ("\n0000000000 65535 f \n".toList ++ (offsets.flatMap entry ++
          ("trailer\n<< /Size ".toList ++ (writeNat (offsets.length + 1) ++
            " /Root 1 0 R >>\n".toList))))))) ++
              ("startxref\n".toList ++ (writeNat number ++ "\n%%EOF\n".toList)) := by
    unfold fileEnd
    simp only [List.append_assoc]
  rw [parts, readStart_end]

/-- The reader finds the table at its offset. -/
theorem readTable_end {front : List Char} (offsets : List Nat) :
    readTable (front ++ fileEnd offsets front.length) front.length =
      some (offsets, " /Root 1 0 R >>\n".toList ++ ("startxref\n".toList ++
        (writeNat front.length ++ "\n%%EOF\n".toList))) := by
  have parts : fileEnd offsets front.length = "xref\n0 ".toList ++
      (writeNat (offsets.length + 1) ++ ("\n0000000000 65535 f \n".toList ++
        (offsets.flatMap entry ++ ("trailer\n<< /Size ".toList ++
          (writeNat (offsets.length + 1) ++ (" /Root 1 0 R >>\n".toList ++
            ("startxref\n".toList ++ (writeNat front.length ++ "\n%%EOF\n".toList)))))))) := by
    unfold fileEnd
    simp only [List.append_assoc]
  unfold readTable
  rw [List.drop_left, parts, expect_append, Option.bind_some,
    readNumber_write _ (by intro c h; cases h; rfl), Option.bind_some]
  dsimp only
  rw [expect_append, Option.bind_some, Nat.add_sub_cancel, readEntries_entries, Option.bind_some]
  dsimp only
  rw [expect_append, Option.bind_some, readNumber_write _ (by intro c h; cases h; rfl),
    Option.bind_some]
  dsimp only
  rw [if_pos rfl]

/-! ## Objects -/

theorem writeObjects_length (objectId position : Nat) (objects : List (List Char)) :
    (writeObjects objectId position objects).2.length = objects.length := by
  induction objects generalizing objectId position with
  | nil => rfl
  | cons object rest inductionHypothesis =>
    rw [writeObjects, List.length_cons, List.length_cons, inductionHypothesis]

/-- Each object is written at the offset that is kept for it. -/
theorem writeObjects_at {objectId position index : Nat} {objects : List (List Char)}
    {object : List Char} (found : objects[index]? = some object) :
    ∃ front back, (writeObjects objectId position objects).1 =
        front ++ (objectText (objectId + index) object ++ back) ∧
      (writeObjects objectId position objects).2[index]? = some (position + front.length) := by
  induction objects generalizing objectId position index with
  | nil => cases found
  | cons first rest inductionHypothesis =>
    rw [writeObjects]
    cases index with
    | zero =>
      obtain rfl := Option.some.inj found
      exact ⟨[], _, rfl, rfl⟩
    | succ index =>
      obtain ⟨front, back, written, kept⟩ := @inductionHypothesis (objectId + 1)
        (position + (objectText objectId first).length) index found
      refine ⟨objectText objectId first ++ front, back, ?_, ?_⟩
      · dsimp only
        rw [written, List.append_assoc, Nat.add_assoc, Nat.add_comm 1 index]
      · dsimp only
        rw [List.getElem?_cons_succ, kept, List.length_append, Nat.add_assoc]

/-- The reader finds an object, with its own end behind it. -/
def Finds (bytes : List Char) (offsets : List Nat) (objectId : Nat) (object : List Char) : Prop :=
  ∃ back, objectAt bytes offsets objectId = some (object ++ ("\nendobj\n".toList ++ back))

/-- The reader finds every object of a file under its number. -/
theorem finds_object {start behind : List Char} {objects : List (List Char)} {index : Nat}
    {object : List Char} (found : objects[index]? = some object) :
    Finds (start ++ (writeObjects 1 start.length objects).1 ++ behind)
      (writeObjects 1 start.length objects).2 (index + 1) object := by
  obtain ⟨front, back, written, kept⟩ :=
    @writeObjects_at 1 start.length index objects object found
  refine ⟨back ++ behind, ?_⟩
  have whole : start ++ (writeObjects 1 start.length objects).1 ++ behind =
      (start ++ front) ++ ((writeNat (index + 1) ++ " 0 obj\n".toList) ++
        (object ++ ("\nendobj\n".toList ++ (back ++ behind)))) := by
    rw [written, objectText, Nat.add_comm 1 index]
    simp only [List.append_assoc]
  unfold objectAt
  rw [if_neg (Nat.succ_ne_zero index), Nat.add_sub_cancel, kept, Option.bind_some, whole,
    ← List.length_append, List.drop_left, expect_append]

section
variable {bytes : List Char} {offsets : List Nat}

/-- A stream is read to the end its length names. -/
theorem readStream_found {contentId : Nat} {stream : List Char}
    (found : Finds bytes offsets contentId (contentObject stream)) :
    readStream bytes offsets contentId = some stream := by
  obtain ⟨back, at_⟩ := found
  have parts : contentObject stream ++ ("\nendobj\n".toList ++ back) = "<< /Length ".toList ++
      (writeNat stream.length ++ (" >>\nstream\n".toList ++ (stream ++
        ("\nendstream\nendobj\n".toList ++ back)))) := by
    unfold contentObject
    simp only [List.append_assoc]
    rfl
  unfold readStream
  rw [at_, parts, Option.bind_some, expect_append, Option.bind_some,
    readNumber_write _ (by intro c h; cases h; rfl), Option.bind_some]
  dsimp only
  rw [expect_append, Option.bind_some, List.drop_left, expect_append, List.take_left]
  rfl

/-- A page leads to its stream. -/
theorem readPage_found {pageId contentId : Nat} {stream : List Char}
    (page : Finds bytes offsets pageId (pageObject contentId))
    (content : Finds bytes offsets contentId (contentObject stream)) :
    readPage bytes offsets pageId = some stream := by
  obtain ⟨back, at_⟩ := page
  have parts : pageObject contentId ++ ("\nendobj\n".toList ++ back) =
      pageStart ++ (writeNat contentId ++ (" 0 R >>\nendobj\n".toList ++ back)) := by
    unfold pageObject
    simp only [List.append_assoc]
    rfl
  unfold readPage
  rw [at_, parts, Option.bind_some, expect_append, Option.bind_some,
    readNumber_write _ (by intro c h; cases h; rfl), Option.bind_some]
  exact readStream_found content

/-- The kids lead to the streams of the pages, in order. -/
theorem readPages_found {pageId : Nat} {pages : List (List (List Char))}
    (found : ∀ index object, (pageObjects pageId pages)[index]? = some object →
      Finds bytes offsets (pageId + index) object) :
    (pageIds pageId pages).mapM (readPage bytes offsets) = some (pages.map pdfPageStream) := by
  induction pages generalizing pageId with
  | nil => rfl
  | cons pageLines rest inductionHypothesis =>
    have page : readPage bytes offsets pageId = some (pdfPageStream pageLines) :=
      readPage_found (found 0 _ rfl) (found 1 _ rfl)
    have later := @inductionHypothesis (pageId + 2) fun index object same => by
      have next := found (index + 2) object same
      rwa [Nat.add_comm index 2, ← Nat.add_assoc] at next
    rw [pageIds, List.mapM_cons, page, later]
    rfl

/-- References are read up to the bracket behind them. -/
theorem readReferences_references {ids : List Nat} (some_ : ids ≠ []) (rest : List Char)
    {rounds : Nat} (enough : ids.length ≤ rounds) :
    readReferences rounds ([' '].intercalate (ids.map reference) ++ ']' :: rest) =
      some (ids, ']' :: rest) := by
  induction ids generalizing rounds with
  | nil => exact absurd rfl some_
  | cons id ids inductionHypothesis =>
    obtain ⟨rounds, rfl⟩ : ∃ fewer, rounds = fewer + 1 :=
      ⟨rounds - 1, by rw [List.length_cons] at enough; omega⟩
    cases ids with
    | nil =>
      have parts : [' '].intercalate ([id].map reference) ++ ']' :: rest =
          writeNat id ++ (" 0 R".toList ++ ']' :: rest) := by
        rw [List.map_singleton, List.intercalate_singleton, reference, List.append_assoc]
      rw [parts, readReferences, readNumber_write _ (by intro c h; cases h; rfl), Option.bind_some]
      dsimp only
      rw [expect_append, Option.bind_some]
      rfl
    | cons next ids =>
      have parts : [' '].intercalate ((id :: next :: ids).map reference) ++ ']' :: rest =
          writeNat id ++ (" 0 R".toList ++ ([' '] ++
            ([' '].intercalate ((next :: ids).map reference) ++ ']' :: rest))) := by
        rw [List.map_cons, List.map_cons, List.intercalate_cons_cons, reference]
        simp only [List.append_assoc]
      have fewer : (next :: ids).length ≤ rounds := Nat.le_of_succ_le_succ enough
      have later := inductionHypothesis (List.cons_ne_nil next ids) fewer
      rw [parts, readReferences, readNumber_write _ (by intro c h; cases h; rfl), Option.bind_some]
      dsimp only
      rw [expect_append, Option.bind_some, expect_append]
      dsimp only
      rw [later]
      rfl

end

/-! ## Texts -/

theorem hexDigit_read {digit : Nat} (small : digit < 16) :
    hexValue (PdfExport.hexDigit digit) = some digit ∧ PdfExport.hexDigit digit ≠ '>' ∧
      PdfExport.hexDigit digit ≠ '\n' := by
  revert digit
  decide

/-- Four digits stand for their unit. -/
theorem readUnits_hex {units : List Nat} (small : ∀ unit ∈ units, unit < 0x10000) :
    readUnits (units.flatMap unitHex) = some units := by
  induction units with
  | nil => rfl
  | cons unit rest inductionHypothesis =>
    have bound := small unit List.mem_cons_self
    have digit : ∀ value : Nat, hexValue (PdfExport.hexDigit (value % 16)) = some (value % 16) :=
      fun value => (hexDigit_read (Nat.mod_lt value (by decide))).1
    rw [List.flatMap_cons, unitHex]
    simp only [List.cons_append, List.nil_append, readUnits, digit, Option.bind_some,
      inductionHypothesis fun other member => small other (List.mem_cons_of_mem _ member),
      Option.map_some, Option.some.injEq, List.cons.injEq, and_true]
    omega

/-- A character is a value below the surrogates or above them. -/
theorem character_codes (character : Char) :
    character.toNat < 0xd800 ∨ 0xdfff < character.toNat ∧ character.toNat < 0x110000 := by
  have valid := character.valid
  unfold UInt32.isValidChar Nat.isValidChar at valid
  exact valid

theorem utf16Units_small (character : Char) : ∀ unit ∈ utf16Units character, unit < 0x10000 := by
  have codes := character_codes character
  unfold utf16Units
  split
  · intro unit member
    rw [List.mem_singleton.mp member]
    assumption
  · intro unit member
    simp only [List.mem_cons, List.not_mem_nil, or_false] at member
    rcases member with same | same
    · rw [same]
      omega
    · rw [same]
      omega

/-- The units of a text stand for its characters. -/
theorem readCharacters_units (text : List Char) :
    readCharacters (text.flatMap utf16Units) = some text := by
  induction text with
  | nil => rfl
  | cons character rest inductionHypothesis =>
    have codes := character_codes character
    rw [List.flatMap_cons, utf16Units]
    split
    · rw [List.singleton_append, readCharacters.eq_def]
      dsimp only
      rw [if_neg (by omega), inductionHypothesis, Option.map_some, Char.ofNat_toNat]
    · rename_i large
      have same : 0x10000 + (0xd800 + (character.toNat - 0x10000) / 0x400 - 0xd800) * 0x400 +
          (0xdc00 + (character.toNat - 0x10000) % 0x400 - 0xdc00) = character.toNat := by
        omega
      rw [List.cons_append, List.singleton_append, readCharacters.eq_def]
      dsimp only
      rw [if_pos (by omega)]
      rw [inductionHypothesis, Option.map_some, same, Char.ofNat_toNat]

/-- The digits of a text are neither a bracket nor a line break. -/
theorem pdfTextHex_digits {line : List Char} {character : Char}
    (member : character ∈ pdfTextHex line) : character ≠ '>' ∧ character ≠ '\n' := by
  obtain ⟨unit, _, inside⟩ := List.mem_flatMap.mp member
  have digit : ∀ value : Nat, PdfExport.hexDigit (value % 16) ≠ '>' ∧
      PdfExport.hexDigit (value % 16) ≠ '\n' :=
    fun value => (hexDigit_read (Nat.mod_lt value (by decide))).2
  unfold unitHex at inside
  simp only [List.mem_cons, List.not_mem_nil, or_false] at inside
  rcases inside with rfl | rfl | rfl | rfl
  · exact digit _
  · exact digit _
  · exact digit _
  · exact digit _

/-- The command that shows a line. -/
def showCommand (line : List Char) : List Char := '<' :: (pdfTextHex line ++ "> Tj".toList)

/-- The text that is shown for a line is read back. -/
theorem shownText_show (line : List Char) : shownText (showCommand line) = some (cleaned line) := by
  have all : ∀ character ∈ pdfTextHex line, decide (character ≠ '>') = true :=
    fun character member => decide_eq_true (pdfTextHex_digits member).1
  have units : ∀ unit ∈ (cleaned line).flatMap utf16Units, unit < 0x10000 := by
    intro unit member
    obtain ⟨character, _, inside⟩ := List.mem_flatMap.mp member
    exact utf16Units_small character unit inside
  have taken : (pdfTextHex line ++ "> Tj".toList).takeWhile (· ≠ '>') = pdfTextHex line := by
    rw [List.takeWhile_append_of_pos all]
    exact List.append_nil _
  have dropped : (pdfTextHex line ++ "> Tj".toList).dropWhile (· ≠ '>') = "> Tj".toList := by
    rw [List.dropWhile_append_of_pos all]
    rfl
  have word := expect_append "> Tj".toList []
  rw [List.append_nil] at word
  rw [showCommand, shownText, dropped, word, Option.bind_some, taken, pdfTextHex,
    readUnits_hex units, Option.bind_some, readCharacters_units]

/-- The commands show each line once, in order. -/
theorem shownTexts_commands (lines : List (List Char)) :
    (showCommands lines).filterMap shownText = lines.map cleaned ∧
      ∀ command ∈ showCommands lines, '\n' ∉ command := by
  have shown : ∀ line : List Char, '\n' ∉ showCommand line := by
    intro line member
    rcases List.mem_cons.mp member with same | later
    · exact absurd same (by decide)
    · rcases List.mem_append.mp later with digits | mark
      · exact (pdfTextHex_digits digits).2 rfl
      · exact absurd mark (by decide)
  have moves : ∀ rest : List (List Char),
      (rest.flatMap fun line => ["T*".toList, showCommand line]).filterMap shownText =
        rest.map cleaned := by
    intro rest
    induction rest with
    | nil => rfl
    | cons line rest inductionHypothesis =>
      have none_ : shownText "T*".toList = none := rfl
      rw [List.flatMap_cons, List.filterMap_append, inductionHypothesis, List.map_cons,
        List.filterMap_cons_none none_, List.filterMap_cons_some (shownText_show line)]
      rfl
  cases lines with
  | nil =>
    refine ⟨rfl, fun command member => ?_⟩
    cases member
  | cons line rest =>
    constructor
    · rw [showCommands]
      exact (List.filterMap_cons_some (shownText_show line)).trans
        (congrArg (cleaned line :: ·) (moves rest))
    · intro command member
      rcases List.mem_cons.mp member with rfl | later
      · exact shown line
      · obtain ⟨other, _, inside⟩ := List.mem_flatMap.mp later
        simp only [List.mem_cons, List.not_mem_nil, or_false] at inside
        rcases inside with rfl | rfl
        · decide
        · exact shown other

/-- The stream of a page shows its lines. -/
theorem shownTexts_page (lines : List (List Char)) :
    shownTexts (pdfPageStream lines) = lines.map cleaned := by
  obtain ⟨shows, unbroken⟩ := shownTexts_commands lines
  have split : (pdfPageStream lines).splitOn '\n' =
      ["BT".toList, "/F1 10 Tf".toList, "14 TL".toList, "72 740 Td".toList] ++
        showCommands lines ++ ["ET".toList] := by
    unfold pdfPageStream
    refine List.splitOn_intercalate _ (fun command member => ?_)
      (List.append_ne_nil_of_right_ne_nil _ (List.cons_ne_nil _ _))
    rcases List.mem_append.mp member with front | last
    · rcases List.mem_append.mp front with start | inside
      · simp only [List.mem_cons, List.not_mem_nil, or_false] at start
        rcases start with rfl | rfl | rfl | rfl
        · decide
        · decide
        · decide
        · decide
      · exact unbroken command inside
    · rw [List.mem_singleton.mp last]
      decide
  have first : ["BT".toList, "/F1 10 Tf".toList, "14 TL".toList,
      "72 740 Td".toList].filterMap shownText = [] := rfl
  have last : ["ET".toList].filterMap shownText = [] := rfl
  unfold shownTexts
  rw [split, List.filterMap_append, List.filterMap_append, first, last, shows, List.nil_append,
    List.append_nil]

/-! ## The whole file -/

/-- The pages have the lines in order. -/
theorem pagesOf_flatten {lines : List (List Char)} (some_ : lines ≠ []) :
    (pagesOf lines).flatten = lines := by
  have cut : ∀ count : Nat, ((List.range count).map fun page =>
      (lines.drop (46 * page)).take 46).flatten = lines.take (46 * count) := by
    intro count
    induction count with
    | zero => rfl
    | succ count inductionHypothesis =>
      rw [List.range_succ, List.map_append, List.flatten_append, inductionHypothesis,
        List.map_singleton, List.flatten_singleton, Nat.mul_succ, List.take_add]
  have long := List.length_pos_of_ne_nil some_
  have pages : (List.range ((lines.length + 45) / 46)).map (fun page =>
      (lines.drop (46 * page)).take 46) ≠ [] := by
    intro none
    have := congrArg List.length none
    simp only [List.length_map, List.length_range, List.length_nil] at this
    omega
  unfold pagesOf
  dsimp only
  rw [if_neg pages, cut, List.take_of_length_le (by omega)]

/-- `lines or default` has a line. -/
theorem or_ne_nil {Line : Type} {lines default : List Line} (some_ : default ≠ []) :
    (if lines = [] then default else lines) ≠ [] := by
  split
  · exact some_
  · assumption

theorem pagesOf_ne_nil (lines : List (List Char)) : pagesOf lines ≠ [] :=
  or_ne_nil (List.cons_ne_nil _ _)

/-- A report has a line. -/
theorem wrappedPlainLines_ne_nil (markdown title : List Char) (width : Nat) :
    wrappedPlainLines markdown title width ≠ [] := by
  have plain : plainMarkdownLines markdown title ≠ [] := or_ne_nil (List.cons_ne_nil _ _)
  obtain ⟨line, rest, same⟩ := List.exists_cons_of_ne_nil plain
  unfold wrappedPlainLines
  rw [same, List.flatMap_cons]
  apply List.append_ne_nil_of_left_ne_nil
  by_cases empty : line = []
  · rw [if_pos empty]
    exact List.cons_ne_nil _ _
  · rw [if_neg empty]
    exact or_ne_nil (List.cons_ne_nil _ _)

theorem pageIds_length (pageId : Nat) (pages : List (List (List Char))) :
    (pageIds pageId pages).length = pages.length := by
  induction pages generalizing pageId with
  | nil => rfl
  | cons pageLines rest inductionHypothesis =>
    rw [pageIds, List.length_cons, List.length_cons, inductionHypothesis]

/-- References take at least a character each. -/
theorem references_length (ids : List Nat) :
    ids.length ≤ ([' '].intercalate (ids.map reference)).length := by
  have reference_some : ∀ id : Nat, 0 < (reference id).length := fun id =>
    List.length_pos_of_ne_nil (List.append_ne_nil_of_right_ne_nil _ (by decide))
  induction ids with
  | nil => exact Nat.zero_le _
  | cons id ids inductionHypothesis =>
    have first := reference_some id
    cases ids with
    | nil =>
      rw [List.map_singleton, List.intercalate_singleton]
      exact first
    | cons next ids =>
      rw [List.map_cons, List.map_cons, List.intercalate_cons_cons, ← List.map_cons,
        List.length_append, List.length_append, List.length_cons]
      omega

/-- The kids are the pages, and their count is their number. -/
theorem readKids_found {bytes : List Char} {offsets ids : List Nat} (some_ : ids ≠ [])
    (found : Finds bytes offsets 2 (pagesObject ids)) :
    readKids bytes offsets 2 = some ids := by
  obtain ⟨back, at_⟩ := found
  have parts : pagesObject ids ++ ("\nendobj\n".toList ++ back) =
      "<< /Type /Pages /Kids [".toList ++ ([' '].intercalate (ids.map reference) ++
        ']' :: (" /Count ".toList ++ (writeNat ids.length ++
          (" >>\nendobj\n".toList ++ back)))) := by
    unfold pagesObject
    simp only [List.append_assoc]
    rfl
  have enough : ids.length ≤ ([' '].intercalate (ids.map reference) ++
      ']' :: (" /Count ".toList ++ (writeNat ids.length ++
        (" >>\nendobj\n".toList ++ back)))).length := by
    rw [List.length_append]
    exact Nat.le_trans (references_length ids) (Nat.le_add_right _ _)
  unfold readKids
  rw [at_, parts, Option.bind_some, expect_append, Option.bind_some,
    readReferences_references some_ _ enough, Option.bind_some]
  dsimp only
  have count : ']' :: (" /Count ".toList ++ (writeNat ids.length ++
      (" >>\nendobj\n".toList ++ back))) = "] /Count ".toList ++ (writeNat ids.length ++
        (" >>\nendobj\n".toList ++ back)) := rfl
  rw [count, expect_append, Option.bind_some, readNumber_write _ (by intro c h; cases h; rfl),
    Option.bind_some]
  dsimp only
  rw [if_pos rfl]

/-- The reader gets the lines of any file back as they are shown. -/
theorem readPdf_pdfOf {lines : List (List Char)} (some_ : lines ≠ []) :
    readPdf (pdfOf lines) = some (lines.map cleaned) := by
  generalize pagesIs : pagesOf lines = pages
  generalize writtenIs : writeObjects 1 fileStart.length (objects pages) = written
  generalize bytesIs : pdfOf lines = bytes
  have whole : bytes = fileStart ++ written.1 ++
      fileEnd written.2 (fileStart ++ written.1).length := by
    rw [← bytesIs, pdfOf, pagesIs, List.length_append]
    simp only [writtenIs]
  have finds : ∀ index object, (objects pages)[index]? = some object →
      Finds bytes written.2 (index + 1) object := by
    intro index object found
    rw [whole, ← writtenIs]
    exact @finds_object fileStart _ (objects pages) index object found
  have start : readStart bytes = some (fileStart ++ written.1).length := by
    rw [whole]
    exact readStart_fileEnd _ written.2 _
  have table := @readTable_end (fileStart ++ written.1) written.2
  rw [← whole] at table
  have length : written.2.length = (objects pages).length := by
    rw [← writtenIs]
    exact writeObjects_length 1 _ _
  have holds : tableHolds bytes written.2 = true := by
    refine List.all_eq_true.mpr fun index inside => ?_
    have within : index < (objects pages).length := length ▸ List.mem_range.mp inside
    obtain ⟨back, found⟩ := finds index _ (List.getElem?_eq_getElem within)
    rw [found]
    rfl
  have ids : pageIds 5 pages ≠ [] := by
    apply List.ne_nil_of_length_pos
    rw [pageIds_length, ← pagesIs]
    exact List.length_pos_of_ne_nil (pagesOf_ne_nil lines)
  obtain ⟨back, catalog⟩ := finds 0 _ rfl
  have kids := readKids_found ids (finds 1 _ rfl)
  have streams := @readPages_found bytes written.2 5 pages fun index object found => by
    rw [Nat.add_comm 5 index]
    exact finds (index + 4) object found
  have root : " /Root 1 0 R >>\n".toList =
      " /Root ".toList ++ (writeNat 1 ++ " 0 R >>\n".toList) := by
    decide
  have pagesId : "<< /Type /Catalog /Pages 2 0 R >>".toList =
      "<< /Type /Catalog /Pages ".toList ++ (writeNat 2 ++ " 0 R >>".toList) := by
    decide
  have shown : (pages.map pdfPageStream).flatMap shownTexts = lines.map cleaned := by
    calc (pages.map pdfPageStream).flatMap shownTexts
        = (pages.map fun page => shownTexts (pdfPageStream page)).flatten := by
          rw [List.flatMap_def, List.map_map]
          rfl
      _ = (pages.map (List.map cleaned)).flatten := by
          rw [List.map_congr_left fun page _ => shownTexts_page page]
      _ = lines.map cleaned := by
          rw [← List.map_flatten, ← pagesIs, pagesOf_flatten some_]
  unfold readPdf
  rw [start, Option.bind_some, table, Option.bind_some]
  dsimp only
  rw [if_pos holds, root]
  simp only [List.append_assoc]
  rw [expect_append, Option.bind_some, readNumber_write _ (by intro c h; cases h; rfl),
    Option.bind_some]
  dsimp only
  rw [catalog, Option.bind_some, pagesId]
  simp only [List.append_assoc]
  rw [expect_append, Option.bind_some, readNumber_write _ (by intro c h; cases h; rfl),
    Option.bind_some]
  dsimp only
  rw [kids, Option.bind_some, streams, Option.map_some, shown]

/-- The PDF of every report and title is read back: the reader's checks of the table, the
objects, the lengths and the kids succeed, and the texts of the pages are the wrapped plain
lines in order, each control character but the tab shown as a blank. -/
theorem report_pdf_reads_back (reportMarkdown title : List Char) :
    readPdf (buildTextPdfBytes reportMarkdown title) =
      some ((wrappedPlainLines reportMarkdown title 86).map cleaned) :=
  readPdf_pdfOf (wrappedPlainLines_ne_nil reportMarkdown title 86)

/-- A control character in a report is not read back: it is shown as a blank. -/
theorem control_character_is_lost :
    wrappedPlainLines ['\x01'] [] 86 = [['\x01']] ∧
      readPdf (buildTextPdfBytes ['\x01'] []) = some [[' ']] := by
  have lines : wrappedPlainLines ['\x01'] [] 86 = [['\x01']] := by decide +kernel
  refine ⟨lines, ?_⟩
  rw [buildTextPdfBytes, readPdf_pdfOf (wrappedPlainLines_ne_nil _ _ _), lines]
  rfl

end MeetYou.PdfReading
