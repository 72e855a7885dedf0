import MeetYou.Foundation.JsonText
import MeetYou.Foundation.SpacedWords
import MeetYou.Foundation.TextLines

/-!
# The PDF of a report

The lines of a report are wrapped and cut into pages of 46. A page is an object with its
content behind it: a stream that shows each line as a hexadecimal text. The objects are
written one after the other, each at the offset that the table behind them names.

A byte of the file is the character of its code. The texts have no lone surrogates.
-/

namespace MeetYou.PdfExport

open JsonText Text TextLines

/-! ## Lines -/

/-- A link that starts here: its label, its address and the text behind it. -/
def matchLink : List Char → Option (List Char × List Char × List Char)
  | '[' :: text =>
    match text.dropWhile (· ≠ ']') with
    | ']' :: '(' :: more =>
      match more.dropWhile (· ≠ ')') with
      | ')' :: rest =>
        if text.takeWhile (· ≠ ']') = [] ∨ more.takeWhile (· ≠ ')') = [] then none
        else some (text.takeWhile (· ≠ ']'), more.takeWhile (· ≠ ')'), rest)
      | _ => none
    | _ => none
  | _ => none

/-- `_MARKDOWN_LINK_RE.sub(r"\1 (\2)", text)`; each round takes a character or a link. -/
def subLinks : Nat → List Char → List Char
  | 0, text => text
  | _ + 1, [] => []
  | rounds + 1, character :: rest =>
    match matchLink (character :: rest) with
    | some (label, address, behind) =>
      label ++ [' ', '('] ++ address ++ [')'] ++ subLinks rounds behind
    | none => character :: subLinks rounds rest

/-- `_clean_markdown_inline` -/
def cleanMarkdownInline (text : List Char) : List Char :=
  let value := (subLinks text.length text).filter fun character => character ∉ ['*', '_', '\x60']
  [' '].intercalate (wordsOf value)

/-- The text of a line that a mark and white space start. -/
def behindMark (marked : List Char → Option (List Char)) (stripped : List Char) :
    Option (List Char) :=
  (marked stripped).bind fun rest =>
    match rest with
    | character :: _ => if isSpace character then some (rest.dropWhile isSpace) else none
    | [] => none

/-- One to six number signs. -/
def headingMark (stripped : List Char) : Option (List Char) :=
  let signs := stripped.takeWhile (· = '#')
  if 1 ≤ signs.length ∧ signs.length ≤ 6 then some (stripped.dropWhile (· = '#')) else none

/-- A dash or a star begins a bullet. -/
def bulletMark : List Char → Option (List Char)
  | '-' :: rest => some rest
  | '*' :: rest => some rest
  | _ => none

/-- The plain text of one line of a report. -/
def plainLine (rawLine : List Char) : List Char :=
  let stripped := trim rawLine
  if stripped = [] then []
  else match behindMark headingMark stripped with
    | some heading => cleanMarkdownInline heading
    | none => match behindMark bulletMark stripped with
      | some bullet => '-' :: ' ' :: cleanMarkdownInline bullet
      | none => cleanMarkdownInline stripped

/-- `_plain_markdown_lines` -/
def plainMarkdownLines (markdown title : List Char) : List (List Char) :=
  let lines := (if title = [] then [] else [trim title, []]) ++
    (splitlinesFrom [] markdown).map plainLine
  if lines = [] then [[]] else lines

/-- `_wrapped_plain_lines` -/
def wrappedPlainLines (markdown title : List Char) (width : Nat) : List (List Char) :=
  (plainMarkdownLines markdown title).flatMap fun line =>
    if line = [] then [[]]
    else
      let wrapped := wrap (max 20 (if width = 0 then 86 else width)) line
      if wrapped = [] then [[]] else wrapped

/-! ## Texts -/

/-- The text that is shown for a line: a control character is shown as a blank. -/
def cleaned (text : List Char) : List Char :=
  text.map fun character => if 32 ≤ character.toNat ∨ character = '\t' then character else ' '

/-- The units of a character in UTF-16. -/
def utf16Units (character : Char) : List Nat :=
  if character.toNat < 0x10000 then [character.toNat]
  else [0xd800 + (character.toNat - 0x10000) / 0x400, 0xdc00 + (character.toNat - 0x10000) % 0x400]

/-- The character of a digit to the base sixteen. -/
def hexDigit (digit : Nat) : Char :=
  if digit < 10 then Char.ofNat (48 + digit) else Char.ofNat (55 + digit)

/-- The two bytes of a unit, the higher one first, as hexadecimal digits. -/
def unitHex (unit : Nat) : List Char :=
  [hexDigit (unit / 0x1000 % 16), hexDigit (unit / 0x100 % 16), hexDigit (unit / 0x10 % 16),
    hexDigit (unit % 16)]

/-- `_pdf_text_hex` -/
def pdfTextHex (text : List Char) : List Char :=
  ((cleaned text).flatMap utf16Units).flatMap unitHex

/-- The commands that show the lines of a page. -/
def showCommands : List (List Char) → List (List Char)
  | [] => []
  | line :: rest =>
    ('<' :: (pdfTextHex line ++ "> Tj".toList)) ::
      rest.flatMap fun line => ["T*".toList, '<' :: (pdfTextHex line ++ "> Tj".toList)]

/-- `_pdf_page_stream` -/
def pdfPageStream (lines : List (List Char)) : List Char :=
  ['\n'].intercalate (["BT".toList, "/F1 10 Tf".toList, "14 TL".toList, "72 740 Td".toList] ++
    showCommands lines ++ ["ET".toList])

/-! ## Objects -/

/-- The lines of each page. -/
def pagesOf (lines : List (List Char)) : List (List (List Char)) :=
  let pages := (List.range ((lines.length + 45) / 46)).map fun page =>
    (lines.drop (46 * page)).take 46
  if pages = [] then [[[]]] else pages

/-- The object of a page's content, with its length. -/
def contentObject (stream : List Char) : List Char :=
  "<< /Length ".toList ++ writeNat stream.length ++ " >>\nstream\n".toList ++ stream ++
    "\nendstream".toList

/-- What every page begins with. -/
def pageStart : List Char :=
  ("<< /Type /Page /Parent 2 0 R /MediaBox [0 0 612 792] " ++
    "/Resources << /Font << /F1 3 0 R >> >> /Contents ").toList

/-- The object of a page. -/
def pageObject (contentId : Nat) : List Char :=
  pageStart ++ writeNat contentId ++ " 0 R >>".toList

/-- The objects of the pages from an object id on: each page with its content behind it. -/
def pageObjects : Nat → List (List (List Char)) → List (List Char)
  | _, [] => []
  | pageId, pageLines :: rest =>
    pageObject (pageId + 1) :: contentObject (pdfPageStream pageLines) ::
      pageObjects (pageId + 2) rest

/-- The ids of the pages. -/
def pageIds : Nat → List (List (List Char)) → List Nat
  | _, [] => []
  | pageId, _ :: rest => pageId :: pageIds (pageId + 2) rest

/-- A reference to an object. -/
def reference (id : Nat) : List Char := writeNat id ++ " 0 R".toList

/-- The object that lists the pages. -/
def pagesObject (ids : List Nat) : List Char :=
  "<< /Type /Pages /Kids [".toList ++ [' '].intercalate (ids.map reference) ++
    "] /Count ".toList ++ writeNat ids.length ++ " >>".toList

/-- The objects in the order of their ids, the first one with id 1. -/
def objects (pages : List (List (List Char))) : List (List Char) :=
  "<< /Type /Catalog /Pages 2 0 R >>".toList ::
    pagesObject (pageIds 5 pages) ::
    ("<< /Type /Font /Subtype /Type0 /BaseFont /STSong-Light " ++
      "/Encoding /UniGB-UCS2-H /DescendantFonts [4 0 R] >>").toList ::
    ("<< /Type /Font /Subtype /CIDFontType0 /BaseFont /STSong-Light " ++
      "/CIDSystemInfo << /Registry (Adobe) /Ordering (GB1) /Supplement 2 >> /DW 1000 >>").toList ::
    pageObjects 5 pages

/-! ## The file -/

/-- The first lines of the file. -/
def fileStart : List Char := "%PDF-1.4\n%\xE2\xE3\xCF\xD3\n".toList

/-- An object with its number. -/
def objectText (objectId : Nat) (object : List Char) : List Char :=
  writeNat objectId ++ " 0 obj\n".toList ++ object ++ "\nendobj\n".toList

/-- The loop over the objects: what it writes, and the offset of each object. -/
def writeObjects : Nat → Nat → List (List Char) → List Char × List Nat
  | _, _, [] => ([], [])
  | objectId, position, object :: rest =>
    let text := objectText objectId object
    let more := writeObjects (objectId + 1) (position + text.length) rest
    (text ++ more.1, position :: more.2)

/-- An offset with at least ten digits. -/
def padded (offset : Nat) : List Char :=
  List.replicate (10 - (writeNat offset).length) '0' ++ writeNat offset

/-- An entry of the table of offsets. -/
def entry (offset : Nat) : List Char := padded offset ++ " 00000 n \n".toList

/-- The cross-reference table and what follows it. -/
def fileEnd (offsets : List Nat) (xrefOffset : Nat) : List Char :=
  let size := writeNat (offsets.length + 1)
  "xref\n0 ".toList ++ size ++ "\n0000000000 65535 f \n".toList ++ offsets.flatMap entry ++
    "trailer\n<< /Size ".toList ++ size ++ " /Root 1 0 R >>\n".toList ++
    "startxref\n".toList ++ writeNat xrefOffset ++ "\n%%EOF\n".toList

/-- The bytes for the lines of a report. -/
def pdfOf (lines : List (List Char)) : List Char :=
  let written := writeObjects 1 fileStart.length (objects (pagesOf lines))
  fileStart ++ written.1 ++ fileEnd written.2 (fileStart.length + written.1.length)

/-- `build_text_pdf_bytes` -/
def buildTextPdfBytes (reportMarkdown title : List Char) : List Char :=
  pdfOf (wrappedPlainLines reportMarkdown title 86)

end MeetYou.PdfExport
