import Mathlib.Data.Prod.Lex
import Mathlib.Data.String.Basic
import MeetYou.Foundation.Groups
import MeetYou.Foundation.JsonText
import MeetYou.Foundation.SpacedWords
import MeetYou.ResearchReports

/-!
# Evidence of a research run

The sources a run gathers are grouped by what they have in common, a checksum, a URL or their text,
and the best source of each group goes into the ledger. The sources of the program's own run are
numbered anew by their rank. Those of an external run keep their ids, which its report cites
already.
-/

namespace MeetYou.ResearchEvidence

open ResearchTasks ResearchReports Groups

/-! ## Texts of values -/

/-- The parts of a URL that are looked at. -/
structure UrlParts where
  scheme : String
  netloc : String
  path : String
  query : String

/-- The functions of the language on values that are no texts, on capitals and on URLs, and the
clock. `strFloat` is only asked for floats that are no small whole numbers; `numeric` is
`round(float(value), 2)`, unless that raises or gives no number. -/
structure Outside where
  str : Json → String
  strFloat : Rat → String
  numeric : Json → Option Rat
  lower : String → String
  urlparse : String → Option UrlParts
  parseQsl : String → List (String × String)
  urlencode : List (String × String) → String
  urlunparse : UrlParts → String
  now : String

/-- `item.get(name)` -/
def entry (item : Fields) (name : String) : Json := (item.get name).getD .null

/-- `first or second or ...` -/
def firstTruthy (values : List Json) : Json := (values.find? Json.truthy).getD .null

/-- `str(number)` of a count. -/
def numberText (number : Nat) : String := String.ofList (JsonText.writeNat number)

/-- `text[:limit]` -/
def cutTo (limit : Nat) (text : String) : String := String.ofList (text.toList.take limit)

/-- `" ".join(text.split())` -/
def joinWords (text : String) : String :=
  String.ofList ([' '].intercalate (Text.wordsOf text.toList))

/-- `int(value)`; none where it raises. -/
def intOf : Json → Option Int
  | .bool value => some (if value then 1 else 0)
  | .num value => some (if 0 ≤ value then value.floor else value.ceil)
  | .str value => Text.intOfText value
  | _ => none

section
variable (outside : Outside)

/-- `_excerpt` -/
def excerpt (value : Json) (limit : Nat) : String :=
  cutTo limit (joinWords (textOr outside.str value))

/-- `_compact_key` -/
def compactKey (value : Json) (limit : Nat) : String :=
  cutTo limit (Text.collapse (outside.lower (Text.strip (textOr outside.str value))))

/-- A parameter of a query that only follows where a reader came from. -/
def isTracking (param : String × String) : Bool :=
  "utm_".toList.isPrefixOf (outside.lower param.1).toList ||
    decide (outside.lower param.1 ∈ ["fbclid", "gclid", "mc_cid", "mc_eid"])

/-- `_canonical_url`; none where `urlparse` raises. -/
def canonicalUrl (value : Json) : Option String :=
  let raw := Text.strip (textOr outside.str value)
  if raw = "" then some ""
  else
    (outside.urlparse raw).map fun parsed =>
      if parsed.scheme ∉ ["http", "https"] ∨ parsed.netloc = "" then ""
      else
        let params := (outside.parseQsl parsed.query).filter fun param =>
          !isTracking outside param
        let path := String.ofList (parsed.path.toList.rdropWhile fun character => character = '/')
        outside.urlunparse
          { scheme := outside.lower parsed.scheme
            netloc := outside.lower parsed.netloc
            path := if path = "" then "/" else path
            query := outside.urlencode
              (params.mergeSort fun param other => decide (toLex param ≤ toLex other)) }

/-- `_dedupe_key` -/
def dedupeKey (item : Fields) (index : Nat) : Option String :=
  let checksum := compactKey outside (entry item "checksum") 128
  let projectSourceId := compactKey outside (entry item "project_source_id") 128
  if checksum ≠ "" then some ("checksum:" ++ checksum)
  else if projectSourceId ≠ "" then some ("project_source:" ++ projectSourceId)
  else
    (canonicalUrl outside (firstTruthy [entry item "url", entry item "href"])).map fun url =>
      let title := compactKey outside
        (firstTruthy [entry item "title", entry item "source_title", entry item "name"]) 120
      let snippet := compactKey outside
        (firstTruthy [entry item "snippet", entry item "summary", entry item "content"]) 180
      if url ≠ "" then "url:" ++ url
      else if title ≠ "" ∨ snippet ≠ "" then "text:" ++ title ++ ":" ++ snippet
      else "source:" ++ numberText index

/-- `str(item.get(name) or "").strip().lower()` -/
def word (item : Fields) (name : String) : String :=
  outside.lower (Text.strip (textOr outside.str (entry item name)))

/-- `_quality_score`; every part of it is a whole number. -/
def qualityScore (item : Fields) : Int :=
  let verification := word outside item "verification_status"
  let sourceType := word outside item "source_type"
  let snippet := Text.strip (textOr outside.str (entry item "snippet"))
  (if verification = "project_source_snapshot" then 45
    else if verification ∈ ["fetched", "read"] then 40
    else if verification ∈ ["query_url", "search_result_only"] then -20 else 0) +
  (if sourceType = "project_source" then 20
    else if sourceType = "web_page" then 15
    else if sourceType = "academic_index" then 12 else 0) +
  (if word outside item "adapter" ∈ ["openalex", "semantic_scholar", "crossref", "arxiv"] then 4
    else 0) +
  (if (entry item "url").truthy then 3 else 0) +
  (if (entry item "title").truthy then 3 else 0) +
  (if (entry item "authors").truthy then 2 else 0) +
  (if (entry item "year").truthy ∨ (entry item "published_at").truthy then 2 else 0) +
  (if snippet ≠ "" then min 20 (max 1 ((snippet.toList.length : Int) / 80)) else -30)

/-! ## The sources of the program's own run -/

/-- A source with the entries that `_rank_and_dedupe_evidence` notes on it for a while. -/
structure Gathered where
  row : Fields
  inputIndex : Nat
  dedupeKey : String
  qualityScore : Int

/-- The sources with their keys and scores; none where a key raises. -/
def gathered (evidence : List Fields) : Option (List Gathered) :=
  evidence.zipIdx.mapM fun (item, index) =>
    (dedupeKey outside item index).map fun key => ⟨item, index, key, qualityScore outside item⟩

/-- The key that the sources of a group are sorted by. -/
def groupOrder (source : Gathered) : Lex (Int × Lex (Int × Int)) :=
  toLex (-source.qualityScore, toLex
    (-((textOr outside.str (entry source.row "snippet")).toList.length : Int), source.inputIndex))

/-- `str(row.get("source_id") or "")` -/
def sourceIdText (row : Fields) : String := textOr outside.str (entry row "source_id")

/-- The first source of a group, with what it stands for. -/
def mergedSource (key : String) (sources : List Gathered) : Option Gathered :=
  let rows := sources.mergeSort fun source other =>
    decide (groupOrder outside source ≤ groupOrder outside other)
  let originalIds := (rows.map fun source => sourceIdText outside source.row).filter fun id =>
    decide (Text.strip id ≠ "")
  rows.head?.map fun winner =>
    let row := (((winner.row.set "quality_score" (.num winner.qualityScore)).set "dedupe_key"
      (.str key)).set "duplicate_count" (.num rows.length)).set "merged_source_ids"
        (.arr (originalIds.map Json.str))
    let row := if 1 < rows.length then
        row.set "duplicate_source_ids" (.arr (originalIds.tail.map Json.str))
      else row
    { winner with row := row }

/-- A source with its rank as its id, without the notes. -/
def rankedRow (source : Gathered) (rank : Nat) : Fields :=
  let original := sourceIdText outside source.row
  let row := if original ≠ "" ∧ original ≠ numberText rank then
    source.row.set "original_source_id" (.str original) else source.row
  (((((row.set "source_id" (.str (numberText rank))).set "rank" (.num rank)).pop
    "_input_index").pop "_dedupe_key").pop "_quality_score")

/-- `_rank_and_dedupe_evidence` -/
def rankAndDedupeEvidence (evidence : List Fields) (maxSources : Int) : Option (List Fields) :=
  (gathered outside evidence).map fun sources =>
    let groups := (grouped Gathered.dedupeKey sources).entries
    let winners := (groups.filterMap fun group => mergedSource outside group.1 group.2).mergeSort
      fun source other => decide
        (toLex (-source.qualityScore, source.inputIndex) ≤
          toLex (-other.qualityScore, other.inputIndex))
    (winners.take maxSources.toNat).zipIdx.map fun (source, index) =>
      rankedRow outside source (index + 1)

/-! ## The sources of an external run -/

/-- `number_or_score` -/
def numberOrScore (value : Json) (default : Rat) : Json :=
  .num ((outside.numeric value).getD default)

/-- The first number from `next` on whose text is not used. The rounds are as many as it takes. -/
def freeNumber (used : List String) : Nat → Nat → Nat
  | 0, next => next
  | rounds + 1, next =>
      if numberText next ∈ used then freeNumber used rounds (next + 1) else next

/-- A row of the external evidence; none where a count raises. -/
def externalRow (provider sourceId : String) (rank : Nat) (item : Fields) : Option Fields :=
  let text (value : Json) : String := textOr outside.str value
  let title := Text.strip (text (firstTruthy [entry item "title", entry item "name", entry item "url",
    .str ("Source " ++ sourceId)]))
  let snippet := excerpt outside (firstTruthy [entry item "snippet", entry item "summary",
    entry item "content", entry item "description", .str title]) 1000
  (intOf (firstTruthy [entry item "duplicate_count", .num 1])).map fun duplicates =>
    Fields.of [("source_id", .str sourceId), ("rank", .num rank),
      ("quality_score", numberOrScore outside (entry item "quality_score") 50),
      ("duplicate_count", .num duplicates), ("merged_source_ids", .arr [.str sourceId]),
      ("source_type", .str (text (firstTruthy [entry item "source_type", entry item "kind",
        .str "external_research_source"]))),
      ("adapter", .str provider), ("title", .str title),
      ("url", .str (text (firstTruthy [entry item "url", entry item "href"]))),
      ("snippet", .str snippet),
      ("content_type", .str (text (firstTruthy [entry item "content_type", .str "text/plain"]))),
      ("verification_status", .str (text (firstTruthy [entry item "verification_status",
        .str "external_agent_reported"]))),
      ("fetched_at", .str (text (firstTruthy [entry item "fetched_at", entry item "retrieved_at",
        .str outside.now])))]

/-- The loop of `_external_evidence`. -/
def externalFrom (provider : String) (used : List String) (next rank : Nat) :
    List Json → Option (List Fields)
  | [] => some []
  | .obj pairs :: rest =>
      let item := Fields.of pairs
      let given := Text.strip (textOr outside.str
        (firstTruthy [entry item "source_id", entry item "id", entry item "citation_id"]))
      let taken := !Text.isdigit given || decide (given ∈ used)
      let number := if taken then freeNumber used (used.length + 1) next else next
      let sourceId := if taken then numberText number else given
      (externalRow outside provider sourceId rank item).bind fun row =>
        (externalFrom provider (sourceId :: used) (number + 1) (rank + 1) rest).map (row :: ·)
  | _ :: rest => externalFrom provider used next rank rest

/-- `_external_evidence` -/
def externalEvidence (provider : String) (result : Fields) : Option (List Fields) :=
  externalFrom outside provider [] 1 1
    (["sources", "evidence", "evidence_ledger", "citations"].flatMap fun name =>
      match result.get name with
      | some (.arr items) => items
      | _ => [])

/-- The key of an external source. -/
def externalKey (item : Fields) : Option String :=
  let url := Text.strip (textOr outside.str (entry item "url"))
  if url ≠ "" then (canonicalUrl outside (.str url)).map ("url:" ++ ·)
  else
    let title := joinWords (outside.lower (textOr outside.str (entry item "title")))
    let snippet := cutTo 180 (joinWords (outside.lower (textOr outside.str (entry item "snippet"))))
    some ("text:" ++ title ++ ":" ++ snippet)

/-- The ids of the rows of a group. -/
def mergedIds (rows : List Fields) : List String :=
  rows.foldl (fun ids row =>
    let sourceId := Text.strip (sourceIdText outside row)
    if sourceId ≠ "" ∧ sourceId ∉ ids then ids ++ [sourceId] else ids) []

/-- The first row of a ranked group, with what it stands for; none where its count raises. -/
def externalWinner (key : String) (rows : List Fields) : Option Fields :=
  rows.head?.bind fun first =>
    (intOf (firstTruthy [entry first "duplicate_count", .num 1])).map fun duplicates =>
      let ids := mergedIds outside rows
      ((first.set "dedupe_key" (.str key)).set "duplicate_count"
        (.num (max duplicates rows.length : Int))).set "merged_source_ids"
          (.arr ((if ids = [] then [sourceIdText outside first] else ids).map Json.str))

/-- `_dedupe_external_evidence_preserving_ids` -/
def dedupeExternalEvidencePreservingIds (evidence : List Fields) : Option (List Fields) :=
  (evidence.mapM fun item => (externalKey outside item).map (·, item)).bind fun keyed =>
    ((grouped Prod.fst keyed).entries.mapM fun group =>
      externalWinner outside group.1
        (ranked (qualityScore outside) (group.2.map Prod.snd))).map fun winners =>
          (ranked (qualityScore outside) winners).zipIdx.map fun (row, index) =>
            row.set "rank" (.num (index + 1 : Nat))

end

end MeetYou.ResearchEvidence
