import Mathlib.Data.Rat.Defs
import Mathlib.Algebra.Order.Ring.Unbundled.Rat
import Mathlib.Data.String.Basic
import Mathlib.Data.List.Dedup
import Mathlib.Data.List.Sort
import Mathlib.Algebra.Ring.Rat
import MeetYou.Foundation.PairedEdges
import MeetYou.Foundation.Text
import MeetYou.Foundation.Values

/-!
# The memory store

The memory keeps records and edges between them. Episodes are what was said; profiles
and facts are durable and name the records they come from. An upsert of a profile or a
fact is prepared from the store, waits for the embedding of its text, and is then carried
out on the store as it is by that time. It updates an active record, or adds one and may
invalidate the profile it contradicts.

Similarities and the decay of a strength are values of the measures; only comparisons of
them matter here. Each record also carries what it was built from, which the program does
not store.
-/

namespace MeetYou.MemoryStore

/-! ## Records and edges -/

/-- The kinds of records. -/
inductive Kind
  | episode
  | fact
  | profile
  deriving DecidableEq

/-- The statuses of a record. -/
inductive Status
  | active
  | invalidated
  | deleted
  deriving DecidableEq

/-- A record; an empty embedding is none, and a missing key or value is blank. `origins`
is not stored: the records whose contents this one was built from. -/
structure Record (Embedding : Type) where
  id : String
  kind : Kind
  user : String
  session : String
  content : String
  embedding : Option Embedding
  embeddingModel : String
  strength : Rat
  importance : Rat
  confidence : Rat
  createdAt : Instant
  lastUpdatedAt : Instant
  status : Status
  tags : List String
  sourceRecordIds : List String
  factKey : String
  factValue : String
  origins : List String

/-- What an edge says of its two records. -/
structure Relation where
  semanticSim : Rat := 0
  sameEntity : Bool := false
  sameProject : Bool := false
  derivedFrom : Bool := false
  contradicts : Bool := false

/-- An edge that is upserted again says both. -/
def Relation.join (earlier given : Relation) : Relation where
  semanticSim := max earlier.semanticSim given.semanticSim
  sameEntity := earlier.sameEntity || given.sameEntity
  sameProject := earlier.sameProject || given.sameProject
  derivedFrom := earlier.derivedFrom || given.derivedFrom
  contradicts := earlier.contradicts || given.contradicts

/-- An edge between two records. -/
abbrev Edge := PairedEdges.Edge String Relation

/-- The records and the edges between them. -/
structure Store (Embedding : Type) where
  records : List (Record Embedding)
  edges : List Edge

/-- What the store takes from outside: the similarity of two embeddings, a half to the
power of a number, lower case, the characters of a word, and the model in use. -/
structure Measures (Embedding : Type) where
  cosine : Embedding → Embedding → Rat
  halving : Rat → Rat
  lower : String → String
  isWord : Char → Bool
  embeddingModel : String

/-- `dt_to_iso` keeps whole seconds. -/
def stamp (now : Instant) : Instant := now - now % 1000000

def longTermEdgeSimThreshold : Rat := 78 / 100
def longTermMergeSimThreshold : Rat := 92 / 100
def conflictConfidenceThreshold : Rat := 7 / 10
def invalidatedRetentionDays : Rat := 30
def minEffectiveStrength : Rat := 5 / 100

/-- `HALF_LIFE_DAYS`. -/
def halfLifeDays : Kind → Rat
  | .profile => 180
  | .fact => 90
  | .episode => 14

/-- The days from one instant to another, none of them negative. -/
def daysBetween (earlier later : Instant) : Rat := max (((later - earlier : Int) : Rat) / 86400000000) 0

/-- A value within two bounds. -/
def clamp (value low high : Rat) : Rat := max low (min high value)

/-- `sorted(set(first) | set(second))`. -/
def unionIds (first second : List String) : List String :=
  ((first ++ second).dedup).insertionSort (· ≤ ·)

@[simp] theorem mem_unionIds {first second : List String} {id : String} :
    id ∈ unionIds first second ↔ id ∈ first ∨ id ∈ second := by
  rw [unionIds, (List.perm_insertionSort _ _).mem_iff, List.mem_dedup, List.mem_append]

/-- The tag of an episode that is still to be consolidated. -/
def pendingTag : String := "pending_consolidation"

/-- `EXPLICIT_REMEMBER_TAG`. -/
def rememberTag : String := "remember_knowledge"

section
variable {Embedding : Type}

/-- `episode_pending`. -/
def Record.pending (record : Record Embedding) : Prop :=
  record.kind = .episode ∧ pendingTag ∈ record.tags

instance (record : Record Embedding) : Decidable record.pending :=
  inferInstanceAs (Decidable (_ ∧ _))

/-- `_is_explicit_memory`. -/
def Record.remembered (record : Record Embedding) : Prop := rememberTag ∈ record.tags

instance (record : Record Embedding) : Decidable record.remembered :=
  inferInstanceAs (Decidable (_ ∈ _))

namespace Store

/-- A store without records. -/
def empty : Store Embedding := ⟨[], []⟩

/-- The ids of the records. -/
def ids (store : Store Embedding) : List String := store.records.map Record.id

/-- `record_by_id`. -/
def recordById (store : Store Embedding) (id : String) : Option (Record Embedding) :=
  store.records.find? fun record => record.id = id

/-- Change a record of the store in place. -/
def revise (store : Store Embedding) (target : Record Embedding)
    (change : Record Embedding → Record Embedding) : Store Embedding :=
  { store with
    records := store.records.map fun record =>
      if record.id = target.id ∧ record.kind = target.kind ∧ record.user = target.user then
        change record
      else record }

/-- A record is added behind the others. -/
def append (store : Store Embedding) (record : Record Embedding) : Store Embedding :=
  { store with records := store.records ++ [record] }

/-- `upsert_edge`. -/
def upsertEdge (store : Store Embedding) (left right : String) (given : Relation) :
    Store Embedding :=
  if left = "" ∨ right = "" then store
  else { store with edges := PairedEdges.upsert store.edges left right given (·.join given) }

/-- `delete_records`. -/
def deleteRecords (store : Store Embedding) (ids : List String) : Store Embedding where
  records := store.records.filter fun record => record.id ∉ ids
  edges := PairedEdges.remove store.edges ids

/-- The edges from a record to those it was derived from. -/
def derive (store : Store Embedding) (id : String) (sourceIds : List String) : Store Embedding :=
  sourceIds.foldl (fun store sourceId => store.upsertEdge id sourceId { derivedFrom := true }) store

/-- `semantic_edge_candidates`. -/
def semanticEdgeCandidates (store : Store Embedding) (record : Record Embedding) :
    List (Record Embedding) :=
  store.records.filter fun other =>
    other.id ≠ record.id ∧ other.status = .active ∧ other.embeddingModel = record.embeddingModel ∧
      other.embedding.isSome ∧ other.user ∈ [record.user, "global"]

end Store

/-- `_calc_cosine`; an empty vector has the similarity zero. -/
def similarity (measures : Measures Embedding) (first second : Option Embedding) : Rat :=
  match first, second with
  | some one, some other => measures.cosine one other
  | _, _ => 0

/-- The similarity from which on a record is linked to another. -/
def linkThreshold (kind : Kind) : Rat :=
  if kind = .episode then 75 / 100 else longTermEdgeSimThreshold

/-- `link_semantic_edges`. -/
def Store.linkSemanticEdges (measures : Measures Embedding) (store : Store Embedding)
    (record : Record Embedding) : Store Embedding :=
  if record.embedding.isNone then store
  else (store.semanticEdgeCandidates record).foldl (fun store other =>
    let sim := similarity measures record.embedding other.embedding
    if linkThreshold record.kind ≤ sim then
      store.upsertEdge record.id other.id { semanticSim := sim }
    else store) store

/-- `effective_strength`. -/
def effectiveStrength (measures : Measures Embedding) (record : Record Embedding) (now : Instant) :
    Rat :=
  record.strength * measures.halving (daysBetween record.createdAt now / halfLifeDays record.kind)

/-- The records `prune_records` keeps. -/
def Record.keeps (measures : Measures Embedding) (record : Record Embedding) (now : Instant) :
    Prop :=
  if record.status = .invalidated then
    daysBetween record.lastUpdatedAt now < invalidatedRetentionDays
  else record.kind = .profile ∨ minEffectiveStrength ≤ effectiveStrength measures record now

instance (measures : Measures Embedding) (record : Record Embedding) (now : Instant) :
    Decidable (record.keeps measures now) := by
  unfold Record.keeps
  infer_instance

/-- `prune_records`. -/
def Store.pruneRecords (measures : Measures Embedding) (store : Store Embedding) (now : Instant) :
    Store Embedding :=
  let removed := (store.records.filter fun record => ¬ record.keeps measures now).map Record.id
  { records := store.records.filter fun record => record.keeps measures now
    edges := PairedEdges.remove store.edges removed }

/-! ## Upserts -/

/-- An entry of `profile_upserts` or `fact_upserts`. -/
structure Payload where
  content : String
  factKey : String
  factValue : String
  confidence : Rat
  sourceRecordIds : List String

/-- An upsert that waits for the embedding of its content: a fact, or a profile with a
key. -/
structure Upsert where
  kind : Kind
  durable : kind ≠ .episode
  user : String
  content : String
  factKey : String
  factValue : String
  confidence : Rat
  sourceIds : List String
  origins : List String
  keyed : kind = .profile → factKey ≠ ""

/-- `_canonicalize`. -/
def canonicalize (measures : Measures Embedding) (text : String) : String :=
  measures.lower (Text.collapse (Text.strip text))

/-- `text.strip(": ")`. -/
def stripColons (text : String) : String :=
  let blank := fun character => character = ':' || character = ' '
  String.ofList ((text.toList.dropWhile blank).rdropWhile blank)

/-- The source ids of a payload that name records of the store. -/
def Store.sourceIds (store : Store Embedding) (payload : Payload) : List String :=
  payload.sourceRecordIds.filter fun id => (store.recordById id).isSome

/-- `apply_profile_upsert` in front of its embedding. -/
def profileUpsert (store : Store Embedding) (user : String) (payload : Payload)
    (origins : List String) : Option Upsert :=
  let factKey := Text.strip payload.factKey
  let factValue := Text.strip payload.factValue
  let sourceIds := store.sourceIds payload
  if missing : factKey = "" ∨ factValue = "" ∨ sourceIds = [] then none
  else some
    { kind := .profile, durable := by decide, user := user,
      content := factKey ++ ": " ++ factValue, factKey := factKey, factValue := factValue,
      confidence := payload.confidence, sourceIds := sourceIds, origins := origins,
      keyed := fun _ blank => missing (.inl blank) }

/-- The content of a fact. -/
def factContent (payload : Payload) : String :=
  let content := Text.strip payload.content
  let factKey := Text.strip payload.factKey
  let factValue := Text.strip payload.factValue
  if content = "" ∧ (factKey ≠ "" ∨ factValue ≠ "") then stripColons (factKey ++ ": " ++ factValue)
  else content

/-- `apply_fact_upsert` in front of its embedding. -/
def factUpsert (store : Store Embedding) (user : String) (payload : Payload)
    (origins : List String) : Option Upsert :=
  let content := factContent payload
  let sourceIds := store.sourceIds payload
  if content = "" ∨ sourceIds = [] then none
  else some
    { kind := .fact, durable := by decide, user := user, content := content,
      factKey := Text.strip payload.factKey, factValue := Text.strip payload.factValue,
      confidence := payload.confidence, sourceIds := sourceIds, origins := origins,
      keyed := fun profile => by cases profile }

/-- The upsert of a payload. -/
def prepare (store : Store Embedding) (kind : Kind) (user : String) (payload : Payload)
    (origins : List String) : Option Upsert :=
  if kind = .profile then profileUpsert store user payload origins
  else factUpsert store user payload origins

/-- `average_importance` of the sources that are still there. -/
def averageImportance (store : Store Embedding) (sourceIds : List String) : Rat :=
  let sources := sourceIds.filterMap store.recordById
  if sources = [] then 6 / 10
  else (sources.map fun record => if record.importance = 0 then 6 / 10 else record.importance).sum /
    sources.length

/-- The importance of an upserted record. -/
def importanceOf (store : Store Embedding) (sourceIds : List String) : Rat :=
  clamp (averageImportance store sourceIds) (2 / 10) 1

/-- The record an upsert adds. -/
def newRecord (measures : Measures Embedding) (upsert : Upsert) (embedding : Embedding)
    (importance : Rat) (now : Instant) (id : String) : Record Embedding where
  id := id
  kind := upsert.kind
  user := upsert.user
  session := ""
  content := upsert.content
  embedding := some embedding
  embeddingModel := measures.embeddingModel
  strength := if upsert.kind = .profile then 72 / 100 else 68 / 100
  importance := importance
  confidence := upsert.confidence
  createdAt := stamp now
  lastUpdatedAt := stamp now
  status := .active
  tags := []
  sourceRecordIds := upsert.sourceIds
  factKey := upsert.factKey
  factValue := upsert.factValue
  origins := upsert.origins

/-- The record an upsert updates, afterwards. A profile keeps its key and value. -/
def updated (measures : Measures Embedding) (upsert : Upsert) (embedding : Embedding)
    (importance : Rat) (now : Instant) (existing : Record Embedding) : Record Embedding :=
  { existing with
    content := upsert.content
    embedding := some embedding
    embeddingModel := measures.embeddingModel
    factKey := if upsert.kind = .profile ∨ upsert.factKey = "" then existing.factKey
      else upsert.factKey
    factValue := if upsert.kind = .profile ∨ upsert.factValue = "" then existing.factValue
      else upsert.factValue
    importance := max existing.importance importance
    confidence := max existing.confidence upsert.confidence
    lastUpdatedAt := stamp now
    sourceRecordIds := unionIds existing.sourceRecordIds upsert.sourceIds
    origins := unionIds existing.origins upsert.origins }

/-- A record that is no longer in force. -/
def invalidate (now : Instant) (record : Record Embedding) : Record Embedding :=
  { record with status := .invalidated, lastUpdatedAt := stamp now }

/-- The record is updated and linked. -/
def Store.update (measures : Measures Embedding) (store : Store Embedding) (upsert : Upsert)
    (embedding : Embedding) (now : Instant) (existing : Record Embedding) : Store Embedding :=
  let change := updated measures upsert embedding (importanceOf store upsert.sourceIds) now
  ((store.revise existing change).linkSemanticEdges measures (change existing)).derive existing.id
    upsert.sourceIds

/-- The edge from a new record to the one it meets. -/
def Store.relate (store : Store Embedding) (existing : Option (Record Embedding)) (id : String)
    (relation : Relation) : Store Embedding :=
  match existing with
  | some record => store.upsertEdge record.id id relation
  | none => store

/-- A record is added and linked. -/
def Store.add (measures : Measures Embedding) (store : Store Embedding) (upsert : Upsert)
    (embedding : Embedding) (now : Instant) (id : String) (existing : Option (Record Embedding))
    (relation : Relation) : Store Embedding :=
  let record := newRecord measures upsert embedding (importanceOf store upsert.sourceIds) now id
  ((((store.append record).linkSemanticEdges measures record).relate existing id relation).derive id
    upsert.sourceIds)

/-- The active profile of the user under the key. -/
def Store.profileOf (store : Store Embedding) (user factKey : String) :
    Option (Record Embedding) :=
  store.records.find? fun record =>
    record.kind = .profile ∧ record.status = .active ∧ record.user = user ∧
      record.factKey = factKey

/-- `apply_profile_upsert` behind its embedding, and whether it applied. -/
def applyProfileUpsert (measures : Measures Embedding) (store : Store Embedding) (upsert : Upsert)
    (embedding : Embedding) (now : Instant) (id : String) : Store Embedding × Bool :=
  match store.profileOf upsert.user upsert.factKey with
  | none => (store.add measures upsert embedding now id none {}, true)
  | some existing =>
      if canonicalize measures existing.factValue = canonicalize measures upsert.factValue then
        (store.update measures upsert embedding now existing, true)
      else if upsert.confidence < conflictConfidenceThreshold then (store, false)
      else ((store.revise existing (invalidate now)).add measures upsert embedding now id
        (some existing) { contradicts := true }, true)

/-- How close an active fact is to an upsert. -/
def closeness (measures : Measures Embedding) (upsert : Upsert) (embedding : Embedding)
    (record : Record Embedding) : Rat :=
  let semantic := similarity measures record.embedding (some embedding)
  let keyed := if record.factKey ≠ "" ∧ upsert.factKey ≠ "" ∧ record.factKey = upsert.factKey then
    max semantic (98 / 100) else semantic
  if canonicalize measures record.content = canonicalize measures upsert.content then max keyed 1
  else keyed

/-- The closest active fact of the user, and how close it is. -/
def bestMatch (measures : Measures Embedding) (store : Store Embedding) (upsert : Upsert)
    (embedding : Embedding) : Option (Record Embedding) × Rat :=
  (store.records.filter fun record =>
      record.kind = .fact ∧ record.status = .active ∧ record.user = upsert.user).foldl
    (fun best record =>
      let close := closeness measures upsert embedding record
      if best.2 < close then (some record, close) else best)
    (none, 0)

/-- `apply_fact_upsert` behind its embedding, and whether it applied. -/
def applyFactUpsert (measures : Measures Embedding) (store : Store Embedding) (upsert : Upsert)
    (embedding : Embedding) (now : Instant) (id : String) : Store Embedding × Bool :=
  let best := bestMatch measures store upsert embedding
  match best.1 with
  | none => (store.add measures upsert embedding now id none {}, true)
  | some existing =>
      if longTermMergeSimThreshold ≤ best.2 then
        (store.update measures upsert embedding now existing, true)
      else
        let related := if longTermEdgeSimThreshold ≤ best.2 then some existing else none
        (store.add measures upsert embedding now id related { semanticSim := best.2 }, true)

/-- The upsert behind its embedding; an empty one applies nothing. -/
def carryOut (measures : Measures Embedding) (store : Store Embedding) (upsert : Upsert)
    (embedding : Option Embedding) (now : Instant) (id : String) : Store Embedding × Bool :=
  match embedding with
  | none => (store, false)
  | some embedding =>
      if upsert.kind = .profile then applyProfileUpsert measures store upsert embedding now id
      else applyFactUpsert measures store upsert embedding now id

/-! ## What was to be remembered -/

/-- `REMEMBER_CATEGORY_TAG_PREFIX`. -/
def rememberCategoryTag : String := "remember_category:"

/-- `_remember_category`. -/
def rememberCategory (measures : Measures Embedding) (record : Record Embedding) : String :=
  match record.tags.find? fun tag => rememberCategoryTag.toList.isPrefixOf (Text.strip tag).toList
  with
  | some tag => measures.lower (Text.strip (String.ofList
      ((Text.strip tag).toList.drop rememberCategoryTag.length)))
  | none => ""

/-- `explicit_memory_text`. -/
def explicitMemoryText (measures : Measures Embedding) (record : Record Embedding) : String :=
  let content := Text.strip record.content
  let front := content.toList.takeWhile (· ≠ ':')
  let behind := (content.toList.dropWhile (· ≠ ':')).drop 1
  let label := (measures.lower (Text.strip (String.ofList front))).toList
  let text := Text.strip (String.ofList behind)
  if ':' ∈ content.toList ∧ text ≠ "" ∧
      (["durable ", "ongoing ", "user commitment"].any fun word => word.toList.isPrefixOf label)
  then text
  else content

/-- `_tokens`. -/
def tokens (measures : Measures Embedding) (text : String) : List (List Char) :=
  (text.toList.splitOnP fun character => !measures.isWord character).filter (· ≠ [])

/-- `fallback_key`. -/
def fallbackKey (measures : Measures Embedding) (label text : String) : String :=
  let joined := List.intercalate ['_'] ((tokens measures (canonicalize measures text)).take 6)
  let slug := ((joined.dropWhile (· = '_')).rdropWhile (· = '_')).take 48
  if slug = [] then label else label ++ "_" ++ String.ofList slug

/-- `PROFILE_CATEGORIES`. -/
def profileCategories : List String := ["profile", "preference", "relationship"]

/-- `apply_explicit_memory_record` in front of its embedding. -/
def explicitUpsert (measures : Measures Embedding) (store : Store Embedding) (user : String)
    (record : Record Embedding) : Option Upsert :=
  let named := rememberCategory measures record
  let category := if named = "" then "fact" else named
  let text := explicitMemoryText measures record
  let factKey := fallbackKey measures category text
  if text = "" then none
  else if category ∈ profileCategories then
    profileUpsert store user ⟨"", factKey, text, 88 / 100, [record.id]⟩ [record.id]
  else factUpsert store user ⟨text, factKey, "", 88 / 100, [record.id]⟩ [record.id]

/-! ## Long-term merging -/

/-- The left record is not behind the right one. -/
def notBehind (left right : Record Embedding) : Prop :=
  if left.confidence ≠ right.confidence then right.confidence < left.confidence
  else if left.importance ≠ right.importance then right.importance < left.importance
  else if left.lastUpdatedAt ≠ right.lastUpdatedAt then right.lastUpdatedAt < left.lastUpdatedAt
  else right.content.length ≤ left.content.length

instance (left right : Record Embedding) : Decidable (notBehind left right) := by
  unfold notBehind
  infer_instance

/-- `_merge_target_for_pair`. -/
def mergeTargetForPair (left right : Record Embedding) : Record Embedding × Record Embedding :=
  if notBehind left right then (left, right) else (right, left)

/-- The record that has taken another in. -/
def merged (now : Instant) (absorbed primary : Record Embedding) : Record Embedding :=
  let longer := primary.content.length < absorbed.content.length ∧
    max primary.confidence absorbed.confidence ≤ absorbed.confidence
  { primary with
    sourceRecordIds := unionIds primary.sourceRecordIds absorbed.sourceRecordIds
    strength := max primary.strength absorbed.strength
    importance := max primary.importance absorbed.importance
    confidence := max primary.confidence absorbed.confidence
    lastUpdatedAt := stamp now
    factKey := if primary.factKey = "" then absorbed.factKey else primary.factKey
    factValue := if primary.factValue = "" then absorbed.factValue else primary.factValue
    content := if longer then absorbed.content else primary.content
    embedding := if longer then absorbed.embedding else primary.embedding
    embeddingModel := if longer then absorbed.embeddingModel else primary.embeddingModel
    origins := unionIds primary.origins (absorbed.id :: absorbed.origins) }

/-- `_merge_long_term_records`. -/
def Store.mergeLongTermRecords (store : Store Embedding) (primary absorbed : Record Embedding)
    (sim : Rat) (now : Instant) : Store Embedding :=
  if primary.id = absorbed.id then store
  else ((store.revise primary (merged now absorbed)).revise absorbed (invalidate now)).upsertEdge
    primary.id absorbed.id { semanticSim := sim, derivedFrom := true }

/-- The records `consolidate_long_term_memory` compares. -/
def Record.longTerm (measures : Measures Embedding) (user : String) (record : Record Embedding) :
    Prop :=
  record.kind ≠ .episode ∧ record.status = .active ∧ record.user = user ∧
    record.embeddingModel = measures.embeddingModel ∧ record.embedding.isSome

instance (measures : Measures Embedding) (user : String) (record : Record Embedding) :
    Decidable (record.longTerm measures user) :=
  inferInstanceAs (Decidable (_ ∧ _))

/-- The pair may be merged. -/
def comparable (left right : Record Embedding) : Prop :=
  left.kind = right.kind ∧
    ¬ (left.kind = .profile ∧ left.factKey ≠ "" ∧ right.factKey ≠ "" ∧
      left.factKey ≠ right.factKey)

instance (left right : Record Embedding) : Decidable (comparable left right) :=
  inferInstanceAs (Decidable (_ ∧ _))

/-- One comparison of the two loops. -/
def Store.comparePair (measures : Measures Embedding) (store : Store Embedding)
    (left right : Record Embedding) (now : Instant) : Store Embedding :=
  if right.status = .active ∧ comparable left right then
    let sim := similarity measures left.embedding right.embedding
    if longTermMergeSimThreshold ≤ sim then
      store.mergeLongTermRecords (mergeTargetForPair left right).1
        (mergeTargetForPair left right).2 sim now
    else if longTermEdgeSimThreshold ≤ sim then
      store.upsertEdge left.id right.id { semanticSim := sim }
    else store
  else store

/-- The two loops of `consolidate_long_term_memory` over the ids of the compared records. -/
inductive Comparison
  | row (left : String)
  | pair (left right : String)

/-- Every record is compared with those behind it. -/
def comparisons : List String → List Comparison
  | [] => []
  | left :: rest => .row left :: rest.map (.pair left) ++ comparisons rest

/-- The comparisons for the user. -/
def Store.comparisonsOf (measures : Measures Embedding) (store : Store Embedding) (user : String) :
    List Comparison :=
  comparisons ((store.records.filter fun record => record.longTerm measures user).map Record.id)

/-! ## What an upsert does -/

namespace Store

@[simp] theorem upsertEdge_records (store : Store Embedding) (left right : String)
    (given : Relation) : (store.upsertEdge left right given).records = store.records := by
  unfold upsertEdge
  split <;> rfl

@[simp] theorem derive_records (store : Store Embedding) (id : String) (sourceIds : List String) :
    (store.derive id sourceIds).records = store.records := by
  unfold derive
  induction sourceIds generalizing store with
  | nil => rfl
  | cons sourceId rest inductionHypothesis =>
    rw [List.foldl_cons, inductionHypothesis, upsertEdge_records]

@[simp] theorem linkSemanticEdges_records (measures : Measures Embedding)
    (store : Store Embedding) (record : Record Embedding) :
    (store.linkSemanticEdges measures record).records = store.records := by
  unfold linkSemanticEdges
  split
  · rfl
  · generalize store.semanticEdgeCandidates record = candidates
    induction candidates generalizing store with
    | nil => rfl
    | cons other rest inductionHypothesis =>
      rw [List.foldl_cons, inductionHypothesis]
      dsimp only
      split
      · exact upsertEdge_records ..
      · rfl

@[simp] theorem relate_records (store : Store Embedding) (existing : Option (Record Embedding))
    (id : String) (relation : Relation) :
    (store.relate existing id relation).records = store.records := by
  unfold relate
  split
  · exact upsertEdge_records ..
  · rfl

@[simp] theorem upsertEdge_ids (store : Store Embedding) (left right : String)
    (given : Relation) : (store.upsertEdge left right given).ids = store.ids := by
  simp [ids]

@[simp] theorem linkSemanticEdges_ids (measures : Measures Embedding) (store : Store Embedding)
    (record : Record Embedding) : (store.linkSemanticEdges measures record).ids = store.ids := by
  simp [ids]

@[simp] theorem relate_ids (store : Store Embedding) (existing : Option (Record Embedding))
    (id : String) (relation : Relation) :
    (store.relate existing id relation).ids = store.ids := by
  simp [ids]

theorem update_records (measures : Measures Embedding) (store : Store Embedding) (upsert : Upsert)
    (embedding : Embedding) (now : Instant) (existing : Record Embedding) :
    (store.update measures upsert embedding now existing).records =
      (store.revise existing (updated measures upsert embedding
        (importanceOf store upsert.sourceIds) now)).records := by
  simp [update]

theorem add_records (measures : Measures Embedding) (store : Store Embedding) (upsert : Upsert)
    (embedding : Embedding) (now : Instant) (id : String) (existing : Option (Record Embedding))
    (relation : Relation) :
    (store.add measures upsert embedding now id existing relation).records =
      store.records ++ [newRecord measures upsert embedding (importanceOf store upsert.sourceIds)
        now id] := by
  simp [add, append]

/-- A record that a revision does not aim at stays. -/
theorem mem_revise_of_ne {store : Store Embedding} {target record : Record Embedding}
    {change : Record Embedding → Record Embedding} (member : record ∈ store.records)
    (other : ¬ (record.id = target.id ∧ record.kind = target.kind ∧ record.user = target.user)) :
    record ∈ (store.revise target change).records :=
  List.mem_map.mpr ⟨record, member, if_neg other⟩

/-- The records behind a revision were there, or are changed ones. -/
theorem mem_revise {store : Store Embedding} {target record : Record Embedding}
    {change : Record Embedding → Record Embedding}
    (member : record ∈ (store.revise target change).records) :
    record ∈ store.records ∨ ∃ before ∈ store.records, record = change before ∧
      before.id = target.id ∧ before.kind = target.kind ∧ before.user = target.user := by
  obtain ⟨before, there, rfl⟩ := List.mem_map.mp member
  split
  · rename_i aimed
    exact .inr ⟨before, there, rfl, aimed⟩
  · exact .inl there

end Store

/-- The closest fact is an active one of the user. -/
theorem bestMatch_mem {measures : Measures Embedding} {store : Store Embedding} {upsert : Upsert}
    {embedding : Embedding} {best : Record Embedding}
    (found : (bestMatch measures store upsert embedding).1 = some best) :
    best ∈ store.records ∧ best.kind = .fact ∧ best.status = .active ∧ best.user = upsert.user := by
  have among : ∀ (candidates : List (Record Embedding)) (start : Option (Record Embedding) × Rat),
      (candidates.foldl (fun best record =>
        if best.2 < closeness measures upsert embedding record then
          (some record, closeness measures upsert embedding record) else best) start).1 = some best →
        best ∈ candidates ∨ start.1 = some best := by
    intro candidates
    induction candidates with
    | nil => exact fun start found => .inr found
    | cons candidate rest inductionHypothesis =>
      intro start found
      rcases inductionHypothesis _ found with later | here
      · exact .inl (List.mem_cons_of_mem _ later)
      · dsimp only at here
        split at here
        · exact .inl (Option.some.inj here ▸ List.mem_cons_self)
        · exact .inr here
  rcases among _ _ found with member | start
  · obtain ⟨listed, active⟩ := List.mem_filter.mp member
    exact ⟨listed, of_decide_eq_true active⟩
  · cases start

/-- The profile an upsert meets is an active one of the user under its key. -/
theorem profileOf_mem {store : Store Embedding} {user factKey : String} {record : Record Embedding}
    (found : store.profileOf user factKey = some record) :
    record ∈ store.records ∧ record.kind = .profile ∧ record.status = .active ∧
      record.user = user ∧ record.factKey = factKey :=
  ⟨List.mem_of_find?_eq_some found, of_decide_eq_true (List.find?_some found :)⟩

/-- A prepared upsert is for the user, of sources that are in the store. -/
structure Prepared (store : Store Embedding) (user : String) (named origins : List String)
    (upsert : Upsert) : Prop where
  user : upsert.user = user
  sources : upsert.sourceIds = named.filter fun id => (store.recordById id).isSome
  origins : upsert.origins = origins

theorem profileUpsert_prepared {store : Store Embedding} {user : String} {payload : Payload}
    {origins : List String} {upsert : Upsert}
    (prepared : profileUpsert store user payload origins = some upsert) :
    Prepared store user payload.sourceRecordIds origins upsert := by
  unfold profileUpsert at prepared
  dsimp only at prepared
  split at prepared
  · cases prepared
  · obtain rfl := Option.some.inj prepared
    exact ⟨rfl, rfl, rfl⟩

theorem factUpsert_prepared {store : Store Embedding} {user : String} {payload : Payload}
    {origins : List String} {upsert : Upsert}
    (prepared : factUpsert store user payload origins = some upsert) :
    Prepared store user payload.sourceRecordIds origins upsert := by
  unfold factUpsert at prepared
  dsimp only at prepared
  obtain ⟨_, made⟩ := Option.ite_none_left_eq_some.mp prepared
  obtain rfl := Option.some.inj made
  exact ⟨rfl, rfl, rfl⟩

theorem prepare_prepared {store : Store Embedding} {kind : Kind} {user : String}
    {payload : Payload} {origins : List String} {upsert : Upsert}
    (prepared : prepare store kind user payload origins = some upsert) :
    Prepared store user payload.sourceRecordIds origins upsert := by
  unfold prepare at prepared
  split at prepared
  · exact profileUpsert_prepared prepared
  · exact factUpsert_prepared prepared

theorem explicitUpsert_prepared {measures : Measures Embedding} {store : Store Embedding}
    {user : String} {record : Record Embedding} {upsert : Upsert}
    (prepared : explicitUpsert measures store user record = some upsert) :
    Prepared store user [record.id] [record.id] upsert := by
  unfold explicitUpsert at prepared
  dsimp only at prepared
  obtain ⟨_, rest⟩ := Option.ite_none_left_eq_some.mp prepared
  -- the names of the category and the text are of no account here
  generalize rememberCategory measures record = named at rest
  generalize explicitMemoryText measures record = text at rest
  by_cases profile : (if named = "" then "fact" else named) ∈ profileCategories
  · rw [if_pos profile] at rest
    exact profileUpsert_prepared rest
  · rw [if_neg profile] at rest
    exact factUpsert_prepared rest

/-- What an upsert does behind its embedding: nothing; or it updates an active record of
its kind and user; or it adds its record, to the store or to the one in which the profile
under its key is invalidated. -/
inductive CarriedOut (measures : Measures Embedding) (store : Store Embedding) (upsert : Upsert)
    (now : Instant) (id : String) : Option Embedding → Store Embedding × Bool → Prop
  | refused (embedding : Option Embedding) :
      CarriedOut measures store upsert now id embedding (store, false)
  | updates (embedding : Embedding) (existing : Record Embedding)
      (member : existing ∈ store.records) (kind : existing.kind = upsert.kind)
      (active : existing.status = .active) (user : existing.user = upsert.user) :
      CarriedOut measures store upsert now id (some embedding)
        (store.update measures upsert embedding now existing, true)
  | adds (embedding : Embedding) (related : Option (Record Embedding)) (relation : Relation)
      (member : ∀ record, related = some record → record ∈ store.records)
      (first : upsert.kind = .profile → store.profileOf upsert.user upsert.factKey = none) :
      CarriedOut measures store upsert now id (some embedding)
        (store.add measures upsert embedding now id related relation, true)
  | displaces (embedding : Embedding) (existing : Record Embedding)
      (found : store.profileOf upsert.user upsert.factKey = some existing)
      (kind : upsert.kind = .profile) :
      CarriedOut measures store upsert now id (some embedding)
        ((store.revise existing (invalidate now)).add measures upsert embedding now id
          (some existing) { contradicts := true }, true)

theorem carryOut_cases (measures : Measures Embedding) (store : Store Embedding) (upsert : Upsert)
    (embedding : Option Embedding) (now : Instant) (id : String) :
    CarriedOut measures store upsert now id embedding
      (carryOut measures store upsert embedding now id) := by
  unfold carryOut
  split
  · exact .refused _
  rename_i embedding
  split
  · rename_i profile
    unfold applyProfileUpsert
    split
    · rename_i absent
      exact .adds embedding none {} (fun _ named => by cases named) fun _ => absent
    · rename_i existing found
      obtain ⟨member, kind, active, user, _⟩ := profileOf_mem found
      split
      · exact .updates embedding existing member (kind.trans profile.symm) active user
      split
      · exact .refused _
      · exact .displaces embedding existing found profile
  · rename_i other
    have fact : upsert.kind = .fact := by
      cases kind : upsert.kind with
      | episode => exact absurd kind upsert.durable
      | fact => rfl
      | profile => exact absurd kind other
    unfold applyFactUpsert
    dsimp only
    split
    · exact .adds embedding none {} (fun _ named => by cases named) fun profile =>
        absurd profile other
    · rename_i existing found
      obtain ⟨member, kind, active, user⟩ := bestMatch_mem found
      split
      · exact .updates embedding existing member (kind.trans fact.symm) active user
      · refine .adds embedding _ _ ?_ fun profile => absurd profile other
        intro record named
        split at named
        · exact Option.some.inj named ▸ member
        · cases named

/-- A revision that keeps ids keeps the ids of the store. -/
theorem Store.revise_ids {change : Record Embedding → Record Embedding}
    (keeps : ∀ record, (change record).id = record.id) (store : Store Embedding)
    (target : Record Embedding) : (store.revise target change).ids = store.ids := by
  unfold ids revise
  rw [List.map_map]
  apply List.map_congr_left
  intro record _
  simp only [Function.comp_apply]
  split
  · exact keeps record
  · rfl

@[simp] theorem updated_id (measures : Measures Embedding) (upsert : Upsert)
    (embedding : Embedding) (importance : Rat) (now : Instant) (record : Record Embedding) :
    (updated measures upsert embedding importance now record).id = record.id := rfl

@[simp] theorem invalidate_id (now : Instant) (record : Record Embedding) :
    (invalidate now record).id = record.id := rfl

@[simp] theorem merged_id (now : Instant) (absorbed primary : Record Embedding) :
    (merged now absorbed primary).id = primary.id := rfl

@[simp] theorem Store.update_ids (measures : Measures Embedding) (store : Store Embedding)
    (upsert : Upsert) (embedding : Embedding) (now : Instant) (existing : Record Embedding) :
    (store.update measures upsert embedding now existing).ids = store.ids := by
  unfold ids
  rw [update_records]
  exact revise_ids (updated_id measures upsert embedding _ now) store existing

@[simp] theorem Store.add_ids (measures : Measures Embedding) (store : Store Embedding)
    (upsert : Upsert) (embedding : Embedding) (now : Instant) (id : String)
    (existing : Option (Record Embedding)) (relation : Relation) :
    (store.add measures upsert embedding now id existing relation).ids = store.ids ++ [id] := by
  unfold ids
  rw [add_records, List.map_append]
  rfl

/-- An upsert adds at most its own id. -/
theorem carryOut_ids (measures : Measures Embedding) (store : Store Embedding) (upsert : Upsert)
    (embedding : Option Embedding) (now : Instant) (id : String) :
    (carryOut measures store upsert embedding now id).1.ids = store.ids ∨
      (carryOut measures store upsert embedding now id).1.ids = store.ids ++ [id] := by
  have does := carryOut_cases measures store upsert embedding now id
  generalize carryOut measures store upsert embedding now id = result at does
  cases does with
  | refused => exact .inl rfl
  | updates embedding existing => exact .inl (Store.update_ids ..)
  | adds embedding related relation => exact .inr (Store.add_ids ..)
  | displaces embedding existing =>
    right
    rw [Store.add_ids, Store.revise_ids (invalidate_id now)]

/-- An upsert leaves episodes and the records of other users alone. -/
theorem carryOut_keeps {measures : Measures Embedding} {store : Store Embedding} {upsert : Upsert}
    {embedding : Option Embedding} {now : Instant} {id : String} {record : Record Embedding}
    (member : record ∈ store.records) (apart : record.kind = .episode ∨ record.user ≠ upsert.user) :
    record ∈ (carryOut measures store upsert embedding now id).1.records := by
  have does := carryOut_cases measures store upsert embedding now id
  generalize carryOut measures store upsert embedding now id = result at does
  cases does with
  | refused => exact member
  | updates embedding existing _ kind _ user =>
    rw [Store.update_records]
    apply Store.mem_revise_of_ne member
    rintro ⟨_, sameKind, sameUser⟩
    rcases apart with episode | other
    · exact upsert.durable (kind.symm.trans (sameKind.symm.trans episode))
    · exact other (sameUser.trans user)
  | adds embedding related relation =>
    rw [Store.add_records]
    exact List.mem_append_left _ member
  | displaces embedding existing found =>
    obtain ⟨_, kind, _, user, _⟩ := profileOf_mem found
    rw [Store.add_records]
    apply List.mem_append_left
    apply Store.mem_revise_of_ne member
    rintro ⟨_, sameKind, sameUser⟩
    rcases apart with episode | other
    · rw [episode, kind] at sameKind
      cases sameKind
    · exact other (sameUser.trans user)

/-! ## What a comparison does -/

/-- A comparison leaves the records alone, or merges one of the pair into the other. -/
inductive Compared (store : Store Embedding) (left right : Record Embedding) (now : Instant) :
    Store Embedding → Prop
  | links (after : Store Embedding) (same : after.records = store.records) :
      Compared store left right now after
  | merges (primary absorbed : Record Embedding) (sim : Rat)
      (pair : (primary = left ∧ absorbed = right) ∨ (primary = right ∧ absorbed = left))
      (target : mergeTargetForPair left right = (primary, absorbed))
      (different : primary.id ≠ absorbed.id) :
      Compared store left right now
        (((store.revise primary (merged now absorbed)).revise absorbed (invalidate now)).upsertEdge
          primary.id absorbed.id { semanticSim := sim, derivedFrom := true })

theorem comparePair_cases (measures : Measures Embedding) (store : Store Embedding)
    (left right : Record Embedding) (now : Instant) :
    Compared store left right now (store.comparePair measures left right now) := by
  unfold Store.comparePair
  dsimp only
  split
  · split
    · unfold Store.mergeLongTermRecords
      split
      · exact .links store rfl
      · rename_i different
        refine .merges _ _ _ ?_ rfl different
        unfold mergeTargetForPair
        split
        · exact .inl ⟨rfl, rfl⟩
        · exact .inr ⟨rfl, rfl⟩
    · split
      · exact .links _ (Store.upsertEdge_records ..)
      · exact .links store rfl
  · exact .links store rfl

end

end MeetYou.MemoryStore
