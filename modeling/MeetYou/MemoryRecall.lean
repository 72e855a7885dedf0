import Mathlib.Data.List.Find
import Mathlib.Data.List.Infix
import MeetYou.MemoryConsolidation

/-!
# Recall from the shared store

A recall scores the active records of the user and of everybody, keeps the best twelve,
takes the closest four of them as anchors and adds what is linked to an anchor. Each
candidate is then looked up by its id and scored once more.

The records and the edges of all users share one store. What a recall returns depends on
the records the user may see and on the edges among them alone, as long as no other record
has the id of one of these: the lookup takes the first record with the id.
-/

namespace MeetYou.MemoryRecall

open MemoryStore

section
variable {Embedding : Type}

/-! ## Scores -/

def searchTopK : Nat := 12
def anchorTopK : Nat := 4
def anchorMinSim : Rat := 45 / 100

/-- What is asked: the user, the session, the text with its embedding, and the clock. The
bonus is what the workspace and the thread of the context give a record. -/
structure Query (Embedding : Type) where
  user : String
  session : String
  text : String
  embedding : Option Embedding
  now : Instant
  bonus : Record Embedding → Rat

/-- `lexical_score`. -/
def lexicalScore (measures : Measures Embedding) (text : String) (record : Record Embedding) :
    Rat :=
  let wanted := canonicalize measures text
  let factKey := Text.strip record.factKey
  let factValue := Text.strip record.factValue
  let content := canonicalize measures record.content
  let haystacks := if factKey = "" ∧ factValue = "" then [content]
    else [content, canonicalize measures (factKey ++ " " ++ factValue)]
  let joined := " ".intercalate (haystacks.filter (· ≠ ""))
  if wanted = "" ∨ joined = "" then 0
  else if wanted.toList <:+: joined.toList then 1
  else
    let queryTokens := tokens measures wanted
    let recordTokens := tokens measures joined
    if queryTokens = [] ∨ recordTokens = [] then 0
    else (queryTokens.filter (· ∈ recordTokens)).length / max queryTokens.length 1

/-- `recency_score`. -/
def recencyScore (measures : Measures Embedding) (record : Record Embedding) (now : Instant) :
    Rat :=
  measures.halving (daysBetween record.createdAt now / halfLifeDays record.kind)

/-- The bonus of an episode of the session. -/
def sessionBonus (query : Query Embedding) (record : Record Embedding) : Rat :=
  let session := Text.strip query.session
  if session ≠ "" ∧ record.kind = .episode ∧ Text.strip record.session = session then 8 / 100
  else 0

/-- The similarity of a record to the query, or the overlap of their words. -/
def firstScore (measures : Measures Embedding) (query : Query Embedding)
    (record : Record Embedding) : Rat :=
  match query.embedding, record.embedding with
  | some asked, some stored => measures.cosine asked stored
  | _, _ => lexicalScore measures query.text record

/-! ## The graph -/

/-- A recall follows the edge. -/
def followed (edge : Edge) : Prop :=
  edge.data.contradicts = false ∧ (longTermEdgeSimThreshold ≤ edge.data.semanticSim ∨
    edge.data.sameEntity ∨ edge.data.sameProject ∨ edge.data.derivedFrom)

instance (edge : Edge) : Decidable (followed edge) := inferInstanceAs (Decidable (_ ∧ _))

/-- The other end of an edge. -/
def otherEnd (id : String) (edge : Edge) : Option String :=
  if edge.fromId = id then some edge.toId
  else if edge.toId = id then some edge.fromId
  else none

/-- `graph_neighbors`. -/
def graphNeighbors (edges : List Edge) (id : String) : List String :=
  ((edges.filter fun edge => followed edge).filterMap (otherEnd id)).filter (· ≠ "")

/-- How close an edge brings its ends. -/
def edgeScore (edge : Edge) : Rat :=
  let derived := if edge.data.derivedFrom then max edge.data.semanticSim (7 / 10)
    else edge.data.semanticSim
  let project := if edge.data.sameProject then max derived (85 / 100) else derived
  if edge.data.sameEntity then max project 1 else project

/-- The score of the edge to an anchor. -/
def anchorScore (edges : List Edge) (id anchor : String) : Rat :=
  match PairedEdges.find edges id anchor with
  | some edge => if edge.data.contradicts then 0 else edgeScore edge
  | none => 0

/-- `graph_score`. -/
def graphScore (edges : List Edge) (id : String) (anchorIds : List String) : Rat :=
  if id ∈ anchorIds then 1
  else anchorIds.foldl (fun best anchor => max best (anchorScore edges id anchor)) 0

/-! ## The search -/

/-- The user may see the record. -/
def visible (user : String) (record : Record Embedding) : Prop := record.user ∈ [user, "global"]

instance (user : String) (record : Record Embedding) : Decidable (visible user record) :=
  inferInstanceAs (Decidable (_ ∈ _))

/-- A recall of the user may return the record. -/
def eligible (measures : Measures Embedding) (user : String) (record : Record Embedding) : Prop :=
  record.status = .active ∧ visible user record ∧ record.embeddingModel = measures.embeddingModel

instance (measures : Measures Embedding) (user : String) (record : Record Embedding) :
    Decidable (eligible measures user record) :=
  inferInstanceAs (Decidable (_ ∧ _))

/-- `eligible_records`. -/
def eligibleRecords (measures : Measures Embedding) (store : Store Embedding) (user : String) :
    List (Record Embedding) :=
  store.records.filter fun record => eligible measures user record

/-- The pairs with the highest scores; of equal ones the first. -/
def ranked (pairs : List (Record Embedding × Rat)) : List (Record Embedding × Rat) :=
  (pairs.insertionSort fun first second => second.2 ≤ first.2).take searchTopK

/-- The best of the eligible records. -/
def scored (measures : Measures Embedding) (query : Query Embedding)
    (records : List (Record Embedding)) : List (Record Embedding × Rat) :=
  if query.embedding.isSome ∧ ¬ records.isEmpty then
    ranked (records.map fun record => (record, firstScore measures query record))
  else
    ranked ((records.map fun record =>
      (record, lexicalScore measures query.text record)).filter fun pair => 0 < pair.2)

/-- The ids of the anchors. -/
def anchorIds (best : List (Record Embedding × Rat)) : List String :=
  ((best.take anchorTopK).filter fun pair => anchorMinSim ≤ pair.2).map fun pair => pair.1.id

/-- The ids of the best records, and of what is linked to an anchor. -/
def candidateIds (edges : List Edge) (best : List (Record Embedding × Rat)) : List String :=
  (best.map (fun pair => pair.1.id) ++ (anchorIds best).flatMap (graphNeighbors edges)).dedup

/-- The semantic score of a candidate. -/
def semanticScore (measures : Measures Embedding) (query : Query Embedding)
    (best : List (Record Embedding × Rat)) (id : String) (record : Record Embedding) : Rat :=
  let first := ((best.find? fun pair => pair.1.id = id).map Prod.snd).getD 0
  let second := match query.embedding, record.embedding with
    | some asked, some stored => if first = 0 then measures.cosine asked stored else first
    | _, _ => first
  if second = 0 then lexicalScore measures query.text record else second

/-- The score of a candidate. -/
def score (measures : Measures Embedding) (query : Query Embedding) (edges : List Edge)
    (best : List (Record Embedding × Rat)) (id : String) (record : Record Embedding) : Rat :=
  5 / 10 * semanticScore measures query best id record +
    2 / 10 * recencyScore measures record query.now + 15 / 100 * record.importance +
    1 / 10 * effectiveStrength measures record query.now +
    5 / 100 * graphScore edges id (anchorIds best) + query.bonus record + sessionBonus query record

/-- What a recall returns for a candidate. -/
def hit (measures : Measures Embedding) (store : Store Embedding) (query : Query Embedding)
    (best : List (Record Embedding × Rat)) (id : String) : Option (Record Embedding × Rat) :=
  (store.recordById id).bind fun record =>
    if eligible measures query.user record then
      some (record, score measures query store.edges best id record)
    else none

/-- `search_records`: records with their scores, the highest first. -/
def searchRecords (measures : Measures Embedding) (store : Store Embedding)
    (query : Query Embedding) : List (Record Embedding × Rat) :=
  let best := scored measures query (eligibleRecords measures store query.user)
  ((candidateIds store.edges best).filterMap (hit measures store query best)).insertionSort
    fun first second => second.2 ≤ first.2

/-! ## What a user may see -/

/-- The ids of the records the user may see. -/
def visibleIds (user : String) (store : Store Embedding) : List String :=
  (store.records.filter fun record => visible user record).map Record.id

/-- The edge joins records the user may see. -/
def among (user : String) (store : Store Embedding) (edge : Edge) : Prop :=
  edge.fromId ∈ visibleIds user store ∧ edge.toId ∈ visibleIds user store

instance (user : String) (store : Store Embedding) (edge : Edge) :
    Decidable (among user store edge) :=
  inferInstanceAs (Decidable (_ ∧ _))

/-- The records the user may see, and the edges among them. -/
def view (user : String) (store : Store Embedding) : Store Embedding where
  records := store.records.filter fun record => visible user record
  edges := store.edges.filter fun edge => among user store edge

/-- No other record has the id of one the user may see. -/
def Unclashed (user : String) (store : Store Embedding) : Prop :=
  ∀ record ∈ store.records, record.id ∈ visibleIds user store → visible user record

instance (user : String) (store : Store Embedding) : Decidable (Unclashed user store) :=
  inferInstanceAs (Decidable (∀ record ∈ _, _))

theorem eligibleRecords_view (measures : Measures Embedding) (store : Store Embedding)
    (user : String) : eligibleRecords measures (view user store) user =
      eligibleRecords measures store user := by
  unfold eligibleRecords view
  rw [List.filter_filter]
  apply List.filter_congr
  intro record _
  by_cases holds : eligible measures user record
  · simp [holds, holds.2.1]
  · simp [holds]

theorem mem_visibleIds {user : String} {store : Store Embedding} {record : Record Embedding}
    (member : record ∈ store.records) (sees : visible user record) :
    record.id ∈ visibleIds user store :=
  List.mem_map_of_mem (List.mem_filter.mpr ⟨member, decide_eq_true sees⟩)

/-- A visible id is looked up among the visible records. -/
theorem recordById_view {user : String} {store : Store Embedding} (unclashed : Unclashed user store)
    {id : String} (known : id ∈ visibleIds user store) :
    (view user store).recordById id = store.recordById id := by
  unfold Store.recordById view
  rw [List.find?_filter]
  apply List.find?_congr
  intro record member
  by_cases named : record.id = id
  · have sees := unclashed record member (named ▸ known)
    simp [named, sees]
  · simp [named]

/-- An edge between two visible ids is looked up among the visible edges. -/
theorem find_view {user : String} {store : Store Embedding} {left right : String}
    (first : left ∈ visibleIds user store) (second : right ∈ visibleIds user store) :
    PairedEdges.find (view user store).edges left right =
      PairedEdges.find store.edges left right := by
  have both := @PairedEdges.ends_mem _ _ { id | id ∈ visibleIds user store } _ _ first second
  unfold PairedEdges.find view
  rw [List.find?_filter]
  apply List.find?_congr
  intro edge _
  by_cases pair : edge.pair = PairedEdges.ends left right
  · rw [← pair] at both
    have joins : among user store edge := both
    simp [pair, joins]
  · simp [pair]

theorem graphScore_view {user : String} {store : Store Embedding} {id : String}
    (known : id ∈ visibleIds user store) {anchors : List String}
    (seen : ∀ anchor ∈ anchors, anchor ∈ visibleIds user store) :
    graphScore (view user store).edges id anchors = graphScore store.edges id anchors := by
  unfold graphScore
  split
  · rfl
  · apply List.foldl_ext
    intro best anchor member
    unfold anchorScore
    rw [find_view known (seen anchor member)]

/-- The neighbours of an anchor are the other ends of followed edges. -/
theorem mem_graphNeighbors {edges : List Edge} {anchor id : String} :
    id ∈ graphNeighbors edges anchor ↔
      id ≠ "" ∧ ∃ edge ∈ edges, followed edge ∧ otherEnd anchor edge = some id := by
  unfold graphNeighbors
  simp only [List.mem_filter, List.mem_filterMap, decide_eq_true_eq, and_assoc]
  exact and_comm

/-- An edge is among the visible ones when both ends seen from an anchor are visible. -/
theorem among_of_otherEnd {user : String} {store : Store Embedding} {edge : Edge}
    {anchor id : String} (other : otherEnd anchor edge = some id)
    (first : anchor ∈ visibleIds user store) (second : id ∈ visibleIds user store) :
    among user store edge := by
  unfold otherEnd at other
  split at other
  · rename_i start
    exact ⟨start ▸ first, Option.some.inj other ▸ second⟩
  · split at other
    · rename_i stop
      exact ⟨Option.some.inj other ▸ second, stop ▸ first⟩
    · cases other

/-- A visible id is a neighbour of a visible anchor through a visible edge. -/
theorem graphNeighbors_view {user : String} {store : Store Embedding} {anchor id : String}
    (first : anchor ∈ visibleIds user store) (second : id ∈ visibleIds user store) :
    id ∈ graphNeighbors (view user store).edges anchor ↔
      id ∈ graphNeighbors store.edges anchor := by
  rw [mem_graphNeighbors, mem_graphNeighbors]
  apply and_congr_right
  intro _
  constructor
  · rintro ⟨edge, member, follows, other⟩
    exact ⟨edge, List.mem_of_mem_filter member, follows, other⟩
  · rintro ⟨edge, member, follows, other⟩
    have joins := among_of_otherEnd other first second
    exact ⟨edge, List.mem_filter.mpr ⟨member, decide_eq_true joins⟩, follows, other⟩

/-! ## What a recall depends on -/

/-- The best records are among those that were scored. -/
theorem mem_scored {measures : Measures Embedding} {query : Query Embedding}
    {records : List (Record Embedding)} {pair : Record Embedding × Rat}
    (best : pair ∈ scored measures query records) : pair.1 ∈ records := by
  have sorted : ∀ {pairs : List (Record Embedding × Rat)}, pair ∈ ranked pairs → pair ∈ pairs :=
    fun listed => (List.perm_insertionSort _ _).mem_iff.mp (List.mem_of_mem_take listed)
  unfold scored at best
  split at best
  · obtain ⟨record, member, rfl⟩ := List.mem_map.mp (sorted best)
    exact member
  · obtain ⟨record, member, rfl⟩ := List.mem_map.mp (List.mem_of_mem_filter (sorted best))
    exact member

/-- What a recall returns for a candidate is read off what the user may see. -/
theorem hit_view {measures : Measures Embedding} {store : Store Embedding}
    {query : Query Embedding} (unclashed : Unclashed query.user store)
    {best : List (Record Embedding × Rat)}
    (seen : ∀ anchor ∈ anchorIds best, anchor ∈ visibleIds query.user store) (id : String) :
    hit measures (view query.user store) query best id = hit measures store query best id := by
  by_cases known : id ∈ visibleIds query.user store
  · unfold hit score
    rw [recordById_view unclashed known, graphScore_view known seen]
  · -- an unknown id is the id of no record the user may see
    have absent : (view query.user store).recordById id = none := by
      apply List.find?_eq_none.mpr
      intro record member named
      exact known (of_decide_eq_true named ▸ List.mem_map_of_mem member)
    unfold hit
    rw [absent]
    symm
    apply Option.bind_eq_none_iff.mpr
    intro record found
    apply if_neg
    intro holds
    obtain ⟨member, named⟩ := MemoryConsolidation.recordById_mem found
    exact known (named ▸ mem_visibleIds member holds.2.1)

/-- A recall returns what it returns on the records the user may see and the edges among
them. -/
theorem searchRecords_view (measures : Measures Embedding) {store : Store Embedding}
    {query : Query Embedding} (unclashed : Unclashed query.user store)
    (found : Record Embedding × Rat) :
    found ∈ searchRecords measures (view query.user store) query ↔
      found ∈ searchRecords measures store query := by
  unfold searchRecords
  rw [eligibleRecords_view]
  dsimp only
  generalize bestIs : scored measures query (eligibleRecords measures store query.user) = best
  have seen : ∀ pair ∈ best, pair.1.id ∈ visibleIds query.user store := by
    intro pair member
    obtain ⟨there, holds⟩ := List.mem_filter.mp (mem_scored (bestIs ▸ member))
    exact mem_visibleIds there (of_decide_eq_true holds).2.1
  have anchorsSeen : ∀ anchor ∈ anchorIds best, anchor ∈ visibleIds query.user store := by
    intro anchor member
    obtain ⟨pair, kept, rfl⟩ := List.mem_map.mp member
    exact seen pair (List.mem_of_mem_take (List.mem_of_mem_filter kept))
  rw [(List.perm_insertionSort _ _).mem_iff, (List.perm_insertionSort _ _).mem_iff,
    List.mem_filterMap, List.mem_filterMap]
  apply exists_congr
  intro id
  rw [hit_view unclashed anchorsSeen]
  apply and_congr_left
  intro returned
  -- what is returned has a visible id
  have known : id ∈ visibleIds query.user store := by
    obtain ⟨record, found, holds⟩ := Option.bind_eq_some_iff.mp returned
    obtain ⟨isEligible, _⟩ := Option.ite_none_right_eq_some.mp holds
    obtain ⟨member, named⟩ := MemoryConsolidation.recordById_mem found
    exact named ▸ mem_visibleIds member isEligible.2.1
  unfold candidateIds
  rw [List.mem_dedup, List.mem_dedup, List.mem_append, List.mem_append, List.mem_flatMap,
    List.mem_flatMap]
  apply or_congr_right
  apply exists_congr
  intro anchor
  apply and_congr_right
  intro member
  exact graphNeighbors_view (anchorsSeen anchor member) known

/-- Two stores in which a user sees the same records, in the same order, and the same edges
among them, and no other record has the id of one of these, return the same records with the
same scores to the same recall. -/
theorem searchRecords_same (measures : Measures Embedding) (store other : Store Embedding)
    (query : Query Embedding) (same : view query.user store = view query.user other)
    (unclashed : Unclashed query.user store) (otherUnclashed : Unclashed query.user other) :
    { found | found ∈ searchRecords measures store query } =
      { found | found ∈ searchRecords measures other query } := by
  ext found
  change found ∈ searchRecords measures store query ↔ found ∈ searchRecords measures other query
  rw [← searchRecords_view measures unclashed, ← searchRecords_view measures otherUnclashed, same]

end

/-! One record of the user among those of another. -/

/-- An episode of the user, and one of another user. -/
def mine : Record Nat := MemoryConsolidation.toRemember "ep_1" "I drink tea" 1
def theirs (id : String) : Record Nat :=
  { MemoryConsolidation.toRemember id "I drink coffee" 1 with user := "v" }

def askTea : Query Nat := ⟨"u", "s", "tea", some 1, 0, fun _ => 0⟩

/-- An edge between two records. -/
def linked (fromId toId : String) : Edge := ⟨fromId, toId, { sameEntity := true }⟩

theorem tea_same :
    { found | found ∈ searchRecords MemoryConsolidation.axes
      ⟨[theirs "ep_2", mine], [linked "ep_1" "ep_2"]⟩ askTea } =
      { found | found ∈ searchRecords MemoryConsolidation.axes ⟨[mine, theirs "ep_3"], []⟩ askTea } :=
  have clear : Unclashed "u" ⟨[theirs "ep_2", mine], [linked "ep_1" "ep_2"]⟩ := by decide
  have otherClear : Unclashed "u" ⟨[mine, theirs "ep_3"], []⟩ := by decide
  searchRecords_same _ _ _ askTea rfl clear otherClear

/-- A record of another user under the same id hides the record of the user. -/
theorem tea_hidden :
    ¬ ∀ (store other : Store Nat) (query : Query Nat), view query.user store = view query.user other →
      { found | found ∈ searchRecords MemoryConsolidation.axes store query } =
        { found | found ∈ searchRecords MemoryConsolidation.axes other query } := by
  intro same
  have shown : (searchRecords MemoryConsolidation.axes ⟨[mine], []⟩ askTea).length = 1 := by
    decide +kernel
  have hidden :
      (searchRecords MemoryConsolidation.axes ⟨[theirs "ep_1", mine], []⟩ askTea).length = 0 := by
    decide +kernel
  obtain ⟨found, only⟩ := List.length_eq_one_iff.mp shown
  have member : found ∈ searchRecords MemoryConsolidation.axes ⟨[mine], []⟩ askTea :=
    only ▸ List.mem_singleton_self found
  have equal := same ⟨[mine], []⟩ ⟨[theirs "ep_1", mine], []⟩ askTea rfl
  have also : found ∈ searchRecords MemoryConsolidation.axes ⟨[theirs "ep_1", mine], []⟩ askTea :=
    (Set.ext_iff.mp equal found).mp member
  rw [List.length_eq_zero_iff.mp hidden] at also
  cases also

end MeetYou.MemoryRecall
