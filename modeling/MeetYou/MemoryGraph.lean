import MeetYou.MemoryRuns

/-!
# The memory graph

The edges of the store are a simple graph on its records, and a user has at most one active
profile under a key. Every writer looks the key up before it adds a profile, in one piece
with the addition. An edge to a source is written without a look at the store, though, and
so is one between two episodes of a batch: both were seen before an await. Reactivating a
record does not look for another active profile either.

The graph stays well formed in every run in which what is linked behind an await is still
there and no profile is reactivated beside another one.
-/

namespace MeetYou.MemoryGraph

open Runs MemoryStore MemoryConsolidation MemoryRuns

section
variable {Embedding : Type}

/-- The record is an active profile of the user under the key. -/
def holdsKey (user key : String) (record : Record Embedding) : Prop :=
  record.kind = .profile ∧ record.status = .active ∧ record.user = user ∧ record.factKey = key

instance (user key : String) (record : Record Embedding) : Decidable (holdsKey user key record) :=
  inferInstanceAs (Decidable (_ ∧ _))

/-- Every edge joins two different records of the store, the smaller id first, no pair has
two edges, and no key of a user has two active profiles. -/
structure WellFormed (store : Store Embedding) : Prop where
  graph : PairedEdges.Simple { id | id ∈ store.ids } store.edges
  profiles : ∀ user key, (store.records.countP fun record => holdsKey user key record) ≤ 1

/-! ## When the graph stays well formed -/

/-- The upsert does not lose against the profile it contradicts. -/
def lands (measures : Measures Embedding) (store : Store Embedding) (upsert : Upsert) : Prop :=
  upsert.kind = .profile → ∀ existing ∈ store.profileOf upsert.user upsert.factKey,
    canonicalize measures existing.factValue = canonicalize measures upsert.factValue ∨
      conflictConfidenceThreshold ≤ upsert.confidence

instance (measures : Measures Embedding) (store : Store Embedding) (upsert : Upsert) :
    Decidable (lands measures store upsert) :=
  inferInstanceAs (Decidable (_ → ∀ existing ∈ _, _))

/-- An upsert that is carried out has its sources in the store. -/
def sourced (measures : Measures Embedding) (store : Store Embedding) (upsert : Upsert)
    (input : Input Embedding) : Prop :=
  match input with
  | .embedding (some _) _ _ => lands measures store upsert → ∀ id ∈ upsert.sourceIds, id ∈ store.ids
  | _ => True

instance (measures : Measures Embedding) (store : Store Embedding) (upsert : Upsert)
    (input : Input Embedding) : Decidable (sourced measures store upsert input) :=
  match input with
  | .embedding (some _) _ _ =>
    inferInstanceAs (Decidable (lands measures store upsert → ∀ id ∈ upsert.sourceIds, id ∈ store.ids))
  | .embedding none _ _ | .patch _ | .go _ | .raises _ => isTrue trivial

/-- The link takes effect between two episodes of the batch. -/
def effective (link : Link) (batch : List String) : Prop :=
  link.related.isSome ∧ Text.strip link.fromId ∈ batch ∧ Text.strip link.toId ∈ batch ∧
    Text.strip link.fromId ≠ Text.strip link.toId

instance (link : Link) (batch : List String) : Decidable (effective link batch) :=
  inferInstanceAs (Decidable (_ ∧ _))

/-- What a pass joins is in the store. -/
def passJoins (measures : Measures Embedding) (heap : Heap Embedding) (pass : Pass)
    (input : Input Embedding) : Prop :=
  match pass.stage with
  | .applying upsert _ | .rewriting upsert _ => sourced measures heap.store upsert input
  | .linking => ∀ link ∈ pass.links, effective link pass.batch →
      Text.strip link.fromId ∈ heap.store.ids ∧ Text.strip link.toId ∈ heap.store.ids
  | _ => True

instance (measures : Measures Embedding) (heap : Heap Embedding) (pass : Pass)
    (input : Input Embedding) : Decidable (passJoins measures heap pass input) :=
  match pass with
  | { stage := .applying upsert _, .. } | { stage := .rewriting upsert _, .. } =>
    inferInstanceAs (Decidable (sourced measures heap.store upsert input))
  | { stage := .linking, links, batch, .. } =>
    inferInstanceAs (Decidable (∀ link ∈ links, effective link batch →
      Text.strip link.fromId ∈ heap.store.ids ∧ Text.strip link.toId ∈ heap.store.ids))
  | { stage := .asking, .. } | { stage := .upserts _, .. } | { stage := .fallback _, .. }
  | { stage := .closing, .. } | { stage := .merging _ _, .. } => isTrue trivial

/-- What a task joins is in the store. -/
def taskJoins (measures : Measures Embedding) (heap : Heap Embedding) (task : Task)
    (input : Input Embedding) : Prop :=
  match task with
  | .saving _ => True
  | .writing _ upsert _ => sourced measures heap.store upsert input
  | .passing pass => passJoins measures heap pass input

instance (measures : Measures Embedding) (heap : Heap Embedding) (task : Task)
    (input : Input Embedding) : Decidable (taskJoins measures heap task input) :=
  match task with
  | .saving _ => isTrue trivial
  | .writing _ upsert _ => inferInstanceAs (Decidable (sourced measures heap.store upsert input))
  | .passing pass => inferInstanceAs (Decidable (passJoins measures heap pass input))

/-- The record is no profile, or active already, or there is no active one under its
key. -/
def revivable (store : Store Embedding) (record : Record Embedding) : Prop :=
  record.kind = .profile → record.status = .active ∨
    (store.profileOf record.user record.factKey).isNone

instance (store : Store Embedding) (record : Record Embedding) :
    Decidable (revivable store record) :=
  inferInstanceAs (Decidable (_ → _))

/-- What the step joins is in the store, and a profile it reactivates has no active one
beside it. -/
def Joins (measures : Measures Embedding) (memory : Memory Embedding)
    (action : Action Embedding) : Prop :=
  match action with
  | .statement input => ∀ pass ∈ memory.running, passJoins measures memory.heap pass input
  | .reply index input =>
      ∀ task ∈ memory.waiting[index]?, taskJoins measures memory.heap task input
  | .updateStatus id true _ =>
      ∀ record ∈ memory.heap.store.recordById id, revivable memory.heap.store record
  | _ => True

instance (measures : Measures Embedding) (memory : Memory Embedding)
    (action : Action Embedding) : Decidable (Joins measures memory action) :=
  match action with
  | .statement input =>
    inferInstanceAs (Decidable (∀ pass ∈ memory.running, passJoins measures memory.heap pass input))
  | .reply index input =>
    inferInstanceAs (Decidable
      (∀ task ∈ memory.waiting[index]?, taskJoins measures memory.heap task input))
  | .updateStatus id true _ =>
    inferInstanceAs (Decidable
      (∀ record ∈ memory.heap.store.recordById id, revivable memory.heap.store record))
  | .updateStatus _ false _ | .save _ _ _ _ _ _ | .housekeep _ | .recall _ | .manage _ _ _
  | .deleteRecord _ | .clearAll => isTrue trivial

/-! ## The edges -/

/-- The edges are a simple graph on the records. -/
def Joined (store : Store Embedding) : Prop :=
  PairedEdges.Simple { id | id ∈ store.ids } store.edges

theorem Joined.upsertEdge {store : Store Embedding} (joined : Joined store) {left right : String}
    (first : left ∈ store.ids) (second : right ∈ store.ids) (given : Relation) :
    Joined (store.upsertEdge left right given) := by
  unfold Joined Store.ids
  rw [Store.upsertEdge_records]
  unfold Store.upsertEdge
  split
  · exact joined
  · exact PairedEdges.Simple.upsert joined first second given _

/-- An edge of a record with itself is not stored. -/
theorem upsertEdge_self (store : Store Embedding) (id : String) (given : Relation) :
    store.upsertEdge id id given = store := by
  unfold Store.upsertEdge PairedEdges.upsert
  simp

/-- Other records under the same ids, or more of them. -/
theorem Joined.mono {store : Store Embedding} (joined : Joined store)
    {records : List (Record Embedding)} (within : ∀ id ∈ store.ids, id ∈ records.map Record.id) :
    Joined { store with records := records } :=
  PairedEdges.Simple.mono joined within

theorem Joined.linkSemanticEdges {measures : Measures Embedding} {store : Store Embedding}
    (joined : Joined store) {record : Record Embedding} (member : record.id ∈ store.ids) :
    Joined (store.linkSemanticEdges measures record) := by
  unfold Store.linkSemanticEdges
  split
  · exact joined
  have listed : ∀ other ∈ store.semanticEdgeCandidates record, other.id ∈ store.ids :=
    fun other among => List.mem_map_of_mem (List.mem_of_mem_filter among)
  generalize store.semanticEdgeCandidates record = candidates at listed
  induction candidates generalizing store with
  | nil => exact joined
  | cons other rest inductionHypothesis =>
    have later : ∀ following ∈ rest, following.id ∈ store.ids :=
      fun following among => listed following (List.mem_cons_of_mem _ among)
    rw [List.foldl_cons]
    dsimp only
    split
    · refine inductionHypothesis
        (joined.upsertEdge member (listed other List.mem_cons_self) _) ?_ ?_
      · rw [Store.upsertEdge_ids]
        exact member
      · rw [Store.upsertEdge_ids]
        exact later
    · exact inductionHypothesis joined member later

theorem Joined.derive {store : Store Embedding} (joined : Joined store) {id : String}
    (member : id ∈ store.ids) {sourceIds : List String}
    (sources : ∀ sourceId ∈ sourceIds, sourceId ∈ store.ids) :
    Joined (store.derive id sourceIds) := by
  unfold Store.derive
  induction sourceIds generalizing store with
  | nil => exact joined
  | cons sourceId rest inductionHypothesis =>
    rw [List.foldl_cons]
    refine inductionHypothesis
      (joined.upsertEdge member (sources sourceId List.mem_cons_self) _) ?_ ?_
    · rw [Store.upsertEdge_ids]
      exact member
    · rw [Store.upsertEdge_ids]
      exact fun other among => sources other (List.mem_cons_of_mem _ among)

theorem Joined.relate {store : Store Embedding} (joined : Joined store)
    {existing : Option (Record Embedding)}
    (known : ∀ record, existing = some record → record.id ∈ store.ids) {id : String}
    (member : id ∈ store.ids) (relation : Relation) :
    Joined (store.relate existing id relation) := by
  unfold Store.relate
  split
  · exact joined.upsertEdge (known _ rfl) member relation
  · exact joined

/-- A revision that keeps ids keeps the edges. -/
theorem Joined.revise {store : Store Embedding} (joined : Joined store)
    {change : Record Embedding → Record Embedding} (keeps : ∀ record, (change record).id = record.id)
    (target : Record Embedding) : Joined (store.revise target change) := by
  unfold Joined
  rw [Store.revise_ids keeps]
  exact joined

theorem Joined.update {measures : Measures Embedding} {store : Store Embedding}
    (joined : Joined store) {upsert : Upsert} (embedding : Embedding) (now : Instant)
    {existing : Record Embedding} (member : existing.id ∈ store.ids)
    (sources : ∀ id ∈ upsert.sourceIds, id ∈ store.ids) :
    Joined (store.update measures upsert embedding now existing) := by
  unfold Store.update
  dsimp only
  generalize importanceOf store upsert.sourceIds = weight
  have keeps := updated_id measures upsert embedding weight now
  have revised := joined.revise keeps existing
  have same := Store.revise_ids keeps store existing
  refine (revised.linkSemanticEdges ?_).derive ?_ ?_
  · rw [same]
    exact member
  · rw [Store.linkSemanticEdges_ids, same]
    exact member
  · rw [Store.linkSemanticEdges_ids, same]
    exact sources

theorem Joined.add {measures : Measures Embedding} {store : Store Embedding}
    (joined : Joined store) {upsert : Upsert} (embedding : Embedding) (now : Instant) (id : String)
    {existing : Option (Record Embedding)}
    (known : ∀ record, existing = some record → record.id ∈ store.ids) (relation : Relation)
    (sources : ∀ id ∈ upsert.sourceIds, id ∈ store.ids) :
    Joined (store.add measures upsert embedding now id existing relation) := by
  unfold Store.add
  dsimp only
  generalize made : newRecord measures upsert embedding (importanceOf store upsert.sourceIds) now
    id = record
  have named : record.id = id := made ▸ rfl
  have longer : (store.append record).ids = store.ids ++ [id] := by
    simp [Store.append, Store.ids, named]
  have added : id ∈ (store.append record).ids := by simp [longer]
  have still : ∀ other ∈ store.ids, other ∈ (store.append record).ids := by
    intro other member
    simp [longer, member]
  have appended : Joined (store.append record) := joined.mono still
  refine ((appended.linkSemanticEdges (named ▸ added)).relate ?_ ?_ relation).derive ?_ ?_
  · intro other found
    rw [Store.linkSemanticEdges_ids]
    exact still other.id (known other found)
  · rw [Store.linkSemanticEdges_ids]
    exact added
  · rw [Store.relate_ids, Store.linkSemanticEdges_ids]
    exact added
  · rw [Store.relate_ids, Store.linkSemanticEdges_ids]
    exact fun sourceId among => still sourceId (sources sourceId among)

/-- Taking records away takes the edges at them away. -/
theorem Joined.remove {store : Store Embedding} (joined : Joined store) {gone : List String}
    {records : List (Record Embedding)}
    (rest : ∀ id ∈ store.ids, id ∉ gone → id ∈ records.map Record.id) :
    Joined ⟨records, PairedEdges.remove store.edges gone⟩ :=
  (PairedEdges.Simple.remove joined gone).mono fun id kept => rest id kept.1 kept.2

theorem Joined.applyLinks {store : Store Embedding} (joined : Joined store) {links : List Link}
    {batch : List String}
    (known : ∀ link ∈ links, effective link batch →
      Text.strip link.fromId ∈ store.ids ∧ Text.strip link.toId ∈ store.ids) :
    Joined (applyLinks store links batch) := by
  unfold MemoryConsolidation.applyLinks
  induction links generalizing store with
  | nil => exact joined
  | cons link rest inductionHypothesis =>
    have later : ∀ following ∈ rest, effective following batch →
        Text.strip following.fromId ∈ store.ids ∧ Text.strip following.toId ∈ store.ids :=
      fun following among => known following (List.mem_cons_of_mem _ among)
    rw [List.foldl_cons]
    unfold applyLink
    dsimp only
    split
    swap
    · exact inductionHypothesis joined later
    rename_i listed
    split
    swap
    · exact inductionHypothesis joined later
    rename_i relation related
    by_cases same : Text.strip link.fromId = Text.strip link.toId
    · rw [same, upsertEdge_self]
      exact inductionHypothesis joined later
    · obtain ⟨first, second⟩ := known link List.mem_cons_self
        ⟨Option.isSome_of_eq_some related, listed.1, listed.2, same⟩
      refine inductionHypothesis (joined.upsertEdge first second relation) ?_
      rw [Store.upsertEdge_ids]
      exact later

/-! ## The profiles -/

/-- No key of a user has two active profiles, and every profile has a key. -/
structure Profiled (records : List (Record Embedding)) : Prop where
  single : ∀ user key, (records.countP fun record => holdsKey user key record) ≤ 1
  keyed : ∀ record ∈ records, record.kind = .profile → record.factKey ≠ ""

/-- A change revives no profile and gives it no other key. -/
def Mild (change : Record Embedding → Record Embedding) (record : Record Embedding) : Prop :=
  (∀ user key, holdsKey user key (change record) → holdsKey user key record) ∧
    ((change record).kind = .profile → record.kind = .profile ∧
      (change record).factKey = record.factKey)

/-- A change that keeps the kind, the user, the status and the key is mild. -/
theorem mild_of_same {change : Record Embedding → Record Embedding} {record : Record Embedding}
    (kind : (change record).kind = record.kind) (user : (change record).user = record.user)
    (status : (change record).status = .active → record.status = .active)
    (factKey : record.kind = .profile → (change record).factKey = record.factKey) :
    Mild change record := by
  constructor
  · rintro other key ⟨profile, active, own, named⟩
    have isProfile := kind ▸ profile
    exact ⟨isProfile, status active, user ▸ own, factKey isProfile ▸ named⟩
  · intro profile
    have isProfile := kind ▸ profile
    exact ⟨isProfile, factKey isProfile⟩

theorem Profiled.map {records : List (Record Embedding)} (profiled : Profiled records)
    {change : Record Embedding → Record Embedding} (mild : ∀ record ∈ records, Mild change record) :
    Profiled (records.map change) := by
  constructor
  · intro user key
    rw [List.countP_map]
    refine le_trans (List.countP_mono_left ?_) (profiled.single user key)
    intro record member holds
    exact decide_eq_true ((mild record member).1 user key (of_decide_eq_true holds))
  · intro changed member profile
    obtain ⟨record, there, rfl⟩ := List.mem_map.mp member
    obtain ⟨isProfile, same⟩ := (mild record there).2 profile
    exact same ▸ profiled.keyed record there isProfile

/-- A change of some of the records. -/
theorem Profiled.mapIf {records : List (Record Embedding)} (profiled : Profiled records)
    (aimed : Record Embedding → Prop) [DecidablePred aimed]
    {change : Record Embedding → Record Embedding}
    (mild : ∀ record ∈ records, aimed record → Mild change record) :
    Profiled (records.map fun record => if aimed record then change record else record) := by
  apply profiled.map
  intro record member
  by_cases isAimed : aimed record
  · have changed := mild record member isAimed
    unfold Mild at changed ⊢
    simpa only [if_pos isAimed] using changed
  · unfold Mild
    simp only [if_neg isAimed]
    exact ⟨fun _ _ holds => holds, fun profile => ⟨profile, trivial⟩⟩

theorem Profiled.sublist {records fewer : List (Record Embedding)} (profiled : Profiled records)
    (within : fewer.Sublist records) : Profiled fewer where
  single := fun user key => (within.countP_le).trans (profiled.single user key)
  keyed := fun record member => profiled.keyed record (within.subset member)

theorem Profiled.perm {records others : List (Record Embedding)} (profiled : Profiled records)
    (same : records.Perm others) : Profiled others where
  single := fun user key => same.countP_eq _ ▸ profiled.single user key
  keyed := fun record member => profiled.keyed record (same.mem_iff.mpr member)

/-- A record whose key has no active profile of the user is added. -/
theorem Profiled.append {records : List (Record Embedding)} (profiled : Profiled records)
    {record : Record Embedding}
    (first : record.kind = .profile → record.factKey ≠ "" ∧
      ∀ other ∈ records, ¬ holdsKey record.user record.factKey other) :
    Profiled (records ++ [record]) := by
  constructor
  · intro user key
    rw [List.countP_append, List.countP_singleton]
    split
    · rename_i holds
      obtain ⟨profile, _, rfl, rfl⟩ := of_decide_eq_true holds
      have none : (records.countP fun other =>
          holdsKey record.user record.factKey other) = 0 := by
        apply List.countP_eq_zero.mpr
        intro other member holds
        exact (first profile).2 other member (of_decide_eq_true holds)
      omega
    · exact profiled.single user key
  · intro other member profile
    rcases List.mem_append.mp member with old | added
    · exact profiled.keyed other old profile
    · obtain rfl := List.mem_singleton.mp added
      exact (first profile).1

/-- Two active profiles of a user under one key are one record of the list. -/
theorem Profiled.same {records : List (Record Embedding)} (profiled : Profiled records)
    {user key : String} {first second : Record Embedding} (one : first ∈ records)
    (other : second ∈ records) (firstHolds : holdsKey user key first)
    (secondHolds : holdsKey user key second) : first = second := by
  have few : (records.filter fun record => holdsKey user key record).length ≤ 1 := by
    rw [← List.countP_eq_length_filter]
    exact profiled.single user key
  have listed : ∀ record ∈ records, holdsKey user key record →
      record ∈ records.filter fun record => holdsKey user key record :=
    fun record member holds => List.mem_filter.mpr ⟨member, decide_eq_true holds⟩
  have here := listed first one firstHolds
  have there := listed second other secondHolds
  generalize (records.filter fun record => decide (holdsKey user key record)) = found at *
  rcases found with _ | ⟨only, _ | ⟨more, rest⟩⟩
  · cases here
  · rw [List.mem_singleton] at here there
    exact here.trans there.symm
  · simp at few

/-- No active profile is found under a key that has none. -/
theorem not_holdsKey_of_profileOf {store : Store Embedding} {user key : String}
    (absent : store.profileOf user key = none) {record : Record Embedding}
    (member : record ∈ store.records) : ¬ holdsKey user key record := by
  intro holds
  exact List.find?_eq_none.mp absent record member (decide_eq_true holds)

/-! ## The store -/

/-- The edges are a simple graph on the records, and the profiles have their keys alone. -/
structure Sound (store : Store Embedding) : Prop where
  joined : Joined store
  profiled : Profiled store.records

theorem Sound.wellFormed {store : Store Embedding} (sound : Sound store) : WellFormed store where
  graph := sound.joined
  profiles := sound.profiled.single

/-- An upsert that loses against the profile it contradicts changes nothing. -/
theorem carryOut_of_not_lands {measures : Measures Embedding} {store : Store Embedding}
    {upsert : Upsert} (loses : ¬ lands measures store upsert) (embedding : Embedding)
    (now : Instant) (id : String) :
    carryOut measures store upsert (some embedding) now id = (store, false) := by
  unfold lands at loses
  push Not at loses
  obtain ⟨profile, existing, found, different, weak⟩ := loses
  unfold carryOut applyProfileUpsert
  simp only [if_pos profile, Option.mem_def.mp found, if_neg different, if_pos weak]

/-- An upserted profile keeps its key, and an upserted fact is none. -/
theorem updated_mild (measures : Measures Embedding) (upsert : Upsert) (embedding : Embedding)
    (weight : Rat) (now : Instant) {record : Record Embedding} (kind : record.kind = upsert.kind) :
    Mild (updated measures upsert embedding weight now) record := by
  refine mild_of_same rfl rfl (fun active => active) fun profile => ?_
  unfold updated
  simp only [if_pos (Or.inl (kind.symm.trans profile))]

theorem invalidate_mild (now : Instant) (record : Record Embedding) :
    Mild (invalidate now) record :=
  mild_of_same rfl rfl (fun active => by cases active) fun _ => rfl

/-- A profile that takes another in keeps its key. -/
theorem merged_mild (now : Instant) (absorbed : Record Embedding) {record : Record Embedding}
    (keyed : record.kind = .profile → record.factKey ≠ "") :
    Mild (merged now absorbed) record := by
  refine mild_of_same rfl rfl (fun active => active) fun profile => ?_
  unfold merged
  simp only [if_neg (keyed profile)]

/-- Carrying an upsert out keeps the store sound, where its sources are in the store. -/
theorem Sound.carryOut {measures : Measures Embedding} {store : Store Embedding}
    (sound : Sound store) {upsert : Upsert} {embedding : Option Embedding} {now : Instant}
    {id : String} (known : sourced measures store upsert (.embedding embedding id now)) :
    Sound (carryOut measures store upsert embedding now id).1 := by
  cases embedding with
  | none => exact sound
  | some embedding =>
    by_cases land : lands measures store upsert
    swap
    · rw [carryOut_of_not_lands land]
      exact sound
    have sources := known land
    have does := carryOut_cases measures store upsert (some embedding) now id
    generalize MemoryStore.carryOut measures store upsert (some embedding) now id = result at does
    cases does with
    | refused => exact sound
    | updates _ existing member kind active user =>
      refine ⟨sound.joined.update embedding now (List.mem_map_of_mem member) sources, ?_⟩
      rw [Store.update_records]
      refine sound.profiled.mapIf _ fun record _ aimed => ?_
      exact updated_mild measures upsert embedding _ now (aimed.2.1.trans kind)
    | adds _ related relation member first =>
      refine ⟨sound.joined.add embedding now id (fun record named =>
        List.mem_map_of_mem (member record named)) relation sources, ?_⟩
      rw [Store.add_records]
      refine sound.profiled.append fun profile => ⟨upsert.keyed profile, fun other there => ?_⟩
      exact not_holdsKey_of_profileOf (first profile) there
    | displaces _ existing found kind =>
      obtain ⟨member, isProfile, active, user, key⟩ := profileOf_mem found
      have same := Store.revise_ids (invalidate_id now) store existing
      have revised := sound.joined.revise (invalidate_id now) existing
      constructor
      · refine revised.add embedding now id ?_ _ ?_
        · rintro record named
          obtain rfl := Option.some.inj named
          rw [same]
          exact List.mem_map_of_mem member
        · rw [same]
          exact sources
      · rw [Store.add_records]
        have displaced : Profiled (store.revise existing (invalidate now)).records :=
          sound.profiled.mapIf _ fun record _ _ => invalidate_mild now record
        refine displaced.append fun profile => ⟨upsert.keyed profile, fun other there holds => ?_⟩
        -- the only active profile under the key is the one that was invalidated
        obtain ⟨record, before, rfl⟩ := List.mem_map.mp there
        split at holds
        · exact Status.noConfusion holds.2.1
        · rename_i notAimed
          obtain rfl := sound.profiled.same before member holds ⟨isProfile, active, user, key⟩
          exact notAimed ⟨rfl, rfl, rfl⟩

/-- A comparison keeps the store sound. -/
theorem Sound.compared {store after : Store Embedding} {left right : Record Embedding}
    {now : Instant} (sound : Sound store) (one : left ∈ store.records)
    (other : right ∈ store.records) {measures : Measures Embedding}
    (compared : store.comparePair measures left right now = after) : Sound after := by
  subst compared
  have first : left.id ∈ store.ids := List.mem_map_of_mem one
  have second : right.id ∈ store.ids := List.mem_map_of_mem other
  unfold Store.comparePair
  dsimp only
  split
  swap
  · exact sound
  split
  swap
  · split
    · refine ⟨sound.joined.upsertEdge first second _, ?_⟩
      rw [Store.upsertEdge_records]
      exact sound.profiled
    · exact sound
  unfold Store.mergeLongTermRecords
  split
  · exact sound
  have both : (mergeTargetForPair left right).1.id ∈ store.ids ∧
      (mergeTargetForPair left right).2.id ∈ store.ids := by
    unfold mergeTargetForPair
    split
    · exact ⟨first, second⟩
    · exact ⟨second, first⟩
  generalize (mergeTargetForPair left right).1 = primary at both ⊢
  generalize (mergeTargetForPair left right).2 = absorbed at both ⊢
  have taken : Profiled (store.revise primary (merged now absorbed)).records :=
    sound.profiled.mapIf _ fun record member _ =>
      merged_mild now absorbed (sound.profiled.keyed record member)
  have revised := (sound.joined.revise (merged_id now absorbed) primary).revise
    (invalidate_id now) absorbed
  have same : ((store.revise primary (merged now absorbed)).revise absorbed
      (invalidate now)).ids = store.ids :=
    (Store.revise_ids (invalidate_id now) _ _).trans (Store.revise_ids (merged_id now absorbed) _ _)
  constructor
  · apply revised.upsertEdge
    · rw [same]
      exact both.1
    · rw [same]
      exact both.2
  · rw [Store.upsertEdge_records]
    exact taken.mapIf _ fun record _ _ => invalidate_mild now record

/-- Mild changes of some records keep the store sound. -/
theorem Sound.changeAll {store : Store Embedding} (sound : Sound store) {ids : List String}
    {change : Record Embedding → Record Embedding} (keeps : ∀ record, (change record).id = record.id)
    (mild : ∀ record ∈ store.records, Mild change record) : Sound (MemoryRuns.changeAll store ids change) := by
  constructor
  · unfold Joined
    rw [changeAll_ids change keeps]
    exact sound.joined
  · exact sound.profiled.mapIf _ fun record member _ => mild record member

/-- Records are taken out of the store. -/
theorem Sound.filter {store : Store Embedding} (sound : Sound store)
    {keep : Record Embedding → Bool} {gone : List String}
    (rest : ∀ record ∈ store.records, record.id ∉ gone → keep record) :
    Sound ⟨store.records.filter keep, PairedEdges.remove store.edges gone⟩ := by
  constructor
  · refine sound.joined.remove fun id member stays => ?_
    obtain ⟨record, there, rfl⟩ := List.mem_map.mp member
    exact List.mem_map_of_mem (List.mem_filter.mpr ⟨there, rest record there stays⟩)
  · exact sound.profiled.sublist List.filter_sublist

theorem Sound.deleteRecords {store : Store Embedding} (sound : Sound store) (ids : List String) :
    Sound (store.deleteRecords ids) :=
  sound.filter fun _ _ stays => decide_eq_true stays

theorem Sound.pruneRecords {store : Store Embedding} (sound : Sound store)
    (measures : Measures Embedding) (now : Instant) : Sound (store.pruneRecords measures now) := by
  refine sound.filter fun record member stays => ?_
  by_contra leaves
  apply stays
  refine List.mem_map_of_mem (List.mem_filter.mpr ⟨member, ?_⟩)
  simpa using leaves

/-- An episode is added and linked. -/
theorem Sound.appendEpisode {store : Store Embedding} (sound : Sound store)
    (measures : Measures Embedding) {record : Record Embedding} (episode : record.kind = .episode) :
    Sound ((store.append record).linkSemanticEdges measures record) := by
  constructor
  · have appended : Joined (store.append record) := sound.joined.mono fun id member => by
      rw [List.map_append]
      exact List.mem_append_left _ member
    apply appended.linkSemanticEdges
    simp [Store.append, Store.ids]
  · rw [Store.linkSemanticEdges_records]
    refine sound.profiled.append fun profile => ?_
    rw [episode] at profile
    cases profile

/-- A record is reactivated that is no profile, was active, or has no active profile beside
it. -/
theorem Sound.revive {store : Store Embedding} (sound : Sound store) (distinct : store.ids.Nodup)
    {id : String} (alone : ∀ record ∈ store.recordById id, revivable store record)
    (now : Instant) :
    Sound (MemoryRuns.changeAll store [id] (Memory.marked .active now)) := by
  have joined : Joined (MemoryRuns.changeAll store [id] (Memory.marked .active now)) := by
    unfold Joined
    rw [changeAll_ids (Memory.marked .active now) (fun _ => rfl)]
    exact sound.joined
  refine ⟨joined, ?_⟩
  cases found : store.recordById id with
  | none =>
    refine sound.profiled.mapIf _ fun record member aimed => ?_
    have absent := List.find?_eq_none.mp found record member
    exact absurd (decide_eq_true (List.mem_singleton.mp aimed)) absent
  | some record =>
    obtain ⟨member, named⟩ := recordById_mem found
    have revivable := alone record found
    have unique : ∀ other ∈ store.records, other.id ∈ [id] → other = record := by
      intro other there aimed
      exact List.inj_on_of_nodup_map distinct there member
        ((List.mem_singleton.mp aimed).trans named.symm)
    by_cases mild : Mild (Memory.marked .active now) record
    · refine sound.profiled.mapIf _ fun other there aimed => ?_
      exact unique other there aimed ▸ mild
    -- the record is an inactive profile, and no other has its key
    have profile : record.kind = .profile := by
      by_contra other
      apply mild
      exact ⟨fun _ _ holds => absurd holds.1 other, fun profile => absurd profile other⟩
    have absent : store.profileOf record.user record.factKey = none := by
      rcases revivable profile with active | none
      · exact absurd (mild_of_same rfl rfl (fun _ => active) fun _ => rfl) mild
      · exact Option.isNone_iff_eq_none.mp none
    obtain ⟨front, behind, split⟩ := List.append_of_mem member
    have apart : ∀ other ∈ front ++ behind, other.id ≠ id := by
      intro other there aimed
      have ids := distinct
      unfold Store.ids at ids
      rw [split, List.map_append, List.map_cons] at ids
      have outside := (List.nodup_cons.mp (List.nodup_middle.mp ids)).1
      apply outside
      rw [← List.map_append, named, ← aimed]
      exact List.mem_map_of_mem there
    have changed : (MemoryRuns.changeAll store [id] (Memory.marked .active now)).records =
        front ++ Memory.marked .active now record :: behind := by
      have same : ∀ part : List (Record Embedding), (∀ other ∈ part, other.id ≠ id) →
          part.map (fun other => if other.id ∈ [id] then Memory.marked .active now other else other)
            = part := by
        intro part others
        refine (List.map_congr_left fun other there => ?_).trans (List.map_id part)
        exact if_neg fun aimed => others other there (List.mem_singleton.mp aimed)
      unfold MemoryRuns.changeAll
      dsimp only
      rw [split, List.map_append, List.map_cons,
        same front fun other there => apart other (List.mem_append_left _ there),
        same behind fun other there => apart other (List.mem_append_right _ there),
        if_pos (List.mem_singleton.mpr named)]
    have others : Profiled (front ++ behind) := by
      apply sound.profiled.sublist
      rw [split]
      exact List.Sublist.append_left (List.sublist_cons_self _ _) front
    have swapped : (front ++ Memory.marked .active now record :: behind).Perm
        ((front ++ behind) ++ [Memory.marked .active now record]) := by
      refine List.perm_middle.trans ?_
      exact (List.perm_append_singleton _ _).symm
    have added : Profiled ((front ++ behind) ++ [Memory.marked .active now record]) := by
      refine others.append fun _ => ⟨sound.profiled.keyed record member profile, ?_⟩
      intro other there
      apply not_holdsKey_of_profileOf absent
      rw [split]
      rcases List.mem_append.mp there with first | second
      · exact List.mem_append_left _ first
      · exact List.mem_append_right _ (List.mem_cons_of_mem _ second)
    rw [changed]
    exact added.perm swapped.symm

/-! ## Runs -/

theorem ask_store (heap : Heap Embedding) (rest : List (String × List String)) :
    (ask heap rest).1.store = heap.store := by
  cases rest <;> rfl

/-- A step of a pass keeps the store sound, where what it joins is in the store. -/
theorem Sound.moved {measures : Measures Embedding} {heap : Heap Embedding} {pass : Pass}
    {input : Input Embedding} {next : Heap Embedding × Option Pass} (sound : Sound heap.store)
    (joins : passJoins measures heap pass input) (moved : Moved measures heap pass input next) :
    Sound next.1.store := by
  unfold passJoins at joins
  cases moved with
  | asks =>
    rw [ask_store]
    exact sound
  | ends => exact sound
  | breaks linked stage =>
    rw [stage] at joins
    refine ⟨sound.joined.applyLinks fun link member => joins link (List.mem_of_mem_take member), ?_⟩
    rw [applyLinks_records]
    exact sound.profiled
  | turns => exact sound
  | prepares => exact sound
  | rewrites => exact sound
  | links now next stage =>
    rw [stage] at joins
    refine ⟨sound.joined.applyLinks joins, ?_⟩
    rw [applyLinks_records]
    exact sound.profiled
  | carries upsert embedding id now next stage =>
    have known : sourced measures heap.store upsert (.embedding embedding id now) := by
      rcases stage with ⟨rest, stage⟩ | ⟨rest, stage⟩
      · rw [stage] at joins
        exact joins
      · rw [stage] at joins
        exact joins
    exact sound.carryOut known
  | closes =>
    unfold Pass.close
    split
    · exact sound.deleteRecords pass.batch
    · refine Sound.changeAll sound retagged_id fun record _ => ?_
      apply mild_of_same <;> (unfold retagged; split <;> simp)
  | compares now left right =>
    unfold MemoryConsolidation.compare
    split
    · rename_i one other foundLeft foundRight
      exact sound.compared (recordById_mem foundLeft).1 (recordById_mem foundRight).1 rfl
    · exact sound

/-- No id is given twice, and the store is sound. -/
def Kept (memory : Memory Embedding) : Prop := memory.heap.ids.Nodup ∧ Sound memory.heap.store

/-- A reply to what waits keeps the store sound. -/
theorem resume_sound {measures : Measures Embedding} {memory next : Memory Embedding} {task : Task}
    {input : Input Embedding} (sound : Sound memory.heap.store)
    (joins : taskJoins measures memory.heap task input)
    (resumed : memory.resume measures task input = some next) : Sound next.heap.store := by
  cases task with
  | saving save =>
    change memory.saved measures save input = some next at resumed
    unfold Memory.saved at resumed
    split at resumed
    · obtain rfl := Option.some.inj resumed
      exact sound
    · rename_i embedding id _
      obtain ⟨_, saved⟩ := Option.ite_none_left_eq_some.mp resumed
      obtain rfl := Option.some.inj saved
      have episode : (newEpisode measures save embedding id).kind = .episode := rfl
      rw [write_heap]
      exact sound.appendEpisode measures episode
    · cases resumed
  | writing recordId upsert held =>
    change memory.written measures recordId upsert held input = some next at resumed
    unfold Memory.written at resumed
    split at resumed
    · obtain ⟨_, written⟩ := Option.ite_none_left_eq_some.mp resumed
      have carried := sound.carryOut joins
      dsimp only at written
      split at written
      · obtain rfl := Option.some.inj written
        exact carried.changeAll (fun _ => rfl) fun record _ =>
          mild_of_same rfl rfl (fun active => active) fun _ => rfl
      · obtain rfl := Option.some.inj written
        exact carried
    · cases resumed
  | passing pass =>
    obtain ⟨result, steps, rfl⟩ := Option.map_eq_some_iff.mp resumed
    rw [place_heap]
    exact sound.moved joins (step_moved steps)

/-- A step whose joins are in the store keeps the store sound. -/
theorem step_kept {measures : Measures Embedding} {memory next : Memory Embedding}
    {action : Action Embedding} (kept : Kept memory) (joins : Joins measures memory action)
    (taken : memory.step measures action = some next) : Kept next := by
  refine ⟨(step_grows taken).distinct kept.1, ?_⟩
  have sound := kept.2
  have distinct : memory.heap.store.ids.Nodup := by
    have ids := kept.1
    unfold Heap.ids at ids
    rw [List.map_append] at ids
    exact (List.nodup_append.mp ids).1
  unfold Joins at joins
  unfold Memory.step at taken
  split at taken
  · rename_i pass input running
    obtain ⟨result, steps, rfl⟩ := Option.map_eq_some_iff.mp taken
    rw [place_heap]
    exact sound.moved (joins pass running) (step_moved steps)
  · rename_i text emotion session user tags now _
    obtain rfl := Option.some.inj taken
    unfold Memory.save
    dsimp only
    split
    · exact sound
    split
    · rw [write_heap]
      refine ⟨@Joined.revise _ _ sound.joined (refreshed now tags) (fun _ => rfl) _, ?_⟩
      exact sound.profiled.mapIf _ fun record _ _ =>
        mild_of_same rfl rfl (fun active => active) fun _ => rfl
    · exact sound
  · rename_i now _
    obtain rfl := Option.some.inj taken
    rw [place_heap]
    unfold startPass
    rw [ask_store]
    exact sound.pruneRecords measures now
  · rename_i index input _
    obtain ⟨task, waits, resumed⟩ := Option.bind_eq_some_iff.mp taken
    generalize memory.waiting.eraseIdx index = waiting at resumed
    exact @resume_sound _ _ { memory with waiting := waiting } _ _ _ sound (joins task waits) resumed
  · obtain rfl := Option.some.inj taken
    exact sound.changeAll (fun _ => rfl) fun record _ =>
      mild_of_same rfl rfl (fun active => active) fun _ => rfl
  · rename_i ids deleted now _
    obtain rfl := Option.some.inj taken
    refine sound.changeAll (fun _ => rfl) fun record _ =>
      mild_of_same rfl rfl (fun active => ?_) fun _ => rfl
    cases deleted <;> cases active
  · rename_i id active now _
    obtain rfl := Option.some.inj taken
    cases active with
    | true => exact sound.revive distinct joins now
    | false =>
      exact sound.changeAll (fun _ => rfl) fun record _ =>
        mild_of_same rfl rfl (fun active => by cases active) fun _ => rfl
  · rename_i id _
    obtain rfl := Option.some.inj taken
    unfold Memory.deleteRecord
    split
    · exact sound.deleteRecords [id]
    · exact sound
  · obtain rfl := Option.some.inj taken
    refine ⟨PairedEdges.simple_nil _, ⟨fun _ _ => by simp [Memory.clearAll, Store.empty], ?_⟩⟩
    exact fun record member => (List.not_mem_nil member).elim
  · cases taken

/-- Through every run of the memory, the graph is well formed, if what each step joins is
in the store and no profile is reactivated beside an active one. -/
theorem graph_wellFormed (measures : Measures Embedding) (actions : List (Action Embedding))
    (joins : Along (Memory.step measures) (Joins measures) Memory.start actions) :
    Throughout (Memory.step measures) (fun memory => WellFormed memory.heap.store) Memory.start
      actions := by
  have kept : Kept (Memory.start : Memory Embedding) := by
    refine ⟨List.nodup_nil, PairedEdges.simple_nil _, ?_, ?_⟩
    · exact fun _ _ => by simp [Memory.start, Store.empty]
    · exact fun record member => (List.not_mem_nil member).elim
  refine ⟨kept.2.wellFormed, ?_⟩
  refine Along.imp_of_invariant Kept ?_ ?_ kept joins
  · exact fun memory action next holds met taken => step_kept holds met taken
  · exact fun memory action holds met next taken => (step_kept holds met taken).2.wellFormed

end

/-! A preference is remembered. Its profile is set aside and taken back, or its episode is
deleted before the profile is there. -/

theorem setAside_wellFormed :
    Throughout (Memory.step axes) (fun memory => WellFormed memory.heap.store) Memory.start
      [remembers "I drink tea" 0, embeds 1 "ep_1" 0, embeds 2 "profile_1" 0,
        .updateStatus "profile_1" false 0, .updateStatus "profile_1" true 0] :=
  graph_wellFormed axes _ (by decide +kernel)

/-- The profile is joined to the episode that was deleted meanwhile. -/
theorem deleted_joined :
    ¬ ∀ actions : List (Action Nat), Throughout (Memory.step axes)
      (fun memory => WellFormed memory.heap.store) Memory.start actions := by
  intro wellFormed
  have ran : (run (Memory.step axes) Memory.start [remembers "I drink tea" 0, embeds 1 "ep_1" 0,
      .deleteRecord "ep_1", embeds 2 "profile_1" 0]).any (fun memory =>
        decide (memory.heap.store.ids = ["profile_1"] ∧
          "ep_1" ∈ memory.heap.store.edges.map PairedEdges.Edge.fromId)) = true := by
    decide +kernel
  obtain ⟨memory, completed, found⟩ := Option.any_eq_true _ _ |>.mp ran
  obtain ⟨left, joined⟩ := of_decide_eq_true found
  obtain ⟨edge, member, named⟩ := List.mem_map.mp joined
  have known := (((wellFormed _).final completed).graph.joined edge member).1
  rw [named, Set.mem_ofPred_eq, left] at known
  simp at known

/-- A later preference sets the first one aside, and taking that back leaves two. -/
example : ((run (Memory.step axes) Memory.start
    [remembers "A B C D E F 1" 0, embeds 1 "ep_1" 0, embeds 2 "profile_1" 0,
      remembers "A B C D E F 2" 0, embeds 3 "ep_2" 0, embeds 4 "profile_2" 0,
      .updateStatus "profile_1" true 0]).map fun memory =>
        memory.heap.store.records.countP fun record =>
          holdsKey "u" "preference_a_b_c_d_e_f" record) = some 2 := by decide +kernel

end MeetYou.MemoryGraph
