import MeetYou.MemoryConsolidation

/-!
# Runs of the memory

Saves, housekeeping passes, recalls and the management of records share one store. A save
waits for the embedding of its text, and for that of the durable record where the user
asked to remember it. A pass waits for the housekeeping model and for the embeddings of its
upserts. Whatever waits holds on to what it read before. Between two awaits nothing
interleaves, so a pass that runs its statements keeps the store to itself.
-/

namespace MeetYou.MemoryRuns

open Runs MemoryStore MemoryConsolidation

/-! ## Calls that wait -/

/-- `save_memory` waiting for the embedding of its text. -/
structure Save where
  content : String
  emotion : Rat
  session : String
  user : String
  tags : List String
  calledAt : Instant

/-- The tags a save takes the pending tag off when its durable record is written: those of its
record by then; or those of the list it holds since it met its episode, which is the record's own
list until another save gives the record a new one. -/
inductive HeldTags
  | rereads
  | shares
  | kept (tags : List String)

/-- What waits: a save for its embedding, a save for that of the durable record it writes,
or a pass. -/
inductive Task
  | saving (save : Save)
  | writing (recordId : String) (upsert : Upsert) (held : HeldTags)
  | passing (pass : Pass)

/-- The heap of records, the pass that runs, and the calls that wait. -/
structure Memory (Embedding : Type) where
  heap : Heap Embedding
  running : Option Pass
  waiting : List Task

/-- What the memory does next. `statement` goes on with the running pass and `reply`
with something that waits; the other actions are calls. -/
inductive Action (Embedding : Type)
  | save (text : String) (emotion : Rat) (session user : String) (tags : List String)
      (now : Instant)
  | housekeep (now : Instant)
  | statement (input : Input Embedding)
  | reply (index : Nat) (input : Input Embedding)
  | recall (ids : List String)
  | manage (ids : List String) (deleted : Bool) (now : Instant)
  | updateStatus (id : String) (active : Bool) (now : Instant)
  | deleteRecord (id : String)
  | clearAll

section
variable {Embedding : Type}

/-! ## Saving -/

/-- `IDEMPOTENCY_WINDOW`. -/
def idempotencyWindow : Int := seconds (30 * 60)

/-- Each tag that is not blank is added once. -/
def addTags (tags given : List String) : List String :=
  given.foldl (fun tags tag =>
    if Text.strip tag = "" ∨ Text.strip tag ∈ tags then tags else tags ++ [Text.strip tag]) tags

/-- The episode a save meets: the last one of the user, the session and the text that was
updated within the window. -/
def lastEpisode (measures : Measures Embedding) (store : Store Embedding)
    (user session content : String) (now : Instant) : Option (Record Embedding) :=
  store.records.reverse.find? fun record =>
    record.kind = .episode ∧ record.user = user ∧ record.session = session ∧
      canonicalize measures record.content = canonicalize measures content ∧
      now - record.lastUpdatedAt ≤ idempotencyWindow

/-- The episode behind another save. -/
def refreshed (now : Instant) (tags : List String) (record : Record Embedding) :
    Record Embedding :=
  { record with
    lastUpdatedAt := stamp now
    strength := min 1 ((if record.strength = 0 then 4 / 10 else record.strength) + 4 / 100)
    tags := addTags (retagged record).tags tags }

/-- The episode a save adds. -/
def newEpisode (measures : Measures Embedding) (save : Save) (embedding : Embedding)
    (id : String) : Record Embedding :=
  let emotion := clamp save.emotion 0 1
  { id := id
    kind := .episode
    user := save.user
    session := save.session
    content := save.content
    embedding := some embedding
    embeddingModel := measures.embeddingModel
    strength := clamp (35 / 100 + 35 / 100 * emotion) (2 / 10) 1
    importance := clamp (4 / 10 + 5 / 10 * emotion) (1 / 10) 1
    confidence := 6 / 10
    createdAt := stamp save.calledAt
    lastUpdatedAt := stamp save.calledAt
    status := .active
    tags := addTags [pendingTag] save.tags
    sourceRecordIds := []
    factKey := ""
    factValue := ""
    origins := [] }

/-- The tags held of a record. -/
def HeldTags.of (held : HeldTags) (record : Record Embedding) : List String :=
  match held with
  | .rereads | .shares => record.tags
  | .kept tags => tags

/-- The tag of a pending episode is taken off, and the record has a new list. -/
def untagged (held : HeldTags) (record : Record Embedding) : Record Embedding :=
  { record with tags := (held.of record).filter (· ≠ pendingTag) }

/-- Who shares the list of the record keeps it, when the record is given a new one. -/
def Task.detached (recordId : String) (tags : List String) : Task → Task
  | .writing id upsert .shares =>
      .writing id upsert (if id = recordId then .kept tags else .shares)
  | task => task

/-- Change every record with one of the ids. -/
def changeAll (store : Store Embedding) (ids : List String)
    (change : Record Embedding → Record Embedding) : Store Embedding :=
  { store with
    records := store.records.map fun record =>
      if record.id ∈ ids then change record else record }

namespace Memory

/-- An empty memory. -/
def start : Memory Embedding := ⟨⟨Store.empty, [], []⟩, none, []⟩

/-- `_apply_strong_consistent_memory_write` in front of its embedding. -/
def write (measures : Measures Embedding) (memory : Memory Embedding) (user : String)
    (record : Record Embedding) (held : HeldTags) : Memory Embedding :=
  if record.remembered then
    match explicitUpsert measures memory.heap.store user record with
    | some upsert => { memory with waiting := memory.waiting ++ [.writing record.id upsert held] }
    | none => memory
  else memory

/-- `save_memory` in front of its first embedding. -/
def save (measures : Measures Embedding) (memory : Memory Embedding) (text : String)
    (emotion : Rat) (session user : String) (tags : List String) (now : Instant) :
    Memory Embedding :=
  let content := Text.strip text
  if content = "" then memory
  else match lastEpisode measures memory.heap.store user session content now with
    | some existing =>
        let store := memory.heap.store.revise existing (refreshed now tags)
        { memory with heap := { memory.heap with store := store } }.write measures user
          (refreshed now tags existing) .shares
    | none =>
        { memory with
          waiting := memory.waiting ++ [.saving ⟨content, emotion, session, user, tags, now⟩] }

/-- `save_memory` behind its first embedding; an empty one saves nothing. -/
def saved (measures : Measures Embedding) (memory : Memory Embedding) (save : Save) :
    Input Embedding → Option (Memory Embedding)
  | .embedding none _ _ => some memory
  | .embedding (some embedding) id _ =>
      if id ∈ memory.heap.ids then none
      else
        let record := newEpisode measures save embedding id
        let store := (memory.heap.store.append record).linkSemanticEdges measures record
        some ({ memory with heap := { memory.heap with store := store } }.write measures
          save.user record .rereads)
  | _ => none

/-- `save_memory` behind the embedding of the durable record. -/
def written (measures : Measures Embedding) (memory : Memory Embedding) (recordId : String)
    (upsert : Upsert) (held : HeldTags) : Input Embedding → Option (Memory Embedding)
  | .embedding embedding id now =>
      if id ∈ memory.heap.ids then none
      else
        let result := carryOut measures memory.heap.store upsert embedding now id
        if result.2 then
          let tags := ((memory.heap.ref recordId).map Record.tags).getD []
          some { memory with
            heap := { memory.heap with
              store := changeAll result.1 [recordId] (untagged held) }
            waiting := memory.waiting.map (Task.detached recordId tags) }
        else some { memory with heap := { memory.heap with store := result.1 } }
  | _ => none

/-! ## Passes -/

/-- The pass runs on, or waits. -/
def place (memory : Memory Embedding) (result : Heap Embedding × Option Pass) :
    Memory Embedding :=
  match result.2 with
  | none => { memory with heap := result.1, running := none }
  | some pass =>
      match pass.stage with
      | .asking | .applying _ _ | .rewriting _ _ =>
          ⟨result.1, none, memory.waiting ++ [.passing pass]⟩
      | _ => ⟨result.1, some pass, memory.waiting⟩

/-- `prune_records`, and the records it removes. -/
def prune (measures : Measures Embedding) (heap : Heap Embedding) (now : Instant) :
    Heap Embedding :=
  { heap with
    store := heap.store.pruneRecords measures now
    gone := heap.gone ++ heap.store.records.filter fun record => ¬ record.keeps measures now }

/-- What waits goes on with the reply. -/
def resume (measures : Measures Embedding) (memory : Memory Embedding) (task : Task)
    (input : Input Embedding) : Option (Memory Embedding) :=
  match task with
  | .saving save => memory.saved measures save input
  | .writing recordId upsert held => memory.written measures recordId upsert held input
  | .passing pass => (pass.step measures memory.heap input).map memory.place

/-! ## Management -/

/-- The memory with another store. -/
def onto (memory : Memory Embedding) (store : Store Embedding) : Memory Embedding :=
  { memory with heap := { memory.heap with store := store } }

/-- The record a recall returns is reinforced. -/
def reinforced (record : Record Embedding) : Record Embedding :=
  { record with strength := min 1 (record.strength + 8 / 100 * (1 - record.strength)) }

/-- The status of a record is set. -/
def marked (status : Status) (now : Instant) (record : Record Embedding) : Record Embedding :=
  { record with status := status, lastUpdatedAt := stamp now }

/-- `delete_record`: the snapshot does not show a record that was marked deleted. -/
def deleteRecord (memory : Memory Embedding) (id : String) : Memory Embedding :=
  if ∃ record ∈ memory.heap.store.records, record.id = id ∧ record.status ≠ .deleted then
    { memory with heap := memory.heap.remove [id] }
  else memory

/-- `clear_all`. -/
def clearAll (memory : Memory Embedding) : Memory Embedding :=
  { memory with
    heap := { memory.heap with
      store := Store.empty
      gone := memory.heap.gone ++ memory.heap.store.records } }

/-- `manage_memories` behind its confirmation. -/
def manage (memory : Memory Embedding) (ids : List String) (deleted : Bool) (now : Instant) :
    Memory Embedding :=
  memory.onto (changeAll memory.heap.store ids
    (marked (if deleted then .deleted else .invalidated) now))

/-- `update_record_status`. -/
def updateStatus (memory : Memory Embedding) (id : String) (active : Bool) (now : Instant) :
    Memory Embedding :=
  memory.onto (changeAll memory.heap.store [id]
    (marked (if active then .active else .invalidated) now))

/-- A step of the memory. A call, or what waits, goes on only while no pass runs. -/
def step (measures : Measures Embedding) (memory : Memory Embedding) (action : Action Embedding) :
    Option (Memory Embedding) :=
  match memory.running, action with
  | some pass, .statement input => (pass.step measures memory.heap input).map memory.place
  | none, .save text emotion session user tags now =>
      some (memory.save measures text emotion session user tags now)
  | none, .housekeep now => some (memory.place (startPass (prune measures memory.heap now) now))
  | none, .reply index input =>
      (memory.waiting[index]?).bind fun task =>
        { memory with waiting := memory.waiting.eraseIdx index }.resume measures task input
  | none, .recall ids => some (memory.onto (changeAll memory.heap.store ids reinforced))
  | none, .manage ids deleted now => some (memory.manage ids deleted now)
  | none, .updateStatus id active now => some (memory.updateStatus id active now)
  | none, .deleteRecord id => some (memory.deleteRecord id)
  | none, .clearAll => some memory.clearAll
  | _, _ => none

end Memory

/-! ## What a pass holds on to -/

/-- The ids an upsert names or was built from. -/
def upsertIds (upsert : Upsert) : List String := upsert.sourceIds ++ upsert.origins

/-- The ids a stage holds on to. -/
def stageIds : Stage → List String
  | .asking | .upserts _ | .linking | .closing => []
  | .applying upsert _ => upsertIds upsert
  | .fallback rest => rest
  | .rewriting upsert rest => upsertIds upsert ++ rest
  | .merging _ rest => rest.flatMap comparedIds

/-- The upsert a pass waits with. -/
def waitsWith (stage : Stage) (upsert : Upsert) : Prop :=
  (∃ rest, stage = .applying upsert rest) ∨ ∃ rest, stage = .rewriting upsert rest

/-! ## What a step of a pass does -/

/-- A step of a pass asks for its next batch; ends, or breaks off among its links; goes on
without a change of the store; prepares or writes an upsert; links; carries an upsert out; closes
its batch; or compares two records. -/
inductive Moved (measures : Measures Embedding) (heap : Heap Embedding) (pass : Pass) :
    Input Embedding → Heap Embedding × Option Pass → Prop
  | asks (input : Input Embedding) : Moved measures heap pass input (ask heap pass.rest)
  | ends (linked : Nat) : Moved measures heap pass (.raises linked) (heap, none)
  | breaks (linked : Nat) (stage : pass.stage = .linking) :
      Moved measures heap pass (.raises linked)
        ({ heap with store := applyLinks heap.store (pass.links.take linked) pass.batch }, none)
  | turns (input : Input Embedding) (links : List Link) (stage : Stage)
      (within : ∀ id ∈ stageIds stage, id ∈ stageIds pass.stage) :
      Moved measures heap pass input (heap, some { pass with links := links, stage := stage })
  | prepares (now : Instant) (entry : Kind × Payload) (rest : List (Kind × Payload))
      (upsert : Upsert) (stage : pass.stage = .upserts (entry :: rest))
      (prepared : pass.prepared heap entry = some upsert) :
      Moved measures heap pass (.go now) (heap, some { pass with stage := .applying upsert rest })
  | rewrites (now : Instant) (id : String) (rest : List String) (upsert : Upsert)
      (stage : pass.stage = .fallback (id :: rest))
      (written : pass.rewritten measures heap id = some upsert) :
      Moved measures heap pass (.go now) (heap, some { pass with stage := .rewriting upsert rest })
  | links (now : Instant) (next : Stage) (stage : pass.stage = .linking)
      (within : ∀ id ∈ stageIds next, id ∈ pass.batch) :
      Moved measures heap pass (.go now)
        ({ heap with store := applyLinks heap.store pass.links pass.batch },
          some { pass with stage := next })
  | carries (upsert : Upsert) (embedding : Option Embedding) (id : String) (now : Instant)
      (next : Stage) (stage : waitsWith pass.stage upsert)
      (within : ∀ id ∈ stageIds next, id ∈ stageIds pass.stage) (unused : id ∉ heap.ids) :
      Moved measures heap pass (.embedding embedding id now)
        ({ heap with store := (carryOut measures heap.store upsert embedding now id).1 },
          some { pass with
            appliedAny := (carryOut measures heap.store upsert embedding now id).2 ||
              pass.appliedAny
            stage := next })
  | closes (now : Instant) (stage : pass.stage = .closing) :
      Moved measures heap pass (.go now) (pass.close heap, some { pass with
        stage := .merging false ((pass.close heap).store.comparisonsOf measures pass.user) })
  | compares (now : Instant) (left right : String) (rest : List Comparison)
      (stage : pass.stage = .merging true (.pair left right :: rest)) :
      Moved measures heap pass (.go now) (compare measures heap left right now,
        some { pass with stage := .merging true rest })

theorem go_moved {measures : Measures Embedding} {heap : Heap Embedding} {pass : Pass}
    {now : Instant} {next : Heap Embedding × Option Pass}
    (taken : pass.go measures heap now = some next) : Moved measures heap pass (.go now) next := by
  have turn : ∀ stage : Stage, (∀ id ∈ stageIds stage, id ∈ stageIds pass.stage) →
      Moved measures heap pass (.go now) (heap, some { pass with stage := stage }) :=
    fun stage within => .turns (.go now) pass.links stage within
  unfold Pass.go at taken
  dsimp only at taken
  split at taken
  case h_1 stage =>
    obtain rfl := Option.some.inj taken
    exact turn .linking fun id member => (List.not_mem_nil member).elim
  case h_2 entry rest stage =>
    split at taken
    · rename_i upsert prepared
      obtain rfl := Option.some.inj taken
      exact .prepares now entry rest upsert stage prepared
    · obtain rfl := Option.some.inj taken
      exact turn (.upserts rest) fun id member => (List.not_mem_nil member).elim
  case h_3 stage =>
    split at taken
    · obtain rfl := Option.some.inj taken
      exact .links now _ stage fun id member => member
    · obtain rfl := Option.some.inj taken
      exact .links now _ stage fun id member => (List.not_mem_nil member).elim
  case h_4 stage =>
    obtain rfl := Option.some.inj taken
    exact turn .closing fun id member => (List.not_mem_nil member).elim
  case h_5 id rest stage =>
    split at taken
    · rename_i upsert written
      obtain rfl := Option.some.inj taken
      exact .rewrites now id rest upsert stage written
    · obtain rfl := Option.some.inj taken
      refine turn (.fallback rest) fun id member => ?_
      rw [stage]
      exact List.mem_cons_of_mem _ member
  case h_6 stage =>
    obtain rfl := Option.some.inj taken
    exact .closes now stage
  case h_7 active stage =>
    obtain rfl := Option.some.inj taken
    exact .asks (.go now)
  case h_8 active left rest stage =>
    obtain rfl := Option.some.inj taken
    refine turn _ fun id member => ?_
    rw [stage]
    exact List.mem_append_right _ member
  case h_9 active left right rest stage =>
    obtain rfl := Option.some.inj taken
    cases active with
    | true => exact .compares now left right rest stage
    | false =>
      refine turn (.merging false rest) fun id member => ?_
      rw [stage]
      exact List.mem_append_right _ member
  all_goals cases taken

theorem step_moved {measures : Measures Embedding} {heap : Heap Embedding} {pass : Pass}
    {input : Input Embedding} {next : Heap Embedding × Option Pass}
    (taken : pass.step measures heap input = some next) : Moved measures heap pass input next := by
  have carried : ∀ (upsert : Upsert) (embedding : Option Embedding) (id : String) (now : Instant)
      (stage : Stage), waitsWith pass.stage upsert →
        (∀ id ∈ stageIds stage, id ∈ stageIds pass.stage) →
          pass.carry measures heap upsert embedding id now stage = some next →
            Moved measures heap pass (.embedding embedding id now) next := by
    intro upsert embedding id now stage waits within taken
    unfold Pass.carry at taken
    obtain ⟨unused, carried⟩ := Option.ite_none_left_eq_some.mp taken
    obtain rfl := Option.some.inj carried
    exact .carries upsert embedding id now stage waits within unused
  cases input with
  | patch answer =>
    simp only [Pass.step] at taken
    split at taken
    · obtain rfl := Option.some.inj taken
      exact .asks _
    · obtain rfl := Option.some.inj taken
      exact .turns _ _ _ fun id member => (List.not_mem_nil member).elim
    · cases taken
  | embedding embedding id now =>
    simp only [Pass.step] at taken
    split at taken
    · rename_i upsert rest stage
      exact carried upsert embedding id now _ (.inl ⟨rest, stage⟩)
        (fun id member => (List.not_mem_nil member).elim) taken
    · rename_i upsert rest stage
      refine carried upsert embedding id now _ (.inr ⟨rest, stage⟩) (fun id member => ?_) taken
      rw [stage]
      exact List.mem_append_right _ member
    · cases taken
  | go now => exact go_moved taken
  | raises linked =>
    simp only [Pass.step] at taken
    split at taken
    · obtain rfl := Option.some.inj taken
      exact .ends _
    · rename_i stage
      obtain rfl := Option.some.inj taken
      exact .breaks _ stage
    · cases taken

/-! ## The ids that were given -/

/-- The ids stay, or one that was not given yet is added. -/
def Grows (before after : Heap Embedding) : Prop :=
  after.ids.Perm before.ids ∨ ∃ id ∉ before.ids, after.ids.Perm (id :: before.ids)

theorem Grows.distinct {before after : Heap Embedding} (grows : Grows before after)
    (distinct : before.ids.Nodup) : after.ids.Nodup := by
  rcases grows with same | ⟨id, unused, more⟩
  · exact same.nodup_iff.mpr distinct
  · exact more.nodup_iff.mpr (List.nodup_cons.mpr ⟨unused, distinct⟩)

/-- A store with the same ids. -/
theorem grows_of_ids {heap : Heap Embedding} {store : Store Embedding}
    (same : store.ids = heap.store.ids) : Grows heap { heap with store := store } := by
  left
  unfold Store.ids at same
  simp only [Heap.ids, List.map_append, same]
  exact List.Perm.refl _

/-- A store with one more id. -/
theorem grows_of_added {heap : Heap Embedding} {store : Store Embedding} {id : String}
    (unused : id ∉ heap.ids) (more : store.ids = heap.store.ids ++ [id]) :
    Grows heap { heap with store := store } := by
  refine .inr ⟨id, unused, ?_⟩
  unfold Store.ids at more
  simp only [Heap.ids, List.map_append, more, List.append_assoc]
  exact List.perm_append_comm_assoc ..

theorem carryOut_grows (measures : Measures Embedding) {heap : Heap Embedding} (upsert : Upsert)
    (embedding : Option Embedding) (now : Instant) {id : String} (unused : id ∉ heap.ids) :
    Grows heap
      { heap with store := (carryOut measures heap.store upsert embedding now id).1 } := by
  rcases carryOut_ids measures heap.store upsert embedding now id with same | more
  · exact grows_of_ids same
  · exact grows_of_added unused more

theorem close_grows (heap : Heap Embedding) (pass : Pass) : Grows heap (pass.close heap) := by
  unfold Pass.close
  split
  · exact .inl (remove_ids_perm heap pass.batch)
  · exact grows_of_ids (retag_ids heap.store pass.batch)

theorem compare_grows (measures : Measures Embedding) (heap : Heap Embedding)
    (left right : String) (now : Instant) : Grows heap (compare measures heap left right now) := by
  unfold MemoryConsolidation.compare
  split
  · exact grows_of_ids (compared_ids (comparePair_cases ..))
  · exact .inl (List.Perm.refl _)

theorem ask_grows (heap : Heap Embedding) (rest : List (String × List String)) :
    Grows heap (ask heap rest).1 := by
  cases rest <;> exact .inl (List.Perm.refl _)

theorem Moved.grows {measures : Measures Embedding} {heap : Heap Embedding} {pass : Pass}
    {input : Input Embedding} {next : Heap Embedding × Option Pass}
    (moved : Moved measures heap pass input next) : Grows heap next.1 := by
  cases moved with
  | asks => exact ask_grows heap pass.rest
  | ends => exact .inl (List.Perm.refl _)
  | turns => exact .inl (List.Perm.refl _)
  | prepares => exact .inl (List.Perm.refl _)
  | rewrites => exact .inl (List.Perm.refl _)
  | breaks =>
    apply grows_of_ids
    simp only [Store.ids, applyLinks_records]
  | links =>
    apply grows_of_ids
    simp only [Store.ids, applyLinks_records]
  | carries upsert embedding id now next stage within unused =>
    exact carryOut_grows measures upsert embedding now unused
  | closes => exact close_grows heap pass
  | compares now left right => exact compare_grows measures heap left right now

/-! ## What a step of the memory does to the ids -/

@[simp] theorem write_heap (measures : Measures Embedding) (memory : Memory Embedding)
    (user : String) (record : Record Embedding) (held : HeldTags) :
    (memory.write measures user record held).heap = memory.heap := by
  unfold Memory.write
  split
  · split <;> rfl
  · rfl

@[simp] theorem place_heap (memory : Memory Embedding) (result : Heap Embedding × Option Pass) :
    (memory.place result).heap = result.1 := by
  unfold Memory.place
  split
  · rfl
  · split <;> rfl

theorem changeAll_ids (change : Record Embedding → Record Embedding)
    (keeps : ∀ record, (change record).id = record.id) (store : Store Embedding)
    (ids : List String) : (changeAll store ids change).ids = store.ids := by
  unfold changeAll Store.ids
  rw [List.map_map]
  apply List.map_congr_left
  intro record _
  simp only [Function.comp_apply]
  split
  · exact keeps record
  · rfl

theorem append_ids (measures : Measures Embedding) (store : Store Embedding)
    (record : Record Embedding) :
    ((store.append record).linkSemanticEdges measures record).ids = store.ids ++ [record.id] := by
  simp [Store.ids, Store.append]

/-- Records that are taken out of the store are still referred to. -/
theorem grows_of_removed {heap : Heap Embedding} {store : Store Embedding}
    (keep : Record Embedding → Bool) {removed : List (Record Embedding)}
    (kept : store.records = heap.store.records.filter keep)
    (rest : removed = heap.store.records.filter fun record => !keep record) :
    Grows heap ⟨store, heap.gone ++ removed, heap.sent⟩ := by
  left
  unfold Heap.ids
  rw [kept, rest]
  apply List.Perm.map
  refine (List.Perm.append_left _ List.perm_append_comm).trans ?_
  rw [← List.append_assoc]
  exact (List.filter_append_perm keep heap.store.records).append_right _

theorem prune_grows (measures : Measures Embedding) (heap : Heap Embedding) (now : Instant) :
    Grows heap (Memory.prune measures heap now) :=
  grows_of_removed (fun record => decide (record.keeps measures now)) rfl
    (List.filter_congr fun _ _ => decide_not)

theorem saved_grows {measures : Measures Embedding} (memory : Memory Embedding)
    {next : Memory Embedding} {save : Save} {input : Input Embedding}
    (taken : memory.saved measures save input = some next) :
    Grows memory.heap next.heap := by
  unfold Memory.saved at taken
  split at taken
  · obtain rfl := Option.some.inj taken
    exact .inl (List.Perm.refl _)
  · obtain ⟨unused, saved⟩ := Option.ite_none_left_eq_some.mp taken
    obtain rfl := Option.some.inj saved
    rw [write_heap]
    exact grows_of_added unused (append_ids ..)
  · cases taken

theorem written_grows {measures : Measures Embedding} (memory : Memory Embedding)
    {next : Memory Embedding} {recordId : String} {upsert : Upsert} {held : HeldTags}
    {input : Input Embedding}
    (taken : memory.written measures recordId upsert held input = some next) :
    Grows memory.heap next.heap := by
  unfold Memory.written at taken
  split at taken
  · rename_i embedding id now
    obtain ⟨unused, written⟩ := Option.ite_none_left_eq_some.mp taken
    have carried := carryOut_ids measures memory.heap.store upsert embedding now id
    dsimp only at written
    split at written
    · obtain rfl := Option.some.inj written
      rcases carried with same | more
      · exact grows_of_ids ((changeAll_ids (untagged held) (fun _ => rfl) _ _).trans same)
      · exact grows_of_added unused ((changeAll_ids (untagged held) (fun _ => rfl) _ _).trans more)
    · obtain rfl := Option.some.inj written
      rcases carried with same | more
      · exact grows_of_ids same
      · exact grows_of_added unused more
  · cases taken

/-- A step gives at most one id, and takes none back. -/
theorem step_grows {measures : Measures Embedding} {memory next : Memory Embedding}
    {action : Action Embedding} (taken : memory.step measures action = some next) :
    Grows memory.heap next.heap := by
  have passed : ∀ (pass : Pass) (input : Input Embedding) (base : Memory Embedding),
      base.heap = memory.heap →
        (pass.step measures memory.heap input).map base.place = some next →
          Grows memory.heap next.heap := by
    intro pass input base same steps
    obtain ⟨result, moved, rfl⟩ := Option.map_eq_some_iff.mp steps
    rw [place_heap]
    exact (step_moved moved).grows
  unfold Memory.step at taken
  split at taken
  · exact passed _ _ memory rfl taken
  · rename_i text emotion session user tags now _
    obtain rfl := Option.some.inj taken
    unfold Memory.save
    dsimp only
    split
    · exact .inl (List.Perm.refl _)
    split
    · rw [write_heap]
      exact grows_of_ids (@Store.revise_ids _ (refreshed now tags) (fun _ => rfl) _ _)
    · exact .inl (List.Perm.refl _)
  · rename_i now _
    obtain rfl := Option.some.inj taken
    rw [place_heap]
    have pruned := prune_grows measures memory.heap now
    unfold startPass
    generalize pendingBatches (Memory.prune measures memory.heap now).store now = batches
    cases batches <;> exact pruned
  · rename_i index input _
    obtain ⟨task, _, resumed⟩ := Option.bind_eq_some_iff.mp taken
    generalize memory.waiting.eraseIdx index = waiting at resumed
    cases task with
    | saving save => exact saved_grows { memory with waiting := waiting } resumed
    | writing recordId upsert held => exact written_grows { memory with waiting := waiting } resumed
    | passing pass => exact passed pass input { memory with waiting := waiting } rfl resumed
  · obtain rfl := Option.some.inj taken
    exact grows_of_ids (changeAll_ids Memory.reinforced (fun _ => rfl) _ _)
  · obtain rfl := Option.some.inj taken
    exact grows_of_ids (changeAll_ids (Memory.marked _ _) (fun _ => rfl) _ _)
  · obtain rfl := Option.some.inj taken
    exact grows_of_ids (changeAll_ids (Memory.marked _ _) (fun _ => rfl) _ _)
  · obtain rfl := Option.some.inj taken
    unfold Memory.deleteRecord
    split
    · exact .inl (remove_ids_perm memory.heap _)
    · exact .inl (List.Perm.refl _)
  · obtain rfl := Option.some.inj taken
    exact grows_of_removed (fun _ => false) (by simp [Store.empty]) (by simp)
  · cases taken

end

/-! Actions of small runs, with embeddings along the axes. -/

/-- The user asks to remember a preference. -/
def remembers (text : String) (now : Instant) : Action Nat :=
  .save text 1 "s" "u" [rememberTag, rememberCategoryTag ++ "preference"] now

/-- The embedding the first waiting call asked for. -/
def embeds (axis : Nat) (id : String) (now : Instant) : Action Nat :=
  .reply 0 (.embedding (some axis) id now)

end MeetYou.MemoryRuns
