import MeetYou.Foundation.Runs
import MeetYou.MemoryStore

/-!
# Consolidating pending episodes

A pass takes one batch of pending episodes for each user that has enough of them, or old
ones. It asks the housekeeping model for a patch and carries the upserts of the patch out
one by one. It links episodes. If nothing applied and the batch has episodes the user
asked to remember, it writes those itself. Then the batch is deleted, as soon as anything
applied or nothing in it was to be remembered, and the durable records of the user are
compared and merged. The pass waits for the patch and for the embedding of each upsert.
Everything between runs statement by statement here.

What was to be remembered survives a pass when each batch that something applied for was named
by what the upserts say: a board beside the store notes the profiles and facts that were in force
when the batch was sent, and each upsert that got its embedding, which joins them, takes the place
of a profile or is turned down. The records in force stay in step with the board. Behind the
deletion it is enough that no record is merged into one that was itself taken in before.
-/

namespace MeetYou.MemoryConsolidation

open Runs MemoryStore

/-! ## The heap and its batches -/

/-- The store, the records that were removed but are still referred to, and the records
whose contents went to the housekeeping model, request by request. -/
structure Heap (Embedding : Type) where
  store : Store Embedding
  gone : List (Record Embedding)
  sent : List (List String)

section
variable {Embedding : Type}

namespace Heap

/-- The record an id refers to. -/
def ref (heap : Heap Embedding) (id : String) : Option (Record Embedding) :=
  (heap.store.records ++ heap.gone).find? fun record => record.id = id

/-- The ids that were given. -/
def ids (heap : Heap Embedding) : List String := (heap.store.records ++ heap.gone).map Record.id

/-- The records are removed from the store. -/
def remove (heap : Heap Embedding) (ids : List String) : Heap Embedding :=
  { heap with
    store := heap.store.deleteRecords ids
    gone := heap.gone ++ heap.store.records.filter fun record => record.id ∈ ids }

end Heap

/-- The user of a record, `global` where it has none. -/
def userOr (record : Record Embedding) : String :=
  if record.user = "" then "global" else record.user

/-- How many pending episodes are enough for a pass. -/
def pendingTriggerCount : Nat := 20

/-- How old the oldest one must be where there are fewer. -/
def pendingTriggerAge : Int := seconds (30 * 60)

/-- How many episodes a batch has at most. -/
def pendingBatchSize : Nat := 20

/-- The pending episodes of the user, the oldest first. -/
def pendingOf (store : Store Embedding) (user : String) : List (Record Embedding) :=
  (store.records.filter fun record => record.pending ∧ userOr record = user).insertionSort
    fun first second => first.createdAt ≤ second.createdAt

/-- The users with pending episodes, in the order the store first names them. -/
def pendingUsers (store : Store Embedding) : List String :=
  ((store.records.filter fun record => record.pending).map userOr).reverse.dedup.reverse

/-- The episodes of the user make a batch. -/
def triggered (records : List (Record Embedding)) (now : Instant) : Prop :=
  pendingTriggerCount ≤ records.length ∨
    ∀ oldest ∈ records.head?, pendingTriggerAge ≤ now - oldest.createdAt

instance (records : List (Record Embedding)) (now : Instant) : Decidable (triggered records now) :=
  inferInstanceAs (Decidable (_ ∨ _))

/-- `pending_batches`: each user with the ids of the batch. -/
def pendingBatches (store : Store Embedding) (now : Instant) : List (String × List String) :=
  ((pendingUsers store).filter fun user => triggered (pendingOf store user) now).map fun user =>
    (user, ((pendingOf store user).take pendingBatchSize).map Record.id)

/-! ## Passes -/

/-- An entry of `links`. -/
structure Link where
  relation : String
  fromId : String
  toId : String

/-- What the housekeeping model answers. -/
structure Patch where
  profileUpserts : List Payload
  factUpserts : List Payload
  links : List Link

/-- Where a pass stands. It waits at `asking`, `applying` and `rewriting`. -/
inductive Stage
  | asking
  | upserts (rest : List (Kind × Payload))
  | applying (upsert : Upsert) (rest : List (Kind × Payload))
  | linking
  | fallback (rest : List String)
  | rewriting (upsert : Upsert) (rest : List String)
  | closing
  | merging (active : Bool) (rest : List Comparison)

/-- A pass: its batch and user, what the model was sent for it, the links of the patch,
whether anything applied, and the batches behind it. -/
structure Pass where
  user : String
  batch : List String
  sent : List String
  links : List Link
  appliedAny : Bool
  stage : Stage
  rest : List (String × List String)

/-- What a pass goes on with: the answer of the model, an embedding with a new id, the
next statement, or an exception of a malformed patch, which at its links comes behind the
first `linked` of them. -/
inductive Input (Embedding : Type)
  | patch (answer : Option Patch)
  | embedding (embedding : Option Embedding) (id : String) (now : Instant)
  | go (now : Instant)
  | raises (linked : Nat)

/-- `existing_profile_context` and `existing_fact_context`. -/
def existingContext (store : Store Embedding) (kind : Kind) (user : String) : List String :=
  (((store.records.filter fun record =>
      record.kind = kind ∧ record.status = .active ∧ record.user = user).insertionSort
    fun first second => second.lastUpdatedAt ≤ first.lastUpdatedAt).take 12).map Record.id

/-- The model is asked for the patch of the next batch. -/
def ask (heap : Heap Embedding) : List (String × List String) → Heap Embedding × Option Pass
  | [] => (heap, none)
  | (user, batch) :: rest =>
      let sent := batch ++ (existingContext heap.store .profile user ++
        existingContext heap.store .fact user)
      ({ heap with sent := heap.sent ++ [sent] },
        some ⟨user, batch, sent, [], false, .asking, rest⟩)

/-- The episodes of the batch that are to be remembered. -/
def Pass.rememberedIds (pass : Pass) (heap : Heap Embedding) : List String :=
  pass.batch.filter fun id => (heap.ref id).any fun record => decide record.remembered

/-- The relation of a link. -/
def Link.related (link : Link) : Option Relation :=
  if Text.strip link.relation = "same_entity" then some { sameEntity := true }
  else if Text.strip link.relation = "same_project" then some { sameProject := true }
  else none

/-- One entry of `apply_links`. -/
def applyLink (batch : List String) (store : Store Embedding) (link : Link) : Store Embedding :=
  let fromId := Text.strip link.fromId
  let toId := Text.strip link.toId
  if fromId ∈ batch ∧ toId ∈ batch then
    match link.related with
    | some relation => store.upsertEdge fromId toId relation
    | none => store
  else store

/-- `apply_links`. -/
def applyLinks (store : Store Embedding) (links : List Link) (batch : List String) :
    Store Embedding :=
  links.foldl (applyLink batch) store

/-- The record waits for the next pass. -/
def retagged (record : Record Embedding) : Record Embedding :=
  if pendingTag ∈ record.tags then record else { record with tags := record.tags ++ [pendingTag] }

/-- The episodes of the batch wait for the next pass. -/
def retag (store : Store Embedding) (batch : List String) : Store Embedding :=
  { store with
    records := store.records.map fun record =>
      if record.id ∈ batch then retagged record else record }

/-- The upsert a pass prepares of the next payload. -/
def Pass.prepared (pass : Pass) (heap : Heap Embedding) (entry : Kind × Payload) :
    Option Upsert :=
  prepare heap.store entry.1 pass.user entry.2 pass.sent

/-- The upsert a pass writes for an episode of its batch, where it is to be remembered. Its tags
are read at its turn: what the embedding of an earlier one let in may have changed them. -/
def Pass.rewritten (measures : Measures Embedding) (pass : Pass) (heap : Heap Embedding)
    (id : String) : Option Upsert :=
  (heap.ref id).bind fun record =>
    if record.remembered then explicitUpsert measures heap.store pass.user record else none

/-- The batch is finished with. -/
def Pass.close (pass : Pass) (heap : Heap Embedding) : Heap Embedding :=
  if pass.appliedAny ∨ pass.rememberedIds heap = [] then heap.remove pass.batch
  else { heap with store := retag heap.store pass.batch }

/-- One comparison of a pass. -/
def compare (measures : Measures Embedding) (heap : Heap Embedding) (left right : String)
    (now : Instant) : Heap Embedding :=
  match heap.store.recordById left, heap.store.recordById right with
  | some one, some other => { heap with store := heap.store.comparePair measures one other now }
  | _, _ => heap

/-- The next statement of a pass that does not wait. -/
def Pass.go (measures : Measures Embedding) (heap : Heap Embedding) (pass : Pass) (now : Instant) :
    Option (Heap Embedding × Option Pass) :=
  let onto := fun stage => some (heap, some { pass with stage := stage })
  match pass.stage with
  | .upserts [] => onto .linking
  | .upserts (entry :: rest) =>
      match pass.prepared heap entry with
      | some upsert => onto (.applying upsert rest)
      | none => onto (.upserts rest)
  | .linking =>
      let linked := { heap with store := applyLinks heap.store pass.links pass.batch }
      if ¬ pass.appliedAny ∧ pass.rememberedIds heap ≠ [] then
        some (linked, some { pass with stage := .fallback pass.batch })
      else some (linked, some { pass with stage := .closing })
  | .fallback [] => onto .closing
  | .fallback (id :: rest) =>
      match pass.rewritten measures heap id with
      | some upsert => onto (.rewriting upsert rest)
      | none => onto (.fallback rest)
  | .closing =>
      let closed := pass.close heap
      some (closed, some { pass with
        stage := .merging false (closed.store.comparisonsOf measures pass.user) })
  | .merging _ [] => some (ask heap pass.rest)
  | .merging _ (.row left :: rest) =>
      onto (.merging ((heap.store.recordById left).any fun record => record.status = .active) rest)
  | .merging active (.pair left right :: rest) =>
      some (if active then compare measures heap left right now else heap,
        some { pass with stage := .merging active rest })
  | .asking => none
  | .applying _ _ => none
  | .rewriting _ _ => none

/-- An upsert of a pass is carried out. -/
def Pass.carry (measures : Measures Embedding) (heap : Heap Embedding) (pass : Pass)
    (upsert : Upsert) (embedding : Option Embedding) (id : String) (now : Instant)
    (stage : Stage) : Option (Heap Embedding × Option Pass) :=
  if id ∈ heap.ids then none
  else
    let result := carryOut measures heap.store upsert embedding now id
    some ({ heap with store := result.1 },
      some { pass with appliedAny := result.2 || pass.appliedAny, stage := stage })

/-- A step of a pass; no id is given twice. -/
def Pass.step (measures : Measures Embedding) (heap : Heap Embedding) (pass : Pass) :
    Input Embedding → Option (Heap Embedding × Option Pass)
  | .patch answer =>
      match pass.stage, answer with
      | .asking, none => some (ask heap pass.rest)
      | .asking, some patch =>
          some (heap, some { pass with
            links := patch.links
            stage := .upserts (patch.profileUpserts.map (Prod.mk .profile) ++
              patch.factUpserts.map (Prod.mk .fact)) })
      | _, _ => none
  | .embedding embedding id now =>
      match pass.stage with
      | .applying upsert rest => pass.carry measures heap upsert embedding id now (.upserts rest)
      | .rewriting upsert rest => pass.carry measures heap upsert embedding id now (.fallback rest)
      | _ => none
  | .go now => pass.go measures heap now
  | .raises linked =>
      match pass.stage with
      | .upserts _ => some (heap, none)
      | .linking => some ({ heap with
          store := applyLinks heap.store (pass.links.take linked) pass.batch }, none)
      | _ => none

/-- `consolidate_pending_records` by itself. -/
def passStep (measures : Measures Embedding) (state : Heap Embedding × Option Pass)
    (input : Input Embedding) : Option (Heap Embedding × Option Pass) :=
  state.2.bind fun pass => pass.step measures state.1 input

/-- The start of a pass. -/
def startPass (heap : Heap Embedding) (now : Instant) : Heap Embedding × Option Pass :=
  ask heap (pendingBatches heap.store now)

/-! ## What was to be remembered -/

/-- The episode is stored and pending. -/
def Stored (store : Store Embedding) (user id : String) : Prop :=
  ∃ record ∈ store.records, record.id = id ∧ record.pending ∧ userOr record = user

/-- An active durable record of the user names the episode. -/
def Covered (store : Store Embedding) (user id : String) : Prop :=
  ∃ record ∈ store.records, record.kind ≠ .episode ∧ record.status = .active ∧
    record.user = user ∧ id ∈ record.sourceRecordIds

/-- The episode is in a batch of the pass, and the user asked to remember it. -/
def Owed (start : Heap Embedding) (now : Instant) (user id : String) : Prop :=
  ∃ batch, (user, batch) ∈ pendingBatches start.store now ∧ id ∈ batch ∧
    ∃ record, start.ref id = some record ∧ record.remembered

/-- Each episode of the pass that was to be remembered is pending, or a durable record
names it. -/
def Remembers (start : Heap Embedding) (now : Instant) (state : Heap Embedding × Option Pass) :
    Prop :=
  ∀ user id, Owed start now user id →
    Stored state.1.store user id ∨ Covered state.1.store user id

instance (store : Store Embedding) (user id : String) : Decidable (Covered store user id) :=
  inferInstanceAs (Decidable (∃ record ∈ store.records, _))

/-- A pending episode that the user asked to remember had the id. -/
def Wanted (start : Heap Embedding) (id : String) : Prop :=
  ∃ record ∈ start.store.records, record.id = id ∧ record.pending ∧ record.remembered

instance (start : Heap Embedding) (id : String) : Decidable (Wanted start id) :=
  inferInstanceAs (Decidable (∃ record ∈ start.store.records, _))

/-! ## What the upserts say -/

/-- What a profile says: its value in canonical form, under a key, of the records it names. -/
structure Said where
  key : String
  value : String
  names : List String

/-- What is said of a user: the profiles in force, in the order they were added, and the records
that facts in force name. -/
structure Board where
  profiles : List Said
  facts : List String

/-- The first profile under the key is replaced. -/
def replaceSaid (key : String) (new : List Said) : List Said → List Said
  | [] => []
  | said :: rest => if said.key = key then new ++ rest else said :: replaceSaid key new rest

/-- What a profile upsert says of the ids it names. -/
def Upsert.said (measures : Measures Embedding) (upsert : Upsert) : Said :=
  ⟨upsert.factKey, canonicalize measures upsert.factValue, upsert.sourceIds⟩

/-- An upsert is heard. A profile that says what the first one under its key says adds to what
that one names. Another one takes its place, if it is certain enough, and else goes unheard. -/
def Board.say (measures : Measures Embedding) (board : Board) (upsert : Upsert) : Board :=
  if upsert.kind = .profile then
    match board.profiles.find? fun said => said.key = upsert.factKey with
    | none => { board with profiles := board.profiles ++ [Upsert.said measures upsert] }
    | some said =>
        if said.value = canonicalize measures upsert.factValue then
          let joined := { said with names := unionIds said.names upsert.sourceIds }
          { board with profiles := replaceSaid upsert.factKey [joined] board.profiles }
        else if upsert.confidence < conflictConfidenceThreshold then board
        else { board with
          profiles := replaceSaid upsert.factKey [] board.profiles ++
            [Upsert.said measures upsert] }
  else { board with facts := board.facts ++ upsert.sourceIds }

/-- The board names the record. -/
def Board.Names (board : Board) (id : String) : Prop :=
  id ∈ board.facts ∨ ∃ said ∈ board.profiles, id ∈ said.names

instance (board : Board) (id : String) : Decidable (board.Names id) :=
  inferInstanceAs (Decidable (_ ∨ ∃ said ∈ board.profiles, _))

/-- What a record says, where it is a profile of the user in force. -/
def saidOf (measures : Measures Embedding) (user : String) (record : Record Embedding) :
    List Said :=
  if record.kind = .profile ∧ record.status = .active ∧ record.user = user then
    [⟨record.factKey, canonicalize measures record.factValue, record.sourceRecordIds⟩]
  else []

/-- The profiles and facts of the user that are in force. -/
def boardOf (measures : Measures Embedding) (store : Store Embedding) (user : String) : Board where
  profiles := store.records.flatMap (saidOf measures user)
  facts := (store.records.filter fun record =>
    record.kind = .fact ∧ record.status = .active ∧ record.user = user).flatMap
      Record.sourceRecordIds

/-- The upsert whose embedding arrives. -/
def Pass.heard (pass : Pass) (input : Input Embedding) : Option Upsert :=
  match pass.stage, input with
  | .applying upsert _, .embedding (some _) _ _ => some upsert
  | .rewriting upsert _, .embedding (some _) _ _ => some upsert
  | _, _ => none

/-- The board beside a pass: it is written anew when a batch is sent, and hears the upserts of
the batch whose embeddings arrive. -/
def noted (measures : Measures Embedding) (board : Board) (before : Option Pass)
    (input : Input Embedding) (next : Heap Embedding × Option Pass) : Board :=
  match next.2.map Pass.stage, next.2 with
  | some .asking, some pass => boardOf measures next.1.store pass.user
  | _, _ => ((before.bind fun pass => pass.heard input).map (board.say measures)).getD board

/-- `consolidate_pending_records`, with the board beside it. -/
def notedStep (measures : Measures Embedding) (state : (Heap Embedding × Option Pass) × Board)
    (input : Input Embedding) : Option ((Heap Embedding × Option Pass) × Board) :=
  (passStep measures state.1 input).map fun next =>
    (next, noted measures state.2 state.1.2 input next)

/-- The start of a pass with what its first batch finds in force. -/
def notedStart (measures : Measures Embedding) (heap : Heap Embedding) (now : Instant) :
    (Heap Embedding × Option Pass) × Board :=
  (startPass heap now,
    (((startPass heap now).2).map fun pass => boardOf measures heap.store pass.user).getD ⟨[], []⟩)

/-- A batch something applied for is closed only when the upserts name each episode of it that
was to be remembered. A record is merged into an active one, or it names no such episode. -/
def Pass.closesNamed (measures : Measures Embedding) (start heap : Heap Embedding) (board : Board)
    (pass : Pass) (input : Input Embedding) : Prop :=
  match pass.stage, input with
  | .closing, .go _ => pass.appliedAny → ∀ id ∈ pass.rememberedIds heap, board.Names id
  | .merging true (.pair left right :: _), .go _ =>
      ∀ one ∈ heap.store.recordById left, ∀ other ∈ heap.store.recordById right,
        other.status = .active → comparable one other →
          longTermMergeSimThreshold ≤ similarity measures one.embedding other.embedding →
            (mergeTargetForPair one other).1.status = .active ∨
              ∀ id ∈ (mergeTargetForPair one other).2.sourceRecordIds, ¬Wanted start id
  | _, _ => True

instance (measures : Measures Embedding) (start heap : Heap Embedding) (board : Board)
    (pass : Pass) (input : Input Embedding) :
    Decidable (pass.closesNamed measures start heap board input) := by
  unfold Pass.closesNamed
  split <;> infer_instance

/-- Each statement of the pass meets what it is to leave covered. -/
def ClosesNamed (measures : Measures Embedding) (start : Heap Embedding)
    (state : (Heap Embedding × Option Pass) × Board) (input : Input Embedding) : Prop :=
  ∀ pass ∈ state.1.2, pass.closesNamed measures start state.1.1 state.2 input

instance (measures : Measures Embedding) (start : Heap Embedding)
    (state : (Heap Embedding × Option Pass) × Board) (input : Input Embedding) :
    Decidable (ClosesNamed measures start state input) :=
  inferInstanceAs (Decidable (∀ pass ∈ state.1.2, _))

/-! ### The records in force and the board -/

/-- The records in force say what the board says. -/
structure Tells (measures : Measures Embedding) (store : Store Embedding) (user : String)
    (board : Board) : Prop where
  profiles : store.records.flatMap (saidOf measures user) = board.profiles
  facts : ∀ id ∈ board.facts, ∃ record ∈ store.records, record.kind = .fact ∧
    record.status = .active ∧ record.user = user ∧ id ∈ record.sourceRecordIds

/-- The board that is read from a store tells what the store has in force. -/
theorem tells_boardOf (measures : Measures Embedding) (store : Store Embedding) (user : String) :
    Tells measures store user (boardOf measures store user) := by
  refine ⟨rfl, fun id named => ?_⟩
  obtain ⟨record, listed, names⟩ := List.mem_flatMap.mp named
  obtain ⟨member, inForce⟩ := List.mem_filter.mp listed
  obtain ⟨kind, active, own⟩ := of_decide_eq_true inForce
  exact ⟨record, member, kind, active, own, names⟩

/-- What the board names is covered. -/
theorem Tells.covered {measures : Measures Embedding} {store : Store Embedding} {user : String}
    {board : Board} (tells : Tells measures store user board) {id : String}
    (names : board.Names id) : Covered store user id := by
  rcases names with fact | ⟨said, among, named⟩
  · obtain ⟨record, member, kind, active, own, names⟩ := tells.facts id fact
    exact ⟨record, member, by rw [kind]; decide, active, own, names⟩
  · rw [← tells.profiles] at among
    obtain ⟨record, member, spoken⟩ := List.mem_flatMap.mp among
    unfold saidOf at spoken
    split at spoken
    · rename_i inForce
      obtain rfl := List.mem_singleton.mp spoken
      exact ⟨record, member, by rw [inForce.1]; decide, inForce.2.1, inForce.2.2, named⟩
    · cases spoken

/-- The first profile under a key is the first one the board has under it. -/
theorem find_said (measures : Measures Embedding) (user key : String)
    (records : List (Record Embedding)) :
    (records.flatMap (saidOf measures user)).find? (fun said => said.key = key) =
      (records.find? fun record => record.kind = .profile ∧ record.status = .active ∧
        record.user = user ∧ record.factKey = key).map fun record =>
          ⟨record.factKey, canonicalize measures record.factValue, record.sourceRecordIds⟩ := by
  induction records with
  | nil => rfl
  | cons record rest inductionHypothesis =>
    rw [List.flatMap_cons, List.find?_append, inductionHypothesis, List.find?_cons]
    unfold saidOf
    by_cases inForce : record.kind = .profile ∧ record.status = .active ∧ record.user = user
    · rw [if_pos inForce]
      by_cases keyed : record.factKey = key
      · simp [inForce, keyed]
      · simp [inForce, keyed]
    · rw [if_neg inForce]
      have other : ¬(record.kind = .profile ∧ record.status = .active ∧ record.user = user ∧
          record.factKey = key) := fun all => inForce ⟨all.1, all.2.1, all.2.2.1⟩
      simp [other]

/-- What is said when the first profile under the key is changed. -/
theorem flatMap_replaceSaid (measures : Measures Embedding) {user key : String} (new : List Said)
    {records : List (Record Embedding)} (distinct : (records.map Record.id).Nodup)
    {existing : Record Embedding} (found : records.find? (fun record =>
      record.kind = .profile ∧ record.status = .active ∧ record.user = user ∧
        record.factKey = key) = some existing) :
    (records.flatMap fun record =>
        if record.id = existing.id then new else saidOf measures user record) =
      replaceSaid key new (records.flatMap (saidOf measures user)) := by
  induction records with
  | nil => cases found
  | cons record rest inductionHypothesis =>
    rw [List.map_cons, List.nodup_cons] at distinct
    rw [List.flatMap_cons, List.flatMap_cons]
    by_cases here : record.kind = .profile ∧ record.status = .active ∧ record.user = user ∧
        record.factKey = key
    · rw [List.find?_cons_of_pos (by simpa using here)] at found
      obtain rfl := Option.some.inj found
      have others : ∀ other ∈ rest, other.id ≠ record.id := fun other member same =>
        distinct.1 (same ▸ List.mem_map_of_mem member)
      have untouched : (rest.flatMap fun other =>
          if other.id = record.id then new else saidOf measures user other) =
          rest.flatMap (saidOf measures user) :=
        List.flatMap_congr fun other member => if_neg (others other member)
      rw [untouched, if_pos rfl, saidOf, if_pos ⟨here.1, here.2.1, here.2.2.1⟩]
      rw [List.singleton_append, replaceSaid, if_pos here.2.2.2]
    · rw [List.find?_cons_of_neg (by simpa using here)] at found
      have member := List.mem_of_find?_eq_some found
      have apart : record.id ≠ existing.id := fun same =>
        distinct.1 (same ▸ List.mem_map_of_mem member)
      rw [if_neg apart, inductionHypothesis distinct.2 found]
      unfold saidOf
      split
      · rename_i inForce
        have unkeyed : record.factKey ≠ key := fun keyed =>
          here ⟨inForce.1, inForce.2.1, inForce.2.2, keyed⟩
        rw [List.singleton_append, List.singleton_append, replaceSaid, if_neg unkeyed]
      · rfl

/-- What is said when one record is changed. -/
theorem flatMap_revise (measures : Measures Embedding) (user : String) {store : Store Embedding}
    (distinct : store.ids.Nodup) {existing : Record Embedding} (member : existing ∈ store.records)
    (change : Record Embedding → Record Embedding) :
    (store.revise existing change).records.flatMap (saidOf measures user) =
      store.records.flatMap fun record => if record.id = existing.id then
        saidOf measures user (change existing) else saidOf measures user record := by
  unfold Store.revise
  rw [List.flatMap_map]
  refine List.flatMap_congr fun record there => ?_
  by_cases same : record.id = existing.id
  · obtain rfl := List.inj_on_of_nodup_map distinct there member same
    rw [if_pos ⟨rfl, rfl, rfl⟩, if_pos rfl]
  · rw [if_neg fun aimed => same aimed.1, if_neg same]

/-- A profile that is heard is said by the records in force. -/
theorem Tells.profile {measures : Measures Embedding} {store : Store Embedding} {board : Board}
    {upsert : Upsert} (tells : Tells measures store upsert.user board)
    (distinct : store.ids.Nodup) (kind : upsert.kind = .profile) (embedding : Embedding)
    (now : Instant) (id : String) :
    Tells measures (applyProfileUpsert measures store upsert embedding now id).1 upsert.user
      (board.say measures upsert) := by
  have met := find_said measures upsert.user upsert.factKey store.records
  rw [tells.profiles] at met
  have added : ∀ importance, saidOf measures upsert.user
      (newRecord measures upsert embedding importance now id) =
        [Upsert.said measures upsert] := fun _ => if_pos ⟨kind, rfl, rfl⟩
  -- facts are neither changed nor set aside
  have facts : ∀ after : Store Embedding, (∀ record ∈ store.records, record.kind = .fact →
      record ∈ after.records) → ∀ id ∈ board.facts, ∃ record ∈ after.records,
        record.kind = .fact ∧ record.status = .active ∧ record.user = upsert.user ∧
          id ∈ record.sourceRecordIds := by
    intro after stays id named
    obtain ⟨record, member, fact, rest⟩ := tells.facts id named
    exact ⟨record, stays record member fact, fact, rest⟩
  unfold applyProfileUpsert Board.say
  rw [if_pos kind]
  cases existing : store.profileOf upsert.user upsert.factKey with
  | none =>
    have unmet := met.trans (congrArg _ existing)
    rw [Option.map_none] at unmet
    rw [unmet]
    constructor
    · rw [Store.add_records, List.flatMap_append, tells.profiles, List.flatMap_singleton, added]
    · refine facts _ fun record member _ => ?_
      rw [Store.add_records]
      exact List.mem_append_left _ member
  | some profile =>
    obtain ⟨member, isProfile, active, own, keyed⟩ := profileOf_mem existing
    have first := met.trans (congrArg _ existing)
    rw [Option.map_some] at first
    rw [first]
    dsimp only
    have spared : ∀ (change : Record Embedding → Record Embedding), ∀ record ∈ store.records,
        record.kind = .fact → record ∈ (store.revise profile change).records := by
      refine fun change record there fact => Store.mem_revise_of_ne there fun aimed => ?_
      rw [fact, isProfile] at aimed
      cases aimed.2.1
    by_cases same : canonicalize measures profile.factValue =
        canonicalize measures upsert.factValue
    · rw [if_pos same, if_pos same]
      constructor
      · have joined : saidOf measures upsert.user (updated measures upsert embedding
            (importanceOf store upsert.sourceIds) now profile) =
              [⟨profile.factKey, canonicalize measures profile.factValue,
                unionIds profile.sourceRecordIds upsert.sourceIds⟩] := by
          unfold saidOf updated
          dsimp only
          rw [if_pos ⟨isProfile, active, own⟩, if_pos (.inl kind), if_pos (.inl kind)]
        rw [Store.update_records, flatMap_revise measures _ distinct member, joined,
          flatMap_replaceSaid measures _ distinct existing, tells.profiles]
      · refine facts _ fun record there fact => ?_
        rw [Store.update_records]
        exact spared _ record there fact
    · rw [if_neg same, if_neg same]
      by_cases doubtful : upsert.confidence < conflictConfidenceThreshold
      · rw [if_pos doubtful, if_pos doubtful]
        exact tells
      · rw [if_neg doubtful, if_neg doubtful]
        constructor
        · have aside : saidOf measures upsert.user (invalidate now profile) = [] :=
            if_neg fun inForce => by cases inForce.2.1
          rw [Store.add_records, List.flatMap_append, List.flatMap_singleton, added,
            flatMap_revise measures _ distinct member, aside,
            flatMap_replaceSaid measures _ distinct existing, tells.profiles]
        · refine facts _ fun record there fact => ?_
          rw [Store.add_records]
          exact List.mem_append_left _ (spared _ record there fact)

/-- A fact that is heard is said by the records in force. -/
theorem Tells.fact {measures : Measures Embedding} {store : Store Embedding} {board : Board}
    {upsert : Upsert} (tells : Tells measures store upsert.user board)
    (distinct : store.ids.Nodup) (kind : upsert.kind = .fact) (embedding : Embedding)
    (now : Instant) (id : String) :
    Tells measures (applyFactUpsert measures store upsert embedding now id).1 upsert.user
      (board.say measures upsert) := by
  have other : upsert.kind ≠ .profile := by rw [kind]; decide
  have adds : ∀ (related : Option (Record Embedding)) (relation : Relation),
      Tells measures (store.add measures upsert embedding now id related relation) upsert.user
        { board with facts := board.facts ++ upsert.sourceIds } := by
    intro related relation
    constructor
    · rw [Store.add_records, List.flatMap_append, tells.profiles, List.flatMap_singleton, saidOf,
        if_neg fun inForce => other inForce.1, List.append_nil]
    · intro named listed
      rw [Store.add_records]
      rcases List.mem_append.mp listed with before | new
      · obtain ⟨record, member, rest⟩ := tells.facts named before
        exact ⟨record, List.mem_append_left _ member, rest⟩
      · exact ⟨_, List.mem_append_right _ List.mem_cons_self, kind, rfl, rfl, new⟩
  unfold applyFactUpsert Board.say
  rw [if_neg other]
  dsimp only
  split
  · exact adds none {}
  rename_i existing found
  obtain ⟨member, isFact, active, own⟩ := bestMatch_mem found
  split
  swap
  · exact adds _ _
  constructor
  · have silent : ∀ record : Record Embedding, record.kind = .fact →
        saidOf measures upsert.user record = [] := fun record fact =>
      if_neg fun inForce => by rw [fact] at inForce; cases inForce.1
    rw [Store.update_records, flatMap_revise measures _ distinct member, ← tells.profiles]
    refine List.flatMap_congr fun record there => ?_
    split
    · rename_i same
      obtain rfl := List.inj_on_of_nodup_map distinct there member same
      rw [silent record isFact, silent]
      exact isFact
    · rfl
  · intro named listed
    rw [Store.update_records]
    have there : updated measures upsert embedding (importanceOf store upsert.sourceIds) now
        existing ∈ (store.revise existing (updated measures upsert embedding
          (importanceOf store upsert.sourceIds) now)).records :=
      List.mem_map.mpr ⟨existing, member, if_pos ⟨rfl, rfl, rfl⟩⟩
    rcases List.mem_append.mp listed with before | new
    · obtain ⟨record, among, fact, inForce, user, names⟩ := tells.facts named before
      by_cases same : record.id = existing.id
      · obtain rfl := List.inj_on_of_nodup_map distinct among member same
        exact ⟨_, there, isFact, active, own, mem_unionIds.mpr (.inl names)⟩
      · exact ⟨record, Store.mem_revise_of_ne among fun aimed => same aimed.1, fact, inForce, user,
          names⟩
    · exact ⟨_, there, isFact, active, own, mem_unionIds.mpr (.inr new)⟩

/-- An upsert whose embedding arrives is said by the records in force, and one whose embedding
is missing changes nothing. -/
theorem Tells.carryOut {measures : Measures Embedding} {store : Store Embedding} {board : Board}
    {upsert : Upsert} (tells : Tells measures store upsert.user board)
    (distinct : store.ids.Nodup) (embedding : Embedding) (now : Instant) (id : String) :
    Tells measures (MemoryStore.carryOut measures store upsert (some embedding) now id).1
      upsert.user (board.say measures upsert) := by
  unfold MemoryStore.carryOut
  dsimp only
  split
  · rename_i profile
    exact tells.profile distinct profile embedding now id
  · rename_i other
    have fact : upsert.kind = .fact := by
      cases kind : upsert.kind with
      | episode => exact absurd kind upsert.durable
      | fact => rfl
      | profile => exact absurd kind other
    exact tells.fact distinct fact embedding now id

/-! ### What a pass keeps -/

/-- The batches that are not closed yet. -/
def Pass.openBatches (pass : Pass) : List (String × List String) :=
  match pass.stage with
  | .merging _ _ => pass.rest
  | _ => (pass.user, pass.batch) :: pass.rest

/-- The batch of the pass is not closed yet. -/
def Stage.Open : Stage → Prop
  | .merging _ _ => False
  | _ => True

/-- The ids a comparison names. -/
def comparedIds : Comparison → List String
  | .row left => [left]
  | .pair left right => [left, right]

/-- The comparisons name durable records of the user. -/
def Comparable (store : Store Embedding) (user : String) (rest : List Comparison) : Prop :=
  ∀ comparison ∈ rest, ∀ id ∈ comparedIds comparison, ∀ record ∈ store.records, record.id = id →
    record.user = user ∧ record.kind ≠ .episode

/-- The stage is one of a pass for the user. -/
def StageOf (store : Store Embedding) (user : String) : Stage → Prop
  | .applying upsert _ => upsert.user = user
  | .rewriting upsert _ => upsert.user = user
  | .merging _ rest => Comparable store user rest
  | _ => True

/-- A pending episode that is as it was at the start. -/
def Untouched (start store : Store Embedding) (user id : String) : Prop :=
  ∃ record ∈ start.records, record ∈ store.records ∧ record.id = id ∧ record.pending ∧
    userOr record = user

/-- The open batches are untouched, and what was to be remembered in the others is
pending or covered. -/
structure Batches (start : Heap Embedding) (now : Instant) (store : Store Embedding)
    (openBatches : List (String × List String)) : Prop where
  untouched : ∀ entry ∈ openBatches, ∀ id ∈ entry.2, Untouched start.store store entry.1 id
  settled : ∀ user id, Owed start now user id →
    (∃ batch, (user, batch) ∈ openBatches ∧ id ∈ batch) ∨
      (user ∉ openBatches.map Prod.fst ∧ (Stored store user id ∨ Covered store user id))

/-- What holds between two statements of a pass. -/
structure Kept (start : Heap Embedding) (now : Instant) (state : Heap Embedding × Option Pass) :
    Prop where
  distinct : state.1.ids.Nodup
  batches : Batches start now state.1.store ((state.2.map Pass.openBatches).getD [])
  users : ∀ pass, state.2 = some pass → (pass.user :: pass.rest.map Prod.fst).Nodup
  stage : ∀ pass, state.2 = some pass → StageOf state.1.store pass.user pass.stage

/-- An untouched episode is stored. -/
theorem Untouched.stored {start store : Store Embedding} {user id : String}
    (untouched : Untouched start store user id) : Stored store user id := by
  obtain ⟨record, _, member, named, pending, own⟩ := untouched
  exact ⟨record, member, named, pending, own⟩

/-- What is kept at every statement includes what is to be remembered. -/
theorem Kept.remembers {start : Heap Embedding} {now : Instant}
    {state : Heap Embedding × Option Pass} (kept : Kept start now state) :
    Remembers start now state := by
  intro user id owed
  rcases kept.batches.settled user id owed with ⟨batch, isOpen, member⟩ | ⟨_, settled⟩
  · exact .inl (kept.batches.untouched _ isOpen id member).stored
  · exact settled

/-- Records of the store with one id are one record. -/
theorem Heap.record_unique {heap : Heap Embedding} (distinct : heap.ids.Nodup)
    {first second : Record Embedding} (one : first ∈ heap.store.records)
    (other : second ∈ heap.store.records) (same : first.id = second.id) : first = second :=
  List.inj_on_of_nodup_map distinct (List.mem_append_left _ one) (List.mem_append_left _ other) same

/-- The record of the store is what its id refers to. -/
theorem Heap.ref_of_mem {heap : Heap Embedding} (distinct : heap.ids.Nodup)
    {record : Record Embedding} (member : record ∈ heap.store.records) :
    heap.ref record.id = some record := by
  cases found : heap.ref record.id with
  | none =>
    have absent := List.find?_eq_none.mp found record (List.mem_append_left _ member)
    simp at absent
  | some other =>
    have listed := List.mem_of_find?_eq_some found
    have named : other.id = record.id := of_decide_eq_true (List.find?_some found :)
    exact congrArg some (List.inj_on_of_nodup_map distinct listed
      (List.mem_append_left _ member) named)

/-- What is owed was wanted: a batch is of pending episodes. -/
theorem Owed.wanted {start : Heap Embedding} {now : Instant} {user id : String}
    (distinct : start.ids.Nodup) (owed : Owed start now user id) : Wanted start id := by
  obtain ⟨batch, listed, member, record, named, remembered⟩ := owed
  obtain ⟨_, _, same⟩ := List.mem_map.mp listed
  obtain ⟨rfl, rfl⟩ := Prod.mk.inj same
  obtain ⟨episode, taken, rfl⟩ := List.mem_map.mp member
  have sorted := (List.perm_insertionSort _ _).mem_iff.mp (List.mem_of_mem_take taken)
  obtain ⟨there, own⟩ := List.mem_filter.mp sorted
  rw [Heap.ref_of_mem distinct there] at named
  obtain rfl := Option.some.inj named
  exact ⟨episode, there, rfl, (of_decide_eq_true own).1, remembered⟩

/-- What keeps pending episodes and the coverage of settled users keeps the batches. -/
theorem Batches.mono {start : Heap Embedding} {now : Instant} {store after : Store Embedding}
    {openBatches : List (String × List String)} (batches : Batches start now store openBatches)
    (episodes : ∀ record ∈ store.records, record.pending → record ∈ after.records)
    (covered : ∀ user id, Owed start now user id → user ∉ openBatches.map Prod.fst →
      Covered store user id → Covered after user id) : Batches start now after openBatches := by
  constructor
  · intro entry member id listed
    obtain ⟨record, first, there, named, pending, own⟩ := batches.untouched entry member id listed
    exact ⟨record, first, episodes record there pending, named, pending, own⟩
  · intro user id owed
    rcases batches.settled user id owed with isOpen | ⟨closed, ⟨record, there, named, pending, own⟩ |
      names⟩
    · exact .inl isOpen
    · exact .inr ⟨closed, .inl ⟨record, episodes record there pending, named, pending, own⟩⟩
    · exact .inr ⟨closed, .inr (covered user id owed closed names)⟩

/-- The first batch is given up as it is. -/
theorem Batches.giveUp {start : Heap Embedding} {now : Instant} {store : Store Embedding}
    {user : String} {batch : List String} {rest : List (String × List String)}
    (batches : Batches start now store ((user, batch) :: rest))
    (users : (user :: rest.map Prod.fst).Nodup) : Batches start now store rest := by
  constructor
  · exact fun entry member => batches.untouched entry (List.mem_cons_of_mem _ member)
  · intro other id owed
    rcases batches.settled other id owed with ⟨listed, isOpen, member⟩ | ⟨closed, settled⟩
    · rcases List.mem_cons.mp isOpen with first | later
      · obtain ⟨rfl, rfl⟩ := Prod.mk.inj first
        exact .inr ⟨(List.nodup_cons.mp users).1,
          .inl (batches.untouched _ List.mem_cons_self id member).stored⟩
      · exact .inl ⟨listed, later, member⟩
    · exact .inr ⟨fun later => closed (List.mem_cons_of_mem _ later), settled⟩

/-- The rest is asked for. -/
theorem ask_kept {start heap : Heap Embedding} {now : Instant} (distinct : heap.ids.Nodup)
    {rest : List (String × List String)} (batches : Batches start now heap.store rest)
    (users : (rest.map Prod.fst).Nodup) : Kept start now (ask heap rest) := by
  cases rest with
  | nil =>
    refine ⟨distinct, batches, ?_, ?_⟩
    · intro pass named
      cases named
    · intro pass named
      cases named
  | cons entry rest =>
    refine ⟨distinct, batches, ?_, ?_⟩
    · intro pass named
      obtain rfl := Option.some.inj named
      exact users
    · intro pass named
      obtain rfl := Option.some.inj named
      trivial

/-- Links change no record. -/
@[simp] theorem applyLinks_records (store : Store Embedding) (links : List Link)
    (batch : List String) : (applyLinks store links batch).records = store.records := by
  unfold applyLinks
  induction links generalizing store with
  | nil => rfl
  | cons link rest inductionHypothesis =>
    rw [List.foldl_cons, inductionHypothesis]
    unfold applyLink
    dsimp only
    split
    · split
      · exact Store.upsertEdge_records ..
      · rfl
    · rfl

/-- A pass stays between statements on the same store. -/
theorem Kept.onto {start heap : Heap Embedding} {now : Instant} {pass next : Pass}
    (kept : Kept start now (heap, some pass)) (sameUser : next.user = pass.user)
    (sameRest : next.rest = pass.rest) (sameOpen : next.openBatches = pass.openBatches)
    (stage : StageOf heap.store pass.user next.stage) : Kept start now (heap, some next) := by
  refine ⟨kept.distinct, ?_, ?_, ?_⟩
  · have batches := kept.batches
    simp only [Option.map_some, Option.getD_some] at batches ⊢
    exact sameOpen ▸ batches
  · intro other named
    obtain rfl := Option.some.inj named
    rw [sameUser, sameRest]
    exact kept.users pass rfl
  · intro other named
    obtain rfl := Option.some.inj named
    rw [sameUser]
    exact stage

/-- Carrying out an upsert of the pass keeps what holds. -/
theorem carry_kept {start heap : Heap Embedding} {now at_ : Instant} {pass : Pass}
    {measures : Measures Embedding} {upsert : Upsert} {embedding : Option Embedding} {id : String}
    {stage : Stage} {next : Heap Embedding × Option Pass} (kept : Kept start now (heap, some pass))
    (own : upsert.user = pass.user) (isOpen : pass.openBatches = (pass.user, pass.batch) :: pass.rest)
    (after : Pass.openBatches { pass with
      appliedAny := (carryOut measures heap.store upsert embedding at_ id).2 || pass.appliedAny
      stage := stage } = pass.openBatches)
    (free : ∀ store : Store Embedding, StageOf store pass.user stage)
    (taken : pass.carry measures heap upsert embedding id at_ stage = some next) :
    Kept start now next := by
  unfold Pass.carry at taken
  split at taken
  · cases taken
  rename_i unused
  obtain rfl := Option.some.inj taken
  refine ⟨?_, ?_, ?_, ?_⟩
  · have before := kept.distinct
    unfold Heap.ids at before unused ⊢
    rw [List.map_append] at before unused ⊢
    rcases carryOut_ids measures heap.store upsert embedding at_ id with same | more
    · rw [Store.ids, Store.ids] at same
      dsimp only
      rw [same]
      exact before
    · rw [Store.ids, Store.ids] at more
      dsimp only
      rw [more, List.append_assoc]
      have swapped : (heap.store.records.map Record.id ++ ([id] ++ heap.gone.map Record.id)).Perm
          ([id] ++ (heap.store.records.map Record.id ++ heap.gone.map Record.id)) :=
        List.perm_append_comm_assoc ..
      exact swapped.nodup_iff.mpr (List.nodup_cons.mpr ⟨unused, before⟩)
  · simp only [Option.map_some, Option.getD_some, after]
    refine kept.batches.mono (fun record member pending => carryOut_keeps member (.inl pending.1)) ?_
    rintro user named _ closed ⟨record, member, durable, active, ofUser, names⟩
    refine ⟨record, carryOut_keeps member (.inr ?_), durable, active, ofUser, names⟩
    intro same
    apply closed
    simp only [Option.map_some, Option.getD_some, isOpen, List.map_cons]
    rw [← ofUser, same, own]
    exact List.mem_cons_self
  · intro other named
    obtain rfl := Option.some.inj named
    exact kept.users pass rfl
  · intro other named
    obtain rfl := Option.some.inj named
    exact free _

/-- Records of the pair, behind a comparison, were there with the same id, kind and user. -/
theorem mem_compared {store after : Store Embedding} {left right : Record Embedding}
    {now : Instant} (compared : Compared store left right now after) {record : Record Embedding}
    (member : record ∈ after.records) :
    ∃ before ∈ store.records, before.id = record.id ∧ before.kind = record.kind ∧
      before.user = record.user := by
  cases compared with
  | links _ same => exact ⟨record, same ▸ member, rfl, rfl, rfl⟩
  | merges primary absorbed sim =>
    rw [Store.upsertEdge_records] at member
    rcases Store.mem_revise member with there | ⟨middle, there, rfl, _⟩
    · rcases Store.mem_revise there with first | ⟨before, first, rfl, _⟩
      · exact ⟨record, first, rfl, rfl, rfl⟩
      · exact ⟨before, first, rfl, rfl, rfl⟩
    · rcases Store.mem_revise there with first | ⟨before, first, rfl, _⟩
      · exact ⟨middle, first, rfl, rfl, rfl⟩
      · exact ⟨before, first, rfl, rfl, rfl⟩

/-- A comparison leaves the ids of the records. -/
theorem compared_ids {store after : Store Embedding} {left right : Record Embedding}
    {now : Instant} (compared : Compared store left right now after) : after.ids = store.ids := by
  cases compared with
  | links _ same => simp only [Store.ids, same]
  | merges primary absorbed sim =>
    simp only [Store.ids, Store.upsertEdge_records]
    exact (Store.revise_ids (invalidate_id now) _ _).trans
      (Store.revise_ids (merged_id now absorbed) _ _)

/-- A comparison of durable records leaves an episode alone. -/
theorem episode_of_compared {store after : Store Embedding} {left right : Record Embedding}
    {now : Instant} (compared : Compared store left right now after)
    (one : left.kind ≠ .episode) (other : right.kind ≠ .episode) {record : Record Embedding}
    (member : record ∈ store.records) (episode : record.kind = .episode) :
    record ∈ after.records := by
  cases compared with
  | links _ same => exact same ▸ member
  | merges primary absorbed sim pair =>
    have durable : primary.kind ≠ .episode ∧ absorbed.kind ≠ .episode := by
      rcases pair with ⟨rfl, rfl⟩ | ⟨rfl, rfl⟩
      · exact ⟨one, other⟩
      · exact ⟨other, one⟩
    rw [Store.upsertEdge_records]
    apply Store.mem_revise_of_ne
    · apply Store.mem_revise_of_ne member
      exact fun aimed => durable.1 (aimed.2.1.symm.trans episode)
    · exact fun aimed => durable.2 (aimed.2.1.symm.trans episode)

/-- A record taken into an active one of its user leaves what it names covered. -/
theorem covered_of_compared {heap : Heap Embedding} {after : Store Embedding}
    {left right : Record Embedding} {now : Instant} {owner user id : String}
    (distinct : heap.ids.Nodup) (compared : Compared heap.store left right now after)
    (leftMember : left ∈ heap.store.records) (rightMember : right ∈ heap.store.records)
    (leftOwn : left.user = owner ∧ left.kind ≠ .episode)
    (rightOwn : right.user = owner ∧ right.kind ≠ .episode)
    (into : ∀ primary absorbed, mergeTargetForPair left right = (primary, absorbed) →
      after.records ≠ heap.store.records →
        primary.status = .active ∨ id ∉ absorbed.sourceRecordIds)
    (covered : Covered heap.store user id) : Covered after user id := by
  by_cases unchanged : after.records = heap.store.records
  · unfold Covered
    rw [unchanged]
    exact covered
  obtain ⟨record, member, durable, active, ofUser, names⟩ := covered
  cases compared with
  | links _ same => exact absurd same unchanged
  | merges primary absorbed sim pair target different =>
    have holds := into primary absorbed target unchanged
    have both : (primary ∈ heap.store.records ∧ primary.user = owner ∧ primary.kind ≠ .episode) ∧
        absorbed ∈ heap.store.records ∧ absorbed.user = owner := by
      rcases pair with ⟨rfl, rfl⟩ | ⟨rfl, rfl⟩
      · exact ⟨⟨leftMember, leftOwn⟩, rightMember, rightOwn.1⟩
      · exact ⟨⟨rightMember, rightOwn⟩, leftMember, leftOwn.1⟩
    obtain ⟨⟨primaryMember, primaryOwn, primaryDurable⟩, absorbedMember, absorbedOwn⟩ := both
    -- the record that has taken the other in is not aimed at by the invalidation
    have taken : merged now absorbed primary ∈ ((heap.store.revise primary
        (merged now absorbed)).revise absorbed (invalidate now)).records := by
      apply Store.mem_revise_of_ne
      · exact List.mem_map.mpr ⟨primary, primaryMember, if_pos ⟨rfl, rfl, rfl⟩⟩
      · exact fun aimed => different aimed.1
    by_cases isPrimary : record.id = primary.id
    · obtain rfl := Heap.record_unique distinct member primaryMember isPrimary
      refine ⟨merged now absorbed record, by rw [Store.upsertEdge_records]; exact taken,
        primaryDurable, active, ofUser, ?_⟩
      exact mem_unionIds.mpr (.inl names)
    by_cases isAbsorbed : record.id = absorbed.id
    · obtain rfl := Heap.record_unique distinct member absorbedMember isAbsorbed
      refine ⟨merged now record primary, by rw [Store.upsertEdge_records]; exact taken,
        primaryDurable, holds.resolve_right fun unnamed => unnamed names, ?_, ?_⟩
      · exact primaryOwn.trans (absorbedOwn.symm.trans ofUser)
      · exact mem_unionIds.mpr (.inr names)
    · refine ⟨record, ?_, durable, active, ofUser, names⟩
      rw [Store.upsertEdge_records]
      apply Store.mem_revise_of_ne
      · exact Store.mem_revise_of_ne member fun aimed => isPrimary aimed.1
      · exact fun aimed => isAbsorbed aimed.1

/-- Every comparison is of listed ids. -/
theorem comparedIds_mem {ids : List String} {comparison : Comparison} {id : String}
    (member : comparison ∈ comparisons ids) (named : id ∈ comparedIds comparison) : id ∈ ids := by
  induction ids with
  | nil => cases member
  | cons left rest inductionHypothesis =>
    simp only [comparisons, List.cons_append, List.mem_cons, List.mem_append, List.mem_map]
      at member
    rcases member with rfl | ⟨right, there, rfl⟩ | later
    · simp only [comparedIds, List.mem_singleton] at named
      exact named ▸ List.mem_cons_self
    · simp only [comparedIds, List.mem_cons, List.not_mem_nil, or_false] at named
      rcases named with rfl | rfl
      · exact List.mem_cons_self
      · exact List.mem_cons_of_mem _ there
    · exact List.mem_cons_of_mem _ (inductionHypothesis later)

/-- The comparisons for a user are of its durable records. -/
theorem comparisonsOf_comparable (measures : Measures Embedding) {heap : Heap Embedding}
    (distinct : heap.ids.Nodup) (user : String) :
    Comparable heap.store user (heap.store.comparisonsOf measures user) := by
  intro comparison listed id named record member same
  obtain ⟨other, there, otherNamed⟩ := List.mem_map.mp (comparedIds_mem listed named)
  obtain ⟨otherMember, longTerm⟩ := List.mem_filter.mp there
  obtain rfl := Heap.record_unique distinct member otherMember (same.trans otherNamed.symm)
  have durable := of_decide_eq_true longTerm
  exact ⟨durable.2.2.1, durable.1⟩

/-- A record found by its id is in the store. -/
theorem recordById_mem {store : Store Embedding} {id : String} {record : Record Embedding}
    (found : store.recordById id = some record) : record ∈ store.records ∧ record.id = id :=
  ⟨List.mem_of_find?_eq_some found, of_decide_eq_true (List.find?_some found :)⟩

/-- A comparison changes something only where the right record is active and similar enough to the
left one. -/
theorem compare_target {measures : Measures Embedding} {store : Store Embedding}
    {left right : Record Embedding} {now : Instant}
    (changes : (store.comparePair measures left right now).records ≠ store.records) :
    right.status = .active ∧ comparable left right ∧
      longTermMergeSimThreshold ≤ similarity measures left.embedding right.embedding := by
  unfold Store.comparePair at changes
  dsimp only at changes
  split at changes
  · rename_i compared
    split at changes
    · rename_i close
      exact ⟨compared.1, compared.2, close⟩
    · split at changes
      · exact absurd (Store.upsertEdge_records ..) changes
      · exact absurd rfl changes
  · exact absurd rfl changes

/-- The next comparison keeps what holds. -/
theorem compare_kept {start heap : Heap Embedding} {now at_ : Instant} {pass : Pass}
    {measures : Measures Embedding} {active : Bool} {left right : String} {rest : List Comparison}
    (startDistinct : start.ids.Nodup) (kept : Kept start now (heap, some pass))
    (stage : pass.stage = .merging active (.pair left right :: rest))
    (closes : ∀ one other, active = true → heap.store.recordById left = some one →
      heap.store.recordById right = some other → other.status = .active → comparable one other →
        longTermMergeSimThreshold ≤ similarity measures one.embedding other.embedding →
          (mergeTargetForPair one other).1.status = .active ∨
            ∀ id ∈ (mergeTargetForPair one other).2.sourceRecordIds, ¬Wanted start id) :
    Kept start now (if active then compare measures heap left right at_ else heap,
      some { pass with stage := .merging active rest }) := by
  have own : Comparable heap.store pass.user (.pair left right :: rest) := by
    have holds := kept.stage pass rfl
    rw [stage] at holds
    exact holds
  have later : Comparable heap.store pass.user rest :=
    fun comparison member => own comparison (List.mem_cons_of_mem _ member)
  have sameOpen : Pass.openBatches { pass with stage := .merging active rest } =
      pass.openBatches := by
    simp only [Pass.openBatches, stage]
  have still : Kept start now (heap, some { pass with stage := .merging active rest }) :=
    kept.onto rfl rfl sameOpen later
  split
  swap
  · exact still
  rename_i isActive
  unfold compare
  split
  swap
  · exact still
  rename_i one other foundLeft foundRight
  obtain ⟨leftMember, leftNamed⟩ := recordById_mem foundLeft
  obtain ⟨rightMember, rightNamed⟩ := recordById_mem foundRight
  have leftOwn := own _ List.mem_cons_self left (by simp [comparedIds]) one leftMember leftNamed
  have rightOwn :=
    own _ List.mem_cons_self right (by simp [comparedIds]) other rightMember rightNamed
  have compared := comparePair_cases measures heap.store one other at_
  have into : ∀ id, Wanted start id → ∀ primary absorbed,
      mergeTargetForPair one other = (primary, absorbed) →
        (heap.store.comparePair measures one other at_).records ≠ heap.store.records →
          primary.status = .active ∨ id ∉ absorbed.sourceRecordIds := by
    intro id wanted primary absorbed target changes
    obtain ⟨activeRight, mergeable, close⟩ := compare_target changes
    have either := closes one other isActive foundLeft foundRight activeRight mergeable close
    rw [target] at either
    exact either.imp_right fun unwanted names => unwanted id names wanted
  refine ⟨?_, ?_, ?_, ?_⟩
  · have before := kept.distinct
    simp only [Heap.ids, List.map_append] at before ⊢
    have same := compared_ids compared
    simp only [Store.ids] at same
    rw [same]
    exact before
  · refine still.batches.mono ?_ ?_
    · exact fun record member pending =>
        episode_of_compared compared leftOwn.2 rightOwn.2 member pending.1
    · exact fun user id owed _ covered => covered_of_compared kept.distinct compared leftMember
        rightMember leftOwn rightOwn (into id (owed.wanted startDistinct)) covered
  · exact still.users
  · intro next named
    obtain rfl := Option.some.inj named
    intro comparison listed id namedId record member same
    obtain ⟨before, there, sameId, sameKind, sameUser⟩ := mem_compared compared member
    obtain ⟨user, durable⟩ := later comparison listed id namedId before there (sameId.trans same)
    exact ⟨sameUser.symm.trans user, fun episode => durable (sameKind.trans episode)⟩

/-- The ids are the same behind a removal, in another order. -/
theorem remove_ids_perm (heap : Heap Embedding) (ids : List String) :
    (heap.remove ids).ids.Perm heap.ids := by
  unfold Heap.ids Heap.remove Store.deleteRecords
  apply List.Perm.map
  have split : (heap.store.records.filter (fun record => record.id ∉ ids) ++
      heap.store.records.filter (fun record => record.id ∈ ids)).Perm heap.store.records := by
    have whole := List.filter_append_perm (fun record => decide (record.id ∈ ids))
      heap.store.records
    have opposite : heap.store.records.filter (fun record => !decide (record.id ∈ ids)) =
        heap.store.records.filter (fun record => decide (record.id ∉ ids)) := by
      simp
    rw [opposite] at whole
    exact List.perm_append_comm.trans whole
  dsimp only
  refine List.Perm.trans ?_ (split.append_right heap.gone)
  rw [List.append_assoc]
  exact List.Perm.append_left _ List.perm_append_comm

/-- A tag does not change the id of a record. -/
@[simp] theorem retagged_id (record : Record Embedding) : (retagged record).id = record.id := by
  unfold retagged
  split <;> rfl

/-- Nor its user. -/
theorem retagged_user (record : Record Embedding) : userOr (retagged record) = userOr record := by
  unfold retagged
  split <;> rfl

/-- Nor does a tagged record stop to wait. -/
theorem retagged_pending {record : Record Embedding} (pending : record.pending) :
    (retagged record).pending := by
  unfold retagged
  rw [if_pos pending.2]
  exact pending

/-- Tagging a batch leaves the ids of the store. -/
theorem retag_ids (store : Store Embedding) (batch : List String) :
    (retag store batch).ids = store.ids := by
  unfold retag Store.ids
  rw [List.map_map]
  apply List.map_congr_left
  intro record _
  simp only [Function.comp_apply]
  split
  · exact retagged_id record
  · rfl

/-- A pass closes its batch. -/
theorem close_kept {start heap : Heap Embedding} {now : Instant} {pass : Pass}
    {measures : Measures Embedding} (startDistinct : start.ids.Nodup)
    (kept : Kept start now (heap, some pass)) (stage : pass.stage = .closing)
    (closes : pass.appliedAny → ∀ id ∈ pass.rememberedIds heap, Covered heap.store pass.user id) :
    Kept start now (pass.close heap, some { pass with
      stage := .merging false ((pass.close heap).store.comparisonsOf measures pass.user) }) := by
  have isOpen : pass.openBatches = (pass.user, pass.batch) :: pass.rest := by
    simp only [Pass.openBatches, stage]
  have batches : Batches start now heap.store ((pass.user, pass.batch) :: pass.rest) := by
    have holds := kept.batches
    simp only [Option.map_some, Option.getD_some, isOpen] at holds
    exact holds
  have users := kept.users pass rfl
  -- a record with an id of the batch is the pending episode of the user
  have inBatch : ∀ record ∈ heap.store.records, record.id ∈ pass.batch →
      record.pending ∧ userOr record = pass.user := by
    intro record member listed
    obtain ⟨own, _, there, named, pending, user⟩ :=
      batches.untouched _ List.mem_cons_self record.id listed
    exact Heap.record_unique kept.distinct member there named.symm ▸ ⟨pending, user⟩
  have remembered : ∀ id ∈ pass.batch, Owed start now pass.user id →
      id ∈ pass.rememberedIds heap := by
    intro id listed owed
    obtain ⟨own, first, there, named, _⟩ := batches.untouched _ List.mem_cons_self id listed
    obtain ⟨_, _, _, record, refers, tagged⟩ := owed
    have same : start.ref id = some own := named ▸ Heap.ref_of_mem startDistinct first
    obtain rfl := Option.some.inj (refers.symm.trans same)
    refine List.mem_filter.mpr ⟨listed, ?_⟩
    rw [← named, Heap.ref_of_mem kept.distinct there]
    simpa using tagged
  have outside : ∀ user, user ∉ ((pass.user, pass.batch) :: pass.rest).map Prod.fst →
      user ≠ pass.user := by
    rintro user closed rfl
    exact closed List.mem_cons_self
  have restUser : ∀ entry ∈ pass.rest, entry.1 ≠ pass.user := by
    intro entry member same
    exact (List.nodup_cons.mp users).1 (same ▸ List.mem_map_of_mem member)
  -- what lies outside of the batch stays
  have stays : ∀ record ∈ heap.store.records, record.id ∉ pass.batch →
      record ∈ (pass.close heap).store.records := by
    intro record member apart
    unfold Pass.close
    split
    · exact List.mem_filter.mpr ⟨member, by simpa using apart⟩
    · exact List.mem_map.mpr ⟨record, member, if_neg apart⟩
  have otherStays : ∀ record ∈ heap.store.records, userOr record ≠ pass.user →
      record ∈ (pass.close heap).store.records :=
    fun record member other => stays record member fun listed =>
      other (inBatch record member listed).2
  have durableStays : ∀ record ∈ heap.store.records, record.kind ≠ .episode →
      record ∈ (pass.close heap).store.records :=
    fun record member durable => stays record member fun listed =>
      durable (inBatch record member listed).1.1
  have closedDistinct : (pass.close heap).ids.Nodup := by
    unfold Pass.close
    split
    · exact (remove_ids_perm heap pass.batch).nodup_iff.mpr kept.distinct
    · have before := kept.distinct
      have same := retag_ids heap.store pass.batch
      simp only [Heap.ids, List.map_append, Store.ids] at before same ⊢
      rw [same]
      exact before
  have settled : ∀ user id, Owed start now user id →
      Stored heap.store user id ∨ Covered heap.store user id → user ≠ pass.user →
        Stored (pass.close heap).store user id ∨ Covered (pass.close heap).store user id := by
    rintro user id _ (⟨record, member, named, pending, own⟩ | ⟨record, member, durable, rest⟩) other
    · exact .inl ⟨record, otherStays record member (own ▸ other), named, pending, own⟩
    · exact .inr ⟨record, durableStays record member durable, durable, rest⟩
  refine ⟨closedDistinct, ⟨?_, ?_⟩, ?_, ?_⟩
  · intro entry member id listed
    obtain ⟨record, first, there, named, pending, own⟩ :=
      batches.untouched entry (List.mem_cons_of_mem _ member) id listed
    exact ⟨record, first, otherStays record there (own ▸ restUser entry member), named, pending,
      own⟩
  · intro user id owed
    rcases batches.settled user id owed with ⟨batch, among, listed⟩ | ⟨closed, was⟩
    · rcases List.mem_cons.mp among with current | later
      · obtain ⟨rfl, rfl⟩ := Prod.mk.inj current
        refine .inr ⟨(List.nodup_cons.mp users).1, ?_⟩
        obtain ⟨own, _, there, named, pending, user⟩ :=
          batches.untouched _ List.mem_cons_self id listed
        have tagged := remembered id listed owed
        by_cases deleted : pass.appliedAny ∨ pass.rememberedIds heap = []
        · have applied : pass.appliedAny := by
            rcases deleted with applied | nothing
            · exact applied
            · rw [nothing] at tagged
              cases tagged
          obtain ⟨record, member, durable, rest⟩ := closes applied id tagged
          exact .inr ⟨record, durableStays record member durable, durable, rest⟩
        · refine .inl ⟨retagged own, ?_, (retagged_id own).trans named, retagged_pending pending,
            (retagged_user own).trans user⟩
          unfold Pass.close
          rw [if_neg deleted]
          exact List.mem_map.mpr ⟨own, there, if_pos (named ▸ listed)⟩
      · exact .inl ⟨batch, later, listed⟩
    · exact .inr ⟨fun later => closed (List.mem_cons_of_mem _ later),
        settled user id owed was (outside user closed)⟩
  · intro next named
    obtain rfl := Option.some.inj named
    exact users
  · intro next named
    obtain rfl := Option.some.inj named
    exact comparisonsOf_comparable measures closedDistinct pass.user

/-- What a pass writes for an episode is for its user. -/
theorem rewritten_user {measures : Measures Embedding} {heap : Heap Embedding} {pass : Pass}
    {id : String} {upsert : Upsert} (written : pass.rewritten measures heap id = some upsert) :
    upsert.user = pass.user := by
  obtain ⟨record, _, prepared⟩ := Option.bind_eq_some_iff.mp written
  split at prepared
  · exact (explicitUpsert_prepared prepared).user
  · cases prepared

/-- The next statement of a pass keeps what holds. -/
theorem go_kept {start heap : Heap Embedding} {now at_ : Instant} {pass : Pass}
    {measures : Measures Embedding} {board : Board} {next : Heap Embedding × Option Pass}
    (startDistinct : start.ids.Nodup) (kept : Kept start now (heap, some pass))
    (tells : pass.stage.Open → Tells measures heap.store pass.user board)
    (met : pass.closesNamed measures start heap board (.go at_))
    (taken : pass.go measures heap at_ = some next) : Kept start now next := by
  unfold Pass.closesNamed at met
  have users := kept.users pass rfl
  unfold Pass.go at taken
  dsimp only at taken
  split at taken
  case h_1 stage =>
    obtain rfl := Option.some.inj taken
    exact kept.onto rfl rfl (by simp only [Pass.openBatches, stage]) trivial
  case h_2 entry rest stage =>
    split at taken
    · rename_i upsert prepared
      obtain rfl := Option.some.inj taken
      exact kept.onto rfl rfl (by simp only [Pass.openBatches, stage])
        (prepare_prepared prepared).user
    · obtain rfl := Option.some.inj taken
      exact kept.onto rfl rfl (by simp only [Pass.openBatches, stage]) trivial
  case h_3 stage =>
    -- links do not touch the records
    have linked : ∀ stage', Pass.openBatches { pass with stage := stage' } = pass.openBatches →
        (∀ store : Store Embedding, StageOf store pass.user stage') →
          Kept start now ({ heap with store := applyLinks heap.store pass.links pass.batch },
            some { pass with stage := stage' }) := by
      intro stage' sameOpen free
      have onward : Kept start now (heap, some { pass with stage := stage' }) :=
        kept.onto rfl rfl sameOpen (free _)
      refine ⟨?_, onward.batches.mono ?_ ?_, onward.users, ?_⟩
      · have before := kept.distinct
        simp only [Heap.ids, applyLinks_records] at before ⊢
        exact before
      · intro record member _
        rw [applyLinks_records]
        exact member
      · intro user id _ _ covered
        unfold Covered
        rw [applyLinks_records]
        exact covered
      · intro other named
        obtain rfl := Option.some.inj named
        exact free _
    split at taken
    · obtain rfl := Option.some.inj taken
      exact linked (.fallback pass.batch)
        (by simp only [Pass.openBatches, stage]) fun _ => trivial
    · obtain rfl := Option.some.inj taken
      exact linked .closing (by simp only [Pass.openBatches, stage]) fun _ => trivial
  case h_4 stage =>
    obtain rfl := Option.some.inj taken
    exact kept.onto rfl rfl (by simp only [Pass.openBatches, stage]) trivial
  case h_5 id rest stage =>
    split at taken
    · rename_i upsert written
      obtain rfl := Option.some.inj taken
      exact kept.onto rfl rfl (by simp only [Pass.openBatches, stage]) (rewritten_user written)
    · obtain rfl := Option.some.inj taken
      exact kept.onto rfl rfl (by simp only [Pass.openBatches, stage]) trivial
  case h_6 stage =>
    obtain rfl := Option.some.inj taken
    rw [stage] at met
    have told := tells (by rw [stage]; trivial)
    exact close_kept startDistinct kept stage fun applied id remembered =>
      told.covered (met applied id remembered)
  case h_7 active stage =>
    obtain rfl := Option.some.inj taken
    have batches := kept.batches
    simp only [Option.map_some, Option.getD_some, Pass.openBatches, stage] at batches
    exact ask_kept kept.distinct batches (List.nodup_cons.mp users).2
  case h_8 active left rest stage =>
    obtain rfl := Option.some.inj taken
    have own := kept.stage pass rfl
    rw [stage] at own
    exact kept.onto rfl rfl (by simp only [Pass.openBatches, stage])
      fun comparison member => own comparison (List.mem_cons_of_mem _ member)
  case h_9 active left right rest stage =>
    obtain rfl := Option.some.inj taken
    rw [stage] at met
    refine compare_kept startDistinct kept stage fun one other isActive foundLeft foundRight => ?_
    subst isActive
    exact met one foundLeft other foundRight
  all_goals cases taken

/-- A step of a pass that is to leave remembered episodes covered keeps what holds. -/
theorem passStep_kept {start heap : Heap Embedding} {now : Instant} {measures : Measures Embedding}
    {board : Board} {pass : Pass} {next : Heap Embedding × Option Pass}
    {input : Input Embedding} (startDistinct : start.ids.Nodup)
    (kept : Kept start now (heap, some pass))
    (tells : pass.stage.Open → Tells measures heap.store pass.user board)
    (met : pass.closesNamed measures start heap board input)
    (steps : pass.step measures heap input = some next) : Kept start now next := by
  have users := kept.users pass rfl
  have waiting : ∀ upsert, StageOf heap.store pass.user pass.stage →
      (∃ rest, pass.stage = .applying upsert rest) ∨ (∃ rest, pass.stage = .rewriting upsert rest) →
        upsert.user = pass.user ∧ pass.openBatches = (pass.user, pass.batch) :: pass.rest := by
    rintro upsert own (⟨rest, stage⟩ | ⟨rest, stage⟩)
    · rw [stage] at own
      exact ⟨own, by simp only [Pass.openBatches, stage]⟩
    · rw [stage] at own
      exact ⟨own, by simp only [Pass.openBatches, stage]⟩
  cases input with
  | patch answer =>
    simp only [Pass.step] at steps
    split at steps
    · rename_i stage
      obtain rfl := Option.some.inj steps
      have batches := kept.batches
      simp only [Option.map_some, Option.getD_some, Pass.openBatches, stage] at batches
      exact ask_kept kept.distinct (batches.giveUp users) (List.nodup_cons.mp users).2
    · rename_i patch stage
      obtain rfl := Option.some.inj steps
      exact kept.onto rfl rfl (by simp only [Pass.openBatches, stage]) trivial
    · cases steps
  | embedding embedding id at_ =>
    simp only [Pass.step] at steps
    split at steps
    · rename_i upsert rest stage
      obtain ⟨own, isOpen⟩ := waiting upsert (kept.stage pass rfl) (.inl ⟨rest, stage⟩)
      have free : ∀ store : Store Embedding, StageOf store pass.user (.upserts rest) :=
        fun _ => trivial
      exact carry_kept kept own isOpen (by simp only [Pass.openBatches, stage]) free steps
    · rename_i upsert rest stage
      obtain ⟨own, isOpen⟩ := waiting upsert (kept.stage pass rfl) (.inr ⟨rest, stage⟩)
      have free : ∀ store : Store Embedding, StageOf store pass.user (.fallback rest) :=
        fun _ => trivial
      exact carry_kept kept own isOpen (by simp only [Pass.openBatches, stage]) free steps
    · cases steps
  | go at_ => exact go_kept startDistinct kept tells met steps
  | raises linked =>
    -- the rest of the pass is given up, and its batches stay as they are
    have ended : ∀ after : Heap Embedding, after.store.records = heap.store.records →
        after.gone = heap.gone → Kept start now (after, none) := by
      intro after same gone
      refine ⟨?_, ⟨?_, ?_⟩, ?_, ?_⟩
      · have before := kept.distinct
        unfold Heap.ids at before ⊢
        rw [same, gone]
        exact before
      · intro entry member
        cases member
      · intro user id owed
        have remembers := kept.remembers user id owed
        unfold Stored Covered at remembers ⊢
        rw [same]
        exact .inr ⟨List.not_mem_nil, remembers⟩
      · intro other named
        cases named
      · intro other named
        cases named
    simp only [Pass.step] at steps
    split at steps
    · exact Option.some.inj steps ▸ ended heap rfl rfl
    · exact Option.some.inj steps ▸ ended _ (applyLinks_records ..) rfl
    · cases steps

/-! ### A pass and its board -/

/-- The board is read anew when a batch is sent. -/
theorem noted_asking (measures : Measures Embedding) (board : Board) (before : Option Pass)
    (input : Input Embedding) (heap : Heap Embedding) {pass : Pass}
    (stage : pass.stage = .asking) : noted measures board before input (heap, some pass) =
      boardOf measures heap.store pass.user := by
  unfold noted
  dsimp only [Option.map_some]
  rw [stage]

/-- Until then it hears what the pass hears. -/
theorem noted_on (measures : Measures Embedding) (board : Board) (before : Pass)
    (input : Input Embedding) (heap : Heap Embedding) {pass : Pass}
    (stage : pass.stage ≠ .asking) : noted measures board (some before) input (heap, some pass) =
      ((before.heard input).map (board.say measures)).getD board := by
  unfold noted
  dsimp only [Option.map_some, Option.bind_some]
  cases met : pass.stage with
  | asking => exact absurd met stage
  | _ => rfl

/-- The records in force say what the board says when the rest is asked for. -/
theorem tells_ask (measures : Measures Embedding) (board : Board) (before : Option Pass)
    (input : Input Embedding) (heap : Heap Embedding) (rest : List (String × List String))
    {pass : Pass} (asked : (ask heap rest).2 = some pass) :
    Tells measures (ask heap rest).1.store pass.user
      (noted measures board before input (ask heap rest)) := by
  cases rest with
  | nil => cases asked
  | cons entry rest =>
    obtain rfl := Option.some.inj asked
    unfold ask
    rw [noted_asking _ _ _ _ _ rfl]
    exact tells_boardOf ..

/-- What an embedding brings is said by the records in force. -/
theorem tells_carry {measures : Measures Embedding} {heap : Heap Embedding} {board : Board}
    {pass later : Pass} {upsert : Upsert} {embedding : Option Embedding} {id : String}
    {now : Instant} {stage : Stage} {next : Heap Embedding × Option Pass}
    (distinct : heap.ids.Nodup) (own : upsert.user = pass.user) (goesOn : stage ≠ .asking)
    (heard : pass.heard (.embedding embedding id now) = embedding.map fun _ => upsert)
    (tells : Tells measures heap.store pass.user board)
    (taken : pass.carry measures heap upsert embedding id now stage = some next)
    (named : next.2 = some later) : Tells measures next.1.store later.user
      (noted measures board (some pass) (.embedding embedding id now) next) := by
  unfold Pass.carry at taken
  obtain ⟨_, carried⟩ := Option.ite_none_left_eq_some.mp taken
  obtain rfl := Option.some.inj carried
  obtain rfl := Option.some.inj named
  rw [noted_on _ _ _ _ _ goesOn, heard]
  cases embedding with
  | none => exact tells
  | some embedding =>
    have stored : heap.store.ids.Nodup := by
      unfold Heap.ids at distinct
      rw [List.map_append] at distinct
      exact (List.nodup_append.mp distinct).1
    dsimp only [Option.map_some, Option.getD_some]
    rw [← own] at tells ⊢
    exact tells.carryOut stored embedding now id

/-- The next statement of a pass leaves the board in step with the records in force. -/
theorem tells_go {measures : Measures Embedding} {heap : Heap Embedding} {board : Board}
    {pass later : Pass} {now : Instant} {next : Heap Embedding × Option Pass}
    (tells : pass.stage.Open → Tells measures heap.store pass.user board)
    (taken : pass.go measures heap now = some next) (named : next.2 = some later)
    (isOpen : later.stage.Open) : Tells measures next.1.store later.user
      (noted measures board (some pass) (.go now) next) := by
  have unheard : pass.heard (.go now : Input Embedding) = none := by
    unfold Pass.heard
    split
    · contradiction
    · contradiction
    · rfl
  -- the store says the same, and nothing is heard
  have same : ∀ (after : Heap Embedding) (stage : Stage), pass.stage.Open → stage ≠ .asking →
      after.store.records = heap.store.records →
        Tells measures after.store pass.user
          (noted measures board (some pass) (.go now)
            (after, some { pass with stage := stage })) := by
    intro after stage wasOpen goesOn records
    rw [noted_on _ _ _ _ _ goesOn, unheard]
    obtain ⟨profiles, facts⟩ := tells wasOpen
    rw [← records] at profiles facts
    exact ⟨profiles, facts⟩
  unfold Pass.go at taken
  dsimp only at taken
  split at taken
  case h_1 stage =>
    obtain rfl := Option.some.inj taken
    obtain rfl := Option.some.inj named
    exact same heap _ (by rw [stage]; trivial) (fun same => by cases same) rfl
  case h_2 entry rest stage =>
    split at taken
    · obtain rfl := Option.some.inj taken
      obtain rfl := Option.some.inj named
      exact same heap _ (by rw [stage]; trivial) (fun same => by cases same) rfl
    · obtain rfl := Option.some.inj taken
      obtain rfl := Option.some.inj named
      exact same heap _ (by rw [stage]; trivial) (fun same => by cases same) rfl
  case h_3 stage =>
    split at taken
    · obtain rfl := Option.some.inj taken
      obtain rfl := Option.some.inj named
      exact same _ _ (by rw [stage]; trivial) (fun same => by cases same) (applyLinks_records ..)
    · obtain rfl := Option.some.inj taken
      obtain rfl := Option.some.inj named
      exact same _ _ (by rw [stage]; trivial) (fun same => by cases same) (applyLinks_records ..)
  case h_4 stage =>
    obtain rfl := Option.some.inj taken
    obtain rfl := Option.some.inj named
    exact same heap _ (by rw [stage]; trivial) (fun same => by cases same) rfl
  case h_5 id rest stage =>
    split at taken
    · obtain rfl := Option.some.inj taken
      obtain rfl := Option.some.inj named
      exact same heap _ (by rw [stage]; trivial) (fun same => by cases same) rfl
    · obtain rfl := Option.some.inj taken
      obtain rfl := Option.some.inj named
      exact same heap _ (by rw [stage]; trivial) (fun same => by cases same) rfl
  case h_6 stage =>
    obtain rfl := Option.some.inj taken
    obtain rfl := Option.some.inj named
    exact isOpen.elim
  case h_7 active stage =>
    obtain rfl := Option.some.inj taken
    exact tells_ask measures board _ _ heap pass.rest named
  case h_8 active left rest stage =>
    obtain rfl := Option.some.inj taken
    obtain rfl := Option.some.inj named
    exact isOpen.elim
  case h_9 active left right rest stage =>
    obtain rfl := Option.some.inj taken
    obtain rfl := Option.some.inj named
    exact isOpen.elim
  all_goals cases taken

/-- A step of a pass leaves the board in step with the records in force. -/
theorem tells_step {start heap : Heap Embedding} {now : Instant} {measures : Measures Embedding}
    {board : Board} {pass later : Pass} {next : Heap Embedding × Option Pass}
    {input : Input Embedding} (kept : Kept start now (heap, some pass))
    (tells : pass.stage.Open → Tells measures heap.store pass.user board)
    (steps : pass.step measures heap input = some next) (named : next.2 = some later)
    (isOpen : later.stage.Open) : Tells measures next.1.store later.user
      (noted measures board (some pass) input next) := by
  have own := kept.stage pass rfl
  cases input with
  | patch answer =>
    simp only [Pass.step] at steps
    split at steps
    · obtain rfl := Option.some.inj steps
      exact tells_ask measures board _ _ heap pass.rest named
    · rename_i patch stage
      obtain rfl := Option.some.inj steps
      obtain rfl := Option.some.inj named
      rw [noted_on _ _ _ _ _ fun same => by cases same]
      unfold Pass.heard
      rw [stage]
      exact tells (by rw [stage]; trivial)
    · cases steps
  | embedding embedding id at_ =>
    simp only [Pass.step] at steps
    split at steps
    · rename_i upsert rest stage
      rw [stage] at own
      have onward : Stage.upserts rest ≠ .asking := fun same => by cases same
      refine tells_carry kept.distinct own onward ?_ (tells (by rw [stage]; trivial)) steps named
      unfold Pass.heard
      rw [stage]
      cases embedding <;> rfl
    · rename_i upsert rest stage
      rw [stage] at own
      have onward : Stage.fallback rest ≠ .asking := fun same => by cases same
      refine tells_carry kept.distinct own onward ?_ (tells (by rw [stage]; trivial)) steps named
      unfold Pass.heard
      rw [stage]
      cases embedding <;> rfl
    · cases steps
  | go at_ => exact tells_go tells steps named isOpen
  | raises linked =>
    simp only [Pass.step] at steps
    split at steps
    · obtain rfl := Option.some.inj steps
      cases named
    · obtain rfl := Option.some.inj steps
      cases named
    · cases steps

/-- What holds between two statements of a pass that has a board. -/
structure KeptNoted (measures : Measures Embedding) (start : Heap Embedding) (now : Instant)
    (state : (Heap Embedding × Option Pass) × Board) : Prop where
  kept : Kept start now state.1
  tells : ∀ pass, state.1.2 = some pass → pass.stage.Open →
    Tells measures state.1.1.store pass.user state.2

/-- A step of a pass and its board keeps what holds. -/
theorem notedStep_kept {start : Heap Embedding} {now : Instant} {measures : Measures Embedding}
    {state next : (Heap Embedding × Option Pass) × Board} {input : Input Embedding}
    (startDistinct : start.ids.Nodup) (kept : KeptNoted measures start now state)
    (closes : ClosesNamed measures start state input)
    (taken : notedStep measures state input = some next) : KeptNoted measures start now next := by
  obtain ⟨⟨heap, pass⟩, board⟩ := state
  obtain ⟨after, steps, rfl⟩ := Option.map_eq_some_iff.mp taken
  obtain ⟨pass, rfl, steps⟩ := Option.bind_eq_some_iff.mp steps
  constructor
  · exact passStep_kept startDistinct kept.kept (kept.tells pass rfl) (closes pass rfl) steps
  · exact fun later named isOpen => tells_step kept.kept (kept.tells pass rfl) steps named isOpen

/-- The batches of a pass are untouched when it starts. -/
theorem startPass_kept {start : Heap Embedding} (startDistinct : start.ids.Nodup) (now : Instant) :
    Kept start now (startPass start now) := by
  have users : ((pendingBatches start.store now).map Prod.fst).Nodup := by
    unfold pendingBatches pendingUsers
    rw [List.map_map]
    have same : Prod.fst ∘ (fun user => (user, ((pendingOf start.store user).take
        pendingBatchSize).map Record.id)) = id := rfl
    rw [same, List.map_id]
    exact (List.nodup_reverse.mpr (List.nodup_dedup _)).filter _
  refine ask_kept startDistinct ⟨?_, ?_⟩ users
  · intro entry member id listed
    obtain ⟨user, _, rfl⟩ := List.mem_map.mp member
    obtain ⟨record, taken, rfl⟩ := List.mem_map.mp listed
    have sorted := (List.perm_insertionSort _ _).mem_iff.mp (List.mem_of_mem_take taken)
    obtain ⟨there, own⟩ := List.mem_filter.mp sorted
    have pending := of_decide_eq_true own
    exact ⟨record, there, there, rfl, pending.1, pending.2⟩
  · rintro user id ⟨batch, member, listed, _⟩
    exact .inl ⟨batch, member, listed⟩

/-- At its start a pass has lost nothing. -/
theorem notedStart_kept {start : Heap Embedding} (measures : Measures Embedding)
    (startDistinct : start.ids.Nodup) (now : Instant) :
    KeptNoted measures start now (notedStart measures start now) := by
  refine ⟨startPass_kept startDistinct now, fun pass named _ => ?_⟩
  have first : (startPass start now).2 = some pass := named
  have same : (startPass start now).1.store = start.store := by
    unfold startPass
    cases pendingBatches start.store now <;> rfl
  unfold notedStart
  dsimp only
  rw [first, same]
  exact tells_boardOf ..

/-- Through every pass, whatever the model answers and whichever embeddings fail, each
episode of a batch that was to be remembered is pending or named by an active durable
record of its user, if the batches that are deleted were named by what their upserts say, and
records are merged into active ones. -/
theorem pass_remembers (measures : Measures Embedding) (start : Heap Embedding)
    (now : Instant) (inputs : List (Input Embedding)) (distinct : start.ids.Nodup)
    (closes : Along (notedStep measures) (ClosesNamed measures start)
      (notedStart measures start now) inputs) :
    Throughout (notedStep measures) (fun state => Remembers start now state.1)
      (notedStart measures start now) inputs := by
  have kept := notedStart_kept measures distinct now
  refine ⟨kept.kept.remembers, ?_⟩
  refine Along.imp_of_invariant (KeptNoted measures start now) ?_ ?_ kept closes
  · exact fun state input next holds met taken => notedStep_kept distinct holds met taken
  · exact fun state input holds met next taken =>
      (notedStep_kept distinct holds met taken).kept.remembers

end

/-! Two episodes to be remembered, and a patch that names both of them or one. -/

/-- Embeddings along the axes, with the powers of a half at whole numbers. -/
def axes : Measures Nat where
  cosine := fun first second => if first = second then 1 else 0
  halving := fun power => 1 / 2 ^ power.floor.toNat
  lower := Text.lowerWord
  isWord := fun character => character.isAlphanum || character = '_'
  embeddingModel := "axes"

/-- A pending episode the user asked to remember. -/
def toRemember (id content : String) (axis : Nat) : Record Nat where
  id := id
  kind := .episode
  user := "u"
  session := "s"
  content := content
  embedding := some axis
  embeddingModel := "axes"
  strength := 7 / 10
  importance := 9 / 10
  confidence := 6 / 10
  createdAt := 0
  lastUpdatedAt := 0
  status := .active
  tags := [pendingTag, rememberTag]
  sourceRecordIds := []
  factKey := ""
  factValue := ""
  origins := []

/-- Two episodes of one user. -/
def twoEpisodes : Heap Nat where
  store := ⟨[toRemember "ep_1" "I drink tea" 1, toRemember "ep_2" "My cat is called Ada" 2], []⟩
  gone := []
  sent := []

/-- The model answers with one fact, from the given episodes. -/
def oneFact (sources : List String) : List (Input Nat) :=
  [.patch (some ⟨[], [⟨"the user drinks tea", "drink", "tea", 8 / 10, sources⟩], []⟩),
    .go (seconds 1800), .embedding (some 3) "fact_1" (seconds 1801), .go (seconds 1802),
    .go (seconds 1802), .go (seconds 1802)]

/-- Both episodes are remembered when the one fact names them. -/
theorem both_remembered : Throughout (notedStep axes)
    (fun state => Remembers twoEpisodes (seconds 1800) state.1)
    (notedStart axes twoEpisodes (seconds 1800)) (oneFact ["ep_1", "ep_2"]) :=
  pass_remembers axes twoEpisodes (seconds 1800) (oneFact ["ep_1", "ep_2"])
    (by decide +kernel) (by decide +kernel)

/-- The episode the fact does not name is deleted with the other. -/
theorem second_forgotten :
    ¬ ∀ inputs : List (Input Nat), Throughout (passStep axes)
      (Remembers twoEpisodes (seconds 1800)) (startPass twoEpisodes (seconds 1800)) inputs := by
  intro remembers
  have owed : Owed twoEpisodes (seconds 1800) "u" "ep_2" := by
    refine ⟨["ep_1", "ep_2"], by decide +kernel, by decide,
      toRemember "ep_2" "My cat is called Ada" 2, rfl, by decide⟩
  have ran : (run (passStep axes) (startPass twoEpisodes (seconds 1800)) (oneFact ["ep_1"])).any
      (fun state => decide (state.1.store.ids = ["fact_1"] ∧
        ¬ Covered state.1.store "u" "ep_2")) = true := by decide +kernel
  obtain ⟨state, completed, found⟩ := Option.any_eq_true _ _ |>.mp ran
  obtain ⟨left, uncovered⟩ := of_decide_eq_true found
  rcases (remembers _).final completed "u" "ep_2" owed with ⟨record, member, named, _⟩ | covered
  · have listed : "ep_2" ∈ state.1.store.ids := named ▸ List.mem_map_of_mem member
    rw [left] at listed
    simp at listed
  · exact uncovered covered

end MeetYou.MemoryConsolidation
