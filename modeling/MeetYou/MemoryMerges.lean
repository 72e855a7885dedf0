import Mathlib.Data.Set.Basic
import Mathlib.Data.Set.BooleanAlgebra
import Mathlib.Order.CompletePartialOrder
import MeetYou.Foundation.Absorption
import MeetYou.Foundation.Runs
import MeetYou.MemoryStore

/-!
# Merging long-term memories

`consolidate_long_term_memory` takes the active facts and profiles of a user and compares
each with those behind it. Two that are alike enough are merged: the better one takes the
other in, and the other is invalidated. The outer loop passes over a record that was
invalidated before its turn; the inner loop goes on with it when it is invalidated during
its turn.

The records of a pass are told apart by where they stand in the store, as the program
tells its dictionaries apart, so nothing depends on their ids being distinct. A pass also
carries the merges it made, and in what status each found the record it merged into; the
program keeps no such list.

A pass loses no memory when everything that was active is held by an active record it was
merged into, perhaps by way of others, and no record is merged into an invalidated one. It
does so unless an outer record that was invalidated during its turn goes on to take in
another one.
-/

namespace MeetYou.MemoryMerges

open MemoryStore

variable {Embedding : Type}

/-! ## A pass -/

/-- A merge of a pass: the record that was taken in, the one that took it in, and the
status that one was found in. -/
structure Merge where
  absorbed : Nat
  primary : Nat
  found : Status
  deriving DecidableEq

/-- A pass under way: the store, whether the turn of the outer record goes on, and the
merges so far. -/
structure Pass (Embedding : Type) where
  store : Store Embedding
  turn : Bool
  merges : List Merge

/-- What the two loops come to next: the outer record, or one behind it, with the clock. -/
inductive Next
  | outer (left : Nat)
  | inner (left right : Nat) (now : Instant)

/-- `_merge_long_term_records`, of the records at two places. -/
def mergeAt (pass : Pass Embedding) (primary absorbed : Nat) (into taken : Record Embedding)
    (sim : Rat) (now : Instant) : Pass Embedding :=
  if into.id = taken.id then pass
  else
    { pass with
      store := { pass.store with
        records := (pass.store.records.modify primary (merged now taken)).modify absorbed
          (invalidate now) }.upsertEdge into.id taken.id { semanticSim := sim, derivedFrom := true }
      merges := pass.merges ++ [⟨absorbed, primary, into.status⟩] }

/-- The body of the inner loop. -/
def compareAt (measures : Measures Embedding) (pass : Pass Embedding) (left right : Nat)
    (one other : Record Embedding) (now : Instant) : Pass Embedding :=
  if other.status = .active ∧ comparable one other then
    let sim := similarity measures one.embedding other.embedding
    if longTermMergeSimThreshold ≤ sim then
      if notBehind one other then mergeAt pass left right one other sim now
      else mergeAt pass right left other one sim now
    else if longTermEdgeSimThreshold ≤ sim then
      { pass with store := pass.store.upsertEdge one.id other.id { semanticSim := sim } }
    else pass
  else pass

/-- A step of the two loops. -/
def step (measures : Measures Embedding) (pass : Pass Embedding) : Next → Pass Embedding
  | .outer left =>
      { pass with
        turn := pass.store.records[left]?.any fun record => decide (record.status = .active) }
  | .inner left right now =>
      match pass.turn, pass.store.records[left]?, pass.store.records[right]? with
      | true, some one, some other => compareAt measures pass left right one other now
      | _, _, _ => pass

/-- The two loops over the places; the clock is read at each comparison. -/
def loops (clock : Nat → Nat → Instant) : List Nat → List Next
  | [] => []
  | left :: rest =>
      (.outer left :: rest.map fun right => .inner left right (clock left right)) ++
        loops clock rest

/-- The places of the records a pass compares. -/
def compared (measures : Measures Embedding) (store : Store Embedding) (user : String) :
    List Nat :=
  (List.range store.records.length).filter fun place =>
    store.records[place]?.any fun record => decide (record.longTerm measures user)

/-- The start of a pass. -/
def begin (store : Store Embedding) : Pass Embedding := ⟨store, false, []⟩

/-- What the two loops of a pass for the user come to. -/
def schedule (measures : Measures Embedding) (clock : Nat → Nat → Instant)
    (store : Store Embedding) (user : String) : List Next :=
  loops clock (compared measures store user)

/-- `consolidate_long_term_memory`. -/
def consolidateLongTermMemory (measures : Measures Embedding) (clock : Nat → Nat → Instant)
    (store : Store Embedding) (user : String) : Pass Embedding :=
  (schedule measures clock store user).foldl (step measures) (begin store)

/-! ## Losing none -/

/-- What a pass holds: the active records live, each carries its sources, and each absorbed
record was taken into the one that absorbed it. -/
def Pass.ledger (pass : Pass Embedding) : Absorption.Ledger Nat (Set String) where
  live := {place | ∃ record, pass.store.records[place]? = some record ∧ record.status = .active}
  carries := fun place => {id | ∃ record, pass.store.records[place]? = some record ∧
    id ∈ record.sourceRecordIds}
  into := fun absorbed primary => ∃ merge ∈ pass.merges,
    merge.absorbed = absorbed ∧ merge.primary = primary

/-- Every fact and profile that was active is held by an active record with its sources. -/
def Kept (store : Store Embedding) (pass : Pass Embedding) : Prop :=
  ∀ place record, store.records[place]? = some record → record.kind ≠ .episode →
    record.status = .active → pass.ledger.Held place {id | id ∈ record.sourceRecordIds}

/-- A merge found the record it merged into active. -/
def Merge.Sound (merge : Merge) : Prop := merge.found = .active

/-- A pass over the store loses no memory. -/
structure LosesNone (store : Store Embedding) (pass : Pass Embedding) : Prop where
  kept : Kept store pass
  sound : ∀ merge ∈ pass.merges, merge.Sound

/-- The pair is merged into the outer record. -/
def mergesIntoOuter (measures : Measures Embedding) (one other : Record Embedding) : Prop :=
  other.status = .active ∧ comparable one other ∧
    longTermMergeSimThreshold ≤ similarity measures one.embedding other.embedding ∧
    notBehind one other ∧ one.id ≠ other.id

/-- The step merges into an outer record only while that is active. -/
def Careful (measures : Measures Embedding) (pass : Pass Embedding) : Next → Prop
  | .outer _ => True
  | .inner left right _ => ∀ one other, pass.turn = true → pass.store.records[left]? = some one →
      pass.store.records[right]? = some other → mergesIntoOuter measures one other →
        one.status = .active

/-! ## What a comparison does -/

/-- A comparison makes no merge and keeps the records, or merges one of the pair into the
other. -/
inductive Compared (measures : Measures Embedding) (pass : Pass Embedding) (left right : Nat)
    (one other : Record Embedding) (now : Instant) : Pass Embedding → Prop
  | apart (after : Pass Embedding) (records : after.store.records = pass.store.records)
      (merges : after.merges = pass.merges) (none : ¬ mergesIntoOuter measures one other) :
      Compared measures pass left right one other now after
  | outer (sim : Rat) (into : mergesIntoOuter measures one other) :
      Compared measures pass left right one other now (mergeAt pass left right one other sim now)
  | inner (sim : Rat) (active : other.status = .active)
      (none : ¬ mergesIntoOuter measures one other) (different : other.id ≠ one.id) :
      Compared measures pass left right one other now (mergeAt pass right left other one sim now)

theorem mergeAt_same {pass : Pass Embedding} {primary absorbed : Nat}
    {into taken : Record Embedding} {sim : Rat} {now : Instant} (same : into.id = taken.id) :
    mergeAt pass primary absorbed into taken sim now = pass :=
  if_pos same

theorem compareAt_cases (measures : Measures Embedding) (pass : Pass Embedding) (left right : Nat)
    (one other : Record Embedding) (now : Instant) :
    Compared measures pass left right one other now
      (compareAt measures pass left right one other now) := by
  unfold compareAt
  dsimp only
  split
  · rename_i open_
    obtain ⟨active, alike⟩ := open_
    split
    · rename_i similar
      split
      · rename_i ahead
        by_cases same : one.id = other.id
        · rw [mergeAt_same same]
          exact .apart pass rfl rfl fun into => into.2.2.2.2 same
        · exact .outer _ ⟨active, alike, similar, ahead, same⟩
      · rename_i behind
        have none : ¬ mergesIntoOuter measures one other := fun into => behind into.2.2.2.1
        by_cases same : other.id = one.id
        · rw [mergeAt_same same]
          exact .apart pass rfl rfl none
        · exact .inner _ active none same
    · rename_i unlike
      have none : ¬ mergesIntoOuter measures one other := fun into => unlike into.2.2.1
      split
      · exact .apart _ (Store.upsertEdge_records ..) rfl none
      · exact .apart pass rfl rfl none
  · rename_i closed
    exact .apart pass rfl rfl fun into => closed ⟨into.1, into.2.1⟩

theorem mergeAt_records {pass : Pass Embedding} {primary absorbed : Nat}
    {into taken : Record Embedding} (sim : Rat) (now : Instant) (different : into.id ≠ taken.id) :
    (mergeAt pass primary absorbed into taken sim now).store.records =
      (pass.store.records.modify primary (merged now taken)).modify absorbed (invalidate now) := by
  unfold mergeAt
  rw [if_neg different]
  exact Store.upsertEdge_records ..

theorem mergeAt_merges (pass : Pass Embedding) (primary absorbed : Nat)
    {into taken : Record Embedding} (sim : Rat) (now : Instant) (different : into.id ≠ taken.id) :
    (mergeAt pass primary absorbed into taken sim now).merges =
      pass.merges ++ [⟨absorbed, primary, into.status⟩] := by
  unfold mergeAt
  rw [if_neg different]

/-- A record of a pass behind a merge comes from the one at its place: it took another in,
or was invalidated, or is the same. -/
theorem mergeAt_at {pass : Pass Embedding} (primary absorbed : Nat)
    {into taken record : Record Embedding} {place : Nat} (sim : Rat) (now : Instant)
    (different : into.id ≠ taken.id) (there : pass.store.records[place]? = some record)
    (remains : place ≠ absorbed) :
    (mergeAt pass primary absorbed into taken sim now).store.records[place]? =
      some (if place = primary then merged now taken record else record) := by
  rw [mergeAt_records sim now different, List.getElem?_modify, List.getElem?_modify, there]
  by_cases same : primary = place
  · simp [same, Ne.symm remains]
  · simp [same, Ne.symm same, Ne.symm remains]

/-- A step makes no merge and keeps the records, or compares a pair that is there. -/
inductive Stepped (measures : Measures Embedding) (pass : Pass Embedding) :
    Next → Pass Embedding → Prop
  | outer (left : Nat) (after : Pass Embedding) (records : after.store.records = pass.store.records)
      (merges : after.merges = pass.merges) : Stepped measures pass (.outer left) after
  | idle (left right : Nat) (now : Instant)
      (absent : ∀ one other, pass.turn = true → pass.store.records[left]? = some one →
        pass.store.records[right]? ≠ some other) :
      Stepped measures pass (.inner left right now) pass
  | compares (left right : Nat) (one other : Record Embedding) (now : Instant)
      (after : Pass Embedding) (turn : pass.turn = true)
      (leftThere : pass.store.records[left]? = some one)
      (rightThere : pass.store.records[right]? = some other)
      (does : Compared measures pass left right one other now after) :
      Stepped measures pass (.inner left right now) after

theorem step_cases (measures : Measures Embedding) (pass : Pass Embedding) (next : Next) :
    Stepped measures pass next (step measures pass next) := by
  cases next with
  | outer left => exact .outer left _ rfl rfl
  | inner left right now =>
    unfold step
    dsimp only
    split
    · rename_i one other turn leftThere rightThere
      exact .compares left right one other now _ turn leftThere rightThere
        (compareAt_cases measures pass left right one other now)
    · rename_i idle
      exact .idle left right now idle

/-- A merge into an active record takes the other into it. -/
theorem mergeAt_takes {pass : Pass Embedding} {primary absorbed : Nat}
    {into taken : Record Embedding} (sim : Rat) (now : Instant)
    (primaryThere : pass.store.records[primary]? = some into)
    (absorbedThere : pass.store.records[absorbed]? = some taken)
    (different : into.id ≠ taken.id) (active : into.status = .active) :
    Absorption.Takes pass.ledger (mergeAt pass primary absorbed into taken sim now).ledger
      absorbed primary := by
  have apart : primary ≠ absorbed := by
    rintro rfl
    rw [primaryThere] at absorbedThere
    exact different (congrArg Record.id (Option.some.inj absorbedThere))
  have grown := mergeAt_at primary absorbed sim now different primaryThere apart
  rw [if_pos rfl] at grown
  have merges := mergeAt_merges pass primary absorbed sim now different
  refine ⟨?_, ?_, ⟨_, grown, active⟩, ?_, ?_, ?_⟩
  · rintro first second ⟨merge, made, ends⟩
    exact ⟨merge, merges ▸ List.mem_append_left _ made, ends⟩
  · exact ⟨_, merges ▸ List.mem_append_right _ (List.mem_singleton_self _), rfl, rfl⟩
  · rintro place ⟨record, there, alive⟩ remains
    refine ⟨_, mergeAt_at primary absorbed sim now different there remains, ?_⟩
    split
    · exact alive
    · exact alive
  · rintro place remains id ⟨record, there, named⟩
    refine ⟨_, mergeAt_at primary absorbed sim now different there remains, ?_⟩
    split
    · exact mem_unionIds.mpr (.inl named)
    · exact named
  · rintro id ⟨record, there, named⟩
    obtain rfl := Option.some.inj (absorbedThere.symm.trans there)
    exact ⟨_, grown, mem_unionIds.mpr (.inr named)⟩

/-! ## Records told apart by their ids -/

/-! ## Passes that lose none -/

/-- What is the same in records and merges is held alike. -/
theorem ledger_congr {before after : Pass Embedding}
    (records : after.store.records = before.store.records) (merges : after.merges = before.merges) :
    after.ledger = before.ledger := by
  unfold Pass.ledger
  rw [records, merges]

theorem LosesNone.unmoved {store : Store Embedding} {before after : Pass Embedding}
    (none : LosesNone store before) (records : after.store.records = before.store.records)
    (merges : after.merges = before.merges) : LosesNone store after := by
  refine ⟨fun place record there durable active => ?_, fun merge made => ?_⟩
  · rw [ledger_congr records merges]
    exact none.kept place record there durable active
  · exact none.sound merge (merges ▸ made)

/-- A merge into an active record loses none. -/
theorem LosesNone.merge {store : Store Embedding} {pass : Pass Embedding} {primary absorbed : Nat}
    {into taken : Record Embedding} (none : LosesNone store pass) (sim : Rat) (now : Instant)
    (primaryThere : pass.store.records[primary]? = some into)
    (absorbedThere : pass.store.records[absorbed]? = some taken)
    (different : into.id ≠ taken.id) (active : into.status = .active) :
    LosesNone store (mergeAt pass primary absorbed into taken sim now) := by
  have takes := mergeAt_takes sim now primaryThere absorbedThere different active
  refine ⟨fun place record there durable alive => ?_, fun merge made => ?_⟩
  · exact (none.kept place record there durable alive).taken takes
  · rw [mergeAt_merges _ _ _ sim now different] at made
    rcases List.mem_append.mp made with earlier | last
    · exact none.sound merge earlier
    · obtain rfl := List.mem_singleton.mp last
      exact active

theorem begin_loses_none (store : Store Embedding) : LosesNone store (begin store) := by
  refine ⟨fun place record there _ active => ?_, fun merge made => nomatch made⟩
  refine ⟨place, .refl, ⟨record, there, active⟩, ?_⟩
  exact fun id named => ⟨record, there, named⟩

/-- A careful step loses none. -/
theorem LosesNone.step {measures : Measures Embedding} {store : Store Embedding}
    {pass : Pass Embedding} {next : Next} (none : LosesNone store pass)
    (careful : Careful measures pass next) : LosesNone store (step measures pass next) := by
  have steps := step_cases measures pass next
  generalize MemoryMerges.step measures pass next = after at steps
  cases steps with
  | outer _ _ records merges => exact none.unmoved records merges
  | idle => exact none
  | compares left right one other now _ turn leftThere rightThere does =>
    cases does with
    | apart _ records merges => exact none.unmoved records merges
    | outer sim into =>
      have active := careful one other turn leftThere rightThere into
      exact none.merge sim now leftThere rightThere into.2.2.2.2 active
    | inner sim active _ different =>
      exact none.merge sim now rightThere leftThere different active

/-- A step whose merges are sound is careful. -/
theorem careful_of_sound {measures : Measures Embedding} {pass : Pass Embedding} {next : Next}
    (sound : ∀ merge ∈ (step measures pass next).merges, merge.Sound) :
    Careful measures pass next := by
  have steps := step_cases measures pass next
  generalize step measures pass next = after at steps sound
  cases steps with
  | outer => trivial
  | idle left right now absent =>
    exact fun one other turn leftThere rightThere =>
      absurd rightThere (absent one other turn leftThere)
  | compares left right one other now _ turn leftThere rightThere does =>
    intro one' other' _ leftAlso rightAlso into
    obtain rfl := Option.some.inj (leftThere.symm.trans leftAlso)
    obtain rfl := Option.some.inj (rightThere.symm.trans rightAlso)
    cases does with
    | apart _ _ _ unmerged => exact absurd into unmerged
    | outer sim =>
      apply sound ⟨right, left, one.status⟩
      rw [mergeAt_merges _ _ _ sim now into.2.2.2.2]
      exact List.mem_append_right _ (List.mem_singleton_self _)
    | inner _ _ unmerged => exact absurd into unmerged

/-- A step keeps the merges made before it. -/
theorem step_merges (measures : Measures Embedding) (pass : Pass Embedding) (next : Next) :
    pass.merges ⊆ (step measures pass next).merges := by
  have steps := step_cases measures pass next
  generalize step measures pass next = after at steps
  cases steps with
  | outer _ _ _ merges => exact merges ▸ List.Subset.refl _
  | idle => exact List.Subset.refl _
  | compares left right one other now _ _ _ _ does =>
    cases does with
    | apart _ _ merges => exact merges ▸ List.Subset.refl _
    | outer sim into =>
      rw [mergeAt_merges _ _ _ sim now into.2.2.2.2]
      exact List.subset_append_left ..
    | inner sim _ _ different =>
      rw [mergeAt_merges _ _ _ sim now different]
      exact List.subset_append_left ..

theorem merges_of_run (measures : Measures Embedding) (pass : Pass Embedding) (todo : List Next) :
    pass.merges ⊆ (todo.foldl (step measures) pass).merges := by
  induction todo generalizing pass with
  | nil => exact List.Subset.refl _
  | cons next rest inductionHypothesis =>
    exact List.Subset.trans (step_merges measures pass next)
      (inductionHypothesis (step measures pass next))

/-- The rest of a pass that has lost none loses none exactly when each step is careful. -/
theorem run_loses_none_iff {measures : Measures Embedding} {store : Store Embedding}
    {pass : Pass Embedding} (none : LosesNone store pass) (todo : List Next) :
    LosesNone store (todo.foldl (step measures) pass) ↔
      Runs.Along (fun pass next => some (step measures pass next)) (Careful measures) pass
        todo := by
  induction todo generalizing pass with
  | nil => exact ⟨fun _ => trivial, fun _ => none⟩
  | cons next rest inductionHypothesis =>
    constructor
    · intro whole
      have careful : Careful measures pass next := by
        apply careful_of_sound
        intro merge made
        exact whole.sound merge (merges_of_run measures _ rest made)
      have onward := none.step careful
      exact Runs.along_cons careful rfl ((inductionHypothesis onward).mp whole)
    · rintro ⟨careful, remaining⟩
      exact (inductionHypothesis (none.step careful)).mpr (remaining _ rfl)

/-- A pass loses no memory exactly when it merges into an outer record only while that is
active. -/
theorem consolidation_loses_none_iff (measures : Measures Embedding)
    (clock : Nat → Nat → Instant) (store : Store Embedding) (user : String) :
    LosesNone store (consolidateLongTermMemory measures clock store user) ↔
      Runs.Along (fun pass next => some (step measures pass next)) (Careful measures) (begin store)
        (schedule measures clock store user) :=
  run_loses_none_iff (begin_loses_none store) _

/-! ## Three memories -/

/-- A fact of `u` that was confirmed to a degree. -/
def fact (id : String) (confidence : Rat) (embedding : Nat) : Record Nat where
  id := id
  kind := .fact
  user := "u"
  session := ""
  content := id
  embedding := some embedding
  embeddingModel := "m"
  strength := 1
  importance := 1
  confidence := confidence
  createdAt := 0
  lastUpdatedAt := 0
  status := .active
  tags := []
  sourceRecordIds := ["e" ++ id]
  factKey := ""
  factValue := ""
  origins := []

/-- The first is alike to both others, which are not alike to each other. -/
def between : Measures Nat where
  cosine := fun first second => if first = 0 ∨ second = 0 then 95 / 100 else 80 / 100
  halving := fun _ => 1
  lower := id
  isWord := fun _ => true
  embeddingModel := "m"

/-- The second is surer than the first, the third less sure. -/
def three : Store Nat := ⟨[fact "a" (8 / 10) 0, fact "b" (9 / 10) 1, fact "c" (7 / 10) 2], []⟩

/-- The first is merged into the second, and then the third into the first. -/
theorem third_memory_lost :
    ¬ LosesNone three (consolidateLongTermMemory between (fun _ _ => 0) three "u") := by
  intro none
  have merges : (consolidateLongTermMemory between (fun _ _ => 0) three "u").merges =
      [⟨0, 1, .active⟩, ⟨2, 0, .invalidated⟩] := by decide +kernel
  have sound := none.sound ⟨2, 0, .invalidated⟩ (by simp [merges])
  cases sound

end MeetYou.MemoryMerges
