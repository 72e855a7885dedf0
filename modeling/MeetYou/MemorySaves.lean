import MeetYou.MemoryRuns

/-!
# Saves that can be recalled

`save_memory` looks for an episode of the user, the session and the text that was updated
within the window. If it finds one it refreshes that and answers with its id. Otherwise it
waits for an embedding and adds an episode, without looking again. Where the user asked to
remember the text it then waits for the embedding of a durable record.

A number of calls save the same text for the same user and session, repeatedly and
concurrently, over any store. A save can be recalled while the episode it answers with is
active, has the text, and is the only active episode with that canonical text of the user
and the session. The search for an episode does not look at its status, its exact text or
at others like it, and the wait for the embedding lets another call add its episode first.
Each save can be recalled exactly when neither makes a difference.
-/

namespace MeetYou.MemorySaves

open Runs MemoryStore MemoryConsolidation MemoryRuns

/-- What the calls save, and for whom. -/
structure Given where
  text : String
  session : String
  user : String

section
variable {Embedding : Type}

/-- The memory, and the ids of the records that saves found or added, which they answer
with. -/
structure Saves (Embedding : Type) where
  memory : Memory Embedding
  answers : List String

/-- What happens next: another call, or the reply to one that waits. -/
inductive Turn (Embedding : Type)
  | call (emotion : Rat) (tags : List String) (now : Instant)
  | reply (index : Nat) (input : Input Embedding)

/-- The episode a call meets. -/
def found (measures : Measures Embedding) (given : Given) (store : Store Embedding)
    (now : Instant) : Option (Record Embedding) :=
  if Text.strip given.text = "" then none
  else lastEpisode measures store given.user given.session (Text.strip given.text) now

/-- The id of the episode a reply adds. -/
def added (memory : Memory Embedding) (index : Nat) : Input Embedding → Option String
  | .embedding (some _) id _ =>
      match memory.waiting[index]? with
      | some (.saving _) => some id
      | _ => none
  | _ => none

/-- A step of the memory, with the answer of a save that it ends. -/
def Saves.step (measures : Measures Embedding) (given : Given) (saves : Saves Embedding) :
    Turn Embedding → Option (Saves Embedding)
  | .call emotion tags now =>
      (saves.memory.step measures
        (.save given.text emotion given.session given.user tags now)).map fun memory =>
          { memory := memory
            answers := saves.answers ++
              ((found measures given saves.memory.heap.store now).map Record.id).toList }
  | .reply index input =>
      (saves.memory.step measures (.reply index input)).map fun memory =>
        ⟨memory, saves.answers ++ (added saves.memory index input).toList⟩

/-- The calls start over a store. -/
def begin (heap : Heap Embedding) : Saves Embedding := ⟨⟨heap, none, []⟩, []⟩

/-! ## Saves that can be recalled -/

/-- An episode of the user and the session with the canonical text. -/
def equal (measures : Measures Embedding) (given : Given) (record : Record Embedding) : Prop :=
  record.kind = .episode ∧ record.user = given.user ∧ record.session = given.session ∧
    canonicalize measures record.content = canonicalize measures (Text.strip given.text)

instance (measures : Measures Embedding) (given : Given) (record : Record Embedding) :
    Decidable (equal measures given record) :=
  inferInstanceAs (Decidable (_ ∧ _))

/-- The active episodes of the user and the session with the canonical text. -/
def actives (measures : Measures Embedding) (given : Given) (store : Store Embedding) :
    List (Record Embedding) :=
  store.records.filter fun record => record.status = .active ∧ equal measures given record

/-- The record with the id is active, has the content, and is the only active episode with
that canonical text of the user and the session. -/
def Recallable (measures : Measures Embedding) (given : Given) (store : Store Embedding)
    (id : String) : Prop :=
  ∃ record, actives measures given store = [record] ∧ record.id = id ∧
    record.content = Text.strip given.text

/-- Each save can be recalled. -/
def Kept (measures : Measures Embedding) (given : Given) (saves : Saves Embedding) : Prop :=
  ∀ id ∈ saves.answers, Recallable measures given saves.memory.heap.store id

/-- An episode of the user and the session with the canonical text, updated within the window. -/
def Within (measures : Measures Embedding) (given : Given) (now : Instant)
    (record : Record Embedding) : Prop :=
  equal measures given record ∧ now - record.lastUpdatedAt ≤ idempotencyWindow

/-- What a step may meet. Where episodes of the text were updated within the window, a call that
saves something may meet exactly one active episode with the canonical text: one with the id of
the last such row and with the very text. An embedding may arrive while no episode with the
canonical text is active. -/
def Careful (measures : Measures Embedding) (given : Given) (saves : Saves Embedding) :
    Turn Embedding → Prop
  | .call _ _ now => ∀ before record behind, Text.strip given.text ≠ "" →
      saves.memory.heap.store.records = before ++ record :: behind →
      Within measures given now record →
      (∀ other ∈ behind, ¬ Within measures given now other) →
        ∃ active, (saves.memory.heap.store.records.filter fun row =>
            row.status = .active ∧ equal measures given row) = [active] ∧
          active.id = record.id ∧ active.content = Text.strip given.text
  | .reply index input => added saves.memory index input ≠ none →
      ∀ row ∈ saves.memory.heap.store.records, equal measures given row → row.status ≠ .active

/-- A call meets the last of the episodes that were updated within the window. -/
theorem found_iff (measures : Measures Embedding) (given : Given) (store : Store Embedding)
    (now : Instant) (record : Record Embedding) :
    found measures given store now = some record ↔
      ∃ before behind, Text.strip given.text ≠ "" ∧ store.records = before ++ record :: behind ∧
        Within measures given now record ∧ ∀ other ∈ behind, ¬ Within measures given now other := by
  have same : ∀ row : Record Embedding, (row.kind = .episode ∧ row.user = given.user ∧
      row.session = given.session ∧
      canonicalize measures row.content = canonicalize measures (Text.strip given.text) ∧
      now - row.lastUpdatedAt ≤ idempotencyWindow) ↔ Within measures given now row := by
    intro row
    unfold Within equal
    simp only [and_assoc]
  unfold found lastEpisode
  by_cases blank : Text.strip given.text = ""
  · rw [if_pos blank]
    exact ⟨nofun, fun ⟨_, _, filled, _⟩ => absurd blank filled⟩
  · rw [if_neg blank, List.find?_eq_some_iff_append]
    simp only [decide_eq_true_eq, Bool.not_eq_true', decide_eq_false_iff_not, same]
    constructor
    · rintro ⟨within, behind, before, whole, others⟩
      refine ⟨before.reverse, behind.reverse, blank, ?_, within, fun other member => ?_⟩
      · rw [← List.reverse_reverse store.records, whole]
        simp
      · exact others other (List.mem_reverse.mp member)
    · rintro ⟨before, behind, _, whole, within, others⟩
      refine ⟨within, behind.reverse, before.reverse, ?_, fun other member => ?_⟩
      · rw [whole]
        simp
      · exact others other (List.mem_reverse.mp member)

/-- A call may meet what can be recalled. -/
theorem careful_call_iff (measures : Measures Embedding) (given : Given)
    (saves : Saves Embedding) (emotion : Rat) (tags : List String) (now : Instant) :
    Careful measures given saves (.call emotion tags now) ↔
      ∀ record, found measures given saves.memory.heap.store now = some record →
        Recallable measures given saves.memory.heap.store record.id := by
  constructor
  · intro careful record met
    obtain ⟨before, behind, filled, whole, within, others⟩ :=
      (found_iff measures given _ now record).mp met
    exact careful before record behind filled whole within others
  · intro recallable before record behind filled whole within others
    exact recallable record ((found_iff measures given _ now record).mpr
      ⟨before, behind, filled, whole, within, others⟩)

/-- No episode with the canonical text is active. -/
theorem actives_nil_iff (measures : Measures Embedding) (given : Given)
    (store : Store Embedding) : actives measures given store = [] ↔
      ∀ row ∈ store.records, equal measures given row → row.status ≠ .active := by
  unfold actives
  rw [List.filter_eq_nil_iff]
  simp only [decide_eq_true_eq, not_and]
  exact forall₂_congr fun row _ => ⟨fun none is active => none active is,
    fun none active is => none is active⟩

/-! ## Changes that keep the episodes -/

/-- A change of records that keeps what makes an episode recallable. -/
structure Keeps (change : Record Embedding → Record Embedding) : Prop where
  id : ∀ record, (change record).id = record.id
  kind : ∀ record, (change record).kind = record.kind
  user : ∀ record, (change record).user = record.user
  session : ∀ record, (change record).session = record.session
  content : ∀ record, (change record).content = record.content
  status : ∀ record, (change record).status = record.status

theorem refreshed_keeps (now : Instant) (tags : List String) :
    @Keeps Embedding (refreshed now tags) := by
  constructor <;> intro record <;> rfl

theorem untagged_keeps (held : HeldTags) : @Keeps Embedding (untagged held) := by
  constructor <;> intro record <;> rfl

/-- Some of the records are changed. -/
theorem Keeps.onto {change : Record Embedding → Record Embedding} (keeps : Keeps change)
    (aimed : Record Embedding → Prop) [DecidablePred aimed] :
    Keeps fun record => if aimed record then change record else record := by
  constructor <;> intro record <;> by_cases aim : aimed record
  all_goals simp [aim, keeps.id, keeps.kind, keeps.user, keeps.session, keeps.content, keeps.status]

variable {measures : Measures Embedding} {given : Given}

theorem Keeps.equal_iff {change : Record Embedding → Record Embedding} (keeps : Keeps change)
    (record : Record Embedding) :
    equal measures given (change record) ↔ equal measures given record := by
  unfold equal
  rw [keeps.kind, keeps.user, keeps.session, keeps.content]

theorem actives_map {change : Record Embedding → Record Embedding} (keeps : Keeps change)
    {before after : Store Embedding} (changed : after.records = before.records.map change) :
    actives measures given after = (actives measures given before).map change := by
  unfold actives
  rw [changed, List.filter_map]
  congr 1
  apply List.filter_congr
  intro record _
  simp only [Function.comp_apply, keeps.status, keeps.equal_iff]

/-- What can be recalled can be recalled behind a change that keeps the episodes. -/
theorem recallable_map {change : Record Embedding → Record Embedding} (keeps : Keeps change)
    {before after : Store Embedding} (changed : after.records = before.records.map change)
    (id : String) : Recallable measures given after id ↔ Recallable measures given before id := by
  unfold Recallable
  rw [actives_map keeps changed]
  constructor
  · rintro ⟨record, only, rfl, content⟩
    obtain ⟨origin, alone, rfl⟩ := List.map_eq_singleton_iff.mp only
    exact ⟨origin, alone, (keeps.id origin).symm, (keeps.content origin).symm.trans content⟩
  · rintro ⟨record, only, rfl, content⟩
    exact ⟨change record, by rw [only]; rfl, keeps.id record, (keeps.content record).trans content⟩

/-- A change of records that are no such episodes. -/
theorem actives_apart {change : Record Embedding → Record Embedding}
    {before after : Store Embedding} (changed : after.records = before.records.map change)
    (apart : ∀ record, change record = record ∨
      record.kind ≠ .episode ∧ (change record).kind ≠ .episode) :
    actives measures given after = actives measures given before := by
  unfold actives
  rw [changed]
  induction before.records with
  | nil => rfl
  | cons record rest inductionHypothesis =>
    rw [List.map_cons, List.filter_cons, List.filter_cons, inductionHypothesis]
    rcases apart record with same | ⟨durable, still⟩
    · rw [same]
    · simp [equal, durable, still]

/-- A record that is no episode is added. -/
theorem actives_append {before after : Store Embedding} {record : Record Embedding}
    (added : after.records = before.records ++ [record]) (durable : record.kind ≠ .episode) :
    actives measures given after = actives measures given before := by
  unfold actives
  rw [added, List.filter_append]
  simp [equal, durable]

/-- An upsert leaves the episodes alone. -/
theorem carryOut_actives (store : Store Embedding) (upsert : Upsert)
    (embedding : Option Embedding) (now : Instant) (id : String) :
    actives measures given (carryOut measures store upsert embedding now id).1 =
      actives measures given store := by
  have does := carryOut_cases measures store upsert embedding now id
  generalize carryOut measures store upsert embedding now id = result at does
  cases does with
  | refused => rfl
  | updates embedding existing _ kind =>
    refine actives_apart (Store.update_records ..) fun record => ?_
    split
    · rename_i aimed
      have durable : record.kind ≠ .episode := aimed.2.1 ▸ kind ▸ upsert.durable
      exact .inr ⟨durable, durable⟩
    · exact .inl rfl
  | adds embedding related relation =>
    exact actives_append (Store.add_records ..) upsert.durable
  | displaces embedding existing met =>
    obtain ⟨_, kind, _⟩ := profileOf_mem met
    rw [actives_append (Store.add_records ..) upsert.durable]
    refine @actives_apart _ _ _ (fun record => if record.id = existing.id ∧
      record.kind = existing.kind ∧ record.user = existing.user then invalidate now record
      else record) store _ rfl fun record => ?_
    split
    · rename_i aimed
      have durable : record.kind ≠ .episode := by rw [aimed.2.1, kind]; decide
      exact .inr ⟨durable, durable⟩
    · exact .inl rfl

/-! ## What a step does -/

/-- What waits are saves of the text for the user and the session, and durable records. -/
def Waits (given : Given) : Task → Prop
  | .saving save => save.content = Text.strip given.text ∧ save.session = given.session ∧
      save.user = given.user
  | .writing _ _ _ => True
  | .passing _ => False

/-- The memory runs no pass, and only such calls wait. -/
structure Quiet (given : Given) (memory : Memory Embedding) : Prop where
  idle : memory.running = none
  waits : ∀ task ∈ memory.waiting, Waits given task

/-- A step keeps what can be recalled, or adds an episode. -/
inductive Stepped (measures : Measures Embedding) (given : Given) (saves : Saves Embedding) :
    Turn Embedding → Saves Embedding → Prop
  | meets (emotion : Rat) (tags : List String) (now : Instant) (record : Record Embedding)
      (memory : Memory Embedding)
      (met : found measures given saves.memory.heap.store now = some record)
      (same : ∀ id, Recallable measures given memory.heap.store id ↔
        Recallable measures given saves.memory.heap.store id) :
      Stepped measures given saves (.call emotion tags now) ⟨memory, saves.answers ++ [record.id]⟩
  | waits (emotion : Rat) (tags : List String) (now : Instant) (memory : Memory Embedding)
      (none : found measures given saves.memory.heap.store now = none)
      (same : memory.heap = saves.memory.heap) :
      Stepped measures given saves (.call emotion tags now) ⟨memory, saves.answers⟩
  | adds (index : Nat) (input : Input Embedding) (record : Record Embedding)
      (memory : Memory Embedding) (adds : added saves.memory index input = some record.id)
      (content : record.content = Text.strip given.text)
      (more : actives measures given memory.heap.store =
        actives measures given saves.memory.heap.store ++ [record]) :
      Stepped measures given saves (.reply index input) ⟨memory, saves.answers ++ [record.id]⟩
  | writes (index : Nat) (input : Input Embedding) (memory : Memory Embedding)
      (none : added saves.memory index input = none)
      (same : ∀ id, Recallable measures given memory.heap.store id ↔
        Recallable measures given saves.memory.heap.store id) :
      Stepped measures given saves (.reply index input) ⟨memory, saves.answers⟩

theorem write_quiet {memory : Memory Embedding} (quiet : Quiet given memory) (user : String)
    (record : Record Embedding) (held : HeldTags) :
    Quiet given (memory.write measures user record held) := by
  unfold Memory.write
  split
  · split
    · refine ⟨quiet.idle, fun task waiting => ?_⟩
      rcases List.mem_append.mp waiting with earlier | last
      · exact quiet.waits task earlier
      · obtain rfl := List.mem_singleton.mp last
        trivial
    · exact quiet
  · exact quiet

/-- A call that meets an episode refreshes it. -/
theorem save_met {memory : Memory Embedding} {now : Instant} {record : Record Embedding}
    (met : found measures given memory.heap.store now = some record) (emotion : Rat)
    (tags : List String) :
    memory.save measures given.text emotion given.session given.user tags now =
      (memory.onto (memory.heap.store.revise record (refreshed now tags))).write measures given.user
        (refreshed now tags record) .shares := by
  unfold found at met
  obtain ⟨content, met⟩ := Option.ite_none_left_eq_some.mp met
  simp only [Memory.save, if_neg content, met]
  rfl

/-- A call that meets none waits, unless the text is blank. -/
theorem save_waits {memory : Memory Embedding} {now : Instant}
    (none : found measures given memory.heap.store now = none) (emotion : Rat)
    (tags : List String) :
    memory.save measures given.text emotion given.session given.user tags now =
      if Text.strip given.text = "" then memory
      else { memory with
        waiting := memory.waiting ++ [.saving
          ⟨Text.strip given.text, emotion, given.session, given.user, tags, now⟩] } := by
  unfold found at none
  by_cases blank : Text.strip given.text = ""
  · simp only [Memory.save, if_pos blank]
  · rw [if_neg blank] at none
    simp only [Memory.save, if_neg blank, none]

theorem step_save {memory : Memory Embedding} (quiet : Quiet given memory) (emotion : Rat)
    (tags : List String) (now : Instant) :
    memory.step measures (.save given.text emotion given.session given.user tags now) =
      some (memory.save measures given.text emotion given.session given.user tags now) := by
  simp only [Memory.step, quiet.idle]

/-- A call meets an episode and refreshes it, or waits for an embedding. -/
theorem call_steps {saves next : Saves Embedding} (quiet : Quiet given saves.memory)
    {emotion : Rat} {tags : List String} {now : Instant}
    (taken : saves.step measures given (.call emotion tags now) = some next) :
    Stepped measures given saves (.call emotion tags now) next ∧ Quiet given next.memory := by
  unfold Saves.step at taken
  obtain ⟨memory, saved, rfl⟩ := Option.map_eq_some_iff.mp taken
  obtain rfl := Option.some.inj ((step_save quiet emotion tags now).symm.trans saved)
  cases search : found measures given saves.memory.heap.store now with
  | some record =>
    rw [save_met search]
    have revised : Quiet given
        (saves.memory.onto (saves.memory.heap.store.revise record (refreshed now tags))) :=
      ⟨quiet.idle, quiet.waits⟩
    have still := @write_quiet _ measures given _ revised given.user
      (refreshed now tags record) .shares
    refine ⟨.meets emotion tags now record _ search fun id => ?_, still⟩
    rw [write_heap]
    exact recallable_map ((refreshed_keeps now tags).onto _) rfl id
  | none =>
    rw [save_waits search, Option.map_none, Option.toList_none, List.append_nil]
    split
    · exact ⟨.waits emotion tags now _ search rfl, quiet⟩
    · refine ⟨.waits emotion tags now _ search rfl, quiet.idle, fun task waiting => ?_⟩
      rcases List.mem_append.mp waiting with earlier | last
      · exact quiet.waits task earlier
      · obtain rfl := List.mem_singleton.mp last
        exact ⟨rfl, rfl, rfl⟩

/-- A durable record that is written leaves what can be recalled. -/
theorem written_recallable {memory next : Memory Embedding} {recordId : String} {upsert : Upsert}
    {held : HeldTags} {input : Input Embedding}
    (taken : memory.written measures recordId upsert held input = some next) (id : String) :
    Recallable measures given next.heap.store id ↔
      Recallable measures given memory.heap.store id := by
  unfold Memory.written at taken
  split at taken
  · rename_i embedding new now
    obtain ⟨_, written⟩ := Option.ite_none_left_eq_some.mp taken
    have carried : Recallable measures given
          (carryOut measures memory.heap.store upsert embedding now new).1 id ↔
        Recallable measures given memory.heap.store id := by
      unfold Recallable
      rw [carryOut_actives]
    dsimp only at written
    split at written
    · obtain rfl := Option.some.inj written
      exact (recallable_map ((untagged_keeps held).onto _) rfl id).trans carried
    · obtain rfl := Option.some.inj written
      exact carried
  · cases taken

/-- A durable record that is written leaves the calls that wait. -/
theorem written_quiet {memory next : Memory Embedding} (quiet : Quiet given memory)
    {recordId : String} {upsert : Upsert} {held : HeldTags} {input : Input Embedding}
    (taken : memory.written measures recordId upsert held input = some next) :
    Quiet given next := by
  unfold Memory.written at taken
  split at taken
  · obtain ⟨_, written⟩ := Option.ite_none_left_eq_some.mp taken
    dsimp only at written
    split at written
    · obtain rfl := Option.some.inj written
      refine ⟨quiet.idle, fun task member => ?_⟩
      obtain ⟨before, there, rfl⟩ := List.mem_map.mp member
      have waits := quiet.waits before there
      unfold Task.detached
      split
      · trivial
      · exact waits
    · obtain rfl := Option.some.inj written
      exact ⟨quiet.idle, quiet.waits⟩
  · cases taken

/-- A save behind its embedding adds its episode, or nothing. -/
theorem saved_adds {memory next : Memory Embedding} {save : Save} {input : Input Embedding}
    (taken : memory.saved measures save input = some next) :
    (next = memory ∧ ∀ embedding id now, input ≠ .embedding (some embedding) id now) ∨
    ∃ embedding id now, input = .embedding (some embedding) id now ∧
      next.heap.store.records = memory.heap.store.records ++
        [newEpisode measures save embedding id] := by
  unfold Memory.saved at taken
  split at taken
  · obtain rfl := Option.some.inj taken
    exact .inl ⟨rfl, fun _ _ _ same => by cases same⟩
  · rename_i embedding id now
    obtain ⟨_, saved⟩ := Option.ite_none_left_eq_some.mp taken
    obtain rfl := Option.some.inj saved
    refine .inr ⟨embedding, id, now, rfl, ?_⟩
    rw [write_heap]
    simp [Store.append]
  · cases taken

theorem saved_quiet {memory next : Memory Embedding} (quiet : Quiet given memory) {save : Save}
    {input : Input Embedding} (taken : memory.saved measures save input = some next) :
    Quiet given next := by
  unfold Memory.saved at taken
  split at taken
  · exact Option.some.inj taken ▸ quiet
  · obtain ⟨_, saved⟩ := Option.ite_none_left_eq_some.mp taken
    obtain rfl := Option.some.inj saved
    apply write_quiet
    exact ⟨quiet.idle, quiet.waits⟩
  · cases taken

/-- The episode a call adds is an active one with the text. -/
theorem actives_added {before after : Store Embedding} {save : Save} {embedding : Embedding}
    {id : String} (waits : Waits given (.saving save))
    (more : after.records = before.records ++ [newEpisode measures save embedding id]) :
    actives measures given after =
      actives measures given before ++ [newEpisode measures save embedding id] := by
  obtain ⟨content, session, user⟩ := waits
  unfold actives
  rw [more, List.filter_append]
  simp [equal, newEpisode, content, session, user]

/-- The memory without a call that waited. -/
def without (memory : Memory Embedding) (index : Nat) : Memory Embedding :=
  { memory with waiting := memory.waiting.eraseIdx index }

theorem Quiet.without {memory : Memory Embedding} (quiet : Quiet given memory) (index : Nat) :
    Quiet given (without memory index) :=
  ⟨quiet.idle, fun other waiting => quiet.waits other (List.mem_of_mem_eraseIdx waiting)⟩

theorem step_reply {memory next : Memory Embedding} (quiet : Quiet given memory) {index : Nat}
    {input : Input Embedding} (taken : memory.step measures (.reply index input) = some next) :
    ∃ task, memory.waiting[index]? = some task ∧
      (without memory index).resume measures task input = some next := by
  unfold Memory.step at taken
  rw [quiet.idle] at taken
  obtain ⟨task, there, resumed⟩ := Option.bind_eq_some_iff.mp taken
  refine ⟨task, there, ?_⟩
  rw [MemorySaves.without, ← resumed, quiet.idle]

/-- A reply adds an episode, or writes a durable record. -/
theorem reply_steps {saves next : Saves Embedding} (quiet : Quiet given saves.memory)
    {index : Nat} {input : Input Embedding}
    (taken : saves.step measures given (.reply index input) = some next) :
    Stepped measures given saves (.reply index input) next ∧ Quiet given next.memory := by
  unfold Saves.step at taken
  obtain ⟨memory, replied, rfl⟩ := Option.map_eq_some_iff.mp taken
  obtain ⟨task, there, resumed⟩ := step_reply quiet replied
  have waits := quiet.waits task (List.mem_of_getElem? there)
  have others := quiet.without index
  cases task with
  | passing pass => exact waits.elim
  | writing recordId upsert held =>
    have none : added saves.memory index input = none := by
      unfold added
      split
      · rw [there]
      · rfl
    rw [none, Option.toList_none, List.append_nil]
    have written : (without saves.memory index).written measures recordId upsert held input =
        some memory := resumed
    exact ⟨.writes index input memory none fun id => written_recallable written id,
      written_quiet others written⟩
  | saving save =>
    have saved : (without saves.memory index).saved measures save input = some memory := resumed
    rcases saved_adds saved with ⟨rfl, refused⟩ | ⟨embedding, id, now, rfl, more⟩
    · have none : added saves.memory index input = none := by
        unfold added
        split
        · exact absurd rfl (refused _ _ _)
        · rfl
      rw [none, Option.toList_none, List.append_nil]
      exact ⟨.writes index input _ none fun _ => .rfl, others⟩
    · have adds : added saves.memory index (.embedding (some embedding) id now) = some id := by
        simp only [added, there]
      rw [adds]
      refine ⟨.adds index _ (newEpisode measures save embedding id) memory adds waits.1 ?_,
        saved_quiet others saved⟩
      exact actives_added waits more

theorem step_steps {saves next : Saves Embedding} (quiet : Quiet given saves.memory)
    {turn : Turn Embedding} (taken : saves.step measures given turn = some next) :
    Stepped measures given saves turn next ∧ Quiet given next.memory := by
  cases turn with
  | call => exact call_steps quiet taken
  | reply => exact reply_steps quiet taken

/-! ## The saves of a run -/

/-- Saves that can be recalled can still be recalled exactly when the step is careful. -/
theorem step_kept_iff {saves next : Saves Embedding} {turn : Turn Embedding}
    (kept : Kept measures given saves) (steps : Stepped measures given saves turn next) :
    Kept measures given next ↔ Careful measures given saves turn := by
  cases steps with
  | meets emotion tags now record memory met same =>
    rw [careful_call_iff]
    constructor
    · intro still other also
      obtain rfl := Option.some.inj (met.symm.trans also)
      exact (same _).mp (still _ (List.mem_append_right _ (List.mem_singleton_self _)))
    · intro careful id answered
      apply (same id).mpr
      rcases List.mem_append.mp answered with earlier | last
      · exact kept id earlier
      · obtain rfl := List.mem_singleton.mp last
        exact careful record met
  | waits emotion tags now memory none same =>
    rw [careful_call_iff]
    refine ⟨fun _ record met => ?_, fun _ id answered => ?_⟩
    · rw [none] at met
      cases met
    · rw [same]
      exact kept id answered
  | adds index input record memory adds content more =>
    constructor
    · intro still _
      rw [← actives_nil_iff]
      obtain ⟨only, alone, _⟩ := still record.id
        (List.mem_append_right _ (List.mem_singleton_self _))
      rw [more] at alone
      rcases List.append_eq_singleton_iff.mp alone with ⟨none, _⟩ | ⟨_, last⟩
      · exact none
      · cases last
    · intro careful id answered
      have none : actives measures given saves.memory.heap.store = [] :=
        (actives_nil_iff measures given _).mpr (careful (by rw [adds]; exact Option.some_ne_none _))
      rcases List.mem_append.mp answered with earlier | last
      · obtain ⟨only, alone, _⟩ := kept id earlier
        rw [none] at alone
        cases alone
      · obtain rfl := List.mem_singleton.mp last
        refine ⟨record, ?_, rfl, content⟩
        rw [more, none, List.nil_append]
  | writes index input memory none same =>
    exact ⟨fun _ some => absurd none some, fun _ id answered => (same id).mpr (kept id answered)⟩

theorem begin_kept (heap : Heap Embedding) : Kept measures given (begin heap) :=
  fun _ answered => (List.not_mem_nil answered).elim

/-- In a run of calls that save one text for one user and session, over any store, each
save can be recalled in every state exactly when, at each call behind an episode of the text that
was updated within the window, the last of these is the only active episode of the text, and each
embedding arrives while no episode of the text is active. -/
theorem saves_recallable_iff (measures : Measures Embedding) (given : Given)
    (heap : Heap Embedding) (turns : List (Turn Embedding)) :
    Throughout (Saves.step measures given) (Kept measures given) (begin heap) turns ↔
      Taking (Saves.step measures given) (Careful measures given) (begin heap) turns := by
  refine throughout_iff_taking (fun saves => Quiet given saves.memory ∧ Kept measures given saves)
    ?_ ?_ ⟨⟨rfl, fun _ waiting => (List.not_mem_nil waiting).elim⟩, begin_kept heap⟩
    (begin_kept heap) turns
  · rintro saves turn next ⟨quiet, _⟩ taken still
    exact ⟨(step_steps quiet taken).2, still⟩
  · rintro saves turn next ⟨quiet, kept⟩ taken
    exact step_kept_iff kept (step_steps quiet taken).1

end

/-! ## A greeting that was deleted -/

def asGiven : Measures Nat where
  cosine := fun _ _ => 0
  halving := fun _ => 1
  lower := id
  isWord := fun _ => true
  embeddingModel := "m"

def greeting : Given := ⟨"hello", "s", "u"⟩

/-- The greeting was saved, and has been deleted. -/
def deletedGreeting : Heap Nat where
  store := ⟨[{ newEpisode asGiven ⟨"hello", 1, "s", "u", [], 0⟩ 0 "ep" with status := .deleted }],
    []⟩
  gone := []
  sent := []

/-- A call ten minutes later answers with the deleted episode. -/
theorem deleted_greeting_answered :
    ¬ Throughout (Saves.step asGiven greeting) (Kept asGiven greeting) (begin deletedGreeting)
      [.call 1 [] (seconds 600)] := by
  intro throughout
  obtain ⟨final, completed⟩ : ∃ final, run (Saves.step asGiven greeting) (begin deletedGreeting)
      [.call 1 [] (seconds 600)] = some final := ⟨_, rfl⟩
  have kept := throughout.final completed
  have answered : ∀ state, run (Saves.step asGiven greeting) (begin deletedGreeting)
      [.call 1 [] (seconds 600)] = some state → state.answers = ["ep"] ∧
        (actives asGiven greeting state.memory.heap.store).length = 0 := by
    intro state reached
    obtain rfl := Option.some.inj reached
    exact ⟨by decide +kernel, by decide +kernel⟩
  obtain ⟨answers, none⟩ := answered final completed
  obtain ⟨record, only, _⟩ := kept "ep" (answers ▸ List.mem_singleton_self _)
  rw [only] at none
  cases none

end MeetYou.MemorySaves
