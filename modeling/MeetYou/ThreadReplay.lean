import MeetYou.Foundation.Text
import MeetYou.RunEvents

/-!
# Resuming a thread subscription

A subscriber names the last event number it saw, and the thread's durable events
with larger numbers are replayed. The number it saw belongs to one run; the
replay compares it with the numbers of every run of the thread, and orders the
rows by instant and number.

Resuming is therefore exact only for some histories. `resumes_iff_aligned` says
for which: the durable events before the disconnect are numbered up to the
cursor, those after it beyond the cursor, and the latter were appended in
strictly increasing order of instant and place. The condition speaks about the
history alone.
-/

namespace MeetYou.ThreadReplay

open RunEvents

/-- A `subscription.start` or `subscription.update` payload. -/
structure SubscriptionRequest where
  targetType : String
  targetId : String
  lastSeenEventSeq : Option Int := none
  replay : Option Json := none

/-- The replay flag: absent means yes, and a few words mean no. -/
def SubscriptionRequest.replays (request : SubscriptionRequest) : Bool :=
  match request.replay with
  | none => true
  | some (.str text) =>
      decide (Text.lowerWord (Text.strip text) ∉ ["0", "false", "no", "off"])
  | some value => value.truthy

/-- The rows `SubscriptionHandler.handle` sends back after acknowledging the
subscription. Threads are found by their public identifier. -/
def replayed (order : OrderBy replayKey) (threads : Dict String ThreadId) (log : List RunEvent)
    (request : SubscriptionRequest) : List RunEvent :=
  let targetType := Text.strip request.targetType
  let targetId := Text.strip request.targetId
  if targetType = "" ∨ targetId = "" then []
  else if targetType = "thread" ∧ request.replays then
    match threads.get targetId with
    | none => []
    | some threadId =>
        listForThreadAfter order log threadId (request.lastSeenEventSeq.getD 0) true
  else []

/-- The `delivery.run_event` payload of a row. -/
structure PublicRunEvent where
  eventId : String
  runId : String
  threadId : String
  seq : Nat
  type : String
  payload : Fields
  durable : Bool
  createdAt : Instant

/-- `_public_run_event`. -/
def publicRunEvent (row : RunEvent) : PublicRunEvent where
  eventId := row.eventId
  runId := row.runId
  threadId := row.threadId.getD ""
  seq := row.seq
  type := row.type
  payload := row.payload
  durable := row.durable
  createdAt := row.createdAt

/-- The frames that carry the replay. -/
def replayFrames (order : OrderBy replayKey) (threads : Dict String ThreadId)
    (log : List RunEvent) (request : SubscriptionRequest) : List PublicRunEvent :=
  (replayed order threads log request).map publicRunEvent

/-- The row belongs to the thread. -/
def OfThread (threadId : ThreadId) (row : RunEvent) : Bool := decide (row.threadId = some threadId)

/-- The number a subscriber reconnects with: that of the thread's last event, zero
when it has received none. -/
def lastSeen (threadId : ThreadId) (log : List RunEvent) : Nat :=
  ((log.filter (OfThread threadId)).getLast?.map RunEvent.seq).getD 0

/-- The request a subscriber resumes with after receiving the thread's events of
this log. -/
def resume (publicId : String) (threadId : ThreadId) (received : List RunEvent) :
    SubscriptionRequest where
  targetType := "thread"
  targetId := publicId
  lastSeenEventSeq := some (lastSeen threadId received)

/-- The thread's durable events among some rows, in their order. -/
def durableOf (threadId : ThreadId) (rows : List RunEvent) : List RunEvent :=
  rows.filter fun row => OfThread threadId row && row.durable

/-- Whatever the database does with ties, the replay after a disconnect between
the two parts of a history is exactly the durable events of the second part. -/
def Resumes (threadId : ThreadId) (before after : List NewEvent) : Prop :=
  ∀ (order : OrderBy replayKey) (threads : Dict String ThreadId) (publicId : String),
    Text.strip publicId = publicId → publicId ≠ "" → threads.get publicId = some threadId →
    replayed order threads (record (before ++ after)) (resume publicId threadId (record before)) =
      durableOf threadId (appendAll (record before) after)

/-- The numbered event belongs to the thread. -/
def inThread (threadId : ThreadId) (entry : NewEvent × Nat) : Bool :=
  decide (entry.1.threadId = some threadId)

/-- The numbered event is a durable event of the thread. -/
def durableIn (threadId : ThreadId) (entry : NewEvent × Nat) : Bool :=
  inThread threadId entry && entry.1.durable

/-- The place of the thread's last event within its run. -/
def cursor (threadId : ThreadId) (history : List NewEvent) : Nat :=
  (((numbered [] history).filter (inThread threadId)).getLast?.map Prod.snd).getD 0

/-- The runs of a history are aligned with the disconnect: every durable event of
the thread before it has a place up to the cursor, every one after it a place
beyond the cursor, and the later ones increase in instant and place. -/
structure Aligned (threadId : ThreadId) (before after : List NewEvent) : Prop where
  seen : ∀ entry ∈ numbered [] before, durableIn threadId entry → entry.2 ≤ cursor threadId before
  unseen : ∀ entry ∈ numbered before after, durableIn threadId entry →
    cursor threadId before < entry.2
  ordered : ((numbered before after).filter (durableIn threadId)).Pairwise fun first second =>
    toLex (first.1.utcnow, first.2) < toLex (second.1.utcnow, second.2)

/-- The cursor of a history is the number its subscriber reconnects with. -/
theorem lastSeen_record (threadId : ThreadId) (history : List NewEvent) :
    lastSeen threadId (record history) = cursor threadId history := by
  rw [lastSeen, cursor, record_numbered, List.filter_map, List.getLast?_map, Option.map_map]
  rfl

/-- A resumed request reaches the query with the cursor of the received events. -/
theorem replayed_resume (order : OrderBy replayKey) (threads : Dict String ThreadId)
    (log received : List RunEvent) {publicId : String} {threadId : ThreadId}
    (plain : Text.strip publicId = publicId) (named : publicId ≠ "")
    (known : threads.get publicId = some threadId) :
    replayed order threads log (resume publicId threadId received) =
      listForThreadAfter order log threadId (lastSeen threadId received) true := by
  have thread : Text.strip "thread" = "thread" := by decide
  simp [replayed, resume, SubscriptionRequest.replays, plain, named, known, thread]

/-- Resuming speaks about the query alone: some public identifier names the thread. -/
theorem resumes_iff_query (threadId : ThreadId) (before after : List NewEvent) :
    Resumes threadId before after ↔ ∀ order : OrderBy replayKey,
      listForThreadAfter order (record (before ++ after)) threadId (cursor threadId before) true =
        durableOf threadId (appendAll (record before) after) := by
  constructor
  · intro resumes order
    have answer := resumes order (Dict.empty.set "t" threadId) "t" (by decide) (by decide)
      (Dict.get_set_self _ _ _)
    rwa [replayed_resume _ _ _ _ (by decide) (by decide) (Dict.get_set_self _ _ _),
      lastSeen_record] at answer
  · intro exact order threads publicId plain named known
    rw [replayed_resume order threads _ _ plain named known, lastSeen_record]
    exact exact order

/-- The test of the replay query. -/
def queried (threadId : ThreadId) (afterSeq : Nat) (row : RunEvent) : Bool :=
  OfThread threadId row && decide (afterSeq < row.seq) && row.durable

theorem listForThreadAfter_durable (order : OrderBy replayKey) (log : List RunEvent)
    (threadId : ThreadId) (afterSeq : Nat) :
    listForThreadAfter order log threadId afterSeq true =
      order.sort (log.filter (queried threadId afterSeq)) := by
  have test : (fun row : RunEvent => decide (row.threadId = some threadId) &&
      decide ((afterSeq : Int) < row.seq) && (!true || row.durable)) =
        queried threadId afterSeq := by
    funext row
    simp [queried, OfThread]
  rw [listForThreadAfter, test]

theorem ofThread_row (threadId : ThreadId) (entry : NewEvent × Nat) :
    OfThread threadId (entry.1.row entry.2) = inThread threadId entry := rfl

theorem row_durable (entry : NewEvent × Nat) :
    (entry.1.row entry.2).durable = entry.1.durable := rfl

/-- On a numbered event the query asks for a durable event beyond the cursor. -/
theorem queried_row (threadId : ThreadId) (afterSeq : Nat) (entry : NewEvent × Nat) :
    queried threadId afterSeq (entry.1.row entry.2) = true ↔
      durableIn threadId entry = true ∧ afterSeq < entry.2 := by
  have place : (entry.1.row entry.2).seq = entry.2 := rfl
  simp only [queried, ofThread_row, row_durable, place, durableIn, Bool.and_eq_true,
    decide_eq_true_eq]
  tauto

/-- A thread subscription resumes exactly at the disconnects its runs are aligned
with.

The replay sorts the rows the query selects; that is the durable rest under every
treatment of ties precisely when it rearranges the selected rows and increases
strictly. The selected rows are a rearrangement of the rest when the query takes
nothing from before the disconnect and misses nothing after it. -/
theorem resumes_iff_aligned (threadId : ThreadId) (before after : List NewEvent) :
    Resumes threadId before after ↔ Aligned threadId before after := by
  have distinct := record_nodup (before ++ after)
  rw [resumes_iff_query]
  simp only [listForThreadAfter_durable, durableOf]
  rw [OrderBy.always_iff (distinct.filter _)]
  rw [record_append] at distinct ⊢
  rw [OrderBy.perm_selection_iff (fun row => by simp only [queried, Bool.and_eq_true]; tauto) distinct]
  rw [appendAll_numbered (record_numbers before), record_numbered before]
  simp only [List.forall_mem_map, List.filter_map, List.pairwise_map, Bool.eq_false_iff, ne_eq,
    queried_row, ofThread_row, row_durable]
  constructor
  · rintro ⟨⟨rejected, kept⟩, increasing⟩
    refine ⟨?_, ?_, increasing⟩
    · intro entry member durable
      by_contra beyond
      exact rejected entry member ⟨durable, not_le.mp beyond⟩
    · intro entry member durable
      exact (kept entry member durable).2
  · rintro ⟨seen, unseen, ordered⟩
    refine ⟨⟨?_, ?_⟩, ordered⟩
    · rintro entry member ⟨durable, beyond⟩
      exact not_le.mpr beyond (seen entry member durable)
    · intro entry member durable
      exact ⟨durable, unseen entry member durable⟩

/-- A thread whose second run starts after the disconnect: the first run has used
three numbers, so the second run's first event stays behind the cursor. -/
theorem second_run_unresumed : ¬ Resumes "thread"
    [{ eventId := "e1", runId := "a", type := "message.delta", threadId := some "thread",
       utcnow := 1 },
     { eventId := "e2", runId := "a", type := "message.delta", threadId := some "thread",
       utcnow := 2 },
     { eventId := "e3", runId := "a", type := "message.completed", threadId := some "thread",
       utcnow := 3 }]
    [{ eventId := "e4", runId := "b", type := "message.completed", threadId := some "thread",
       utcnow := 4 }] := by
  intro resumes
  have replay := resumes OrderBy.stable (Dict.empty.set "public" "thread") "public" (by decide)
    (by decide) (Dict.get_set_self _ _ _)
  exact absurd (congrArg List.length replay) (by decide)

end MeetYou.ThreadReplay
