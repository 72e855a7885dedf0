import Mathlib.Data.Prod.Lex
import MeetYou.Foundation.OrderBy
import MeetYou.Foundation.Values

/-!
# The run event log

Every run numbers its own events: an appended event takes one more than the
largest number its run has used. Events of many runs share a thread, and the log
holds them in the order they were appended, whichever run wrote next.

The numbering is read off the history itself: the number of an event is its
place among the events of its run. Two rows never share run and number, so the
log holds no row twice.
-/

namespace MeetYou.RunEvents

/-- Row identifiers of runs and threads. -/
abbrev RunId := String
abbrev ThreadId := String

/-- A row of `run_events`. -/
structure RunEvent where
  eventId : String
  runId : RunId
  threadId : Option ThreadId
  seq : Nat
  type : String
  payload : Fields
  durable : Bool
  createdAt : Instant

/-- The arguments of one append, with the clock reading it takes. -/
structure NewEvent where
  eventId : String
  runId : RunId
  type : String
  payload : Option Fields := none
  threadId : Option ThreadId := none
  durable : Bool := true
  utcnow : Instant

/-- The row an event becomes under a given number. -/
def NewEvent.row (event : NewEvent) (seq : Nat) : RunEvent where
  eventId := event.eventId
  runId := event.runId
  threadId := event.threadId
  seq := seq
  type := event.type
  payload := event.payload.getD Dict.empty
  durable := event.durable
  createdAt := event.utcnow

/-- `coalesce(max(seq), 0)` over the events of a run. -/
def maxSeq (log : List RunEvent) (runId : RunId) : Nat :=
  ((log.filter fun row => decide (row.runId = runId)).map RunEvent.seq).foldl max 0

/-- `RunEventRepository.append`: the new row, which goes last. -/
def append (log : List RunEvent) (event : NewEvent) : RunEvent :=
  event.row (maxSeq log event.runId + 1)

/-- The rows a list of appends adds to a log, in append order. -/
def appendAll (log : List RunEvent) : List NewEvent → List RunEvent
  | [] => []
  | event :: rest => append log event :: appendAll (log ++ [append log event]) rest

/-- The log that a history of appends leaves. -/
def record (history : List NewEvent) : List RunEvent := appendAll [] history

/-- The key of the replay order: instant first, then number. -/
def replayKey (row : RunEvent) : Instant ×ₗ Nat := toLex (row.createdAt, row.seq)

/-- `RunEventRepository.list_for_run_after`. -/
def listForRunAfter (order : OrderBy RunEvent.seq) (log : List RunEvent) (runId : RunId)
    (afterSeq : Int) (durableOnly : Bool) : List RunEvent :=
  order.sort (log.filter fun row =>
    decide (row.runId = runId) && decide (afterSeq < row.seq) && (!durableOnly || row.durable))

/-- `RunEventRepository.list_for_thread_after`. -/
def listForThreadAfter (order : OrderBy replayKey) (log : List RunEvent) (threadId : ThreadId)
    (afterSeq : Int) (durableOnly : Bool) : List RunEvent :=
  order.sort (log.filter fun row =>
    decide (row.threadId = some threadId) && decide (afterSeq < row.seq) &&
      (!durableOnly || row.durable))

/-- Each event of a history with its place among the events of its run, earlier
events counted first. -/
def numbered (earlier : List NewEvent) : List NewEvent → List (NewEvent × Nat)
  | [] => []
  | event :: rest =>
      (event, earlier.countP (fun other => decide (other.runId = event.runId)) + 1) ::
        numbered (earlier ++ [event]) rest

theorem appendAll_append (log : List RunEvent) (front back : List NewEvent) :
    appendAll log (front ++ back) =
      appendAll log front ++ appendAll (log ++ appendAll log front) back := by
  induction front generalizing log with
  | nil => simp [appendAll]
  | cons event rest inductionHypothesis =>
    simp [appendAll, inductionHypothesis]

/-- A longer history only adds rows at the end. -/
theorem record_append (front back : List NewEvent) :
    record (front ++ back) = record front ++ appendAll (record front) back := by
  simpa [record] using appendAll_append [] front back

theorem maxSeq_append (log : List RunEvent) (row : RunEvent) (runId : RunId) :
    maxSeq (log ++ [row]) runId =
      if row.runId = runId then max (maxSeq log runId) row.seq else maxSeq log runId := by
  by_cases same : row.runId = runId
  · simp [maxSeq, same, List.foldl_append]
  · simp [maxSeq, same]

/-- A log numbers its history when the largest number of each run is the count
of its events. -/
def Numbers (log : List RunEvent) (history : List NewEvent) : Prop :=
  ∀ runId, maxSeq log runId = history.countP (fun event => decide (event.runId = runId))

/-- One append keeps the numbering. -/
theorem Numbers.append {log : List RunEvent} {history : List NewEvent}
    (numbers : Numbers log history) (event : NewEvent) :
    Numbers (log ++ [RunEvents.append log event]) (history ++ [event]) := by
  intro runId
  rw [maxSeq_append, List.countP_append]
  by_cases same : event.runId = runId
  · subst same
    simp [RunEvents.append, NewEvent.row, numbers event.runId]
  · simp [RunEvents.append, NewEvent.row, same, numbers runId]

/-- The rows of a run of appends are its events under their places. -/
theorem appendAll_numbered {log : List RunEvent} {earlier : List NewEvent}
    (numbers : Numbers log earlier) (history : List NewEvent) :
    appendAll log history = (numbered earlier history).map fun entry => entry.1.row entry.2 := by
  induction history generalizing log earlier with
  | nil => rfl
  | cons event rest inductionHypothesis =>
    have place : append log event = event.row
        (earlier.countP (fun other => decide (other.runId = event.runId)) + 1) := by
      rw [append, numbers event.runId]
    rw [appendAll, numbered, List.map_cons, inductionHypothesis (numbers.append event), place]

/-- Appending a whole history keeps the numbering. -/
theorem Numbers.appendAll {log : List RunEvent} {earlier : List NewEvent}
    (numbers : Numbers log earlier) (history : List NewEvent) :
    Numbers (log ++ RunEvents.appendAll log history) (earlier ++ history) := by
  induction history generalizing log earlier with
  | nil => simpa [RunEvents.appendAll] using numbers
  | cons event rest inductionHypothesis =>
    simpa [RunEvents.appendAll] using inductionHypothesis (numbers.append event)

theorem record_numbers (history : List NewEvent) : Numbers (record history) history := by
  have start : Numbers [] [] := fun _ => rfl
  simpa [record] using start.appendAll history

/-- The recorded log is the history under its own places. -/
theorem record_numbered (history : List NewEvent) :
    record history = (numbered [] history).map fun entry => entry.1.row entry.2 :=
  have start : Numbers [] [] := fun _ => rfl
  appendAll_numbered start history

/-- Every place lies beyond the earlier events of the same run. -/
theorem numbered_beyond (earlier history : List NewEvent) (entry : NewEvent × Nat)
    (member : entry ∈ numbered earlier history) :
    earlier.countP (fun other => decide (other.runId = entry.1.runId)) < entry.2 := by
  induction history generalizing earlier with
  | nil => cases member
  | cons event rest inductionHypothesis =>
    rcases List.mem_cons.mp member with same | below
    · subst same
      exact Nat.lt_succ_self _
    · have later := inductionHypothesis (earlier ++ [event]) below
      rw [List.countP_append] at later
      omega

/-- No two entries share run and place: a later event of the same run has counted
the earlier one. -/
theorem numbered_distinct (earlier history : List NewEvent) :
    (numbered earlier history).Pairwise fun first second =>
      (first.1.runId, first.2) ≠ (second.1.runId, second.2) := by
  induction history generalizing earlier with
  | nil => exact List.Pairwise.nil
  | cons event rest inductionHypothesis =>
    refine List.pairwise_cons.mpr ⟨?_, inductionHypothesis (earlier ++ [event])⟩
    intro entry member same
    have later := numbered_beyond (earlier ++ [event]) rest entry member
    have sameRun : event.runId = entry.1.runId := congrArg Prod.fst same
    have samePlace := congrArg Prod.snd same
    simp only [List.countP_append, ← sameRun, List.countP_cons, List.countP_nil, decide_true,
      if_true] at later
    simp only at samePlace
    omega

/-- The log holds no row twice. -/
theorem record_nodup (history : List NewEvent) : (record history).Nodup := by
  rw [record_numbered, List.Nodup, List.pairwise_map]
  refine (numbered_distinct [] history).imp ?_
  intro first second apart same
  apply apart
  have sameRun : first.1.runId = second.1.runId := congrArg RunEvent.runId same
  have samePlace : first.2 = second.2 := congrArg RunEvent.seq same
  rw [sameRun, samePlace]

end MeetYou.RunEvents
