import MeetYou.Foundation.Values

/-!
# Operation calls and their operations

A tool call has a row of its own and a parent operation. Six functions record
what becomes of the call; each writes a status to the row and a matching status
to the operation, whatever the two held before. Three of the statuses are
terminal: once there, the call is settled.

Every call has its own operation, and a record writes both together, so their
statuses always match (`Linked`).
-/

namespace MeetYou.OperationCalls

abbrev CallId := String
abbrev OperationId := Nat

/-- The statuses of an `operation_calls` row. -/
inductive CallStatus where
  | queued
  | dispatched
  | running
  | succeeded
  | failed
  | cancelled
deriving DecidableEq

/-- The statuses the records below give to an operation. -/
inductive OperationStatus where
  | queued
  | dispatching
  | running
  | succeeded
  | failed
  | cancelled
deriving DecidableEq

/-- The status of an operation that matches that of its call. -/
def CallStatus.operationStatus : CallStatus → OperationStatus
  | .queued => .queued
  | .dispatched => .dispatching
  | .running => .running
  | .succeeded => .succeeded
  | .failed => .failed
  | .cancelled => .cancelled

/-- The call is settled. -/
def CallStatus.terminal : CallStatus → Bool
  | .succeeded | .failed | .cancelled => true
  | _ => false

/-- A row of `operation_calls`. -/
structure OperationCall where
  operationId : OperationId
  status : CallStatus := .queued
  result : Fields := Dict.empty
  error : Fields := Dict.empty

/-- A row of `operations`. The summary is kept as the value it is the text of. -/
structure Operation where
  status : OperationStatus := .queued
  resultSummary : Json := .str ""
  metadata : Fields := Dict.empty

/-- The two tables. -/
structure Ledger where
  calls : Dict CallId OperationCall
  operations : Dict OperationId Operation

/-- Empty tables. -/
def Ledger.start : Ledger := ⟨Dict.empty, Dict.empty⟩

/-- The columns a record writes to the row of a call; an absent one stays. -/
structure CallChange where
  status : CallStatus
  result : Option Fields := none
  error : Option Fields := none

/-- `OperationCallRepository.update_status` on a stored row. -/
def CallChange.apply (change : CallChange) (row : OperationCall) : OperationCall :=
  { row with status := change.status, result := change.result.getD row.result,
             error := change.error.getD row.error }

/-- The columns a record writes to an operation; metadata is merged. -/
structure OperationChange where
  status : OperationStatus
  resultSummary : Option Json := none
  metadata : Option Fields := none

/-- `OperationRepository.update_status` on a stored row. -/
def OperationChange.apply (change : OperationChange) (operation : Operation) : Operation :=
  { status := change.status
    resultSummary := change.resultSummary.getD operation.resultSummary
    metadata := match change.metadata with
      | none => operation.metadata
      | some metadata => operation.metadata.update metadata }

/-- Record something of a call: nothing without a row, and otherwise a change of
the row and one of its operation. -/
def mark (ledger : Ledger) (callId : CallId) (call : CallChange) (operation : OperationChange) :
    Ledger :=
  match ledger.calls.get callId with
  | none => ledger
  | some row =>
      { calls := ledger.calls.set callId (call.apply row)
        operations := ledger.operations.revise row.operationId operation.apply }

/-- `OperationCallService.mark_dispatched`. -/
def markDispatched (ledger : Ledger) (callId : CallId) : Ledger :=
  mark ledger callId { status := .dispatched } { status := .dispatching }

/-- `OperationCallService.mark_accepted`. -/
def markAccepted (ledger : Ledger) (callId : CallId) : Ledger :=
  mark ledger callId { status := .running } { status := .running }

/-- `OperationCallService.mark_progress`. -/
def markProgress (ledger : Ledger) (callId : CallId) (detail : String) (metadata : Fields) :
    Ledger :=
  mark ledger callId { status := .running }
    { status := .running
      metadata := some (Fields.of [("last_progress",
        ((Fields.of [("detail", .str detail)]).update metadata).toJson)]) }

/-- `OperationCallService.mark_succeeded`. -/
def markSucceeded (ledger : Ledger) (callId : CallId) (result : Fields) : Ledger :=
  mark ledger callId { status := .succeeded, result := some result }
    { status := .succeeded
      resultSummary := some (result.getOr "summary" (result.getOr "message" (.str "")))
      metadata := some (Fields.of [("result", result.toJson)]) }

/-- `OperationCallService.mark_failed`. -/
def markFailed (ledger : Ledger) (callId : CallId) (error : Fields) : Ledger :=
  mark ledger callId { status := .failed, error := some error }
    { status := .failed
      resultSummary := some (error.getOr "message" (.str ""))
      metadata := some (Fields.of [("error", error.toJson)]) }

/-- `OperationCallService.mark_cancelled`. -/
def markCancelled (ledger : Ledger) (callId : CallId) (error : Fields) : Ledger :=
  mark ledger callId { status := .cancelled, error := some error }
    { status := .cancelled
      resultSummary := some (error.getOr "message" (.str "Tool call cancelled"))
      metadata := some (Fields.of [("error", error.toJson)]) }

/-- Create a call with an operation of its own, both queued. -/
def createCall (ledger : Ledger) (callId : CallId) (operationId : OperationId)
    (metadata : Fields) : Ledger where
  calls := ledger.calls.set callId { operationId := operationId }
  operations := ledger.operations.set operationId { metadata := metadata }

/-- What may be recorded of a call. -/
inductive Mark where
  | dispatched
  | accepted
  | progress (detail : String) (metadata : Fields)
  | succeeded (result : Fields)
  | failed (error : Fields)
  | cancelled (error : Fields)

/-- Each mark is one update of the call and its operation. -/
def Mark.record (ledger : Ledger) (callId : CallId) : Mark → Ledger
  | .dispatched => markDispatched ledger callId
  | .accepted => markAccepted ledger callId
  | .progress detail metadata => markProgress ledger callId detail metadata
  | .succeeded result => markSucceeded ledger callId result
  | .failed error => markFailed ledger callId error
  | .cancelled error => markCancelled ledger callId error

/-- The change a record makes to the row of its call. -/
def Mark.change : Mark → CallChange
  | .dispatched => { status := .dispatched }
  | .accepted | .progress .. => { status := .running }
  | .succeeded result => { status := .succeeded, result := some result }
  | .failed error => { status := .failed, error := some error }
  | .cancelled error => { status := .cancelled, error := some error }

/-- Every record is one change of the row and one matching change of the operation. -/
theorem record_eq_mark (ledger : Ledger) (callId : CallId) (recorded : Mark) :
    ∃ operation : OperationChange, recorded.record ledger callId =
        mark ledger callId recorded.change operation ∧
      operation.status = recorded.change.status.operationStatus := by
  cases recorded <;> exact ⟨_, rfl, rfl⟩

/-- The row of a call after a record. -/
theorem get_record (ledger : Ledger) (callId tested : CallId) (recorded : Mark) :
    (recorded.record ledger callId).calls.get tested =
      if callId = tested then (ledger.calls.get callId).map recorded.change.apply
      else ledger.calls.get tested := by
  obtain ⟨operation, same, _⟩ := record_eq_mark ledger callId recorded
  rw [same, mark]
  cases stored : ledger.calls.get callId with
  | none =>
    by_cases own : callId = tested
    · simp [← own, stored]
    · simp [own]
  | some row => simp [Dict.get_set]

/-- Each call has an operation of its own, and the two statuses match. -/
structure Linked (ledger : Ledger) : Prop where
  own : ∀ callId row, ledger.calls.get callId = some row →
    ∃ operation, ledger.operations.get row.operationId = some operation ∧
      operation.status = row.status.operationStatus
  single : ∀ first firstRow second secondRow, ledger.calls.get first = some firstRow →
    ledger.calls.get second = some secondRow → firstRow.operationId = secondRow.operationId →
    first = second

theorem start_linked : Linked Ledger.start where
  own := by intro _ _ stored; cases stored
  single := by intro _ _ _ _ stored; cases stored

/-- Creating a call under fresh identifiers keeps the tables linked. -/
theorem Linked.create {ledger : Ledger} (linked : Linked ledger) {callId : CallId}
    {operationId : OperationId} (fresh : ledger.operations.get operationId = none)
    (metadata : Fields) : Linked (createCall ledger callId operationId metadata) := by
  have unused : ∀ other row, ledger.calls.get other = some row → row.operationId ≠ operationId := by
    rintro other row stored rfl
    obtain ⟨operation, present, _⟩ := linked.own other row stored
    rw [fresh] at present
    cases present
  constructor
  · intro other row stored
    rw [createCall, Dict.get_set] at stored
    split at stored
    · cases stored
      exact ⟨_, Dict.get_set_self _ _ _, rfl⟩
    · obtain ⟨operation, present, same⟩ := linked.own other row stored
      refine ⟨operation, ?_, same⟩
      rw [createCall, Dict.get_set_ne _ _ (Ne.symm (unused other row stored)), present]
  · intro first firstRow second secondRow firstStored secondStored sameOperation
    rw [createCall, Dict.get_set] at firstStored secondStored
    split at firstStored <;> split at secondStored
    · next isFirst isSecond => exact isFirst.symm.trans isSecond
    · cases firstStored
      exact absurd sameOperation.symm (unused second secondRow secondStored)
    · cases secondStored
      exact absurd sameOperation (unused first firstRow firstStored)
    · exact linked.single first firstRow second secondRow firstStored secondStored sameOperation

/-- A record keeps the tables linked. -/
theorem Linked.record {ledger : Ledger} (linked : Linked ledger) (callId : CallId)
    (recorded : Mark) : Linked (recorded.record ledger callId) := by
  obtain ⟨operation, same, matching⟩ := record_eq_mark ledger callId recorded
  rw [same, mark]
  cases marked : ledger.calls.get callId with
  | none => exact linked
  | some row =>
    constructor
    · intro other otherRow stored
      simp only [Dict.get_set] at stored
      split at stored
      · cases stored
        obtain ⟨held, present, _⟩ := linked.own callId row marked
        refine ⟨operation.apply held, ?_, matching⟩
        simp only [CallChange.apply, Dict.get_revise_self, present, Option.map_some]
      · next different =>
        obtain ⟨held, present, status⟩ := linked.own other otherRow stored
        refine ⟨held, ?_, status⟩
        have apart : row.operationId ≠ otherRow.operationId := fun equal =>
          different (linked.single callId row other otherRow marked stored equal)
        simp only [Dict.get_revise_ne _ _ apart, present]
    · intro first firstRow second secondRow firstStored secondStored sameOperation
      have before : ∀ tested testedRow,
          (ledger.calls.set callId (recorded.change.apply row)).get tested = some testedRow →
          ∃ held, ledger.calls.get tested = some held ∧
            held.operationId = testedRow.operationId := by
        intro tested testedRow stored
        rw [Dict.get_set] at stored
        split at stored
        · next own =>
          cases stored
          exact ⟨row, own ▸ marked, rfl⟩
        · exact ⟨testedRow, stored, rfl⟩
      obtain ⟨firstHeld, firstBefore, firstSame⟩ := before first firstRow firstStored
      obtain ⟨secondHeld, secondBefore, secondSame⟩ := before second secondRow secondStored
      exact linked.single first firstHeld second secondHeld firstBefore secondBefore
        (firstSame.trans (sameOperation.trans secondSame.symm))

end MeetYou.OperationCalls
