import Mathlib.Algebra.Order.Ring.Int
import Mathlib.Data.Prod.Lex
import Mathlib.Order.WithBot
import MeetYou.Foundation.OrderBy
import MeetYou.Foundation.Text
import MeetYou.Foundation.Values

/-!
# The outbox of an endpoint and the attempts of its deliveries

A frame that could not be sent waits in a row of the outbox. A drain takes the
rows that are due, marks each as being sent, and afterwards as sent or for a
retry; a row that has been tried often enough becomes a dead letter. Marking
asks nothing of the status a row has.

Each delivery also has an attempt, which names the row of the outbox that
carries its frame. Every frame is made by a delivery, which writes its
identifier to the frame and to its payload.
-/

namespace MeetYou.EndpointOutbox

abbrev OutboxId := Nat
abbrev EndpointId := Nat
abbrev AddressId := Nat

/-- An identifier of a delivery: a text that is not blank, without white space at
its ends. -/
abbrev DeliveryId := { text : Text.Plain // text.1 ≠ "" }

/-- `str(delivery_id or "").strip()`, unless that is empty. -/
def deliveryId? (text : String) : Option DeliveryId :=
  if named : (Text.plain text).1 = "" then none else some ⟨Text.plain text, named⟩

/-- A `delivery` frame. -/
structure Frame where
  type : String
  targetEndpointId : String
  deliveryId : DeliveryId
  payload : Fields
  named : payload.get "delivery_id" = some (.str deliveryId.1.1)

/-- `DeliveryService._delivery_id_from_frame`, whose value is always a text. -/
def deliveryIdFromFrame (frame : Frame) : Option DeliveryId :=
  match frame.payload.getOr "delivery_id" (.str frame.deliveryId.1.1) with
  | .str text => deliveryId? text
  | _ => none

@[simp] theorem deliveryId?_val (deliveryId : DeliveryId) :
    deliveryId? deliveryId.1.1 = some deliveryId := by
  obtain ⟨text, named⟩ := deliveryId
  simp [deliveryId?, named]

/-- The statuses of a row of `endpoint_outbox`. -/
inductive OutboxStatus where
  | pending
  | sending
  | sent
  | retry
  | deadLetter
deriving DecidableEq

/-- `list_due` returns rows of this status. -/
def OutboxStatus.due : OutboxStatus → Bool
  | .pending | .retry => true
  | _ => false

/-- The row still waits, or was given up. -/
def OutboxStatus.kept : OutboxStatus → Bool
  | .pending | .retry | .deadLetter => true
  | _ => false

/-- A row of `endpoint_outbox`. The last error is kept as the value it is the text of. -/
structure OutboxRow where
  targetEndpointId : EndpointId
  targetAddressId : Option AddressId
  messageType : String
  payload : Frame
  metadata : Fields
  createdAt : Instant
  status : OutboxStatus := .pending
  availableAt : Option Instant := none
  attemptCount : Nat := 0
  lastError : Json := .str ""

/-- The statuses of a row of `delivery_attempts`. -/
inductive AttemptStatus where
  | queued
  | dispatched
  | sent
  | delivered
  | retry
  | deadLetter
  | failed
deriving DecidableEq

/-- A row of `delivery_attempts`. -/
structure DeliveryAttempt where
  targetEndpointId : EndpointId
  targetAddressId : Option AddressId
  outboxId : Option OutboxId
  messageType : String
  payload : Frame
  status : AttemptStatus
  error : Fields := Dict.empty
  metadata : Fields

/-- `endpoint_outbox`, by id. -/
abbrev Outbox := Dict OutboxId OutboxRow

/-- `delivery_attempts`, by the id of the delivery. -/
abbrev Attempts := Dict DeliveryId DeliveryAttempt

section
variable {κ : Type} [LinearOrder κ]

/-- The order of due rows: when they become available, then when they were created.
Where a row goes that is available at once is up to the database. -/
def dueKey (rank : Option Instant → κ) (entry : OutboxId × OutboxRow) : κ ×ₗ Instant :=
  toLex (rank entry.2.availableAt, entry.2.createdAt)

/-- The conditions of `list_due` on a row. -/
def OutboxRow.dueFor (row : OutboxRow) (targetEndpointId : EndpointId) (now : Instant) : Bool :=
  row.status.due && decide (row.targetEndpointId = targetEndpointId) &&
    row.availableAt.all fun availableAt => decide (availableAt ≤ now)

/-- `max(1, min(int(limit or 50), 500))`. -/
def normalizedLimit (limit : Int) : Nat := (max 1 (min (if limit = 0 then 50 else limit) 500)).toNat

/-- `EndpointOutboxRepository.list_due`. -/
def listDue {rank : Option Instant → κ} (byDue : OrderBy (dueKey rank)) (outbox : Outbox)
    (targetEndpointId : EndpointId) (limit : Int) (now : Instant) : List OutboxId :=
  ((byDue.sort (outbox.entries.filter fun entry => entry.2.dueFor targetEndpointId now)).take
    (normalizedLimit limit)).map Prod.fst

/-- The rank of a database that puts rows available at once first. -/
def nullsFirst (availableAt : Option Instant) : WithBot Instant := availableAt

/-- A database that returns rows due at the same time as they were inserted. -/
def asInserted : OrderBy (dueKey nullsFirst) := OrderBy.stable

/-- Only rows of a due status are listed. -/
theorem due_of_listed {rank : Option Instant → κ} {byDue : OrderBy (dueKey rank)} {outbox : Outbox}
    {targetEndpointId : EndpointId} {limit : Int} {now : Instant} {outboxId : OutboxId}
    (listed : outboxId ∈ listDue byDue outbox targetEndpointId limit now) :
    ∃ row, outbox.get outboxId = some row ∧ row.status.due = true := by
  obtain ⟨⟨other, row⟩, member, rfl⟩ := List.mem_map.mp listed
  have selected := (byDue.perm _).mem_iff.mp (List.mem_of_mem_take member)
  obtain ⟨present, due⟩ := List.mem_filter.mp selected
  simp only [OutboxRow.dueFor, Bool.and_eq_true] at due
  exact ⟨row, (Dict.get_some_iff outbox other row).mpr present, due.1.1⟩

end

/-- The writes of `mark_inflight`. -/
def OutboxRow.inflight (row : OutboxRow) : OutboxRow :=
  { row with status := .sending, attemptCount := row.attemptCount + 1 }

/-- The writes of `mark_sent`. -/
def OutboxRow.markedSent (row : OutboxRow) : OutboxRow :=
  { row with status := .sent, lastError := .str "" }

/-- `max(1, int(value or default))`. -/
def atLeastOne (value default : Int) : Int := max 1 (if value = 0 then default else value)

/-- How often a row is tried, and how long it waits in between. -/
structure RetryLimits where
  maxAttempts : Int := 5
  baseDelaySeconds : Int := 2
  maxDelaySeconds : Int := 300
deriving DecidableEq

/-- The delay before the next attempt, doubled with each attempt made. -/
def RetryLimits.delaySeconds (limits : RetryLimits) (attempts : Nat) : Int :=
  min (atLeastOne limits.maxDelaySeconds 300)
    (atLeastOne limits.baseDelaySeconds 2 * 2 ^ (attempts - 1))

/-- The row has been tried as often as allowed. -/
def OutboxRow.exhausted (row : OutboxRow) (limits : RetryLimits) : Bool :=
  decide (atLeastOne limits.maxAttempts 1 ≤ row.attemptCount)

/-- The writes of `reschedule_failure`. -/
def OutboxRow.rescheduled (row : OutboxRow) (error : Json) (limits : RetryLimits) (now : Instant) :
    OutboxRow :=
  if row.exhausted limits then
    { row with lastError := error, status := .deadLetter, availableAt := none }
  else
    { row with lastError := error, status := .retry
               availableAt := some (now + seconds (limits.delaySeconds row.attemptCount)) }

/-- `EndpointOutboxRepository.mark_inflight`. -/
def markInflight (outbox : Outbox) (outboxId : OutboxId) : Option (OutboxRow × Outbox) :=
  (outbox.get outboxId).map fun row => (row.inflight, outbox.set outboxId row.inflight)

/-- `EndpointOutboxRepository.mark_sent`. -/
def markSent (outbox : Outbox) (outboxId : OutboxId) : Outbox :=
  outbox.revise outboxId OutboxRow.markedSent

/-- `EndpointOutboxRepository.reschedule_failure`. -/
def rescheduleFailure (outbox : Outbox) (outboxId : OutboxId) (error : Json)
    (limits : RetryLimits) (now : Instant) : Outbox :=
  outbox.revise outboxId fun row => row.rescheduled error limits now

/-- What `update_result` writes to an attempt; an absent column stays, metadata is
merged. -/
structure ResultUpdate where
  status : AttemptStatus
  error : Option Fields := none
  metadata : Fields
  outboxId : Option OutboxId := none

/-- `DeliveryAttemptRepository.update_result` on a stored row. -/
def ResultUpdate.apply (update : ResultUpdate) (attempt : DeliveryAttempt) : DeliveryAttempt :=
  { attempt with
    status := update.status
    error := update.error.getD attempt.error
    metadata := attempt.metadata.update update.metadata
    outboxId := update.outboxId.or attempt.outboxId }

/-- `DeliveryAttemptRepository.update_result`. -/
def updateResult (attempts : Attempts) (deliveryId : DeliveryId) (update : ResultUpdate) :
    Attempts :=
  attempts.revise deliveryId update.apply

@[simp] theorem markedSent_payload (row : OutboxRow) : row.markedSent.payload = row.payload := rfl

@[simp] theorem rescheduled_payload (row : OutboxRow) (error : Json) (limits : RetryLimits)
    (now : Instant) : (row.rescheduled error limits now).payload = row.payload := by
  unfold OutboxRow.rescheduled
  split <;> rfl

@[simp] theorem markedSent_attemptCount (row : OutboxRow) :
    row.markedSent.attemptCount = row.attemptCount := rfl

@[simp] theorem rescheduled_attemptCount (row : OutboxRow) (error : Json) (limits : RetryLimits)
    (now : Instant) : (row.rescheduled error limits now).attemptCount = row.attemptCount := by
  unfold OutboxRow.rescheduled
  split <;> rfl

/-- A rescheduled row waits for a retry or was given up. -/
theorem rescheduled_kept (row : OutboxRow) (error : Json) (limits : RetryLimits) (now : Instant) :
    (row.rescheduled error limits now).status.kept = true := by
  unfold OutboxRow.rescheduled
  split <;> rfl

/-- A rescheduled row is due again unless it is exhausted. -/
theorem rescheduled_due (row : OutboxRow) (error : Json) (limits : RetryLimits) (now : Instant) :
    (row.rescheduled error limits now).status.due = !row.exhausted limits := by
  unfold OutboxRow.rescheduled
  split
  · next exhausted => simp [OutboxStatus.due, exhausted]
  · next fresh => simp [OutboxStatus.due, fresh]

end MeetYou.EndpointOutbox
