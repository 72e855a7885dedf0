import MeetYou.EndpointOutbox
import MeetYou.Foundation.Runs

/-!
# Deliveries, drains and acknowledgements

A delivery sends its frame once and records an attempt of it; a frame that was
not sent goes to the outbox when the policy of the delivery asks for it. A drain
of an endpoint lists the rows that are due, and sends the frame of one after the
other. The endpoint may acknowledge a delivery at any time, with success or not;
a failure puts the frame into the outbox or schedules its row for a retry.

Each send is awaited, so steps of other parties may fall between the start of a
send and its answer, as they may between two rows of a drain. A send may also
raise, and the task that awaits it may be cancelled.

The steps of the service are watched: beside its state stand the deliveries made,
the last outcome of each, and the rows handed to the transport. None of these is
read by a step.
-/

namespace MeetYou.DeliveryRuns

open EndpointOutbox

/-- A pass over the outbox. -/
abbrev PassId := Nat

/-- A call of `deliver`: its arguments, the payload after it was completed and
formatted, and the identifier it gives to the delivery. -/
structure Delivery where
  deliveryId : DeliveryId
  endpointId : String
  targetEndpointId : EndpointId
  targetAddressId : Option AddressId := none
  /-- The call names an address. -/
  addressed : Bool := false
  messageType : String
  payload : Fields := Dict.empty
  offlinePolicy : String := "store_and_retry"

/-- The frame `deliver` sends. -/
def Delivery.frame (delivery : Delivery) : Frame where
  type := "delivery." ++ delivery.messageType
  targetEndpointId := delivery.endpointId
  deliveryId := delivery.deliveryId
  payload := delivery.payload.set "delivery_id" (.str delivery.deliveryId.1.1)
  named := Dict.get_set_self _ _ _

/-- `DeliveryService._queueable_policy`. -/
def queueablePolicy (policy : String) : Bool :=
  decide (Text.strip policy ∈ ["store_and_retry", "store_in_outbox", "queue_until_online"])

/-- The policy an attempt carries in its metadata is queueable; the text of a value
that is no text is not. -/
def queueableMetadata (metadata : Fields) : Bool :=
  match metadata.getOr "offline_policy" (.str "store_and_retry") with
  | .str policy => queueablePolicy policy
  | _ => false

/-- `DeliveryService._is_ack_success`. -/
def isAckSuccess (status : String) : Bool :=
  decide (Text.lowerWord (Text.strip status) ∈ ["ok", "sent", "delivered", "succeeded", "success"])

/-- The two tables of deliveries. -/
structure Tables where
  outbox : Outbox
  attempts : Attempts

/-- The frame of a delivery that was not sent goes to the outbox. -/
def Delivery.queued (delivery : Delivery) (sent : Bool) : Bool :=
  !sent && queueablePolicy delivery.offlinePolicy

/-- What a delivery notes of itself. -/
def Delivery.metadata (delivery : Delivery) : Fields :=
  Fields.of [("offline_policy", .str delivery.offlinePolicy)]

/-- The status `deliver` records and returns. -/
def Delivery.status (delivery : Delivery) (sent : Bool) : AttemptStatus :=
  if sent && delivery.addressed then .dispatched else if sent then .sent else .queued

/-- The row a delivery puts into the outbox. -/
def Delivery.row (delivery : Delivery) (now : Instant) : OutboxRow where
  targetEndpointId := delivery.targetEndpointId
  targetAddressId := delivery.targetAddressId
  messageType := delivery.messageType
  payload := delivery.frame
  metadata := delivery.metadata
  createdAt := now

/-- The attempt a delivery records. -/
def Delivery.attempt (delivery : Delivery) (sent : Bool) (outboxId : OutboxId) :
    DeliveryAttempt where
  targetEndpointId := delivery.targetEndpointId
  targetAddressId := delivery.targetAddressId
  outboxId := if delivery.queued sent then some outboxId else none
  messageType := delivery.messageType
  payload := delivery.frame
  status := delivery.status sent
  metadata := delivery.metadata

/-- What `deliver` records once its frame was sent or not. -/
def recordDelivery (tables : Tables) (delivery : Delivery) (sent : Bool) (outboxId : OutboxId)
    (now : Instant) : Tables where
  outbox :=
    if delivery.queued sent then tables.outbox.set outboxId (delivery.row now) else tables.outbox
  attempts := tables.attempts.set delivery.frame.deliveryId (delivery.attempt sent outboxId)

/-- The row an acknowledged failure puts into the outbox. -/
def requeuedRow (attempt : DeliveryAttempt) (now : Instant) : OutboxRow where
  targetEndpointId := attempt.targetEndpointId
  targetAddressId := attempt.targetAddressId
  messageType := if attempt.messageType ≠ "" then attempt.messageType else "message"
  payload := attempt.payload
  metadata := attempt.metadata.set "queued_from_delivery_result" (.bool true)
  createdAt := now

/-- The status an attempt takes from its row once that is rescheduled. -/
def failureStatus (outbox : Outbox) (outboxId : OutboxId) (limits : RetryLimits) : AttemptStatus :=
  if (outbox.get outboxId).any fun row => row.exhausted limits then .deadLetter else .retry

/-- What `handle_delivery_result` returns. -/
inductive AckReply where
  | deliveryIdRequired
  | deliveryNotFound (deliveryId : DeliveryId)
  | delivered (deliveryId : DeliveryId)
  | failed (status : AttemptStatus) (deliveryId : DeliveryId) (queued : Bool)

/-- The result of an endpoint is noted as its source. -/
def resultMetadata (metadata : Fields) : Fields :=
  metadata.set "source" (.str "endpoint_delivery_result")

/-- The error of an acknowledged failure. -/
def ackError (status : String) (error : Fields) : Fields :=
  if error.entries.isEmpty then
    Fields.of [("message", .str (if status ≠ "" then status else "delivery failed")),
      ("type", .str "endpoint_delivery_failed")]
  else error

/-- `handle_delivery_result` on a success. -/
def acknowledge (tables : Tables) (deliveryId : DeliveryId) (attempt : DeliveryAttempt)
    (metadata : Fields) : Tables where
  outbox := match attempt.outboxId with
    | none => tables.outbox
    | some outboxId => markSent tables.outbox outboxId
  attempts := updateResult tables.attempts deliveryId
    { status := .delivered, error := some Dict.empty, metadata := resultMetadata metadata }

/-- `handle_delivery_result` on a failure: the frame is queued, or its row is
scheduled for a retry, unless the policy of the attempt is not queueable. -/
def reject (tables : Tables) (deliveryId : DeliveryId) (attempt : DeliveryAttempt) (error : Fields)
    (metadata : Fields) (outboxId : OutboxId) (now : Instant) : Tables × AckReply :=
  if queueableMetadata attempt.metadata then
    match attempt.outboxId with
    | none =>
        ({ outbox := tables.outbox.set outboxId (requeuedRow attempt now)
           attempts := updateResult tables.attempts deliveryId
             { status := .retry, error := some error, metadata := resultMetadata metadata,
               outboxId := some outboxId } },
          .failed .retry deliveryId true)
    | some held =>
        ({ outbox := rescheduleFailure tables.outbox held (error.getOr "message" (.str "")) {} now
           attempts := updateResult tables.attempts deliveryId
             { status := failureStatus tables.outbox held {}, error := some error,
               metadata := resultMetadata metadata, outboxId := some held } },
          .failed (failureStatus tables.outbox held {}) deliveryId
            (tables.outbox.get held).isSome)
  else
    ({ tables with
       attempts := updateResult tables.attempts deliveryId
         { status := .failed, error := some error, metadata := resultMetadata metadata,
           outboxId := attempt.outboxId } },
      .failed .failed deliveryId false)

/-- `DeliveryService.handle_delivery_result`. -/
def handleDeliveryResult (tables : Tables) (deliveryId status : String) (error metadata : Fields)
    (outboxId : OutboxId) (now : Instant) : Tables × AckReply :=
  match deliveryId? deliveryId with
  | none => (tables, .deliveryIdRequired)
  | some deliveryId =>
      match tables.attempts.get deliveryId with
      | none => (tables, .deliveryNotFound deliveryId)
      | some attempt =>
          if isAckSuccess status then
            (acknowledge tables deliveryId attempt metadata, .delivered deliveryId)
          else
            reject tables deliveryId attempt (ackError status error) metadata outboxId now

/-- How a send of a drain ends. -/
inductive SendOutcome where
  | sent
  | refused
  | raised (message type : String)

/-- The frame has left. -/
def SendOutcome.isSent : SendOutcome → Bool
  | .sent => true
  | _ => false

/-- The error of a send that failed. -/
def SendOutcome.error : SendOutcome → Fields
  | .raised message type => Fields.of [("message", .str message), ("type", .str type)]
  | _ => Fields.of [("message", .str "endpoint transport unavailable"),
      ("type", .str "delivery_unavailable")]

/-- A drain is noted as the source. -/
def drainMetadata : Fields := Fields.of [("source", .str "outbox_drain")]

/-- What a drain records of a row after its send; the identifier of the delivery is
the one `deliveryIdFromFrame` reads. -/
def recordDrain (tables : Tables) (outboxId : OutboxId) (frame : Frame) (outcome : SendOutcome)
    (limits : RetryLimits) (now : Instant) : Tables :=
  if outcome.isSent then
    { outbox := markSent tables.outbox outboxId
      attempts := updateResult tables.attempts frame.deliveryId
        { status := .dispatched, metadata := drainMetadata, outboxId := some outboxId } }
  else
    { outbox := rescheduleFailure tables.outbox outboxId
        (outcome.error.getOr "message" (.str "")) limits now
      attempts := updateResult tables.attempts frame.deliveryId
        { status := failureStatus tables.outbox outboxId limits, error := some outcome.error,
          metadata := drainMetadata, outboxId := some outboxId } }

/-- What `drain_endpoint_outbox` counts and returns. -/
structure DrainCounts where
  drained : Nat := 0
  sent : Nat := 0
  failed : Nat := 0
  deadLetter : Nat := 0

/-- Count a send that has ended. -/
def DrainCounts.add (counts : DrainCounts) (outcome : SendOutcome) (status : AttemptStatus) :
    DrainCounts :=
  if outcome.isSent then { counts with sent := counts.sent + 1 }
  else if status = .deadLetter then { counts with deadLetter := counts.deadLetter + 1 }
  else { counts with failed := counts.failed + 1 }

/-- A drain under way: the rows it has still to take, and the row whose frame it is
sending. -/
structure Pass where
  rows : List OutboxId
  limits : RetryLimits := {}
  sending : Option (OutboxId × Frame) := none
  counts : DrainCounts := {}

/-- The tables, whether a transport is set, the deliveries whose send is awaited, and
the drains under way. -/
structure Service where
  tables : Tables
  transport : Bool
  deliveries : Dict DeliveryId Delivery
  passes : Dict PassId Pass

/-- Empty tables and no pass. -/
def start : Service := ⟨⟨Dict.empty, Dict.empty⟩, true, Dict.empty, Dict.empty⟩

/-- One step of one party. A new row of the outbox takes the identifier the action
carries. -/
inductive Action where
  | setTransport (present : Bool)
  | deliver (delivery : Delivery) (outboxId : OutboxId) (now : Instant)
  | answer (deliveryId : DeliveryId) (sent : Bool) (outboxId : OutboxId) (now : Instant)
  /-- The send of a delivery has raised, or its task was cancelled. -/
  | abort (deliveryId : DeliveryId)
  | drain (passId : PassId) (targetEndpointId : EndpointId) (limit : Int) (limits : RetryLimits)
      (now : Instant)
  /-- The drain marks its next row and hands the frame of it to the transport. -/
  | next (passId : PassId)
  | drained (passId : PassId) (outcome : SendOutcome) (now : Instant)
  /-- The task of a drain was cancelled. -/
  | cancel (passId : PassId)
  | ack (deliveryId status : String) (error metadata : Fields) (outboxId : OutboxId)
      (now : Instant)

/-- The identifier was never used for a row. -/
def Service.unused (service : Service) (outboxId : OutboxId) : Bool :=
  (service.tables.outbox.get outboxId).isNone

/-- The drain goes on to its next row, or ends. -/
def Service.proceed (service : Service) (passId : PassId) (pass : Pass) : Service :=
  match pass.rows with
  | [] => { service with passes := service.passes.pop passId }
  | outboxId :: rest =>
      match markInflight service.tables.outbox outboxId with
      | none => { service with passes := service.passes.set passId { pass with rows := rest } }
      | some (inflight, outbox) =>
          { service with
            tables := { service.tables with outbox := outbox }
            passes := service.passes.set passId
              { pass with
                rows := rest
                sending := some (outboxId, inflight.payload)
                counts := { pass.counts with drained := pass.counts.drained + 1 } } }

section
variable {κ : Type} [LinearOrder κ] {rank : Option Instant → κ}

/-- The steps of the service; an action whose party stands elsewhere is refused. -/
def step (byDue : OrderBy (dueKey rank)) (service : Service) : Action → Option Service
  | .setTransport present => some { service with transport := present }
  | .deliver delivery outboxId now =>
      if (service.tables.attempts.get delivery.frame.deliveryId).isNone &&
          (service.deliveries.get delivery.frame.deliveryId).isNone && service.unused outboxId then
        if service.transport then
          some { service with
                 deliveries := service.deliveries.set delivery.frame.deliveryId delivery }
        else
          some { service with tables := recordDelivery service.tables delivery false outboxId now }
      else none
  | .answer deliveryId sent outboxId now =>
      match service.deliveries.get deliveryId with
      | none => none
      | some delivery =>
          if service.unused outboxId then
            some { service with tables := recordDelivery service.tables delivery sent outboxId now
                                deliveries := service.deliveries.pop deliveryId }
          else none
  | .abort deliveryId =>
      match service.deliveries.get deliveryId with
      | none => none
      | some _ => some { service with deliveries := service.deliveries.pop deliveryId }
  | .drain passId targetEndpointId limit limits now =>
      if (service.passes.get passId).isNone then
        if service.transport then
          some { service with
                 passes := service.passes.set passId
                   { rows := listDue byDue service.tables.outbox targetEndpointId limit now
                     limits := limits } }
        else some service
      else none
  | .next passId =>
      match service.passes.get passId with
      | none => none
      | some pass => if pass.sending.isSome then none else some (service.proceed passId pass)
  | .drained passId outcome now =>
      match service.passes.get passId with
      | none => none
      | some pass =>
          match pass.sending with
          | none => none
          | some (outboxId, frame) =>
              some { service with
                     tables := recordDrain service.tables outboxId frame outcome pass.limits now
                     passes := service.passes.set passId
                       { pass with
                         sending := none
                         counts := pass.counts.add outcome
                           (failureStatus service.tables.outbox outboxId pass.limits) } }
  | .cancel passId => some { service with passes := service.passes.pop passId }
  | .ack deliveryId status error metadata outboxId now =>
      if service.unused outboxId then
        some { service with
               tables := (handleDeliveryResult service.tables deliveryId status error metadata
                 outboxId now).1 }
      else none

variable {byDue : OrderBy (dueKey rank)} {service next : Service}

/-- A new delivery awaits its send, or records at once that there is no transport. -/
theorem deliver_spec {delivery : Delivery} {outboxId : OutboxId} {now : Instant}
    (taken : step byDue service (.deliver delivery outboxId now) = some next) :
    service.tables.attempts.get delivery.frame.deliveryId = none ∧
      service.deliveries.get delivery.frame.deliveryId = none ∧
      service.tables.outbox.get outboxId = none ∧
      (service.transport = true ∧
          next = { service with
                   deliveries := service.deliveries.set delivery.frame.deliveryId delivery } ∨
        ¬ service.transport = true ∧
          next = { service with
                   tables := recordDelivery service.tables delivery false outboxId now }) := by
  simp only [step] at taken
  split at taken
  case isFalse => cases taken
  case isTrue fresh =>
    simp only [Service.unused, Bool.and_eq_true, Option.isNone_iff_eq_none] at fresh
    refine ⟨fresh.1.1, fresh.1.2, fresh.2, ?_⟩
    split at taken
    · next transport => exact Or.inl ⟨transport, (Option.some.inj taken).symm⟩
    · next transport => exact Or.inr ⟨transport, (Option.some.inj taken).symm⟩

theorem answer_spec {deliveryId : DeliveryId} {sent : Bool} {outboxId : OutboxId} {now : Instant}
    (taken : step byDue service (.answer deliveryId sent outboxId now) = some next) :
    ∃ delivery, service.deliveries.get deliveryId = some delivery ∧
      service.tables.outbox.get outboxId = none ∧
      next = { service with tables := recordDelivery service.tables delivery sent outboxId now
                            deliveries := service.deliveries.pop deliveryId } := by
  simp only [step] at taken
  split at taken
  case h_1 => cases taken
  case h_2 delivery waits =>
    split at taken
    case isFalse => cases taken
    case isTrue free =>
      exact ⟨delivery, waits, Option.isNone_iff_eq_none.mp free, (Option.some.inj taken).symm⟩

theorem abort_spec {deliveryId : DeliveryId}
    (taken : step byDue service (.abort deliveryId) = some next) :
    ∃ delivery, service.deliveries.get deliveryId = some delivery ∧
      next = { service with deliveries := service.deliveries.pop deliveryId } := by
  simp only [step] at taken
  split at taken
  case h_1 => cases taken
  case h_2 delivery waits => exact ⟨delivery, waits, (Option.some.inj taken).symm⟩

theorem drain_spec {passId : PassId} {targetEndpointId : EndpointId} {limit : Int}
    {limits : RetryLimits} {now : Instant}
    (taken : step byDue service (.drain passId targetEndpointId limit limits now) = some next) :
    service.passes.get passId = none ∧
      (next = { service with
                passes := service.passes.set passId
                  { rows := listDue byDue service.tables.outbox targetEndpointId limit now
                    limits := limits } } ∨
        next = service) := by
  simp only [step] at taken
  split at taken
  case isFalse => cases taken
  case isTrue free =>
    refine ⟨Option.isNone_iff_eq_none.mp free, ?_⟩
    split at taken
    · exact Or.inl (Option.some.inj taken).symm
    · exact Or.inr (Option.some.inj taken).symm

theorem next_spec {passId : PassId} (taken : step byDue service (.next passId) = some next) :
    ∃ pass, service.passes.get passId = some pass ∧ pass.sending = none ∧
      next = service.proceed passId pass := by
  simp only [step] at taken
  split at taken
  case h_1 => cases taken
  case h_2 pass found =>
    split at taken
    case isTrue => cases taken
    case isFalse free =>
      exact ⟨pass, found, by simpa using free, (Option.some.inj taken).symm⟩

theorem drained_spec {passId : PassId} {outcome : SendOutcome} {now : Instant}
    (taken : step byDue service (.drained passId outcome now) = some next) :
    ∃ pass outboxId frame, service.passes.get passId = some pass ∧
      pass.sending = some (outboxId, frame) ∧
      next = { service with
               tables := recordDrain service.tables outboxId frame outcome pass.limits now
               passes := service.passes.set passId
                 { pass with
                   sending := none
                   counts := pass.counts.add outcome
                     (failureStatus service.tables.outbox outboxId pass.limits) } } := by
  simp only [step] at taken
  split at taken
  case h_1 => cases taken
  case h_2 pass found =>
    split at taken
    case h_1 => cases taken
    case h_2 outboxId frame busy =>
      exact ⟨pass, outboxId, frame, found, busy, (Option.some.inj taken).symm⟩

theorem ack_spec {deliveryId status : String} {error metadata : Fields} {outboxId : OutboxId}
    {now : Instant}
    (taken : step byDue service (.ack deliveryId status error metadata outboxId now) = some next) :
    service.tables.outbox.get outboxId = none ∧
      next = { service with
               tables := (handleDeliveryResult service.tables deliveryId status error metadata
                 outboxId now).1 } := by
  simp only [step] at taken
  split at taken
  case isFalse => cases taken
  case isTrue free => exact ⟨Option.isNone_iff_eq_none.mp free, (Option.some.inj taken).symm⟩

end

/-- A drain that goes on ends, passes over a missing row, or starts a send. -/
theorem proceed_spec (service : Service) (passId : PassId) (pass : Pass) :
    pass.rows = [] ∧
        service.proceed passId pass = { service with passes := service.passes.pop passId } ∨
      (∃ outboxId rest, pass.rows = outboxId :: rest ∧
        service.tables.outbox.get outboxId = none ∧
        service.proceed passId pass =
          { service with passes := service.passes.set passId { pass with rows := rest } }) ∨
      ∃ outboxId rest row, pass.rows = outboxId :: rest ∧
        service.tables.outbox.get outboxId = some row ∧
        service.proceed passId pass =
          { service with
            tables := { service.tables with
              outbox := service.tables.outbox.set outboxId row.inflight }
            passes := service.passes.set passId
              { pass with
                rows := rest
                sending := some (outboxId, row.payload)
                counts := { pass.counts with drained := pass.counts.drained + 1 } } } := by
  unfold Service.proceed
  split
  · next none => exact Or.inl ⟨none, rfl⟩
  · next outboxId rest listed =>
    right
    cases stored : service.tables.outbox.get outboxId with
    | none =>
      simp only [markInflight, stored, Option.map_none]
      exact Or.inl ⟨outboxId, rest, listed, stored, rfl⟩
    | some row =>
      simp only [markInflight, stored, Option.map_some]
      exact Or.inr ⟨outboxId, rest, row, listed, stored, rfl⟩

/-- The row and the frame a drain is sending. -/
def sendingIn (passes : Dict PassId Pass) (passId : PassId) : Option (OutboxId × Frame) :=
  (passes.get passId).bind Pass.sending

/-- The outcome of a send or an acknowledgement, and the delivery it is about. -/
def outcomeOf (service : Service) : Action → Option (DeliveryId × Bool)
  | .deliver delivery _ _ =>
      if service.transport then none else some (delivery.frame.deliveryId, false)
  | .answer deliveryId sent _ _ => some (deliveryId, sent)
  | .abort deliveryId => some (deliveryId, false)
  | .drained passId outcome _ =>
      (sendingIn service.passes passId).map fun sending =>
        (sending.2.deliveryId, outcome.isSent)
  | .cancel passId =>
      (sendingIn service.passes passId).map fun sending => (sending.2.deliveryId, false)
  | .ack deliveryId status _ _ _ _ =>
      (deliveryId? deliveryId).map fun deliveryId => (deliveryId, isAckSuccess status)
  | _ => none

/-- The row a step hands to the transport. -/
def handedBy (service : Service) : Action → Option OutboxId
  | .next passId =>
      (service.passes.get passId).bind fun pass => pass.rows.head?.filter fun outboxId =>
        (service.tables.outbox.get outboxId).isSome
  | _ => none

/-- The service, the deliveries made, the last outcome of each, and the rows handed
to the transport, a row once for each time. -/
structure Watched where
  service : Service
  made : Dict DeliveryId Delivery
  outcomes : Dict DeliveryId Bool
  handed : List OutboxId

def Watched.start : Watched := ⟨DeliveryRuns.start, Dict.empty, Dict.empty, []⟩

theorem sendingIn_set (passes : Dict PassId Pass) (passId tested : PassId) (pass : Pass) :
    sendingIn (passes.set passId pass) tested =
      if passId = tested then pass.sending else sendingIn passes tested := by
  rw [sendingIn, Dict.get_set]
  split <;> rfl

theorem sendingIn_pop (passes : Dict PassId Pass) (passId tested : PassId) :
    sendingIn (passes.pop passId) tested =
      if passId = tested then none else sendingIn passes tested := by
  rw [sendingIn, Dict.get_pop]
  split <;> rfl

/-- Nothing is being sent when no drain is sending. -/
theorem sendingIn_none {passes : Dict PassId Pass}
    (idle : passes.all (fun _ pass => pass.sending.isNone) = true) (passId : PassId) :
    sendingIn passes passId = none := by
  cases found : passes.get passId with
  | none => rw [sendingIn, found, Option.bind_none]
  | some pass =>
    have quiet := (Dict.all_iff passes _).mp idle passId pass found
    rw [sendingIn, found, Option.bind_some, Option.isNone_iff_eq_none.mp quiet]

/-- The last outcomes after a step. -/
def noteOutcome (outcomes : Dict DeliveryId Bool) : Option (DeliveryId × Bool) → Dict DeliveryId Bool
  | none => outcomes
  | some (deliveryId, success) => outcomes.set deliveryId success

/-- The deliveries made after a step. -/
def noteMade (made : Dict DeliveryId Delivery) : Action → Dict DeliveryId Delivery
  | .deliver delivery _ _ => made.set delivery.frame.deliveryId delivery
  | _ => made

section
variable {κ : Type} [LinearOrder κ] {rank : Option Instant → κ}

/-- A step of the service, watched. -/
def watch (byDue : OrderBy (dueKey rank)) (watched : Watched) (action : Action) : Option Watched :=
  (step byDue watched.service action).map fun next =>
    { service := next
      made := noteMade watched.made action
      outcomes := noteOutcome watched.outcomes (outcomeOf watched.service action)
      handed := (handedBy watched.service action).toList ++ watched.handed }

end

/-- Two identifiers of deliveries. -/
def firstId : DeliveryId := ⟨Text.plain "delivery_1", by decide⟩

def secondId : DeliveryId := ⟨Text.plain "delivery_2", by decide⟩

/-- A notice for endpoint 1 under the default policy. -/
def notice (deliveryId : DeliveryId) : Delivery where
  deliveryId := deliveryId
  endpointId := "desk"
  targetEndpointId := 1
  messageType := "notice"

end MeetYou.DeliveryRuns
