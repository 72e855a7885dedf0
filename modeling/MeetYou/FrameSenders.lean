import MeetYou.DeliverySound
import MeetYou.EndpointSockets
import MeetYou.ToolOutcome

/-!
# Who may answer a call or a delivery

A socket sends frames about calls and results of deliveries. The handlers look the call or the
delivery up by the identifier the frame carries, and ask neither which endpoint it was addressed
to nor to which endpoints the socket is bound.

`frames_confined` says what stands in for the sender: a frame changes the call or the delivery it
carries the identifier of, with what belongs to it, and it does the same from every socket.
-/

namespace MeetYou.FrameSenders

open EndpointOutbox Runs
open DeliveryRuns (Tables Service Delivery sendingIn)
open OperationCalls (CallId)

/-! ## Frames -/

/-- A `delivery.result` or `delivery.error` frame. A field that is absent is blank. -/
structure DeliveryFrame where
  isError : Bool := false
  payloadDeliveryId : String := ""
  frameDeliveryId : String := ""
  status : String := ""
  error : Fields := Dict.empty
  metadata : Fields := Dict.empty
  payloadEndpointId : String := ""
  frameEndpointId : String := ""

/-- The payload's id goes before that of the frame. -/
def DeliveryFrame.deliveryId (frame : DeliveryFrame) : String :=
  Text.strip
    (if frame.payloadDeliveryId ≠ "" then frame.payloadDeliveryId else frame.frameDeliveryId)

/-- The status `DeliveryResultHandler` reads; a result without one is a success. -/
def DeliveryFrame.result (frame : DeliveryFrame) : String :=
  let stated := Text.strip
    (if frame.status ≠ "" then frame.status else if frame.isError then "failed" else "")
  if stated ≠ "" then stated else "delivered"

/-- `EndpointFrameContext.endpoint_id`, where the state of the connection knows the last text. -/
def DeliveryFrame.endpointId (frame : DeliveryFrame) (state : String) : String :=
  Text.strip
    (if frame.payloadEndpointId ≠ "" then frame.payloadEndpointId
    else if frame.frameEndpointId ≠ "" then frame.frameEndpointId
    else state)

/-- The name of the frame on the wire. -/
def DeliveryFrame.frameType (frame : DeliveryFrame) : String :=
  if frame.isError then "delivery.error" else "delivery.result"

/-- The metadata `DeliveryResultHandler` hands on. -/
def DeliveryFrame.noted (frame : DeliveryFrame) (state : String) : Fields :=
  (frame.metadata.set "endpoint_id" (.str (frame.endpointId state))).set "frame_type"
    (.str frame.frameType)

/-- A frame of a socket about a call or about a delivery. -/
inductive Frame where
  | call (callId : String) (frame : ToolDispatch.Frame)
  | delivery (frame : DeliveryFrame)

/-- The call a frame carries the identifier of. -/
def Frame.callId? : Frame → Option CallId
  | .call callId _ => if Text.strip callId = "" then none else some (Text.strip callId)
  | .delivery _ => none

/-- The delivery a frame carries the identifier of. -/
def Frame.deliveryId? : Frame → Option DeliveryId
  | .call .. => none
  | .delivery frame => EndpointOutbox.deliveryId? frame.deliveryId

section
variable {Socket : Type} [DecidableEq Socket] {κ : Type} [LinearOrder κ] {rank : Option Instant → κ}

/-! ## The gateway -/

/-- The sockets with the state of each connection, the router and the delivery service. Beside
these stand the frames about calls that were received. -/
structure Gateway (Socket : Type) where
  manager : EndpointSockets.Manager Socket
  states : Dict Socket String
  router : ToolDispatch.Router
  service : Service
  received : List (Socket × CallId × ToolDispatch.Frame)

/-- No connection and empty tables. -/
def Gateway.start : Gateway Socket :=
  ⟨EndpointSockets.Manager.start, Dict.empty, ToolDispatch.start, DeliveryRuns.start, []⟩

/-- The socket has registered. -/
def Gateway.connected (gateway : Gateway Socket) (websocket : Socket) : Bool :=
  (gateway.manager.connectionMeta.get websocket).isSome

/-- `context.state.get("endpoint_id")`. -/
def Gateway.stateOf (gateway : Gateway Socket) (websocket : Socket) : String :=
  (gateway.states.get websocket).getD ""

/-- `ToolResultHandler.handle` and `DeliveryResultHandler.handle`. A row the handler may put into
the outbox takes the identifier it is given. -/
def handle (byDue : OrderBy (dueKey rank)) (gateway : Gateway Socket) (websocket : Socket)
    (outboxId : OutboxId) (now : Instant) : Frame → Option (Gateway Socket)
  | .call callId frame =>
      (ToolDispatch.step gateway.router (.frame callId frame)).map fun router =>
        { gateway with
          router := router
          received := (websocket, Text.strip callId, frame) :: gateway.received }
  | .delivery frame =>
      if frame.deliveryId = "" then some gateway
      else
        (DeliveryRuns.step byDue gateway.service
          (.ack frame.deliveryId frame.result frame.error
            (frame.noted (gateway.stateOf websocket)) outboxId now)).map fun service =>
          { gateway with service := service }

/-- A step of a socket's connection, a frame, or a step of the other parties of a call or of a
delivery. -/
inductive Action (Socket : Type) where
  | socket (action : EndpointSockets.Action Socket)
  /-- The handler of `endpoint.hello` notes the first endpoint in the state of the connection. -/
  | hello (websocket : Socket) (endpointId : String)
  | frame (websocket : Socket) (frame : Frame) (outboxId : OutboxId) (now : Instant)
  | router (action : ToolDispatch.Action)
  | service (action : DeliveryRuns.Action)

/-- A step of the dispatching tasks. -/
def ofRouter : ToolDispatch.Action → Bool
  | .frame .. => false
  | _ => true

/-- A step of the deliveries and drains. -/
def ofService : DeliveryRuns.Action → Bool
  | .ack .. => false
  | _ => true

/-- The steps of the gateway. Frames and results of deliveries come from sockets alone. -/
def step (byDue : OrderBy (dueKey rank)) (gateway : Gateway Socket) :
    Action Socket → Option (Gateway Socket)
  | .socket action =>
      (EndpointSockets.step gateway.manager action).map fun manager =>
        { gateway with
          manager := manager
          states := match action with
            | .disconnect websocket => gateway.states.pop websocket
            | _ => gateway.states }
  | .hello websocket endpointId =>
      if gateway.connected websocket then
        some { gateway with states := gateway.states.set websocket endpointId }
      else none
  | .frame websocket frame outboxId now =>
      if gateway.connected websocket then handle byDue gateway websocket outboxId now frame
      else none
  | .router action =>
      if ofRouter action then
        (ToolDispatch.step gateway.router action).map fun router =>
          { gateway with router := router }
      else none
  | .service action =>
      if ofService action then
        (DeliveryRuns.step byDue gateway.service action).map fun service =>
          { gateway with service := service }
      else none

/-! ## What a frame may change -/

/-- Two attempts that differ in nothing but the endpoint their result is noted to come from. -/
structure SameAttempt (first second : DeliveryAttempt) : Prop where
  columns : { first with metadata := Dict.empty } = { second with metadata := Dict.empty }
  metadata : ∀ key, key ≠ "endpoint_id" → first.metadata.get key = second.metadata.get key

/-- The same calls, operations, callers, rows and attempts. -/
structure SameTables (first second : Gateway Socket) : Prop where
  router : first.router = second.router
  outbox : first.service.tables.outbox = second.service.tables.outbox
  attempts : ∀ deliveryId, Option.Rel SameAttempt
    (first.service.tables.attempts.get deliveryId) (second.service.tables.attempts.get deliveryId)

/-- A frame changes the call it names with the operation that is this call's alone, or the attempt
of the delivery it names with the row of the outbox that carries this delivery, which it may also
put there for the endpoint of the attempt. It tells no caller anything at once, and every
connected socket may send it. -/
structure Confined (byDue : OrderBy (dueKey rank)) (gateway : Gateway Socket) (frame : Frame)
    (outboxId : OutboxId) (now : Instant) (next : Gateway Socket) : Prop where
  calls : ∀ callId, frame.callId? = some callId ∨
    next.router.ledger.calls.get callId = gateway.router.ledger.calls.get callId
  operations : ∀ operationId,
    (∃ callId row, frame.callId? = some callId ∧
      gateway.router.ledger.calls.get callId = some row ∧ row.operationId = operationId ∧
      ∀ other otherRow, gateway.router.ledger.calls.get other = some otherRow →
        otherRow.operationId = operationId → other = callId) ∨
    next.router.ledger.operations.get operationId =
      gateway.router.ledger.operations.get operationId
  callers : next.router.dispatches = gateway.router.dispatches
  attempts : ∀ deliveryId, frame.deliveryId? = some deliveryId ∨
    next.service.tables.attempts.get deliveryId = gateway.service.tables.attempts.get deliveryId
  rows : ∀ held row, gateway.service.tables.outbox.get held = some row →
    frame.deliveryId? = some row.payload.deliveryId ∨
      next.service.tables.outbox.get held = some row
  queued : ∀ held row, gateway.service.tables.outbox.get held = none →
    next.service.tables.outbox.get held = some row →
    ∃ attempt, frame.deliveryId? = some row.payload.deliveryId ∧
      gateway.service.tables.attempts.get row.payload.deliveryId = some attempt ∧
      row.targetEndpointId = attempt.targetEndpointId ∧ row.payload = attempt.payload
  anySocket : ∀ other, gateway.connected other = true →
    ∃ after, step byDue gateway (.frame other frame outboxId now) = some after ∧
      SameTables next after

/-- A caller is told what a frame that names its call has to tell, or it is told nothing. -/
def ToldByFrames (gateway next : Gateway Socket) : Prop :=
  ∀ callId, next.router.dispatches.get callId = gateway.router.dispatches.get callId ∨
    ∃ websocket frame notice, (websocket, callId, frame) ∈ gateway.received ∧
      ToolDispatch.Frame.notice frame = some notice ∧
      next.router.dispatches.get callId =
        (gateway.router.dispatches.get callId).map fun dispatch => dispatch.settle notice

/-- What a frame changes when it is handled, and when it reaches the caller. -/
def ByIdentifier (byDue : OrderBy (dueKey rank)) (gateway : Gateway Socket)
    (action : Action Socket) : Prop :=
  ∀ next, step byDue gateway action = some next →
    match action with
    | .frame _ frame outboxId now => Confined byDue gateway frame outboxId now next
    | .router (.settle _) => ToldByFrames gateway next
    | _ => True

/-! ## Links that every step keeps -/

/-- Rows and attempts name each other, a delivery whose send is awaited has no attempt yet, and a
drain sends the frame of a row. -/
structure Kept (service : Service) : Prop where
  linked : DeliverySound.Linked service.tables
  awaited : ∀ deliveryId delivery, service.deliveries.get deliveryId = some delivery →
    delivery.frame.deliveryId = deliveryId ∧ service.tables.attempts.get deliveryId = none
  carried : ∀ passId outboxId frame, sendingIn service.passes passId = some (outboxId, frame) →
    ∃ row, service.tables.outbox.get outboxId = some row ∧ row.payload = frame

theorem start_kept : Kept DeliveryRuns.start where
  linked := DeliverySound.start_linked
  awaited _ _ found := nomatch found
  carried _ _ _ busy := nomatch busy

/-- Tables that are linked and have the frames of all rows keep the links, if no delivery that is
awaited gets an attempt and no drain starts to send. -/
theorem Kept.change {before after : Service} (kept : Kept before)
    (linked : DeliverySound.Linked after.tables)
    (deliveries : after.deliveries = before.deliveries)
    (untried : ∀ deliveryId, before.tables.attempts.get deliveryId = none →
      after.tables.attempts.get deliveryId = none)
    (stored : ∀ outboxId row, before.tables.outbox.get outboxId = some row →
      ∃ held, after.tables.outbox.get outboxId = some held ∧ held.payload = row.payload)
    (carried : ∀ passId outboxId frame, sendingIn after.passes passId = some (outboxId, frame) →
      ∃ row, before.tables.outbox.get outboxId = some row ∧ row.payload = frame) :
    Kept after := by
  refine ⟨linked, ?_, ?_⟩
  · intro deliveryId delivery found
    rw [deliveries] at found
    obtain ⟨named, none⟩ := kept.awaited deliveryId delivery found
    exact ⟨named, untried deliveryId none⟩
  · intro passId outboxId frame busy
    obtain ⟨row, present, carries⟩ := carried passId outboxId frame busy
    obtain ⟨held, there, same⟩ := stored outboxId row present
    exact ⟨held, there, same.trans carries⟩

/-- Rewriting rows and attempts in place keeps the links, if no drain starts to send. -/
theorem Kept.rewrite {before after : Service} (kept : Kept before)
    (deliveries : after.deliveries = before.deliveries)
    (rewrites : DeliverySound.Rewrites before.tables after.tables)
    (carried : ∀ passId outboxId frame, sendingIn after.passes passId = some (outboxId, frame) →
      ∃ row, before.tables.outbox.get outboxId = some row ∧ row.payload = frame) :
    Kept after := by
  refine kept.change (kept.linked.rewrite rewrites) deliveries ?_
    (fun outboxId row stored => rewrites.row_after stored) carried
  intro deliveryId untried
  by_contra tried
  obtain ⟨attempt, present⟩ := Option.ne_none_iff_exists'.mp tried
  obtain ⟨held, earlier, _⟩ := rewrites.attempt present
  rw [untried] at earlier
  cases earlier

/-- Recording a delivery keeps the links. -/
theorem Kept.record {service : Service} (kept : Kept service) {delivery : Delivery}
    {deliveries : Dict DeliveryId Delivery} {outboxId : OutboxId} {sent : Bool} {now : Instant}
    (untried : service.tables.attempts.get delivery.frame.deliveryId = none)
    (unused : service.tables.outbox.get outboxId = none)
    (others : ∀ deliveryId awaited, deliveries.get deliveryId = some awaited →
      delivery.frame.deliveryId ≠ deliveryId ∧
        service.deliveries.get deliveryId = some awaited) :
    Kept { service with
           tables := DeliveryRuns.recordDelivery service.tables delivery sent outboxId now
           deliveries := deliveries } := by
  refine ⟨kept.linked.recordDelivery untried unused sent now, ?_, ?_⟩
  · intro deliveryId awaited found
    obtain ⟨different, waits⟩ := others deliveryId awaited found
    obtain ⟨named, none⟩ := kept.awaited deliveryId awaited waits
    exact ⟨named, (Dict.get_set_ne _ _ different).trans none⟩
  · intro passId tested frame busy
    obtain ⟨row, stored, carries⟩ := kept.carried passId tested frame busy
    exact ⟨row, (DeliverySound.get_recordDelivery (Dict.ne_of_absent unused stored)).trans stored,
      carries⟩

/-- What `handle_delivery_result` does to the row of an attempt. -/
inductive RowEffect (outbox : Outbox) (attempt : DeliveryAttempt) (link : Option OutboxId)
    (outboxId : OutboxId) (now : Instant) : Outbox → Prop where
  | untouched (same : link.or attempt.outboxId = attempt.outboxId) :
      RowEffect outbox attempt link outboxId now outbox
  | rewritten (held : OutboxId) (change : OutboxRow → OutboxRow)
      (named : attempt.outboxId = some held) (payload : ∀ row, (change row).payload = row.payload)
      (same : link.or attempt.outboxId = attempt.outboxId) :
      RowEffect outbox attempt link outboxId now (outbox.revise held change)
  | queued (unnamed : attempt.outboxId = none) (fresh : link = some outboxId) :
      RowEffect outbox attempt link outboxId now
        (outbox.set outboxId (DeliveryRuns.requeuedRow attempt now))

/-- A result of a delivery updates the attempt of this delivery and its row, or nothing. -/
theorem handle_cases (tables : Tables) (text status : String) (error metadata : Fields)
    (outboxId : OutboxId) (now : Instant) :
    (DeliveryRuns.handleDeliveryResult tables text status error metadata outboxId now).1 = tables ∨
      ∃ deliveryId attempt update outbox, deliveryId? text = some deliveryId ∧
        tables.attempts.get deliveryId = some attempt ∧
        RowEffect tables.outbox attempt update.outboxId outboxId now outbox ∧
        (DeliveryRuns.handleDeliveryResult tables text status error metadata outboxId now).1 =
          ⟨outbox, updateResult tables.attempts deliveryId update⟩ := by
  unfold DeliveryRuns.handleDeliveryResult
  cases named : deliveryId? text with
  | none => exact Or.inl rfl
  | some deliveryId =>
    cases tried : tables.attempts.get deliveryId with
    | none =>
      left
      simp only [tried]
    | some attempt =>
      right
      simp only [tried]
      by_cases success : DeliveryRuns.isAckSuccess status = true
      · rw [if_pos success]
        unfold DeliveryRuns.acknowledge
        cases link : attempt.outboxId with
        | none => exact ⟨deliveryId, attempt, _, _, rfl, tried, .untouched rfl, rfl⟩
        | some held =>
          exact ⟨deliveryId, attempt, _, _, rfl, tried,
            .rewritten held _ link markedSent_payload rfl, rfl⟩
      · rw [if_neg success]
        unfold DeliveryRuns.reject
        by_cases queueable : DeliveryRuns.queueableMetadata attempt.metadata = true
        · rw [if_pos queueable]
          cases link : attempt.outboxId with
          | none => exact ⟨deliveryId, attempt, _, _, rfl, tried, .queued link rfl, rfl⟩
          | some held =>
            refine ⟨deliveryId, attempt, _, _, rfl, tried,
              .rewritten held _ link (fun row => rescheduled_payload row _ _ _) ?_, rfl⟩
            rw [link, Option.some_or]
        · rw [if_neg queueable]
          refine ⟨deliveryId, attempt, _, _, rfl, tried, .untouched ?_, rfl⟩
          cases attempt.outboxId <;> rfl

/-- A result of a delivery keeps the links. -/
theorem Kept.ack {service : Service} (kept : Kept service) {text status : String}
    {error metadata : Fields} {outboxId : OutboxId} {now : Instant}
    (unused : service.tables.outbox.get outboxId = none) :
    Kept { service with
           tables := (DeliveryRuns.handleDeliveryResult service.tables text status error metadata
             outboxId now).1 } := by
  rcases handle_cases service.tables text status error metadata outboxId now with
    same | ⟨deliveryId, attempt, update, outbox, named, tried, effect, same⟩
  · rw [same]
    exact kept
  · rw [same]
    have inPlace : (∀ held, (outbox.get held).map OutboxRow.payload =
        (service.tables.outbox.get held).map OutboxRow.payload) →
        update.outboxId.or attempt.outboxId = attempt.outboxId →
        Kept { service with tables := ⟨outbox, updateResult service.tables.attempts deliveryId
          update⟩ } := by
      intro payloads link
      refine kept.rewrite rfl (DeliverySound.rewrites_of_revise payloads ?_) kept.carried
      intro held present
      rw [tried] at present
      cases present
      exact link
    cases effect with
    | untouched link => exact inPlace (fun _ => rfl) link
    | rewritten held change _ payload link =>
      exact inPlace (DeliverySound.payloads_revise _ held payload) link
    | queued unnamed fresh =>
      refine kept.change (kept.linked.requeue tried unnamed fresh unused rfl) rfl ?_ ?_ kept.carried
      · intro tested untried
        have different : deliveryId ≠ tested := Ne.symm (Dict.ne_of_absent untried tried)
        exact (Dict.get_revise_ne _ _ different).trans untried
      · intro held row stored
        exact ⟨row, (Dict.get_set_ne _ _ (Dict.ne_of_absent unused stored)).trans stored, rfl⟩

/-- What a drain records of its send keeps the links. -/
theorem Kept.drained {service : Service} (kept : Kept service) {passId : DeliveryRuns.PassId}
    {pass after : DeliveryRuns.Pass} {outboxId : OutboxId} {frame : EndpointOutbox.Frame}
    {outcome : DeliveryRuns.SendOutcome} {limits : RetryLimits} {now : Instant}
    (found : service.passes.get passId = some pass)
    (busy : pass.sending = some (outboxId, frame)) (ended : after.sending = none) :
    Kept { service with
           tables := DeliveryRuns.recordDrain service.tables outboxId frame outcome limits now
           passes := service.passes.set passId after } := by
  obtain ⟨row, stored, carries⟩ := kept.carried passId outboxId frame
    (by rw [sendingIn, found, Option.bind_some, busy])
  obtain ⟨attempt, tried, link⟩ := kept.linked.owned outboxId row stored
  rw [carries] at tried
  have links : ∀ update : ResultUpdate, update.outboxId = some outboxId → ∀ held,
      service.tables.attempts.get frame.deliveryId = some held →
      update.outboxId.or held.outboxId = held.outboxId := by
    intro update names held present
    rw [tried] at present
    cases present
    rw [names, link, Option.some_or]
  have fewer : ∀ tested other sent,
      sendingIn (service.passes.set passId after) tested = some (other, sent) →
      ∃ row, service.tables.outbox.get other = some row ∧ row.payload = sent := by
    intro tested other sent sending
    rw [DeliveryRuns.sendingIn_set] at sending
    split at sending
    · rw [ended] at sending
      cases sending
    · exact kept.carried tested other sent sending
  refine kept.rewrite rfl ?_ fewer
  rw [DeliveryRuns.recordDrain]
  split
  · exact DeliverySound.rewrites_of_revise
      (DeliverySound.payloads_revise _ outboxId markedSent_payload) (links _ rfl)
  · exact DeliverySound.rewrites_of_revise
      (DeliverySound.payloads_revise _ outboxId fun row => rescheduled_payload row _ _ _)
      (links _ rfl)

/-- A drain that goes on keeps the links. -/
theorem Kept.proceed {service : Service} (kept : Kept service) {passId : DeliveryRuns.PassId}
    {pass : DeliveryRuns.Pass} (idle : pass.sending = none) :
    Kept (service.proceed passId pass) := by
  rcases DeliveryRuns.proceed_spec service passId pass with
    ⟨_, same⟩ | ⟨outboxId, rest, _, _, same⟩ | ⟨outboxId, rest, row, _, stored, same⟩
  · rw [same]
    refine ⟨kept.linked, kept.awaited, fun tested other frame busy => ?_⟩
    rw [DeliveryRuns.sendingIn_pop] at busy
    split at busy
    · cases busy
    · exact kept.carried tested other frame busy
  · rw [same]
    refine ⟨kept.linked, kept.awaited, fun tested other frame busy => ?_⟩
    rw [DeliveryRuns.sendingIn_set] at busy
    split at busy
    · rw [idle] at busy
      cases busy
    · exact kept.carried tested other frame busy
  · rw [same]
    refine kept.rewrite rfl ⟨fun tested => ?_, fun _ => rfl⟩ fun tested other frame busy => ?_
    · dsimp only
      rw [Dict.get_set]
      split
      · next own => rw [← own, stored]; rfl
      · rfl
    · dsimp only at busy
      rw [DeliveryRuns.sendingIn_set] at busy
      split at busy
      · cases busy
        exact ⟨row, stored, rfl⟩
      · exact kept.carried tested other frame busy

/-- Every step of the delivery service keeps the links. -/
theorem service_kept {byDue : OrderBy (dueKey rank)} {service next : Service}
    {action : DeliveryRuns.Action} (kept : Kept service)
    (taken : DeliveryRuns.step byDue service action = some next) : Kept next := by
  cases action with
  | setTransport present =>
    cases taken
    exact ⟨kept.linked, kept.awaited, kept.carried⟩
  | deliver delivery outboxId now =>
    obtain ⟨untried, idle, unused, ⟨_, rfl⟩ | ⟨_, rfl⟩⟩ := DeliveryRuns.deliver_spec taken
    · refine ⟨kept.linked, fun deliveryId awaited found => ?_, kept.carried⟩
      rcases Dict.get_of_set found with ⟨same, rfl⟩ | ⟨_, waits⟩
      · exact ⟨same, same ▸ untried⟩
      · exact kept.awaited deliveryId awaited waits
    · refine kept.record untried unused fun deliveryId awaited waits => ?_
      exact ⟨Dict.ne_of_absent idle waits, waits⟩
  | answer deliveryId sent outboxId now =>
    obtain ⟨delivery, waits, unused, rfl⟩ := DeliveryRuns.answer_spec taken
    obtain ⟨named, untried⟩ := kept.awaited deliveryId delivery waits
    subst named
    exact kept.record untried unused fun tested awaited found => Dict.get_of_pop found
  | abort deliveryId =>
    obtain ⟨delivery, _, rfl⟩ := DeliveryRuns.abort_spec taken
    refine ⟨kept.linked, fun tested awaited found => ?_, kept.carried⟩
    exact kept.awaited tested awaited (Dict.get_of_pop found).2
  | drain passId targetEndpointId limit limits now =>
    obtain ⟨_, rfl | rfl⟩ := DeliveryRuns.drain_spec taken
    · refine ⟨kept.linked, kept.awaited, fun tested other frame busy => ?_⟩
      rw [DeliveryRuns.sendingIn_set] at busy
      split at busy
      · cases busy
      · exact kept.carried tested other frame busy
    · exact kept
  | next passId =>
    obtain ⟨pass, _, idle, rfl⟩ := DeliveryRuns.next_spec taken
    exact kept.proceed idle
  | drained passId outcome now =>
    obtain ⟨pass, outboxId, frame, found, busy, rfl⟩ := DeliveryRuns.drained_spec taken
    exact kept.drained found busy rfl
  | cancel passId =>
    cases taken
    refine ⟨kept.linked, kept.awaited, fun tested other frame busy => ?_⟩
    rw [DeliveryRuns.sendingIn_pop] at busy
    split at busy
    · cases busy
    · exact kept.carried tested other frame busy
  | ack text status error metadata outboxId now =>
    obtain ⟨unused, rfl⟩ := DeliveryRuns.ack_spec taken
    exact kept.ack unused

/-! ## One frame -/

theorem SameAttempt.refl (attempt : DeliveryAttempt) : SameAttempt attempt attempt :=
  ⟨rfl, fun _ _ => rfl⟩

theorem sameAttempt_refl (attempt : Option DeliveryAttempt) :
    Option.Rel SameAttempt attempt attempt := by
  cases attempt with
  | none => exact .none
  | some attempt => exact .some (SameAttempt.refl attempt)

/-- Results that differ in the noted endpoint leave attempts that differ in nothing else. -/
theorem sameAttempt_updateResult (attempts : Attempts) (deliveryId tested : DeliveryId)
    (update : ResultUpdate) {metadata : Fields}
    (agree : ∀ key, key ≠ "endpoint_id" → update.metadata.get key = metadata.get key) :
    Option.Rel SameAttempt ((updateResult attempts deliveryId update).get tested)
      ((updateResult attempts deliveryId { update with metadata := metadata }).get tested) := by
  rw [updateResult, updateResult, Dict.get_revise, Dict.get_revise]
  split
  · cases attempts.get deliveryId with
    | none => exact .none
    | some attempt =>
      refine .some ⟨rfl, fun key other => ?_⟩
      simp only [ResultUpdate.apply, Fields.get_update, agree key other]
  · exact sameAttempt_refl _

/-- What two sockets note of one result agrees but for the endpoint. -/
theorem noted_agree (frame : DeliveryFrame) (first second key : String)
    (other : key ≠ "endpoint_id") :
    (DeliveryRuns.resultMetadata (frame.noted first)).get key =
      (DeliveryRuns.resultMetadata (frame.noted second)).get key := by
  simp only [DeliveryRuns.resultMetadata, DeliveryFrame.noted, Dict.get_set,
    if_neg (Ne.symm other)]

/-- A result has the same effect with metadata that agrees but for the endpoint. -/
theorem handle_same (tables : Tables) (text status : String) (error first second : Fields)
    (outboxId : OutboxId) (now : Instant)
    (agree : ∀ key, key ≠ "endpoint_id" →
      (DeliveryRuns.resultMetadata first).get key = (DeliveryRuns.resultMetadata second).get key) :
    (DeliveryRuns.handleDeliveryResult tables text status error first outboxId now).1.outbox =
        (DeliveryRuns.handleDeliveryResult tables text status error second outboxId now).1.outbox ∧
      ∀ deliveryId, Option.Rel SameAttempt
        ((DeliveryRuns.handleDeliveryResult tables text status error first outboxId
          now).1.attempts.get deliveryId)
        ((DeliveryRuns.handleDeliveryResult tables text status error second outboxId
          now).1.attempts.get deliveryId) := by
  unfold DeliveryRuns.handleDeliveryResult
  cases named : deliveryId? text with
  | none => exact ⟨rfl, fun _ => sameAttempt_refl _⟩
  | some deliveryId =>
    cases tried : tables.attempts.get deliveryId with
    | none =>
      simp only [tried]
      exact ⟨trivial, fun _ => sameAttempt_refl _⟩
    | some attempt =>
      simp only [tried]
      by_cases success : DeliveryRuns.isAckSuccess status = true
      · simp only [if_pos success, DeliveryRuns.acknowledge]
        exact ⟨trivial, fun tested => sameAttempt_updateResult _ deliveryId tested _ agree⟩
      · simp only [if_neg success, DeliveryRuns.reject]
        by_cases queueable : DeliveryRuns.queueableMetadata attempt.metadata = true
        · simp only [if_pos queueable]
          cases attempt.outboxId with
          | none => exact ⟨rfl, fun tested => sameAttempt_updateResult _ deliveryId tested _ agree⟩
          | some held =>
            exact ⟨rfl, fun tested => sameAttempt_updateResult _ deliveryId tested _ agree⟩
        · simp only [if_neg queueable]
          exact ⟨trivial, fun tested => sameAttempt_updateResult _ deliveryId tested _ agree⟩

/-- A record changes one operation at most, that of its call. -/
theorem operations_record (ledger : OperationCalls.Ledger) (callId : CallId)
    (recorded : OperationCalls.Mark) (operationId : OperationCalls.OperationId) :
    (∃ row, ledger.calls.get callId = some row ∧ row.operationId = operationId) ∨
      (recorded.record ledger callId).operations.get operationId =
        ledger.operations.get operationId := by
  obtain ⟨change, same, _⟩ := OperationCalls.record_eq_mark ledger callId recorded
  rw [same, OperationCalls.mark]
  cases stored : ledger.calls.get callId with
  | none => exact Or.inr rfl
  | some row =>
    by_cases own : row.operationId = operationId
    · exact Or.inl ⟨row, rfl, own⟩
    · exact Or.inr (Dict.get_revise_ne _ _ own)

/-- The rows and the attempts after a result. -/
theorem delivery_confined {service : Service} (kept : Kept service) {outboxId : OutboxId}
    (unused : service.tables.outbox.get outboxId = none) (text status : String)
    (error metadata : Fields) (now : Instant) {after : Tables}
    (handled : after = (DeliveryRuns.handleDeliveryResult service.tables text status error
      metadata outboxId now).1) :
    (∀ deliveryId, deliveryId? text = some deliveryId ∨
        after.attempts.get deliveryId = service.tables.attempts.get deliveryId) ∧
      (∀ held row, service.tables.outbox.get held = some row →
        deliveryId? text = some row.payload.deliveryId ∨ after.outbox.get held = some row) ∧
      ∀ held row, service.tables.outbox.get held = none → after.outbox.get held = some row →
        ∃ attempt, deliveryId? text = some row.payload.deliveryId ∧
          service.tables.attempts.get row.payload.deliveryId = some attempt ∧
          row.targetEndpointId = attempt.targetEndpointId ∧ row.payload = attempt.payload := by
  subst handled
  rcases handle_cases service.tables text status error metadata outboxId now with
    same | ⟨deliveryId, attempt, update, outbox, named, tried, effect, same⟩
  · rw [same]
    refine ⟨fun _ => Or.inr rfl, fun held row stored => Or.inr stored, ?_⟩
    intro held row absent present
    rw [absent] at present
    cases present
  · rw [same, named]
    refine ⟨fun tested => ?_, ?_⟩
    · by_cases own : deliveryId = tested
      · exact Or.inl (own ▸ rfl)
      · exact Or.inr (Dict.get_revise_ne _ _ own)
    cases effect with
    | untouched =>
      refine ⟨fun held row stored => Or.inr stored, fun held row absent present => ?_⟩
      rw [absent] at present
      cases present
    | rewritten linked change names _ _ =>
      refine ⟨fun held row stored => ?_, fun held row absent present => ?_⟩
      · by_cases own : linked = held
        · -- The attempt names this row, so the row carries the frame of the delivery.
          subst own
          obtain ⟨found, present, carries⟩ :=
            kept.linked.stored deliveryId attempt linked tried names
          rw [stored] at present
          cases present
          left
          rw [carries, kept.linked.named deliveryId attempt tried]
        · exact Or.inr ((Dict.get_revise_ne _ _ own).trans stored)
      · obtain ⟨_, other, stored, _⟩ | ⟨_, stored⟩ := Dict.get_of_revise present
        · rw [absent] at stored
          cases stored
        · rw [absent] at stored
          cases stored
    | queued unnamed _ =>
      refine ⟨fun held row stored => ?_, fun held row absent present => ?_⟩
      · by_cases own : outboxId = held
        · rw [own, stored] at unused
          cases unused
        · exact Or.inr ((Dict.get_set_ne _ _ own).trans stored)
      · obtain ⟨rfl, rfl⟩ | ⟨_, stored⟩ := Dict.get_of_set present
        · have own : attempt.payload.deliveryId = deliveryId :=
            kept.linked.named deliveryId attempt tried
          exact ⟨attempt, congrArg some own.symm, own.symm ▸ tried, rfl, rfl⟩
        · rw [absent] at stored
          cases stored

variable {byDue : OrderBy (dueKey rank)} {gateway next : Gateway Socket}

omit [DecidableEq Socket] in
theorem SameTables.refl (gateway : Gateway Socket) : SameTables gateway gateway :=
  ⟨rfl, rfl, fun _ => sameAttempt_refl _⟩

/-- What the steps of the gateway keep: the links of both pairs of tables, and that every notice
for a caller comes from a frame with the identifier of its call. -/
structure Trusted (gateway : Gateway Socket) : Prop where
  linked : OperationCalls.Linked gateway.router.ledger
  kept : Kept gateway.service
  heard : ∀ callId notice, (callId, notice) ∈ gateway.router.notices →
    ∃ websocket frame, (websocket, callId, frame) ∈ gateway.received ∧
      ToolDispatch.Frame.notice frame = some notice

omit [DecidableEq Socket] in
theorem start_trusted : Trusted (Gateway.start : Gateway Socket) where
  linked := OperationCalls.start_linked
  kept := start_kept
  heard _ _ member := nomatch member

theorem frame_spec {websocket : Socket} {frame : Frame} {outboxId : OutboxId} {now : Instant}
    (taken : step byDue gateway (.frame websocket frame outboxId now) = some next) :
    handle byDue gateway websocket outboxId now frame = some next := by
  simp only [step] at taken
  split at taken
  case isFalse => cases taken
  case isTrue => exact taken

/-- A frame about a call changes what belongs to this call, from whatever socket it comes. -/
theorem call_confined {websocket : Socket} {callId : String} {frame : ToolDispatch.Frame}
    {outboxId : OutboxId} {now : Instant} (trusted : Trusted gateway)
    (taken : step byDue gateway (.frame websocket (.call callId frame) outboxId now) = some next) :
    Confined byDue gateway (.call callId frame) outboxId now next := by
  obtain ⟨router, stepped, rfl⟩ := Option.map_eq_some_iff.mp (frame_spec taken)
  have anySocket : ∀ other, gateway.connected other = true →
      ∃ after, step byDue gateway (.frame other (.call callId frame) outboxId now) = some after ∧
        SameTables
          { gateway with
            router := router
            received := (websocket, Text.strip callId, frame) :: gateway.received } after := by
    intro other connected
    refine ⟨{ gateway with
              router := router
              received := (other, Text.strip callId, frame) :: gateway.received }, ?_,
      rfl, rfl, fun _ => sameAttempt_refl _⟩
    rw [step, if_pos connected, handle, stepped, Option.map_some]
  rcases ToolDispatch.frame_spec stepped with ⟨_, rfl⟩ | ⟨named, rfl⟩
  · exact
      { calls := fun _ => Or.inr rfl
        operations := fun _ => Or.inr rfl
        callers := rfl
        attempts := fun _ => Or.inr rfl
        rows := fun _ _ stored => Or.inr stored
        queued := fun _ _ absent stored => nomatch absent.symm.trans stored
        anySocket := anySocket }
  · have carried : Frame.callId? (.call callId frame) = some (Text.strip callId) := if_neg named
    refine
      { calls := fun tested => ?_
        operations := fun operationId => ?_
        callers := rfl
        attempts := fun _ => Or.inr rfl
        rows := fun _ _ stored => Or.inr stored
        queued := fun _ _ absent stored => nomatch absent.symm.trans stored
        anySocket := anySocket }
    · by_cases own : Text.strip callId = tested
      · exact Or.inl (own ▸ carried)
      · right
        rw [OperationCalls.get_record, if_neg own]
    · rcases operations_record gateway.router.ledger (Text.strip callId) frame.mark operationId with
        ⟨row, stored, own⟩ | same
      · refine Or.inl ⟨Text.strip callId, row, carried, stored, own, ?_⟩
        intro other otherRow found same
        exact trusted.linked.single other otherRow _ row found stored (same.trans own.symm)
      · exact Or.inr same

/-- A result of a delivery changes what belongs to this delivery, from whatever socket it
comes. -/
theorem report_confined {websocket : Socket} {frame : DeliveryFrame} {outboxId : OutboxId}
    {now : Instant} (trusted : Trusted gateway)
    (taken : step byDue gateway (.frame websocket (.delivery frame) outboxId now) = some next) :
    Confined byDue gateway (.delivery frame) outboxId now next := by
  have handled := frame_spec taken
  rw [handle] at handled
  split at handled
  case isTrue blank =>
    cases handled
    have unnamed : ∀ other, gateway.connected other = true →
        step byDue gateway (.frame other (.delivery frame) outboxId now) = some gateway := by
      intro other connected
      rw [step, if_pos connected, handle, if_pos blank]
    exact
      { calls := fun _ => Or.inr rfl
        operations := fun _ => Or.inr rfl
        callers := rfl
        attempts := fun _ => Or.inr rfl
        rows := fun _ _ stored => Or.inr stored
        queued := fun _ _ absent stored => nomatch absent.symm.trans stored
        anySocket := fun other connected =>
          ⟨gateway, unnamed other connected, SameTables.refl gateway⟩ }
  case isFalse named =>
    obtain ⟨service, stepped, rfl⟩ := Option.map_eq_some_iff.mp handled
    obtain ⟨unused, rfl⟩ := DeliveryRuns.ack_spec stepped
    have elsewhere := fun other => handle_same gateway.service.tables frame.deliveryId
      frame.result frame.error _ _ outboxId now
      (noted_agree frame (gateway.stateOf websocket) (gateway.stateOf other))
    generalize handled : (DeliveryRuns.handleDeliveryResult gateway.service.tables
      frame.deliveryId frame.result frame.error (frame.noted (gateway.stateOf websocket)) outboxId
      now).1 = after at elsewhere ⊢
    obtain ⟨attempts, rows, queued⟩ := delivery_confined trusted.kept unused frame.deliveryId
      frame.result frame.error (frame.noted (gateway.stateOf websocket)) now handled.symm
    refine
      { calls := fun _ => Or.inr rfl
        operations := fun _ => Or.inr rfl
        callers := rfl
        attempts := attempts
        rows := rows
        queued := queued
        anySocket := fun other connected => ?_ }
    obtain ⟨outbox, same⟩ := elsewhere other
    have free : gateway.service.unused outboxId = true := Option.isNone_iff_eq_none.mpr unused
    have answered : step byDue gateway (.frame other (.delivery frame) outboxId now) =
        some { gateway with
               service := { gateway.service with
                 tables := (DeliveryRuns.handleDeliveryResult gateway.service.tables
                   frame.deliveryId frame.result frame.error
                   (frame.noted (gateway.stateOf other)) outboxId now).1 } } := by
      simp only [step, connected, if_true, handle, if_neg named, DeliveryRuns.step, free,
        Option.map_some]
    generalize (DeliveryRuns.handleDeliveryResult gateway.service.tables frame.deliveryId
      frame.result frame.error (frame.noted (gateway.stateOf other)) outboxId now).1 = there
      at outbox same answered
    exact ⟨_, answered, rfl, outbox, same⟩

/-! ## Whole runs -/

theorem router_spec {action : ToolDispatch.Action}
    (taken : step byDue gateway (.router action) = some next) :
    ofRouter action = true ∧ ∃ router, ToolDispatch.step gateway.router action = some router ∧
      next = { gateway with router := router } := by
  simp only [step] at taken
  split at taken
  case isFalse => cases taken
  case isTrue own =>
    obtain ⟨router, stepped, rfl⟩ := Option.map_eq_some_iff.mp taken
    exact ⟨own, router, stepped, rfl⟩

theorem service_spec {action : DeliveryRuns.Action}
    (taken : step byDue gateway (.service action) = some next) :
    ∃ service, DeliveryRuns.step byDue gateway.service action = some service ∧
      next = { gateway with service := service } := by
  simp only [step] at taken
  split at taken
  case isFalse => cases taken
  case isTrue =>
    obtain ⟨service, stepped, rfl⟩ := Option.map_eq_some_iff.mp taken
    exact ⟨service, stepped, rfl⟩

/-- The steps of the dispatching tasks make no notices. -/
theorem notices_of_router {router after : ToolDispatch.Router} {action : ToolDispatch.Action}
    (own : ofRouter action = true)
    (taken : ToolDispatch.step router action = some after) {notice : CallId × ToolDispatch.Notice}
    (member : notice ∈ after.notices) : notice ∈ router.notices := by
  cases action with
  | dispatch callId operationId request metadata =>
    obtain ⟨_, _, _, _, rfl⟩ := ToolDispatch.dispatch_spec taken
    exact member
  | task callId event =>
    obtain ⟨_, _, _, _, _, rfl⟩ := ToolDispatch.task_spec taken
    exact member
  | frame callId frame => cases own
  | settle position =>
    obtain ⟨_, _, _, rfl⟩ := ToolDispatch.settle_spec taken
    exact List.mem_of_mem_eraseIdx member
  | restart =>
    cases taken
    cases member

/-- A frame that is handled keeps what it has to tell the caller. -/
theorem handle_trusted {websocket : Socket} {frame : Frame} {outboxId : OutboxId} {now : Instant}
    (trusted : Trusted gateway)
    (handled : handle byDue gateway websocket outboxId now frame = some next) : Trusted next := by
  cases frame with
  | call callId frame =>
    obtain ⟨router, stepped, rfl⟩ := Option.map_eq_some_iff.mp handled
    refine ⟨ToolOutcome.step_linked trusted.linked stepped, trusted.kept, ?_⟩
    intro tested notice member
    have earlier : (tested, notice) ∈ gateway.router.notices →
        ∃ sender told, (sender, tested, told) ∈
            (websocket, Text.strip callId, frame) :: gateway.received ∧
          ToolDispatch.Frame.notice told = some notice := by
      intro waiting
      obtain ⟨sender, told, received, tells⟩ := trusted.heard tested notice waiting
      exact ⟨sender, told, List.mem_cons_of_mem _ received, tells⟩
    rcases ToolDispatch.frame_spec stepped with ⟨_, rfl⟩ | ⟨_, rfl⟩
    · exact earlier member
    · dsimp only at member
      split at member
      · exact earlier member
      · next fresh tells =>
        rcases List.mem_append.mp member with waiting | last
        · exact earlier waiting
        · cases List.mem_singleton.mp last
          exact ⟨websocket, frame, List.mem_cons_self, tells⟩
  | delivery frame =>
    rw [handle] at handled
    split at handled
    · cases handled
      exact trusted
    · obtain ⟨service, stepped, rfl⟩ := Option.map_eq_some_iff.mp handled
      exact ⟨trusted.linked, service_kept trusted.kept stepped, trusted.heard⟩

theorem step_trusted {action : Action Socket} (trusted : Trusted gateway)
    (taken : step byDue gateway action = some next) : Trusted next := by
  cases action with
  | socket action =>
    obtain ⟨manager, _, rfl⟩ := Option.map_eq_some_iff.mp taken
    exact ⟨trusted.linked, trusted.kept, trusted.heard⟩
  | hello websocket endpointId =>
    simp only [step] at taken
    split at taken
    case isFalse => cases taken
    case isTrue =>
      cases taken
      exact ⟨trusted.linked, trusted.kept, trusted.heard⟩
  | frame websocket frame outboxId now => exact handle_trusted trusted (frame_spec taken)
  | router action =>
    obtain ⟨own, router, stepped, rfl⟩ := router_spec taken
    refine ⟨ToolOutcome.step_linked trusted.linked stepped, trusted.kept, ?_⟩
    exact fun callId notice member =>
      trusted.heard callId notice (notices_of_router own stepped member)
  | service action =>
    obtain ⟨service, stepped, rfl⟩ := service_spec taken
    exact ⟨trusted.linked, service_kept trusted.kept stepped, trusted.heard⟩

/-- A notice that reaches the caller is one a frame made. -/
theorem settle_told {position : Nat} (trusted : Trusted gateway)
    (taken : step byDue gateway (.router (.settle position)) = some next) :
    ToldByFrames gateway next := by
  obtain ⟨_, router, stepped, rfl⟩ := router_spec taken
  obtain ⟨callId, notice, listed, rfl⟩ := ToolDispatch.settle_spec stepped
  intro tested
  by_cases own : callId = tested
  · obtain ⟨websocket, frame, received, tells⟩ :=
      trusted.heard callId notice (List.mem_of_getElem? listed)
    subst own
    exact Or.inr ⟨websocket, frame, notice, received, tells, Dict.get_revise_self _ _ _⟩
  · exact Or.inl (Dict.get_revise_ne _ _ own)

/-- In every run a frame changes the call or the delivery it carries the identifier of with what
belongs to it and nothing else, it has the same effect from every connected socket, and a caller
is told what such a frame has to tell. -/
theorem frames_confined (byDue : OrderBy (dueKey rank)) (actions : List (Action Socket)) :
    Along (step byDue) (ByIdentifier byDue) Gateway.start actions := by
  have always : Along (step byDue) (fun _ _ => True) (Gateway.start : Gateway Socket) actions :=
    along_of_mem (fun _ _ _ => trivial) _
  refine always.imp_of_invariant Trusted ?_ ?_ start_trusted
  · exact fun gateway action next trusted _ taken => step_trusted trusted taken
  · intro gateway action trusted _ next taken
    cases action with
    | socket action => trivial
    | hello websocket endpointId => trivial
    | frame websocket frame outboxId now =>
      cases frame with
      | call callId frame => exact call_confined trusted taken
      | delivery frame => exact report_confined trusted taken
    | router action =>
      cases action with
      | settle position => exact settle_told trusted taken
      | _ => trivial
    | service action => trivial

/-! ## The sender plays no part -/

/-- The socket is bound to the endpoint. -/
def Gateway.bound (gateway : Gateway Socket) (websocket : Socket) (endpointId : String) : Prop :=
  Text.plain endpointId ∈ (gateway.manager.metaOf websocket).boundIds

instance (gateway : Gateway Socket) (websocket : Socket) (endpointId : String) :
    Decidable (gateway.bound websocket endpointId) :=
  inferInstanceAs (Decidable (_ ∈ _))

/-- A call with its operation and its caller, and a delivery with its attempt and its row, change
only by frames from sockets that are bound to the endpoint they were addressed to. -/
def OnlyAddressee (byDue : OrderBy (dueKey rank)) (gateway : Gateway Socket)
    (action : Action Socket) : Prop :=
  ∀ next, step byDue gateway action = some next →
    match action with
    | .frame websocket _ _ _ =>
      (∀ callId dispatch, gateway.router.dispatches.get callId = some dispatch →
        next.router.ledger.calls.get callId ≠ gateway.router.ledger.calls.get callId ∨
          next.router.ledger.operations.get dispatch.operationId ≠
            gateway.router.ledger.operations.get dispatch.operationId →
        gateway.bound websocket dispatch.request.targetId) ∧
      ∀ deliveryId attempt, gateway.service.tables.attempts.get deliveryId = some attempt →
        next.service.tables.attempts.get deliveryId ≠ some attempt ∨
          (∃ outboxId, attempt.outboxId = some outboxId ∧
            next.service.tables.outbox.get outboxId ≠
              gateway.service.tables.outbox.get outboxId) →
        gateway.bound websocket attempt.payload.targetEndpointId
    | .router (.settle _) =>
      ∀ callId dispatch, gateway.router.dispatches.get callId = some dispatch →
        next.router.dispatches.get callId ≠ some dispatch →
        ∃ websocket frame, (websocket, callId, frame) ∈ gateway.received ∧
          gateway.bound websocket dispatch.request.targetId
    | _ => True

end

/-- A call of a tool of the endpoint "pi" waits, while one socket is bound to "desk". -/
def callForPi : List (Action Nat) :=
  [.socket (.connect 1 0),
    .socket (.bindEndpoint 1 "desk" "conn_1" Dict.empty {} 0),
    .router (.dispatch "call_1" 0 { targetId := "pi" } Dict.empty),
    .router (.task "call_1" .register),
    .router (.task "call_1" (.sent true))]

/-- The socket of another endpoint answers the call. -/
theorem desk_answers_for_pi :
    ¬ ∀ actions, Along (step asInserted) (OnlyAddressee asInserted) (Gateway.start : Gateway Nat)
      actions := by
  intro authorised
  have answered := (authorised (callForPi ++
    [.frame 1 (.call "call_1" (.result Dict.empty)) 0 0])).at_action rfl _ rfl
  refine absurd (answered.1 "call_1" _ rfl (Or.inl fun same => ?_)) (by decide +kernel)
  have status := congrArg (Option.map OperationCalls.OperationCall.status) same
  exact absurd status (by decide +kernel)

end MeetYou.FrameSenders
