import MeetYou.DeliveryRuns

/-!
# Retries are bounded and exclusive

A drain lists the rows that are due once and takes them one after the other, each
after the send of the one before. Marking a row counts an attempt but does not
look at its status, so a row of the list may meanwhile be with another drain, or
may have been sent or given up (`overlapping_drains`).

`retries_bounded` shows that a row is handed to the transport five times at most,
and not listed after the fifth, when every row is still due as a drain takes it.
No row has two sends in progress when, besides, no delivery is refused while its
row is being sent, since a refusal makes the row due again.
-/

namespace MeetYou.DeliveryRetries

open EndpointOutbox DeliveryRuns

/-- The drain is sending the row. -/
def Sends (service : Service) (passId : PassId) (outboxId : OutboxId) : Prop :=
  ∃ frame, sendingIn service.passes passId = some (outboxId, frame)

/-- No row has two sends in progress. -/
def Exclusive (service : Service) : Prop :=
  ∀ outboxId first second, Sends service first outboxId → Sends service second outboxId →
    first = second

/-- The action refuses the delivery of the row, which schedules it for a retry. -/
def Refuses (service : Service) (outboxId : OutboxId) : Action → Prop
  | .ack text status _ _ _ _ => isAckSuccess status = false ∧ ∃ deliveryId attempt,
      deliveryId? text = some deliveryId ∧
        service.tables.attempts.get deliveryId = some attempt ∧
        queueableMetadata attempt.metadata = true ∧ attempt.outboxId = some outboxId
  | _ => False

/-- A drain takes a row that is still due. -/
def TakesDue (watched : Watched) : Action → Prop
  | .next passId => ∀ pass outboxId row, watched.service.passes.get passId = some pass →
      pass.rows.head? = some outboxId →
      watched.service.tables.outbox.get outboxId = some row → row.status.due = true
  | _ => True

/-- No delivery is refused while its row is being sent. -/
def RefusesIdle (watched : Watched) (action : Action) : Prop :=
  ∀ outboxId, Refuses watched.service outboxId action →
    ∀ passId, ¬ Sends watched.service passId outboxId

/-- The default of `max_attempts`. -/
def maxAttempts : Nat := 5

/-- A drain allows the default number of attempts. -/
def DefaultAttempts : Action → Prop
  | .drain _ _ _ limits _ => limits.maxAttempts = maxAttempts
  | _ => True

/-- What a step other than the start of a send does to the outbox. -/
inductive Settles (service : Service) (action : Action) (next : Service) : Prop where
  | same (outbox : next.tables.outbox = service.tables.outbox)
  | created (outboxId : OutboxId) (row : OutboxRow)
      (unused : service.tables.outbox.get outboxId = none)
      (outbox : next.tables.outbox = service.tables.outbox.set outboxId row)
      (untried : row.attemptCount = 0)
  | marked (outboxId : OutboxId)
      (outbox : next.tables.outbox = markSent service.tables.outbox outboxId)
  | drained (passId : PassId) (outboxId : OutboxId) (pass : Pass) (error : Json) (now : Instant)
      (found : service.passes.get passId = some pass) (sends : Sends service passId outboxId)
      (idle : sendingIn next.passes passId = none)
      (outbox : next.tables.outbox =
        rescheduleFailure service.tables.outbox outboxId error pass.limits now)
  | refused (outboxId : OutboxId) (error : Json) (now : Instant)
      (refuses : Refuses service outboxId action)
      (outbox : next.tables.outbox =
        rescheduleFailure service.tables.outbox outboxId error {} now)

/-- The drain starts to send the row. -/
structure Starts (service : Service) (action : Action) (next : Service) (passId : PassId)
    (outboxId : OutboxId) (row : OutboxRow) : Prop where
  taken : ∃ pass, action = .next passId ∧ service.passes.get passId = some pass ∧
    pass.rows.head? = some outboxId
  stored : service.tables.outbox.get outboxId = some row
  outbox : next.tables.outbox = service.tables.outbox.set outboxId row.inflight
  sending : ∀ tested, sendingIn next.passes tested =
    if passId = tested then some (outboxId, row.payload) else sendingIn service.passes tested

/-- What `recordDelivery` does to the outbox. -/
theorem record_settles {service next : Service} {action : Action} {delivery : Delivery}
    {sent : Bool} {outboxId : OutboxId} {now : Instant}
    (unused : service.tables.outbox.get outboxId = none)
    (tables : next.tables = recordDelivery service.tables delivery sent outboxId now) :
    Settles service action next := by
  by_cases queued : delivery.queued sent = true
  · refine .created outboxId (delivery.row now) unused ?_ rfl
    rw [tables, recordDelivery]
    exact if_pos queued
  · refine .same ?_
    rw [tables, recordDelivery]
    exact if_neg queued

/-- What an acknowledgement does to the outbox. -/
theorem ack_settles {service next : Service} {text status : String} {error metadata : Fields}
    {outboxId : OutboxId} {now : Instant} (unused : service.tables.outbox.get outboxId = none)
    (tables : next.tables =
      (handleDeliveryResult service.tables text status error metadata outboxId now).1) :
    Settles service (.ack text status error metadata outboxId now) next := by
  rw [handleDeliveryResult] at tables
  split at tables
  case h_1 => exact .same (by rw [tables])
  case h_2 deliveryId named =>
    split at tables
    case h_1 => exact .same (by rw [tables])
    case h_2 attempt tried =>
      cases success : isAckSuccess status with
      | true =>
        rw [if_pos success, acknowledge] at tables
        cases link : attempt.outboxId with
        | none => exact .same (by rw [tables, link])
        | some held => exact .marked held (by rw [tables, link])
      | false =>
        rw [if_neg (by simp [success]), reject] at tables
        by_cases queueable : queueableMetadata attempt.metadata = true
        · rw [if_pos queueable] at tables
          cases link : attempt.outboxId with
          | none =>
            rw [link] at tables
            exact .created outboxId (requeuedRow attempt now) unused (by rw [tables]) rfl
          | some held =>
            rw [link] at tables
            exact .refused held ((ackError status error).getOr "message" (.str "")) now
              ⟨success, deliveryId, attempt, named, tried, queueable, link⟩ (by rw [tables])
        · rw [if_neg queueable] at tables
          exact .same (by rw [tables])

/-- A drain that is set to send nothing sends nothing; the others send what they did. -/
theorem sending_of_set {passes : Dict PassId Pass} {passId tested : PassId} {pass : Pass}
    {sending : OutboxId × Frame}
    (busy : sendingIn (passes.set passId pass) tested = some sending)
    (idle : pass.sending = none) :
    sendingIn passes tested = some sending := by
  rw [sendingIn_set] at busy
  split at busy
  · rw [idle] at busy
    cases busy
  · exact busy

theorem sending_of_pop {passes : Dict PassId Pass} {passId tested : PassId}
    {sending : OutboxId × Frame} (busy : sendingIn (passes.pop passId) tested = some sending) :
    sendingIn passes tested = some sending := by
  rw [sendingIn_pop] at busy
  split at busy
  · cases busy
  · exact busy

/-- A drain rewritten with its limits leaves the limits of all drains. -/
theorem limits_of_set {passes : Dict PassId Pass} {changed passId : PassId} {held after pass : Pass}
    (before : passes.get changed = some held)
    (found : (passes.set changed after).get passId = some pass)
    (same : held.limits = after.limits) :
    ∃ held, passes.get passId = some held ∧ held.limits = pass.limits := by
  rcases Dict.get_of_set found with ⟨rfl, rfl⟩ | ⟨_, present⟩
  · exact ⟨held, before, same⟩
  · exact ⟨pass, present, rfl⟩

section
variable {κ : Type} [LinearOrder κ] {rank : Option Instant → κ} {byDue : OrderBy (dueKey rank)}

/-- A step starts one send, or starts none and settles rows. -/
theorem step_effect {service next : Service} {action : Action}
    (taken : step byDue service action = some next) :
    (∃ passId outboxId row, Starts service action next passId outboxId row ∧
        handedBy service action = some outboxId) ∨
      (Settles service action next ∧ handedBy service action = none ∧
        ∀ passId sending, sendingIn next.passes passId = some sending →
          sendingIn service.passes passId = some sending) := by
  cases action with
  | setTransport present =>
    cases taken
    exact Or.inr ⟨.same rfl, rfl, fun _ _ busy => busy⟩
  | deliver delivery outboxId now =>
    obtain ⟨_, _, unused, ⟨_, rfl⟩ | ⟨_, rfl⟩⟩ := deliver_spec taken
    · exact Or.inr ⟨.same rfl, rfl, fun _ _ busy => busy⟩
    · exact Or.inr ⟨record_settles unused rfl, rfl, fun _ _ busy => busy⟩
  | answer deliveryId sent outboxId now =>
    obtain ⟨delivery, _, unused, rfl⟩ := answer_spec taken
    exact Or.inr ⟨record_settles unused rfl, rfl, fun _ _ busy => busy⟩
  | abort deliveryId =>
    obtain ⟨delivery, _, rfl⟩ := abort_spec taken
    exact Or.inr ⟨.same rfl, rfl, fun _ _ busy => busy⟩
  | drain passId targetEndpointId limit limits now =>
    obtain ⟨_, rfl | rfl⟩ := drain_spec taken
    · exact Or.inr ⟨.same rfl, rfl, fun _ _ busy => sending_of_set busy rfl⟩
    · exact Or.inr ⟨.same rfl, rfl, fun _ _ busy => busy⟩
  | next passId =>
    obtain ⟨pass, found, idle, rfl⟩ := next_spec taken
    rcases proceed_spec service passId pass with ⟨none, same⟩ |
      ⟨outboxId, rest, listed, absent, same⟩ | ⟨outboxId, rest, row, listed, stored, same⟩
    · rw [same]
      refine Or.inr ⟨.same rfl, ?_, fun _ _ busy => sending_of_pop busy⟩
      simp [handedBy, found, none]
    · rw [same]
      refine Or.inr ⟨.same rfl, ?_, fun _ _ busy => sending_of_set busy idle⟩
      simp [handedBy, found, listed, absent]
    · rw [same]
      refine Or.inl ⟨passId, outboxId, row, ⟨⟨pass, rfl, found, ?_⟩, stored, rfl, ?_⟩, ?_⟩
      · rw [listed, List.head?_cons]
      · exact fun tested => sendingIn_set _ _ _ _
      · simp [handedBy, found, listed, stored]
  | drained passId outcome now =>
    obtain ⟨pass, outboxId, frame, found, busy, rfl⟩ := drained_spec taken
    have sends : sendingIn service.passes passId = some (outboxId, frame) := by
      rw [sendingIn, found, Option.bind_some, busy]
    refine Or.inr ⟨?_, rfl, fun _ _ still => sending_of_set still rfl⟩
    cases result : outcome.isSent with
    | true =>
      refine .marked outboxId ?_
      rw [recordDrain, if_pos result]
    | false =>
      refine .drained passId outboxId pass (outcome.error.getOr "message" (.str "")) now found
        ⟨frame, sends⟩ ?_ ?_
      · rw [sendingIn_set, if_pos rfl]
      · rw [recordDrain, if_neg (by simp [result])]
  | cancel passId =>
    cases taken
    exact Or.inr ⟨.same rfl, rfl, fun _ _ busy => sending_of_pop busy⟩
  | ack text status error metadata outboxId now =>
    obtain ⟨unused, rfl⟩ := ack_spec taken
    exact Or.inr ⟨ack_settles unused rfl, rfl, fun _ _ busy => busy⟩

/-- Every drain keeps its limits from its start. -/
theorem step_limits {service next : Service} {action : Action}
    (taken : step byDue service action = some next) {passId : PassId} {pass : Pass}
    (found : next.passes.get passId = some pass) :
    (∃ held, service.passes.get passId = some held ∧ held.limits = pass.limits) ∨
      ∃ targetEndpointId limit now, action = .drain passId targetEndpointId limit pass.limits now := by
  cases action with
  | setTransport present =>
    cases taken
    exact Or.inl ⟨pass, found, rfl⟩
  | deliver delivery outboxId now =>
    obtain ⟨_, _, _, ⟨_, rfl⟩ | ⟨_, rfl⟩⟩ := deliver_spec taken <;> exact Or.inl ⟨pass, found, rfl⟩
  | answer deliveryId sent outboxId now =>
    obtain ⟨delivery, _, _, rfl⟩ := answer_spec taken
    exact Or.inl ⟨pass, found, rfl⟩
  | abort deliveryId =>
    obtain ⟨delivery, _, rfl⟩ := abort_spec taken
    exact Or.inl ⟨pass, found, rfl⟩
  | drain started targetEndpointId limit limits now =>
    obtain ⟨_, rfl | rfl⟩ := drain_spec taken
    · rcases Dict.get_of_set found with ⟨rfl, rfl⟩ | ⟨_, present⟩
      · exact Or.inr ⟨targetEndpointId, limit, now, rfl⟩
      · exact Or.inl ⟨pass, present, rfl⟩
    · exact Or.inl ⟨pass, found, rfl⟩
  | next advanced =>
    obtain ⟨held, before, _, rfl⟩ := next_spec taken
    rcases proceed_spec service advanced held with ⟨_, same⟩ | ⟨_, _, _, _, same⟩ |
      ⟨_, _, _, _, _, same⟩
    · rw [same] at found
      exact Or.inl ⟨pass, (Dict.get_of_pop found).2, rfl⟩
    · rw [same] at found
      exact Or.inl (limits_of_set before found rfl)
    · rw [same] at found
      exact Or.inl (limits_of_set before found rfl)
  | drained ended outcome now =>
    obtain ⟨held, _, _, before, _, rfl⟩ := drained_spec taken
    exact Or.inl (limits_of_set before found rfl)
  | cancel cancelled =>
    cases taken
    exact Or.inl ⟨pass, (Dict.get_of_pop found).2, rfl⟩
  | ack text status error metadata outboxId now =>
    obtain ⟨_, rfl⟩ := ack_spec taken
    exact Or.inl ⟨pass, found, rfl⟩

end

/-- The row has been tried as often as its status allows: five times at most, and
less often while it is due. -/
def Allowed (row : OutboxRow) : Prop :=
  row.attemptCount ≤ maxAttempts ∧ (row.status.due = true → row.attemptCount < maxAttempts)

/-- The attempts of every row are counted and allowed, and every drain under way
allows the default number. -/
structure Counted (watched : Watched) : Prop where
  counts : ∀ outboxId, watched.handed.count outboxId =
    ((watched.service.tables.outbox.get outboxId).map OutboxRow.attemptCount).getD 0
  allowed : ∀ outboxId row, watched.service.tables.outbox.get outboxId = some row → Allowed row
  defaults : ∀ passId pass, watched.service.passes.get passId = some pass →
    pass.limits.maxAttempts = maxAttempts

theorem start_counted : Counted Watched.start where
  counts := by intro _; rfl
  allowed := by intro _ _ found; cases found
  defaults := by intro _ _ found; cases found

theorem allowed_markedSent {row : OutboxRow} (allowed : Allowed row) : Allowed row.markedSent :=
  ⟨allowed.1, fun due => by cases due⟩

/-- With the default number of attempts a rescheduled row is due only below it. -/
theorem allowed_rescheduled {row : OutboxRow} (allowed : Allowed row) (error : Json)
    {limits : RetryLimits} (default : limits.maxAttempts = maxAttempts) (now : Instant) :
    Allowed (row.rescheduled error limits now) := by
  refine ⟨by rw [rescheduled_attemptCount]; exact allowed.1, fun due => ?_⟩
  rw [rescheduled_due, Bool.not_eq_true', OutboxRow.exhausted, decide_eq_false_iff_not, default]
    at due
  have least : atLeastOne (maxAttempts : Int) 1 = maxAttempts := by decide
  rw [least] at due
  rw [rescheduled_attemptCount]
  omega

/-- Rewriting a row in place keeps the counts, if it keeps the number of attempts and
what is allowed. -/
theorem counted_revise {watched : Watched} (counted : Counted watched) {outbox : Outbox}
    {outboxId : OutboxId} {change : OutboxRow → OutboxRow}
    (same : outbox = watched.service.tables.outbox.revise outboxId change)
    (attempts : ∀ row, (change row).attemptCount = row.attemptCount)
    (allowed : ∀ row, Allowed row → Allowed (change row)) :
    (∀ tested, watched.handed.count tested =
        ((outbox.get tested).map OutboxRow.attemptCount).getD 0) ∧
      ∀ tested row, outbox.get tested = some row → Allowed row := by
  subst same
  constructor
  · intro tested
    rw [counted.counts tested, Dict.get_revise]
    split
    · next own =>
      subst own
      rw [Option.map_map]
      exact congrArg (fun count => ((watched.service.tables.outbox.get outboxId).map count).getD 0)
        (funext fun row => (attempts row).symm)
    · rfl
  · intro tested row found
    rcases Dict.get_of_revise found with ⟨_, held, present, changed⟩ | ⟨_, present⟩
    · exact changed ▸ allowed held (counted.allowed tested held present)
    · exact counted.allowed tested row present

/-- A step that settles rows keeps counts and attempts. -/
theorem settles_counted {watched : Watched} (counted : Counted watched) {next : Service}
    {action : Action} (settles : Settles watched.service action next) :
    (∀ tested, watched.handed.count tested =
        ((next.tables.outbox.get tested).map OutboxRow.attemptCount).getD 0) ∧
      ∀ tested row, next.tables.outbox.get tested = some row → Allowed row := by
  cases settles with
  | same outbox =>
    rw [outbox]
    exact ⟨counted.counts, counted.allowed⟩
  | created outboxId row unused outbox untried =>
    rw [outbox]
    constructor
    · intro tested
      rw [counted.counts tested, Dict.get_set]
      split
      · next own => rw [← own, unused, Option.map_some, untried]; rfl
      · rfl
    · intro tested held found
      rcases Dict.get_of_set found with ⟨_, rfl⟩ | ⟨_, present⟩
      · rw [Allowed, untried]
        exact ⟨by decide, fun _ => by decide⟩
      · exact counted.allowed tested held present
  | marked outboxId outbox =>
    exact counted_revise counted outbox markedSent_attemptCount fun _ => allowed_markedSent
  | drained passId outboxId pass error now found sends idle outbox =>
    exact counted_revise counted outbox (fun row => rescheduled_attemptCount row _ _ _)
      fun _ allowed => allowed_rescheduled allowed error (counted.defaults passId pass found) now
  | refused outboxId error now refuses outbox =>
    exact counted_revise counted outbox (fun row => rescheduled_attemptCount row _ _ _)
      fun _ allowed => allowed_rescheduled allowed error rfl now

/-- A drain that takes a row still due hands it out once more, and five times at
most. -/
theorem starts_counted {watched : Watched} (counted : Counted watched) {next : Service}
    {action : Action} {passId : PassId} {outboxId : OutboxId} {row : OutboxRow}
    (starts : Starts watched.service action next passId outboxId row)
    (due : row.status.due = true) :
    (∀ tested, (outboxId :: watched.handed).count tested =
        ((next.tables.outbox.get tested).map OutboxRow.attemptCount).getD 0) ∧
      ∀ tested row, next.tables.outbox.get tested = some row → Allowed row := by
  rw [starts.outbox]
  constructor
  · intro tested
    rw [List.count_cons, counted.counts tested, Dict.get_set]
    by_cases own : outboxId = tested
    · subst own
      simp [starts.stored, OutboxRow.inflight]
    · simp [own]
  · intro tested held found
    rcases Dict.get_of_set found with ⟨_, rfl⟩ | ⟨_, present⟩
    · have below := (counted.allowed outboxId row starts.stored).2 due
      exact ⟨below, fun due => by cases due⟩
    · exact counted.allowed tested held present

section
variable {κ : Type} [LinearOrder κ] {rank : Option Instant → κ} {byDue : OrderBy (dueKey rank)}

/-- A row that a drain starts to send under the condition is due. -/
theorem due_of_starts {watched : Watched} {action : Action} {next : Service} {passId : PassId}
    {outboxId : OutboxId} {row : OutboxRow} (takesDue : TakesDue watched action)
    (starts : Starts watched.service action next passId outboxId row) : row.status.due = true := by
  obtain ⟨pass, rfl, found, first⟩ := starts.taken
  exact takesDue pass outboxId row found first starts.stored

/-- Every step keeps the counts, if drains take rows that are due. -/
theorem step_counted {watched next : Watched} {action : Action} (counted : Counted watched)
    (takesDue : TakesDue watched action) (default : DefaultAttempts action)
    (taken : watch byDue watched action = some next) : Counted next := by
  obtain ⟨after, stepped, rfl⟩ := Option.map_eq_some_iff.mp taken
  have defaults : ∀ passId pass, after.passes.get passId = some pass →
      pass.limits.maxAttempts = maxAttempts := by
    intro passId pass found
    rcases step_limits stepped found with ⟨held, before, same⟩ | ⟨_, _, _, rfl⟩
    · exact same ▸ counted.defaults passId held before
    · exact default
  rcases step_effect stepped with ⟨passId, outboxId, row, starts, handed⟩ | ⟨settles, none, _⟩
  · obtain ⟨counts, allowed⟩ := starts_counted counted starts (due_of_starts takesDue starts)
    refine ⟨fun tested => ?_, allowed, defaults⟩
    dsimp only
    rw [handed]
    exact counts tested
  · obtain ⟨counts, allowed⟩ := settles_counted counted settles
    refine ⟨fun tested => ?_, allowed, defaults⟩
    dsimp only
    rw [none]
    exact counts tested

/-- A row that is being sent is being sent by one drain and is not due. -/
structure Apart (service : Service) : Prop where
  exclusive : Exclusive service
  notDue : ∀ passId outboxId, Sends service passId outboxId →
    ∃ row, service.tables.outbox.get outboxId = some row ∧ row.status.due = false

theorem start_apart : Apart Watched.start.service where
  exclusive := by rintro _ _ _ ⟨_, busy⟩; cases busy
  notDue := by rintro _ _ ⟨_, busy⟩; cases busy

/-- A row that no drain sends may change in any way. -/
theorem notDue_revise {service next : Service} (apart : Apart service) {outboxId : OutboxId}
    {change : OutboxRow → OutboxRow}
    (fewer : ∀ passId sending, sendingIn next.passes passId = some sending →
      sendingIn service.passes passId = some sending)
    (outbox : next.tables.outbox = service.tables.outbox.revise outboxId change)
    (unsent : (∀ row, (change row).status.due = false) ∨
      ∀ passId, ¬ Sends next passId outboxId) :
    ∀ passId tested, Sends next passId tested →
      ∃ row, next.tables.outbox.get tested = some row ∧ row.status.due = false := by
  rintro passId tested ⟨frame, busy⟩
  obtain ⟨row, stored, notDue⟩ := apart.notDue passId tested ⟨frame, fewer passId _ busy⟩
  rw [outbox, Dict.get_revise]
  by_cases own : outboxId = tested
  · subst own
    rcases unsent with never | idle
    · exact ⟨change row, by rw [if_pos rfl, stored, Option.map_some], never row⟩
    · exact absurd ⟨frame, busy⟩ (idle passId)
  · exact ⟨row, by rw [if_neg own, stored], notDue⟩

/-- A step that settles rows leaves every row that is being sent not due. -/
theorem settles_apart {service next : Service} {action : Action} (apart : Apart service)
    (idle : ∀ outboxId, Refuses service outboxId action → ∀ passId, ¬ Sends service passId outboxId)
    (fewer : ∀ passId sending, sendingIn next.passes passId = some sending →
      sendingIn service.passes passId = some sending)
    (settles : Settles service action next) : Apart next := by
  have before : ∀ passId outboxId, Sends next passId outboxId → Sends service passId outboxId :=
    fun passId _ ⟨frame, busy⟩ => ⟨frame, fewer passId _ busy⟩
  refine ⟨fun outboxId first second firstSends secondSends => ?_, ?_⟩
  · exact apart.exclusive outboxId first second (before first outboxId firstSends)
      (before second outboxId secondSends)
  · cases settles with
    | same outbox =>
      intro passId outboxId sends
      rw [outbox]
      exact apart.notDue passId outboxId (before passId outboxId sends)
    | created created row unused outbox untried =>
      intro passId outboxId sends
      obtain ⟨held, stored, notDue⟩ := apart.notDue passId outboxId (before passId outboxId sends)
      have different : created ≠ outboxId := Dict.ne_of_absent unused stored
      exact ⟨held, by rw [outbox, Dict.get_set_ne _ _ different, stored], notDue⟩
    | marked outboxId outbox =>
      exact notDue_revise apart fewer outbox (Or.inl fun _ => rfl)
    | drained ended outboxId pass error now found sends stopped outbox =>
      refine notDue_revise apart fewer outbox (Or.inr fun passId still => ?_)
      have own := apart.exclusive outboxId passId ended (before passId outboxId still) sends
      obtain ⟨frame, busy⟩ := still
      rw [own, stopped] at busy
      cases busy
    | refused outboxId error now refuses outbox =>
      refine notDue_revise apart fewer outbox (Or.inr fun passId still => ?_)
      exact idle outboxId refuses passId (before passId outboxId still)

/-- A drain that takes a row still due is the only one to send it. -/
theorem starts_apart {service next : Service} {action : Action} (apart : Apart service)
    {passId : PassId} {outboxId : OutboxId} {row : OutboxRow}
    (starts : Starts service action next passId outboxId row) (due : row.status.due = true) :
    Apart next := by
  have cases_of : ∀ tested other, Sends next tested other →
      passId = tested ∧ outboxId = other ∨ passId ≠ tested ∧ Sends service tested other := by
    rintro tested other ⟨frame, busy⟩
    rw [starts.sending] at busy
    split at busy
    · next own =>
      cases busy
      exact Or.inl ⟨own, rfl⟩
    · next different => exact Or.inr ⟨different, frame, busy⟩
  have unsent : ∀ tested, ¬ Sends service tested outboxId := by
    intro tested sends
    obtain ⟨held, stored, notDue⟩ := apart.notDue tested outboxId sends
    rw [starts.stored] at stored
    cases stored
    rw [due] at notDue
    cases notDue
  refine ⟨fun other first second firstSends secondSends => ?_, fun tested other sends => ?_⟩
  · rcases cases_of first other firstSends with ⟨isFirst, rfl⟩ | ⟨_, firstBefore⟩
    · rcases cases_of second outboxId secondSends with ⟨isSecond, _⟩ | ⟨_, secondBefore⟩
      · exact isFirst.symm.trans isSecond
      · exact absurd secondBefore (unsent second)
    · rcases cases_of second other secondSends with ⟨_, rfl⟩ | ⟨_, secondBefore⟩
      · exact absurd firstBefore (unsent first)
      · exact apart.exclusive other first second firstBefore secondBefore
  · rw [starts.outbox]
    rcases cases_of tested other sends with ⟨_, rfl⟩ | ⟨_, earlier⟩
    · exact ⟨row.inflight, Dict.get_set_self _ _ _, rfl⟩
    · obtain ⟨held, stored, notDue⟩ := apart.notDue tested other earlier
      have different : outboxId ≠ other := by
        rintro rfl
        exact unsent tested earlier
      exact ⟨held, by rw [Dict.get_set_ne _ _ different, stored], notDue⟩

/-- Every step keeps sends apart, if drains take rows that are due and no delivery is
refused while its row is being sent. -/
theorem step_apart {watched next : Watched} {action : Action} (apart : Apart watched.service)
    (takesDue : TakesDue watched action) (idle : RefusesIdle watched action)
    (taken : watch byDue watched action = some next) : Apart next.service := by
  obtain ⟨after, stepped, rfl⟩ := Option.map_eq_some_iff.mp taken
  rcases step_effect stepped with ⟨passId, outboxId, row, starts, _⟩ | ⟨settles, _, fewer⟩
  · exact starts_apart apart starts (due_of_starts takesDue starts)
  · exact settles_apart apart idle fewer settles

/-- Every row was handed to the transport five times at most, and one that was handed
out five times is not listed. -/
def Bounded (byDue : OrderBy (dueKey rank)) (watched : Watched) : Prop :=
  ∀ outboxId, watched.handed.count outboxId ≤ maxAttempts ∧
    (watched.handed.count outboxId = maxAttempts → ∀ targetEndpointId limit now,
      outboxId ∉ listDue byDue watched.service.tables.outbox targetEndpointId limit now)

/-- Counted attempts are bounded attempts. -/
theorem Counted.bounded {watched : Watched} (counted : Counted watched) : Bounded byDue watched := by
  intro outboxId
  rw [counted.counts outboxId]
  cases stored : watched.service.tables.outbox.get outboxId with
  | none => exact ⟨by decide, fun often => absurd often (by decide)⟩
  | some row =>
    obtain ⟨atMost, whileDue⟩ := counted.allowed outboxId row stored
    refine ⟨atMost, fun often targetEndpointId limit now listed => ?_⟩
    obtain ⟨held, present, due⟩ := due_of_listed listed
    rw [stored] at present
    cases present
    have below := whileDue due
    rw [Option.map_some, Option.getD_some] at often
    omega

/-- In every run with the default number of attempts in which each drain takes rows
that are still due, every row is handed out five times at most before it is no
longer listed; and no row has two sends in progress if, besides, no delivery is
refused while its row is being sent. -/
theorem retries_bounded {actions : List Action} {watched : Watched}
    (defaults : ∀ action ∈ actions, DefaultAttempts action)
    (takesDue : Runs.Along (watch byDue) TakesDue Watched.start actions)
    (completed : Runs.run (watch byDue) Watched.start actions = some watched) :
    Bounded byDue watched ∧
      (Runs.Along (watch byDue) RefusesIdle Watched.start actions → Exclusive watched.service) := by
  constructor
  · have conditions := takesDue.and (Runs.along_of_mem (fun _ => defaults) Watched.start)
    have counted : Counted watched := by
      refine Runs.run_preserves ?_ start_counted conditions completed
      intro before action next holds condition taken
      exact step_counted holds condition.1 condition.2 taken
    exact counted.bounded
  · intro refusesIdle
    have apart : Apart watched.service := by
      refine @Runs.run_preserves _ _ _ _ (fun watched => Apart watched.service) ?_ _ _ _ start_apart
        (takesDue.and refusesIdle) completed
      intro before action next holds condition taken
      exact step_apart holds condition.1 condition.2 taken
    exact apart.exclusive

end

/-- A notice whose first drain is refused while a second one finds nothing to do, and
that a third drain sends. -/
def drainedNotice : List Action :=
  [.deliver (notice firstId) 1 0, .answer firstId false 1 0, .drain 1 1 50 {} 0, .next 1,
    .drain 2 1 50 {} 0, .drained 1 .refused 0, .next 2, .drain 3 1 50 {} (seconds 10), .next 3,
    .drained 3 .sent (seconds 10), .ack "delivery_1" "failed" Dict.empty Dict.empty 2 (seconds 20)]

theorem drainedNotice_takesDue :
    Runs.Along (watch asInserted) TakesDue Watched.start drainedNotice := by
  refine Runs.along_cons trivial rfl ?_
  refine Runs.along_cons trivial rfl ?_
  refine Runs.along_cons trivial rfl ?_
  refine Runs.along_cons ?_ rfl ?_
  · intro pass outboxId row found first stored
    cases found
    cases first
    cases stored
    rfl
  refine Runs.along_cons trivial rfl ?_
  refine Runs.along_cons trivial rfl ?_
  refine Runs.along_cons ?_ rfl ?_
  · intro pass outboxId row found first stored
    cases found
    cases first
  refine Runs.along_cons trivial rfl ?_
  refine Runs.along_cons ?_ rfl ?_
  · intro pass outboxId row found first stored
    cases found
    cases first
    cases stored
    rfl
  refine Runs.along_cons trivial rfl ?_
  exact Runs.along_cons trivial rfl trivial

theorem drainedNotice_refusesIdle :
    Runs.Along (watch asInserted) RefusesIdle Watched.start drainedNotice := by
  iterate 10 refine Runs.along_cons (fun _ refuses => refuses.elim) rfl ?_
  refine Runs.along_cons ?_ rfl trivial
  rintro outboxId _ passId ⟨frame, busy⟩
  rw [sendingIn_none rfl] at busy
  cases busy

theorem drainedNotice_bounded : ∃ watched,
    Runs.run (watch asInserted) Watched.start drainedNotice = some watched ∧
      Bounded asInserted watched ∧ Exclusive watched.service := by
  have defaults : ∀ action ∈ drainedNotice, DefaultAttempts action := by
    simp [drainedNotice, DefaultAttempts, maxAttempts]
  have bounded := retries_bounded defaults drainedNotice_takesDue rfl
  exact ⟨_, rfl, bounded.1, bounded.2 drainedNotice_refusesIdle⟩

/-- Two drains list the second of two rows while it is due, and both send it. -/
theorem overlapping_drains : ∃ watched,
    Runs.run (watch asInserted) Watched.start
      [.deliver (notice firstId) 1 0, .answer firstId false 1 0,
        .deliver (notice secondId) 2 0, .answer secondId false 2 0,
        .drain 1 1 50 {} 0, .next 1, .drain 2 1 50 {} 0, .next 2, .drained 1 .sent 0, .next 1] =
        some watched ∧ ¬ Exclusive watched.service := by
  refine ⟨_, rfl, fun exclusive => ?_⟩
  have same := exclusive 2 1 2 ⟨_, rfl⟩ ⟨_, rfl⟩
  cases same

end MeetYou.DeliveryRetries
