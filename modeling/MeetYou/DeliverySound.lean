import MeetYou.DeliveryRuns

/-!
# Rows, attempts and drains in agreement

The rows of the outbox and the attempts of the deliveries name each other, one
row for a delivery at most. A row marked as being sent is being sent by a drain;
a row marked as sent belongs to a delivery whose last outcome was a success, and
so does an attempt of a queueable delivery without a row.

Each operation of the service keeps this agreement, most of them because they
rewrite one row and its attempt in place (`Sound.settle`).
-/

namespace MeetYou.DeliverySound

open EndpointOutbox DeliveryRuns

/-- Rows and attempts name each other, one row for a delivery at most. -/
structure Linked (tables : Tables) : Prop where
  named : ∀ deliveryId attempt, tables.attempts.get deliveryId = some attempt →
    attempt.payload.deliveryId = deliveryId
  stored : ∀ deliveryId attempt outboxId, tables.attempts.get deliveryId = some attempt →
    attempt.outboxId = some outboxId →
    ∃ row, tables.outbox.get outboxId = some row ∧ row.payload = attempt.payload
  owned : ∀ outboxId row, tables.outbox.get outboxId = some row →
    ∃ attempt, tables.attempts.get row.payload.deliveryId = some attempt ∧
      attempt.outboxId = some outboxId

/-- The same rows and attempts, with their frames and the links between them. -/
structure Rewrites (before after : Tables) : Prop where
  rows : ∀ outboxId, (after.outbox.get outboxId).map OutboxRow.payload =
    (before.outbox.get outboxId).map OutboxRow.payload
  attempts : ∀ deliveryId, (after.attempts.get deliveryId).map (fun attempt =>
      (attempt.payload, attempt.outboxId)) =
    (before.attempts.get deliveryId).map fun attempt => (attempt.payload, attempt.outboxId)

/-- A row after a rewrite was there before, with the same frame. -/
theorem Rewrites.row {before after : Tables} (rewrites : Rewrites before after)
    {outboxId : OutboxId} {row : OutboxRow} (found : after.outbox.get outboxId = some row) :
    ∃ held, before.outbox.get outboxId = some held ∧ held.payload = row.payload := by
  have same := rewrites.rows outboxId
  rw [found] at same
  obtain ⟨held, present, payload⟩ := Option.map_eq_some_iff.mp same.symm
  exact ⟨held, present, payload⟩

theorem Rewrites.row_after {before after : Tables} (rewrites : Rewrites before after)
    {outboxId : OutboxId} {row : OutboxRow} (found : before.outbox.get outboxId = some row) :
    ∃ held, after.outbox.get outboxId = some held ∧ held.payload = row.payload := by
  have same := rewrites.rows outboxId
  rw [found] at same
  obtain ⟨held, present, payload⟩ := Option.map_eq_some_iff.mp same
  exact ⟨held, present, payload⟩

theorem Rewrites.attempt {before after : Tables} (rewrites : Rewrites before after)
    {deliveryId : DeliveryId} {attempt : DeliveryAttempt}
    (found : after.attempts.get deliveryId = some attempt) :
    ∃ held, before.attempts.get deliveryId = some held ∧ held.payload = attempt.payload ∧
      held.outboxId = attempt.outboxId := by
  have same := rewrites.attempts deliveryId
  rw [found] at same
  obtain ⟨held, present, pair⟩ := Option.map_eq_some_iff.mp same.symm
  exact ⟨held, present, congrArg Prod.fst pair, congrArg Prod.snd pair⟩

theorem Rewrites.attempt_after {before after : Tables} (rewrites : Rewrites before after)
    {deliveryId : DeliveryId} {attempt : DeliveryAttempt}
    (found : before.attempts.get deliveryId = some attempt) :
    ∃ held, after.attempts.get deliveryId = some held ∧ held.payload = attempt.payload ∧
      held.outboxId = attempt.outboxId := by
  have same := rewrites.attempts deliveryId
  rw [found] at same
  obtain ⟨held, present, pair⟩ := Option.map_eq_some_iff.mp same
  exact ⟨held, present, congrArg Prod.fst pair, congrArg Prod.snd pair⟩

theorem Linked.rewrite {before after : Tables} (linked : Linked before)
    (rewrites : Rewrites before after) : Linked after := by
  constructor
  · intro deliveryId attempt found
    obtain ⟨held, present, payload, _⟩ := rewrites.attempt found
    exact payload ▸ linked.named deliveryId held present
  · intro deliveryId attempt outboxId found names
    obtain ⟨held, present, payload, link⟩ := rewrites.attempt found
    obtain ⟨row, stored, carries⟩ := linked.stored deliveryId held outboxId present (link.trans names)
    obtain ⟨after, storedAfter, same⟩ := rewrites.row_after stored
    exact ⟨after, storedAfter, same.trans (carries.trans payload)⟩
  · intro outboxId row found
    obtain ⟨held, present, payload⟩ := rewrites.row found
    obtain ⟨attempt, tried, link⟩ := linked.owned outboxId held present
    obtain ⟨after, triedAfter, _, same⟩ := rewrites.attempt_after tried
    exact ⟨after, payload ▸ triedAfter, same.trans link⟩

/-- Rewriting rows and attempts in place, frames and links kept. -/
theorem rewrites_of_revise {tables : Tables} {outbox : Outbox} {deliveryId : DeliveryId}
    {update : ResultUpdate}
    (rows : ∀ outboxId, (outbox.get outboxId).map OutboxRow.payload =
      (tables.outbox.get outboxId).map OutboxRow.payload)
    (links : ∀ attempt, tables.attempts.get deliveryId = some attempt →
      update.outboxId.or attempt.outboxId = attempt.outboxId) :
    Rewrites tables ⟨outbox, updateResult tables.attempts deliveryId update⟩ := by
  refine ⟨rows, fun tested => ?_⟩
  simp only [updateResult, Dict.get_revise]
  split
  · next same =>
    subst same
    cases found : tables.attempts.get deliveryId with
    | none => rfl
    | some attempt =>
      simp only [Option.map_some, ResultUpdate.apply, links attempt found]
  · rfl

/-- Rewriting a row in place keeps the frames of all rows. -/
theorem payloads_revise (outbox : Outbox) (outboxId : OutboxId) {change : OutboxRow → OutboxRow}
    (kept : ∀ row, (change row).payload = row.payload) (tested : OutboxId) :
    ((outbox.revise outboxId change).get tested).map OutboxRow.payload =
      (outbox.get tested).map OutboxRow.payload := by
  rw [Dict.get_revise]
  split
  · next same =>
    subst same
    rw [Option.map_map]
    exact congrArg (fun function => (outbox.get outboxId).map function) (funext kept)
  · rfl

/-- What every reachable state of an undisturbed run satisfies. -/
structure Sound (watched : Watched) : Prop where
  linked : Linked watched.service.tables
  named : ∀ deliveryId delivery, watched.made.get deliveryId = some delivery →
    delivery.frame.deliveryId = deliveryId
  awaited : ∀ deliveryId delivery, watched.service.deliveries.get deliveryId = some delivery →
    watched.made.get deliveryId = some delivery ∧
      watched.service.tables.attempts.get deliveryId = none
  recorded : ∀ deliveryId delivery, watched.made.get deliveryId = some delivery →
    queueablePolicy delivery.offlinePolicy = true →
    (∃ awaited, watched.service.deliveries.get deliveryId = some awaited) ∨
      ∃ attempt, watched.service.tables.attempts.get deliveryId = some attempt
  attempted : ∀ deliveryId attempt delivery,
    watched.service.tables.attempts.get deliveryId = some attempt →
    watched.made.get deliveryId = some delivery →
    attempt.payload = delivery.frame ∧
      (queueablePolicy delivery.offlinePolicy = true → queueableMetadata attempt.metadata = true ∧
        (attempt.outboxId = none → watched.outcomes.get deliveryId = some true))
  queues : ∀ deliveryId attempt outboxId,
    watched.service.tables.attempts.get deliveryId = some attempt →
    attempt.outboxId = some outboxId → queueableMetadata attempt.metadata = true
  carried : ∀ passId outboxId frame,
    sendingIn watched.service.passes passId = some (outboxId, frame) →
    ∃ row, watched.service.tables.outbox.get outboxId = some row ∧ row.payload = frame
  sending : ∀ outboxId row, watched.service.tables.outbox.get outboxId = some row →
    row.status = .sending →
    ∃ passId, sendingIn watched.service.passes passId = some (outboxId, row.payload)
  sent : ∀ outboxId row, watched.service.tables.outbox.get outboxId = some row →
    row.status = .sent → watched.outcomes.get row.payload.deliveryId = some true

theorem start_linked : Linked DeliveryRuns.start.tables where
  named := by intro _ _ found; cases found
  stored := by intro _ _ _ found; cases found
  owned := by intro _ _ found; cases found

theorem start_sound : Sound Watched.start where
  linked := start_linked
  named := by intro _ _ found; cases found
  awaited := by intro _ _ found; cases found
  recorded := by intro _ _ found; cases found
  attempted := by intro _ _ _ found; cases found
  queues := by intro _ _ _ found; cases found
  carried := by intro _ _ _ found; cases found
  sending := by intro _ _ found; cases found
  sent := by intro _ _ found; cases found

/-- No two rows carry the frame of one delivery. -/
theorem Linked.single {tables : Tables} (linked : Linked tables) {first second : OutboxId}
    {firstRow secondRow : OutboxRow} (firstStored : tables.outbox.get first = some firstRow)
    (secondStored : tables.outbox.get second = some secondRow)
    (same : firstRow.payload.deliveryId = secondRow.payload.deliveryId) : first = second := by
  obtain ⟨attempt, tried, link⟩ := linked.owned first firstRow firstStored
  obtain ⟨other, otherTried, otherLink⟩ := linked.owned second secondRow secondStored
  rw [same, otherTried] at tried
  cases tried
  exact Option.some.inj (link.symm.trans otherLink)

/-- A delivery without an attempt has no row. -/
theorem Linked.ne_of_untried {tables : Tables} (linked : Linked tables) {deliveryId : DeliveryId}
    (untried : tables.attempts.get deliveryId = none) {outboxId : OutboxId} {row : OutboxRow}
    (stored : tables.outbox.get outboxId = some row) : deliveryId ≠ row.payload.deliveryId := by
  rintro rfl
  obtain ⟨attempt, tried, _⟩ := linked.owned outboxId row stored
  rw [untried] at tried
  cases tried

/-- A delivery whose attempt names no row has none. -/
theorem Linked.ne_of_unlinked {tables : Tables} (linked : Linked tables) {deliveryId : DeliveryId}
    {attempt : DeliveryAttempt} (tried : tables.attempts.get deliveryId = some attempt)
    (unlinked : attempt.outboxId = none) {outboxId : OutboxId} {row : OutboxRow}
    (stored : tables.outbox.get outboxId = some row) : deliveryId ≠ row.payload.deliveryId := by
  rintro rfl
  obtain ⟨held, present, names⟩ := linked.owned outboxId row stored
  rw [tried] at present
  cases present
  rw [unlinked] at names
  cases names

/-- An attempt after an update is the updated one, or an untouched one. -/
theorem attempt_of_update {attempts : Attempts} {deliveryId tested : DeliveryId}
    {update : ResultUpdate} {attempt after : DeliveryAttempt}
    (tried : attempts.get deliveryId = some attempt)
    (found : (updateResult attempts deliveryId update).get tested = some after) :
    deliveryId = tested ∧ after = update.apply attempt ∨
      deliveryId ≠ tested ∧ attempts.get tested = some after := by
  rcases Dict.get_of_revise found with ⟨same, held, present, applied⟩ | other
  · rw [← same, tried] at present
    cases present
    exact Or.inl ⟨same, applied.symm⟩
  · exact Or.inr other

/-- A step that rewrites rows and attempts keeps a state sound if it keeps what
attempts promise and backs what rows say. -/
theorem Sound.rewrite {before after : Watched} (sound : Sound before)
    (made : after.made = before.made)
    (deliveries : after.service.deliveries = before.service.deliveries)
    (rewrites : Rewrites before.service.tables after.service.tables)
    (keeps : ∀ deliveryId attempt delivery,
      after.service.tables.attempts.get deliveryId = some attempt →
      before.made.get deliveryId = some delivery → queueablePolicy delivery.offlinePolicy = true →
      queueableMetadata attempt.metadata = true ∧
        (attempt.outboxId = none → after.outcomes.get deliveryId = some true))
    (queues : ∀ deliveryId attempt outboxId,
      after.service.tables.attempts.get deliveryId = some attempt →
      attempt.outboxId = some outboxId → queueableMetadata attempt.metadata = true)
    (carried : ∀ passId outboxId frame,
      sendingIn after.service.passes passId = some (outboxId, frame) →
      ∃ row, before.service.tables.outbox.get outboxId = some row ∧ row.payload = frame)
    (sending : ∀ outboxId row, after.service.tables.outbox.get outboxId = some row →
      row.status = .sending →
      ∃ passId, sendingIn after.service.passes passId = some (outboxId, row.payload))
    (sent : ∀ outboxId row, after.service.tables.outbox.get outboxId = some row →
      row.status = .sent → after.outcomes.get row.payload.deliveryId = some true) :
    Sound after := by
  constructor
  · exact sound.linked.rewrite rewrites
  · rw [made]
    exact sound.named
  · intro deliveryId delivery found
    rw [deliveries] at found
    obtain ⟨known, untried⟩ := sound.awaited deliveryId delivery found
    refine ⟨made ▸ known, ?_⟩
    by_contra tried
    obtain ⟨attempt, present⟩ := Option.ne_none_iff_exists'.mp tried
    obtain ⟨held, before, _⟩ := rewrites.attempt present
    rw [untried] at before
    cases before
  · intro deliveryId delivery known queueable
    rw [made] at known
    rw [deliveries]
    rcases sound.recorded deliveryId delivery known queueable with awaited | ⟨attempt, tried⟩
    · exact Or.inl awaited
    · obtain ⟨held, present, _⟩ := rewrites.attempt_after tried
      exact Or.inr ⟨held, present⟩
  · intro deliveryId attempt delivery tried known
    rw [made] at known
    obtain ⟨held, present, payload, _⟩ := rewrites.attempt tried
    exact ⟨payload.symm.trans (sound.attempted deliveryId held delivery present known).1,
      keeps deliveryId attempt delivery tried known⟩
  · exact queues
  · intro passId outboxId frame busy
    obtain ⟨row, stored, carries⟩ := carried passId outboxId frame busy
    obtain ⟨held, present, same⟩ := rewrites.row_after stored
    exact ⟨held, present, same.trans carries⟩
  · exact sending
  · exact sent

/-- What drains send may be looked up in another dictionary that agrees on it. -/
theorem Sound.samePasses {watched : Watched} (sound : Sound watched) {passes : Dict PassId Pass}
    {outcomes : Dict DeliveryId Bool} {transport : Bool} {handed : List OutboxId}
    (same : ∀ passId, sendingIn passes passId = sendingIn watched.service.passes passId)
    (sameOutcomes : outcomes = watched.outcomes) :
    Sound { watched with
            service := { watched.service with passes := passes, transport := transport }
            outcomes := outcomes, handed := handed } := by
  subst sameOutcomes
  refine ⟨sound.linked, sound.named, sound.awaited, sound.recorded, sound.attempted, sound.queues,
    ?_, ?_, sound.sent⟩
  · intro passId outboxId frame busy
    exact sound.carried passId outboxId frame ((same passId).symm.trans busy)
  · intro outboxId row stored status
    obtain ⟨passId, busy⟩ := sound.sending outboxId row stored status
    exact ⟨passId, (same passId).trans busy⟩

/-- A delivery whose policy is queueable leaves that policy in its attempt. -/
theorem queueable_of_delivery {delivery : Delivery}
    (queueable : queueablePolicy delivery.offlinePolicy = true) :
    queueableMetadata delivery.metadata = true := by
  have named : delivery.offlinePolicy ≠ "" := by
    intro blank
    rw [blank] at queueable
    exact absurd queueable (by decide)
  have stored : delivery.metadata.get "offline_policy" = some (.str delivery.offlinePolicy) := rfl
  rw [queueableMetadata, Fields.getOr, stored]
  simp only [Json.truthy, named, ne_eq, not_false_iff, decide_true, if_true]
  exact queueable

/-- Recording a new delivery keeps rows and attempts linked. -/
theorem Linked.recordDelivery {tables : Tables} (linked : Linked tables) {delivery : Delivery}
    {outboxId : OutboxId} (untried : tables.attempts.get delivery.frame.deliveryId = none)
    (unused : tables.outbox.get outboxId = none) (sent : Bool) (now : Instant) :
    Linked (recordDelivery tables delivery sent outboxId now) := by
  have other : ∀ tested row, tables.outbox.get tested = some row →
      outboxId ≠ tested ∧ delivery.frame.deliveryId ≠ row.payload.deliveryId := by
    intro tested row stored
    exact ⟨Dict.ne_of_absent unused stored, linked.ne_of_untried untried stored⟩
  have kept : ∀ tested row, tables.outbox.get tested = some row →
      (DeliveryRuns.recordDelivery tables delivery sent outboxId now).outbox.get tested =
        some row := by
    intro tested row stored
    rw [DeliveryRuns.recordDelivery]
    dsimp only
    split
    · rw [Dict.get_set_ne _ _ (other tested row stored).1, stored]
    · exact stored
  constructor
  · intro deliveryId attempt tried
    rw [DeliveryRuns.recordDelivery, Dict.get_set] at tried
    split at tried
    · next same =>
      cases tried
      exact same
    · exact linked.named deliveryId attempt tried
  · intro deliveryId attempt held tried link
    rw [DeliveryRuns.recordDelivery, Dict.get_set] at tried
    split at tried
    · cases tried
      rw [Delivery.attempt] at link
      by_cases queued : delivery.queued sent = true
      · rw [if_pos queued] at link
        cases link
        refine ⟨delivery.row now, ?_, rfl⟩
        rw [DeliveryRuns.recordDelivery]
        dsimp only
        rw [if_pos queued, Dict.get_set_self]
      · rw [if_neg queued] at link
        cases link
    · obtain ⟨row, stored, carries⟩ := linked.stored deliveryId attempt held tried link
      exact ⟨row, kept held row stored, carries⟩
  · intro tested row found
    rw [DeliveryRuns.recordDelivery] at found ⊢
    dsimp only at found ⊢
    split at found
    · next queued =>
      rw [Dict.get_set] at found
      split at found
      · next same =>
        cases found
        refine ⟨delivery.attempt sent outboxId, Dict.get_set_self _ _ _, ?_⟩
        rw [Delivery.attempt, if_pos queued, same]
      · rw [Dict.get_set_ne _ _ (other tested row found).2]
        exact linked.owned tested row found
    · rw [Dict.get_set_ne _ _ (other tested row found).2]
      exact linked.owned tested row found

/-- The rows of other deliveries outlast the record of a new one. -/
theorem get_recordDelivery {tables : Tables} {delivery : Delivery} {outboxId tested : OutboxId}
    {sent : Bool} {now : Instant} (different : outboxId ≠ tested) :
    (recordDelivery tables delivery sent outboxId now).outbox.get tested =
      tables.outbox.get tested := by
  rw [recordDelivery]
  dsimp only
  split
  · exact Dict.get_set_ne _ _ different
  · rfl

/-- Every row after the record of a delivery is an earlier one, or new and pending. -/
theorem row_of_recordDelivery {tables : Tables} {delivery : Delivery} {outboxId tested : OutboxId}
    {sent : Bool} {now : Instant} {row : OutboxRow}
    (found : (recordDelivery tables delivery sent outboxId now).outbox.get tested = some row) :
    tables.outbox.get tested = some row ∨ row.status = .pending := by
  rw [recordDelivery] at found
  dsimp only at found
  split at found
  · rw [Dict.get_set] at found
    split at found
    · cases found
      exact Or.inr rfl
    · exact Or.inl found
  · exact Or.inl found

/-- A delivery that records its outcome keeps a state sound. -/
theorem Sound.record {watched : Watched} (sound : Sound watched) {delivery : Delivery}
    {made : Dict DeliveryId Delivery} {deliveries : Dict DeliveryId Delivery} {outboxId : OutboxId}
    {sent : Bool} {now : Instant} {handed : List OutboxId}
    (own : made.get delivery.frame.deliveryId = some delivery)
    (others : ∀ tested, delivery.frame.deliveryId ≠ tested →
      made.get tested = watched.made.get tested ∧
        deliveries.get tested = watched.service.deliveries.get tested)
    (ended : deliveries.get delivery.frame.deliveryId = none)
    (untried : watched.service.tables.attempts.get delivery.frame.deliveryId = none)
    (unused : watched.service.tables.outbox.get outboxId = none) :
    Sound
      { service := { watched.service with
          tables := recordDelivery watched.service.tables delivery sent outboxId now
          deliveries := deliveries }
        made := made
        outcomes := watched.outcomes.set delivery.frame.deliveryId sent
        handed := handed } := by
  have older : ∀ tested row, watched.service.tables.outbox.get tested = some row →
      delivery.frame.deliveryId ≠ row.payload.deliveryId :=
    fun tested row stored => sound.linked.ne_of_untried untried stored
  constructor
  · exact sound.linked.recordDelivery untried unused sent now
  · intro deliveryId known found
    by_cases same : delivery.frame.deliveryId = deliveryId
    · subst same
      rw [own] at found
      cases found
      rfl
    · rw [(others deliveryId same).1] at found
      exact sound.named deliveryId known found
  · intro deliveryId awaited found
    by_cases same : delivery.frame.deliveryId = deliveryId
    · subst same
      rw [ended] at found
      cases found
    · rw [(others deliveryId same).2] at found
      obtain ⟨known, none⟩ := sound.awaited deliveryId awaited found
      refine ⟨(others deliveryId same).1.trans known, ?_⟩
      rw [recordDelivery, Dict.get_set_ne _ _ same, none]
  · intro deliveryId known found queueable
    by_cases same : delivery.frame.deliveryId = deliveryId
    · subst same
      exact Or.inr ⟨_, Dict.get_set_self _ _ _⟩
    · rw [(others deliveryId same).1] at found
      rcases sound.recorded deliveryId known found queueable with
        ⟨awaited, waits⟩ | ⟨attempt, tried⟩
      · exact Or.inl ⟨awaited, (others deliveryId same).2.trans waits⟩
      · exact Or.inr ⟨attempt, by rw [recordDelivery, Dict.get_set_ne _ _ same, tried]⟩
  · intro deliveryId attempt known tried found
    by_cases same : delivery.frame.deliveryId = deliveryId
    · subst same
      rw [own] at found
      cases found
      rw [recordDelivery, Dict.get_set_self] at tried
      cases tried
      refine ⟨rfl, fun queueable => ⟨queueable_of_delivery queueable, fun unlinked => ?_⟩⟩
      rw [Dict.get_set_self]
      -- Not queued although the policy is queueable: the frame was sent.
      cases sent with
      | true => rfl
      | false => simp [Delivery.attempt, Delivery.queued, queueable] at unlinked
    · rw [(others deliveryId same).1] at found
      rw [recordDelivery, Dict.get_set_ne _ _ same] at tried
      dsimp only
      rw [Dict.get_set_ne _ _ same]
      exact sound.attempted deliveryId attempt known tried found
  · intro deliveryId attempt held tried link
    rw [recordDelivery, Dict.get_set] at tried
    split at tried
    · cases tried
      cases sent with
      | true => simp [Delivery.attempt, Delivery.queued] at link
      | false =>
        by_cases queueable : queueablePolicy delivery.offlinePolicy = true
        · exact queueable_of_delivery queueable
        · simp [Delivery.attempt, Delivery.queued, queueable] at link
    · exact sound.queues deliveryId attempt held tried link
  · intro passId tested frame busy
    obtain ⟨row, stored, carries⟩ := sound.carried passId tested frame busy
    exact ⟨row, (get_recordDelivery (Dict.ne_of_absent unused stored)).trans stored, carries⟩
  · intro tested row found status
    rcases row_of_recordDelivery found with stored | pending
    · exact sound.sending tested row stored status
    · rw [pending] at status
      cases status
  · intro tested row found status
    rcases row_of_recordDelivery found with stored | pending
    · rw [Dict.get_set_ne _ _ (older tested row stored)]
      exact sound.sent tested row stored status
    · rw [pending] at status
      cases status

/-- A delivery that starts to wait for its send keeps a state sound. -/
theorem Sound.await {watched : Watched} (sound : Sound watched) {delivery : Delivery}
    {handed : List OutboxId}
    (untried : watched.service.tables.attempts.get delivery.frame.deliveryId = none) :
    Sound
      { watched with
        service := { watched.service with
          deliveries := watched.service.deliveries.set delivery.frame.deliveryId delivery }
        made := watched.made.set delivery.frame.deliveryId delivery
        handed := handed } := by
  refine ⟨sound.linked, ?_, ?_, ?_, ?_, sound.queues, sound.carried, sound.sending, sound.sent⟩
  · intro deliveryId known found
    rw [Dict.get_set] at found
    split at found
    · next same =>
      cases found
      exact same
    · exact sound.named deliveryId known found
  · intro deliveryId awaited found
    rw [Dict.get_set] at found ⊢
    split at found
    · next same =>
      cases found
      exact ⟨if_pos same, same ▸ untried⟩
    · next different =>
      rw [if_neg different]
      exact sound.awaited deliveryId awaited found
  · intro deliveryId known found queueable
    rw [Dict.get_set] at found ⊢
    split at found
    · next same => exact Or.inl ⟨delivery, if_pos same⟩
    · next different =>
      rw [if_neg different]
      exact sound.recorded deliveryId known found queueable
  · intro deliveryId attempt known tried found
    rw [Dict.get_set] at found
    split at found
    · next same =>
      rw [same] at untried
      rw [untried] at tried
      cases tried
    · exact sound.attempted deliveryId attempt known tried found

/-- A delivery whose policy is not queueable may be aborted. -/
theorem Sound.abort {watched : Watched} (sound : Sound watched) {deliveryId : DeliveryId}
    {delivery : Delivery} {handed : List OutboxId}
    (waits : watched.service.deliveries.get deliveryId = some delivery)
    (dispensable : queueablePolicy delivery.offlinePolicy = false) :
    Sound
      { watched with
        service := { watched.service with deliveries := watched.service.deliveries.pop deliveryId }
        outcomes := watched.outcomes.set deliveryId false
        handed := handed } := by
  obtain ⟨known, untried⟩ := sound.awaited deliveryId delivery waits
  refine ⟨sound.linked, sound.named, ?_, ?_, ?_, sound.queues, sound.carried, sound.sending, ?_⟩
  · intro tested awaited found
    exact sound.awaited tested awaited (Dict.get_of_pop found).2
  · intro tested other found queueable
    rcases sound.recorded tested other found queueable with ⟨awaited, waiting⟩ | tried
    · refine Or.inl ⟨awaited, ?_⟩
      have different : deliveryId ≠ tested := by
        rintro rfl
        rw [known] at found
        cases found
        rw [dispensable] at queueable
        cases queueable
      exact (Dict.get_pop_ne _ different).trans waiting
    · exact Or.inr tried
  · intro tested attempt other tried found
    dsimp only
    rw [Dict.get_set_ne _ _ (Dict.ne_of_absent untried tried)]
    exact sound.attempted tested attempt other tried found
  · intro outboxId row stored status
    rw [Dict.get_set_ne _ _ (sound.linked.ne_of_untried untried stored)]
    exact sound.sent outboxId row stored status

/-- Rewriting the row of a delivery and its attempt together keeps a state sound, if
the row is no longer being sent afterwards and is marked as sent only on a success. -/
theorem Sound.settle {watched : Watched} (sound : Sound watched) {deliveryId : DeliveryId}
    {outboxId : OutboxId} {row : OutboxRow} {change : OutboxRow → OutboxRow}
    {update : ResultUpdate} {passes : Dict PassId Pass} {success : Bool} {handed : List OutboxId}
    (stored : watched.service.tables.outbox.get outboxId = some row)
    (own : row.payload.deliveryId = deliveryId)
    (payload : ∀ row, (change row).payload = row.payload)
    (ended : ∀ row, (change row).status ≠ .sending)
    (succeeded : ∀ row, (change row).status = .sent → success = true)
    (link : update.outboxId = none ∨ update.outboxId = some outboxId)
    (metadata : ∀ attempt, watched.service.tables.attempts.get deliveryId = some attempt →
      queueableMetadata attempt.metadata = true →
      queueableMetadata (attempt.metadata.update update.metadata) = true)
    (fewer : ∀ passId sending, sendingIn passes passId = some sending →
      sendingIn watched.service.passes passId = some sending)
    (others : ∀ passId tested frame, outboxId ≠ tested →
      sendingIn watched.service.passes passId = some (tested, frame) →
      sendingIn passes passId = some (tested, frame)) :
    Sound
      { watched with
        service := { watched.service with
          tables :=
            { outbox := watched.service.tables.outbox.revise outboxId change
              attempts := updateResult watched.service.tables.attempts deliveryId update }
          passes := passes }
        outcomes := watched.outcomes.set deliveryId success
        handed := handed } := by
  obtain ⟨attempt, tried, linked⟩ := sound.linked.owned outboxId row stored
  rw [own] at tried
  have keepsLink : update.outboxId.or attempt.outboxId = attempt.outboxId := by
    rcases link with absent | same
    · rw [absent, Option.none_or]
    · rw [same, linked, Option.some_or]
  have queueable : queueableMetadata (update.apply attempt).metadata = true :=
    metadata attempt tried (sound.queues deliveryId attempt outboxId tried linked)
  refine sound.rewrite rfl rfl ?_ ?_ ?_ ?_ ?_ ?_
  · refine rewrites_of_revise (payloads_revise _ outboxId payload) ?_
    intro held present
    rw [tried] at present
    cases present
    exact keepsLink
  · intro tested after delivery found known policy
    rcases attempt_of_update tried found with ⟨_, rfl⟩ | ⟨different, present⟩
    · refine ⟨queueable, fun unlinked => ?_⟩
      rw [ResultUpdate.apply, keepsLink, linked] at unlinked
      cases unlinked
    · dsimp only
      rw [Dict.get_set_ne _ _ different]
      exact (sound.attempted tested after delivery present known).2 policy
  · intro tested after held found names
    rcases attempt_of_update tried found with ⟨_, rfl⟩ | ⟨_, present⟩
    · exact queueable
    · exact sound.queues tested after held present names
  · intro passId tested frame busy
    exact sound.carried passId tested frame (fewer passId _ busy)
  · intro tested after found status
    rcases Dict.get_of_revise found with ⟨_, held, _, changed⟩ | ⟨different, present⟩
    · exact absurd status (changed ▸ ended held)
    · obtain ⟨passId, busy⟩ := sound.sending tested after present status
      exact ⟨passId, others passId tested after.payload different busy⟩
  · intro tested after found status
    rcases Dict.get_of_revise found with ⟨same, held, present, changed⟩ | ⟨different, present⟩
    · rw [← same, stored] at present
      cases present
      subst changed
      have success := succeeded row status
      rw [payload, own, Dict.get_set_self, success]
    · have apart : deliveryId ≠ after.payload.deliveryId := fun same =>
        different (sound.linked.single stored present (own.trans same))
      dsimp only
      rw [Dict.get_set_ne _ _ apart]
      exact sound.sent tested after present status

/-- An attempt without a row takes a result: a success, or one that its policy does
not let queue. -/
theorem Sound.note {watched : Watched} (sound : Sound watched) {deliveryId : DeliveryId}
    {attempt : DeliveryAttempt} {update : ResultUpdate} {success : Bool} {handed : List OutboxId}
    (tried : watched.service.tables.attempts.get deliveryId = some attempt)
    (unlinked : attempt.outboxId = none) (link : update.outboxId = none)
    (metadata : queueableMetadata attempt.metadata = true →
      queueableMetadata (attempt.metadata.update update.metadata) = true)
    (accounted : queueableMetadata attempt.metadata = true → success = true) :
    Sound
      { watched with
        service := { watched.service with
          tables := { watched.service.tables with
            attempts := updateResult watched.service.tables.attempts deliveryId update } }
        outcomes := watched.outcomes.set deliveryId success
        handed := handed } := by
  refine sound.rewrite rfl rfl ?_ ?_ ?_ sound.carried sound.sending ?_
  · refine rewrites_of_revise (fun _ => rfl) fun held present => ?_
    rw [link, Option.none_or]
  · intro tested after delivery found known policy
    rcases attempt_of_update tried found with ⟨rfl, rfl⟩ | ⟨different, present⟩
    · have before := (sound.attempted deliveryId attempt delivery tried known).2 policy
      refine ⟨metadata before.1, fun _ => ?_⟩
      dsimp only
      rw [Dict.get_set_self, accounted before.1]
    · dsimp only
      rw [Dict.get_set_ne _ _ different]
      exact (sound.attempted tested after delivery present known).2 policy
  · intro tested after held found names
    rcases attempt_of_update tried found with ⟨_, rfl⟩ | ⟨_, present⟩
    · rw [ResultUpdate.apply, link, unlinked] at names
      cases names
    · exact sound.queues tested after held present names
  · intro outboxId row stored status
    dsimp only
    rw [Dict.get_set_ne _ _ (sound.linked.ne_of_unlinked tried unlinked stored)]
    exact sound.sent outboxId row stored status

/-- A new row for an attempt without one keeps rows and attempts linked. -/
theorem Linked.requeue {tables : Tables} (linked : Linked tables) {deliveryId : DeliveryId}
    {attempt : DeliveryAttempt} {update : ResultUpdate} {outboxId : OutboxId} {row : OutboxRow}
    (tried : tables.attempts.get deliveryId = some attempt) (unlinked : attempt.outboxId = none)
    (link : update.outboxId = some outboxId) (unused : tables.outbox.get outboxId = none)
    (payload : row.payload = attempt.payload) :
    Linked ⟨tables.outbox.set outboxId row, updateResult tables.attempts deliveryId update⟩ := by
  have own : row.payload.deliveryId = deliveryId := payload ▸ linked.named deliveryId attempt tried
  have older : ∀ tested held, tables.outbox.get tested = some held →
      outboxId ≠ tested ∧ deliveryId ≠ held.payload.deliveryId := by
    intro tested held stored
    exact ⟨Dict.ne_of_absent unused stored, linked.ne_of_unlinked tried unlinked stored⟩
  have updatedOwn : (updateResult tables.attempts deliveryId update).get deliveryId =
      some (update.apply attempt) := by
    rw [updateResult, Dict.get_revise_self, tried, Option.map_some]
  have linkAfter : (update.apply attempt).outboxId = some outboxId := by
    rw [ResultUpdate.apply, link, Option.some_or]
  refine ⟨?_, ?_, ?_⟩
  · intro tested after found
    rcases attempt_of_update tried found with ⟨same, rfl⟩ | ⟨_, present⟩
    · exact same ▸ linked.named deliveryId attempt tried
    · exact linked.named tested after present
  · intro tested after held found names
    rcases attempt_of_update tried found with ⟨_, rfl⟩ | ⟨_, present⟩
    · rw [linkAfter] at names
      cases names
      exact ⟨row, Dict.get_set_self _ _ _, payload⟩
    · obtain ⟨stored, there, carries⟩ := linked.stored tested after held present names
      exact ⟨stored, (Dict.get_set_ne _ _ (older held stored there).1).trans there, carries⟩
  · intro tested held found
    rcases Dict.get_of_set found with ⟨rfl, rfl⟩ | ⟨_, stored⟩
    · exact ⟨update.apply attempt, own ▸ updatedOwn, linkAfter⟩
    · obtain ⟨other, present, linked⟩ := linked.owned tested held stored
      refine ⟨other, ?_, linked⟩
      exact (Dict.get_revise_ne _ _ (older tested held stored).2).trans present

/-- An attempt without a row gets one, with its frame. -/
theorem Sound.requeue {watched : Watched} (sound : Sound watched) {deliveryId : DeliveryId}
    {attempt : DeliveryAttempt} {update : ResultUpdate} {success : Bool} {handed : List OutboxId}
    {outboxId : OutboxId} {row : OutboxRow}
    (tried : watched.service.tables.attempts.get deliveryId = some attempt)
    (unlinked : attempt.outboxId = none) (link : update.outboxId = some outboxId)
    (unused : watched.service.tables.outbox.get outboxId = none)
    (payload : row.payload = attempt.payload) (pending : row.status = .pending)
    (queueable : queueableMetadata (attempt.metadata.update update.metadata) = true) :
    Sound
      { watched with
        service := { watched.service with
          tables :=
            { outbox := watched.service.tables.outbox.set outboxId row
              attempts := updateResult watched.service.tables.attempts deliveryId update } }
        outcomes := watched.outcomes.set deliveryId success
        handed := handed } := by
  have older : ∀ tested held, watched.service.tables.outbox.get tested = some held →
      outboxId ≠ tested ∧ deliveryId ≠ held.payload.deliveryId := by
    intro tested held stored
    exact ⟨Dict.ne_of_absent unused stored, sound.linked.ne_of_unlinked tried unlinked stored⟩
  have updatedOwn :
      (updateResult watched.service.tables.attempts deliveryId update).get deliveryId =
        some (update.apply attempt) := by
    rw [updateResult, Dict.get_revise_self, tried, Option.map_some]
  have linkAfter : (update.apply attempt).outboxId = some outboxId := by
    rw [ResultUpdate.apply, link, Option.some_or]
  have linked := sound.linked.requeue tried unlinked link unused payload
  refine ⟨linked, sound.named, ?_, ?_, ?_, ?_, ?_, ?_, ?_⟩
  · intro tested awaited found
    obtain ⟨known, untried⟩ := sound.awaited tested awaited found
    refine ⟨known, ?_⟩
    exact (Dict.get_revise_ne _ _ (Ne.symm (Dict.ne_of_absent untried tried))).trans untried
  · intro tested delivery known policy
    rcases sound.recorded tested delivery known policy with waits | ⟨other, present⟩
    · exact Or.inl waits
    · by_cases same : deliveryId = tested
      · exact Or.inr ⟨update.apply attempt, same ▸ updatedOwn⟩
      · exact Or.inr ⟨other, (Dict.get_revise_ne _ _ same).trans present⟩
  · intro tested after delivery found known
    rcases attempt_of_update tried found with ⟨same, rfl⟩ | ⟨different, present⟩
    · subst same
      refine ⟨(sound.attempted deliveryId attempt delivery tried known).1, fun _ => ?_⟩
      refine ⟨queueable, fun none => ?_⟩
      rw [linkAfter] at none
      cases none
    · dsimp only
      rw [Dict.get_set_ne _ _ different]
      exact sound.attempted tested after delivery present known
  · intro tested after held found names
    rcases attempt_of_update tried found with ⟨_, rfl⟩ | ⟨_, present⟩
    · exact queueable
    · exact sound.queues tested after held present names
  · intro passId tested frame busy
    obtain ⟨stored, there, carries⟩ := sound.carried passId tested frame busy
    exact ⟨stored, (Dict.get_set_ne _ _ (older tested stored there).1).trans there, carries⟩
  · intro tested held found status
    rcases Dict.get_of_set found with ⟨_, rfl⟩ | ⟨_, stored⟩
    · rw [pending] at status
      cases status
    · exact sound.sending tested held stored status
  · intro tested held found status
    rcases Dict.get_of_set found with ⟨_, rfl⟩ | ⟨_, stored⟩
    · rw [pending] at status
      cases status
    · dsimp only
      rw [Dict.get_set_ne _ _ (older tested held stored).2]
      exact sound.sent tested held stored status

/-- Metadata that names no policy leaves the policy of an attempt as it is. -/
theorem queueableMetadata_update {metadata changes : Fields}
    (absent : changes.get "offline_policy" = none) :
    queueableMetadata (metadata.update changes) = queueableMetadata metadata := by
  unfold queueableMetadata Fields.getOr
  rw [Fields.get_update, absent]

theorem rescheduled_status (row : OutboxRow) (error : Json) (limits : RetryLimits)
    (now : Instant) : (row.rescheduled error limits now).status ≠ .sending ∧
      (row.rescheduled error limits now).status ≠ .sent := by
  have kept := rescheduled_kept row error limits now
  constructor
  · intro status
    rw [status] at kept
    cases kept
  · intro status
    rw [status] at kept
    cases kept

/-- The answer to a send of a drain keeps a state sound. -/
theorem Sound.drained {watched : Watched} (sound : Sound watched) {passId : PassId} {pass after : Pass}
    {outboxId : OutboxId} {frame : Frame} {handed : List OutboxId}
    (found : watched.service.passes.get passId = some pass)
    (busy : pass.sending = some (outboxId, frame)) (idle : after.sending = none)
    (outcome : SendOutcome) (now : Instant) :
    Sound
      { watched with
        service := { watched.service with
          tables := recordDrain watched.service.tables outboxId frame outcome pass.limits now
          passes := watched.service.passes.set passId after }
        outcomes := watched.outcomes.set frame.deliveryId outcome.isSent
        handed := handed } := by
  have sending : sendingIn watched.service.passes passId = some (outboxId, frame) := by
    rw [sendingIn, found, Option.bind_some, busy]
  obtain ⟨row, stored, carries⟩ := sound.carried passId outboxId frame sending
  have fewer : ∀ tested sending,
      sendingIn (watched.service.passes.set passId after) tested = some sending →
      sendingIn watched.service.passes tested = some sending := by
    intro tested sends present
    rw [sendingIn_set] at present
    split at present
    · rw [idle] at present
      cases present
    · exact present
  have others : ∀ tested other otherFrame, outboxId ≠ other →
      sendingIn watched.service.passes tested = some (other, otherFrame) →
      sendingIn (watched.service.passes.set passId after) tested = some (other, otherFrame) := by
    intro tested other otherFrame different present
    rw [sendingIn_set]
    split
    · next same =>
      subst same
      rw [sending] at present
      cases present
      exact absurd rfl different
    · exact present
  have own : row.payload.deliveryId = frame.deliveryId := by rw [carries]
  rw [recordDrain]
  cases result : outcome.isSent with
  | true =>
    rw [if_pos rfl]
    exact sound.settle stored own markedSent_payload (fun _ => OutboxStatus.noConfusion)
      (fun _ _ => rfl) (Or.inr rfl)
      (fun _ _ queueable => (queueableMetadata_update rfl).trans queueable)
      fewer others
  | false =>
    rw [if_neg Bool.false_ne_true]
    exact sound.settle stored own (fun row => rescheduled_payload row _ _ _)
      (fun row => (rescheduled_status row _ _ _).1)
      (fun row status => absurd status (rescheduled_status row _ _ _).2) (Or.inr rfl)
      (fun _ _ queueable => (queueableMetadata_update rfl).trans queueable)
      fewer others

/-- A drain that goes on to its next row keeps a state sound. -/
theorem Sound.proceed {watched : Watched} (sound : Sound watched) {passId : PassId} {pass : Pass}
    {handed : List OutboxId} (found : watched.service.passes.get passId = some pass)
    (idle : pass.sending = none) :
    Sound { watched with service := watched.service.proceed passId pass, handed := handed } := by
  have before : sendingIn watched.service.passes passId = none := by
    rw [sendingIn, found, Option.bind_some, idle]
  rcases proceed_spec watched.service passId pass with ⟨_, same⟩ |
    ⟨outboxId, rest, _, _, same⟩ | ⟨outboxId, rest, row, _, stored, same⟩
  · rw [same]
    refine sound.samePasses (fun tested => ?_) rfl
    rw [sendingIn_pop]
    split
    · next own => rw [← own, before]
    · rfl
  · rw [same]
    refine sound.samePasses (fun tested => ?_) rfl
    rw [sendingIn_set]
    split
    · next own => rw [← own, before, idle]
    · rfl
  · rw [same]
    refine sound.rewrite rfl rfl ⟨fun tested => ?_, fun _ => rfl⟩ ?_ sound.queues ?_ ?_ ?_
    · dsimp only
      rw [Dict.get_set]
      split
      · next own => rw [← own, stored]; rfl
      · rfl
    · intro tested attempt delivery tried known
      exact (sound.attempted tested attempt delivery tried known).2
    · intro tested other frame busy
      rw [sendingIn_set] at busy
      split at busy
      · cases busy
        exact ⟨row, stored, rfl⟩
      · exact sound.carried tested other frame busy
    · intro tested held present status
      rcases Dict.get_of_set present with ⟨rfl, rfl⟩ | ⟨_, earlier⟩
      · exact ⟨passId, by rw [sendingIn_set, if_pos rfl]; rfl⟩
      · obtain ⟨other, busy⟩ := sound.sending tested held earlier status
        have different : passId ≠ other := by
          rintro rfl
          rw [before] at busy
          cases busy
        exact ⟨other, by rw [sendingIn_set, if_neg different, busy]⟩
    · intro tested held present status
      rcases Dict.get_of_set present with ⟨_, rfl⟩ | ⟨_, earlier⟩
      · cases status
      · exact sound.sent tested held earlier status

/-- The outcome of a delivery without an attempt is of no account. -/
theorem Sound.unknown {watched : Watched} (sound : Sound watched) {deliveryId : DeliveryId}
    (untried : watched.service.tables.attempts.get deliveryId = none) (success : Bool)
    (handed : List OutboxId) :
    Sound { watched with outcomes := watched.outcomes.set deliveryId success, handed := handed } := by
  refine sound.rewrite rfl rfl ⟨fun _ => rfl, fun _ => rfl⟩ ?_ sound.queues sound.carried
    sound.sending ?_
  · intro tested attempt delivery tried known policy
    dsimp only
    rw [Dict.get_set_ne _ _ (Dict.ne_of_absent untried tried)]
    exact (sound.attempted tested attempt delivery tried known).2 policy
  · intro outboxId row stored status
    dsimp only
    rw [Dict.get_set_ne _ _ (sound.linked.ne_of_untried untried stored)]
    exact sound.sent outboxId row stored status

/-- An acknowledged success keeps a state sound. -/
theorem Sound.acknowledge {watched : Watched} (sound : Sound watched) {deliveryId : DeliveryId}
    {attempt : DeliveryAttempt} {metadata : Fields}
    (tried : watched.service.tables.attempts.get deliveryId = some attempt)
    (policy : queueableMetadata attempt.metadata = true →
      queueableMetadata (attempt.metadata.update (resultMetadata metadata)) = true)
    (handed : List OutboxId) :
    Sound
      { watched with
        service := { watched.service with
          tables := DeliveryRuns.acknowledge watched.service.tables deliveryId attempt metadata }
        outcomes := watched.outcomes.set deliveryId true
        handed := handed } := by
  rw [DeliveryRuns.acknowledge]
  cases link : attempt.outboxId with
  | none => exact sound.note tried link rfl policy fun _ => rfl
  | some outboxId =>
    obtain ⟨row, stored, carries⟩ := sound.linked.stored deliveryId attempt outboxId tried link
    have own : row.payload.deliveryId = deliveryId :=
      carries ▸ sound.linked.named deliveryId attempt tried
    refine sound.settle stored own markedSent_payload (fun _ => OutboxStatus.noConfusion)
      (fun _ _ => rfl) (Or.inl rfl) ?_ (fun _ _ busy => busy) fun _ _ _ _ busy => busy
    intro held present
    rw [tried] at present
    cases present
    exact policy

/-- An acknowledged failure keeps a state sound. -/
theorem Sound.reject {watched : Watched} (sound : Sound watched) {deliveryId : DeliveryId}
    {attempt : DeliveryAttempt} {error metadata : Fields} {outboxId : OutboxId} {now : Instant}
    (tried : watched.service.tables.attempts.get deliveryId = some attempt)
    (unused : watched.service.tables.outbox.get outboxId = none)
    (policy : queueableMetadata attempt.metadata = true →
      queueableMetadata (attempt.metadata.update (resultMetadata metadata)) = true)
    (handed : List OutboxId) :
    Sound
      { watched with
        service := { watched.service with
          tables := (DeliveryRuns.reject watched.service.tables deliveryId attempt error metadata
            outboxId now).1 }
        outcomes := watched.outcomes.set deliveryId false
        handed := handed } := by
  rw [DeliveryRuns.reject]
  by_cases queueable : queueableMetadata attempt.metadata = true
  · rw [if_pos queueable]
    cases link : attempt.outboxId with
    | none =>
      exact sound.requeue tried link rfl unused rfl rfl (policy queueable)
    | some held =>
      obtain ⟨row, stored, carries⟩ := sound.linked.stored deliveryId attempt held tried link
      have own : row.payload.deliveryId = deliveryId :=
        carries ▸ sound.linked.named deliveryId attempt tried
      refine sound.settle stored own (fun row => rescheduled_payload row _ _ _)
        (fun row => (rescheduled_status row _ _ _).1)
        (fun row status => absurd status (rescheduled_status row _ _ _).2) (Or.inr rfl) ?_
        (fun _ _ busy => busy) fun _ _ _ _ busy => busy
      intro other present
      rw [tried] at present
      cases present
      exact policy
  · rw [if_neg queueable]
    have link : attempt.outboxId = none := by
      by_contra linked
      obtain ⟨held, names⟩ := Option.ne_none_iff_exists'.mp linked
      exact queueable (sound.queues deliveryId attempt held tried names)
    exact sound.note tried link link policy fun accepted => absurd accepted queueable

end MeetYou.DeliverySound
