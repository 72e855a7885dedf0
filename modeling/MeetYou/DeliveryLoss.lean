import MeetYou.DeliverySound

/-!
# No queueable delivery is lost

A delivery whose policy is queueable is either delivered, as far as its last
outcome says, or waits in a row of the outbox, or has been given up there. Three
things break this: a delivery whose send raises or whose task is cancelled
records nothing; a drain whose task is cancelled leaves the row it was sending
marked as being sent, which no later drain lists; and the metadata of an
acknowledgement may replace the policy that its attempt carries
(`deliveries_lost`). `none_lost` shows that nothing else does.
-/

namespace MeetYou.DeliveryLoss

open EndpointOutbox DeliveryRuns DeliverySound

/-- A send of the delivery is in progress, its own or that of a drain. -/
def InProgress (service : Service) (deliveryId : DeliveryId) : Prop :=
  (∃ delivery, service.deliveries.get deliveryId = some delivery) ∨
    ∃ passId outboxId frame, sendingIn service.passes passId = some (outboxId, frame) ∧
      frame.deliveryId = deliveryId

/-- No queueable delivery is lost: unless a send of it is in progress, its last
outcome was a success or a row of the outbox keeps its frame. -/
def NoneLost (watched : Watched) : Prop :=
  ∀ deliveryId delivery, watched.made.get deliveryId = some delivery →
    queueablePolicy delivery.offlinePolicy = true → ¬ InProgress watched.service deliveryId →
    watched.outcomes.get deliveryId = some true ∨
      ∃ outboxId row, watched.service.tables.outbox.get outboxId = some row ∧
        row.payload = delivery.frame ∧ row.status.kept = true

/-- No send of a queueable delivery is aborted, no drain is cancelled while it sends,
and no acknowledgement replaces a queueable policy by another. -/
def Undisturbed (watched : Watched) : Action → Prop
  | .abort deliveryId => ∀ delivery, watched.service.deliveries.get deliveryId = some delivery →
      queueablePolicy delivery.offlinePolicy = false
  | .cancel passId => sendingIn watched.service.passes passId = none
  | .ack text _ _ metadata _ _ => ∀ deliveryId attempt, deliveryId? text = some deliveryId →
      watched.service.tables.attempts.get deliveryId = some attempt →
      queueableMetadata attempt.metadata = true →
      queueableMetadata (attempt.metadata.update (resultMetadata metadata)) = true
  | _ => True

/-- In a sound state no queueable delivery is lost. -/
theorem noneLost_of_sound {watched : Watched} (sound : Sound watched) : NoneLost watched := by
  intro deliveryId delivery made queueable idle
  rcases sound.recorded deliveryId delivery made queueable with awaited | ⟨attempt, tried⟩
  · exact absurd (Or.inl awaited) idle
  · obtain ⟨payload, keeps⟩ := sound.attempted deliveryId attempt delivery tried made
    cases link : attempt.outboxId with
    | none => exact Or.inl ((keeps queueable).2 link)
    | some outboxId =>
      obtain ⟨row, stored, carries⟩ :=
        sound.linked.stored deliveryId attempt outboxId tried link
      have frame : row.payload = delivery.frame := carries.trans payload
      have owner : row.payload.deliveryId = deliveryId := frame ▸ sound.named deliveryId delivery made
      cases status : row.status with
      | sent => exact Or.inl (owner ▸ sound.sent outboxId row stored status)
      | sending =>
        obtain ⟨passId, busy⟩ := sound.sending outboxId row stored status
        exact absurd (Or.inr ⟨passId, outboxId, row.payload, busy, owner⟩) idle
      | pending => exact Or.inr ⟨outboxId, row, stored, frame, by rw [status]; rfl⟩
      | retry => exact Or.inr ⟨outboxId, row, stored, frame, by rw [status]; rfl⟩
      | deadLetter => exact Or.inr ⟨outboxId, row, stored, frame, by rw [status]; rfl⟩

section
variable {κ : Type} [LinearOrder κ] {rank : Option Instant → κ} {byDue : OrderBy (dueKey rank)}

/-- An acknowledgement that leaves the policy of its attempt keeps a state sound. -/
theorem ack_sound {watched next : Watched} {text status : String} {error metadata : Fields}
    {outboxId : OutboxId} {now : Instant} (sound : Sound watched)
    (undisturbed : Undisturbed watched (.ack text status error metadata outboxId now))
    (taken : watch byDue watched (.ack text status error metadata outboxId now) = some next) :
    Sound next := by
  obtain ⟨after, stepped, rfl⟩ := Option.map_eq_some_iff.mp taken
  obtain ⟨unused, rfl⟩ := ack_spec stepped
  simp only [outcomeOf]
  cases named : deliveryId? text with
  | none =>
    simp only [handleDeliveryResult, named]
    exact sound.samePasses (fun _ => rfl) rfl
  | some deliveryId =>
    cases tried : watched.service.tables.attempts.get deliveryId with
    | none =>
      simp only [handleDeliveryResult, named, tried]
      exact sound.unknown tried _ _
    | some attempt =>
      have policy := undisturbed deliveryId attempt named tried
      cases success : isAckSuccess status with
      | true =>
        simp only [handleDeliveryResult, named, tried, success, if_true]
        exact sound.acknowledge tried policy _
      | false =>
        simp only [handleDeliveryResult, named, tried, success, if_neg Bool.false_ne_true]
        exact sound.reject tried unused policy _

/-- Every undisturbed step keeps a state sound. -/
theorem step_sound {watched next : Watched} {action : Action} (sound : Sound watched)
    (undisturbed : Undisturbed watched action) (taken : watch byDue watched action = some next) :
    Sound next := by
  cases action with
  | ack text status error metadata outboxId now => exact ack_sound sound undisturbed taken
  | setTransport present =>
    obtain ⟨after, stepped, rfl⟩ := Option.map_eq_some_iff.mp taken
    cases stepped
    exact sound.samePasses (fun _ => rfl) rfl
  | deliver delivery outboxId now =>
    obtain ⟨after, stepped, rfl⟩ := Option.map_eq_some_iff.mp taken
    obtain ⟨untried, idle, unused, ⟨transport, rfl⟩ | ⟨transport, rfl⟩⟩ := deliver_spec stepped
    · have silent : outcomeOf watched.service (.deliver delivery outboxId now) = none :=
        if_pos transport
      rw [silent]
      exact sound.await untried
    · have unsent : outcomeOf watched.service (.deliver delivery outboxId now) =
          some (delivery.frame.deliveryId, false) := if_neg transport
      rw [unsent]
      refine sound.record (Dict.get_set_self _ _ _) (fun tested different => ?_) idle untried unused
      exact ⟨Dict.get_set_ne _ _ different, rfl⟩
  | answer deliveryId sent outboxId now =>
    obtain ⟨after, stepped, rfl⟩ := Option.map_eq_some_iff.mp taken
    obtain ⟨delivery, waits, unused, rfl⟩ := answer_spec stepped
    obtain ⟨known, untried⟩ := sound.awaited deliveryId delivery waits
    have named := sound.named deliveryId delivery known
    subst named
    refine sound.record known (fun tested different => ?_) (Dict.get_pop_self _ _) untried unused
    exact ⟨rfl, Dict.get_pop_ne _ different⟩
  | abort deliveryId =>
    obtain ⟨after, stepped, rfl⟩ := Option.map_eq_some_iff.mp taken
    obtain ⟨delivery, waits, rfl⟩ := abort_spec stepped
    exact sound.abort waits (undisturbed delivery waits)
  | drain passId targetEndpointId limit limits now =>
    obtain ⟨after, stepped, rfl⟩ := Option.map_eq_some_iff.mp taken
    obtain ⟨free, rfl | rfl⟩ := drain_spec stepped
    · refine sound.samePasses (fun tested => ?_) rfl
      rw [sendingIn_set]
      split
      · next same => rw [← same, sendingIn, free, Option.bind_none]
      · rfl
    · exact sound.samePasses (fun _ => rfl) rfl
  | next passId =>
    obtain ⟨after, stepped, rfl⟩ := Option.map_eq_some_iff.mp taken
    obtain ⟨pass, found, idle, rfl⟩ := next_spec stepped
    exact sound.proceed found idle
  | drained passId outcome now =>
    obtain ⟨after, stepped, rfl⟩ := Option.map_eq_some_iff.mp taken
    obtain ⟨pass, outboxId, frame, found, busy, rfl⟩ := drained_spec stepped
    simp only [outcomeOf, sendingIn, found, Option.bind_some, busy, Option.map_some]
    exact sound.drained found busy rfl outcome now
  | cancel passId =>
    obtain ⟨after, stepped, rfl⟩ := Option.map_eq_some_iff.mp taken
    cases stepped
    have idle : sendingIn watched.service.passes passId = none := undisturbed
    simp only [outcomeOf, idle]
    refine sound.samePasses (fun tested => ?_) rfl
    rw [sendingIn_pop]
    split
    · next same => exact same ▸ idle.symm
    · rfl

/-- In every undisturbed run no queueable delivery is lost. -/
theorem none_lost {actions : List Action} {watched : Watched}
    (undisturbed : Runs.Along (watch byDue) Undisturbed Watched.start actions)
    (completed : Runs.run (watch byDue) Watched.start actions = some watched) :
    NoneLost watched := by
  have sound : Sound watched := by
    refine Runs.run_preserves ?_ start_sound undisturbed completed
    intro before action next holds condition taken
    exact step_sound holds condition taken
  exact noneLost_of_sound sound

end

/-- A notice that is queued, sent by a drain, and acknowledged as failed and then as
delivered. -/
def retriedNotice : List Action :=
  [.deliver (notice firstId) 1 0, .answer firstId false 1 0, .drain 1 1 50 {} 0, .next 1,
    .drained 1 .sent 0, .ack "delivery_1" "failed" Dict.empty Dict.empty 2 0]

theorem retriedNotice_undisturbed :
    Runs.Along (watch asInserted) Undisturbed Watched.start retriedNotice := by
  refine Runs.along_cons trivial rfl ?_
  refine Runs.along_cons trivial rfl ?_
  refine Runs.along_cons trivial rfl ?_
  refine Runs.along_cons trivial rfl ?_
  refine Runs.along_cons trivial rfl ?_
  refine Runs.along_cons ?_ rfl trivial
  intro _ attempt _ _ queueable
  exact (queueableMetadata_update rfl).trans queueable

theorem retriedNotice_kept : ∃ watched,
    Runs.run (watch asInserted) Watched.start retriedNotice = some watched ∧ NoneLost watched :=
  ⟨_, rfl, none_lost retriedNotice_undisturbed rfl⟩

/-- A queueable delivery is lost when its last outcome was a failure, no send is in
progress, and no row waits or was given up. -/
theorem lost {watched : Watched} {deliveryId : DeliveryId} {delivery : Delivery}
    (made : watched.made.get deliveryId = some delivery)
    (queueable : queueablePolicy delivery.offlinePolicy = true)
    (answered : watched.service.deliveries.get deliveryId = none)
    (idle : watched.service.passes.all (fun _ pass => pass.sending.isNone) = true)
    (failed : watched.outcomes.get deliveryId = some false)
    (gone : watched.service.tables.outbox.all (fun _ row => !row.status.kept) = true) :
    ¬ NoneLost watched := by
  intro kept
  have still : ¬ InProgress watched.service deliveryId := by
    rintro (⟨awaited, waits⟩ | ⟨passId, outboxId, frame, busy, _⟩)
    · rw [answered] at waits
      cases waits
    · rw [sendingIn_none idle] at busy
      cases busy
  rcases kept deliveryId delivery made queueable still with success | ⟨outboxId, row, stored, _, keeps⟩
  · rw [failed] at success
    cases success
  · have dropped := (Dict.all_iff _ _).mp gone outboxId row stored
    rw [keeps] at dropped
    cases dropped

/-- Three lost deliveries: one whose send raised, one whose drain was cancelled, and
one that was refused after an acknowledgement had replaced its policy. -/
theorem deliveries_lost :
    (∃ watched, Runs.run (watch asInserted) Watched.start
        [.deliver (notice firstId) 1 0, .abort firstId] = some watched ∧ ¬ NoneLost watched) ∧
      (∃ watched, Runs.run (watch asInserted) Watched.start
        [.deliver (notice firstId) 1 0, .answer firstId false 1 0, .drain 1 1 50 {} 0, .next 1,
          .cancel 1] = some watched ∧ ¬ NoneLost watched) ∧
      ∃ watched, Runs.run (watch asInserted) Watched.start
        [.deliver (notice firstId) 1 0, .answer firstId true 1 0,
          .ack "delivery_1" "delivered" Dict.empty (Fields.of [("offline_policy", .str "drop")]) 2 0,
          .ack "delivery_1" "failed" Dict.empty Dict.empty 3 0] = some watched ∧
        ¬ NoneLost watched := by
  refine ⟨⟨_, rfl, ?_⟩, ⟨_, rfl, ?_⟩, ⟨_, rfl, ?_⟩⟩
  · exact @lost _ firstId (notice firstId) rfl (by decide) rfl rfl rfl rfl
  · exact @lost _ firstId (notice firstId) rfl (by decide) rfl rfl rfl rfl
  · exact @lost _ firstId (notice firstId) rfl (by decide) rfl rfl rfl rfl

end MeetYou.DeliveryLoss
