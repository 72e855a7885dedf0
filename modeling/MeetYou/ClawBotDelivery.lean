import MeetYou.ClawBotInbound

/-!
# Delivery of messages from WeChat

A message of an answer is in work until its event is put in the queue and taken out of the hands
of a worker; the cursor of the answer is stored when no event is in work any longer. A worker
that lets go of an event must therefore have handed it to Core, as a message or as an answer. A
step delivers when it does not let go of an event otherwise, and along such steps every message
behind the stored cursor has reached Core.
-/

namespace MeetYou.ClawBotInbound

open Text Runs

/-! ## What has reached Core -/

/-- Core has stored a message of the event or has accepted the event as an answer. -/
def State.Accounted (state : State) (eventId : String) : Prop :=
  eventId ∈ state.accepted ∨ ∃ answer ∈ state.answers, answer.event.eventId = eventId

/-- Every text of a user behind the stored cursor has reached Core, and Core stores no text
twice. -/
def NotLost (adapter : Adapter) (state : State) : Prop :=
  (∀ message ∈ state.passed, message.IsInboundText →
    state.Accounted (message.eventId adapter.digest adapter.botId)) ∧ state.accepted.Nodup

/-- The wait of a worker does not end with its event given up: the waits before the submission
return, no text is refused as a number, and Core takes what is submitted. -/
def Job.Delivers (job : Job) (state : State) (outcome : Outcome) : Prop :=
  match job.stage, outcome with
  | .remembering, .returns => state.pendingInputs.get job.event.ref = none ∨
      ¬(isdigit (strip job.event.text) = true ∧ int (strip job.event.text) = none)
  | .remembering, .raises | .connectingConfirm _ _, .raises | .connectingInput _, .raises
  | .processing, .raises | .connecting, .raises => False
  | .submittingConfirm _ _, .submitted accepted _
  | .submittingInput _, .submitted accepted _ => accepted = true
  | .sending, .sent stored _ => stored = true
  | _, _ => True

/-- A step gives up no event that has not reached Core. -/
def Delivers (state : State) : Action → Prop
  | .moves index outcome => match state.workers[index]? with
    | some (some job) => job.Delivers state outcome
    | _ => True
  | _ => True

/-! ## What a move changes -/

/-- The event of the stage has reached Core. -/
def Stage.Handed : Stage → Prop
  | .waiting | .marking _ => True
  | _ => False

/-- What has reached Core stays there, and no further event counts as processed without it. -/
structure Steady (kept state : State) : Prop where
  same : SameWork kept state
  file : kept.file = state.file
  accounted : ∀ eventId, state.Accounted eventId → kept.Accounted eventId
  once : state.accepted.Nodup → kept.accepted.Nodup
  statuses : ∀ eventId status, kept.store.eventStatuses.get eventId = some status →
    status ∈ processedStatuses →
      state.store.eventStatuses.get eventId = some status ∨ kept.Accounted eventId

section
variable {state kept next : State} {index : Nat} {job : Job}

theorem steady_self : Steady state state :=
  ⟨sameWork_self, rfl, fun _ held => held, id, fun _ _ found _ => Or.inl found⟩

/-- A change that concerns neither work nor statuses nor Core. -/
theorem Steady.of_same (steady : Steady kept state) (same : SameWork next kept)
    (file : next.file = kept.file) (store : next.store = kept.store)
    (accepted : next.accepted = kept.accepted) (answers : next.answers = kept.answers) :
    Steady next state := by
  have accounted : ∀ eventId, next.Accounted eventId ↔ kept.Accounted eventId := by
    intro eventId
    unfold State.Accounted
    rw [accepted, answers]
  refine ⟨?_, file.trans steady.file, ?_, ?_, ?_⟩
  · exact ⟨same.queue.trans steady.same.queue, same.workers.trans steady.same.workers,
      same.unfinished.trans steady.same.unfinished, same.poller.trans steady.same.poller,
      same.polls.trans steady.same.polls, same.passed.trans steady.same.passed⟩
  · exact fun eventId held => (accounted eventId).mpr (steady.accounted eventId held)
  · exact fun once => accepted ▸ steady.once once
  · intro eventId status found processed
    rw [store] at found
    exact (steady.statuses eventId status found processed).imp id (accounted eventId).mpr

theorem discardPending_steady (ref : String) (steady : Steady kept state) :
    Steady (kept.discardPending index ref) state := by
  refine steady.of_same (discardPending_same ref sameWork_self) ?_ ?_ ?_ ?_
  all_goals
    unfold State.discardPending
    split <;> rfl

theorem clearPendingConfirm_steady (ref requestId : String) (steady : Steady kept state) :
    Steady (clearPendingConfirm ref requestId kept) state := by
  refine steady.of_same (clearPendingConfirm_same ref requestId sameWork_self) ?_ ?_ ?_ ?_
  all_goals
    unfold clearPendingConfirm
    split <;> rfl

/-- A stored message has reached Core. -/
theorem storeMessage_accounted (eventId : String) :
    (state.storeMessage eventId true).Accounted eventId := by
  unfold State.storeMessage
  split
  case isTrue => exact Or.inl (List.mem_append_right _ (List.mem_singleton.mpr rfl))
  case isFalse before =>
    exact Or.inl (Decidable.not_not.mp fun absent => before ⟨rfl, absent⟩)

theorem storeMessage_steady (eventId : String) (stored : Bool) :
    Steady (state.storeMessage eventId stored) state := by
  refine ⟨storeMessage_same eventId stored sameWork_self, ?_, ?_, ?_, ?_⟩
  · unfold State.storeMessage
    split <;> rfl
  · intro other held
    unfold State.storeMessage
    split
    · exact held.imp (List.mem_append_left _) id
    · exact held
  · intro once
    unfold State.storeMessage
    split
    case isTrue new =>
      refine List.nodup_append'.mpr ⟨once, List.nodup_singleton _, ?_⟩
      exact List.disjoint_singleton.mpr new.2
    case isFalse => exact once
  · intro other status found _
    refine Or.inl ?_
    unfold State.storeMessage at found
    split at found
    · exact found
    · exact found

/-- A status is set for an event that has reached Core. -/
theorem mark_steady {eventId : String} (status : String)
    (accounted : status ∈ processedStatuses → state.Accounted eventId) :
    Steady (state.mark eventId status) state := by
  refine ⟨by constructor <;> rfl, rfl, fun _ held => held, id, fun other found got processed => ?_⟩
  rcases Dict.get_of_set got with ⟨rfl, rfl⟩ | ⟨_, before⟩
  · exact Or.inr (accounted processed)
  · exact Or.inl before

/-- Core accepts an answer. -/
theorem answer_steady (answer : Answer) :
    Steady { state with answers := state.answers ++ [answer] } state := by
  refine ⟨by constructor <;> rfl, rfl, ?_, id, fun _ _ found _ => Or.inl found⟩
  exact fun eventId held => held.imp id fun ⟨given, member, same⟩ =>
    ⟨given, List.mem_append_left _ member, same⟩

/-- A worker that lets go of its event has handed it to Core, and one that has handed it over is
known to have. -/
structure Moved (state : State) (index : Nat) (job : Job) (next : State) : Prop where
  queue : next.queue = state.queue
  poller : next.poller = state.poller
  passed : next.passed = state.passed
  file : next.file = state.file
  accounted : ∀ eventId, state.Accounted eventId → next.Accounted eventId
  once : state.accepted.Nodup → next.accepted.Nodup
  statuses : ∀ eventId status, next.store.eventStatuses.get eventId = some status →
    status ∈ processedStatuses →
      state.store.eventStatuses.get eventId = some status ∨ next.Accounted eventId
  workers : (next.workers = state.workers.set index none ∧ next.Accounted job.event.eventId) ∨
    ∃ after : Job, next.workers = state.workers.set index (some after) ∧
      after.event = job.event ∧ (after.stage.Handed → next.Accounted job.event.eventId)

theorem moved_finish (steady : Steady kept state) (accounted : kept.Accounted job.event.eventId) :
    Moved state index job (kept.finishJob index job) where
  queue := steady.same.queue
  poller := steady.same.poller
  passed := steady.same.passed
  file := steady.file
  accounted := steady.accounted
  once := steady.once
  statuses := steady.statuses
  workers := Or.inl ⟨by rw [← steady.same.workers]; rfl, accounted⟩

theorem moved_set (steady : Steady kept state) (after : Job) (event : after.event = job.event)
    (handed : after.stage.Handed → kept.Accounted job.event.eventId) :
    Moved state index job (kept.setJob index after) where
  queue := steady.same.queue
  poller := steady.same.poller
  passed := steady.same.passed
  file := steady.file
  accounted := steady.accounted
  once := steady.once
  statuses := steady.statuses
  workers := Or.inr ⟨after, by rw [← steady.same.workers]; rfl, event, handed⟩

/-- Only a text of digits that `int` refuses has no answer. -/
theorem resolveHumanInput_none {request : HumanInputRequest} {text : String}
    (refused : resolveHumanInput request text = none) :
    isdigit (strip text) = true ∧ int (strip text) = none := by
  unfold resolveHumanInput at refused
  dsimp only at refused
  split at refused
  case isTrue digits => exact ⟨digits, Option.map_eq_none_iff.mp refused⟩
  case isFalse => cases refused

theorem choosesInput_moved
    (readable : state.pendingInputs.get job.event.ref = none ∨
      ¬(isdigit (strip job.event.text) = true ∧ int (strip job.event.text) = none)) :
    Moved state index job (state.choosesInput index job) := by
  unfold State.choosesInput
  split
  case h_1 => exact moved_set steady_self _ rfl False.elim
  case h_2 request pending =>
    dsimp only
    split
    case h_1 refused =>
      rcases readable with none_ | readable
      · rw [pending] at none_
        cases none_
      · exact absurd (resolveHumanInput_none refused) readable
    case h_2 input _ =>
      refine moved_set ?_ _ rfl False.elim
      exact steady_self.of_same (by constructor <;> rfl) rfl rfl rfl rfl

theorem chooses_moved
    (readable : state.pendingInputs.get job.event.ref = none ∨
      ¬(isdigit (strip job.event.text) = true ∧ int (strip job.event.text) = none)) :
    Moved state index job (state.chooses index job) := by
  unfold State.chooses
  dsimp only
  split
  · split
    · exact moved_set steady_self _ rfl False.elim
    · exact choosesInput_moved readable
  · exact choosesInput_moved readable

theorem submit_moved {answer : Answer} {settled : State → State} (raises : Bool)
    (event : answer.event = job.event)
    (settles : ∀ kept, Steady kept state → Steady (settled kept) state)
    (keeps : ∀ kept : State, ∀ eventId, kept.Accounted eventId →
      (settled kept).Accounted eventId) :
    Moved state index job (state.submit index job answer settled true raises) := by
  have accounted : ({ state with answers := state.answers ++ [answer] } : State).Accounted
      job.event.eventId :=
    Or.inr ⟨answer, List.mem_append_right _ (List.mem_singleton.mpr rfl), by rw [event]⟩
  unfold State.submit
  dsimp only
  rw [if_pos rfl]
  split
  · exact moved_finish (answer_steady answer) accounted
  · exact moved_set (settles _ (answer_steady answer)) _ rfl fun _ => keeps _ _ accounted

theorem clearPendingConfirm_accounted (ref requestId eventId : String)
    (accounted : state.Accounted eventId) :
    (clearPendingConfirm ref requestId state).Accounted eventId :=
  (clearPendingConfirm_steady ref requestId steady_self).accounted eventId accounted

/-- A wait that ends without the event given up. -/
theorem move_moved {outcome : Outcome} (delivers : job.Delivers state outcome)
    (handed : job.stage.Handed → state.Accounted job.event.eventId)
    (processed : ∀ status, state.store.eventStatuses.get job.event.eventId = some status →
      status ∈ processedStatuses → state.Accounted job.event.eventId)
    (moved : move state index job outcome = some next) : Moved state index job next := by
  unfold move at moved
  dsimp only at moved
  unfold Job.Delivers at delivers
  split at moved
  case h_1 staged =>
    split at moved
    · cases moved
    · split at moved
      case isTrue marked =>
        obtain rfl := Option.some.inj moved
        refine moved_finish (steady_self.of_same (by constructor <;> rfl) rfl rfl rfl rfl) ?_
        cases got : state.store.eventStatuses.get job.event.eventId with
        | none =>
          rw [got] at marked
          exact absurd marked (by decide)
        | some status =>
          rw [got] at marked
          exact processed status got marked
      case isFalse =>
        obtain rfl := Option.some.inj moved
        refine moved_set ?_ _ rfl False.elim
        exact steady_self.of_same (by constructor <;> rfl) rfl rfl rfl rfl
  case h_2 staged =>
    rw [staged] at delivers
    obtain rfl := Option.some.inj moved
    exact chooses_moved delivers
  case h_3 =>
    obtain rfl := Option.some.inj moved
    exact moved_set steady_self _ rfl False.elim
  case h_4 staged =>
    rw [staged] at delivers
    obtain rfl := Option.some.inj moved
    obtain rfl := delivers
    exact submit_moved _ rfl (fun _ steady => clearPendingConfirm_steady _ _ steady)
      (fun _ _ held => clearPendingConfirm_accounted _ _ _ held)
  case h_5 =>
    obtain rfl := Option.some.inj moved
    exact moved_set steady_self _ rfl False.elim
  case h_6 staged =>
    rw [staged] at delivers
    obtain rfl := Option.some.inj moved
    obtain rfl := delivers
    exact submit_moved _ rfl (fun _ steady => steady) (fun _ _ held => held)
  case h_7 =>
    obtain rfl := Option.some.inj moved
    exact moved_set (mark_steady _ fun named => absurd named (by decide)) _ rfl False.elim
  case h_8 staged =>
    rw [staged] at delivers
    cases delivers
  case h_9 =>
    obtain rfl := Option.some.inj moved
    refine moved_set ?_ _ rfl False.elim
    exact steady_self.of_same (by constructor <;> rfl) rfl rfl rfl rfl
  case h_10 stored replay staged =>
    rw [staged] at delivers
    obtain rfl := delivers
    have steady := @storeMessage_steady state job.event.eventId true
    have accounted := @storeMessage_accounted state job.event.eventId
    have discarded := @discardPending_steady state _ index job.event.ref steady
    have accounted' := (@discardPending_steady _ _ index job.event.ref
      (@steady_self (state.storeMessage job.event.eventId true))).accounted _ accounted
    split at moved
    · obtain rfl := Option.some.inj moved
      exact moved_set discarded _ rfl fun _ => accounted'
    · obtain rfl := Option.some.inj moved
      exact moved_set discarded _ rfl fun _ => accounted'
    · obtain rfl := Option.some.inj moved
      exact moved_set steady _ rfl fun _ => accounted
  case h_11 staged =>
    obtain ⟨ok, _, rfl⟩ := Option.map_eq_some_iff.mp moved
    exact moved_set steady_self _ rfl fun _ => handed (by rw [staged]; trivial)
  case h_12 staged =>
    obtain rfl := Option.some.inj moved
    have accounted := handed (by rw [staged]; trivial)
    have discarded := @discardPending_steady state state index job.event.ref steady_self
    exact moved_set discarded _ rfl fun _ => discarded.accounted _ accounted
  case h_13 staged =>
    obtain rfl := Option.some.inj moved
    have accounted := handed (by rw [staged]; trivial)
    exact moved_finish (mark_steady _ fun _ => accounted) accounted
  case h_14 staged =>
    obtain rfl := Option.some.inj moved
    have accounted := handed (by rw [staged]; trivial)
    exact moved_finish (mark_steady _ fun _ => accounted) accounted
  case h_15 staged =>
    rw [staged] at delivers
    cases delivers
  case h_16 staged =>
    rw [staged] at delivers
    cases delivers
  case h_17 staged =>
    rw [staged] at delivers
    cases delivers
  case h_18 staged =>
    rw [staged] at delivers
    cases delivers
  case h_19 => cases moved

end

/-! ## Every run -/

/-- The messages of the answer whose cursor is not yet stored. -/
def Poller.messages : Poller → List Message
  | .polling => []
  | .putting _ messages _ | .joining messages _ | .saving messages _ => messages

/-- The events that are still to be queued. -/
def Poller.events : Poller → List Event
  | .putting events _ _ => events
  | _ => []

/-- The event waits in the queue or is in work. -/
def State.InWork (state : State) (eventId : String) : Prop :=
  (∃ event ∈ state.queue, event.eventId = eventId) ∨
    ∃ (index : Nat) (job : Job), state.workers[index]? = some (some job) ∧
      job.event.eventId = eventId

/-- The event has reached Core, is in work, or is still to be queued. -/
def State.Followed (state : State) (eventId : String) : Prop :=
  state.Accounted eventId ∨ state.InWork eventId ∨
    ∃ event ∈ state.poller.events, event.eventId = eventId

/-- What counts as processed and what is behind the stored cursor has reached Core; what is
behind the next cursor is followed. -/
structure Delivered (adapter : Adapter) (state : State) : Prop where
  passed : NotLost adapter state
  statuses : ∀ eventId status, state.store.eventStatuses.get eventId = some status →
    status ∈ processedStatuses → state.Accounted eventId
  filed : ∀ eventId status, state.file.eventStatuses.get eventId = some status →
    status ∈ processedStatuses → state.Accounted eventId
  handed : ∀ (index : Nat) (job : Job), state.workers[index]? = some (some job) →
    job.stage.Handed → state.Accounted job.event.eventId
  batch : ∀ message ∈ state.poller.messages, message.IsInboundText →
    state.Followed (message.eventId adapter.digest adapter.botId)
  saving : ∀ messages cursor, state.poller = .saving messages cursor →
    ∀ message ∈ messages, message.IsInboundText →
      state.Accounted (message.eventId adapter.digest adapter.botId)

section
variable {adapter : Adapter} {state next : State} {index : Nat} {job : Job}

theorem boot_delivered (delivered : Delivered adapter state) :
    Delivered adapter (boot adapter state.file state.passed state.polls state.accepted
      state.answers) where
  passed := delivered.passed
  statuses := delivered.filed
  filed := delivered.filed
  handed := by
    intro index job found
    exact nomatch List.eq_of_mem_replicate (List.mem_of_getElem? found)
  batch := fun _ member => nomatch member
  saving := fun _ _ saving => nomatch saving

theorem start_delivered : Delivered adapter (start adapter) where
  passed := And.intro (fun _ member => nomatch member) List.nodup_nil
  statuses := fun _ _ found => nomatch found
  filed := fun _ _ found => nomatch found
  handed := by
    intro index job found
    exact nomatch List.eq_of_mem_replicate (List.mem_of_getElem? found)
  batch := fun _ member => nomatch member
  saving := fun _ _ saving => nomatch saving

/-- An event that is in work before a move has reached Core after it or is still in work. -/
theorem Moved.inWork (moved : Moved state index job next)
    (found : state.workers[index]? = some (some job)) {eventId : String}
    (inWork : state.InWork eventId) : next.Accounted eventId ∨ next.InWork eventId := by
  rcases inWork with ⟨event, member, same⟩ | ⟨other, held, placed, same⟩
  · exact Or.inr (Or.inl ⟨event, by rwa [moved.queue], same⟩)
  · by_cases moving : other = index
    · subst moving
      obtain rfl : job = held := Option.some.inj (Option.some.inj (found.symm.trans placed))
      rcases moved.workers with ⟨_, accounted⟩ | ⟨after, workers, event, _⟩
      · exact Or.inl (same ▸ accounted)
      · refine Or.inr (Or.inr ⟨other, after, ?_, by rw [event, same]⟩)
        rw [workers]
        exact Positions.set_self found _
    · refine Or.inr (Or.inr ⟨other, held, ?_, same⟩)
      rcases moved.workers with ⟨workers, _⟩ | ⟨after, workers, _, _⟩
      · rw [workers, List.getElem?_set_ne (Ne.symm moving)]
        exact placed
      · rw [workers, List.getElem?_set_ne (Ne.symm moving)]
        exact placed

theorem moved_delivered (delivered : Delivered adapter state)
    (found : state.workers[index]? = some (some job)) (moved : Moved state index job next) :
    Delivered adapter next where
  passed := by
    refine ⟨fun message member inbound => ?_, moved.once delivered.passed.2⟩
    rw [moved.passed] at member
    exact moved.accounted _ (delivered.passed.1 message member inbound)
  statuses := by
    intro eventId status got processed
    rcases moved.statuses eventId status got processed with before | accounted
    · exact moved.accounted _ (delivered.statuses eventId status before processed)
    · exact accounted
  filed := by
    intro eventId status got processed
    rw [moved.file] at got
    exact moved.accounted _ (delivered.filed eventId status got processed)
  handed := by
    intro other held placed handed
    rcases moved.workers with ⟨workers, _⟩ | ⟨after, workers, event, known⟩
    · rw [workers] at placed
      rcases Positions.set_cases placed with ⟨_, same⟩ | ⟨_, before⟩
      · cases same
      · exact moved.accounted _ (delivered.handed other held before handed)
    · rw [workers] at placed
      rcases Positions.set_cases placed with ⟨_, same⟩ | ⟨_, before⟩
      · obtain rfl := Option.some.inj same
        rw [event]
        exact known handed
      · exact moved.accounted _ (delivered.handed other held before handed)
  batch := by
    intro message member inbound
    rw [moved.poller] at member
    unfold State.Followed
    rw [moved.poller]
    rcases delivered.batch message member inbound with accounted | inWork | waiting
    · exact Or.inl (moved.accounted _ accounted)
    · exact (moved.inWork found inWork).imp id Or.inl
    · exact Or.inr (Or.inr waiting)
  saving := by
    intro messages cursor saving message member inbound
    rw [moved.poller] at saving
    exact moved.accounted _ (delivered.saving messages cursor saving message member inbound)

/-- What a poll brings is to be queued, and without events there is no text of a user. -/
theorem poll_delivered {result : PollResult} (delivered : Delivered adapter state)
    (polled : poll adapter state result = some next) : Delivered adapter next := by
  unfold poll at polled
  split at polled
  case h_2 => cases polled
  case h_1 polling =>
    split at polled
    case h_1 messages cursor =>
      obtain rfl := Option.some.inj polled
      have made : ∀ message ∈ messages, message.IsInboundText → ∃ event ∈ messages.filterMap
          (eventFromMessage adapter.digest adapter.botId state.polls),
          event.eventId = message.eventId adapter.digest adapter.botId := by
        intro message member inbound
        have admitted := (messageDropReason_eq_empty_iff message).mpr inbound
        have brought : eventFromMessage adapter.digest adapter.botId state.polls message = some
            ⟨conversationRef adapter.botId message.peerId,
              message.eventId adapter.digest adapter.botId, message.textContent, state.polls⟩ := by
          unfold eventFromMessage
          rw [if_neg (not_not.mpr admitted)]
        exact ⟨_, List.mem_filterMap.mpr ⟨message, member, brought⟩, rfl⟩
      refine ⟨delivered.passed, delivered.statuses, delivered.filed, delivered.handed, ?_, ?_⟩
      · intro message member inbound
        dsimp only at member
        split at member
        case isTrue none_ =>
          obtain ⟨event, found, _⟩ := made message member inbound
          rw [none_] at found
          cases found
        case isFalse some_ =>
          refine Or.inr (Or.inr ?_)
          dsimp only
          rw [if_neg some_]
          exact made message member inbound
      · intro others cursor' saving message member inbound
        dsimp only at saving
        split at saving
        case isTrue none_ =>
          cases saving
          obtain ⟨event, found, _⟩ := made message member inbound
          rw [none_] at found
          cases found
        case isFalse => cases saving
    · obtain rfl := Option.some.inj polled
      exact ⟨delivered.passed, delivered.statuses, delivered.statuses, delivered.handed,
        delivered.batch, delivered.saving⟩
    · obtain rfl := Option.some.inj polled
      exact delivered

theorem put_delivered (delivered : Delivered adapter state)
    (puts : put adapter state = some next) : Delivered adapter next := by
  unfold put at puts
  split at puts
  case h_1 messages cursor putting =>
    obtain rfl := Option.some.inj puts
    refine { delivered with batch := ?_, saving := fun _ _ saving => nomatch saving }
    intro message member inbound
    have before := delivered.batch message (by rw [putting]; exact member) inbound
    unfold State.Followed at before
    rwa [putting] at before
  case h_2 event events messages cursor putting =>
    split at puts
    · cases puts
    · obtain rfl := Option.some.inj puts
      refine { delivered with batch := ?_, saving := fun _ _ saving => nomatch saving }
      intro message member inbound
      have before := delivered.batch message (by rw [putting]; exact member) inbound
      unfold State.Followed at before
      rw [putting] at before
      rcases before with accounted | (⟨queued, found, same⟩ | working) | ⟨waiting, found, same⟩
      · exact Or.inl accounted
      · exact Or.inr (Or.inl (Or.inl ⟨queued, List.mem_append_left _ found, same⟩))
      · exact Or.inr (Or.inl (Or.inr working))
      · rcases List.mem_cons.mp found with rfl | later
        · exact Or.inr (Or.inl (Or.inl
            ⟨waiting, List.mem_append_right _ (List.mem_singleton.mpr rfl), same⟩))
        · exact Or.inr (Or.inr ⟨waiting, later, same⟩)
  case h_3 => cases puts

/-- When the queue has been worked off, every text of the answer has reached Core. -/
theorem join_delivered (kept : Kept state) (delivered : Delivered adapter state)
    (joins : join state = some next) : Delivered adapter next := by
  unfold join at joins
  split at joins
  case h_2 => cases joins
  case h_1 messages cursor joining =>
    split at joins
    case isTrue => cases joins
    case isFalse none_ =>
      obtain rfl := Option.some.inj joins
      have counted := kept.counted
      have idle : ∀ eventId, ¬state.InWork eventId := by
        rintro eventId (⟨event, member, _⟩ | ⟨index, job, found, _⟩)
        · have positive := List.length_pos_of_mem member
          omega
        · exact none_ (Nat.pos_iff_ne_zero.mp (kept.unfinished_pos found))
      have settled : ∀ message ∈ messages, message.IsInboundText →
          state.Accounted (message.eventId adapter.digest adapter.botId) := by
        intro message member inbound
        have before := delivered.batch message (by rw [joining]; exact member) inbound
        unfold State.Followed at before
        rw [joining] at before
        rcases before with accounted | inWork | ⟨event, found, _⟩
        · exact accounted
        · exact absurd inWork (idle _)
        · cases found
      refine { delivered with batch := ?_, saving := ?_ }
      · exact fun message member inbound => Or.inl (settled message member inbound)
      · intro others cursor' saving message member inbound
        cases saving
        exact settled message member inbound

theorem save_delivered (delivered : Delivered adapter state) (saves : save state = some next) :
    Delivered adapter next := by
  unfold save at saves
  split at saves
  case h_2 => cases saves
  case h_1 messages cursor saving =>
    have settled := delivered.saving messages cursor saving
    split at saves
    · obtain rfl := Option.some.inj saves
      exact { delivered with
        batch := fun _ member => nomatch member
        saving := fun _ _ saving => nomatch saving }
    · obtain rfl := Option.some.inj saves
      refine { delivered with
        passed := ?_
        batch := fun _ member => nomatch member
        saving := fun _ _ saving => nomatch saving }
      refine ⟨fun message member inbound => ?_, delivered.passed.2⟩
      rcases List.mem_append.mp member with before | new
      · exact delivered.passed.1 message before inbound
      · exact settled message new inbound

theorem take_delivered (delivered : Delivered adapter state)
    (takes : take state index = some next) : Delivered adapter next := by
  unfold take at takes
  split at takes
  case h_2 => cases takes
  case h_1 event queue free queued =>
    obtain rfl := Option.some.inj takes
    refine { delivered with handed := ?_, batch := ?_ }
    · intro other held placed handed
      rcases Positions.set_cases placed with ⟨_, same⟩ | ⟨_, before⟩
      · obtain rfl := Option.some.inj same
        cases handed
      · exact delivered.handed other held before handed
    · intro message member inbound
      rcases delivered.batch message member inbound with accounted |
        (⟨waiting, found, same⟩ | ⟨other, held, placed, same⟩) | outside
      · exact Or.inl accounted
      · rw [queued] at found
        rcases List.mem_cons.mp found with rfl | later
        · exact Or.inr (Or.inl (Or.inr ⟨index, _, Positions.set_self free _, same⟩))
        · exact Or.inr (Or.inl (Or.inl ⟨waiting, later, same⟩))
      · refine Or.inr (Or.inl (Or.inr ⟨other, held, ?_, same⟩))
        have different : index ≠ other := by
          rintro rfl
          rw [free] at placed
          cases placed
        dsimp only
        rw [List.getElem?_set_ne different]
        exact placed
      · exact Or.inr (Or.inr outside)

/-- A frame changes neither the events in work nor where their workers are. -/
theorem receive_delivered (delivered : Delivered adapter state) (ref : String)
    (frame : CoreFrame) : Delivered adapter (receive state ref frame) := by
  unfold receive
  split
  · split
    · exact delivered
    · exact { delivered with }
  · split
    · exact { delivered with }
    · exact delivered
  · split
    · exact delivered
    · exact { delivered with }
  · split
    · exact { delivered with }
    · exact delivered
  · split
    · exact delivered
    · dsimp only
      split
      case h_1 job found =>
        refine moved_delivered delivered found (moved_set ?_ _ rfl ?_)
        · exact steady_self.of_same (by constructor <;> rfl) rfl rfl rfl rfl
        · exact fun handed => delivered.handed _ job found handed
      · exact { delivered with }

theorem write_delivered (delivered : Delivered adapter state) (oldest : List String) :
    Delivered adapter (write state oldest) := by
  have trimmed : ∀ eventId status,
      (write state oldest).store.eventStatuses.get eventId = some status →
        status ∈ processedStatuses → state.Accounted eventId := by
    intro eventId status got processed
    unfold write at got
    dsimp only at got
    split at got
    · exact delivered.statuses eventId status ((Dict.get_discard_iff _ _ _ _).mp got).1 processed
    · exact delivered.statuses eventId status got processed
  exact { delivered with statuses := trimmed, filed := trimmed }

theorem step_delivered {action : Action} (kept : Kept state) (delivered : Delivered adapter state)
    (delivers : Delivers state action) (stepped : step adapter state action = some next) :
    Delivered adapter next := by
  cases action with
  | polls result => exact poll_delivered delivered stepped
  | puts => exact put_delivered delivered stepped
  | joins => exact join_delivered kept delivered stepped
  | saves => exact save_delivered delivered stepped
  | takes index => exact take_delivered delivered stepped
  | moves index outcome =>
    unfold step at stepped
    unfold Delivers at delivers
    dsimp only at stepped delivers
    split at stepped
    case h_1 job found =>
      rw [found] at delivers
      refine moved_delivered delivered found (move_moved delivers ?_ ?_ stepped)
      · exact delivered.handed index job found
      · exact fun status => delivered.statuses job.event.eventId status
    · cases stepped
  | receives ref frame =>
    obtain rfl := Option.some.inj stepped
    exact receive_delivered delivered ref frame
  | writes oldest =>
    obtain rfl := Option.some.inj stepped
    exact write_delivered delivered oldest
  | restarts =>
    obtain rfl := Option.some.inj stepped
    exact boot_delivered delivered

end

/-- In every run whose workers give up no event before Core has it, every text of a user behind
the stored cursor has reached Core. -/
theorem run_notLost (adapter : Adapter) (actions : List Action)
    (delivers : Taking (step adapter) Delivers (start adapter) actions) :
    Throughout (step adapter) (NotLost adapter) (start adapter) actions := by
  refine ⟨start_delivered.passed, ?_⟩
  refine Along.imp_of_invariant (fun state => Kept state ∧ Delivered adapter state) ?_ ?_
    ⟨start_kept adapter _ _ _ _ _, start_delivered⟩ delivers
  · exact fun state action next ⟨kept, delivered⟩ met stepped =>
      ⟨step_kept kept stepped, step_delivered kept delivered (met next stepped) stepped⟩
  · exact fun state action ⟨kept, delivered⟩ met next stepped =>
      (step_delivered kept delivered (met next stepped) stepped).passed

/-! ## A message that is given up -/

instance (job : Job) (state : State) (outcome : Outcome) :
    Decidable (job.Delivers state outcome) := by
  unfold Job.Delivers
  split <;> infer_instance

instance (state : State) : DecidablePred (Delivers state)
  | .moves index outcome => by
    unfold Delivers
    dsimp only
    split <;> infer_instance
  | .polls _ | .puts | .joins | .saves | .takes _ | .receives _ _ | .writes _ | .restarts =>
    isTrue trivial

/-- A direct text that names its message. -/
def helloMessage : Message :=
  ⟨1, "m1", "peer", "bot", 5, "", 1, 2, "token", [⟨1, "hello", true⟩]⟩

/-- A message is handed to Core, whose answer is lost; the process is restarted before the
cursor is stored, and the message is brought again. -/
theorem run_notLost_restart :
    Throughout (step oneWorker) (NotLost oneWorker) (start oneWorker)
      [.polls (.fetched [helloMessage] "c1"), .puts, .takes 0, .moves 0 .returns,
        .moves 0 .returns, .moves 0 .returns, .moves 0 .returns, .moves 0 (.sent true none),
        .restarts, .polls (.fetched [helloMessage] "c1"), .puts, .puts, .takes 0,
        .moves 0 .returns, .moves 0 .returns, .moves 0 .returns, .moves 0 .returns,
        .moves 0 (.sent true (some true)), .moves 0 .returns, .joins, .saves, .writes []] :=
  run_notLost oneWorker _ (by decide +kernel)

/-- The submission of a message to Core fails, and the cursor moves past the message. -/
theorem given_up_lost :
    ¬∀ (adapter : Adapter) (actions : List Action),
      Throughout (step adapter) (NotLost adapter) (start adapter) actions := by
  intro always
  obtain ⟨final, completed⟩ : ∃ final, run (step oneWorker) (start oneWorker)
      [.polls (.fetched [helloMessage] "c1"), .puts, .puts, .takes 0, .moves 0 .returns,
        .moves 0 .returns, .moves 0 .returns, .moves 0 .returns, .moves 0 (.sent false none),
        .moves 0 .returns, .joins, .saves, .writes []] = some final :=
    ⟨_, rfl⟩
  have kept := (always oneWorker _).final completed
  obtain rfl := Option.some.inj completed
  rcases kept.1 helloMessage List.mem_cons_self
    ((messageDropReason_eq_empty_iff _).mp (by decide +kernel)) with stored | ⟨_, answered, _⟩
  · exact absurd stored (by decide +kernel)
  · cases answered

end MeetYou.ClawBotInbound
