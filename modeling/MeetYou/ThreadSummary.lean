import MeetYou.Foundation.Runs
import MeetYou.ThreadContext

/-!
# The stored summary of a thread

Before a turn the context of a thread is read: a window of its newest messages, and
a summary of the older ones that is stored with the thread and refreshed when more
messages have become old than it counts. A refresh reads a page of older messages,
waits for the summariser, and stores its result with the new count. Messages and
other refreshes may come in while it waits.

Beside the store this machine records which messages each stored summary contains,
directly or through the summary it was made from. A summary counts only messages it
contains as long as, whenever a refresh is stored, the messages behind the window that
were not counted before fit on the page it read, none of them is blank or excluded, and
no message comes in among those already counted.
-/

namespace MeetYou.ThreadSummary

open ConversationStore ThreadContext Runs

/-- A message as the model is given it. -/
structure ModelMessage where
  role : String
  content : String
  metadata : Fields

/-- `_thread_message_metadata`. -/
def threadMessageMetadata (messageId : MessageId) (row : Message) : Fields :=
  let metadata := row.metadata.update (Fields.of [("context_layer", .str "thread_history"),
    ("persisted_thread_history", .bool true), ("thread_context_message_id", .str messageId)])
  match row.activeWorkspaceId with
  | none => metadata
  | some workspaceId => metadata.set "active_workspace_row_id" (.str workspaceId)

/-- `_thread_message_to_model_message`. -/
def threadMessageToModelMessage (entry : MessageId × Message) : ModelMessage where
  role := orText entry.2.role "user"
  content := entry.2.content
  metadata := threadMessageMetadata entry.1 entry.2

/-- Whether `_rows_to_summary_messages` passes a row on. -/
def isSummarized (row : Message) : Bool :=
  decide (Text.strip row.content ≠ "" ∧ (row.role = "user" ∨ row.role = "assistant"))

/-- `_rows_to_summary_messages`. -/
def rowsToSummaryMessages (rows : List (MessageId × Message)) : List ModelMessage :=
  (rows.filter fun entry => isSummarized entry.2).map threadMessageToModelMessage

/-- `_normalize_conversation_summary`. -/
def normalizeConversationSummary (summary : String) : String :=
  let text := Text.strip summary
  if text = "当前没有暂存的上下文信息。" then "" else text

/-- `summarized_message_count` of a thread's `context_summary`, 0 where there is
none. The service stores a number there; `none` stands for any other kind of value. -/
def summarizedMessageCount (metadata : Fields) : Option Int :=
  match metadata.get "context_summary" with
  | some (.obj fields) =>
      match Dict.find "summarized_message_count" fields with
      | none => some 0
      | some value =>
          if !value.truthy then some 0
          else match value with
            | .num value => some (value.num.tdiv value.den)
            | .bool _ => some 1
            | _ => none
  | _ => some 0

/-- `_thread_summary_meta`. -/
def threadSummaryMeta (olderCount summarizedCount messageLimit : Int) (updatedAt : String) : Fields :=
  Fields.of [("context_summary", .obj [
    ("older_message_count", .num (max 0 olderCount : Int)),
    ("summarized_message_count", .num (max 0 summarizedCount : Int)),
    ("summary_message_limit", .num (max 1 messageLimit : Int)),
    ("updated_at", .str updatedAt)])]

/-- `ThreadRepository.update_summary`. -/
def updateSummary (store : Store) (threadId : ThreadId) (summary : String) (metadata : Fields) :
    Store :=
  { store with threads := store.threads.revise threadId fun row =>
      { row with summary := Text.strip summary, metadata := row.metadata.update metadata } }

/-- The arguments of `hydrate_thread_context`. -/
structure Request where
  threadId : String
  currentMessageId : String := ""
  currentEndpointMessageId : String := ""
  exactMessageLimit : Int := 24
  summaryMessageLimit : Int := 80

/-- `max(1, int(exact_message_limit or default))`. -/
def Request.exactLimit (request : Request) : Int :=
  max 1 (if request.exactMessageLimit = 0 then 24 else request.exactMessageLimit)

/-- `max(1, int(summary_message_limit or default))`. -/
def Request.summaryLimit (request : Request) : Int :=
  max 1 (if request.summaryMessageLimit = 0 then 80 else request.summaryMessageLimit)

/-- What `hydrate_thread_context` returns. -/
structure Hydrated where
  threadId : String
  summary : String
  messages : List ModelMessage
  olderCount : Nat

/-- A hydration that waits for the summariser. -/
structure Refresh where
  threadId : ThreadId
  summary : String
  summarizedCount : Int
  olderCount : Nat
  summaryLimit : Int
  exactMessages : List ModelMessage
  olderRows : List (MessageId × Message)

/-- How far a hydration gets without waiting. -/
inductive Begun where
  | raised
  | returned (hydrated : Option Hydrated)
  | waiting (refresh : Refresh)

/-- `hydrate_thread_context` up to the call of the summariser. -/
def hydrateBegin (written : Json → String) (orders : Orders) (store : Store) (request : Request) :
    Begun :=
  let threadId := Text.strip request.threadId
  match (store.threads.get threadId).filter fun _ => decide (threadId ≠ "") with
  | none => .returned none
  | some thread =>
      let window := loadThreadContextWindow written orders store threadId request.currentMessageId
        request.currentEndpointMessageId request.exactLimit
      let exactMessages := rowsToSummaryMessages window.messages
      let summary := Text.strip thread.summary
      match summarizedMessageCount thread.metadata with
      | none => .raised
      | some summarizedCount =>
          let olderRows := listOlderThreadContextMessages written orders store threadId
            request.currentMessageId request.currentEndpointMessageId request.exactLimit
            request.summaryLimit
          if 0 < window.olderCount ∧ (summary = "" ∨ summarizedCount < window.olderCount) ∧
              rowsToSummaryMessages olderRows ≠ [] then
            .waiting { threadId, summary, summarizedCount, olderCount := window.olderCount,
                       summaryLimit := request.summaryLimit, exactMessages, olderRows }
          else .returned (some { threadId, summary, messages := exactMessages,
                                 olderCount := window.olderCount })

/-- What the summariser and the write of its result come to. -/
structure Outcome where
  /-- The summariser's text; `none` is a raised exception. -/
  result : Option String
  /-- The write of the summary goes through. -/
  persisted : Bool
  updatedAt : String

/-- The summary an outcome gives, empty when there is none. -/
def Outcome.nextSummary (outcome : Outcome) : String :=
  normalizeConversationSummary (outcome.result.getD "")

/-- The outcome stores a summary. -/
def Outcome.stores (outcome : Outcome) : Bool :=
  decide (outcome.nextSummary ≠ "") && outcome.persisted

/-- The count a stored refresh leaves. -/
def Refresh.count (refresh : Refresh) : Int := max refresh.olderCount refresh.summarizedCount

/-- `hydrate_thread_context` after the call of the summariser. -/
def hydrateFinish (store : Store) (refresh : Refresh) (outcome : Outcome) : Store × Hydrated :=
  let summary := if outcome.nextSummary = "" then refresh.summary else outcome.nextSummary
  (if outcome.stores then
      updateSummary store refresh.threadId outcome.nextSummary
        (threadSummaryMeta refresh.olderCount refresh.count refresh.summaryLimit outcome.updatedAt)
    else store,
    { threadId := refresh.threadId, summary, messages := refresh.exactMessages,
      olderCount := refresh.olderCount })

/-- A waiting refresh, with its request, the store it read, and the messages its result
will contain. -/
structure Waiting where
  refresh : Refresh
  request : Request
  since : Store
  covers : List MessageId

/-- The store, the refreshes that wait, and the messages each stored summary
contains. -/
structure State where
  store : Store
  waiting : Dict Nat Waiting
  covered : ThreadId → List MessageId

/-- An empty store, and nothing is summarised. -/
def State.start : State := ⟨Store.start, Dict.empty, fun _ => []⟩

/-- A thread is created, a message is added, a hydration begins or its summariser
answers. -/
inductive Action where
  | createThread (threadId : ThreadId) (metadata : Fields)
  | addMessage (messageId : MessageId) (row : Message)
  | begin (call : Nat) (orders : Orders) (request : Request)
  | finish (call : Nat) (outcome : Outcome)

/-- A message is added to a thread that exists. -/
def addMessage (store : Store) (messageId : MessageId) (row : Message) : Option Store :=
  match store.threads.get row.threadId with
  | none => none
  | some _ => createMessageRow store messageId row

/-- A refresh that begins now. Its result will contain the messages handed over, and those
in the summary it goes on from. -/
def waitingOf (state : State) (request : Request) (refresh : Refresh) : Waiting where
  refresh := refresh
  request := request
  since := state.store
  covers := (refresh.olderRows.filter fun entry => isSummarized entry.2).map Prod.fst ++
    if refresh.summary = "" then [] else state.covered refresh.threadId

/-- One step. -/
def step (written : Json → String) (state : State) : Action → Option State
  | .createThread threadId metadata =>
      (createThread state.store threadId metadata).map fun store => { state with store }
  | .addMessage messageId row =>
      (addMessage state.store messageId row).map fun store => { state with store }
  | .begin call orders request =>
      match hydrateBegin written orders state.store request with
      | .raised | .returned _ => some state
      | .waiting refresh =>
          (state.waiting.insertNew call (waitingOf state request refresh)).map
            fun waiting => { state with waiting }
  | .finish call outcome =>
      (state.waiting.get call).map fun entry =>
        { store := (hydrateFinish state.store entry.refresh outcome).1
          waiting := state.waiting.pop call
          covered := if outcome.stores then
              Function.update state.covered entry.refresh.threadId entry.covers
            else state.covered }

/-- The context messages of the thread created before this instant. -/
def olderThan (store : Store) (threadId : ThreadId) (instant : Instant) :
    List (MessageId × Message) :=
  (rowsOfThread store threadId).filter fun entry =>
    isContext entry.2 && decide (entry.2.createdAt < instant)

/-- A message counts among so many oldest ones when fewer are older. -/
def AmongOldest (store : Store) (threadId : ThreadId) (count : Int) (row : Message) : Prop :=
  ((olderThan store threadId row.createdAt).length : Int) < count

/-- Every context message among those a stored summary counts is contained in it. -/
def CoversCounted (state : State) : Prop :=
  ∀ threadId thread count, state.store.threads.get threadId = some thread →
    summarizedMessageCount thread.metadata = some count →
      ∀ entry ∈ rowsOfThread state.store threadId, isContext entry.2 = true →
        AmongOldest state.store threadId count entry.2 → entry.1 ∈ state.covered threadId

instance decidableAmongOldest (store : Store) (threadId : ThreadId) (count : Int) (row : Message) :
    Decidable (AmongOldest store threadId count row) :=
  inferInstanceAs (Decidable (_ < _))

/-- A message is not among those its thread's summary counts. -/
def Behind (store : Store) (row : Message) : Prop :=
  ∀ thread ∈ store.threads.get row.threadId, ∀ count ∈ summarizedMessageCount thread.metadata,
    ¬ AmongOldest store row.threadId count row

instance decidableBehind (store : Store) (row : Message) : Decidable (Behind store row) :=
  inferInstanceAs (Decidable (∀ thread ∈ store.threads.get row.threadId,
    ∀ count ∈ summarizedMessageCount thread.metadata, ¬ AmongOldest store row.threadId count row))

/-- The thread a request asks for. -/
def Request.thread (request : Request) : ThreadId := Text.strip request.threadId

/-- The context messages of the thread before the current one. -/
def Request.asked (request : Request) (store : Store) : List (MessageId × Message) :=
  (rowsOfThread store request.thread).filter fun entry =>
    isContext entry.2 && isBefore store request.thread request.currentMessageId entry

/-- The count stored with the thread. -/
def Request.counted (request : Request) (store : Store) : Int :=
  ((store.threads.get request.thread).bind fun thread =>
    summarizedMessageCount thread.metadata).getD 0

/-- How many messages were created behind an instant. -/
def newerThan (rows : List (MessageId × Message)) (instant : Instant) : Nat :=
  rows.countP fun entry => decide (instant < entry.2.createdAt)

/-- How many messages were created at an instant or behind it. -/
def notOlderThan (rows : List (MessageId × Message)) (instant : Instant) : Nat :=
  rows.countP fun entry => decide (instant ≤ entry.2.createdAt)

/-- A message that a refresh counts first is on its page: it stands behind the window, but not
by more messages than the page holds, has a text, and is not the one excluded. -/
structure OnPage (written : Json → String) (since : Store) (request : Request)
    (message : Message) : Prop where
  behind : request.exactLimit ≤ newerThan (request.asked since) message.createdAt
  within : notOlderThan (request.asked since) message.createdAt ≤
    request.exactLimit + min request.summaryLimit 400
  spoken : isSummarized message = true
  included : matchesEndpointMessageId written request.currentEndpointMessageId message = false

instance decidableOnPage (written : Json → String) (since : Store) (request : Request)
    (message : Message) : Decidable (OnPage written since request message) :=
  decidable_of_iff (_ ∧ _ ∧ _ ∧ _)
    ⟨fun ⟨behind, within, spoken, included⟩ => ⟨behind, within, spoken, included⟩,
      fun ⟨behind, within, spoken, included⟩ => ⟨behind, within, spoken, included⟩⟩

/-- The window is not cut, and every message before the current one that may stand behind it
was counted when the refresh began, or is on its page. -/
def PageHolds (written : Json → String) (since : Store) (request : Request) : Prop :=
  request.exactLimit ≤ 200 ∧ ∀ entry ∈ request.asked since,
    request.exactLimit < notOlderThan (request.asked since) entry.2.createdAt →
      ¬AmongOldest since request.thread (request.counted since) entry.2 →
        OnPage written since request entry.2

instance decidablePageHolds (written : Json → String) (since : Store) (request : Request) :
    Decidable (PageHolds written since request) :=
  inferInstanceAs (Decidable (_ ∧ _))

/-- How many messages there are to count when a refresh begins: those behind the window, or those
that were counted. -/
def Request.most (request : Request) (since : Store) : Int :=
  max ((request.asked since).length - request.exactLimit) (request.counted since)

/-- No context message that came in since a refresh began is among those it may count. -/
def ComesBehind (store since : Store) (request : Request) : Prop :=
  ∀ entry ∈ rowsOfThread store request.thread, isContext entry.2 = true →
    (since.messages.get entry.1).isNone → ¬AmongOldest store request.thread (request.most since) entry.2

instance decidableComesBehind (store since : Store) (request : Request) :
    Decidable (ComesBehind store since request) :=
  List.decidableBAll _ _

/-- A thread starts without a count, and a context message is added behind those counted. When a
refresh is stored, its page held what it counts first, and what came in while it waited stands
behind what it counts. -/
def Fits (written : Json → String) (state : State) : Action → Prop
  | .createThread _ metadata => metadata.get "context_summary" = none
  | .addMessage _ row => isContext row = true → Behind state.store row
  | .begin _ _ _ => True
  | .finish call outcome => ∀ entry ∈ state.waiting.get call, outcome.stores = true →
      PageHolds written entry.since entry.request ∧
        ComesBehind state.store entry.since entry.request

instance decidableFits (written : Json → String) (state : State) :
    ∀ action, Decidable (Fits written state action)
  | .createThread _ metadata =>
      decidable_of_iff ((metadata.get "context_summary").isNone = true) Option.isNone_iff_eq_none
  | .addMessage _ row => inferInstanceAs (Decidable (isContext row = true → Behind state.store row))
  | .begin _ _ _ => inferInstanceAs (Decidable True)
  | .finish call outcome => inferInstanceAs (Decidable (∀ entry ∈ state.waiting.get call,
      outcome.stores = true → PageHolds written entry.since entry.request ∧
        ComesBehind state.store entry.since entry.request))

/-! ## What a page holds -/

section
variable {excluded : Message → Bool}

/-- The first rows are taken, as many as the limit, unless they are excluded. -/
theorem mem_takeRows_of_mem_take {remaining : Nat} {rows : List (MessageId × Message)}
    {entry : MessageId × Message} (member : entry ∈ rows.take remaining)
    (included : excluded entry.2 = false) : entry ∈ (takeRows excluded remaining rows).1 := by
  induction rows generalizing remaining with
  | nil => simp at member
  | cons first rest inductionHypothesis =>
    cases remaining with
    | zero => simp at member
    | succ remaining =>
      rw [List.take_succ_cons] at member
      rw [takeRows]
      split
      · next skipped =>
        rcases List.mem_cons.mp member with rfl | later
        · rw [included] at skipped
          cases skipped
        · refine inductionHypothesis (List.mem_of_mem_take (i := remaining) ?_)
          rwa [List.take_take, Nat.min_eq_left (Nat.le_succ remaining)]
      · rcases List.mem_cons.mp member with rfl | later
        · exact List.mem_cons_self
        · exact List.mem_cons_of_mem first (inductionHypothesis later)

/-- The rows taken and skipped are as many as the limit, or all. -/
theorem takeRows_length (remaining : Nat) (rows : List (MessageId × Message)) :
    min remaining rows.length ≤
      (takeRows excluded remaining rows).1.length + (takeRows excluded remaining rows).2 := by
  induction rows generalizing remaining with
  | nil => simp
  | cons first rest inductionHypothesis =>
    cases remaining with
    | zero => simp
    | succ remaining =>
      rw [takeRows]
      split
      · have next := inductionHypothesis (remaining + 1)
        simp only [List.length_cons]
        omega
      · have next := inductionHypothesis remaining
        simp only [List.length_cons]
        omega

end

section
variable {written : Json → String} {orders : Orders} {store : Store} {request : Request}

theorem exactLimit_pos (request : Request) : 1 ≤ request.exactLimit := le_max_left _ _

theorem summaryLimit_pos (request : Request) : 1 ≤ request.summaryLimit := le_max_left _ _

/-- The query of a request, in some order of its messages. -/
theorem query_perm : (threadContextQuery orders store request.thread
    request.currentMessageId).Perm (request.asked store) :=
  orders.newestFirst.perm _

/-- Behind a whole window there are no more messages than the query has behind its length. -/
theorem olderCount_le (uncut : request.exactLimit ≤ 200) (excludeEndpointMessageId : String) :
    ((loadThreadContextWindow written orders store request.thread request.currentMessageId
      excludeEndpointMessageId request.exactLimit).olderCount : Int) ≤
        max 0 ((request.asked store).length - request.exactLimit) := by
  have positive := exactLimit_pos request
  have long := (@query_perm orders store request).length_eq
  simp only [loadThreadContextWindow]
  generalize threadContextQuery orders store request.thread request.currentMessageId = query at *
  have limit : boundedLimit request.exactLimit 24 200 = request.exactLimit.toNat := by
    unfold boundedLimit
    rw [if_neg (by omega)]
    omega
  rw [limit]
  have taken := @takeRows_length (matchesEndpointMessageId written excludeEndpointMessageId)
    request.exactLimit.toNat (query.take (min (request.exactLimit.toNat + 8) 240))
  rw [List.length_take] at taken
  omega

/-- A message on the page is handed to the summariser. -/
theorem handed_of_onPage {entry : MessageId × Message} (asked : entry ∈ request.asked store)
    (onPage : OnPage written store request entry.2) :
    entry.1 ∈ ((listOlderThreadContextMessages written orders store request.thread
      request.currentMessageId request.currentEndpointMessageId request.exactLimit
      request.summaryLimit).filter fun row => isSummarized row.2).map Prod.fst := by
  have positive := exactLimit_pos request
  have some_ := summaryLimit_pos request
  obtain ⟨place, bound, found⟩ := List.mem_iff_getElem.mp
    ((@query_perm orders store request).mem_iff.mpr asked)
  have around := OrderBy.counts_around (orders.newestFirst.sorted _)
    (List.getElem?_eq_some_iff.mpr ⟨bound, found⟩)
  have newer : newerThan (request.asked store) entry.2.createdAt ≤ place := by
    refine le_trans (le_of_eq ?_) around.1
    rw [newerThan, ← (@query_perm orders store request).countP_eq]
    rfl
  have notOlder : place < notOlderThan (request.asked store) entry.2.createdAt := by
    refine lt_of_lt_of_eq around.2 ?_
    rw [notOlderThan, ← (@query_perm orders store request).countP_eq]
    rfl
  have behind := onPage.behind
  have within := onPage.within
  refine List.mem_map.mpr ⟨entry, List.mem_filter.mpr ⟨?_, onPage.spoken⟩, rfl⟩
  simp only [listOlderThreadContextMessages, List.mem_reverse]
  refine mem_takeRows_of_mem_take ?_ onPage.included
  have limit : boundedLimit request.summaryLimit 80 400 = min request.summaryLimit.toNat 400 := by
    unfold boundedLimit
    rw [if_neg (by omega)]
    omega
  rw [limit, List.take_take]
  refine List.mem_iff_getElem?.mpr ⟨place - request.exactLimit.toNat, ?_⟩
  rw [List.getElem?_take_of_lt (by omega), List.getElem?_drop]
  have back : request.exactLimit.toNat + (place - request.exactLimit.toNat) = place := by omega
  rw [back]
  exact List.getElem?_eq_some_iff.mpr ⟨bound, found⟩

/-- A message of the thread is before the current one if it is older, where that is one of the
thread too. -/
theorem isBefore_iff_older {threadId : ThreadId} {beforeMessageId : String}
    {entry : MessageId × Message} (member : entry ∈ rowsOfThread store threadId) :
    isBefore store threadId beforeMessageId entry = true ↔ ∀ row, Text.strip beforeMessageId ≠ "" →
      store.messages.get (Text.strip beforeMessageId) = some row → row.threadId = threadId →
        entry.2.createdAt < row.createdAt := by
  obtain ⟨listed, home⟩ := List.mem_filter.mp member
  have found := (Dict.get_some_iff store.messages entry.1 entry.2).mpr listed
  have home := of_decide_eq_true home
  unfold isBefore
  dsimp only
  generalize Text.strip beforeMessageId = before
  by_cases blank : before = ""
  · simp [blank]
  · rw [if_neg blank]
    cases current : store.messages.get before with
    | none =>
      have other : entry.1 ≠ before := by
        rintro same
        rw [← same, found] at current
        cases current
      simp [other]
    | some row =>
      by_cases here : row.threadId = threadId
      · simp only [here, if_true, Bool.and_eq_true, decide_eq_true_eq]
        constructor
        · rintro ⟨earlier, _⟩ _ _ same _
          exact Option.some.inj same ▸ earlier
        · intro all
          have earlier := all row blank rfl here
          refine ⟨earlier, .inr fun same => ?_⟩
          rw [← same, found] at current
          exact absurd earlier (Option.some.inj current ▸ lt_irrefl _)
      · have other : entry.1 ≠ before := by
          rintro same
          rw [← same, found] at current
          exact here (Option.some.inj current ▸ home)
        simp only [here, if_false, Bool.true_and, decide_eq_true_eq]
        refine ⟨fun _ other _ same home => ?_, fun _ => .inr other⟩
        exact absurd (Option.some.inj same ▸ home) here

/-- A context message that is older than one before the current message is before it too, so a
message before the current one has as many older ones in its thread as in the query. -/
theorem asked_length {entry : MessageId × Message} (asked : entry ∈ request.asked store) :
    (request.asked store).length = (olderThan store request.thread entry.2.createdAt).length +
      notOlderThan (request.asked store) entry.2.createdAt := by
  have before := (Bool.and_eq_true_iff.mp (List.mem_filter.mp asked).2).2
  have older : olderThan store request.thread entry.2.createdAt =
      (request.asked store).filter fun other => decide (other.2.createdAt < entry.2.createdAt) := by
    rw [olderThan, Request.asked, List.filter_filter]
    refine List.filter_congr fun other member => ?_
    by_cases earlier : other.2.createdAt < entry.2.createdAt
    · have too : isBefore store request.thread request.currentMessageId other = true :=
        (isBefore_iff_older member).mpr fun row some_ current home => earlier.trans
          ((isBefore_iff_older (List.mem_filter.mp asked).1).mp before row some_ current home)
      simp [earlier, too]
    · simp [earlier]
  rw [older, ← List.countP_eq_length_filter, notOlderThan,
    List.length_eq_countP_add_countP (fun other : MessageId × Message =>
      decide (other.2.createdAt < entry.2.createdAt))]
  simp only [decide_eq_true_eq, not_lt]

/-- A context message that is not before the current one has all that are among its older ones. -/
theorem asked_older {entry : MessageId × Message} (member : entry ∈ rowsOfThread store request.thread)
    (context : isContext entry.2 = true) (other : entry ∉ request.asked store) :
    (request.asked store).length ≤ (olderThan store request.thread entry.2.createdAt).length := by
  have after : isBefore store request.thread request.currentMessageId entry = false := by
    by_contra before
    refine other (List.mem_filter.mpr ⟨member, ?_⟩)
    rw [context, Bool.true_and]
    exact eq_true_of_ne_false before
  rw [olderThan, Request.asked, ← List.countP_eq_length_filter, ← List.countP_eq_length_filter]
  refine List.countP_mono_left fun row among both => ?_
  obtain ⟨isContext_, before⟩ := Bool.and_eq_true_iff.mp both
  rw [isContext_, Bool.true_and, decide_eq_true_eq]
  by_contra notOlder
  refine Bool.false_ne_true (after.symm.trans ?_)
  refine (isBefore_iff_older member).mpr fun current some_ found home => ?_
  exact lt_of_le_of_lt (not_lt.mp notOlder)
    ((isBefore_iff_older among).mp before current some_ found home)

end

section
variable {store next : Store} {threadId : ThreadId}

theorem amongOldest_nonneg {count : Int} {row : Message}
    (among : AmongOldest store threadId count row) : 0 < count := by
  unfold AmongOldest at among
  omega

/-- A smaller count counts fewer messages. -/
theorem AmongOldest.mono {count larger : Int} {row : Message}
    (among : AmongOldest store threadId count row) (most : count ≤ larger) :
    AmongOldest store threadId larger row := by
  unfold AmongOldest at among ⊢
  omega

/-- Adding a message appends one row. -/
theorem rows_added {messageId : MessageId} {row : Message}
    (added : addMessage store messageId row = some next) :
    store.messages.get messageId = none ∧ next.threads = store.threads ∧
      next.messages = store.messages.set messageId row ∧
        ∀ threadId, rowsOfThread next threadId = rowsOfThread store threadId ++
          if row.threadId = threadId then [(messageId, row)] else [] := by
  unfold addMessage at added
  split at added
  · cases added
  · simp only [createMessageRow, Option.map_eq_some_iff, Dict.insertNew_some_iff] at added
    obtain ⟨_, ⟨fresh, rfl⟩, rfl⟩ := added
    refine ⟨fresh, rfl, rfl, fun threadId => ?_⟩
    rw [rowsOfThread, Dict.entries_set_absent fresh, List.filter_append, rowsOfThread]
    congr 1
    by_cases here : row.threadId = threadId
    · simp [here]
    · simp [here]

/-- The messages older than an instant only become more. -/
theorem amongOldest_before {messageId : MessageId} {row tested : Message} {count : Int}
    (added : addMessage store messageId row = some next)
    (among : AmongOldest next threadId count tested) : AmongOldest store threadId count tested := by
  obtain ⟨_, _, _, rows⟩ := rows_added added
  unfold AmongOldest olderThan at among ⊢
  rw [rows, List.filter_append, List.length_append] at among
  omega

/-- A new message is not older than itself. -/
theorem amongOldest_new {messageId : MessageId} {row : Message} {count : Int}
    (added : addMessage store messageId row = some next) :
    AmongOldest next row.threadId count row ↔ AmongOldest store row.threadId count row := by
  obtain ⟨_, _, _, rows⟩ := rows_added added
  unfold AmongOldest olderThan
  rw [rows, List.filter_append, List.length_append, if_pos rfl]
  simp

/-- What a waiting refresh has read of its thread. -/
theorem hydrateBegin_waiting {written : Json → String} {orders : Orders} {request : Request}
    {refresh : Refresh} (begun : hydrateBegin written orders store request = .waiting refresh) :
    refresh.threadId = request.thread ∧
      (∃ thread, store.threads.get request.thread = some thread ∧
        refresh.summary = Text.strip thread.summary ∧
        summarizedMessageCount thread.metadata = some refresh.summarizedCount) ∧
      refresh.olderCount = (loadThreadContextWindow written orders store request.thread
        request.currentMessageId request.currentEndpointMessageId request.exactLimit).olderCount ∧
      refresh.olderRows = listOlderThreadContextMessages written orders store request.thread
        request.currentMessageId request.currentEndpointMessageId request.exactLimit
        request.summaryLimit := by
  unfold hydrateBegin at begun
  simp only at begun
  split at begun
  · cases begun
  · next thread found =>
    split at begun
    · cases begun
    · next summarizedCount counts =>
      split at begun
      · cases begun
        exact ⟨rfl, ⟨thread, (Option.filter_eq_some_iff.mp found).1, rfl, counts⟩, rfl, rfl⟩
      · cases begun

/-- Where the page holds what is counted first, a refresh that begins is handed every message it
counts, unless that was counted before. -/
theorem handed_or_counted {written : Json → String} {orders : Orders} {request : Request}
    {refresh : Refresh} (begun : hydrateBegin written orders store request = .waiting refresh)
    (holds : PageHolds written store request) {entry : MessageId × Message}
    (member : entry ∈ rowsOfThread store request.thread) (context : isContext entry.2 = true)
    (among : AmongOldest store request.thread refresh.count entry.2) :
    entry.1 ∈ (refresh.olderRows.filter fun row => isSummarized row.2).map Prod.fst ∨
      AmongOldest store request.thread refresh.summarizedCount entry.2 := by
  obtain ⟨_, ⟨thread, found, _, counts⟩, older, rows⟩ := hydrateBegin_waiting begun
  by_cases counted : AmongOldest store request.thread refresh.summarizedCount entry.2
  · exact .inr counted
  left
  have few := @olderCount_le written orders store request holds.1 request.currentEndpointMessageId
  have behind : ((olderThan store request.thread entry.2.createdAt).length : Int) <
      refresh.olderCount := by
    unfold AmongOldest Refresh.count at among
    unfold AmongOldest at counted
    omega
  rw [← older] at few
  by_cases asked : entry ∈ request.asked store
  · have known : request.counted store = refresh.summarizedCount := by
      rw [Request.counted, found, Option.bind_some, counts, Option.getD_some]
    have long := asked_length asked
    rw [rows]
    exact handed_of_onPage asked (holds.2 entry asked (by omega) (known ▸ counted))
  · have all := asked_older member context asked
    have positive := exactLimit_pos request
    omega

/-- A refresh counts no more than there is to count. -/
theorem count_le_most {written : Json → String} {orders : Orders} {request : Request}
    {refresh : Refresh} (begun : hydrateBegin written orders store request = .waiting refresh)
    (uncut : request.exactLimit ≤ 200) : refresh.count ≤ max 0 (request.most store) := by
  obtain ⟨_, ⟨thread, found, _, counts⟩, older, _⟩ := hydrateBegin_waiting begun
  have few := @olderCount_le written orders store request uncut request.currentEndpointMessageId
  have known : request.counted store = refresh.summarizedCount := by
    rw [Request.counted, found, Option.bind_some, counts, Option.getD_some]
  rw [← older] at few
  unfold Refresh.count Request.most
  rw [known]
  omega

/-- A stored count is read back. -/
theorem count_threadSummaryMeta (metadata : Fields) (olderCount summarizedCount messageLimit : Int)
    (updatedAt : String) :
    summarizedMessageCount (metadata.update
      (threadSummaryMeta olderCount summarizedCount messageLimit updatedAt)) =
        some (max 0 summarizedCount) := by
  have found : (metadata.update
      (threadSummaryMeta olderCount summarizedCount messageLimit updatedAt)).get "context_summary" =
        some (.obj [("older_message_count", .num (max 0 olderCount : Int)),
          ("summarized_message_count", .num (max 0 summarizedCount : Int)),
          ("summary_message_limit", .num (max 1 messageLimit : Int)),
          ("updated_at", .str updatedAt)]) := by
    rw [Fields.get_update]
    rfl
  have looked : Dict.find "summarized_message_count"
      [("older_message_count", Json.num (max 0 olderCount : Int)),
        ("summarized_message_count", .num (max 0 summarizedCount : Int)),
        ("summary_message_limit", .num (max 1 messageLimit : Int)),
        ("updated_at", .str updatedAt)] = some (.num (max 0 summarizedCount : Int)) := by
    simp [Dict.find]
  unfold summarizedMessageCount
  rw [found]
  simp only [looked, Json.truthy]
  generalize max 0 summarizedCount = count
  by_cases zero : count = 0
  · simp [zero]
  · simp [zero]

/-- A stored summary is not empty. -/
theorem nextSummary_strip (outcome : Outcome) :
    Text.strip outcome.nextSummary = outcome.nextSummary := by
  unfold Outcome.nextSummary normalizeConversationSummary
  simp only
  split
  · decide
  · exact Text.strip_strip _

end

/-- What holds of a waiting refresh: the store it read has only grown, and its result will contain
what it counts of the messages there were, if the page holds that. -/
structure Waits (written : Json → String) (store : Store) (entry : Waiting) : Prop where
  thread : entry.refresh.threadId = entry.request.thread
  stored : ∀ messageId row, entry.since.messages.get messageId = some row →
    store.messages.get messageId = some row
  grown : (rowsOfThread entry.since entry.request.thread).Sublist
    (rowsOfThread store entry.request.thread)
  most : entry.request.exactLimit ≤ 200 → entry.refresh.count ≤ max 0 (entry.request.most entry.since)
  page : PageHolds written entry.since entry.request →
    ∀ message ∈ rowsOfThread entry.since entry.request.thread, isContext message.2 = true →
      AmongOldest entry.since entry.request.thread entry.refresh.count message.2 →
        message.1 ∈ entry.covers

/-- The messages older than an instant only become more. -/
theorem amongOldest_of_sublist {since store : Store} {threadId : ThreadId} {count : Int}
    {row : Message} (grown : (rowsOfThread since threadId).Sublist (rowsOfThread store threadId))
    (among : AmongOldest store threadId count row) : AmongOldest since threadId count row := by
  have fewer := (grown.filter fun entry =>
    isContext entry.2 && decide (entry.2.createdAt < row.createdAt)).length_le
  unfold AmongOldest olderThan at among ⊢
  omega

/-- What a refresh counts when it is stored, its result contains. -/
theorem Waits.covers {written : Json → String} {store : Store} {entry : Waiting}
    (waits : Waits written store entry) (holds : PageHolds written entry.since entry.request)
    (behind : ComesBehind store entry.since entry.request) {message : MessageId × Message}
    (member : message ∈ rowsOfThread store entry.request.thread) (context : isContext message.2 = true)
    (among : AmongOldest store entry.request.thread entry.refresh.count message.2) :
    message.1 ∈ entry.covers := by
  have positive := amongOldest_nonneg among
  have most := waits.most holds.1
  have below : AmongOldest store entry.request.thread (entry.request.most entry.since) message.2 :=
    AmongOldest.mono among (by omega)
  cases earlier : entry.since.messages.get message.1 with
  | none => exact absurd below (behind message member context (by rw [earlier]; rfl))
  | some row =>
    obtain ⟨listed, home⟩ := List.mem_filter.mp member
    have now := waits.stored message.1 row earlier
    rw [(Dict.get_some_iff store.messages message.1 message.2).mpr listed] at now
    obtain rfl := Option.some.inj now
    have there : message ∈ rowsOfThread entry.since entry.request.thread :=
      List.mem_filter.mpr ⟨(Dict.get_some_iff _ message.1 message.2).mp earlier, home⟩
    exact waits.page holds message there context (amongOldest_of_sublist waits.grown among)

/-- What every stored summary and every waiting refresh keeps. -/
structure Kept (written : Json → String) (state : State) : Prop where
  counted : CoversCounted state
  summarized : ∀ threadId thread count, state.store.threads.get threadId = some thread →
    summarizedMessageCount thread.metadata = some count → 0 < count →
      Text.strip thread.summary ≠ ""
  waits : ∀ call entry, state.waiting.get call = some entry → Waits written state.store entry

theorem start_kept (written : Json → String) : Kept written State.start where
  counted _ _ _ found := (nomatch found)
  summarized _ _ _ found := (nomatch found)
  waits _ _ found := (nomatch found)

namespace Kept

variable {written : Json → String} {state : State}

theorem createThread (kept : Kept written state) {threadId : ThreadId} {metadata : Fields}
    {store : Store} (clean : metadata.get "context_summary" = none)
    (created : ConversationStore.createThread state.store threadId metadata = some store) :
    Kept written { state with store } := by
  simp only [ConversationStore.createThread, Option.map_eq_some_iff,
    Dict.insertNew_some_iff] at created
  obtain ⟨_, ⟨_, rfl⟩, rfl⟩ := created
  have starts : summarizedMessageCount metadata = some 0 := by simp [summarizedMessageCount, clean]
  refine ⟨?_, ?_, fun call entry found => ?_⟩
  · intro tested thread count found counts entry member context among
    rw [Dict.get_set] at found
    split at found
    · cases found
      rw [starts] at counts
      cases counts
      exact absurd (amongOldest_nonneg among) (lt_irrefl 0)
    · exact kept.counted tested thread count found counts entry member context among
  · intro tested thread count found counts positive
    rw [Dict.get_set] at found
    split at found
    · cases found
      rw [starts] at counts
      cases counts
      exact absurd positive (lt_irrefl 0)
    · exact kept.summarized tested thread count found counts positive
  · obtain ⟨thread, stored, grown, most, page⟩ := kept.waits call entry found
    exact ⟨thread, stored, grown, most, page⟩

theorem addMessage (kept : Kept written state) {messageId : MessageId} {row : Message}
    {store : Store} (behind : isContext row = true → Behind state.store row)
    (added : ThreadSummary.addMessage state.store messageId row = some store) :
    Kept written { state with store } := by
  obtain ⟨fresh, threads, messages, rows⟩ := rows_added added
  have split : ∀ {threadId entry}, entry ∈ rowsOfThread store threadId →
      entry ∈ rowsOfThread state.store threadId ∨
        row.threadId = threadId ∧ entry = (messageId, row) := by
    intro threadId entry member
    rw [rows, List.mem_append] at member
    refine member.imp id fun new => ?_
    by_cases here : row.threadId = threadId
    · exact ⟨here, by simpa [here] using new⟩
    · simp [here] at new
  refine ⟨?_, ?_, fun call entry found => ?_⟩
  · intro threadId thread count found counts entry member context among
    rw [threads] at found
    rcases split member with old | ⟨rfl, rfl⟩
    · exact kept.counted threadId thread count found counts entry old context
        (amongOldest_before added among)
    · exact absurd ((amongOldest_new added).mp among) (behind context thread found count counts)
  · rw [threads]
    exact kept.summarized
  · obtain ⟨thread, stored, grown, most, page⟩ := kept.waits call entry found
    refine ⟨thread, ?_, ?_, most, page⟩
    · intro read held there
      have before := stored read held there
      have different : messageId ≠ read := by
        rintro rfl
        rw [fresh] at before
        cases before
      rw [messages, Dict.get_set_ne _ _ different, before]
    · rw [rows]
      exact grown.trans (List.sublist_append_left _ _)

theorem begin (kept : Kept written state) {orders : Orders} {call : Nat} {request : Request}
    {refresh : Refresh} {waiting : Dict Nat Waiting}
    (begun : hydrateBegin written orders state.store request = .waiting refresh)
    (inserted : state.waiting.insertNew call (waitingOf state request refresh) = some waiting) :
    Kept written { state with waiting } := by
  obtain ⟨_, rfl⟩ := Dict.insertNew_some_iff.mp inserted
  obtain ⟨sameThread, ⟨thread, found, sameSummary, counts⟩, _⟩ := hydrateBegin_waiting begun
  refine ⟨kept.counted, kept.summarized, fun tested entry waits => ?_⟩
  rw [Dict.get_set] at waits
  split at waits
  case isFalse => exact kept.waits tested entry waits
  cases waits
  refine ⟨sameThread, fun _ _ there => there, List.Sublist.refl _, count_le_most begun, ?_⟩
  intro holds message member context among
  rcases handed_or_counted begun holds member context among with handed | before
  · exact List.mem_append_left _ handed
  · -- what was counted is in the summary the refresh goes on from
    have positive := amongOldest_nonneg before
    have goesOn : refresh.summary ≠ "" := by
      rw [sameSummary]
      exact kept.summarized request.thread thread refresh.summarizedCount found counts positive
    have covered := kept.counted request.thread thread refresh.summarizedCount found counts
      message member context before
    simp only [waitingOf, if_neg goesOn, List.mem_append, sameThread]
    exact Or.inr covered

/-- Taking a refresh from the waiting ones. -/
theorem pop (kept : Kept written state) (call : Nat) :
    Kept written { state with waiting := state.waiting.pop call } :=
  ⟨kept.counted, kept.summarized,
    fun tested entry found => kept.waits tested entry (Dict.get_of_pop found).2⟩

/-- A refresh is stored whose result contains every message it counts. -/
theorem store (kept : Kept written state) {call : Nat} {entry : Waiting} {outcome : Outcome}
    (found : state.waiting.get call = some entry) (stores : outcome.stores = true)
    (holds : PageHolds written entry.since entry.request)
    (behind : ComesBehind state.store entry.since entry.request) :
    Kept written { state with
      store := updateSummary state.store entry.refresh.threadId outcome.nextSummary
        (threadSummaryMeta entry.refresh.olderCount entry.refresh.count entry.refresh.summaryLimit
          outcome.updatedAt)
      covered := Function.update state.covered entry.refresh.threadId entry.covers } := by
  have waits := kept.waits call entry found
  refine ⟨?_, ?_, fun tested other there => ?_⟩
  · intro threadId thread count found counts message member context among
    by_cases same : threadId = entry.refresh.threadId
    · subst same
      have contained : message.1 ∈ entry.covers := by
        simp only [updateSummary, Dict.get_revise_self, Option.map_eq_some_iff] at found
        obtain ⟨before, _, rfl⟩ := found
        rw [count_threadSummaryMeta] at counts
        cases counts
        have within : AmongOldest state.store entry.request.thread entry.refresh.count message.2 := by
          have positive := amongOldest_nonneg among
          exact waits.thread ▸ AmongOldest.mono among (by omega)
        exact waits.covers holds behind (waits.thread ▸ member) context within
      simpa using contained
    · simp only [updateSummary, Dict.get_revise_ne _ _ (Ne.symm same)] at found
      have contained := kept.counted threadId thread count found counts message member context among
      simpa [same] using contained
  · intro threadId thread count found counts positive
    by_cases same : threadId = entry.refresh.threadId
    · subst same
      simp only [updateSummary, Dict.get_revise_self, Option.map_eq_some_iff] at found
      obtain ⟨before, _, rfl⟩ := found
      simp only [Outcome.stores, Bool.and_eq_true, decide_eq_true_eq] at stores
      simpa only [nextSummary_strip, Text.strip_strip] using stores.1
    · simp only [updateSummary, Dict.get_revise_ne _ _ (Ne.symm same)] at found
      exact kept.summarized threadId thread count found counts positive
  · obtain ⟨thread, stored, grown, most, page⟩ := kept.waits tested other there
    exact ⟨thread, stored, grown, most, page⟩

/-- A step that meets its condition keeps every summary true to its count. -/
theorem step {action : Action} {next : State} (kept : Kept written state)
    (fits : Fits written state action)
    (taken : ThreadSummary.step written state action = some next) : Kept written next := by
  cases action with
  | createThread threadId metadata =>
    simp only [ThreadSummary.step, Option.map_eq_some_iff] at taken
    obtain ⟨store, created, rfl⟩ := taken
    exact kept.createThread fits created
  | addMessage messageId row =>
    simp only [ThreadSummary.step, Option.map_eq_some_iff] at taken
    obtain ⟨store, added, rfl⟩ := taken
    exact kept.addMessage fits added
  | begin call orders request =>
    simp only [ThreadSummary.step] at taken
    split at taken
    · exact Option.some.inj taken ▸ kept
    · exact Option.some.inj taken ▸ kept
    · next refresh begun =>
      simp only [Option.map_eq_some_iff] at taken
      obtain ⟨waiting, inserted, rfl⟩ := taken
      exact kept.begin begun inserted
  | finish call outcome =>
    simp only [ThreadSummary.step, Option.map_eq_some_iff] at taken
    obtain ⟨entry, waits, rfl⟩ := taken
    by_cases stores : outcome.stores = true
    · obtain ⟨holds, behind⟩ := fits entry waits stores
      have stored := (kept.store waits stores holds behind).pop call
      simpa only [hydrateFinish, stores, if_true] using stored
    · simpa only [hydrateFinish, stores, if_false, Bool.false_eq_true] using kept.pop call

end Kept

/-- In every run in which messages are added behind those counted, and the page of each stored
refresh held what it counts first, every stored summary contains the messages it counts. -/
theorem summaries_cover_their_counts (written : Json → String) {actions : List Action}
    (fits : Along (step written) (Fits written) State.start actions) :
    Throughout (step written) CoversCounted State.start actions := by
  refine ⟨(start_kept written).counted,
    Along.imp_of_invariant (Kept written) ?_ ?_ (start_kept written) fits⟩
  · exact fun state action next kept condition taken => kept.step condition taken
  · exact fun state action kept condition next taken => (kept.step condition taken).counted

/-- A name for the message with this index. -/
def nameOf (index : Nat) : MessageId := String.singleton (Char.ofNat (0x4e00 + index))

/-- A user's messages one after the other, at the instants 0, 1, 2, ... -/
def userMessages (count : Nat) : List Action :=
  (List.range count).map fun index =>
    .addMessage (nameOf index)
      { threadId := "t", role := "user", content := "text", createdAt := index }

/-- A hydration for the last of these messages, with these limits. -/
def hydration (count : Nat) (exactMessageLimit summaryMessageLimit : Int) : List Action :=
  [.begin 0 Orders.positions
      { threadId := "t", currentMessageId := nameOf (count - 1), exactMessageLimit,
        summaryMessageLimit },
    .finish 0 { result := some "summary", persisted := true, updatedAt := "" }]

/-- Four messages, of which the summary is handed the first two. -/
def coveredRun : List Action :=
  .createThread "t" Dict.empty :: (userMessages 4 ++ hydration 4 1 80)

theorem covered_run_covers : Throughout (step fun _ => "") CoversCounted State.start coveredRun :=
  summaries_cover_their_counts (fun _ => "") (by decide)

/-- A hundred and six messages before the first hydration, with the limits a turn
uses. -/
def longRun : List Action :=
  .createThread "t" Dict.empty :: (userMessages 106 ++ hydration 106 24 80)

/-- The stored summary counts the first message, which no call was handed. -/
theorem long_run_counts_unread :
    ¬ Throughout (step fun _ => "") CoversCounted State.start longRun := by
  intro throughout
  have differ : (run (step fun _ => "") State.start longRun).map (fun state =>
      ((state.store.threads.get "t").map fun thread => summarizedMessageCount thread.metadata,
        (rowsOfThread state.store "t").head?.map fun entry =>
          (decide (entry.1 ∈ state.covered "t"), isContext entry.2,
            decide (AmongOldest state.store "t" 81 entry.2)))) =
        some (some (some 81), some (false, true, true)) := by decide +kernel
  obtain ⟨final, completed, sides⟩ := Option.map_eq_some_iff.mp differ
  obtain ⟨counts, first⟩ := Prod.mk.inj sides
  obtain ⟨thread, found, counts⟩ := Option.map_eq_some_iff.mp counts
  obtain ⟨entry, isFirst, facts⟩ := Option.map_eq_some_iff.mp first
  obtain ⟨absent, rest⟩ := Prod.mk.inj facts
  obtain ⟨context, among⟩ := Prod.mk.inj rest
  exact of_decide_eq_false absent (throughout.final completed "t" thread 81 found counts entry
    (List.mem_of_head? isFirst) context (of_decide_eq_true among))

end MeetYou.ThreadSummary
