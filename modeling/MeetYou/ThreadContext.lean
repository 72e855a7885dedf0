import MeetYou.VersionSteps

/-!
# The context a model is given

The messages of a thread that go into a model's context are read by creation time:
every completed message of a user or the assistant created before the current one,
newest first, in a window and in pages behind it. The history a user is shown is
the path to the leaf instead.

Right after a message is attached the two agree exactly when the messages created
before it are all on the path it hangs below; a message of another branch, such as
the one an edit replaces, is still in the context.
-/

namespace MeetYou.ThreadContext

open ConversationStore VersionTree VersionMoves VersionPaths VersionSteps ParentChains Runs

/-- `max(1, min(int(limit or default), most))`. -/
def boundedLimit (limit : Int) (default most : Nat) : Nat :=
  max 1 (min (if limit = 0 then default else limit.toNat) most)

/-- `str(value)`; `written` renders a value that is not a text. -/
def strOf (written : Json → String) : Json → String
  | .str text => text
  | value => written value

/-- The fixed part of `_thread_context_query`. -/
def isContext (row : Message) : Bool :=
  decide ((row.role = "user" ∨ row.role = "assistant") ∧ row.channel = "message" ∧
    row.status = "completed")

/-- The part of `_thread_context_query` that depends on the message asked about. -/
def isBefore (store : Store) (threadId : ThreadId) (beforeMessageId : String)
    (entry : MessageId × Message) : Bool :=
  let normalizedBefore := Text.strip beforeMessageId
  let beforeRow := if normalizedBefore = "" then none else store.messages.get normalizedBefore
  (match beforeRow with
    | none => true
    | some row => if row.threadId = threadId then decide (entry.2.createdAt < row.createdAt)
        else true) &&
  decide (normalizedBefore = "" ∨ entry.1 ≠ normalizedBefore)

section
variable (written : Json → String) (orders : Orders) (store : Store) (threadId : ThreadId)
  (beforeMessageId excludeEndpointMessageId : String)

/-- `_thread_context_query`, newest message first. -/
def threadContextQuery : List (MessageId × Message) :=
  orders.newestFirst.sort ((rowsOfThread store threadId).filter fun entry =>
    isContext entry.2 && isBefore store threadId beforeMessageId entry)

/-- `_matches_endpoint_message_id`. -/
def matchesEndpointMessageId (row : Message) : Bool :=
  let normalized := Text.strip excludeEndpointMessageId
  decide (normalized ≠ "") &&
    decide (Text.strip (strOf written (row.metadata.getOr "endpoint_message_id" (.str ""))) =
      normalized)

/-- The loop over the fetched rows: skip the excluded ones, stop at the limit. The
rows taken and the number of rows skipped on the way. -/
def takeRows (excluded : Message → Bool) :
    Nat → List (MessageId × Message) → List (MessageId × Message) × Nat
  | _, [] => ([], 0)
  | 0, _ => ([], 0)
  | remaining + 1, entry :: rest =>
      if excluded entry.2 then
        let (rows, excludedCount) := takeRows excluded (remaining + 1) rest
        (rows, excludedCount + 1)
      else
        let (rows, excludedCount) := takeRows excluded remaining rest
        (entry :: rows, excludedCount)

/-- What `load_thread_context_window` returns. -/
structure Window where
  messages : List (MessageId × Message)
  totalCount : Nat
  olderCount : Nat

/-- `load_thread_context_window`. -/
def loadThreadContextWindow (limit : Int) : Window :=
  let boundedLimit := boundedLimit limit 24 200
  let query := threadContextQuery orders store threadId beforeMessageId
  let (rows, excludedCount) := takeRows
    (matchesEndpointMessageId written excludeEndpointMessageId) boundedLimit
    (query.take (min (boundedLimit + 8) 240))
  let effectiveTotalCount := max (query.length - excludedCount) rows.length
  { messages := rows.reverse, totalCount := effectiveTotalCount,
    olderCount := effectiveTotalCount - rows.length }

/-- `list_older_thread_context_messages`. -/
def listOlderThreadContextMessages (offset limit : Int) : List (MessageId × Message) :=
  let boundedLimit := boundedLimit limit 80 400
  let query := threadContextQuery orders store threadId beforeMessageId
  (takeRows (matchesEndpointMessageId written excludeEndpointMessageId) boundedLimit
    ((query.drop offset.toNat).take (min (boundedLimit + 8) 440))).1.reverse

end

section
variable {excluded : Message → Bool}

/-- Only rows that are fetched and not excluded are taken. -/
theorem mem_takeRows {remaining : Nat} {rows : List (MessageId × Message)}
    {entry : MessageId × Message} (member : entry ∈ (takeRows excluded remaining rows).1) :
    entry ∈ rows ∧ excluded entry.2 = false := by
  induction rows generalizing remaining with
  | nil => simp [takeRows] at member
  | cons first rest inductionHypothesis =>
    cases remaining with
    | zero => simp [takeRows] at member
    | succ remaining =>
      rw [takeRows] at member
      split at member
      · obtain ⟨below, kept⟩ := inductionHypothesis member
        exact ⟨List.mem_cons_of_mem first below, kept⟩
      · next included =>
        rcases List.mem_cons.mp member with rfl | later
        · exact ⟨List.mem_cons_self, by simpa using included⟩
        · obtain ⟨below, kept⟩ := inductionHypothesis later
          exact ⟨List.mem_cons_of_mem first below, kept⟩

/-- The first row is taken where nothing is excluded. -/
theorem takeRows_first {remaining : Nat} {first : MessageId × Message}
    {rest : List (MessageId × Message)} (included : excluded first.2 = false) :
    first ∈ (takeRows excluded (remaining + 1) (first :: rest)).1 := by
  simp [takeRows, included]

end

section
variable {written : Json → String} {orders : Orders} {store : Store} {threadId : ThreadId}
  {beforeMessageId excludeEndpointMessageId : String} {entry : MessageId × Message}

/-- The window holds rows of the query. -/
theorem mem_window {limit : Int} (member : entry ∈ (loadThreadContextWindow written orders store
      threadId beforeMessageId excludeEndpointMessageId limit).messages) :
    entry ∈ threadContextQuery orders store threadId beforeMessageId := by
  simp only [loadThreadContextWindow, List.mem_reverse] at member
  exact List.mem_of_mem_take (mem_takeRows member).1

/-- A page holds rows of the query. -/
theorem mem_older {offset limit : Int} (member : entry ∈ listOlderThreadContextMessages written
      orders store threadId beforeMessageId excludeEndpointMessageId offset limit) :
    entry ∈ threadContextQuery orders store threadId beforeMessageId := by
  simp only [listOlderThreadContextMessages, List.mem_reverse] at member
  exact List.mem_of_mem_drop (List.mem_of_mem_take (mem_takeRows member).1)

/-- Every row of the query is on some page. -/
theorem query_mem_older (written : Json → String)
    (member : entry ∈ threadContextQuery orders store threadId beforeMessageId) :
    ∃ offset : Int, entry ∈ listOlderThreadContextMessages written orders store threadId
      beforeMessageId "" offset 1 := by
  obtain ⟨index, bound, found⟩ := List.mem_iff_getElem.mp member
  refine ⟨index, ?_⟩
  have starts : (threadContextQuery orders store threadId beforeMessageId).drop index =
      entry :: (threadContextQuery orders store threadId beforeMessageId).drop (index + 1) := by
    rw [List.drop_eq_getElem_cons bound, found]
  have included : matchesEndpointMessageId written "" entry.2 = false := by
    simp [matchesEndpointMessageId, Text.strip, Text.trim]
  simp only [listOlderThreadContextMessages, List.mem_reverse, Int.toNat_natCast, starts]
  exact takeRows_first included

/-- The rows of the query are the context rows of the thread before the message. -/
theorem mem_threadContextQuery :
    entry ∈ threadContextQuery orders store threadId beforeMessageId ↔
      store.messages.get entry.1 = some entry.2 ∧ entry.2.threadId = threadId ∧
        isContext entry.2 = true ∧ isBefore store threadId beforeMessageId entry = true := by
  rw [threadContextQuery, (orders.newestFirst.perm _).mem_iff, List.mem_filter, rowsOfThread,
    List.mem_filter, Dict.get_some_iff, decide_eq_true_eq, Bool.and_eq_true, and_assoc]

/-- Before a stored message of the thread are the messages created before it. -/
theorem isBefore_iff {messageId : MessageId} {row : Message}
    (stored : store.messages.get messageId = some row) (home : row.threadId = threadId)
    (named : messageId ≠ "") (asked : Text.strip beforeMessageId = messageId)
    (found : store.messages.get entry.1 = some entry.2) :
    isBefore store threadId beforeMessageId entry = true ↔ entry.2.createdAt < row.createdAt := by
  simp only [isBefore, asked, named, if_false, stored, home, if_true, Bool.and_eq_true,
    decide_eq_true_eq, false_or, and_iff_left_iff_imp]
  intro earlier same
  rw [same, stored] at found
  cases found
  exact lt_irrefl _ earlier

end

/-- A public message identifier, as the service looks it up. -/
def Named (messageId : MessageId) : Prop := Text.strip messageId = messageId ∧ messageId ≠ ""

/-- The message an operation attaches as the leaf of a thread. -/
def attachedBy (store : Store) : Operation → Option (ThreadId × MessageId)
  | .post message draws => some (message.threadId, draws.messageId)
  | .change (.editRetry messageId _ draws) =>
      ((store.messages.get messageId).filter fun row => decide (row.role = "user")).map fun row =>
        (row.threadId, draws.messageId)
  | _ => none

/-- The store, and the message that was just attached. -/
abbrev Latest := Store × Option (ThreadId × MessageId)

def Latest.start : Latest := (Store.start, none)

/-- The service takes an operation, and the message it attached is noted. -/
def attend (both : Latest) (operation : Orders × Operation) : Option Latest :=
  (perform both.1 operation).map fun next => (next, attachedBy both.1 operation.2)

/-- Whatever is read for the context of the message just attached is in the history
the thread shows. -/
def SeesBranch (written : Json → String) (both : Latest) : Prop :=
  ∀ threadId messageId, both.2 = some (threadId, messageId) → Named messageId →
    ∀ orders excludeEndpointMessageId,
      (∀ limit, ∀ entry ∈ (loadThreadContextWindow written orders both.1 threadId messageId
          excludeEndpointMessageId limit).messages,
        entry.1 ∈ (listMessagesForThread orders both.1 threadId).map Prod.fst) ∧
      ∀ offset limit, ∀ entry ∈ listOlderThreadContextMessages written orders both.1 threadId
          messageId excludeEndpointMessageId offset limit,
        entry.1 ∈ (listMessagesForThread orders both.1 threadId).map Prod.fst

/-- The context messages of the thread created before this instant are on the path
to the leaf. -/
def ContextOnPath (orders : Orders) (store : Store) (threadId : ThreadId)
    (leaf : Option MessageId) (before : Instant) : Prop :=
  ∀ entry ∈ rowsOfThread store threadId, isContext entry.2 = true → entry.2.createdAt < before →
    entry.1 ∈ (listBranchPath orders store threadId leaf).map Prod.fst

/-- Where a message is attached, the context messages created before it are on the
path it hangs below: that of the thread's leaf, or that of the parent of the message
it replaces. -/
def FollowsContext (store : Store) : Orders × Operation → Prop
  | (orders, .post message draws) => Named draws.messageId →
      ContextOnPath orders store message.threadId
        ((store.threads.get message.threadId).bind Thread.currentLeafMessageId)
        draws.messageUtcnow
  | (orders, .change (.editRetry messageId _ draws)) => Named draws.messageId →
      ∀ row, store.messages.get messageId = some row → row.role = "user" →
        ContextOnPath orders store row.threadId row.parentMessageId draws.messageUtcnow
  | _ => True

section
variable {tree : Tree} {store next : Store} {operation : Operation}

/-- A new message stands at the end of its thread. -/
structure Attached (tree later : Tree) (messageId : MessageId) (node : Node) : Prop where
  fresh : tree.node messageId = none
  home : tree.LeafHome node.threadId node.parent
  written : later.node = (tree.putNode messageId node).node
  stands : ∃ active, later.tip node.threadId = some ⟨some active, some messageId⟩

theorem post_attached {message : NewMessage} {draws : Draws} {tip : Tip} (sound : Sound tree)
    (granted : Granted tree (.post message draws)) (known : tree.tip message.threadId = some tip) :
    Attached tree (moved tree (.post message draws)) draws.messageId
      (postedNode message draws tip.leaf) where
  fresh := granted.2.2.1
  home := sound.homed.tipLeaf known
  written := by
    simp only [moved, known]
    rfl
  stands := ⟨tip.active.getD draws.defaultBranchId, by simp [moved, known, posted]⟩

theorem edit_attached {messageId : MessageId} {edit : Edit} {draws : Draws} {node : Node}
    (sound : Sound tree) (granted : Granted tree (.change (.editRetry messageId edit draws)))
    (found : tree.userNode messageId = some node) :
    Attached tree (moved tree (.change (.editRetry messageId edit draws))) draws.messageId
      (editedNode node draws) where
  fresh := (granted node found).2.2.1
  home := (sound.homed.nodeHome messageId node (Option.filter_eq_some_iff.mp found).1).2
  written := by
    simp only [moved, found]
    funext tested
    simp [retried, Tree.revised, Tree.opened]
  stands := ⟨draws.branchId, by
    simp [moved, found, retried, Tree.revised, Tree.opened, editedNode]⟩

theorem isContext_congr {first second : Message} (same : nodeOf first = nodeOf second) :
    isContext first = isContext second := by
  have role : first.role = second.role := congrArg Node.role same
  have channel : first.channel = second.channel := congrArg Node.channel same
  have status : first.status = second.status := congrArg Node.status same
  simp only [isContext, role, channel, status]

/-- The other messages are the ones there were. -/
theorem Attached.row_before {messageId : MessageId} {node : Node}
    (attached : Attached (view store) (view next) messageId node) {other : MessageId}
    {row : Message} (found : next.messages.get other = some row) (different : other ≠ messageId) :
    ∃ old, store.messages.get other = some old ∧ nodeOf old = nodeOf row := by
  have stored := node_found found
  rw [attached.written, Tree.node_putNode, if_neg different] at stored
  simpa only [view, Option.map_eq_some_iff] using stored

theorem Attached.row_after {messageId : MessageId} {node : Node}
    (attached : Attached (view store) (view next) messageId node) {other : MessageId}
    {row : Message} (found : store.messages.get other = some row) :
    other ≠ messageId ∧ ∃ later, next.messages.get other = some later ∧ nodeOf later = nodeOf row := by
  have different : other ≠ messageId := by
    rintro rfl
    have stored := node_found found
    rw [attached.fresh] at stored
    cases stored
  refine ⟨different, ?_⟩
  have stored : (view next).node other = some (nodeOf row) := by
    rw [attached.written, Tree.node_putNode, if_neg different, node_found found]
  simpa only [view, Option.map_eq_some_iff] using stored

/-- The context of a message just attached is in the shown history exactly when the
context messages created before it are on the path it hangs below. -/
theorem Attached.seesBranch_iff {written : Json → String} {messageId : MessageId} {node : Node}
    (attached : Attached (view store) (view next) messageId node) (sound : Sound (view store))
    (soundAfter : Sound (view next)) (orders : Orders) :
    SeesBranch written (next, some (node.threadId, messageId)) ↔
      (Named messageId → ContextOnPath orders store node.threadId node.parent node.createdAt) := by
  obtain ⟨active, stands⟩ := attached.stands
  have shown : ∀ reading other, other ∈ (listMessagesForThread reading next node.threadId).map Prod.fst ↔
      other = messageId ∨ OnPath (view store) node.threadId node.parent other := by
    intro reading other
    rw [mem_listMessages_iff reading soundAfter.homed soundAfter.grounded stands, Displays,
      ← OnPath.new_iff sound.grounded attached.home attached.fresh]
    unfold OnPath
    rw [links_congr attached.written]
  have onPath : ∀ other, other ∈ (listBranchPath orders store node.threadId node.parent).map Prod.fst ↔
      OnPath (view store) node.threadId node.parent other :=
    fun other => mem_listBranchPath_iff orders sound.grounded attached.home
  have itself : (view next).node messageId = some node := by
    rw [attached.written]
    simp
  simp only [view, Option.map_eq_some_iff] at itself
  obtain ⟨current, currentFound, sameNode⟩ := itself
  have currentHome : current.threadId = node.threadId := congrArg Node.threadId sameNode
  have currentTime : current.createdAt = node.createdAt := congrArg Node.createdAt sameNode
  constructor
  · intro sees named entry member context earlier
    rw [rowsOfThread, List.mem_filter, ← Dict.get_some_iff, decide_eq_true_eq] at member
    obtain ⟨different, later, laterFound, laterNode⟩ := attached.row_after member.1
    have laterHome : later.threadId = node.threadId :=
      (congrArg Node.threadId laterNode).trans member.2
    have laterTime : later.createdAt = entry.2.createdAt := congrArg Node.createdAt laterNode
    have queried : (entry.1, later) ∈ threadContextQuery orders next node.threadId messageId := by
      rw [mem_threadContextQuery, isBefore_iff currentFound currentHome named.2 named.1 laterFound]
      refine ⟨laterFound, laterHome, ?_, ?_⟩
      · rw [isContext_congr laterNode]
        exact context
      · rw [laterTime, currentTime]
        exact earlier
    obtain ⟨offset, listed⟩ := query_mem_older written queried
    have seen := (sees node.threadId messageId rfl named orders "").2 offset 1 _ listed
    rw [onPath]
    exact ((shown orders entry.1).mp seen).resolve_left different
  · intro follows threadId other latest named reading excludeEndpointMessageId
    cases latest
    have inside : ∀ entry ∈ threadContextQuery reading next node.threadId messageId,
        entry.1 ∈ (listMessagesForThread reading next node.threadId).map Prod.fst := by
      intro entry queried
      rw [mem_threadContextQuery] at queried
      obtain ⟨found, home, context, before⟩ := queried
      rw [isBefore_iff currentFound currentHome named.2 named.1 found, currentTime] at before
      rw [shown]
      by_cases same : entry.1 = messageId
      · exact Or.inl same
      · right
        obtain ⟨old, oldFound, oldNode⟩ := attached.row_before found same
        have oldTime : old.createdAt = entry.2.createdAt := congrArg Node.createdAt oldNode
        have oldHome : old.threadId = entry.2.threadId := congrArg Node.threadId oldNode
        rw [← onPath]
        refine follows named (entry.1, old) ?_ ?_ ?_
        · rw [rowsOfThread, List.mem_filter, ← Dict.get_some_iff, decide_eq_true_eq]
          exact ⟨oldFound, oldHome.trans home⟩
        · exact (isContext_congr oldNode).trans context
        · exact oldTime ▸ before
    exact ⟨fun limit entry member => inside entry (mem_window member),
      fun offset limit entry member => inside entry (mem_older member)⟩

/-- Where nothing is attached there is no context to read. -/
theorem seesBranch_none (written : Json → String) : SeesBranch written (next, none) :=
  fun _ _ latest => (nomatch latest)

/-- An operation shows the branch in the context exactly when its condition holds. -/
theorem attend_step (written : Json → String) {both after : Latest}
    {operation : Orders × Operation} (sound : Sound (view both.1))
    (taken : attend both operation = some after) :
    SeesBranch written after ↔ FollowsContext both.1 operation := by
  simp only [attend, Option.map_eq_some_iff] at taken
  obtain ⟨next, performed, rfl⟩ := taken
  obtain ⟨moves, granted⟩ := perform_moved sound performed
  have soundAfter := perform_sound sound performed
  obtain ⟨orders, operation⟩ := operation
  cases operation with
  | post message draws =>
    obtain ⟨tip, known⟩ := granted.1
    have attached := post_attached sound granted known
    rw [← moves] at attached
    have thread := known
    simp only [view, Option.map_eq_some_iff] at thread
    obtain ⟨thread, found, sameTip⟩ := thread
    have stands : (both.1.threads.get message.threadId).bind Thread.currentLeafMessageId = tip.leaf := by
      rw [found]
      exact congrArg Tip.leaf sameTip
    simp only [FollowsContext, stands]
    exact attached.seesBranch_iff sound soundAfter orders
  | change change =>
    cases change with
    | createThread threadId metadata => exact iff_of_true (seesBranch_none written) trivial
    | listBranches threadId draws => exact iff_of_true (seesBranch_none written) trivial
    | createCheckpoint threadId title checkpointType metadata draws =>
      exact iff_of_true (seesBranch_none written) trivial
    | restoreCheckpoint threadId checkpointId =>
      exact iff_of_true (seesBranch_none written) trivial
    | checkoutCheckpoint threadId checkpointId title draws =>
      exact iff_of_true (seesBranch_none written) trivial
    | activateBranch threadId branchId => exact iff_of_true (seesBranch_none written) trivial
    | editRetry messageId edit draws =>
      simp only [attachedBy, FollowsContext]
      cases found : both.1.messages.get messageId with
      | none =>
        refine iff_of_true (seesBranch_none written) fun _ row absent => ?_
        cases absent
      | some row =>
        by_cases isUser : row.role = "user"
        · have asked : (view both.1).userNode messageId = some (nodeOf row) := by
            rw [Tree.userNode, node_found found, Option.filter_some, if_pos]
            exact decide_eq_true isUser
          have attached := edit_attached sound granted asked
          rw [← moves] at attached
          simp only [Option.filter_some, isUser, decide_true, if_true, Option.map_some,
            Option.some.injEq, forall_eq', forall_const]
          exact attached.seesBranch_iff sound soundAfter orders
        · simp only [Option.filter_some, isUser, decide_false, Option.some.injEq, forall_eq']
          exact iff_of_true (seesBranch_none written) fun _ user => absurd user id

end

/-- Through every run the context of each message, read right after it is attached,
is in the history the thread shows exactly when at each attachment the context
messages created before are on the path the new message hangs below. -/
theorem context_shown_iff_on_path (written : Json → String)
    (operations : List (Orders × Operation)) :
    Throughout attend (SeesBranch written) Latest.start operations ↔
      Taking attend (fun both operation => FollowsContext both.1 operation) Latest.start
        operations := by
  refine throughout_iff_taking (fun both => Sound (view both.1)) ?_ ?_ start_sound
    (seesBranch_none written) operations
  · intro both operation after sound taken _
    simp only [attend, Option.map_eq_some_iff] at taken
    obtain ⟨next, performed, rfl⟩ := taken
    exact perform_sound sound performed
  · intro both operation after sound taken
    exact attend_step written sound taken

/-- A user edits the first message of a conversation. -/
def editedFirst : List (Orders × Operation) :=
  [.change (.createThread "t" Dict.empty),
    .post { threadId := "t", role := "user", content := "question" }
      { defaultBranchId := "main", messageId := "a", messageUtcnow := 1, checkpointId := "c" },
    .change (.editRetry "a" { newContent := "better question" }
      { branchId := "retry", messageId := "e", messageUtcnow := 2, checkpointId := "d" })].map
        fun operation => (Orders.positions, operation)

/-- The context of the edited message holds the message it replaces, which the
thread does not show. -/
theorem edited_context_holds_original :
    ¬ Throughout attend (SeesBranch fun _ => "") Latest.start editedFirst := by
  intro throughout
  have differ : (run attend Latest.start editedFirst).map (fun both =>
      (both.2, (loadThreadContextWindow (fun _ => "") Orders.positions both.1 "t" "e" "" 24).messages.map
          Prod.fst, (listMessagesForThread Orders.positions both.1 "t").map Prod.fst)) =
        some (some ("t", "e"), ["a"], ["e"]) := by decide
  obtain ⟨final, completed, sides⟩ := Option.map_eq_some_iff.mp differ
  obtain ⟨latest, rest⟩ := Prod.mk.inj sides
  obtain ⟨read, shown⟩ := Prod.mk.inj rest
  have first : "a" ∈ ["a"] := List.mem_singleton_self "a"
  rw [← read, List.mem_map] at first
  obtain ⟨entry, member, isFirst⟩ := first
  have seen := (throughout.final completed "t" "e" latest ⟨by decide, by decide⟩ Orders.positions "").1 24
    entry member
  rw [shown, isFirst] at seen
  revert seen
  decide

end MeetYou.ThreadContext
