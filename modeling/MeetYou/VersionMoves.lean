import MeetYou.Foundation.Runs
import MeetYou.VersionTree

/-!
# The version operations as moves

Each operation of the version service changes the pointer tree by one move, after
preparing the default branch of a thread that has none. The lemmas here read the
moves off the service functions; nothing later unfolds those functions.

Two machines take the operations. In the one, writers create a message and attach
it in separate steps, and any steps may come in between. In the other, a posted
message is created and attached at once.
-/

namespace MeetYou.VersionMoves

open ConversationStore VersionTree

/-- The operations that are not part of writing a message. -/
inductive Change where
  | createThread (threadId : ThreadId) (metadata : Fields)
  | listBranches (threadId : ThreadId) (draws : Draws)
  | createCheckpoint (threadId : ThreadId) (title checkpointType : String) (metadata : Fields)
      (draws : Draws)
  | restoreCheckpoint (threadId : ThreadId) (checkpointId : String)
  | checkoutCheckpoint (threadId : ThreadId) (checkpointId title : String) (draws : Draws)
  | activateBranch (threadId : ThreadId) (branchId : String)
  | editRetry (messageId : MessageId) (edit : Edit) (draws : Draws)

/-- The steps of interleaved writers: the creation of a message and its attachment
to its own thread are apart. -/
inductive Action where
  | createMessage (message : NewMessage) (draws : Draws)
  | attach (messageId : MessageId) (draws : Draws)
  | change (change : Change)

/-- The steps of a thread whose messages are attached as soon as they are created. -/
inductive Operation where
  | post (message : NewMessage) (draws : Draws)
  | change (change : Change)

section
variable (orders : Orders)

/-- The store after an operation; `none` is a raised exception. -/
def applied (store : Store) : Change → Option Store
  | .createThread threadId metadata => createThread store threadId metadata
  | .listBranches threadId draws => (listBranches orders store threadId draws).map Prod.fst
  | .createCheckpoint threadId title checkpointType metadata draws =>
      (createCheckpoint orders store threadId title checkpointType metadata draws).map Prod.fst
  | .restoreCheckpoint threadId checkpointId =>
      some (restoreCheckpoint store threadId checkpointId).1
  | .checkoutCheckpoint threadId checkpointId title draws =>
      (checkoutCheckpoint store threadId checkpointId title draws).map Prod.fst
  | .activateBranch threadId branchId => some (activateBranch store threadId branchId).1
  | .editRetry messageId edit draws => (editRetry orders store messageId edit draws).map Prod.fst

/-- A message is created and attached at once. -/
def post (store : Store) (message : NewMessage) (draws : Draws) : Option Store :=
  (createMessage store message draws).bind fun created =>
    (attachMessageToActiveBranch orders created message.threadId draws.messageId draws).map Prod.fst

end

/-- One step of interleaved writers, with the orders the database answers in. A
writer attaches a message it has created. -/
def step (store : Store) : Orders × Action → Option Store
  | (_, .createMessage message draws) => createMessage store message draws
  | (orders, .attach messageId draws) =>
      (store.messages.get messageId).bind fun row =>
        (attachMessageToActiveBranch orders store row.threadId messageId draws).map Prod.fst
  | (orders, .change change) => applied orders store change

/-- One operation on threads whose messages are attached at once. -/
def perform (store : Store) : Orders × Operation → Option Store
  | (orders, .post message draws) => post orders store message draws
  | (orders, .change change) => applied orders store change

/-- The pointer tree once the default branch of a thread is ensured: a thread with
an active branch keeps its pointers, a thread without one opens a branch that ends
with its last created message. -/
inductive Prepared (tree : Tree) (threadId : ThreadId) (defaultBranchId : BranchId)
    (last : Option MessageId) : Tree → Prop where
  | present {active : BranchId} {leaf : Option MessageId}
      (tip : tree.tip threadId = some ⟨some active, leaf⟩) :
      Prepared tree threadId defaultBranchId last tree
  | made (tip : tree.tip threadId = some ⟨none, none⟩)
      (fresh : tree.branch defaultBranchId = none) :
      Prepared tree threadId defaultBranchId last (tree.opened threadId defaultBranchId last)

section
variable {orders : Orders} {store next : Store}

theorem view_updateThreadVersionPointer {threadId : ThreadId} {row : Thread}
    (found : store.threads.get threadId = some row) (active : Option BranchId)
    (leaf : Option MessageId) :
    view (updateThreadVersionPointer store threadId active leaf) =
      (view store).putTip threadId ⟨active.or row.activeBranchId, leaf⟩ := by
  refine Tree.ext rfl ?_ rfl rfl
  funext tested
  by_cases same : tested = threadId
  · subst same
    simp [view, updateThreadVersionPointer, found, tipOf]
  · simp [view, updateThreadVersionPointer, Dict.get_revise_ne _ _ (Ne.symm same), same]

theorem view_createBranch {branchId : BranchId} {branch : ThreadBranch}
    (created : createBranch store branchId branch = some next) :
    (view store).branch branchId = none ∧
      view next = (view store).putBranch branchId (branchEndOf branch) := by
  simp only [createBranch, Option.map_eq_some_iff, Dict.insertNew_some_iff] at created
  obtain ⟨_, ⟨fresh, rfl⟩, rfl⟩ := created
  refine ⟨by simp [view, fresh], Tree.ext rfl rfl ?_ rfl⟩
  funext tested
  by_cases same : tested = branchId
  · simp [view, same]
  · simp [view, Dict.get_set_ne _ _ (Ne.symm same), same]

theorem view_createCheckpointRow {checkpointId : CheckpointId}
    {checkpoint : ConversationCheckpoint}
    (created : createCheckpointRow store checkpointId checkpoint = some next) :
    (view store).mark checkpointId = none ∧
      view next = (view store).putMark checkpointId (markOf checkpoint) := by
  simp only [createCheckpointRow, Option.map_eq_some_iff, Dict.insertNew_some_iff] at created
  obtain ⟨_, ⟨fresh, rfl⟩, rfl⟩ := created
  refine ⟨by simp [view, fresh], Tree.ext rfl rfl rfl ?_⟩
  funext tested
  by_cases same : tested = checkpointId
  · simp [view, same]
  · simp [view, Dict.get_set_ne _ _ (Ne.symm same), same]

theorem view_createMessageRow {messageId : MessageId} {message : Message}
    (created : createMessageRow store messageId message = some next) :
    (view store).node messageId = none ∧
      view next = (view store).putNode messageId (nodeOf message) := by
  simp only [createMessageRow, Option.map_eq_some_iff, Dict.insertNew_some_iff] at created
  obtain ⟨_, ⟨fresh, rfl⟩, rfl⟩ := created
  refine ⟨by simp [view, fresh], Tree.ext ?_ rfl rfl rfl⟩
  funext tested
  by_cases same : tested = messageId
  · simp [view, same]
  · simp [view, Dict.get_set_ne _ _ (Ne.symm same), same]

theorem view_createThread {threadId : ThreadId} {metadata : Fields}
    (created : createThread store threadId metadata = some next) :
    (view store).tip threadId = none ∧
      view next = (view store).putTip threadId ⟨none, none⟩ := by
  simp only [createThread, Option.map_eq_some_iff, Dict.insertNew_some_iff] at created
  obtain ⟨_, ⟨fresh, rfl⟩, rfl⟩ := created
  refine ⟨by simp [view, fresh], Tree.ext rfl ?_ rfl rfl⟩
  funext tested
  by_cases same : tested = threadId
  · simp [view, same, tipOf]
  · simp [view, Dict.get_set_ne _ _ (Ne.symm same), same]

theorem view_createMessage {message : NewMessage} {draws : Draws}
    (created : createMessage store message draws = some next) :
    (∃ tip, (view store).tip message.threadId = some tip) ∧
      (view store).node draws.messageId = none ∧
      view next = (view store).putNode draws.messageId (nodeOf (message.row draws.messageUtcnow)) := by
  unfold createMessage at created
  cases found : store.threads.get message.threadId with
  | none => simp [found] at created
  | some thread =>
    rw [found] at created
    exact ⟨⟨tipOf thread, by simp [view, found]⟩, view_createMessageRow created⟩

theorem view_setBranchLeaf {branchId : BranchId} {row : ThreadBranch}
    (found : store.branches.get branchId = some row) (messageId : MessageId) :
    view (setBranchLeaf store branchId messageId) =
      (view store).putBranch branchId ⟨row.threadId, some messageId⟩ := by
  refine Tree.ext rfl rfl ?_ rfl
  funext tested
  by_cases same : tested = branchId
  · subst same
    simp [view, setBranchLeaf, found, branchEndOf]
  · simp [view, setBranchLeaf, Dict.get_revise_ne _ _ (Ne.symm same), same]

theorem view_hang {threadId : ThreadId} {messageId : MessageId} {thread : Thread} {row : Message}
    (thread_found : store.threads.get threadId = some thread)
    (found : store.messages.get messageId = some row) (branchId : BranchId) :
    view (hang store threadId messageId branchId) = (view store).putNode messageId
      ((nodeOf row).below messageId thread.currentLeafMessageId) := by
  refine Tree.ext ?_ rfl rfl rfl
  funext tested
  by_cases same : tested = messageId
  · subst same
    simp only [view, hang, thread_found, Option.bind_some, Dict.get_revise_self, found,
      Option.map_some, Tree.node_putNode, if_true]
    rfl
  · simp [view, hang, Dict.get_revise_ne _ _ (Ne.symm same), same]

/-- Adopting the messages of a thread touches no pointer. -/
theorem view_adopt (store : Store) (threadId : ThreadId) (branchId : BranchId) :
    view (adoptMessages store threadId branchId) = view store := by
  refine Tree.ext ?_ rfl rfl rfl
  funext tested
  simp only [view, adoptMessages, Dict.get_mapValues, Option.map_map]
  congr 1
  funext row
  simp only [Function.comp, nodeOf]
  split <;> rfl

/-- The default branch that is found belongs to the thread; none is found only when
the thread has no branch. -/
theorem findDefaultForThread_spec (orders : Orders) (store : Store) (threadId : ThreadId) :
    match findDefaultForThread orders store threadId with
    | some (branchId, branch) =>
        store.branches.get branchId = some branch ∧ branch.threadId = threadId
    | none => ∀ branchId branch, store.branches.get branchId = some branch →
        branch.threadId ≠ threadId := by
  have listed : ∀ entry, entry ∈ orders.branches.sort
      (store.branches.entries.filter fun entry => decide (entry.2.threadId = threadId)) ↔
        store.branches.get entry.1 = some entry.2 ∧ entry.2.threadId = threadId := by
    intro entry
    rw [(orders.branches.perm _).mem_iff, List.mem_filter, Dict.get_some_iff, decide_eq_true_eq]
  cases found : findDefaultForThread orders store threadId with
  | none =>
    intro branchId branch stored home
    simp only [findDefaultForThread, Option.or_eq_none_iff, List.head?_eq_none_iff] at found
    have member := (listed (branchId, branch)).mpr ⟨stored, home⟩
    rw [found.2] at member
    cases member
  | some entry =>
    refine (listed entry).mp ?_
    simp only [findDefaultForThread, Option.or_eq_some_iff] at found
    rcases found with flagged | ⟨_, first⟩
    · exact List.mem_of_find?_eq_some flagged
    · exact List.mem_of_head? first

theorem tip_found {threadId : ThreadId} {row : Thread}
    (found : store.threads.get threadId = some row) :
    (view store).tip threadId = some (tipOf row) := by
  simp [view, found]

theorem branch_found {branchId : BranchId} {row : ThreadBranch}
    (found : store.branches.get branchId = some row) :
    (view store).branch branchId = some (branchEndOf row) := by
  simp [view, found]

theorem node_found {messageId : MessageId} {row : Message}
    (found : store.messages.get messageId = some row) :
    (view store).node messageId = some (nodeOf row) := by
  simp [view, found]

/-- Ensuring the default branch prepares the thread. -/
theorem ensure_prepared {threadId : ThreadId} {draws : Draws} {branchId : BranchId} {thread : Thread}
    (homed : Homed (view store)) (found : store.threads.get threadId = some thread)
    (ensured : ensureDefaultBranchInSession orders store threadId draws = some (next, branchId)) :
    Prepared (view store) threadId draws.defaultBranchId
      (lastMessageForThread orders store threadId) (view next) := by
  have tip := tip_found found
  have spec := findDefaultForThread_spec orders store threadId
  unfold ensureDefaultBranchInSession at ensured
  cases default : findDefaultForThread orders store threadId with
  | some entry =>
    obtain ⟨foundId, branch⟩ := entry
    rw [default] at ensured spec
    obtain ⟨stored, home⟩ := spec
    obtain ⟨active, leaf, started⟩ := (homed.branchHome foundId _ (branch_found stored)).1
    rw [branchEndOf, home, tip] at started
    have activeBranch : thread.activeBranchId = some active :=
      congrArg Tip.active (Option.some.inj started)
    simp only [activateIfNone, found, Option.bind_some, activeBranch, Option.some.injEq,
      Prod.mk.injEq] at ensured
    obtain ⟨rfl, _⟩ := ensured
    exact .present (tip.trans started)
  | none =>
    rw [default] at ensured spec
    have idle : thread.activeBranchId = none := by
      cases activeBranch : thread.activeBranchId with
      | none => rfl
      | some active =>
        obtain ⟨branchLeaf, home⟩ := homed.active (by rw [tip, tipOf, activeBranch])
        simp only [view, Option.map_eq_some_iff] at home
        obtain ⟨branch, stored, same⟩ := home
        exact absurd (congrArg BranchEnd.threadId same) (spec active branch stored)
    have leafless := homed.idle (by rw [tip, tipOf, idle])
    simp only [Option.map_eq_some_iff, Prod.mk.injEq] at ensured
    obtain ⟨created, inserted, rfl, _⟩ := ensured
    obtain ⟨fresh, after⟩ := view_createBranch inserted
    have threads : created.threads = store.threads := by
      simp only [createBranch, Option.map_eq_some_iff] at inserted
      obtain ⟨_, _, rfl⟩ := inserted
      rfl
    have pointed : view (activateIfNone (adoptMessages created threadId draws.defaultBranchId)
          threadId draws.defaultBranchId (lastMessageForThread orders store threadId)) =
        (view store).opened threadId draws.defaultBranchId
          (lastMessageForThread orders store threadId) := by
      have stored : (adoptMessages created threadId draws.defaultBranchId).threads.get threadId =
          some thread := threads ▸ found
      simp only [activateIfNone, stored, Option.bind_some, idle]
      rw [view_updateThreadVersionPointer stored, view_adopt, after]
      rfl
    rw [pointed]
    exact .made (by rw [tip, tipOf, idle, leafless]) fresh

/-- The last created message, when there is one, is a message of the thread; there
is none only when the thread has no message. -/
theorem lastMessageForThread_spec (orders : Orders) (store : Store) (threadId : ThreadId) :
    match lastMessageForThread orders store threadId with
    | some messageId => ∃ node, (view store).node messageId = some node ∧ node.threadId = threadId
    | none => ∀ messageId node, (view store).node messageId = some node →
        node.threadId ≠ threadId := by
  have listed : ∀ entry, entry ∈ orders.newestFirst.sort (rowsOfThread store threadId) ↔
      store.messages.get entry.1 = some entry.2 ∧ entry.2.threadId = threadId := by
    intro entry
    rw [(orders.newestFirst.perm _).mem_iff, rowsOfThread, List.mem_filter, Dict.get_some_iff,
      decide_eq_true_eq]
  cases found : lastMessageForThread orders store threadId with
  | none =>
    intro messageId node stored home
    simp only [lastMessageForThread, Option.map_eq_none_iff, List.head?_eq_none_iff] at found
    simp only [view, Option.map_eq_some_iff] at stored
    obtain ⟨row, stored, rfl⟩ := stored
    have member := (listed (messageId, row)).mpr ⟨stored, home⟩
    rw [found] at member
    cases member
  | some messageId =>
    simp only [lastMessageForThread, Option.map_eq_some_iff] at found
    obtain ⟨entry, first, rfl⟩ := found
    obtain ⟨stored, home⟩ := (listed entry).mp (List.mem_of_head? first)
    exact ⟨nodeOf entry.2, node_found stored, home⟩

end

namespace Prepared

variable {tree prepared : Tree} {threadId : ThreadId} {defaultBranchId : BranchId}
  {last : Option MessageId}

theorem node (preparing : Prepared tree threadId defaultBranchId last prepared) :
    prepared.node = tree.node := by cases preparing <;> rfl

theorem mark (preparing : Prepared tree threadId defaultBranchId last prepared) :
    prepared.mark = tree.mark := by cases preparing <;> rfl

/-- A prepared thread has an active branch of its own. -/
theorem active (homed : Homed tree)
    (preparing : Prepared tree threadId defaultBranchId last prepared) :
    ∃ active leaf branchLeaf, prepared.tip threadId = some ⟨some active, leaf⟩ ∧
      prepared.branch active = some ⟨threadId, branchLeaf⟩ := by
  cases preparing with
  | present tip =>
    obtain ⟨branchLeaf, home⟩ := homed.active tip
    exact ⟨_, _, branchLeaf, tip, home⟩
  | made tip fresh =>
    exact ⟨defaultBranchId, last, last, by simp [Tree.opened], by simp [Tree.opened]⟩

end Prepared

section
variable {orders : Orders} {store next : Store}

/-- The thread's active branch, which exists, is the one an operation works on. -/
theorem activeBranchOr_eq {threadId : ThreadId} {active : BranchId} {leaf branchLeaf : Option MessageId}
    (tip : (view store).tip threadId = some ⟨some active, leaf⟩)
    (home : (view store).branch active = some ⟨threadId, branchLeaf⟩) (branchId : BranchId) :
    activeBranchOr store threadId branchId = active := by
  simp only [view, Option.map_eq_some_iff] at tip home
  obtain ⟨thread, found, same⟩ := tip
  obtain ⟨branch, stored, _⟩ := home
  have activeBranch : thread.activeBranchId = some active := congrArg Tip.active same
  simp [activeBranchOr, found, activeBranch, stored]

/-- The automatic checkpoint is written unless one marks the message already. -/
theorem createAutoCheckpoint_spec {threadId : ThreadId} {branchId : BranchId}
    {messageId : MessageId} {draws : Draws} {node : Node}
    (found : (view store).node messageId = some node)
    (created : createAutoCheckpointInSession store threadId branchId messageId draws = some next) :
    ((∃ checkpointId mark, (view store).mark checkpointId = some mark ∧
        mark.leaf = some messageId) ∧ view next = view store) ∨
      ((view store).mark draws.checkpointId = none ∧ view next =
        (view store).putMark draws.checkpointId ⟨threadId, some branchId, some messageId⟩) := by
  simp only [view, Option.map_eq_some_iff] at found
  obtain ⟨row, stored, _⟩ := found
  unfold createAutoCheckpointInSession at created
  rw [stored] at created
  simp only at created
  split at created
  · exact Or.inr (view_createCheckpointRow created)
  · next entry single =>
    refine Or.inl ⟨⟨entry.1, markOf entry.2, ?_⟩, by rw [Option.some.inj created]⟩
    have member : entry ∈ [entry] := List.mem_singleton_self entry
    rw [← single, List.mem_filter, ← Dict.get_some_iff, decide_eq_true_eq] at member
    exact ⟨by simp [view, member.1], member.2.2.1⟩
  · cases created

/-- Attaching a message of the thread. -/
theorem attach_spec {threadId : ThreadId} {messageId : MessageId} {draws : Draws} {node : Node}
    {result : Option MessageId} (homed : Homed (view store))
    (found : (view store).node messageId = some node) (home : node.threadId = threadId)
    (attached : attachMessageToActiveBranch orders store threadId messageId draws =
      some (next, result)) :
    ∃ prepared active leaf, Prepared (view store) threadId draws.defaultBranchId
        (lastMessageForThread orders store threadId) prepared ∧
      prepared.tip threadId = some ⟨some active, leaf⟩ ∧
      (((∃ checkpointId mark, (view store).mark checkpointId = some mark ∧
            mark.leaf = some messageId) ∧
          view next = prepared.attached threadId active leaf messageId node) ∨
        ((view store).mark draws.checkpointId = none ∧
          view next = (prepared.attached threadId active leaf messageId node).putMark
            draws.checkpointId ⟨threadId, some active, some messageId⟩)) := by
  obtain ⟨tip, tipFound⟩ := homed.thread found
  rw [home] at tipFound
  simp only [view, Option.map_eq_some_iff] at found tipFound
  obtain ⟨row, stored, rfl⟩ := found
  obtain ⟨thread, threadFound, rfl⟩ := tipFound
  unfold attachMessageToActiveBranch at attached
  rw [threadFound, stored] at attached
  simp only [Option.bind_eq_some_iff, Option.map_eq_some_iff, Prod.mk.injEq] at attached
  obtain ⟨⟨ensured, branchId⟩, ensuring, final, finishing, rfl, _⟩ := attached
  have preparing := ensure_prepared homed threadFound ensuring
  obtain ⟨active, leaf, branchLeaf, activeTip, branchHome⟩ := preparing.active homed
  refine ⟨view ensured, active, leaf, preparing, activeTip, ?_⟩
  rw [activeBranchOr_eq activeTip branchHome] at finishing
  have nodeKept : (view ensured).node messageId = some (nodeOf row) := by
    rw [preparing.node]
    exact node_found stored
  simp only [view, Option.map_eq_some_iff] at activeTip branchHome nodeKept
  obtain ⟨thread', threadFound', sameTip⟩ := activeTip
  obtain ⟨branch', branchFound', sameEnd⟩ := branchHome
  obtain ⟨row', stored', sameNode⟩ := nodeKept
  have hung : view (updateThreadVersionPointer
      (setBranchLeaf (hang ensured threadId messageId active) active messageId) threadId
      (some active) (some messageId)) =
      (view ensured).attached threadId active leaf messageId (nodeOf row) := by
    have branchKept : (hang ensured threadId messageId active).branches.get active = some branch' :=
      branchFound'
    have threadKept : (setBranchLeaf (hang ensured threadId messageId active) active
        messageId).threads.get threadId = some thread' := threadFound'
    rw [view_updateThreadVersionPointer threadKept, view_setBranchLeaf branchKept,
      view_hang threadFound' stored', sameNode]
    have sameLeaf : thread'.currentLeafMessageId = leaf := congrArg Tip.leaf sameTip
    have sameThread : branch'.threadId = threadId := congrArg BranchEnd.threadId sameEnd
    rw [sameLeaf, sameThread]
    rfl
  have hangs : (view (updateThreadVersionPointer
      (setBranchLeaf (hang ensured threadId messageId active) active messageId) threadId
      (some active) (some messageId))).node messageId =
        some ((nodeOf row).below messageId leaf) := by
    rw [hung]
    simp [Tree.attached]
  have marked := createAutoCheckpoint_spec hangs finishing
  have markKept : ((view ensured).attached threadId active leaf messageId (nodeOf row)).mark =
      (view store).mark := preparing.mark
  rw [hung, markKept] at marked
  exact marked

/-- Listing the branches prepares a thread that exists. -/
theorem listBranches_spec {threadId : ThreadId} {draws : Draws}
    {result : Option (List (BranchId × ThreadBranch))} (homed : Homed (view store))
    (listed : listBranches orders store threadId draws = some (next, result)) :
    ((view store).tip threadId = none ∧ view next = view store) ∨
      ∃ tip, (view store).tip threadId = some tip ∧ Prepared (view store) threadId
        draws.defaultBranchId (lastMessageForThread orders store threadId) (view next) := by
  unfold listBranches at listed
  cases found : store.threads.get threadId with
  | none =>
    simp only [found, Option.some.injEq, Prod.mk.injEq] at listed
    exact Or.inl ⟨by simp [view, found], by rw [listed.1]⟩
  | some thread =>
    simp only [found, Option.map_eq_some_iff, Prod.mk.injEq] at listed
    obtain ⟨⟨ensured, branchId⟩, ensuring, rfl, _⟩ := listed
    exact Or.inr ⟨tipOf thread, tip_found found, ensure_prepared homed found ensuring⟩

/-- A checkpoint marks the active branch and the thread's leaf, or the branch's leaf
when the thread has none. -/
theorem createCheckpoint_spec {threadId : ThreadId} {title checkpointType : String}
    {metadata : Fields} {draws : Draws} {result : Option CheckpointId} (homed : Homed (view store))
    (created : createCheckpoint orders store threadId title checkpointType metadata draws =
      some (next, result)) :
    ((view store).tip threadId = none ∧ view next = view store) ∨
      ∃ prepared active leaf branchLeaf, Prepared (view store) threadId
          draws.defaultBranchId (lastMessageForThread orders store threadId) prepared ∧
        prepared.tip threadId = some ⟨some active, leaf⟩ ∧
        prepared.branch active = some ⟨threadId, branchLeaf⟩ ∧
        (view store).mark draws.checkpointId = none ∧
        view next = prepared.putMark draws.checkpointId
          ⟨threadId, some active, leaf.or branchLeaf⟩ := by
  unfold createCheckpoint at created
  cases found : store.threads.get threadId with
  | none =>
    simp only [found, Option.some.injEq, Prod.mk.injEq] at created
    exact Or.inl ⟨by simp [view, found], by rw [created.1]⟩
  | some thread =>
    simp only [found, Option.bind_eq_some_iff, Option.map_eq_some_iff, Prod.mk.injEq] at created
    obtain ⟨⟨ensured, branchId⟩, ensuring, final, finishing, rfl, _⟩ := created
    have preparing := ensure_prepared homed found ensuring
    obtain ⟨active, leaf, branchLeaf, activeTip, branchHome⟩ := preparing.active homed
    rw [activeBranchOr_eq activeTip branchHome] at finishing
    obtain ⟨fresh, after⟩ := view_createCheckpointRow finishing
    rw [preparing.mark] at fresh
    refine Or.inr ⟨view ensured, active, leaf, branchLeaf, preparing, activeTip, branchHome, fresh,
      ?_⟩
    simp only [view, Option.map_eq_some_iff] at activeTip branchHome
    obtain ⟨thread', threadFound, sameTip⟩ := activeTip
    obtain ⟨branch', branchFound, sameEnd⟩ := branchHome
    have sameLeaf : thread'.currentLeafMessageId = leaf := congrArg Tip.leaf sameTip
    have sameBranchLeaf : branch'.currentLeafMessageId = branchLeaf :=
      congrArg BranchEnd.leaf sameEnd
    rw [after]
    simp only [threadFound, branchFound, Option.bind_some, sameLeaf, sameBranchLeaf, markOf]

theorem checkpointOfThread_view (threadId : ThreadId) (checkpointId : String) :
    (checkpointOfThread store threadId checkpointId).map markOf =
      (view store).markIn threadId checkpointId := by
  simp only [checkpointOfThread, Tree.markIn, view, Option.filter_map, Option.bind_map,
    Option.map_bind]
  rfl

theorem branchOfThread_view (threadId : ThreadId) (branchId : String) :
    (branchOfThread store threadId branchId).map branchEndOf =
      (view store).branchIn threadId branchId := by
  simp only [branchOfThread, Tree.branchIn, view, Option.filter_map, Option.bind_map,
    Option.map_bind]
  rfl

theorem checkpointOfThread_thread {threadId : ThreadId} {checkpointId : String}
    {checkpoint : ConversationCheckpoint}
    (found : checkpointOfThread store threadId checkpointId = some checkpoint) :
    ∃ thread, store.threads.get threadId = some thread := by
  simp only [checkpointOfThread, Option.bind_eq_some_iff] at found
  obtain ⟨thread, stored, _⟩ := found
  exact ⟨thread, stored⟩

/-- Restoring moves the thread to what the checkpoint marks. -/
theorem restoreCheckpoint_spec (store : Store) (threadId : ThreadId) (checkpointId : String) :
    match (view store).markIn threadId checkpointId with
    | none => view (restoreCheckpoint store threadId checkpointId).1 = view store
    | some mark => ∃ tip, (view store).tip threadId = some tip ∧
        view (restoreCheckpoint store threadId checkpointId).1 =
          (view store).putTip threadId ⟨mark.branch.or tip.active, mark.leaf⟩ := by
  rw [← checkpointOfThread_view]
  unfold restoreCheckpoint
  cases found : checkpointOfThread store threadId checkpointId with
  | none => rfl
  | some checkpoint =>
    obtain ⟨thread, stored⟩ := checkpointOfThread_thread found
    exact ⟨tipOf thread, tip_found stored, view_updateThreadVersionPointer stored _ _⟩

/-- Checking out opens a branch that ends where the checkpoint marks. -/
theorem checkoutCheckpoint_spec {threadId : ThreadId} {checkpointId title : String} {draws : Draws}
    {result : Option BranchId}
    (checked : checkoutCheckpoint store threadId checkpointId title draws = some (next, result)) :
    match (view store).markIn threadId checkpointId with
    | none => view next = view store
    | some mark => (view store).branch draws.branchId = none ∧
        view next = (view store).opened threadId draws.branchId mark.leaf := by
  rw [← checkpointOfThread_view]
  unfold checkoutCheckpoint at checked
  cases found : checkpointOfThread store threadId checkpointId with
  | none =>
    simp only [found, Option.some.injEq, Prod.mk.injEq] at checked
    exact congrArg view checked.1.symm
  | some checkpoint =>
    obtain ⟨thread, stored⟩ := checkpointOfThread_thread found
    simp only [found, Option.map_eq_some_iff, Prod.mk.injEq] at checked
    obtain ⟨created, inserted, rfl, _⟩ := checked
    obtain ⟨fresh, after⟩ := view_createBranch inserted
    refine ⟨fresh, ?_⟩
    have kept : created.threads.get threadId = some thread := by
      simp only [createBranch, Option.map_eq_some_iff] at inserted
      obtain ⟨_, _, rfl⟩ := inserted
      exact stored
    rw [view_updateThreadVersionPointer kept, after]
    rfl

/-- Activating moves the thread to where the branch ends. -/
theorem activateBranch_spec (store : Store) (threadId : ThreadId) (branchId : String) :
    match (view store).branchIn threadId branchId with
    | none => view (activateBranch store threadId branchId).1 = view store
    | some branchEnd => view (activateBranch store threadId branchId).1 =
          (view store).putTip threadId ⟨some (Text.strip branchId), branchEnd.leaf⟩ := by
  rw [← branchOfThread_view]
  unfold activateBranch
  cases found : branchOfThread store threadId branchId with
  | none => rfl
  | some branch =>
    have stored := found
    simp only [branchOfThread, Option.bind_eq_some_iff] at stored
    obtain ⟨thread, stored, _⟩ := stored
    exact view_updateThreadVersionPointer stored _ _

/-- The node of an edited copy. -/
def editedNode (node : Node) (draws : Draws) : Node :=
  { node with status := "completed", createdAt := draws.messageUtcnow }

/-- Editing a user's message opens a branch that ends with the edited copy, which
hangs where the message hangs. -/
theorem editRetry_spec {messageId : MessageId} {edit : Edit} {draws : Draws}
    {result : Option (BranchId × MessageId)} (homed : Homed (view store))
    (edited : editRetry orders store messageId edit draws = some (next, result)) :
    match (view store).userNode messageId with
    | none => view next = view store
    | some node => ∃ prepared, Prepared (view store) node.threadId draws.defaultBranchId
          (lastMessageForThread orders store node.threadId) prepared ∧
        prepared.branch draws.branchId = none ∧ (view store).node draws.messageId = none ∧
        (view store).mark draws.checkpointId = none ∧
        view next = (prepared.revised draws.branchId draws.messageId
          (editedNode node draws)).putMark draws.checkpointId
            ⟨node.threadId, some draws.branchId, some draws.messageId⟩ := by
  have asked : (view store).userNode messageId =
      ((store.messages.get messageId).filter fun row => decide (row.role = "user")).map nodeOf := by
    simp only [Tree.userNode, view, Option.filter_map]
    rfl
  rw [asked]
  unfold editRetry at edited
  cases found : (store.messages.get messageId).filter fun row => decide (row.role = "user") with
  | none =>
    simp only [found, Option.some.injEq, Prod.mk.injEq] at edited
    exact congrArg view edited.1.symm
  | some message =>
    have stored : store.messages.get messageId = some message := (Option.filter_eq_some_iff.mp found).1
    obtain ⟨tip, tipFound⟩ := homed.thread (node_found stored)
    simp only [view, Option.map_eq_some_iff] at tipFound
    obtain ⟨thread, threadFound, rfl⟩ := tipFound
    have threadStored : store.threads.get message.threadId = some thread := threadFound
    simp only [found, threadStored, Option.bind_eq_some_iff, Option.map_eq_some_iff,
      Prod.mk.injEq] at edited
    obtain ⟨⟨ensured, branchId⟩, ensuring, branched, branching, written, writing, final, finishing,
      rfl, _⟩ := edited
    have preparing := ensure_prepared homed threadStored ensuring
    have original : ((view ensured).node messageId) = some (nodeOf message) := by
      rw [preparing.node]
      exact node_found stored
    simp only [view, Option.map_eq_some_iff] at original
    obtain ⟨originalRow, originalFound, sameNode⟩ := original
    obtain ⟨branchFresh, afterBranch⟩ := view_createBranch branching
    obtain ⟨messageFresh, afterMessage⟩ := view_createMessageRow writing
    rw [afterBranch, Tree.node_putBranch, preparing.node] at messageFresh
    have copied : nodeOf (editedMessage ensured messageId
        ((ensured.messages.get messageId).getD message) edit draws.branchId draws) =
          editedNode (nodeOf message) draws := by
      rw [originalFound, ← sameNode]
      rfl
    rw [copied] at afterMessage
    obtain ⟨active, leaf, branchLeaf, activeTip, _⟩ := preparing.active homed
    have activeKept : (view written).tip message.threadId = some ⟨some active, leaf⟩ := by
      rw [afterMessage, afterBranch]
      exact activeTip
    simp only [view, Option.map_eq_some_iff] at activeKept
    obtain ⟨writtenThread, writtenFound, _⟩ := activeKept
    have moved : view (updateThreadVersionPointer written message.threadId (some draws.branchId)
        (some draws.messageId)) =
          (view ensured).revised draws.branchId draws.messageId
            (editedNode (nodeOf message) draws) := by
      rw [view_updateThreadVersionPointer writtenFound, afterMessage, afterBranch]
      rfl
    have markKept : ((view ensured).revised draws.branchId draws.messageId
        (editedNode (nodeOf message) draws)).mark = (view store).mark := preparing.mark
    have copiedThere : (view (updateThreadVersionPointer written message.threadId
        (some draws.branchId) (some draws.messageId))).node draws.messageId =
          some (editedNode (nodeOf message) draws) := by
      rw [moved]
      simp [Tree.revised]
    have marked := createAutoCheckpoint_spec copiedThere finishing
    rw [moved, markKept] at marked
    rcases marked with ⟨⟨checkpointId, mark, existing, marks⟩, _⟩ | ⟨markFresh, after⟩
    · exact absurd marks (homed.unmarked messageFresh existing)
    · exact ⟨view ensured, preparing, branchFresh, messageFresh, markFresh, after⟩

end

section
variable {orders : Orders} {store next : Store}

/-- The last created message is one of the thread. -/
theorem lastMessage_home (threadId : ThreadId) :
    (view store).LeafHome threadId (lastMessageForThread orders store threadId) := by
  intro messageId isLast
  have spec := lastMessageForThread_spec orders store threadId
  rw [isLast] at spec
  exact spec

/-- Preparing a thread keeps every pointer in its thread. -/
theorem Prepared.homed {prepared : Tree} {threadId : ThreadId} {defaultBranchId : BranchId}
    (homed : Homed (view store)) (preparing : Prepared (view store) threadId defaultBranchId
      (lastMessageForThread orders store threadId) prepared) : Homed prepared := by
  cases preparing with
  | present tip => exact homed
  | made tip fresh => exact homed.opened fresh (lastMessage_home threadId)

theorem createMessage_homed {message : NewMessage} {draws : Draws} (homed : Homed (view store))
    (created : createMessage store message draws = some next) : Homed (view next) := by
  obtain ⟨known, fresh, after⟩ := view_createMessage created
  rw [after]
  refine homed.putNode (fun held found => ?_) known fun _ isParent => (nomatch isParent)
  rw [fresh] at found
  cases found

theorem attach_homed {threadId : ThreadId} {messageId : MessageId} {draws : Draws} {node : Node}
    {result : Option MessageId} (homed : Homed (view store))
    (found : (view store).node messageId = some node) (home : node.threadId = threadId)
    (attached : attachMessageToActiveBranch orders store threadId messageId draws =
      some (next, result)) : Homed (view next) := by
  obtain ⟨prepared, active, leaf, preparing, tip, marked⟩ := attach_spec homed found home attached
  have moved := (preparing.homed homed).attached tip (by rw [preparing.node]; exact found) home
  rcases marked with ⟨_, after⟩ | ⟨_, after⟩
  · rw [after]
    exact moved
  · rw [after]
    refine moved.putMark ⟨some messageId, by simp [Tree.attached]⟩ fun isLeaf same => ?_
    cases same
    exact ⟨node.below messageId leaf, by simp [Tree.attached], home⟩

theorem applied_homed {change : Change} (homed : Homed (view store))
    (taken : applied orders store change = some next) : Homed (view next) := by
  cases change with
  | createThread threadId metadata =>
    obtain ⟨fresh, after⟩ := view_createThread taken
    rw [after]
    exact homed.putThread fresh
  | listBranches threadId draws =>
    simp only [applied, Option.map_eq_some_iff] at taken
    obtain ⟨⟨_, result⟩, listed, rfl⟩ := taken
    rcases listBranches_spec homed listed with ⟨_, after⟩ | ⟨_, _, preparing⟩
    · exact after ▸ homed
    · exact preparing.homed homed
  | createCheckpoint threadId title checkpointType metadata draws =>
    simp only [applied, Option.map_eq_some_iff] at taken
    obtain ⟨⟨_, result⟩, created, rfl⟩ := taken
    rcases createCheckpoint_spec homed created with ⟨_, after⟩ |
      ⟨prepared, active, leaf, branchLeaf, preparing, tip, branch, _, after⟩
    · exact after ▸ homed
    · have prepares := preparing.homed homed
      rw [after]
      refine prepares.putMark ⟨branchLeaf, branch⟩ fun messageId isLeaf => ?_
      cases leaf with
      | none => exact prepares.branchLeaf branch messageId isLeaf
      | some stands => exact prepares.tipLeaf tip messageId isLeaf
  | restoreCheckpoint threadId checkpointId =>
    cases Option.some.inj taken
    have spec := restoreCheckpoint_spec store threadId checkpointId
    cases found : (view store).markIn threadId checkpointId with
    | none =>
      rw [found] at spec
      exact spec ▸ homed
    | some mark =>
      rw [found] at spec
      obtain ⟨tip, tipFound, after⟩ := spec
      obtain ⟨⟨branchId, isBranch, has⟩, home⟩ := homed.mark_home found
      rw [after, isBranch]
      exact homed.putTip has home
  | checkoutCheckpoint threadId checkpointId title draws =>
    simp only [applied, Option.map_eq_some_iff] at taken
    obtain ⟨⟨_, result⟩, checked, rfl⟩ := taken
    have spec := checkoutCheckpoint_spec checked
    cases found : (view store).markIn threadId checkpointId with
    | none =>
      rw [found] at spec
      exact spec ▸ homed
    | some mark =>
      rw [found] at spec
      rw [spec.2]
      exact homed.opened spec.1 (homed.mark_home found).2
  | activateBranch threadId branchId =>
    cases Option.some.inj taken
    have spec := activateBranch_spec store threadId branchId
    cases found : (view store).branchIn threadId branchId with
    | none =>
      rw [found] at spec
      exact spec ▸ homed
    | some branchEnd =>
      rw [found] at spec
      rw [spec]
      have stored := Tree.branchIn_some found
      exact homed.putTip ⟨branchEnd.leaf, stored⟩ (homed.branchLeaf stored)
  | editRetry messageId edit draws =>
    simp only [applied, Option.map_eq_some_iff] at taken
    obtain ⟨⟨_, result⟩, edited, rfl⟩ := taken
    have spec := editRetry_spec homed edited
    cases found : (view store).userNode messageId with
    | none =>
      rw [found] at spec
      exact spec ▸ homed
    | some node =>
      rw [found] at spec
      obtain ⟨prepared, preparing, freshBranch, fresh, _, after⟩ := spec
      have prepares := preparing.homed homed
      have stored : prepared.node messageId = some node := by
        rw [preparing.node]
        exact (Option.filter_eq_some_iff.mp found).1
      obtain ⟨known, home⟩ := prepares.nodeHome messageId node stored
      have opened : Homed (prepared.revised draws.branchId draws.messageId (editedNode node draws)) :=
        prepares.revised freshBranch (by rw [preparing.node]; exact fresh) known home
      rw [after]
      refine opened.putMark ⟨some draws.messageId, by simp [Tree.revised, Tree.opened, editedNode]⟩ ?_
      intro isLeaf same
      cases same
      exact ⟨editedNode node draws, by simp [Tree.revised], rfl⟩

/-- Every step of interleaved writers keeps every pointer in its thread. -/
theorem step_homed {action : Orders × Action} (homed : Homed (view store))
    (taken : step store action = some next) : Homed (view next) := by
  obtain ⟨orders, action⟩ := action
  cases action with
  | createMessage message draws => exact createMessage_homed homed taken
  | attach messageId draws =>
    simp only [step, Option.bind_eq_some_iff, Option.map_eq_some_iff] at taken
    obtain ⟨row, stored, ⟨_, result⟩, attached, rfl⟩ := taken
    exact attach_homed homed (node_found stored) rfl attached
  | change change => exact applied_homed homed taken

/-- Every operation keeps every pointer in its thread. -/
theorem perform_homed {operation : Orders × Operation} (homed : Homed (view store))
    (taken : perform store operation = some next) : Homed (view next) := by
  obtain ⟨orders, operation⟩ := operation
  cases operation with
  | post message draws =>
    simp only [perform, post, Option.bind_eq_some_iff, Option.map_eq_some_iff] at taken
    obtain ⟨created, creating, ⟨_, result⟩, attached, rfl⟩ := taken
    have stored : (view created).node draws.messageId =
        some (nodeOf (message.row draws.messageUtcnow)) := by
      rw [(view_createMessage creating).2.2]
      simp
    exact attach_homed (createMessage_homed homed creating) stored rfl attached
  | change change => exact applied_homed homed taken

end

end MeetYou.VersionMoves
