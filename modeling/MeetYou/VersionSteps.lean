import MeetYou.VersionPaths

/-!
# Operations on the pointer tree

Where messages are attached as soon as they are created, a thread without a branch
has no message, and the effect of an operation on the pointer tree no longer
depends on the order of creation. It is written down here as a function of the
pointer tree, and the service refines it: whenever an operation goes through, the
pointers move as this function says, and the identifiers it drew were free.
-/

namespace MeetYou.VersionSteps

open ConversationStore VersionTree VersionMoves VersionPaths ParentChains

/-- A thread without a branch opens its default branch, which is empty. -/
def started (tree : Tree) (threadId : ThreadId) (defaultBranchId : BranchId) : Tree :=
  match tree.tip threadId with
  | some ⟨none, _⟩ => tree.opened threadId defaultBranchId none
  | _ => tree

/-- The node of a posted message, which hangs below the leaf. -/
def postedNode (message : NewMessage) (draws : Draws) (leaf : Option MessageId) : Node :=
  { nodeOf (message.row draws.messageUtcnow) with parent := leaf }

@[simp] theorem postedNode_threadId (message : NewMessage) (draws : Draws)
    (leaf : Option MessageId) : (postedNode message draws leaf).threadId = message.threadId := rfl

/-- A new message ends the branch and the thread, and a checkpoint marks it. -/
def posted (tree : Tree) (branchId : BranchId) (messageId : MessageId) (node : Node)
    (checkpointId : CheckpointId) : Tree :=
  (((tree.putNode messageId node).putBranch branchId ⟨node.threadId, some messageId⟩).putTip
    node.threadId ⟨some branchId, some messageId⟩).putMark checkpointId
      ⟨node.threadId, some branchId, some messageId⟩

/-- A checkpoint marks where the thread stands, or where its branch ends when the
thread stands nowhere. -/
def saved (tree : Tree) (threadId : ThreadId) (checkpointId : CheckpointId) : Tree :=
  match tree.tip threadId with
  | some ⟨some active, leaf⟩ =>
      tree.putMark checkpointId
        ⟨threadId, some active, leaf.or ((tree.branch active).bind BranchEnd.leaf)⟩
  | _ => tree

/-- An edited copy ends a new branch and is marked. -/
def retried (tree : Tree) (branchId : BranchId) (messageId : MessageId) (node : Node)
    (checkpointId : CheckpointId) : Tree :=
  (tree.revised branchId messageId node).putMark checkpointId
    ⟨node.threadId, some branchId, some messageId⟩

/-- The pointers after an operation. -/
def moved (tree : Tree) : Operation → Tree
  | .post message draws =>
      match tree.tip message.threadId with
      | none => tree
      | some tip => posted tree (tip.active.getD draws.defaultBranchId) draws.messageId
          (postedNode message draws tip.leaf) draws.checkpointId
  | .change (.createThread threadId _) => tree.putTip threadId ⟨none, none⟩
  | .change (.listBranches threadId draws) => started tree threadId draws.defaultBranchId
  | .change (.createCheckpoint threadId _ _ _ draws) =>
      saved (started tree threadId draws.defaultBranchId) threadId draws.checkpointId
  | .change (.restoreCheckpoint threadId checkpointId) =>
      match tree.markIn threadId checkpointId with
      | none => tree
      | some mark => tree.putTip threadId ⟨mark.branch, mark.leaf⟩
  | .change (.checkoutCheckpoint threadId checkpointId _ draws) =>
      match tree.markIn threadId checkpointId with
      | none => tree
      | some mark => tree.opened threadId draws.branchId mark.leaf
  | .change (.activateBranch threadId branchId) =>
      match tree.branchIn threadId branchId with
      | none => tree
      | some branchEnd => tree.putTip threadId ⟨some (Text.strip branchId), branchEnd.leaf⟩
  | .change (.editRetry messageId _ draws) =>
      match tree.userNode messageId with
      | none => tree
      | some node => retried (started tree node.threadId draws.defaultBranchId) draws.branchId
          draws.messageId (editedNode node draws) draws.checkpointId

/-- The default branch of a thread without one has a free identifier. -/
def Startable (tree : Tree) (threadId : ThreadId) (defaultBranchId : BranchId) : Prop :=
  ∀ leaf, tree.tip threadId = some ⟨none, leaf⟩ → tree.branch defaultBranchId = none

/-- The thread an operation works on. -/
def subject (tree : Tree) : Operation → Option ThreadId
  | .post message _ => some message.threadId
  | .change (.createThread threadId _) => some threadId
  | .change (.listBranches threadId _) => some threadId
  | .change (.createCheckpoint threadId _ _ _ _) => some threadId
  | .change (.restoreCheckpoint threadId _) => some threadId
  | .change (.checkoutCheckpoint threadId _ _ _) => some threadId
  | .change (.activateBranch threadId _) => some threadId
  | .change (.editRetry messageId _ _) => (tree.userNode messageId).map Node.threadId

/-- The identifiers an operation writes under are free, and a posted message has a
thread. -/
def Granted (tree : Tree) : Operation → Prop
  | .post message draws => tree.Known message.threadId ∧
      Startable tree message.threadId draws.defaultBranchId ∧
      tree.node draws.messageId = none ∧ tree.mark draws.checkpointId = none
  | .change (.createThread threadId _) => tree.tip threadId = none
  | .change (.listBranches threadId draws) => Startable tree threadId draws.defaultBranchId
  | .change (.createCheckpoint threadId _ _ _ draws) =>
      Startable tree threadId draws.defaultBranchId ∧
        (tree.Known threadId → tree.mark draws.checkpointId = none)
  | .change (.restoreCheckpoint _ _) => True
  | .change (.checkoutCheckpoint threadId checkpointId _ draws) =>
      ∀ mark, tree.markIn threadId checkpointId = some mark → tree.branch draws.branchId = none
  | .change (.activateBranch _ _) => True
  | .change (.editRetry messageId _ draws) => ∀ node, tree.userNode messageId = some node →
      Startable tree node.threadId draws.defaultBranchId ∧
        (started tree node.threadId draws.defaultBranchId).branch draws.branchId = none ∧
        tree.node draws.messageId = none ∧ tree.mark draws.checkpointId = none

/-- A thread without an active branch has no message. -/
def Settled (tree : Tree) : Prop :=
  ∀ threadId leaf, tree.tip threadId = some ⟨none, leaf⟩ → ∀ messageId,
    ¬ tree.InThread threadId messageId

/-- The pointers stay in their threads, the parents form a forest, and a thread
without a branch is empty. -/
structure Sound (tree : Tree) : Prop where
  homed : Homed tree
  grounded : Grounded tree
  settled : Settled tree

section
variable {tree : Tree} {threadId : ThreadId} {defaultBranchId : BranchId}

@[simp] theorem node_started : (started tree threadId defaultBranchId).node = tree.node := by
  unfold started
  split <;> rfl

@[simp] theorem mark_started : (started tree threadId defaultBranchId).mark = tree.mark := by
  unfold started
  split <;> rfl

@[simp] theorem node_saved {checkpointId : CheckpointId} :
    (saved tree threadId checkpointId).node = tree.node := by
  unfold saved
  split <;> rfl

@[simp] theorem tip_saved {checkpointId : CheckpointId} :
    (saved tree threadId checkpointId).tip = tree.tip := by
  unfold saved
  split <;> rfl

@[simp] theorem branch_saved {checkpointId : CheckpointId} :
    (saved tree threadId checkpointId).branch = tree.branch := by
  unfold saved
  split <;> rfl

/-- A thread that exists stands on a branch once it is started. -/
theorem tip_started (sound : Sound tree) {tip : Tip} (known : tree.tip threadId = some tip) :
    (started tree threadId defaultBranchId).tip threadId =
      some ⟨some (tip.active.getD defaultBranchId), tip.leaf⟩ := by
  obtain ⟨active, leaf⟩ := tip
  cases active with
  | none =>
    have leafless := sound.homed.idle known
    simp [started, known, Tree.opened, leafless]
  | some branchId => simp [started, known]

theorem started_unknown (unknown : tree.tip threadId = none) :
    started tree threadId defaultBranchId = tree := by
  simp [started, unknown]

theorem started_active {active : BranchId} {leaf : Option MessageId}
    (known : tree.tip threadId = some ⟨some active, leaf⟩) :
    started tree threadId defaultBranchId = tree := by
  simp [started, known]

/-- A thread that has a message is started. -/
theorem started_of_message (sound : Sound tree) {messageId : MessageId} {node : Node}
    (stored : tree.node messageId = some node) (defaultBranchId : BranchId) :
    started tree node.threadId defaultBranchId = tree := by
  obtain ⟨⟨active, leaf⟩, known⟩ := sound.homed.thread stored
  cases active with
  | some branchId => exact started_active known
  | none => exact absurd ⟨node, stored, rfl⟩ (sound.settled node.threadId leaf known messageId)

theorem started_idle {leaf : Option MessageId} (known : tree.tip threadId = some ⟨none, leaf⟩) :
    started tree threadId defaultBranchId = tree.opened threadId defaultBranchId none := by
  simp [started, known]

end

section
variable {orders : Orders} {store next : Store}

/-- In a settled store, preparing a thread starts it. -/
theorem prepared_started {prepared : Tree} {threadId : ThreadId} {defaultBranchId : BranchId}
    (sound : Sound (view store)) (preparing : Prepared (view store) threadId defaultBranchId
      (lastMessageForThread orders store threadId) prepared) :
    prepared = started (view store) threadId defaultBranchId ∧
      Startable (view store) threadId defaultBranchId := by
  cases preparing with
  | present tip =>
    refine ⟨(started_active tip).symm, fun leaf idle => ?_⟩
    rw [tip] at idle
    cases idle
  | made tip fresh =>
    have none_last : lastMessageForThread orders store threadId = none := by
      cases last : lastMessageForThread orders store threadId with
      | none => rfl
      | some messageId =>
        exact absurd (lastMessage_home threadId messageId last)
          (sound.settled threadId none tip messageId)
    refine ⟨?_, fun _ _ => fresh⟩
    rw [started_idle tip, none_last]

/-- Posting hangs a new message below the leaf of its thread. -/
theorem post_moved {message : NewMessage} {draws : Draws} (sound : Sound (view store))
    (taken : post orders store message draws = some next) :
    view next = moved (view store) (.post message draws) ∧
      Granted (view store) (.post message draws) := by
  simp only [post, Option.bind_eq_some_iff, Option.map_eq_some_iff] at taken
  obtain ⟨created, creating, ⟨_, result⟩, attaching, rfl⟩ := taken
  obtain ⟨known, fresh, after⟩ := view_createMessage creating
  have written : (view created).node draws.messageId =
      some (nodeOf (message.row draws.messageUtcnow)) := by
    rw [after]
    simp
  have home : (nodeOf (message.row draws.messageUtcnow)).threadId = message.threadId := rfl
  obtain ⟨prepared, active, leaf, preparing, tip, marked⟩ :=
    attach_spec (createMessage_homed sound.homed creating) written home attaching
  have marks : (view created).mark = (view store).mark := by
    rw [after]
    rfl
  rw [marks] at marked
  rcases marked with ⟨⟨checkpointId, mark, existing, marks⟩, _⟩ | ⟨freshMark, moves⟩
  · exact absurd marks (sound.homed.unmarked fresh existing)
  · rw [moves]
    have tips : (view created).tip = (view store).tip := by
      rw [after]
      rfl
    cases preparing with
    | present _ =>
      rw [tips] at tip
      have apart : leaf ≠ some draws.messageId := by
        rintro rfl
        obtain ⟨node, stored, _⟩ := sound.homed.tipLeaf tip draws.messageId rfl
        rw [fresh] at stored
        cases stored
      refine ⟨?_, known, fun idleLeaf idle => ?_, fresh, freshMark⟩
      · simp only [moved, tip, after]
        refine Tree.ext ?_ rfl rfl rfl
        funext tested
        simp only [posted, postedNode, Tree.attached, Tree.node_putMark, Tree.node_putTip, Tree.node_putBranch,
          Tree.node_putNode]
        by_cases same : tested = draws.messageId
        · simp [same, Node.below, nodeOf, NewMessage.row, apart]
        · simp [same]
      · rw [tip] at idle
        cases idle
    | made idle freshBranch =>
      rw [tips] at idle
      have branches : (view created).branch = (view store).branch := by
        rw [after]
        rfl
      rw [branches] at freshBranch
      have isLast : lastMessageForThread orders created message.threadId = some draws.messageId := by
        have spec := lastMessageForThread_spec orders created message.threadId
        cases last : lastMessageForThread orders created message.threadId with
        | none =>
          rw [last] at spec
          exact absurd rfl (spec draws.messageId _ written)
        | some messageId =>
          rw [last] at spec
          obtain ⟨node, stored, home⟩ := spec
          rw [after, Tree.node_putNode] at stored
          by_cases same : messageId = draws.messageId
          · rw [same]
          · rw [if_neg same] at stored
            exact absurd ⟨node, stored, home⟩
              (sound.settled message.threadId none idle messageId)
      have tipEnds : (⟨some draws.defaultBranchId, some draws.messageId⟩ : Tip) =
          ⟨some active, leaf⟩ := by
        rw [isLast] at tip
        simpa [Tree.opened] using tip
      cases tipEnds
      refine ⟨?_, known, fun _ _ => freshBranch, fresh, freshMark⟩
      simp only [moved, idle, after, isLast]
      refine Tree.ext ?_ ?_ ?_ rfl
      · funext tested
        simp only [posted, postedNode, Tree.attached, Tree.opened, Tree.node_putMark, Tree.node_putTip,
          Tree.node_putBranch, Tree.node_putNode]
        by_cases same : tested = draws.messageId
        · simp [same, Node.below, nodeOf, NewMessage.row]
        · simp [same]
      · funext tested
        by_cases same : tested = message.threadId
        · simp [posted, Tree.attached, Tree.opened, same]
        · simp [posted, Tree.attached, Tree.opened, same]
      · funext tested
        by_cases same : tested = draws.defaultBranchId
        · simp [posted, Tree.attached, Tree.opened, same]
        · simp [posted, Tree.attached, Tree.opened, same]

/-- Every other operation moves the pointers as its function says. -/
theorem applied_moved {change : Change} (sound : Sound (view store))
    (taken : applied orders store change = some next) :
    view next = moved (view store) (.change change) ∧ Granted (view store) (.change change) := by
  cases change with
  | createThread threadId metadata =>
    obtain ⟨fresh, after⟩ := view_createThread taken
    exact ⟨after, fresh⟩
  | listBranches threadId draws =>
    simp only [applied, Option.map_eq_some_iff] at taken
    obtain ⟨⟨_, result⟩, listed, rfl⟩ := taken
    rcases listBranches_spec sound.homed listed with ⟨unknown, after⟩ | ⟨_, _, preparing⟩
    · refine ⟨after.trans (started_unknown unknown).symm, fun leaf idle => ?_⟩
      rw [unknown] at idle
      cases idle
    · exact prepared_started sound preparing
  | createCheckpoint threadId title checkpointType metadata draws =>
    simp only [applied, Option.map_eq_some_iff] at taken
    obtain ⟨⟨_, result⟩, created, rfl⟩ := taken
    rcases createCheckpoint_spec sound.homed created with ⟨unknown, after⟩ |
      ⟨prepared, active, leaf, branchLeaf, preparing, tip, branch, fresh, after⟩
    · refine ⟨?_, fun leaf idle => ?_, fun known => ?_⟩
      · simp [moved, started_unknown unknown, saved, unknown, after]
      · rw [unknown] at idle
        cases idle
      · obtain ⟨tip, found⟩ := known
        rw [unknown] at found
        cases found
    · obtain ⟨rfl, startable⟩ := prepared_started sound preparing
      refine ⟨?_, startable, fun _ => fresh⟩
      rw [after]
      simp only [moved, saved, tip, branch, Option.bind_some]
  | restoreCheckpoint threadId checkpointId =>
    cases Option.some.inj taken
    refine ⟨?_, trivial⟩
    have spec := restoreCheckpoint_spec store threadId checkpointId
    cases found : (view store).markIn threadId checkpointId with
    | none =>
      rw [found] at spec
      simpa only [moved, found] using spec
    | some mark =>
      rw [found] at spec
      obtain ⟨tip, _, after⟩ := spec
      obtain ⟨⟨branchId, isBranch, _⟩, _⟩ := sound.homed.mark_home found
      rw [after]
      simp only [moved, found, isBranch, Option.some_or]
  | checkoutCheckpoint threadId checkpointId title draws =>
    simp only [applied, Option.map_eq_some_iff] at taken
    obtain ⟨⟨_, result⟩, checked, rfl⟩ := taken
    have spec := checkoutCheckpoint_spec checked
    cases found : (view store).markIn threadId checkpointId with
    | none =>
      rw [found] at spec
      refine ⟨by simpa only [moved, found] using spec, fun mark other => ?_⟩
      rw [found] at other
      cases other
    | some mark =>
      rw [found] at spec
      exact ⟨by simpa only [moved, found] using spec.2, fun _ _ => spec.1⟩
  | activateBranch threadId branchId =>
    cases Option.some.inj taken
    refine ⟨?_, trivial⟩
    have spec := activateBranch_spec store threadId branchId
    cases found : (view store).branchIn threadId branchId with
    | none =>
      rw [found] at spec
      simpa only [moved, found] using spec
    | some branchEnd =>
      rw [found] at spec
      simpa only [moved, found] using spec
  | editRetry messageId edit draws =>
    simp only [applied, Option.map_eq_some_iff] at taken
    obtain ⟨⟨_, result⟩, edited, rfl⟩ := taken
    have spec := editRetry_spec sound.homed edited
    cases found : (view store).userNode messageId with
    | none =>
      rw [found] at spec
      refine ⟨by simpa only [moved, found] using spec, fun node other => ?_⟩
      rw [found] at other
      cases other
    | some node =>
      rw [found] at spec
      obtain ⟨prepared, preparing, freshBranch, fresh, freshMark, after⟩ := spec
      obtain ⟨rfl, startable⟩ := prepared_started sound preparing
      refine ⟨by simp only [moved, found, after]; rfl, fun other same => ?_⟩
      rw [found] at same
      cases same
      exact ⟨startable, freshBranch, fresh, freshMark⟩

/-- The service refines the operations on the pointer tree. -/
theorem perform_moved {operation : Orders × Operation} (sound : Sound (view store))
    (taken : perform store operation = some next) :
    view next = moved (view store) operation.2 ∧ Granted (view store) operation.2 := by
  obtain ⟨orders, operation⟩ := operation
  cases operation with
  | post message draws => exact post_moved sound taken
  | change change => exact applied_moved sound taken

end

section
variable {tree later : Tree} {operation : Operation}

/-- An operation writes at most one message, a new one that hangs on a message of
its thread. -/
theorem node_moved (homed : Homed tree) (granted : Granted tree operation) :
    (moved tree operation).node = tree.node ∨ ∃ messageId node, tree.node messageId = none ∧
      tree.LeafHome node.threadId node.parent ∧
        (moved tree operation).node = (tree.putNode messageId node).node := by
  cases operation with
  | post message draws =>
    obtain ⟨⟨tip, known⟩, _, fresh, _⟩ := granted
    refine Or.inr ⟨draws.messageId, postedNode message draws tip.leaf, fresh,
      homed.tipLeaf known, ?_⟩
    simp only [moved, known]
    rfl
  | change change =>
    cases change with
    | createThread threadId metadata => exact Or.inl rfl
    | listBranches threadId draws => exact Or.inl node_started
    | createCheckpoint threadId title checkpointType metadata draws =>
      left
      simp only [moved, saved]
      split <;> simp
    | restoreCheckpoint threadId checkpointId =>
      left
      simp only [moved]
      split <;> rfl
    | checkoutCheckpoint threadId checkpointId title draws =>
      left
      simp only [moved]
      split <;> rfl
    | activateBranch threadId branchId =>
      left
      simp only [moved]
      split <;> rfl
    | editRetry messageId edit draws =>
      cases found : tree.userNode messageId with
      | none =>
        left
        simp only [moved, found]
      | some node =>
        obtain ⟨_, _, fresh, _⟩ := granted node found
        refine Or.inr ⟨draws.messageId, editedNode node draws, fresh,
          (homed.nodeHome messageId node (Option.filter_eq_some_iff.mp found).1).2, ?_⟩
        simp only [moved, found]
        funext tested
        simp [retried, Tree.revised, Tree.opened]

/-- Chains stay as they are. -/
theorem kept_chain (homed : Homed tree) (granted : Granted tree operation) {threadId : ThreadId}
    {start : Option MessageId} {trail : List MessageId}
    (chain : Chain (tree.links threadId) start trail) :
    Chain ((moved tree operation).links threadId) start trail := by
  rcases node_moved homed granted with same | ⟨messageId, node, fresh, _, after⟩
  · rwa [links_congr same]
  · rw [links_congr after]
    exact chain_putFresh chain fresh

theorem grounded_moved (homed : Homed tree) (grounded : Grounded tree)
    (granted : Granted tree operation) : Grounded (moved tree operation) := by
  rcases node_moved homed granted with same | ⟨messageId, node, fresh, home, after⟩
  · exact grounded.congr same
  · exact (grounded.putFresh fresh home).congr after

/-- A branch of the pointer tree is an old one or ends where a thread on it stands. -/
theorem branch_moved {branchId : BranchId} {branchEnd : BranchEnd} (sound : Sound tree)
    (granted : Granted tree operation)
    (found : (moved tree operation).branch branchId = some branchEnd) :
    tree.branch branchId = some branchEnd ∨
      (moved tree operation).tip branchEnd.threadId = some ⟨some branchId, branchEnd.leaf⟩ := by
  have opens : ∀ {start : Tree} {threadId opened leaf},
      (start.opened threadId opened leaf).branch branchId = some branchEnd →
        start.branch branchId = some branchEnd ∨
          (start.opened threadId opened leaf).tip branchEnd.threadId =
            some ⟨some branchId, branchEnd.leaf⟩ := by
    intro start threadId opened leaf there
    by_cases same : branchId = opened
    · simp only [Tree.opened, Tree.branch_putTip, Tree.branch_putBranch, same, if_true,
        Option.some.injEq] at there
      subst there
      exact Or.inr (by simp [Tree.opened, same])
    · exact Or.inl (by simpa [Tree.opened, same] using there)
  have starts : ∀ {threadId defaultBranchId},
      (started tree threadId defaultBranchId).branch branchId = some branchEnd →
        tree.branch branchId = some branchEnd ∨
          (started tree threadId defaultBranchId).tip branchEnd.threadId =
            some ⟨some branchId, branchEnd.leaf⟩ := by
    intro threadId defaultBranchId there
    unfold started at there ⊢
    split at there
    · exact opens there
    · exact Or.inl there
  cases operation with
  | post message draws =>
    obtain ⟨⟨tip, known⟩, _⟩ := granted
    simp only [moved, known] at found ⊢
    exact opens found
  | change change =>
    cases change with
    | createThread threadId metadata => exact Or.inl found
    | listBranches threadId draws => exact starts found
    | createCheckpoint threadId title checkpointType metadata draws =>
      simp only [moved, saved] at found ⊢
      split at found <;> exact starts found
    | restoreCheckpoint threadId checkpointId =>
      simp only [moved] at found
      split at found <;> exact Or.inl found
    | checkoutCheckpoint threadId checkpointId title draws =>
      simp only [moved] at found ⊢
      split at found
      · exact Or.inl found
      · exact opens found
    | activateBranch threadId branchId =>
      simp only [moved] at found
      split at found <;> exact Or.inl found
    | editRetry messageId edit draws =>
      simp only [moved] at found ⊢
      split at found
      · exact Or.inl found
      · next node asked =>
        have unstarted := started_of_message sound (Option.filter_eq_some_iff.mp asked).1
          draws.defaultBranchId
        rw [unstarted] at found ⊢
        exact opens found

/-- A stored branch stays as it is, unless a message is posted on it. -/
theorem kept_branch {branchId : BranchId} {branchEnd : BranchEnd} (sound : Sound tree)
    (granted : Granted tree operation) (stored : tree.branch branchId = some branchEnd) :
    (moved tree operation).branch branchId = some branchEnd ∨
      ∃ message draws leaf, operation = .post message draws ∧
        tree.tip message.threadId = some ⟨some branchId, leaf⟩ := by
  have opens : ∀ {threadId opened leaf}, tree.branch opened = none →
      (tree.opened threadId opened leaf).branch branchId = some branchEnd := by
    intro threadId opened leaf fresh
    have different : branchId ≠ opened := by
      rintro rfl
      rw [fresh] at stored
      cases stored
    simpa [Tree.opened, different] using stored
  have starts : ∀ {threadId defaultBranchId}, Startable tree threadId defaultBranchId →
      (started tree threadId defaultBranchId).branch branchId = some branchEnd := by
    intro threadId defaultBranchId startable
    unfold started
    split
    · next leaf tip => exact opens (startable leaf tip)
    · exact stored
  cases operation with
  | post message draws =>
    obtain ⟨⟨⟨active, leaf⟩, known⟩, startable, _⟩ := granted
    cases active with
    | none =>
      left
      simp only [moved, known]
      exact opens (startable leaf known)
    | some active =>
      by_cases same : branchId = active
      · exact Or.inr ⟨message, draws, leaf, rfl, same ▸ known⟩
      · left
        simpa [moved, known, posted, same] using stored
  | change change =>
    left
    cases change with
    | createThread threadId metadata => exact stored
    | listBranches threadId draws => exact starts granted
    | createCheckpoint threadId title checkpointType metadata draws =>
      simp only [moved, saved]
      split <;> exact starts granted.1
    | restoreCheckpoint threadId checkpointId =>
      simp only [moved]
      split <;> exact stored
    | checkoutCheckpoint threadId checkpointId title draws =>
      simp only [moved]
      split
      · exact stored
      · next mark asked => exact opens (granted mark asked)
    | activateBranch threadId branchId =>
      simp only [moved]
      split <;> exact stored
    | editRetry messageId edit draws =>
      simp only [moved]
      split
      · exact stored
      · next node asked =>
        obtain ⟨_, fresh, _⟩ := granted node asked
        have unstarted := started_of_message sound (Option.filter_eq_some_iff.mp asked).1
          draws.defaultBranchId
        rw [unstarted] at fresh ⊢
        exact opens fresh

/-- A checkpoint of the pointer tree is an old one or was taken where its thread
stands. -/
theorem mark_moved {checkpointId : CheckpointId} {mark : Mark} (sound : Sound tree)
    (granted : Granted tree operation)
    (found : (moved tree operation).mark checkpointId = some mark) :
    tree.mark checkpointId = some mark ∨ ∃ active leaf,
      (moved tree operation).tip mark.threadId = some ⟨some active, leaf⟩ ∧
        mark.branch = some active ∧
        mark.leaf = leaf.or (((moved tree operation).branch active).bind BranchEnd.leaf) := by
  have taken : ∀ {start : Tree} (leaf) {threadId active marks marked},
      (start.putMark marked ⟨threadId, some active, marks⟩).mark checkpointId = some mark →
      start.tip threadId = some ⟨some active, leaf⟩ →
      marks = leaf.or ((start.branch active).bind BranchEnd.leaf) →
        start.mark checkpointId = some mark ∨ ∃ active leaf,
          start.tip mark.threadId = some ⟨some active, leaf⟩ ∧ mark.branch = some active ∧
            mark.leaf = leaf.or ((start.branch active).bind BranchEnd.leaf) := by
    intro start leaf threadId active marks marked there stands isLeaf
    by_cases same : checkpointId = marked
    · simp only [Tree.mark_putMark, same, if_true, Option.some.injEq] at there
      subst there
      exact Or.inr ⟨active, leaf, stands, rfl, isLeaf⟩
    · exact Or.inl (by simpa [same] using there)
  cases operation with
  | post message draws =>
    obtain ⟨⟨tip, known⟩, _⟩ := granted
    simp only [moved, known, posted] at found ⊢
    exact taken (some draws.messageId) found (by simp) rfl
  | change change =>
    cases change with
    | createThread threadId metadata => exact Or.inl found
    | listBranches threadId draws =>
      left
      simpa [moved] using found
    | createCheckpoint threadId title checkpointType metadata draws =>
      simp only [moved, saved] at found ⊢
      split at found
      · next active leaf stands =>
        rcases taken leaf found stands rfl with old | new
        · exact Or.inl (by simpa using old)
        · exact Or.inr new
      · exact Or.inl (by simpa using found)
    | restoreCheckpoint threadId checkpointId =>
      simp only [moved] at found
      split at found <;> exact Or.inl found
    | checkoutCheckpoint threadId checkpointId title draws =>
      simp only [moved] at found
      split at found <;> exact Or.inl found
    | activateBranch threadId branchId =>
      simp only [moved] at found
      split at found <;> exact Or.inl found
    | editRetry messageId edit draws =>
      simp only [moved] at found ⊢
      split at found
      · exact Or.inl found
      · next node asked =>
        have unstarted := started_of_message sound (Option.filter_eq_some_iff.mp asked).1
          draws.defaultBranchId
        rw [unstarted, retried] at found ⊢
        exact taken (some draws.messageId) found (by simp [Tree.revised, Tree.opened]) rfl

/-- No other thread moves or is written to. -/
theorem moved_other {threadId : ThreadId} (granted : Granted tree operation)
    (other : subject tree operation ≠ some threadId) :
    (moved tree operation).tip threadId = tree.tip threadId ∧ ∀ messageId,
      (moved tree operation).InThread threadId messageId → tree.InThread threadId messageId := by
  have written : ∀ messageId node {tested}, node.threadId ≠ threadId →
      (tree.putNode messageId node).InThread threadId tested → tree.InThread threadId tested := by
    rintro messageId node tested apart ⟨held, found, home⟩
    by_cases same : tested = messageId
    · simp only [Tree.node_putNode, same, if_true, Option.some.injEq] at found
      exact absurd (by rw [found, home]) apart
    · exact ⟨held, by simpa [same] using found, home⟩
  have starts : ∀ {started} defaultBranchId, started ≠ threadId →
      (VersionSteps.started tree started defaultBranchId).tip threadId = tree.tip threadId := by
    intro started defaultBranchId apart
    unfold VersionSteps.started
    split
    · simp [Tree.opened, Ne.symm apart]
    · rfl
  cases operation with
  | post message draws =>
    obtain ⟨⟨tip, known⟩, _⟩ := granted
    have apart : message.threadId ≠ threadId := fun same => other (congrArg some same)
    simp only [moved, known]
    exact ⟨by simp [posted, Ne.symm apart], fun _ inThread => written _ _ apart inThread⟩
  | change change =>
    cases change with
    | createThread subject metadata =>
      have apart : subject ≠ threadId := fun same => other (congrArg some same)
      exact ⟨by simp [moved, Ne.symm apart], fun _ => id⟩
    | listBranches subject draws =>
      have apart : subject ≠ threadId := fun same => other (congrArg some same)
      refine ⟨starts _ apart, fun _ inThread => ?_⟩
      obtain ⟨node, found, home⟩ := inThread
      exact ⟨node, by simpa [moved] using found, home⟩
    | createCheckpoint subject title checkpointType metadata draws =>
      have apart : subject ≠ threadId := fun same => other (congrArg some same)
      simp only [moved, saved]
      split
      · refine ⟨starts _ apart, fun _ inThread => ?_⟩
        obtain ⟨node, found, home⟩ := inThread
        exact ⟨node, by simpa using found, home⟩
      · refine ⟨starts _ apart, fun _ inThread => ?_⟩
        obtain ⟨node, found, home⟩ := inThread
        exact ⟨node, by simpa using found, home⟩
    | restoreCheckpoint subject checkpointId =>
      have apart : subject ≠ threadId := fun same => other (congrArg some same)
      simp only [moved]
      split
      · exact ⟨rfl, fun _ => id⟩
      · exact ⟨by simp [Ne.symm apart], fun _ => id⟩
    | checkoutCheckpoint subject checkpointId title draws =>
      have apart : subject ≠ threadId := fun same => other (congrArg some same)
      simp only [moved]
      split
      · exact ⟨rfl, fun _ => id⟩
      · exact ⟨by simp [Tree.opened, Ne.symm apart], fun _ => id⟩
    | activateBranch subject branchId =>
      have apart : subject ≠ threadId := fun same => other (congrArg some same)
      simp only [moved]
      split
      · exact ⟨rfl, fun _ => id⟩
      · exact ⟨by simp [Ne.symm apart], fun _ => id⟩
    | editRetry messageId edit draws =>
      cases asked : tree.userNode messageId with
      | none =>
        refine ⟨by simp only [moved, asked], fun tested inThread => ?_⟩
        simpa only [moved, asked] using inThread
      | some node =>
        have apart : node.threadId ≠ threadId := by
          intro same
          exact other (by simp [subject, asked, same])
        simp only [moved, asked]
        refine ⟨?_, fun tested inThread => ?_⟩
        · have stays := starts draws.defaultBranchId apart
          simpa [retried, Tree.revised, Tree.opened, editedNode, Ne.symm apart] using stays
        · obtain ⟨held, found, home⟩ := inThread
          refine written draws.messageId (editedNode node draws) apart ⟨held, ?_, home⟩
          simpa [retried, Tree.revised, Tree.opened] using found

/-- Threads without a branch stay settled where no message is written to them. -/
theorem Settled.keeps (settled : Settled tree)
    (idle : ∀ threadId leaf, later.tip threadId = some ⟨none, leaf⟩ →
      ∃ before, tree.tip threadId = some ⟨none, before⟩)
    (written : ∀ threadId messageId, later.InThread threadId messageId →
      tree.InThread threadId messageId ∨ ∃ active leaf, later.tip threadId = some ⟨some active, leaf⟩) :
    Settled later := by
  intro threadId leaf tip messageId inThread
  obtain ⟨before, tipBefore⟩ := idle threadId leaf tip
  rcases written threadId messageId inThread with old | ⟨active, stands, other⟩
  · exact settled threadId before tipBefore messageId old
  · rw [tip] at other
    cases other

/-- A thread moves onto a branch. -/
theorem Settled.putTip (settled : Settled tree) (threadId : ThreadId) (branchId : BranchId)
    (leaf : Option MessageId) : Settled (tree.putTip threadId ⟨some branchId, leaf⟩) := by
  refine settled.keeps (fun tested tipLeaf tip => ?_) fun _ _ inThread => Or.inl inThread
  by_cases same : tested = threadId
  · simp [same] at tip
  · exact ⟨tipLeaf, by simpa [same] using tip⟩

theorem Settled.opened (settled : Settled tree) (threadId : ThreadId) (branchId : BranchId)
    (leaf : Option MessageId) : Settled (tree.opened threadId branchId leaf) := by
  have branched : Settled (tree.putBranch branchId ⟨threadId, leaf⟩) := settled
  exact branched.putTip threadId branchId leaf

theorem Settled.started (settled : Settled tree) (threadId : ThreadId) (branchId : BranchId) :
    Settled (started tree threadId branchId) := by
  unfold VersionSteps.started
  split
  · exact settled.opened threadId branchId none
  · exact settled

/-- A message is written to a thread that stands on a branch. -/
theorem Settled.putNode (settled : Settled tree) {messageId : MessageId} {node : Node}
    {active : BranchId} {leaf : Option MessageId}
    (tip : tree.tip node.threadId = some ⟨some active, leaf⟩) :
    Settled (tree.putNode messageId node) := by
  refine settled.keeps (fun _ tipLeaf found => ⟨tipLeaf, found⟩) ?_
  rintro threadId tested ⟨held, found, home⟩
  by_cases same : tested = messageId
  · simp only [Tree.node_putNode, same, if_true, Option.some.injEq] at found
    subst found home
    exact Or.inr ⟨active, leaf, tip⟩
  · exact Or.inl ⟨held, by simpa [same] using found, home⟩

/-- A message is written to a thread that moves onto a branch. -/
theorem Settled.written (settled : Settled tree) (messageId : MessageId) (node : Node)
    (branchId : BranchId) (leaf : Option MessageId) :
    Settled ((tree.opened node.threadId branchId leaf).putNode messageId node) := by
  have stands : (tree.opened node.threadId branchId leaf).tip node.threadId =
      some ⟨some branchId, leaf⟩ := by simp [Tree.opened]
  exact (settled.opened node.threadId branchId leaf).putNode stands

theorem settled_moved (homed : Homed tree) (settled : Settled tree)
    (granted : Granted tree operation) : Settled (moved tree operation) := by
  cases operation with
  | post message draws =>
    obtain ⟨⟨tip, known⟩, _⟩ := granted
    simp only [moved, known]
    exact settled.written draws.messageId
      (postedNode message draws tip.leaf)
      (tip.active.getD draws.defaultBranchId) (some draws.messageId)
  | change change =>
    cases change with
    | createThread threadId metadata =>
      intro tested leaf tip messageId inThread
      by_cases same : tested = threadId
      · obtain ⟨node, stored, rfl⟩ := inThread
        obtain ⟨held, known⟩ := homed.thread stored
        rw [same] at known
        exact absurd (known.symm.trans granted) (by simp)
      · exact settled tested leaf (by simpa [moved, same] using tip) messageId inThread
    | listBranches threadId draws => exact settled.started threadId draws.defaultBranchId
    | createCheckpoint threadId title checkpointType metadata draws =>
      have branched := settled.started threadId draws.defaultBranchId
      simp only [moved, saved]
      split <;> exact branched
    | restoreCheckpoint threadId checkpointId =>
      simp only [moved]
      split
      · exact settled
      · next mark found =>
        obtain ⟨⟨branchId, isBranch, _⟩, _⟩ := homed.mark_home found
        rw [isBranch]
        exact settled.putTip threadId branchId mark.leaf
    | checkoutCheckpoint threadId checkpointId title draws =>
      simp only [moved]
      split
      · exact settled
      · exact settled.opened threadId draws.branchId _
    | activateBranch threadId branchId =>
      simp only [moved]
      split
      · exact settled
      · exact settled.putTip threadId _ _
    | editRetry messageId edit draws =>
      simp only [moved]
      split
      · exact settled
      · next node found =>
        exact (settled.started node.threadId draws.defaultBranchId).written draws.messageId
          (editedNode node draws) draws.branchId (some draws.messageId)

end

/-- Every operation keeps the pointers sound. -/
theorem perform_sound {store next : Store} {operation : Orders × Operation}
    (sound : Sound (view store)) (taken : perform store operation = some next) :
    Sound (view next) := by
  obtain ⟨after, granted⟩ := perform_moved sound taken
  refine ⟨perform_homed sound.homed taken, ?_, ?_⟩
  · rw [after]
    exact grounded_moved sound.homed sound.grounded granted
  · rw [after]
    exact settled_moved sound.homed sound.settled granted

theorem start_sound : Sound (view Store.start) := by
  refine ⟨start_homed, fun threadId messageId parent stored => ?_, fun threadId leaf tip => ?_⟩
  · obtain ⟨node, found, _⟩ := Tree.links_some_iff.mp stored
    cases found
  · cases tip

end MeetYou.VersionSteps
