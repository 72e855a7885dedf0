import Mathlib.Logic.Function.Basic
import MeetYou.ConversationStore

/-!
# The pointers of a conversation

What decides a thread's history is small: each message's thread and parent, where
a thread and a branch end, and what a checkpoint marks. The pointer tree holds
just that, as functions of identifiers, and a store has one pointer tree.

Every version operation is given here as a move of the pointer tree. Which
default branch exists and what the automatic checkpoint does is settled once;
later arguments see moves only. The moves keep every pointer inside its own
thread.
-/

namespace MeetYou.VersionTree

open ConversationStore

/-- What a history needs to know of a message. -/
structure Node where
  threadId : ThreadId
  parent : Option MessageId
  role : String
  channel : String
  status : String
  createdAt : Instant

/-- The node of a message after it is attached to a thread that stands at a
leaf: it hangs below the leaf unless it has a parent or is the leaf itself. -/
def Node.below (messageId : MessageId) (leaf : Option MessageId) (node : Node) : Node :=
  { node with parent := if node.parent = none ∧ leaf ≠ some messageId then leaf else node.parent }

/-- Where a thread stands. -/
structure Tip where
  active : Option BranchId
  leaf : Option MessageId

/-- Where a branch ends. -/
structure BranchEnd where
  threadId : ThreadId
  leaf : Option MessageId

/-- What a checkpoint marks. -/
structure Mark where
  threadId : ThreadId
  branch : Option BranchId
  leaf : Option MessageId

/-- The pointers of all conversations. -/
@[ext] structure Tree where
  node : MessageId → Option Node
  tip : ThreadId → Option Tip
  branch : BranchId → Option BranchEnd
  mark : CheckpointId → Option Mark

/-- The node of a row. -/
def nodeOf (row : Message) : Node :=
  ⟨row.threadId, row.parentMessageId, row.role, row.channel, row.status, row.createdAt⟩

/-- A thread shows its active branch and its leaf. -/
def tipOf (row : Thread) : Tip := ⟨row.activeBranchId, row.currentLeafMessageId⟩

/-- A branch shows its thread and its leaf. -/
def branchEndOf (row : ThreadBranch) : BranchEnd := ⟨row.threadId, row.currentLeafMessageId⟩

/-- A checkpoint shows where it was set. -/
def markOf (row : ConversationCheckpoint) : Mark := ⟨row.threadId, row.branchId, row.messageId⟩

/-- The pointers of a store. -/
def view (store : Store) : Tree where
  node messageId := (store.messages.get messageId).map nodeOf
  tip threadId := (store.threads.get threadId).map tipOf
  branch branchId := (store.branches.get branchId).map branchEndOf
  mark checkpointId := (store.checkpoints.get checkpointId).map markOf

namespace Tree

/-- A message with its thread and its parent is stored, or stored anew. -/
def putNode (tree : Tree) (messageId : MessageId) (node : Node) : Tree :=
  { tree with node := Function.update tree.node messageId (some node) }

/-- A thread is given another active branch or leaf. -/
def putTip (tree : Tree) (threadId : ThreadId) (tip : Tip) : Tree :=
  { tree with tip := Function.update tree.tip threadId (some tip) }

/-- A branch is given another leaf. -/
def putBranch (tree : Tree) (branchId : BranchId) (branchEnd : BranchEnd) : Tree :=
  { tree with branch := Function.update tree.branch branchId (some branchEnd) }

/-- A checkpoint is stored. -/
def putMark (tree : Tree) (checkpointId : CheckpointId) (mark : Mark) : Tree :=
  { tree with mark := Function.update tree.mark checkpointId (some mark) }

/-- A new branch becomes the active one and the thread stands where it ends. -/
def opened (tree : Tree) (threadId : ThreadId) (branchId : BranchId) (leaf : Option MessageId) :
    Tree :=
  (tree.putBranch branchId ⟨threadId, leaf⟩).putTip threadId ⟨some branchId, leaf⟩

/-- A message hangs below the leaf and both the branch and the thread end with it. -/
def attached (tree : Tree) (threadId : ThreadId) (branchId : BranchId) (leaf : Option MessageId)
    (messageId : MessageId) (node : Node) : Tree :=
  ((tree.putNode messageId (node.below messageId leaf)).putBranch branchId
    ⟨threadId, some messageId⟩).putTip threadId ⟨some branchId, some messageId⟩

/-- A new message ends a new branch, which becomes the active one. -/
def revised (tree : Tree) (branchId : BranchId) (messageId : MessageId) (node : Node) : Tree :=
  (tree.opened node.threadId branchId (some messageId)).putNode messageId node

/-- The parents inside a thread. -/
def links (tree : Tree) (threadId : ThreadId) (messageId : MessageId) :
    Option (Option MessageId) :=
  (tree.node messageId).bind fun node =>
    if node.threadId = threadId then some node.parent else none

/-- The checkpoint with this public identifier, when it belongs to the thread. -/
def markIn (tree : Tree) (threadId : ThreadId) (checkpointId : String) : Option Mark :=
  (tree.tip threadId).bind fun _ =>
    (tree.mark (Text.strip checkpointId)).filter fun mark => decide (mark.threadId = threadId)

/-- The branch with this public identifier, when it belongs to the thread. -/
def branchIn (tree : Tree) (threadId : ThreadId) (branchId : String) : Option BranchEnd :=
  (tree.tip threadId).bind fun _ =>
    (tree.branch (Text.strip branchId)).filter fun branchEnd =>
      decide (branchEnd.threadId = threadId)

/-- The message with this identifier, when a user wrote it. -/
def userNode (tree : Tree) (messageId : MessageId) : Option Node :=
  (tree.node messageId).filter fun node => decide (node.role = "user")

/-- A message that was stored is found, and the others are as before. -/
@[simp] theorem node_putNode (tree : Tree) (messageId tested : MessageId) (node : Node) :
    (tree.putNode messageId node).node tested =
      if tested = messageId then some node else tree.node tested := Function.update_apply ..

/-- The tip that was put is found, and those of other threads are as before. -/
@[simp] theorem tip_putTip (tree : Tree) (threadId tested : ThreadId) (tip : Tip) :
    (tree.putTip threadId tip).tip tested =
      if tested = threadId then some tip else tree.tip tested := Function.update_apply ..

/-- The branch that was put is found, and the others are as before. -/
@[simp] theorem branch_putBranch (tree : Tree) (branchId tested : BranchId)
    (branchEnd : BranchEnd) :
    (tree.putBranch branchId branchEnd).branch tested =
      if tested = branchId then some branchEnd else tree.branch tested := Function.update_apply ..

/-- The checkpoint that was put is found, and the others are as before. -/
@[simp] theorem mark_putMark (tree : Tree) (checkpointId tested : CheckpointId) (mark : Mark) :
    (tree.putMark checkpointId mark).mark tested =
      if tested = checkpointId then some mark else tree.mark tested := Function.update_apply ..

section
variable (tree : Tree)

/-- Each write leaves the other three tables as they are. -/
@[simp] theorem tip_putNode (messageId : MessageId) (node : Node) :
    (tree.putNode messageId node).tip = tree.tip := rfl
@[simp] theorem branch_putNode (messageId : MessageId) (node : Node) :
    (tree.putNode messageId node).branch = tree.branch := rfl
@[simp] theorem mark_putNode (messageId : MessageId) (node : Node) :
    (tree.putNode messageId node).mark = tree.mark := rfl
@[simp] theorem node_putTip (threadId : ThreadId) (tip : Tip) :
    (tree.putTip threadId tip).node = tree.node := rfl
@[simp] theorem branch_putTip (threadId : ThreadId) (tip : Tip) :
    (tree.putTip threadId tip).branch = tree.branch := rfl
@[simp] theorem mark_putTip (threadId : ThreadId) (tip : Tip) :
    (tree.putTip threadId tip).mark = tree.mark := rfl
@[simp] theorem node_putBranch (branchId : BranchId) (branchEnd : BranchEnd) :
    (tree.putBranch branchId branchEnd).node = tree.node := rfl
@[simp] theorem tip_putBranch (branchId : BranchId) (branchEnd : BranchEnd) :
    (tree.putBranch branchId branchEnd).tip = tree.tip := rfl
@[simp] theorem mark_putBranch (branchId : BranchId) (branchEnd : BranchEnd) :
    (tree.putBranch branchId branchEnd).mark = tree.mark := rfl
@[simp] theorem node_putMark (checkpointId : CheckpointId) (mark : Mark) :
    (tree.putMark checkpointId mark).node = tree.node := rfl
@[simp] theorem tip_putMark (checkpointId : CheckpointId) (mark : Mark) :
    (tree.putMark checkpointId mark).tip = tree.tip := rfl
@[simp] theorem branch_putMark (checkpointId : CheckpointId) (mark : Mark) :
    (tree.putMark checkpointId mark).branch = tree.branch := rfl

end

/-- The links of a thread are those of its own messages. -/
theorem links_some_iff {tree : Tree} {threadId : ThreadId} {messageId : MessageId}
    {parent : Option MessageId} :
    tree.links threadId messageId = some parent ↔
      ∃ node, tree.node messageId = some node ∧ node.threadId = threadId ∧ node.parent = parent := by
  unfold links
  cases found : tree.node messageId with
  | none => simp
  | some node =>
    by_cases same : node.threadId = threadId
    · simp [same]
    · simp [same]

/-- A branch that is found by its stripped id is a branch of the thread. -/
theorem branchIn_some {tree : Tree} {threadId : ThreadId} {branchId : String}
    {branchEnd : BranchEnd} (found : tree.branchIn threadId branchId = some branchEnd) :
    tree.branch (Text.strip branchId) = some ⟨threadId, branchEnd.leaf⟩ := by
  simp only [branchIn, Option.bind_eq_some_iff, Option.filter_eq_some_iff, decide_eq_true_eq] at found
  obtain ⟨_, _, stored, rfl⟩ := found
  exact stored

/-- Nothing is found on the branches of other threads. -/
theorem branchIn_thread {tree : Tree} {threadId : ThreadId} {branchId : String}
    {branchEnd : BranchEnd} (found : tree.branchIn threadId branchId = some branchEnd) :
    branchEnd.threadId = threadId := by
  simp only [branchIn, Option.bind_eq_some_iff, Option.filter_eq_some_iff, decide_eq_true_eq] at found
  obtain ⟨_, _, _, home⟩ := found
  exact home

/-- A checkpoint that is found by its stripped id is a checkpoint of the thread. -/
theorem markIn_some {tree : Tree} {threadId : ThreadId} {checkpointId : String} {mark : Mark}
    (found : tree.markIn threadId checkpointId = some mark) :
    tree.mark (Text.strip checkpointId) = some mark ∧ mark.threadId = threadId := by
  simp only [markIn, Option.bind_eq_some_iff, Option.filter_eq_some_iff, decide_eq_true_eq] at found
  obtain ⟨_, _, stored, home⟩ := found
  exact ⟨stored, home⟩

/-- The message is stored in the thread. -/
def InThread (tree : Tree) (threadId : ThreadId) (messageId : MessageId) : Prop :=
  ∃ node, tree.node messageId = some node ∧ node.threadId = threadId

/-- The branch is one of the thread. -/
def HasBranch (tree : Tree) (threadId : ThreadId) (branchId : BranchId) : Prop :=
  ∃ leaf, tree.branch branchId = some ⟨threadId, leaf⟩

/-- The thread exists. -/
def Known (tree : Tree) (threadId : ThreadId) : Prop := ∃ tip, tree.tip threadId = some tip

/-- The thread has an active branch. -/
def Started (tree : Tree) (threadId : ThreadId) : Prop :=
  ∃ active leaf, tree.tip threadId = some ⟨some active, leaf⟩

/-- A leaf, where there is one, is a message of the thread. -/
def LeafHome (tree : Tree) (threadId : ThreadId) (leaf : Option MessageId) : Prop :=
  ∀ messageId, leaf = some messageId → tree.InThread threadId messageId

/-- A thread stands on a branch of its own, at a message of its own. -/
def TipHome (tree : Tree) (threadId : ThreadId) (tip : Tip) : Prop :=
  tree.LeafHome threadId tip.leaf ∧
    match tip.active with
    | none => tip.leaf = none
    | some branchId => tree.HasBranch threadId branchId

/-- The thread of a branch has started, and the leaf of the branch lies in it. -/
def BranchHome (tree : Tree) (branchEnd : BranchEnd) : Prop :=
  tree.Started branchEnd.threadId ∧ tree.LeafHome branchEnd.threadId branchEnd.leaf

/-- The branch and the leaf of a checkpoint lie in its thread. -/
def MarkHome (tree : Tree) (mark : Mark) : Prop :=
  (∃ branchId, mark.branch = some branchId ∧ tree.HasBranch mark.threadId branchId) ∧
    tree.LeafHome mark.threadId mark.leaf

/-- The parent of a message lies in its thread. -/
def NodeHome (tree : Tree) (node : Node) : Prop :=
  tree.Known node.threadId ∧ tree.LeafHome node.threadId node.parent

/-- Whatever a thread has it keeps. -/
structure Keeps (tree later : Tree) : Prop where
  inThread : ∀ threadId messageId, tree.InThread threadId messageId → later.InThread threadId messageId
  hasBranch : ∀ threadId branchId, tree.HasBranch threadId branchId → later.HasBranch threadId branchId
  known : ∀ threadId, tree.Known threadId → later.Known threadId
  started : ∀ threadId, tree.Started threadId → later.Started threadId

end Tree

/-- Every pointer stays inside its thread, and a thread has an active branch as
soon as it has any. -/
structure Homed (tree : Tree) : Prop where
  tipHome : ∀ threadId tip, tree.tip threadId = some tip → tree.TipHome threadId tip
  branchHome : ∀ branchId branchEnd, tree.branch branchId = some branchEnd →
    tree.BranchHome branchEnd
  markHome : ∀ checkpointId mark, tree.mark checkpointId = some mark → tree.MarkHome mark
  nodeHome : ∀ messageId node, tree.node messageId = some node → tree.NodeHome node

/-- In an empty store everything is at home. -/
theorem start_homed : Homed (view Store.start) := by
  constructor <;> intros <;> contradiction

namespace Homed

variable {tree later : Tree}

/-- The active branch of a thread is a branch of it. -/
theorem active (homed : Homed tree) {threadId : ThreadId} {branchId : BranchId}
    {leaf : Option MessageId} (tip : tree.tip threadId = some ⟨some branchId, leaf⟩) :
    tree.HasBranch threadId branchId := (homed.tipHome _ _ tip).2

/-- A thread without an active branch has no leaf. -/
theorem idle (homed : Homed tree) {threadId : ThreadId} {leaf : Option MessageId}
    (tip : tree.tip threadId = some ⟨none, leaf⟩) : leaf = none := (homed.tipHome _ _ tip).2

/-- The leaf of a thread is a message of it. -/
theorem tipLeaf (homed : Homed tree) {threadId : ThreadId} {active : Option BranchId}
    {leaf : Option MessageId} (tip : tree.tip threadId = some ⟨active, leaf⟩) :
    tree.LeafHome threadId leaf := (homed.tipHome _ _ tip).1

/-- The leaf of a branch is a message of the branch's thread. -/
theorem branchLeaf (homed : Homed tree) {branchId : BranchId} {threadId : ThreadId}
    {leaf : Option MessageId} (branch : tree.branch branchId = some ⟨threadId, leaf⟩) :
    tree.LeafHome threadId leaf := (homed.branchHome _ _ branch).2

/-- The thread of a message is known. -/
theorem thread (homed : Homed tree) {messageId : MessageId} {node : Node}
    (stored : tree.node messageId = some node) : tree.Known node.threadId :=
  (homed.nodeHome _ _ stored).1

/-- What a checkpoint names, found by its id, lies in the thread that asked. -/
theorem mark_home (homed : Homed tree) {threadId : ThreadId} {checkpointId : String} {mark : Mark}
    (found : tree.markIn threadId checkpointId = some mark) :
    (∃ branchId, mark.branch = some branchId ∧ tree.HasBranch threadId branchId) ∧
      tree.LeafHome threadId mark.leaf := by
  obtain ⟨stored, rfl⟩ := Tree.markIn_some found
  exact homed.markHome _ _ stored

/-- A message that is not stored is marked by no checkpoint. -/
theorem unmarked (homed : Homed tree) {messageId : MessageId} (fresh : tree.node messageId = none)
    {checkpointId : CheckpointId} {mark : Mark} (marked : tree.mark checkpointId = some mark) :
    mark.leaf ≠ some messageId := by
  intro marks
  obtain ⟨node, stored, _⟩ := (homed.markHome _ _ marked).2 messageId marks
  rw [fresh] at stored
  cases stored

/-- A move that loses nothing is judged by the entries it writes. -/
theorem keeps (homed : Homed tree) (kept : tree.Keeps later)
    (tips : ∀ threadId tip, later.tip threadId = some tip →
      tree.tip threadId = some tip ∨ later.TipHome threadId tip)
    (branches : ∀ branchId branchEnd, later.branch branchId = some branchEnd →
      tree.branch branchId = some branchEnd ∨ later.BranchHome branchEnd)
    (marks : ∀ checkpointId mark, later.mark checkpointId = some mark →
      tree.mark checkpointId = some mark ∨ later.MarkHome mark)
    (nodes : ∀ messageId node, later.node messageId = some node →
      tree.node messageId = some node ∨ later.NodeHome node) : Homed later := by
  have leaves : ∀ {threadId leaf}, tree.LeafHome threadId leaf → later.LeafHome threadId leaf :=
    fun home messageId isLeaf => kept.inThread _ _ (home messageId isLeaf)
  constructor
  · intro threadId tip found
    rcases tips threadId tip found with old | new
    · have home := homed.tipHome threadId tip old
      refine ⟨leaves home.1, ?_⟩
      have rest := home.2
      cases activeBranch : tip.active with
      | none => simpa [activeBranch] using rest
      | some branchId =>
        simp only [activeBranch] at rest
        exact kept.hasBranch _ _ rest
    · exact new
  · intro branchId branchEnd found
    rcases branches branchId branchEnd found with old | new
    · obtain ⟨started, home⟩ := homed.branchHome branchId branchEnd old
      exact ⟨kept.started _ started, leaves home⟩
    · exact new
  · intro checkpointId mark found
    rcases marks checkpointId mark found with old | new
    · obtain ⟨⟨branchId, isBranch, has⟩, home⟩ := homed.markHome checkpointId mark old
      exact ⟨⟨branchId, isBranch, kept.hasBranch _ _ has⟩, leaves home⟩
    · exact new
  · intro messageId node found
    rcases nodes messageId node found with old | new
    · obtain ⟨known, home⟩ := homed.nodeHome messageId node old
      exact ⟨kept.known _ known, leaves home⟩
    · exact new

/-- A new thread. -/
theorem putThread (homed : Homed tree) {threadId : ThreadId} (fresh : tree.tip threadId = none) :
    Homed (tree.putTip threadId ⟨none, none⟩) := by
  refine homed.keeps ⟨fun _ _ => id, fun _ _ => id, ?_, ?_⟩ ?_ (fun _ _ => Or.inl)
    (fun _ _ => Or.inl) (fun _ _ => Or.inl)
  · rintro tested ⟨tip, found⟩
    have other : tested ≠ threadId := by rintro rfl; rw [fresh] at found; cases found
    exact ⟨tip, by simp [other, found]⟩
  · rintro tested ⟨active, leaf, found⟩
    have other : tested ≠ threadId := by rintro rfl; rw [fresh] at found; cases found
    exact ⟨active, leaf, by simp [other, found]⟩
  · intro tested tip found
    by_cases same : tested = threadId
    · simp only [Tree.tip_putTip, same, if_true, Option.some.injEq] at found
      subst found
      exact Or.inr ⟨fun _ isLeaf => (nomatch isLeaf), rfl⟩
    · exact Or.inl (by simpa [same] using found)

/-- The thread moves to a message of its own on a branch of its own. -/
theorem putTip (homed : Homed tree) {threadId : ThreadId} {branchId : BranchId}
    {leaf : Option MessageId} (has : tree.HasBranch threadId branchId)
    (home : tree.LeafHome threadId leaf) :
    Homed (tree.putTip threadId ⟨some branchId, leaf⟩) := by
  refine homed.keeps ⟨fun _ _ => id, fun _ _ => id, ?_, ?_⟩ ?_ (fun _ _ => Or.inl)
    (fun _ _ => Or.inl) (fun _ _ => Or.inl)
  · rintro tested ⟨tip, found⟩
    by_cases same : tested = threadId
    · exact ⟨⟨some branchId, leaf⟩, by simp [same]⟩
    · exact ⟨tip, by simp [same, found]⟩
  · rintro tested ⟨active, tipLeaf, found⟩
    by_cases same : tested = threadId
    · exact ⟨branchId, leaf, by simp [same]⟩
    · exact ⟨active, tipLeaf, by simp [same, found]⟩
  · intro tested tip found
    by_cases same : tested = threadId
    · simp only [Tree.tip_putTip, same, if_true, Option.some.injEq] at found
      subst found same
      exact Or.inr ⟨home, has⟩
    · exact Or.inl (by simpa [same] using found)

/-- A message is written, or written again in its thread. -/
theorem putNode (homed : Homed tree) {messageId : MessageId} {node : Node}
    (again : ∀ held, tree.node messageId = some held → held.threadId = node.threadId)
    (known : tree.Known node.threadId) (home : tree.LeafHome node.threadId node.parent) :
    Homed (tree.putNode messageId node) := by
  have inThread : ∀ threadId tested, tree.InThread threadId tested →
      (tree.putNode messageId node).InThread threadId tested := by
    rintro threadId tested ⟨held, found, isHome⟩
    by_cases same : tested = messageId
    · subst same
      exact ⟨node, by simp, (again held found).symm.trans isHome⟩
    · exact ⟨held, by simp [same, found], isHome⟩
  refine homed.keeps ⟨inThread, fun _ _ => id, fun _ => id, fun _ => id⟩ (fun _ _ => Or.inl)
    (fun _ _ => Or.inl) (fun _ _ => Or.inl) ?_
  intro tested held found
  by_cases same : tested = messageId
  · simp only [Tree.node_putNode, same, if_true, Option.some.injEq] at found
    subst found
    exact Or.inr ⟨known, fun parent isParent => inThread _ _ (home parent isParent)⟩
  · exact Or.inl (by simpa [same] using found)

/-- A branch is written, or written again in its thread. -/
theorem putBranch (homed : Homed tree) {branchId : BranchId} {branchEnd : BranchEnd}
    (again : ∀ held, tree.branch branchId = some held → held.threadId = branchEnd.threadId)
    (started : tree.Started branchEnd.threadId)
    (home : tree.LeafHome branchEnd.threadId branchEnd.leaf) :
    Homed (tree.putBranch branchId branchEnd) := by
  refine homed.keeps ⟨fun _ _ => id, ?_, fun _ => id, fun _ => id⟩ (fun _ _ => Or.inl) ?_
    (fun _ _ => Or.inl) (fun _ _ => Or.inl)
  · rintro threadId tested ⟨leaf, found⟩
    by_cases same : tested = branchId
    · subst same
      have isHome : threadId = branchEnd.threadId := again _ found
      exact ⟨branchEnd.leaf, by simp [isHome]⟩
    · exact ⟨leaf, by simp [same, found]⟩
  · intro tested held found
    by_cases same : tested = branchId
    · simp only [Tree.branch_putBranch, same, if_true, Option.some.injEq] at found
      subst found
      exact Or.inr ⟨started, home⟩
    · exact Or.inl (by simpa [same] using found)

/-- A checkpoint marks a message of the thread on one of its branches. -/
theorem putMark (homed : Homed tree) {checkpointId : CheckpointId} {threadId : ThreadId}
    {branchId : BranchId} {leaf : Option MessageId} (has : tree.HasBranch threadId branchId)
    (home : tree.LeafHome threadId leaf) :
    Homed (tree.putMark checkpointId ⟨threadId, some branchId, leaf⟩) := by
  refine homed.keeps ⟨fun _ _ => id, fun _ _ => id, fun _ => id, fun _ => id⟩ (fun _ _ => Or.inl)
    (fun _ _ => Or.inl) ?_ (fun _ _ => Or.inl)
  intro tested mark found
  by_cases same : tested = checkpointId
  · simp only [Tree.mark_putMark, same, if_true, Option.some.injEq] at found
    subst found
    exact Or.inr ⟨⟨branchId, rfl, has⟩, home⟩
  · exact Or.inl (by simpa [same] using found)

/-- A thread opens a new branch that ends with a message of its own. -/
theorem opened (homed : Homed tree) {threadId : ThreadId} {branchId : BranchId}
    {leaf : Option MessageId} (fresh : tree.branch branchId = none)
    (home : tree.LeafHome threadId leaf) : Homed (tree.opened threadId branchId leaf) := by
  have has : (tree.opened threadId branchId leaf).HasBranch threadId branchId :=
    ⟨leaf, by simp [Tree.opened]⟩
  refine homed.keeps ⟨fun _ _ => id, ?_, ?_, ?_⟩ ?_ ?_ (fun _ _ => Or.inl) (fun _ _ => Or.inl)
  · rintro tested other ⟨branchLeaf, found⟩
    have different : other ≠ branchId := by rintro rfl; rw [fresh] at found; cases found
    exact ⟨branchLeaf, by simp [Tree.opened, different, found]⟩
  · rintro tested ⟨tip, found⟩
    by_cases same : tested = threadId
    · exact ⟨⟨some branchId, leaf⟩, by simp [Tree.opened, same]⟩
    · exact ⟨tip, by simp [Tree.opened, same, found]⟩
  · rintro tested ⟨active, tipLeaf, found⟩
    by_cases same : tested = threadId
    · exact ⟨branchId, leaf, by simp [Tree.opened, same]⟩
    · exact ⟨active, tipLeaf, by simp [Tree.opened, same, found]⟩
  · intro tested tip found
    by_cases same : tested = threadId
    · simp only [Tree.opened, Tree.tip_putTip, same, if_true, Option.some.injEq] at found
      subst found same
      exact Or.inr ⟨home, has⟩
    · exact Or.inl (by simpa [Tree.opened, same] using found)
  · intro tested branchEnd found
    by_cases same : tested = branchId
    · simp only [Tree.opened, Tree.branch_putTip, Tree.branch_putBranch, same, if_true,
        Option.some.injEq] at found
      subst found
      exact Or.inr ⟨⟨branchId, leaf, by simp [Tree.opened]⟩, home⟩
    · exact Or.inl (by simpa [Tree.opened, same] using found)

/-- A message of the thread is attached where the thread stands. -/
theorem attached (homed : Homed tree) {threadId : ThreadId} {branchId : BranchId}
    {leaf : Option MessageId} {messageId : MessageId} {node : Node}
    (tip : tree.tip threadId = some ⟨some branchId, leaf⟩)
    (stored : tree.node messageId = some node) (home : node.threadId = threadId) :
    Homed (tree.attached threadId branchId leaf messageId node) := by
  subst home
  obtain ⟨known, parentHome⟩ := homed.nodeHome messageId node stored
  obtain ⟨branchLeaf, branch⟩ := homed.active tip
  have written : Homed (tree.putNode messageId (node.below messageId leaf)) := by
    refine homed.putNode ?_ known fun parent isParent => ?_
    · intro held found
      rw [stored] at found
      cases found
      rfl
    · simp only [Node.below] at isParent
      split at isParent
      · exact homed.tipLeaf tip parent isParent
      · exact parentHome parent isParent
  have inThread : (tree.putNode messageId (node.below messageId leaf)).LeafHome node.threadId
      (some messageId) := by
    intro isLeaf same
    cases same
    exact ⟨node.below messageId leaf, by simp, rfl⟩
  have again : ∀ held, tree.branch branchId = some held → held.threadId = node.threadId := by
    intro held found
    rw [branch] at found
    cases found
    rfl
  have branched : Homed ((tree.putNode messageId (node.below messageId leaf)).putBranch branchId
      ⟨node.threadId, some messageId⟩) := written.putBranch again ⟨branchId, leaf, tip⟩ inThread
  exact branched.putTip ⟨some messageId, by simp⟩ inThread

/-- A new message that hangs on a message of its thread ends a new branch. -/
theorem revised (homed : Homed tree) {branchId : BranchId} {messageId : MessageId} {node : Node}
    (freshBranch : tree.branch branchId = none) (fresh : tree.node messageId = none)
    (known : tree.Known node.threadId) (home : tree.LeafHome node.threadId node.parent) :
    Homed (tree.revised branchId messageId node) := by
  have written : Homed (tree.putNode messageId node) := by
    refine homed.putNode (fun held found => ?_) known home
    rw [fresh] at found
    cases found
  have inThread : (tree.putNode messageId node).LeafHome node.threadId (some messageId) := by
    intro isLeaf same
    cases same
    exact ⟨node, by simp, rfl⟩
  exact written.opened freshBranch inThread

end Homed

end MeetYou.VersionTree
