import MeetYou.Foundation.RelatedTables
import MeetYou.VersionSteps

/-!
# The visible history as a version tree

What the version operations are for: a thread shows a history, a branch remembers
the history last posted on it, a checkpoint the history it was taken of, and a
message the history that ends with it. In this version tree there are no pointers;
going back to an empty history shows an empty history.

The service keeps pointers in place of histories and rebuilds the history by
walking parents. The two agree step by step, except that a thread without a leaf
shows every message it has. So the shown history is the one of the version tree
exactly as long as no operation takes a thread that has messages back to the empty
history.
-/

namespace MeetYou.VisibleHistory

open ConversationStore VersionTree VersionMoves VersionPaths VersionSteps ParentChains Runs
  RelatedTables

/-- The branch a thread is on and the history it shows. -/
structure Standing where
  active : Option BranchId
  history : List MessageId

/-- The history last posted on a branch. -/
structure Line where
  threadId : ThreadId
  history : List MessageId

/-- The branch and the history a checkpoint was taken of. -/
structure Saved where
  threadId : ThreadId
  branch : Option BranchId
  history : List MessageId

/-- The history that ends with a message. -/
structure Told where
  threadId : ThreadId
  byUser : Bool
  history : List MessageId

/-- The version tree. -/
structure Histories where
  thread : ThreadId → Option Standing
  branch : BranchId → Option Line
  checkpoint : CheckpointId → Option Saved
  message : MessageId → Option Told

namespace Histories

/-- Before anything happens. -/
def start : Histories := ⟨fun _ => none, fun _ => none, fun _ => none, fun _ => none⟩

/-- A thread stands elsewhere. -/
def putThread (histories : Histories) (threadId : ThreadId) (standing : Standing) : Histories :=
  { histories with thread := Function.update histories.thread threadId (some standing) }

/-- A branch has another line. -/
def putBranch (histories : Histories) (branchId : BranchId) (line : Line) : Histories :=
  { histories with branch := Function.update histories.branch branchId (some line) }

/-- A checkpoint is saved. -/
def putCheckpoint (histories : Histories) (checkpointId : CheckpointId) (saved : Saved) :
    Histories :=
  { histories with checkpoint := Function.update histories.checkpoint checkpointId (some saved) }

/-- A message is told. -/
def putMessage (histories : Histories) (messageId : MessageId) (told : Told) : Histories :=
  { histories with message := Function.update histories.message messageId (some told) }

/-- A branch is given a history and the thread shows it. -/
def opening (histories : Histories) (threadId : ThreadId) (branchId : BranchId)
    (history : List MessageId) : Histories :=
  (histories.putBranch branchId ⟨threadId, history⟩).putThread threadId ⟨some branchId, history⟩

/-- A message ends a history; the branch, the thread and a checkpoint take it. -/
def writing (histories : Histories) (threadId : ThreadId) (branchId : BranchId)
    (messageId : MessageId) (byUser : Bool) (history : List MessageId)
    (checkpointId : CheckpointId) : Histories :=
  ((histories.putMessage messageId ⟨threadId, byUser, history⟩).opening threadId branchId
    history).putCheckpoint checkpointId ⟨threadId, some branchId, history⟩

/-- A thread without a branch goes on on its default branch. -/
def starting (histories : Histories) (threadId : ThreadId) (defaultBranchId : BranchId) :
    Histories :=
  match histories.thread threadId with
  | some ⟨none, history⟩ => histories.opening threadId defaultBranchId history
  | _ => histories

/-- A checkpoint stores the current history. -/
def saving (histories : Histories) (threadId : ThreadId) (checkpointId : CheckpointId) :
    Histories :=
  match histories.thread threadId with
  | none => histories
  | some standing =>
      histories.putCheckpoint checkpointId ⟨threadId, standing.active, standing.history⟩

/-- The checkpoint of the thread under this public identifier. -/
def savedIn (histories : Histories) (threadId : ThreadId) (checkpointId : String) : Option Saved :=
  (histories.thread threadId).bind fun _ =>
    (histories.checkpoint (Text.strip checkpointId)).filter fun saved =>
      decide (saved.threadId = threadId)

/-- The branch of the thread under this public identifier. -/
def lineIn (histories : Histories) (threadId : ThreadId) (branchId : String) : Option Line :=
  (histories.thread threadId).bind fun _ =>
    (histories.branch (Text.strip branchId)).filter fun line => decide (line.threadId = threadId)

/-- The message, when a user wrote it. -/
def toldByUser (histories : Histories) (messageId : MessageId) : Option Told :=
  (histories.message messageId).filter Told.byUser

/-- The version tree after an operation. Posting appends the message; a checkpoint
stores the current history; restoring and checking out go back to the stored one;
activating goes back to the one last posted on the branch; editing replaces the
message after what came before it. -/
def apply (histories : Histories) : Operation → Histories
  | .post message draws =>
      match histories.thread message.threadId with
      | none => histories
      | some standing => histories.writing message.threadId
          (standing.active.getD draws.defaultBranchId) draws.messageId
          (decide (message.role = "user")) (standing.history ++ [draws.messageId])
          draws.checkpointId
  | .change (.createThread threadId _) => histories.putThread threadId ⟨none, []⟩
  | .change (.listBranches threadId draws) => histories.starting threadId draws.defaultBranchId
  | .change (.createCheckpoint threadId _ _ _ draws) =>
      (histories.starting threadId draws.defaultBranchId).saving threadId draws.checkpointId
  | .change (.restoreCheckpoint threadId checkpointId) =>
      match histories.savedIn threadId checkpointId with
      | none => histories
      | some saved => histories.putThread threadId ⟨saved.branch, saved.history⟩
  | .change (.checkoutCheckpoint threadId checkpointId _ draws) =>
      match histories.savedIn threadId checkpointId with
      | none => histories
      | some saved => histories.opening threadId draws.branchId saved.history
  | .change (.activateBranch threadId branchId) =>
      match histories.lineIn threadId branchId with
      | none => histories
      | some line => histories.putThread threadId ⟨some (Text.strip branchId), line.history⟩
  | .change (.editRetry messageId _ draws) =>
      match histories.toldByUser messageId with
      | none => histories
      | some told => (histories.starting told.threadId draws.defaultBranchId).writing told.threadId
          draws.branchId draws.messageId true (told.history.dropLast ++ [draws.messageId])
          draws.checkpointId

end Histories

/-- The service and the version tree take every operation together. -/
def lockstep (both : Store × Histories) (operation : Orders × Operation) :
    Option (Store × Histories) :=
  (perform both.1 operation).map fun next => (next, both.2.apply operation.2)

/-- Every thread shows the current history of the version tree, in whatever order
the database returns rows. -/
def Shows (both : Store × Histories) : Prop :=
  ∀ orders threadId, (both.1.threads.get threadId).map
      (fun _ => (listMessagesForThread orders both.1 threadId).map Prod.fst) =
    (both.2.thread threadId).map Standing.history

/-- No operation takes a thread that has messages back to the empty history. -/
def Footing (store : Store) : Orders × Operation → Prop
  | (_, .change (.restoreCheckpoint threadId checkpointId))
  | (_, .change (.checkoutCheckpoint threadId checkpointId _ _)) =>
      ∀ checkpoint, checkpointOfThread store threadId checkpointId = some checkpoint →
        checkpoint.messageId = none → rowsOfThread store threadId = []
  | (_, .change (.activateBranch threadId branchId)) =>
      ∀ branch, branchOfThread store threadId branchId = some branch →
        branch.currentLeafMessageId = none → rowsOfThread store threadId = []
  | _ => True

/-- The chain of a leaf is the history, newest message first. -/
def Reads (tree : Tree) (threadId : ThreadId) (leaf : Option MessageId)
    (history : List MessageId) : Prop :=
  Chain (tree.links threadId) leaf history.reverse

/-- Each pointer leads to the history the version tree has in its place. -/
structure Agrees (tree : Tree) (histories : Histories) : Prop where
  thread : ∀ threadId, Option.Rel
    (fun tip standing => standing.active = tip.active ∧
      Reads tree threadId tip.leaf standing.history)
    (tree.tip threadId) (histories.thread threadId)
  branch : ∀ branchId, Option.Rel
    (fun branchEnd line => line.threadId = branchEnd.threadId ∧
      Reads tree branchEnd.threadId branchEnd.leaf line.history)
    (tree.branch branchId) (histories.branch branchId)
  checkpoint : ∀ checkpointId, Option.Rel
    (fun mark saved => saved.threadId = mark.threadId ∧ saved.branch = mark.branch ∧
      Reads tree mark.threadId mark.leaf saved.history)
    (tree.mark checkpointId) (histories.checkpoint checkpointId)
  message : ∀ messageId, Option.Rel
    (fun node told => told.threadId = node.threadId ∧ told.byUser = decide (node.role = "user") ∧
      Reads tree node.threadId (some messageId) told.history)
    (tree.node messageId) (histories.message messageId)

namespace Reads

variable {tree : Tree} {threadId : ThreadId} {leaf : Option MessageId} {history : List MessageId}

/-- Only the empty history ends nowhere. -/
theorem empty_iff (reads : Reads tree threadId leaf history) : leaf = none ↔ history = [] := by
  unfold Reads at reads
  constructor
  · rintro rfl
    generalize reversed : history.reverse = trail at reads
    cases reads
    exact List.reverse_eq_nil_iff.mp reversed
  · rintro rfl
    cases reads
    rfl

/-- A new message changes no history. -/
theorem putNode {messageId : MessageId} {node : Node} (reads : Reads tree threadId leaf history)
    (fresh : tree.node messageId = none) :
    Reads (tree.putNode messageId node) threadId leaf history :=
  chain_putFresh reads fresh

/-- A new message continues the history of its parent. -/
theorem extend {messageId : MessageId} {node : Node}
    (reads : Reads tree node.threadId node.parent history) (fresh : tree.node messageId = none) :
    Reads (tree.putNode messageId node) node.threadId (some messageId) (history ++ [messageId]) := by
  unfold Reads
  rw [List.reverse_append]
  exact chain_new reads fresh

/-- The history that ends with a message goes on from the history of its parent. -/
theorem before {messageId : MessageId} {node : Node} (stored : tree.node messageId = some node)
    (reads : Reads tree node.threadId (some messageId) history) :
    Reads tree node.threadId node.parent history.dropLast := by
  unfold Reads at reads ⊢
  generalize reversed : history.reverse = trail at reads
  cases reads with
  | link found above =>
    rw [links_of_node stored] at found
    cases found
    have split := congrArg List.reverse reversed
    rw [List.reverse_reverse, List.reverse_cons] at split
    rw [split, List.dropLast_concat, List.reverse_reverse]
    exact above

end Reads

namespace Agrees

variable {tree : Tree} {histories : Histories} {threadId : ThreadId}

theorem putTip (agrees : Agrees tree histories) {active : Option BranchId}
    {leaf : Option MessageId} {history : List MessageId}
    (reads : Reads tree threadId leaf history) :
    Agrees (tree.putTip threadId ⟨active, leaf⟩) (histories.putThread threadId ⟨active, history⟩) where
  thread := rel_update agrees.thread ⟨rfl, reads⟩
  branch := agrees.branch
  checkpoint := agrees.checkpoint
  message := agrees.message

theorem putBranch (agrees : Agrees tree histories) {branchId : BranchId} {leaf : Option MessageId}
    {history : List MessageId} (reads : Reads tree threadId leaf history) :
    Agrees (tree.putBranch branchId ⟨threadId, leaf⟩)
      (histories.putBranch branchId ⟨threadId, history⟩) where
  thread := agrees.thread
  branch := rel_update agrees.branch ⟨rfl, reads⟩
  checkpoint := agrees.checkpoint
  message := agrees.message

theorem putMark (agrees : Agrees tree histories) {checkpointId : CheckpointId}
    {branch : Option BranchId} {leaf : Option MessageId} {history : List MessageId}
    (reads : Reads tree threadId leaf history) :
    Agrees (tree.putMark checkpointId ⟨threadId, branch, leaf⟩)
      (histories.putCheckpoint checkpointId ⟨threadId, branch, history⟩) where
  thread := agrees.thread
  branch := agrees.branch
  checkpoint := rel_update agrees.checkpoint ⟨rfl, rfl, reads⟩
  message := agrees.message

/-- A new message continues the history of its parent; every history stays. -/
theorem putNode (agrees : Agrees tree histories) {messageId : MessageId} {node : Node}
    {history : List MessageId} (fresh : tree.node messageId = none)
    (reads : Reads tree node.threadId node.parent history) :
    Agrees (tree.putNode messageId node) (histories.putMessage messageId
      ⟨node.threadId, decide (node.role = "user"), history ++ [messageId]⟩) where
  thread threadId := rel_imp (agrees.thread threadId) fun _ _ related =>
    ⟨related.1, related.2.putNode fresh⟩
  branch branchId := rel_imp (agrees.branch branchId) fun _ _ related =>
    ⟨related.1, related.2.putNode fresh⟩
  checkpoint checkpointId := rel_imp (agrees.checkpoint checkpointId) fun _ _ related =>
    ⟨related.1, related.2.1, related.2.2.putNode fresh⟩
  message := by
    refine rel_update (fun other => ?_) ⟨rfl, rfl, reads.extend fresh⟩
    exact rel_imp (agrees.message other) fun _ _ related =>
      ⟨related.1, related.2.1, related.2.2.putNode fresh⟩

theorem opened (agrees : Agrees tree histories) {branchId : BranchId} {leaf : Option MessageId}
    {history : List MessageId} (reads : Reads tree threadId leaf history) :
    Agrees (tree.opened threadId branchId leaf) (histories.opening threadId branchId history) := by
  have branched : Agrees (tree.putBranch branchId ⟨threadId, leaf⟩)
      (histories.putBranch branchId ⟨threadId, history⟩) := agrees.putBranch reads
  exact branched.putTip reads

/-- A message written with its branch, its thread and its checkpoint. -/
theorem written (agrees : Agrees tree histories) {branchId : BranchId} {messageId : MessageId}
    {node : Node} {checkpointId : CheckpointId} {history : List MessageId}
    (fresh : tree.node messageId = none) (reads : Reads tree node.threadId node.parent history) :
    Agrees (((tree.putNode messageId node).opened node.threadId branchId (some messageId)).putMark
        checkpointId ⟨node.threadId, some branchId, some messageId⟩)
      (histories.writing node.threadId branchId messageId (decide (node.role = "user"))
        (history ++ [messageId]) checkpointId) := by
  have ends : Reads (tree.putNode messageId node) node.threadId (some messageId)
      (history ++ [messageId]) := reads.extend fresh
  exact ((agrees.putNode fresh reads).opened ends).putMark ends

/-- A thread is started on both sides. -/
theorem started (agrees : Agrees tree histories) (homed : Homed tree)
    (defaultBranchId : BranchId) :
    Agrees (started tree threadId defaultBranchId) (histories.starting threadId defaultBranchId) := by
  cases known : tree.tip threadId with
  | none =>
    have unknown := rel_none (agrees.thread threadId) known
    simpa only [VersionSteps.started, Histories.starting, known, unknown] using agrees
  | some tip =>
    obtain ⟨standing, stands, sameActive, reads⟩ := rel_some (agrees.thread threadId) known
    obtain ⟨active, leaf⟩ := tip
    obtain ⟨_, history⟩ := standing
    cases sameActive
    cases active with
    | some branchId =>
      simpa only [VersionSteps.started, Histories.starting, known, stands] using agrees
    | none =>
      cases homed.idle known
      simpa only [VersionSteps.started, Histories.starting, known, stands] using agrees.opened reads

/-- A checkpoint of the thread is found on both sides. -/
theorem markIn (agrees : Agrees tree histories) (threadId : ThreadId) (checkpointId : String) :
    Option.Rel (fun mark saved => saved.threadId = mark.threadId ∧ saved.branch = mark.branch ∧
        Reads tree mark.threadId mark.leaf saved.history)
      (tree.markIn threadId checkpointId) (histories.savedIn threadId checkpointId) := by
  refine rel_guard (agrees.thread threadId)
    (rel_filter (agrees.checkpoint (Text.strip checkpointId)) ?_)
  rintro mark saved ⟨sameThread, _⟩
  rw [sameThread]

/-- A branch of the thread is found on both sides. -/
theorem branchIn (agrees : Agrees tree histories) (threadId : ThreadId) (branchId : String) :
    Option.Rel (fun branchEnd line => line.threadId = branchEnd.threadId ∧
        Reads tree branchEnd.threadId branchEnd.leaf line.history)
      (tree.branchIn threadId branchId) (histories.lineIn threadId branchId) := by
  refine rel_guard (agrees.thread threadId) (rel_filter (agrees.branch (Text.strip branchId)) ?_)
  rintro branchEnd line ⟨sameThread, _⟩
  rw [sameThread]

end Agrees

/-- A thread that stands nowhere has no message. -/
def Afoot (tree : Tree) : Prop :=
  ∀ threadId active, tree.tip threadId = some ⟨active, none⟩ → ∀ messageId,
    ¬ tree.InThread threadId messageId

namespace Afoot

variable {tree : Tree}

theorem putTip (afoot : Afoot tree) {threadId : ThreadId} {active : Option BranchId}
    {leaf : Option MessageId}
    (empty : leaf = none → ∀ messageId, ¬ tree.InThread threadId messageId) :
    Afoot (tree.putTip threadId ⟨active, leaf⟩) := by
  intro tested testedActive tip messageId inThread
  by_cases same : tested = threadId
  · simp only [Tree.tip_putTip, same, if_true, Option.some.injEq, Tip.mk.injEq] at tip
    exact empty tip.2 messageId (same ▸ inThread)
  · exact afoot tested testedActive (by simpa [same] using tip) messageId inThread

theorem opened (afoot : Afoot tree) {threadId : ThreadId} {branchId : BranchId}
    {leaf : Option MessageId}
    (empty : leaf = none → ∀ messageId, ¬ tree.InThread threadId messageId) :
    Afoot (tree.opened threadId branchId leaf) := by
  have branched : Afoot (tree.putBranch branchId ⟨threadId, leaf⟩) := afoot
  exact branched.putTip empty

theorem started (afoot : Afoot tree) (settled : Settled tree) (threadId : ThreadId)
    (branchId : BranchId) : Afoot (started tree threadId branchId) := by
  unfold VersionSteps.started
  split
  · next leaf tip => exact afoot.opened fun _ => settled threadId leaf tip
  · exact afoot

/-- A message is written and its thread stands at it. -/
theorem written (afoot : Afoot tree) (messageId : MessageId) (node : Node) (branchId : BranchId) :
    Afoot ((tree.opened node.threadId branchId (some messageId)).putNode messageId node) := by
  rintro threadId active tip tested ⟨held, found, home⟩
  by_cases same : threadId = node.threadId
  · simp [Tree.opened, same] at tip
  · by_cases isMessage : tested = messageId
    · simp only [Tree.node_putNode, isMessage, if_true, Option.some.injEq] at found
      exact same (by rw [← home, found])
    · exact afoot threadId active (by simpa [Tree.opened, same] using tip) tested
        ⟨held, by simpa [Tree.opened, isMessage] using found, home⟩

end Afoot

section
variable {tree : Tree} {histories : Histories} {operation : Operation}

/-- A checkpoint of a thread that stands nowhere marks no message either. -/
theorem saved_afoot {threadId : ThreadId} {active : BranchId} {leaf : Option MessageId}
    (homed : Homed tree) (afoot : Afoot tree)
    (tip : tree.tip threadId = some ⟨some active, leaf⟩) (checkpointId : CheckpointId) :
    saved tree threadId checkpointId =
      tree.putMark checkpointId ⟨threadId, some active, leaf⟩ := by
  have marks : leaf.or ((tree.branch active).bind BranchEnd.leaf) = leaf := by
    cases leaf with
    | some messageId => rfl
    | none =>
      obtain ⟨branchLeaf, branch⟩ := homed.active tip
      cases branchLeaf with
      | none => simp [branch]
      | some messageId =>
        exact absurd (homed.branchLeaf branch messageId rfl) (afoot threadId (some active) tip messageId)
  simp only [saved, tip, marks]

/-- Starting a thread keeps every pointer in its thread. -/
theorem started_homed {threadId : ThreadId} {defaultBranchId : BranchId} (homed : Homed tree)
    (startable : Startable tree threadId defaultBranchId) :
    Homed (started tree threadId defaultBranchId) := by
  unfold started
  split
  · next leaf tip => exact homed.opened (startable leaf tip) fun _ isLeaf => (nomatch isLeaf)
  · exact homed

/-- Each operation moves the pointers as it moves the histories. -/
theorem agrees_moved (sound : Sound tree) (afoot : Afoot tree) (granted : Granted tree operation)
    (agrees : Agrees tree histories) : Agrees (moved tree operation) (histories.apply operation) := by
  cases operation with
  | post message draws =>
    obtain ⟨⟨⟨active, leaf⟩, known⟩, _, fresh, _⟩ := granted
    obtain ⟨⟨_, history⟩, stands, sameActive, reads⟩ := rel_some (agrees.thread message.threadId) known
    cases sameActive
    simp only [moved, Histories.apply, known, stands]
    have below : Reads tree (postedNode message draws leaf).threadId
        (postedNode message draws leaf).parent history := reads
    exact agrees.written fresh below
  | change change =>
    cases change with
    | createThread threadId metadata => exact agrees.putTip .done
    | listBranches threadId draws => exact agrees.started sound.homed draws.defaultBranchId
    | createCheckpoint threadId title checkpointType metadata draws =>
      obtain ⟨startable, _⟩ := granted
      have start : Agrees (started tree threadId draws.defaultBranchId)
          (histories.starting threadId draws.defaultBranchId) :=
        agrees.started sound.homed draws.defaultBranchId
      simp only [moved, Histories.apply, Histories.saving]
      cases known : tree.tip threadId with
      | none =>
        have unstarted : started tree threadId draws.defaultBranchId = tree := started_unknown known
        rw [unstarted] at start ⊢
        have unknown := rel_none (start.thread threadId) known
        simpa only [saved, known, unknown] using start
      | some tip =>
        have tipStarted : (started tree threadId draws.defaultBranchId).tip threadId =
            some ⟨some (tip.active.getD draws.defaultBranchId), tip.leaf⟩ := tip_started sound known
        obtain ⟨standing, stands, sameActive, reads⟩ := rel_some (start.thread threadId) tipStarted
        obtain ⟨active, history⟩ := standing
        cases sameActive
        rw [saved_afoot (started_homed sound.homed startable)
          (afoot.started sound.settled threadId draws.defaultBranchId) tipStarted, stands]
        exact start.putMark reads
    | restoreCheckpoint threadId checkpointId =>
      have marks := agrees.markIn threadId checkpointId
      simp only [moved, Histories.apply]
      cases found : tree.markIn threadId checkpointId with
      | none => simpa only [rel_none marks found] using agrees
      | some mark =>
        obtain ⟨saved, savedFound, _, sameBranch, reads⟩ := rel_some marks found
        rw [(Tree.markIn_some found).2] at reads
        simp only [savedFound, sameBranch]
        exact agrees.putTip reads
    | checkoutCheckpoint threadId checkpointId title draws =>
      have marks := agrees.markIn threadId checkpointId
      simp only [moved, Histories.apply]
      cases found : tree.markIn threadId checkpointId with
      | none => simpa only [rel_none marks found] using agrees
      | some mark =>
        obtain ⟨saved, savedFound, _, _, reads⟩ := rel_some marks found
        rw [(Tree.markIn_some found).2] at reads
        rw [savedFound]
        exact agrees.opened reads
    | activateBranch threadId branchId =>
      have branches := agrees.branchIn threadId branchId
      simp only [moved, Histories.apply]
      cases found : tree.branchIn threadId branchId with
      | none => simpa only [rel_none branches found] using agrees
      | some branchEnd =>
        obtain ⟨line, lineFound, _, reads⟩ := rel_some branches found
        rw [Tree.branchIn_thread found] at reads
        rw [lineFound]
        exact agrees.putTip reads
    | editRetry messageId edit draws =>
      have messages : Option.Rel (fun node told => told.threadId = node.threadId ∧
            told.byUser = decide (node.role = "user") ∧
            Reads tree node.threadId (some messageId) told.history)
          (tree.userNode messageId) (histories.toldByUser messageId) :=
        rel_filter (agrees.message messageId) fun node told related => related.2.1.symm
      simp only [moved, Histories.apply]
      cases found : tree.userNode messageId with
      | none =>
        simpa only [rel_none messages found] using agrees
      | some node =>
        obtain ⟨told, toldFound, sameThread, _, reads⟩ := rel_some messages found
        obtain ⟨_, _, fresh, _⟩ := granted node found
        obtain ⟨stored, isUser⟩ := Option.filter_eq_some_iff.mp found
        have start : Agrees (started tree node.threadId draws.defaultBranchId)
            (histories.starting node.threadId draws.defaultBranchId) :=
          agrees.started sound.homed draws.defaultBranchId
        have above : Reads (started tree node.threadId draws.defaultBranchId) node.threadId
            node.parent told.history.dropLast := by
          unfold Reads
          rw [links_congr node_started]
          exact reads.before stored
        have freshStarted : (started tree node.threadId draws.defaultBranchId).node
            draws.messageId = none := by
          rw [node_started]
          exact fresh
        have byUser : decide ((editedNode node draws).role = "user") = true := isUser
        simp only [toldFound, sameThread]
        rw [← byUser]
        exact start.written freshStarted above

/-- The same condition on the pointers. -/
def KeepsFooting (tree : Tree) : Operation → Prop
  | .change (.restoreCheckpoint threadId checkpointId)
  | .change (.checkoutCheckpoint threadId checkpointId _ _) =>
      ∀ mark, tree.markIn threadId checkpointId = some mark → mark.leaf = none →
        ∀ messageId, ¬ tree.InThread threadId messageId
  | .change (.activateBranch threadId branchId) =>
      ∀ branchEnd, tree.branchIn threadId branchId = some branchEnd → branchEnd.leaf = none →
        ∀ messageId, ¬ tree.InThread threadId messageId
  | _ => True

/-- A thread that has messages leaves its place exactly where the condition fails. -/
theorem afoot_moved_iff (sound : Sound tree) (afoot : Afoot tree)
    (granted : Granted tree operation) :
    Afoot (moved tree operation) ↔ KeepsFooting tree operation := by
  cases operation with
  | post message draws =>
    obtain ⟨⟨tip, known⟩, _⟩ := granted
    refine iff_of_true ?_ trivial
    simp only [moved, known]
    exact afoot.written draws.messageId (postedNode message draws tip.leaf)
      (tip.active.getD draws.defaultBranchId)
  | change change =>
    cases change with
    | createThread threadId metadata =>
      refine iff_of_true (afoot.putTip fun _ messageId inThread => ?_) trivial
      obtain ⟨node, stored, rfl⟩ := inThread
      obtain ⟨tip, known⟩ := sound.homed.thread stored
      exact absurd (known.symm.trans granted) (by simp)
    | listBranches threadId draws =>
      exact iff_of_true (afoot.started sound.settled threadId draws.defaultBranchId) trivial
    | createCheckpoint threadId title checkpointType metadata draws =>
      refine iff_of_true ?_ trivial
      have start := afoot.started sound.settled threadId draws.defaultBranchId
      simp only [moved, saved]
      split <;> exact start
    | restoreCheckpoint threadId checkpointId =>
      simp only [moved, KeepsFooting]
      cases found : tree.markIn threadId checkpointId with
      | none => exact iff_of_true afoot fun mark none_found => by cases none_found
      | some mark =>
        simp only [Option.some.injEq, forall_eq']
        refine ⟨fun later leafless => ?_, fun empty => afoot.putTip empty⟩
        exact later threadId mark.branch (by simp [leafless])
    | checkoutCheckpoint threadId checkpointId title draws =>
      simp only [moved, KeepsFooting]
      cases found : tree.markIn threadId checkpointId with
      | none => exact iff_of_true afoot fun mark none_found => by cases none_found
      | some mark =>
        simp only [Option.some.injEq, forall_eq']
        refine ⟨fun later leafless => ?_, fun empty => afoot.opened empty⟩
        exact later threadId (some draws.branchId) (by simp [Tree.opened, leafless])
    | activateBranch threadId branchId =>
      simp only [moved, KeepsFooting]
      cases found : tree.branchIn threadId branchId with
      | none => exact iff_of_true afoot fun branchEnd none_found => by cases none_found
      | some branchEnd =>
        simp only [Option.some.injEq, forall_eq']
        refine ⟨fun later leafless => ?_, fun empty => afoot.putTip empty⟩
        exact later threadId (some (Text.strip branchId)) (by simp [leafless])
    | editRetry messageId edit draws =>
      refine iff_of_true ?_ trivial
      simp only [moved]
      split
      · exact afoot
      · next node found =>
        exact (afoot.started sound.settled node.threadId draws.defaultBranchId).written
          draws.messageId (editedNode node draws) draws.branchId

end

section
variable {store next : Store} {histories : Histories}

/-- The condition on the rows is the condition on the pointers. -/
theorem footing_iff {operation : Orders × Operation} :
    Footing store operation ↔ KeepsFooting (view store) operation.2 := by
  obtain ⟨orders, operation⟩ := operation
  cases operation with
  | post message draws => exact Iff.rfl
  | change change =>
    cases change with
    | createThread threadId metadata => exact Iff.rfl
    | listBranches threadId draws => exact Iff.rfl
    | createCheckpoint threadId title checkpointType metadata draws => exact Iff.rfl
    | restoreCheckpoint threadId checkpointId =>
      simp only [Footing, KeepsFooting, rows_empty_iff, ← checkpointOfThread_view,
        Option.map_eq_some_iff, forall_exists_index, and_imp, forall_apply_eq_imp_iff₂]
      rfl
    | checkoutCheckpoint threadId checkpointId title draws =>
      simp only [Footing, KeepsFooting, rows_empty_iff, ← checkpointOfThread_view,
        Option.map_eq_some_iff, forall_exists_index, and_imp, forall_apply_eq_imp_iff₂]
      rfl
    | activateBranch threadId branchId =>
      simp only [Footing, KeepsFooting, rows_empty_iff, ← branchOfThread_view,
        Option.map_eq_some_iff, forall_exists_index, and_imp, forall_apply_eq_imp_iff₂]
      rfl
    | editRetry messageId edit draws => exact Iff.rfl

/-- Where pointers and histories agree, the shown history is the current one
exactly when every thread that stands nowhere is empty. -/
theorem shows_iff (agrees : Agrees (view store) histories) :
    Shows (store, histories) ↔ Afoot (view store) := by
  constructor
  · intro shows threadId active tip messageId inThread
    obtain ⟨standing, stands, _, reads⟩ := rel_some (agrees.thread threadId) tip
    have found := tip
    simp only [view, Option.map_eq_some_iff] at found
    obtain ⟨thread, found, _⟩ := found
    have shown := shows Orders.positions threadId
    have listed : messageId ∈ (listByThreadId Orders.positions store threadId).map Prod.fst :=
      mem_flat_iff.mpr inThread
    rw [found, stands, Option.map_some, Option.map_some, listMessages_flat tip,
      reads.empty_iff.mp rfl, Option.some.injEq] at shown
    rw [shown] at listed
    cases listed
  · intro afoot orders threadId
    cases found : store.threads.get threadId with
    | none =>
      have unknown : (view store).tip threadId = none := by simp [view, found]
      rw [rel_none (agrees.thread threadId) unknown]
      rfl
    | some thread =>
      have tip := tip_found found
      obtain ⟨standing, stands, _, reads⟩ := rel_some (agrees.thread threadId) tip
      rw [stands]
      refine congrArg some ?_
      cases stood : thread.currentLeafMessageId with
      | none =>
        rw [tipOf, stood] at tip reads
        rw [listMessages_flat tip, reads.empty_iff.mp rfl]
        refine List.eq_nil_iff_forall_not_mem.mpr fun messageId listed => ?_
        exact afoot threadId _ tip messageId (mem_flat_iff.mp listed)
      | some leaf =>
        rw [tipOf, stood] at tip reads
        rw [listMessages_leaf tip reads, List.reverse_reverse]

/-- What a run of the service and the version tree keeps. -/
structure Together (both : Store × Histories) : Prop where
  sound : Sound (view both.1)
  afoot : Afoot (view both.1)
  agrees : Agrees (view both.1) both.2

theorem start_together : Together (Store.start, Histories.start) where
  sound := start_sound
  afoot _ _ tip := (nomatch tip)
  agrees := ⟨fun _ => .none, fun _ => .none, fun _ => .none, fun _ => .none⟩

/-- Both sides agree after a step they take together. -/
theorem lockstep_agrees {both after : Store × Histories} {operation : Orders × Operation}
    (together : Together both) (taken : lockstep both operation = some after) :
    Sound (view after.1) ∧ Agrees (view after.1) after.2 ∧
      (Afoot (view after.1) ↔ Footing both.1 operation) := by
  simp only [lockstep, Option.map_eq_some_iff] at taken
  obtain ⟨next, performed, rfl⟩ := taken
  obtain ⟨moves, granted⟩ := perform_moved together.sound performed
  refine ⟨perform_sound together.sound performed, ?_, ?_⟩
  · rw [moves]
    exact agrees_moved together.sound together.afoot granted together.agrees
  · rw [moves, footing_iff]
    exact afoot_moved_iff together.sound together.afoot granted

end

/-- Through every run the threads show the current histories of the version tree
exactly when no operation takes a thread that has messages back to the empty
history. -/
theorem shown_iff_footing (operations : List (Orders × Operation)) :
    Throughout lockstep Shows (Store.start, Histories.start) operations ↔
      Taking lockstep (fun both operation => Footing both.1 operation)
        (Store.start, Histories.start) operations := by
  refine throughout_iff_taking Together ?_ ?_ start_together
    ((shows_iff start_together.agrees).mpr start_together.afoot) operations
  · intro both operation after together taken shows
    obtain ⟨sound, agrees, _⟩ := lockstep_agrees together taken
    exact ⟨sound, (shows_iff agrees).mp shows, agrees⟩
  · intro both operation after together taken
    obtain ⟨_, agrees, decides⟩ := lockstep_agrees together taken
    exact (shows_iff agrees).trans decides

/-- A checkpoint of a new thread is restored after the first message. -/
def restoredStart : List (Orders × Operation) :=
  [.change (.createThread "t" Dict.empty),
    .change (.createCheckpoint "t" "start" "manual" Dict.empty
      { defaultBranchId := "main", checkpointId := "c" }),
    .post { threadId := "t", role := "user", content := "hello" }
      { messageId := "m", messageUtcnow := 1, checkpointId := "d" },
    .change (.restoreCheckpoint "t" "c")].map fun operation => (Orders.positions, operation)

/-- The restored history is empty, and the thread shows its message. -/
theorem restored_start_shows_message :
    ¬ Throughout lockstep Shows (Store.start, Histories.start) restoredStart := by
  intro throughout
  have differ : (run lockstep (Store.start, Histories.start) restoredStart).map (fun both =>
      ((both.1.threads.get "t").map
          fun _ => (listMessagesForThread Orders.positions both.1 "t").map Prod.fst,
        (both.2.thread "t").map Standing.history)) = some (some ["m"], some []) := by decide
  obtain ⟨final, completed, sides⟩ := Option.map_eq_some_iff.mp differ
  obtain ⟨shown, current⟩ := Prod.mk.inj sides
  have same := throughout.final completed Orders.positions "t"
  rw [shown, current] at same
  cases same

end MeetYou.VisibleHistory
