import MeetYou.VersionSteps

/-!
# What a branch has shown

Beside the store this machine keeps a record of the messages each branch has shown
while it was active. Versioning is non-destructive when every recorded message
stays on the path of the branch's leaf, so that activating the branch again shows
it.

A restored checkpoint moves the thread back but not its branch; the next post ends
the branch with a message below the restored one, and what followed the checkpoint
is on no branch any more. A thread that is taken back to the empty history shows
every message it has, those of other branches included.
-/

namespace MeetYou.BranchKeeping

open ConversationStore VersionTree VersionMoves VersionPaths VersionSteps ParentChains Runs

/-- The messages shown on the threads this branch is active on. -/
def shownOn (orders : Orders) (store : Store) (branchId : BranchId) : List MessageId :=
  (store.threads.entries.filter fun entry =>
    decide (entry.2.activeBranchId = some branchId)).flatMap fun entry =>
      (listMessagesForThread orders store entry.1).map Prod.fst

/-- The store, and what each branch has shown. -/
abbrev Watch := Store × (BranchId → List MessageId)

/-- An empty store in which nothing has been seen. -/
def Watch.start : Watch := (Store.start, fun _ => [])

/-- The service takes an operation, and what every branch shows is recorded. -/
def watch (both : Watch) (operation : Orders × Operation) : Option Watch :=
  (perform both.1 operation).map fun next =>
    (next, fun branchId => both.2 branchId ++ shownOn operation.1 next branchId)

/-- Every message a branch has shown is on the path of its leaf. -/
def KeepsSeen (both : Watch) : Prop :=
  ∀ orders branchId messageId, messageId ∈ both.2 branchId →
    ∃ branch, both.1.branches.get branchId = some branch ∧
      messageId ∈ (listBranchPath orders both.1 branch.threadId
        branch.currentLeafMessageId).map Prod.fst

/-- A message is posted only where the thread stands at the end of its branch; a
checkpoint without a message is restored only where the branch has every message of
the thread; and no branch that ends nowhere is taken up in a thread that has
messages. -/
def KeepsTail (store : Store) : Orders × Operation → Prop
  | (_, .post message _) => ∀ thread branchId branch,
      store.threads.get message.threadId = some thread → thread.activeBranchId = some branchId →
        store.branches.get branchId = some branch →
          thread.currentLeafMessageId = branch.currentLeafMessageId
  | (orders, .change (.restoreCheckpoint threadId checkpointId)) => ∀ checkpoint branchId branch,
      checkpointOfThread store threadId checkpointId = some checkpoint →
        checkpoint.messageId = none → checkpoint.branchId = some branchId →
          store.branches.get branchId = some branch → ∀ entry ∈ rowsOfThread store threadId,
            entry.1 ∈ (listBranchPath orders store threadId
              branch.currentLeafMessageId).map Prod.fst
  | (_, .change (.checkoutCheckpoint threadId checkpointId _ _)) =>
      ∀ checkpoint, checkpointOfThread store threadId checkpointId = some checkpoint →
        checkpoint.messageId = none → rowsOfThread store threadId = []
  | (_, .change (.activateBranch threadId branchId)) =>
      ∀ branch, branchOfThread store threadId branchId = some branch →
        branch.currentLeafMessageId = none → rowsOfThread store threadId = []
  | _ => True

/-- The message is on the path of the branch's leaf. -/
def On (tree : Tree) (branchId : BranchId) (messageId : MessageId) : Prop :=
  ∃ branchEnd, tree.branch branchId = some branchEnd ∧
    OnPath tree branchEnd.threadId branchEnd.leaf messageId

/-- A branch has shown exactly what is on its path, every shown message is on
record, and a checkpoint marks a message on its branch. -/
structure Recorded (tree : Tree) (seen : BranchId → List MessageId) : Prop where
  kept : ∀ branchId messageId, messageId ∈ seen branchId → On tree branchId messageId
  covers : ∀ branchId messageId, On tree branchId messageId → messageId ∈ seen branchId
  watched : ∀ threadId branchId leaf messageId, tree.tip threadId = some ⟨some branchId, leaf⟩ →
    Displays tree threadId leaf messageId → messageId ∈ seen branchId
  marks : ∀ checkpointId threadId branchId messageId,
    tree.mark checkpointId = some ⟨threadId, some branchId, some messageId⟩ →
      On tree branchId messageId

/-- The record grows by what is shown now. -/
def Grows (tree : Tree) (seen later : BranchId → List MessageId) : Prop :=
  ∀ branchId messageId, messageId ∈ later branchId ↔ messageId ∈ seen branchId ∨
    ∃ threadId leaf, tree.tip threadId = some ⟨some branchId, leaf⟩ ∧
      Displays tree threadId leaf messageId

/-- The condition on the pointers. -/
def HoldsTail (tree : Tree) : Operation → Prop
  | .post message _ => ∀ branchId leaf branchEnd,
      tree.tip message.threadId = some ⟨some branchId, leaf⟩ →
        tree.branch branchId = some branchEnd → leaf = branchEnd.leaf
  | .change (.restoreCheckpoint threadId checkpointId) => ∀ mark branchId branchEnd,
      tree.markIn threadId checkpointId = some mark → mark.leaf = none →
        mark.branch = some branchId → tree.branch branchId = some branchEnd →
          ∀ messageId, tree.InThread threadId messageId →
            OnPath tree threadId branchEnd.leaf messageId
  | .change (.checkoutCheckpoint threadId checkpointId _ _) =>
      ∀ mark, tree.markIn threadId checkpointId = some mark → mark.leaf = none →
        ∀ messageId, ¬ tree.InThread threadId messageId
  | .change (.activateBranch threadId branchId) =>
      ∀ branchEnd, tree.branchIn threadId branchId = some branchEnd → branchEnd.leaf = none →
        ∀ messageId, ¬ tree.InThread threadId messageId
  | _ => True

section
variable {tree : Tree} {operation : Operation} {seen later : BranchId → List MessageId}
  {threadId : ThreadId} {leaf : Option MessageId} {messageId : MessageId}

/-- What is on a path stays on it. -/
theorem onPath_moved (homed : Homed tree) (granted : Granted tree operation)
    (on : OnPath tree threadId leaf messageId) :
    OnPath (moved tree operation) threadId leaf messageId := by
  obtain ⟨trail, chain, member⟩ := on
  exact ⟨trail, kept_chain homed granted chain, member⟩

/-- The path of an old leaf gets no new message. -/
theorem onPath_before (homed : Homed tree) (grounded : Grounded tree)
    (granted : Granted tree operation) (home : tree.LeafHome threadId leaf)
    (on : OnPath (moved tree operation) threadId leaf messageId) :
    OnPath tree threadId leaf messageId := by
  obtain ⟨trail, chain⟩ := grounded.chain home
  obtain ⟨other, also, member⟩ := on
  rw [also.unique (kept_chain homed granted chain)] at member
  exact ⟨trail, chain, member⟩

/-- A message posted on a branch is on its path, with what the thread stood at. -/
theorem posted_onPath (sound : Sound tree) {message : NewMessage} {draws : Draws} {tip : Tip}
    (granted : Granted tree (.post message draws)) (known : tree.tip message.threadId = some tip) :
    OnPath (moved tree (.post message draws)) message.threadId (some draws.messageId) messageId ↔
      messageId = draws.messageId ∨ OnPath tree message.threadId tip.leaf messageId := by
  obtain ⟨_, _, fresh, _⟩ := granted
  have home : tree.LeafHome (postedNode message draws tip.leaf).threadId
      (postedNode message draws tip.leaf).parent := sound.homed.tipLeaf known
  simp only [moved, known]
  exact OnPath.new_iff sound.grounded home fresh

/-- What every branch has shown stays on its path, where posts continue their
branch. -/
theorem old_kept (sound : Sound tree) (granted : Granted tree operation)
    (recorded : Recorded tree seen) (holds : HoldsTail tree operation) {branchId : BranchId}
    (member : messageId ∈ seen branchId) : On (moved tree operation) branchId messageId := by
  obtain ⟨branchEnd, stored, on⟩ := recorded.kept branchId messageId member
  rcases kept_branch sound granted stored with kept | ⟨message, draws, leaf, rfl, tip⟩
  · exact ⟨branchEnd, kept, onPath_moved sound.homed granted on⟩
  · have ends := holds branchId leaf branchEnd tip stored
    obtain ⟨branchLeaf, branch⟩ := sound.homed.active tip
    rw [stored] at branch
    cases branch
    have known := tip
    cases ends
    refine ⟨⟨message.threadId, some draws.messageId⟩, by simp [moved, tip, posted], ?_⟩
    exact (posted_onPath sound granted known).mpr (Or.inr on)

/-- A record that shows nothing new keeps what it has. -/
theorem shown_before (sound : Sound tree) (granted : Granted tree operation)
    (recorded : Recorded tree seen) {branchId : BranchId}
    (tip : tree.tip threadId = some ⟨some branchId, leaf⟩)
    (inThread : ∀ tested, (moved tree operation).InThread threadId tested →
      tree.InThread threadId tested)
    (displays : Displays (moved tree operation) threadId leaf messageId) :
    messageId ∈ seen branchId := by
  refine recorded.watched threadId branchId leaf messageId tip ?_
  cases leaf with
  | none => exact inThread messageId displays
  | some leaf =>
    exact onPath_before sound.homed sound.grounded granted (sound.homed.tipLeaf tip) displays

/-- A leaf a thread stands at is on its path. -/
theorem self_onPath (sound : Sound tree) (home : tree.LeafHome threadId (some messageId)) :
    OnPath tree threadId (some messageId) messageId :=
  OnPath.self sound.grounded (home messageId rfl)

/-- What a started thread shows was shown before, or it stands on a new branch and
has no message. -/
theorem shown_started (sound : Sound tree) {final : Tree} {defaultBranchId branchId : BranchId}
    {shown : Prop}
    (tip : (started tree threadId defaultBranchId).tip threadId = some ⟨some branchId, leaf⟩)
    (nodes : final.node = (started tree threadId defaultBranchId).node)
    (branches : final.branch = (started tree threadId defaultBranchId).branch)
    (still : tree.tip threadId = some ⟨some branchId, leaf⟩ →
      (∀ tested, final.InThread threadId tested → tree.InThread threadId tested) → shown)
    (ends : final.branch branchId = some ⟨threadId, leaf⟩ →
      (leaf = none → ¬ final.InThread threadId messageId) → shown) : shown := by
  have before : ∀ tested, final.InThread threadId tested → tree.InThread threadId tested := by
    rintro tested ⟨node, found, home⟩
    exact ⟨node, by simpa [nodes] using found, home⟩
  cases known : tree.tip threadId with
  | none =>
    rw [started_unknown known, known] at tip
    cases tip
  | some old =>
    obtain ⟨active, oldLeaf⟩ := old
    cases active with
    | some active =>
      rw [started_active known] at tip
      exact still tip before
    | none =>
      rw [started_idle known] at tip branches
      simp only [Tree.opened, Tree.tip_putTip, if_true, Option.some.injEq, Tip.mk.injEq] at tip
      obtain ⟨rfl, rfl⟩ := tip
      refine ends (by simp [branches, Tree.opened]) fun _ inThread => ?_
      exact sound.settled threadId oldLeaf known messageId (before messageId inThread)

/-- Where the conditions hold, what is shown on a branch is on its path. -/
theorem shown_kept (sound : Sound tree) (granted : Granted tree operation)
    (recorded : Recorded tree seen) (holds : HoldsTail tree operation) {branchId : BranchId}
    (tip : (moved tree operation).tip threadId = some ⟨some branchId, leaf⟩)
    (displays : Displays (moved tree operation) threadId leaf messageId) :
    On (moved tree operation) branchId messageId := by
  have still : tree.tip threadId = some ⟨some branchId, leaf⟩ →
      (∀ tested, (moved tree operation).InThread threadId tested → tree.InThread threadId tested) →
        On (moved tree operation) branchId messageId := by
    intro before inThread
    exact old_kept sound granted recorded holds
      (shown_before sound granted recorded before inThread displays)
  have ends : (moved tree operation).branch branchId = some ⟨threadId, leaf⟩ →
      (leaf = none → ¬ (moved tree operation).InThread threadId messageId) →
        On (moved tree operation) branchId messageId := by
    intro branch empty
    cases leaf with
    | none => exact absurd displays (empty rfl)
    | some leaf => exact ⟨_, branch, displays⟩
  by_cases here : subject tree operation = some threadId
  · cases operation with
    | post message draws =>
      cases here
      obtain ⟨⟨before, known⟩, _⟩ := granted
      simp only [moved, known, posted, Tree.tip_putMark, Tree.tip_putTip, postedNode_threadId,
        if_true, Option.some.injEq, Tip.mk.injEq] at tip
      obtain ⟨rfl, rfl⟩ := tip
      exact ends (by simp [moved, known, posted]) fun isNone => by cases isNone
    | change change =>
      cases change with
      | createThread created metadata =>
        cases here
        simp [moved] at tip
      | listBranches listed draws =>
        cases here
        exact shown_started sound tip rfl rfl still ends
      | createCheckpoint created title checkpointType metadata draws =>
        cases here
        exact shown_started sound (by simpa [moved] using tip) (by simp [moved]) (by simp [moved])
          still ends
      | restoreCheckpoint restored checkpointId =>
        cases here
        cases found : tree.markIn threadId checkpointId with
        | none =>
          simp only [moved, found] at tip still ⊢
          exact still tip fun _ => id
        | some mark =>
          obtain ⟨stored, isHome⟩ := Tree.markIn_some found
          simp only [moved, found, Tree.tip_putTip, if_true, Option.some.injEq, Tip.mk.injEq] at tip
          obtain ⟨isBranch, rfl⟩ := tip
          obtain ⟨⟨markBranch, isMarkBranch, branchLeaf, branch⟩, home⟩ := sound.homed.mark_home found
          rw [isBranch] at isMarkBranch
          cases isMarkBranch
          have same : moved tree (.change (.restoreCheckpoint threadId checkpointId)) =
              tree.putTip threadId ⟨mark.branch, mark.leaf⟩ := by simp only [moved, found]
          rw [same] at displays ⊢
          refine ⟨⟨threadId, branchLeaf⟩, branch, ?_⟩
          cases marks : mark.leaf with
          | none =>
            rw [marks] at displays
            exact holds mark branchId _ found marks isBranch branch messageId displays
          | some marked =>
            rw [marks] at displays
            have whole : mark = ⟨threadId, some branchId, some marked⟩ := by
              rw [← isHome, ← isBranch, ← marks]
            obtain ⟨branchEnd, branchFound, onBranch⟩ :=
              recorded.marks _ threadId branchId marked (whole ▸ stored)
            rw [branch] at branchFound
            cases branchFound
            exact onBranch.trans displays
      | checkoutCheckpoint checked checkpointId title draws =>
        cases here
        cases found : tree.markIn threadId checkpointId with
        | none =>
          simp only [moved, found] at tip still ⊢
          exact still tip fun _ => id
        | some mark =>
          simp only [moved, found, Tree.opened, Tree.tip_putTip, if_true, Option.some.injEq,
            Tip.mk.injEq] at tip
          obtain ⟨rfl, rfl⟩ := tip
          refine ends (by simp [moved, found, Tree.opened]) fun leafless inThread => ?_
          simp only [moved, found] at inThread
          exact holds mark found leafless messageId inThread
      | activateBranch activated activatedId =>
        cases here
        cases found : tree.branchIn threadId activatedId with
        | none =>
          simp only [moved, found] at tip still ⊢
          exact still tip fun _ => id
        | some branchEnd =>
          simp only [moved, found, Tree.tip_putTip, if_true, Option.some.injEq, Tip.mk.injEq] at tip
          obtain ⟨rfl, rfl⟩ := tip
          refine ends ?_ fun leafless inThread => ?_
          · simp only [moved, found, Tree.branch_putTip]
            exact Tree.branchIn_some found
          · simp only [moved, found] at inThread
            exact holds branchEnd found leafless messageId inThread
      | editRetry edited edit draws =>
        obtain ⟨node, found, rfl⟩ := Option.map_eq_some_iff.mp here
        simp only [moved, found, retried, Tree.revised, Tree.opened, editedNode, Tree.tip_putMark,
          Tree.tip_putNode, Tree.tip_putTip, if_true, Option.some.injEq, Tip.mk.injEq] at tip
        obtain ⟨rfl, rfl⟩ := tip
        refine ends ?_ fun isNone => by cases isNone
        simp [moved, found, retried, Tree.revised, Tree.opened, editedNode]
  · obtain ⟨sameTip, inThread⟩ := moved_other granted here
    exact still (sameTip ▸ tip) inThread

/-- Where every branch still has what it has shown, the conditions held. -/
theorem holds_of_kept (sound : Sound tree) (granted : Granted tree operation)
    (recorded : Recorded tree seen) (grows : Grows (moved tree operation) seen later)
    (kept : ∀ branchId messageId, messageId ∈ later branchId →
      On (moved tree operation) branchId messageId) : HoldsTail tree operation := by
  cases operation with
  | post message draws =>
    intro branchId leaf branchEnd tip stored
    obtain ⟨branchLeaf, branch⟩ := sound.homed.active tip
    rw [stored] at branch
    cases branch
    have after : (moved tree (.post message draws)).branch branchId =
        some ⟨message.threadId, some draws.messageId⟩ := by simp [moved, tip, posted]
    -- What the branch had is below the new message, so the thread stood at all of it.
    have below : ∀ tested, OnPath tree message.threadId branchLeaf tested →
        OnPath tree message.threadId leaf tested := by
      intro tested on
      have shown := recorded.covers branchId tested ⟨_, stored, on⟩
      obtain ⟨branchEnd, found, stays⟩ := kept branchId tested ((grows branchId tested).mpr (Or.inl shown))
      rw [after] at found
      cases found
      refine ((posted_onPath sound granted tip).mp stays).resolve_left ?_
      rintro rfl
      obtain ⟨node, present, _⟩ := on.stored
      rw [granted.2.2.1] at present
      cases present
    have above : ∀ tested, Displays tree message.threadId leaf tested →
        OnPath tree message.threadId branchLeaf tested := by
      intro tested displays
      obtain ⟨branchEnd, found, on⟩ := recorded.kept branchId tested
        (recorded.watched message.threadId branchId leaf tested tip displays)
      rw [stored] at found
      cases found
      exact on
    show leaf = branchLeaf
    cases branchLeaf with
    | none =>
      cases leaf with
      | none => rfl
      | some leaf =>
        have own := self_onPath sound (sound.homed.tipLeaf tip)
        exact absurd (above leaf own) OnPath.not_none
    | some branchLeaf =>
      have own := below branchLeaf (self_onPath sound (sound.homed.branchLeaf stored))
      cases leaf with
      | none => exact absurd own OnPath.not_none
      | some leaf =>
        have back := above leaf (self_onPath sound (sound.homed.tipLeaf tip))
        exact congrArg some (own.antisymm back)
  | change change =>
    cases change with
    | createThread threadId metadata => trivial
    | listBranches threadId draws => trivial
    | createCheckpoint threadId title checkpointType metadata draws => trivial
    | restoreCheckpoint threadId checkpointId =>
      intro mark branchId branchEnd found leafless isBranch stored messageId inThread
      have same : moved tree (.change (.restoreCheckpoint threadId checkpointId)) =
          tree.putTip threadId ⟨some branchId, none⟩ := by
        simp only [moved, found, isBranch, leafless]
      rw [same] at grows kept
      obtain ⟨other, branch, on⟩ := kept branchId messageId
        ((grows branchId messageId).mpr (Or.inr ⟨threadId, none, by simp, inThread⟩))
      obtain ⟨⟨_, isMarkBranch, branchLeaf, home⟩, _⟩ := sound.homed.mark_home found
      rw [isBranch] at isMarkBranch
      cases isMarkBranch
      rw [stored] at home
      cases home
      rw [Tree.branch_putTip, stored] at branch
      cases branch
      exact on
    | checkoutCheckpoint threadId checkpointId title draws =>
      intro mark found leafless messageId inThread
      have same : moved tree (.change (.checkoutCheckpoint threadId checkpointId title draws)) =
          tree.opened threadId draws.branchId none := by
        simp only [moved, found, leafless]
      rw [same] at grows kept
      obtain ⟨branchEnd, branch, on⟩ := kept draws.branchId messageId
        ((grows draws.branchId messageId).mpr
          (Or.inr ⟨threadId, none, by simp [Tree.opened], inThread⟩))
      simp only [Tree.opened, Tree.branch_putTip, Tree.branch_putBranch, if_true,
        Option.some.injEq] at branch
      subst branch
      exact OnPath.not_none on
    | activateBranch threadId branchId =>
      intro branchEnd found leafless messageId inThread
      have same : moved tree (.change (.activateBranch threadId branchId)) =
          tree.putTip threadId ⟨some (Text.strip branchId), none⟩ := by
        simp only [moved, found, leafless]
      rw [same] at grows kept
      obtain ⟨other, branch, on⟩ := kept (Text.strip branchId) messageId
        ((grows (Text.strip branchId) messageId).mpr (Or.inr ⟨threadId, none, by simp, inThread⟩))
      rw [Tree.branch_putTip, Tree.branchIn_some found, leafless] at branch
      cases branch
      exact OnPath.not_none on
    | editRetry messageId edit draws => trivial

/-- A step keeps what the branches have shown exactly when its condition holds. -/
theorem kept_moved_iff (sound : Sound tree) (granted : Granted tree operation)
    (recorded : Recorded tree seen) (grows : Grows (moved tree operation) seen later) :
    (∀ branchId messageId, messageId ∈ later branchId →
      On (moved tree operation) branchId messageId) ↔ HoldsTail tree operation := by
  constructor
  · exact holds_of_kept sound granted recorded grows
  · intro holds branchId messageId member
    rcases (grows branchId messageId).mp member with old | ⟨threadId, leaf, tip, displays⟩
    · exact old_kept sound granted recorded holds old
    · exact shown_kept sound granted recorded holds tip displays

/-- Where a step keeps what the branches have shown, the record stays exact. -/
theorem recorded_moved (sound : Sound tree) (soundAfter : Sound (moved tree operation))
    (granted : Granted tree operation) (recorded : Recorded tree seen)
    (grows : Grows (moved tree operation) seen later)
    (kept : ∀ branchId messageId, messageId ∈ later branchId →
      On (moved tree operation) branchId messageId) :
    Recorded (moved tree operation) later where
  kept := kept
  covers := by
    rintro branchId messageId ⟨branchEnd, found, on⟩
    refine (grows branchId messageId).mpr ?_
    rcases branch_moved sound granted found with old | stands
    · left
      exact recorded.covers branchId messageId ⟨branchEnd, old,
        onPath_before sound.homed sound.grounded granted (sound.homed.branchLeaf old) on⟩
    · right
      refine ⟨branchEnd.threadId, branchEnd.leaf, stands, ?_⟩
      cases ends : branchEnd.leaf with
      | none =>
        rw [ends] at on
        exact absurd on OnPath.not_none
      | some leaf =>
        rw [ends] at on
        exact on
  watched threadId branchId leaf messageId tip displays :=
    (grows branchId messageId).mpr (Or.inr ⟨threadId, leaf, tip, displays⟩)
  marks := by
    intro checkpointId threadId branchId messageId found
    rcases mark_moved sound granted found with old | ⟨active, leaf, stands, isBranch, marks⟩
    · have shown := recorded.covers branchId messageId
        (recorded.marks checkpointId threadId branchId messageId old)
      exact kept branchId messageId ((grows branchId messageId).mpr (Or.inl shown))
    · cases isBranch
      cases leaf with
      | some leaf =>
        cases marks
        refine kept branchId messageId ((grows branchId messageId).mpr (Or.inr ?_))
        exact ⟨threadId, some messageId, stands,
          self_onPath soundAfter (soundAfter.homed.tipLeaf stands)⟩
      | none =>
        obtain ⟨branchLeaf, branch⟩ := soundAfter.homed.active stands
        simp only [branch, Option.bind_some, Option.none_or] at marks
        subst marks
        exact ⟨_, branch, self_onPath soundAfter (soundAfter.homed.branchLeaf branch)⟩

end

section
variable {store next : Store}

/-- What the service shows on a branch is what its threads display. -/
theorem mem_shownOn_iff (sound : Sound (view store)) (orders : Orders) {branchId : BranchId}
    {messageId : MessageId} :
    messageId ∈ shownOn orders store branchId ↔ ∃ threadId leaf,
      (view store).tip threadId = some ⟨some branchId, leaf⟩ ∧
        Displays (view store) threadId leaf messageId := by
  simp only [shownOn, List.mem_flatMap, List.mem_filter, decide_eq_true_eq, Prod.exists,
    ← Dict.get_some_iff]
  constructor
  · rintro ⟨threadId, thread, ⟨found, isActive⟩, listed⟩
    have tip : (view store).tip threadId = some ⟨some branchId, thread.currentLeafMessageId⟩ := by
      rw [tip_found found, tipOf, isActive]
    exact ⟨threadId, _, tip,
      (mem_listMessages_iff orders sound.homed sound.grounded tip).mp listed⟩
  · rintro ⟨threadId, leaf, tip, displays⟩
    have found := tip
    simp only [view, Option.map_eq_some_iff] at found
    obtain ⟨thread, found, same⟩ := found
    exact ⟨threadId, thread, ⟨found, congrArg Tip.active same⟩,
      (mem_listMessages_iff orders sound.homed sound.grounded tip).mpr displays⟩

/-- The record is kept exactly when every message on it is on its branch's path. -/
theorem keepsSeen_iff (sound : Sound (view store)) {seen : BranchId → List MessageId} :
    KeepsSeen (store, seen) ↔
      ∀ branchId messageId, messageId ∈ seen branchId → On (view store) branchId messageId := by
  constructor
  · intro keeps branchId messageId member
    obtain ⟨branch, found, listed⟩ := keeps Orders.positions branchId messageId member
    have stored := branch_found found
    exact ⟨_, stored, (mem_listBranchPath_iff Orders.positions sound.grounded
      (sound.homed.branchLeaf stored)).mp listed⟩
  · intro keeps orders branchId messageId member
    obtain ⟨branchEnd, stored, on⟩ := keeps branchId messageId member
    have found := stored
    simp only [view, Option.map_eq_some_iff] at found
    obtain ⟨branch, found, rfl⟩ := found
    exact ⟨branch, found, (mem_listBranchPath_iff orders sound.grounded
      (sound.homed.branchLeaf stored)).mpr on⟩

/-- The condition on the rows is the condition on the pointers. -/
theorem keepsTail_iff (sound : Sound (view store)) {operation : Orders × Operation} :
    KeepsTail store operation ↔ HoldsTail (view store) operation.2 := by
  obtain ⟨orders, operation⟩ := operation
  cases operation with
  | post message draws =>
    constructor
    · intro keeps branchId leaf branchEnd tip stored
      simp only [view, Option.map_eq_some_iff] at tip stored
      obtain ⟨thread, found, sameTip⟩ := tip
      obtain ⟨branch, branchFound, rfl⟩ := stored
      have stands : thread.currentLeafMessageId = leaf := congrArg Tip.leaf sameTip
      rw [← stands]
      exact keeps thread branchId branch found (congrArg Tip.active sameTip) branchFound
    · intro holds thread branchId branch found isActive branchFound
      refine holds branchId thread.currentLeafMessageId (branchEndOf branch) ?_
        (branch_found branchFound)
      rw [tip_found found, tipOf, isActive]
  | change change =>
    cases change with
    | createThread threadId metadata => exact Iff.rfl
    | listBranches threadId draws => exact Iff.rfl
    | createCheckpoint threadId title checkpointType metadata draws => exact Iff.rfl
    | restoreCheckpoint threadId checkpointId =>
      have rows : ∀ {leaf}, (view store).LeafHome threadId leaf →
          ((∀ entry ∈ rowsOfThread store threadId,
              entry.1 ∈ (listBranchPath orders store threadId leaf).map Prod.fst) ↔
            ∀ messageId, (view store).InThread threadId messageId →
              OnPath (view store) threadId leaf messageId) := by
        intro leaf home
        constructor
        · intro all messageId inThread
          obtain ⟨row, member⟩ := inThread_row inThread
          exact (mem_listBranchPath_iff orders sound.grounded home).mp (all _ member)
        · intro all entry member
          exact (mem_listBranchPath_iff orders sound.grounded home).mpr
            (all entry.1 (row_inThread member))
      constructor
      · intro keeps mark branchId branchEnd found leafless isBranch stored
        have asked := found
        rw [← checkpointOfThread_view, Option.map_eq_some_iff] at asked
        obtain ⟨checkpoint, asked, rfl⟩ := asked
        obtain ⟨⟨_, isMarkBranch, branchLeaf, home⟩, _⟩ := sound.homed.mark_home found
        rw [isBranch] at isMarkBranch
        cases isMarkBranch
        have branchHome := sound.homed.branchLeaf home
        rw [stored] at home
        cases home
        simp only [view, Option.map_eq_some_iff] at stored
        obtain ⟨branch, stored, ends⟩ := stored
        have sameLeaf : branch.currentLeafMessageId = branchLeaf := congrArg BranchEnd.leaf ends
        have listed := keeps checkpoint branchId branch asked leafless isBranch stored
        rw [sameLeaf] at listed
        exact (rows branchHome).mp listed
      · intro holds checkpoint branchId branch asked leafless isBranch stored
        have found : (view store).markIn threadId checkpointId = some (markOf checkpoint) := by
          rw [← checkpointOfThread_view, asked]
          rfl
        obtain ⟨⟨_, isMarkBranch, branchLeaf, home⟩, _⟩ := sound.homed.mark_home found
        cases isBranch.symm.trans isMarkBranch
        have branchHome := sound.homed.branchLeaf home
        rw [branch_found stored] at home
        have sameLeaf : branch.currentLeafMessageId = branchLeaf :=
          congrArg BranchEnd.leaf (Option.some.inj home)
        refine (rows (sameLeaf ▸ branchHome)).mpr ?_
        exact holds (markOf checkpoint) branchId (branchEndOf branch) found leafless isBranch
          (branch_found stored)
    | checkoutCheckpoint threadId checkpointId title draws =>
      simp only [KeepsTail, HoldsTail, rows_empty_iff, ← checkpointOfThread_view,
        Option.map_eq_some_iff, forall_exists_index, and_imp, forall_apply_eq_imp_iff₂]
      rfl
    | activateBranch threadId branchId =>
      simp only [KeepsTail, HoldsTail, rows_empty_iff, ← branchOfThread_view,
        Option.map_eq_some_iff, forall_exists_index, and_imp, forall_apply_eq_imp_iff₂]
      rfl
    | editRetry messageId edit draws => exact Iff.rfl

/-- What a run of the service and its record keeps. -/
def Faithful (both : Watch) : Prop := Sound (view both.1) ∧ Recorded (view both.1) both.2

theorem start_faithful : Faithful Watch.start := by
  refine ⟨start_sound, ⟨fun _ _ member => (nomatch member), ?_, ?_, ?_⟩⟩
  · rintro branchId messageId ⟨branchEnd, found, _⟩
    cases found
  · intro threadId branchId leaf messageId tip
    cases tip
  · intro checkpointId threadId branchId messageId found
    cases found

/-- What one step shows, and when it keeps what was shown. -/
theorem watch_step {both after : Watch} {operation : Orders × Operation}
    (faithful : Faithful both) (taken : watch both operation = some after) :
    (KeepsSeen after ↔ KeepsTail both.1 operation) ∧ (KeepsSeen after → Faithful after) := by
  obtain ⟨sound, recorded⟩ := faithful
  simp only [watch, Option.map_eq_some_iff] at taken
  obtain ⟨next, performed, rfl⟩ := taken
  obtain ⟨moves, granted⟩ := perform_moved sound performed
  have soundAfter := perform_sound sound performed
  have grows : Grows (view next) both.2
      (fun branchId => both.2 branchId ++ shownOn operation.1 next branchId) := by
    intro branchId messageId
    rw [List.mem_append, mem_shownOn_iff soundAfter]
  rw [keepsSeen_iff soundAfter, keepsTail_iff sound]
  rw [moves] at soundAfter grows ⊢
  refine ⟨kept_moved_iff sound granted recorded grows, fun kept => ⟨?_, ?_⟩⟩
  · simpa only [moves] using soundAfter
  · simp only [moves]
    exact recorded_moved sound soundAfter granted recorded grows kept

end

/-- Through every run each branch keeps the messages it has shown on the path of its
leaf exactly when every post continues its branch and no thread that has messages is
taken back to an empty history its branch does not cover. -/
theorem seen_kept_iff_tail_kept (operations : List (Orders × Operation)) :
    Throughout watch KeepsSeen Watch.start operations ↔
      Taking watch (fun both operation => KeepsTail both.1 operation) Watch.start operations := by
  refine throughout_iff_taking Faithful ?_ ?_ start_faithful
    (fun _ _ _ member => (nomatch member)) operations
  · intro both operation after faithful taken keeps
    exact (watch_step faithful taken).2 keeps
  · intro both operation after faithful taken
    exact (watch_step faithful taken).1

/-- A checkpoint is restored and a message posted below it. -/
def postedBelow : List (Orders × Operation) :=
  [.change (.createThread "t" Dict.empty),
    .post { threadId := "t", role := "user", content := "first" }
      { defaultBranchId := "main", messageId := "a", messageUtcnow := 1, checkpointId := "c" },
    .post { threadId := "t", role := "assistant", content := "second" }
      { messageId := "b", messageUtcnow := 2, checkpointId := "d" },
    .change (.restoreCheckpoint "t" "c"),
    .post { threadId := "t", role := "user", content := "third" }
      { messageId := "e", messageUtcnow := 3, checkpointId := "f" }].map
        fun operation => (Orders.positions, operation)

/-- The second message was shown on the branch and is on no branch any more. -/
theorem posted_below_cuts_off : ¬ Throughout watch KeepsSeen Watch.start postedBelow := by
  intro throughout
  have differ : (run watch Watch.start postedBelow).map (fun both =>
      (decide ("b" ∈ both.2 "main"), (both.1.branches.get "main").map fun branch =>
        (listBranchPath Orders.positions both.1 branch.threadId
          branch.currentLeafMessageId).map Prod.fst)) = some (true, some ["a", "e"]) := by decide
  obtain ⟨final, completed, sides⟩ := Option.map_eq_some_iff.mp differ
  obtain ⟨shown, path⟩ := Prod.mk.inj sides
  obtain ⟨branch, found, listed⟩ :=
    throughout.final completed Orders.positions "main" "b" (of_decide_eq_true shown)
  rw [found, Option.map_some, Option.some.injEq] at path
  rw [path] at listed
  revert listed
  decide

end MeetYou.BranchKeeping
