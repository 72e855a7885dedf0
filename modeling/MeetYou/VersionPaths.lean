import MeetYou.VersionMoves

/-!
# The path to a leaf

The service rebuilds a history by walking parents from a leaf among the rows of a
thread. Where the parents of the thread form a forest, that walk returns the chain
of the leaf in the pointer tree, turned round. Nothing later looks at the walk.

Which moves keep the parents a forest is read off here as well: a new message hangs
on a stored one and closes no cycle; an attached message may.
-/

namespace MeetYou.VersionPaths

open ConversationStore VersionTree VersionMoves ParentChains

/-- The parents inside every thread form a forest. -/
def Grounded (tree : Tree) : Prop := ∀ threadId, Forest (tree.links threadId)

section
variable {tree : Tree} {threadId : ThreadId}

theorem links_of_node {messageId : MessageId} {node : Node}
    (stored : tree.node messageId = some node) :
    tree.links node.threadId messageId = some node.parent :=
  Tree.links_some_iff.mpr ⟨node, stored, rfl, rfl⟩

theorem links_putNode (messageId tested : MessageId) (node : Node) :
    (tree.putNode messageId node).links threadId tested =
      if tested = messageId then (if node.threadId = threadId then some node.parent else none)
      else tree.links threadId tested := by
  by_cases same : tested = messageId
  · simp [Tree.links, same]
  · simp [Tree.links, same]

/-- Trees with the same messages have the same parents. -/
theorem links_congr {later : Tree} (same : later.node = tree.node) :
    later.links threadId = tree.links threadId := by
  funext messageId
  simp only [Tree.links, same]

theorem Grounded.congr {later : Tree} (grounded : Grounded tree) (same : later.node = tree.node) :
    Grounded later := by
  intro threadId
  rw [links_congr same]
  exact grounded threadId

/-- A leaf of the thread has a chain. -/
theorem Grounded.chain {leaf : Option MessageId} (grounded : Grounded tree)
    (home : tree.LeafHome threadId leaf) : ∃ trail, Chain (tree.links threadId) leaf trail := by
  cases leaf with
  | none => exact ⟨[], .done⟩
  | some messageId =>
    obtain ⟨node, stored, rfl⟩ := home messageId rfl
    exact grounded node.threadId messageId node.parent (links_of_node stored)

/-- A message that is not stored lies on no chain. -/
theorem chain_avoids {start : Option MessageId} {trail : List MessageId} {messageId : MessageId}
    (chain : Chain (tree.links threadId) start trail) (fresh : tree.node messageId = none) :
    messageId ∉ trail := by
  intro member
  obtain ⟨parent, stored⟩ := chain.stored member
  simp [Tree.links, fresh] at stored

/-- A new message changes no chain. -/
theorem chain_putFresh {start : Option MessageId} {trail : List MessageId} {messageId : MessageId}
    {node : Node} (chain : Chain (tree.links threadId) start trail)
    (fresh : tree.node messageId = none) :
    Chain ((tree.putNode messageId node).links threadId) start trail := by
  refine chain.congr fun other member => ?_
  have different : other ≠ messageId := by
    rintro rfl
    exact chain_avoids chain fresh member
  rw [links_putNode, if_neg different]

/-- A new message continues the chain of its parent. -/
theorem chain_new {trail : List MessageId} {messageId : MessageId} {node : Node}
    (above : Chain (tree.links node.threadId) node.parent trail)
    (fresh : tree.node messageId = none) :
    Chain ((tree.putNode messageId node).links node.threadId) (some messageId)
      (messageId :: trail) :=
  .link (by simp [links_putNode]) (chain_putFresh above fresh)

/-- The message is met on the way from the leaf. -/
def OnPath (tree : Tree) (threadId : ThreadId) (leaf : Option MessageId) (messageId : MessageId) :
    Prop :=
  ∃ trail, Chain (tree.links threadId) leaf trail ∧ messageId ∈ trail

/-- A thread shows the path to its leaf, or every message it has when it stands
nowhere. -/
def Displays (tree : Tree) (threadId : ThreadId) (leaf : Option MessageId)
    (messageId : MessageId) : Prop :=
  match leaf with
  | none => tree.InThread threadId messageId
  | some _ => OnPath tree threadId leaf messageId

namespace OnPath

variable {leaf : Option MessageId} {messageId : MessageId}

theorem not_none : ¬ OnPath tree threadId none messageId := by
  rintro ⟨trail, chain, member⟩
  cases chain
  cases member

theorem stored (on : OnPath tree threadId leaf messageId) : tree.InThread threadId messageId := by
  obtain ⟨trail, chain, member⟩ := on
  obtain ⟨parent, found⟩ := chain.stored member
  obtain ⟨node, stored, home, _⟩ := Tree.links_some_iff.mp found
  exact ⟨node, stored, home⟩

/-- A leaf is on its own path. -/
theorem self (grounded : Grounded tree) (home : tree.InThread threadId messageId) :
    OnPath tree threadId (some messageId) messageId := by
  have isLeaf : tree.LeafHome threadId (some messageId) := by
    intro other same
    cases same
    exact home
  obtain ⟨trail, chain⟩ := grounded.chain isLeaf
  refine ⟨trail, chain, ?_⟩
  cases chain
  exact List.mem_cons_self

/-- What is on the path of a message on the path is on the path. -/
theorem trans {middle : MessageId} (on : OnPath tree threadId leaf middle)
    (above : OnPath tree threadId (some middle) messageId) :
    OnPath tree threadId leaf messageId := by
  obtain ⟨trail, chain, member⟩ := on
  obtain ⟨upper, chainAbove, memberAbove⟩ := above
  exact ⟨trail, chain, chain.mem_trans member chainAbove memberAbove⟩

/-- Two messages on the paths of each other are the same. -/
theorem antisymm {other : MessageId} (below : OnPath tree threadId (some messageId) other)
    (above : OnPath tree threadId (some other) messageId) : messageId = other := by
  obtain ⟨lower, chainLower, otherOn⟩ := below
  obtain ⟨upper, chainUpper, messageOn⟩ := above
  exact Chain.antisymm chainLower chainUpper messageOn otherOn

/-- The path of a new message is the message and the path of its parent. -/
theorem new_iff {fresh : MessageId} {node : Node} (grounded : Grounded tree)
    (home : tree.LeafHome node.threadId node.parent) (isFresh : tree.node fresh = none) :
    OnPath (tree.putNode fresh node) node.threadId (some fresh) messageId ↔
      messageId = fresh ∨ OnPath tree node.threadId node.parent messageId := by
  obtain ⟨upper, above⟩ := grounded.chain home
  have chain := chain_new above isFresh
  constructor
  · rintro ⟨trail, other, member⟩
    rw [other.unique chain] at member
    exact (List.mem_cons.mp member).imp id fun below => ⟨upper, above, below⟩
  · rintro (rfl | ⟨trail, other, member⟩)
    · exact ⟨_, chain, List.mem_cons_self⟩
    · rw [other.unique above] at member
      exact ⟨_, chain, List.mem_cons_of_mem fresh member⟩

end OnPath

/-- A new message that hangs on a message of its thread keeps the forest. -/
theorem Grounded.putFresh {messageId : MessageId} {node : Node} (grounded : Grounded tree)
    (fresh : tree.node messageId = none) (home : tree.LeafHome node.threadId node.parent) :
    Grounded (tree.putNode messageId node) := by
  intro threadId tested parent stored
  rw [links_putNode] at stored
  by_cases same : tested = messageId
  · subst same
    rw [if_pos rfl] at stored
    by_cases isHome : node.threadId = threadId
    · subst isHome
      obtain ⟨trail, above⟩ := grounded.chain home
      exact ⟨_, chain_new above fresh⟩
    · rw [if_neg isHome] at stored
      cases stored
  · rw [if_neg same] at stored
    obtain ⟨trail, chain⟩ := grounded threadId tested parent stored
    exact ⟨trail, chain_putFresh chain fresh⟩

/-- An attached message keeps the forest unless it would hang below itself. -/
theorem Grounded.attached_iff {branchId : BranchId} {leaf : Option MessageId}
    {messageId : MessageId} {node : Node} (grounded : Grounded tree)
    (stored : tree.node messageId = some node) {upper : List MessageId}
    (above : Chain (tree.links node.threadId) leaf upper) :
    Grounded (tree.attached node.threadId branchId leaf messageId node) ↔
      (node.parent = none → leaf ≠ some messageId → messageId ∉ upper) := by
  have same : (tree.attached node.threadId branchId leaf messageId node).node =
      (tree.putNode messageId (node.below messageId leaf)).node := rfl
  by_cases hangs : node.parent = none ∧ leaf ≠ some messageId
  · obtain ⟨parentless, different⟩ := hangs
    have below : node.below messageId leaf = { node with parent := leaf } := by
      simp [Node.below, parentless, different]
    have root : tree.links node.threadId messageId = some none := by
      rw [links_of_node stored, parentless]
    have grafted : (tree.putNode messageId (node.below messageId leaf)).links node.threadId messageId =
        some leaf := by simp [links_putNode, below]
    have others : ∀ other, other ≠ messageId →
        (tree.putNode messageId (node.below messageId leaf)).links node.threadId other =
          tree.links node.threadId other := by
      intro other apart
      rw [links_putNode, if_neg apart]
    simp only [parentless, different, forall_const, ne_eq, not_false_eq_true]
    constructor
    · intro holds onPath
      obtain ⟨trail, chain⟩ := holds node.threadId messageId leaf (by rw [links_congr same, grafted])
      rw [links_congr same] at chain
      exact Chain.no_chain_through above onPath grafted others chain
    · intro apart threadId tested parent found
      rw [links_congr same] at found ⊢
      by_cases isHome : threadId = node.threadId
      · subst isHome
        have before : ∃ held, tree.links node.threadId tested = some held := by
          by_cases isMessage : tested = messageId
          · exact ⟨none, isMessage ▸ root⟩
          · exact ⟨parent, by rw [← others tested isMessage, found]⟩
        obtain ⟨held, storedBefore⟩ := before
        obtain ⟨trail, chain⟩ := grounded node.threadId tested held storedBefore
        exact ⟨_, chain.graft root above apart grafted others⟩
      · have unchanged : (tree.putNode messageId (node.below messageId leaf)).links threadId =
            tree.links threadId := by
          funext other
          rw [links_putNode]
          by_cases isMessage : other = messageId
          · simp [isMessage, below, Tree.links, stored, Ne.symm isHome]
          · rw [if_neg isMessage]
        rw [unchanged] at found ⊢
        exact grounded threadId tested parent found
  · have unchanged : node.below messageId leaf = node := by simp [Node.below, hangs]
    have nodes : (tree.attached node.threadId branchId leaf messageId node).node = tree.node := by
      rw [same, unchanged]
      funext tested
      by_cases isMessage : tested = messageId
      · simp [isMessage, stored]
      · simp [isMessage]
    refine iff_of_true (grounded.congr nodes) fun parentless different => ?_
    exact absurd ⟨parentless, different⟩ hangs

end

section
variable {orders : Orders} {store : Store} {threadId : ThreadId}

/-- The rows of a thread, in any order, are its stored messages. -/
theorem mem_listByThreadId {messageId : MessageId} {row : Message} :
    (messageId, row) ∈ listByThreadId orders store threadId ↔
      store.messages.get messageId = some row ∧ row.threadId = threadId := by
  rw [listByThreadId, (orders.oldestFirst.perm _).mem_iff, rowsOfThread, List.mem_filter,
    Dict.get_some_iff, decide_eq_true_eq]

theorem listByThreadId_nodup (orders : Orders) (store : Store) (threadId : ThreadId) :
    ((listByThreadId orders store threadId).map Prod.fst).Nodup := by
  refine (((orders.oldestFirst.perm _).map Prod.fst).nodup_iff).mpr ?_
  exact store.messages.distinct.sublist (List.filter_sublist.map Prod.fst)

/-- A row is found among the rows of its thread. -/
theorem find_listByThreadId (messageId : MessageId) :
    Dict.find messageId (listByThreadId orders store threadId) =
      (store.messages.get messageId).filter fun row => decide (row.threadId = threadId) := by
  refine Option.ext fun row => ?_
  rw [Dict.find_some_iff _ _ _ (listByThreadId_nodup orders store threadId), mem_listByThreadId,
    Option.filter_eq_some_iff, decide_eq_true_eq]

/-- The walk's table is the parent table of the thread. -/
theorem parentAmong_eq (orders : Orders) (store : Store) (threadId : ThreadId) :
    parentAmong (listByThreadId orders store threadId) = (view store).links threadId := by
  funext messageId
  simp only [parentAmong, find_listByThreadId, Tree.links, view]
  cases store.messages.get messageId with
  | none => rfl
  | some row =>
    by_cases home : row.threadId = threadId
    · simp [Option.filter, nodeOf, home]
    · simp [Option.filter, nodeOf, home]

/-- The messages of a chain are rows of the thread. -/
theorem chain_length_le {start : Option MessageId} {trail : List MessageId}
    (chain : Chain ((view store).links threadId) start trail) :
    trail.length ≤ (listByThreadId orders store threadId).length := by
  have among : trail ⊆ (listByThreadId orders store threadId).map Prod.fst := by
    intro messageId member
    obtain ⟨parent, stored⟩ := chain.stored member
    rw [← parentAmong_eq orders, parentAmong, Option.map_eq_some_iff] at stored
    obtain ⟨row, found, _⟩ := stored
    rw [Dict.find_some_iff _ _ _ (listByThreadId_nodup orders store threadId)] at found
    exact List.mem_map.mpr ⟨_, found, rfl⟩
  have bound := (List.subperm_of_subset chain.nodup among).length_le
  rwa [List.length_map] at bound

/-- The listed path is the chain of the leaf, oldest message first. -/
theorem listBranchPath_chain (orders : Orders) {leaf : Option MessageId} {trail : List MessageId}
    (chain : Chain ((view store).links threadId) leaf trail) :
    (listBranchPath orders store threadId leaf).map Prod.fst = trail.reverse := by
  cases leaf with
  | none =>
    cases chain
    rfl
  | some messageId =>
    have walked : follow (parentAmong (listByThreadId orders store threadId))
        (listByThreadId orders store threadId).length [] (some messageId) = trail := by
      rw [parentAmong_eq]
      exact follow_chain chain (chain_length_le chain) fun _ _ => List.not_mem_nil
    simp only [listBranchPath, walked, List.map_reverse, List.map_filterMap]
    congr 1
    have kept : ∀ id ∈ trail, ((Dict.find id (listByThreadId orders store threadId)).map
        fun row => (id, row)).map Prod.fst = some id := by
      intro id member
      obtain ⟨parent, stored⟩ := chain.stored member
      rw [← parentAmong_eq orders, parentAmong, Option.map_eq_some_iff] at stored
      obtain ⟨row, found, _⟩ := stored
      rw [found]
      rfl
    exact (List.filterMap_congr kept).trans List.filterMap_some

theorem mem_listBranchPath_iff (orders : Orders) {leaf : Option MessageId} {messageId : MessageId}
    (grounded : Grounded (view store)) (home : (view store).LeafHome threadId leaf) :
    messageId ∈ (listBranchPath orders store threadId leaf).map Prod.fst ↔
      OnPath (view store) threadId leaf messageId := by
  obtain ⟨trail, chain⟩ := grounded.chain home
  rw [listBranchPath_chain orders chain, List.mem_reverse]
  constructor
  · exact fun member => ⟨trail, chain, member⟩
  · rintro ⟨other, also, member⟩
    rwa [also.unique chain] at member

/-- A thread that stands at a message shows the path to it. -/
theorem listMessages_leaf {active : Option BranchId} {leaf : MessageId} {trail : List MessageId}
    (tip : (view store).tip threadId = some ⟨active, some leaf⟩)
    (chain : Chain ((view store).links threadId) (some leaf) trail) :
    (listMessagesForThread orders store threadId).map Prod.fst = trail.reverse := by
  simp only [view, Option.map_eq_some_iff] at tip
  obtain ⟨thread, found, same⟩ := tip
  have stands : thread.currentLeafMessageId = some leaf := congrArg Tip.leaf same
  have path := listBranchPath_chain orders chain
  have shown : listBranchPath orders store threadId (some leaf) ≠ [] := by
    intro empty
    rw [empty] at path
    cases chain
    simp at path
  simp only [listMessagesForThread, found, Option.bind_some, stands, List.isEmpty_iff, if_neg shown,
    path]

/-- A thread that stands nowhere shows every message it has. -/
theorem listMessages_flat {active : Option BranchId}
    (tip : (view store).tip threadId = some ⟨active, none⟩) :
    listMessagesForThread orders store threadId = listByThreadId orders store threadId := by
  simp only [view, Option.map_eq_some_iff] at tip
  obtain ⟨thread, found, same⟩ := tip
  have stands : thread.currentLeafMessageId = none := congrArg Tip.leaf same
  simp only [listMessagesForThread, found, Option.bind_some, stands]

/-- The messages a thread has, as rows. -/
theorem mem_flat_iff {messageId : MessageId} :
    messageId ∈ (listByThreadId orders store threadId).map Prod.fst ↔
      (view store).InThread threadId messageId := by
  simp only [List.mem_map, Prod.exists, exists_and_right, exists_eq_right, mem_listByThreadId,
    Tree.InThread, view, Option.map_eq_some_iff]
  constructor
  · rintro ⟨row, found, home⟩
    exact ⟨nodeOf row, ⟨row, found, rfl⟩, home⟩
  · rintro ⟨_, ⟨row, found, rfl⟩, home⟩
    exact ⟨row, found, home⟩

theorem row_inThread {entry : MessageId × Message} (member : entry ∈ rowsOfThread store threadId) :
    (view store).InThread threadId entry.1 := by
  rw [rowsOfThread, List.mem_filter, ← Dict.get_some_iff, decide_eq_true_eq] at member
  exact ⟨nodeOf entry.2, node_found member.1, member.2⟩

theorem inThread_row {messageId : MessageId} (inThread : (view store).InThread threadId messageId) :
    ∃ row, (messageId, row) ∈ rowsOfThread store threadId := by
  obtain ⟨node, found, home⟩ := inThread
  simp only [view, Option.map_eq_some_iff] at found
  obtain ⟨row, found, rfl⟩ := found
  refine ⟨row, ?_⟩
  rw [rowsOfThread, List.mem_filter, ← Dict.get_some_iff, decide_eq_true_eq]
  exact ⟨found, home⟩

theorem rows_empty_iff : rowsOfThread store threadId = [] ↔
    ∀ messageId, ¬ (view store).InThread threadId messageId := by
  constructor
  · intro empty messageId inThread
    obtain ⟨row, member⟩ := inThread_row inThread
    rw [empty] at member
    cases member
  · intro none_there
    exact List.eq_nil_iff_forall_not_mem.mpr fun entry member =>
      none_there entry.1 (row_inThread member)

/-- What the service lists is what the thread displays. -/
theorem mem_listMessages_iff (orders : Orders) {active : Option BranchId} {leaf : Option MessageId}
    {messageId : MessageId} (homed : Homed (view store)) (grounded : Grounded (view store))
    (tip : (view store).tip threadId = some ⟨active, leaf⟩) :
    messageId ∈ (listMessagesForThread orders store threadId).map Prod.fst ↔
      Displays (view store) threadId leaf messageId := by
  cases leaf with
  | none => rw [listMessages_flat tip, mem_flat_iff, Displays]
  | some leaf =>
    obtain ⟨trail, chain⟩ := grounded.chain (homed.tipLeaf tip)
    rw [listMessages_leaf tip chain, ← listBranchPath_chain orders chain,
      mem_listBranchPath_iff orders grounded (homed.tipLeaf tip), Displays]

end

end MeetYou.VersionPaths
