import MeetYou.VersionPaths

/-!
# Writers that create and attach their messages

Several writers each create a message and attach it later, and the version
operations come in between. The parents of a thread stay a forest exactly when no
attached message hangs below itself.

A writer may hang its message below itself because the default branch of a thread
that has none ends with the last created message, attached or not: the message
attached first hangs below that one, and attaching that one closes the cycle.
-/

namespace MeetYou.ConversationForest

open ConversationStore VersionTree VersionMoves VersionPaths ParentChains Runs

/-- The parent of a stored message. -/
def parentOf (store : Store) (messageId : MessageId) : Option (Option MessageId) :=
  (store.messages.get messageId).map Message.parentMessageId

/-- From every message the parents lead to a message without parent, repeat no
message and stay in its thread. -/
def ParentsForest (store : Store) : Prop :=
  ∀ messageId row, store.messages.get messageId = some row →
    ∃ trail, Chain (parentOf store) (some messageId) trail ∧ trail.Nodup ∧
      ∀ met ∈ trail, ∃ other, store.messages.get met = some other ∧ other.threadId = row.threadId

/-- The leaf an attached message of the thread meets: the thread's leaf, or the
last created message while the thread has no branch. -/
def leafToMeet (orders : Orders) (store : Store) (threadId : ThreadId) : Option MessageId :=
  match (store.threads.get threadId).bind Thread.activeBranchId with
  | none => lastMessageForThread orders store threadId
  | some _ => (store.threads.get threadId).bind Thread.currentLeafMessageId

/-- An attached message without parent, unless it is the leaf itself, is not on the
path to the leaf. -/
def HangsClear (store : Store) : Orders × Action → Prop
  | (orders, .attach messageId _) => ∀ row, store.messages.get messageId = some row →
      row.parentMessageId = none → leafToMeet orders store row.threadId ≠ some messageId →
        messageId ∉ (listBranchPath orders store row.threadId
          (leafToMeet orders store row.threadId)).map Prod.fst
  | _ => True

section
variable {orders : Orders} {store next : Store}

/-- The rows form a forest inside their threads when the pointer tree does. -/
theorem parentsForest_iff : ParentsForest store ↔ Grounded (view store) := by
  constructor
  · intro forest threadId messageId parent stored
    obtain ⟨node, found, home, _⟩ := Tree.links_some_iff.mp stored
    simp only [view, Option.map_eq_some_iff] at found
    obtain ⟨row, found, rfl⟩ := found
    obtain ⟨trail, chain, _, together⟩ := forest messageId row found
    refine ⟨trail, chain.congr fun met member => ?_⟩
    obtain ⟨other, otherFound, otherHome⟩ := together met member
    have here : other.threadId = threadId := otherHome.trans home
    simp [Tree.links, view, parentOf, otherFound, nodeOf, here]
  · intro grounded messageId row found
    obtain ⟨trail, chain⟩ := grounded row.threadId messageId row.parentMessageId
      (links_of_node (node_found found))
    have together : ∀ met ∈ trail, ∃ other, store.messages.get met = some other ∧
        other.threadId = row.threadId := by
      intro met member
      obtain ⟨parent, stored⟩ := chain.stored member
      obtain ⟨node, metFound, home, _⟩ := Tree.links_some_iff.mp stored
      simp only [view, Option.map_eq_some_iff] at metFound
      obtain ⟨other, metFound, rfl⟩ := metFound
      exact ⟨other, metFound, home⟩
    refine ⟨trail, chain.congr fun met member => ?_, chain.nodup, together⟩
    obtain ⟨other, metFound, home⟩ := together met member
    simp [Tree.links, view, parentOf, metFound, nodeOf, home]

/-- The leaf a prepared thread stands at is the leaf to meet. -/
theorem leafToMeet_eq {prepared : Tree} {threadId : ThreadId} {defaultBranchId active : BranchId}
    {leaf : Option MessageId} (preparing : Prepared (view store) threadId defaultBranchId
      (lastMessageForThread orders store threadId) prepared)
    (tip : prepared.tip threadId = some ⟨some active, leaf⟩) :
    leafToMeet orders store threadId = leaf := by
  cases preparing with
  | present _ =>
    simp only [view, Option.map_eq_some_iff] at tip
    obtain ⟨thread, found, same⟩ := tip
    have isActive : thread.activeBranchId = some active := congrArg Tip.active same
    have stands : thread.currentLeafMessageId = leaf := congrArg Tip.leaf same
    simp [leafToMeet, found, isActive, stands]
  | made idle _ =>
    simp only [view, Option.map_eq_some_iff] at idle
    obtain ⟨thread, found, same⟩ := idle
    have inactive : thread.activeBranchId = none := congrArg Tip.active same
    have stands := congrArg (Option.map Tip.leaf) tip
    simp only [Tree.opened, Tree.tip_putTip, if_true, Option.map_some, Option.some.injEq] at stands
    simp [leafToMeet, found, inactive, stands]

/-- An attached message keeps the forest exactly when it hangs clear. -/
theorem attach_grounded_iff {messageId : MessageId} {draws : Draws} {row : Message}
    {result : Option MessageId} (homed : Homed (view store)) (grounded : Grounded (view store))
    (found : store.messages.get messageId = some row)
    (attached : attachMessageToActiveBranch orders store row.threadId messageId draws =
      some (next, result)) :
    Grounded (view next) ↔ HangsClear store (orders, .attach messageId draws) := by
  obtain ⟨prepared, active, leaf, preparing, tip, marked⟩ :=
    attach_spec homed (node_found found) rfl attached
  have nodes : (view next).node =
      (prepared.attached row.threadId active leaf messageId (nodeOf row)).node := by
    rcases marked with ⟨_, after⟩ | ⟨_, after⟩ <;> rw [after] <;> rfl
  have sameForest : Grounded (view next) ↔
      Grounded (prepared.attached row.threadId active leaf messageId (nodeOf row)) :=
    ⟨fun holds => holds.congr nodes.symm, fun holds => holds.congr nodes⟩
  have sameParents : prepared.links row.threadId = (view store).links row.threadId :=
    links_congr preparing.node
  obtain ⟨upper, above⟩ := (grounded.congr preparing.node).chain
    ((preparing.homed homed).tipLeaf tip)
  have stored : prepared.node messageId = some (nodeOf row) := by
    rw [preparing.node]
    exact node_found found
  have path : (listBranchPath orders store row.threadId leaf).map Prod.fst = upper.reverse :=
    listBranchPath_chain orders (sameParents ▸ above)
  refine sameForest.trans (((grounded.congr preparing.node).attached_iff stored above).trans ?_)
  have meets : leafToMeet orders store row.threadId = leaf := leafToMeet_eq preparing tip
  simp only [HangsClear, found, Option.some.injEq, forall_eq', meets, path, List.mem_reverse]
  rfl

/-- Any other operation keeps the forest. -/
theorem applied_grounded {change : Change} (homed : Homed (view store))
    (grounded : Grounded (view store)) (taken : applied orders store change = some next) :
    Grounded (view next) := by
  cases change with
  | createThread threadId metadata =>
    exact grounded.congr (by rw [(view_createThread taken).2]; rfl)
  | listBranches threadId draws =>
    simp only [applied, Option.map_eq_some_iff] at taken
    obtain ⟨⟨_, result⟩, listed, rfl⟩ := taken
    rcases listBranches_spec homed listed with ⟨_, after⟩ | ⟨_, _, preparing⟩
    · exact after ▸ grounded
    · exact grounded.congr preparing.node
  | createCheckpoint threadId title checkpointType metadata draws =>
    simp only [applied, Option.map_eq_some_iff] at taken
    obtain ⟨⟨_, result⟩, created, rfl⟩ := taken
    rcases createCheckpoint_spec homed created with ⟨_, after⟩ |
      ⟨prepared, _, _, _, preparing, _, _, _, after⟩
    · exact after ▸ grounded
    · exact grounded.congr (by rw [after]; exact preparing.node)
  | restoreCheckpoint threadId checkpointId =>
    cases Option.some.inj taken
    have spec := restoreCheckpoint_spec store threadId checkpointId
    cases found : (view store).markIn threadId checkpointId with
    | none =>
      rw [found] at spec
      exact spec ▸ grounded
    | some mark =>
      rw [found] at spec
      obtain ⟨_, _, after⟩ := spec
      exact grounded.congr (by rw [after]; rfl)
  | checkoutCheckpoint threadId checkpointId title draws =>
    simp only [applied, Option.map_eq_some_iff] at taken
    obtain ⟨⟨_, result⟩, checked, rfl⟩ := taken
    have spec := checkoutCheckpoint_spec checked
    cases found : (view store).markIn threadId checkpointId with
    | none =>
      rw [found] at spec
      exact spec ▸ grounded
    | some mark =>
      rw [found] at spec
      exact grounded.congr (by rw [spec.2]; rfl)
  | activateBranch threadId branchId =>
    cases Option.some.inj taken
    have spec := activateBranch_spec store threadId branchId
    cases found : (view store).branchIn threadId branchId with
    | none =>
      rw [found] at spec
      exact spec ▸ grounded
    | some branchEnd =>
      rw [found] at spec
      exact grounded.congr (by rw [spec]; rfl)
  | editRetry messageId edit draws =>
    simp only [applied, Option.map_eq_some_iff] at taken
    obtain ⟨⟨_, result⟩, edited, rfl⟩ := taken
    have spec := editRetry_spec homed edited
    cases found : (view store).userNode messageId with
    | none =>
      rw [found] at spec
      exact spec ▸ grounded
    | some node =>
      rw [found] at spec
      obtain ⟨prepared, preparing, _, fresh, _, after⟩ := spec
      have stored : (view store).node messageId = some node :=
        (Option.filter_eq_some_iff.mp found).1
      have copied : Grounded ((view store).putNode draws.messageId (editedNode node draws)) :=
        grounded.putFresh fresh (homed.nodeHome messageId node stored).2
      refine copied.congr ?_
      rw [after]
      funext tested
      simp [Tree.revised, Tree.opened, preparing.node]

/-- A step keeps the forest exactly when the message it attaches, if any, hangs
clear. -/
theorem step_grounded_iff {action : Orders × Action} (homed : Homed (view store))
    (grounded : Grounded (view store)) (taken : step store action = some next) :
    Grounded (view next) ↔ HangsClear store action := by
  obtain ⟨orders, action⟩ := action
  cases action with
  | createMessage message draws =>
    obtain ⟨_, fresh, after⟩ := view_createMessage taken
    refine iff_of_true ?_ trivial
    rw [after]
    exact grounded.putFresh fresh fun _ isParent => (nomatch isParent)
  | attach messageId draws =>
    simp only [step, Option.bind_eq_some_iff, Option.map_eq_some_iff] at taken
    obtain ⟨row, found, ⟨_, result⟩, attached, rfl⟩ := taken
    exact attach_grounded_iff homed grounded found attached
  | change change => exact iff_of_true (applied_grounded homed grounded taken) trivial

theorem start_grounded : Grounded (view Store.start) := by
  intro threadId messageId parent stored
  obtain ⟨node, found, _⟩ := Tree.links_some_iff.mp stored
  cases found

end

/-- Through every run of writers and version operations the parents stay a forest
exactly when every message that is attached hangs clear of itself. -/
theorem parents_forest_iff_attached_clear (actions : List (Orders × Action)) :
    Throughout step ParentsForest Store.start actions ↔
      Taking step HangsClear Store.start actions := by
  refine throughout_iff_taking (fun store => Homed (view store) ∧ Grounded (view store)) ?_ ?_
    ⟨start_homed, start_grounded⟩ (parentsForest_iff.mpr start_grounded) actions
  · rintro store action next ⟨homed, _⟩ taken forest
    exact ⟨step_homed homed taken, parentsForest_iff.mp forest⟩
  · rintro store action next ⟨homed, grounded⟩ taken
    rw [parentsForest_iff]
    exact step_grounded_iff homed grounded taken

/-- Two writers of a new thread both create their message before either attaches. -/
def crossedWriters : List (Orders × Action) :=
  [.change (.createThread "t" Dict.empty),
    .createMessage ⟨"t", none, "user", "message", "first", "text", "completed", none, none, none,
      Dict.empty⟩ { messageId := "a", messageUtcnow := 1 },
    .createMessage ⟨"t", none, "user", "message", "second", "text", "completed", none, none, none,
      Dict.empty⟩ { messageId := "b", messageUtcnow := 2 },
    .attach "a" { defaultBranchId := "main", checkpointId := "c" },
    .attach "b" { checkpointId := "d" }].map fun action => (Orders.positions, action)

/-- Two messages that name each other as parent lie on no forest. -/
theorem not_forest_of_mutual {store : Store} {first second : MessageId}
    (forth : parentOf store first = some (some second))
    (back : parentOf store second = some (some first)) : ¬ ParentsForest store := by
  intro forest
  obtain ⟨row, found, _⟩ := Option.map_eq_some_iff.mp forth
  obtain ⟨trail, chain, _⟩ := forest first row found
  cases chain with
  | link stored above =>
    rw [forth] at stored
    cases stored
    cases above with
    | link storedAbove rest =>
      rw [back] at storedAbove
      cases storedAbove
      have absurdLength := congrArg List.length (rest.unique (.link forth (.link back rest)))
      simp only [List.length_cons] at absurdLength
      omega

/-- The first message hangs below the second, and the second below the first. -/
theorem crossed_writers_close_a_cycle :
    ¬ Throughout step ParentsForest Store.start crossedWriters := by
  intro throughout
  have closes : (run step Store.start crossedWriters).map
      (fun store => (parentOf store "a", parentOf store "b")) =
        some (some (some "b"), some (some "a")) := by decide
  obtain ⟨final, completed, parents⟩ := Option.map_eq_some_iff.mp closes
  obtain ⟨forth, back⟩ := Prod.mk.inj parents
  exact not_forest_of_mutual forth back (throughout.final completed)

end MeetYou.ConversationForest
