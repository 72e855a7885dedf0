import Mathlib
import MeetYou.Foundation.Leaders
import MeetYou.Foundation.OrderBy
import MeetYou.Foundation.Groups
import MeetYou.Foundation.Runs
import MeetYou.Foundation.Text
import MeetYou.Foundation.Values

/-!
# The context pool

Every message and tool result of a principal is added to the context pool, and each addition prunes
the pool to a number of active items. A pruned item stays in its table, marked as pruned. A pruning
looks at the active items only. What is active in the end are nevertheless the most important of all
items that were ever added, the newer ones first where they are as important.

An addition is one transaction, and the database lists items of one time in any order.
-/

namespace MeetYou.ContextPool

open Runs Text Leaders

/-- The statuses of an item. -/
inductive ItemStatus
  | active
  | pruned
deriving DecidableEq

/-- A row of `context_pool_items`. An importance is a finite floating-point number. -/
structure ContextPoolItem where
  id : Nat
  principalId : Nat
  itemType : String
  role : String
  content : String
  canonicalText : String
  importance : Rat
  status : ItemStatus
  createdAt : Instant
  metadata : Fields

/-- What a caller adds. -/
structure NewItem where
  principalId : Nat
  content : String
  itemType : String
  role : String
  importance : Rat
  metadata : Fields

/-- How the database orders by `created_at.desc()`. -/
structure Database where
  newestFirst : OrderBy fun item : ContextPoolItem => OrderDual.toDual item.createdAt

/-- The service with the functions it was made with. -/
structure Service where
  /-- `max_active_items_per_principal`, as the service is made with it. -/
  maxActiveItemsPerPrincipal : Int
  canonicalize : String → String

/-- `max(1, int(given or 500))` -/
def Service.limit (service : Service) : Nat :=
  (max 1 (if service.maxActiveItemsPerPrincipal = 0 then 500
    else service.maxActiveItemsPerPrincipal)).toNat

/-! ## Adding -/

/-- `MAX_CONTEXT_POOL_CONTENT_CHARS` -/
def maxContextPoolContentChars : Nat := 6000

/-- What stands at the end of a cut content. -/
def truncatedMark : String := "\n...[truncated]"

/-- `_bounded_text` -/
def boundedText (value : String) : String :=
  let text := (strip value).toList
  if text.length ≤ maxContextPoolContentChars then String.ofList text
  else
    String.ofList ((text.take (maxContextPoolContentChars - 20)).rdropWhile isSpace ++
      truncatedMark.toList)

/-- `max(0.0, min(1.0, float(importance or 0.5)))` -/
def clampImportance (importance : Rat) : Rat :=
  max 0 (min 1 (if importance = 0 then 1 / 2 else importance))

/-- The row that `add_item` creates. -/
def makeItem (service : Service) (id : Nat) (createdAt : Instant) (given : NewItem) :
    ContextPoolItem :=
  let text := boundedText (strip given.content)
  { id
    principalId := given.principalId
    itemType := orElse (strip (orElse given.itemType "turn")) "turn"
    role := strip given.role
    content := text
    canonicalText := service.canonicalize text
    importance := clampImportance given.importance
    status := .active
    createdAt
    metadata := given.metadata }

/-- An active item of a principal. -/
def isActive (principal : Nat) (item : ContextPoolItem) : Bool :=
  decide (item.principalId = principal) && decide (item.status = .active)

/-- `list_active_for_principal` -/
def listActiveForPrincipal (database : Database) (rows : List ContextPoolItem) (principal : Nat) :
    List ContextPoolItem :=
  database.newestFirst.sort (rows.filter (isActive principal))

/-- What a pruning ranks by. -/
def ContextPoolItem.rank (item : ContextPoolItem) : Rat ×ₗ Instant :=
  toLex (item.importance, item.createdAt)

/-- A row is marked as pruned. -/
def ContextPoolItem.prune (prunedAt : String) (item : ContextPoolItem) : ContextPoolItem :=
  { item with
    status := .pruned
    metadata := item.metadata.update (Fields.of
      [("pruned_reason", .str "context_pool_window"), ("pruned_at", .str prunedAt)]) }

/-- `prune_for_principal` -/
def pruneForPrincipal (database : Database) (limit : Nat) (prunedAt : String) (principal : Nat)
    (rows : List ContextPoolItem) : List ContextPoolItem :=
  let listed := listActiveForPrincipal database rows principal
  if listed.length ≤ limit then rows
  else
    let ranked := Groups.ranked ContextPoolItem.rank listed
    let keepIds := (ranked.take limit).map ContextPoolItem.id
    rows.map fun row =>
      if isActive principal row && !keepIds.contains row.id then row.prune prunedAt else row

/-- An addition, with the row's key and the readings of the clock. -/
structure Addition where
  given : NewItem
  id : Nat
  createdAt : Instant
  prunedAt : String

/-- `add_item`. A key that is taken fails the transaction. -/
def addItem (database : Database) (service : Service) (rows : List ContextPoolItem)
    (addition : Addition) : Option (List ContextPoolItem) :=
  if strip addition.given.content = "" then some rows
  else if (rows.map ContextPoolItem.id).contains addition.id then none
  else
    let created := makeItem service addition.id addition.createdAt addition.given
    some (pruneForPrincipal database service.limit addition.prunedAt addition.given.principalId
      (rows ++ [created]))

/-- The machine of the pool. -/
def step (database : Database) (service : Service) :
    List ContextPoolItem → Addition → Option (List ContextPoolItem) :=
  addItem database service

/-! ## What the pool keeps -/

/-- The ranks of a principal's items of one status. -/
def ranks (rows : List ContextPoolItem) (principal : Nat) (status : ItemStatus) :
    List (Rat ×ₗ Instant) :=
  (rows.filter fun row => decide (row.principalId = principal) && decide (row.status = status)).map
    ContextPoolItem.rank

/-- Of every principal the best items are active, as many as there is room for, and the others are
pruned. -/
structure KeepsBest (limit : Nat) (rows : List ContextPoolItem) : Prop where
  length : ∀ principal, (ranks rows principal .active).length =
    min limit (rows.filter fun row => decide (row.principalId = principal)).length
  above : ∀ row ∈ rows, ∀ lost ∈ rows, row.principalId = lost.principalId →
    row.status = .active → lost.status = .pruned → lost.rank ≤ row.rank
  bounded : ∀ row ∈ rows, row.content ≠ "" ∧
    row.content.toList.length ≤ maxContextPoolContentChars ∧ 0 ≤ row.importance ∧
      row.importance ≤ 1

/-! ## A pruning -/

section
variable {α : Type} {key : α → Nat} {ranked : List α}

/-- The front of a list without repeated keys is known by its keys. -/
theorem filter_keys_take (distinct : (ranked.map key).Nodup) (limit : Nat) :
    (ranked.filter fun item => ((ranked.take limit).map key).contains (key item)) =
      ranked.take limit := by
  have parts := List.take_append_drop limit ranked
  rw [← parts, List.map_append] at distinct
  obtain ⟨_, _, apart⟩ := List.nodup_append.mp distinct
  conv_lhs => arg 2; rw [← parts]
  rw [List.filter_append, List.filter_eq_self.mpr, List.filter_eq_nil_iff.mpr, List.append_nil]
  · intro item behind taken
    have front := List.contains_iff_mem.mp taken
    exact apart _ front _ (List.mem_map_of_mem behind) rfl
  · intro item front
    exact List.contains_iff_mem.mpr (List.mem_map_of_mem front)

/-- What is behind the front has other keys. -/
theorem filter_keys_drop (distinct : (ranked.map key).Nodup) (limit : Nat) :
    (ranked.filter fun item => !((ranked.take limit).map key).contains (key item)) =
      ranked.drop limit := by
  have parts := List.take_append_drop limit ranked
  rw [← parts, List.map_append] at distinct
  obtain ⟨_, _, apart⟩ := List.nodup_append.mp distinct
  conv_lhs => arg 2; rw [← parts]
  rw [List.filter_append, List.filter_eq_nil_iff.mpr, List.filter_eq_self.mpr, List.nil_append]
  · intro item behind
    rw [Bool.not_eq_true', ← Bool.not_eq_true, List.contains_iff_mem]
    exact fun front => apart _ front _ (List.mem_map_of_mem behind) rfl
  · intro item front outside
    rw [List.contains_iff_mem.mpr (List.mem_map_of_mem front)] at outside
    cases outside

end

section
variable {principal : Nat} {keeps : ContextPoolItem → Bool} {prunedAt : String}

/-- A row is marked, unless it is kept. -/
def mark (principal : Nat) (keeps : ContextPoolItem → Bool) (prunedAt : String)
    (row : ContextPoolItem) : ContextPoolItem :=
  if isActive principal row && !keeps row then row.prune prunedAt else row

theorem mark_kept (row : ContextPoolItem) : (mark principal keeps prunedAt row).id = row.id ∧
    (mark principal keeps prunedAt row).principalId = row.principalId ∧
    (mark principal keeps prunedAt row).rank = row.rank ∧
    (mark principal keeps prunedAt row).content = row.content ∧
    (mark principal keeps prunedAt row).importance = row.importance := by
  unfold mark
  split <;> exact ⟨rfl, rfl, rfl, rfl, rfl⟩

/-- The items of another principal keep their status. -/
theorem ranks_mark_ne {other : Nat} (different : other ≠ principal) (status : ItemStatus)
    (rows : List ContextPoolItem) :
    ranks (rows.map (mark principal keeps prunedAt)) other status = ranks rows other status := by
  induction rows with
  | nil => rfl
  | cons row rest inductionHypothesis =>
    unfold ranks at inductionHypothesis ⊢
    by_cases mine : row.principalId = principal
    · have outside : ∀ item : ContextPoolItem, item.principalId = principal →
          (decide (item.principalId = other) && decide (item.status = status)) = false := by
        intro item same
        rw [same, decide_eq_false (Ne.symm different), Bool.false_and]
      rw [List.map_cons, List.filter_cons_of_neg, List.filter_cons_of_neg]
      · exact inductionHypothesis
      · rw [outside row mine]
        exact Bool.false_ne_true
      · rw [outside _ ((mark_kept row).2.1.trans mine)]
        exact Bool.false_ne_true
    · have same : mark principal keeps prunedAt row = row := by
        unfold mark isActive
        rw [decide_eq_false mine]
        rfl
      rw [List.map_cons, same, List.filter_cons, List.filter_cons]
      split
      · rw [List.map_cons, List.map_cons, inductionHypothesis]
      · exact inductionHypothesis

/-- The active items behind a pruning are those it keeps. -/
theorem ranks_mark_active (rows : List ContextPoolItem) :
    ranks (rows.map (mark principal keeps prunedAt)) principal .active =
      ((rows.filter (isActive principal)).filter keeps).map ContextPoolItem.rank := by
  induction rows with
  | nil => rfl
  | cons row rest inductionHypothesis =>
    unfold ranks at inductionHypothesis ⊢
    change ((rest.map _).filter (isActive principal)).map _ = _ at inductionHypothesis
    change ((List.map _ (row :: rest)).filter (isActive principal)).map _ = _
    rw [List.map_cons, List.filter_cons, List.filter_cons]
    unfold mark
    cases active : isActive principal row with
    | false =>
      rw [Bool.false_and, if_neg Bool.false_ne_true, active]
      exact inductionHypothesis
    | true =>
      rw [if_pos rfl, List.filter_cons]
      cases kept : keeps row with
      | true =>
        rw [show (true && !true) = false from rfl, if_neg Bool.false_ne_true, active, if_pos rfl,
          if_pos rfl, List.map_cons, List.map_cons, ← inductionHypothesis]
        rfl
      | false =>
        have idle : isActive principal (row.prune prunedAt) = false := by
          unfold isActive
          exact Bool.and_false _
        rw [show (true && !false) = true from rfl, if_pos rfl, idle]
        exact inductionHypothesis

/-- The pruned items behind a pruning are those before and those it does not keep. -/
theorem ranks_mark_pruned (rows : List ContextPoolItem) :
    (ranks (rows.map (mark principal keeps prunedAt)) principal .pruned).Perm
      (((rows.filter (isActive principal)).filter fun row => !keeps row).map
        ContextPoolItem.rank ++ ranks rows principal .pruned) := by
  induction rows with
  | nil => exact .nil
  | cons row rest inductionHypothesis =>
    unfold ranks at inductionHypothesis ⊢
    rw [List.map_cons, List.filter_cons, List.filter_cons]
    unfold mark
    cases active : isActive principal row with
    | false =>
      rw [Bool.false_and, if_neg Bool.false_ne_true, if_neg Bool.false_ne_true]
      rw [List.filter_cons]
      split
      · rw [List.map_cons, List.map_cons]
        exact (inductionHypothesis.cons _).trans List.perm_middle.symm
      · exact inductionHypothesis
    | true =>
      have mine := Bool.and_eq_true_iff.mp active
      have going : (decide (row.principalId = principal) && decide (row.status = .pruned)) = false
          := by
        rw [of_decide_eq_true mine.2]
        exact Bool.and_false _
      rw [if_pos rfl, List.filter_cons, List.filter_cons, going, if_neg Bool.false_ne_true]
      cases kept : keeps row with
      | true =>
        rw [show (true && !true) = false from rfl, if_neg Bool.false_ne_true, going,
          if_neg Bool.false_ne_true, Bool.not_true, if_neg Bool.false_ne_true]
        exact inductionHypothesis
      | false =>
        have gone : (decide ((row.prune prunedAt).principalId = principal) &&
            decide ((row.prune prunedAt).status = .pruned)) = true := by
          rw [show (row.prune prunedAt).principalId = row.principalId from rfl, mine.1]
          rfl
        rw [show (true && !false) = true from rfl, if_pos rfl, gone, if_pos rfl, Bool.not_false,
          if_pos rfl]
        exact inductionHypothesis.cons _

end

/-! ## An addition -/

section
variable {database : Database} {service : Service} {rows next : List ContextPoolItem}

/-- What holds between additions. -/
structure Sound (limit : Nat) (rows : List ContextPoolItem) : Prop where
  distinct : (rows.map ContextPoolItem.id).Nodup
  leading : ∀ principal, Leading limit (ranks rows principal .active) (ranks rows principal .pruned)
  bounded : ∀ row ∈ rows, row.content ≠ "" ∧
    row.content.toList.length ≤ maxContextPoolContentChars ∧ 0 ≤ row.importance ∧
      row.importance ≤ 1

theorem sound_nil (limit : Nat) : Sound limit [] where
  distinct := List.nodup_nil
  leading := fun _ => leading_nil limit
  bounded := by
    intro row member
    cases member

/-- A row that joins the others joins the active ones of its principal. -/
theorem ranks_append (rows : List ContextPoolItem) (created : ContextPoolItem) (principal : Nat)
    (status : ItemStatus) :
    ranks (rows ++ [created]) principal status = ranks rows principal status ++
      if created.principalId = principal ∧ created.status = status then [created.rank] else [] := by
  unfold ranks
  rw [List.filter_append, List.map_append]
  by_cases mine : created.principalId = principal ∧ created.status = status
  · rw [if_pos mine, List.filter_cons_of_pos (by simpa using mine)]
    rfl
  · rw [if_neg mine, List.filter_cons_of_neg (by simpa using mine)]
    rfl

/-- The items that a pruning looks at, from the best on, are the active ones. -/
theorem ranked_perm (rows : List ContextPoolItem) (principal : Nat) :
    (Groups.ranked ContextPoolItem.rank (listActiveForPrincipal database rows principal)).Perm
      (rows.filter (isActive principal)) :=
  (List.mergeSort_perm _ _).trans (database.newestFirst.perm _)

/-- They stand in the order of their ranks. -/
theorem ranked_sorted (listed : List ContextPoolItem) :
    ((Groups.ranked ContextPoolItem.rank listed).map ContextPoolItem.rank).Pairwise
      fun first second => second ≤ first := by
  refine List.pairwise_map.mpr ?_
  have sorted := @List.pairwise_mergeSort _
    (fun row other : ContextPoolItem => decide (other.rank ≤ row.rank)) ?_ ?_ listed
  · exact sorted.imp of_decide_eq_true
  · intro a b c ab bc
    exact decide_eq_true (le_trans (of_decide_eq_true bc) (of_decide_eq_true ab))
  · intro a b
    rw [Bool.or_eq_true, decide_eq_true_eq, decide_eq_true_eq]
    exact le_total _ _

/-- A pruning leaves all rows, or marks those it does not keep. -/
theorem pruneForPrincipal_cases (limit : Nat) (prunedAt : String) (principal : Nat)
    (rows : List ContextPoolItem) :
    pruneForPrincipal database limit prunedAt principal rows = rows ∨
      ∃ keeps, pruneForPrincipal database limit prunedAt principal rows =
        rows.map (mark principal keeps prunedAt) := by
  unfold pruneForPrincipal
  dsimp only
  split
  · exact Or.inl rfl
  · exact Or.inr ⟨fun row => List.contains _ row.id, rfl⟩

/-- A pruning keeps the best of the active items and leaves the other principals alone. -/
theorem pruneForPrincipal_leading {limit : Nat} {prunedAt : String} {principal : Nat}
    (distinct : (rows.map ContextPoolItem.id).Nodup) :
    ∃ kept cut : List (Rat ×ₗ Instant),
      Leading limit kept cut ∧ (kept ++ cut).Perm (ranks rows principal .active) ∧
      (ranks (pruneForPrincipal database limit prunedAt principal rows) principal .active).Perm
        kept ∧
      (ranks (pruneForPrincipal database limit prunedAt principal rows) principal .pruned).Perm
        (cut ++ ranks rows principal .pruned) ∧
      ∀ other ≠ principal, ∀ status,
        ranks (pruneForPrincipal database limit prunedAt principal rows) other status =
          ranks rows other status := by
  set listed := listActiveForPrincipal database rows principal with named
  set ranked := Groups.ranked ContextPoolItem.rank listed with ordered
  have same : ranked.Perm (rows.filter (isActive principal)) := ranked_perm rows principal
  have sorted := ranked_sorted listed
  have unique : (ranked.map ContextPoolItem.id).Nodup := by
    refine ((same.map _).nodup_iff).mpr ?_
    exact distinct.sublist (List.filter_sublist.map _)
  by_cases fits : listed.length ≤ limit
  · have unpruned : pruneForPrincipal database limit prunedAt principal rows = rows := by
      unfold pruneForPrincipal
      exact if_pos fits
    rw [unpruned]
    refine ⟨ranks rows principal .active, [], ⟨?_, by simp⟩, by simp, .refl _, .refl _,
      fun _ _ _ => rfl⟩
    have count : (ranks rows principal .active).length = listed.length := by
      rw [named, listActiveForPrincipal, (database.newestFirst.perm _).length_eq]
      exact List.length_map _
    rw [List.length_nil, count]
    omega
  · have marked : pruneForPrincipal database limit prunedAt principal rows = rows.map
        (mark principal (fun row =>
          ((ranked.take limit).map ContextPoolItem.id).contains row.id) prunedAt) := by
      unfold pruneForPrincipal
      exact if_neg fits
    rw [marked]
    refine ⟨(ranked.map ContextPoolItem.rank).take limit,
      (ranked.map ContextPoolItem.rank).drop limit, leading_take sorted limit, ?_, ?_, ?_, ?_⟩
    · rw [List.take_append_drop]
      exact same.map _
    · rw [ranks_mark_active, ← List.map_take]
      refine List.Perm.map _ ?_
      exact (same.filter _).symm.trans (.of_eq (filter_keys_take unique limit))
    · refine (ranks_mark_pruned rows).trans ?_
      refine List.Perm.append_right _ ?_
      rw [← List.map_drop]
      refine List.Perm.map _ ?_
      exact (same.filter _).symm.trans (.of_eq (filter_keys_drop unique limit))
    · exact fun other different status => ranks_mark_ne different status rows

/-- A pruning changes no row but by its mark. -/
theorem mem_pruneForPrincipal {limit : Nat} {prunedAt : String} {principal : Nat}
    {row : ContextPoolItem}
    (member : row ∈ pruneForPrincipal database limit prunedAt principal rows) :
    ∃ before ∈ rows, row.content = before.content ∧ row.importance = before.importance := by
  rcases @pruneForPrincipal_cases database limit prunedAt principal rows with
    same | ⟨keeps, same⟩
  · exact ⟨row, same ▸ member, rfl, rfl⟩
  · rw [same] at member
    obtain ⟨before, listed, rfl⟩ := List.mem_map.mp member
    exact ⟨before, listed, (mark_kept before).2.2.2⟩

theorem ids_pruneForPrincipal {limit : Nat} {prunedAt : String} {principal : Nat}
    (rows : List ContextPoolItem) :
    (pruneForPrincipal database limit prunedAt principal rows).map ContextPoolItem.id =
      rows.map ContextPoolItem.id := by
  rcases @pruneForPrincipal_cases database limit prunedAt principal rows with
    same | ⟨keeps, same⟩
  · rw [same]
  · rw [same, List.map_map]
    exact List.map_congr_left fun row _ => (mark_kept row).1

/-- A text that is cut has room for its mark. -/
theorem marked_bounded {front : List Char} (short : front.length ≤ 5980) :
    String.ofList (front ++ truncatedMark.toList) ≠ "" ∧
      (String.ofList (front ++ truncatedMark.toList)).toList.length ≤
        maxContextPoolContentChars := by
  have marked : truncatedMark.toList.length = 15 := by decide
  have length : (String.ofList (front ++ truncatedMark.toList)).toList.length =
      front.length + 15 := by
    rw [String.toList_ofList, List.length_append, marked]
  constructor
  · intro empty
    rw [empty] at length
    rw [String.toList_empty, List.length_nil] at length
    omega
  · rw [length]
    exact (Nat.add_le_add_right short 15).trans (by decide)

/-- A text that is stored is not empty and not too long. -/
theorem boundedText_bounded {value : String} (filled : strip value ≠ "") :
    boundedText value ≠ "" ∧ (boundedText value).toList.length ≤ maxContextPoolContentChars := by
  have written : (strip value).toList ≠ [] := by
    intro empty
    exact filled (String.toList_eq_nil_iff.mp empty)
  unfold boundedText
  dsimp only
  split
  case isTrue short =>
    rw [String.ofList_toList]
    exact ⟨filled, short⟩
  case isFalse =>
    refine marked_bounded ?_
    have cut := (List.rdropWhile_prefix isSpace
      (l := (strip value).toList.take (maxContextPoolContentChars - 20))).length_le
    exact cut.trans (List.length_take_le _ _)

/-- What is added is neither empty nor too long, and its importance is a share of one. -/
theorem makeItem_bounded {id : Nat} {createdAt : Instant} {given : NewItem}
    (filled : strip given.content ≠ "") :
    (makeItem service id createdAt given).content ≠ "" ∧
      (makeItem service id createdAt given).content.toList.length ≤ maxContextPoolContentChars ∧
        0 ≤ (makeItem service id createdAt given).importance ∧
          (makeItem service id createdAt given).importance ≤ 1 := by
  have text := @boundedText_bounded (strip given.content) (by rwa [strip_strip])
  unfold makeItem
  dsimp only
  generalize boundedText (strip given.content) = stored at text
  refine ⟨text.1, text.2, le_max_left _ _, ?_⟩
  exact max_le zero_le_one (min_le_left _ _)

theorem addItem_sound {addition : Addition} (sound : Sound service.limit rows)
    (taken : addItem database service rows addition = some next) : Sound service.limit next := by
  unfold addItem at taken
  split at taken
  · exact Option.some.inj taken ▸ sound
  case isFalse filled =>
    split at taken
    · cases taken
    case isFalse fresh =>
      obtain rfl := Option.some.inj taken
      set created := makeItem service addition.id addition.createdAt addition.given with made
      have distinct : ((rows ++ [created]).map ContextPoolItem.id).Nodup := by
        rw [List.map_append]
        refine List.nodup_append.mpr ⟨sound.distinct, List.nodup_singleton _, ?_⟩
        intro one member other single same
        obtain rfl := List.mem_singleton.mp single
        rw [same] at member
        exact fresh (List.contains_iff_mem.mpr member)
      obtain ⟨kept, cut, leads, all, active, pruned, others⟩ :=
        @pruneForPrincipal_leading database _ service.limit addition.prunedAt
          addition.given.principalId distinct
      refine ⟨(ids_pruneForPrincipal _).symm ▸ distinct, ?_, ?_⟩
      · intro principal
        by_cases mine : principal = addition.given.principalId
        · subst mine
          have joined : (kept ++ cut).Perm
              (created.rank :: ranks rows addition.given.principalId .active) := by
            refine all.trans ?_
            rw [ranks_append, if_pos ⟨rfl, rfl⟩]
            exact List.perm_append_singleton _ _
          have gone : ranks (rows ++ [created]) addition.given.principalId .pruned =
              ranks rows addition.given.principalId .pruned := by
            rw [ranks_append, if_neg (by rintro ⟨_, same⟩; cases same), List.append_nil]
          rw [gone] at pruned
          exact ((sound.leading _).join leads joined).perm active pruned
        · have elsewhere : ∀ status, ranks (rows ++ [created]) principal status =
              ranks rows principal status := by
            intro status
            rw [ranks_append, if_neg (fun both => mine both.1.symm), List.append_nil]
          rw [others principal mine, others principal mine, elsewhere, elsewhere]
          exact sound.leading principal
      · intro row member
        obtain ⟨before, listed, content, importance⟩ := mem_pruneForPrincipal member
        rw [content, importance]
        rcases List.mem_append.mp listed with old | new
        · exact sound.bounded before old
        · obtain rfl := List.mem_singleton.mp new
          exact makeItem_bounded filled

/-- The items of a principal are active or pruned. -/
theorem length_ranks (rows : List ContextPoolItem) (principal : Nat) :
    (ranks rows principal .active).length + (ranks rows principal .pruned).length =
      (rows.filter fun row => decide (row.principalId = principal)).length := by
  unfold ranks
  rw [List.length_map, List.length_map]
  induction rows with
  | nil => rfl
  | cons row rest inductionHypothesis =>
    by_cases mine : row.principalId = principal <;> cases status : row.status <;>
      simp [mine, status] <;> omega

/-- What holds between additions is what the pool keeps. -/
theorem Sound.keepsBest {limit : Nat} (sound : Sound limit rows) : KeepsBest limit rows where
  length := by
    intro principal
    have counted : (ranks rows principal .active).length + (ranks rows principal .pruned).length =
        (rows.filter fun row => decide (row.principalId = principal)).length :=
      length_ranks rows principal
    have leading := (sound.leading principal).length
    omega
  above := by
    intro row member lost gone same active pruned
    refine (sound.leading row.principalId).above _ (List.mem_map_of_mem ?_) _
      (List.mem_map_of_mem ?_)
    · exact List.mem_filter.mpr ⟨member, by simp [active]⟩
    · exact List.mem_filter.mpr ⟨gone, by simp [pruned, same]⟩
  bounded := sound.bounded

end

/-- In every run of additions, the active items of each principal are the best of all that were
added, and as many as there is room for. -/
theorem run_keepsBest (database : Database) (service : Service) (additions : List Addition) :
    Throughout (step database service) (KeepsBest service.limit) [] additions := by
  refine ⟨(sound_nil _).keepsBest, ?_⟩
  have unconditional : Along (step database service) (fun _ _ => True) [] additions :=
    along_of_mem (fun _ _ _ => trivial) []
  refine Along.imp_of_invariant (Sound service.limit) ?_ ?_ (sound_nil _) unconditional
  · exact fun state action next sound _ taken => addItem_sound sound taken
  · exact fun state action sound _ next taken => (addItem_sound sound taken).keepsBest

end MeetYou.ContextPool
