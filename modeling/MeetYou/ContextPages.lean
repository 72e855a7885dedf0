import MeetYou.ThreadContext

/-!
# The window and the pages behind it

A model is given the newest messages of a thread in full, and a summary of the messages behind
them. The window skips the excluded messages among the rows it fetched; the pages behind it start
at a row offset that counts them. Window and page fit together, and the older messages are counted
right, just if no row is excluded, or if excluded rows make the two ends meet: some in the window,
and every row fetched behind it.

The order of messages with the same time is that of the database, and the same for both.
-/

namespace MeetYou.ContextPages

open ConversationStore ThreadContext

section
variable (written : Json → String) (orders : Orders) (store : Store) (threadId : ThreadId)
  (beforeMessageId excludeEndpointMessageId : String)

/-- The earlier messages that are not excluded, oldest first. -/
def eligible : List (MessageId × Message) :=
  ((threadContextQuery orders store threadId beforeMessageId).filter fun entry =>
    !matchesEndpointMessageId written excludeEndpointMessageId entry.2).reverse

/-- The window and a page behind it have no message in common, are the end of the earlier messages,
and the messages outside the window are counted. -/
structure Partition (limit olderLimit : Int) : Prop where
  disjoint : (listOlderThreadContextMessages written orders store threadId beforeMessageId
    excludeEndpointMessageId limit olderLimit).Disjoint
      (loadThreadContextWindow written orders store threadId beforeMessageId
        excludeEndpointMessageId limit).messages
  contiguous : listOlderThreadContextMessages written orders store threadId beforeMessageId
      excludeEndpointMessageId limit olderLimit ++
    (loadThreadContextWindow written orders store threadId beforeMessageId
      excludeEndpointMessageId limit).messages <:+
        eligible written orders store threadId beforeMessageId excludeEndpointMessageId
  counted : (loadThreadContextWindow written orders store threadId beforeMessageId
      excludeEndpointMessageId limit).olderCount =
    ((eligible written orders store threadId beforeMessageId excludeEndpointMessageId).filter
      fun entry => decide (entry.1 ∉ (loadThreadContextWindow written orders store threadId
        beforeMessageId excludeEndpointMessageId limit).messages.map Prod.fst)).length

/-- No row is excluded; or one of the first rows is, as many as the limit, and all of the next
eight, and none behind those. -/
def EndsMeet (limit : Int) : Prop :=
  let rows := threadContextQuery orders store threadId beforeMessageId
  let excluded := fun entry : MessageId × Message =>
    matchesEndpointMessageId written excludeEndpointMessageId entry.2 = true
  (∀ entry ∈ rows, ¬excluded entry) ∨
    (∃ entry ∈ rows.take limit.toNat, excluded entry) ∧
      (∀ entry ∈ (rows.drop limit.toNat).take 8, excluded entry) ∧
        ∀ entry ∈ rows.drop (limit.toNat + 8), ¬excluded entry

end

/-! ## Rows that are taken -/

section
variable {excluded : Message → Bool} {rows : List (MessageId × Message)} {remaining : Nat}

/-- The rows taken are the first ones that are not excluded. -/
theorem takeRows_rows :
    (takeRows excluded remaining rows).1 =
      (rows.filter fun entry => !excluded entry.2).take remaining := by
  induction rows generalizing remaining with
  | nil => simp [takeRows]
  | cons first rest inductionHypothesis =>
    cases remaining with
    | zero => simp [takeRows]
    | succ remaining =>
      rw [takeRows]
      cases out : excluded first.2 with
      | true => simp [inductionHypothesis, out]
      | false => simp [inductionHypothesis, out]

/-- Where the first rows are not excluded, they are taken and nothing is counted. -/
theorem takeRows_clean (clean : ∀ entry ∈ rows.take remaining, ¬excluded entry.2 = true) :
    takeRows excluded remaining rows = (rows.take remaining, 0) := by
  induction rows generalizing remaining with
  | nil => simp [takeRows]
  | cons first rest inductionHypothesis =>
    cases remaining with
    | zero => simp [takeRows]
    | succ remaining =>
      rw [List.take_succ_cons] at clean ⊢
      rw [takeRows, if_neg (clean first List.mem_cons_self),
        inductionHypothesis fun entry member => clean entry (List.mem_cons_of_mem _ member)]

/-- Where the rows run out, all the excluded ones are counted. -/
theorem takeRows_count (few : (rows.filter fun entry => !excluded entry.2).length < remaining) :
    (takeRows excluded remaining rows).2 = rows.countP fun entry => excluded entry.2 := by
  induction rows generalizing remaining with
  | nil => simp [takeRows]
  | cons first rest inductionHypothesis =>
    cases remaining with
    | zero => exact absurd few (Nat.not_lt_zero _)
    | succ remaining =>
      rw [takeRows]
      cases out : excluded first.2 with
      | true =>
        rw [List.filter_cons_of_neg (by simp [out])] at few
        simp [inductionHypothesis few, out]
      | false =>
        rw [List.filter_cons_of_pos (by simp [out]), List.length_cons] at few
        simp [inductionHypothesis (Nat.lt_of_succ_lt_succ few), out]

/-- Rows are kept or excluded. -/
theorem length_parts (rows : List (MessageId × Message)) :
    (rows.filter fun entry => !excluded entry.2).length +
      (rows.countP fun entry => excluded entry.2) = rows.length := by
  rw [List.countP_eq_length_filter, Nat.add_comm]
  exact (List.length_eq_length_filter_add _).symm

theorem filter_eq_nil_of_all (all : ∀ entry ∈ rows, excluded entry.2 = true) :
    (rows.filter fun entry => !excluded entry.2) = [] := by
  rw [List.filter_eq_nil_iff]
  intro entry member
  simp [all entry member]

theorem filter_eq_self_of_none (none : ∀ entry ∈ rows, ¬excluded entry.2 = true) :
    (rows.filter fun entry => !excluded entry.2) = rows := by
  rw [List.filter_eq_self]
  intro entry member
  simpa using none entry member

/-- The kept rows outside a beginning of them are counted by the difference. -/
theorem outside_length {window kept : List (MessageId × Message)}
    (begins : window <+: kept) (distinct : (kept.map Prod.fst).Nodup) :
    (kept.reverse.filter fun entry => decide (entry.1 ∉ window.reverse.map Prod.fst)).length =
      kept.length - window.length := by
  obtain ⟨behind, rfl⟩ := begins
  rw [List.map_append, List.nodup_append] at distinct
  obtain ⟨-, -, apart⟩ := distinct
  have outside : ∀ entry ∈ behind.reverse,
      decide (entry.1 ∉ window.reverse.map Prod.fst) = true := by
    intro entry member
    rw [decide_eq_true_eq, List.map_reverse, List.mem_reverse]
    intro inside
    exact apart entry.1 inside entry.1
      (List.mem_map_of_mem (List.mem_reverse.mp member)) rfl
  have inside : ∀ entry ∈ window.reverse,
      ¬decide (entry.1 ∉ window.reverse.map Prod.fst) = true := by
    intro entry member
    simpa using ⟨entry.2, List.mem_reverse.mp member⟩
  rw [List.reverse_append, List.filter_append, List.filter_eq_self.mpr outside,
    List.filter_eq_nil_iff.mpr inside, List.append_nil, List.length_reverse, List.length_append]
  omega

variable {limit pageLimit : Nat}

/-- A window and a page of the rows fit together. -/
structure Fits (excluded : Message → Bool) (rows : List (MessageId × Message))
    (window page : List (MessageId × Message)) (skipped : Nat) : Prop where
  disjoint : page.reverse.Disjoint window.reverse
  contiguous : page.reverse ++ window.reverse <:+
    (rows.filter fun entry => !excluded entry.2).reverse
  counted : max (rows.length - skipped) window.reverse.length - window.reverse.length =
    ((rows.filter fun entry => !excluded entry.2).reverse.filter fun entry =>
      decide (entry.1 ∉ window.reverse.map Prod.fst)).length

/-- A window and a page fit together if they are beginnings of the kept rows, one behind the
other, and every excluded row is counted. -/
theorem fits_of_parts {window page : List (MessageId × Message)} {skipped : Nat}
    (distinct : (rows.map Prod.fst).Nodup)
    (begins : window ++ page <+: rows.filter fun entry => !excluded entry.2)
    (seen : skipped = rows.countP fun entry => excluded entry.2) :
    Fits excluded rows window page skipped := by
  have keptDistinct : ((rows.filter fun entry => !excluded entry.2).map Prod.fst).Nodup :=
    distinct.sublist (List.filter_sublist.map Prod.fst)
  have front := (List.prefix_append window page).trans begins
  refine ⟨?_, ?_, ?_⟩
  · have apart : (window ++ page).Nodup := keptDistinct.of_map.sublist begins.sublist
    rw [List.nodup_append] at apart
    intro entry paged windowed
    exact apart.2.2 entry (List.mem_reverse.mp windowed) entry (List.mem_reverse.mp paged) rfl
  · rw [← List.reverse_append, List.reverse_suffix]
    exact begins
  · have parts := @length_parts excluded rows
    rw [outside_length front keptDistinct, List.length_reverse, seen]
    omega

/-- What a window and a page that fit together count. -/
theorem Fits.skipped_all {window page : List (MessageId × Message)} {skipped : Nat}
    (distinct : (rows.map Prod.fst).Nodup) (fits : Fits excluded rows window page skipped)
    (few : skipped + window.length ≤ rows.length) :
    skipped = rows.countP fun entry => excluded entry.2 := by
  have keptDistinct : ((rows.filter fun entry => !excluded entry.2).map Prod.fst).Nodup :=
    distinct.sublist (List.filter_sublist.map Prod.fst)
  have begins := fits.contiguous
  rw [← List.reverse_append, List.reverse_suffix] at begins
  have front := (List.prefix_append window page).trans begins
  have counted := fits.counted
  have parts := @length_parts excluded rows
  have shorter := front.length_le
  rw [outside_length front keptDistinct, List.length_reverse] at counted
  omega

theorem takeRows_length : (takeRows excluded remaining rows).2 +
    (takeRows excluded remaining rows).1.length ≤ rows.length := by
  induction rows generalizing remaining with
  | nil => simp [takeRows]
  | cons first rest inductionHypothesis =>
    cases remaining with
    | zero => simp [takeRows]
    | succ remaining =>
      rw [takeRows]
      cases excluded first.2 with
      | true =>
        have shorter := @inductionHypothesis (remaining + 1)
        simp only [if_true, List.length_cons]
        omega
      | false =>
        have shorter := @inductionHypothesis remaining
        simp only [Bool.false_eq_true, if_false, List.length_cons]
        omega

theorem none_of_countP (counted : 0 = rows.countP fun entry => excluded entry.2) :
    ∀ entry ∈ rows, ¬excluded entry.2 = true :=
  List.countP_eq_zero.mp counted.symm

/-- The kept rows of a fetched page are a beginning of the kept rows behind its offset. -/
theorem page_begins (fetched : Nat) :
    (takeRows excluded remaining (rows.take fetched)).1 <+:
      rows.filter fun entry => !excluded entry.2 := by
  rw [takeRows_rows]
  exact (List.take_prefix _ _).trans ((List.take_prefix _ _).filter _)

/-- Fewer than the limit are kept of the first rows if one of them is excluded. -/
theorem few_kept (dirty : ∃ entry ∈ rows.take limit, excluded entry.2 = true) :
    ((rows.take limit).filter fun entry => !excluded entry.2).length < limit := by
  have some : 0 < (rows.take limit).countP fun entry => excluded entry.2 :=
    List.countP_pos_iff.mpr dirty
  have parts := @length_parts excluded (rows.take limit)
  have short := List.length_take_le limit rows
  omega

/-- A kept row among the fetched ones behind the limit is in the window and on the page. -/
theorem shared_row {pageFetched : Nat} (pagePositive : 1 ≤ pageLimit) (enough : 8 ≤ pageFetched)
    (dirty : ∃ entry ∈ rows.take limit, excluded entry.2 = true)
    (kept : ¬∀ entry ∈ (rows.drop limit).take 8, excluded entry.2 = true) :
    ∃ entry, entry ∈ (takeRows excluded limit (rows.take (limit + 8))).1 ∧
      entry ∈ (takeRows excluded pageLimit ((rows.drop limit).take pageFetched)).1 := by
  have few := few_kept dirty
  cases behind : ((rows.drop limit).take 8).filter fun entry => !excluded entry.2 with
  | nil =>
    rw [List.filter_eq_nil_iff] at behind
    exact absurd (fun entry member => by simpa using behind entry member) kept
  | cons first rest =>
    refine ⟨first, ?_, ?_⟩
    · rw [takeRows_rows, List.take_add, List.filter_append, behind, List.take_append]
      refine List.mem_append_right _ ?_
      obtain ⟨more, same⟩ := Nat.exists_eq_add_of_lt few
      rw [List.mem_take_iff_getElem]
      exact ⟨0, by simp only [List.length_cons]; omega, rfl⟩
    · obtain ⟨more, whole⟩ : ((rows.drop limit).take 8).filter (fun entry => !excluded entry.2) <+:
          ((rows.drop limit).take pageFetched).filter fun entry => !excluded entry.2 :=
        (List.take_prefix_take_left enough).filter _
      rw [takeRows_rows, ← whole, behind, List.mem_take_iff_getElem]
      exact ⟨0, by simp only [List.cons_append, List.length_cons]; omega, rfl⟩

/-- When the window and the page behind it fit together. -/
theorem fits_iff {pageFetched : Nat} (pagePositive : 1 ≤ pageLimit) (enough : 8 ≤ pageFetched)
    (distinct : (rows.map Prod.fst).Nodup) :
    Fits excluded rows (takeRows excluded limit (rows.take (limit + 8))).1
        (takeRows excluded pageLimit ((rows.drop limit).take pageFetched)).1
        (takeRows excluded limit (rows.take (limit + 8))).2 ↔
      (∀ entry ∈ rows, ¬excluded entry.2 = true) ∨
        (∃ entry ∈ rows.take limit, excluded entry.2 = true) ∧
          (∀ entry ∈ (rows.drop limit).take 8, excluded entry.2 = true) ∧
            ∀ entry ∈ rows.drop (limit + 8), ¬excluded entry.2 = true := by
  have page := @page_begins excluded (rows.drop limit) pageLimit pageFetched
  have counts := @takeRows_length excluded (rows.take (limit + 8)) limit
  have short := List.length_take_le' (limit + 8) rows
  by_cases dirty : ∃ entry ∈ rows.take limit, excluded entry.2 = true
  · by_cases ends : ∀ entry ∈ (rows.drop limit).take 8, excluded entry.2 = true
    · have kept : ((rows.take (limit + 8)).filter fun entry => !excluded entry.2) =
          (rows.take limit).filter fun entry => !excluded entry.2 := by
        rw [List.take_add, List.filter_append, filter_eq_nil_of_all ends, List.append_nil]
      have few := few_kept dirty
      have window : (takeRows excluded limit (rows.take (limit + 8))).1 =
          (rows.take limit).filter fun entry => !excluded entry.2 := by
        rw [takeRows_rows, kept, List.take_of_length_le few.le]
      have skipped := @takeRows_count excluded (rows.take (limit + 8)) limit (by rwa [kept])
      have whole : (rows.take (limit + 8)).countP (fun entry => excluded entry.2) +
          (rows.drop (limit + 8)).countP (fun entry => excluded entry.2) =
            rows.countP fun entry => excluded entry.2 := by
        rw [← List.countP_append, List.take_append_drop]
      constructor
      · intro fits
        have all := fits.skipped_all distinct (counts.trans short)
        exact .inr ⟨dirty, ends, none_of_countP (by omega)⟩
      · rintro (clean | ⟨-, -, clean⟩)
        · obtain ⟨entry, member, out⟩ := dirty
          exact absurd out (clean entry (List.mem_of_mem_take member))
        · refine fits_of_parts distinct ?_ ?_
          · rw [window]
            have halves : (rows.filter fun entry => !excluded entry.2) =
                ((rows.take limit).filter fun entry => !excluded entry.2) ++
                  (rows.drop limit).filter fun entry => !excluded entry.2 := by
              rw [← List.filter_append, List.take_append_drop]
            rw [halves]
            exact (List.prefix_append_right_inj _).mpr page
          · have rest : (rows.drop (limit + 8)).countP (fun entry => excluded entry.2) = 0 :=
              List.countP_eq_zero.mpr clean
            omega
    · refine iff_of_false (fun fits => ?_) ?_
      · obtain ⟨entry, windowed, paged⟩ := @shared_row excluded rows limit pageLimit pageFetched
          pagePositive enough dirty ends
        exact fits.disjoint (List.mem_reverse.mpr paged) (List.mem_reverse.mpr windowed)
      · rintro (clean | ⟨-, all, -⟩)
        · obtain ⟨entry, member, out⟩ := dirty
          exact clean entry (List.mem_of_mem_take member) out
        · exact ends all
  · have clean : ∀ entry ∈ (rows.take (limit + 8)).take limit, ¬excluded entry.2 = true := by
      rw [List.take_take, Nat.min_eq_left (by omega)]
      exact fun entry member out => dirty ⟨entry, member, out⟩
    have taken := takeRows_clean clean
    rw [List.take_take, Nat.min_eq_left (by omega : limit ≤ limit + 8)] at taken
    constructor
    · intro fits
      have all := fits.skipped_all distinct (counts.trans short)
      rw [taken] at all
      exact .inl (none_of_countP all)
    · rintro (none | ⟨some, -⟩)
      · refine fits_of_parts distinct ?_ ?_
        · rw [taken, filter_eq_self_of_none none]
          rw [filter_eq_self_of_none fun entry member =>
            none entry (List.mem_of_mem_drop member)] at page
          conv_rhs => rw [← List.take_append_drop limit rows]
          exact (List.prefix_append_right_inj _).mpr page
        · rw [taken]
          exact (List.countP_eq_zero.mpr none).symm
      · exact absurd some dirty

end

/-! ## Threads -/

/-- The rows of the query have different identifiers. -/
theorem query_distinct (orders : Orders) (store : Store) (threadId : ThreadId)
    (beforeMessageId : String) :
    ((threadContextQuery orders store threadId beforeMessageId).map Prod.fst).Nodup := by
  rw [threadContextQuery, ((orders.newestFirst.perm _).map Prod.fst).nodup_iff]
  exact store.messages.distinct.sublist
    ((List.filter_sublist.trans List.filter_sublist).map Prod.fst)

/-- For every limit from 1 to 200, the window and a page behind it divide the earlier messages, and
those outside the window are counted, just if no row is excluded or the ends meet. -/
theorem partition_iff (written : Json → String) (orders : Orders) (store : Store)
    (threadId : ThreadId) (beforeMessageId excludeEndpointMessageId : String)
    {limit : Int} (olderLimit : Int) (positive : 1 ≤ limit) (bounded : limit ≤ 200) :
    Partition written orders store threadId beforeMessageId excludeEndpointMessageId limit
        olderLimit ↔
      EndsMeet written orders store threadId beforeMessageId excludeEndpointMessageId limit := by
  have windowLimit : boundedLimit limit 24 200 = limit.toNat := by
    unfold boundedLimit
    rw [if_neg (by omega)]
    omega
  have pagePositive : 1 ≤ boundedLimit olderLimit 80 400 := le_max_left _ _
  have fits := @fits_iff (matchesEndpointMessageId written excludeEndpointMessageId)
    (threadContextQuery orders store threadId beforeMessageId) limit.toNat
    (boundedLimit olderLimit 80 400) (min (boundedLimit olderLimit 80 400 + 8) 440) pagePositive
    (by omega) (query_distinct orders store threadId beforeMessageId)
  have wide : min (limit.toNat + 8) 240 = limit.toNat + 8 := by omega
  unfold EndsMeet
  rw [← fits]
  constructor
  · rintro ⟨disjoint, contiguous, counted⟩
    simp only [listOlderThreadContextMessages, loadThreadContextWindow, windowLimit, wide]
      at disjoint contiguous counted
    exact ⟨disjoint, contiguous, by rw [List.length_reverse]; exact counted⟩
  · rintro ⟨disjoint, contiguous, counted⟩
    rw [List.length_reverse] at counted
    constructor <;> simp only [listOlderThreadContextMessages, loadThreadContextWindow,
      windowLimit, wide]
    · exact disjoint
    · exact contiguous
    · exact counted

/-- A thread with three messages, the last of which came from an endpoint as its message `e`. -/
def threeMessages : Store where
  threads := Dict.empty
  sessions := Dict.empty
  branches := Dict.empty
  checkpoints := Dict.empty
  messages := Dict.empty.setAll
    [("a", { threadId := "t", role := "user", content := "first", createdAt := 1 }),
      ("b", { threadId := "t", role := "assistant", content := "second", createdAt := 2 }),
      ("c", { threadId := "t", role := "user", content := "third", createdAt := 3,
              metadata := Fields.of [("endpoint_message_id", .str "e")] })]

theorem three_messages_partition :
    Partition (fun _ => "") Orders.positions threeMessages "t" "c" "e" 1 80 ↔
      EndsMeet (fun _ => "") Orders.positions threeMessages "t" "c" "e" 1 :=
  partition_iff (fun _ => "") Orders.positions threeMessages "t" "c" "e" 80 (by decide) (by decide)

/-- With the last message excluded, the second one is in the window and on the page behind it. -/
theorem second_message_twice :
    ¬Partition (fun _ => "") Orders.positions threeMessages "t" "" "e" 1 80 := by
  intro partition
  have shown := partition.contiguous.length_le
  revert shown
  decide +kernel

end MeetYou.ContextPages
