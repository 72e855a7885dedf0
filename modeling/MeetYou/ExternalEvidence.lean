import MeetYou.CitedEvidence

/-!
# External evidence

The sources of an external run keep the ids that its report cites, and no two have one id. Of the
sources with one key only the first one in the ranking goes into the ledger, so a citation survives
exactly if no source with its key is in front of the one it names.
-/

namespace MeetYou.ExternalEvidence

open ResearchTasks ResearchReports ResearchEvidence EvidenceReports CitedEvidence Groups

/-! ## Ids -/

/-- Where no free number is found, all that were tried are used. -/
theorem used_of_tried {used : List String} {rounds next : Nat}
    (taken : numberText (freeNumber used rounds next) ∈ used) :
    ∀ offset ≤ rounds, numberText (next + offset) ∈ used := by
  induction rounds generalizing next with
  | zero =>
    intro offset small
    obtain rfl := Nat.le_zero.mp small
    exact taken
  | succ rounds inductionHypothesis =>
    rw [freeNumber] at taken
    split at taken
    · next first =>
      rintro (_ | offset) small
      · exact first
      · have later := inductionHypothesis taken offset (Nat.le_of_succ_le_succ small)
        rwa [Nat.add_assoc, Nat.add_comm 1] at later
    · next free => exact absurd taken free

/-- More numbers are tried than are used. -/
theorem freeNumber_free (used : List String) (next : Nat) :
    numberText (freeNumber used (used.length + 1) next) ∉ used := by
  intro taken
  have tried := used_of_tried taken
  have distinct : ((List.range (used.length + 1)).map fun offset =>
      numberText (next + offset)).Nodup := by
    refine List.nodup_range.map fun offset other same => ?_
    exact Nat.add_left_cancel (numberText_injective same)
  have inside : ((List.range (used.length + 1)).map fun offset =>
      numberText (next + offset)) ⊆ used := by
    intro text member
    obtain ⟨offset, small, rfl⟩ := List.mem_map.mp member
    exact tried offset (List.mem_range.mp small).le
  have short := (distinct.subperm inside).length_le
  rw [List.length_map, List.length_range] at short
  omega

/-- A row of the external evidence has an id and a count. -/
structure IsRow (row : Fields) (id : String) : Prop where
  numbered : Numbered row id
  counted : ∃ count, row.get "duplicate_count" = some (.num count)

section
variable {outside : Outside} {provider : String}

theorem externalRow_is {id : String} {rank : Nat} {item row : Fields}
    (stripped : Text.strip id = id) (some_ : id ≠ "")
    (made : externalRow outside provider id rank item = some row) :
    IsRow row id := by
  unfold externalRow at made
  dsimp only at made
  obtain ⟨duplicates, _, rfl⟩ := Option.map_eq_some_iff.mp made
  refine ⟨⟨Fields.fold_set_present _ _ _ _ ?_ List.mem_cons_self, stripped, some_⟩, _,
    Fields.fold_set_present _ _ _ _ ?_ (.tail _ (.tail _ (.tail _ (.head _))))⟩
  · simp only [List.map_cons, List.map_nil]
    decide
  · simp only [List.map_cons, List.map_nil]
    decide

/-- What is read of a source is its id, unless that is no number or used already. -/
theorem externalFrom_obj {pairs : List (String × Json)} {rest : List Json} {used : List String}
    {next rank : Nat} {rows : List Fields}
    (made : externalFrom outside provider used next rank (.obj pairs :: rest) = some rows) :
    ∃ id number row others, (Text.strip id = id ∧ id ≠ "" ∧ id ∉ used) ∧
      externalRow outside provider id rank (Fields.of pairs) = some row ∧
        externalFrom outside provider (id :: used) number (rank + 1) rest = some others ∧
          rows = row :: others := by
  rw [externalFrom] at made
  obtain ⟨row, called, later⟩ := Option.bind_eq_some_iff.mp made
  obtain ⟨others, follow, rfl⟩ := Option.map_eq_some_iff.mp later
  refine ⟨_, _, row, others, ?_, called, follow, rfl⟩
  have stripped := Text.strip_strip (textOr outside.str (firstTruthy
    [entry (Fields.of pairs) "source_id", entry (Fields.of pairs) "id",
      entry (Fields.of pairs) "citation_id"]))
  generalize Text.strip (textOr outside.str _) = given at stripped ⊢
  split
  · exact ⟨strip_of_decimal (numberText_id _).2, (numberText_id _).1, freeNumber_free used next⟩
  · next free =>
    rw [Bool.or_eq_true, Bool.not_eq_true', decide_eq_true_eq, not_or, Bool.not_eq_false] at free
    refine ⟨stripped, ?_, free.2⟩
    rintro rfl
    exact absurd free.1 (by decide)

/-- No two rows of the external evidence have one id. -/
theorem externalFrom_distinct {items : List Json} {used : List String} {next rank : Nat}
    {rows : List Fields} (made : externalFrom outside provider used next rank items = some rows) :
    (∀ row ∈ rows, ∃ id, IsRow row id ∧ id ∉ used) ∧ (rows.map (sourceIdText outside)).Nodup := by
  induction items generalizing used next rank rows with
  | nil =>
    obtain rfl := Option.some.inj made
    exact ⟨List.forall_mem_nil _, List.nodup_nil⟩
  | cons item rest inductionHypothesis =>
    cases item with
    | obj pairs =>
      obtain ⟨id, number, row, others, ⟨stripped, some_, free⟩, called, follow, rfl⟩ :=
        externalFrom_obj made
      have first := externalRow_is stripped some_ called
      obtain ⟨each, distinct⟩ := inductionHypothesis follow
      refine ⟨List.forall_mem_cons.mpr ⟨⟨id, first, free⟩, fun other member => ?_⟩,
        List.nodup_cons.mpr ⟨?_, distinct⟩⟩
      · obtain ⟨own, is, unused⟩ := each other member
        exact ⟨own, is, fun inside => unused (List.mem_cons_of_mem id inside)⟩
      · intro named
        obtain ⟨other, member, same⟩ := List.mem_map.mp named
        obtain ⟨own, is, unused⟩ := each other member
        rw [is.numbered.text, first.numbered.text] at same
        exact unused (List.mem_cons.mpr (.inl same))
    | null => exact inductionHypothesis made
    | bool => exact inductionHypothesis made
    | num => exact inductionHypothesis made
    | str => exact inductionHypothesis made
    | arr => exact inductionHypothesis made

/-- The rows of the external evidence. -/
structure AreRows (outside : Outside) (rows : List Fields) : Prop where
  each : ∀ row ∈ rows, ∃ id, IsRow row id
  distinct : (rows.map (sourceIdText outside)).Nodup

theorem externalEvidence_rows {result : Fields} {evidence : List Fields}
    (made : externalEvidence outside provider result = some evidence) :
    AreRows outside evidence := by
  obtain ⟨each, distinct⟩ := externalFrom_distinct made
  refine ⟨fun row member => ?_, distinct⟩
  obtain ⟨id, is, _⟩ := each row member
  exact ⟨id, is⟩

end

/-! ## Groups -/

section
variable {outside : Outside}

/-- No row with the same key is in front of the row. -/
def LeadsRows (outside : Outside) (evidence : List Fields) (row : Fields) : Prop :=
  ∀ other ∈ evidence, externalKey outside other = externalKey outside row →
    ¬Ahead (qualityScore outside) evidence other row

/-- The rows of a group are the evidence with its key. -/
theorem group_rows {evidence : List Fields} {keyed : List (String × Fields)}
    (made : (evidence.mapM fun item => (externalKey outside item).map (·, item)) = some keyed)
    (key : String) :
    (keyed.filter fun pair => decide (pair.1 = key)).map Prod.snd =
      evidence.filter fun item => decide (externalKey outside item = some key) := by
  have beside := Results.beside made
  have items : keyed.map Prod.snd = evidence := by
    have same : keyed.map Prod.snd = evidence.map id := by
      refine Results.map_eq ?_ beside
      intro item pair called
      obtain ⟨own, _, rfl⟩ := Option.map_eq_some_iff.mp called
      rfl
    rwa [List.map_id] at same
  have keys : ∀ pair ∈ keyed, decide (pair.1 = key) =
      ((fun item => decide (externalKey outside item = some key)) ∘ Prod.snd) pair := by
    intro pair member
    obtain ⟨item, _, called⟩ := Results.exists_item beside member
    obtain ⟨own, is, rfl⟩ := Option.map_eq_some_iff.mp called
    simp only [Function.comp_apply, is, Option.some.injEq]
  rw [List.filter_congr keys, ← List.filter_map, items]

/-- A row is in front of another one of its group as it is among all. -/
theorem ahead_filter {rows : List Fields} {score : Fields → Int} {test : Fields → Bool}
    {row other : Fields} (first : test row = true) (second : test other = true) :
    Ahead score (rows.filter test) row other ↔ Ahead score rows row other := by
  have order : [row, other].Sublist (rows.filter test) ↔ [row, other].Sublist rows := by
    constructor
    · exact fun inside => inside.trans List.filter_sublist
    · intro inside
      have kept := inside.filter test
      rwa [List.filter_cons_of_pos first, List.filter_cons_of_pos second, List.filter_nil] at kept
  rw [Ahead, Ahead, order]

/-- The first row of a ranked group leads it. -/
theorem head_group_iff {evidence : List Fields} (distinct : evidence.Nodup) (key : String)
    (row : Fields) :
    (ranked (qualityScore outside) (evidence.filter fun item =>
      decide (externalKey outside item = some key))).head? = some row ↔
        (row ∈ evidence ∧ externalKey outside row = some key) ∧
          LeadsRows outside evidence row := by
  have tested : ∀ item, (fun item => decide (externalKey outside item = some key)) item = true ↔
      externalKey outside item = some key := fun _ => decide_eq_true_iff
  revert tested
  generalize (fun item => decide (externalKey outside item = some key)) = test
  intro tested
  rw [head_ranked_iff (distinct.filter _), List.mem_filter, tested]
  refine and_congr_right fun inside => ?_
  have own := (tested row).mpr inside.2
  constructor
  · intro leads other member same ahead
    have among := (tested other).mpr (same.trans inside.2)
    exact leads other (List.mem_filter.mpr ⟨member, among⟩) ((ahead_filter among own).mpr ahead)
  · intro leads other member ahead
    obtain ⟨listed, among⟩ := List.mem_filter.mp member
    exact leads other listed (((tested other).mp among).trans inside.2.symm)
      ((ahead_filter among own).mp ahead)

/-- The row that stands for a group is its first one. -/
theorem head_of_externalWinner {key : String} {rows : List Fields} {winner : Fields}
    (made : externalWinner outside key rows = some winner) :
    ∃ first, rows.head? = some first ∧ winner.get "source_id" = first.get "source_id" := by
  obtain ⟨first, head, called⟩ := Option.bind_eq_some_iff.mp made
  obtain ⟨duplicates, _, rfl⟩ := Option.map_eq_some_iff.mp called
  refine ⟨first, head, ?_⟩
  dsimp only
  rw [Dict.get_set_ne _ _ (by decide), Dict.get_set_ne _ _ (by decide),
    Dict.get_set_ne _ _ (by decide)]

theorem externalWinner_some (key : String) {rows : List Fields} {first : Fields}
    (head : rows.head? = some first)
    (counted : ∃ count, first.get "duplicate_count" = some (.num count)) :
    ∃ winner, externalWinner outside key rows = some winner := by
  obtain ⟨duplicates, is⟩ := intOf_counted counted
  unfold externalWinner
  rw [head, Option.bind_some, is]
  exact ⟨_, rfl⟩

/-! ## The ledger -/

/-- The parts a ledger is made in: the keyed rows, and the winner of each group. -/
structure Made (outside : Outside) (evidence ledger : List Fields) (keyed : List (String × Fields))
    (winners : List Fields) : Prop where
  named : (evidence.mapM fun item => (externalKey outside item).map (·, item)) = some keyed
  won : List.Forall₂ (fun group winner => externalWinner outside group.1
    (ranked (qualityScore outside) (group.2.map Prod.snd)) = some winner)
      (grouped Prod.fst keyed).entries winners
  from_ : ∀ row ∈ ledger, ∃ winner ∈ winners,
    row.get "source_id" = winner.get "source_id"
  complete : ∀ winner ∈ winners, ∃ row ∈ ledger,
    row.get "source_id" = winner.get "source_id"

theorem made_of_ledger {evidence ledger : List Fields}
    (deduped : dedupeExternalEvidencePreservingIds outside evidence = some ledger) :
    ∃ keyed winners, Made outside evidence ledger keyed winners := by
  obtain ⟨keyed, called, later⟩ := Option.bind_eq_some_iff.mp deduped
  obtain ⟨winners, won, rfl⟩ := Option.map_eq_some_iff.mp later
  refine ⟨keyed, winners, called, Results.beside won, ?_, ?_⟩
  · intro row member
    obtain ⟨⟨winner, index⟩, inside, rfl⟩ := List.mem_map.mp member
    exact ⟨winner, mem_ranked.mp (List.fst_mem_of_mem_zipIdx inside),
      Dict.get_set_ne _ _ (by decide)⟩
  · intro winner member
    obtain ⟨index, found⟩ := List.mem_iff_getElem?.mp
      (@mem_ranked _ _ _ (qualityScore outside) _ _ |>.mpr member)
    exact ⟨_, List.mem_map_of_mem (List.mk_mem_zipIdx_iff_getElem?.mpr found),
      Dict.get_set_ne _ _ (by decide)⟩

/-- The group of a key, ranked. -/
def groupOf (outside : Outside) (evidence : List Fields) (key : String) : List Fields :=
  ranked (qualityScore outside) (evidence.filter fun item =>
    decide (externalKey outside item = some key))

/-- The first row of a group is in the ledger, and no other one. -/
theorem made_heads {evidence ledger winners : List Fields} {keyed : List (String × Fields)}
    (made : Made outside evidence ledger keyed winners) :
    (∀ row ∈ ledger, ∃ key first, (groupOf outside evidence key).head? = some first ∧
      row.get "source_id" = first.get "source_id") ∧
    ∀ key first, (groupOf outside evidence key).head? = some first →
      ∃ row ∈ ledger, row.get "source_id" = first.get "source_id" := by
  have groups := group_rows made.named
  constructor
  · intro row member
    obtain ⟨winner, won, same⟩ := made.from_ row member
    obtain ⟨⟨key, pairs⟩, listed, called⟩ := Results.exists_item made.won won
    obtain ⟨rfl, _⟩ := (mem_grouped_iff _ keyed key pairs).mp listed
    rw [groups] at called
    obtain ⟨first, head, own⟩ := head_of_externalWinner called
    exact ⟨key, first, head, same.trans own⟩
  · intro key first head
    have filled : (keyed.filter fun pair => decide (pair.1 = key)) ≠ [] := by
      intro empty
      have none_ := groups key
      rw [empty, List.map_nil] at none_
      rw [groupOf, ← none_] at head
      exact List.not_mem_nil (mem_ranked.mp (List.mem_of_head? head))
    have listed := (mem_grouped_iff Prod.fst keyed key _).mpr ⟨rfl, filled⟩
    obtain ⟨winner, won, called⟩ := Results.exists_result made.won listed
    rw [groups] at called
    obtain ⟨own, again, same⟩ := head_of_externalWinner called
    rw [groupOf, again] at head
    obtain rfl := Option.some.inj head
    obtain ⟨row, member, kept⟩ := made.complete winner won
    exact ⟨row, member, kept.trans same⟩

/-- Evidence whose URLs can all be read has a ledger. -/
theorem dedupe_some {evidence : List Fields} (rows : AreRows outside evidence)
    (keys : ∀ row ∈ evidence, (externalKey outside row).isSome) :
    ∃ ledger, dedupeExternalEvidencePreservingIds outside evidence = some ledger := by
  have each : ∀ row ∈ evidence, ∃ pair, (externalKey outside row).map (·, row) = some pair := by
    intro row member
    obtain ⟨key, is⟩ := Option.isSome_iff_exists.mp (keys row member)
    rw [is]
    exact ⟨_, rfl⟩
  obtain ⟨keyed, named⟩ := Results.succeed each
  have won : ∀ group ∈ (grouped Prod.fst keyed).entries, ∃ winner, externalWinner outside group.1
      (ranked (qualityScore outside) (group.2.map Prod.snd)) = some winner := by
    rintro ⟨key, pairs⟩ listed
    obtain ⟨is, filled⟩ := (mem_grouped_iff _ keyed key pairs).mp listed
    obtain ⟨first, rest, shape⟩ := List.exists_cons_of_ne_nil
      (@ranked_ne_nil _ _ _ (qualityScore outside) _ (mt List.map_eq_nil_iff.mp filled))
    have head : (ranked (qualityScore outside) (pairs.map Prod.snd)).head? = some first := by
      rw [shape]
      rfl
    have among := mem_ranked.mp (List.mem_of_head? head)
    rw [is, group_rows named] at among
    obtain ⟨id, row⟩ := rows.each first (List.mem_filter.mp among).1
    exact externalWinner_some key head row.counted
  obtain ⟨winners, called⟩ := Results.succeed won
  unfold dedupeExternalEvidencePreservingIds
  rw [named, Option.bind_some, called]
  exact ⟨_, rfl⟩

/-- The ids of the ledger are those of the rows that lead their groups. -/
theorem ledger_ids {evidence ledger : List Fields} (rows : AreRows outside evidence)
    (deduped : dedupeExternalEvidencePreservingIds outside evidence = some ledger) :
    (∀ row ∈ ledger, ∃ id, Numbered row id) ∧ ∀ row ∈ evidence,
      sourceIdText outside row ∈ ledger.map (sourceIdText outside) ↔
        LeadsRows outside evidence row := by
  obtain ⟨keyed, winners, made⟩ := made_of_ledger deduped
  obtain ⟨heads, complete⟩ := made_heads made
  have distinct := rows.distinct.of_map
  have same : ∀ {row first : Fields}, row.get "source_id" = first.get "source_id" →
      sourceIdText outside row = sourceIdText outside first := by
    intro row first equal
    rw [sourceIdText, sourceIdText, entry, entry, equal]
  constructor
  · intro row member
    obtain ⟨key, first, head, equal⟩ := heads row member
    obtain ⟨⟨among, _⟩, _⟩ := (head_group_iff distinct key first).mp head
    obtain ⟨id, is⟩ := rows.each first among
    exact ⟨id, equal.trans is.numbered.given, is.numbered.stripped, is.numbered.some_⟩
  · intro row among
    rw [List.mem_map]
    constructor
    · rintro ⟨listed, member, named⟩
      obtain ⟨key, first, head, equal⟩ := heads listed member
      obtain ⟨⟨inside, _⟩, leads⟩ := (head_group_iff distinct key first).mp head
      have one := List.inj_on_of_nodup_map rows.distinct inside among
        ((same equal).symm.trans named)
      rwa [one] at leads
    · intro leads
      obtain ⟨item, pair, called⟩ := Results.exists_result (Results.beside made.named) among
      obtain ⟨key, is, _⟩ := Option.map_eq_some_iff.mp called
      obtain ⟨listed, member, equal⟩ :=
        complete key row ((head_group_iff distinct key row).mpr ⟨⟨among, is⟩, leads⟩)
      exact ⟨listed, member, same equal⟩

/-! ## Citations that survive -/

/-- The citations of the report that named a source of the external evidence name one of the
ledger. -/
def ExternalKept (outside : Outside) (provider report : String) (result : Fields) : Prop :=
  ∀ evidence, externalEvidence outside provider result = some evidence →
    ∀ ledger, dedupeExternalEvidencePreservingIds outside evidence = some ledger →
      (∀ citation ∈ citations report,
        citation ∈ evidenceSourceIds outside.str (evidence.map Fields.toJson) →
          citation ∈ evidenceSourceIds outside.str (ledger.map Fields.toJson)) ∧
      (Validates outside.str report (evidence.map Fields.toJson) →
        Validates outside.str report (ledger.map Fields.toJson))

/-- Every cited source of the external evidence leads its group, unless a URL cannot be read. -/
def ExternalClear (outside : Outside) (provider report : String) (result : Fields) : Prop :=
  ∀ evidence, externalEvidence outside provider result = some evidence →
    (∀ row ∈ evidence, (externalKey outside row).isSome) →
      ∀ row ∈ evidence, sourceIdText outside row ∈ citations report →
        LeadsRows outside evidence row

theorem keys_of_ledger {evidence ledger : List Fields}
    (deduped : dedupeExternalEvidencePreservingIds outside evidence = some ledger) :
    ∀ row ∈ evidence, (externalKey outside row).isSome := by
  intro row member
  obtain ⟨keyed, winners, made⟩ := made_of_ledger deduped
  obtain ⟨pair, _, called⟩ := Results.exists_result (Results.beside made.named) member
  obtain ⟨key, is, _⟩ := Option.map_eq_some_iff.mp called
  exact Option.isSome_iff_exists.mpr ⟨key, is⟩

theorem externalKept_iff (provider report : String) (result : Fields) :
    ExternalKept outside provider report result ↔ ExternalClear outside provider report result := by
  refine forall₂_congr fun evidence found => ?_
  have rows := externalEvidence_rows found
  have own : ∀ row ∈ evidence, ∃ id, Numbered row id := by
    intro row member
    obtain ⟨id, is⟩ := rows.each row member
    exact ⟨id, is.numbered⟩
  have ids : evidenceSourceIds outside.str (evidence.map Fields.toJson) = _ :=
    evidenceSourceIds_rows own
  constructor
  · intro kept keys row among cited
    obtain ⟨ledger, deduped⟩ := dedupe_some rows keys
    obtain ⟨numbered, leads⟩ := ledger_ids rows deduped
    have survives := (kept ledger deduped).1 _ cited
    rw [ids, evidenceSourceIds_rows numbered] at survives
    exact (leads row among).mp (survives (List.mem_map_of_mem among))
  · intro clear ledger deduped
    obtain ⟨numbered, leads⟩ := ledger_ids rows deduped
    have survives : ∀ citation ∈ citations report,
        citation ∈ evidenceSourceIds outside.str (evidence.map Fields.toJson) →
          citation ∈ evidenceSourceIds outside.str (ledger.map Fields.toJson) := by
      intro citation cited named
      rw [ids] at named
      rw [evidenceSourceIds_rows numbered]
      obtain ⟨row, among, rfl⟩ := List.mem_map.mp named
      exact (leads row among).mpr (clear (keys_of_ledger deduped) row among cited)
    exact ⟨survives, fun valid citation cited => survives citation cited (valid citation cited)⟩

end

/-- The report on a run's sources is valid exactly if the numbers that the quoted texts cite are
ranks of kept sources, and the citations of an external report survive exactly if every cited
source leads its group. -/
theorem citations_survive_iff (outside : Outside) (topic : String) (gathered errors : List Fields)
    (maxSources : Int) (provider report : String) (result : Fields) :
    (BuildsValid outside topic gathered errors maxSources ↔
      QuotesClear outside topic gathered errors maxSources) ∧
    (ExternalKept outside provider report result ↔
      ExternalClear outside provider report result) :=
  ⟨buildsValid_iff topic gathered errors maxSources, externalKept_iff provider report result⟩

/-- The language on values of small letters without a URL. -/
def smallLetters : Outside where
  str _ := ""
  strFloat _ := ""
  numeric _ := none
  lower text := text
  urlparse _ := none
  parseQsl _ := []
  urlencode _ := ""
  urlunparse _ := ""
  now := "2025-01-01T00:00:00+00:00"

/-- A page with a footnote in its title. -/
def footnoted : Fields := Fields.of [("title", .str "bees [7]"), ("snippet", .str "honey")]

theorem entry_footnoted : entry footnoted "title" = .str "bees [7]" := by
  rw [entry, footnoted, Fields.of, Fields.fold_set_present "title" (.str "bees [7]") _ _ (by decide)
    List.mem_cons_self]
  rfl

theorem dedupeKey_footnoted : ∃ key, dedupeKey smallLetters footnoted 0 = some key := by
  have url : canonicalUrl smallLetters (firstTruthy [entry footnoted "url", entry footnoted "href"]) =
      some "" := by
    decide
  unfold dedupeKey
  dsimp only
  rw [url]
  split
  · exact ⟨_, rfl⟩
  · split
    · exact ⟨_, rfl⟩
    · exact ⟨_, rfl⟩

/-- A page that gives a footnote in its title is the only source, and its report cites the
footnote as a source. -/
theorem footnote_fails_the_check : ¬∀ (outside : Outside) (topic : String)
    (gathered errors : List Fields) (maxSources : Int) (provider report : String)
    (result : Fields), BuildsValid outside topic gathered errors maxSources ∧
      ExternalKept outside provider report result := by
  intro all
  have clear := (buildsValid_iff "bees" [footnoted] [] 5).mp
    (all smallLetters "bees" [footnoted] [] 5 "" "" Dict.empty).1
  have made : ∃ source : Gathered, source.row = footnoted ∧
      gathered smallLetters [footnoted] = some [source] := by
    obtain ⟨key, is⟩ := dedupeKey_footnoted
    refine ⟨⟨footnoted, 0, key, qualityScore smallLetters footnoted⟩, rfl, ?_⟩
    rw [gathered, List.zipIdx_singleton, List.mapM_cons]
    dsimp only
    rw [is]
    rfl
  obtain ⟨source, row, made⟩ := made
  have alone : leaders smallLetters [source] = [source] := by simp [leaders, Leads]
  have kept : Kept smallLetters [source] 5 source := by
    refine ⟨?_, ?_⟩
    · rw [alone]
      exact List.mem_cons_self
    · rw [alone]
      simp
  have quoted : textOr smallLetters.str (entry footnoted "title") ∈
      sourceTexts smallLetters source.row := by
    rw [row]
    exact List.mem_cons_self
  have cited := clear _ made _ (.inr (.inr (.inl ⟨source, kept, quoted⟩))) "7" (by
    rw [entry_footnoted, textOr_str]
    decide)
  rw [ranks, alone, List.length_singleton] at cited
  exact absurd cited (by decide)

end MeetYou.ExternalEvidence
