import MeetYou.EvidenceReports

/-!
# Cited evidence

The ledger of the program's own run numbers its sources from one on, so a report on it is valid
exactly if the texts it quotes cite no number beyond the last source. The ledger of an external run
keeps one source of each group under its own id. A citation of another source of the group names
nothing any more, though the group is still there.
-/

namespace MeetYou.CitedEvidence

open ResearchTasks ResearchReports ResearchEvidence EvidenceReports Groups

/-! ## Ids of a ledger -/

/-- Different numbers have different texts. -/
theorem numberText_injective {number other : Nat} (same : numberText number = numberText other) :
    number = other := by
  have characters := congrArg String.toList same
  rw [numberText, numberText, String.toList_ofList, String.toList_ofList] at characters
  rw [← JsonText.readNat_writeNat number, characters, JsonText.readNat_writeNat]

/-- There is nothing to strip from digits. -/
theorem strip_of_decimal {text : String}
    (digits : ∀ character ∈ text.toList, isDecimal character = true) : Text.strip text = text := by
  have visible : ∀ character ∈ text.toList, ¬Text.isSpace character = true := by
    intro character member space
    have digit := digits character member
    rw [space_not_decimal space] at digit
    cases digit
  have front : text.toList.dropWhile Text.isSpace = text.toList := by
    rw [List.dropWhile_eq_self_iff]
    exact fun some_ => visible _ (List.getElem_mem some_)
  have back : text.toList.rdropWhile Text.isSpace = text.toList := by
    rw [List.rdropWhile_eq_self_iff]
    exact fun some_ => visible _ (List.getLast_mem some_)
  rw [Text.strip, Text.trim, front, back, String.ofList_toList]

/-- A dictionary built from its own entries has the same values. -/
theorem get_of_entries (fields : Fields) (name : String) :
    (Fields.of fields.entries).get name = fields.get name := by
  have same := Fields.get_update Dict.empty fields name
  change (Fields.of fields.entries).get name = _ at same
  rw [same]
  cases fields.get name <;> rfl

/-- The row has an id of its own. -/
structure Numbered (row : Fields) (id : String) : Prop where
  given : row.get "source_id" = some (.str id)
  stripped : Text.strip id = id
  some_ : id ≠ ""

section
variable {outside : Outside}

/-- Such a row is quoted by its number. -/
theorem Numbered.text {row : Fields} {id : String} (numbered : Numbered row id) :
    sourceIdText outside row = id := by
  rw [sourceIdText, entry, numbered.given, Option.getD_some, textOr_str]

/-- And its entry in the ledger has that number for an id. -/
theorem Numbered.entry {row : Fields} {id : String} (numbered : Numbered row id) :
    sourceIdOf outside.str row.toJson = some id := by
  unfold Fields.toJson sourceIdOf
  dsimp only
  rw [get_of_entries, numbered.given, Option.getD_some, textOr_str, numbered.stripped,
    if_neg numbered.some_]

/-- The ids of a ledger are those of its rows. -/
theorem evidenceSourceIds_rows {rows : List Fields}
    (numbered : ∀ row ∈ rows, ∃ id, Numbered row id) :
    evidenceSourceIds outside.str (rows.map Fields.toJson) = rows.map (sourceIdText outside) := by
  rw [evidenceSourceIds, List.filterMap_map]
  induction rows with
  | nil => rfl
  | cons row rest inductionHypothesis =>
    obtain ⟨id, first⟩ := numbered row List.mem_cons_self
    have same : (sourceIdOf outside.str ∘ Fields.toJson) row = some id := by
      rw [Function.comp_apply, first.entry]
    rw [List.filterMap_cons_some same, List.map_cons, first.text,
      inductionHypothesis fun other member => numbered other (List.mem_cons_of_mem row member)]

/-- A row is numbered when its source id is the text of a number. -/
theorem numbered_of_numberText {row : Fields} {number : Nat}
    (given : row.get "source_id" = some (.str (numberText number))) :
    Numbered row (numberText number) :=
  ⟨given, strip_of_decimal (numberText_id number).2, (numberText_id number).1⟩

end

/-! ## The sources of the program's own run -/

/-- The names of the texts of a source that a report quotes. -/
def quotedNames : List String := ["title", "snippet", "source_type", "adapter", "url"]

/-- A source of the ledger, and the gathered one it is. -/
structure Cleaned (source : Gathered) (rank : Nat) (row : Fields) : Prop where
  id : row.get "source_id" = some (.str (numberText (rank + 1)))
  rank : row.get "rank" = some (.num (rank + 1 : Nat))
  score : row.get "quality_score" = some (.num source.qualityScore)
  counted : ∃ count, row.get "duplicate_count" = some (.num count)
  quoted : ∀ name ∈ quotedNames, row.get name = source.row.get name

/-- The merged source of a group, and the gathered one it is. -/
structure Merged (source winner : Gathered) : Prop where
  index : winner.inputIndex = source.inputIndex
  quality : winner.qualityScore = source.qualityScore
  score : winner.row.get "quality_score" = some (.num source.qualityScore)
  counted : ∃ count, winner.row.get "duplicate_count" = some (.num count)
  quoted : ∀ name ∈ quotedNames, winner.row.get name = source.row.get name

/-- The order of the ledger. -/
def ledgerOrder (source : Gathered) : Lex (Int × Nat) :=
  toLex (-source.qualityScore, source.inputIndex)

section
variable (outside : Outside)

/-- No source with the same key is in front of the source. -/
def Leads (sources : List Gathered) (source : Gathered) : Prop :=
  ∀ other ∈ sources, other.dedupeKey = source.dedupeKey →
    groupOrder outside source ≤ groupOrder outside other

instance (sources : List Gathered) (source : Gathered) : Decidable (Leads outside sources source) :=
  inferInstanceAs (Decidable (∀ other ∈ sources, other.dedupeKey = source.dedupeKey → _))

/-- The sources that lead their groups. -/
def leaders (sources : List Gathered) : List Gathered :=
  sources.filter fun source => decide (Leads outside sources source)

/-- Few enough leading sources are in front of the source for the ledger to take it. -/
def Kept (sources : List Gathered) (maxSources : Int) (source : Gathered) : Prop :=
  source ∈ leaders outside sources ∧
    ((leaders outside sources).filter fun other =>
      decide (ledgerOrder other < ledgerOrder source)).length < maxSources.toNat

/-- The first sources of the groups. -/
def firsts (sources : List Gathered) : List Gathered :=
  (grouped Gathered.dedupeKey sources).entries.filterMap fun group =>
    (ascending (groupOrder outside) group.2).head?

variable {outside}

/-- A field is not changed by what is set, perhaps, under another name. -/
theorem get_optional {condition : Prop} [Decidable condition] {name other : String} {value : Json}
    (row : Fields) (different : other ≠ name) :
    (if condition then row.set other value else row).get name = row.get name := by
  split
  · exact Dict.get_set_ne _ _ different
  · rfl

/-- The names that the clean-up notes on a source. -/
def notedNames : List String :=
  ["quality_score", "dedupe_key", "duplicate_count", "merged_source_ids", "duplicate_source_ids",
    "original_source_id", "source_id", "rank", "_input_index", "_dedupe_key", "_quality_score"]

/-- The fields that a report quotes are not those that ranking writes. -/
theorem not_noted : ∀ name ∈ quotedNames, ∀ other ∈ notedNames, other ≠ name := by decide

/-- The first of a group becomes the merged source, whatever the others add to it. -/
theorem merged_of_first (key : String) {sources : List Gathered} {source : Gathered}
    (first : (ascending (groupOrder outside) sources).head? = some source) :
    ∃ winner, mergedSource outside key sources = some winner ∧ Merged source winner := by
  unfold mergedSource
  dsimp only
  change ∃ winner, (ascending (groupOrder outside) sources).head?.map _ = some winner ∧ _
  rw [first]
  refine ⟨_, rfl, rfl, rfl, ?_, ?_, ?_⟩
  · rw [get_optional _ (by decide), Dict.get_set_ne _ _ (by decide),
      Dict.get_set_ne _ _ (by decide), Dict.get_set_ne _ _ (by decide), Dict.get_set_self]
  · rw [get_optional _ (by decide), Dict.get_set_ne _ _ (by decide), Dict.get_set_self]
    exact ⟨_, rfl⟩
  · intro name member
    have notes := not_noted name member
    rw [get_optional _ (notes _ (by decide)), Dict.get_set_ne _ _ (notes _ (by decide)),
      Dict.get_set_ne _ _ (notes _ (by decide)), Dict.get_set_ne _ _ (notes _ (by decide)),
      Dict.get_set_ne _ _ (notes _ (by decide))]

/-- The names that a rank leaves alone. -/
theorem get_rankedRow (source : Gathered) (rank : Nat) {name : String}
    (other : ∀ noted ∈ ["original_source_id", "source_id", "rank", "_input_index", "_dedupe_key",
      "_quality_score"], noted ≠ name) :
    (rankedRow outside source rank).get name = source.row.get name := by
  unfold rankedRow
  dsimp only
  rw [Dict.get_pop_ne _ (other _ (by decide)), Dict.get_pop_ne _ (other _ (by decide)),
    Dict.get_pop_ne _ (other _ (by decide)), Dict.get_set_ne _ _ (other _ (by decide)),
    Dict.get_set_ne _ _ (other _ (by decide)), get_optional _ (other _ (by decide))]

/-- A ranked row has its rank for a source id. -/
theorem get_sourceId (source : Gathered) (rank : Nat) :
    (rankedRow outside source rank).get "source_id" = some (.str (numberText rank)) := by
  unfold rankedRow
  dsimp only
  rw [Dict.get_pop_ne _ (by decide), Dict.get_pop_ne _ (by decide), Dict.get_pop_ne _ (by decide),
    Dict.get_set_ne _ _ (by decide), Dict.get_set_self]

/-- The row of a merged source quotes what its first source did. -/
theorem cleaned_of_merged {source winner : Gathered} (merged : Merged source winner) (rank : Nat) :
    Cleaned source rank (rankedRow outside winner (rank + 1)) := by
  refine ⟨get_sourceId winner (rank + 1), ?_, ?_, ?_, ?_⟩
  · unfold rankedRow
    dsimp only
    rw [Dict.get_pop_ne _ (by decide), Dict.get_pop_ne _ (by decide), Dict.get_pop_ne _ (by decide),
      Dict.get_set_self]
  · rw [get_rankedRow _ _ (by decide), merged.score]
  · rw [get_rankedRow _ _ (by decide)]
    exact merged.counted
  · intro name member
    rw [get_rankedRow _ _ fun noted inside => not_noted name member noted
      (@List.mem_of_mem_drop _ _ 5 notedNames inside), merged.quoted name member]

/-! ## The ledger of the program's own run -/

/-- The sources are told apart by their places. -/
theorem gathered_indices {evidence : List Fields} {sources : List Gathered}
    (made : gathered outside evidence = some sources) :
    (sources.map Gathered.inputIndex).Nodup := by
  have same : sources.map Gathered.inputIndex = evidence.zipIdx.map Prod.snd := by
    refine Results.map_eq ?_ (Results.beside made)
    rintro ⟨item, index⟩ source called
    obtain ⟨key, _, rfl⟩ := Option.map_eq_some_iff.mp called
    rfl
  rw [same, List.zipIdx_map_snd]
  exact List.nodup_range'

/-- Sources in different places stand in a strict order. -/
theorem groupOrder_distinct {sources : List Gathered}
    (distinct : (sources.map Gathered.inputIndex).Nodup) :
    (sources.map (groupOrder outside)).Nodup := by
  have place : sources.map (fun source => (source.inputIndex : Int)) =
      (sources.map (groupOrder outside)).map fun order => (ofLex (ofLex order).2).2 := by
    rw [List.map_map]
    rfl
  have indices : (sources.map fun source => (source.inputIndex : Int)).Nodup := by
    have cast := distinct.map (fun _ _ same => Int.ofNat.inj same : Function.Injective Int.ofNat)
    rwa [List.map_map] at cast
  rw [place] at indices
  exact indices.of_map

/-- No two sources stand at one place of the ledger. -/
theorem ledgerOrder_distinct {sources : List Gathered}
    (distinct : (sources.map Gathered.inputIndex).Nodup) :
    (sources.map ledgerOrder).Nodup := by
  have place : sources.map Gathered.inputIndex =
      (sources.map ledgerOrder).map fun order => (ofLex order).2 := by
    rw [List.map_map]
    rfl
  rw [place] at distinct
  exact distinct.of_map

/-- The first source of a group leads it. -/
theorem mem_firsts_iff {sources : List Gathered}
    (distinct : (sources.map Gathered.inputIndex).Nodup) (source : Gathered) :
    source ∈ firsts outside sources ↔ source ∈ leaders outside sources := by
  have first : ∀ key, (ascending (groupOrder outside)
      (sources.filter fun other => decide (other.dedupeKey = key))).head? = some source ↔
        (source ∈ sources ∧ source.dedupeKey = key) ∧
          ∀ other ∈ sources, other.dedupeKey = key →
            groupOrder outside source ≤ groupOrder outside other := by
    intro key
    have among : ((sources.filter fun other => decide (other.dedupeKey = key)).map
        (groupOrder outside)).Nodup :=
      (groupOrder_distinct distinct).sublist (List.filter_sublist.map _)
    rw [head_ascending_iff among, List.mem_filter]
    simp only [List.mem_filter, decide_eq_true_eq, and_imp]
  rw [firsts, List.mem_filterMap, leaders, List.mem_filter, decide_eq_true_eq]
  constructor
  · rintro ⟨⟨key, rows⟩, member, leads⟩
    obtain ⟨rfl, _⟩ := (mem_grouped_iff _ sources key rows).mp member
    obtain ⟨⟨inside, rfl⟩, least⟩ := (first key).mp leads
    exact ⟨inside, least⟩
  · rintro ⟨inside, least⟩
    have leads := (first source.dedupeKey).mpr ⟨⟨inside, rfl⟩, least⟩
    refine ⟨(source.dedupeKey, _), (mem_grouped_iff _ sources _ _).mpr ⟨rfl, ?_⟩, leads⟩
    exact List.ne_nil_of_mem (List.mem_filter.mpr ⟨inside, decide_eq_true rfl⟩)

/-- The first sources of two groups are two. -/
theorem firsts_nodup (sources : List Gathered) : (firsts outside sources).Nodup := by
  have keyed : ∀ key rows, (key, rows) ∈ (grouped Gathered.dedupeKey sources).entries →
      ∀ source, (ascending (groupOrder outside) rows).head? = some source →
        source.dedupeKey = key := by
    intro key rows member source first
    obtain ⟨rfl, _⟩ := (mem_grouped_iff _ sources key rows).mp member
    have among := mem_ascending.mp (List.mem_of_head? first)
    exact of_decide_eq_true (List.mem_filter.mp among).2
  have distinct := (grouped Gathered.dedupeKey sources).distinct
  rw [List.Nodup, List.pairwise_map] at distinct
  rw [firsts, List.Nodup, List.pairwise_filterMap]
  refine distinct.imp_of_mem ?_
  rintro ⟨key, rows⟩ ⟨other, others⟩ member inside different source first second leads rfl
  exact different ((keyed key rows member source first).symm.trans
    (keyed other others inside source leads))

/-- The first ones of the groups are the sources that lead their groups. -/
theorem firsts_perm {sources : List Gathered}
    (distinct : (sources.map Gathered.inputIndex).Nodup) :
    (firsts outside sources).Perm (leaders outside sources) :=
  (List.perm_ext_iff_of_nodup (firsts_nodup sources) (distinct.of_map.filter _)).mpr
    (mem_firsts_iff distinct)

/-- The merged sources stand beside the first ones. -/
theorem merged_beside (sources : List Gathered) :
    List.Forall₂ Merged (firsts outside sources)
      ((grouped Gathered.dedupeKey sources).entries.filterMap fun group =>
        mergedSource outside group.1 group.2) := by
  refine List.rel_filterMap (R := Eq) ?_ (List.forall₂_refl _)
  rintro ⟨key, rows⟩ _ rfl
  dsimp only
  cases first : (ascending (groupOrder outside) rows).head? with
  | none =>
    have none_ : mergedSource outside key rows = none := by
      unfold mergedSource
      dsimp only
      change (ascending (groupOrder outside) rows).head?.map _ = none
      rw [first]
      rfl
    rw [none_]
    exact .none
  | some source =>
    obtain ⟨winner, made, merged⟩ := merged_of_first key first
    rw [made]
    exact .some merged

/-- How many rows stand below a place depends on their places only. -/
theorem below_length {rows others : List Gathered} (same : rows.map ledgerOrder =
    others.map ledgerOrder) (place : Lex (Int × Nat)) :
    (rows.filter fun row => decide (ledgerOrder row < place)).length =
      (others.filter fun row => decide (ledgerOrder row < place)).length := by
  have counted : ∀ list : List Gathered,
      (list.filter fun row => decide (ledgerOrder row < place)).length =
        ((list.map ledgerOrder).filter fun order => decide (order < place)).length := by
    intro list
    rw [List.filter_map, List.length_map]
    rfl
  rw [counted, counted, same]

/-- The ledger that is made of the gathered sources. -/
structure Ledger (outside : Outside) (sources : List Gathered) (maxSources : Int)
    (ranked : List Fields) : Prop where
  kept : ∀ row ∈ ranked, ∃ source rank, Kept outside sources maxSources source ∧
    Cleaned source rank row
  complete : ∀ source, Kept outside sources maxSources source →
    ∃ row ∈ ranked, ∃ rank, Cleaned source rank row
  ids : ranked.map (sourceIdText outside) =
    (List.range (min maxSources.toNat (leaders outside sources).length)).map fun rank =>
      numberText (rank + 1)

/-- A cleaned row is numbered by its rank. -/
theorem Cleaned.numbered {source : Gathered} {rank : Nat} {row : Fields}
    (cleaned : Cleaned source rank row) : Numbered row (numberText (rank + 1)) :=
  numbered_of_numberText cleaned.id

/-- The ledger has the leading sources up to its limit, under their ranks. -/
theorem ledger_of_ranked {evidence ranked : List Fields} {sources : List Gathered}
    {maxSources : Int} (made : gathered outside evidence = some sources)
    (cleaned : rankAndDedupeEvidence outside evidence maxSources = some ranked) :
    Ledger outside sources maxSources ranked := by
  have distinct := gathered_indices made
  have perm : (firsts outside sources).Perm (leaders outside sources) := firsts_perm distinct
  have beside : List.Forall₂ Merged (firsts outside sources) _ := merged_beside sources
  rw [rankAndDedupeEvidence, made, Option.map_some, Option.some.injEq] at cleaned
  dsimp only at cleaned
  generalize (grouped Gathered.dedupeKey sources).entries.filterMap _ = winners at beside cleaned
  change (((ascending ledgerOrder winners).take maxSources.toNat).zipIdx.map fun pair =>
    rankedRow outside pair.1 (pair.2 + 1)) = ranked at cleaned
  have order : ∀ source winner, Merged source winner → ledgerOrder winner = ledgerOrder source := by
    intro source winner merged
    rw [ledgerOrder, merged.quality, merged.index]
    rfl
  have places : winners.map ledgerOrder = (firsts outside sources).map ledgerOrder :=
    Results.map_eq order beside
  have below : ∀ place, (winners.filter fun row => decide (ledgerOrder row < place)).length =
      ((leaders outside sources).filter fun row => decide (ledgerOrder row < place)).length :=
    fun place => (below_length places place).trans (perm.filter _).length_eq
  have strict : (winners.map ledgerOrder).Nodup := by
    rw [places, (perm.map ledgerOrder).nodup_iff]
    exact (ledgerOrder_distinct distinct).sublist (List.filter_sublist.map _)
  have taken : ∀ source winner, source ∈ firsts outside sources → winner ∈ winners →
      Merged source winner → (winner ∈ (ascending ledgerOrder winners).take maxSources.toNat ↔
        Kept outside sources maxSources source) := by
    intro source winner first member merged
    rw [mem_take_ascending_iff strict, order source winner merged, below, Kept]
    exact and_congr_left' ⟨fun _ => perm.mem_iff.mp first, fun _ => member⟩
  rw [← cleaned]
  refine ⟨?_, ?_, ?_⟩
  · intro row member
    obtain ⟨⟨winner, index⟩, inside, rfl⟩ := List.mem_map.mp member
    have among := List.fst_mem_of_mem_zipIdx inside
    have member := mem_ascending.mp (List.mem_of_mem_take among)
    obtain ⟨source, first, merged⟩ := Results.exists_item beside member
    exact ⟨source, index, (taken source winner first member merged).mp among,
      cleaned_of_merged merged index⟩
  · intro source kept
    have first := perm.mem_iff.mpr kept.1
    obtain ⟨winner, member, merged⟩ := Results.exists_result beside first
    have among := (taken source winner first member merged).mpr kept
    obtain ⟨index, found⟩ := List.mem_iff_getElem?.mp among
    exact ⟨_, List.mem_map_of_mem (List.mk_mem_zipIdx_iff_getElem?.mpr found), index,
      cleaned_of_merged merged index⟩
  · have length : ((ascending ledgerOrder winners).take maxSources.toNat).length =
        min maxSources.toNat (leaders outside sources).length := by
      rw [List.length_take, ascending, List.length_mergeSort, ← List.length_map, places,
        List.length_map, perm.length_eq]
    have named : (sourceIdText outside ∘ fun pair : Gathered × Nat =>
        rankedRow outside pair.1 (pair.2 + 1)) =
          (fun rank => numberText (rank + 1)) ∘ Prod.snd := by
      funext pair
      exact (numbered_of_numberText (get_sourceId pair.1 (pair.2 + 1))).text
    rw [List.map_map, named, ← List.map_map, List.zipIdx_map_snd, length, List.range_eq_range']

end

/-! ## Scores -/

/-- The score is no larger than the bound, in either direction. -/
def Within (bound : Nat) (score : Int) : Prop := score.natAbs ≤ bound

/-- Bounds of scores add up. -/
theorem Within.add {bound other : Nat} {score more : Int} (first : Within bound score)
    (second : Within other more) : Within (bound + other) (score + more) :=
  (Int.natAbs_add_le score more).trans (Nat.add_le_add first second)

/-- A score that is chosen between two keeps their bound. -/
theorem within_ite {condition : Prop} [Decidable condition] {bound : Nat} {score other : Int}
    (first : Within bound score) (second : Within bound other) :
    Within bound (if condition then score else other) := by
  split
  · exact first
  · exact second

section
variable {outside : Outside}

/-- A score is far too small to be written with an exponent. -/
theorem qualityScore_within (item : Fields) :
    Within 109 (qualityScore outside item) := by
  have small : ∀ {bound : Nat} {score : Int}, score.natAbs ≤ bound → Within bound score := id
  have snippet : ∀ length : Int, Within 30 (min 20 (max 1 length)) := by
    intro length
    apply small
    omega
  unfold qualityScore
  dsimp only
  refine @Within.add 79 30 _ _ (@Within.add 77 2 _ _ (@Within.add 75 2 _ _ (@Within.add 72 3 _ _
    (@Within.add 69 3 _ _ (@Within.add 65 4 _ _ (@Within.add 45 20 _ _ ?_ ?_) ?_) ?_) ?_) ?_) ?_)
      (within_ite (snippet _) (small (by decide)))
  · exact within_ite (small (by decide)) (within_ite (small (by decide)) (within_ite
      (small (by decide)) (small (by decide))))
  · exact within_ite (small (by decide)) (within_ite (small (by decide)) (within_ite
      (small (by decide)) (small (by decide))))
  all_goals exact within_ite (small (by decide)) (small (by decide))

/-- The score of a source is worked out from its row. -/
theorem score_of_gathered {evidence : List Fields} {sources : List Gathered}
    (made : gathered outside evidence = some sources) {source : Gathered}
    (member : source ∈ sources) : source.qualityScore = qualityScore outside source.row := by
  obtain ⟨⟨item, index⟩, _, called⟩ := Results.exists_item (Results.beside made) member
  obtain ⟨key, _, rfl⟩ := Option.map_eq_some_iff.mp called
  rfl

/-! ## The texts of a ledger -/

/-- The texts of a source that a report quotes. -/
def sourceTexts (outside : Outside) (row : Fields) : List String :=
  [textOr outside.str (entry row "title"), excerptText outside row,
    textOr outside.str (entry row "source_type"), textOr outside.str (entry row "adapter"),
    textOr outside.str (entry row "url")]

/-- A fallback text is used where the value is empty. -/
theorem textOr_orElse_str (value : Json) (text : String) :
    textOr outside.str (firstTruthy [value, .str text]) =
      if value.truthy then textOr outside.str value else text := by
  unfold firstTruthy
  by_cases given : value.truthy = true
  · rw [List.find?_cons_of_pos given, if_pos given]
    rfl
  · rw [List.find?_cons_of_neg given, if_neg given]
    by_cases empty : text = ""
    · rw [empty]
      rfl
    · have filled : (Json.str text).truthy = true := decide_eq_true empty
      rw [List.find?_cons_of_pos filled, Option.getD_some, textOr_str]

/-- An empty value has no text. -/
theorem textOr_falsy {value : Json} (falsy : ¬value.truthy = true) :
    textOr outside.str value = "" := if_neg falsy

/-- The text of a number has no bracket in it. -/
theorem numberText_plain (number : Nat) : IsPlain (numberText number) := by
  rintro character member rfl
  exact absurd ((numberText_id number).2 _ member) (by decide)

/-- Without a bracket nothing is cited. -/
theorem citations_of_plain {text : String} (plain : IsPlain text) : citations text = [] :=
  citationsAfter_plain plain none

/-- The title that stands in for a missing one cites nothing. -/
theorem citations_titleText {row : Fields} {number : Nat}
    (numbered : Numbered row (numberText number)) :
    citations (titleText outside row) = citations (textOr outside.str (entry row "title")) := by
  rw [titleText, textOr_orElse_str, numbered.text]
  split
  · rfl
  · next falsy =>
    rw [textOr_falsy falsy, citations_of_plain
      ((plain_ofList (by decide)).append (numberText_plain number))]
    rfl

/-- The rank of a row cites nothing. -/
theorem citations_rankText {row : Fields} {number : Nat} {rank : Rat}
    (numbered : Numbered row (numberText number)) (given : row.get "rank" = some (.num rank)) :
    citations (rankText outside row) = [] := by
  have ranked : entry row "rank" = .num rank := by
    rw [entry, given]
    rfl
  simp only [rankText, ranked]
  split
  · rw [numbered.text]
    exact citations_of_plain (numberText_plain number)
  · exact citations_of_plain (numberText_plain _)

/-- The score of a row cites nothing while it is written in digits. -/
theorem citations_scoreText {row : Fields} {score : Int} {bound : Nat} (within : Within bound score)
    (small : bound < 10 ^ 16) (given : row.get "quality_score" = some (.num score)) :
    citations (scoreText outside row) = [] := by
  have scored : entry row "quality_score" = .num score := by
    rw [entry, given]
    rfl
  simp only [scoreText, scored]
  split
  · rfl
  · have whole : (score : Rat).den = 1 ∧ (score : Rat).num.natAbs < 10 ^ 16 :=
      ⟨Rat.den_intCast score, lt_of_le_of_lt within small⟩
    rw [floatText, if_pos whole]
    refine citations_of_plain (IsPlain.append (IsPlain.append ?_ (numberText_plain _))
      (plain_ofList (by decide)))
    split
    · exact plain_ofList (by decide)
    · exact plain_ofList (by decide)

/-- A source of the ledger is quoted as it was gathered. -/
theorem mem_quotedBy_cleaned {source : Gathered} {rank bound : Nat} {row : Fields}
    (cleaned : Cleaned source rank row) (within : Within bound source.qualityScore)
    (small : bound < 10 ^ 16) (number : String) :
    (∃ text ∈ quotedBy outside row, number ∈ citations text) ↔
      ∃ text ∈ sourceTexts outside source.row, number ∈ citations text := by
  have same : ∀ name ∈ quotedNames, entry row name = entry source.row name := by
    intro name member
    rw [entry, entry, cleaned.quoted name member]
  have excerpts : excerptText outside row = excerptText outside source.row := by
    rw [excerptText, excerptText, same "snippet" (by decide)]
  have title : citations (titleText outside row) = _ := citations_titleText cleaned.numbered
  rw [same "title" (by decide)] at title
  simp only [quotedBy, sourceTexts, List.mem_cons, List.not_mem_nil, or_false, exists_eq_or_imp,
    exists_eq_left, title, excerpts, citations_rankText cleaned.numbered cleaned.rank,
    citations_scoreText within small cleaned.score, false_or, same "source_type" (by decide),
    same "adapter" (by decide), same "url" (by decide)]

/-! ## Reports of the program's own run -/

/-- A count of duplicates can be read as a number. -/
theorem intOf_counted {item : Fields}
    (counted : ∃ count, item.get "duplicate_count" = some (.num count)) :
    ∃ duplicates, intOf (firstTruthy [entry item "duplicate_count", .num 1]) = some duplicates := by
  obtain ⟨count, given⟩ := counted
  rw [entry, given, Option.getD_some, firstTruthy]
  by_cases zero : (Json.num count).truthy = true
  · rw [List.find?_cons_of_pos zero]
    exact ⟨_, rfl⟩
  · rw [List.find?_cons_of_neg zero]
    exact ⟨_, rfl⟩

/-- A row with a count of duplicates has its line in the report. -/
theorem sourceLine_some {item : Fields}
    (counted : ∃ count, item.get "duplicate_count" = some (.num count)) :
    ∃ line, sourceLine outside item = some line := by
  obtain ⟨duplicates, is⟩ := intOf_counted counted
  unfold sourceLine
  dsimp only
  rw [is]
  exact ⟨_, rfl⟩

/-- The text is one that the report on the gathered sources quotes. -/
def Quoted (outside : Outside) (topic : String) (sources : List Gathered) (maxSources : Int)
    (errors : List Fields) (text : String) : Prop :=
  text = reportTopic topic ∨ text = topic ∨
    (∃ source, Kept outside sources maxSources source ∧ text ∈ sourceTexts outside source.row) ∨
      text ∈ errors.flatMap (quotedByError outside)

/-- The numbers of a ledger's sources. -/
def ranks (outside : Outside) (sources : List Gathered) (maxSources : Int) : List String :=
  (List.range (min maxSources.toNat (leaders outside sources).length)).map fun rank =>
    numberText (rank + 1)

section
variable {sources : List Gathered} {maxSources : Int} {ranked errors : List Fields}

/-- A report is built on every ledger. -/
theorem buildReport_some (topic : String) (errors : List Fields)
    (ledger : Ledger outside sources maxSources ranked) :
    ∃ report, buildReport outside topic ranked errors = some report := by
  have each : ∀ row ∈ ranked, ∃ line, sourceLine outside row = some line := by
    intro row member
    obtain ⟨_, _, _, cleaned⟩ := ledger.kept row member
    exact sourceLine_some cleaned.counted
  obtain ⟨lines, written⟩ := Results.succeed each
  unfold buildReport
  rw [written]
  exact ⟨_, rfl⟩

/-- The texts quoted from a ledger are those of the sources it keeps. -/
theorem mem_quotedTexts_ledger {topic : String} {bound : Nat}
    (ledger : Ledger outside sources maxSources ranked)
    (within : ∀ source ∈ sources, Within bound source.qualityScore) (small : bound < 10 ^ 16)
    (number : String) :
    (∃ text ∈ quotedTexts outside topic ranked errors, number ∈ citations text) ↔
      ∃ text, Quoted outside topic sources maxSources errors text ∧ number ∈ citations text := by
  have scored : ∀ source, Kept outside sources maxSources source →
      Within bound source.qualityScore := fun source kept =>
    within source (List.mem_filter.mp kept.1).1
  have rows : (∃ row ∈ ranked, ∃ text ∈ quotedBy outside row, number ∈ citations text) ↔
      ∃ text, (∃ source, Kept outside sources maxSources source ∧
        text ∈ sourceTexts outside source.row) ∧ number ∈ citations text := by
    constructor
    · rintro ⟨row, member, quoted⟩
      obtain ⟨source, rank, kept, cleaned⟩ := ledger.kept row member
      obtain ⟨text, inside, cites⟩ :=
        (mem_quotedBy_cleaned cleaned (scored source kept) small number).mp quoted
      exact ⟨text, ⟨source, kept, inside⟩, cites⟩
    · rintro ⟨text, ⟨source, kept, inside⟩, cites⟩
      obtain ⟨row, member, rank, cleaned⟩ := ledger.complete source kept
      exact ⟨row, member, (mem_quotedBy_cleaned cleaned (scored source kept) small number).mpr
        ⟨text, inside, cites⟩⟩
  rw [mem_quotedTexts, rows]
  simp only [Quoted, or_and_right, exists_or, exists_eq_left, or_assoc]

/-- A report on a ledger is valid exactly if the texts it quotes cite sources only. -/
theorem validates_iff {topic report : String} {bound : Nat}
    (ledger : Ledger outside sources maxSources ranked)
    (within : ∀ source ∈ sources, Within bound source.qualityScore) (small : bound < 10 ^ 16)
    (built : buildReport outside topic ranked errors = some report) :
    Validates outside.str report (ranked.map Fields.toJson) ↔
      ∀ text, Quoted outside topic sources maxSources errors text →
        ∀ number ∈ citations text, number ∈ ranks outside sources maxSources := by
  have numbered : ∀ row ∈ ranked, ∃ id, Numbered row id := by
    intro row member
    obtain ⟨_, rank, _, cleaned⟩ := ledger.kept row member
    exact ⟨_, cleaned.numbered⟩
  have ids : ∀ row ∈ ranked, IsId (sourceIdText outside row) := by
    intro row member
    obtain ⟨_, rank, _, cleaned⟩ := ledger.kept row member
    rw [cleaned.numbered.text]
    exact numberText_id (rank + 1)
  unfold Validates
  rw [evidenceSourceIds_rows numbered, ledger.ids]
  change (∀ number ∈ citations report, number ∈ ranks outside sources maxSources) ↔ _
  constructor
  · intro valid text quoted number cites
    apply valid
    rw [mem_citations_report ids built]
    exact .inr ((mem_quotedTexts_ledger ledger within small number).mpr ⟨text, quoted, cites⟩)
  · intro clear number cites
    rw [mem_citations_report ids built, ledger.ids] at cites
    rcases cites with own | quoted
    · exact own
    · obtain ⟨text, inside, named⟩ := (mem_quotedTexts_ledger ledger within small number).mp quoted
      exact clear text inside number named

end

/-- The report on a run's cleaned sources passes the check of its citations. -/
def BuildsValid (outside : Outside) (topic : String) (evidence errors : List Fields)
    (maxSources : Int) : Prop :=
  ∀ ranked, rankAndDedupeEvidence outside evidence maxSources = some ranked →
    ∃ report, buildReport outside topic ranked errors = some report ∧
      Validates outside.str report (ranked.map Fields.toJson)

/-- Whatever number the quoted texts cite is the rank of a kept source. -/
def QuotesClear (outside : Outside) (topic : String) (evidence errors : List Fields)
    (maxSources : Int) : Prop :=
  ∀ sources, gathered outside evidence = some sources →
    ∀ text, Quoted outside topic sources maxSources errors text →
      ∀ number ∈ citations text, number ∈ ranks outside sources maxSources

/-- A report that is built is valid exactly when what it quotes brings no citation of its own. -/
theorem buildsValid_iff (topic : String) (evidence errors : List Fields) (maxSources : Int) :
    BuildsValid outside topic evidence errors maxSources ↔
      QuotesClear outside topic evidence errors maxSources := by
  unfold BuildsValid QuotesClear
  cases made : gathered outside evidence with
  | none => simp [rankAndDedupeEvidence, made]
  | some sources =>
    obtain ⟨ranked, cleaned⟩ : ∃ ranked,
        rankAndDedupeEvidence outside evidence maxSources = some ranked := by
      rw [rankAndDedupeEvidence, made]
      exact ⟨_, rfl⟩
    have ledger := ledger_of_ranked made cleaned
    have within : ∀ source ∈ sources, Within 109 source.qualityScore := by
      intro source member
      rw [score_of_gathered made member]
      exact qualityScore_within source.row
    obtain ⟨report, built⟩ := buildReport_some topic errors ledger
    have valid := validates_iff ledger within (by decide) built
    simp only [cleaned, Option.some.injEq, forall_eq', built, exists_eq_left', valid]

end

end MeetYou.CitedEvidence
