import MeetYou.EndpointRegistry

/-!
# Memberships and their primary

Endpoints and addresses are members of workspaces, each in its own table and through the same
code. One enabled membership of an owner is the primary one. What the memberships of an owner
are, whichever the table, is a roster: a membership or none for each workspace. Enrolling keeps
one leader, and so does retiring a member that does not lead.

The repository retires the leader by the same call, and then looks for one to promote among the
rows that the store still takes for enabled. The first of them is the one just retired.
-/

namespace MeetYou.WorkspaceMemberships

open Text EndpointRegistry

/-! ## Rosters -/

section
variable {ω : Type}

/-- The memberships of one owner. -/
abbrev Roster (ω : Type) := ω → Option Membership

/-- One enabled membership is primary, no disabled one is, and one is enabled. -/
structure Proper (roster : Roster ω) : Prop where
  primary : ∃ leader, ∀ workspace, (∃ row, roster workspace = some row ∧ row.enabled = true ∧
    row.isPrimary = true) ↔ workspace = leader
  enabled : ∀ workspace row, roster workspace = some row → row.isPrimary = true →
    row.enabled = true
  staffed : ∃ workspace row, roster workspace = some row ∧ row.enabled = true

/-- The workspace is the only primary one, and enabled. -/
structure Led (roster : Roster ω) (leader : ω) : Prop where
  leads : roster leader = some ⟨true, true⟩
  alone : ∀ workspace row, roster workspace = some row → row.isPrimary = true → workspace = leader

theorem proper_iff (roster : Roster ω) : Proper roster ↔ ∃ leader, Led roster leader := by
  constructor
  · rintro ⟨⟨leader, only⟩, enabled, _⟩
    obtain ⟨⟨isPrimary, active⟩, found, on, first⟩ := (only leader).mpr rfl
    cases on
    cases first
    refine ⟨leader, found, fun workspace row there primary => (only workspace).mp ?_⟩
    exact ⟨row, there, enabled workspace row there primary, primary⟩
  · rintro ⟨leader, leads, alone⟩
    refine ⟨⟨leader, fun workspace => ⟨?_, ?_⟩⟩, ?_, leader, _, leads, rfl⟩
    · rintro ⟨row, there, _, primary⟩
      exact alone workspace row there primary
    · rintro rfl
      exact ⟨_, leads, rfl, rfl⟩
    · intro workspace row there primary
      obtain rfl := alone workspace row there primary
      rw [leads] at there
      exact Option.some.inj there ▸ rfl

variable [DecidableEq ω]

/-- The roster with an enabled membership; a primary one takes the place of the others. -/
def enroll (roster : Roster ω) (workspace : ω) (isPrimary : Bool) : Roster ω := fun other =>
  if other = workspace then
    some { isPrimary := (roster workspace).any Membership.isPrimary || isPrimary, enabled := true }
  else if isPrimary then (roster other).map fun row => { row with isPrimary := false }
  else roster other

/-- The roster with the membership disabled. -/
def retire (roster : Roster ω) (workspace : ω) : Roster ω := fun other =>
  if other = workspace then some { isPrimary := false, enabled := false } else roster other

/-- Who is enrolled as the primary one leads. -/
theorem led_enroll_primary (roster : Roster ω) (workspace : ω) :
    Led (enroll roster workspace true) workspace := by
  constructor
  · rw [enroll, if_pos rfl, Bool.or_true]
  · intro other row there primary
    rw [enroll] at there
    split at there
    case isTrue same => exact same
    case isFalse =>
      rw [if_pos rfl] at there
      obtain ⟨before, _, rfl⟩ := Option.map_eq_some_iff.mp there
      cases primary

/-- Who is enrolled as another one leaves the leader in place. -/
theorem Led.enroll_member {roster : Roster ω} {leader : ω} (led : Led roster leader)
    (workspace : ω) : Led (enroll roster workspace false) leader := by
  constructor
  · rw [enroll]
    split
    case isTrue same => rw [← same, led.leads, Option.any_some, Bool.or_false]
    case isFalse => exact led.leads
  · intro other row there primary
    rw [enroll] at there
    split at there
    case isTrue same =>
      obtain rfl := Option.some.inj there
      rw [Bool.or_false, Option.any_eq_true] at primary
      obtain ⟨before, found, first⟩ := primary
      exact same.trans (led.alone workspace before found first)
    case isFalse => exact led.alone other row there primary

theorem Led.retire_member {roster : Roster ω} {leader : ω} (led : Led roster leader)
    {workspace : ω} (other : workspace ≠ leader) : Led (retire roster workspace) leader := by
  constructor
  · rw [retire, if_neg (Ne.symm other)]
    exact led.leads
  · intro tested row there primary
    rw [retire] at there
    split at there
    · obtain rfl := Option.some.inj there
      cases primary
    · exact led.alone tested row there primary

/-- Enrolling keeps a roster proper. -/
theorem Proper.enroll {roster : Roster ω} (proper : Proper roster) (workspace : ω)
    (isPrimary : Bool) : Proper (enroll roster workspace isPrimary) := by
  obtain ⟨leader, led⟩ := (proper_iff roster).mp proper
  cases isPrimary with
  | true => exact (proper_iff _).mpr ⟨workspace, led_enroll_primary roster workspace⟩
  | false => exact (proper_iff _).mpr ⟨leader, led.enroll_member workspace⟩

end

/-! ## Books of rosters -/

/-- The roster of an owner. -/
def rosterOf (book : Book) (owner : Plain) : Roster WorkspaceId := fun workspaceId =>
  book.get (owner, workspaceId)

/-- The rows that are listed are the enabled ones. -/
theorem mem_listFor (book : Book) (owner : Plain) (workspaceId : WorkspaceId) (row : Membership) :
    (workspaceId, row) ∈ Book.listFor book owner ↔
      rosterOf book owner workspaceId = some row ∧ row.enabled = true := by
  have stored : (workspaceId, row) ∈ (book.entries.filter fun entry =>
      decide (entry.1.1 = owner) && entry.2.enabled).map (fun entry => (entry.1.2, entry.2)) ↔
      rosterOf book owner workspaceId = some row ∧ row.enabled = true := by
    rw [rosterOf, Dict.get_some_iff]
    constructor
    · intro member
      obtain ⟨⟨⟨held, workspace⟩, found⟩, kept, same⟩ := List.mem_map.mp member
      obtain ⟨present, tests⟩ := List.mem_filter.mp kept
      rw [Bool.and_eq_true, decide_eq_true_eq] at tests
      cases same
      exact ⟨tests.1 ▸ present, tests.2⟩
    · rintro ⟨present, on⟩
      exact List.mem_map.mpr ⟨((owner, workspaceId), row),
        List.mem_filter.mpr ⟨present, by simp [on]⟩, rfl⟩
  rw [Book.listFor, List.mem_append, List.mem_filter, List.mem_filter, stored]
  cases row.isPrimary <;> simp

/-- No workspace is listed twice. -/
theorem nodup_listFor (book : Book) (owner : Plain) :
    ((Book.listFor book owner).map Prod.fst).Nodup := by
  have apart : ((book.entries.filter fun entry =>
      decide (entry.1.1 = owner) && entry.2.enabled).map fun entry => entry.1.2).Nodup := by
    have keys := (List.Nodup.of_map Prod.fst book.distinct).filter fun entry =>
      decide (entry.1.1 = owner) && entry.2.enabled
    refine keys.map_on fun first firstIn second secondIn same => ?_
    obtain ⟨firstThere, firstOwn⟩ := List.mem_filter.mp firstIn
    obtain ⟨secondThere, secondOwn⟩ := List.mem_filter.mp secondIn
    rw [Bool.and_eq_true, decide_eq_true_eq] at firstOwn secondOwn
    have key : first.1 = second.1 := Prod.ext (firstOwn.1.trans secondOwn.1.symm) same
    exact List.inj_on_of_nodup_map book.distinct firstThere secondThere key
  have shuffled : (Book.listFor book owner).Perm ((book.entries.filter fun entry =>
      decide (entry.1.1 = owner) && entry.2.enabled).map fun entry => (entry.1.2, entry.2)) := by
    exact List.filter_append_perm _ _
  rw [(shuffled.map Prod.fst).nodup_iff, List.map_map]
  exact apart

/-! ## What the repository makes of a roster -/

/-- Rewriting rows under different keys rewrites each of them once. -/
theorem get_reviseAll_of_mem (book : Book) {keys : List (Plain × WorkspaceId)}
    (distinct : keys.Nodup) (change : Membership → Membership) {tested : Plain × WorkspaceId}
    (member : tested ∈ keys) :
    (book.reviseAll keys change).get tested = (book.get tested).map change := by
  induction keys generalizing book with
  | nil => cases member
  | cons key rest inductionHypothesis =>
    obtain ⟨fresh, others⟩ := List.nodup_cons.mp distinct
    rw [Dict.reviseAll, List.foldl_cons, ← Dict.reviseAll]
    by_cases same : key = tested
    · subst same
      rw [Dict.get_reviseAll_of_notMem _ _ fresh, Dict.get_revise_self]
    · rw [inductionHypothesis _ others ((List.mem_cons.mp member).resolve_left (Ne.symm same)),
        Dict.get_revise_ne _ _ same]

theorem rosterOf_clearOtherPrimary (book : Book) (owner tested : Plain) (kept : WorkspaceId)
    (workspaceId : WorkspaceId) :
    rosterOf (Book.clearOtherPrimary book owner kept) tested workspaceId =
      if tested = owner ∧ workspaceId ≠ kept then
        (rosterOf book tested workspaceId).map fun row => { row with isPrimary := false }
      else rosterOf book tested workspaceId := by
  unfold rosterOf Book.clearOtherPrimary
  split
  case isTrue other =>
    by_cases present : (tested, workspaceId) ∈ book.keys
    · refine get_reviseAll_of_mem book (book.distinct.filter _) _ (List.mem_filter.mpr ?_)
      exact ⟨present, by simp [other]⟩
    · have absent := (Dict.get_none_iff book (tested, workspaceId)).mpr present
      rw [absent, Option.map_none, Dict.get_reviseAll_none_iff, absent]
  case isFalse own =>
    refine Dict.get_reviseAll_of_notMem book _ fun member => own ?_
    have tests := (List.mem_filter.mp member).2
    rwa [Bool.and_eq_true, decide_eq_true_eq, decide_eq_true_eq] at tests

/-- Upserting enrolls, and leaves other owners alone. -/
theorem rosterOf_upsert (book : Book) (owner : Plain) (workspaceId : WorkspaceId)
    (isPrimary : Bool) : rosterOf (Book.upsert book owner workspaceId isPrimary) owner =
      enroll (rosterOf book owner) workspaceId isPrimary := by
  funext other
  have written : rosterOf (book.set (owner, workspaceId)
      ⟨(book.get (owner, workspaceId)).any Membership.isPrimary || isPrimary, true⟩) owner other =
      if other = workspaceId then
        some ⟨(book.get (owner, workspaceId)).any Membership.isPrimary || isPrimary, true⟩
      else rosterOf book owner other := by
    rw [rosterOf, Dict.get_set]
    by_cases same : other = workspaceId
    · rw [if_pos (by rw [same]), if_pos same]
    · rw [if_neg (by simp [Ne.symm same]), if_neg same]
      rfl
  unfold Book.upsert enroll
  cases isPrimary with
  | false => exact written
  | true =>
    dsimp only
    rw [if_pos rfl, rosterOf_clearOtherPrimary, written]
    by_cases same : other = workspaceId
    · rw [if_neg (by simp [same]), if_pos same, if_pos same]
      rfl
    · rw [if_pos ⟨rfl, same⟩, if_neg same, if_neg same, if_pos rfl]

theorem rosterOf_upsert_ne (book : Book) {owner tested : Plain} (different : tested ≠ owner)
    (workspaceId : WorkspaceId) (isPrimary : Bool) :
    rosterOf (Book.upsert book owner workspaceId isPrimary) tested = rosterOf book tested := by
  funext other
  have written (row : Membership) :
      rosterOf (book.set (owner, workspaceId) row) tested other = rosterOf book tested other :=
    Dict.get_set_ne book row (by simp [Ne.symm different])
  unfold Book.upsert
  cases isPrimary with
  | false => exact written _
  | true =>
    dsimp only
    rw [if_pos rfl, rosterOf_clearOtherPrimary, if_neg (by simp [different]), written]

/-- Disabling a member that does not lead retires it. -/
theorem rosterOf_disable_member {book : Book} {owner : Plain} {workspaceId : WorkspaceId}
    (member : rosterOf book owner workspaceId = some ⟨false, true⟩) :
    rosterOf (Book.disable book owner workspaceId) owner =
      retire (rosterOf book owner) workspaceId := by
  funext other
  unfold rosterOf at member
  unfold Book.disable retire
  rw [member]
  show rosterOf (book.set (owner, workspaceId) ⟨false, false⟩) owner other = _
  rw [rosterOf, Dict.get_set]
  by_cases same : other = workspaceId
  · rw [if_pos (by rw [same]), if_pos same]
  · rw [if_neg (by simp [Ne.symm same]), if_neg same]
    rfl

/-- The leader heads the list of its owner. -/
theorem listFor_of_led {book : Book} {owner : Plain} {leader : WorkspaceId}
    (led : Led (rosterOf book owner) leader) :
    ∃ rest, Book.listFor book owner = (leader, ⟨true, true⟩) :: rest := by
  have listed := (mem_listFor book owner leader ⟨true, true⟩).mpr ⟨led.leads, rfl⟩
  have first : ∀ entry ∈ Book.listFor book owner, entry.2.isPrimary = true →
      entry = (leader, ⟨true, true⟩) := by
    rintro ⟨workspace, row⟩ member primary
    obtain ⟨there, _⟩ := (mem_listFor book owner workspace row).mp member
    obtain rfl := led.alone workspace row there primary
    rw [led.leads] at there
    rw [← Option.some.inj there]
  unfold Book.listFor at listed first ⊢
  dsimp only at listed first ⊢
  generalize (book.entries.filter fun entry =>
    decide (entry.1.1 = owner) && entry.2.enabled).map (fun entry => (entry.1.2, entry.2)) = rows
    at listed first ⊢
  cases heads : rows.filter fun row => row.2.isPrimary with
  | nil =>
    rw [heads, List.nil_append] at listed
    exact absurd (List.mem_filter.mp listed).2 (by simp)
  | cons head tail =>
    refine ⟨tail ++ rows.filter fun row => !row.2.isPrimary, ?_⟩
    have member : head ∈ rows.filter fun row => row.2.isPrimary := by
      rw [heads]
      exact List.mem_cons_self
    rw [List.cons_append, first head (List.mem_append_left _ member) (List.mem_filter.mp member).2]

/-- Disabling the leader leaves it the primary one, and disabled. -/
theorem rosterOf_disable_leader {book : Book} {owner : Plain} {leader : WorkspaceId}
    (led : Led (rosterOf book owner) leader) :
    rosterOf (Book.disable book owner leader) owner leader = some ⟨true, false⟩ := by
  obtain ⟨rest, listed⟩ := listFor_of_led led
  have stored : book.get (owner, leader) = some ⟨true, true⟩ := led.leads
  unfold Book.disable
  rw [stored]
  dsimp only
  rw [Bool.not_true, if_neg Bool.false_ne_true, if_pos rfl, listed]
  dsimp only
  rw [if_neg ?_, rosterOf, Dict.get_revise_self, Dict.get_set_self]
  · rfl
  · rw [Bool.not_eq_true, List.any_eq_false]
    rintro ⟨workspace, row⟩ _
    rw [Dict.get_set]
    split
    case isTrue => decide
    case isFalse different =>
      rw [Option.any_eq_true]
      rintro ⟨found, there, primary⟩
      exact different (by rw [led.alone workspace found there primary])

theorem rosterOf_disable_ne (book : Book) {owner tested : Plain} (different : tested ≠ owner)
    (workspaceId : WorkspaceId) :
    rosterOf (Book.disable book owner workspaceId) tested = rosterOf book tested := by
  funext other
  have released (row : Membership) :
      rosterOf (book.set (owner, workspaceId) row) tested other = rosterOf book tested other :=
    Dict.get_set_ne book row (by simp [Ne.symm different])
  unfold Book.disable
  split
  · rfl
  · split
    · rfl
    · dsimp only
      split
      · exact released _
      · split
        · exact released _
        · rw [rosterOf, Dict.get_revise_ne _ _ (by simp [Ne.symm different])]
          exact released _

end MeetYou.WorkspaceMemberships
