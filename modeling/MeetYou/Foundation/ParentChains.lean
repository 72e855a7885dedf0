import Mathlib.Data.List.Nodup

/-!
# Chains of parent pointers

A table of nodes gives each stored node an optional parent. A chain from a node
lists the nodes met by following parents until one without a parent is reached;
it exists only where every node met is stored and the walk ends. A chain repeats
no node, because the walk from a repeated node would not end.

The walk itself carries the nodes it has seen and stops at a repeated one, so it
ends on every table; where a chain exists the walk returns it. Giving a parent to
a node that had none lengthens the chains through it, unless the new parent lies
below the node: then no chain starts from the node any more.
-/

namespace ParentChains

universe u
variable {α : Type u} {links changed : α → Option (Option α)}

/-- The nodes met from a start, each stored, the last one without a parent. -/
inductive Chain (links : α → Option (Option α)) : Option α → List α → Prop where
  | done : Chain links none []
  | link {node : α} {parent : Option α} {rest : List α} (stored : links node = some parent)
      (above : Chain links parent rest) : Chain links (some node) (node :: rest)

/-- From every stored node a chain starts. -/
def Forest (links : α → Option (Option α)) : Prop :=
  ∀ node parent, links node = some parent → ∃ trail, Chain links (some node) trail

/-- Follow parents from a start until none is left, a node is not stored, or a
node repeats. The fuel bounds the number of nodes met. -/
def follow [DecidableEq α] (links : α → Option (Option α)) : Nat → List α → Option α → List α
  | 0, _, _ => []
  | _ + 1, _, none => []
  | fuel + 1, seen, some node =>
      match links node with
      | none => []
      | some parent => if node ∈ seen then [] else node :: follow links fuel (node :: seen) parent

namespace Chain

variable {start : Option α} {trail : List α}

/-- A start has at most one chain. -/
theorem unique {other : List α} (chain : Chain links start trail) (also : Chain links start other) :
    trail = other := by
  induction chain generalizing other with
  | done =>
    cases also
    rfl
  | link stored above inductionHypothesis =>
    cases also with
    | link storedToo aboveToo =>
      rw [stored] at storedToo
      cases storedToo
      rw [inductionHypothesis aboveToo]

/-- Every node met is stored. -/
theorem stored (chain : Chain links start trail) {node : α} (member : node ∈ trail) :
    ∃ parent, links node = some parent := by
  induction chain with
  | done => cases member
  | link stored above inductionHypothesis =>
    rcases List.mem_cons.mp member with rfl | below
    · exact ⟨_, stored⟩
    · exact inductionHypothesis below

/-- The chain from a node met is the rest of the chain from there. -/
theorem suffix (chain : Chain links start trail) {node : α} (member : node ∈ trail) :
    ∃ rest, Chain links (some node) (node :: rest) ∧ (node :: rest) <:+ trail := by
  induction chain with
  | done => cases member
  | link stored above inductionHypothesis =>
    rcases List.mem_cons.mp member with rfl | below
    · exact ⟨_, link stored above, List.suffix_refl _⟩
    · obtain ⟨rest, chain, ends⟩ := inductionHypothesis below
      exact ⟨rest, chain, ends.trans (List.suffix_cons _ _)⟩

/-- A chain repeats no node. -/
theorem nodup (chain : Chain links start trail) : trail.Nodup := by
  induction chain with
  | done => exact List.nodup_nil
  | @link node parent rest stored above inductionHypothesis =>
    refine List.nodup_cons.mpr ⟨fun member => ?_, inductionHypothesis⟩
    obtain ⟨tail, again, ends⟩ := above.suffix member
    have same := (link stored above).unique again
    have shorter := ends.length_le
    rw [← same, List.length_cons] at shorter
    omega

/-- A table that stores the nodes of the chain under the same parents has the
chain. -/
theorem congr (chain : Chain links start trail)
    (same : ∀ node ∈ trail, changed node = links node) : Chain changed start trail := by
  induction chain with
  | done => exact done
  | @link node parent rest stored above inductionHypothesis =>
    refine link ((same node List.mem_cons_self).trans stored) (inductionHypothesis ?_)
    exact fun other member => same other (List.mem_cons_of_mem node member)

/-- What lies on the chain of a node that lies on another chain lies there too. -/
theorem mem_trans {upper : List α} {node other : α} (chain : Chain links start trail)
    (member : node ∈ trail) (above : Chain links (some node) upper) (on : other ∈ upper) :
    other ∈ trail := by
  obtain ⟨rest, same, ends⟩ := chain.suffix member
  rw [above.unique same] at on
  exact ends.subset on

/-- Two nodes on the chains of each other are the same node. -/
theorem antisymm {lower upper : List α} {first second : α}
    (below : Chain links (some first) lower) (above : Chain links (some second) upper)
    (firstOn : first ∈ upper) (secondOn : second ∈ lower) : first = second := by
  obtain ⟨_, sameLower, endsUpper⟩ := above.suffix firstOn
  obtain ⟨_, sameUpper, endsLower⟩ := below.suffix secondOn
  rw [← below.unique sameLower] at endsUpper
  rw [← above.unique sameUpper] at endsLower
  have same : lower = upper := endsUpper.eq_of_length
    (Nat.le_antisymm endsUpper.length_le endsLower.length_le)
  subst same
  cases below
  cases above
  rfl

/-- A node without a parent is given one whose chain does not pass through it: a
chain through the node goes on with that chain, and no other chain changes. -/
theorem graft [DecidableEq α] {root : α} {parent : Option α} {upper : List α} (chain : Chain links start trail)
    (isRoot : links root = some none) (above : Chain links parent upper) (apart : root ∉ upper)
    (grafted : changed root = some parent) (same : ∀ node, node ≠ root → changed node = links node) :
    Chain changed start (if root ∈ trail then trail ++ upper else trail) := by
  have upperKept : Chain changed parent upper :=
    above.congr fun node member => same node fun equal => apart (equal ▸ member)
  induction chain with
  | done => exact done
  | @link node next rest stored rising inductionHypothesis =>
    by_cases here : node = root
    · subst here
      rw [isRoot] at stored
      cases stored
      cases rising
      simpa using link grafted upperKept
    · have kept := link ((same node here).trans stored) inductionHypothesis
      by_cases below : root ∈ rest
      · simpa [below] using kept
      · simpa [below, Ne.symm here] using kept

/-- A node without a parent is given one from whose chain it is reached: no chain
starts from the node any more. -/
theorem no_chain_through {root : α} {parent : Option α} {upper : List α}
    (above : Chain links parent upper) (below : root ∈ upper)
    (grafted : changed root = some parent) (same : ∀ node, node ≠ root → changed node = links node) :
    ¬ Chain changed (some root) trail := by
  intro chain
  have returns : ∀ {from' : Option α} {reached met : List α}, Chain links from' reached →
      root ∈ reached → Chain changed from' met → root ∈ met := by
    intro from' reached met old
    induction old generalizing met with
    | done => exact fun member => nomatch member
    | @link node next rest stored rising inductionHypothesis =>
      intro member new
      cases new with
      | link storedNow risingNow =>
        by_cases here : node = root
        · exact here ▸ List.mem_cons_self
        · rw [same node here, stored] at storedNow
          cases storedNow
          have later := (List.mem_cons.mp member).resolve_left (Ne.symm here)
          exact List.mem_cons_of_mem node (inductionHypothesis later risingNow)
  cases chain with
  | link stored rising =>
    rw [grafted] at stored
    cases stored
    exact (List.nodup_cons.mp (link grafted rising).nodup).1 (returns above below rising)

end Chain

section
variable [DecidableEq α]

/-- Where a chain exists, a walk with enough fuel that has seen none of it
returns it. -/
theorem follow_chain {start : Option α} {trail : List α} (chain : Chain links start trail) :
    ∀ {fuel : Nat} {seen : List α}, trail.length ≤ fuel → (∀ node ∈ trail, node ∉ seen) →
      follow links fuel seen start = trail := by
  induction chain with
  | done =>
    intro fuel seen _ _
    cases fuel <;> rfl
  | @link node parent rest stored above inductionHypothesis =>
    intro fuel seen enough unseen
    obtain ⟨more, rfl⟩ := Nat.exists_eq_succ_of_ne_zero (Nat.ne_of_gt (Nat.zero_lt_of_lt enough))
    obtain ⟨absent, _⟩ := List.nodup_cons.mp (Chain.link stored above).nodup
    have later : follow links more (node :: seen) parent = rest := by
      refine inductionHypothesis (Nat.le_of_succ_le_succ enough) fun other member repeated => ?_
      rcases List.mem_cons.mp repeated with rfl | earlier
      · exact absent member
      · exact unseen other (List.mem_cons_of_mem node member) earlier
    simp only [follow, stored, if_neg (unseen node List.mem_cons_self), later]

end

end ParentChains
