import Mathlib

/-!
# Keeping the best of a stream

Values of a linear order arrive one by one, and a bounded number of them is kept. What is kept leads
when nothing that was dropped is above any of it and nothing was dropped for want of room that was
there. A new value joins what is kept, the best of both are kept, and the rest is dropped: what is
kept then leads everything that ever arrived, although no more than it was looked at.
-/

namespace Leaders

variable {σ : Type} [LinearOrder σ] {limit : Nat} {kept dropped : List σ}

/-- What is kept under a limit, beside what was dropped. -/
structure Leading (limit : Nat) (kept dropped : List σ) : Prop where
  length : kept.length = min limit (kept.length + dropped.length)
  above : ∀ value ∈ kept, ∀ lost ∈ dropped, lost ≤ value

theorem leading_nil (limit : Nat) : Leading limit ([] : List σ) [] :=
  ⟨by simp, fun _ member => by cases member⟩

/-- The order in which values are listed does not matter. -/
theorem Leading.perm (leading : Leading limit kept dropped) {kept' dropped' : List σ}
    (same : kept'.Perm kept) (gone : dropped'.Perm dropped) : Leading limit kept' dropped' where
  length := by rw [same.length_eq, gone.length_eq]; exact leading.length
  above := fun value member lost also =>
    leading.above value (same.mem_iff.mp member) lost (gone.mem_iff.mp also)

/-- Values from the best on lead where they are cut. -/
theorem leading_take {ranked : List σ} (sorted : ranked.Pairwise fun first second => second ≤ first)
    (limit : Nat) : Leading limit (ranked.take limit) (ranked.drop limit) where
  length := by rw [List.length_take, List.length_drop]; omega
  above := by
    rw [← List.take_append_drop limit ranked] at sorted
    exact (List.pairwise_append.mp sorted).2.2

/-- A value joins what is kept; what leads then leads all that was dropped before as well. -/
theorem Leading.join (leading : Leading limit kept dropped) {value : σ} {kept' cut : List σ}
    (joined : Leading limit kept' cut) (same : (kept' ++ cut).Perm (value :: kept)) :
    Leading limit kept' (cut ++ dropped) := by
  have lengths := same.length_eq
  rw [List.length_append, List.length_cons] at lengths
  have before := leading.length
  have behind := joined.length
  constructor
  · rw [List.length_append]
    omega
  · intro held member lost gone
    rcases List.mem_append.mp gone with now | earlier
    · exact joined.above held member lost now
    · -- something was dropped before, so the room was full and one value is cut now
      have some_ := List.length_pos_of_mem earlier
      obtain ⟨out, single⟩ : ∃ out, cut = [out] := List.length_eq_one_iff.mp (by omega)
      subst single
      have among : held ∈ value :: kept := same.mem_iff.mp (List.mem_append_left _ member)
      rcases List.mem_cons.mp among with equal | old
      · have cut_among : out ∈ value :: kept :=
          same.mem_iff.mp (List.mem_append_right _ (List.mem_singleton_self out))
        rcases List.mem_cons.mp cut_among with returned | old
        · -- the new value was cut, so what is kept is what was kept before
          have rest : kept'.Perm kept := by
            have turned := (List.perm_append_singleton out kept').symm.trans same
            rw [returned] at turned
            exact (List.perm_cons value).mp turned
          exact leading.above held (rest.mem_iff.mp member) lost earlier
        · have below := joined.above held member out (List.mem_singleton_self out)
          exact (leading.above out old lost earlier).trans below
      · exact leading.above held old lost earlier

end Leaders
