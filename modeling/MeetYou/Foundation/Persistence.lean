import MeetYou.Foundation.Dict
import MeetYou.Foundation.Runs

/-!
# What persists along a run

What must not change any more is a relation of two states, the earlier and the later. If it is
reflexive and transitive, it holds between any two states of a run exactly when it holds along
every step of the run.
-/

namespace Runs

universe u v
variable {State : Type u} {Action : Type v} {step : State → Action → Option State}
variable {condition : State → Action → Prop} {relation : State → State → Prop}

/-- Any two states of the run are related, the earlier first. -/
def Persists (step : State → Action → Option State) (relation : State → State → Prop)
    (start : State) (actions : List Action) : Prop :=
  ∀ front between rest earlier later, actions = front ++ (between ++ rest) →
    run step start front = some earlier → run step earlier between = some later →
    relation earlier later

/-- A condition along a list holds along the rest of it. -/
theorem Along.drop {state middle : State} {front rest : List Action}
    (along : Along step condition state (front ++ rest))
    (completed : run step state front = some middle) : Along step condition middle rest := by
  induction front generalizing state with
  | nil => exact Option.some.inj completed ▸ along
  | cons first others inductionHypothesis =>
    obtain ⟨next, taken, remaining⟩ := run_cons.mp completed
    exact inductionHypothesis (along.2 next taken) remaining

/-- What every step keeps persists, and what persists every step keeps. -/
theorem persists_iff_along (reflexive : ∀ state, relation state state)
    (transitive : ∀ earlier middle later, relation earlier middle → relation middle later →
      relation earlier later) (start : State) (actions : List Action) :
    Persists step relation start actions ↔ Along step (fun state action =>
      ∀ next, step state action = some next → relation state next) start actions := by
  constructor
  · intro persists
    induction actions generalizing start with
    | nil => trivial
    | cons action rest inductionHypothesis =>
      refine ⟨fun next taken => ?_, fun next taken => inductionHypothesis next ?_⟩
      · exact persists [] [action] rest start next rfl rfl (run_cons.mpr ⟨next, taken, rfl⟩)
      · intro front between last earlier later same reached completed
        exact persists (action :: front) between last earlier later (by rw [same]; rfl)
          (run_cons.mpr ⟨next, taken, reached⟩) completed
  · intro along front between rest earlier later same reached completed
    rw [same] at along
    have remaining := along.drop reached
    clear along same reached
    induction between generalizing earlier with
    | nil => exact Option.some.inj completed ▸ reflexive earlier
    | cons action others inductionHypothesis =>
      obtain ⟨next, taken, finished⟩ := run_cons.mp completed
      exact transitive earlier next later (remaining.1 next taken)
        (inductionHypothesis next finished (remaining.2 next taken))

/-- Under an invariant that good steps keep, a law about each step holds along a run exactly when
each step taken meets the condition that decides it. -/
theorem along_iff_taking (invariant : State → Prop) {law : State → Action → State → Prop}
    (kept : ∀ state action next, invariant state → step state action = some next →
      law state action next → invariant next)
    (decided : ∀ state action next, invariant state → step state action = some next →
      (law state action next ↔ condition state action))
    {state : State} (holds : invariant state) (actions : List Action) :
    Along step (fun state action => ∀ next, step state action = some next →
      law state action next) state actions ↔ Taking step condition state actions := by
  constructor
  · intro along
    refine Along.imp_of_invariant invariant ?_ ?_ holds along
    · exact fun state action next holding good taken =>
        kept state action next holding taken (good next taken)
    · exact fun state action holding good next taken =>
        (decided state action next holding taken).mp (good next taken)
  · intro along
    refine Along.imp_of_invariant invariant ?_ ?_ holds along
    · exact fun state action next holding met taken =>
        kept state action next holding taken
          ((decided state action next holding taken).mpr (met next taken))
    · exact fun state action holding met next taken =>
        (decided state action next holding taken).mpr (met next taken)

/-! ## Settled rows -/

/-- The rows of a table that are settled are the same in another. -/
def KeepsRows {κ ν : Type} [DecidableEq κ] (settled : ν → Prop) (same : ν → ν → Prop)
    (before after : Dict κ ν) : Prop :=
  ∀ key row, before.get key = some row → settled row →
    ∃ later, after.get key = some later ∧ same row later

section
variable {κ ν : Type} [DecidableEq κ] {settled : ν → Prop} {same : ν → ν → Prop}

theorem keepsRows_refl (reflexive : ∀ row, same row row) (table : Dict κ ν) :
    KeepsRows settled same table table :=
  fun _ row present _ => ⟨row, present, reflexive row⟩

theorem keepsRows_trans (transitive : ∀ row middle later, same row middle → same middle later →
      same row later) (stays : ∀ row later, settled row → same row later → settled later)
    {before between after : Dict κ ν} (first : KeepsRows settled same before between)
    (second : KeepsRows settled same between after) : KeepsRows settled same before after := by
  intro key row present is
  obtain ⟨middle, there, equal⟩ := first key row present is
  obtain ⟨later, last, again⟩ := second key middle there (stays row middle is equal)
  exact ⟨later, last, transitive row middle later equal again⟩

/-- A change of one row keeps the settled rows exactly if it keeps this one. -/
theorem keepsRows_revise_iff (reflexive : ∀ row, same row row) (table : Dict κ ν) (key : κ)
    (change : ν → ν) : KeepsRows settled same table (table.revise key change) ↔
      ∀ row, table.get key = some row → settled row → same row (change row) := by
  constructor
  · intro keeps row present is
    obtain ⟨later, there, equal⟩ := keeps key row present is
    rw [Dict.get_revise_self, present] at there
    cases there
    exact equal
  · intro kept tested row present is
    by_cases own : key = tested
    · subst own
      exact ⟨change row, by rw [Dict.get_revise_self, present]; rfl, kept row present is⟩
    · exact ⟨row, (Dict.get_revise_ne table change own).trans present, reflexive row⟩

/-- So does a new value for a row that is there. -/
theorem keepsRows_set_iff (reflexive : ∀ row, same row row) (table : Dict κ ν) {key : κ}
    {row : ν} (present : table.get key = some row) (value : ν) :
    KeepsRows settled same table (table.set key value) ↔ (settled row → same row value) := by
  have revised : table.set key value = table.revise key fun _ => value := by
    unfold Dict.revise
    rw [present]
  rw [revised, keepsRows_revise_iff reflexive]
  constructor
  · exact fun kept => kept row present
  · intro kept other there
    rw [present] at there
    cases there
    exact kept

end

end Runs
