import Mathlib.Data.List.Basic

/-!
# Runs of a partial step function

A machine is a partial function from a state and an action to the next state; a
refused action has no successor. An action carries everything the machine does
not decide for itself (a clock reading, the outcome of an awaited call, which of
several parties moves next), so a list of actions fixes one interleaving and the
list of all actions ranges over every interleaving.

A run takes a list of actions in order. An invariant is proved once for a step
and carried to every run here. A run may also be watched by a condition on each
action and the state just before it; the condition is then available to the step
lemma. The rules name neither a machine nor a state space.
-/

namespace Runs

universe u v
variable {State : Type u} {Action : Type v}

/-- Take the actions in order. The run ends without a state at a refused action. -/
def run (step : State → Action → Option State) : State → List Action → Option State
  | state, [] => some state
  | state, action :: rest => (step state action).bind fun next => run step next rest

/-- Each action taken meets the condition in the state just before it. -/
def Along (step : State → Action → Option State) (condition : State → Action → Prop) :
    State → List Action → Prop
  | _, [] => True
  | state, action :: rest => condition state action ∧
      ∀ next, step state action = some next → Along step condition next rest

/-- The property holds at the start and after each step taken. -/
def Throughout (step : State → Action → Option State) (property : State → Prop)
    (state : State) (actions : List Action) : Prop :=
  property state ∧
    Along step (fun state action => ∀ next, step state action = some next → property next)
      state actions

/-- Each step taken meets the condition in the state just before it; a refused
step need not. -/
def Taking (step : State → Action → Option State) (condition : State → Action → Prop) :
    State → List Action → Prop :=
  Along step fun state action => ∀ next, step state action = some next → condition state action

/-- The states a machine reaches from its start. -/
def Reachable (step : State → Action → Option State) (start state : State) : Prop :=
  ∃ actions, run step start actions = some state

variable {step : State → Action → Option State} {condition : State → Action → Prop}

/-- A completed run of a nonempty list is a first step and a completed rest. -/
theorem run_cons {state final : State} {action : Action} {rest : List Action} :
    run step state (action :: rest) = some final ↔
      ∃ next, step state action = some next ∧ run step next rest = some final := by
  simp only [run, Option.bind_eq_some_iff]

/-- A run of two lists is a run of the first and then of the second. -/
theorem run_append {state final : State} {front rest : List Action} :
    run step state (front ++ rest) = some final ↔
      ∃ middle, run step state front = some middle ∧ run step middle rest = some final := by
  induction front generalizing state with
  | nil => simp [run]
  | cons action front inductionHypothesis =>
    rw [List.cons_append, run_cons]
    constructor
    · rintro ⟨next, taken, remaining⟩
      obtain ⟨middle, reached, finished⟩ := inductionHypothesis.mp remaining
      exact ⟨middle, run_cons.mpr ⟨next, taken, reached⟩, finished⟩
    · rintro ⟨middle, reached, finished⟩
      obtain ⟨next, taken, remaining⟩ := run_cons.mp reached
      exact ⟨next, taken, inductionHypothesis.mpr ⟨middle, remaining, finished⟩⟩

/-- A condition along a list that starts with a step the machine takes. -/
theorem along_cons {state next : State} {action : Action} {rest : List Action}
    (met : condition state action) (taken : step state action = some next)
    (remaining : Along step condition next rest) : Along step condition state (action :: rest) := by
  refine ⟨met, fun other also => ?_⟩
  rw [taken] at also
  exact Option.some.inj also ▸ remaining

/-- A condition that every listed action meets in every state is met along the list. -/
theorem along_of_mem {actions : List Action}
    (always : ∀ state, ∀ action ∈ actions, condition state action) (state : State) :
    Along step condition state actions := by
  induction actions generalizing state with
  | nil => trivial
  | cons action rest inductionHypothesis =>
    refine ⟨always state action List.mem_cons_self, fun next _ => ?_⟩
    exact inductionHypothesis (fun state other member =>
      always state other (List.mem_cons_of_mem action member)) next

/-- A condition along a list holds at the action a completed first part leads to. -/
theorem Along.at_action {state middle : State} {front rest : List Action} {action : Action}
    (along : Along step condition state (front ++ action :: rest))
    (completed : run step state front = some middle) : condition middle action := by
  induction front generalizing state with
  | nil => exact Option.some.inj completed ▸ along.1
  | cons first others inductionHypothesis =>
    obtain ⟨next, taken, remaining⟩ := run_cons.mp completed
    exact inductionHypothesis (along.2 next taken) remaining

/-- A stronger condition along a run gives a weaker one. -/
theorem Along.imp {weaker : State → Action → Prop}
    (implied : ∀ state action, condition state action → weaker state action)
    {state : State} {actions : List Action} (along : Along step condition state actions) :
    Along step weaker state actions := by
  induction actions generalizing state with
  | nil => trivial
  | cons action rest inductionHypothesis =>
    exact ⟨implied state action along.1, fun next taken => inductionHypothesis (along.2 next taken)⟩

/-- Two conditions along a run hold along it together. -/
theorem Along.and {other : State → Action → Prop} {state : State} {actions : List Action}
    (first : Along step condition state actions) (second : Along step other state actions) :
    Along step (fun state action => condition state action ∧ other state action) state actions := by
  induction actions generalizing state with
  | nil => trivial
  | cons action rest inductionHypothesis =>
    exact ⟨⟨first.1, second.1⟩, fun next taken =>
      inductionHypothesis (first.2 next taken) (second.2 next taken)⟩

/-- A condition that can be decided step by step can be decided along a list. -/
instance decidableAlong [∀ state action, Decidable (condition state action)] :
    ∀ (state : State) (actions : List Action), Decidable (Along step condition state actions)
  | _, [] => isTrue trivial
  | state, action :: rest =>
      match taken : step state action with
      | none => decidable_of_iff (condition state action) (by simp [Along, taken])
      | some next =>
          have := decidableAlong next rest
          decidable_of_iff (condition state action ∧ Along step condition next rest)
            (by simp [Along, taken])

/-- A condition on the steps that are taken can be decided. -/
instance decidableTaken (state : State) (action : Action) [Decidable (condition state action)] :
    Decidable (∀ next, step state action = some next → condition state action) :=
  match step state action with
  | none => isTrue fun _ other => nomatch other
  | some next => decidable_of_iff (condition state action)
      ⟨fun met _ _ => met, fun always => always next rfl⟩

instance decidableTaking [∀ state action, Decidable (condition state action)] (state : State)
    (actions : List Action) : Decidable (Taking step condition state actions) :=
  decidableAlong state actions

/-- Under an invariant the conditioned steps keep, one condition along a run gives
another. -/
theorem Along.imp_of_invariant (invariant : State → Prop) {other : State → Action → Prop}
    (preserved : ∀ state action next, invariant state → condition state action →
      step state action = some next → invariant next)
    (implied : ∀ state action, invariant state → condition state action → other state action)
    {state : State} {actions : List Action} (holds : invariant state)
    (along : Along step condition state actions) : Along step other state actions := by
  induction actions generalizing state with
  | nil => trivial
  | cons action rest inductionHypothesis =>
    refine ⟨implied state action holds along.1, fun next taken => ?_⟩
    exact inductionHypothesis (preserved state action next holds along.1 taken)
      (along.2 next taken)

/-- What one conditioned step preserves, a conditioned run preserves. -/
theorem run_preserves {invariant : State → Prop}
    (preserved : ∀ state action next, invariant state → condition state action →
      step state action = some next → invariant next)
    {state final : State} {actions : List Action} (holds : invariant state)
    (along : Along step condition state actions)
    (completed : run step state actions = some final) : invariant final := by
  induction actions generalizing state with
  | nil => exact Option.some.inj completed ▸ holds
  | cons action rest inductionHypothesis =>
    obtain ⟨next, taken, remaining⟩ := run_cons.mp completed
    exact inductionHypothesis (preserved state action next holds along.1 taken)
      (along.2 next taken) remaining

/-- What every step preserves holds in every reachable state. -/
theorem reachable_preserves {invariant : State → Prop}
    (preserved : ∀ state action next, invariant state →
      step state action = some next → invariant next)
    {start state : State} (holds : invariant start) (reachable : Reachable step start state) :
    invariant state := by
  obtain ⟨actions, completed⟩ := reachable
  have unconditional : Along step (fun _ _ => True) start actions :=
    along_of_mem (fun _ _ _ => trivial) start
  exact run_preserves
    (fun state action next holding _ taken => preserved state action next holding taken)
    holds unconditional completed

/-- Under an invariant that good steps keep, a property of states holds throughout
a run exactly when each step taken meets the condition that decides it. -/
theorem throughout_iff_taking (invariant : State → Prop) {property : State → Prop}
    (kept : ∀ state action next, invariant state → step state action = some next →
      property next → invariant next)
    (decided : ∀ state action next, invariant state → step state action = some next →
      (property next ↔ condition state action))
    {state : State} (holds : invariant state) (first : property state) (actions : List Action) :
    Throughout step property state actions ↔ Taking step condition state actions := by
  constructor
  · rintro ⟨_, along⟩
    refine Along.imp_of_invariant invariant ?_ ?_ holds along
    · exact fun state action next holding good taken =>
        kept state action next holding taken (good next taken)
    · exact fun state action holding good next taken =>
        (decided state action next holding taken).mp (good next taken)
  · intro along
    refine ⟨first, Along.imp_of_invariant invariant ?_ ?_ holds along⟩
    · exact fun state action next holding met taken =>
        kept state action next holding taken
          ((decided state action next holding taken).mpr (met next taken))
    · exact fun state action holding met next taken =>
        (decided state action next holding taken).mpr (met next taken)

/-- What holds throughout a run holds where it ends. -/
theorem Throughout.final {property : State → Prop} {state final : State} {actions : List Action}
    (throughout : Throughout step property state actions)
    (completed : run step state actions = some final) : property final := by
  obtain ⟨first, along⟩ := throughout
  exact run_preserves (fun _ _ next _ good taken => good next taken) first along completed

end Runs
