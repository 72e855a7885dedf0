import MeetYou.SessionActor

/-!
# Whether a session's queue is served

Through every run of an actor payloads start in the order of their submission, each
at most once, none is lost, and one handler is open at a time. A queue that is not
empty when everything is at rest is being served, as long as the loop never collects
a cancelled handler while payloads wait. Where it does, the loop ends with the handler,
and the payloads stand still until the next submission.
-/

namespace MeetYou.SessionService

open SessionActor Runs

universe u
variable {Payload : Type u}

/-! ## The claims about every state -/

/-- Payloads start in the order of their submission and at most once: handler tasks
are numbered as the payloads were submitted. Each payload is queued or has its task,
and no two tasks are open at once. -/
structure Orderly (actor : Actor Payload) : Prop where
  started : actor.started.Pairwise (· < ·)
  kept : actor.handlers.map Handler.payload ++ actor.queue = actor.submitted
  single : ∀ (first second : Nat) one other, actor.handlers[first]? = some one →
    actor.handlers[second]? = some other → isOpen one → isOpen other → first = second

/-- No step of a task is scheduled. -/
def Quiescent (actor : Actor Payload) : Prop :=
  (∀ index, stepLoop actor index = none) ∧
    (∀ index progress, stepHandler actor index progress = none) ∧
      ∀ position, returnCanceller actor position = none

/-- The loop task runs, and waits for a handler that waits for something outside. -/
def Processing (actor : Actor Payload) : Prop :=
  ∃ index, actor.loops.getLast? = some (.awaiting index) ∧
    ∃ handler, actor.handlers[index]? = some handler ∧ handler.phase = .waiting

/-- At rest, a queue that is not empty is being processed. -/
def Served (actor : Actor Payload) : Prop :=
  Quiescent actor → actor.queue ≠ [] → Processing actor

/-- The loop collects a cancelled handler only with an empty queue. -/
def CollectsClean (actor : Actor Payload) (action : Action Payload) : Prop :=
  ∀ index handler, action = .stepLoop index → actor.loops[index]? = some (.awaiting handler) →
    outcomeOf actor handler = some .cancelled → actor.queue = []

theorem held_orderly {actor : Actor Payload} (held : Held actor) : Orderly actor where
  started := held.ordered
  kept := held.kept
  single := fun first second one other there beside open_ also => by
    obtain ⟨loop, waits⟩ := held.awaited first one there open_
    obtain ⟨place, waitsToo⟩ := held.awaited second other beside also
    have := held.last loop first waits
    have := held.last place second waitsToo
    omega

/-! ## Whether a loop runs -/

/-- Some loop task has not ended. -/
def Alive (actor : Actor Payload) : Prop :=
  ∃ (index : Nat) (loop : Loop), actor.loops[index]? = some loop ∧ loop ≠ .ended

/-- Payloads wait only while a loop runs. -/
def Serving (actor : Actor Payload) : Prop := actor.queue ≠ [] → Alive actor

theorem wakeGetter_alive {loops : List Loop} {index : Nat} {loop : Loop}
    (found : loops[index]? = some loop) (alive : loop ≠ .ended) :
    ∃ later, (wakeGetter loops)[index]? = some later ∧ later ≠ .ended := by
  have inside : index < (wakeGetter loops).length := by
    rw [wakeGetter_length]
    exact (List.getElem?_eq_some_iff.mp found).1
  refine ⟨_, List.getElem?_eq_getElem inside, fun finished => ?_⟩
  have there : (wakeGetter loops)[index]? = some .ended := by
    rw [List.getElem?_eq_getElem inside, finished]
  rcases wakeGetter_at there with same | ⟨_, woken⟩
  · rw [found] at same
    exact alive (Option.some.inj same)
  · cases woken

/-- A submission leaves a loop that runs. -/
theorem submit_alive (actor : Actor Payload) (payload : Payload) : Alive (submit actor payload) := by
  have running : Alive (ensureStarted actor) := by
    unfold ensureStarted
    split
    · exact ⟨actor.loops.length, .fresh, List.getElem?_concat_length, by simp⟩
    · rename_i going
      cases last : actor.loops.getLast? with
      | none => simp [taskDone, last] at going
      | some loop =>
        rw [List.getLast?_eq_getElem?] at last
        refine ⟨_, loop, last, fun finished => going ?_⟩
        rw [taskDone, List.getLast?_eq_getElem?, last, finished]
        rfl
  obtain ⟨index, loop, found, alive⟩ := running
  obtain ⟨later, there, also⟩ := wakeGetter_alive found alive
  exact ⟨index, later, there, also⟩

/-- A loop that goes on to the next payload runs. -/
theorem getPayload_alive {actor : Actor Payload} {index : Nat} (inside : index < actor.loops.length) :
    Alive (getPayload actor index) := by
  unfold getPayload
  split
  · exact ⟨index, .getting, List.getElem?_set_self inside, by simp⟩
  · exact ⟨index, _, List.getElem?_set_self inside, by simp⟩

/-- A step of a loop leaves it running, unless it collects a cancelled handler. -/
theorem stepLoop_cases {actor next : Actor Payload} {index : Nat}
    (taken : stepLoop actor index = some next) :
    Alive next ∨ ∃ handler, actor.loops[index]? = some (.awaiting handler) ∧
      outcomeOf actor handler = some .cancelled ∧ next.queue = actor.queue ∧
        next.loops = actor.loops.set index .ended := by
  unfold stepLoop at taken
  split at taken
  · rename_i found
    obtain rfl := Option.some.inj taken
    exact .inl (getPayload_alive (List.getElem?_eq_some_iff.mp found).1)
  · rename_i found
    obtain rfl := Option.some.inj taken
    exact .inl (getPayload_alive (List.getElem?_eq_some_iff.mp found).1)
  · rename_i handler found
    obtain ⟨outcome, finished, collected⟩ := Option.map_eq_some_iff.mp taken
    simp only at collected
    split at collected
    · rename_i cancelled
      subst collected
      exact .inr ⟨handler, found, cancelled ▸ finished, rfl, rfl⟩
    · subst collected
      exact .inl (getPayload_alive (List.getElem?_eq_some_iff.mp found).1)
  · cases taken

/-- Every action but a submission and a step of a loop leaves queue and loops alone. -/
theorem step_other {actor next : Actor Payload} {action : Action Payload}
    (taken : step actor action = some next) :
    (∃ payload, action = .submit payload ∧ next = submit actor payload) ∨
      (∃ index, action = .stepLoop index ∧ stepLoop actor index = some next) ∨
        (next.queue = actor.queue ∧ next.loops = actor.loops) := by
  cases action with
  | submit payload => exact .inl ⟨payload, rfl, (Option.some.inj taken).symm⟩
  | stepLoop index => exact .inr (.inl ⟨index, rfl, taken⟩)
  | cancel delivered =>
    obtain rfl := Option.some.inj taken
    simp only [cancelCurrent]
    right
    right
    split
    · exact ⟨rfl, rfl⟩
    · split <;> exact ⟨rfl, rfl⟩
  | stepHandler index progress =>
    simp only [step, stepHandler] at taken
    right
    right
    split at taken
    · split at taken
      · obtain rfl := Option.some.inj taken
        exact ⟨rfl, rfl⟩
      · obtain rfl := Option.some.inj taken
        exact ⟨rfl, rfl⟩
    · cases taken
  | wakeHandler index =>
    simp only [step, wakeHandler] at taken
    right
    right
    split at taken
    · obtain rfl := Option.some.inj taken
      exact ⟨rfl, rfl⟩
    · cases taken
  | returnCanceller position =>
    obtain ⟨handler, _, returned⟩ := Option.bind_eq_some_iff.mp taken
    obtain ⟨_, made⟩ := Option.ite_none_right_eq_some.mp returned
    obtain rfl := Option.some.inj made
    exact .inr (.inr ⟨rfl, rfl⟩)

/-- Payloads keep having a loop, as long as no cancelled handler is collected in
front of them. -/
theorem step_serving {actor next : Actor Payload} {action : Action Payload}
    (serving : Serving actor) (clean : CollectsClean actor action)
    (taken : step actor action = some next) : Serving next := by
  rcases step_other taken with ⟨payload, _, rfl⟩ | ⟨index, rfl, stepped⟩ | ⟨queue, loops⟩
  · exact fun _ => submit_alive actor payload
  · rcases stepLoop_cases stepped with alive | ⟨handler, found, cancelled, queue, _⟩
    · exact fun _ => alive
    · intro waiting
      rw [queue, clean index handler rfl found cancelled] at waiting
      exact absurd rfl waiting
  · intro waiting
    rw [queue] at waiting
    unfold Alive
    rw [loops]
    exact serving waiting

/-- A loop that runs while everything rests waits for a handler. -/
theorem serving_served {actor : Actor Payload} (held : Held actor) (serving : Serving actor) :
    Served actor := by
  rintro ⟨loopsRest, handlersRest, _⟩ waiting
  obtain ⟨index, loop, found, alive⟩ := serving waiting
  have newest := held.alone index loop found alive
  have last : actor.loops.getLast? = some loop := by
    rw [List.getLast?_eq_getElem?, ← found]
    congr 1
    omega
  have rests := loopsRest index
  unfold stepLoop at rests
  rw [found] at rests
  cases loop with
  | fresh => cases rests
  | woken => cases rests
  | getting => exact absurd (held.idle index found) waiting
  | ended => exact absurd rfl alive
  | awaiting handler =>
    have inside : handler < actor.handlers.length := by
      have := held.last index handler found
      omega
    obtain ⟨⟨payload, begun, phase⟩, there⟩ : ∃ current, actor.handlers[handler]? = some current :=
      ⟨_, List.getElem?_eq_getElem inside⟩
    refine ⟨handler, last, _, there, ?_⟩
    have still := handlersRest handler .yields
    cases phase with
    | waiting => rfl
    | done outcome => simp [outcomeOf, there] at rests
    | ready cancelling =>
      simp only [stepHandler, there] at still
      split at still <;> cases still

/-! ## Runs -/

/-- Through every run of an actor its payloads are kept in order, started at most once
and handled one at a time; and if the loop collects cancelled handlers only with an
empty queue, a queue that is not empty is being processed whenever everything rests. -/
theorem session_served (actions : List (Action Payload)) :
    Throughout step Orderly start actions ∧
      (Taking step CollectsClean start actions → Throughout step Served start actions) := by
  constructor
  · refine ⟨held_orderly start_held, ?_⟩
    have unconditional : Along step (fun _ _ => True) (start : Actor Payload) actions :=
      along_of_mem (fun _ _ _ => trivial) start
    refine Along.imp_of_invariant Held (fun _ _ _ held _ taken => step_held held taken) ?_
      start_held unconditional
    exact fun _ _ held _ next taken => held_orderly (step_held held taken)
  · intro clean
    refine ⟨serving_served start_held (fun waiting => absurd rfl waiting), ?_⟩
    refine Along.imp_of_invariant (fun actor => Held actor ∧ Serving actor) ?_ ?_
      ⟨start_held, fun waiting => absurd rfl waiting⟩ clean
    · rintro actor action next ⟨held, serving⟩ met taken
      exact ⟨step_held held taken, step_serving serving (met next taken) taken⟩
    · rintro actor action ⟨held, serving⟩ met next taken
      exact serving_served (step_held held taken) (step_serving serving (met next taken) taken)

/-- Two submissions, of which the first is cancelled. -/
def cancelledFirst : List (Action String) :=
  [.submit "a", .stepLoop 0, .stepHandler 0 .suspends, .submit "b", .cancel true,
    .stepHandler 0 (.ends .cancelled)]

/-- Up to the end of its handler the second is served. -/
theorem cancelled_first_served : Throughout step Served start cancelledFirst := by
  refine (session_served cancelledFirst).2 ⟨?_, ?_⟩
  · rintro _ _ index handler same
    cases same
  · rintro next taken
    obtain rfl := Option.some.inj taken
    refine ⟨?_, ?_⟩
    · rintro _ _ index handler same waits
      obtain rfl := Action.stepLoop.inj same
      cases waits
    · rintro next taken
      refine along_of_mem ?_ next
      rintro state action member _ _ index handler rfl
      simp at member

/-- The loop collects the cancelled handler, and the second payload is left without one. -/
theorem cancelled_first_strands_second :
    ¬ Throughout step Served (start : Actor String)
      (cancelledFirst ++ [.stepLoop 0, .returnCanceller 0]) := by
  intro served
  have completed : run step start (cancelledFirst ++ [.stepLoop 0, .returnCanceller 0]) =
      some ⟨["b"], [.ended], [⟨"a", true, .done .cancelled⟩], none, [], ["a", "b"], [0]⟩ := rfl
  have rests : Quiescent (Actor.mk ["b"] [.ended] [⟨"a", true, .done .cancelled⟩] none []
      ["a", "b"] [0]) := by
    refine ⟨fun index => ?_, fun index progress => ?_, fun position => rfl⟩
    · cases index <;> rfl
    · cases index <;> rfl
  obtain ⟨index, last, _⟩ := served.final completed rests (List.cons_ne_nil "b" [])
  cases last

/-- Payloads wait and every loop has ended. -/
def Stalled (actor : Actor Payload) : Prop := actor.queue ≠ [] ∧ ¬ Alive actor

/-- A cancelled handler collected in front of waiting payloads stalls them. -/
theorem unclean_stalls {actor next : Actor Payload} {action : Action Payload} (held : Held actor)
    (unclean : ¬ CollectsClean actor action) (taken : step actor action = some next) :
    Stalled next := by
  simp only [CollectsClean, Classical.not_forall] at unclean
  obtain ⟨index, handler, rfl, found, cancelled, waiting⟩ := unclean
  have inside : index < actor.loops.length := (List.getElem?_eq_some_iff.mp found).1
  simp only [step, stepLoop, found, cancelled, Option.map_some, if_true] at taken
  obtain rfl := Option.some.inj taken
  refine ⟨waiting, ?_⟩
  rintro ⟨other, loop, there, alive⟩
  by_cases same : other = index
  · subst same
    rw [List.getElem?_set_self inside] at there
    exact alive (Option.some.inj there).symm
  · rw [List.getElem?_set_ne (Ne.symm same)] at there
    exact alive (held.others found (by simp) there same)

/-- What has stalled stays so until the next submission. -/
theorem stalled_until_submitted {actor final : Actor Payload} {actions : List (Action Payload)}
    (stalled : Stalled actor) (none : ∀ payload, .submit payload ∉ actions)
    (completed : run step actor actions = some final) : Stalled final := by
  induction actions generalizing actor with
  | nil => exact Option.some.inj completed ▸ stalled
  | cons action rest inductionHypothesis =>
    obtain ⟨next, taken, remaining⟩ := run_cons.mp completed
    refine inductionHypothesis ?_ (fun payload member =>
      none payload (List.mem_cons_of_mem action member)) remaining
    rcases step_other taken with ⟨payload, rfl, _⟩ | ⟨index, rfl, stepped⟩ | ⟨queue, loops⟩
    · exact absurd List.mem_cons_self (none payload)
    · exfalso
      unfold stepLoop at stepped
      split at stepped
      · rename_i found
        exact stalled.2 ⟨index, _, found, by simp⟩
      · rename_i found
        exact stalled.2 ⟨index, _, found, by simp⟩
      · rename_i found
        exact stalled.2 ⟨index, _, found, by simp⟩
      · cases stepped
    · unfold Stalled Alive
      rw [queue, loops]
      exact stalled

end MeetYou.SessionService
