import Mathlib.Data.List.Basic
import MeetYou.Foundation.Runs

/-!
# The actor of a session

Each session has a queue of payloads and a loop task that takes one payload after
another, starts a handler task for it, and waits for that task. A submission puts a
payload into the queue and starts a loop task if there is none that still runs. A
cancellation cancels the handler task and waits for it as well.

A handler that ends cancelled ends the loop with it, whatever is still in the queue.
The next submission starts a new loop; until then the queue stands still. Payloads
are never lost, reordered, started twice or handled two at a time.
-/

namespace MeetYou.SessionActor

open Runs

universe u
variable {Payload : Type u}

/-- How a task ends. -/
inductive Outcome
  | finished
  | raised
  | cancelled
  deriving DecidableEq

/-- Where a handler task stands: its next step is scheduled, with a `CancelledError` to
be thrown into it or without, or it waits for something outside, or it has ended. -/
inductive HandlerPhase
  | ready (cancelling : Bool)
  | waiting
  | done (outcome : Outcome)
  deriving DecidableEq

/-- A handler task. `begun` tells that the handler's own code has been entered. -/
structure Handler (Payload : Type u) where
  payload : Payload
  begun : Bool
  phase : HandlerPhase

/-- Where a task of `_run` stands: before its first step, waiting in `queue.get()`,
woken there, waiting for a handler task, or ended. -/
inductive Loop
  | fresh
  | getting
  | woken
  | awaiting (handler : Nat)
  | ended
  deriving DecidableEq

/-- An actor with every task it has created. `_task` is the last of the loops;
`cancellers` are the handler tasks that calls of `cancel_current` wait for. The
payloads ever submitted and the handlers begun, in their order, are recorded. -/
structure Actor (Payload : Type u) where
  queue : List Payload
  loops : List Loop
  handlers : List (Handler Payload)
  activeHandlerTask : Option Nat
  cancellers : List Nat
  submitted : List Payload
  started : List Nat

/-- An actor that has not been used. -/
def start : Actor Payload := ⟨[], [], [], none, [], [], []⟩

/-! ## Operations -/

/-- `_task.done()`, or there is no task. -/
def taskDone (actor : Actor Payload) : Bool :=
  actor.loops.getLast?.all fun loop => decide (loop = .ended)

/-- `_ensure_started`. -/
def ensureStarted (actor : Actor Payload) : Actor Payload :=
  if taskDone actor then { actor with loops := actor.loops ++ [.fresh] } else actor

/-- `put` wakes the first task that waits in `get`. -/
def wakeGetter : List Loop → List Loop
  | [] => []
  | .getting :: rest => .woken :: rest
  | loop :: rest => loop :: wakeGetter rest

/-- `submit`: `_ensure_started`, then `put` into the unbounded queue. -/
def submit (actor : Actor Payload) (payload : Payload) : Actor Payload :=
  let running := ensureStarted actor
  { running with
    queue := running.queue ++ [payload]
    loops := wakeGetter running.loops
    submitted := running.submitted ++ [payload] }

/-- The loop in `queue.get()`: it waits, or takes the payload and starts its handler. -/
def getPayload (actor : Actor Payload) (index : Nat) : Actor Payload :=
  match actor.queue with
  | [] => { actor with loops := actor.loops.set index .getting }
  | payload :: rest =>
      { actor with
        queue := rest
        loops := actor.loops.set index (.awaiting actor.handlers.length)
        handlers := actor.handlers ++ [⟨payload, false, .ready false⟩]
        activeHandlerTask := some actor.handlers.length }

/-- The handler task has ended. -/
def outcomeOf (actor : Actor Payload) (handler : Nat) : Option Outcome :=
  match actor.handlers[handler]? with
  | some ⟨_, _, .done outcome⟩ => some outcome
  | _ => none

/-- A scheduled step of a `_run` task. A `CancelledError` of the handler is raised
again; any other end of the handler leads to the next payload. -/
def stepLoop (actor : Actor Payload) (index : Nat) : Option (Actor Payload) :=
  match actor.loops[index]? with
  | some .fresh => some (getPayload actor index)
  | some .woken => some (getPayload actor index)
  | some (.awaiting handler) =>
      (outcomeOf actor handler).map fun outcome =>
        let collected := { actor with activeHandlerTask := none }
        if outcome = .cancelled then
          { collected with loops := collected.loops.set index .ended }
        else getPayload collected index
  | _ => none

/-- What a step of the handler's own code does: it waits for something outside, lets
other tasks run first, or ends. -/
inductive Progress
  | suspends
  | yields
  | ends (outcome : Outcome)

/-- The phase a step of the handler leads to. -/
def Progress.phase : Progress → HandlerPhase
  | .suspends => .waiting
  | .yields => .ready false
  | .ends outcome => .done outcome

/-- A scheduled step of a handler task. One that is cancelled before its first step
ends without entering the handler. -/
def stepHandler (actor : Actor Payload) (index : Nat) (progress : Progress) :
    Option (Actor Payload) :=
  match actor.handlers[index]? with
  | some ⟨payload, begun, .ready cancelling⟩ =>
      if cancelling ∧ ¬begun then
        some { actor with handlers := actor.handlers.set index ⟨payload, false, .done .cancelled⟩ }
      else some { actor with
        handlers := actor.handlers.set index ⟨payload, true, progress.phase⟩
        started := if begun then actor.started else actor.started ++ [index] }
  | _ => none

/-- What the handler waits for is there. -/
def wakeHandler (actor : Actor Payload) (index : Nat) : Option (Actor Payload) :=
  match actor.handlers[index]? with
  | some ⟨payload, begun, .waiting⟩ =>
      some { actor with handlers := actor.handlers.set index ⟨payload, begun, .ready false⟩ }
  | _ => none

/-- `cancel_current` up to its wait. A handler that waits gets its `CancelledError` at
once (`delivered`), or only when the task it waits for ends. -/
def cancelCurrent (actor : Actor Payload) (delivered : Bool) : Actor Payload :=
  match actor.activeHandlerTask with
  | none => actor
  | some index =>
      match actor.handlers[index]? with
      | some ⟨payload, begun, .ready _⟩ =>
          { actor with
            handlers := actor.handlers.set index ⟨payload, begun, .ready true⟩
            cancellers := actor.cancellers ++ [index] }
      | some ⟨payload, begun, .waiting⟩ =>
          { actor with
            handlers := actor.handlers.set index
              ⟨payload, begun, if delivered then .ready true else .waiting⟩
            cancellers := actor.cancellers ++ [index] }
      | _ => actor

/-- A call of `cancel_current` whose handler task has ended returns. -/
def returnCanceller (actor : Actor Payload) (position : Nat) : Option (Actor Payload) :=
  actor.cancellers[position]?.bind fun handler =>
    if (outcomeOf actor handler).isSome then
      some { actor with cancellers := actor.cancellers.eraseIdx position }
    else none

/-- What can happen next, in any order. -/
inductive Action (Payload : Type u)
  | submit (payload : Payload)
  | cancel (delivered : Bool)
  | stepLoop (index : Nat)
  | stepHandler (index : Nat) (progress : Progress)
  | wakeHandler (index : Nat)
  | returnCanceller (position : Nat)

/-- A payload is submitted, the current one is cancelled, or the loop goes on. -/
def step (actor : Actor Payload) : Action Payload → Option (Actor Payload)
  | .submit payload => some (submit actor payload)
  | .cancel delivered => some (cancelCurrent actor delivered)
  | .stepLoop index => stepLoop actor index
  | .stepHandler index progress => stepHandler actor index progress
  | .wakeHandler index => wakeHandler actor index
  | .returnCanceller position => returnCanceller actor position

/-! ## Order -/

/-- A handler whose code runs or may still run. -/
def isOpen (handler : Handler Payload) : Prop := ∀ outcome, handler.phase ≠ .done outcome

/-- What holds of an actor at every time. -/
structure Held (actor : Actor Payload) : Prop where
  alone : ∀ (index : Nat) loop, actor.loops[index]? = some loop → loop ≠ .ended →
    index + 1 = actor.loops.length
  last : ∀ (index handler : Nat), actor.loops[index]? = some (.awaiting handler) →
    handler + 1 = actor.handlers.length
  awaited : ∀ (index : Nat) handler, actor.handlers[index]? = some handler → isOpen handler →
    ∃ loop : Nat, actor.loops[loop]? = some (.awaiting index)
  idle : ∀ index : Nat, actor.loops[index]? = some .getting → actor.queue = []
  kept : actor.handlers.map Handler.payload ++ actor.queue = actor.submitted
  begun : ∀ index ∈ actor.started, ∃ handler, actor.handlers[index]? = some handler ∧
    handler.begun = true
  ordered : actor.started.Pairwise (· < ·)

theorem start_held : Held (start : Actor Payload) where
  alone := fun _ _ found => by simp [start] at found
  last := fun _ _ found => by simp [start] at found
  awaited := fun _ _ found => by simp [start] at found
  idle := fun _ found => by simp [start] at found
  kept := rfl
  begun := fun _ member => by simp [start] at member
  ordered := List.Pairwise.nil

/-- Beside a loop that has not ended every loop has. -/
theorem Held.others {actor : Actor Payload} (held : Held actor) {index other : Nat}
    {loop beside : Loop} (found : actor.loops[index]? = some loop) (alive : loop ≠ .ended)
    (there : actor.loops[other]? = some beside) (different : other ≠ index) : beside = .ended := by
  by_contra also
  have := held.alone index loop found alive
  have := held.alone other beside there also
  omega

/-- While a loop waits for no handler, every handler has ended. -/
theorem Held.closed {actor : Actor Payload} (held : Held actor) {index : Nat} {loop : Loop}
    (found : actor.loops[index]? = some loop) (alive : loop ≠ .ended)
    (free : ∀ handler, loop = .awaiting handler → ∃ outcome, outcomeOf actor handler = some outcome)
    {other : Nat} {handler : Handler Payload} (there : actor.handlers[other]? = some handler) :
    ¬ isOpen handler := by
  intro going
  obtain ⟨place, waits⟩ := held.awaited other handler there going
  by_cases same : place = index
  · subst same
    rw [found] at waits
    obtain ⟨outcome, ended⟩ := free other (Option.some.inj waits)
    rw [outcomeOf, there] at ended
    cases phase : handler.phase with
    | done result => exact going result phase
    | ready cancelling =>
      obtain ⟨payload, begun, _⟩ := handler
      cases phase
      cases ended
    | waiting =>
      obtain ⟨payload, begun, _⟩ := handler
      cases phase
      cases ended
  · cases held.others found alive waits same

/-- A loop that waits for no open handler goes on to the next payload. -/
theorem getPayload_held {actor : Actor Payload} (held : Held actor) {index : Nat} {loop : Loop}
    (found : actor.loops[index]? = some loop) (alive : loop ≠ .ended)
    (free : ∀ handler, loop = .awaiting handler → ∃ outcome, outcomeOf actor handler = some outcome) :
    Held (getPayload actor index) := by
  have inside : index < actor.loops.length := (List.getElem?_eq_some_iff.mp found).1
  have newest := held.alone index loop found alive
  -- the other loops have ended, whatever this one turns to
  have after : ∀ (turned : Loop) (other : Nat) beside,
      (actor.loops.set index turned)[other]? = some beside →
        other = index ∧ beside = turned ∨ beside = .ended := by
    intro turned other beside there
    by_cases same : other = index
    · subst same
      rw [List.getElem?_set_self inside] at there
      exact Or.inl ⟨rfl, (Option.some.inj there).symm⟩
    · rw [List.getElem?_set_ne (Ne.symm same)] at there
      exact Or.inr (held.others found alive there same)
  unfold getPayload
  split
  · rename_i empty
    refine ⟨?_, ?_, ?_, ?_, held.kept, held.begun, held.ordered⟩
    · intro other beside there also
      rw [List.length_set]
      rcases after _ other beside there with ⟨rfl, _⟩ | ended
      · omega
      · exact absurd ended also
    · intro other handler there
      rcases after _ other _ there with ⟨_, turned⟩ | ended
      · cases turned
      · cases ended
    · intro other handler there going
      exact absurd going (held.closed found alive free there)
    · exact fun _ _ => empty
  · rename_i payload rest next
    refine ⟨?_, ?_, ?_, ?_, ?_, ?_, held.ordered⟩
    · intro other beside there also
      rw [List.length_set]
      rcases after _ other beside there with ⟨rfl, _⟩ | ended
      · omega
      · exact absurd ended also
    · intro other handler there
      rcases after _ other _ there with ⟨_, turned⟩ | ended
      · obtain rfl := Loop.awaiting.inj turned
        simp
      · cases ended
    · intro other handler there going
      by_cases old : other < actor.handlers.length
      · rw [List.getElem?_append_left old] at there
        exact absurd going (held.closed found alive free there)
      · -- the new handler is awaited by the loop that took its payload
        have within := (List.getElem?_eq_some_iff.mp there).1
        simp only [List.length_append, List.length_singleton] at within
        have newly : other = actor.handlers.length := by omega
        exact ⟨index, by rw [List.getElem?_set_self inside, newly]⟩
    · intro other there
      rcases after _ other _ there with ⟨_, turned⟩ | ended
      · cases turned
      · cases ended
    · rw [← held.kept, next]
      simp
    · intro begunIndex member
      obtain ⟨handler, there, entered⟩ := held.begun begunIndex member
      have old := (List.getElem?_eq_some_iff.mp there).1
      exact ⟨handler, by rw [List.getElem?_append_left old]; exact there, entered⟩

theorem stepLoop_held {actor next : Actor Payload} {index : Nat} (held : Held actor)
    (taken : stepLoop actor index = some next) : Held next := by
  unfold stepLoop at taken
  split at taken
  · rename_i found
    obtain rfl := Option.some.inj taken
    exact getPayload_held held found (by simp) (by simp)
  · rename_i found
    obtain rfl := Option.some.inj taken
    exact getPayload_held held found (by simp) (by simp)
  · rename_i handler found
    obtain ⟨outcome, finished, collected⟩ := Option.map_eq_some_iff.mp taken
    have free : ∀ other, Loop.awaiting handler = .awaiting other →
        ∃ outcome, outcomeOf actor other = some outcome := by
      intro other same
      obtain rfl := Loop.awaiting.inj same
      exact ⟨outcome, finished⟩
    have idle : Held { actor with activeHandlerTask := none } :=
      ⟨held.alone, held.last, held.awaited, held.idle, held.kept, held.begun, held.ordered⟩
    simp only at collected
    split at collected
    · -- the loop ends with its handler
      subst collected
      have inside : index < actor.loops.length := (List.getElem?_eq_some_iff.mp found).1
      have earlier : ∀ (other : Nat) loop, (actor.loops.set index .ended)[other]? = some loop →
          loop ≠ .ended → actor.loops[other]? = some loop := by
        intro other loop there also
        by_cases same : other = index
        · subst same
          rw [List.getElem?_set_self inside] at there
          exact absurd (Option.some.inj there).symm also
        · rwa [List.getElem?_set_ne (Ne.symm same)] at there
      refine ⟨?_, ?_, ?_, ?_, held.kept, held.begun, held.ordered⟩
      · intro other loop there also
        rw [List.length_set]
        exact held.alone other loop (earlier other loop there also) also
      · exact fun other waits there => held.last other waits (earlier other _ there (by simp))
      · exact fun other waits there going =>
          absurd going (held.closed found (by simp) free there)
      · exact fun other there => held.idle other (earlier other _ there (by simp))
    · subst collected
      exact getPayload_held idle found (by simp) free
  · cases taken

/-- An open handler moves on. -/
theorem Held.revise {actor : Actor Payload} (held : Held actor) {index : Nat}
    {old : Handler Payload} (there : actor.handlers[index]? = some old) (going : isOpen old)
    (begun : Bool) (phase : HandlerPhase) (grows : old.begun = true → begun = true)
    (cancellers : List Nat) :
    Held { actor with
      handlers := actor.handlers.set index ⟨old.payload, begun, phase⟩
      cancellers := cancellers } := by
  have inside : index < actor.handlers.length := (List.getElem?_eq_some_iff.mp there).1
  refine ⟨held.alone, ?_, ?_, held.idle, ?_, ?_, held.ordered⟩
  · intro loop handler waits
    rw [List.length_set]
    exact held.last loop handler waits
  · intro other handler found open_
    by_cases same : other = index
    · exact same ▸ held.awaited index old there going
    · rw [List.getElem?_set_ne (Ne.symm same)] at found
      exact held.awaited other handler found open_
  · have payloads : (actor.handlers.set index ⟨old.payload, begun, phase⟩).map Handler.payload =
        actor.handlers.map Handler.payload := by
      have listed : index < (actor.handlers.map Handler.payload).length := by
        rwa [List.length_map]
      have same : (actor.handlers.map Handler.payload)[index] = old.payload := by
        rw [List.getElem_map, (List.getElem?_eq_some_iff.mp there).2]
      rw [List.map_set]
      simp only
      rw [← same]
      exact List.set_getElem_self listed
    rw [payloads, held.kept]
  · intro other member
    obtain ⟨handler, found, entered⟩ := held.begun other member
    by_cases same : other = index
    · subst same
      rw [there] at found
      obtain rfl := Option.some.inj found
      exact ⟨_, List.getElem?_set_self inside, grows entered⟩
    · exact ⟨handler, by rw [List.getElem?_set_ne (Ne.symm same)]; exact found, entered⟩

theorem isOpen_ready (payload : Payload) (begun cancelling : Bool) :
    isOpen ⟨payload, begun, .ready cancelling⟩ := fun _ same => by cases same

theorem isOpen_waiting (payload : Payload) (begun : Bool) :
    isOpen ⟨payload, begun, .waiting⟩ := fun _ same => by cases same

theorem stepHandler_held {actor next : Actor Payload} {index : Nat} {progress : Progress}
    (held : Held actor) (taken : stepHandler actor index progress = some next) : Held next := by
  unfold stepHandler at taken
  split at taken
  · rename_i payload begun cancelling there
    split at taken
    · rename_i unbegun
      obtain rfl := Option.some.inj taken
      refine held.revise there (isOpen_ready payload begun cancelling) false (.done .cancelled) ?_
        actor.cancellers
      exact fun entered => absurd entered unbegun.2
    · obtain rfl := Option.some.inj taken
      have revised := held.revise there (isOpen_ready payload begun cancelling) true
        progress.phase (fun _ => rfl) actor.cancellers
      have inside : index < actor.handlers.length := (List.getElem?_eq_some_iff.mp there).1
      cases begun with
      | true => exact ⟨revised.alone, revised.last, revised.awaited, revised.idle, revised.kept,
          revised.begun, revised.ordered⟩
      | false =>
        refine ⟨revised.alone, revised.last, revised.awaited, revised.idle, revised.kept, ?_, ?_⟩
        · intro other member
          rcases List.mem_append.mp member with earlier | new
          · exact revised.begun other earlier
          · obtain rfl := List.mem_singleton.mp new
            exact ⟨_, List.getElem?_set_self inside, rfl⟩
        · -- the handler that begins is the newest, and has not begun before
          refine List.pairwise_append.mpr ⟨held.ordered, List.pairwise_singleton _ _, ?_⟩
          intro earlier member new single
          rw [List.mem_singleton.mp single]
          obtain ⟨loop, waits⟩ := held.awaited index _ there (isOpen_ready payload false cancelling)
          have newest := held.last loop index waits
          obtain ⟨handler, found, entered⟩ := held.begun earlier member
          have before := (List.getElem?_eq_some_iff.mp found).1
          have different : earlier ≠ index := by
            rintro rfl
            rw [there] at found
            obtain rfl := Option.some.inj found
            cases entered
          omega
  · cases taken

theorem wakeHandler_held {actor next : Actor Payload} {index : Nat} (held : Held actor)
    (taken : wakeHandler actor index = some next) : Held next := by
  unfold wakeHandler at taken
  split at taken
  · rename_i payload begun there
    obtain rfl := Option.some.inj taken
    exact held.revise there (isOpen_waiting payload begun) begun (.ready false) id actor.cancellers
  · cases taken

theorem cancelCurrent_held {actor : Actor Payload} (held : Held actor) (delivered : Bool) :
    Held (cancelCurrent actor delivered) := by
  unfold cancelCurrent
  split
  · exact held
  · rename_i index active
    split
    · rename_i payload begun cancelling there
      exact held.revise there (isOpen_ready payload begun cancelling) begun (.ready true) id _
    · rename_i payload begun there
      exact held.revise there (isOpen_waiting payload begun) begun _ id _
    · exact held

theorem returnCanceller_held {actor next : Actor Payload} {position : Nat} (held : Held actor)
    (taken : returnCanceller actor position = some next) : Held next := by
  obtain ⟨handler, _, returned⟩ := Option.bind_eq_some_iff.mp taken
  obtain ⟨_, made⟩ := Option.ite_none_right_eq_some.mp returned
  obtain rfl := Option.some.inj made
  exact ⟨held.alone, held.last, held.awaited, held.idle, held.kept, held.begun, held.ordered⟩

/-! ## Submission -/

@[simp] theorem wakeGetter_length (loops : List Loop) :
    (wakeGetter loops).length = loops.length := by
  induction loops with
  | nil => rfl
  | cons loop rest inductionHypothesis => cases loop <;> simp [wakeGetter, inductionHypothesis]

/-- A woken list has the loops it had, one of which may be woken. -/
theorem wakeGetter_at {loops : List Loop} {index : Nat} {loop : Loop}
    (found : (wakeGetter loops)[index]? = some loop) :
    loops[index]? = some loop ∨ (loops[index]? = some .getting ∧ loop = .woken) := by
  induction loops generalizing index with
  | nil => cases found
  | cons first rest inductionHypothesis =>
    cases index with
    | zero => cases first <;> simp_all [wakeGetter]
    | succ index => cases first <;> simp_all [wakeGetter]

/-- A loop that still waits stands behind another that waited. -/
theorem wakeGetter_getting {loops : List Loop} {index : Nat}
    (found : (wakeGetter loops)[index]? = some .getting) :
    ∃ earlier < index, loops[earlier]? = some .getting := by
  induction loops generalizing index with
  | nil => cases found
  | cons first rest inductionHypothesis =>
    cases index with
    | zero => cases first <;> simp_all [wakeGetter]
    | succ index =>
      cases first with
      | getting => exact ⟨0, Nat.succ_pos index, rfl⟩
      | fresh | woken | awaiting | ended =>
        obtain ⟨earlier, before, waits⟩ := inductionHypothesis found
        exact ⟨earlier + 1, Nat.succ_lt_succ before, waits⟩

theorem wakeGetter_awaiting {loops : List Loop} {index handler : Nat}
    (found : loops[index]? = some (.awaiting handler)) :
    (wakeGetter loops)[index]? = some (.awaiting handler) := by
  induction loops generalizing index with
  | nil => cases found
  | cons first rest inductionHypothesis =>
    cases index with
    | zero => cases first <;> simp_all [wakeGetter]
    | succ index => cases first <;> simp_all [wakeGetter]

/-- A new loop is started only where every loop has ended. -/
theorem ensureStarted_held {actor : Actor Payload} (held : Held actor) :
    Held (ensureStarted actor) := by
  unfold ensureStarted
  split
  · rename_i done
    have finished : ∀ (index : Nat) loop, actor.loops[index]? = some loop → loop = .ended := by
      intro index loop found
      by_contra alive
      have newest := held.alone index loop found alive
      have last : actor.loops.getLast? = some loop := by
        rw [List.getLast?_eq_getElem?, ← found]
        congr 1
        omega
      rw [taskDone, last] at done
      exact alive (of_decide_eq_true done)
    have fresh : ∀ (index : Nat) loop, (actor.loops ++ [.fresh])[index]? = some loop →
        loop = .ended ∨ (index = actor.loops.length ∧ loop = .fresh) := by
      intro index loop found
      by_cases old : index < actor.loops.length
      · rw [List.getElem?_append_left old] at found
        exact .inl (finished index loop found)
      · have within := (List.getElem?_eq_some_iff.mp found).1
        simp only [List.length_append, List.length_singleton] at within
        obtain rfl : index = actor.loops.length := by omega
        rw [List.getElem?_concat_length] at found
        exact .inr ⟨rfl, (Option.some.inj found).symm⟩
    refine ⟨?_, ?_, ?_, ?_, held.kept, held.begun, held.ordered⟩
    · intro index loop found alive
      rcases fresh index loop found with ended | ⟨newest, _⟩
      · exact absurd ended alive
      · simp [newest]
    · intro index handler found
      rcases fresh index _ found with ended | ⟨_, isFresh⟩
      · cases ended
      · cases isFresh
    · intro index handler found going
      obtain ⟨loop, waits⟩ := held.awaited index handler found going
      cases finished loop _ waits
    · intro index found
      rcases fresh index _ found with ended | ⟨_, isFresh⟩
      · cases ended
      · cases isFresh
  · exact held

theorem submit_held {actor : Actor Payload} (held : Held actor) (payload : Payload) :
    Held (submit actor payload) := by
  have running := ensureStarted_held held
  refine ⟨?_, ?_, ?_, ?_, ?_, running.begun, running.ordered⟩
  · intro index loop found alive
    simp only [submit, wakeGetter_length]
    rcases wakeGetter_at found with same | ⟨waited, _⟩
    · exact running.alone index loop same alive
    · exact running.alone index _ waited (by simp)
  · intro index handler found
    rcases wakeGetter_at found with same | ⟨_, woken⟩
    · exact running.last index handler same
    · cases woken
  · intro index handler found going
    obtain ⟨loop, waits⟩ := running.awaited index handler found going
    exact ⟨loop, wakeGetter_awaiting waits⟩
  · -- only one loop could wait, and it is woken
    intro index found
    obtain ⟨earlier, before, waits⟩ := wakeGetter_getting found
    rcases wakeGetter_at found with same | ⟨_, woken⟩
    · have := running.alone index _ same (by simp)
      have := running.alone earlier _ waits (by simp)
      omega
    · cases woken
  · simp only [submit]
    rw [← List.append_assoc, running.kept]

/-- Every step keeps what holds of an actor. -/
theorem step_held {actor next : Actor Payload} {action : Action Payload} (held : Held actor)
    (taken : step actor action = some next) : Held next := by
  cases action with
  | submit payload => exact Option.some.inj taken ▸ submit_held held payload
  | cancel delivered => exact Option.some.inj taken ▸ cancelCurrent_held held delivered
  | stepLoop index => exact stepLoop_held held taken
  | stepHandler index progress => exact stepHandler_held held taken
  | wakeHandler index => exact wakeHandler_held held taken
  | returnCanceller position => exact returnCanceller_held held taken

end MeetYou.SessionActor
