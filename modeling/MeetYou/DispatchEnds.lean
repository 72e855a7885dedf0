import MeetYou.ToolOutcome

/-!
# What a dispatch leaves behind

A dispatch ends by returning, by an error of its own, by an exception of the transport or of the
database, or by a cancellation of its task. Only the wait for the future stands in a block that
removes the future from the table whatever happens, and nothing records a cancellation.

`ends_clean` says that neither a future nor an open row is left if no cancellation reaches a task
whose call is unanswered, the send does not raise, no record is lost to the database, and nothing
but an answer is recorded of a call that has one.
-/

namespace MeetYou.DispatchEnds

open OperationCalls Runs
open ToolDispatch hiding Action step

/-! ## Exceptions of the database -/

/-- Where the dispatch goes on when the database raises at what a step records. The update of the
routing statistics follows a record of a failure, so that the row may have been written. -/
def stopped (dispatch : Dispatch) (written : Bool) : Event → Option Dispatch
  | .unavailable => some { dispatch with phase := .finished .interrupted }
  | .sent true =>
      if written then none else some { dispatch with phase := .finished .interrupted }
  | .refuse => some { dispatch with registered := false, phase := .finished .interrupted }
  | .expire => some { dispatch with phase := .leaving .interrupted }
  | _ => none

/-- A step of the router, or an exception of the database in one. An exception after the record
of a frame loses what the frame has to tell the future. -/
inductive Action
  | act (action : ToolDispatch.Action)
  | recordRaises (callId : CallId) (event : Event) (written : Bool)
  | dropNotice (position : Nat)

/-- A step of the router, or a record that raises. -/
def step (router : Router) : Action → Option Router
  | .act action => ToolDispatch.step router action
  | .recordRaises callId event written =>
      match router.dispatches.get callId with
      | none => none
      | some dispatch =>
          match advance dispatch callId event with
          | some (_, some mark) =>
              (stopped dispatch written event).map fun next =>
                { router with
                  ledger := recorded router.ledger callId (if written then some mark else none)
                  dispatches := router.dispatches.set callId next }
          | _ => none
  | .dropNotice position => some { router with notices := router.notices.eraseIdx position }

/-! ## Clean ends -/

/-- A dispatch that is over has no future in the table, and its call is settled. -/
def EndsClean (router : Router) : Prop :=
  ∀ callId dispatch outcome, router.dispatches.get callId = some dispatch →
    dispatch.phase = .finished outcome → dispatch.registered = false ∧
      ∃ row, router.ledger.calls.get callId = some row ∧ row.status.terminal = true

/-- A cancellation of this task finds the wait answered. -/
def answered (dispatch : Dispatch) : Bool :=
  match dispatch.phase, dispatch.future with
  | .waiting, .pending => false
  | .waiting, _ => true
  | _, _ => false

/-- No exception or cancellation leaves the call as it is. -/
def uninterrupted (router : Router) : Action → Bool
  | .act (.task callId .cancel) => (router.dispatches.get callId).all answered
  | .act (.task _ .sendRaised) => false
  | .recordRaises _ _ written => written
  | _ => true

/-- What is recorded settles the call, unless the call is still open. -/
def recordsForward (router : Router) : Action → Bool
  | .act action =>
      match recordOf router action with
      | none => true
      | some (callId, mark) => mark.change.status.terminal ||
          (router.ledger.calls.get callId).all fun row => !row.status.terminal
  | _ => true

/-- No wait is interrupted and no record goes backward. -/
def calm (router : Router) (action : Action) : Bool :=
  uninterrupted router action && recordsForward router action

/-! ## The invariant -/

/-- The row of the call, if there is one, is settled. -/
def Over (ledger : Ledger) (callId : CallId) : Prop :=
  ∀ row, ledger.calls.get callId = some row → row.status.terminal = true

/-- What the phase of a dispatch says of its call and of its future. -/
def PhaseClean (ledger : Ledger) (callId : CallId) (dispatch : Dispatch) : Prop :=
  match dispatch.phase with
  | .registering => dispatch.registered = false ∧ dispatch.future ≠ .cancelled
  | .sending | .refused | .waiting => dispatch.future ≠ .cancelled
  | .expiring cancelled => cancelled = false
  | .leaving _ => Over ledger callId
  | .finished _ => dispatch.registered = false ∧ Over ledger callId

/-- The future has been told something. -/
def FutureState.told : FutureState → Bool
  | .result _ | .failed _ => true
  | .pending | .cancelled => false

/-- Every dispatch has its call row, and a call of which something final was told is over. -/
structure Clean (router : Router) : Prop where
  rows : ∀ callId dispatch, router.dispatches.get callId = some dispatch →
    ∃ row, router.ledger.calls.get callId = some row
  notices : ∀ callId notice, (callId, notice) ∈ router.notices → Over router.ledger callId
  futures : ∀ callId dispatch, router.dispatches.get callId = some dispatch →
    FutureState.told dispatch.future = true → Over router.ledger callId
  phases : ∀ callId dispatch, router.dispatches.get callId = some dispatch →
    PhaseClean router.ledger callId dispatch

theorem start_clean : Clean start where
  rows _ _ found := nomatch found
  notices _ _ member := nomatch member
  futures _ _ found := nomatch found
  phases _ _ found := nomatch found

/-- A record leaves settled calls settled, if it settles its call or finds it open. -/
theorem over_recorded {ledger : Ledger} {marked callId : CallId} {mark : Option Mark}
    (finished : Over ledger callId)
    (forward : ∀ recorded, mark = some recorded → recorded.change.status.terminal = true ∨
      ∀ row, ledger.calls.get marked = some row → row.status.terminal = false) :
    Over (recorded ledger marked mark) callId := by
  cases mark with
  | none => exact finished
  | some mark =>
    intro after found
    rw [recorded, get_record] at found
    split at found
    case isFalse => exact finished after found
    case isTrue same =>
      subst same
      obtain ⟨row, stored, rfl⟩ := Option.map_eq_some_iff.mp found
      rcases forward mark rfl with settles | isOpen
      · cases mark <;> exact settles
      · exact absurd (finished row stored) (by rw [isOpen row stored]; decide)

/-- A record that settles its call settles it. -/
theorem over_own (ledger : Ledger) (callId : CallId) {mark : Mark}
    (settles : mark.change.status.terminal = true) : Over (mark.record ledger callId) callId := by
  intro after found
  rw [get_record, if_pos rfl] at found
  obtain ⟨row, _, rfl⟩ := Option.map_eq_some_iff.mp found
  cases mark <;> exact settles

theorem PhaseClean.mono {ledger after : Ledger} {callId : CallId} {dispatch : Dispatch}
    (clean : PhaseClean ledger callId dispatch)
    (more : Over ledger callId → Over after callId) : PhaseClean after callId dispatch := by
  unfold PhaseClean at clean ⊢
  split <;> simp_all

/-- A wait that ends with an answered future leaves a settled call. -/
theorem conclude_clean {ledger : Ledger} {callId : CallId} {dispatch next : Dispatch}
    (waiting : dispatch.future ≠ .cancelled)
    (told : FutureState.told dispatch.future = true → Over ledger callId)
    (concluded : dispatch.conclude callId = some next) :
    next.future = dispatch.future ∧ PhaseClean ledger callId next := by
  unfold Dispatch.conclude at concluded
  split at concluded
  case h_1 => cases concluded
  case h_2 result settled =>
    cases concluded
    exact ⟨rfl, told (by rw [settled]; rfl)⟩
  case h_3 error settled =>
    cases concluded
    exact ⟨rfl, told (by rw [settled]; rfl)⟩
  case h_4 settled => exact absurd settled waiting

/-- A wait that is over and does not cancel the future is answered. -/
theorem stopWaiting_clean {ledger : Ledger} {callId : CallId} {dispatch next : Dispatch}
    {cancelled : Bool} (waiting : dispatch.future ≠ .cancelled)
    (told : FutureState.told dispatch.future = true → Over ledger callId)
    (kept : cancelled = true → dispatch.future ≠ .pending)
    (finished : dispatch.stopWaiting callId cancelled = some next) :
    (FutureState.told next.future = true → FutureState.told dispatch.future = true) ∧
      PhaseClean ledger callId next := by
  unfold Dispatch.stopWaiting at finished
  split at finished
  case h_1 pending =>
    cases finished
    refine ⟨(fun other => nomatch other), ?_⟩
    show cancelled = false
    rw [← Bool.not_eq_true]
    exact fun isCancelled => kept isCancelled pending
  case h_2 =>
    obtain ⟨same, clean⟩ := conclude_clean waiting told finished
    exact ⟨fun also => same ▸ also, clean⟩

/-- What a step of a dispatch leaves is clean, if it is not interrupted. -/
theorem advance_clean {ledger : Ledger} {callId : CallId} {dispatch next : Dispatch}
    {event : Event} {mark : Option Mark}
    (told : FutureState.told dispatch.future = true → Over ledger callId)
    (phase : PhaseClean ledger callId dispatch) (sends : event ≠ .sendRaised)
    (cancels : event = .cancel → answered dispatch = true)
    (advanced : advance dispatch callId event = some (next, mark)) :
    (FutureState.told next.future = true → FutureState.told dispatch.future = true) ∧
      PhaseClean (recorded ledger callId mark) callId next := by
  unfold PhaseClean at phase
  unfold advance at advanced
  split at advanced
  case h_1 registering =>
    cases advanced
    rw [registering] at phase
    exact ⟨id, phase.2⟩
  case h_2 registering =>
    cases advanced
    rw [registering] at phase
    exact ⟨id, phase.1, over_own ledger callId rfl⟩
  case h_3 sending =>
    cases advanced
    rw [sending] at phase
    exact ⟨id, phase⟩
  case h_4 sending =>
    cases advanced
    rw [sending] at phase
    exact ⟨id, phase⟩
  case h_5 => exact absurd rfl sends
  case h_6 =>
    split at advanced
    · cases advanced
      exact ⟨id, rfl, over_own ledger callId rfl⟩
    · cases advanced
      exact ⟨id, rfl, over_own ledger callId rfl⟩
  case h_7 waiting =>
    rw [waiting] at phase
    obtain ⟨concluded, ends, same⟩ := Option.map_eq_some_iff.mp advanced
    cases same
    obtain ⟨kept, clean⟩ := conclude_clean phase told ends
    exact ⟨fun also => kept ▸ also, clean⟩
  case h_8 waiting =>
    rw [waiting] at phase
    obtain ⟨concluded, ends, same⟩ := Option.map_eq_some_iff.mp advanced
    cases same
    exact stopWaiting_clean phase told (fun other => absurd other Bool.false_ne_true) ends
  case h_9 =>
    cases advanced
    exact ⟨id, over_own ledger callId rfl⟩
  case h_10 expiring =>
    rw [expiring] at phase
    cases phase
  case h_11 outcome leaving =>
    cases advanced
    rw [leaving] at phase
    exact ⟨id, rfl, phase⟩
  case h_15 waiting =>
    rw [waiting] at phase
    obtain ⟨concluded, ends, same⟩ := Option.map_eq_some_iff.mp advanced
    cases same
    refine stopWaiting_clean phase told (fun _ pending => ?_) ends
    have found := cancels rfl
    rw [answered, waiting, pending] at found
    cases found
  case h_18 => cases advanced
  all_goals
    next here =>
      have found := cancels rfl
      simp [answered, here] at found

/-- Telling the future something keeps the phase clean. -/
theorem settle_clean {ledger : Ledger} {callId : CallId} {dispatch : Dispatch} (notice : Notice)
    (clean : PhaseClean ledger callId dispatch) :
    PhaseClean ledger callId (dispatch.settle notice) := by
  have tells : notice.future ≠ .cancelled := by
    cases notice <;> exact fun other => nomatch other
  unfold Dispatch.settle
  split
  case h_1 =>
    unfold PhaseClean at clean ⊢
    dsimp only
    split <;> simp_all
  case h_2 => exact clean

/-- A step of one dispatch that leaves it clean leaves all of them clean. -/
theorem Clean.task {router : Router} (clean : Clean router) {callId : CallId}
    {dispatch next : Dispatch} {mark : Option Mark}
    (found : router.dispatches.get callId = some dispatch)
    (forward : ∀ recorded, mark = some recorded → recorded.change.status.terminal = true ∨
      ∀ row, router.ledger.calls.get callId = some row → row.status.terminal = false)
    (told : FutureState.told next.future = true → FutureState.told dispatch.future = true)
    (phase : PhaseClean (recorded router.ledger callId mark) callId next) :
    Clean { router with
      ledger := recorded router.ledger callId mark
      dispatches := router.dispatches.set callId next } where
  rows tested other there := by
    refine ToolOutcome.rows_recorded callId mark ?_
    rw [Dict.get_set] at there
    split at there
    case isTrue same => exact same ▸ clean.rows callId dispatch found
    case isFalse => exact clean.rows tested other there
  notices tested notice member := over_recorded (clean.notices tested notice member) forward
  futures tested other there settled := by
    rw [Dict.get_set] at there
    split at there
    case isTrue same =>
      obtain rfl := Option.some.inj there
      subst same
      exact over_recorded (clean.futures callId dispatch found (told settled)) forward
    case isFalse => exact over_recorded (clean.futures tested other there settled) forward
  phases tested other there := by
    rw [Dict.get_set] at there
    split at there
    case isTrue same =>
      obtain rfl := Option.some.inj there
      exact same ▸ phase
    case isFalse =>
      exact (clean.phases tested other there).mono fun finished => over_recorded finished forward

/-- What `recordsForward` says of a step that records something. -/
theorem forward_of_records {router : Router} {action : ToolDispatch.Action} {callId : CallId}
    {mark : Mark} (forward : recordsForward router (.act action) = true)
    (records : recordOf router action = some (callId, mark)) :
    mark.change.status.terminal = true ∨
      ∀ row, router.ledger.calls.get callId = some row → row.status.terminal = false := by
  rw [recordsForward, records] at forward
  dsimp only at forward
  rw [Bool.or_eq_true] at forward
  refine forward.imp_right fun isOpen row stored => ?_
  rw [stored, Option.all_some, Bool.not_eq_true'] at isOpen
  exact isOpen

/-- A step of the router keeps everything clean, if it is calm. -/
theorem act_clean {router next : Router} {action : ToolDispatch.Action} (clean : Clean router)
    (quiet : uninterrupted router (.act action) = true)
    (forward : recordsForward router (.act action) = true)
    (taken : ToolDispatch.step router action = some next) : Clean next := by
  cases action with
  | dispatch callId operationId request metadata =>
    obtain ⟨newCall, _, newDispatch, unnoticed, rfl⟩ := dispatch_spec taken
    have others (tested : CallId) (different : callId ≠ tested) :
        (createCall router.ledger callId operationId metadata).calls.get tested =
          router.ledger.calls.get tested := Dict.get_set_ne _ _ different
    have finished (tested : CallId) (different : callId ≠ tested) (held : Over router.ledger tested) :
        Over (createCall router.ledger callId operationId metadata) tested := by
      intro row found
      exact held row (by rw [← others tested different, found])
    constructor
    · intro tested dispatch found
      rw [Dict.get_set] at found
      split at found
      case isTrue same => exact same ▸ ⟨_, Dict.get_set_self _ _ _⟩
      case isFalse different =>
        obtain ⟨row, stored⟩ := clean.rows tested dispatch found
        exact ⟨row, (others tested different).trans stored⟩
    · intro tested notice member
      exact finished tested (Ne.symm (unnoticed _ member)) (clean.notices tested notice member)
    · intro tested dispatch found told
      rw [Dict.get_set] at found
      split at found
      case isTrue =>
        obtain rfl := Option.some.inj found
        cases told
      case isFalse different =>
        exact finished tested different (clean.futures tested dispatch found told)
    · intro tested dispatch found
      rw [Dict.get_set] at found
      split at found
      case isTrue =>
        obtain rfl := Option.some.inj found
        exact ⟨rfl, (fun other => by cases other)⟩
      case isFalse different =>
        exact (clean.phases tested dispatch found).mono (finished tested different)
  | task callId event =>
    obtain ⟨dispatch, after, mark, found, advanced, rfl⟩ := task_spec taken
    have onward : ∀ recorded, mark = some recorded → recorded.change.status.terminal = true ∨
        ∀ row, router.ledger.calls.get callId = some row → row.status.terminal = false := by
      rintro recorded rfl
      exact forward_of_records forward (by simp only [recordOf, found, advanced])
    obtain ⟨told, phase⟩ := advance_clean (clean.futures callId dispatch found)
      (clean.phases callId dispatch found) (fun raises => by subst raises; cases quiet)
      (fun cancels => by
        subst cancels
        rw [uninterrupted, found] at quiet
        exact quiet) advanced
    exact clean.task found onward told phase
  | frame callId frame =>
    rcases frame_spec taken with ⟨_, rfl⟩ | ⟨named, rfl⟩
    · exact clean
    · have onward : ∀ recorded, some frame.mark = some recorded →
          recorded.change.status.terminal = true ∨ ∀ row,
            router.ledger.calls.get (Text.strip callId) = some row →
            row.status.terminal = false := by
        intro recorded same
        obtain rfl := Option.some.inj same
        exact forward_of_records forward (by rw [recordOf, if_neg named])
      constructor
      · intro tested dispatch found
        exact ToolOutcome.rows_recorded _ (some frame.mark) (clean.rows tested dispatch found)
      · intro tested notice member
        cases told : frame.notice with
        | none =>
          rw [told] at member
          exact over_recorded (clean.notices tested notice member) onward
        | some own =>
          rw [told] at member
          rcases List.mem_append.mp member with earlier | new
          · exact over_recorded (clean.notices tested notice earlier) onward
          · obtain ⟨rfl, _⟩ := Prod.mk.inj (List.mem_singleton.mp new)
            refine over_own router.ledger _ ?_
            cases frame with
            | accepted => cases told
            | progress => cases told
            | result => rfl
            | error => rfl
            | cancel => rfl
      · intro tested dispatch found told
        exact over_recorded (clean.futures tested dispatch found told) onward
      · intro tested dispatch found
        exact (clean.phases tested dispatch found).mono fun finished => over_recorded finished onward
  | settle position =>
    obtain ⟨callId, notice, listed, rfl⟩ := settle_spec taken
    have finished := clean.notices callId notice (List.mem_of_getElem? listed)
    have revised (tested : CallId) (dispatch : Dispatch)
        (found : (router.dispatches.revise callId fun dispatch =>
          dispatch.settle notice).get tested = some dispatch) :
        router.dispatches.get tested = some dispatch ∨ callId = tested ∧
          ∃ before, router.dispatches.get callId = some before ∧
            dispatch = before.settle notice := by
      rw [Dict.get_revise] at found
      split at found
      case isTrue same =>
        obtain ⟨before, stored, rfl⟩ := Option.map_eq_some_iff.mp found
        exact Or.inr ⟨same, before, stored, rfl⟩
      case isFalse => exact Or.inl found
    constructor
    · intro tested dispatch found
      rcases revised tested dispatch found with same | ⟨rfl, before, stored, _⟩
      · exact clean.rows tested dispatch same
      · exact clean.rows callId before stored
    · intro tested other member
      exact clean.notices tested other (List.mem_of_mem_eraseIdx member)
    · intro tested dispatch found told
      rcases revised tested dispatch found with same | ⟨rfl, _⟩
      · exact clean.futures tested dispatch same told
      · exact finished
    · intro tested dispatch found
      rcases revised tested dispatch found with same | ⟨rfl, before, stored, rfl⟩
      · exact clean.phases tested dispatch same
      · exact settle_clean notice (clean.phases callId before stored)
  | restart =>
    obtain rfl := Option.some.inj taken
    exact ⟨(fun _ _ found => by cases found), (fun _ _ member => by cases member),
      (fun _ _ found => by cases found), (fun _ _ found => by cases found)⟩

/-- Where the database raises after the record, the call is settled. -/
theorem stopped_clean {ledger : Ledger} {callId : CallId} {dispatch after next : Dispatch}
    {event : Event} {mark : Mark} (phase : PhaseClean ledger callId dispatch)
    (advanced : advance dispatch callId event = some (after, some mark))
    (stops : stopped dispatch true event = some next) :
    mark.change.status.terminal = true ∧ next.future = dispatch.future ∧
      PhaseClean (recorded ledger callId (some mark)) callId next := by
  cases event with
  | unavailable =>
    obtain rfl := Option.some.inj stops
    cases there : dispatch.phase <;> simp only [advance, there] at advanced <;> try cases advanced
    rw [PhaseClean, there] at phase
    exact ⟨rfl, rfl, phase.1, over_own ledger callId rfl⟩
  | sent accepted => cases accepted <;> cases stops
  | refuse =>
    obtain rfl := Option.some.inj stops
    cases there : dispatch.phase <;> simp only [advance, there] at advanced <;> try cases advanced
    split at advanced
    · cases advanced
      exact ⟨rfl, rfl, rfl, over_own ledger callId rfl⟩
    · cases advanced
      exact ⟨rfl, rfl, rfl, over_own ledger callId rfl⟩
  | expire =>
    obtain rfl := Option.some.inj stops
    cases there : dispatch.phase with
    | expiring cancelled =>
      cases cancelled <;> simp only [advance, there] at advanced <;> cases advanced
      exact ⟨rfl, rfl, over_own ledger callId rfl⟩
    | _ =>
      simp only [advance, there] at advanced
      cases advanced
  | register | sendRaised | wake | timeout | leave | cancel => cases stops

/-- A calm step keeps everything clean. -/
theorem step_clean {router next : Router} {action : Action} (clean : Clean router)
    (met : calm router action = true) (taken : step router action = some next) : Clean next := by
  rw [calm, Bool.and_eq_true] at met
  obtain ⟨quiet, forward⟩ := met
  cases action with
  | act action => exact act_clean clean quiet forward taken
  | recordRaises callId event written =>
    have done : written = true := quiet
    subst done
    simp only [step] at taken
    split at taken
    case h_1 => cases taken
    case h_2 dispatch found =>
      split at taken
      case h_2 => cases taken
      case h_1 after mark advanced =>
        obtain ⟨next, stops, rfl⟩ := Option.map_eq_some_iff.mp taken
        obtain ⟨settles, same, phase⟩ :=
          stopped_clean (clean.phases callId dispatch found) advanced stops
        refine clean.task found ?_ (fun told => same ▸ told) phase
        intro recorded own
        exact Or.inl (Option.some.inj own ▸ settles)
  | dropNotice position =>
    obtain rfl := Option.some.inj taken
    exact ⟨clean.rows, fun callId notice member =>
      clean.notices callId notice (List.mem_of_mem_eraseIdx member), clean.futures, clean.phases⟩

/-- A clean dispatch that is over has ended clean. -/
theorem Clean.ends {router : Router} (clean : Clean router) : EndsClean router := by
  intro callId dispatch outcome found finished
  have phase := clean.phases callId dispatch found
  rw [PhaseClean, finished] at phase
  obtain ⟨row, stored⟩ := clean.rows callId dispatch found
  exact ⟨phase.1, row, stored, phase.2 row stored⟩

/-- In a run whose steps are all calm, every dispatch that is over has left nothing behind. -/
theorem ends_clean (actions : List Action)
    (quiet : Taking step (fun router action => calm router action = true) start actions) :
    Throughout step EndsClean start actions := by
  refine ⟨start_clean.ends, Along.imp_of_invariant Clean ?_ ?_ start_clean quiet⟩
  · exact fun router action next clean met taken => step_clean clean (met next taken) taken
  · exact fun router action clean met next taken => (step_clean clean (met next taken) taken).ends

/-! ## Runs of one call -/

/-- The call is created and its request is sent. -/
def sentCall : List Action :=
  [.act (.dispatch "call" 1 { targetId := "desk" } Dict.empty), .act (.task "call" .register),
    .act (.task "call" (.sent true))]

/-- The answer reaches the waiting task, which returns it. -/
theorem answered_call_ends_clean : Throughout step EndsClean start
    (sentCall ++ [.act (.frame "call" .accepted), .act (.frame "call" (.result Dict.empty)),
      .act (.settle 0), .act (.task "call" .wake), .act (.task "call" .leave)]) :=
  ends_clean _ (by decide +kernel)

/-- A finished dispatch has left its future in the table, or its row open. -/
def leftBehind (router : Router) : Bool :=
  (router.dispatches.get "call").any fun dispatch => (match dispatch.phase with
    | .finished _ => true
    | _ => false) && (dispatch.registered ||
      !(router.ledger.calls.get "call").any fun row => row.status.terminal)

theorem not_throughout_of_leftBehind {actions : List Action}
    (left : (run step start actions).any leftBehind = true) :
    ¬ Throughout step EndsClean start actions := by
  intro clean
  obtain ⟨router, reached, left⟩ := (Option.any_eq_true _ _).mp left
  obtain ⟨dispatch, found, ended⟩ := (Option.any_eq_true _ _).mp left
  rw [Bool.and_eq_true, Bool.or_eq_true] at ended
  cases phase : dispatch.phase with
  | finished outcome =>
    obtain ⟨removed, row, stored, settled⟩ :=
      clean.final reached "call" dispatch outcome found phase
    rw [removed, stored, Option.any_some, settled] at ended
    simp at ended
  | _ => simp [phase] at ended

/-- A cancellation while the request is sent, one while the answer is awaited, an exception of the
send, an exception of the database after it, and an answer that is quicker than the record of the
dispatch. -/
theorem interruptions_leave_behind :
    (¬ Throughout step EndsClean start
      [.act (.dispatch "call" 1 { targetId := "desk" } Dict.empty), .act (.task "call" .register),
        .act (.task "call" .cancel)]) ∧
    (¬ Throughout step EndsClean start
      (sentCall ++ [.act (.task "call" .cancel), .act (.task "call" .expire),
        .act (.task "call" .leave)])) ∧
    (¬ Throughout step EndsClean start
      [.act (.dispatch "call" 1 { targetId := "desk" } Dict.empty), .act (.task "call" .register),
        .act (.task "call" .sendRaised)]) ∧
    (¬ Throughout step EndsClean start
      [.act (.dispatch "call" 1 { targetId := "desk" } Dict.empty), .act (.task "call" .register),
        .recordRaises "call" (.sent true) false]) ∧
    ¬ Throughout step EndsClean start
      [.act (.dispatch "call" 1 { targetId := "desk" } Dict.empty), .act (.task "call" .register),
        .act (.frame "call" (.result Dict.empty)), .act (.settle 0),
        .act (.task "call" (.sent true)), .act (.task "call" .wake),
        .act (.task "call" .leave)] :=
  ⟨not_throughout_of_leftBehind (by decide +kernel),
    not_throughout_of_leftBehind (by decide +kernel),
    not_throughout_of_leftBehind (by decide +kernel),
    not_throughout_of_leftBehind (by decide +kernel),
    not_throughout_of_leftBehind (by decide +kernel)⟩

end MeetYou.DispatchEnds
