import MeetYou.AdapterService
import MeetYou.Foundation.Runs

/-!
# Answers of the research adapter

Clients post requests to the adapter, ask for its runs and cancel them, in any order. In between
the adapter goes on with the executions of its runs, and a restart forgets all of them.

What the adapter has answered stands: a run it answers for was created by a request, under an id
of its own, and two answers for one run agree in the order they were given. In no order of
requests and executions is a run completed after an answer said that it is cancelled, and an
answer for a run that is completed or has failed is never changed.
-/

namespace MeetYou.AdapterRuns

open Runs AdapterService

/-! ## The adapter -/

/-- A request to the adapter. -/
inductive Request
  | create (payload : RunRequest)
  | get (runId : String)
  | cancel (runId : String)

/-- The runs in `RUNS`, and the ids that have been drawn. -/
structure Service where
  rows : Dict String Row
  used : List String

/-- How the adapter handles a request; an unknown run is answered with an error, which is `none`.
A new run is given an id that has not been drawn before. -/
def Service.handle (service : Service) (request : Request) (runId now : String) :
    Option (Service × Option Answer) :=
  match request with
  | .create payload =>
    if runId ∈ service.used then none
    else
      let row := createRun runId now payload
      some (⟨service.rows.set runId row, runId :: service.used⟩, some row.shown)
  | .get asked => some (service, (service.rows.get asked).map Row.shown)
  | .cancel asked =>
    match service.rows.get asked with
    | none => some (service, none)
    | some row => some ({ service with rows := service.rows.set asked (cancelRun now row) },
        some (cancelRun now row).shown)

/-- The adapter, with the answers it has given and to which requests, newest first. -/
structure State where
  service : Service
  given : List (Request × Answer)

/-- No task and no work. -/
def start : State := ⟨⟨Dict.empty, []⟩, []⟩

/-- What the adapter does next: it handles a request, begins an execution or goes on with one, or
is restarted. -/
inductive Action
  | serves (request : Request) (runId now : String)
  | executes (runId : String) (environment : Environment) (now : String)
  | resumes (runId : String) (environment : Environment) (wait : Wait) (now : String)
  | restarts

/-- One step of the adapter; nothing is executed but a run that stands where the step begins. -/
def step (str : Json → String) (state : State) : Action → Option State
  | .serves request runId now =>
    (state.service.handle request runId now).map fun (service, answer) =>
      ⟨service, (answer.map fun answer => (request, answer)).toList ++ state.given⟩
  | .executes runId environment now =>
    match state.service.rows.get runId with
    | none => none
    | some row =>
      if row.phase = .queued then some { state with
        service := { state.service with
          rows := state.service.rows.set runId (executeRun str environment now row) } }
      else none
  | .resumes runId environment wait now =>
    match state.service.rows.get runId with
    | none => none
    | some row => (resumeRun str environment wait now row).map fun next => { state with
        service := { state.service with rows := state.service.rows.set runId next } }
  | .restarts => some { state with service := { state.service with rows := Dict.empty } }

/-! ## What answers come to -/

/-- The first answer for a run, which is the one to the request that created it. -/
def Created (given : List (Request × Answer)) (payload : RunRequest) (runId : String) : Prop :=
  ∃ first, (.create payload, first) ∈ given ∧ first.runId = runId

/-- Every answer is well formed and about the run that was asked for, which a request created; the
answer to a cancellation says that the run has stopped. Of two answers for one run the later one
follows the earlier one and creates nothing, and the run as it is follows them all. -/
structure AnswersStand (state : State) : Prop where
  formed : ∀ entry ∈ state.given, WellFormed entry.2
  about : ∀ entry ∈ state.given, ∀ asked, entry.1 = .get asked ∨ entry.1 = .cancel asked →
    entry.2.runId = asked
  created : ∀ entry ∈ state.given, ∃ payload, Created state.given payload entry.2.runId
  stopped : ∀ entry ∈ state.given, ∀ asked, entry.1 = .cancel asked → entry.2.status ≠ "running"
  ordered : state.given.Pairwise fun later earlier => later.2.runId = earlier.2.runId →
    Follows earlier.2 later.2 ∧ ∀ payload, later.1 ≠ .create payload
  standing : ∀ entry ∈ state.given, ∀ row, state.service.rows.get entry.2.runId = some row →
    Follows entry.2 row.shown

/-! ## The adapter between two answers -/

/-- What the adapter keeps: its rows are sound and filed under their ids, which it has drawn. -/
structure Service.Sound (service : Service) : Prop where
  rows : ∀ runId row, service.rows.get runId = some row →
    AdapterService.Sound row ∧ row.shown.runId = runId ∧ runId ∈ service.used

/-- Later the adapter has drawn no other id, and has a row only where it had one, which has gone
on. -/
structure Evolves (service next : Service) : Prop where
  sound : next.Sound
  used : next.used = service.used
  rows : ∀ runId row, next.rows.get runId = some row →
    ∃ before, service.rows.get runId = some before ∧ Follows before.shown row.shown ∧
      row.request = before.request

/-- A row behind a write is the one written, or stood there before. -/
theorem set_cases {rows : Dict String Row} {runId other : String} {row held : Row}
    (placed : (rows.set runId row).get other = some held) :
    (other = runId ∧ held = row) ∨ (runId ≠ other ∧ rows.get other = some held) := by
  by_cases same : runId = other
  · subst same
    rw [Dict.get_set_self] at placed
    exact Or.inl ⟨rfl, (Option.some.inj placed).symm⟩
  · rw [Dict.get_set_ne _ _ same] at placed
    exact Or.inr ⟨same, placed⟩

theorem no_row (runId : String) (row : Row) :
    (Dict.empty : Dict String Row).get runId ≠ some row := by
  rw [Dict.get_empty]
  nofun

section
variable {service : Service}

/-- A row that goes on. -/
theorem evolves_set (sound : service.Sound) {runId : String} {row after : Row}
    (found : service.rows.get runId = some row) (goes : Goes row after) :
    Evolves service { service with rows := service.rows.set runId after } := by
  obtain ⟨_, filed, drawn⟩ := sound.rows runId row found
  refine ⟨⟨?_⟩, rfl, ?_⟩
  · intro other held placed
    rcases set_cases placed with ⟨rfl, rfl⟩ | ⟨_, before⟩
    · exact ⟨goes.sound, goes.follows.run.trans filed, drawn⟩
    · exact sound.rows other held before
  · intro other held placed
    rcases set_cases placed with ⟨rfl, rfl⟩ | ⟨_, before⟩
    · exact ⟨row, found, goes.follows, goes.request⟩
    · exact ⟨held, before, Follows.refl _, rfl⟩

/-- Without its rows the adapter keeps the ids it has drawn. -/
theorem evolves_restart (service : Service) :
    Evolves service { service with rows := Dict.empty } where
  sound := ⟨fun runId row found => absurd found (no_row runId row)⟩
  used := rfl
  rows runId row found := absurd found (no_row runId row)

/-- A cancelled run has stopped. -/
theorem cancelRun_stopped (now : String) (row : Row) :
    (cancelRun now row).shown.status ≠ "running" := by
  unfold cancelRun
  dsimp only
  split
  · exact fun same => absurd (show "cancelled" = "running" from same) (by decide)
  case isFalse stopped => exact stopped

end

/-! ## The answers given -/

/-- The answers stand, under ids that were drawn, and every row is that of a run which a request
created. -/
structure Sound (state : State) : Prop where
  service : state.service.Sound
  drawn : ∀ entry ∈ state.given, entry.2.runId ∈ state.service.used
  begun : ∀ runId row, state.service.rows.get runId = some row →
    Created state.given row.request runId
  stands : AnswersStand state

theorem start_sound : Sound start where
  service := ⟨fun runId row found => absurd found (no_row runId row)⟩
  drawn := nofun
  begun runId row found := absurd found (no_row runId row)
  stands := ⟨nofun, nofun, nofun, nofun, List.Pairwise.nil, nofun⟩

section
variable {state next : State}

theorem Created.cons {given : List (Request × Answer)} {payload : RunRequest} {runId : String}
    (created : Created given payload runId) (entry : Request × Answer) :
    Created (entry :: given) payload runId := by
  obtain ⟨first, member, filed⟩ := created
  exact ⟨first, List.mem_cons_of_mem _ member, filed⟩

/-- The adapter goes on without an answer. -/
theorem Sound.evolves (sound : Sound state) {service : Service}
    (evolves : Evolves state.service service) : Sound { state with service := service } where
  service := evolves.sound
  drawn entry member := evolves.used ▸ sound.drawn entry member
  begun runId row found := by
    obtain ⟨before, held, _, request⟩ := evolves.rows runId row found
    rw [request]
    exact sound.begun runId before held
  stands :=
    { sound.stands with
      standing := fun entry member row found => by
        obtain ⟨before, held, follows, _⟩ := evolves.rows _ row found
        exact (sound.stands.standing entry member before held).trans follows }

/-- The adapter answers what it holds of a run. -/
theorem Sound.answers (sound : Sound state) {request : Request} {asked : String} {row : Row}
    (about : request = .get asked ∨ request = .cancel asked)
    (found : state.service.rows.get asked = some row)
    (stopped : request = .cancel asked → row.shown.status ≠ "running") :
    Sound { state with given := (request, row.shown) :: state.given } := by
  obtain ⟨formed, filed, used⟩ := sound.service.rows asked row found
  have begun := sound.begun asked row found
  refine ⟨sound.service, ?_, fun runId row held => (sound.begun runId row held).cons _, ?_⟩
  · exact List.forall_mem_cons.mpr ⟨filed ▸ used, sound.drawn⟩
  have asks : ∀ other, request = .get other ∨ request = .cancel other → asked = other := by
    rintro other (rfl | rfl) <;> rcases about with same | same <;> cases same <;> rfl
  refine ⟨?_, ?_, ?_, ?_, ?_, ?_⟩
  · exact List.forall_mem_cons.mpr ⟨formed.shown, sound.stands.formed⟩
  · exact List.forall_mem_cons.mpr ⟨fun other is => filed.trans (asks other is),
      sound.stands.about⟩
  · refine List.forall_mem_cons.mpr ⟨⟨row.request, (filed ▸ begun).cons _⟩, ?_⟩
    intro entry member
    obtain ⟨payload, created⟩ := sound.stands.created entry member
    exact ⟨payload, created.cons _⟩
  · refine List.forall_mem_cons.mpr ⟨fun other is => ?_, sound.stands.stopped⟩
    obtain rfl := asks other (Or.inr is)
    exact stopped is
  · refine List.pairwise_cons.mpr ⟨fun entry member same => ⟨?_, ?_⟩, sound.stands.ordered⟩
    · exact sound.stands.standing entry member row (same ▸ filed.symm ▸ found)
    · rintro payload rfl
      rcases about with impossible | impossible <;> cases impossible
  · refine List.forall_mem_cons.mpr ⟨fun held there => ?_, sound.stands.standing⟩
    rw [filed, found] at there
    obtain rfl := Option.some.inj there
    exact Follows.refl _

/-- A request creates a run under an id that no answer has. -/
theorem Sound.creates (sound : Sound state) {runId : String} (payload : RunRequest) (now : String)
    (fresh : runId ∉ state.service.used) :
    Sound ⟨⟨state.service.rows.set runId (createRun runId now payload),
        runId :: state.service.used⟩,
      (.create payload, (createRun runId now payload).shown) :: state.given⟩ := by
  have apart : ∀ entry ∈ state.given, runId ≠ entry.2.runId := by
    rintro entry member rfl
    exact fresh (sound.drawn entry member)
  have created : Created ((.create payload, (createRun runId now payload).shown) :: state.given)
      payload runId := ⟨_, List.mem_cons_self, rfl⟩
  refine ⟨⟨?_⟩, ?_, ?_, ⟨?_, ?_, ?_, ?_, ?_, ?_⟩⟩
  · intro other held placed
    rcases set_cases placed with ⟨rfl, rfl⟩ | ⟨_, before⟩
    · exact ⟨createRun_sound _ _ _, rfl, List.mem_cons_self⟩
    · obtain ⟨formed, filed, drawn⟩ := sound.service.rows other held before
      exact ⟨formed, filed, List.mem_cons_of_mem _ drawn⟩
  · exact List.forall_mem_cons.mpr ⟨List.mem_cons_self,
      fun entry member => List.mem_cons_of_mem _ (sound.drawn entry member)⟩
  · intro other held placed
    rcases set_cases placed with ⟨rfl, rfl⟩ | ⟨_, before⟩
    · exact created
    · exact (sound.begun other held before).cons _
  · exact List.forall_mem_cons.mpr ⟨(createRun_sound _ _ _).shown, sound.stands.formed⟩
  · refine List.forall_mem_cons.mpr ⟨fun other asks => ?_, sound.stands.about⟩
    rcases asks with impossible | impossible
    · cases impossible
    · cases impossible
  · refine List.forall_mem_cons.mpr ⟨⟨payload, created⟩, ?_⟩
    intro entry member
    obtain ⟨before, earlier⟩ := sound.stands.created entry member
    exact ⟨before, earlier.cons _⟩
  · exact List.forall_mem_cons.mpr ⟨nofun, sound.stands.stopped⟩
  · exact List.pairwise_cons.mpr ⟨fun entry member same => absurd same (apart entry member),
      sound.stands.ordered⟩
  · refine List.forall_mem_cons.mpr ⟨fun held placed => ?_, fun entry member held placed => ?_⟩
    · change (state.service.rows.set runId _).get runId = some held at placed
      rw [Dict.get_set_self] at placed
      obtain rfl := Option.some.inj placed
      exact Follows.refl _
    · rw [Dict.get_set_ne _ _ (apart entry member)] at placed
      exact sound.stands.standing entry member held placed

theorem serves_sound {request : Request} {runId now : String} {service : Service}
    {answer : Option Answer} (sound : Sound state)
    (handled : state.service.handle request runId now = some (service, answer)) :
    Sound ⟨service, (answer.map fun answer => (request, answer)).toList ++ state.given⟩ := by
  cases request with
  | create payload =>
    unfold Service.handle at handled
    dsimp only at handled
    split at handled
    · cases handled
    case isFalse fresh =>
      obtain ⟨rfl, rfl⟩ := Prod.mk.inj (Option.some.inj handled)
      exact sound.creates payload now fresh
  | get asked =>
    obtain ⟨rfl, rfl⟩ := Prod.mk.inj (Option.some.inj handled)
    cases found : state.service.rows.get asked with
    | none => exact sound
    | some row => exact sound.answers (Or.inl rfl) found nofun
  | cancel asked =>
    unfold Service.handle at handled
    dsimp only at handled
    split at handled
    · obtain ⟨rfl, rfl⟩ := Prod.mk.inj (Option.some.inj handled)
      exact sound
    case h_2 row found =>
      obtain ⟨rfl, rfl⟩ := Prod.mk.inj (Option.some.inj handled)
      have goes : Goes row (cancelRun now row) :=
        cancelRun_goes (sound.service.rows asked row found).1
      have evolves := evolves_set sound.service found goes
      exact (sound.evolves evolves).answers (Or.inr rfl) (Dict.get_set_self _ _ _)
        fun _ => cancelRun_stopped now row

theorem step_sound {str : Json → String} {action : Action} (sound : Sound state)
    (taken : step str state action = some next) : Sound next := by
  cases action with
  | serves request runId now =>
    obtain ⟨⟨service, answer⟩, handled, rfl⟩ := Option.map_eq_some_iff.mp taken
    exact serves_sound sound handled
  | executes runId environment now =>
    unfold step at taken
    dsimp only at taken
    split at taken
    · cases taken
    case h_2 row found =>
      split at taken
      case isTrue queued =>
        obtain rfl := Option.some.inj taken
        have unended : row.phase ≠ .ended := by
          rw [queued]
          nofun
        exact sound.evolves (evolves_set sound.service found
          (executeRun_goes (sound.service.rows runId row found).1 unended environment))
      case isFalse => cases taken
  | resumes runId environment wait now =>
    unfold step at taken
    dsimp only at taken
    split at taken
    · cases taken
    case h_2 row found =>
      obtain ⟨after, resumed, rfl⟩ := Option.map_eq_some_iff.mp taken
      exact sound.evolves (evolves_set sound.service found
        (resumeRun_goes (sound.service.rows runId row found).1 resumed))
  | restarts =>
    obtain rfl := Option.some.inj taken
    exact sound.evolves (evolves_restart state.service)

end

/-- In every run of the adapter, whatever is requested meanwhile, the answers it has given
stand. -/
theorem run_answersStand (str : Json → String) (actions : List Action) :
    Throughout (step str) AnswersStand start actions := by
  refine ⟨start_sound.stands, ?_⟩
  have unconditional : Along (step str) (fun _ _ => True) start actions :=
    along_of_mem (fun _ _ _ => trivial) start
  refine Along.imp_of_invariant Sound ?_ ?_ start_sound unconditional
  · exact fun state action next sound _ taken => step_sound sound taken
  · exact fun state action sound _ next taken => (step_sound sound taken).stands

end MeetYou.AdapterRuns
