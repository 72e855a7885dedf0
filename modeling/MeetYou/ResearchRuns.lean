import MeetYou.Foundation.LowerWords
import MeetYou.Foundation.Persistence
import MeetYou.Foundation.Positions
import MeetYou.ResearchReports

/-!
# Runs of research tasks

A research task that has been started is linked to a run. Requests are handled one at a time, a
background execution works in a thread of its own; each is a sequence of transactions, and the
transactions of the background stand anywhere between those of a request. Whoever brings the
task to an end writes the run afterwards, in another transaction, and some do not write it.
-/

namespace MeetYou.ResearchRuns

open Runs ResearchTasks ResearchReports

/-! ## Rows and what is in progress -/

abbrev RunId := String

/-- The statuses of a run. -/
inductive RunStatus
  | running
  | succeeded
  | failed
  | cancelled
  deriving DecidableEq

/-- What a request still has to do for the run: to make sure that there is one, to link the one
it has created, or to finish it. -/
inductive Request
  | ensuring
  | linking (run : RunId)
  | finishing (status : RunStatus) (run : Option RunId)

/-- Where a background execution is: not begun, at work, delivering the report of a completed
task, about to write the run, or handling an exception. -/
inductive Background
  | starting
  | working
  | delivering
  | marking (status : RunStatus)
  | failing
  | concluded
  deriving DecidableEq

/-- The task, the runs created for it, and what is in progress. -/
structure State where
  task : Task
  runs : Dict RunId RunStatus
  request : Option Request
  backgrounds : List Background

/-- The row id of the linked run. -/
def runIdOf (task : Task) : Option RunId :=
  match task.runId with
  | .str run => some run
  | _ => none

/-- The names of the fields that a transition is given; the run is not among them. -/
def givenNames : List String := "artifact_id" :: patchNames

/-- The fields of a request, all of them fields of a task. -/
structure Given where
  fields : Fields
  named : ∀ name, (fields.get name).isSome → name ∈ givenNames

/-- A PATCH request that passes the checks in front of its transition, with the fields of the
report it brings. -/
structure PatchRequest where
  action : String
  reports : Bool
  given : Given

/-- The action of a request; a report without an action completes. -/
def PatchRequest.actionOf (request : PatchRequest) : String :=
  if request.reports ∧ wordOf request.action = "" then "complete" else wordOf request.action

/-- What a background execution does next. -/
inductive Move
  | begins (at_ : String)
  | seesCancellation
  | reportsCancellation
  | fails (given : Given) (at_ : String)
  | completes (given : Given) (at_ : String)
  | progresses (metadata : Fields)
  | raises
  | delivers
  | marks (written : Bool)
  | fallsBack (given : Given) (at_ : String)

/-- A request, a command, or a step of an execution. -/
inductive Action
  | patch (request : PatchRequest) (at_ : String)
  | chat (command : ChatCommand) (at_ : String)
  | ensures (creates : Bool) (run : RunId)
  | links (updates : Bool) (metadata : Fields)
  | finishes (written : Bool)
  | background (index : Nat) (move : Move)

section
variable (str : Json → String)

/-! ## Requests -/

/-- What a PATCH request does behind its transition. -/
def requestOf (action : String) (task : Task) : Option Request :=
  if action = "start" then some .ensuring
  else if action = "complete" then some (.finishing .succeeded (runIdOf task))
  else if action = "fail" then some (.finishing .failed (runIdOf task))
  else if action = "cancel" then some (.finishing .cancelled (runIdOf task))
  else none

/-- A request up to its transition and with it; one that is refused ends. -/
def transact (state : State) (action : String) (fields : Fields) (at_ : String)
    (behind : Task → Option Request) : Option State :=
  if state.request.isSome then none
  else match transition str state.task action fields at_ with
    | .error _ => some state
    | .ok next => some { state with task := next, request := behind next }

/-- What a chat message does behind its transition. -/
def ChatCommand.request : ChatCommand → Option Request
  | .start => some .ensuring
  | _ => none

/-- The end of a start: the background execution is scheduled. -/
def scheduled (state : State) : State :=
  { state with
    request := none
    backgrounds := if autoExecute state.task then state.backgrounds ++ [.starting]
      else state.backgrounds }

/-- The run that the task is linked to. -/
def State.linked (state : State) : Option RunStatus :=
  (runIdOf state.task).bind state.runs.get

/-- `_ensure_research_task_run` up to the creation of the run, which has a fresh id; a missing
workspace or another exception ends the request. -/
def ensureRun (state : State) (creates : Bool) (run : RunId) : Option State :=
  match state.request with
  | some .ensuring =>
    if state.linked.isSome then some (scheduled state)
    else if creates = false then some { state with request := none }
    else if (state.runs.get run).isSome then none
    else some { state with runs := state.runs.set run .running, request := some (.linking run) }
  | _ => none

/-- The update that links the created run, unless an exception comes before it. -/
def linkRun (state : State) (updates : Bool) (metadata : Fields) : Option State :=
  match state.request with
  | some (.linking run) =>
    if updates then
      some (scheduled { state with
        task := update str state.task
          (Fields.of [("run_id", .str run), ("metadata", metadata.toJson)]) })
    else some { state with request := none }
  | _ => none

/-- `RunRepository.update_status` of a run, if one is linked. -/
def written (runs : Dict RunId RunStatus) (run : Option RunId) (status : RunStatus) :
    Dict RunId RunStatus :=
  match run with
  | none => runs
  | some run => runs.revise run fun _ => status

/-- `_finish_research_task_run`; it may raise before it writes. -/
def finishRun (state : State) (writes : Bool) : Option State :=
  match state.request with
  | some (.finishing status run) =>
    some { state with
      runs := if writes then written state.runs run status else state.runs
      request := none }
  | _ => none

/-! ## Background executions -/

/-- An execution in the background goes on. -/
def State.put (state : State) (index : Nat) (background : Background) : State :=
  { state with backgrounds := state.backgrounds.set index background }

/-- A transition of a background execution, and where it goes on. -/
def moved (state : State) (index : Nat) (action : String) (fields : Fields) (at_ : String)
    (accepted refused : Background) : State :=
  match transition str state.task action fields at_ with
  | .ok next => { state with task := next }.put index accepted
  | .error _ => state.put index refused

/-- The status of the task as `run_task` reads it. -/
def statusRead (task : Task) : String :=
  wordOf (if task.status = "" then "planned" else task.status)

/-- The first read of `run_task`, with the start of a task that is not running. A start that is
refused for its state ends the execution. -/
def begin (state : State) (index : Nat) (at_ : String) : State :=
  if statusRead state.task ∈ terminalStatuses then state.put index .concluded
  else if statusRead state.task = "running" then state.put index .working
  else match transition str state.task "start" (Fields.of []) at_ with
    | .ok next => { state with task := next }.put index .working
    | .error (.state ..) => state.put index .concluded
    | .error .type => state.put index .failing

/-- One transaction of a background execution. -/
def moveBackground (state : State) (index : Nat) (move : Move) : Option State :=
  state.backgrounds[index]?.bind fun background => match background, move with
    | .starting, .begins at_ => some (begin str state index at_)
    | .working, .seesCancellation =>
      if wordOf state.task.status = "cancelled" then some (state.put index (.marking .cancelled))
      else none
    -- the external service says that it was cancelled, whatever the task says
    | .working, .reportsCancellation => some (state.put index (.marking .cancelled))
    | .working, .fails given at_ =>
      some (moved str state index "fail" given.fields at_ (.marking .failed) .failing)
    | .working, .completes given at_ =>
      some (moved str state index "complete" given.fields at_ .delivering .failing)
    | .working, .progresses metadata | .delivering, .progresses metadata =>
      some { state with
        task := update str state.task (Fields.of [("metadata", metadata.toJson)]) }
    | .starting, .raises | .working, .raises | .delivering, .raises | .marking _, .raises =>
      some (state.put index .failing)
    | .delivering, .delivers => some (state.put index (.marking .succeeded))
    | .marking status, .marks writes =>
      some ({ state with
        runs := if writes then written state.runs (runIdOf state.task) status
          else state.runs }.put index .concluded)
    | .failing, .fallsBack given at_ =>
      some (moved str state index "fail" given.fields at_ .concluded .concluded)
    | _, _ => none

/-- Each action is one transaction. -/
def step (state : State) : Action → Option State
  | .patch request at_ => transact str state request.actionOf request.given.fields at_
      (requestOf request.actionOf)
  | .chat command at_ => transact str state command.action command.fields at_
      fun _ => ChatCommand.request command
  | .ensures creates run => ensureRun state creates run
  | .links updates metadata => linkRun str state updates metadata
  | .finishes writes => finishRun state writes
  | .background index move => moveBackground str state index move

end

/-- A task that has been created. -/
def created (topic : String) (plan sourcePolicy : Fields) (outputFormat : String)
    (metadata : Fields) : State :=
  ⟨create topic plan sourcePolicy outputFormat metadata, Dict.empty, none, []⟩

/-! ## Agreement -/

/-- No request is in progress, and no background execution between the end of the task and the
write of the run. -/
def Quiet (state : State) : Prop :=
  state.request = none ∧ ∀ background ∈ state.backgrounds,
    background = .starting ∨ background = .working ∨ background = .concluded

/-- The run of a task that has ended has ended. -/
def Agreed (state : State) : Prop :=
  Quiet state → state.task.status ∈ terminalStatuses →
    ∀ run, runIdOf state.task = some run →
      ∃ status, state.runs.get run = some status ∧ status ≠ .running

/-- A run that has ended keeps its status. -/
def KeepsRuns (state later : State) : Prop :=
  KeepsRows (fun status : RunStatus => status ≠ .running) Eq state.runs later.runs

/-- The status of a run that belongs to a terminal status of its task. -/
def runStatusOf (status : String) : RunStatus :=
  if status = "completed" then .succeeded else if status = "failed" then .failed else .cancelled

/-- The task has been ended by the background execution, which still has to write the run. -/
def Background.Owes (background : Background) : Prop :=
  background = .delivering ∨ background = .marking .succeeded ∨ background = .marking .failed

/-- The steps after which task and run can agree: a task with a linked run is not ended by a
status without an action, nor by a chat message, nor by the handling of an exception; a
background execution takes a task for cancelled only if it is; and who has ended the task does
write its run. -/
def Clean (str : Json → String) (state : State) : Action → Prop
  | .patch request _ => runIdOf state.task ≠ none → wordOf request.actionOf = "" →
    ∀ requested, present request.given.fields "status" = some requested →
      wordOf (textOr str requested) ∈ terminalStatuses → state.task.status ∈ terminalStatuses
  | .chat .cancel _ => runIdOf state.task ≠ none → state.task.status ∈ terminalStatuses
  | .finishes writes => writes = true
  | .background _ .reportsCancellation => state.task.status = "cancelled"
  | .background index .raises | .background index (.marks false) =>
    ∀ background, state.backgrounds[index]? = some background → ¬background.Owes
  | .background _ (.fallsBack ..) => state.task.status ∈ terminalStatuses
  | _ => True

/-! ## Transitions -/

section
variable {str : Json → String}

/-- A task behind another: an end stays, and the linked run. -/
structure Follows (task next : Task) : Prop where
  known : next.status ∈ allowedStatuses
  run : next.runId = task.runId
  ended : task.status ∈ terminalStatuses → next.status = task.status

attribute [local irreducible] wordOf

/-- A transition that names no run keeps the one of the task. -/
theorem transition_runId {task next : Task} {action at_ : String} {fields : Fields}
    (unnamed : fields.get "run_id" = none)
    (taken : transition str task action fields at_ = .ok next) : next.runId = task.runId := by
  have silent : ∀ given : Fields, given.get "run_id" = none →
      (update str task given).runId = task.runId := by
    intro given absent
    show (given.get "run_id").getD task.runId = task.runId
    rw [absent]
    rfl
  unfold transition normalizedTransitionFields at taken
  dsimp only at taken
  generalize (if wordOf task.status = "" then "planned" else wordOf task.status) = status at taken
  split at taken
  · cases taken
  split at taken
  · cases taken
  · exact Except.ok.inj taken ▸ silent fields unnamed
  · split at taken
    · cases taken
    split at taken
    · cases taken
    split at taken
    · cases taken
    · obtain rfl := Except.ok.inj taken
      refine silent _ ?_
      rw [Dict.get_set_ne _ _ (by decide), Dict.get_set_ne _ _ (by decide), unnamed]

theorem transition_follows {task next : Task} {action at_ : String} {fields : Fields}
    (known : task.status ∈ allowedStatuses) (unnamed : fields.get "run_id" = none)
    (taken : transition str task action fields at_ = .ok next) : Follows task next :=
  ⟨transition_known known taken, transition_runId unnamed taken,
    (transition_cases known taken).1.terminal⟩

theorem Given.unnamed (given : Given) : given.fields.get "run_id" = none := by
  by_contra some_
  have listed := given.named "run_id" (Option.isSome_iff_ne_none.mpr some_)
  exact absurd listed (by decide)

theorem chat_unnamed (command : ChatCommand) : command.fields.get "run_id" = none := by
  cases command <;> rfl

/-- With an action, the status is the one that the action asks for. -/
theorem transition_status {task next : Task} {action at_ : String} {fields : Fields}
    (known : task.status ∈ allowedStatuses) (named : wordOf action ≠ "")
    (taken : transition str task action fields at_ = .ok next) :
    statusOfAction (wordOf action) task.status = .ok next.status := by
  obtain ⟨normal, some_⟩ := wordOf_allowed task.status known
  unfold transition normalizedTransitionFields at taken
  dsimp only at taken
  rw [normal, if_neg some_] at taken
  split at taken
  · cases taken
  unfold requestedStatus at taken
  rw [if_pos named] at taken
  cases asked : statusOfAction (wordOf action) task.status with
  | error failure =>
    rw [asked] at taken
    cases taken
  | ok target =>
    rw [asked] at taken
    have allowed : target ∈ allowedStatuses := by
      rcases statusOfAction_cases asked with ⟨_, _, rfl⟩ | ⟨_, _, rfl⟩ | ⟨_, _, terminal, _⟩
      · decide
      · decide
      · exact List.mem_append_right _ terminal
    simp only [Except.map, textOr_str, (wordOf_allowed target allowed).1] at taken
    split at taken
    · cases taken
    · rename_i given made
      obtain rfl := Except.ok.inj taken
      split at made
      · cases made
      split at made
      · cases made
      split at made
      · cases made
      · obtain rfl := Except.ok.inj made
        exact congrArg Except.ok (@update_after_event str task fields _ target).1.symm

/-- A task that is started runs. -/
theorem starts_running {task next : Task} {at_ : String} {fields : Fields}
    (known : task.status ∈ allowedStatuses)
    (taken : transition str task "start" fields at_ = .ok next) : next.status = "running" := by
  have word : wordOf "start" = "start" := by decide +kernel
  have status := transition_status known (by rw [word]; decide) taken
  rw [word] at status
  rcases statusOfAction_cases status with ⟨named, _⟩ | ⟨_, _, running⟩ | ⟨named, _⟩
  · exact absurd named (by decide)
  · exact running
  · exact absurd named (by decide)

/-- The actions of those who end a task, with the statuses they lead to. -/
theorem ends_with {action status target : String} (word : String)
    (asked : statusOfAction action status = .ok target)
    (among : (action, word) ∈ [("complete", "completed"), ("fail", "failed"),
      ("cancel", "cancelled")]) : status ∉ terminalStatuses ∧ target = word := by
  simp only [List.mem_cons, Prod.mk.injEq, List.not_mem_nil, or_false] at among
  rcases among with ⟨rfl, rfl⟩ | ⟨rfl, rfl⟩ | ⟨rfl, rfl⟩ <;>
    simp only [statusOfAction, ending, String.reduceEq, if_false, if_true] at asked <;>
    split at asked
  all_goals first
    | exact ⟨‹_›, (Except.ok.inj asked).symm⟩
    | cases asked

/-! ## What is kept -/

/-- Someone is about to write the run. -/
def Owed (state : State) (run : RunId) : Prop :=
  (∃ status, state.request = some (.finishing status (some run))) ∨
    ∃ background ∈ state.backgrounds, background.Owes

/-- What a request in progress relies on. -/
def RequestFits (task : Task) (runs : Dict RunId RunStatus) : Request → Prop
  | .ensuring => runIdOf task = none → task.status = "running"
  | .linking run => runIdOf task = none ∧ task.status = "running" ∧ runs.get run = some .running
  | .finishing status run => task.status ∈ terminalStatuses ∧ status = runStatusOf task.status ∧
    run = runIdOf task

/-- What a background execution relies on. -/
def BackgroundFits (task : Task) : Background → Prop
  | .delivering => task.status = "completed"
  | .marking status => task.status ∈ terminalStatuses ∧ status = runStatusOf task.status
  | _ => True

/-- What holds of a task, its runs and what is in progress, if every step is clean. -/
structure Kept (state : State) : Prop where
  known : state.task.status ∈ allowedStatuses
  link : ∀ run, runIdOf state.task = some run → ∃ status, state.runs.get run = some status
  idle : runIdOf state.task = none → state.backgrounds = []
  ended : ∀ run status, state.runs.get run = some status → status ≠ .running →
    state.task.status ∈ terminalStatuses ∧ status = runStatusOf state.task.status
  owed : state.task.status ∈ terminalStatuses → ∀ run, runIdOf state.task = some run →
    state.runs.get run = some .running → Owed state run
  request : ∀ request, state.request = some request → RequestFits state.task state.runs request
  background : ∀ background ∈ state.backgrounds, BackgroundFits state.task background

theorem created_kept (topic : String) (plan sourcePolicy : Fields) (outputFormat : String)
    (metadata : Fields) : Kept (created topic plan sourcePolicy outputFormat metadata) where
  known := by simp [created, create, allowedStatuses]
  link := fun _ linked => nomatch linked
  idle := fun _ => rfl
  ended := fun _ _ there => nomatch there
  owed := fun _ _ linked => nomatch linked
  request := fun _ pending => nomatch pending
  background := fun _ inside => nomatch inside

/-- In what is kept, task and run agree. -/
theorem Kept.agreed {state : State} (kept : Kept state) : Agreed state := by
  rintro ⟨noRequest, resting⟩ ended run linked
  obtain ⟨status, present⟩ := kept.link run linked
  refine ⟨status, present, ?_⟩
  rintro rfl
  rcases kept.owed ended run linked present with ⟨_, pending⟩ | ⟨background, inside, owes⟩
  · rw [noRequest] at pending
    cases pending
  · rcases resting background inside with rfl | rfl | rfl <;>
      rcases owes with impossible | impossible | impossible <;> cases impossible

theorem runIdOf_follows {task next : Task} (follows : Follows task next) :
    runIdOf next = runIdOf task := by
  unfold runIdOf
  rw [follows.run]

theorem BackgroundFits.follows {task next : Task} (follows : Follows task next)
    {background : Background} (fits : BackgroundFits task background) :
    BackgroundFits next background := by
  cases background with
  | delivering =>
    have completed : task.status = "completed" := fits
    exact (follows.ended (by rw [completed]; decide)).trans completed
  | marking status =>
    obtain ⟨ended, same⟩ := fits
    unfold BackgroundFits
    rw [follows.ended ended]
    exact ⟨ended, same⟩
  | starting => trivial
  | working => trivial
  | failing => trivial
  | concluded => trivial

/-- A new status of the task is kept, if whoever ends the task is about to write its run. -/
theorem Kept.next {state : State} (kept : Kept state) {task : Task}
    (follows : Follows state.task task) {request : Option Request} {backgrounds : List Background}
    (owed : task.status ∈ terminalStatuses → ∀ run, runIdOf task = some run →
      state.runs.get run = some .running → Owed ⟨task, state.runs, request, backgrounds⟩ run)
    (requested : ∀ pending, request = some pending → RequestFits task state.runs pending)
    (idle : runIdOf task = none → backgrounds = [])
    (background : ∀ background ∈ backgrounds, BackgroundFits task background) :
    Kept ⟨task, state.runs, request, backgrounds⟩ where
  known := follows.known
  link := fun run linked => kept.link run (runIdOf_follows follows ▸ linked)
  idle := idle
  ended := by
    intro run status present late
    obtain ⟨terminal, same⟩ := kept.ended run status present late
    show task.status ∈ terminalStatuses ∧ status = runStatusOf task.status
    rw [follows.ended terminal]
    exact ⟨terminal, same⟩
  owed := owed
  request := requested
  background := background

/-- Task, run and background executions stay, and what is owed is not the request's. -/
theorem Kept.request_done {state : State} (kept : Kept state)
    (other : ∀ status run, state.request ≠ some (.finishing status run)) :
    Kept { state with request := none } where
  known := kept.known
  link := kept.link
  idle := kept.idle
  ended := kept.ended
  owed := by
    intro ended run linked present
    rcases kept.owed ended run linked present with ⟨status, pending⟩ | background
    · exact absurd pending (other status _)
    · exact Or.inr background
  request := fun _ pending => nomatch pending
  background := kept.background

/-- A background execution is scheduled for a linked task. -/
theorem Kept.scheduled {state : State} (kept : Kept state) (none_ : state.request = none)
    (linked : runIdOf state.task ≠ none) : Kept (scheduled state) where
  known := kept.known
  link := kept.link
  idle := fun unlinked => absurd unlinked linked
  ended := kept.ended
  owed := by
    intro ended run to_ present
    rcases kept.owed ended run to_ present with ⟨status, pending⟩ | ⟨background, inside, owes⟩
    · rw [none_] at pending
      cases pending
    · refine Or.inr ⟨background, ?_, owes⟩
      show background ∈ if autoExecute state.task then _ else _
      split
      · exact List.mem_append_left _ inside
      · exact inside
  request := fun _ pending => nomatch pending
  background := by
    intro background inside
    have among : background ∈ state.backgrounds ∨ background = .starting := by
      change background ∈ (if autoExecute state.task then _ else _) at inside
      split at inside
      · rcases List.mem_append.mp inside with before | new
        · exact Or.inl before
        · exact Or.inr (List.mem_singleton.mp new)
      · exact Or.inl inside
    rcases among with before | rfl
    · exact kept.background background before
    · trivial

/-! ### Requests -/

/-- Behind the actions of a PATCH request. -/
theorem requestOf_fits {task next : Task} {runs : Dict RunId RunStatus} {action at_ : String}
    {fields : Fields} (known : task.status ∈ allowedStatuses)
    (taken : transition str task action fields at_ = .ok next) :
    ∀ pending, requestOf action next = some pending → RequestFits next runs pending := by
  have words : ∀ word ∈ ["complete", "fail", "cancel"], wordOf word = word ∧ word ≠ "" := by
    decide +kernel
  have asked : ∀ word ∈ ["complete", "fail", "cancel"], action = word →
      statusOfAction word task.status = .ok next.status := by
    rintro word listed rfl
    obtain ⟨normal, some_⟩ := words action listed
    have status := transition_status known (by rw [normal]; exact some_) taken
    rwa [normal] at status
  intro pending behind
  unfold requestOf at behind
  split at behind
  case isTrue starts =>
    obtain rfl := Option.some.inj behind
    exact fun _ => starts_running known (starts ▸ taken)
  split at behind
  case isTrue completes =>
    obtain rfl := Option.some.inj behind
    obtain ⟨_, status⟩ := ends_with "completed" (asked "complete" (by simp) completes) (by simp)
    refine ⟨?_, ?_, rfl⟩ <;> rw [status] <;> decide
  split at behind
  case isTrue fails =>
    obtain rfl := Option.some.inj behind
    obtain ⟨_, status⟩ := ends_with "failed" (asked "fail" (by simp) fails) (by simp)
    refine ⟨?_, ?_, rfl⟩ <;> rw [status] <;> decide
  split at behind
  case isTrue cancels =>
    obtain rfl := Option.some.inj behind
    obtain ⟨_, status⟩ := ends_with "cancelled" (asked "cancel" (by simp) cancels) (by simp)
    refine ⟨?_, ?_, rfl⟩ <;> rw [status] <;> decide
  · cases behind

/-- A transition of a request is kept, if it ends a linked task only with the run to finish. -/
theorem transact_kept {state next : State} {action at_ : String} {fields : Fields}
    {behind : Task → Option Request} (kept : Kept state) (unnamed : fields.get "run_id" = none)
    (fits : ∀ task, transition str state.task action fields at_ = .ok task →
      ∀ pending, behind task = some pending → RequestFits task state.runs pending)
    (finishes : ∀ task, transition str state.task action fields at_ = .ok task →
      state.task.status ∉ terminalStatuses → task.status ∈ terminalStatuses →
      ∀ run, runIdOf task = some run → ∃ status, behind task = some (.finishing status (some run)))
    (taken : transact str state action fields at_ behind = some next) : Kept next := by
  unfold transact at taken
  split at taken
  · cases taken
  case isFalse free =>
  have none_ : state.request = none := Option.not_isSome_iff_eq_none.mp free
  split at taken
  · exact Option.some.inj taken ▸ kept
  case h_2 task moved =>
  obtain rfl := Option.some.inj taken
  have follows := transition_follows kept.known unnamed moved
  refine kept.next follows ?_ (fits task moved) ?_ ?_
  · intro ended run linked present
    by_cases before : state.task.status ∈ terminalStatuses
    · rcases kept.owed before run (runIdOf_follows follows ▸ linked) present with
        ⟨_, pending⟩ | background
      · rw [none_] at pending
        cases pending
      · exact Or.inr background
    · exact Or.inl (finishes task moved before ended run linked)
  · exact fun unlinked => kept.idle (runIdOf_follows follows ▸ unlinked)
  · exact fun background inside => (kept.background background inside).follows follows

/-- The action of a request is a word already. -/
theorem wordOf_actionOf (request : PatchRequest) :
    wordOf request.actionOf = request.actionOf := by
  have complete : wordOf "complete" = "complete" := by decide +kernel
  unfold PatchRequest.actionOf
  split
  · exact complete
  · unfold wordOf
    exact Text.lowerWord_strip_self _

theorem patch_kept {state next : State} {request : PatchRequest} {at_ : String}
    (kept : Kept state) (clean : Clean str state (.patch request at_))
    (taken : step str state (.patch request at_) = some next) : Kept next := by
  refine transact_kept kept request.given.unnamed
    (fun task moved => requestOf_fits kept.known moved) ?_ taken
  intro task moved open_ ended run linked
  have follows := transition_follows kept.known request.given.unnamed moved
  have moves := (transition_cases kept.known moved).1
  rw [wordOf_actionOf] at moves
  generalize same : task.status = target at moves
  rw [same] at ended
  cases moves with
  | approves => exact absurd ended (by decide)
  | starts => exact absurd ended (by decide)
  | ends _ named =>
    unfold requestOf
    simp only [List.mem_cons, List.not_mem_nil, or_false] at named
    rcases named with cancels | completes | fails
    · rw [cancels, linked]
      exact ⟨_, rfl⟩
    · rw [completes, linked]
      exact ⟨_, rfl⟩
    · rw [fails, linked]
      exact ⟨_, rfl⟩
  | asks requested _ named given word =>
    have some_ : runIdOf state.task ≠ none := by
      rw [← runIdOf_follows follows, linked]
      exact Option.some_ne_none run
    exact absurd (clean some_ ((wordOf_actionOf request).trans named) requested given
      (word ▸ ended)) open_
  | stays => exact absurd ended open_

theorem chat_kept {state next : State} {command : ChatCommand} {at_ : String} (kept : Kept state)
    (clean : Clean str state (.chat command at_))
    (taken : step str state (.chat command at_) = some next) : Kept next := by
  have word : wordOf "" = "" := by decide +kernel
  refine transact_kept kept (chat_unnamed command) ?_ ?_ taken
  · intro task moved pending behind
    cases command with
    | start =>
      obtain rfl := Option.some.inj behind
      exact fun _ => starts_running kept.known moved
    | cancel => cases behind
    | revise plan messageId kind => cases behind
  · intro task moved open_ ended run linked
    have follows := transition_follows kept.known (chat_unnamed command) moved
    have moves := (transition_cases kept.known moved).1
    cases command with
    | start =>
      rw [starts_running kept.known moved] at ended
      exact absurd ended (by decide)
    | cancel =>
      refine absurd (clean ?_) open_
      rw [← runIdOf_follows follows, linked]
      exact Option.some_ne_none run
    | revise plan messageId kind =>
      rw [ChatCommand.action, word] at moves
      generalize task.status = target at moves ended
      cases moves with
      | approves named => exact absurd named (by decide)
      | starts named => exact absurd named (by decide)
      | ends _ named => exact absurd named (by decide)
      | asks requested _ _ given => cases given
      | stays => exact absurd ended open_

theorem ensureRun_kept {state next : State} {creates : Bool} {run : RunId} (kept : Kept state)
    (taken : ensureRun state creates run = some next) : Kept next := by
  unfold ensureRun at taken
  split at taken
  case h_2 => cases taken
  case h_1 pending =>
  have fits := kept.request _ pending
  have other : ∀ status run, state.request ≠ some (.finishing status run) := by
    rw [pending]
    exact fun _ _ same => nomatch same
  split at taken
  case isTrue found =>
    obtain rfl := Option.some.inj taken
    have linked : runIdOf state.task ≠ none := by
      intro none_
      unfold State.linked at found
      rw [none_] at found
      cases found
    exact (kept.request_done other).scheduled rfl linked
  case isFalse missing =>
  split at taken
  · obtain rfl := Option.some.inj taken
    exact kept.request_done other
  split at taken
  · cases taken
  case isFalse fresh =>
  obtain rfl := Option.some.inj taken
  have unlinked : runIdOf state.task = none := by
    by_contra some_
    obtain ⟨linked, same⟩ := Option.ne_none_iff_exists'.mp some_
    obtain ⟨status, present⟩ := kept.link linked same
    unfold State.linked at missing
    rw [same, Option.bind_some, present] at missing
    exact missing rfl
  refine ⟨kept.known, ?_, kept.idle, ?_, ?_, ?_, kept.background⟩
  · intro linked same
    rw [unlinked] at same
    cases same
  · intro tested status present late
    rw [Dict.get_set] at present
    split at present
    · cases present
      exact absurd rfl late
    · exact kept.ended tested status present late
  · intro _ linked same
    rw [unlinked] at same
    cases same
  · intro later same
    cases same
    exact ⟨unlinked, fits unlinked, Dict.get_set_self _ _ _⟩

/-- Linking names the run and leaves the status. -/
theorem link_update (task : Task) (run : RunId) (metadata : Fields) :
    let next := update str task (Fields.of [("run_id", .str run), ("metadata", metadata.toJson)])
    next.status = task.status ∧ runIdOf next = some run := ⟨rfl, rfl⟩

theorem linkRun_kept {state next : State} {updates : Bool} {metadata : Fields} (kept : Kept state)
    (taken : linkRun str state updates metadata = some next) : Kept next := by
  unfold linkRun at taken
  split at taken
  case h_2 => cases taken
  case h_1 run pending =>
  obtain ⟨unlinked, running, present⟩ := kept.request _ pending
  split at taken
  · obtain rfl := Option.some.inj taken
    obtain ⟨status, linked⟩ := @link_update str state.task run metadata
    have open_ : state.task.status ∉ terminalStatuses := by
      rw [running]
      decide
    have idle := kept.idle unlinked
    have bare : Kept ⟨update str state.task (Fields.of [("run_id", .str run),
        ("metadata", metadata.toJson)]), state.runs, none, []⟩ := by
      refine ⟨kept.known, ?_, fun _ => rfl, ?_, ?_, (fun _ same => nomatch same),
        List.forall_mem_nil _⟩
      · intro tested same
        rw [linked] at same
        cases same
        exact ⟨_, present⟩
      · exact fun tested status there late => absurd (kept.ended tested status there late).1 open_
      · exact fun ended => absurd ended open_
    have finished := bare.scheduled rfl (by rw [linked]; exact Option.some_ne_none run)
    unfold scheduled at finished ⊢
    dsimp only at finished ⊢
    rw [idle]
    exact finished
  · obtain rfl := Option.some.inj taken
    refine kept.request_done ?_
    rw [pending]
    exact fun _ _ same => nomatch same

/-- After the write a run has the status written or the one before. -/
theorem written_cases {runs : Dict RunId RunStatus} {linked : Option RunId} {new : RunStatus}
    {run : RunId} {status : RunStatus} (present : (written runs linked new).get run = some status) :
    runs.get run = some status ∨ status = new := by
  unfold written at present
  split at present
  · exact Or.inl present
  case h_2 own =>
    rw [Dict.get_revise] at present
    split at present
    case isTrue =>
      obtain ⟨held, _, rfl⟩ := Option.map_eq_some_iff.mp present
      exact Or.inr rfl
    case isFalse => exact Or.inl present

theorem runStatusOf_ne (status : String) : runStatusOf status ≠ .running := by
  unfold runStatusOf
  split
  · decide
  · split <;> decide

/-- With the run written, nothing is owed. -/
theorem Kept.write {state : State} (kept : Kept state)
    (terminal : state.task.status ∈ terminalStatuses) {backgrounds : List Background}
    {request : Option Request}
    (requested : ∀ pending, request = some pending → RequestFits state.task
      (written state.runs (runIdOf state.task) (runStatusOf state.task.status)) pending)
    (idle : runIdOf state.task = none → backgrounds = [])
    (background : ∀ background ∈ backgrounds, BackgroundFits state.task background) :
    Kept ⟨state.task, written state.runs (runIdOf state.task) (runStatusOf state.task.status),
      request, backgrounds⟩ where
  known := kept.known
  link := by
    intro run linked
    obtain ⟨status, present⟩ := kept.link run linked
    refine ⟨runStatusOf state.task.status, ?_⟩
    show (written state.runs (runIdOf state.task) _).get run = _
    rw [linked]
    show (state.runs.revise run _).get run = _
    rw [Dict.get_revise_self, present]
    rfl
  idle := idle
  ended := by
    intro run status present late
    rcases written_cases present with before | same
    · exact kept.ended run status before late
    · exact ⟨terminal, same⟩
  owed := by
    intro _ run linked present
    obtain ⟨status, there⟩ := kept.link run linked
    have after : (written state.runs (runIdOf state.task) (runStatusOf state.task.status)).get run =
        some (runStatusOf state.task.status) := by
      rw [linked]
      show (state.runs.revise run _).get run = _
      rw [Dict.get_revise_self, there]
      rfl
    exact absurd (Option.some.inj (after.symm.trans present)) (runStatusOf_ne _)
  request := requested
  background := background

theorem finishRun_kept {state next : State} {writes : Bool} (kept : Kept state)
    (clean : writes = true) (taken : finishRun state writes = some next) : Kept next := by
  unfold finishRun at taken
  split at taken
  case h_2 => cases taken
  case h_1 status run pending =>
  obtain ⟨terminal, rfl, rfl⟩ := kept.request _ pending
  obtain rfl := Option.some.inj taken
  rw [if_pos clean]
  exact kept.write terminal (fun _ same => nomatch same) kept.idle kept.background

/-! ### Background executions -/

/-- A background execution that goes on keeps what is owed, unless it owed it itself. -/
theorem owes_set {backgrounds : List Background} {index : Nat} {old new : Background}
    (found : backgrounds[index]? = some old) (still : old.Owes → new.Owes)
    (owed : ∃ background ∈ backgrounds, background.Owes) :
    ∃ background ∈ backgrounds.set index new, background.Owes := by
  obtain ⟨background, inside, owes⟩ := owed
  obtain ⟨place, there⟩ := List.getElem?_of_mem inside
  by_cases own : place = index
  · subst own
    rw [found] at there
    cases there
    exact ⟨new, List.mem_of_getElem? (Positions.set_self found new), still owes⟩
  · refine ⟨background, List.mem_of_getElem? (i := place) ?_, owes⟩
    rw [List.getElem?_set_ne (Ne.symm own), there]

/-- Only a linked task has background executions. -/
theorem Kept.linked {state : State} (kept : Kept state) {index : Nat} {background : Background}
    (found : state.backgrounds[index]? = some background) : runIdOf state.task ≠ none := by
  intro none_
  rw [kept.idle none_] at found
  cases found

theorem RequestFits.follows {task next : Task} {runs : Dict RunId RunStatus} {request : Request}
    (linked : runIdOf task ≠ none) (follows : Follows task next)
    (fits : RequestFits task runs request) : RequestFits next runs request := by
  have same := runIdOf_follows follows
  cases request with
  | ensuring => exact fun none_ => absurd (same.symm.trans none_) linked
  | linking run => exact absurd fits.1 linked
  | finishing status run =>
    obtain ⟨ended, status_, run_⟩ := fits
    unfold RequestFits
    rw [follows.ended ended, same]
    exact ⟨ended, status_, run_⟩

/-- A background execution goes on, with the task or behind it. -/
theorem Kept.move {state : State} (kept : Kept state) {index : Nat} {old new : Background}
    (found : state.backgrounds[index]? = some old) {task : Task}
    (follows : Follows state.task task) (still : old.Owes → new.Owes)
    (owes : task.status ∈ terminalStatuses → state.task.status ∉ terminalStatuses → new.Owes)
    (fits : BackgroundFits task new) :
    Kept { state with task := task, backgrounds := state.backgrounds.set index new } := by
  have linked := kept.linked found
  refine kept.next follows ?_ ?_ ?_ ?_
  · intro ended run to_ present
    by_cases before : state.task.status ∈ terminalStatuses
    · rcases kept.owed before run (runIdOf_follows follows ▸ to_) present with pending | background
      · exact Or.inl pending
      · exact Or.inr (owes_set found still background)
    · exact Or.inr ⟨new, List.mem_of_getElem? (Positions.set_self found new), owes ended before⟩
  · exact fun pending same => (kept.request pending same).follows linked follows
  · exact fun none_ => absurd ((runIdOf_follows follows).symm.trans none_) linked
  · intro background inside
    rcases List.mem_or_eq_of_mem_set inside with before | rfl
    · exact (kept.background background before).follows follows
    · exact fits

theorem Follows.refl {task : Task} (known : task.status ∈ allowedStatuses) : Follows task task :=
  ⟨known, rfl, fun _ => rfl⟩

/-- A background execution goes on without touching the task. -/
theorem Kept.put {state : State} (kept : Kept state) {index : Nat} {old : Background}
    (found : state.backgrounds[index]? = some old) (new : Background) (still : old.Owes → new.Owes)
    (fits : BackgroundFits state.task new) : Kept (state.put index new) :=
  kept.move found (.refl kept.known) still (fun ended open_ => absurd ended open_) fits

/-- A transition that ends the task in a background execution. -/
theorem moved_kept {state : State} (kept : Kept state) {index : Nat} {old : Background}
    (found : state.backgrounds[index]? = some old) (idle : ¬old.Owes) {action at_ : String}
    {given : Given} {accepted refused : Background}
    (ends : ∀ task, transition str state.task action given.fields at_ = .ok task →
      state.task.status ∉ terminalStatuses → accepted.Owes)
    (fits : ∀ task, transition str state.task action given.fields at_ = .ok task →
      BackgroundFits task accepted) (rests : BackgroundFits state.task refused) :
    Kept (moved str state index action given.fields at_ accepted refused) := by
  unfold moved
  split
  case h_1 task taken =>
    exact kept.move found (transition_follows kept.known given.unnamed taken)
      (fun owes => absurd owes idle) (fun _ open_ => ends task taken open_) (fits task taken)
  case h_2 => exact kept.put found refused (fun owes => absurd owes idle) rests

theorem begin_kept {state : State} (kept : Kept state) {index : Nat} (at_ : String)
    (found : state.backgrounds[index]? = some .starting) : Kept (begin str state index at_) := by
  have idle : ¬Background.starting.Owes := by
    rintro (impossible | impossible | impossible) <;> cases impossible
  unfold begin
  split
  · exact kept.put found .concluded (fun owes => absurd owes idle) trivial
  split
  · exact kept.put found .working (fun owes => absurd owes idle) trivial
  split
  case h_1 task taken =>
    refine kept.move found (transition_follows kept.known rfl taken)
      (fun owes => absurd owes idle) ?_ trivial
    intro ended
    rw [starts_running kept.known taken] at ended
    exact absurd ended (by decide)
  case h_2 => exact kept.put found .concluded (fun owes => absurd owes idle) trivial
  case h_3 => exact kept.put found .failing (fun owes => absurd owes idle) trivial

/-- Notes on the progress leave the status and the run of the task. -/
theorem progress_follows {task : Task} (known : task.status ∈ allowedStatuses)
    (metadata : Fields) :
    Follows task (update str task (Fields.of [("metadata", metadata.toJson)])) :=
  ⟨known, rfl, fun _ => rfl⟩

theorem Kept.progress {state : State} (kept : Kept state) {index : Nat} {old : Background}
    (found : state.backgrounds[index]? = some old) (metadata : Fields) :
    Kept { state with
      task := update str state.task (Fields.of [("metadata", metadata.toJson)]) } := by
  have follows := @progress_follows str state.task kept.known metadata
  have linked := kept.linked found
  refine kept.next follows ?_ ?_ kept.idle ?_
  · intro ended run to_ present
    exact kept.owed ended run to_ present
  · exact fun pending same => (kept.request pending same).follows linked follows
  · exact fun background inside => (kept.background background inside).follows follows

theorem moveBackground_kept {state next : State} {index : Nat} {move : Move} (kept : Kept state)
    (clean : Clean str state (.background index move))
    (taken : moveBackground str state index move = some next) : Kept next := by
  have words : wordOf "fail" = "fail" ∧ wordOf "complete" = "complete" := by decide +kernel
  have working : ¬Background.working.Owes := by
    rintro (impossible | impossible | impossible) <;> cases impossible
  have failing : ¬Background.failing.Owes := by
    rintro (impossible | impossible | impossible) <;> cases impossible
  have failed : ∀ {given : Given} {at_ : String} {task : Task},
      transition str state.task "fail" given.fields at_ = .ok task →
      state.task.status ∉ terminalStatuses ∧ task.status = "failed" := by
    intro given at_ task accepted
    have status := transition_status kept.known (by rw [words.1]; decide) accepted
    rw [words.1] at status
    exact ends_with "failed" status (by simp)
  have completed : ∀ {given : Given} {at_ : String} {task : Task},
      transition str state.task "complete" given.fields at_ = .ok task →
      state.task.status ∉ terminalStatuses ∧ task.status = "completed" := by
    intro given at_ task accepted
    have status := transition_status kept.known (by rw [words.2]; decide) accepted
    rw [words.2] at status
    exact ends_with "completed" status (by simp)
  obtain ⟨background, found, rest⟩ := Option.bind_eq_some_iff.mp taken
  split at rest
  · -- the first read
    obtain rfl := Option.some.inj rest
    exact begin_kept kept _ found
  · -- the task is cancelled
    split at rest
    case isFalse => cases rest
    case isTrue cancelled =>
      obtain rfl := Option.some.inj rest
      have status : state.task.status = "cancelled" :=
        (wordOf_allowed _ kept.known).1.symm.trans cancelled
      refine kept.put found _ (fun owes => absurd owes working) ⟨?_, ?_⟩ <;> rw [status] <;> decide
  · -- the external service was cancelled
    obtain rfl := Option.some.inj rest
    have status : state.task.status = "cancelled" := clean
    refine kept.put found _ (fun owes => absurd owes working) ⟨?_, ?_⟩ <;> rw [status] <;> decide
  · -- failure
    obtain rfl := Option.some.inj rest
    refine moved_kept kept found working (fun _ _ _ => Or.inr (Or.inr rfl)) ?_ trivial
    intro task accepted
    refine ⟨?_, ?_⟩ <;> rw [(failed accepted).2] <;> decide
  · -- completion
    obtain rfl := Option.some.inj rest
    exact moved_kept kept found working (fun _ _ _ => Or.inl rfl)
      (fun task accepted => (completed accepted).2) trivial
  · obtain rfl := Option.some.inj rest
    exact kept.progress found _
  · obtain rfl := Option.some.inj rest
    exact kept.progress found _
  · obtain rfl := Option.some.inj rest
    exact kept.put found _ (fun owes => absurd owes (clean _ found)) trivial
  · obtain rfl := Option.some.inj rest
    exact kept.put found _ (fun owes => absurd owes (clean _ found)) trivial
  · obtain rfl := Option.some.inj rest
    exact kept.put found _ (fun owes => absurd owes (clean _ found)) trivial
  · obtain rfl := Option.some.inj rest
    exact kept.put found _ (fun owes => absurd owes (clean _ found)) trivial
  · -- the report is delivered
    obtain rfl := Option.some.inj rest
    have status : state.task.status = "completed" := kept.background _ (List.mem_of_getElem? found)
    refine kept.put found _ (fun _ => Or.inr (Or.inl rfl)) ⟨?_, ?_⟩ <;> rw [status] <;> decide
  · -- the run is written
    rename_i status writes
    obtain rfl := Option.some.inj rest
    have fits : BackgroundFits state.task (.marking status) :=
      kept.background _ (List.mem_of_getElem? found)
    obtain ⟨terminal, rfl⟩ := fits
    have linked := kept.linked found
    cases writes with
    | true =>
      refine kept.write terminal ?_ (fun none_ => absurd none_ linked) ?_
      · intro pending same
        have before := kept.request pending same
        cases pending with
        | ensuring => exact before
        | linking run => exact absurd before.1 linked
        | finishing status run => exact before
      · intro other inside
        rcases List.mem_or_eq_of_mem_set inside with before | rfl
        · exact kept.background other before
        · trivial
    | false => exact kept.put found .concluded (fun owes => absurd owes (clean _ found)) trivial
  · -- the exception is handled
    obtain rfl := Option.some.inj rest
    refine moved_kept kept found failing ?_ (fun _ _ => trivial) trivial
    exact fun task _ open_ => absurd clean open_
  · cases rest

theorem step_kept {state next : State} {action : Action} (kept : Kept state)
    (clean : Clean str state action) (taken : step str state action = some next) : Kept next := by
  cases action with
  | patch request at_ => exact patch_kept kept clean taken
  | chat command at_ => exact chat_kept kept clean taken
  | ensures creates run => exact ensureRun_kept kept taken
  | links updates metadata => exact linkRun_kept kept taken
  | finishes writes => exact finishRun_kept kept clean taken
  | background index move => exact moveBackground_kept kept clean taken

/-! ## Runs that have ended -/

/-- Writing the status that belongs to the task changes no run that has ended. -/
theorem written_keepsRuns {state : State} (kept : Kept state) :
    KeepsRows (fun status : RunStatus => status ≠ .running) Eq state.runs
      (written state.runs (runIdOf state.task) (runStatusOf state.task.status)) := by
  unfold written
  split
  · exact keepsRows_refl (fun _ => rfl) _
  · exact (keepsRows_revise_iff (fun _ => rfl) _ _ _).mpr
      fun status present late => (kept.ended _ status present late).2

/-- What a background execution does to the runs. -/
theorem moveBackground_runs {state next : State} {index : Nat} {move : Move}
    (taken : moveBackground str state index move = some next) : next.runs = state.runs ∨
      ∃ status, state.backgrounds[index]? = some (.marking status) ∧
        next.runs = written state.runs (runIdOf state.task) status := by
  have moved_runs : ∀ action fields at_ accepted refused,
      (moved str state index action fields at_ accepted refused).runs = state.runs := by
    intro action fields at_ accepted refused
    unfold moved
    split <;> rfl
  obtain ⟨background, found, rest⟩ := Option.bind_eq_some_iff.mp taken
  split at rest
  · obtain rfl := Option.some.inj rest
    left
    unfold begin
    split
    · rfl
    split
    · rfl
    split <;> rfl
  · split at rest
    · exact Or.inl (Option.some.inj rest ▸ rfl)
    · cases rest
  · exact Or.inl (Option.some.inj rest ▸ rfl)
  · exact Or.inl (Option.some.inj rest ▸ moved_runs ..)
  · exact Or.inl (Option.some.inj rest ▸ moved_runs ..)
  · exact Or.inl (Option.some.inj rest ▸ rfl)
  · exact Or.inl (Option.some.inj rest ▸ rfl)
  · exact Or.inl (Option.some.inj rest ▸ rfl)
  · exact Or.inl (Option.some.inj rest ▸ rfl)
  · exact Or.inl (Option.some.inj rest ▸ rfl)
  · exact Or.inl (Option.some.inj rest ▸ rfl)
  · exact Or.inl (Option.some.inj rest ▸ rfl)
  · rename_i status writes
    obtain rfl := Option.some.inj rest
    cases writes with
    | true => exact Or.inr ⟨status, found, rfl⟩
    | false => exact Or.inl rfl
  · exact Or.inl (Option.some.inj rest ▸ moved_runs ..)
  · cases rest

theorem transact_runs {state next : State} {action at_ : String} {fields : Fields}
    {behind : Task → Option Request}
    (taken : transact str state action fields at_ behind = some next) : next.runs = state.runs := by
  unfold transact at taken
  split at taken
  · cases taken
  split at taken
  · exact Option.some.inj taken ▸ rfl
  · exact Option.some.inj taken ▸ rfl

/-- No step changes a run that has ended. -/
theorem step_keepsRuns {state next : State} {action : Action} (kept : Kept state)
    (taken : step str state action = some next) : KeepsRuns state next := by
  have same : next.runs = state.runs → KeepsRuns state next := by
    intro equal
    unfold KeepsRuns
    rw [equal]
    exact keepsRows_refl (fun _ => rfl) _
  cases action with
  | patch request at_ => exact same (transact_runs taken)
  | chat command at_ => exact same (transact_runs taken)
  | ensures creates run =>
    change ensureRun state creates run = some next at taken
    unfold ensureRun at taken
    split at taken
    case h_2 => cases taken
    split at taken
    · exact same (Option.some.inj taken ▸ rfl)
    split at taken
    · exact same (Option.some.inj taken ▸ rfl)
    split at taken
    · cases taken
    case isFalse fresh =>
      obtain rfl := Option.some.inj taken
      intro tested status present late
      refine ⟨status, ?_, rfl⟩
      show (state.runs.set run .running).get tested = some status
      rw [Dict.get_set_ne _ _ ?_, present]
      rintro rfl
      rw [present] at fresh
      exact fresh rfl
  | links updates metadata =>
    change linkRun str state updates metadata = some next at taken
    unfold linkRun at taken
    split at taken
    · split at taken
      · exact same (Option.some.inj taken ▸ rfl)
      · exact same (Option.some.inj taken ▸ rfl)
    · cases taken
  | finishes writes =>
    change finishRun state writes = some next at taken
    unfold finishRun at taken
    split at taken
    case h_2 => cases taken
    case h_1 pending =>
      obtain ⟨_, rfl, rfl⟩ := kept.request _ pending
      obtain rfl := Option.some.inj taken
      cases writes with
      | true => exact written_keepsRuns kept
      | false => exact same rfl
  | background index move =>
    rcases moveBackground_runs taken with equal | ⟨status, found, equal⟩
    · exact same equal
    · have fits : BackgroundFits state.task (.marking status) :=
        kept.background _ (List.mem_of_getElem? found)
      obtain ⟨_, rfl⟩ := fits
      unfold KeepsRuns
      rw [equal]
      exact written_keepsRuns kept

theorem keepsRuns_trans (state middle later : State) (first : KeepsRuns state middle)
    (second : KeepsRuns middle later) : KeepsRuns state later :=
  keepsRows_trans (fun _ _ _ one two => one.trans two) (fun _ _ late same => same ▸ late) first
    second

/-- From its creation on, a task and its run agree whenever nothing is in between, and runs that
have ended stay as they are, if every step that is taken is clean. -/
theorem run_ends_with_task (topic : String) (plan sourcePolicy : Fields) (outputFormat : String)
    (metadata : Fields) (actions : List Action)
    (clean : Taking (step str) (Clean str) (created topic plan sourcePolicy outputFormat metadata)
      actions) :
    Throughout (step str) Agreed (created topic plan sourcePolicy outputFormat metadata) actions ∧
      Persists (step str) KeepsRuns (created topic plan sourcePolicy outputFormat metadata)
        actions := by
  have kept := created_kept topic plan sourcePolicy outputFormat metadata
  have preserved : ∀ state action next, Kept state →
      (∀ next, step str state action = some next → Clean str state action) →
      step str state action = some next → Kept next :=
    fun state action next holds met taken => step_kept holds (met next taken) taken
  refine ⟨⟨kept.agreed, ?_⟩, ?_⟩
  · exact Along.imp_of_invariant Kept preserved
      (fun state action holds met next taken =>
        (preserved state action next holds met taken).agreed) kept clean
  · refine (persists_iff_along (fun state => keepsRows_refl (fun _ => rfl) state.runs)
      keepsRuns_trans _ _).mpr ?_
    exact Along.imp_of_invariant Kept preserved
      (fun state action holds _ next taken => step_keepsRuns holds taken) kept clean

end

/-! ### A task that is completed, and one that is cancelled in the chat -/

def noFields : Given := ⟨Fields.of [], fun _ some_ => nomatch some_⟩

/-- A task that is executed on demand. -/
def tidesTask : State :=
  created "tides" (Fields.of []) (Fields.of [("auto_execute", .bool false)]) "markdown"
    (Fields.of [])

/-- The task is started and gets its run. -/
def startedTask : List Action :=
  [.patch ⟨"start", false, noFields⟩ "t1", .ensures true "run", .links true (Fields.of [])]

def completedTask : List Action :=
  startedTask ++ [.patch ⟨"complete", false, noFields⟩ "t2", .finishes true]

theorem completed_task_agrees :
    Throughout (step textsOnly) Agreed tidesTask completedTask ∧
      Persists (step textsOnly) KeepsRuns tidesTask completedTask := by
  refine run_ends_with_task "tides" _ _ _ _ _ (along_of_mem ?_ _)
  intro state action member next _
  have named : ∀ word ∈ ["start", "complete"],
      wordOf (PatchRequest.actionOf ⟨word, false, noFields⟩) ≠ "" := by decide +kernel
  simp only [completedTask, startedTask, List.cons_append, List.nil_append, List.mem_cons,
    List.not_mem_nil, or_false] at member
  rcases member with rfl | rfl | rfl | rfl | rfl
  · exact fun _ unnamed => absurd unnamed (named "start" (by simp))
  · trivial
  · trivial
  · exact fun _ unnamed => absurd unnamed (named "complete" (by simp))
  · rfl

/-- Cancelled by a chat message. -/
def cancelledTask : List Action := startedTask ++ [.chat .cancel "t2"]

/-- The run of the cancelled task goes on. -/
theorem chat_cancel_leaves_run :
    ¬Throughout (step textsOnly) Agreed tidesTask cancelledTask := by
  intro throughout
  have ran : (run (step textsOnly) tidesTask cancelledTask).any (fun state =>
      state.request.isNone && state.backgrounds.isEmpty &&
        decide (state.task.status ∈ terminalStatuses) &&
          decide (runIdOf state.task = some "run") &&
            decide (state.runs.get "run" = some .running)) = true := by decide +kernel
  obtain ⟨state, completed, holds⟩ := Option.any_eq_true _ _ |>.mp ran
  simp only [Bool.and_eq_true, decide_eq_true_eq, Option.isNone_iff_eq_none,
    List.isEmpty_iff] at holds
  obtain ⟨⟨⟨⟨request, backgrounds⟩, ended⟩, linked⟩, running⟩ := holds
  have quiet : Quiet state := ⟨request, by rw [backgrounds]; exact List.forall_mem_nil _⟩
  obtain ⟨status, present, late⟩ := throughout.final completed quiet ended "run" linked
  rw [running] at present
  exact late (Option.some.inj present).symm

end MeetYou.ResearchRuns
