import MeetYou.OperationRunner

/-!
# One handler and one record for an operation

A call that has to itself the tool of an operation finds a record of it, or no handler of it was
ever started on the tool. So an exclusive tool is started at most once for an operation, whatever
else the calls of the provider do. Where the calls of an operation name one exclusive tool, what
answers them is one record.
-/

namespace MeetYou.OperationRunner

open Runs Text EndpointCalls

/-! ## The runner -/

section
variable {provider : Provider} {runner : Runner} {request : OperationRequest}

/-- What `run` comes to before its first wait. -/
inductive Begins (provider : Provider) (runner : Runner) (request : OperationRequest) :
    Begun × Runner → Prop
  | nameless (error : OperationError) (unnamed : strip request.operationId = "") :
      Begins provider runner request
        (.ended (runner.failure request error), runner.fail request error)
  | cached (final : OperationFinal) (named : strip request.operationId ≠ "")
      (found : runner.finals.get (strip request.operationId) = some final) :
      Begins provider runner request (.ended final, runner)
  | refused (error : OperationError) (named : strip request.operationId ≠ "")
      (absent : runner.finals.get (strip request.operationId) = none) :
      Begins provider runner request
        (.ended (runner.failure request error), runner.fail request error)
  | handling (named : strip request.operationId ≠ "")
      (absent : runner.finals.get (strip request.operationId) = none) :
      Begins provider runner request (.handling, runner.counted request.operationId)

theorem begins_cases : Begins provider runner request (runner.begins provider request) := by
  unfold Runner.begins
  dsimp only
  split
  case isTrue unnamed => exact .nameless _ unnamed
  case isFalse named =>
    split
    case h_1 final found => exact .cached final named found
    case h_2 absent =>
      split
      · exact .refused _ named absent
      · exact .handling named absent

/-- A failure is kept under its operation, if it has one. -/
theorem finals_fail (error : OperationError) (tested : String) :
    (runner.fail request error).finals.get tested =
      if request.operationId ≠ "" ∧ strip request.operationId = tested then
        some (runner.failure request error)
      else runner.finals.get tested := by
  unfold Runner.fail
  dsimp only
  by_cases unnamed : request.operationId = ""
  · rw [if_pos unnamed, if_neg (fun named => named.1 unnamed)]
    rfl
  · rw [if_neg unnamed, Runner.store, Dict.get_set]
    exact if_congr (by simp [unnamed]) rfl rfl

section
variable {final : OperationFinal} {after : Runner} {tested : String}
  (begins : Begins provider runner request (.ended final, after))
  (stripped : strip request.operationId = request.operationId)
include begins stripped

/-- The record on which a run ends at once stands for its operation. -/
theorem Begins.stands (named : request.operationId ≠ "") :
    after.finals.get request.operationId = some final := by
  cases begins with
  | nameless error unnamed => exact absurd (stripped.symm.trans unnamed) named
  | cached _ _ found => exact stripped ▸ found
  | refused error _ _ =>
    rw [finals_fail]
    exact if_pos ⟨named, stripped⟩

/-- The records of the other operations stay. -/
theorem Begins.others (different : tested ≠ request.operationId) :
    after.finals.get tested = runner.finals.get tested := by
  cases begins with
  | cached _ _ _ => rfl
  | nameless error _ | refused error _ _ =>
    rw [finals_fail, if_neg]
    rintro ⟨_, rfl⟩
    exact different stripped

/-- A record that stands is not replaced. -/
theorem Begins.keeps {held : OperationFinal} (stood : runner.finals.get tested = some held) :
    after.finals.get tested = some held := by
  cases begins with
  | cached _ _ _ => exact stood
  | nameless error unnamed =>
    rw [finals_fail, if_neg (fun named => named.1 (stripped.symm.trans unnamed))]
    exact stood
  | refused error _ absent =>
    rw [finals_fail, if_neg]
    · exact stood
    · rintro ⟨_, rfl⟩
      rw [absent] at stood
      cases stood

end

theorem finals_ends (ending : Ending) (tested : String) :
    (runner.ends request ending).finals.get tested =
      if strip request.operationId = tested then some (runner.record request ending)
      else runner.finals.get tested := by
  unfold Runner.ends
  rw [Runner.store, Dict.get_set]
  rfl

/-- Only a cancelled run does not end on its record. -/
theorem outcomeOfEnding_cases (runner : Runner) (request : OperationRequest) (ending : Ending) :
    outcomeOfEnding (runner.record request ending) ending =
        outcomeOf (runner.record request ending) ∨
      outcomeOfEnding (runner.record request ending) ending = .cancelled ∧
        (runner.record request ending).status = .cancelled := by
  cases ending with
  | cancelled => exact Or.inr ⟨rfl, rfl⟩
  | returned result => exact Or.inl rfl
  | refused code message retryable => exact Or.inl rfl
  | timedOut seconds => exact Or.inl rfl
  | raised message => exact Or.inl rfl

end

/-! ## Steps of the provider -/

/-- What a step of the provider can be. -/
inductive Steps (provider : Provider) (state : State) (action : Action) : State → Prop
  | arrives (request : CallRequest) (operationId : String)
      (asked : action = .request request operationId) :
      Steps provider state action { state with
        calls := createTask state.calls request
        operationIds := state.operationIds ++ [operationId] }
  | moves (calls : EndpointCalls.State) (quiet : Quiet provider.runtime state.calls calls)
      (length : calls.tasks.length = state.calls.tasks.length) :
      Steps provider state action { state with calls }
  | handles (index : Nat) (old task : Task) (calls : EndpointCalls.State)
      (found : state.calls.tasks[index]? = some old)
      (enters : Enters provider.runtime state.calls index old task calls)
      (named : state.operation index task ≠ "")
      (absent : state.runner.finals.get (state.operation index task) = none) :
      Steps provider state action { state with
        calls
        runner := state.runner.counted (state.operation index task)
        starts := state.starts ++ [⟨index, state.operation index task, task.request.key⟩] }
  | answers (index : Nat) (old task last : Task) (middle calls : EndpointCalls.State)
      (final : OperationFinal) (runner : Runner)
      (found : state.calls.tasks[index]? = some old)
      (enters : Enters provider.runtime state.calls index old task middle)
      (leaves : Leaves provider.runtime middle index task last (outcomeOf final) calls)
      (begins : Begins provider state.runner (state.request index task) (.ended final, runner)) :
      Steps provider state action { state with
        calls
        runner
        replies := state.replies ++
          [⟨index, state.operation index task, final, outcomeOf final⟩] }
  | ends (index : Nat) (old task : Task) (calls : EndpointCalls.State) (ending : Ending)
      (found : state.calls.tasks[index]? = some old)
      (leaves : Leaves provider.runtime state.calls index old task
        (outcomeOfEnding (state.runner.record (state.request index old) ending) ending) calls) :
      Steps provider state action { state with
        calls
        runner := state.runner.ends (state.request index old) ending
        replies := state.replies ++
          [⟨index, state.operation index old, state.runner.record (state.request index old) ending,
            outcomeOfEnding (state.runner.record (state.request index old) ending) ending⟩] }

section
variable {provider : Provider} {state next : State}

theorem length_of_set {calls : EndpointCalls.State} {index : Nat} {task : Task}
    (same : calls.tasks = state.calls.tasks.set index task) :
    calls.tasks.length = state.calls.tasks.length := by
  rw [same, List.length_set]

/-- A task that has its tool starts a handler or goes on with a record. -/
theorem enter_cases {index : Nat} {task : Task}
    (entered : enter provider state index task = some next) :
    state.operation index task ≠ "" ∧
        state.runner.finals.get (state.operation index task) = none ∧
        next = { state with
          runner := state.runner.counted (state.operation index task)
          starts := state.starts ++ [⟨index, state.operation index task, task.request.key⟩] } ∨
      ∃ final runner calls,
        Begins provider state.runner (state.request index task) (.ended final, runner) ∧
        conclude provider.runtime state.calls index task (outcomeOf final) = some calls ∧
        next = { state with
          calls
          runner
          replies := state.replies ++
            [⟨index, state.operation index task, final, outcomeOf final⟩] } := by
  unfold enter at entered
  dsimp only at entered
  have begins := @begins_cases provider state.runner (state.request index task)
  have stripped : strip (state.operation index task) = state.operation index task := strip_strip _
  cases came : state.runner.begins provider (state.request index task) with
  | mk begun runner =>
    rw [came] at begins entered
    cases begun with
    | handling =>
      obtain rfl := Option.some.inj entered
      cases begins with
      | handling named absent =>
        have same : strip (state.request index task).operationId = state.operation index task :=
          stripped
        rw [same] at named absent
        exact Or.inl ⟨named, absent, rfl⟩
    | ended final =>
      obtain ⟨calls, moved, rfl⟩ := Option.map_eq_some_iff.mp entered
      exact Or.inr ⟨final, runner, calls, begins, moved, rfl⟩

theorem step_cases {action : Action} (taken : step provider state action = some next) :
    Steps provider state action next := by
  cases action with
  | request request operationId =>
    obtain rfl := Option.some.inj taken
    exact .arrives request operationId rfl
  | cancel callId =>
    obtain rfl := Option.some.inj taken
    refine .moves _ (handleCallCancel_quiet callId) ?_
    unfold handleCallCancel
    split
    · rfl
    · split
      · rfl
      · split
        · rfl
        · exact length_of_set rfl
  | proceeds index =>
    obtain ⟨old, found, taken⟩ := Option.bind_eq_some_iff.mp taken
    obtain ⟨calls, moved, settled⟩ := Option.bind_eq_some_iff.mp taken
    obtain ⟨task, idles | enters⟩ := proceed_cases moved
    · have placed : calls.tasks[index]? = some task := by
        rw [idles.tasks]
        exact Positions.set_self found task
      have unsettled : settle provider { state with calls } index = some { state with calls } := by
        unfold settle
        rw [show ({ state with calls } : State).calls.tasks[index]? = some task from placed]
        dsimp only
        split
        case h_1 executing => exact absurd executing idles.stays
        case h_2 => rfl
      rw [unsettled] at settled
      obtain rfl := Option.some.inj settled
      exact .moves calls (idles.quiet found) (length_of_set idles.tasks)
    · have placed : calls.tasks[index]? = some task := by
        rw [enters.tasks]
        exact Positions.set_self found task
      have settles : settle provider { state with calls } index =
          enter provider { state with calls } index task := by
        unfold settle
        rw [show ({ state with calls } : State).calls.tasks[index]? = some task from placed]
        dsimp only
        rw [enters.executing]
      rw [settles] at settled
      rcases enter_cases settled with
        ⟨named, absent, rfl⟩ | ⟨final, runner, after, begins, moved, rfl⟩
      · exact .handles index old task calls found enters named absent
      · obtain ⟨last, leaves⟩ := conclude_leaves moved
        exact .answers index old task last calls after final runner found enters leaves begins
  | concludes index ending =>
    obtain ⟨old, found, taken⟩ := Option.bind_eq_some_iff.mp taken
    unfold leave at taken
    dsimp only at taken
    obtain ⟨after, moved, rfl⟩ := Option.map_eq_some_iff.mp taken
    obtain ⟨task, leaves⟩ := conclude_leaves moved
    exact .ends index old task after ending found leaves
  | closes =>
    obtain rfl := Option.some.inj taken
    exact .moves _ closes_quiet (List.length_map _)
  | loses index =>
    obtain ⟨old, found, taken⟩ := Option.bind_eq_some_iff.mp taken
    obtain ⟨after, lost, rfl⟩ := Option.map_eq_some_iff.mp taken
    have idles := @loses_idles provider.runtime _ _ _ _ lost
    exact .moves after (idles.quiet found) (length_of_set idles.tasks)

end

/-! ## One handler -/

/-- The task of an index executes the tool for the operation. -/
def Executes (state : State) (entry : Start) : Prop :=
  Holds state.calls.tasks entry.task fun task => task.phase = .executing ∧
    task.request.key = entry.capabilityName ∧
      state.operation entry.task task = entry.operationId

/-- A handler of an exclusive tool has left a record, or its task has the tool to itself. -/
structure Sound (provider : Provider) (state : State) : Prop where
  locked : Locked provider.runtime state.calls
  asked : state.operationIds.length = state.calls.tasks.length
  running : ∀ entry ∈ state.starts, provider.Exclusive entry.capabilityName →
    state.runner.finals.get entry.operationId ≠ none ∨ Executes state entry
  once : StartsOnce provider state

theorem start_sound (provider : Provider) : Sound provider start where
  locked := by
    constructor
    · intro index task placed
      cases placed
    · intro index task placed
      cases placed
  asked := rfl
  running := by
    intro entry member
    cases member
  once := List.nodup_nil

section
variable {provider : Provider} {state next : State}

/-- A move outside the tools keeps what is running. -/
theorem Sound.quiet (sound : Sound provider state) {calls : EndpointCalls.State}
    {operationIds : List String} (quiet : Quiet provider.runtime state.calls calls)
    (asked : operationIds.length = calls.tasks.length)
    (kept : ∀ index < state.operationIds.length,
      operationIds.getD index "" = state.operationIds.getD index "") :
    Sound provider { state with calls, operationIds } where
  locked := sound.locked.quiet quiet
  asked := asked
  running := by
    intro entry member exclusive
    refine (sound.running entry member exclusive).imp_right ?_
    rintro ⟨old, found, executing, named, asked_for⟩
    obtain ⟨task, placed, request, goes, _⟩ := quiet.forth entry.task old found
    have within : entry.task < state.operationIds.length := by
      rw [sound.asked]
      exact (List.getElem?_eq_some_iff.mp found).1
    refine ⟨task, placed, goes executing, request ▸ named, ?_⟩
    rw [← asked_for, State.operation, State.operation, request]
    exact congrArg (operationOf · _) (kept entry.task within)
  once := sound.once

/-- The records of a run's beginning are those before, apart from its own. -/
theorem Begins.kept {runner : Runner} {request : OperationRequest} {came : Begun × Runner}
    (begins : Begins provider runner request came) {tested : String}
    (held : runner.finals.get tested ≠ none) : came.2.finals.get tested ≠ none := by
  cases begins with
  | nameless error unnamed =>
    rw [finals_fail]
    split
    · exact Option.some_ne_none _
    · exact held
  | cached final named found => exact held
  | refused error named absent =>
    rw [finals_fail]
    split
    · exact Option.some_ne_none _
    · exact held
  | handling named absent => exact held

variable {index : Nat} {old task : Task} {calls : EndpointCalls.State}

/-- A task that comes to its tool leaves the other tasks in theirs. -/
theorem Executes.enters {entry : Start} (runs : Executes state entry)
    (found : state.calls.tasks[index]? = some old)
    (enters : Enters provider.runtime state.calls index old task calls) :
    Executes { state with calls } entry ∧ entry.task ≠ index := by
  obtain ⟨held, placed, executing, rest⟩ := runs
  have apart : entry.task ≠ index := by
    rintro rfl
    obtain rfl := Option.some.inj (found.symm.trans placed)
    exact enters.outside executing
  refine ⟨⟨held, ?_, executing, rest⟩, apart⟩
  rw [enters.tasks]
  exact (List.getElem?_set_ne (Ne.symm apart)).trans placed

/-- The task that has an exclusive tool is the only one that executes it. -/
theorem Locked.only {runtime : Runtime} {calls : EndpointCalls.State}
    (locked : Locked runtime calls) {one other : Nat} {oneTask otherTask : Task}
    (oneFound : calls.tasks[one]? = some oneTask)
    (otherFound : calls.tasks[other]? = some otherTask)
    (oneExecutes : oneTask.phase = .executing) (otherExecutes : otherTask.phase = .executing)
    (same : oneTask.request.key = otherTask.request.key)
    (exclusive : runtime.Exclusive oneTask.request.key) : one = other := by
  have oneHolds := locked.alone one oneTask oneFound oneExecutes exclusive
  have otherHolds := locked.alone other otherTask otherFound otherExecutes (same ▸ exclusive)
  rw [same, otherHolds] at oneHolds
  exact (Option.some.inj oneHolds).symm

/-- A task that leaves its tool leaves the other tasks in theirs. -/
theorem Executes.leaves {entry : Start} (runs : Executes state entry) {outcome : ToolOutcome}
    (leaves : Leaves provider.runtime state.calls index old task outcome calls)
    (apart : entry.task ≠ index) : Executes { state with calls } entry := by
  obtain ⟨held, placed, rest⟩ := runs
  refine ⟨held, ?_, rest⟩
  rw [leaves.tasks]
  exact (List.getElem?_set_ne (Ne.symm apart)).trans placed

/-- A handler that is started joins those before it; the same was not started before. -/
theorem started_append (sound : Sound provider state) (found : state.calls.tasks[index]? = some old)
    (enters : Enters provider.runtime state.calls index old task calls)
    (absent : state.runner.finals.get (state.operation index task) = none)
    (exclusive : provider.Exclusive task.request.key) :
    (state.operation index task, task.request.key) ∉ state.started provider := by
  intro member
  obtain ⟨entry, listed, same⟩ := List.mem_map.mp member
  obtain ⟨inside, decided⟩ := List.mem_filter.mp listed
  obtain ⟨operation, capability⟩ := Prod.mk.injEq _ _ _ _ ▸ same
  rcases sound.running entry inside (of_decide_eq_true decided) with recorded | runs
  · rw [operation] at recorded
    exact recorded absent
  · obtain ⟨⟨held, placed, executing, named, _⟩, apart⟩ := runs.enters found enters
    have mine : calls.tasks[index]? = some task := by
      rw [enters.tasks]
      exact Positions.set_self found task
    have keys : task.request.key = held.request.key := by rw [named, capability]
    exact apart (((sound.locked.enters enters).only mine placed enters.executing executing keys
      exclusive).symm)

/-- A call that arrives brings an operation id, behind those of the calls before it. -/
theorem asked_createTask {calls : EndpointCalls.State} {operationIds : List String}
    (asked : operationIds.length = calls.tasks.length) (request : CallRequest)
    (operationId : String) :
    (operationIds ++ [operationId]).length = (createTask calls request).tasks.length := by
  simp [createTask, asked]

theorem getD_createTask {operationIds : List String} (operationId : String) {index : Nat}
    (within : index < operationIds.length) :
    (operationIds ++ [operationId]).getD index "" = operationIds.getD index "" := by
  rw [List.getD_eq_getElem?_getD, List.getElem?_append_left within, ← List.getD_eq_getElem?_getD]

/-- A step keeps what holds of the handlers. -/
theorem step_sound (sound : Sound provider state) {action : Action}
    (taken : step provider state action = some next) : Sound provider next := by
  cases step_cases taken with
  | arrives request operationId _ =>
    refine sound.quiet (createTask_quiet request) ?_ ?_
    · exact asked_createTask sound.asked request operationId
    · exact fun index within => getD_createTask operationId within
  | moves calls quiet length =>
    exact sound.quiet quiet (sound.asked.trans length.symm) (fun _ _ => rfl)
  | handles index old task calls found enters named absent =>
    refine ⟨sound.locked.enters enters, ?_, ?_, ?_⟩
    · rw [sound.asked, length_of_set enters.tasks]
    · intro entry member exclusive
      rcases List.mem_append.mp member with earlier | new
      · refine (sound.running entry earlier exclusive).imp_right fun runs => ?_
        exact (runs.enters found enters).1
      · obtain rfl := List.mem_singleton.mp new
        have mine : calls.tasks[index]? = some task := by
          rw [enters.tasks]
          exact Positions.set_self found task
        exact Or.inr ⟨task, mine, enters.executing, rfl, rfl⟩
    · unfold StartsOnce State.started
      rw [List.filter_append, List.map_append]
      by_cases exclusive : provider.Exclusive task.request.key
      · rw [List.filter_cons_of_pos (by simpa using exclusive)]
        refine List.nodup_append.mpr ⟨sound.once, List.nodup_singleton _, ?_⟩
        intro one member other single same
        obtain rfl := List.mem_singleton.mp single
        rw [same] at member
        exact started_append sound found enters absent exclusive member
      · rw [List.filter_cons_of_neg (by simpa using exclusive), List.filter_nil, List.map_nil,
          List.append_nil]
        exact sound.once
  | answers index old task last middle calls final runner found enters leaves begins =>
    have mine : middle.tasks[index]? = some task := by
      rw [enters.tasks]
      exact Positions.set_self found task
    refine ⟨(sound.locked.enters enters).leaves mine leaves, ?_, ?_, sound.once⟩
    · rw [sound.asked, leaves.tasks, List.length_set, length_of_set enters.tasks]
    · intro entry member exclusive
      have runs := sound.running entry member exclusive
      refine runs.imp (fun held => begins.kept held) fun runs => ?_
      obtain ⟨going, apart⟩ := runs.enters found enters
      exact @Executes.leaves provider { state with calls := middle } index task last calls entry
        going (outcomeOf final) leaves apart
  | ends index old task calls ending found leaves =>
    refine ⟨sound.locked.leaves found leaves, ?_, ?_, sound.once⟩
    · rw [sound.asked, length_of_set leaves.tasks]
    · intro entry member exclusive
      have stripped : strip (state.operation index old) = state.operation index old :=
        strip_strip _
      by_cases recorded : state.operation index old = entry.operationId
      · left
        rw [finals_ends, State.request, stripped, if_pos recorded]
        exact Option.some_ne_none _
      · refine (sound.running entry member exclusive).imp ?_ fun runs => ?_
        · intro held
          rw [finals_ends, State.request, stripped, if_neg recorded]
          exact held
        · refine Executes.leaves runs leaves ?_
          rintro rfl
          obtain ⟨held, placed, _, _, asked_for⟩ := runs
          obtain rfl := Option.some.inj (found.symm.trans placed)
          exact recorded asked_for

end

/-- In every run, an exclusive tool is started at most once for an operation. -/
theorem run_startsOnce (provider : Provider) (actions : List Action) :
    Throughout (step provider) (StartsOnce provider) start actions := by
  refine ⟨(start_sound provider).once, ?_⟩
  have unconditional : Along (step provider) (fun _ _ => True) start actions :=
    along_of_mem (fun _ _ _ => trivial) start
  refine Along.imp_of_invariant (Sound provider) ?_ ?_ (start_sound provider) unconditional
  · exact fun state action next sound _ taken => step_sound sound taken
  · exact fun state action sound _ next taken => (step_sound sound taken).once

/-! ## One record -/

/-- The requests for an operation name one tool, an exclusive one. -/
def Names (provider : Provider) (tool : String → String) : Action → Prop
  | .request request operationId => operationOf operationId request.callId ≠ "" →
      tool (operationOf operationId request.callId) = request.key ∧
        provider.Exclusive request.key
  | _ => True

/-- Each operation starts one handler, and its runs end on one record; a call whose run has ended
is answered from the record, or told that it was cancelled. -/
structure AnswersAgree (state : State) : Prop where
  once : (state.starts.map Start.operationId).Nodup
  recorded : ∀ reply ∈ state.replies, reply.operationId ≠ "" →
    state.runner.finals.get reply.operationId = some reply.final
  ended : ∀ reply ∈ state.replies, reply.outcome = outcomeOf reply.final ∨
    reply.outcome = .cancelled ∧ reply.final.status = .cancelled
  sent : ∀ frame ∈ state.calls.frames, ∀ reply ∈ state.replies, frame.task = reply.task →
    frame.body.isTerminal = true → frame.body = answer reply.outcome

/-- What holds between steps where operations name their tools. -/
structure Agreed (provider : Provider) (tool : String → String) (state : State) : Prop where
  sound : Sound provider state
  named : ∀ (index : Nat) (task : Task), state.calls.tasks[index]? = some task →
    state.operation index task ≠ "" →
      tool (state.operation index task) = task.request.key ∧ provider.Exclusive task.request.key
  tooled : ∀ entry ∈ state.starts, tool entry.operationId = entry.capabilityName ∧
    provider.Exclusive entry.capabilityName
  going : ∀ (index : Nat) (task : Task), state.calls.tasks[index]? = some task →
    task.phase = .executing → state.operation index task ≠ "" ∧
      state.runner.finals.get (state.operation index task) = none
  recorded : ∀ reply ∈ state.replies, reply.operationId ≠ "" →
    state.runner.finals.get reply.operationId = some reply.final
  ended : ∀ reply ∈ state.replies, reply.outcome = outcomeOf reply.final ∨
    reply.outcome = .cancelled ∧ reply.final.status = .cancelled
  answering : ∀ reply ∈ state.replies, Holds state.calls.tasks reply.task fun task =>
    EndedWith reply.outcome task.phase
  closed : ∀ frame ∈ state.calls.frames, frame.body.isTerminal = true →
    Holds state.calls.tasks frame.task fun task => task.phase.answered = true
  sent : ∀ frame ∈ state.calls.frames, ∀ reply ∈ state.replies, frame.task = reply.task →
    frame.body.isTerminal = true → frame.body = answer reply.outcome

theorem start_agreed (provider : Provider) (tool : String → String) :
    Agreed provider tool start where
  sound := start_sound provider
  named := by
    intro index task placed
    cases placed
  tooled := by
    intro entry member
    cases member
  going := by
    intro index task placed
    cases placed
  recorded := by
    intro reply member
    cases member
  ended := by
    intro reply member
    cases member
  answering := by
    intro reply member
    cases member
  closed := by
    intro frame member
    cases member
  sent := by
    intro frame member
    cases member

section
variable {provider : Provider} {tool : String → String} {state next : State}

theorem Agreed.agree (agreed : Agreed provider tool state) : AnswersAgree state where
  once := by
    have all : state.started provider =
        (state.starts.map Start.operationId).map fun operation => (operation, tool operation) := by
      unfold State.started
      rw [List.filter_eq_self.mpr fun entry member => decide_eq_true (agreed.tooled entry member).2,
        List.map_map]
      refine List.map_congr_left fun entry member => ?_
      exact congrArg (Prod.mk entry.operationId) (agreed.tooled entry member).1.symm
    have distinct := agreed.sound.once
    unfold StartsOnce at distinct
    rw [all] at distinct
    exact distinct.of_map
  recorded := agreed.recorded
  ended := agreed.ended
  sent := agreed.sent

/-- A move outside the tools keeps what is agreed on, if a new call names its tool. -/
theorem Agreed.quiet (agreed : Agreed provider tool state) {calls : EndpointCalls.State}
    {operationIds : List String} (quiet : Quiet provider.runtime state.calls calls)
    (asked : operationIds.length = calls.tasks.length)
    (kept : ∀ index < state.operationIds.length,
      operationIds.getD index "" = state.operationIds.getD index "")
    (new : ∀ task, calls.tasks[state.calls.tasks.length]? = some task →
      operationOf (operationIds.getD state.calls.tasks.length "") task.request.callId ≠ "" →
      tool (operationOf (operationIds.getD state.calls.tasks.length "") task.request.callId) =
          task.request.key ∧ provider.Exclusive task.request.key) :
    Agreed provider tool { state with calls, operationIds } := by
  have same : ∀ {index : Nat} {old task : Task}, state.calls.tasks[index]? = some old →
      old.request = task.request →
        ({ state with calls, operationIds } : State).operation index task =
          state.operation index old := by
    intro index old task found request
    have within : index < state.operationIds.length := by
      rw [agreed.sound.asked]
      exact (List.getElem?_eq_some_iff.mp found).1
    unfold State.operation
    rw [request]
    exact congrArg (operationOf · _) (kept index within)
  refine
    { sound := agreed.sound.quiet quiet asked kept
      named := ?_
      tooled := agreed.tooled
      going := ?_
      recorded := agreed.recorded
      ended := agreed.ended
      answering := ?_
      closed := ?_
      sent := ?_ }
  · intro index task placed
    rcases quiet.back index task placed with ⟨old, found, request, _⟩ | ⟨rfl, _⟩
    · rw [same found request, ← request]
      exact agreed.named index old found
    · exact new task placed
  · intro index task placed executing
    rcases quiet.back index task placed with ⟨old, found, request, inside, _⟩ | ⟨_, created⟩
    · rw [same found request]
      exact agreed.going index old found (inside executing)
    · rw [created] at executing
      cases executing
  · intro reply member
    obtain ⟨old, found, ended⟩ := agreed.answering reply member
    obtain ⟨task, placed, _, _, ends, _⟩ := quiet.forth reply.task old found
    exact ⟨task, placed, ends _ ended⟩
  · intro frame member terminal
    rcases quiet.frames frame member with earlier | ⟨_, task, _, placed, _, writing⟩
    · obtain ⟨old, found, answered⟩ := agreed.closed frame earlier terminal
      obtain ⟨task, placed, _, _, _, answers⟩ := quiet.forth frame.task old found
      exact ⟨task, placed, answers answered⟩
    · refine ⟨task, placed, ?_⟩
      change task.phase.answered = true
      rw [writing]
      exact terminal
  · intro frame member reply listed mine terminal
    rcases quiet.frames frame member with earlier | ⟨old, _, found, _, sending, _⟩
    · exact agreed.sent frame earlier reply listed mine terminal
    · obtain ⟨held, placed, ended⟩ := agreed.answering reply listed
      obtain rfl := Option.some.inj ((mine ▸ found).symm.trans placed)
      rw [sending] at ended
      exact ended

variable {index : Nat} {old task : Task} {calls : EndpointCalls.State}

/-- Behind its execution a task has sent no answer yet. -/
theorem Agreed.unsent (agreed : Agreed provider tool state)
    (found : state.calls.tasks[index]? = some old) (unanswered : old.phase.answered = false)
    {frame : Frame} (member : frame ∈ state.calls.frames) (mine : frame.task = index) :
    frame.body.isTerminal = false := by
  by_contra terminal
  obtain ⟨held, placed, answered⟩ := agreed.closed frame member (by simpa using terminal)
  rw [mine] at placed
  obtain rfl := Option.some.inj (found.symm.trans placed)
  rw [unanswered] at answered
  cases answered

/-- What a run that ends leaves behind: its task answers from the record that stands. -/
theorem Agreed.replied (agreed : Agreed provider tool state) {runner : Runner}
    (sound : Sound provider { state with
      calls, runner, replies := state.replies ++ [reply] })
    (found : state.calls.tasks[index]? = some old)
    (tasks : calls.tasks = state.calls.tasks.set index task)
    (request : task.request = old.request) (unanswered : old.phase.answered = false)
    (unended : ∀ outcome, ¬ EndedWith outcome old.phase)
    (frames : calls.frames = state.calls.frames) (at_index : reply.task = index)
    (asked : reply.operationId = state.operation index old)
    (answers : task.phase = .sending (answer reply.outcome))
    (ended : reply.outcome = outcomeOf reply.final ∨
      reply.outcome = .cancelled ∧ reply.final.status = .cancelled)
    (stands : reply.operationId ≠ "" → runner.finals.get reply.operationId = some reply.final)
    (kept : ∀ tested final, state.runner.finals.get tested = some final →
      runner.finals.get tested = some final)
    (others : ∀ tested, tested ≠ reply.operationId → runner.finals.get tested =
      state.runner.finals.get tested)
    (alone : ∀ (other : Nat) (held : Task), other ≠ index →
      state.calls.tasks[other]? = some held → held.phase = .executing →
        state.operation other held ≠ reply.operationId) :
    Agreed provider tool { state with calls, runner, replies := state.replies ++ [reply] } := by
  have placed_cases : ∀ {other : Nat} {held : Task}, calls.tasks[other]? = some held →
      (other = index ∧ held = task) ∨ (other ≠ index ∧ state.calls.tasks[other]? = some held) := by
    intro other held placed
    rw [tasks] at placed
    exact Positions.set_cases placed
  have mine : calls.tasks[index]? = some task := by
    rw [tasks]
    exact Positions.set_self found task
  have apart : ∀ {other : Nat} {held : Task}, other ≠ index →
      state.calls.tasks[other]? = some held → calls.tasks[other]? = some held := by
    intro other held different placed
    rw [tasks]
    exact (List.getElem?_set_ne (Ne.symm different)).trans placed
  refine
    { sound := sound
      named := ?_
      tooled := agreed.tooled
      going := ?_
      recorded := ?_
      ended := ?_
      answering := ?_
      closed := ?_
      sent := ?_ }
  · intro other held placed
    rcases placed_cases placed with ⟨rfl, rfl⟩ | ⟨_, before⟩
    · have named := agreed.named other old found
      unfold State.operation at named ⊢
      rw [request]
      exact named
    · exact agreed.named other held before
  · intro other held placed executing
    rcases placed_cases placed with ⟨rfl, rfl⟩ | ⟨different, before⟩
    · rw [answers] at executing
      cases executing
    · obtain ⟨named, absent⟩ := agreed.going other held before executing
      refine ⟨named, ?_⟩
      exact (others _ (alone other held different before executing)).trans absent
  · intro entry member named
    rcases List.mem_append.mp member with earlier | new
    · exact kept _ _ (agreed.recorded entry earlier named)
    · obtain rfl := List.mem_singleton.mp new
      exact stands named
  · intro entry member
    rcases List.mem_append.mp member with earlier | new
    · exact agreed.ended entry earlier
    · obtain rfl := List.mem_singleton.mp new
      exact ended
  · intro entry member
    rcases List.mem_append.mp member with earlier | new
    · obtain ⟨held, before, closes⟩ := agreed.answering entry earlier
      by_cases same : entry.task = index
      · rw [same] at before
        obtain rfl := Option.some.inj (found.symm.trans before)
        exact absurd closes (unended _)
      · exact ⟨held, apart same before, closes⟩
    · obtain rfl := List.mem_singleton.mp new
      refine ⟨task, at_index ▸ mine, ?_⟩
      change EndedWith _ task.phase
      rw [answers]
      exact rfl
  · intro frame member terminal
    rw [frames] at member
    obtain ⟨held, before, answered⟩ := agreed.closed frame member terminal
    by_cases same : frame.task = index
    · rw [agreed.unsent found unanswered member same] at terminal
      cases terminal
    · exact ⟨held, apart same before, answered⟩
  · intro frame member entry listed sender terminal
    rw [frames] at member
    rcases List.mem_append.mp listed with earlier | new
    · exact agreed.sent frame member entry earlier sender terminal
    · obtain rfl := List.mem_singleton.mp new
      rw [agreed.unsent found unanswered member (sender.trans at_index)] at terminal
      cases terminal

/-- Two calls of one operation do not have their tool at the same time. -/
theorem Agreed.apart (agreed : Agreed provider tool state) (locked : Locked provider.runtime calls)
    {one other : Nat} {oneTask otherTask : Task} (oneFound : calls.tasks[one]? = some oneTask)
    (otherFound : calls.tasks[other]? = some otherTask) (oneExecutes : oneTask.phase = .executing)
    (otherExecutes : otherTask.phase = .executing)
    (oneNamed : tool (state.operation one oneTask) = oneTask.request.key ∧
      provider.Exclusive oneTask.request.key)
    (otherBefore : state.calls.tasks[other]? = some otherTask) (different : other ≠ one) :
    state.operation other otherTask ≠ state.operation one oneTask := by
  intro same
  have named := (agreed.going other otherTask otherBefore otherExecutes).1
  have otherNamed := agreed.named other otherTask otherBefore named
  rw [same] at otherNamed
  have keys : oneTask.request.key = otherTask.request.key := oneNamed.1.symm.trans otherNamed.1
  exact different (locked.only oneFound otherFound oneExecutes otherExecutes keys
    oneNamed.2).symm

/-- A run that ends at once on a record leaves it to its task. -/
theorem Agreed.answers (agreed : Agreed provider tool state) {last : Task}
    {middle : EndpointCalls.State} {final : OperationFinal} {runner : Runner}
    (sound : Sound provider { state with
      calls, runner, replies := state.replies ++
        [⟨index, state.operation index task, final, outcomeOf final⟩] })
    (found : state.calls.tasks[index]? = some old)
    (enters : Enters provider.runtime state.calls index old task middle)
    (leaves : Leaves provider.runtime middle index task last (outcomeOf final) calls)
    (begins : Begins provider state.runner (state.request index task) (.ended final, runner)) :
    Agreed provider tool { state with
      calls, runner, replies := state.replies ++
        [⟨index, state.operation index task, final, outcomeOf final⟩] } := by
  have stripped : strip (state.request index task).operationId =
    (state.request index task).operationId := strip_strip _
  have same : state.operation index task = state.operation index old :=
    congrArg (fun request : CallRequest => operationOf _ request.callId) enters.request
  have tasks : calls.tasks = state.calls.tasks.set index last := by
    rw [leaves.tasks, enters.tasks, List.set_set]
  have mine : middle.tasks[index]? = some task := by
    rw [enters.tasks]
    exact Positions.set_self found task
  refine agreed.replied sound found tasks (leaves.request.trans enters.request) enters.unanswered
    enters.unended (leaves.frames.trans enters.frames) rfl same leaves.answers (Or.inl rfl)
    (begins.stands stripped) (fun _ _ => begins.keeps stripped)
    (fun _ => begins.others stripped) ?_
  intro other held different before executing asked
  have placed : middle.tasks[other]? = some held := by
    rw [enters.tasks]
    exact (List.getElem?_set_ne (Ne.symm different)).trans before
  have named := (agreed.going other held before executing).1
  rw [asked] at named
  have tooled := agreed.named index old found (same ▸ named)
  rw [← same, ← enters.request] at tooled
  exact agreed.apart (agreed.sound.locked.enters enters) mine placed enters.executing executing
    tooled before different asked

/-- A run that ends behind its handler leaves its record to its task. -/
theorem Agreed.ends (agreed : Agreed provider tool state) {ending : Ending}
    (sound : Sound provider { state with
      calls
      runner := state.runner.ends (state.request index old) ending
      replies := state.replies ++
        [⟨index, state.operation index old, state.runner.record (state.request index old) ending,
          outcomeOfEnding (state.runner.record (state.request index old) ending) ending⟩] })
    (found : state.calls.tasks[index]? = some old)
    (leaves : Leaves provider.runtime state.calls index old task
      (outcomeOfEnding (state.runner.record (state.request index old) ending) ending) calls) :
    Agreed provider tool { state with
      calls
      runner := state.runner.ends (state.request index old) ending
      replies := state.replies ++
        [⟨index, state.operation index old, state.runner.record (state.request index old) ending,
          outcomeOfEnding (state.runner.record (state.request index old) ending) ending⟩] } := by
  have stripped : strip (state.request index old).operationId = state.operation index old :=
    strip_strip _
  obtain ⟨named, absent⟩ := agreed.going index old found leaves.executing
  refine agreed.replied sound found leaves.tasks leaves.request ?_ ?_ leaves.frames rfl rfl
    leaves.answers (outcomeOfEnding_cases _ _ _) ?_ ?_ ?_ ?_
  · rw [leaves.executing]
    rfl
  · rw [leaves.executing]
    exact fun _ => id
  · intro _
    rw [finals_ends]
    exact if_pos stripped
  · intro tested held found
    rw [finals_ends, if_neg]
    · exact found
    · rw [stripped]
      rintro rfl
      rw [absent] at found
      cases found
  · intro tested different
    rw [finals_ends, if_neg (fun same => different (same.symm.trans stripped))]
  · intro other held different before executing
    exact agreed.apart agreed.sound.locked found before leaves.executing executing
      (agreed.named index old found named) before different

/-- A handler that is started is the first of its operation. -/
theorem Agreed.handles (agreed : Agreed provider tool state)
    (sound : Sound provider { state with
      calls
      runner := state.runner.counted (state.operation index task)
      starts := state.starts ++ [⟨index, state.operation index task, task.request.key⟩] })
    (found : state.calls.tasks[index]? = some old)
    (enters : Enters provider.runtime state.calls index old task calls)
    (named : state.operation index task ≠ "")
    (absent : state.runner.finals.get (state.operation index task) = none) :
    Agreed provider tool { state with
      calls
      runner := state.runner.counted (state.operation index task)
      starts := state.starts ++ [⟨index, state.operation index task, task.request.key⟩] } := by
  have same : state.operation index task = state.operation index old :=
    congrArg (fun request : CallRequest => operationOf _ request.callId) enters.request
  have tooled : tool (state.operation index task) = task.request.key ∧
      provider.Exclusive task.request.key := by
    have before := agreed.named index old found (same ▸ named)
    rwa [← same, ← enters.request] at before
  have placed_cases : ∀ {other : Nat} {held : Task}, calls.tasks[other]? = some held →
      (other = index ∧ held = task) ∨ (other ≠ index ∧ state.calls.tasks[other]? = some held) := by
    intro other held placed
    rw [enters.tasks] at placed
    exact Positions.set_cases placed
  have apart : ∀ {other : Nat} {held : Task}, other ≠ index →
      state.calls.tasks[other]? = some held → calls.tasks[other]? = some held := by
    intro other held different placed
    rw [enters.tasks]
    exact (List.getElem?_set_ne (Ne.symm different)).trans placed
  refine
    { sound := sound
      named := ?_
      tooled := ?_
      going := ?_
      recorded := agreed.recorded
      ended := agreed.ended
      answering := ?_
      closed := ?_
      sent := ?_ }
  · intro other held placed
    rcases placed_cases placed with ⟨rfl, rfl⟩ | ⟨_, before⟩
    · exact fun _ => tooled
    · exact agreed.named other held before
  · intro entry member
    rcases List.mem_append.mp member with earlier | new
    · exact agreed.tooled entry earlier
    · obtain rfl := List.mem_singleton.mp new
      exact tooled
  · intro other held placed executing
    rcases placed_cases placed with ⟨rfl, rfl⟩ | ⟨_, before⟩
    · exact ⟨named, absent⟩
    · exact agreed.going other held before executing
  · intro reply member
    obtain ⟨held, before, ended⟩ := agreed.answering reply member
    by_cases mine : reply.task = index
    · rw [mine] at before
      obtain rfl := Option.some.inj (found.symm.trans before)
      exact absurd ended (enters.unended _)
    · exact ⟨held, apart mine before, ended⟩
  · intro frame member terminal
    rw [enters.frames] at member
    obtain ⟨held, before, answered⟩ := agreed.closed frame member terminal
    by_cases mine : frame.task = index
    · rw [agreed.unsent found enters.unanswered member mine] at terminal
      cases terminal
    · exact ⟨held, apart mine before, answered⟩
  · intro frame member
    rw [enters.frames] at member
    exact agreed.sent frame member

/-- A step keeps what is agreed on. -/
theorem step_agreed (agreed : Agreed provider tool state) {action : Action}
    (names : Names provider tool action) (taken : step provider state action = some next) :
    Agreed provider tool next := by
  have sound := step_sound agreed.sound taken
  cases step_cases taken with
  | arrives request operationId arrived =>
    refine agreed.quiet (createTask_quiet request)
      (asked_createTask agreed.sound.asked request operationId)
      (fun index within => getD_createTask operationId within) ?_
    intro task placed
    obtain rfl : (⟨request, Dict.empty, .created, false⟩ : Task) = task :=
      Option.some.inj ((Positions.append_self state.calls.tasks _).symm.trans placed)
    rw [← agreed.sound.asked, List.getD_eq_getElem?_getD, Positions.append_self]
    rw [arrived] at names
    exact names
  | moves calls quiet length =>
    refine agreed.quiet quiet (agreed.sound.asked.trans length.symm) (fun _ _ => rfl) ?_
    intro task placed
    have within := (List.getElem?_eq_some_iff.mp placed).1
    omega
  | handles index old task calls found enters named absent =>
    exact agreed.handles sound found enters named absent
  | answers index old task last middle calls final runner found enters leaves begins =>
    exact agreed.answers sound found enters leaves begins
  | ends index old task calls ending found leaves => exact agreed.ends sound found leaves

end

/-- In every run whose requests name one exclusive tool for an operation, each operation has one
handler and one record, and what answers its calls is made from the record. -/
theorem run_answersAgree (provider : Provider) (tool : String → String) (actions : List Action)
    (names : ∀ action ∈ actions, Names provider tool action) :
    Throughout (step provider) AnswersAgree start actions := by
  refine ⟨(start_agreed provider tool).agree, ?_⟩
  have named : Along (step provider) (fun _ action => Names provider tool action) start actions :=
    along_of_mem (fun _ action member => names action member) start
  refine Along.imp_of_invariant (Agreed provider tool) ?_ ?_ (start_agreed provider tool) named
  · exact fun state action next agreed met taken => step_agreed agreed met taken
  · exact fun state action agreed met next taken => (step_agreed agreed met taken).agree

/-! ## An operation that is asked for twice -/

instance (provider : Provider) (tool : String → String) : DecidablePred (Names provider tool)
  | .request request operationId => by unfold Names; infer_instance
  | .cancel _ | .proceeds _ | .concludes _ _ | .closes | .loses _ => isTrue trivial

def gpioProvider : Provider where
  maxParallelCalls := 2
  capabilities := Dict.empty.set "rpi.gpio.write" ⟨Dict.empty, false⟩
  validateInputSchema := fun _ _ => none
  decryptJsonPayload := fun _ => .error ("credential_decrypt_failed", "")

def gpioRequest (callId : String) : CallRequest :=
  ⟨"msg_" ++ callId, callId, "", "rpi.gpio.write", Dict.empty, Dict.empty⟩

/-- The socket is lost while the handler of the call runs. -/
def lostCall : List Action :=
  [.request (gpioRequest "call_1") "op_1"] ++ List.replicate 7 (.proceeds 0) ++
    [.closes, .concludes 0 .cancelled, .loses 0]

/-- A call for the operation of a call that was lost. -/
def secondCall : List Action :=
  .request (gpioRequest "call_2") "op_1" :: List.replicate 9 (.proceeds 1)

theorem run_answersAgree_redelivered :
    (run (step gpioProvider) start lostCall).map
        (fun state => (state.starts.length, state.replies.length)) = some (1, 1) ∧
      Throughout (step gpioProvider) AnswersAgree start (lostCall ++ secondCall) :=
  ⟨by decide +kernel,
    run_answersAgree gpioProvider (fun _ => "rpi.gpio.write") _ (by decide +kernel)⟩

end MeetYou.OperationRunner
