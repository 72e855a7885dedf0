import MeetYou.Foundation.Runs
import MeetYou.Foundation.Text
import MeetYou.Foundation.Values

/-!
# Research tasks

A research task is planned, approved, running, or at an end: cancelled, completed or
failed. A transition names an action, or no action and perhaps a status; it may carry
further fields, which are stored with it. Actions and the plan are guarded by the
status the task has. A status without an action is guarded at the ends only.

So the ends are absorbing. The plan is frozen once the task has been running, and the
task started once, as long as no update without an action takes a running task back to
an earlier status.
-/

namespace MeetYou.ResearchTasks

open Runs

/-! ## Rows -/

/-- A row of `research_tasks`. -/
structure Task where
  topic : String
  status : String
  plan : Fields
  sourcePolicy : Fields
  evidenceLedger : List Json
  outputFormat : String
  summary : String
  artifactId : Json
  runId : Json
  metadata : Fields

/-- `create` of the repository; the other columns get their defaults. -/
def create (topic : String) (plan sourcePolicy : Fields) (outputFormat : String)
    (metadata : Fields) : Task where
  topic := topic
  status := "planned"
  plan := plan
  sourcePolicy := sourcePolicy
  evidenceLedger := []
  outputFormat := outputFormat
  summary := ""
  artifactId := .null
  runId := .null
  metadata := metadata

/-- `_RESEARCH_TERMINAL_STATUSES`. -/
def terminalStatuses : List String := ["cancelled", "completed", "failed"]

/-- `_RESEARCH_ALLOWED_STATUSES`. -/
def allowedStatuses : List String := ["planned", "approved", "running"] ++ terminalStatuses

/-- What a transition raises: a `ResearchTaskStateError`, or the `TypeError` of a value
that is no dictionary or list. -/
inductive Failure
  | state (code message : String)
  | type

section
variable (str : Json → String)

/-- `str(value or "")`; `str` writes the values that are not texts. -/
def textOr (value : Json) : String :=
  if value.truthy then match value with
    | .str text => text
    | other => str other
  else ""

/-- `.strip().lower()`. -/
def wordOf (text : String) : String := Text.lowerWord (Text.strip text)

/-- The entry under the name, unless it is `None`. -/
def present (fields : Fields) (name : String) : Option Json :=
  (fields.get name).filter fun value => match value with
    | .null => false
    | _ => true

/-- `dict(value or {})`. -/
def dictOr (value : Json) : Option Fields :=
  if value.truthy then match value with
    | .obj entries => some (Fields.of entries)
    | _ => none
  else some (Fields.of [])

/-- `list(value or [])`. -/
def listOr (value : Json) : Option (List Json) :=
  if value.truthy then match value with
    | .arr items => some items
    | .obj entries => some (entries.map fun entry => .str entry.1)
    | .str text => some (text.toList.map fun character => .str (String.ofList [character]))
    | _ => none
  else some []

/-! ## Updates -/

/-- The text under the name, where it is given. -/
def textField (fields : Fields) (name current : String) : String :=
  match present fields name with
  | some value => textOr str value
  | none => current

/-- The dictionary under the name, where it is one. -/
def dictField (fields : Fields) (name : String) (current : Fields) : Fields :=
  match fields.get name with
  | some (.obj entries) => Fields.of entries
  | _ => current

/-- `update` of the repository. -/
def update (task : Task) (fields : Fields) : Task where
  topic := textField str fields "topic" task.topic
  status := textField str fields "status" task.status
  outputFormat := textField str fields "output_format" task.outputFormat
  summary := textField str fields "summary" task.summary
  plan := dictField fields "plan" task.plan
  sourcePolicy := dictField fields "source_policy" task.sourcePolicy
  evidenceLedger := match fields.get "evidence_ledger" with
    | some (.arr items) => items
    | _ => task.evidenceLedger
  artifactId := (fields.get "artifact_id").getD task.artifactId
  runId := (fields.get "run_id").getD task.runId
  metadata := match fields.get "metadata" with
    | some (.obj entries) => task.metadata.update (Fields.of entries)
    | _ => task.metadata

/-! ## Transitions -/

/-- A transition that the status forbids. -/
def invalid (verb status : String) : Failure :=
  .state "research_transition_invalid" s!"Cannot {verb} research task from status {status}."

/-- An action that ends a task. -/
def ending (verb status target : String) : Except Failure String :=
  if status ∈ terminalStatuses then .error (invalid verb status) else .ok target

/-- The status an action asks for. -/
def statusOfAction (action status : String) : Except Failure String :=
  if action = "approve" then
    if status = "planned" then .ok "approved" else .error (invalid "approve" status)
  else if action = "start" then
    if status = "planned" ∨ status = "approved" then .ok "running"
    else .error (invalid "start" status)
  else if action = "cancel" then ending "cancel" status "cancelled"
  else if action = "complete" then ending "complete" status "completed"
  else if action = "fail" then ending "fail" status "failed"
  else .error (.state "research_action_invalid" s!"Unsupported research task action: {action}")

/-- `requested_status`. -/
def requestedStatus (action status : String) (fields : Fields) : Except Failure (Option Json) :=
  if action ≠ "" then (statusOfAction action status).map fun target => some (.str target)
  else .ok (present fields "status")

/-- The metadata with the event of the transition. -/
def withEvent (existing : Fields) (fields : Fields) (action status target at_ : String) :
    Option Fields :=
  (dictOr ((fields.get "metadata").getD .null)).bind fun given =>
    let metadata := existing.update given
    (listOr ((metadata.get "events").getD .null)).map fun events =>
      metadata.set "events" (.arr (events ++ [.obj
        [("action", .str (if action = "" then "status" else action)),
          ("from_status", .str status), ("to_status", .str target), ("at", .str at_)]]))

/-- `_normalized_transition_fields`; `at_` is the clock reading of the event. -/
def normalizedTransitionFields (currentStatus action : String) (fields existing : Fields)
    (at_ : String) : Except Failure Fields :=
  let normalizedAction := wordOf action
  let normalizedStatus := if wordOf currentStatus = "" then "planned" else wordOf currentStatus
  if (fields.get "plan").isSome ∧ normalizedStatus ∈ "running" :: terminalStatuses then
    .error (.state "research_plan_locked"
      "Research plan can only be edited before the task starts.")
  else match requestedStatus normalizedAction normalizedStatus fields with
    | .error failure => .error failure
    | .ok none => .ok fields
    | .ok (some requested) =>
        let target := wordOf (textOr str requested)
        if target ∉ allowedStatuses then
          .error (.state "research_status_invalid" s!"Unsupported research task status: {target}")
        else if normalizedAction = "" ∧ normalizedStatus ∈ terminalStatuses ∧
            target ≠ normalizedStatus then
          .error (.state "research_transition_invalid"
            s!"Cannot move research task from terminal status {normalizedStatus} to {target}.")
        else match withEvent existing fields normalizedAction normalizedStatus target at_ with
          | none => .error .type
          | some metadata =>
              .ok ((fields.set "status" (.str target)).set "metadata" metadata.toJson)

/-- `transition_task` on the row of the task. -/
def transition (task : Task) (action : String) (fields : Fields) (at_ : String) :
    Except Failure Task :=
  (normalizedTransitionFields str task.status action fields task.metadata at_).map
    (update str task)

end

/-! ## What a transition does -/

section
variable {str : Json → String}

/-- The words for statuses and actions are normalised already. -/
theorem wordOf_allowed : ∀ status ∈ allowedStatuses, wordOf status = status ∧ status ≠ "" := by
  decide +kernel

@[simp] theorem textOr_str (text : String) : textOr str (.str text) = text := by
  by_cases empty : text = ""
  · simp [textOr, Json.truthy, empty]
  · simp [textOr, Json.truthy, empty]

/-- The statuses an action leads from and to. -/
theorem statusOfAction_cases {action status target : String}
    (asked : statusOfAction action status = .ok target) :
    (action = "approve" ∧ status = "planned" ∧ target = "approved") ∨
      (action = "start" ∧ (status = "planned" ∨ status = "approved") ∧ target = "running") ∨
        (action ∈ ["cancel", "complete", "fail"] ∧ status ∉ terminalStatuses ∧
          target ∈ terminalStatuses ∧ (target = "completed" ↔ action = "complete")) := by
  have ends : ∀ verb word, ending verb status word = .ok target →
      status ∉ terminalStatuses ∧ word = target := by
    intro verb word ended
    unfold ending at ended
    split at ended
    · cases ended
    · rename_i open_
      exact ⟨open_, Except.ok.inj ended⟩
  unfold statusOfAction at asked
  split at asked
  · rename_i approves
    split at asked
    · rename_i planned
      exact .inl ⟨approves, planned, (Except.ok.inj asked).symm⟩
    · cases asked
  split at asked
  · rename_i starts
    split at asked
    · rename_i early
      exact .inr (.inl ⟨starts, early, (Except.ok.inj asked).symm⟩)
    · cases asked
  split at asked
  · rename_i cancels
    obtain ⟨open_, rfl⟩ := ends _ _ asked
    exact .inr (.inr ⟨by simp [cancels], open_, by decide, by simp [cancels]⟩)
  split at asked
  · rename_i completes
    obtain ⟨open_, rfl⟩ := ends _ _ asked
    exact .inr (.inr ⟨by simp [completes], open_, by decide, by simp [completes]⟩)
  split at asked
  · rename_i fails
    obtain ⟨open_, rfl⟩ := ends _ _ asked
    exact .inr (.inr ⟨by simp [fails], open_, by decide, by simp [fails]⟩)
  · cases asked

/-- What an accepted transition does to the status of a task. -/
inductive Moves (action status : String) (fields : Fields) : String → Prop
  | approves (named : action = "approve") (early : status = "planned") : Moves action status fields
      "approved"
  | starts (named : action = "start") (early : status = "planned" ∨ status = "approved") :
      Moves action status fields "running"
  | ends (target : String) (named : action ∈ ["cancel", "complete", "fail"])
      (open_ : status ∉ terminalStatuses) (terminal : target ∈ terminalStatuses)
      (completes : target = "completed" ↔ action = "complete") : Moves action status fields target
  | asks (requested : Json) (target : String) (named : action = "")
      (given : present fields "status" = some requested)
      (word : wordOf (textOr str requested) = target) (allowed : target ∈ allowedStatuses)
      (guarded : status ∈ terminalStatuses → target = status) : Moves action status fields target
  | stays (named : action = "") (silent : present fields "status" = none) :
      Moves action status fields status

/-- The fields a transition passes on to the update: the given ones, with the status
and the metadata of a change. -/
theorem update_after_event (task : Task) (fields metadata : Fields) (target : String) :
    let next := update str task ((fields.set "status" (.str target)).set "metadata" metadata.toJson)
    next.status = target ∧ next.plan = dictField fields "plan" task.plan ∧
      next.evidenceLedger = (update str task fields).evidenceLedger ∧
        next.artifactId = (update str task fields).artifactId := by
  have status : ((fields.set "status" (.str target)).set "metadata" metadata.toJson).get "status" =
      some (.str target) := by
    rw [Dict.get_set_ne _ _ (by decide), Dict.get_set_self]
  have other : ∀ name, name ≠ "status" → name ≠ "metadata" →
      ((fields.set "status" (.str target)).set "metadata" metadata.toJson).get name =
        fields.get name := by
    intro name one two
    rw [Dict.get_set_ne _ _ (Ne.symm two), Dict.get_set_ne _ _ (Ne.symm one)]
  have given : present ((fields.set "status" (.str target)).set "metadata" metadata.toJson)
      "status" = some (.str target) := by
    rw [present, status]
    rfl
  refine ⟨?_, ?_, ?_, ?_⟩
  · simp only [update, textField, given, textOr_str]
  · simp only [update, dictField, other "plan" (by decide) (by decide)]
  · simp only [update, other "evidence_ledger" (by decide) (by decide)]
  · simp only [update, other "artifact_id" (by decide) (by decide)]

attribute [local irreducible] wordOf

/-- Everything an accepted transition of a task with an allowed status does to it. -/
theorem transition_cases {task next : Task} {action at_ : String} {fields : Fields}
    (known : task.status ∈ allowedStatuses)
    (taken : transition str task action fields at_ = .ok next) :
    @Moves str (wordOf action) task.status fields next.status ∧
      (next.plan = task.plan ∨ task.status = "planned" ∨ task.status = "approved") ∧
      next.evidenceLedger = (update str task fields).evidenceLedger ∧
        next.artifactId = (update str task fields).artifactId := by
  obtain ⟨normal, named⟩ := wordOf_allowed task.status known
  unfold transition normalizedTransitionFields at taken
  dsimp only at taken
  rw [normal, if_neg named] at taken
  split at taken
  · cases taken
  rename_i unlocked
  -- the plan is given only in front of the start
  have plan : dictField fields "plan" task.plan = task.plan ∨ task.status = "planned" ∨
      task.status = "approved" := by
    by_cases given : (fields.get "plan").isSome
    · right
      have early : task.status ∉ "running" :: terminalStatuses := fun late => unlocked ⟨given, late⟩
      simp only [allowedStatuses, terminalStatuses, List.mem_append, List.mem_cons,
        List.not_mem_nil, or_false] at known early
      tauto
    · left
      have absent : fields.get "plan" = none := by simpa using given
      simp [dictField, absent]
  split at taken
  · cases taken
  · rename_i silent
    obtain rfl := Except.ok.inj taken
    have quiet : wordOf action = "" ∧ present fields "status" = none := by
      unfold requestedStatus at silent
      split at silent
      · rename_i asked
        cases asks : statusOfAction (wordOf action) task.status with
        | error failure => simp [asks, Except.map] at silent
        | ok target => simp [asks, Except.map] at silent
      · rename_i unnamed
        exact ⟨by simpa using unnamed, Except.ok.inj silent⟩
    have same : (update str task fields).status = task.status := by
      simp [update, textField, quiet.2]
    rw [same]
    exact ⟨.stays quiet.1 quiet.2, plan, rfl, rfl⟩
  · rename_i requested asked
    split at taken
    · cases taken
    rename_i allowed
    split at taken
    · cases taken
    rename_i guarded
    split at taken
    · cases taken
    rename_i metadata _
    obtain rfl := Except.ok.inj taken
    obtain ⟨status, planned, ledger, artifact⟩ :=
      @update_after_event str task fields metadata (wordOf (textOr str requested))
    refine ⟨?_, planned ▸ plan, ledger, artifact⟩
    rw [status]
    unfold requestedStatus at asked
    split at asked
    · cases asks : statusOfAction (wordOf action) task.status with
      | error failure => simp [asks, Except.map] at asked
      | ok target =>
        simp only [asks, Except.map, Except.ok.injEq, Option.some.injEq] at asked
        subst asked
        simp only [textOr_str] at allowed ⊢
        have known' : target ∈ allowedStatuses := by
          rcases statusOfAction_cases asks with ⟨_, _, rfl⟩ | ⟨_, _, rfl⟩ | ⟨_, _, terminal, _⟩
          · decide
          · decide
          · exact List.mem_append_right _ terminal
        rw [(wordOf_allowed target known').1]
        rcases statusOfAction_cases asks with ⟨name, early, rfl⟩ | ⟨name, early, rfl⟩ |
          ⟨name, open_, terminal, completes⟩
        · exact .approves name early
        · exact .starts name early
        · exact .ends target name open_ terminal completes
    · rename_i unnamed
      have unnamed : wordOf action = "" := by simpa using unnamed
      have given := Except.ok.inj asked
      refine .asks requested _ unnamed given rfl (by simpa using allowed) fun terminal => ?_
      by_contra different
      exact guarded ⟨unnamed, terminal, different⟩

/-- A transition leaves a task with an allowed status. -/
theorem transition_known {task next : Task} {action at_ : String} {fields : Fields}
    (known : task.status ∈ allowedStatuses)
    (taken : transition str task action fields at_ = .ok next) : next.status ∈ allowedStatuses := by
  have moves := (transition_cases known taken).1
  generalize next.status = target at moves
  cases moves with
  | approves => decide
  | starts => decide
  | ends _ _ _ terminal => exact List.mem_append_right _ terminal
  | asks _ _ _ _ _ allowed => exact allowed
  | stays => exact known

end

/-! ## Runs of one task -/

/-- A call of `transition_task`. -/
structure Call where
  action : String
  fields : Fields
  at_ : String

/-- A task with what it has been through: the plan it was first running with, how
often it was started, and the end it reached first. -/
structure Watched where
  task : Task
  plan : Option Fields
  starts : Nat
  final : Option String

/-- A new task. -/
def watched (task : Task) : Watched := ⟨task, none, 0, none⟩

/-- The first value that was reached. -/
def firstReached {Value : Type} (earlier : Option Value) (reached : Prop) [Decidable reached]
    (value : Value) : Option Value :=
  match earlier with
  | some first => some first
  | none => if reached then some value else none

/-- The task moves on. -/
def watch (before : Watched) (next : Task) : Watched where
  task := next
  plan := firstReached before.plan (next.status = "running") next.plan
  starts := before.starts +
    if before.task.status ≠ "running" ∧ next.status = "running" then 1 else 0
  final := firstReached before.final (next.status ∈ terminalStatuses) next.status

/-- A call of `transition_task`; one that raises changes nothing. -/
def step (str : Json → String) (before : Watched) (call : Call) : Option Watched :=
  match transition str before.task call.action call.fields call.at_ with
  | .ok next => some (watch before next)
  | .error _ => some before

/-- Once the task has been running its plan is the one it was running with, and it was
started once; once it is at an end its status is that end. -/
structure Frozen (state : Watched) : Prop where
  plan : ∀ plan, state.plan = some plan → state.task.plan = plan
  once : state.starts ≤ 1
  final : ∀ status, state.final = some status → state.task.status = status

/-- A status asked for without an action does not take a running task back. -/
def StaysStarted (str : Json → String) (state : Watched) (call : Call) : Prop :=
  state.task.status = "running" → wordOf call.action = "" →
    ∀ requested, present call.fields "status" = some requested →
      wordOf (textOr str requested) ≠ "planned" ∧ wordOf (textOr str requested) ≠ "approved"

/-- What holds of a watched task: it was started as often as it has a plan to keep, and
it is in front of, in or behind its research accordingly. -/
structure Kept (state : Watched) : Prop where
  known : state.task.status ∈ allowedStatuses
  unstarted : state.plan = none → state.starts = 0 ∧ state.task.status ≠ "running"
  started : ∀ plan, state.plan = some plan → state.task.plan = plan ∧ state.starts = 1 ∧
    (state.task.status = "running" ∨ state.task.status ∈ terminalStatuses)
  final : ∀ status, state.final = some status →
    state.task.status = status ∧ status ∈ terminalStatuses
  open_ : state.final = none → state.task.status ∉ terminalStatuses

theorem Kept.frozen {state : Watched} (kept : Kept state) : Frozen state where
  plan := fun plan had => (kept.started plan had).1
  once := by
    cases had : state.plan with
    | none => simp [(kept.unstarted had).1]
    | some plan => simp [(kept.started plan had).2.1]
  final := fun status reached => (kept.final status reached).1

theorem watched_kept (topic : String) (plan sourcePolicy : Fields) (outputFormat : String)
    (metadata : Fields) :
    Kept (watched (create topic plan sourcePolicy outputFormat metadata)) where
  known := by simp [watched, create, allowedStatuses]
  unstarted := fun _ => ⟨rfl, by simp [watched, create]⟩
  started := fun _ had => by cases had
  final := fun _ reached => by cases reached
  open_ := fun _ => by simp [watched, create, terminalStatuses]

theorem firstReached_none {Value : Type} {earlier : Option Value} {reached : Prop}
    [Decidable reached] {value : Value} :
    firstReached earlier reached value = none ↔ earlier = none ∧ ¬ reached := by
  cases earlier with
  | some first => simp [firstReached]
  | none => simp [firstReached]

/-- No end is the state of running. -/
theorem terminal_not_running {status : String} (terminal : status ∈ terminalStatuses) :
    status ≠ "running" ∧ status ≠ "planned" ∧ status ≠ "approved" := by
  simp only [terminalStatuses, List.mem_cons, List.not_mem_nil, or_false] at terminal
  rcases terminal with rfl | rfl | rfl <;> decide

section
variable {str : Json → String}

/-- A task at an end stays there. -/
theorem Moves.terminal {action status target : String} {fields : Fields}
    (moves : @Moves str action status fields target) (ended : status ∈ terminalStatuses) :
    target = status := by
  have late := terminal_not_running ended
  cases moves with
  | approves _ early => exact absurd early late.2.1
  | starts _ early => exact (early.elim late.2.1 late.2.2).elim
  | ends _ _ open_ => exact absurd ended open_
  | asks _ _ _ _ _ _ guarded => exact guarded ended
  | stays => rfl

/-- A running task goes on or to an end, if nothing asks for an earlier status. -/
theorem Moves.running {action status target : String} {fields : Fields}
    (moves : @Moves str action status fields target) (runs : status = "running")
    (stays : action = "" → ∀ requested, present fields "status" = some requested →
      wordOf (textOr str requested) ≠ "planned" ∧ wordOf (textOr str requested) ≠ "approved") :
    target = "running" ∨ target ∈ terminalStatuses := by
  cases moves with
  | approves _ early => simp [runs] at early
  | starts _ early => simp [runs] at early
  | ends _ _ _ terminal => exact .inr terminal
  | stays => exact .inl runs
  | asks requested _ named given word allowed =>
    have later := stays named requested given
    rw [word] at later
    simp only [allowedStatuses, List.mem_append, List.mem_cons, List.not_mem_nil, or_false]
      at allowed
    rcases allowed with (planned | approved | running) | terminal
    · exact absurd planned later.1
    · exact absurd approved later.2
    · exact .inl running
    · exact .inr terminal

theorem step_kept {state next : Watched} {call : Call} (kept : Kept state)
    (stays : StaysStarted str state call) (taken : step str state call = some next) :
    Kept next := by
  unfold step at taken
  split at taken
  · rename_i after accepted
    obtain rfl := Option.some.inj taken
    obtain ⟨moves, plans, _, _⟩ := transition_cases kept.known accepted
    have known := transition_known kept.known accepted
    refine ⟨known, ?_, ?_, ?_, ?_⟩
    · intro unplanned
      obtain ⟨none_, still⟩ := firstReached_none.mp unplanned
      simp [watch, (kept.unstarted none_).1, still]
    · intro plan had
      cases before : state.plan with
      | none =>
        -- the task starts with this step
        obtain ⟨zero, idle⟩ := kept.unstarted before
        simp only [watch, before, firstReached] at had
        split at had
        · rename_i runs
          exact ⟨Option.some.inj had, by simp [watch, zero, idle, runs], .inl runs⟩
        · cases had
      | some first =>
        obtain ⟨same, one, late⟩ := kept.started first before
        simp only [watch, before, firstReached, Option.some.injEq] at had
        subst had
        have held : after.plan = first := by
          rcases plans with unchanged | early | early
          · exact unchanged.trans same
          · rcases late with runs | terminal
            · simp [runs] at early
            · exact absurd early (terminal_not_running terminal).2.1
          · rcases late with runs | terminal
            · simp [runs] at early
            · exact absurd early (terminal_not_running terminal).2.2
        rcases late with runs | terminal
        · refine ⟨held, by simp [watch, one, runs], moves.running runs (stays runs)⟩
        · have ended := moves.terminal terminal
          have idle := (terminal_not_running terminal).1
          refine ⟨held, by simp [watch, one, ended, idle], .inr ?_⟩
          simp only [watch, ended]
          exact terminal
    · intro status reached
      cases before : state.final with
      | none =>
        simp only [watch, before, firstReached] at reached
        split at reached
        · rename_i terminal
          obtain rfl := Option.some.inj reached
          exact ⟨rfl, terminal⟩
        · cases reached
      | some first =>
        obtain ⟨same, terminal⟩ := kept.final first before
        simp only [watch, before, firstReached, Option.some.injEq] at reached
        subst reached
        exact ⟨(moves.terminal (same ▸ terminal)).trans same, terminal⟩
    · intro unfinished
      exact (firstReached_none.mp unfinished).2
  · exact Option.some.inj taken ▸ kept

/-- Through every run of transitions the plan is frozen once the task has been running,
it is started once, and its ends are absorbing, if no status asked for without an action
takes the running task back. -/
theorem plan_frozen (topic : String) (plan sourcePolicy : Fields) (outputFormat : String)
    (metadata : Fields) (calls : List Call)
    (stays : Along (step str) (StaysStarted str)
      (watched (create topic plan sourcePolicy outputFormat metadata)) calls) :
    Throughout (step str) Frozen
      (watched (create topic plan sourcePolicy outputFormat metadata)) calls := by
  have kept := watched_kept topic plan sourcePolicy outputFormat metadata
  refine ⟨kept.frozen, ?_⟩
  refine Along.imp_of_invariant Kept ?_ ?_ kept stays
  · exact fun state call next holds met taken => step_kept holds met taken
  · exact fun state call holds met next taken => (step_kept holds met taken).frozen

end

/-! A task with an empty plan, started and completed, and one taken back by an update
of its status alone. -/

/-- Every value written out is a text. -/
def textsOnly : Json → String := fun _ => ""

def tides : Task :=
  create "tides" (Fields.of []) (Fields.of []) "markdown" (Fields.of [])

/-- The actions of a task that is researched. -/
def researched : List Call := [⟨"start", Fields.of [], "t1"⟩, ⟨"complete", Fields.of [], "t2"⟩]

theorem researched_frozen : Throughout (step textsOnly) Frozen (watched tides) researched := by
  refine plan_frozen "tides" (Fields.of []) (Fields.of []) "markdown" (Fields.of []) researched
    (along_of_mem ?_ _)
  intro state call member _ unnamed
  have named : ∀ call ∈ researched, wordOf call.action ≠ "" := by decide +kernel
  exact absurd unnamed (named call member)

/-- Started, put back, and started again. -/
def putBack : List Call :=
  [⟨"start", Fields.of [], "t1"⟩, ⟨"", Fields.of [("status", .str "planned")], "t2"⟩,
    ⟨"start", Fields.of [], "t3"⟩]

/-- A running task that is put back is started twice. -/
theorem put_back_starts_twice :
    ¬ ∀ calls : List Call, Throughout (step textsOnly) Frozen (watched tides) calls := by
  intro frozen
  have ran : (run (step textsOnly) (watched tides) putBack).any
      (fun state => decide (1 < state.starts)) = true := by decide +kernel
  obtain ⟨state, completed, twice⟩ := Option.any_eq_true _ _ |>.mp ran
  have once := ((frozen putBack).final completed).once
  have := of_decide_eq_true twice
  omega

end MeetYou.ResearchTasks
