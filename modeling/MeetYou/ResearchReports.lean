import MeetYou.ResearchTasks

/-!
# Research reports

A report cites its sources by number, and each number must be the source id of an entry
of the evidence ledger. That is checked when the report is submitted, against the ledger
of the request or else the one the task has just then; the fields are stored later, in
the transition of the task. The background execution checks its report against the
evidence it writes with it.

The ledger may be written without a report, and nothing is checked then; and a report without
a ledger may find another ledger than the one it was checked against. So a completed task has a
backed report as long as the stored report keeps the sources it cites when a ledger is written
without a report, and a report finds those it was checked with.
-/

namespace MeetYou.ResearchReports

open Runs ResearchTasks

/-! ## Citations -/

/-- The digits of `\d`. -/
def isDecimal (character : Char) : Bool := (Text.decimal character).isSome

/-- The digits in front of a closing bracket. -/
def bracketed (characters : List Char) : Option String :=
  let digits := characters.takeWhile isDecimal
  if digits ≠ [] ∧ (characters.dropWhile isDecimal).head? = some ']' then
    some (String.ofList digits)
  else none

/-- The matches of `_CITATION_RE` behind the previous character. -/
def citationsAfter (previous : Option Char) : List Char → List String
  | [] => []
  | character :: rest =>
      let cited := if character = '[' ∧ previous ≠ some '!' then bracketed rest else none
      cited.toList ++ citationsAfter (some character) rest

/-- The numbers a report cites. -/
def citations (report : String) : List String := citationsAfter none report.toList

section
variable (str : Json → String)

/-- The source id of an entry, unless it is blank. -/
def sourceIdOf : Json → Option String
  | .obj entries =>
      let entry := Fields.of entries
      let value := (entry.get "source_id").getD
        ((entry.get "id").getD ((entry.get "evidence_id").getD (.str "")))
      let normalized := Text.strip (textOr str value)
      if normalized = "" then none else some normalized
  | _ => none

/-- `_evidence_source_ids`; which ids there are matters, not how often. -/
def evidenceSourceIds (ledger : List Json) : List String := ledger.filterMap (sourceIdOf str)

/-- `validate_report_citations` raises nothing. -/
def Validates (report : String) (ledger : List Json) : Prop :=
  ∀ citation ∈ citations report, citation ∈ evidenceSourceIds str ledger

instance (report : String) (ledger : List Json) : Decidable (Validates str report ledger) :=
  inferInstanceAs (Decidable (∀ citation ∈ citations report, _))

end

/-! ## The task and its reports -/

/-- What is about to be written by `transition_task`. -/
structure Pending where
  action : String
  fields : Fields
  /-- `evidence_ledger` of the request, which its report was checked against; empty without a
  report. -/
  evidenceLedger : List Json

/-- The task, the texts of the reports saved for it, and the transitions under way. The
row id of a report is its position. -/
structure State where
  task : Task
  artifacts : List String
  pending : List Pending

/-- The text of the artifact with the row id. -/
def textOf (artifacts : List String) : Json → Option String
  | .num id => artifacts[id.num.toNat]?
  | _ => none

/-- The report of the task. -/
def reportOf (state : State) : Option String := textOf state.artifacts state.task.artifactId

/-- A completed task with a report has the sources the report cites. -/
def Backed (str : Json → String) (state : State) : Prop :=
  state.task.status = "completed" →
    ∀ report, reportOf state = some report → Validates str report state.task.evidenceLedger

/-- The names a PATCH request may set. -/
def patchNames : List String :=
  ["status", "plan", "source_policy", "evidence_ledger", "summary", "metadata"]

/-- A PATCH request: the fields it sets, its action and its report. -/
structure Patch where
  action : String
  fields : Fields
  named : ∀ name, (fields.get name).isSome → name ∈ patchNames
  reportMarkdown : Option String

/-- The ledger among the fields. -/
def ledgerIn (fields : Fields) : Option (List Json) :=
  match fields.get "evidence_ledger" with
  | some (.arr items) => some items
  | _ => none

/-- The fields with the saved report. -/
def withReport (fields : Fields) (id : Nat) (notes : Fields) : Option Fields :=
  (dictOr ((fields.get "metadata").getD .null)).map fun metadata =>
    (fields.set "artifact_id" (.num id)).set "metadata" (metadata.update notes).toJson

/-- `_research_task_auto_execute`. -/
def autoExecute (task : Task) : Bool :=
  ((task.sourcePolicy.get "auto_execute").getD (.bool true)).truthy

/-- What a chat message does to a task. -/
inductive ChatCommand
  | cancel
  | start
  | revise (plan : Fields) (messageId kind : String)

/-- The action of a chat message. -/
def ChatCommand.action : ChatCommand → String
  | .cancel => "cancel"
  | .start => "start"
  | .revise .. => ""

/-- The fields of a chat message. -/
def ChatCommand.fields : ChatCommand → Fields
  | .cancel => Fields.of [("metadata", .obj [("cancelled_from", .str "research_mode_chat")])]
  | .start => Fields.of
      [("metadata", .obj [("started_from", .str "research_mode_chat_confirmation")])]
  | .revise plan messageId kind => Fields.of [("plan", plan.toJson), ("metadata", .obj
      [("last_plan_revision_from", .str "research_mode_chat"),
        ("last_plan_revision_message_id", .str messageId),
        ("last_plan_revision_kind", .str kind)])]

/-- The steps that touch a task. `saved` is what saving a report and its derivatives adds
to the metadata; nothing where the derivatives fail. -/
inductive Step
  | patch (request : Patch) (featureEnabled : Bool) (saved : Option Fields) (at_ : String)
  | transition (index : Nat) (at_ : String)
  | chat (command : ChatCommand) (at_ : String)
  | ensureRun (runId : Json) (metadata : Fields)
  | starts (at_ : String)
  | progress (metadata : Fields)
  | fails (summary : String) (metadata : Fields) (at_ : String)
  | reports (report : String) (evidence : List Json) (summary : String) (saved : Option Fields)

section
variable (str : Json → String)

/-- The task moves on by the transition, or not at all where that raises. -/
def moved (state : State) (action : String) (fields : Fields) (at_ : String) : State :=
  match ResearchTasks.transition str state.task action fields at_ with
  | .ok task => { state with task := task }
  | .error _ => state

/-- `update_task` without the checks of a transition. -/
def noted (state : State) (fields : Fields) : State :=
  { state with task := update str state.task fields }

/-- The report, checked against the ledger, is saved, and a transition with it is under way. -/
def save (state : State) (action : String) (fields : Fields) (report : String)
    (evidenceLedger : List Json) (saved : Option Fields) : State :=
  let stored := { state with artifacts := state.artifacts ++ [report] }
  match saved.bind (withReport fields state.artifacts.length) with
  | none => stored
  | some complete =>
      { stored with pending := stored.pending ++ [⟨action, complete, evidenceLedger⟩] }

/-- The action of a request; a report without an action completes. -/
def Patch.actionOf (request : Patch) : String :=
  if request.reportMarkdown.isSome ∧ wordOf request.action = "" then "complete"
  else wordOf request.action

/-- `patch_research_task` up to its transition. -/
def patch (state : State) (request : Patch) (featureEnabled : Bool) (saved : Option Fields)
    (at_ : String) : State :=
  let action := request.actionOf
  if action ∈ ["start", "run", "execute"] ∧ autoExecute state.task ∧ ¬ featureEnabled then state
  else match normalizedTransitionFields str state.task.status action request.fields
      state.task.metadata at_ with
    | .error _ => state
    | .ok _ =>
        match request.reportMarkdown with
        | none => { state with pending := state.pending ++ [⟨action, request.fields, []⟩] }
        | some report =>
            let ledger := (ledgerIn request.fields).getD state.task.evidenceLedger
            if Validates str report ledger then
              save state action request.fields report ledger saved
            else state

/-- One step. -/
def step (state : State) : Step → Option State
  | .patch request featureEnabled saved at_ => some (patch str state request featureEnabled saved at_)
  | .transition index at_ => state.pending[index]?.map fun pending =>
      { moved str state pending.action pending.fields at_ with
        pending := state.pending.eraseIdx index }
  | .chat command at_ => some (moved str state command.action command.fields at_)
  | .ensureRun runId metadata => some (noted str state
      (Fields.of [("run_id", runId), ("metadata", metadata.toJson)]))
  | .starts at_ => some (moved str state "start" (Fields.of []) at_)
  | .progress metadata => some (noted str state (Fields.of [("metadata", metadata.toJson)]))
  | .fails summary metadata at_ => some (moved str state "fail"
      (Fields.of [("summary", .str summary), ("metadata", metadata.toJson)]) at_)
  | .reports report evidence summary saved =>
      if Validates str report evidence then
        some (save state "complete"
          (Fields.of [("summary", .str summary), ("evidence_ledger", .arr evidence)]) report evidence
          saved)
      else some state

end

/-! ## What is left behind -/

/-- The sources of one ledger that the report cites are in the other. -/
def KeepsSources (str : Json → String) (report : String) (before after : List Json) : Prop :=
  ∀ citation ∈ citations report, citation ∈ evidenceSourceIds str before →
    citation ∈ evidenceSourceIds str after

/-- A transition that is accepted drops no cited source: a ledger without a report keeps the
sources the stored report cites, and a report without a ledger finds, of those it was checked
with, the ones it cites. Nothing is asked of a task that was cancelled or has failed. -/
def DropsNone (str : Json → String) (state : State) (pending : Pending) (at_ : String) : Prop :=
  (ResearchTasks.transition str state.task pending.action pending.fields at_).isOk = true →
    state.task.status ∉ ["cancelled", "failed"] →
      match pending.fields.get "artifact_id", ledgerIn pending.fields with
      | some artifact, none => ∀ report, textOf state.artifacts artifact = some report →
          KeepsSources str report pending.evidenceLedger state.task.evidenceLedger
      | none, some ledger => ∀ report, reportOf state = some report →
          KeepsSources str report state.task.evidenceLedger ledger
      | some _, some _ | none, none => True

/-- The step drops no source a report cites. -/
def StepDropsNone (str : Json → String) (state : State) : Step → Prop
  | .transition index at_ => ∀ pending, state.pending[index]? = some pending →
      DropsNone str state pending at_
  | _ => True

/-- The row id is none of a report still to be saved. -/
def InRange (artifacts : List String) (artifactId : Json) : Prop :=
  ∀ id, artifactId = .num id → id.num.toNat < artifacts.length

/-- The report of a transition under way was checked against the ledger of its request, which is
the one it comes with if it comes with one. -/
def Checked (str : Json → String) (artifacts : List String) (pending : Pending) : Prop :=
  ∀ artifact, pending.fields.get "artifact_id" = some artifact → InRange artifacts artifact ∧
    (∀ report, textOf artifacts artifact = some report →
      Validates str report pending.evidenceLedger) ∧
    ∀ ledger, ledgerIn pending.fields = some ledger → ledger = pending.evidenceLedger

/-- What holds of a task and its reports: unless it was cancelled or has failed, the sources of
its report are stored, whether it is completed or not. -/
structure Kept (str : Json → String) (state : State) : Prop where
  known : state.task.status ∈ allowedStatuses
  backed : state.task.status ∉ ["cancelled", "failed"] →
    ∀ report, reportOf state = some report → Validates str report state.task.evidenceLedger
  stored : InRange state.artifacts state.task.artifactId
  checked : ∀ pending ∈ state.pending, Checked str state.artifacts pending

theorem Kept.completed {str : Json → String} {state : State} (kept : Kept str state) :
    Backed str state :=
  fun completed => kept.backed (by simp [completed])

section
variable {str : Json → String}

theorem textOf_append {artifacts : List String} {artifactId : Json} (report : String)
    (inRange : InRange artifacts artifactId) :
    textOf (artifacts ++ [report]) artifactId = textOf artifacts artifactId := by
  cases artifactId with
  | num id => exact List.getElem?_append_left (inRange id rfl)
  | null => rfl
  | bool => rfl
  | str => rfl
  | arr => rfl
  | obj => rfl

theorem InRange.append {artifacts : List String} {artifactId : Json}
    (inRange : InRange artifacts artifactId) (report : String) :
    InRange (artifacts ++ [report]) artifactId := by
  intro id named
  have below := inRange id named
  rw [List.length_append]
  omega

theorem Checked.append {artifacts : List String} {pending : Pending}
    (checked : Checked str artifacts pending) (report : String) :
    Checked str (artifacts ++ [report]) pending := by
  intro artifact named
  obtain ⟨inRange, validated⟩ := checked artifact named
  refine ⟨inRange.append report, ?_⟩
  rw [textOf_append report inRange]
  exact validated

theorem update_evidenceLedger (task : Task) (fields : Fields) :
    (update str task fields).evidenceLedger = (ledgerIn fields).getD task.evidenceLedger := by
  unfold update ledgerIn
  dsimp only
  cases fields.get "evidence_ledger" with
  | none => rfl
  | some value => cases value <;> rfl

/-- A report that was checked against a ledger is backed by one that keeps its sources. -/
theorem Validates.kept {report : String} {before after : List Json}
    (validates : Validates str report before) (keeps : KeepsSources str report before after) :
    Validates str report after :=
  fun citation cited => keeps citation cited (validates citation cited)

/-- A transition under way that drops no cited source leaves the report backed. -/
theorem transition_backed {state : State} {pending : Pending} {next : Task} {at_ : String}
    (kept : Kept str state) (checked : Checked str state.artifacts pending)
    (drops : DropsNone str state pending at_)
    (taken : ResearchTasks.transition str state.task pending.action pending.fields at_ = .ok next) :
    next.status ∉ ["cancelled", "failed"] →
      ∀ report, textOf state.artifacts next.artifactId = some report →
        Validates str report next.evidenceLedger := by
  obtain ⟨moves, _, ledger, artifact⟩ := transition_cases kept.known taken
  intro open_ report saved
  have before : state.task.status ∉ ["cancelled", "failed"] := by
    intro ended
    have terminal : state.task.status ∈ terminalStatuses := by
      simp only [List.mem_cons, List.not_mem_nil, or_false] at ended
      rcases ended with same | same <;> simp [terminalStatuses, same]
    exact open_ (moves.terminal terminal ▸ ended)
  have keeps := drops (by rw [taken]; rfl) before
  rw [artifact] at saved
  rw [ledger, update_evidenceLedger]
  cases brings : pending.fields.get "artifact_id" with
  | some own =>
    obtain ⟨_, validates, same⟩ := checked own brings
    simp only [update, brings, Option.getD_some] at saved
    cases lists : ledgerIn pending.fields with
    | some entries => exact same entries lists ▸ validates report saved
    | none =>
      simp only [brings, lists] at keeps
      exact (validates report saved).kept (keeps report saved)
  | none =>
    simp only [update, brings, Option.getD_none] at saved
    cases lists : ledgerIn pending.fields with
    | some entries =>
      simp only [brings, lists] at keeps
      exact (kept.backed before report saved).kept (keeps report saved)
    | none => exact kept.backed before report saved

/-- The task moves on by a transition that drops no cited source. -/
theorem moved_kept {state : State} {pending : Pending} {at_ : String}
    (kept : Kept str state) (checked : Checked str state.artifacts pending)
    (drops : DropsNone str state pending at_) :
    Kept str (moved str state pending.action pending.fields at_) := by
  unfold moved
  split
  · rename_i next taken
    refine ⟨transition_known kept.known taken,
      @transition_backed str state pending next at_ kept checked drops taken, ?_, kept.checked⟩
    obtain ⟨_, _, _, artifact⟩ := transition_cases kept.known taken
    have given : next.artifactId =
        (pending.fields.get "artifact_id").getD state.task.artifactId := artifact
    dsimp only
    rw [given]
    cases brings : pending.fields.get "artifact_id" with
    | some own => exact (checked own brings).1
    | none => exact kept.stored
  · exact kept

/-- The fields concern neither the status nor the report nor the ledger. -/
def Silent (fields : Fields) : Prop :=
  ∀ name ∈ ["status", "artifact_id", "evidence_ledger"], fields.get name = none

theorem Silent.ledgerIn {fields : Fields} (silent : Silent fields) : ledgerIn fields = none := by
  simp [ResearchReports.ledgerIn, silent "evidence_ledger" (by decide)]

/-- Silent fields bring neither a report nor a ledger, so they drop no source. -/
theorem Silent.moved {state : State} {action at_ : String} {fields : Fields}
    (silent : Silent fields) (kept : Kept str state) :
    Kept str (moved str state action fields at_) := by
  have unnamed := silent "artifact_id" (by decide)
  refine @moved_kept str state ⟨action, fields, []⟩ at_ kept ?_ ?_
  · intro artifact named
    rw [unnamed] at named
    cases named
  · intro _ _
    simp only [unnamed, silent.ledgerIn]

theorem Silent.noted {state : State} {fields : Fields} (silent : Silent fields)
    (kept : Kept str state) : Kept str (noted str state fields) := by
  have status : (update str state.task fields).status = state.task.status := by
    simp [update, textField, present, silent "status" (by decide)]
  have artifact : (update str state.task fields).artifactId = state.task.artifactId := by
    simp [update, silent "artifact_id" (by decide)]
  have ledger : (update str state.task fields).evidenceLedger = state.task.evidenceLedger := by
    rw [update_evidenceLedger, silent.ledgerIn, Option.getD_none]
  constructor
  · exact status ▸ kept.known
  · unfold reportOf ResearchReports.noted
    dsimp only
    rw [status, artifact, ledger]
    exact kept.backed
  · exact artifact ▸ kept.stored
  · exact kept.checked

/-- Saving a report leaves the task and the reports before it alone. -/
theorem save_kept {state : State} {action report : String} {fields : Fields}
    {evidenceLedger : List Json} {saved : Option Fields} (kept : Kept str state)
    (validated : Validates str report evidenceLedger)
    (same : ∀ ledger, ledgerIn fields = some ledger → ledger = evidenceLedger) :
    Kept str (save state action fields report evidenceLedger saved) := by
  have unchanged : textOf (state.artifacts ++ [report]) state.task.artifactId = reportOf state :=
    textOf_append report kept.stored
  have earlier : ∀ pending ∈ state.pending, Checked str (state.artifacts ++ [report]) pending :=
    fun pending member => (kept.checked pending member).append report
  have stored : Kept str { state with artifacts := state.artifacts ++ [report] } := by
    refine ⟨kept.known, ?_, kept.stored.append report, earlier⟩
    unfold reportOf
    dsimp only
    rw [unchanged]
    exact kept.backed
  unfold save
  dsimp only
  split
  · exact stored
  · rename_i complete built
    refine ⟨stored.known, stored.backed, stored.stored, ?_⟩
    intro pending member
    rcases List.mem_append.mp member with old | new
    · exact earlier pending old
    · obtain rfl := List.mem_singleton.mp new
      obtain ⟨notes, _, combined⟩ := Option.bind_eq_some_iff.mp built
      obtain ⟨metadata, _, rfl⟩ := Option.map_eq_some_iff.mp combined
      intro artifact named
      rw [Dict.get_set_ne _ _ (by decide), Dict.get_set_self] at named
      obtain rfl := Option.some.inj named
      have position : ((state.artifacts.length : Rat)).num.toNat = state.artifacts.length := by
        simp
      constructor
      · rintro id ⟨⟩
        rw [position, List.length_append]
        simp
      constructor
      · intro text there
        have last : textOf (state.artifacts ++ [report]) (.num state.artifacts.length) =
            some report := by
          simp [textOf]
        rw [last] at there
        obtain rfl := Option.some.inj there
        exact validated
      · intro ledger listed
        apply same ledger
        rw [← listed]
        simp only [ledgerIn]
        rw [Dict.get_set_ne _ _ (by decide), Dict.get_set_ne _ _ (by decide)]

theorem patch_kept {state : State} {request : Patch} {featureEnabled : Bool}
    {saved : Option Fields} {at_ : String} (kept : Kept str state) :
    Kept str (patch str state request featureEnabled saved at_) := by
  unfold patch
  dsimp only
  split
  · exact kept
  split
  · exact kept
  split
  · refine ⟨kept.known, kept.backed, kept.stored, ?_⟩
    intro pending member
    rcases List.mem_append.mp member with old | new
    · exact kept.checked pending old
    · obtain rfl := List.mem_singleton.mp new
      intro artifact named
      -- a request cannot name the artifact itself
      have allowed := request.named "artifact_id" (by simp [named])
      simp [patchNames] at allowed
  split
  · rename_i validated
    refine save_kept kept validated fun ledger listed => ?_
    rw [listed]
    rfl
  · exact kept

theorem silent_of {pairs : List (String × Json)}
    (apart : ∀ name ∈ ["status", "artifact_id", "evidence_ledger"], name ∉ pairs.map Prod.fst) :
    Silent (Fields.of pairs) :=
  fun name member => Fields.get_of_absent (apart name member)

theorem chat_silent (command : ChatCommand) : Silent command.fields := by
  cases command with
  | cancel => exact silent_of (by simp)
  | start => exact silent_of (by simp)
  | revise plan messageId kind => exact silent_of (by simp)

/-- What holds of a task and its reports is kept by each step that drops no cited
source. -/
theorem step_kept {state next : State} {action : Step} (kept : Kept str state)
    (drops : StepDropsNone str state action) (taken : step str state action = some next) :
    Kept str next := by
  cases action with
  | patch request featureEnabled saved at_ =>
    exact Option.some.inj taken ▸ patch_kept kept
  | transition index at_ =>
    obtain ⟨pending, there, rfl⟩ := Option.map_eq_some_iff.mp taken
    have checked := kept.checked pending (List.mem_of_getElem? there)
    have onward := moved_kept kept checked (drops pending there)
    have others : (moved str state pending.action pending.fields at_).artifacts =
        state.artifacts := by
      unfold moved
      split <;> rfl
    refine ⟨onward.known, onward.backed, onward.stored, ?_⟩
    intro other member
    dsimp only
    rw [others]
    exact kept.checked other (List.mem_of_mem_eraseIdx member)
  | chat command at_ =>
    obtain rfl := Option.some.inj taken
    exact (chat_silent command).moved kept
  | ensureRun runId metadata =>
    obtain rfl := Option.some.inj taken
    exact (silent_of (by simp)).noted kept
  | starts at_ =>
    obtain rfl := Option.some.inj taken
    exact (silent_of (by simp)).moved kept
  | progress metadata =>
    obtain rfl := Option.some.inj taken
    exact (silent_of (by simp)).noted kept
  | fails summary metadata at_ =>
    obtain rfl := Option.some.inj taken
    exact (silent_of (by simp)).moved kept
  | reports report evidence summary saved =>
    simp only [step] at taken
    split at taken
    · rename_i validated
      obtain rfl := Option.some.inj taken
      refine save_kept kept validated fun ledger listed => ?_
      have given : ledgerIn (Fields.of
          [("summary", .str summary), ("evidence_ledger", .arr evidence)]) = some evidence := rfl
      exact Option.some.inj (listed.symm.trans given)
    · exact Option.some.inj taken ▸ kept

/-- A new task. -/
def begun (task : Task) : State := ⟨task, [], []⟩

theorem begun_kept (topic : String) (plan sourcePolicy : Fields) (outputFormat : String)
    (metadata : Fields) :
    Kept str (begun (create topic plan sourcePolicy outputFormat metadata)) where
  known := by simp [begun, create, allowedStatuses]
  backed := fun _ report saved => by cases saved
  stored := fun id named => by cases named
  checked := fun pending member => by cases member

/-- Through every run of requests, chat messages and executions a completed task has the
sources its report cites, if no transition drops a cited source. -/
theorem report_backed (topic : String) (plan sourcePolicy : Fields) (outputFormat : String)
    (metadata : Fields) (steps : List Step)
    (drops : Along (step str) (StepDropsNone str)
      (begun (create topic plan sourcePolicy outputFormat metadata)) steps) :
    Throughout (step str) (Backed str)
      (begun (create topic plan sourcePolicy outputFormat metadata)) steps := by
  have kept := @begun_kept str topic plan sourcePolicy outputFormat metadata
  refine ⟨kept.completed, ?_⟩
  refine Along.imp_of_invariant (Kept str) ?_ ?_ kept drops
  · exact fun state action next holds met taken => step_kept holds met taken
  · exact fun state action holds met next taken => (step_kept holds met taken).completed

end

/-! A report with its one source, and the source taken away from the completed task. -/

/-- The ledger with the source of number one. -/
def oneSource : Json := .arr [.obj [("source_id", .str "1")]]

/-- The request that sets the ledger, perhaps with a report. -/
def ledgerRequest (ledger : Json) (report : Option String) : Patch where
  action := ""
  fields := Fields.of [("evidence_ledger", ledger)]
  named := by
    intro name given
    by_contra other
    have absent : name ∉ [("evidence_ledger", ledger)].map Prod.fst := by
      rintro member
      simp only [List.map_cons, List.map_nil, List.mem_singleton] at member
      exact other (member ▸ by decide)
    rw [Fields.get_of_absent absent] at given
    cases given
  reportMarkdown := report

/-- A report is submitted with its source. -/
def submitted : List Step :=
  [.patch (ledgerRequest oneSource (some "See [1].")) true (some (Fields.of [])) "t1",
    .transition 0 "t1"]

theorem submitted_backed : Throughout (step textsOnly) (Backed textsOnly) (begun tides)
    submitted := by
  refine report_backed "tides" (Fields.of []) (Fields.of []) "markdown" (Fields.of []) submitted ?_
  refine ⟨trivial, fun next taken => ⟨?_, fun _ _ => trivial⟩⟩
  -- the report comes with its ledger
  have both : (step textsOnly (begun tides) (submitted.head (by decide))).all (fun state =>
      (state.pending[0]?).all fun pending => (pending.fields.get "artifact_id").isSome &&
        (ledgerIn pending.fields).isSome) = true := by decide +kernel
  intro pending there _ _
  have found := Option.all_eq_true _ _ |>.mp both next taken
  rw [there] at found
  simp only [Option.all_some, Bool.and_eq_true] at found
  obtain ⟨artifact, brings⟩ := Option.isSome_iff_exists.mp found.1
  obtain ⟨ledger, lists⟩ := Option.isSome_iff_exists.mp found.2
  simp only [brings, lists]

/-- Then its ledger is emptied. -/
def emptied : List Step :=
  submitted ++ [.patch (ledgerRequest (.arr []) none) true none "t2", .transition 0 "t2"]

/-- The report stays completed without its source. -/
theorem emptied_not_backed :
    ¬ ∀ steps : List Step, Throughout (step textsOnly) (Backed textsOnly) (begun tides) steps := by
  intro backed
  have ran : (run (step textsOnly) (begun tides) emptied).any (fun state =>
      decide (state.task.status = "completed" ∧ reportOf state = some "See [1]." ∧
        ¬ Validates textsOnly "See [1]." state.task.evidenceLedger)) = true := by decide +kernel
  obtain ⟨state, completed, unbacked⟩ := Option.any_eq_true _ _ |>.mp ran
  obtain ⟨ended, report, missing⟩ := of_decide_eq_true unbacked
  exact missing (((backed emptied).final completed) ended _ report)

end MeetYou.ResearchReports
