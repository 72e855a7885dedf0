import MeetYou.Foundation.Text
import MeetYou.Foundation.Values

/-!
# The research adapter

A service runs research for others. A request creates a run, which is executed behind the answer;
the run can be asked for and cancelled while it is executed. The execution lets others go on where
it waits for the research, and looks at the cancellation again where it has waited.

A run is answered with its public fields. Between two answers a run may end, but what an answer
says of an ended run stays: a completed run and a failed one are answered the same ever after, and
a cancelled one is never completed. Only a completed run shows a report, with its sources numbered
in their order.
-/

namespace MeetYou.AdapterService

open Text

/-! ## Runs -/

/-- A `ResearchRunRequest`, as far as the service reads it. -/
structure RunRequest where
  provider : String
  researchTaskId : String
  topic : String
  sourcePolicy : Fields
  projectSources : List Fields

/-- What research comes to. -/
structure Result where
  summary : String
  reportMarkdown : String
  sources : List Fields
  usage : Fields
  metadata : Fields

/-- The public fields of a run. -/
structure Answer where
  runId : String
  status : String
  provider : String
  progress : Fields
  summary : String
  reportMarkdown : String
  sources : List Fields
  usage : Fields
  metadata : Fields
  error : String
  createdAt : String
  updatedAt : String

/-- Where the execution of a run stands: behind the answer to its request, where it waits for the
research, or at its end. -/
inductive Phase
  | queued
  | sleeping
  | conducting
  | writing
  | ended
  deriving DecidableEq

/-- A row of `RUNS` with its execution; `_public_run` is `shown`. -/
structure Row where
  shown : Answer
  request : RunRequest
  cancelRequested : Bool
  phase : Phase

/-- `_set_progress` -/
def Row.setProgress (row : Row) (stage message : String) (status : Option String)
    (metadata : Fields) (now : String) : Row :=
  let progress := Fields.of [("stage", .str stage), ("message", .str message), ("at", .str now)]
  let marked := match status with
    | none => progress
    | some status => progress.set "status" (.str status)
  { row with shown := { row.shown with
    progress := marked.update metadata
    updatedAt := now } }

/-- `create_run` -/
def createRun (runId now : String) (request : RunRequest) : Row where
  shown :=
    { runId := runId
      status := "running"
      provider := if request.provider = "" then "gpt_researcher" else request.provider
      progress := Fields.of [("stage", .str "queued"), ("status", .str "running"),
        ("message", .str "研究任务已进入外部服务队列。"), ("at", .str now)]
      summary := ""
      reportMarkdown := ""
      sources := []
      usage := Dict.empty
      metadata := Dict.empty
      error := ""
      createdAt := now
      updatedAt := now }
  request := request
  cancelRequested := false
  phase := .queued

/-- `cancel_run` -/
def cancelRun (now : String) (row : Row) : Row :=
  let asked := { row with cancelRequested := true }
  if row.shown.status = "running" then
    { asked with shown := { asked.shown with
      status := "cancelled"
      progress := Fields.of [("stage", .str "cancelled"),
        ("message", .str "Research adapter run cancelled."), ("at", .str now)]
      updatedAt := now } }
  else asked

/-! ## Results -/

section
variable (str : Json → String)

/-- `str(value or default)` of a field. -/
def textOr (source : Fields) (name default : String) : String :=
  str (source.getOr name (.str default))

/-- The first characters of a text. -/
def excerpt (count : Nat) (text : String) : String := String.ofList (text.toList.take count)

/-- The sources with their numbers, which start at one. -/
def numbered (sources : List Fields) : List (Nat × Fields) :=
  sources.mapIdx fun index source => (index + 1, source)

/-- The lines that list sources. -/
def listedSources (sources : List Fields) : List String :=
  sources.map fun source =>
    "- [" ++ textOr str source "source_id" "" ++ "] " ++ textOr str source "title" ""

/-- `_fake_result` -/
def fakeResult (request : RunRequest) : Result :=
  let topic := strip (if request.topic = "" then "Research" else request.topic)
  let given := (numbered (request.projectSources.take 3)).map fun (index, source) =>
    Fields.of [("source_id", .str (toString index)), ("source_type", .str "project_source"),
      ("title", .str (textOr str source "title" ("Project source " ++ toString index))),
      ("snippet", .str (excerpt 700 (textOr str source "content" ""))),
      ("verification_status", .str "project_source_snapshot")]
  let sources := if given.isEmpty then
      [Fields.of [("source_id", .str "1"), ("source_type", .str "adapter_fixture"),
        ("title", .str "Adapter fixture source"),
        ("snippet", .str ("Fixture evidence for " ++ topic ++ ".")),
        ("verification_status", .str "adapter_fixture")]]
    else given
  let lines := ["# " ++ topic, "", "## 摘要", "",
    "外部研究适配器已根据 " ++ toString sources.length ++ " 个来源生成报告。[1]", "", "## Sources", ""]
  { summary := "Fake research adapter completed a report for " ++ topic ++ "."
    reportMarkdown := "\n".intercalate (lines ++ listedSources str sources) ++ "\n"
    sources := sources
    usage := Fields.of [("duration_seconds", .num (1 / 5))]
    metadata := Fields.of [("provider", .str "fake")] }

/-- `_project_source_only_requested` -/
def projectSourceOnlyRequested (request : RunRequest) : Bool :=
  let truth name := (request.sourcePolicy.getOr name .null).truthy
  !request.projectSources.isEmpty && truth "include_project_sources" &&
    !(match request.sourcePolicy.get "source_adapters" with
      | none => false
      | some (.str _) => true
      | some value => value.truthy) &&
    !(["web_search", "web_queries", "web_urls", "seed_urls", "source_urls"].any truth)

/-- The title and the text of a project source. -/
def projectSourceText (index : Nat) (source : Fields) : String × String :=
  (strip (textOr str source "title" ("项目源 " ++ toString index)),
    excerpt 700 (collapse (strip (textOr str source "content" ""))))

/-- `_project_source_result` -/
def projectSourceResult (request : RunRequest) : Result :=
  let topic := strip (if request.topic = "" then "Project source research" else request.topic)
  let given := numbered request.projectSources
  let sources := given.map fun (index, source) =>
    let (title, snippet) := projectSourceText str index source
    Fields.of [("source_id", .str (toString index)),
      ("project_source_id", .str (textOr str source "source_id" "")),
      ("source_type", .str "project_source"), ("title", .str title), ("snippet", .str snippet),
      ("content_type", .str (textOr str source "content_type" "text")),
      ("verification_status", .str "project_source_snapshot")]
  let findings := given.map fun (index, source) =>
    let (title, snippet) := projectSourceText str index source
    "- " ++ title ++ ": " ++ (if snippet = "" then "该项目源未提供正文摘要。" else snippet) ++
      " [" ++ toString index ++ "]"
  let lines := ["# " ++ topic, "", "## 摘要", "",
    "本报告基于 " ++ toString request.projectSources.length ++
      " 条 MeetYou 项目源生成，所有结论仅引用已记录的项目源证据。", "", "## 关键发现", ""]
  { summary := "Project-source research adapter completed a report for " ++ topic ++ "."
    reportMarkdown := strip ("\n".intercalate
      (lines ++ findings ++ ["", "## 来源", ""] ++ listedSources str sources)) ++ "\n"
    sources := sources
    usage := Fields.of [("duration_seconds", .num 0)]
    metadata := Fields.of [("provider", .str "project_sources"),
      ("source_count", .num request.projectSources.length)] }

/-- The first of some fields that holds something, as a text. -/
def firstText (item : Fields) (names : List String) : String :=
  match names.findSome? fun name =>
      (item.get name).bind fun value => if value.truthy then some (str value) else none with
  | some text => text
  | none => ""

/-- Title, address and text of what the researcher has visited, or nothing for an item of
another kind. -/
def visited (index : Nat) : Json → Option (String × String × String)
  | .str url => some (url, url, url)
  | .obj entries =>
    let item := Fields.of entries
    let url := firstText str item ["url", "href", "link"]
    let named := firstText str item ["title", "name"]
    let title := if named ≠ "" then named
      else if url ≠ "" then url else "Source " ++ toString index
    let snippet := firstText str item ["summary", "snippet", "content"]
    some (title, url, if snippet = "" then title else snippet)
  | _ => none

/-- One round of `_extract_gpt_researcher_sources`, on the keys seen and the sources taken. -/
def extractSource (taken : List String × List Fields) (candidate : Nat × Json) :
    List String × List Fields :=
  match visited str candidate.1 candidate.2 with
  | none => taken
  | some (title, url, snippet) =>
    let key := if url = "" then title else url
    if key = "" ∨ key ∈ taken.1 then taken
    else (key :: taken.1, taken.2 ++ [Fields.of [
      ("source_id", .str (toString (taken.2.length + 1))),
      ("source_type", .str (if url = "" then "external_research_source" else "web_page")),
      ("title", .str title), ("url", .str url), ("snippet", .str (excerpt 1000 snippet)),
      ("verification_status", .str "external_agent_reported")]])

/-- `_extract_gpt_researcher_sources`, from the lists that the researcher holds. -/
def extractGptResearcherSources (candidates : List Json) : List Fields :=
  ((candidates.mapIdx fun index item => (index + 1, item)).foldl (extractSource str) ([], [])).2

/-- `_string_list` -/
def stringList : Json → List String
  | .str text => ([strip text].filter (· ≠ "")).take 12
  | .arr items =>
    ((items.map fun item => if item.truthy then strip (str item) else "").filter (· ≠ "")).take 12
  | _ => []

/-- The addresses that the researcher is to start from. -/
def sourceUrls (request : RunRequest) : List String :=
  match ["web_urls", "seed_urls", "source_urls"].findSome? fun name =>
      (request.sourcePolicy.get name).bind fun value =>
        if value.truthy then some value else none with
  | none => []
  | some value => stringList str value

/-- The number of the addresses. -/
def sourceUrlCount (request : RunRequest) : Fields :=
  Fields.of [("source_url_count", .num (sourceUrls str request).length)]

/-- What `_run_gpt_researcher` returns. -/
def gptResearcherResult (request : RunRequest) (report : String) (candidates : List Json)
    (usage : Fields) : Result where
  summary := "GPT Researcher completed a report for " ++ strip request.topic ++ "."
  reportMarkdown := strip report
  sources := extractGptResearcherSources str candidates
  usage := usage
  metadata := (Fields.of [("provider", .str "gpt_researcher")]).update
    (sourceUrlCount str request)

/-! ## Executions -/

/-- An exception: its type and its text. -/
structure Failure where
  errorType : String
  message : String

/-- The environment of an execution: the switch for the fake research, whether the researcher is
installed, what its construction raises, and which credentials there are. -/
structure Environment where
  fake : Bool
  installed : Bool
  construction : Option Failure
  providerEnv : Fields

/-- The end of an execution that raises. -/
def Row.fail (row : Row) (failure : Failure) (providerEnv : Fields) (now : String) : Row :=
  let failed := { row with
    phase := .ended
    shown := { row.shown with
      status := "failed"
      error := failure.message
      metadata := row.shown.metadata.update (Fields.of [("error_type", .str failure.errorType),
        ("provider_env", providerEnv.toJson)]) } }
  failed.setProgress "failed" failure.message (some "failed")
    (Fields.of [("error_type", .str failure.errorType)]) now

/-- The end of an execution that finds its run cancelled. -/
def Row.endCancelled (row : Row) (now : String) : Row :=
  { row with
    phase := .ended
    shown := { row.shown with status := "cancelled" } }.setProgress
      "cancelled" "研究任务已取消。" (some "cancelled") Dict.empty now

/-- The number of some sources, for the progress. -/
def sourceCount (sources : List Fields) : Fields :=
  Fields.of [("source_count", .num sources.length)]

/-- `row.update(result)` -/
def Row.put (row : Row) (result : Result) : Row :=
  { row with shown := { row.shown with
    summary := result.summary
    reportMarkdown := result.reportMarkdown
    sources := result.sources
    usage := result.usage
    metadata := result.metadata } }

/-- The end of an execution that has a result. -/
def Row.finish (row : Row) (result : Result) (now : String) : Row :=
  if row.cancelRequested then row.endCancelled now
  else
    let filled := (row.setProgress "sources" "正在整理来源和引用。" (some "running")
      (sourceCount result.sources) now).put result
    let completed := { filled with
      phase := .ended
      shown := { filled.shown with status := "completed" } }
    completed.setProgress "completed" "外部研究报告已完成。" (some "completed")
      (sourceCount result.sources) now

/-- The progress of an execution that begins. -/
def Row.start (row : Row) (now : String) : Row :=
  row.setProgress "starting" "正在启动外部深度研究服务。" (some "running") Dict.empty now

/-- The progress of an execution that has nothing but project sources to go through. -/
def Row.collect (row : Row) (now : String) : Row :=
  row.setProgress "project_sources" "正在整理项目源并生成引用报告。" (some "running")
    (sourceCount row.request.projectSources) now

/-- The progress of an execution that calls the researcher. -/
def Row.call (row : Row) (now : String) : Row :=
  row.setProgress "research" "正在调用 GPT Researcher 收集和综合资料。" (some "running")
    Dict.empty now

/-- The progress of an execution that takes the sources of the researcher. -/
def Row.extract (row : Row) (now : String) : Row :=
  row.setProgress "sources" "正在提取 GPT Researcher 来源列表。" (some "running") Dict.empty now

/-- `_run_gpt_researcher` up to where it first waits, or to its end. -/
def callResearcher (environment : Environment) (now : String) (row : Row) : Row :=
  if environment.installed = false then
    row.fail ⟨"RuntimeError",
      "gpt-researcher is not installed in the research adapter environment."⟩
      environment.providerEnv now
  else if strip row.request.topic = "" then
    row.fail ⟨"ValueError", "topic is required"⟩ environment.providerEnv now
  else match environment.construction with
    | some failure => row.fail failure environment.providerEnv now
    | none =>
      { row.setProgress "gather" "GPT Researcher 正在搜索和阅读资料。" (some "running")
          (sourceUrlCount str row.request) now with
        phase := .conducting }

/-- `_execute_run` up to where it first waits, or to its end. -/
def executeRun (environment : Environment) (now : String) (row : Row) : Row :=
  if row.cancelRequested then row.endCancelled now
  else
    let started := row.start now
    if environment.fake then
      { started.setProgress "research" "正在使用测试研究服务生成报告。" (some "running")
          Dict.empty now with phase := .sleeping }
    else if projectSourceOnlyRequested row.request then
      (started.collect now).finish (projectSourceResult str row.request) now
    else callResearcher str environment now (started.call now)

/-- How what an execution waits for ends: the sleep or the research, the report with the lists
of the researcher, or an exception. -/
inductive Wait
  | done
  | wrote (report : String) (candidates : List Json) (usage : Fields)
  | raised (failure : Failure)

/-- `_execute_run` from where it has waited on. -/
def resumeRun (environment : Environment) (wait : Wait) (now : String) (row : Row) :
    Option Row :=
  match row.phase, wait with
  | .sleeping, .done => some (row.finish (fakeResult str row.request) now)
  | .conducting, .done => some
      { row.setProgress "write" "GPT Researcher 正在撰写研究报告。" (some "running")
          Dict.empty now with phase := .writing }
  | .writing, .wrote report candidates usage => some
      ((row.extract now).finish (gptResearcherResult str row.request report candidates usage) now)
  | .conducting, .raised failure => some (row.fail failure environment.providerEnv now)
  | .writing, .raised failure => some (row.fail failure environment.providerEnv now)
  | _, _ => none

end

/-! ## What answers say -/

/-- The ids of sources are their numbers, in order. -/
def Numbered (sources : List Fields) : Prop :=
  sources.map (·.get "source_id") =
    (List.range sources.length).map fun index => some (.str (toString (index + 1)))

/-- The status is one of four, only a failed run has an error, and only a completed one has a
report, with its sources numbered. -/
structure WellFormed (answer : Answer) : Prop where
  status : answer.status ∈ ["running", "completed", "failed", "cancelled"]
  unfailed : answer.status ≠ "failed" → answer.error = ""
  bare : answer.status ≠ "completed" → answer.reportMarkdown = "" ∧ answer.sources = [] ∧
    answer.summary = "" ∧ answer.usage = Dict.empty
  numbered : Numbered answer.sources

/-- What may be answered after an answer for a run: nothing else for a completed or a failed run,
and no completion for a cancelled one. -/
structure Follows (earlier later : Answer) : Prop where
  run : later.runId = earlier.runId
  provider : later.provider = earlier.provider
  created : later.createdAt = earlier.createdAt
  completed : earlier.status = "completed" → later = earlier
  failed : earlier.status = "failed" → later = earlier
  cancelled : earlier.status = "cancelled" → later.status = "cancelled" ∨ later.status = "failed"

theorem Follows.refl (answer : Answer) : Follows answer answer :=
  ⟨rfl, rfl, rfl, fun _ => rfl, fun _ => rfl, Or.inl⟩

theorem Follows.trans {first second third : Answer} (before : Follows first second)
    (after : Follows second third) : Follows first third where
  run := after.run.trans before.run
  provider := after.provider.trans before.provider
  created := after.created.trans before.created
  completed done := by
    obtain rfl := before.completed done
    exact after.completed done
  failed done := by
    obtain rfl := before.failed done
    exact after.failed done
  cancelled done := by
    rcases before.cancelled done with still | raised
    · exact after.cancelled still
    · obtain rfl := after.failed raised
      exact Or.inr raised

/-- What holds of a row: its answer is well formed, a run that is completed or has failed has been
executed, one that is running is not, and has not been cancelled. -/
structure Sound (row : Row) : Prop where
  shown : WellFormed row.shown
  running : row.shown.status = "running" → row.cancelRequested = false ∧ row.phase ≠ .ended
  completed : row.shown.status = "completed" → row.phase = .ended
  failed : row.shown.status = "failed" → row.phase = .ended
  cancelled : row.shown.status = "cancelled" → row.cancelRequested = true

/-- The row comes to one that is sound, for the same request, and its answer follows. -/
structure Goes (row next : Row) : Prop where
  sound : Sound next
  follows : Follows row.shown next.shown
  request : next.request = row.request

/-! ## Numbers -/

section
variable {str : Json → String}

/-- Numbered sources that are each written with their number. -/
theorem numbered_map {sources : List Fields} {make : Nat × Fields → Fields}
    (made : ∀ entry, (make entry).get "source_id" = some (.str (toString entry.1))) :
    Numbered ((numbered sources).map make) := by
  unfold Numbered numbered
  refine List.ext_getElem (by simp) fun index _ _ => ?_
  simp [made]

theorem fakeResult_numbered (request : RunRequest) : Numbered (fakeResult str request).sources := by
  unfold fakeResult
  dsimp only
  split
  · rfl
  · exact numbered_map fun _ => rfl

theorem projectSourceResult_numbered (request : RunRequest) :
    Numbered (projectSourceResult str request).sources := by
  unfold projectSourceResult
  exact numbered_map fun _ => rfl

/-- One source more, with the next number. -/
theorem Numbered.concat {sources : List Fields} {source : Fields} (numbered : Numbered sources)
    (next : source.get "source_id" = some (.str (toString (sources.length + 1)))) :
    Numbered (sources ++ [source]) := by
  unfold Numbered at numbered ⊢
  rw [List.map_append, numbered, List.length_append, List.length_singleton, List.range_succ,
    List.map_append, List.map_singleton, next, List.map_singleton]

theorem extractSource_numbered {taken : List String × List Fields} (candidate : Nat × Json)
    (numbered : Numbered taken.2) : Numbered (extractSource str taken candidate).2 := by
  unfold extractSource
  split
  · exact numbered
  case h_2 title url snippet _ =>
    dsimp only
    generalize (if url = "" then title else url) = key
    split
    · exact numbered
    · exact numbered.concat rfl

theorem extracted_numbered (candidates : List Json) :
    Numbered (extractGptResearcherSources str candidates) := by
  unfold extractGptResearcherSources
  generalize candidates.mapIdx _ = counted
  have taken : ∀ start : List String × List Fields, Numbered start.2 →
      Numbered (counted.foldl (extractSource str) start).2 := by
    induction counted with
    | nil => exact fun _ numbered => numbered
    | cons candidate rest inductionHypothesis =>
      exact fun start numbered =>
        inductionHypothesis _ (extractSource_numbered candidate numbered)
  exact taken ([], []) rfl

/-! ## Steps of a run -/

variable {row : Row} {now : String}

theorem createRun_sound (runId now : String) (request : RunRequest) :
    Sound (createRun runId now request) where
  shown := ⟨by simp [createRun], fun _ => rfl, fun _ => ⟨rfl, rfl, rfl, rfl⟩, rfl⟩
  running _ := ⟨rfl, nofun⟩
  completed impossible := by simp [createRun] at impossible
  failed impossible := by simp [createRun] at impossible
  cancelled impossible := by simp [createRun] at impossible

/-- What follows the answer for a run that is still executed: any answer that keeps what the run
is, and does not complete a cancelled run. -/
theorem follows_of_unended (sound : Sound row) (unended : row.phase ≠ .ended) {later : Answer}
    (run : later.runId = row.shown.runId) (provider : later.provider = row.shown.provider)
    (created : later.createdAt = row.shown.createdAt)
    (cancelled : row.shown.status = "cancelled" →
      later.status = "cancelled" ∨ later.status = "failed") : Follows row.shown later :=
  ⟨run, provider, created, fun done => absurd (sound.completed done) unended,
    fun done => absurd (sound.failed done) unended, cancelled⟩

/-- A run that is still executed goes on with another progress. -/
theorem progresses (sound : Sound row) (unended : row.phase ≠ .ended) (stage message : String)
    (status : Option String) (metadata : Fields) {phase : Phase} (goesOn : phase ≠ .ended) :
    Goes row { row.setProgress stage message status metadata now with phase := phase } := by
  refine ⟨⟨?_, ?_, ?_, ?_, ?_⟩, follows_of_unended sound unended rfl rfl rfl Or.inl, rfl⟩
  · exact ⟨sound.shown.status, sound.shown.unfailed, sound.shown.bare, sound.shown.numbered⟩
  · exact fun running => ⟨(sound.running running).1, goesOn⟩
  · exact fun done => absurd (sound.completed done) unended
  · exact fun done => absurd (sound.failed done) unended
  · exact sound.cancelled

/-- A progress that the same step goes on from. -/
theorem progressed (sound : Sound row) (unended : row.phase ≠ .ended) (stage message : String)
    (status : Option String) (metadata : Fields) :
    Goes row (row.setProgress stage message status metadata now) :=
  progresses sound unended stage message status metadata unended

theorem Goes.trans {first second third : Row} (before : Goes first second)
    (after : Sound second → Goes second third) : Goes first third :=
  ⟨(after before.sound).sound, before.follows.trans (after before.sound).follows,
    (after before.sound).request.trans before.request⟩

/-- Without a report, as long as the run is not completed. -/
theorem Sound.bare_of_unended (sound : Sound row) (unended : row.phase ≠ .ended) :
    row.shown.reportMarkdown = "" ∧ row.shown.sources = [] ∧ row.shown.summary = "" ∧
      row.shown.usage = Dict.empty :=
  sound.shown.bare fun done => unended (sound.completed done)

theorem fails (sound : Sound row) (unended : row.phase ≠ .ended) (failure : Failure)
    (providerEnv : Fields) : Goes row (row.fail failure providerEnv now) := by
  have status : (row.fail failure providerEnv now).shown.status = "failed" := rfl
  refine ⟨⟨⟨?_, ?_, ?_, ?_⟩, ?_, ?_, ?_, ?_⟩, ?_, rfl⟩
  · rw [status]
    decide
  · exact fun other => absurd status other
  · exact fun _ => sound.bare_of_unended unended
  · exact sound.shown.numbered
  · rw [status]
    exact fun other => absurd other (by decide)
  · exact fun _ => rfl
  · exact fun _ => rfl
  · rw [status]
    exact fun other => absurd other (by decide)
  · exact follows_of_unended sound unended rfl rfl rfl fun _ => Or.inr status

theorem ends_cancelled (sound : Sound row) (unended : row.phase ≠ .ended)
    (asked : row.cancelRequested = true) : Goes row (row.endCancelled now) := by
  have status : (row.endCancelled now).shown.status = "cancelled" := rfl
  refine ⟨⟨⟨?_, ?_, ?_, ?_⟩, ?_, ?_, ?_, ?_⟩, ?_, rfl⟩
  · rw [status]
    decide
  · exact fun _ => sound.shown.unfailed fun done => unended (sound.failed done)
  · exact fun _ => sound.bare_of_unended unended
  · exact sound.shown.numbered
  · rw [status]
    exact fun other => absurd other (by decide)
  · exact fun _ => rfl
  · exact fun _ => rfl
  · exact fun _ => asked
  · exact follows_of_unended sound unended rfl rfl rfl fun _ => Or.inl status

/-- The end of a run that has a result: with it, or cancelled. -/
theorem finishes (sound : Sound row) (unended : row.phase ≠ .ended) {result : Result}
    (numbers : Numbered result.sources) : Goes row (row.finish result now) := by
  unfold Row.finish
  split
  case isTrue asked => exact ends_cancelled sound unended asked
  case isFalse kept =>
    refine ⟨⟨⟨?_, ?_, ?_, numbers⟩, ?_, ?_, ?_, ?_⟩, ?_, rfl⟩
    · exact List.mem_of_getElem? (i := 1) rfl
    · exact fun _ => sound.shown.unfailed fun done => unended (sound.failed done)
    · exact fun other => absurd rfl other
    · exact fun other => absurd (show "completed" = "running" from other) (by decide)
    · exact fun _ => rfl
    · exact fun _ => rfl
    · exact fun other => absurd (show "completed" = "cancelled" from other) (by decide)
    · refine follows_of_unended sound unended rfl rfl rfl fun cancelled => ?_
      exact absurd (sound.cancelled cancelled) kept

theorem cancelRun_goes (sound : Sound row) : Goes row (cancelRun now row) := by
  unfold cancelRun
  dsimp only
  split
  case isTrue running =>
    have unended := (sound.running running).2
    refine ⟨⟨⟨?_, ?_, ?_, ?_⟩, ?_, ?_, ?_, ?_⟩, ?_, rfl⟩
    · exact List.mem_of_getElem? (i := 3) rfl
    · exact fun _ => sound.shown.unfailed fun done => unended (sound.failed done)
    · exact fun _ => sound.bare_of_unended unended
    · exact sound.shown.numbered
    · exact fun other => absurd (show "cancelled" = "running" from other) (by decide)
    · exact fun other => absurd (show "cancelled" = "completed" from other) (by decide)
    · exact fun other => absurd (show "cancelled" = "failed" from other) (by decide)
    · exact fun _ => rfl
    · exact follows_of_unended sound unended rfl rfl rfl fun _ => Or.inl rfl
  case isFalse stopped =>
    refine ⟨⟨sound.shown, fun running => absurd running stopped, sound.completed, sound.failed,
      fun _ => rfl⟩, Follows.refl _, rfl⟩

theorem callResearcher_goes (sound : Sound row) (unended : row.phase ≠ .ended)
    (environment : Environment) : Goes row (callResearcher str environment now row) := by
  unfold callResearcher
  split
  · exact fails sound unended _ _
  split
  · exact fails sound unended _ _
  split
  · exact fails sound unended _ _
  · exact progresses sound unended _ _ _ _ nofun

theorem executeRun_goes (sound : Sound row) (unended : row.phase ≠ .ended)
    (environment : Environment) : Goes row (executeRun str environment now row) := by
  unfold executeRun
  split
  case isTrue asked => exact ends_cancelled sound unended asked
  case isFalse =>
    have started : Goes row (row.start now) := progressed sound unended _ _ _ _
    refine started.trans fun sound => ?_
    split
    · exact progresses sound unended _ _ _ _ nofun
    split
    · have collected : Goes (row.start now) ((row.start now).collect now) :=
        progressed sound unended _ _ _ _
      exact collected.trans fun sound => finishes sound unended (projectSourceResult_numbered _)
    · have called : Goes (row.start now) ((row.start now).call now) :=
        progressed sound unended _ _ _ _
      exact called.trans fun sound => callResearcher_goes sound unended environment

theorem resumeRun_goes {next : Row} {environment : Environment} {wait : Wait} (sound : Sound row)
    (resumed : resumeRun str environment wait now row = some next) : Goes row next := by
  have unended : row.phase ≠ .ended := by
    intro ended
    simp [resumeRun, ended] at resumed
  unfold resumeRun at resumed
  split at resumed
  case h_1 => exact Option.some.inj resumed ▸ finishes sound unended (fakeResult_numbered _)
  case h_2 => exact Option.some.inj resumed ▸ progresses sound unended _ _ _ _ nofun
  case h_3 =>
    have extracted : Goes row (row.extract now) := progressed sound unended _ _ _ _
    refine Option.some.inj resumed ▸ extracted.trans fun sound => ?_
    exact finishes sound unended (extracted_numbered _)
  case h_4 => exact Option.some.inj resumed ▸ fails sound unended _ _
  case h_5 => exact Option.some.inj resumed ▸ fails sound unended _ _
  case h_6 => cases resumed

end

end MeetYou.AdapterService
