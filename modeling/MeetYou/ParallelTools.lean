import Mathlib.Data.List.Perm.Basic
import MeetYou.Foundation.Runs
import MeetYou.Foundation.Text
import MeetYou.Foundation.Values

/-!
# Tool calls in parallel

The tool calls of one model reply are executed in batches. Each call declares a
policy: whether it may run beside others, whether it keeps its order, the resource it
uses, and a group with the number of its calls that may run at once. The loop over the
calls fills a batch as long as the next call can join it, runs the batch, and goes on;
a call that cannot join an empty batch runs alone.

Whatever the policies are, each call runs once, is answered in its place, and the
order, the resources and the global limit are kept. The limit of a group is read from
the call that joins only. It is kept for every call if no call joins a batch in which
it exceeds the limit of an earlier one.
-/

namespace MeetYou.ParallelTools

open Runs

/-! ## Policies -/

/-- The parallel policy of a call, as far as the brain reads it. -/
structure Policy where
  safeParallel : Bool
  requiresOrder : Bool
  resourceKey : String
  parallelGroup : String
  maxConcurrency : Nat
  positive : 0 < maxConcurrency

/-- What a policy takes from the runtime: `str` of a value that is not a text, `int`
(`none` is its exception), `lower`, `repr(sorted(arguments.items()))`,
`_stable_short_hash`, `_normalize_url_key` and `_normalize_path`. -/
structure Builtins where
  str : Json → String
  int : Json → Option Int
  lower : String → String
  sortedRepr : Fields → String
  stableShortHash : String → String
  normalizeUrlKey : String → String
  normalizePath : String → String

section Metadata
variable (builtins : Builtins)

/-- `str(value)`. -/
def text : Json → String
  | .str value => value
  | value => builtins.str value

/-- `str(fields.get(name) or "")`. -/
def textOf (fields : Fields) (name : String) : String :=
  text builtins (fields.getOr name (.str ""))

/-- `_endpoint_action_risk`. -/
def endpointActionRisk (riskLevel : String) : String :=
  let normalized := Text.lowerWord (Text.strip (if riskLevel = "" then "read" else riskLevel))
  if normalized = "system" ∨ normalized = "destructive" then "destructive"
  else if normalized = "write" ∨ normalized = "local_write" then "local_write"
  else if normalized = "external_write" ∨ normalized = "network_write" then "external_write"
  else "read"

/-- The risks that change something. -/
def Mutates (actionRisk : String) : Prop :=
  actionRisk = "local_write" ∨ actionRisk = "external_write" ∨ actionRisk = "destructive"

instance (actionRisk : String) : Decidable (Mutates actionRisk) :=
  inferInstanceAs (Decidable (_ ∨ _ ∨ _))

/-- The concurrency of a call that declares none. -/
def defaultConcurrency (safeParallel : Bool) : Nat := if safeParallel then 3 else 1

/-- `max(1, int(value))`, or the default where `int` raises. -/
def declaredConcurrency (value : Json) (safeParallel : Bool) : Nat :=
  match builtins.int value with
  | some declared => max 1 declared.toNat
  | none => defaultConcurrency safeParallel

theorem declaredConcurrency_pos (value : Json) (safeParallel : Bool) :
    0 < declaredConcurrency builtins value safeParallel := by
  unfold declaredConcurrency defaultConcurrency
  split
  · omega
  · split <;> omega

/-- A dictionary that is a value of another one, or an empty one. -/
def dictOf (fields : Fields) (name : String) : Fields :=
  match fields.get name with
  | some (.obj entries) => Fields.of entries
  | _ => Fields.of []

/-- `get_tool_parallel_metadata` for a tool of the endpoint catalogue. -/
def endpointToolMetadata (dynamicTool : Fields) : Policy :=
  let constraints := dictOf dynamicTool "constraints"
  let actionRisk := endpointActionRisk
    (text builtins (dynamicTool.getOr "risk_level" (.str "read")))
  let safeParallel := ((constraints.get "safe_parallel").getD
    (.bool (decide (actionRisk = "read")))).truthy
  let endpointId := text builtins ((dynamicTool.get "endpoint_id").getD .null)
  let toolKey := text builtins ((dynamicTool.get "tool_key").getD .null)
  { safeParallel := safeParallel
    requiresOrder := decide (Mutates actionRisk)
    resourceKey := text builtins
      (constraints.getOr "resource_key" (.str s!"endpoint:{endpointId}:{toolKey}"))
    parallelGroup := text builtins
      (constraints.getOr "parallel_group" (.str s!"endpoint:{endpointId}"))
    maxConcurrency := declaredConcurrency builtins
      (constraints.getOr "max_concurrency" (.num (defaultConcurrency safeParallel))) safeParallel
    positive := declaredConcurrency_pos builtins _ _ }

/-- `_ORDER_REQUIRED_TOOLS`, and the two shells. -/
def orderRequiredTools : List String :=
  ["ask_human", "exec_core_cmd", "switch_assistant_mode", "switch_workspace", "save_memory",
    "remember_knowledge", "manage_memories", "manage_tasks", "manage_scheduled_jobs",
    "create_scheduled_workflow", "manage_scheduled_workflows", "create_scheduled_delivery",
    "manage_scheduled_deliveries", "send_endpoint_message", "send_delivery_message",
    "set_delivery_preference", "emit_progress_notice", "manage_threads", "restart_core",
    "danxi_login", "danxi_logout", "danxi_set_webvpn_cookie", "danxi_clear_webvpn_cookie",
    "danxi_create_post", "danxi_reply_post", "danxi_edit_reply", "danxi_delete_reply",
    "danxi_delete_post", "danxi_manage_favorite", "danxi_manage_subscription",
    "danxi_mark_message_read", "exec_sys_cmd"]

/-- `_ENDPOINT_LOCAL_FILE_TOOLS`. -/
def endpointLocalFileTools : List String :=
  ["analyze_workspace", "read_local_documents", "write_local_document", "rewrite_local_document"]

/-- A tool of `_WEB_READ_TOOLS`, or with a prefix of `_WEB_MCP_READ_PREFIXES`. -/
def isWebRead (toolName : String) : Bool :=
  toolName = "search_web" || toolName = "read_web_page" || toolName.startsWith "tavily"

/-- The `resource_key` of a tool of the Core. -/
def resourceKeyOf (toolName : String) (toolArgs schemaMetadata : Fields) : String :=
  let declared := Text.strip (textOf builtins schemaMetadata "resource_key")
  if declared ≠ "" then declared
  else if toolName = "search_web" then
    let query := builtins.lower (Text.strip (textOf builtins toolArgs "query"))
    let quality := builtins.lower
      (Text.strip (text builtins (toolArgs.getOr "quality" (.str "adaptive"))))
    let maxResults := textOf builtins toolArgs "max_results"
    "web-search:" ++ builtins.stableShortHash s!"{query}|{quality}|{maxResults}"
  else if toolName = "read_web_page" then
    let url := builtins.normalizeUrlKey (textOf builtins toolArgs "url")
    if url ≠ "" then "web-page:" ++ builtins.stableShortHash url else "web-page:unknown_url"
  else if toolName.startsWith "tavily" then
    s!"mcp-web:{toolName}:" ++ builtins.stableShortHash (builtins.sortedRepr toolArgs)
  else if toolName ∈ endpointLocalFileTools then
    let normalizedPath := builtins.normalizePath (text builtins
      (toolArgs.getOr "path" (toolArgs.getOr "workspace_path" (.str ""))))
    if normalizedPath ≠ "" then "path:" ++ normalizedPath else s!"{toolName}:unknown_path"
  else s!"tool:{toolName}"

/-- The `parallel_group` of a tool of the Core. -/
def parallelGroupOf (toolName actionRisk : String) (schemaMetadata : Fields) : String :=
  if isWebRead toolName then
    text builtins (schemaMetadata.getOr "parallel_group" (.str "web_io"))
  else
    let declared := Text.strip (textOf builtins schemaMetadata "parallel_group")
    let resource := Text.strip (textOf builtins schemaMetadata "resource_key")
    if declared ≠ "" then declared else if resource ≠ "" then resource else actionRisk

/-- `get_tool_parallel_metadata` for a tool of the Core, with its name stripped. -/
def coreToolMetadata (toolName actionRisk : String) (toolArgs schemaMetadata : Fields) : Policy :=
  let requiresOrder := decide (toolName ∈ orderRequiredTools)
  let safeDefault := decide (actionRisk = "read") && !requiresOrder
  let declaredSafe := if isWebRead toolName then safeDefault
    else ((schemaMetadata.get "safe_parallel").getD (.bool safeDefault)).truthy
  let safeParallel := if requiresOrder ∨ Mutates actionRisk then false else declaredSafe
  let unstated := if isWebRead toolName then 3 else defaultConcurrency safeParallel
  { safeParallel := safeParallel
    requiresOrder := requiresOrder
    resourceKey := resourceKeyOf builtins toolName toolArgs schemaMetadata
    parallelGroup := parallelGroupOf builtins toolName actionRisk schemaMetadata
    maxConcurrency := declaredConcurrency builtins
      ((schemaMetadata.get "max_concurrency").getD (.num unstated)) safeParallel
    positive := declaredConcurrency_pos builtins _ _ }

end Metadata

/-! ## The plan -/

/-- `_resolve_max_parallel_tool_calls`: what `int` makes of the limit of the route and
of the one in the router's configuration, and the brain's own default. -/
def resolveMaxParallelToolCalls (routeLimit routerLimit : Option Int) (default : Int) : Nat :=
  let own := max 1 (min default 8)
  match routeLimit with
  | some limit => if 0 < limit then limit.toNat else
      if 0 < routerLimit.getD own then (routerLimit.getD own).toNat else own.toNat
  | none => if 0 < routerLimit.getD own then (routerLimit.getD own).toNat else own.toNat

/-- At least one call may run. -/
theorem resolveMaxParallelToolCalls_pos (routeLimit routerLimit : Option Int) (default : Int) :
    0 < resolveMaxParallelToolCalls routeLimit routerLimit default := by
  unfold resolveMaxParallelToolCalls
  dsimp only
  repeat' split
  all_goals omega

/-- `_ToolExecutionPlanItem`: the call with its index and its policy. -/
structure PlanItem where
  index : Nat
  toolCallId : String
  policy : Policy

/-- The items of the visible tool calls. -/
def planItems (calls : List (String × Policy)) : List PlanItem :=
  calls.zipIdx.map fun (call, index) => ⟨index, call.1, call.2⟩

/-- The stripped `resource_key`; the empty one is no resource. -/
def PlanItem.resource (item : PlanItem) : String := Text.strip item.policy.resourceKey

/-- The stripped `parallel_group`; the empty one is no group. -/
def PlanItem.group (item : PlanItem) : String := Text.strip item.policy.parallelGroup

/-- The calls of the group. -/
def groupCount (batch : List PlanItem) (group : String) : Nat :=
  batch.countP fun existing => decide (existing.group = group)

/-- `_can_join_parallel_batch`. -/
def canJoin (globalLimit : Nat) (currentBatch : List PlanItem) (item : PlanItem) : Bool :=
  if globalLimit ≤ currentBatch.length then false
  else if !item.policy.safeParallel then false
  else if item.policy.requiresOrder then false
  else if item.group ≠ "" ∧ item.policy.maxConcurrency ≤ groupCount currentBatch item.group then
    false
  else if item.resource ≠ "" ∧ ∃ existing ∈ currentBatch, existing.resource = item.resource then
    false
  else true

/-! ## The execution -/

universe u
variable {Result : Type u}

/-- Where `_execute_visible_tool_calls` stands: in its loop, waiting for the batch,
waiting for one call, or behind the appended messages. -/
inductive Position
  | looping
  | flushing
  | single
  | concluded
  deriving DecidableEq

/-- A message with the role `tool`. -/
structure ToolMessage where
  toolCallId : String
  content : String

/-- An execution. `remaining` are the items the loop has not passed; the calls it waits
for have not begun, run, or have ended with a result. -/
structure Execution (Result : Type u) where
  position : Position
  pending : List PlanItem
  remaining : List PlanItem
  unstarted : List PlanItem
  running : List PlanItem
  ended : List (PlanItem × Result)
  orderedResults : Dict Nat Result
  messages : List ToolMessage

/-- The execution before its first item. -/
def start (plan : List PlanItem) : Execution Result :=
  ⟨.looping, [], plan, [], [], [], Dict.empty, []⟩

/-- What can happen next: the loop passes an item or stops at it, a call that was
scheduled begins or ends, and the wait for all of them returns. -/
inductive Action (Result : Type u)
  | loops
  | starts (position : Nat)
  | ends (position : Nat) (result : Result)
  | resumes

section
variable (globalLimit : Nat) (content : Result → String) (missing : PlanItem → Result)

/-- The loop at its next item. Where that cannot join, and behind the last one, the
batch is flushed. -/
def loops (execution : Execution Result) : Execution Result :=
  match execution.remaining with
  | [] => { execution with position := .flushing, unstarted := execution.pending }
  | item :: rest =>
      if canJoin globalLimit execution.pending item then
        { execution with pending := execution.pending ++ [item], remaining := rest }
      else { execution with position := .flushing, unstarted := execution.pending }

/-- The message an item is answered with. -/
def answer (orderedResults : Dict Nat Result) (item : PlanItem) : ToolMessage :=
  ⟨item.toolCallId, content ((orderedResults.get item.index).getD (missing item))⟩

/-- Behind a flush: the item that could not join is tried again, and runs alone if it
cannot join the empty batch either. -/
def flushed (plan : List PlanItem) (execution : Execution Result) : Execution Result :=
  match execution.remaining with
  | [] => { execution with
      position := .concluded
      pending := []
      messages := plan.map (answer content missing execution.orderedResults) }
  | item :: rest =>
      if canJoin globalLimit [] item then
        { execution with position := .looping, pending := [item], remaining := rest }
      else { execution with position := .single, pending := [], unstarted := [item] }

/-- One step of an execution. -/
def step (plan : List PlanItem) (execution : Execution Result) :
    Action Result → Option (Execution Result)
  | .loops => if execution.position = .looping then some (loops globalLimit execution) else none
  | .starts position => execution.unstarted[position]?.map fun item =>
      { execution with
        unstarted := execution.unstarted.eraseIdx position
        running := execution.running ++ [item] }
  | .ends position result => execution.running[position]?.map fun item =>
      { execution with
        running := execution.running.eraseIdx position
        ended := execution.ended ++ [(item, result)]
        orderedResults := execution.orderedResults.set item.index result }
  | .resumes =>
      if execution.unstarted.isEmpty ∧ execution.running.isEmpty then
        match execution.position with
        | .flushing => some (flushed globalLimit content missing plan execution)
        | .single => some { execution with
            position := .looping, remaining := execution.remaining.tail }
        | _ => none
      else none

end

/-- The call runs beside others. -/
def Parallel (item : PlanItem) : Prop :=
  item.policy.safeParallel = true ∧ item.policy.requiresOrder = false

/-- Two calls that use one resource. -/
def Shares (one other : PlanItem) : Prop := one.resource ≠ "" ∧ one.resource = other.resource

/-- Every limit a policy declares, and one answer for each call. -/
structure Respects (globalLimit : Nat) (content : Result → String) (plan : List PlanItem)
    (execution : Execution Result) : Prop where
  once : ((execution.running ++ execution.ended.map Prod.fst).map PlanItem.index).Nodup ∧
    ∀ item ∈ execution.running ++ execution.ended.map Prod.fst, item ∈ plan
  answered : execution.position = .concluded → (execution.ended.map Prod.fst).Perm plan ∧
    List.Forall₂ (fun item message => message.toolCallId = item.toolCallId ∧
      ∃ result, (item, result) ∈ execution.ended ∧ message.content = content result)
      plan execution.messages
  unanswered : execution.position ≠ .concluded → execution.messages = []
  ordered : ∀ item ∈ execution.running, ¬ Parallel item → execution.running = [item] ∧
    (∀ earlier ∈ plan, earlier.index < item.index → earlier ∈ execution.ended.map Prod.fst) ∧
      ∀ later ∈ plan, item.index < later.index → later ∉ execution.ended.map Prod.fst
  resources : execution.running.Pairwise fun one other => ¬ Shares one other
  within : execution.running.length ≤ globalLimit
  groups : ∀ item ∈ execution.running, item.group ≠ "" →
    groupCount execution.running item.group ≤ item.policy.maxConcurrency

/-- A call that joins the batch does not exceed the limit of a call of its group that
is in it. -/
def JoinsWithin (globalLimit : Nat) (execution : Execution Result) (action : Action Result) :
    Prop :=
  ∀ item rest, action = .loops → execution.position = .looping →
    execution.remaining = item :: rest → canJoin globalLimit execution.pending item →
      ∀ earlier ∈ execution.pending, earlier.group ≠ "" → earlier.group = item.group →
        groupCount execution.pending item.group < earlier.policy.maxConcurrency

/-- The loop's own step. -/
def Action.isLoops : Action Result → Bool
  | .loops => true
  | _ => false

instance (globalLimit : Nat) (execution : Execution Result) (action : Action Result) :
    Decidable (JoinsWithin globalLimit execution action) :=
  decidable_of_iff (∀ item ∈ execution.remaining.take 1, action.isLoops = true →
      execution.position = .looping → canJoin globalLimit execution.pending item →
        ∀ earlier ∈ execution.pending, earlier.group ≠ "" → earlier.group = item.group →
          groupCount execution.pending item.group < earlier.policy.maxConcurrency) (by
    constructor
    · rintro within item rest rfl looping next
      exact within item (by simp [next]) rfl looping
    · intro within item member same looping
      cases action with
      | loops =>
        obtain ⟨rest, next⟩ : ∃ rest, execution.remaining = item :: rest := by
          cases remains : execution.remaining with
          | nil => simp [remains] at member
          | cons first rest =>
            simp only [remains, List.take_succ_cons, List.take_zero, List.mem_singleton] at member
            exact ⟨rest, member ▸ rfl⟩
        exact within item rest rfl looping next
      | starts position => cases same
      | ends position result => cases same
      | resumes => cases same)

/-! ## Batches -/

/-- A batch whose calls may all run at once. -/
structure Joined (globalLimit : Nat) (batch : List PlanItem) : Prop where
  parallel : ∀ item ∈ batch, Parallel item
  resources : batch.Pairwise fun one other => ¬ Shares one other
  within : batch.length ≤ globalLimit
  groups : ∀ item ∈ batch, item.group ≠ "" → groupCount batch item.group ≤ item.policy.maxConcurrency

theorem joined_nil (globalLimit : Nat) : Joined globalLimit [] where
  parallel := fun _ member => by cases member
  resources := List.Pairwise.nil
  within := Nat.zero_le globalLimit
  groups := fun _ member => by cases member

/-- What the check of a joining call establishes. -/
theorem canJoin_facts {globalLimit : Nat} {batch : List PlanItem} {item : PlanItem}
    (joins : canJoin globalLimit batch item = true) :
    batch.length < globalLimit ∧ Parallel item ∧
      (item.group ≠ "" → groupCount batch item.group < item.policy.maxConcurrency) ∧
        ∀ existing ∈ batch, ¬ Shares existing item := by
  unfold canJoin at joins
  split at joins
  · cases joins
  rename_i room
  split at joins
  · cases joins
  rename_i safe
  split at joins
  · cases joins
  rename_i unordered
  split at joins
  · cases joins
  rename_i grouped
  split at joins
  · cases joins
  rename_i free
  refine ⟨by omega, ⟨by simpa using safe, by simpa using unordered⟩, fun named => ?_, ?_⟩
  · by_contra full
    exact grouped ⟨named, by omega⟩
  · rintro existing member ⟨named, same⟩
    exact free ⟨same ▸ named, existing, member, same⟩

@[simp] theorem groupCount_append (batch : List PlanItem) (item : PlanItem) (group : String) :
    groupCount (batch ++ [item]) group =
      groupCount batch group + if item.group = group then 1 else 0 := by
  simp [groupCount, List.countP_append, List.countP_cons]

/-- The batch stays one whose calls may all run at once, if the joining call exceeds no
limit of an earlier one. -/
theorem Joined.append {globalLimit : Nat} {batch : List PlanItem} {item : PlanItem}
    (joined : Joined globalLimit batch) (joins : canJoin globalLimit batch item = true)
    (fits : ∀ earlier ∈ batch, earlier.group ≠ "" → earlier.group = item.group →
      groupCount batch item.group < earlier.policy.maxConcurrency) :
    Joined globalLimit (batch ++ [item]) := by
  obtain ⟨room, parallel, grouped, free⟩ := canJoin_facts joins
  refine ⟨?_, ?_, by simp; omega, ?_⟩
  · intro other member
    rcases List.mem_append.mp member with earlier | new
    · exact joined.parallel other earlier
    · exact List.mem_singleton.mp new ▸ parallel
  · refine List.pairwise_append.mpr ⟨joined.resources, List.pairwise_singleton _ _, ?_⟩
    intro existing member new single
    exact List.mem_singleton.mp single ▸ free existing member
  · intro other member named
    rw [groupCount_append]
    rcases List.mem_append.mp member with earlier | new
    · by_cases same : item.group = other.group
      · have := fits other earlier named same.symm
        simp only [same, if_true]
        rw [same] at this
        omega
      · simp only [same, if_false, Nat.add_zero]
        exact joined.groups other earlier named
    · obtain rfl := List.mem_singleton.mp new
      have := grouped named
      rw [if_pos rfl]
      omega

theorem shares_symm {one other : PlanItem} (free : ¬ Shares one other) : ¬ Shares other one := by
  rintro ⟨named, same⟩
  exact free ⟨same ▸ named, same.symm⟩

/-- Any part of such a batch may run at once. -/
theorem Joined.part {globalLimit : Nat} {batch part rest : List PlanItem}
    (joined : Joined globalLimit batch) (split : (part ++ rest).Perm batch) :
    Joined globalLimit part := by
  have inside : part.Sublist (part ++ rest) := List.sublist_append_left part rest
  refine ⟨?_, ?_, ?_, ?_⟩
  · exact fun item member => joined.parallel item (split.subset (inside.subset member))
  · exact ((split.pairwise_iff fun free => shares_symm free).mpr joined.resources).sublist inside
  · have counted := split.length_eq
    have most := joined.within
    rw [List.length_append] at counted
    omega
  · intro item member named
    have whole := joined.groups item (split.subset (inside.subset member)) named
    have counted : groupCount (part ++ rest) item.group = groupCount batch item.group :=
      split.countP_eq _
    simp only [groupCount, List.countP_append] at counted whole ⊢
    omega

/-! ## What holds of an execution -/

/-- The calls the loop has stopped at: the batch it fills or waits for, or one call. -/
def current (execution : Execution Result) : List PlanItem :=
  match execution.position with
  | .looping => execution.pending
  | .flushing => execution.pending
  | .single => execution.remaining.take 1
  | .concluded => []

/-- The calls behind them. -/
def later (execution : Execution Result) : List PlanItem :=
  match execution.position with
  | .looping => execution.remaining
  | .flushing => execution.remaining
  | .single => execution.remaining.tail
  | .concluded => []

/-- The execution waits for its current calls. -/
def Waits (execution : Execution Result) : Prop :=
  execution.position = .flushing ∨ execution.position = .single

/-- What holds of an execution between the calls that are handled and those that are
still to come; `done` are the current calls that have ended. -/
structure Kept (globalLimit : Nat) (content : Result → String) (missing : PlanItem → Result)
    (plan : List PlanItem) (execution : Execution Result) (handled done : List PlanItem) : Prop where
  split : plan = handled ++ current execution ++ later execution
  ended : (execution.ended.map Prod.fst).Perm (handled ++ done)
  waits : Waits execution → (execution.unstarted ++ execution.running ++ done).Perm (current execution)
  rests : ¬ Waits execution → execution.unstarted = [] ∧ execution.running = [] ∧ done = []
  joined : Joined globalLimit execution.pending
  single : execution.position = .single → execution.pending = [] ∧ execution.remaining ≠ []
  recorded : ∀ item result, (item, result) ∈ execution.ended →
    execution.orderedResults.get item.index = some result
  answered : execution.messages = if execution.position = .concluded then
    plan.map (answer content missing execution.orderedResults) else []

/-- What holds at every time. -/
def Sound (globalLimit : Nat) (content : Result → String) (missing : PlanItem → Result)
    (plan : List PlanItem) (execution : Execution Result) : Prop :=
  ∃ handled done, Kept globalLimit content missing plan execution handled done

section Proofs
variable {globalLimit : Nat} {content : Result → String} {missing : PlanItem → Result}
  {plan : List PlanItem} {execution : Execution Result}

theorem start_sound : Sound globalLimit content missing plan (start plan : Execution Result) := by
  refine ⟨[], [], rfl, List.Perm.nil, ?_, fun _ => ⟨rfl, rfl, rfl⟩, joined_nil globalLimit, ?_,
    ?_, rfl⟩
  · rintro (waiting | waiting) <;> cases waiting
  · intro single
    cases single
  · intro item result member
    cases member

/-- The calls that run or have ended are part of the plan. -/
theorem Kept.account {handled done : List PlanItem}
    (kept : Kept globalLimit content missing plan execution handled done) :
    ∃ rest, (rest ++ (execution.running ++ execution.ended.map Prod.fst)).Perm plan := by
  classical
  have ended := List.perm_iff_count.mp kept.ended
  by_cases waiting : Waits execution
  · have waits := List.perm_iff_count.mp (kept.waits waiting)
    refine ⟨later execution ++ execution.unstarted, List.perm_iff_count.mpr fun item => ?_⟩
    have one := ended item
    have two := waits item
    simp only [kept.split, List.count_append] at one two ⊢
    omega
  · obtain ⟨_, idle, none_⟩ := kept.rests waiting
    refine ⟨current execution ++ later execution, List.perm_iff_count.mpr fun item => ?_⟩
    have one := ended item
    simp only [kept.split, idle, none_, List.count_append, List.count_nil] at one ⊢
    omega

/-- A call that runs is a current one. -/
theorem Kept.running_waits {handled done : List PlanItem} {item : PlanItem}
    (kept : Kept globalLimit content missing plan execution handled done)
    (runs : item ∈ execution.running) : Waits execution := by
  by_contra resting
  rw [(kept.rests resting).2.1] at runs
  cases runs

/-- The calls that run are part of what the batch may run at once, or one call. -/
theorem Kept.running_part {handled done : List PlanItem} {item : PlanItem}
    (kept : Kept globalLimit content missing plan execution handled done)
    (runs : item ∈ execution.running) :
    Joined globalLimit execution.running ∨
      (execution.running = [item] ∧ done = [] ∧ execution.remaining.take 1 = [item] ∧
        execution.position = .single) := by
  classical
  have waiting := kept.running_waits runs
  have whole := kept.waits waiting
  rcases waiting with flushing | single
  · refine .inl (@Joined.part _ _ _ (execution.unstarted ++ done) kept.joined ?_)
    simp only [current, flushing] at whole
    refine List.perm_iff_count.mpr fun other => ?_
    have counted := List.perm_iff_count.mp whole other
    simp only [List.count_append] at counted ⊢
    omega
  · refine .inr ?_
    simp only [current, single] at whole
    have length := whole.length_eq
    have short : (execution.remaining.take 1).length ≤ 1 := List.length_take_le 1 _
    have some_ := List.length_pos_of_mem runs
    simp only [List.length_append] at length
    have unstarted : execution.unstarted = [] := List.length_eq_zero_iff.mp (by omega)
    have none_ : done = [] := List.length_eq_zero_iff.mp (by omega)
    obtain ⟨only, alone⟩ := List.length_eq_one_iff.mp (show execution.running.length = 1 by omega)
    rw [alone] at runs
    obtain rfl := List.mem_singleton.mp runs
    rw [unstarted, none_, alone, List.nil_append, List.append_nil] at whole
    exact ⟨alone, none_, List.singleton_perm.mp whole |>.symm, single⟩

/-- What holds at every time gives everything the policies ask for. -/
theorem Sound.respects (sorted : plan.Pairwise fun one other => one.index < other.index)
    (room : 0 < globalLimit) (sound : Sound globalLimit content missing plan execution) :
    Respects globalLimit content plan execution := by
  obtain ⟨handled, done, kept⟩ := sound
  obtain ⟨rest, account⟩ := kept.account
  have distinct : (plan.map PlanItem.index).Nodup := by
    rw [List.Nodup, List.pairwise_map]
    exact sorted.imp fun before => Nat.ne_of_lt before
  have resting : execution.position = .concluded → ¬ Waits execution := by
    rintro finished (flushing | single)
    · rw [finished] at flushing
      cases flushing
    · rw [finished] at single
      cases single
  refine ⟨⟨?_, ?_⟩, ?_, ?_, ?_, ?_, ?_, ?_⟩
  · have inside := (account.map PlanItem.index).nodup_iff.mpr distinct
    rw [List.map_append] at inside
    exact (List.nodup_append.mp inside).2.1
  · exact fun item member => account.subset (List.mem_append_right rest member)
  · intro finished
    have ended := kept.ended
    rw [(kept.rests (resting finished)).2.2, List.append_nil] at ended
    have all : handled = plan := by
      rw [kept.split]
      simp [current, later, finished]
    rw [all] at ended
    refine ⟨ended, ?_⟩
    rw [kept.answered, if_pos finished]
    rw [List.forall₂_map_right_iff, List.forall₂_same]
    intro item member
    obtain ⟨⟨same, result⟩, there, rfl⟩ := List.mem_map.mp (ended.symm.subset member)
    refine ⟨rfl, result, there, ?_⟩
    simp [answer, kept.recorded same result there]
  · intro going
    rw [kept.answered, if_neg going]
  · intro item runs ordered
    rcases kept.running_part runs with joined | ⟨alone, none_, first, single⟩
    · exact absurd (joined.parallel item runs) ordered
    · have ended := kept.ended
      rw [none_, List.append_nil] at ended
      have split := kept.split
      simp only [current, later, single, first] at split
      rw [split, List.append_assoc, List.pairwise_append] at sorted
      obtain ⟨_, behind, before⟩ := sorted
      refine ⟨alone, fun earlier member first => ?_, fun beyond member last => ?_⟩
      · rw [split] at member
        rcases List.mem_append.mp member with front | back
        · rcases List.mem_append.mp front with passed | self
          · exact ended.symm.subset passed
          · obtain rfl := List.mem_singleton.mp self
            omega
        · have := List.rel_of_pairwise_cons behind back
          omega
      · intro also
        have := before beyond (ended.subset also) item (by simp)
        omega
  · cases runs : execution.running with
    | nil => exact List.Pairwise.nil
    | cons item others =>
      rcases kept.running_part (runs ▸ List.mem_cons_self : item ∈ execution.running) with
        joined | ⟨alone, _⟩
      · exact runs ▸ joined.resources
      · rw [runs] at alone
        rw [alone]
        exact List.pairwise_singleton _ _
  · cases runs : execution.running with
    | nil => exact Nat.zero_le globalLimit
    | cons item others =>
      rcases kept.running_part (runs ▸ List.mem_cons_self : item ∈ execution.running) with
        joined | ⟨alone, _⟩
      · exact runs ▸ joined.within
      · rw [runs] at alone
        rw [alone]
        exact room
  · intro item runs named
    rcases kept.running_part runs with joined | ⟨alone, _⟩
    · exact joined.groups item runs named
    · have := item.policy.positive
      rw [alone]
      simp only [groupCount, List.countP_singleton, decide_true, if_true]
      omega

/-! ## Steps -/

/-- The current calls are handled when the wait for them is over. -/
theorem Kept.handle {handled done : List PlanItem}
    (kept : Kept globalLimit content missing plan execution handled done)
    (waiting : Waits execution) (unstarted : execution.unstarted = [])
    (running : execution.running = []) :
    (execution.ended.map Prod.fst).Perm (handled ++ current execution) := by
  have whole := kept.waits waiting
  rw [unstarted, running, List.nil_append, List.nil_append] at whole
  exact kept.ended.trans (whole.append_left handled)

theorem loops_sound (sound : Sound globalLimit content missing plan execution)
    (looping : execution.position = .looping)
    (within : ∀ item rest, execution.remaining = item :: rest →
      canJoin globalLimit execution.pending item → ∀ earlier ∈ execution.pending,
        earlier.group ≠ "" → earlier.group = item.group →
          groupCount execution.pending item.group < earlier.policy.maxConcurrency) :
    Sound globalLimit content missing plan (loops globalLimit execution) := by
  obtain ⟨handled, done, kept⟩ := sound
  have resting : ¬ Waits execution := by
    rintro (flushing | single)
    · rw [looping] at flushing
      cases flushing
    · rw [looping] at single
      cases single
  obtain ⟨_, idle, none_⟩ := kept.rests resting
  have split := kept.split
  simp only [current, later, looping] at split
  have quiet : execution.messages = [] := by
    rw [kept.answered, if_neg (by simp [looping])]
  -- the batch is flushed with the loop standing where it is
  have flushes : Sound globalLimit content missing plan
      { execution with position := .flushing, unstarted := execution.pending } := by
    refine ⟨handled, done, split, kept.ended, fun _ => ?_, ?_, kept.joined, ?_, kept.recorded, ?_⟩
    · simp [current, idle, none_]
    · exact fun still => absurd (.inl rfl) still
    · intro single
      cases single
    · exact quiet
  unfold loops
  split
  · exact flushes
  · rename_i item rest next
    split
    · rename_i joins
      refine ⟨handled, done, ?_, kept.ended, ?_, ?_, ?_, ?_, kept.recorded, ?_⟩
      · rw [next] at split
        simp only [current, later, looping]
        rw [split]
        simp
      · exact fun waiting => absurd waiting resting
      · exact fun _ => kept.rests resting
      · exact kept.joined.append joins (within item rest next joins)
      · intro single
        rw [looping] at single
        cases single
      · simpa [looping] using quiet
    · exact flushes

/-- The call at a position comes out of its list. -/
theorem eraseIdx_perm {items : List PlanItem} {item : PlanItem} {position : Nat}
    (found : items[position]? = some item) : (item :: items.eraseIdx position).Perm items := by
  obtain ⟨inside, rfl⟩ := List.getElem?_eq_some_iff.mp found
  exact List.getElem_cons_eraseIdx_perm inside

theorem starts_sound {position : Nat} {item : PlanItem}
    (sound : Sound globalLimit content missing plan execution)
    (found : execution.unstarted[position]? = some item) :
    Sound globalLimit content missing plan { execution with
      unstarted := execution.unstarted.eraseIdx position
      running := execution.running ++ [item] } := by
  classical
  obtain ⟨handled, done, kept⟩ := sound
  have waiting : Waits execution := by
    by_contra resting
    rw [(kept.rests resting).1] at found
    cases found
  refine ⟨handled, done, kept.split, kept.ended, fun _ => ?_, fun still => absurd waiting still,
    kept.joined, kept.single, kept.recorded, kept.answered⟩
  refine List.Perm.trans (List.perm_iff_count.mpr fun other => ?_) (kept.waits waiting)
  have taken := List.perm_iff_count.mp (eraseIdx_perm found) other
  simp only [List.count_append, List.count_cons, List.count_nil] at taken ⊢
  omega

theorem ends_sound {position : Nat} {item : PlanItem} (result : Result)
    (sorted : plan.Pairwise fun one other => one.index < other.index)
    (sound : Sound globalLimit content missing plan execution)
    (found : execution.running[position]? = some item) :
    Sound globalLimit content missing plan { execution with
      running := execution.running.eraseIdx position
      ended := execution.ended ++ [(item, result)]
      orderedResults := execution.orderedResults.set item.index result } := by
  classical
  obtain ⟨handled, done, kept⟩ := sound
  have runs : item ∈ execution.running := List.mem_of_getElem? found
  have waiting := kept.running_waits runs
  -- no other result has the index
  have fresh : ∀ other result, (other, result) ∈ execution.ended → other.index ≠ item.index := by
    intro other earlier there
    obtain ⟨rest, account⟩ := kept.account
    have distinct : (plan.map PlanItem.index).Nodup := by
      rw [List.Nodup, List.pairwise_map]
      exact sorted.imp fun before => Nat.ne_of_lt before
    have once := (account.map PlanItem.index).nodup_iff.mpr distinct
    rw [List.map_append, List.map_append] at once
    have apart := (List.nodup_append.mp (List.nodup_append.mp once).2.1).2.2
    exact fun same => apart item.index (List.mem_map_of_mem runs) other.index
      (List.mem_map_of_mem (List.mem_map.mpr ⟨_, there, rfl⟩)) same.symm
  have going : execution.position ≠ .concluded := by
    rcases waiting with flushing | single
    · simp [flushing]
    · simp [single]
  refine ⟨handled, done ++ [item], kept.split, ?_, fun _ => ?_, fun still => absurd waiting still,
    kept.joined, kept.single, ?_, ?_⟩
  · rw [List.map_append, ← List.append_assoc]
    exact kept.ended.append_right [item]
  · refine List.Perm.trans (List.perm_iff_count.mpr fun other => ?_) (kept.waits waiting)
    have taken := List.perm_iff_count.mp (eraseIdx_perm found) other
    simp only [List.count_append, List.count_cons, List.count_nil] at taken ⊢
    omega
  · intro other earlier there
    rcases List.mem_append.mp there with before | new
    · rw [Dict.get_set_ne _ _ (Ne.symm (fresh other earlier before))]
      exact kept.recorded other earlier before
    · obtain ⟨rfl, rfl⟩ := Prod.mk.inj (List.mem_singleton.mp new)
      exact Dict.get_set_self _ _ _
  · have quiet := kept.answered
    rw [if_neg going] at quiet ⊢
    exact quiet

theorem flushed_sound (sound : Sound globalLimit content missing plan execution)
    (flushing : execution.position = .flushing) (unstarted : execution.unstarted = [])
    (running : execution.running = []) :
    Sound globalLimit content missing plan
      (flushed globalLimit content missing plan execution) := by
  obtain ⟨handled, done, kept⟩ := sound
  have ended := kept.handle (.inl flushing) unstarted running
  have split := kept.split
  have quiet : execution.messages = [] := by
    rw [kept.answered, if_neg (by simp [flushing])]
  simp only [current, later, flushing] at ended split
  unfold flushed
  split
  · rename_i last
    refine ⟨handled ++ execution.pending, [], ?_, ?_, ?_, fun _ => ⟨unstarted, running, rfl⟩,
      joined_nil globalLimit, ?_, kept.recorded, by simp⟩
    · simpa [current, later, last] using split
    · simpa using ended
    · rintro (waiting | waiting) <;> cases waiting
    · intro single
      cases single
  · rename_i item rest next
    rw [next] at split
    split
    · rename_i joins
      refine ⟨handled ++ execution.pending, [], ?_, by simpa using ended, ?_,
        fun _ => ⟨unstarted, running, rfl⟩, ?_, ?_, kept.recorded, by simpa using quiet⟩
      · simpa [current, later] using split
      · rintro (waiting | waiting) <;> cases waiting
      · exact (joined_nil globalLimit).append joins fun _ member => by cases member
      · intro single
        cases single
    · refine ⟨handled ++ execution.pending, [], ?_, by simpa using ended, fun _ => ?_, ?_,
        joined_nil globalLimit, fun _ => ⟨rfl, by simp [next]⟩, kept.recorded, by simpa using quiet⟩
      · simpa [current, later, next] using split
      · simp [current, next, running]
      · exact fun still => absurd (.inr rfl) still

theorem single_sound (sound : Sound globalLimit content missing plan execution)
    (single : execution.position = .single) (unstarted : execution.unstarted = [])
    (running : execution.running = []) :
    Sound globalLimit content missing plan
      { execution with position := .looping, remaining := execution.remaining.tail } := by
  obtain ⟨handled, done, kept⟩ := sound
  have ended := kept.handle (.inr single) unstarted running
  have split := kept.split
  have quiet : execution.messages = [] := by
    rw [kept.answered, if_neg (by simp [single])]
  obtain ⟨empty, _⟩ := kept.single single
  simp only [current, later, single] at ended split
  refine ⟨handled ++ execution.remaining.take 1, [], ?_, by simpa using ended, ?_,
    fun _ => ⟨unstarted, running, rfl⟩, kept.joined, ?_, kept.recorded, by simpa using quiet⟩
  · simpa [current, later, empty] using split
  · rintro (waiting | waiting) <;> cases waiting
  · intro impossible
    cases impossible

/-- A step keeps what holds, if a joining call exceeds no limit of an earlier one. -/
theorem step_sound {next : Execution Result} {action : Action Result}
    (sorted : plan.Pairwise fun one other => one.index < other.index)
    (sound : Sound globalLimit content missing plan execution)
    (within : JoinsWithin globalLimit execution action)
    (taken : step globalLimit content missing plan execution action = some next) :
    Sound globalLimit content missing plan next := by
  cases action with
  | loops =>
    obtain ⟨looping, made⟩ := Option.ite_none_right_eq_some.mp taken
    obtain rfl := Option.some.inj made
    exact loops_sound sound looping fun item rest => within item rest rfl looping
  | starts position =>
    obtain ⟨item, found, rfl⟩ := Option.map_eq_some_iff.mp taken
    exact starts_sound sound found
  | ends position result =>
    obtain ⟨item, found, rfl⟩ := Option.map_eq_some_iff.mp taken
    exact ends_sound result sorted sound found
  | resumes =>
    obtain ⟨⟨unstarted, running⟩, made⟩ := Option.ite_none_right_eq_some.mp taken
    have unstarted := List.isEmpty_iff.mp unstarted
    have running := List.isEmpty_iff.mp running
    split at made
    · rename_i flushing
      obtain rfl := Option.some.inj made
      exact flushed_sound sound flushing unstarted running
    · rename_i single
      obtain rfl := Option.some.inj made
      exact single_sound sound single unstarted running
    · cases made

end Proofs

/-! ## Every run -/

/-- The items of a plan are numbered in their order. -/
theorem planItems_sorted (calls : List (String × Policy)) :
    (planItems calls).Pairwise fun one other => one.index < other.index := by
  rw [planItems, List.pairwise_map]
  have numbered : (calls.zipIdx.map Prod.snd).Pairwise (· < ·) := by
    rw [List.zipIdx_map_snd]
    exact List.pairwise_lt_range'
  exact List.pairwise_map.mp numbered

/-- Through every run each call runs once and is answered in its place, and order,
resources, the global limit and the limits of the groups are kept, if no call joins a
batch in which it exceeds the limit of an earlier call of its group. -/
theorem calls_respect_policies (routeLimit routerLimit : Option Int) (default : Int)
    (content : Result → String) (missing : PlanItem → Result) (calls : List (String × Policy))
    (actions : List (Action Result))
    (within : Along
      (step (resolveMaxParallelToolCalls routeLimit routerLimit default) content missing
        (planItems calls))
      (JoinsWithin (resolveMaxParallelToolCalls routeLimit routerLimit default))
      (start (planItems calls)) actions) :
    Throughout
      (step (resolveMaxParallelToolCalls routeLimit routerLimit default) content missing
        (planItems calls))
      (Respects (resolveMaxParallelToolCalls routeLimit routerLimit default) content
        (planItems calls))
      (start (planItems calls)) actions := by
  have sorted := planItems_sorted calls
  have room := resolveMaxParallelToolCalls_pos routeLimit routerLimit default
  have first : Sound (resolveMaxParallelToolCalls routeLimit routerLimit default) content missing
      (planItems calls) (start (planItems calls)) := start_sound
  refine ⟨first.respects sorted room, ?_⟩
  refine Along.imp_of_invariant
    (Sound (resolveMaxParallelToolCalls routeLimit routerLimit default) content missing
      (planItems calls)) ?_ ?_ first within
  · exact fun execution action next sound joins taken => step_sound sorted sound joins taken
  · exact fun execution action sound joins next taken =>
      (step_sound sorted sound joins taken).respects sorted room

/-! Two tools of one endpoint that share a group; the first allows one call of it at a
time, the second two. -/

/-- The builtins on whole numbers and texts. -/
def plainBuiltins : Builtins where
  str := fun _ => "None"
  int := fun value => match value with
    | .num number => some number.floor
    | _ => none
  lower := id
  sortedRepr := fun _ => "[]"
  stableShortHash := id
  normalizeUrlKey := id
  normalizePath := id

/-- The policy of a catalogue tool with a declared group and concurrency. -/
def groupedTool (toolKey : String) (maxConcurrency : Nat) : Policy :=
  endpointToolMetadata plainBuiltins (Fields.of [("endpoint_id", .str "lab"),
    ("tool_key", .str toolKey), ("risk_level", .str "read"),
    ("constraints", .obj [("parallel_group", .str "probe"),
      ("max_concurrency", .num maxConcurrency)])])

/-- Both calls are taken into a batch and begin. -/
def bothBegin : List (Action String) := [.loops, .loops, .loops, .starts 0, .starts 0]

/-- Two calls of tools that allow two at a time keep every limit. -/
theorem equal_limits_respected :
    Throughout (step (resolveMaxParallelToolCalls none none 3) id (fun _ => "")
        (planItems [("call-1", groupedTool "measure" 2), ("call-2", groupedTool "weigh" 2)]))
      (Respects (resolveMaxParallelToolCalls none none 3) id
        (planItems [("call-1", groupedTool "measure" 2), ("call-2", groupedTool "weigh" 2)]))
      (start (planItems [("call-1", groupedTool "measure" 2), ("call-2", groupedTool "weigh" 2)]))
      bothBegin :=
  calls_respect_policies none none 3 id (fun _ => "") _ bothBegin (by decide +kernel)

/-- Beside a call of the second tool the first one exceeds its own limit. -/
theorem larger_limit_joins_smaller :
    ¬ ∀ (calls : List (String × Policy)) (actions : List (Action String)),
      Throughout (step (resolveMaxParallelToolCalls none none 3) id (fun _ => "")
          (planItems calls))
        (Respects (resolveMaxParallelToolCalls none none 3) id (planItems calls))
        (start (planItems calls)) actions := by
  intro respected
  have ran : (run (step (resolveMaxParallelToolCalls none none 3) id (fun _ => "")
      (planItems [("call-1", groupedTool "measure" 1), ("call-2", groupedTool "weigh" 2)]))
      (start (planItems [("call-1", groupedTool "measure" 1), ("call-2", groupedTool "weigh" 2)]))
      bothBegin).any (fun execution => decide (∃ item ∈ execution.running, item.group ≠ "" ∧
        item.policy.maxConcurrency < groupCount execution.running item.group)) = true := by
    decide +kernel
  obtain ⟨execution, completed, finished⟩ := Option.any_eq_true _ _ |>.mp ran
  obtain ⟨item, runs, named, exceeds⟩ := of_decide_eq_true finished
  have within := ((respected _ bothBegin).final completed).groups item runs named
  omega

end MeetYou.ParallelTools
