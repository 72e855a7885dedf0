import Mathlib.Data.Prod.Lex
import Mathlib.Data.String.Basic
import MeetYou.EndpointRegistry
import MeetYou.Foundation.OrderBy
import MeetYou.ToolDispatch

/-!
# Resolving the execution target of a tool call

A request names a tool, a workspace and possibly an endpoint. A named endpoint is
taken if it has the tool enabled and can be reached. Without one, a core tool runs
in the core; any other tool goes to the best endpoint whose capability is not
rejected, or, when the request may wait for its endpoint, to the first endpoint
that has the tool at all.

The score of a candidate is a number the rules leave open: it decides between
candidates that are not rejected, never whether there is one. The rows of a query
whose keys tie may come in any order.

`Stands` says what keeps a decision valid, in terms of the one endpoint it is
about. `resolveUncached_stands` and `Stands.resolves` show that a resolution
succeeds exactly where a decision stands.
-/

namespace MeetYou.ToolRouting

open Text EndpointSockets EndpointRegistry
open ToolDispatch (ToolRouterError)

/-- `target_type`. -/
inductive TargetType where
  | core
  | endpoint
  | external
deriving DecidableEq

/-- The `execution_target` of a request. -/
structure RequestedTarget where
  endpointId : String := ""
  executionTargetId : String := ""

/-- The arguments of a resolution. -/
structure RoutingRequest where
  toolKey : String
  workspaceId : String := ""
  executionTarget : RequestedTarget := {}
  endpointId : String := ""
  offlinePolicy : String := "fail_fast"
  confirmed : Bool := false

/-- `str(tool_key or "").strip()`. -/
def RoutingRequest.normalizedToolKey (request : RoutingRequest) : Plain := plain request.toolKey

/-- `requested_endpoint_id`: the first of the three places that names an endpoint. -/
def RoutingRequest.requestedEndpointId (request : RoutingRequest) : Plain :=
  plain (if request.endpointId ≠ "" then request.endpointId
    else if request.executionTarget.endpointId ≠ "" then request.executionTarget.endpointId
    else request.executionTarget.executionTargetId)

/-- `offline_policy in {"queue_until_online", "store_in_outbox"}`. -/
def waits (offlinePolicy : String) : Bool :=
  decide (offlinePolicy ∈ ["queue_until_online", "store_in_outbox"])

/-- What a resolution reads besides its request. The connected endpoints are absent
while no getter for them is set. -/
structure View where
  registry : Registry
  coreTools : List Plain
  connectedEndpointIds : Option (List Plain)

/-- The endpoint of the core itself. -/
def coreLocal : Plain := plain "core.local"

/-- A row of the capability table under its key. -/
abbrev CapabilityRow := (Plain × Plain) × EndpointCapability

/-- An implementation of the order in which the rows of a tool are listed. -/
abbrev CapabilityOrder := OrderBy fun row : CapabilityRow => row.1.2

/-- `EndpointCandidate`, without the breakdown of its score. -/
structure EndpointCandidate where
  endpointId : Plain
  endpoint : Endpoint
  capability : EndpointCapability
  targetType : TargetType
  rejectedReasons : List String

/-- How a target was found. -/
inductive RoutingMode where
  | explicit
  | scored
  | offlinePolicy
deriving DecidableEq

/-- `routing_decision`, without scores. -/
structure RoutingDecision where
  mode : RoutingMode
  toolKey : Plain
  selectedEndpointId : Plain
  candidateCount : Option Nat := none
  rejectedCandidates : List (Plain × List String) := []

/-- Where a call is to run. -/
structure ExecutionTarget where
  targetId : Plain
  targetType : TargetType
  endpoint : Option Endpoint := none
  endpointCapability : Option EndpointCapability := none
  offlinePolicy : String := "fail_fast"
  routingDecision : Option RoutingDecision := none

/-! ## What an endpoint is asked for -/

/-- The `workspace_scope` of an endpoint without blanks. -/
def scope (endpoint : Endpoint) : List Plain := cleaned endpoint.workspaceScope

/-- The scope of the endpoint is open, names the workspace, or names every workspace. -/
def Admits (endpoint : Endpoint) (workspaceId : WorkspaceId) : Prop :=
  scope endpoint = [] ∨ workspaceId.1 ∈ scope endpoint ∨ plain "*" ∈ scope endpoint

instance (endpoint : Endpoint) (workspaceId : WorkspaceId) :
    Decidable (Admits endpoint workspaceId) := by
  unfold Admits
  infer_instance

/-- The type of target an endpoint is. -/
def targetTypeOf (endpoint : Endpoint) : TargetType :=
  if (plain endpoint.providerType).1 ∈ ["external", "webhook", "feishu", "wechatbot", "email"] then
    .external
  else .endpoint

/-- `_is_db_online`. -/
def isDbOnline (endpoint : Endpoint) : Bool :=
  decide (lowerWord (strip endpoint.status) ∈ ["ready", "online", "active"])

/-- The endpoint is connected, as far as the view can tell. -/
def View.online (view : View) (endpointId : Plain) (endpoint : Endpoint) : Bool :=
  match view.connectedEndpointIds with
  | some connected => decide (endpointId ∈ connected)
  | none => isDbOnline endpoint

/-- `_endpoint_can_dispatch`. -/
def View.endpointCanDispatch (view : View) (endpointId : Plain) (endpoint : Endpoint)
    (mayWait : Bool) : Bool :=
  view.online endpointId endpoint || mayWait

/-- A tool the core runs itself. -/
def View.isCoreTool (view : View) (toolKey : Plain) : Bool :=
  decide (toolKey ∈ view.coreTools) || "core.".toList.isPrefixOf toolKey.1.toList

/-- `_workspace_preferences`. -/
def workspacePreferences (workspace : Option (WorkspaceId × Workspace)) (toolKey : Plain) :
    TargetPreferences :=
  match workspace with
  | none => {}
  | some (_, row) => getEffectiveToolTargetPreferences row toolKey

/-- `_workspace_allows_tool`, where a workspace is stored at all. -/
def workspaceAllowsTool (workspace : Option (WorkspaceId × Workspace)) (toolKey : Plain) : Bool :=
  workspace.all fun row => toolAllowed row.2 toolKey

/-- The strict preferences an endpoint does not meet. -/
def preferenceReasons (preferences : TargetPreferences) (endpointId : Plain)
    (endpoint : Endpoint) : List String :=
  let endpointIds := preferences.preferredTargetEndpointIds
  let providerTypes := preferences.preferredEndpointProviderTypes
  if preferences.toolTargetRoutingPolicy ≠ .strictPreferredEndpoint then []
  else
    (if endpointIds ≠ [] ∧ endpointId ∉ endpointIds then ["strict_preferred_endpoint_mismatch"]
      else []) ++
    (if endpointIds = [] ∧ providerTypes ≠ [] ∧ plain endpoint.providerType ∉ providerTypes then
      ["strict_preferred_provider_mismatch"] else [])

/-- What the workspace has against an endpoint. -/
def workspaceReasons (workspace : Option (WorkspaceId × Workspace)) (toolKey endpointId : Plain)
    (endpoint : Endpoint) : List String :=
  (match workspace with
    | none => []
    | some (workspaceId, _) => if Admits endpoint workspaceId then [] else ["workspace_mismatch"])
    ++ preferenceReasons (workspacePreferences workspace toolKey) endpointId endpoint

/-- The rejections of `_score_endpoint_candidate`, in their order. -/
def rejectedReasons (view : View) (workspace : Option (WorkspaceId × Workspace))
    (toolKey endpointId : Plain) (endpoint : Endpoint) (capability : EndpointCapability)
    (mayWait confirmed : Bool) : List String :=
  (if view.endpointCanDispatch endpointId endpoint mayWait then []
    else if view.connectedEndpointIds.isSome then ["endpoint_disconnected"]
    else ["endpoint_not_online"]) ++
  workspaceReasons workspace toolKey endpointId endpoint ++
  (if capability.requiresConfirmation && !confirmed then ["confirmation_required"] else [])

/-! ## The three paths -/

/-- An error the router raises. -/
def routerError (code message : String) (details : List (String × Json)) (retryable : Bool) :
    ToolRouterError where
  code := .str code
  message := .str message
  details := Fields.of details
  retryable := retryable

/-- The path of a named endpoint. -/
def resolveNamed (view : View) (request : RoutingRequest) (toolKey endpointId : Plain) :
    Except ToolRouterError ExecutionTarget :=
  match view.registry.endpoints.get endpointId with
  | none =>
      .error (routerError "execution_target_not_found"
        ("Execution target not found: " ++ endpointId.1) [] true)
  | some endpoint =>
      let capability := view.registry.enabledCapability endpointId toolKey
      if endpointId = coreLocal then
        .ok { targetId := coreLocal, targetType := .core, endpoint := some endpoint,
              endpointCapability := capability }
      else if capability.isNone then
        .error (routerError "endpoint_capability_not_found"
          ("Endpoint cannot execute tool: " ++ endpointId.1 ++ " -> " ++ toolKey.1)
          [("endpoint_id", .str endpointId.1), ("tool_key", .str toolKey.1)] false)
      else if targetTypeOf endpoint = .endpoint ∧
          view.endpointCanDispatch endpointId endpoint (waits request.offlinePolicy) = false then
        .error (routerError "target_endpoint_unavailable"
          ("Endpoint is unavailable: " ++ endpointId.1)
          [("endpoint_id", .str endpointId.1), ("tool_key", .str toolKey.1)] true)
      else
        .ok { targetId := endpointId, targetType := targetTypeOf endpoint
              endpoint := some endpoint, endpointCapability := capability
              offlinePolicy := request.offlinePolicy
              routingDecision := some
                { mode := .explicit, toolKey := toolKey, selectedEndpointId := endpointId } }

section
variable {Score : Type} [LinearOrder Score]
  (score : View → RoutingRequest → EndpointCandidate → Score) (order : CapabilityOrder)

/-- The candidates among the listed rows of a tool. A row without its endpoint is none. -/
def candidates (view : View) (request : RoutingRequest)
    (workspace : Option (WorkspaceId × Workspace)) (toolKey : Plain) (rows : List CapabilityRow) :
    List EndpointCandidate :=
  rows.filterMap fun row =>
    (view.registry.endpoints.get row.1.1).map fun endpoint =>
      { endpointId := row.1.1, endpoint := endpoint, capability := row.2
        targetType := targetTypeOf endpoint
        rejectedReasons := rejectedReasons view workspace toolKey row.1.1 endpoint row.2
          (waits request.offlinePolicy) request.confirmed }

/-- The sort key of a candidate: its score, then its priority, then its name. -/
def rank (view : View) (request : RoutingRequest) (candidate : EndpointCandidate) :
    Score ×ₗ (ℤ ×ₗ String) :=
  toLex (score view request candidate,
    toLex (-Registry.priorityOr candidate.endpoint.priority, candidate.endpointId.1))

/-- `_select_best_endpoint_candidate`: the best candidate and the others, the rejected
ones first. -/
def selectBestEndpointCandidate (view : View) (request : RoutingRequest)
    (found : List EndpointCandidate) : Option EndpointCandidate × List EndpointCandidate :=
  let selected := (found.filter fun candidate => candidate.rejectedReasons.isEmpty).insertionSort
    fun first second => rank score view request second ≤ rank score view request first
  (selected.head?,
    (found.filter fun candidate => !candidate.rejectedReasons.isEmpty) ++ selected.tail)

/-- The target of a candidate that was chosen by its score. -/
def scoredTarget (request : RoutingRequest) (toolKey : Plain) (selected : EndpointCandidate)
    (others : List EndpointCandidate) : ExecutionTarget where
  targetId := selected.endpointId
  targetType := selected.targetType
  endpoint := some selected.endpoint
  endpointCapability := some selected.capability
  offlinePolicy := request.offlinePolicy
  routingDecision := some
    { mode := .scored, toolKey := toolKey, selectedEndpointId := selected.endpointId
      candidateCount := some (others.length + 1)
      rejectedCandidates := (others.take 8).map fun other =>
        (other.endpointId, other.rejectedReasons) }

/-- The target of a request that waits: the endpoint of the first listed row. -/
def waitingTarget (view : View) (request : RoutingRequest) (toolKey : Plain)
    (rows : List CapabilityRow) : Option ExecutionTarget :=
  if waits request.offlinePolicy then
    rows.head?.bind fun row => (view.registry.endpoints.get row.1.1).map fun endpoint =>
      { targetId := row.1.1, targetType := .endpoint, endpoint := some endpoint
        endpointCapability := some row.2, offlinePolicy := request.offlinePolicy
        routingDecision := some
          { mode := .offlinePolicy, toolKey := toolKey, selectedEndpointId := row.1.1
            candidateCount := some rows.length } }
  else none

/-- The path of a tool that endpoints run, without a named endpoint. -/
def resolveUnnamed (view : View) (request : RoutingRequest)
    (workspace : Option (WorkspaceId × Workspace)) (toolKey : Plain) :
    Except ToolRouterError ExecutionTarget :=
  let rows := order.sort (view.registry.enabledForTool toolKey)
  match selectBestEndpointCandidate score view request
      (candidates view request workspace toolKey rows) with
  | (some selected, others) => .ok (scoredTarget request toolKey selected others)
  | (none, _) =>
      match waitingTarget view request toolKey rows with
      | some target => .ok target
      | none =>
          .error (routerError "execution_target_unavailable"
            ("No execution target can run tool: " ++ toolKey.1) [] true)

/-- The path of a tool the core runs. -/
def coreTarget (view : View) : ExecutionTarget where
  targetId := coreLocal
  targetType := .core
  endpoint := view.registry.endpoints.get coreLocal

/-- `_resolve_execution_target_uncached`. -/
def resolveUncached (view : View) (request : RoutingRequest) :
    Except ToolRouterError ExecutionTarget :=
  let toolKey := request.normalizedToolKey
  let workspace := view.registry.getByWorkspaceId request.workspaceId
  if toolKey = blank then
    .error (routerError "tool_key_required" "Tool key is required" [] false)
  else if workspaceAllowsTool workspace toolKey = false then
    .error (routerError "workspace_tool_not_allowed"
      ("Workspace does not allow tool: " ++ toolKey.1)
      [("workspace_id", .str request.workspaceId), ("tool_key", .str toolKey.1)] false)
  else if request.requestedEndpointId ≠ blank then
    resolveNamed view request toolKey request.requestedEndpointId
  else if view.isCoreTool toolKey then .ok (coreTarget view)
  else resolveUnnamed score order view request workspace toolKey

end

/-! ## What a resolution establishes -/

/-- What a request asks, as a view reads it. -/
structure Query where
  toolKey : Plain
  endpointId : Plain
  workspace : Option (WorkspaceId × Workspace)
  mayWait : Bool
  confirmed : Bool

/-- What the request asks in this view. -/
def RoutingRequest.query (request : RoutingRequest) (view : View) : Query where
  toolKey := request.normalizedToolKey
  endpointId := request.requestedEndpointId
  workspace := view.registry.getByWorkspaceId request.workspaceId
  mayWait := waits request.offlinePolicy
  confirmed := request.confirmed

theorem query_workspace (request : RoutingRequest) (view : View) :
    (request.query view).workspace = view.registry.getByWorkspaceId request.workspaceId := by
  unfold RoutingRequest.query
  rfl

/-- The named endpoint can take a call of the tool. -/
def NamedServes (view : View) (toolKey endpointId : Plain) (mayWait : Bool) : Prop :=
  ∃ endpoint, view.registry.endpoints.get endpointId = some endpoint ∧
    (endpointId = coreLocal ∨
      (view.registry.enabledCapability endpointId toolKey).isSome = true ∧
        (targetTypeOf endpoint = .endpoint →
          view.endpointCanDispatch endpointId endpoint mayWait = true))

/-- The endpoint has the tool enabled, and either nothing speaks against it or the
request may wait. -/
def Serves (view : View) (query : Query) (endpointId : Plain) : Prop :=
  ∃ endpoint capability, view.registry.endpoints.get endpointId = some endpoint ∧
    view.registry.enabledCapability endpointId query.toolKey = some capability ∧
    (query.mayWait = true ∨ rejectedReasons view query.workspace query.toolKey endpointId endpoint
      capability query.mayWait query.confirmed = [])

/-- The decision to send what is asked to this target is still a valid one. -/
structure Stands (view : View) (query : Query) (targetId : Plain) : Prop where
  keyed : query.toolKey ≠ blank
  allowed : workspaceAllowsTool query.workspace query.toolKey = true
  named : query.endpointId ≠ blank →
    NamedServes view query.toolKey query.endpointId query.mayWait
  served : query.endpointId = blank → view.isCoreTool query.toolKey = false →
    Serves view query targetId

theorem enabledCapability_some_iff {registry : Registry} {endpointId toolKey : Plain}
    {capability : EndpointCapability} :
    registry.enabledCapability endpointId toolKey = some capability ↔
      registry.capabilities.get (endpointId, toolKey) = some capability ∧
        capability.enabled = true := by
  simp [Registry.enabledCapability, Option.filter_eq_some_iff]

/-- The listed rows of a tool are its enabled capabilities. -/
theorem mem_enabledForTool {registry : Registry} {toolKey : Plain} {row : CapabilityRow} :
    row ∈ registry.enabledForTool toolKey ↔
      row.1.2 = toolKey ∧ registry.enabledCapability row.1.1 toolKey = some row.2 := by
  obtain ⟨⟨endpointId, key⟩, capability⟩ := row
  simp only [Registry.enabledForTool, List.mem_filter, Bool.and_eq_true, decide_eq_true_eq,
    enabledCapability_some_iff, Dict.get_some_iff]
  constructor
  · rintro ⟨stored, rfl, enabled⟩
    exact ⟨rfl, stored, enabled⟩
  · rintro ⟨rfl, stored, enabled⟩
    exact ⟨stored, rfl, enabled⟩

section
variable {Score : Type} [LinearOrder Score]
  {score : View → RoutingRequest → EndpointCandidate → Score} {order : CapabilityOrder}
  {view : View} {request : RoutingRequest} {workspace : Option (WorkspaceId × Workspace)}
  {toolKey endpointId : Plain} {target : ExecutionTarget}

/-- The rows of a tool in the order of a query. -/
theorem mem_sorted {row : CapabilityRow} :
    row ∈ order.sort (view.registry.enabledForTool toolKey) ↔
      row.1.2 = toolKey ∧ view.registry.enabledCapability row.1.1 toolKey = some row.2 :=
  (order.perm _).mem_iff.trans mem_enabledForTool

/-- The best candidate is a candidate nothing speaks against. -/
theorem selectBest_some {found : List EndpointCandidate} {selected : EndpointCandidate}
    (chosen : (selectBestEndpointCandidate score view request found).1 = some selected) :
    selected ∈ found ∧ selected.rejectedReasons = [] := by
  have listed := List.mem_of_mem_head? chosen
  rw [(List.perm_insertionSort _ _).mem_iff, List.mem_filter] at listed
  exact ⟨listed.1, List.isEmpty_iff.mp listed.2⟩

/-- There is no best candidate exactly when something speaks against each. -/
theorem selectBest_none_iff {found : List EndpointCandidate} :
    (selectBestEndpointCandidate score view request found).1 = none ↔
      ∀ candidate ∈ found, candidate.rejectedReasons ≠ [] := by
  rw [selectBestEndpointCandidate, List.head?_eq_none_iff, ← List.length_eq_zero_iff,
    (List.perm_insertionSort _ _).length_eq, List.length_eq_zero_iff, List.filter_eq_nil_iff]
  simp

/-- A candidate comes from a row whose endpoint is stored. -/
theorem mem_candidates {rows : List CapabilityRow} {candidate : EndpointCandidate} :
    candidate ∈ candidates view request workspace toolKey rows ↔
      ∃ row ∈ rows, ∃ endpoint, view.registry.endpoints.get row.1.1 = some endpoint ∧
        candidate =
          { endpointId := row.1.1, endpoint := endpoint, capability := row.2
            targetType := targetTypeOf endpoint
            rejectedReasons := rejectedReasons view workspace toolKey row.1.1 endpoint row.2
              (waits request.offlinePolicy) request.confirmed } := by
  simp only [candidates, List.mem_filterMap, Option.map_eq_some_iff, @eq_comm _ candidate]

/-- Something speaks against every endpoint that has the tool. -/
def NoneEligible (view : View) (query : Query) : Prop :=
  ∀ endpointId endpoint capability, view.registry.endpoints.get endpointId = some endpoint →
    view.registry.enabledCapability endpointId query.toolKey = some capability →
    rejectedReasons view query.workspace query.toolKey endpointId endpoint capability
      query.mayWait query.confirmed ≠ []

theorem candidates_rejected_iff :
    (∀ candidate ∈ candidates view request (request.query view).workspace
        (request.query view).toolKey
        (order.sort (view.registry.enabledForTool (request.query view).toolKey)),
      candidate.rejectedReasons ≠ []) ↔ NoneEligible view (request.query view) := by
  constructor
  · intro rejected endpointId endpoint capability stored enabled
    exact rejected _ (mem_candidates.mpr ⟨((endpointId, (request.query view).toolKey), capability),
      mem_sorted.mpr ⟨rfl, enabled⟩, endpoint, stored, rfl⟩)
  · intro noneEligible candidate member
    obtain ⟨row, listed, endpoint, stored, rfl⟩ := mem_candidates.mp member
    exact noneEligible row.1.1 endpoint row.2 stored (mem_sorted.mp listed).2

/-- The target of a waiting request is the endpoint of the first listed row. -/
theorem waitingTarget_some_iff {rows : List CapabilityRow} :
    (∃ target, waitingTarget view request toolKey rows = some target ∧
        target.targetId = endpointId ∧ target.targetType = .endpoint) ↔
      waits request.offlinePolicy = true ∧ ∃ row endpoint, rows.head? = some row ∧
        row.1.1 = endpointId ∧ view.registry.endpoints.get row.1.1 = some endpoint := by
  unfold waitingTarget
  constructor
  · rintro ⟨target, waiting, rfl, _⟩
    split at waiting
    · next mayWait =>
      obtain ⟨row, first, found⟩ := Option.bind_eq_some_iff.mp waiting
      obtain ⟨endpoint, stored, rfl⟩ := Option.map_eq_some_iff.mp found
      exact ⟨mayWait, row, endpoint, first, rfl, stored⟩
    · cases waiting
  · rintro ⟨mayWait, row, endpoint, first, rfl, stored⟩
    rw [if_pos mayWait, first, Option.bind_some, stored, Option.map_some]
    exact ⟨_, rfl, rfl, rfl⟩

/-- A target found without a named endpoint was either chosen by its score, and then
nothing speaks against it, or is the one a waiting request falls back to. -/
theorem resolveUnnamed_ok
    (resolved : resolveUnnamed score order view request (request.query view).workspace
      (request.query view).toolKey = .ok target) :
    (∃ endpoint capability, view.registry.endpoints.get target.targetId = some endpoint ∧
      view.registry.enabledCapability target.targetId (request.query view).toolKey =
        some capability ∧
      rejectedReasons view (request.query view).workspace (request.query view).toolKey
        target.targetId endpoint capability (request.query view).mayWait
        (request.query view).confirmed = []) ∨
    (NoneEligible view (request.query view) ∧
      waitingTarget view request (request.query view).toolKey
        (order.sort (view.registry.enabledForTool (request.query view).toolKey)) =
          some target) := by
  unfold resolveUnnamed at resolved
  dsimp only at resolved
  split at resolved
  · next selected others chosen =>
    cases resolved
    obtain ⟨member, accepted⟩ := selectBest_some (congrArg Prod.fst chosen)
    obtain ⟨row, listed, endpoint, stored, rfl⟩ := mem_candidates.mp member
    exact Or.inl ⟨endpoint, row.2, stored, (mem_sorted.mp listed).2, accepted⟩
  · next others unchosen =>
    have rejected := candidates_rejected_iff.mp
      (selectBest_none_iff.mp (congrArg Prod.fst unchosen))
    split at resolved
    · next waiting =>
      cases resolved
      exact Or.inr ⟨rejected, waiting⟩
    · cases resolved

/-- Where nothing is eligible, only the waiting target is left. -/
theorem resolveUnnamed_of_noneEligible (noneEligible : NoneEligible view (request.query view))
    (waiting : waitingTarget view request (request.query view).toolKey
      (order.sort (view.registry.enabledForTool (request.query view).toolKey)) = some target) :
    resolveUnnamed score order view request (request.query view).workspace
      (request.query view).toolKey = .ok target := by
  have unchosen : (selectBestEndpointCandidate score view request
      (candidates view request (request.query view).workspace (request.query view).toolKey
        (order.sort (view.registry.enabledForTool (request.query view).toolKey)))).1 = none :=
    selectBest_none_iff.mpr (candidates_rejected_iff.mpr noneEligible)
  unfold resolveUnnamed
  dsimp only
  split
  · next selected others chosen =>
    rw [chosen] at unchosen
    cases unchosen
  · rw [waiting]

/-- An eligible endpoint is enough for a target. -/
theorem resolveUnnamed_of_eligible (eligible : ¬ NoneEligible view (request.query view)) :
    ∃ target, resolveUnnamed score order view request (request.query view).workspace
      (request.query view).toolKey = .ok target := by
  unfold resolveUnnamed
  dsimp only
  split
  · exact ⟨_, rfl⟩
  · next others unchosen =>
    exact absurd (candidates_rejected_iff.mp (selectBest_none_iff.mp (congrArg Prod.fst unchosen)))
      eligible

/-- What a named endpoint resolves to. -/
theorem resolveNamed_ok (resolved : resolveNamed view request toolKey endpointId = .ok target) :
    NamedServes view toolKey endpointId (waits request.offlinePolicy) ∧
      target.targetId = endpointId ∧ (target.targetType = .core ↔ endpointId = coreLocal) := by
  unfold resolveNamed at resolved
  split at resolved
  · cases resolved
  · next endpoint stored =>
    dsimp only at resolved
    split at resolved
    · next isCore =>
      cases resolved
      exact ⟨⟨endpoint, stored, Or.inl isCore⟩, isCore.symm, by simp [isCore]⟩
    · next notCore =>
      split at resolved
      · cases resolved
      · next capable =>
        split at resolved
        · cases resolved
        · next reachable =>
          cases resolved
          have enabled := Option.isSome_iff_ne_none.mpr (by simpa using capable)
          refine ⟨⟨endpoint, stored, Or.inr ⟨enabled, fun isEndpoint => ?_⟩⟩, rfl, ?_⟩
          · by_contra unreachable
            exact reachable ⟨isEndpoint, Bool.eq_false_iff.mpr unreachable⟩
          · dsimp only
            refine iff_of_false ?_ notCore
            unfold targetTypeOf
            split <;> simp

/-- A named endpoint that can take the call is resolved to. -/
theorem resolveNamed_of_serves
    (serves : NamedServes view toolKey endpointId (waits request.offlinePolicy)) :
    ∃ target, resolveNamed view request toolKey endpointId = .ok target := by
  obtain ⟨endpoint, stored, isCore | ⟨capable, reachable⟩⟩ := serves
  · unfold resolveNamed
    rw [stored]
    dsimp only
    rw [if_pos isCore]
    exact ⟨_, rfl⟩
  · unfold resolveNamed
    rw [stored]
    dsimp only
    split
    · exact ⟨_, rfl⟩
    · rw [if_neg (by simpa [Option.isSome_iff_ne_none] using capable), if_neg]
      · exact ⟨_, rfl⟩
      · rintro ⟨isEndpoint, unreachable⟩
        rw [reachable isEndpoint] at unreachable
        cases unreachable

/-- The resolver on a request for a tool the workspace allows. -/
theorem resolveUncached_of_allowed (keyed : (request.query view).toolKey ≠ blank)
    (allowed : workspaceAllowsTool (request.query view).workspace (request.query view).toolKey =
      true) :
    resolveUncached score order view request =
      if (request.query view).endpointId ≠ blank then
        resolveNamed view request (request.query view).toolKey (request.query view).endpointId
      else if view.isCoreTool (request.query view).toolKey then .ok (coreTarget view)
      else resolveUnnamed score order view request (request.query view).workspace
        (request.query view).toolKey := by
  unfold RoutingRequest.query at keyed allowed ⊢
  dsimp only at keyed allowed ⊢
  unfold resolveUncached
  dsimp only
  rw [if_neg keyed, if_neg (by simp [allowed])]

/-- A resolution is only made for a tool, and only for one the workspace allows. -/
theorem resolveUncached_ok (resolved : resolveUncached score order view request = .ok target) :
    (request.query view).toolKey ≠ blank ∧
      workspaceAllowsTool (request.query view).workspace (request.query view).toolKey = true := by
  unfold resolveUncached at resolved
  unfold RoutingRequest.query
  dsimp only at resolved ⊢
  split at resolved
  · cases resolved
  · next keyed =>
    split at resolved
    · cases resolved
    · next allowed => exact ⟨keyed, Bool.ne_false_iff.mp allowed⟩

/-- What the resolver decides stands. -/
theorem resolveUncached_stands (resolved : resolveUncached score order view request = .ok target) :
    Stands view (request.query view) target.targetId := by
  obtain ⟨keyed, allowed⟩ := resolveUncached_ok resolved
  rw [resolveUncached_of_allowed keyed allowed] at resolved
  refine ⟨keyed, allowed, fun named => ?_, fun unnamed remote => ?_⟩
  · rw [if_pos named] at resolved
    exact (resolveNamed_ok resolved).1
  · rw [if_neg (by simp [unnamed]), if_neg (by simp [remote])] at resolved
    rcases resolveUnnamed_ok resolved with
      ⟨endpoint, capability, stored, enabled, accepted⟩ | ⟨_, waiting⟩
    · exact ⟨endpoint, capability, stored, enabled, Or.inr accepted⟩
    · unfold waitingTarget at waiting
      split at waiting
      · next mayWait =>
        obtain ⟨row, first, found⟩ := Option.bind_eq_some_iff.mp waiting
        obtain ⟨endpoint, stored, rfl⟩ := Option.map_eq_some_iff.mp found
        exact ⟨endpoint, row.2, stored, (mem_sorted.mp (List.mem_of_mem_head? first)).2,
          Or.inl mayWait⟩
      · cases waiting

/-- Where a decision stands, the resolver finds a target, in whatever order the rows of
the tool are listed: the endpoint of the decision is one. -/
theorem Stands.resolves {targetId : Plain} (referenced : Referenced view.registry)
    (stands : Stands view (request.query view) targetId) :
    ∃ target, resolveUncached score order view request = .ok target := by
  rw [resolveUncached_of_allowed stands.keyed stands.allowed]
  by_cases unnamed : (request.query view).endpointId = blank
  · rw [if_neg (by simp [unnamed])]
    by_cases core : view.isCoreTool (request.query view).toolKey = true
    · rw [if_pos core]
      exact ⟨_, rfl⟩
    · rw [if_neg core]
      obtain ⟨endpoint, capability, stored, enabled, waiting | accepted⟩ :=
        stands.served unnamed (by simpa using core)
      · by_cases noneEligible : NoneEligible view (request.query view)
        · have listed : ((targetId, (request.query view).toolKey), capability) ∈
              order.sort (view.registry.enabledForTool (request.query view).toolKey) :=
            mem_sorted.mpr ⟨rfl, enabled⟩
          obtain ⟨row, first⟩ := Option.isSome_iff_exists.mp
            (List.isSome_head?.mpr (List.ne_nil_of_mem listed))
          have present := referenced row.1.1 (request.query view).toolKey row.2
            (enabledCapability_some_iff.mp (mem_sorted.mp (List.mem_of_mem_head? first)).2).1
          obtain ⟨held, found⟩ := Option.ne_none_iff_exists'.mp present
          obtain ⟨target, chosen, _⟩ := waitingTarget_some_iff.mpr
            ⟨waiting, row, held, first, rfl, found⟩
          exact ⟨target, resolveUnnamed_of_noneEligible noneEligible chosen⟩
        · exact resolveUnnamed_of_eligible noneEligible
      · exact resolveUnnamed_of_eligible fun noneEligible =>
          noneEligible targetId endpoint capability stored enabled accepted
  · rw [if_pos unnamed]
    exact resolveNamed_of_serves (stands.named unnamed)

end

end MeetYou.ToolRouting
