import Mathlib.Data.List.Infix
import MeetYou.ParallelTools

/-!
# Tools on a read-only route

A call of a tool first asks the catalog of endpoint tools in the route context. The catalog
was filled when the tools were listed, from the capabilities of the endpoints of that time. A
tool of the catalog is handed to the router. Any other tool is first authorised: the route's
bundle or servers have to admit it, and on a read-only route its action risk has to be `read`.
That risk comes from a table of names and, for names that are not in it, from parts of the
name. The risk that the schema of a tool declares is registered as metadata and is not asked.

So a tool that runs has a reading risk where the table and the schema agree on it, and where
the endpoint's capability still has the risk it was listed with.

Whether the router accepts a dispatch, the digest in the name of a catalog tool, the safety
checker for commands and the trusted paths are given from outside.
-/

namespace MeetYou.ReadOnlyRoutes

open Text
open ParallelTools (endpointActionRisk)

/-! ## Risks -/

/-- `_DEFAULT_TOOL_ACTION_RISKS` -/
def defaultToolActionRisks : List (String × String) :=
  [("exec_core_cmd", "destructive"), ("exec_sys_cmd", "destructive"), ("ask_human", "read"),
    ("get_current_system_time", "read"), ("get_sys_vitals", "read"),
    ("get_background_status", "read"), ("manage_heartbeat_settings", "local_write"),
    ("restart_core", "destructive"), ("emit_progress_notice", "local_write"),
    ("list_active_endpoints", "read"), ("list_endpoint_tool_targets", "read"),
    ("send_endpoint_message", "external_write"), ("remember_knowledge", "local_write"),
    ("search_memory", "read"), ("manage_memories", "local_write"),
    ("switch_workspace", "local_write"), ("search_web", "read"), ("read_web_page", "read"),
    ("research_topic", "read"), ("inspect_page", "read"), ("track_source_updates", "read"),
    ("search_knowledge", "read"), ("manage_tasks", "local_write"),
    ("manage_scheduled_jobs", "local_write"), ("list_skills", "read"), ("load_skill", "read"),
    ("create_skill", "local_write"), ("manage_skill", "local_write"),
    ("analyze_workspace", "read"), ("read_local_documents", "read"),
    ("write_local_document", "local_write"), ("rewrite_local_document", "local_write"),
    ("compile_report", "read"), ("manage_schedule", "external_write"),
    ("draft_message", "external_write"), ("meeting_brief", "local_write"),
    ("sync_notes", "local_write"), ("build_study_plan", "read"),
    ("extract_learning_points", "read"), ("quiz_me", "read"), ("generate_flashcards", "read"),
    ("track_mastery", "local_write"), ("summarize_text", "read"), ("organize_notes", "read"),
    ("extract_action_items", "read")]

/-- One of the tokens is a part of the text. -/
def holdsToken (tokens : List String) (text : String) : Bool :=
  tokens.any fun token => decide (token.toList <:+: text.toList)

/-- `get_tool_action_risk` -/
def getToolActionRisk (toolName : String) : String :=
  match defaultToolActionRisks.lookup toolName with
  | some risk => risk
  | none =>
    if holdsToken ["delete", "remove", "erase"] (lowerWord toolName) then "destructive"
    else if holdsToken ["write", "create", "append", "move", "rename"] (lowerWord toolName) then
      "local_write"
    else "read"

/-! ## The registry -/

/-- A tool's schema: its name and the `action_risk` of its metadata. -/
structure ToolSchema where
  name : String
  actionRisk : Option String

/-- The tools of Core and of its MCP servers. -/
structure ToolRegistry where
  supportedFuncs : List String
  /-- The MCP tools with their servers. -/
  toolMap : Dict String String
  commonTools : List ToolSchema
  chainTools : List ToolSchema
  memoryTools : List ToolSchema
  backgroundTools : List ToolSchema
  webTools : List ToolSchema
  mcpTools : List ToolSchema

/-- `has_builtin` -/
def ToolRegistry.hasBuiltin (registry : ToolRegistry) (toolName : String) : Bool :=
  toolName ∈ registry.supportedFuncs

/-- `has_mcp` -/
def ToolRegistry.hasMcp (registry : ToolRegistry) (toolName : String) : Bool :=
  (registry.toolMap.get toolName).isSome

/-- `get_mcp_server` -/
def ToolRegistry.getMcpServer (registry : ToolRegistry) (toolName : String) : String :=
  (registry.toolMap.get toolName).getD ""

/-- `_tool_schema_by_name` over the sections that `get_tool_capability_metadata` names. -/
def ToolRegistry.toolSchemaByName (registry : ToolRegistry) (toolName : String) :
    Option ToolSchema :=
  (registry.commonTools ++ registry.chainTools ++ registry.memoryTools ++
    registry.backgroundTools ++ registry.webTools ++ registry.mcpTools).find?
      fun schema => schema.name = toolName

/-- The risk in the schema metadata of `get_tool_capability_metadata`. -/
def ToolRegistry.declaredRisk (registry : ToolRegistry) (toolName : String) : Option String :=
  (registry.toolSchemaByName (strip toolName)).bind ToolSchema.actionRisk

/-! ## Endpoints -/

/-- A row of a capability, with the parts of `meta` and `constraints` that a listing reads. An
absent list is no list in the source. -/
structure CatalogCapability where
  capabilityId : String
  toolKey : String
  riskLevel : String
  requiresConfirmation : Bool
  enabled : Bool
  /-- `auto_inject` of the visibility, or of `meta` itself. -/
  autoInject : Option Bool
  modes : Option (List String)
  workspaceIds : Option (List String)
  addressTypes : Option (List String)

/-- An endpoint, as the catalog lists it. -/
structure CatalogEndpoint where
  endpointId : String
  providerType : String
  status : String
  workspaceScope : List String
  capabilities : List CatalogCapability

/-- An entry of the route's catalog. -/
structure CatalogTool where
  endpointId : String
  capabilityId : String
  toolKey : String
  riskLevel : String
  requiresConfirmation : Bool

/-- What a route may do. -/
structure AuthorizationPolicy where
  readOnly : Bool
  policySources : List String

/-- The route of a turn. -/
structure RouteContext where
  toolBundle : List String
  mcpServers : List String
  currentMode : String
  workspaceId : String
  endpointId : String
  addressType : String
  disableTools : Bool
  authorizationPolicy : Option AuthorizationPolicy
  /-- `capability_set["authorization"]` -/
  capabilitySetAuthorization : Option AuthorizationPolicy
  endpointToolCatalog : Dict String CatalogTool

/-- What `call_tool` finds in the core. Without a core domain there are no endpoints. -/
structure Core where
  registry : ToolRegistry
  endpoints : Option (List CatalogEndpoint)
  /-- Why the router refuses to dispatch a tool key to an endpoint from a workspace, if it
  does: the code and the message of its error. -/
  routerRefuses : Option (String → String → String → Option (String × String))
  commandSafetyChecker : Option (String → String)
  localCapabilityDispatcherAvailable : Bool
  trustedWritePath : String → Bool
  dynamicName : String → String → String → String

/-- The capability that an endpoint has for a tool key. -/
def Core.capability (core : Core) (endpointId toolKey : String) : Option CatalogCapability :=
  ((core.endpoints.getD []).find? fun endpoint => strip endpoint.endpointId = endpointId).bind
    fun endpoint => endpoint.capabilities.find? fun capability =>
      capability.enabled && strip capability.toolKey = toolKey

/-! ## Authorisation -/

/-- The policy of the route, or that of its capability set. -/
def resolveAuthorizationPolicy (route : RouteContext) : AuthorizationPolicy :=
  match route.authorizationPolicy with
  | some policy => policy
  | none => route.capabilitySetAuthorization.getD ⟨false, []⟩

/-- The texts without blanks at their ends that are not empty. -/
def normalizedSet (values : List String) : List String :=
  (values.map strip).filter fun value => value ≠ ""

/-- The tool is among those of the route. -/
def isToolAllowed (core : Core) (route : RouteContext) (toolName : String) : Bool :=
  if normalizedSet route.toolBundle ≠ [] then decide (toolName ∈ normalizedSet route.toolBundle)
  else if normalizedSet route.mcpServers ≠ [] ∧ core.registry.hasMcp toolName then
    decide (strip (core.registry.getMcpServer toolName) ∈ normalizedSet route.mcpServers)
  else true

/-- What is decided on a tool, with its reasons. -/
structure AuthorizationDecision where
  toolName : String
  actionRisk : String
  allowed : Bool
  visibility : String
  requiresConfirmation : Bool := false
  confirmationKind : String := ""
  writeBoundary : String := "not_applicable"
  readOnly : Bool := false
  policySources : List String := []
  reasonCode : String := ""
  reasonMessage : String := ""

/-- The arguments of a call: a dictionary, nothing, or something else. -/
inductive ToolArguments
  | missing
  | object (fields : Fields)
  | other

/-- `bool(tool_args.get(name, default))` -/
def flag (arguments : Fields) (name : String) (default : Bool) : Bool :=
  match arguments.get name with
  | none => default
  | some value => value.truthy

/-- The text under a name, of arguments that hold a text there. -/
def textArgument (arguments : Fields) (name : String) : String :=
  match arguments.get name with
  | some (.str text) => text
  | _ => ""

section
variable (core : Core) (toolName : String) (arguments : Fields) (actionRisk : String)
  (readOnly : Bool) (policySources : List String)

/-- `_decide_command`; the checker gives the status of a command. -/
def decideCommand : Option AuthorizationDecision :=
  if toolName ≠ "exec_sys_cmd" then none
  else core.commandSafetyChecker.map fun checker =>
    let status := lowerWord (strip (checker (textArgument arguments "cmd")))
    let decision : AuthorizationDecision :=
      { toolName, actionRisk, allowed := true, visibility := "visible", readOnly, policySources }
    if status = "blocked" then
      { decision with
        allowed := false
        reasonCode := "tool_command_blocked"
        reasonMessage := "Tool call was blocked by the command safety policy." }
    else if status = "needs_confirm" ∧ flag arguments "confirmed" false = false then
      { decision with
        allowed := false
        requiresConfirmation := true
        confirmationKind := "command_policy"
        reasonCode := "tool_confirmation_required"
        reasonMessage :=
          "Tool call requires explicit confirmation before executing a risky command." }
    else
      { decision with
        requiresConfirmation := status = "needs_confirm"
        confirmationKind := if status = "needs_confirm" then "command_policy" else "" }

/-- `_decide_write_boundary` -/
def decideWriteBoundary : Option AuthorizationDecision :=
  if toolName ≠ "write_local_document" ∧ toolName ≠ "rewrite_local_document" then none
  else
    let path := strip (textArgument arguments "path")
    let preview := flag arguments "preview" true
    let confirmed := flag arguments "confirmed" false
    let managed := core.localCapabilityDispatcherAvailable
    let trusted := core.trustedWritePath path
    let decision : AuthorizationDecision :=
      { toolName, actionRisk, allowed := true, visibility := "visible", readOnly, policySources
        writeBoundary := if preview then "preview" else if managed then "endpoint_tool_managed"
          else if trusted then "trusted_root" else "untrusted_path" }
    if preview = false ∧ confirmed = false then
      some { decision with
        allowed := false
        requiresConfirmation := true
        confirmationKind := "document_write"
        reasonCode := "tool_confirmation_required"
        reasonMessage :=
          "Tool call requires explicit confirmation before writing a local document." }
    else if preview = false ∧ managed = false ∧ trusted = false then
      some { decision with
        allowed := false
        reasonCode := "tool_write_boundary_violation"
        reasonMessage :=
          "Tool call was denied because the write target is outside trusted roots." }
    else
      some { decision with
        requiresConfirmation := !preview
        confirmationKind := if preview then "" else "document_write" }

end

/-- `ToolAuthorizationGateway.decide` -/
def gatewayDecide (core : Core) (route : RouteContext) (toolName : String)
    (arguments : Fields) : AuthorizationDecision :=
  let actionRisk := getToolActionRisk toolName
  let policy := resolveAuthorizationPolicy route
  let policySources := normalizedSet policy.policySources
  let readOnly := policy.readOnly
  if isToolAllowed core route toolName = false then
    { toolName, actionRisk, allowed := false, visibility := "denied_by_route", readOnly
      policySources
      reasonCode := "tool_not_allowed"
      reasonMessage := "Tool call was denied by the current route policy." }
  else if readOnly ∧ actionRisk ≠ "read" then
    { toolName, actionRisk, allowed := false, visibility := "visible", readOnly := true
      policySources
      reasonCode := "tool_readonly_violation"
      reasonMessage :=
        "Tool call was denied because the current mode or skill is read-only." }
  else match decideCommand core toolName arguments actionRisk readOnly policySources with
    | some decision => decision
    | none =>
      match decideWriteBoundary core toolName arguments actionRisk readOnly policySources with
      | some decision => decision
      | none => { toolName, actionRisk, allowed := true, visibility := "visible", readOnly
                  policySources }

/-! ## Listing -/

/-- A list of constraints admits a value when it has no entry, or the value or a star. -/
def admitsValue (values : Option (List String)) (value : String) : Bool :=
  match values with
  | none => true
  | some values =>
    normalizedSet values = [] || value ∈ normalizedSet values || "*" ∈ normalizedSet values

/-- `_endpoint_constraints_allow`. The policy is read from one of its two places. -/
def endpointConstraintsAllow (capability : CatalogCapability) (endpoint : CatalogEndpoint)
    (route : RouteContext) : Bool :=
  let workspaceId := strip route.workspaceId
  (match capability.modes with
    | none => true
    | some modes => normalizedSet modes = [] || strip route.currentMode ∈ normalizedSet modes) &&
  (workspaceId = "" || admitsValue (some endpoint.workspaceScope) workspaceId) &&
  (workspaceId = "" || admitsValue capability.workspaceIds workspaceId) &&
  admitsValue capability.addressTypes (strip route.addressType) &&
  !((route.authorizationPolicy.any AuthorizationPolicy.readOnly) &&
    endpointActionRisk capability.riskLevel ≠ "read")

/-- The capabilities that a listing offers, with their endpoints. -/
def offeredCapabilities (core : Core) (route : RouteContext) :
    List (CatalogEndpoint × CatalogCapability) :=
  let endpoints := core.endpoints.getD []
  match endpoints.find? fun endpoint => endpoint.endpointId = strip route.endpointId with
  | none => []
  | some origin =>
    if route.disableTools ∨ strip route.endpointId = "" then []
    else
      let provider := strip origin.providerType
      (endpoints.filter fun endpoint =>
        strip endpoint.endpointId ≠ "" &&
        (provider = "" || strip endpoint.providerType = provider) &&
        lowerWord (strip endpoint.status) ∈ ["online", "ready", "active"]).flatMap fun endpoint =>
          (endpoint.capabilities.filter fun capability =>
            capability.enabled && capability.autoInject.getD true &&
            endpointConstraintsAllow capability endpoint route &&
            strip capability.toolKey ≠ "").map fun capability => (endpoint, capability)

/-- The tool that is offered for a capability. -/
def catalogTool (endpoint : CatalogEndpoint) (capability : CatalogCapability) : CatalogTool where
  endpointId := strip endpoint.endpointId
  capabilityId := capability.capabilityId
  toolKey := strip capability.toolKey
  riskLevel := if capability.riskLevel = "" then "read" else capability.riskLevel
  requiresConfirmation := capability.requiresConfirmation

/-- A capability is put in the catalog under its name, unless a tool of that name is listed. -/
def listCapability (core : Core) (listed : List String × Dict String CatalogTool)
    (offer : CatalogEndpoint × CatalogCapability) : List String × Dict String CatalogTool :=
  let tool := catalogTool offer.1 offer.2
  let name := core.dynamicName tool.endpointId tool.capabilityId tool.toolKey
  if name ∈ listed.1 then listed else (listed.1 ++ [name], listed.2.set name tool)

/-- `_contextual_endpoint_tool_schemas`: the route with the tools in its catalog. -/
def listEndpointTools (core : Core) (existingNames : List String) (route : RouteContext) :
    RouteContext :=
  { route with
    endpointToolCatalog := ((offeredCapabilities core route).foldl (listCapability core)
      (existingNames, route.endpointToolCatalog)).2 }

/-! ## Calling -/

/-- What a call runs. -/
inductive ToolRun
  | builtin (toolName : String)
  | mcp (toolName server : String)
  | dispatch (endpointId toolKey : String)

/-- A tool was run, or an error was returned. -/
inductive ToolCallResult
  | ran (run : ToolRun)
  | failed (code message : String)

/-- `_resolve_endpoint_catalog_tool` -/
def resolveEndpointCatalogTool (toolName : String) (route : RouteContext) : Option CatalogTool :=
  route.endpointToolCatalog.get (strip toolName)

/-- `ToolExecutor.execute` -/
def execute (core : Core) (route : RouteContext) (toolName : String) (arguments : ToolArguments) :
    ToolCallResult :=
  let authorized (fields : Fields) : ToolCallResult :=
    let decision := gatewayDecide core route toolName fields
    if decision.allowed = false then .failed decision.reasonCode decision.reasonMessage
    else if core.registry.hasBuiltin toolName then .ran (.builtin toolName)
    else if core.registry.hasMcp toolName then
      .ran (.mcp toolName (core.registry.getMcpServer toolName))
    else .failed "tool_not_found" "Requested tool is not registered."
  match arguments with
  | .missing => authorized Dict.empty
  | .object fields => authorized fields
  | .other => .failed "tool_arguments_invalid" "Tool arguments must be a JSON object."

/-- `_call_endpoint_catalog_tool`, as far as the router's answer. -/
def callEndpointCatalogTool (core : Core) (route : RouteContext) (arguments : ToolArguments)
    (tool : CatalogTool) : ToolCallResult :=
  match core.routerRefuses with
  | none => .failed "tool_router_unavailable"
      "ToolRouter is unavailable for endpoint catalog tool dispatch."
  | some refuses =>
    match arguments with
    | .other => .failed "tool_arguments_invalid" "Tool arguments must be a JSON object."
    | _ =>
      match refuses (strip tool.endpointId) (strip tool.toolKey) (strip route.workspaceId) with
      | some (code, message) => .failed code message
      | none => .ran (.dispatch (strip tool.endpointId) (strip tool.toolKey))

/-- `ToolsManager.call_tool` -/
def callTool (core : Core) (route : RouteContext) (toolName : String)
    (arguments : ToolArguments) : ToolCallResult :=
  match resolveEndpointCatalogTool toolName route with
  | some tool => callEndpointCatalogTool core route arguments tool
  | none => execute core route toolName arguments

/-! ## What a listing leaves -/

section
variable {core : Core} {route : RouteContext}

/-- On a route whose policy forbids to write, what is offered has a reading risk. -/
theorem offered_reads {policy : AuthorizationPolicy}
    (given : route.authorizationPolicy = some policy) (readOnly : policy.readOnly = true)
    {offer : CatalogEndpoint × CatalogCapability} (member : offer ∈ offeredCapabilities core route) :
    endpointActionRisk offer.2.riskLevel = "read" := by
  unfold offeredCapabilities at member
  dsimp only at member
  split at member
  · cases member
  split at member
  · cases member
  obtain ⟨endpoint, _, inside⟩ := List.mem_flatMap.mp member
  obtain ⟨capability, kept, rfl⟩ := List.mem_map.mp inside
  have allowed := (List.mem_filter.mp kept).2
  simp only [endpointConstraintsAllow, Bool.and_eq_true, given, Option.any_some, readOnly,
    Bool.true_and, Bool.not_eq_true', decide_eq_false_iff_not, ne_eq, not_not] at allowed
  exact allowed.1.2.2

theorem catalogTool_risk (endpoint : CatalogEndpoint) (capability : CatalogCapability) :
    endpointActionRisk (catalogTool endpoint capability).riskLevel =
      endpointActionRisk capability.riskLevel := by
  unfold catalogTool
  dsimp only
  split
  case isTrue empty => rw [empty]; decide +kernel
  case isFalse => rfl

/-- Every tool of the catalog was offered, or was there before. -/
theorem get_listEndpointTools {existingNames : List String} {name : String} {tool : CatalogTool}
    (found : (listEndpointTools core existingNames route).endpointToolCatalog.get name =
      some tool) :
    route.endpointToolCatalog.get name = some tool ∨
      ∃ offer ∈ offeredCapabilities core route, tool = catalogTool offer.1 offer.2 := by
  have each : ∀ (offers : List (CatalogEndpoint × CatalogCapability))
      (listed : List String × Dict String CatalogTool),
      (offers.foldl (listCapability core) listed).2.get name = some tool →
        listed.2.get name = some tool ∨ ∃ offer ∈ offers, tool = catalogTool offer.1 offer.2 := by
    intro offers
    induction offers with
    | nil => exact fun _ => Or.inl
    | cons offer offers inductionHypothesis =>
      intro listed found
      rcases inductionHypothesis (listCapability core listed offer) found with
        stored | ⟨other, member, same⟩
      · unfold listCapability at stored
        dsimp only at stored
        split at stored
        · exact Or.inl stored
        · rcases Dict.get_of_set stored with ⟨_, same⟩ | ⟨_, before⟩
          · exact Or.inr ⟨offer, List.mem_cons_self, same.symm⟩
          · exact Or.inl before
      · exact Or.inr ⟨other, List.mem_cons_of_mem _ member, same⟩
  exact each _ _ found

/-- A listing under a policy that forbids to write leaves reading tools in the catalog. -/
theorem listed_reads {policy : AuthorizationPolicy}
    (given : route.authorizationPolicy = some policy) (readOnly : policy.readOnly = true)
    (fresh : route.endpointToolCatalog = Dict.empty) {existingNames : List String} {name : String}
    {tool : CatalogTool}
    (found : (listEndpointTools core existingNames route).endpointToolCatalog.get name =
      some tool) :
    endpointActionRisk tool.riskLevel = "read" := by
  rcases get_listEndpointTools found with before | ⟨offer, member, rfl⟩
  · rw [fresh] at before
    cases before
  · rw [catalogTool_risk]
    exact offered_reads given readOnly member

end

/-! ## What a call runs -/

/-- The risk registered for the tool of a name: of a catalog tool, the risk of the capability
that its endpoint has now; of any other, what its schema declares, and without a declaration
what its name stands for. -/
def registeredRisk (core : Core) (route : RouteContext) (toolName : String) : Option String :=
  match resolveEndpointCatalogTool toolName route with
  | some tool =>
      (core.capability (strip tool.endpointId) (strip tool.toolKey)).map fun capability =>
        endpointActionRisk capability.riskLevel
  | none => some ((core.registry.declaredRisk toolName).getD (getToolActionRisk toolName))

/-- If a call runs anything, the tool's registered risk is `read`. -/
def Reads (core : Core) (route : RouteContext) (toolName : String) (arguments : ToolArguments) :
    Prop :=
  ∀ run, callTool core route toolName arguments = .ran run →
    registeredRisk core route toolName = some "read"

/-- The arguments are a dictionary or missing. -/
def ToolArguments.Accepted : ToolArguments → Prop
  | .other => False
  | _ => True

/-- A catalog tool that the router takes still reads, and a registered tool that the route
admits and whose name stands for reading declares nothing else. -/
def Agreeing (core : Core) (route : RouteContext) (toolName : String)
    (arguments : ToolArguments) : Prop :=
  arguments.Accepted →
    match resolveEndpointCatalogTool toolName route with
    | some tool =>
        (core.routerRefuses.any fun refuses => (refuses (strip tool.endpointId)
          (strip tool.toolKey) (strip route.workspaceId)).isNone) = true →
          (core.capability (strip tool.endpointId) (strip tool.toolKey)).map
            (fun capability => endpointActionRisk capability.riskLevel) = some "read"
    | none =>
        isToolAllowed core route toolName = true →
          core.registry.hasBuiltin toolName = true ∨ core.registry.hasMcp toolName = true →
            getToolActionRisk toolName = "read" →
              ∀ declared ∈ core.registry.declaredRisk toolName, declared = "read"

section
variable {core : Core} {route : RouteContext} {toolName : String} {arguments : ToolArguments}

/-- A name that stands for reading is none of those with further checks. -/
theorem unchecked_of_read (reads : getToolActionRisk toolName = "read") :
    toolName ≠ "exec_sys_cmd" ∧ toolName ≠ "write_local_document" ∧
      toolName ≠ "rewrite_local_document" := by
  refine ⟨?_, ?_, ?_⟩ <;> rintro rfl <;> exact absurd reads (by decide +kernel)

/-- On a read-only route the gateway allows what the route admits and a name stands for. -/
theorem gatewayDecide_allowed (readOnly : (resolveAuthorizationPolicy route).readOnly = true)
    (fields : Fields) :
    (gatewayDecide core route toolName fields).allowed = true ↔
      isToolAllowed core route toolName = true ∧ getToolActionRisk toolName = "read" := by
  unfold gatewayDecide
  dsimp only
  by_cases admitted : isToolAllowed core route toolName = false
  · rw [if_pos admitted, admitted]
    simp
  rw [if_neg admitted]
  have admits : isToolAllowed core route toolName = true := by
    simpa using admitted
  by_cases reads : getToolActionRisk toolName = "read"
  · obtain ⟨noCommand, noWrite, noRewrite⟩ := unchecked_of_read reads
    have command : ∀ risk readOnly sources,
        decideCommand core toolName fields risk readOnly sources = none := by
      intro risk readOnly sources
      unfold decideCommand
      rw [if_pos noCommand]
    have boundary : ∀ risk readOnly sources,
        decideWriteBoundary core toolName fields risk readOnly sources = none := by
      intro risk readOnly sources
      unfold decideWriteBoundary
      rw [if_pos ⟨noWrite, noRewrite⟩]
    rw [if_neg (fun refused => refused.2 reads), command, boundary]
    exact ⟨fun _ => ⟨admits, reads⟩, fun _ => rfl⟩
  · rw [if_pos ⟨readOnly, reads⟩]
    exact ⟨fun allowed => (nomatch allowed), fun both => absurd both.2 reads⟩

/-- What the executor runs on a read-only route. -/
theorem execute_ran (readOnly : (resolveAuthorizationPolicy route).readOnly = true) :
    (∃ run, execute core route toolName arguments = .ran run) ↔
      arguments.Accepted ∧ isToolAllowed core route toolName = true ∧
        (core.registry.hasBuiltin toolName = true ∨ core.registry.hasMcp toolName = true) ∧
          getToolActionRisk toolName = "read" := by
  have authorized : ∀ fields : Fields,
      (∃ run, execute core route toolName (.object fields) = .ran run) ↔
        isToolAllowed core route toolName = true ∧
          (core.registry.hasBuiltin toolName = true ∨ core.registry.hasMcp toolName = true) ∧
            getToolActionRisk toolName = "read" := by
    intro fields
    have decided := @gatewayDecide_allowed core route toolName readOnly fields
    unfold execute
    dsimp only
    by_cases refused : (gatewayDecide core route toolName fields).allowed = false
    · rw [if_pos refused]
      rw [refused] at decided
      constructor
      · rintro ⟨_, ran⟩
        cases ran
      · rintro ⟨admitted, _, reads⟩
        exact nomatch decided.mpr ⟨admitted, reads⟩
    rw [if_neg refused]
    obtain ⟨admitted, reads⟩ := decided.mp (by simpa using refused)
    by_cases builtin : core.registry.hasBuiltin toolName = true
    · rw [if_pos builtin]
      exact ⟨fun _ => ⟨admitted, Or.inl builtin, reads⟩, fun _ => ⟨_, rfl⟩⟩
    rw [if_neg builtin]
    by_cases mcp : core.registry.hasMcp toolName = true
    · rw [if_pos mcp]
      exact ⟨fun _ => ⟨admitted, Or.inr mcp, reads⟩, fun _ => ⟨_, rfl⟩⟩
    rw [if_neg mcp]
    constructor
    · rintro ⟨_, ran⟩
      cases ran
    · rintro ⟨_, registered, _⟩
      exact (registered.elim builtin mcp).elim
  cases arguments with
  | missing =>
    rw [show execute core route toolName .missing = execute core route toolName
      (.object Dict.empty) from rfl, authorized]
    exact ⟨fun holds => ⟨trivial, holds⟩, And.right⟩
  | object fields =>
    rw [authorized]
    exact ⟨fun holds => ⟨trivial, holds⟩, And.right⟩
  | other =>
    constructor
    · rintro ⟨_, ran⟩
      cases ran
    · exact fun holds => holds.1.elim

/-- What a call of a catalog tool hands to the router. -/
theorem callEndpointCatalogTool_ran (tool : CatalogTool) :
    (∃ run, callEndpointCatalogTool core route arguments tool = .ran run) ↔
      arguments.Accepted ∧ (core.routerRefuses.any fun refuses => (refuses (strip tool.endpointId)
        (strip tool.toolKey) (strip route.workspaceId)).isNone) = true := by
  unfold callEndpointCatalogTool
  cases core.routerRefuses with
  | none => simp
  | some refuses =>
    dsimp only [Option.any_some]
    cases arguments with
    | other => simp [ToolArguments.Accepted]
    | missing =>
      dsimp only
      split
      case h_1 refused => simp [refused]
      case h_2 taken => simp [taken, ToolArguments.Accepted]
    | object fields =>
      dsimp only
      split
      case h_1 refused => simp [refused]
      case h_2 taken => simp [taken, ToolArguments.Accepted]

end

/-- On a read-only route a call runs reading tools exactly when the table and the declaration
agree on the tool, and the capability of a listed tool still reads. -/
theorem callTool_reads (listing calling : Core) (existingNames : List String)
    (route : RouteContext) (toolName : String) (arguments : ToolArguments)
    (readOnly : (resolveAuthorizationPolicy route).readOnly = true) :
    Reads calling (listEndpointTools listing existingNames route) toolName arguments ↔
      Agreeing calling (listEndpointTools listing existingNames route) toolName arguments := by
  have onRoute : (resolveAuthorizationPolicy
      (listEndpointTools listing existingNames route)).readOnly = true := readOnly
  generalize listEndpointTools listing existingNames route = listed at onRoute ⊢
  unfold Reads Agreeing registeredRisk callTool
  cases catalog : resolveEndpointCatalogTool toolName listed with
  | some tool =>
    dsimp only
    have runs := @callEndpointCatalogTool_ran calling listed arguments tool
    constructor
    · intro reads accepted taken
      obtain ⟨run, ran⟩ := runs.mpr ⟨accepted, taken⟩
      exact reads run ran
    · intro agree run ran
      obtain ⟨accepted, taken⟩ := runs.mp ⟨run, ran⟩
      exact agree accepted taken
  | none =>
    dsimp only
    have runs := @execute_ran calling listed toolName arguments onRoute
    constructor
    · intro reads accepted admitted registered byName declared declares
      obtain ⟨run, ran⟩ := runs.mpr ⟨accepted, admitted, registered, byName⟩
      have risk := reads run ran
      rw [Option.mem_def.mp declares] at risk
      exact Option.some.inj risk
    · intro agree run ran
      obtain ⟨accepted, admitted, registered, byName⟩ := runs.mp ⟨run, ran⟩
      have agreed := agree accepted admitted registered byName
      cases declares : calling.registry.declaredRisk toolName with
      | none => rw [Option.getD_none, byName]
      | some declared => rw [Option.getD_some, agreed declared declares]

/-! ## A registry with a writing tool -/

/-- A core that has two tools of its own: one reads, one sends to an endpoint. -/
def deliveryCore : Core where
  registry :=
    { supportedFuncs := ["search_web", "send_delivery_message"], toolMap := Dict.empty
      commonTools := [], chainTools := [], memoryTools := []
      backgroundTools := [⟨"send_delivery_message", some "external_write"⟩]
      webTools := [⟨"search_web", some "read"⟩], mcpTools := [] }
  endpoints := none
  routerRefuses := none
  commandSafetyChecker := none
  localCapabilityDispatcherAvailable := false
  trustedWritePath := fun _ => false
  dynamicName := fun _ _ toolKey => toolKey

def readOnlyRoute : RouteContext where
  toolBundle := []
  mcpServers := []
  currentMode := "general"
  workspaceId := "personal"
  endpointId := ""
  addressType := ""
  disableTools := false
  authorizationPolicy := some ⟨true, ["mode:general"]⟩
  capabilitySetAuthorization := none
  endpointToolCatalog := Dict.empty

/-- Without endpoints a listing leaves the route as it is. -/
theorem listEndpointTools_delivery :
    listEndpointTools deliveryCore [] readOnlyRoute = readOnlyRoute := rfl

/-- A search is declared to read and stands for reading. -/
theorem callTool_reads_search :
    Reads deliveryCore (listEndpointTools deliveryCore [] readOnlyRoute) "search_web" .missing := by
  have known : deliveryCore.registry.declaredRisk "search_web" = some "read" := by
    decide +kernel
  have uncatalogued : resolveEndpointCatalogTool "search_web" readOnlyRoute = none := rfl
  have agreeing : Agreeing deliveryCore (listEndpointTools deliveryCore [] readOnlyRoute)
      "search_web" .missing := by
    rw [listEndpointTools_delivery]
    unfold Agreeing
    rw [uncatalogued, known]
    intro _ _ _ _ declared declares
    exact (Option.some.inj declares).symm
  exact (callTool_reads deliveryCore deliveryCore [] readOnlyRoute "search_web" .missing rfl).mpr
    agreeing

/-- A delivery is sent on a read-only route: its name is not in the table. -/
theorem delivery_not_read :
    ¬ ∀ (listing calling : Core) (existingNames : List String) (route : RouteContext)
        (toolName : String) (arguments : ToolArguments),
        (resolveAuthorizationPolicy route).readOnly = true →
          Reads calling (listEndpointTools listing existingNames route) toolName arguments := by
  intro always
  have reads := always deliveryCore deliveryCore [] readOnlyRoute "send_delivery_message" .missing
    rfl
  rw [listEndpointTools_delivery] at reads
  have uncatalogued : resolveEndpointCatalogTool "send_delivery_message" readOnlyRoute = none :=
    rfl
  have declared : deliveryCore.registry.declaredRisk "send_delivery_message" =
      some "external_write" := by
    decide +kernel
  have byName : getToolActionRisk "send_delivery_message" = "read" := by
    decide +kernel
  obtain ⟨run, ran⟩ := (@execute_ran deliveryCore readOnlyRoute "send_delivery_message" .missing
    rfl).mpr ⟨trivial, rfl, Or.inl (by decide +kernel), byName⟩
  have registered := reads run (by
    unfold callTool
    rw [uncatalogued]
    exact ran)
  unfold registeredRisk at registered
  rw [uncatalogued, declared] at registered
  exact absurd registered (by decide)

end MeetYou.ReadOnlyRoutes
