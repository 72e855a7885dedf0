import MeetYou.EndpointSockets

/-!
# The endpoint registry

Workspaces with their tool policy, endpoints with their scope, the capabilities of
each endpoint and its memberships in workspaces. Rows are filed under their public
identifiers; the store's own row identifiers are generated with them and never
change, so nothing depends on which of the two a row refers by.

Every write of a workspace's policy normalizes it, so the stored policy is the
normalized one. Identifiers of endpoints and workspaces are stripped where they
are created, and a workspace without one is refused.

The operations of one endpoint leave the rest of the registry alone: `Touches`
says so once, and every operation below comes with the set it touches.
-/

namespace MeetYou.EndpointRegistry

open Text EndpointSockets

/-- The identifier of a workspace, which is never blank. -/
abbrev WorkspaceId := { text : Plain // text ≠ blank }

instance : LawfulBEq WorkspaceId := inferInstance

/-- The identifier a text names exactly, if it is one. -/
def workspaceId? (text : String) : Option WorkspaceId :=
  if exactly : strip text = text ∧ plain text ≠ blank then some ⟨plain text, exactly.2⟩ else none

/-- `[str(item or "").strip() for item in values if str(item or "").strip()]`. -/
def cleaned (values : List String) : List Plain :=
  (values.map plain).filter fun value => decide (value ≠ blank)

/-- `tool_policy`. -/
inductive ToolPolicy where
  | allowAll
  | allowlist
deriving DecidableEq

/-- `tool_target_routing_policy`. -/
inductive RoutingPolicy where
  | balanced
  | preferOriginEndpoint
  | strictPreferredEndpoint
deriving DecidableEq

/-- The endpoints a workspace prefers for its tools, and how strictly. -/
structure TargetPreferences where
  preferredTargetEndpointIds : List Plain := []
  preferredEndpointProviderTypes : List Plain := []
  toolTargetRoutingPolicy : RoutingPolicy := .balanced
deriving DecidableEq

/-- The governance part of a workspace's metadata, normalized. -/
structure Governance where
  toolPolicy : ToolPolicy := .allowAll
  allowedToolIds : List Plain := []
  targets : TargetPreferences := {}
  toolRoutingOverrides : Dict Plain TargetPreferences := Dict.empty

/-- A workspace, as far as routing reads it. -/
structure Workspace where
  status : String := "active"
  metadata : Governance := {}

/-- An endpoint, as far as routing reads it. -/
structure Endpoint where
  providerType : String
  workspaceScope : List String := []
  status : String := "active"
  priority : Int := 100
  metadata : Fields := Dict.empty

/-- A capability of an endpoint. -/
structure EndpointCapability where
  riskLevel : String := "read"
  requiresConfirmation : Bool := false
  enabled : Bool := true
  metadata : Fields := Dict.empty

/-- A row of `endpoint_workspace_memberships`. -/
structure Membership where
  isPrimary : Bool := false
  enabled : Bool := true
deriving DecidableEq

/-- The memberships of all owners of one kind, endpoints or addresses. -/
abbrev Book := Dict (Plain × WorkspaceId) Membership

/-- The tables of the registry. -/
structure Registry where
  workspaces : Dict WorkspaceId Workspace
  endpoints : Dict Plain Endpoint
  capabilities : Dict (Plain × Plain) EndpointCapability
  memberships : Book

/-- An item of a capability snapshot. -/
structure SnapshotItem where
  toolKey : String := ""
  name : String := ""
  riskLevel : String := ""
  requiresConfirmation : Bool := false
  enabled : Bool := true
  metadata : Fields := Dict.empty

/-- `str(item.get("tool_key") or item.get("name") or "").strip()`. -/
def SnapshotItem.key (item : SnapshotItem) : Plain :=
  plain (if item.toolKey ≠ "" then item.toolKey else item.name)

/-- The capability an item declares. -/
def SnapshotItem.capability (item : SnapshotItem) : EndpointCapability where
  riskLevel := if item.riskLevel ≠ "" then item.riskLevel else "read"
  requiresConfirmation := item.requiresConfirmation
  enabled := item.enabled
  metadata := item.metadata

/-- An endpoint a hello declares. -/
structure HelloItem where
  endpointId : String
  workspaceIds : List String := []
  workspaceScope : List String := []
  providerType : String := ""
  metadata : Fields := Dict.empty

/-- The workspaces an item declares. -/
def HelloItem.declaredWorkspaceIds (item : HelloItem) : List Plain :=
  cleaned (if item.workspaceIds.isEmpty then item.workspaceScope else item.workspaceIds)

/-- A registry without rows. -/
def Registry.start : Registry := ⟨Dict.empty, Dict.empty, Dict.empty, Dict.empty⟩

/-- How a membership change can be refused. -/
inductive MembershipError where
  | endpointNotFound
  | coreEndpointMembershipReadonly
  | workspaceNotFound
  | endpointLastWorkspaceMembership
deriving DecidableEq

/-! ## The policy of a workspace -/

/-- The routing part of a policy as it is given; an absent field is `none`. -/
structure GivenTargets where
  preferredTargetEndpointIds : Option (List String) := none
  preferredEndpointProviderTypes : Option (List String) := none
  toolTargetRoutingPolicy : Option String := none

/-- Governance metadata as it is given. -/
structure GivenGovernance where
  toolPolicy : Option String := none
  allowedToolIds : Option (List String) := none
  targets : GivenTargets := {}
  toolRoutingOverrides : Option (Dict String GivenTargets) := none

/-- `_normalize_routing_policy`. -/
def normalizeRoutingPolicy (value : String) : RoutingPolicy :=
  if lowerWord (strip value) = "prefer_origin_endpoint" then .preferOriginEndpoint
  else if lowerWord (strip value) = "strict_preferred_endpoint" then .strictPreferredEndpoint
  else .balanced

/-- The tool policy a text names; without one the allowed tools decide. -/
def normalizeToolPolicy (value : String) (allowedToolIds : List Plain) : ToolPolicy :=
  if lowerWord (strip value) = "allow_all" then .allowAll
  else if lowerWord (strip value) = "allowlist" then .allowlist
  else if allowedToolIds = [] then .allowAll else .allowlist

/-- Routing preferences as given over those already stored. -/
def normalizeTargets (stored : TargetPreferences) (given : GivenTargets) : TargetPreferences where
  preferredTargetEndpointIds :=
    (given.preferredTargetEndpointIds.map normalizedIds).getD stored.preferredTargetEndpointIds
  preferredEndpointProviderTypes :=
    (given.preferredEndpointProviderTypes.map normalizedIds).getD
      stored.preferredEndpointProviderTypes
  toolTargetRoutingPolicy :=
    (given.toolTargetRoutingPolicy.map normalizeRoutingPolicy).getD stored.toolTargetRoutingPolicy

/-- `_normalize_tool_routing_overrides`. -/
def normalizeToolRoutingOverrides (value : Dict String GivenTargets) :
    Dict Plain TargetPreferences :=
  value.entries.foldl (fun result entry =>
    if plain entry.1 = blank then result
    else result.set (plain entry.1) (normalizeTargets {} entry.2)) Dict.empty

/-- `normalize_governance_metadata` of the given fields over those already stored. -/
def normalizeGovernanceMetadata (stored : Option Governance) (given : GivenGovernance) :
    Governance :=
  let held := stored.getD {}
  let allowedToolIds := (given.allowedToolIds.map normalizedIds).getD held.allowedToolIds
  { toolPolicy :=
      match given.toolPolicy, stored with
      | none, some governance => governance.toolPolicy
      | value, _ => normalizeToolPolicy (value.getD "") allowedToolIds
    allowedToolIds := allowedToolIds
    targets := normalizeTargets held.targets given.targets
    toolRoutingOverrides :=
      (given.toolRoutingOverrides.map normalizeToolRoutingOverrides).getD
        held.toolRoutingOverrides }

/-- `WorkspaceService.tool_allowed`. -/
def toolAllowed (workspace : Workspace) (toolKey : Plain) : Bool :=
  decide (toolKey = blank) || decide (workspace.metadata.toolPolicy ≠ .allowlist) ||
    decide (toolKey ∈ workspace.metadata.allowedToolIds)

/-- `first or second` of two lists. -/
def orList {α : Type} (first second : List α) : List α :=
  if first.isEmpty then second else first

/-- `WorkspaceService.get_effective_tool_target_preferences`. -/
def getEffectiveToolTargetPreferences (workspace : Workspace) (toolKey : Plain) :
    TargetPreferences :=
  let governance := workspace.metadata.targets
  match (if toolKey = blank then none else workspace.metadata.toolRoutingOverrides.get toolKey) with
  | none => governance
  | some override =>
      { preferredTargetEndpointIds :=
          orList override.preferredTargetEndpointIds governance.preferredTargetEndpointIds
        preferredEndpointProviderTypes :=
          orList override.preferredEndpointProviderTypes governance.preferredEndpointProviderTypes
        toolTargetRoutingPolicy := override.toolTargetRoutingPolicy }

/-! ## Books of memberships -/

namespace Book

/-- `list_for_endpoint`, `list_for_address`: the enabled rows, the primary one first. -/
def listFor (book : Book) (owner : Plain) : List (WorkspaceId × Membership) :=
  let rows := (book.entries.filter fun entry =>
    decide (entry.1.1 = owner) && entry.2.enabled).map fun entry => (entry.1.2, entry.2)
  (rows.filter fun row => row.2.isPrimary) ++ rows.filter fun row => !row.2.isPrimary

/-- `_clear_other_primary` -/
def clearOtherPrimary (book : Book) (owner : Plain) (kept : WorkspaceId) : Book :=
  book.reviseAll
    (book.keys.filter fun key => decide (key.1 = owner) && decide (key.2 ≠ kept))
    fun row => { row with isPrimary := false }

/-- `upsert` -/
def upsert (book : Book) (owner : Plain) (workspaceId : WorkspaceId) (isPrimary : Bool) : Book :=
  let held := (book.get (owner, workspaceId)).any Membership.isPrimary
  let written := book.set (owner, workspaceId) { isPrimary := held || isPrimary, enabled := true }
  if isPrimary then clearOtherPrimary written owner workspaceId else written

/-- `disable`, with `_promote_first_enabled`. The query that looks for a row to promote still
selects by the stored columns, so it lists the row just disabled as well. -/
def disable (book : Book) (owner : Plain) (workspaceId : WorkspaceId) : Book :=
  match book.get (owner, workspaceId) with
  | none => book
  | some row =>
      if !row.enabled then book
      else
        let released := book.set (owner, workspaceId) { isPrimary := false, enabled := false }
        match (if row.isPrimary then listFor book owner else []) with
        | [] => released
        | first :: rest =>
            if (first :: rest).any fun listed =>
                (released.get (owner, listed.1)).any Membership.isPrimary then released
            else released.revise (owner, first.1) fun promoted =>
              { promoted with isPrimary := true }

end Book

namespace Registry

/-- `WorkspaceRepository.get_by_workspace_id`, with the identifier of the row. -/
def getByWorkspaceId (registry : Registry) (workspaceId : String) :
    Option (WorkspaceId × Workspace) :=
  (workspaceId? workspaceId).bind fun key =>
    (registry.workspaces.get key).map fun workspace => (key, workspace)

/-- `WorkspaceService.ensure_workspace`, of which only the metadata is read here. -/
def ensureWorkspace (registry : Registry) (workspaceId : WorkspaceId)
    (metadata : Option GivenGovernance) : Registry :=
  let written : Workspace :=
    match registry.workspaces.get workspaceId, metadata with
    | none, given => { metadata := normalizeGovernanceMetadata none (given.getD {}) }
    | some existing, none => existing
    | some existing, some given =>
        { existing with metadata := normalizeGovernanceMetadata (some existing.metadata) given }
  { registry with workspaces := registry.workspaces.set workspaceId written }

/-- `WorkspaceService.update_workspace`, which `WorkspaceRepository.update_profile`
carries out. -/
def updateWorkspace (registry : Registry) (workspaceId : WorkspaceId) (status : Option String)
    (metadata : Option GivenGovernance) : Registry :=
  { registry with
    workspaces := registry.workspaces.revise workspaceId fun existing =>
      { status := (status.map strip).getD existing.status
        metadata := (metadata.map (normalizeGovernanceMetadata none)).getD existing.metadata } }

/-- `WorkspaceService.archive_workspace`, and `restore_workspace` with the status `active`.
The personal workspace is not archived. -/
def setWorkspaceStatus (registry : Registry) (workspaceId : WorkspaceId) (status : String) :
    Registry :=
  if workspaceId.1 = plain "personal" ∧ status = "archived" then registry
  else
    { registry with
      workspaces := registry.workspaces.revise workspaceId fun existing =>
        { existing with status := status } }

/-! ## Endpoints and their capabilities -/

/-- `int(priority or 100)`. -/
def priorityOr (priority : Int) : Int := if priority = 0 then 100 else priority

/-- `EndpointRepository.upsert`. -/
def ensureEndpoint (registry : Registry) (endpointId : Plain) (providerType : String)
    (workspaceScope : List String) (status : String) (priority : Int) (metadata : Fields) :
    Registry :=
  let previous := ((registry.endpoints.get endpointId).map Endpoint.metadata).getD Dict.empty
  { registry with
    endpoints := registry.endpoints.set endpointId
      { providerType := providerType
        workspaceScope := workspaceScope
        status := status
        priority := priorityOr priority
        metadata := previous.update metadata } }

/-- Rewrite the row of an endpoint; an unknown endpoint stays unknown. -/
def reviseEndpoint (registry : Registry) (endpointId : Plain) (change : Endpoint → Endpoint) :
    Registry :=
  { registry with endpoints := registry.endpoints.revise endpointId change }

/-- `EndpointRepository.set_status`. -/
def setStatus (registry : Registry) (endpointId : Plain) (status : String) : Registry :=
  registry.reviseEndpoint endpointId fun endpoint => { endpoint with status := status }

/-- `EndpointRepository.update_heartbeat`; `lastSeenAt` is the clock reading. -/
def updateHeartbeat (registry : Registry) (endpointId : Plain) (status : String)
    (metrics payload : Fields) (lastSeenAt : Json) : Registry :=
  registry.reviseEndpoint endpointId fun endpoint =>
    let written := if strip status = "" then endpoint.status else strip status
    let heartbeat := Fields.of
      [("status", .str written), ("metrics", metrics.toJson), ("payload", payload.toJson),
        ("last_seen_at", lastSeenAt)]
    { endpoint with
      status := written
      metadata := (endpoint.metadata.set "heartbeat" heartbeat.toJson).set "heartbeat_metrics"
        metrics.toJson }

/-- `EndpointRepository.record_routing_result`, with the statistics it computes. -/
def recordRoutingResult (registry : Registry) (endpointId : Plain) (stats : Fields) : Registry :=
  registry.reviseEndpoint endpointId fun endpoint =>
    { endpoint with metadata := endpoint.metadata.set "routing_stats" stats.toJson }

/-- `EndpointCapabilityService.replace_snapshot`: write the declared capabilities, then
disable those the snapshot no longer names. -/
def replaceSnapshot (registry : Registry) (endpointId : Plain) (items : List SnapshotItem) :
    Registry :=
  let declared := items.filter fun item => decide (item.key ≠ blank)
  let written := registry.capabilities.setAll
    (declared.map fun item => ((endpointId, item.key), item.capability))
  let missing := written.keys.filter fun key =>
    decide (key.1 = endpointId) && decide (key.2 ∉ declared.map SnapshotItem.key)
  { registry with
    capabilities := written.reviseAll missing fun capability =>
      { capability with enabled := false } }

/-- `EndpointCapabilityRepository.list_for_endpoint`, narrowed to the row of one tool: an
endpoint has at most one, and a loop over its rows finds it if it is enabled. -/
def enabledCapability (registry : Registry) (endpointId toolKey : Plain) :
    Option EndpointCapability :=
  (registry.capabilities.get (endpointId, toolKey)).filter EndpointCapability.enabled

/-- The rows `list_enabled_for_tool` selects, in the order of the store. -/
def enabledForTool (registry : Registry) (toolKey : Plain) :
    List ((Plain × Plain) × EndpointCapability) :=
  registry.capabilities.entries.filter fun entry =>
    decide (entry.1.2 = toolKey) && entry.2.enabled

/-! ## Memberships -/

/-- `list_for_endpoint` of the enabled rows. -/
def listForEndpoint (registry : Registry) (endpointId : Plain) :
    List (WorkspaceId × Membership) :=
  registry.memberships.listFor endpointId

/-- `EndpointWorkspaceMembershipRepository.upsert`. -/
def upsertMembership (registry : Registry) (endpointId : Plain) (workspaceId : WorkspaceId)
    (isPrimary : Bool) : Registry :=
  { registry with memberships := registry.memberships.upsert endpointId workspaceId isPrimary }

/-- `EndpointWorkspaceMembershipRepository.disable`. -/
def disableMembership (registry : Registry) (endpointId : Plain) (workspaceId : WorkspaceId) :
    Registry :=
  { registry with memberships := registry.memberships.disable endpointId workspaceId }

/-- `_public_workspace_ids`. -/
def publicWorkspaceIds (registry : Registry) (rows : List (WorkspaceId × Membership)) :
    List WorkspaceId :=
  (rows.map Prod.fst).filter fun workspaceId => (registry.workspaces.get workspaceId).isSome

/-- `_primary_workspace_id`. -/
def primaryWorkspaceId (registry : Registry) (rows : List (WorkspaceId × Membership)) : String :=
  match (rows.find? fun row => row.2.isPrimary).or rows.head? with
  | none => ""
  | some row => if (registry.workspaces.get row.1).isSome then row.1.1.1 else ""

/-- `_sync_endpoint_scope`. -/
def syncEndpointScope (registry : Registry) (endpointId : Plain) : Registry :=
  let rows := registry.listForEndpoint endpointId
  let workspaceIds := (registry.publicWorkspaceIds rows).map fun workspaceId => workspaceId.1.1
  registry.reviseEndpoint endpointId fun endpoint =>
    { endpoint with
      workspaceScope := workspaceIds
      metadata := (endpoint.metadata.set "managed_workspace_ids"
        (.arr (workspaceIds.map Json.str))).set "primary_workspace_id"
          (.str (registry.primaryWorkspaceId rows)) }

/-- The workspace is stored and not archived. -/
def isOpen (registry : Registry) (workspaceId : WorkspaceId) : Bool :=
  (registry.workspaces.get workspaceId).any fun workspace =>
    decide ((if workspace.status = "" then "active" else workspace.status) ≠ "archived")

/-- The identifiers among these of workspaces that are open. -/
def openWorkspaces (registry : Registry) (workspaceIds : List Plain) : List WorkspaceId :=
  (workspaceIds.filterMap fun workspaceId => workspaceId? workspaceId.1).filter registry.isOpen

/-- `_endpoint_is_core`. -/
def isCoreEndpoint (endpoint : Endpoint) : Bool :=
  decide (lowerWord (strip endpoint.providerType) = "core")

/-- `seed_endpoint_memberships`. An endpoint with memberships keeps them. -/
def seedEndpointMemberships (registry : Registry) (endpointId : Plain)
    (workspaceIds : List String) : Registry :=
  match registry.endpoints.get endpointId with
  | none => registry
  | some endpoint =>
      if registry.listForEndpoint endpointId ≠ [] then registry.syncEndpointScope endpointId
      else
        let requested := registry.openWorkspaces (normalizedIds workspaceIds)
        let seeded := if requested = [] ∧ isCoreEndpoint endpoint = false then
          registry.openWorkspaces [plain "personal"] else requested
        (seeded.zipIdx.foldl (fun written entry =>
          written.upsertMembership endpointId entry.1 (decide (entry.2 = 0))) registry)
          |>.syncEndpointScope endpointId

/-- The endpoint and the workspace a membership change is about. -/
def membershipTargets (registry : Registry) (endpointId workspaceId : String) :
    Except MembershipError WorkspaceId :=
  match registry.endpoints.get (plain endpointId) with
  | none => .error .endpointNotFound
  | some endpoint =>
      if isCoreEndpoint endpoint then .error .coreEndpointMembershipReadonly
      else
        match registry.getByWorkspaceId (strip workspaceId) with
        | none => .error .workspaceNotFound
        | some (key, _) => .ok key

/-- `add_workspace`. -/
def addWorkspace (registry : Registry) (endpointId workspaceId : String) (makePrimary : Bool) :
    Except MembershipError Registry :=
  (registry.membershipTargets endpointId workspaceId).bind fun key =>
    if !registry.isOpen key then .error .workspaceNotFound
    else
      let first := decide (registry.listForEndpoint (plain endpointId) = [])
      .ok ((registry.upsertMembership (plain endpointId) key (makePrimary || first))
        |>.syncEndpointScope (plain endpointId))

/-- `remove_workspace`. -/
def removeWorkspace (registry : Registry) (endpointId workspaceId : String) :
    Except MembershipError Registry :=
  (registry.membershipTargets endpointId workspaceId).bind fun key =>
    let rows := registry.listForEndpoint (plain endpointId)
    if key ∉ rows.map Prod.fst then .ok (registry.syncEndpointScope (plain endpointId))
    else if rows.length ≤ 1 then .error .endpointLastWorkspaceMembership
    else .ok ((registry.disableMembership (plain endpointId) key)
      |>.syncEndpointScope (plain endpointId))

/-- `set_primary_workspace`. -/
def setPrimaryWorkspace (registry : Registry) (endpointId workspaceId : String) :
    Except MembershipError Registry :=
  (registry.membershipTargets endpointId workspaceId).bind fun key =>
    if !registry.isOpen key then .error .workspaceNotFound
    else .ok ((registry.upsertMembership (plain endpointId) key true)
      |>.syncEndpointScope (plain endpointId))

/-- To make a workspace the primary one is to add it as that. -/
theorem setPrimaryWorkspace_eq (registry : Registry) (endpointId workspaceId : String) :
    registry.setPrimaryWorkspace endpointId workspaceId =
      registry.addWorkspace endpointId workspaceId true := rfl

/-! ## What a hello registers -/

/-- The body of the loop over the endpoints of a hello: the row of one endpoint, whose
managed scope stands before the declared one, and its memberships. -/
def registerEndpoint (registry : Registry) (providerType : String) (item : HelloItem) : Registry :=
  let endpointId := plain item.endpointId
  let declared := item.declaredWorkspaceIds.map Subtype.val
  let managed := ((registry.endpoints.get endpointId).map Endpoint.workspaceScope).getD []
  let provider := if providerType ≠ "" then providerType
    else if item.providerType ≠ "" then item.providerType else "external"
  (registry.ensureEndpoint endpointId provider (orList managed declared) "online" 100
    item.metadata).seedEndpointMemberships endpointId (orList declared managed)

/-- The items of a hello that name an endpoint. -/
def namedItems (items : List HelloItem) : List HelloItem :=
  items.filter fun item => decide (plain item.endpointId ≠ blank)

/-- The endpoints of a hello, in order. -/
def registerEndpoints (registry : Registry) (providerType : String) (items : List HelloItem) :
    Registry :=
  (namedItems items).foldl (fun written item => written.registerEndpoint providerType item)
    registry

end Registry

/-! ## What the operations leave alone -/

/-- Every capability belongs to a stored endpoint. -/
def Referenced (registry : Registry) : Prop :=
  ∀ endpointId toolKey capability, registry.capabilities.get (endpointId, toolKey) =
    some capability → registry.endpoints.get endpointId ≠ none

/-- What an operation on some endpoints leaves alone. -/
structure Touches (touched : Plain → Prop) (before after : Registry) : Prop where
  workspaces : after.workspaces = before.workspaces
  endpoints : ∀ endpointId, ¬ touched endpointId →
    after.endpoints.get endpointId = before.endpoints.get endpointId
  capabilities : ∀ endpointId toolKey, ¬ touched endpointId →
    after.capabilities.get (endpointId, toolKey) = before.capabilities.get (endpointId, toolKey)
  referenced : Referenced before → Referenced after

/-- A change of one endpoint that concerns at most its scope and its metadata. -/
structure Rescopes (endpointId : Plain) (before after : Registry) : Prop where
  touches : Touches (· = endpointId) before after
  capabilities : after.capabilities = before.capabilities
  row : ∀ endpoint, before.endpoints.get endpointId = some endpoint →
    ∃ scope metadata, after.endpoints.get endpointId =
      some { endpoint with workspaceScope := scope, metadata := metadata }

variable {touched : Plain → Prop} {registry before between after : Registry} {endpointId : Plain}

theorem Touches.rfl : Touches touched registry registry where
  workspaces := by rfl
  endpoints _ _ := by rfl
  capabilities _ _ _ := by rfl
  referenced held := held

theorem Touches.trans (first : Touches touched before between)
    (second : Touches touched between after) : Touches touched before after where
  workspaces := second.workspaces.trans first.workspaces
  endpoints endpointId left :=
    (second.endpoints endpointId left).trans (first.endpoints endpointId left)
  capabilities endpointId toolKey left :=
    (second.capabilities endpointId toolKey left).trans (first.capabilities endpointId toolKey left)
  referenced held := second.referenced (first.referenced held)

/-- An operation touches also more endpoints. -/
theorem Touches.mono {wider : Plain → Prop} (touches : Touches touched before after)
    (within : ∀ endpointId, touched endpointId → wider endpointId) :
    Touches wider before after where
  workspaces := touches.workspaces
  endpoints endpointId left := touches.endpoints endpointId fun inside => left (within _ inside)
  capabilities endpointId toolKey left :=
    touches.capabilities endpointId toolKey fun inside => left (within _ inside)
  referenced := touches.referenced

/-- Writing the row of an endpoint touches no other endpoint. -/
theorem touches_set_endpoint (row : Endpoint) :
    Touches (· = endpointId) registry
      { registry with endpoints := registry.endpoints.set endpointId row } where
  workspaces := by rfl
  endpoints other different := Dict.get_set_ne _ _ (Ne.symm different)
  capabilities _ _ _ := by rfl
  referenced held other toolKey capability stored := by
    rw [Dict.get_set]
    split
    · exact Option.some_ne_none _
    · exact held other toolKey capability stored

theorem touches_reviseEndpoint (change : Endpoint → Endpoint) :
    Touches (· = endpointId) registry (registry.reviseEndpoint endpointId change) := by
  unfold Registry.reviseEndpoint Dict.revise
  split
  · exact Touches.rfl
  · exact touches_set_endpoint _

theorem touches_ensureEndpoint (providerType : String) (scope : List String) (status : String)
    (priority : Int) (metadata : Fields) :
    Touches (· = endpointId) registry
      (registry.ensureEndpoint endpointId providerType scope status priority metadata) :=
  touches_set_endpoint _

/-- A capability snapshot touches no endpoint but its own. -/
theorem touches_replaceSnapshot (items : List SnapshotItem)
    (stored : registry.endpoints.get endpointId ≠ none) :
    Touches (· = endpointId) registry (registry.replaceSnapshot endpointId items) where
  workspaces := by rfl
  endpoints _ _ := by rfl
  capabilities other toolKey different := by
    unfold Registry.replaceSnapshot
    rw [Dict.get_reviseAll_of_notMem _ _ (by simp [different]),
      Dict.get_setAll_of_notMem _ (by simp [Ne.symm different])]
  referenced held other toolKey capability found := by
    by_cases same : other = endpointId
    · exact same ▸ stored
    · have present := mt (Dict.get_reviseAll_none_iff _ _ _ _).mpr
        (found ▸ Option.some_ne_none capability)
      obtain ⟨before, written⟩ := Option.ne_none_iff_exists'.mp present
      rcases Dict.get_of_setAll written with declared | earlier
      · simp [Ne.symm same] at declared
      · exact held other toolKey before earlier

/-- A new scope for an endpoint concerns its scope and metadata. -/
theorem rescopes_syncEndpointScope :
    Rescopes endpointId registry (registry.syncEndpointScope endpointId) where
  touches := touches_reviseEndpoint _
  capabilities := by
    unfold Registry.syncEndpointScope Registry.reviseEndpoint
    rfl
  row endpoint stored := by
    simp only [Registry.syncEndpointScope, Registry.reviseEndpoint, Dict.get_revise_self, stored,
      Option.map_some]
    exact ⟨_, _, rfl⟩

/-- The registries differ in their memberships only. -/
def SameBut (before after : Registry) : Prop :=
  after = { before with memberships := after.memberships }

/-- A change of memberships before a change of scope is part of it. -/
theorem Rescopes.of_memberships (rescopes : Rescopes endpointId between after)
    (changed : SameBut before between) : Rescopes endpointId before after := by
  rw [SameBut] at changed
  rw [changed] at rescopes
  exact ⟨⟨rescopes.touches.workspaces, rescopes.touches.endpoints, rescopes.touches.capabilities,
    rescopes.touches.referenced⟩, rescopes.capabilities, rescopes.row⟩

theorem SameBut.trans (first : SameBut before between) (second : SameBut between after) :
    SameBut before after := by
  rw [SameBut] at first second ⊢
  rw [second, first]

theorem sameBut_upsertMembership (workspaceId : WorkspaceId) (isPrimary : Bool) :
    SameBut registry (registry.upsertMembership endpointId workspaceId isPrimary) := rfl

theorem sameBut_disableMembership (workspaceId : WorkspaceId) :
    SameBut registry (registry.disableMembership endpointId workspaceId) := rfl

/-- Seeding memberships concerns the scope and the metadata of the endpoint. -/
theorem rescopes_seedEndpointMemberships (workspaceIds : List String) :
    Rescopes endpointId registry (registry.seedEndpointMemberships endpointId workspaceIds) := by
  have seeded : ∀ (entries : List (WorkspaceId × Nat)) (before : Registry),
      SameBut before (entries.foldl (fun written entry =>
        written.upsertMembership endpointId entry.1 (decide (entry.2 = 0))) before) := by
    intro entries
    induction entries with
    | nil => exact fun _ => rfl
    | cons entry rest inductionHypothesis =>
      exact fun before => (sameBut_upsertMembership _ _).trans (inductionHypothesis _)
  unfold Registry.seedEndpointMemberships
  split
  · next absent =>
    refine ⟨Touches.rfl, rfl, fun endpoint stored => ?_⟩
    rw [absent] at stored
    cases stored
  · split
    · exact rescopes_syncEndpointScope
    · exact rescopes_syncEndpointScope.of_memberships (seeded _ _)

/-- A change the membership targets allow is made with some workspace. -/
theorem membershipTargets_bind {endpointId workspaceId : String}
    {change : WorkspaceId → Except MembershipError Registry}
    (changed : (registry.membershipTargets endpointId workspaceId).bind change = .ok after) :
    ∃ key, change key = .ok after := by
  cases found : registry.membershipTargets endpointId workspaceId with
  | error raised =>
    rw [found] at changed
    cases changed
  | ok key =>
    rw [found] at changed
    exact ⟨key, changed⟩

theorem rescopes_addWorkspace {endpointId workspaceId : String} {makePrimary : Bool}
    (changed : registry.addWorkspace endpointId workspaceId makePrimary = .ok after) :
    Rescopes (plain endpointId) registry after := by
  obtain ⟨key, made⟩ := membershipTargets_bind changed
  split at made
  · cases made
  · cases made
    exact rescopes_syncEndpointScope.of_memberships (sameBut_upsertMembership key _)

theorem rescopes_removeWorkspace {endpointId workspaceId : String}
    (changed : registry.removeWorkspace endpointId workspaceId = .ok after) :
    Rescopes (plain endpointId) registry after := by
  obtain ⟨key, made⟩ := membershipTargets_bind changed
  dsimp only at made
  split at made
  · cases made
    exact rescopes_syncEndpointScope
  · split at made
    · cases made
    · cases made
      exact rescopes_syncEndpointScope.of_memberships (sameBut_disableMembership key)

theorem rescopes_setPrimaryWorkspace {endpointId workspaceId : String}
    (changed : registry.setPrimaryWorkspace endpointId workspaceId = .ok after) :
    Rescopes (plain endpointId) registry after := by
  rw [Registry.setPrimaryWorkspace_eq] at changed
  exact rescopes_addWorkspace changed

/-- A hello touches no endpoint but those it declares. -/
theorem touches_registerEndpoints (providerType : String) (items : List HelloItem) :
    Touches (· ∈ (Registry.namedItems items).map fun item => plain item.endpointId) registry
      (registry.registerEndpoints providerType items) := by
  have declared : ∀ (rows : List HelloItem) (before : Registry),
      Touches (· ∈ rows.map fun item => plain item.endpointId) before
        (rows.foldl (fun written item => written.registerEndpoint providerType item) before) := by
    intro rows
    induction rows with
    | nil => exact fun _ => Touches.rfl
    | cons item rest inductionHypothesis =>
      intro before
      have first : Touches (· = plain item.endpointId) before
          (before.registerEndpoint providerType item) :=
        (touches_ensureEndpoint _ _ _ _ _).trans (rescopes_seedEndpointMemberships _).touches
      refine (first.mono fun endpointId same => ?_).trans
        ((inductionHypothesis _).mono fun endpointId member => ?_)
      · exact same ▸ List.mem_cons_self
      · exact List.mem_cons_of_mem _ member
  exact declared (Registry.namedItems items) registry

end MeetYou.EndpointRegistry
