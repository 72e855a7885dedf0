import MeetYou.Foundation.Runs
import MeetYou.RoutingCache

/-!
# Events of the registry between remembered resolutions

Frames of endpoints, sockets that close, changes of workspaces and memberships and
the calls themselves reach the router one after the other. A handler that changes
an endpoint also drops the remembered decisions about it, with nothing in between;
a change of a workspace or of memberships drops none, and neither does a hello for
the endpoints it no longer names or a send that fails.

`Heeded` says what such a step owes the decisions that have not expired, and that a
call means by its arguments what its key says. `answered_from_memory_is_valid`
shows for every run of heeded steps that a decision given from memory still stands:
the resolver, asked again in the same state, would find a target too.
-/

namespace MeetYou.RoutingEvents

open Text EndpointSockets EndpointRegistry ToolRouting RoutingCache

/-- What the route of a socket keeps between its frames. -/
structure FrameState where
  endpointId : Plain := blank
  endpointIds : List Plain := []

/-- The part of the Core that resolutions and registry events meet in. -/
structure Core (Socket : Type) where
  registry : Registry
  coreTools : List Plain
  /-- The router has been given a getter for the connected endpoints. -/
  attached : Bool
  manager : Manager Socket
  frames : Dict Socket FrameState
  cache : ResolutionCache
  clock : Nat

section
variable {Socket : Type} [DecidableEq Socket]

/-- A Core that has just started over a stored registry. -/
def Core.start (registry : Registry) (coreTools : List Plain) : Core Socket :=
  ⟨registry, coreTools, false, Manager.start, Dict.empty, Dict.empty, 0⟩

/-- `connected_endpoint_ids_now`. -/
def connectedEndpointIdsNow (manager : Manager Socket) : List Plain :=
  (manager.connections.entries.filter fun entry => decide entry.2.Nonempty).map Prod.fst

/-- What a resolution reads. -/
def Core.view (core : Core Socket) : View where
  registry := core.registry
  coreTools := core.coreTools
  connectedEndpointIds :=
    if core.attached then some (connectedEndpointIdsNow core.manager) else none

/-- `invalidate_cache` for each of several endpoints. -/
def invalidateEndpoints (cache : ResolutionCache) (endpointIds : List Plain) : ResolutionCache :=
  endpointIds.foldl (fun held endpointId => invalidateCache held endpointId blank blank) cache

/-- `context.endpoint_id()`: the endpoint a frame names, or that of its socket. -/
def Core.frameEndpointId (core : Core Socket) (websocket : Socket) (given : String) : Plain :=
  if given ≠ "" then plain given
  else ((core.frames.get websocket).map FrameState.endpointId).getD blank

/-- `EndpointHelloHandler`, once the protocol is accepted. A hello that names no endpoint
changes nothing. -/
def hello (core : Core Socket) (websocket : Socket) (provider : Fields) (providerType : String)
    (items : List HelloItem) (connectionId : String) (now : Instant) : Core Socket :=
  match (Registry.namedItems items).map fun item => plain item.endpointId with
  | [] => core
  | primary :: others =>
      { core with
        registry := core.registry.registerEndpoints providerType items
        manager := bindEndpoint core.manager websocket primary.1 connectionId provider
          { endpointIds := some ((primary :: others).map Subtype.val) } now
        frames := core.frames.set websocket ⟨primary, primary :: others⟩
        cache := invalidateEndpoints core.cache (primary :: others) }

/-- `CapabilitySnapshotHandler`. -/
def capabilitySnapshot (core : Core Socket) (websocket : Socket) (given : String)
    (items : List SnapshotItem) : Core Socket :=
  let endpointId := core.frameEndpointId websocket given
  match core.registry.endpoints.get endpointId with
  | none => core
  | some _ =>
      { core with
        registry := core.registry.replaceSnapshot endpointId items
        cache := invalidateEndpoints core.cache [endpointId] }

/-- A lifecycle frame: a change of the endpoint it names, and of nothing without one. -/
def lifecycleFrame (core : Core Socket) (websocket : Socket) (given : String)
    (change : Registry → Plain → Registry) : Core Socket :=
  let endpointId := core.frameEndpointId websocket given
  if endpointId = blank then core
  else
    { core with
      registry := change core.registry endpointId
      cache := invalidateEndpoints core.cache [endpointId] }

/-- `endpoint.ready`. -/
def endpointReady (core : Core Socket) (websocket : Socket) (given : String) : Core Socket :=
  lifecycleFrame core websocket given fun registry endpointId =>
    registry.setStatus endpointId "ready"

/-- `endpoint.heartbeat`. -/
def endpointHeartbeat (core : Core Socket) (websocket : Socket) (given status : String)
    (metrics payload : Fields) (lastSeenAt : Json) : Core Socket :=
  lifecycleFrame core websocket given fun registry endpointId =>
    registry.updateHeartbeat endpointId
      (if strip status = "" then "ready" else strip status) metrics payload lastSeenAt

/-- The endpoints whose decisions a closing socket drops: those of its metadata, else
those of its last hello. -/
def releasedIds (metadata : ConnectionMeta) (held : List Plain) : List Plain :=
  (match metadata.endpointIds with
    | some (first :: rest) => first :: rest
    | _ => if held = [] then [metadata.endpointId.getD blank] else held).filter
      fun endpointId => decide (endpointId ≠ blank)

/-- The `finally` of a socket's route. -/
def socketClosed (core : Core Socket) (websocket : Socket) : Core Socket :=
  let held := ((core.frames.get websocket).map FrameState.endpointIds).getD []
  { core with
    manager := (disconnect core.manager websocket).2
    frames := core.frames.pop websocket
    cache := invalidateEndpoints core.cache
      (releasedIds (disconnect core.manager websocket).1 held) }

/-- A send that fails disconnects its socket on the spot. -/
def sendFailed (core : Core Socket) (websocket : Socket) : Core Socket :=
  { core with manager := (disconnect core.manager websocket).2 }

/-- An event, with what the environment decides about it. -/
inductive Action (Socket : Type) where
  | resolve (order : CapabilityOrder) (request : RoutingRequest)
  | connect (websocket : Socket) (now : Instant)
  | hello (websocket : Socket) (provider : Fields) (providerType : String)
      (items : List HelloItem) (connectionId : String) (now : Instant)
  | capabilitySnapshot (websocket : Socket) (endpointId : String) (items : List SnapshotItem)
  | endpointReady (websocket : Socket) (endpointId : String)
  | endpointHeartbeat (websocket : Socket) (endpointId status : String)
      (metrics payload : Fields) (lastSeenAt : Json)
  | socketClosed (websocket : Socket)
  | sendFailed (websocket : Socket)
  | ensureWorkspace (workspaceId : WorkspaceId) (metadata : Option GivenGovernance)
  | updateWorkspace (workspaceId : WorkspaceId) (status : Option String)
      (metadata : Option GivenGovernance)
  | setWorkspaceStatus (workspaceId : WorkspaceId) (status : String)
  | addWorkspace (endpointId workspaceId : String) (makePrimary : Bool)
  | removeWorkspace (endpointId workspaceId : String)
  | setPrimaryWorkspace (endpointId workspaceId : String)
  | recordRoutingResult (endpointId : Plain) (stats : Fields)
  | registerCoreTool (toolKey : String)
  | setConnectedEndpointIdsGetter (attached : Bool)
  | pass (elapsed : Nat)

/-- The registry after a membership change; a refused one changes nothing. -/
def changedMemberships (core : Core Socket) (change : Except MembershipError Registry) :
    Core Socket :=
  match change with
  | .ok registry => { core with registry := registry }
  | .error _ => core

variable {Score : Type} [LinearOrder Score]
  (score : View → RoutingRequest → EndpointCandidate → Score)

/-- One event. Only a socket that is already connected cannot connect. -/
def step (core : Core Socket) : Action Socket → Option (Core Socket)
  | .resolve order request =>
      some { core with
        cache := (resolveExecutionTarget score order core.view core.cache core.clock request).2 }
  | .connect websocket now =>
      match core.manager.connectionMeta.get websocket with
      | some _ => none
      | none => some { core with manager := connect core.manager websocket now }
  | .hello websocket provider providerType items connectionId now =>
      some (hello core websocket provider providerType items connectionId now)
  | .capabilitySnapshot websocket endpointId items =>
      some (capabilitySnapshot core websocket endpointId items)
  | .endpointReady websocket endpointId => some (endpointReady core websocket endpointId)
  | .endpointHeartbeat websocket endpointId status metrics payload lastSeenAt =>
      some (endpointHeartbeat core websocket endpointId status metrics payload lastSeenAt)
  | .socketClosed websocket => some (socketClosed core websocket)
  | .sendFailed websocket => some (sendFailed core websocket)
  | .ensureWorkspace workspaceId metadata =>
      some { core with registry := core.registry.ensureWorkspace workspaceId metadata }
  | .updateWorkspace workspaceId status metadata =>
      some { core with registry := core.registry.updateWorkspace workspaceId status metadata }
  | .setWorkspaceStatus workspaceId status =>
      some { core with registry := core.registry.setWorkspaceStatus workspaceId status }
  | .addWorkspace endpointId workspaceId makePrimary =>
      some (changedMemberships core (core.registry.addWorkspace endpointId workspaceId makePrimary))
  | .removeWorkspace endpointId workspaceId =>
      some (changedMemberships core (core.registry.removeWorkspace endpointId workspaceId))
  | .setPrimaryWorkspace endpointId workspaceId =>
      some (changedMemberships core (core.registry.setPrimaryWorkspace endpointId workspaceId))
  | .recordRoutingResult endpointId stats =>
      some { core with registry := core.registry.recordRoutingResult endpointId stats }
  | .registerCoreTool toolKey =>
      some { core with
        coreTools := plain toolKey :: core.coreTools
        cache := invalidateCache core.cache blank (plain toolKey) blank }
  | .setConnectedEndpointIdsGetter attached =>
      some { core with attached := attached, cache := Dict.empty }
  | .pass elapsed => some { core with clock := core.clock + elapsed }

/-! ## What a step owes the remembered decisions -/

/-- What a remembered decision was asked for. -/
def keyQuery (view : View) (key : ResolutionKey) : Query where
  toolKey := key.toolKey
  endpointId := key.endpointId
  workspace := view.registry.getByWorkspaceId key.workspaceId.1
  mayWait := waits key.offlinePolicy.1
  confirmed := key.confirmed

/-- The arguments of a call mean what its key says: the white space around the workspace
and around the offline policy makes no difference to the resolver. -/
def ReadAsKeyed (core : Core Socket) (request : RoutingRequest) : Prop :=
  (strip request.workspaceId = request.workspaceId ∨
    (core.registry.getByWorkspaceId (strip request.workspaceId)).isNone = true) ∧
  waits request.offlinePolicy = waits (strip request.offlinePolicy)

/-- The endpoint of a decision was chosen by the router, from those connected. -/
def ChosenRemotely (view : View) (query : Query) : Prop :=
  query.endpointId = blank ∧ view.isCoreTool query.toolKey = false ∧ query.mayWait = false

/-- A decision relies on the connection of an endpoint. -/
def NeedsConnection (view : View) (query : Query) (targetId endpointId : Plain) : Prop :=
  (ChosenRemotely view query ∧ targetId = endpointId) ∨
    (query.endpointId = endpointId ∧ query.endpointId ≠ blank ∧ query.mayWait = false ∧
      (view.registry.endpoints.get endpointId).any
        (fun endpoint => decide (targetTypeOf endpoint = .endpoint)) = true)

/-- Every decision that has not expired has a property. -/
def EachRemembered (core : Core Socket) (property : ResolutionKey → Plain → Prop) : Prop :=
  ∀ entry ∈ core.cache.entries, core.clock < entry.2.1 → property entry.1 entry.2.2.targetId

/-- No decision relies on an endpoint that loses its last socket. -/
def KeepsConnections (core : Core Socket) (after : Manager Socket) : Prop :=
  core.attached = true → ∀ endpointId ∈ connectedEndpointIdsNow core.manager,
    endpointId ∉ connectedEndpointIdsNow after →
      EachRemembered core fun key targetId =>
        ¬ NeedsConnection core.view (keyQuery core.view key) targetId endpointId

/-- The policy written for a workspace allows what is remembered for it: the tool, and the
endpoint where the router chose it. -/
def KeepsPolicy (core : Core Socket) (workspaceId : WorkspaceId) (after : Registry) : Prop :=
  EachRemembered core fun key targetId => key.workspaceId = workspaceId.1 →
    ∀ workspace, after.workspaces.get workspaceId = some workspace →
      toolAllowed workspace key.toolKey = true ∧
        (ChosenRemotely core.view (keyQuery core.view key) →
          ∀ endpoint, core.registry.endpoints.get targetId = some endpoint →
            workspaceReasons (some (workspaceId, workspace)) key.toolKey targetId endpoint = [])

/-- The scope an endpoint is left with admits the workspaces it was chosen for. -/
def KeepsScope (core : Core Socket) (endpointId : Plain) (after : Registry) : Prop :=
  EachRemembered core fun key targetId => targetId = endpointId →
    ChosenRemotely core.view (keyQuery core.view key) →
      ∀ workspaceId workspace,
        core.registry.getByWorkspaceId key.workspaceId.1 = some (workspaceId, workspace) →
          ∀ endpoint, after.endpoints.get endpointId = some endpoint → Admits endpoint workspaceId

/-- A membership change leaves the endpoint with a scope that admits. -/
def KeepsMemberships (core : Core Socket) (endpointId : String)
    (change : Except MembershipError Registry) : Prop :=
  match change with
  | .ok after => KeepsScope core (plain endpointId) after
  | .error _ => True

/-- What a step owes the decisions that have not expired. Every other step drops those it
may concern itself. -/
def Heeded (core : Core Socket) : Action Socket → Prop
  | .resolve _ request => ReadAsKeyed core request
  | .hello websocket provider providerType items connectionId now =>
      KeepsConnections core
        (hello core websocket provider providerType items connectionId now).manager
  | .sendFailed websocket => KeepsConnections core (disconnect core.manager websocket).2
  | .ensureWorkspace workspaceId metadata =>
      KeepsPolicy core workspaceId (core.registry.ensureWorkspace workspaceId metadata)
  | .updateWorkspace workspaceId status metadata =>
      KeepsPolicy core workspaceId (core.registry.updateWorkspace workspaceId status metadata)
  | .addWorkspace endpointId workspaceId makePrimary =>
      KeepsMemberships core endpointId
        (core.registry.addWorkspace endpointId workspaceId makePrimary)
  | .removeWorkspace endpointId workspaceId =>
      KeepsMemberships core endpointId (core.registry.removeWorkspace endpointId workspaceId)
  | .setPrimaryWorkspace endpointId workspaceId =>
      KeepsMemberships core endpointId (core.registry.setPrimaryWorkspace endpointId workspaceId)
  | _ => True

/-- Where a call is answered from memory, the resolver would find a target too, in whatever
order it lists its rows. -/
def AnsweredSafely (core : Core Socket) : Action Socket → Prop
  | .resolve _ request => ∀ target,
      remembered core.cache core.clock (resolutionCacheKey request) = some target →
        ∀ order, ∃ fresh, resolveUncached score order core.view request = .ok fresh
  | _ => True

/-- A decision given from memory still stands. -/
def AnsweredByStanding (core : Core Socket) : Action Socket → Prop
  | .resolve _ request => ∀ target,
      remembered core.cache core.clock (resolutionCacheKey request) = some target →
        Stands core.view (request.query core.view) target.targetId
  | _ => True

attribute [local irreducible] waits Registry.getByWorkspaceId

/-! ## Decisions that stand after a change -/

omit [DecidableEq Socket] in
/-- An endpoint is connected exactly while one of its sockets is. -/
theorem mem_connectedEndpointIdsNow {manager : Manager Socket} {endpointId : Plain} :
    endpointId ∈ connectedEndpointIdsNow manager ↔
      (SetIndex.members manager.connections endpointId).Nonempty := by
  simp only [connectedEndpointIdsNow, List.mem_map, List.mem_filter, decide_eq_true_eq,
    SetIndex.members]
  constructor
  · rintro ⟨⟨_, sockets⟩, ⟨stored, present⟩, rfl⟩
    rw [(Dict.get_some_iff _ _ _).mpr stored]
    exact present
  · intro present
    cases found : manager.connections.get endpointId with
    | none =>
      rw [found] at present
      exact absurd present (by simp)
    | some sockets =>
      rw [found] at present
      exact ⟨(endpointId, sockets), ⟨(Dict.get_some_iff _ _ _).mp found, present⟩, rfl⟩

/-- Nothing speaks against an endpoint exactly when it can be reached, the workspace has
nothing against it and no confirmation is missing. -/
theorem rejectedReasons_nil_iff {view : View} {workspace : Option (WorkspaceId × Workspace)}
    {toolKey endpointId : Plain} {endpoint : Endpoint} {capability : EndpointCapability}
    {mayWait confirmed : Bool} :
    rejectedReasons view workspace toolKey endpointId endpoint capability mayWait confirmed = [] ↔
      view.endpointCanDispatch endpointId endpoint mayWait = true ∧
        workspaceReasons workspace toolKey endpointId endpoint = [] ∧
          (capability.requiresConfirmation && !confirmed) = false := by
  unfold rejectedReasons
  rw [List.append_eq_nil_iff, List.append_eq_nil_iff, and_assoc]
  refine and_congr ?_ (and_congr_right fun _ => ?_)
  · by_cases reached : view.endpointCanDispatch endpointId endpoint mayWait = true
    · simp [reached]
    · rw [if_neg reached]
      split <;> simp [reached]
  · cases capability.requiresConfirmation && !confirmed <;> simp

/-- The endpoints a decision is about. -/
def Names (query : Query) (targetId endpointId : Plain) : Prop :=
  endpointId = targetId ∨ (query.endpointId ≠ blank ∧ endpointId = query.endpointId)

/-- What a change of the row of an endpoint leaves of a decision: the type of target, the
connection where the decision needs one, and the consent of the workspace where the
router chose the endpoint. -/
structure RowKept (before after : View) (query : Query)
    (workspace : Option (WorkspaceId × Workspace)) (targetId endpointId : Plain)
    (endpoint kept : Endpoint) : Prop where
  typed : targetTypeOf kept = targetTypeOf endpoint
  online : NeedsConnection before query targetId endpointId →
    before.online endpointId endpoint = true → after.online endpointId kept = true
  accepted : ChosenRemotely before query → endpointId = targetId →
    workspaceReasons query.workspace query.toolKey endpointId endpoint = [] →
      workspaceReasons workspace query.toolKey endpointId kept = []

/-- A decision stands after a change that leaves its workspace allowing the tool, its
capability in place and the rows of its endpoints as far as they matter. -/
theorem stands_carried {before after : View} {query : Query}
    {workspace : Option (WorkspaceId × Workspace)} {targetId : Plain}
    (stands : Stands before query targetId)
    (allowed : workspaceAllowsTool workspace query.toolKey = true)
    (coreTools : before.isCoreTool query.toolKey = true → after.isCoreTool query.toolKey = true)
    (capabilities : ∀ endpointId, Names query targetId endpointId →
      after.registry.enabledCapability endpointId query.toolKey =
        before.registry.enabledCapability endpointId query.toolKey)
    (rows : ∀ endpointId endpoint, Names query targetId endpointId →
      before.registry.endpoints.get endpointId = some endpoint →
        ∃ kept, after.registry.endpoints.get endpointId = some kept ∧
          RowKept before after query workspace targetId endpointId endpoint kept) :
    Stands after { query with workspace := workspace } targetId := by
  refine ⟨stands.keyed, allowed, fun named => ?_, fun unnamed remote => ?_⟩
  · obtain ⟨endpoint, stored, serves⟩ := stands.named named
    have isNamed : Names query targetId query.endpointId := Or.inr ⟨named, rfl⟩
    obtain ⟨kept, found, same⟩ := rows query.endpointId endpoint isNamed stored
    refine ⟨kept, found, serves.imp_right ?_⟩
    rintro ⟨capable, reachable⟩
    refine ⟨(capabilities _ isNamed).symm ▸ capable, fun isEndpoint => ?_⟩
    rw [same.typed] at isEndpoint
    have reached := reachable isEndpoint
    simp only [View.endpointCanDispatch, Bool.or_eq_true] at reached ⊢
    by_cases mayWait : query.mayWait = true
    · exact Or.inr mayWait
    · refine Or.inl (same.online (Or.inr ⟨rfl, named, by simpa using mayWait, ?_⟩)
        (reached.resolve_right mayWait))
      simp [stored, isEndpoint]
  · have chosen : before.isCoreTool query.toolKey = false := by
      by_contra isCore
      exact absurd (coreTools (by simpa using isCore)) (by simpa using remote)
    obtain ⟨endpoint, capability, stored, enabled, serves⟩ := stands.served unnamed chosen
    have isTarget : Names query targetId targetId := Or.inl rfl
    obtain ⟨kept, found, same⟩ := rows targetId endpoint isTarget stored
    refine ⟨kept, capability, found, (capabilities _ isTarget).trans enabled, ?_⟩
    by_cases mayWait : query.mayWait = true
    · exact Or.inl mayWait
    · have remotely : ChosenRemotely before query := ⟨unnamed, chosen, by simpa using mayWait⟩
      obtain ⟨reached, accepted, confirmed⟩ :=
        rejectedReasons_nil_iff.mp (serves.resolve_left mayWait)
      refine Or.inr (rejectedReasons_nil_iff.mpr ⟨?_, same.accepted remotely rfl accepted, confirmed⟩)
      simp only [View.endpointCanDispatch, Bool.or_eq_true] at reached ⊢
      exact Or.inl (same.online (Or.inl ⟨remotely, rfl⟩) (reached.resolve_right mayWait))

/-- What is left after an invalidation was there before and names none of its endpoints. -/
theorem get_invalidateEndpoints {cache : ResolutionCache} {endpointIds : List Plain}
    {key : ResolutionKey} {entry : Nat × ExecutionTarget}
    (left : (invalidateEndpoints cache endpointIds).get key = some entry) :
    cache.get key = some entry ∧
      ∀ endpointId ∈ endpointIds, key.endpointId ≠ endpointId ∧ entry.2.targetId ≠ endpointId := by
  induction endpointIds generalizing cache with
  | nil => exact ⟨left, by simp⟩
  | cons endpointId rest inductionHypothesis =>
    obtain ⟨kept, others⟩ := inductionHypothesis left
    unfold invalidateCache at kept
    dsimp only at kept
    split at kept
    · cases kept
    · next given =>
      obtain ⟨stored, unmatched⟩ := (Dict.get_discard_iff _ _ _ _).mp kept
      have named : endpointId ≠ blank := fun isBlank => given ⟨isBlank, rfl, rfl⟩
      simp only [decide_true, Bool.true_or, Bool.true_and, Bool.or_eq_false_iff,
        decide_eq_false_iff_not] at unmatched
      refine ⟨stored, fun tested member => ?_⟩
      rcases List.mem_cons.mp member with rfl | later
      · exact ⟨unmatched.1.2, unmatched.2⟩
      · exact others tested later

/-- The registry has its references, the socket tables agree, and every decision that has
not expired stands. -/
structure Sound (core : Core Socket) : Prop where
  referenced : Referenced core.registry
  consistent : Consistent core.manager
  standing : ∀ key expiresAt target, core.cache.get key = some (expiresAt, target) →
    core.clock < expiresAt → Stands core.view (keyQuery core.view key) target.targetId

variable {core : Core Socket}

omit [DecidableEq Socket] in
/-- A remembered decision has whatever each of them has. -/
theorem EachRemembered.of_get {property : ResolutionKey → Plain → Prop}
    (each : EachRemembered core property) {key : ResolutionKey} {expiresAt : Nat}
    {target : ExecutionTarget} (stored : core.cache.get key = some (expiresAt, target))
    (alive : core.clock < expiresAt) : property key target.targetId :=
  each (key, expiresAt, target) ((Dict.get_some_iff _ _ _).mp stored) alive

/-- A change of endpoints that drops the decisions about them leaves the others standing,
provided that none of those relies on an endpoint that is no longer connected. -/
theorem sound_endpoints_changed (sound : Sound core) (endpointIds : List Plain)
    {registry : Registry} {manager : Manager Socket} {frames : Dict Socket FrameState}
    (touches : Touches (· ∈ endpointIds) core.registry registry)
    (consistent : Consistent manager)
    (connected : core.attached = true → ∀ endpointId ∈ connectedEndpointIdsNow core.manager,
      endpointId ∉ connectedEndpointIdsNow manager → endpointId ∈ endpointIds ∨
        EachRemembered core fun key targetId =>
          ¬ NeedsConnection core.view (keyQuery core.view key) targetId endpointId) :
    Sound { core with
      registry := registry, manager := manager, frames := frames
      cache := invalidateEndpoints core.cache endpointIds } where
  referenced := touches.referenced sound.referenced
  consistent := consistent
  standing key expiresAt target left alive := by
    obtain ⟨stored, unnamed⟩ := get_invalidateEndpoints left
    have stands := sound.standing key expiresAt target stored alive
    have outside : ∀ endpointId, Names (keyQuery core.view key) target.targetId endpointId →
        endpointId ∉ endpointIds := by
      rintro endpointId (rfl | ⟨_, rfl⟩) member
      · exact (unnamed _ member).2 rfl
      · exact (unnamed _ member).1 rfl
    have sameWorkspace : registry.getByWorkspaceId key.workspaceId.1 =
        core.registry.getByWorkspaceId key.workspaceId.1 := by
      unfold Registry.getByWorkspaceId
      rw [touches.workspaces]
    refine stands_carried stands (sameWorkspace ▸ stands.allowed) id ?_ ?_
    · intro endpointId isNamed
      exact congrArg (Option.filter EndpointCapability.enabled)
        (touches.capabilities endpointId key.toolKey (outside endpointId isNamed))
    · intro endpointId endpoint isNamed found
      refine ⟨endpoint, (touches.endpoints endpointId (outside endpointId isNamed)).trans found,
        rfl, fun needs online => ?_, fun _ _ accepted => ?_⟩
      · unfold View.online at online ⊢
        unfold Core.view at online ⊢
        by_cases attached : core.attached = true
        · simp only [attached, if_true, decide_eq_true_eq] at online ⊢
          by_contra unplugged
          rcases connected attached endpointId online unplugged with touched | unneeded
          · exact outside endpointId isNamed touched
          · exact unneeded.of_get stored alive needs
        · simpa [attached] using online
      · exact (congrArg (workspaceReasons · key.toolKey endpointId endpoint) sameWorkspace).trans
          accepted

/-- The workspace has nothing against an endpoint exactly when its scope and its strict
preferences are met. -/
theorem workspaceReasons_nil_iff {workspace : Option (WorkspaceId × Workspace)}
    {toolKey endpointId : Plain} {endpoint : Endpoint} :
    workspaceReasons workspace toolKey endpointId endpoint = [] ↔
      (∀ workspaceId row, workspace = some (workspaceId, row) → Admits endpoint workspaceId) ∧
        preferenceReasons (workspacePreferences workspace toolKey) endpointId endpoint = [] := by
  unfold workspaceReasons
  rw [List.append_eq_nil_iff]
  refine and_congr_left fun _ => ?_
  cases workspace with
  | none => simp
  | some stored =>
    obtain ⟨workspaceId, row⟩ := stored
    by_cases admits : Admits endpoint workspaceId
    · simp [admits]
    · simp [admits]

/-- A new scope that admits the workspaces an endpoint was chosen for leaves every decision
standing. -/
theorem sound_rescoped (sound : Sound core) {endpointId : Plain} {registry : Registry}
    (rescopes : Rescopes endpointId core.registry registry)
    (keeps : KeepsScope core endpointId registry) : Sound { core with registry := registry } where
  referenced := rescopes.touches.referenced sound.referenced
  consistent := sound.consistent
  standing key expiresAt target stored alive := by
    have stands := sound.standing key expiresAt target stored alive
    have sameWorkspace : registry.getByWorkspaceId key.workspaceId.1 =
        core.registry.getByWorkspaceId key.workspaceId.1 := by
      unfold Registry.getByWorkspaceId
      rw [rescopes.touches.workspaces]
    have reasons : ∀ endpointId endpoint, workspaceReasons
        (registry.getByWorkspaceId key.workspaceId.1) key.toolKey endpointId endpoint =
        workspaceReasons (keyQuery core.view key).workspace key.toolKey endpointId endpoint :=
      fun endpointId endpoint =>
        congrArg (workspaceReasons · key.toolKey endpointId endpoint) sameWorkspace
    refine stands_carried stands (sameWorkspace ▸ stands.allowed) id ?_ ?_
    · intro tested _
      exact congrArg (Option.filter EndpointCapability.enabled)
        (congrArg (Dict.get · (tested, key.toolKey)) rescopes.capabilities)
    · intro tested endpoint _ found
      by_cases same : tested = endpointId
      · subst same
        obtain ⟨scope, metadata, changed⟩ := rescopes.row endpoint found
        refine ⟨_, changed, rfl, fun _ online => online, fun remotely isTarget accepted => ?_⟩
        rw [workspaceReasons_nil_iff] at accepted
        refine (reasons tested _).trans (workspaceReasons_nil_iff.mpr ⟨?_, accepted.2⟩)
        intro workspaceId row asked
        exact keeps.of_get stored alive isTarget.symm remotely workspaceId row asked _ changed
      · refine ⟨endpoint, (rescopes.touches.endpoints tested same).trans found, rfl,
          fun _ online => online, fun _ _ accepted => (reasons tested endpoint).trans accepted⟩

/-- A text names a workspace identifier when it is that identifier. -/
theorem workspaceId?_some_iff {text : String} {workspaceId : WorkspaceId} :
    workspaceId? text = some workspaceId ↔ text = workspaceId.1.1 := by
  unfold workspaceId?
  constructor
  · intro named
    split at named
    · next exactly =>
      cases named
      exact exactly.1.symm
    · cases named
  · rintro rfl
    rw [dif_pos ⟨workspaceId.1.2, by simpa using workspaceId.2⟩]
    simp

theorem getByWorkspaceId_some_iff {registry : Registry} {text : String}
    {workspaceId : WorkspaceId} {workspace : Workspace} :
    registry.getByWorkspaceId text = some (workspaceId, workspace) ↔
      text = workspaceId.1.1 ∧ registry.workspaces.get workspaceId = some workspace := by
  unfold Registry.getByWorkspaceId
  simp only [Option.bind_eq_some_iff, Option.map_eq_some_iff, workspaceId?_some_iff, Prod.mk.injEq]
  constructor
  · rintro ⟨key, rfl, row, stored, rfl, rfl⟩
    exact ⟨rfl, stored⟩
  · rintro ⟨rfl, stored⟩
    exact ⟨workspaceId, rfl, workspace, stored, rfl, rfl⟩

/-- A policy that allows what is remembered for its workspace leaves every decision standing. -/
theorem sound_policy (sound : Sound core) {workspaceId : WorkspaceId}
    {workspaces : Dict WorkspaceId Workspace}
    (others : ∀ other, other ≠ workspaceId →
      workspaces.get other = core.registry.workspaces.get other)
    (keeps : KeepsPolicy core workspaceId { core.registry with workspaces := workspaces }) :
    Sound { core with registry := { core.registry with workspaces := workspaces } } where
  referenced := sound.referenced
  consistent := sound.consistent
  standing key expiresAt target stored alive := by
    have stands := sound.standing key expiresAt target stored alive
    let registry : Registry := { core.registry with workspaces := workspaces }
    -- The workspace of the key is the one written, another one, or none.
    have judged : workspaceAllowsTool (registry.getByWorkspaceId key.workspaceId.1) key.toolKey =
          true ∧
        (ChosenRemotely core.view (keyQuery core.view key) → ∀ endpoint,
          core.registry.endpoints.get target.targetId = some endpoint →
          workspaceReasons (keyQuery core.view key).workspace key.toolKey target.targetId endpoint =
            [] →
          workspaceReasons (registry.getByWorkspaceId key.workspaceId.1) key.toolKey
            target.targetId endpoint = []) := by
      cases found : registry.getByWorkspaceId key.workspaceId.1 with
      | none =>
        refine ⟨rfl, fun _ endpoint _ _ => workspaceReasons_nil_iff.mpr ⟨by simp, rfl⟩⟩
      | some entry =>
        obtain ⟨asked, workspace⟩ := entry
        obtain ⟨text, held⟩ := getByWorkspaceId_some_iff.mp found
        by_cases same : asked = workspaceId
        · subst same
          obtain ⟨allowed, accepted⟩ :=
            keeps.of_get stored alive (Subtype.ext text) workspace held
          exact ⟨allowed, fun remotely endpoint row _ => accepted remotely endpoint row⟩
        · have before : (keyQuery core.view key).workspace = some (asked, workspace) :=
            getByWorkspaceId_some_iff.mpr ⟨text, (others asked same).symm.trans held⟩
          have allowed := stands.allowed
          rw [before] at allowed ⊢
          exact ⟨allowed, fun _ _ _ accepted => accepted⟩
    refine stands_carried stands judged.1 id (fun _ _ => rfl) fun tested endpoint _ found => ?_
    refine ⟨endpoint, found, rfl, fun _ online => online, fun remotely isTarget accepted => ?_⟩
    subst isTarget
    exact judged.2 remotely endpoint found accepted

/-! ## The steps -/

/-- Where the router chose the endpoint, the workspace has nothing against it. -/
theorem Sound.accepted (sound : Sound core) {key : ResolutionKey} {expiresAt : Nat}
    {target : ExecutionTarget} (stored : core.cache.get key = some (expiresAt, target))
    (alive : core.clock < expiresAt) (remotely : ChosenRemotely core.view (keyQuery core.view key))
    {endpoint : Endpoint} (found : core.registry.endpoints.get target.targetId = some endpoint) :
    workspaceReasons (keyQuery core.view key).workspace key.toolKey target.targetId endpoint =
      [] := by
  obtain ⟨unnamed, chosen, urgent⟩ := remotely
  obtain ⟨held, capability, row, _, serves⟩ :=
    (sound.standing key expiresAt target stored alive).served unnamed chosen
  obtain rfl := Option.some.inj (found.symm.trans row)
  have accepted := serves.resolve_left (by simp [urgent])
  exact (rejectedReasons_nil_iff.mp accepted).2.1

omit [DecidableEq Socket] in
/-- A call whose arguments mean what its key says asks what its key asks. -/
theorem keyQuery_of_readAsKeyed {request : RoutingRequest} (read : ReadAsKeyed core request) :
    keyQuery core.view (resolutionCacheKey request) = request.query core.view := by
  obtain ⟨workspace, policy⟩ := read
  have sameWorkspace : core.registry.getByWorkspaceId (strip request.workspaceId) =
      core.registry.getByWorkspaceId request.workspaceId := by
    rcases workspace with same | absent
    · rw [same]
    · rw [Option.isNone_iff_eq_none] at absent
      by_cases same : strip request.workspaceId = request.workspaceId
      · rw [same]
      · rw [absent]
        unfold Registry.getByWorkspaceId workspaceId?
        rw [dif_neg fun exactly => same exactly.1]
        rfl
  have samePolicy : waits (resolutionCacheKey request).offlinePolicy.1 =
      waits request.offlinePolicy := by
    rw [policy]
    unfold resolutionCacheKey
    dsimp only
    split
    · next isBlank =>
      rw [show strip request.offlinePolicy = blank.1 from congrArg Subtype.val isBlank]
      decide +kernel
    · rfl
  unfold keyQuery RoutingRequest.query
  rw [samePolicy]
  exact congrArg (fun workspace => Query.mk request.normalizedToolKey request.requestedEndpointId
    workspace (waits request.offlinePolicy) request.confirmed) sameWorkspace

/-- A lookup may drop an entry and changes none. -/
theorem get_getCachedResolution {cache held : ResolutionCache} {now : Nat}
    {key tested : ResolutionKey} {answer : Option ExecutionTarget}
    {entry : Nat × ExecutionTarget}
    (lookedUp : getCachedResolution cache now key = (answer, held))
    (found : held.get tested = some entry) : cache.get tested = some entry := by
  unfold getCachedResolution at lookedUp
  split at lookedUp
  · cases lookedUp
    exact found
  · split at lookedUp
    · cases lookedUp
      exact (Dict.get_of_pop found).2
    · cases lookedUp
      exact found

/-- What a call leaves remembered was remembered before or is what it has just resolved. -/
theorem get_resolveExecutionTarget {order : CapabilityOrder} {view : View}
    {cache : ResolutionCache} {now : Nat} {request : RoutingRequest} {key : ResolutionKey}
    {entry : Nat × ExecutionTarget}
    (found : (resolveExecutionTarget score order view cache now request).2.get key = some entry) :
    cache.get key = some entry ∨
      (resolutionCacheKey request = key ∧
        resolveUncached score order view request = .ok entry.2) := by
  unfold resolveExecutionTarget at found
  dsimp only at found
  split at found
  · next target held answered => exact Or.inl (get_getCachedResolution answered found)
  · next held missed =>
    split at found
    · next target resolved =>
      rcases Dict.get_of_set found with ⟨same, rfl⟩ | ⟨_, earlier⟩
      · exact Or.inr ⟨same, resolved⟩
      · exact Or.inl (get_getCachedResolution missed earlier)
    · exact Or.inl (get_getCachedResolution missed found)

/-- What a call remembers stands. -/
theorem sound_resolve (sound : Sound core) {order : CapabilityOrder} {request : RoutingRequest}
    (read : ReadAsKeyed core request) :
    Sound { core with
      cache := (resolveExecutionTarget score order core.view core.cache core.clock request).2 } where
  referenced := sound.referenced
  consistent := sound.consistent
  standing key expiresAt target found alive := by
    rcases get_resolveExecutionTarget score found with stored | ⟨same, resolved⟩
    · exact sound.standing key expiresAt target stored alive
    · have stands := resolveUncached_stands resolved
      rw [← keyQuery_of_readAsKeyed read, same] at stands
      exact stands

/-- A hello leaves the decisions it does not drop standing. -/
theorem sound_hello (sound : Sound core) {websocket : Socket} {provider : Fields}
    {providerType : String} {items : List HelloItem} {connectionId : String} {now : Instant}
    (keeps : KeepsConnections core
      (hello core websocket provider providerType items connectionId now).manager) :
    Sound (hello core websocket provider providerType items connectionId now) := by
  have touches : Touches
      (· ∈ (Registry.namedItems items).map fun item => plain item.endpointId) core.registry
      (core.registry.registerEndpoints providerType items) :=
    touches_registerEndpoints providerType items
  unfold hello at keeps ⊢
  cases named : (Registry.namedItems items).map fun item => plain item.endpointId with
  | nil => exact sound
  | cons primary others =>
    rw [named] at touches keeps
    refine sound_endpoints_changed sound _ touches
      (bindEndpoint_consistent sound.consistent _ _ _ _ _ _) ?_
    exact fun attached endpointId before after =>
      Or.inr (keeps attached endpointId before after)

/-- A frame about one endpoint leaves the decisions about others standing. -/
theorem sound_frame (sound : Sound core) {registry : Registry} {endpointId : Plain}
    (touches : Touches (· = endpointId) core.registry registry) :
    Sound { core with
      registry := registry, cache := invalidateEndpoints core.cache [endpointId] } :=
  sound_endpoints_changed sound _ (touches.mono fun _ same => List.mem_singleton.mpr same)
    sound.consistent fun _ _ before after => absurd before after

/-- A socket that closes drops the decisions about every endpoint it held. -/
theorem sound_socketClosed (sound : Sound core) (websocket : Socket) :
    Sound (socketClosed core websocket) := by
  refine sound_endpoints_changed sound _ Touches.rfl
    (disconnect_consistent sound.consistent websocket) ?_
  intro _ endpointId before after
  refine Or.inl ?_
  obtain ⟨member, present⟩ := mem_connectedEndpointIdsNow.mp before
  have bound : endpointId ∈ (core.manager.metaOf websocket).boundIds := by
    by_contra unbound
    refine after (mem_connectedEndpointIdsNow.mpr ⟨member, ?_⟩)
    exact (SetIndex.mem_discardAll _ _ _ _ _).mpr ⟨present, fun removed => unbound removed.1⟩
  have recorded := sound.consistent.recorded websocket
  unfold releasedIds
  show endpointId ∈ List.filter _ (match (core.manager.metaOf websocket).endpointIds with
    | some (first :: rest) => first :: rest
    | _ => _)
  cases listed : (core.manager.metaOf websocket).endpointIds with
  | none =>
    rw [ConnectionMeta.Recorded, listed, Option.getD_none] at recorded
    rw [recorded] at bound
    cases bound
  | some endpointIds =>
    cases endpointIds with
    | nil =>
      rw [ConnectionMeta.Recorded, listed, Option.getD_some] at recorded
      rw [recorded] at bound
      cases bound
    | cons first rest =>
      unfold ConnectionMeta.boundIds at bound
      rw [listed] at bound
      exact bound

/-- A membership change that heeds the decisions leaves them standing. -/
theorem sound_memberships (sound : Sound core) {endpointId : String}
    {change : Except MembershipError Registry}
    (rescopes : ∀ after, change = .ok after → Rescopes (plain endpointId) core.registry after)
    (keeps : KeepsMemberships core endpointId change) : Sound (changedMemberships core change) := by
  unfold changedMemberships KeepsMemberships at *
  split
  · next after => exact sound_rescoped sound (rescopes after rfl) keeps
  · exact sound

/-- New routing statistics leave every decision standing. -/
theorem sound_recordRoutingResult (sound : Sound core) (endpointId : Plain) (stats : Fields) :
    Sound { core with registry := core.registry.recordRoutingResult endpointId stats } := by
  have written : ∀ endpoint, core.registry.endpoints.get endpointId = some endpoint →
      (core.registry.recordRoutingResult endpointId stats).endpoints.get endpointId =
        some { endpoint with metadata := endpoint.metadata.set "routing_stats" stats.toJson } := by
    intro endpoint stored
    simp only [Registry.recordRoutingResult, Registry.reviseEndpoint, Dict.get_revise_self, stored,
      Option.map_some]
  have rescopes : Rescopes endpointId core.registry
      (core.registry.recordRoutingResult endpointId stats) :=
    ⟨touches_reviseEndpoint _, rfl, fun endpoint stored => ⟨_, _, written endpoint stored⟩⟩
  refine sound_rescoped sound rescopes ?_
  rintro ⟨key, expiresAt, target⟩ member alive rfl remotely workspaceId workspace asked kept found
  have stored := (Dict.get_some_iff _ _ _).mpr member
  obtain ⟨endpoint, _, row, _⟩ :=
    (sound.standing key expiresAt target stored alive).served remotely.1 remotely.2.1
  have accepted := sound.accepted stored alive remotely row
  rw [written endpoint row] at found
  cases found
  exact (workspaceReasons_nil_iff.mp accepted).1 workspaceId workspace asked

/-- What an invalidation leaves was there before. -/
theorem get_invalidateCache {cache : ResolutionCache} {endpointId toolKey workspaceId : Plain}
    {key : ResolutionKey} {entry : Nat × ExecutionTarget}
    (left : (invalidateCache cache endpointId toolKey workspaceId).get key = some entry) :
    cache.get key = some entry := by
  unfold invalidateCache at left
  split at left
  · cases left
  · exact ((Dict.get_discard_iff _ _ _ _).mp left).1

/-- A tool the core takes over leaves every decision standing. -/
theorem sound_registerCoreTool (sound : Sound core) (toolKey : Plain) {cache : ResolutionCache}
    (kept : ∀ key entry, cache.get key = some entry → core.cache.get key = some entry) :
    Sound { core with coreTools := toolKey :: core.coreTools, cache := cache } where
  referenced := sound.referenced
  consistent := sound.consistent
  standing key expiresAt target stored alive := by
    have stands := sound.standing key expiresAt target (kept key _ stored) alive
    refine stands_carried stands stands.allowed (fun isCore => ?_) (fun _ _ => rfl) ?_
    · simp only [View.isCoreTool, Core.view, Bool.or_eq_true, decide_eq_true_eq,
        List.mem_cons] at isCore ⊢
      exact isCore.imp_left fun listed => Or.inr (of_decide_eq_true listed)
    · exact fun _ endpoint _ found =>
        ⟨endpoint, found, rfl, fun _ online => online, fun _ _ accepted => accepted⟩

/-- Archiving and restoring a workspace leave its policy as it is. -/
theorem keepsPolicy_status (sound : Sound core) (workspaceId : WorkspaceId) (status : String) :
    KeepsPolicy core workspaceId { core.registry with
      workspaces := core.registry.workspaces.revise workspaceId fun existing =>
        { existing with status := status } } := by
  rintro ⟨key, expiresAt, target⟩ member alive same workspace written
  have stored := (Dict.get_some_iff _ _ _).mpr member
  obtain ⟨row, held, rfl⟩ := Option.map_eq_some_iff.mp
    ((Dict.get_revise_self _ _ _).symm.trans written)
  have asked : (keyQuery core.view key).workspace = some (workspaceId, row) :=
    getByWorkspaceId_some_iff.mpr ⟨congrArg Subtype.val same, held⟩
  constructor
  · have allowed := (sound.standing key expiresAt target stored alive).allowed
    rw [asked] at allowed
    exact allowed
  · intro remotely endpoint found
    have accepted := sound.accepted stored alive remotely found
    rw [asked, workspaceReasons_nil_iff] at accepted
    refine workspaceReasons_nil_iff.mpr ⟨?_, accepted.2⟩
    rintro _ _ ⟨⟩
    exact accepted.1 workspaceId row rfl

/-- A heeded step leaves every decision standing that has not expired. -/
theorem step_sound (sound : Sound core) {action : Action Socket} (heeded : Heeded core action)
    {next : Core Socket} (taken : step score core action = some next) : Sound next := by
  cases action with
  | resolve order request =>
    cases taken
    exact sound_resolve score sound heeded
  | connect websocket now =>
    cases fresh : core.manager.connectionMeta.get websocket with
    | some held => simp [step, fresh] at taken
    | none =>
      simp only [step, fresh, Option.some.injEq] at taken
      subst taken
      exact sound_endpoints_changed sound [] Touches.rfl
        (connect_consistent sound.consistent fresh now) fun _ _ before after => absurd before after
  | hello websocket provider providerType items connectionId now =>
    cases taken
    exact sound_hello sound heeded
  | capabilitySnapshot websocket endpointId items =>
    cases taken
    unfold capabilitySnapshot
    dsimp only
    split
    · exact sound
    · next stored =>
      exact sound_frame sound (touches_replaceSnapshot items (by simp [stored]))
  | endpointReady websocket endpointId =>
    cases taken
    unfold endpointReady lifecycleFrame
    dsimp only
    split
    · exact sound
    · exact sound_frame sound (touches_reviseEndpoint _)
  | endpointHeartbeat websocket endpointId status metrics payload lastSeenAt =>
    cases taken
    unfold endpointHeartbeat lifecycleFrame
    dsimp only
    split
    · exact sound
    · exact sound_frame sound (touches_reviseEndpoint _)
  | socketClosed websocket =>
    cases taken
    exact sound_socketClosed sound websocket
  | sendFailed websocket =>
    cases taken
    exact sound_endpoints_changed sound [] Touches.rfl
      (disconnect_consistent sound.consistent websocket)
      fun attached endpointId before after => Or.inr (heeded attached endpointId before after)
  | ensureWorkspace workspaceId metadata =>
    cases taken
    exact sound_policy sound (fun _ different => Dict.get_set_ne _ _ (Ne.symm different)) heeded
  | updateWorkspace workspaceId status metadata =>
    cases taken
    exact sound_policy sound (fun _ different => Dict.get_revise_ne _ _ (Ne.symm different)) heeded
  | setWorkspaceStatus workspaceId status =>
    cases taken
    unfold Registry.setWorkspaceStatus
    split
    · exact sound
    · exact sound_policy sound (fun _ different => Dict.get_revise_ne _ _ (Ne.symm different))
        (keepsPolicy_status sound workspaceId status)
  | addWorkspace endpointId workspaceId makePrimary =>
    cases taken
    exact sound_memberships sound (fun _ changed => rescopes_addWorkspace changed) heeded
  | removeWorkspace endpointId workspaceId =>
    cases taken
    exact sound_memberships sound (fun _ changed => rescopes_removeWorkspace changed) heeded
  | setPrimaryWorkspace endpointId workspaceId =>
    cases taken
    exact sound_memberships sound (fun _ changed => rescopes_setPrimaryWorkspace changed) heeded
  | recordRoutingResult endpointId stats =>
    cases taken
    exact sound_recordRoutingResult sound endpointId stats
  | registerCoreTool toolKey =>
    cases taken
    exact sound_registerCoreTool sound _ fun _ _ left => get_invalidateCache left
  | setConnectedEndpointIdsGetter attached =>
    cases taken
    exact ⟨sound.referenced, sound.consistent, fun _ _ _ stored => by cases stored⟩
  | pass elapsed =>
    cases taken
    refine ⟨sound.referenced, sound.consistent, fun key expiresAt target stored alive => ?_⟩
    have earlier : core.clock < expiresAt := by
      have later : core.clock + elapsed < expiresAt := alive
      omega
    exact sound.standing key expiresAt target stored earlier

/-- Where decisions stand, an answer from memory is one that stands. -/
theorem answeredByStanding_of_sound (sound : Sound core) {action : Action Socket}
    (heeded : Heeded core action) : AnsweredByStanding core action := by
  cases action with
  | resolve order request =>
    intro target answered
    obtain ⟨⟨expiresAt, held⟩, stored, live⟩ := Option.bind_eq_some_iff.mp answered
    dsimp only at live
    split at live
    · cases live
    · next alive =>
      cases live
      have stands := sound.standing _ _ _ stored (by omega)
      rw [keyQuery_of_readAsKeyed heeded] at stands
      exact stands
  | _ => trivial

omit [DecidableEq Socket] in
/-- A decision that stands is one the resolver finds a target for. -/
theorem answeredSafely_of_standing (referenced : Referenced core.registry)
    {action : Action Socket} (standing : AnsweredByStanding core action) :
    AnsweredSafely score core action := by
  cases action with
  | resolve order request =>
    exact fun target answered order => Stands.resolves referenced (standing target answered)
  | _ => trivial

/-- In every run whose steps heed the remembered decisions, a call that is answered from
memory gets a decision that still stands, and the resolver would find a target as well. -/
theorem answered_from_memory_safely {registry : Registry} (referenced : Referenced registry)
    (coreTools : List Plain) (actions : List (Action Socket))
    (heeded : Runs.Along (step score) Heeded (Core.start registry coreTools) actions) :
    Runs.Along (step score)
      (fun core action => AnsweredSafely score core action ∧ AnsweredByStanding core action)
      (Core.start registry coreTools) actions := by
  refine Runs.Along.imp_of_invariant Sound ?_ ?_ ?_ heeded
  · exact fun core action next sound heeds taken => step_sound score sound heeds taken
  · intro core action sound heeds
    have standing := answeredByStanding_of_sound sound heeds
    exact ⟨answeredSafely_of_standing score sound.referenced standing, standing⟩
  · exact ⟨referenced, start_consistent, fun _ _ _ stored => by cases stored⟩

end

/-- A workspace asks for a tool of the core. -/
def coreRequest : RoutingRequest where
  toolKey := "core.x"
  workspaceId := "w"

/-- The same call twice within five seconds. -/
def repeatedCall : List (Action ℕ) :=
  [.ensureWorkspace ⟨plain "w", named_workspace⟩ none, .resolve OrderBy.stable coreRequest,
    .pass 3000, .resolve OrderBy.stable coreRequest]

/-- A call repeated while nothing has changed is answered from memory safely. -/
theorem repeatedCall_answered_safely :
    Runs.Along (step fun _ _ _ => (0 : ℕ))
      (fun core action => AnsweredSafely (fun _ _ _ => (0 : ℕ)) core action ∧
        AnsweredByStanding core action)
      (Core.start Registry.start [] : Core ℕ) repeatedCall := by
  refine answered_from_memory_safely _ (fun _ _ _ stored => by cases stored) [] repeatedCall ?_
  refine ⟨fun _ member => absurd member List.not_mem_nil, fun next taken => ?_⟩
  refine ⟨⟨Or.inl (by decide +kernel), by decide +kernel⟩, fun next taken => ?_⟩
  refine ⟨trivial, fun next taken => ?_⟩
  exact ⟨⟨Or.inl (by decide +kernel), by decide +kernel⟩, fun _ _ => trivial⟩

/-- A call, and then the workspace forbids every tool. -/
def forbiddenAfterwards : List (Action ℕ) :=
  [.ensureWorkspace ⟨plain "w", named_workspace⟩ none, .resolve OrderBy.stable coreRequest,
    .updateWorkspace ⟨plain "w", named_workspace⟩ none
      (some { toolPolicy := some "allowlist", allowedToolIds := some [] })]

/-- A tool the workspace no longer allows is still answered from memory. -/
theorem forbidden_tool_answered :
    ¬ Runs.Along (step fun _ _ _ => (0 : ℕ)) (AnsweredSafely fun _ _ _ => (0 : ℕ))
      (Core.start Registry.start [] : Core ℕ)
      (forbiddenAfterwards ++ [.resolve OrderBy.stable coreRequest]) := by
  intro along
  have hit : ((Runs.run (step fun _ _ _ => (0 : ℕ)) (Core.start Registry.start [] : Core ℕ)
      forbiddenAfterwards).bind fun core =>
        remembered core.cache core.clock (resolutionCacheKey coreRequest)).isSome = true := by
    decide +kernel
  have refused : ((Runs.run (step fun _ _ _ => (0 : ℕ)) (Core.start Registry.start [] : Core ℕ)
      forbiddenAfterwards).bind fun core =>
        (resolveUncached (fun _ _ _ => (0 : ℕ)) OrderBy.stable core.view
          coreRequest).toOption).isSome = false := by
    decide +kernel
  cases completed : Runs.run (step fun _ _ _ => (0 : ℕ)) (Core.start Registry.start [] : Core ℕ)
      forbiddenAfterwards with
  | none =>
    rw [completed] at hit
    cases hit
  | some core =>
    rw [completed, Option.bind_some] at hit refused
    obtain ⟨target, answered⟩ := Option.isSome_iff_exists.mp hit
    obtain ⟨fresh, resolved⟩ := along.at_action completed target answered OrderBy.stable
    rw [resolved] at refused
    cases refused

end MeetYou.RoutingEvents
