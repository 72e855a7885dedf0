import MeetYou.ToolRouting

/-!
# Remembered resolutions

The router remembers a target for five seconds under the normalized arguments of
the call that found it. A later call with the same key is answered from memory,
whatever the registry says by then; invalidation drops the decisions about an
endpoint, a tool or a workspace.

A workspace restricts its calls to the endpoints whose scope admits it.
`respects_scope_iff` says on which of the paths of a resolution that is checked:
a target chosen by its score is always in scope, a named endpoint and the endpoint
a waiting call falls back to are taken as they are.
-/

namespace MeetYou.RoutingCache

open Text EndpointSockets EndpointRegistry ToolRouting
open ToolDispatch (ToolRouterError)

/-- The key of a remembered resolution. -/
structure ResolutionKey where
  toolKey : Plain
  workspaceId : Plain
  endpointId : Plain
  offlinePolicy : Plain
  confirmed : Bool
deriving DecidableEq

/-- `_resolution_cache_key`. -/
def resolutionCacheKey (request : RoutingRequest) : ResolutionKey where
  toolKey := request.normalizedToolKey
  workspaceId := plain request.workspaceId
  endpointId := request.requestedEndpointId
  offlinePolicy :=
    if plain request.offlinePolicy = blank then plain "fail_fast" else plain request.offlinePolicy
  confirmed := request.confirmed

/-- `_resolution_cache`: each target with the clock reading at which it expires. -/
abbrev ResolutionCache := Dict ResolutionKey (Nat × ExecutionTarget)

/-- `_resolution_cache_ttl_seconds`, in milliseconds. -/
def resolutionCacheTtl : Nat := 5000

/-- The decision remembered under a key that has not expired. -/
def remembered (cache : ResolutionCache) (now : Nat) (key : ResolutionKey) :
    Option ExecutionTarget :=
  (cache.get key).bind fun entry => if entry.1 ≤ now then none else some entry.2

/-- `_get_cached_resolution`, which drops an entry that has expired. -/
def getCachedResolution (cache : ResolutionCache) (now : Nat) (key : ResolutionKey) :
    Option ExecutionTarget × ResolutionCache :=
  match cache.get key with
  | none => (none, cache)
  | some (expiresAt, target) =>
      if expiresAt ≤ now then (none, cache.pop key) else (some target, cache)

/-- `_cache_resolution`. -/
def cacheResolution (cache : ResolutionCache) (now : Nat) (key : ResolutionKey)
    (target : ExecutionTarget) : ResolutionCache :=
  cache.set key (now + resolutionCacheTtl, target)

/-- `invalidate_cache`: without an argument every entry goes, otherwise those that match
each argument that is given. -/
def invalidateCache (cache : ResolutionCache) (endpointId toolKey workspaceId : Plain) :
    ResolutionCache :=
  if endpointId = blank ∧ toolKey = blank ∧ workspaceId = blank then Dict.empty
  else
    cache.discard fun key entry =>
      (decide (toolKey = blank) || decide (key.toolKey = toolKey)) &&
      (decide (workspaceId = blank) || decide (key.workspaceId = workspaceId)) &&
      (decide (endpointId = blank) || decide (key.endpointId = endpointId) ||
        decide (entry.2.targetId = endpointId))

section
variable {Score : Type} [LinearOrder Score]
  (score : View → RoutingRequest → EndpointCandidate → Score) (order : CapabilityOrder)

/-- `resolve_execution_target`, with the cache it leaves. -/
def resolveExecutionTarget (view : View) (cache : ResolutionCache) (now : Nat)
    (request : RoutingRequest) : Except ToolRouterError ExecutionTarget × ResolutionCache :=
  let key := resolutionCacheKey request
  match getCachedResolution cache now key with
  | (some target, held) => (.ok target, held)
  | (none, held) =>
      match resolveUncached score order view request with
      | .ok target => (.ok target, cacheResolution held now key target)
      | .error raised => (.error raised, held)

/-! ## The scope of the chosen endpoint -/

/-- The endpoint is stored with a scope that admits the workspace. -/
def Admitted (view : View) (workspaceId : WorkspaceId) (endpointId : Plain) : Prop :=
  ∃ endpoint, view.registry.endpoints.get endpointId = some endpoint ∧
    Admits endpoint workspaceId

/-- A call for a stored workspace that returns an endpoint or an external target returns
one that admits the workspace. -/
def RespectsScope (view : View) (cache : ResolutionCache) (now : Nat)
    (request : RoutingRequest) : Prop :=
  ∀ target, (resolveExecutionTarget score order view cache now request).1 = .ok target →
    target.targetType ≠ .core →
      ∀ workspaceId workspace,
        view.registry.getByWorkspaceId request.workspaceId = some (workspaceId, workspace) →
          Admitted view workspaceId target.targetId

/-- What the resolver takes as it is: the endpoint a request names, if it can take the
call; and if none is named and something speaks against every endpoint, the endpoint of
the first listed row. -/
structure UncheckedInScope (view : View) (query : Query) (workspaceId : WorkspaceId) : Prop where
  named : query.endpointId ≠ blank → query.endpointId ≠ coreLocal →
    NamedServes view query.toolKey query.endpointId query.mayWait →
      Admitted view workspaceId query.endpointId
  waiting : query.endpointId = blank → view.isCoreTool query.toolKey = false →
    NoneEligible view query → query.mayWait = true → ∀ row endpoint,
      (order.sort (view.registry.enabledForTool query.toolKey)).head? = some row →
        view.registry.endpoints.get row.1.1 = some endpoint → Admits endpoint workspaceId

/-- What a call takes unchecked is in scope: the endpoint of the decision it is answered
with from memory, or for a tool the workspace allows what the resolver takes as it is. -/
def InScope (view : View) (cache : ResolutionCache) (now : Nat) (request : RoutingRequest)
    (workspaceId : WorkspaceId) : Prop :=
  match remembered cache now (resolutionCacheKey request) with
  | some target => target.targetType ≠ .core → Admitted view workspaceId target.targetId
  | none => (request.query view).toolKey ≠ blank →
      workspaceAllowsTool (request.query view).workspace (request.query view).toolKey = true →
        UncheckedInScope order view (request.query view) workspaceId

variable {score : View → RoutingRequest → EndpointCandidate → Score} {order : CapabilityOrder}
  {view : View} {cache : ResolutionCache} {now : Nat} {request : RoutingRequest}

/-- A lookup finds what is remembered. -/
theorem getCachedResolution_fst (key : ResolutionKey) :
    (getCachedResolution cache now key).1 = remembered cache now key := by
  unfold getCachedResolution remembered
  cases cache.get key with
  | none => rfl
  | some entry =>
    dsimp only [Option.bind_some]
    split <;> rfl

/-- A call is answered from memory where it can be. -/
theorem resolveExecutionTarget_fst :
    (resolveExecutionTarget score order view cache now request).1 =
      match remembered cache now (resolutionCacheKey request) with
      | some target => .ok target
      | none => resolveUncached score order view request := by
  rw [← getCachedResolution_fst]
  unfold resolveExecutionTarget
  dsimp only
  split
  · next found => rw [found]
  · next found =>
    rw [found]
    dsimp only
    split
    · next resolved => rw [resolved]
    · next raised => rw [raised]

/-- A candidate nothing speaks against is in the scope of the workspace. -/
theorem admits_of_accepted {workspaceId : WorkspaceId} {workspace : Workspace}
    {toolKey endpointId : Plain} {endpoint : Endpoint} {capability : EndpointCapability}
    {mayWait confirmed : Bool}
    (accepted : rejectedReasons view (some (workspaceId, workspace)) toolKey endpointId endpoint
      capability mayWait confirmed = []) : Admits endpoint workspaceId := by
  simp only [rejectedReasons, workspaceReasons, List.append_eq_nil_iff] at accepted
  by_contra outside
  rw [if_neg outside] at accepted
  exact absurd accepted.1.2.1 (by simp)

/-- A resolution that is not remembered respects the scope where the two unchecked paths
do. The scored path checks it itself. -/
theorem uncached_in_scope {workspaceId : WorkspaceId} {workspace : Workspace}
    {target : ExecutionTarget} (resolved : resolveUncached score order view request = .ok target)
    (remote : target.targetType ≠ .core)
    (stored : view.registry.getByWorkspaceId request.workspaceId = some (workspaceId, workspace))
    (unchecked : UncheckedInScope order view (request.query view) workspaceId) :
    Admitted view workspaceId target.targetId := by
  obtain ⟨keyed, allowed⟩ := resolveUncached_ok resolved
  rw [resolveUncached_of_allowed keyed allowed] at resolved
  split at resolved
  · next isNamed =>
    obtain ⟨serves, same, typed⟩ := resolveNamed_ok resolved
    rw [same]
    exact unchecked.named isNamed (mt typed.mpr remote) serves
  · next unnamed =>
    split at resolved
    · cases resolved
      exact absurd rfl remote
    · next notCore =>
      rcases resolveUnnamed_ok resolved with
        ⟨endpoint, capability, found, _, accepted⟩ | ⟨noneEligible, chosen⟩
      · rw [query_workspace, stored] at accepted
        exact ⟨endpoint, found, admits_of_accepted accepted⟩
      · unfold waitingTarget at chosen
        split at chosen
        · next mayWait =>
          obtain ⟨row, first, made⟩ := Option.bind_eq_some_iff.mp chosen
          obtain ⟨endpoint, found, rfl⟩ := Option.map_eq_some_iff.mp made
          exact ⟨endpoint, found, unchecked.waiting (not_not.mp unnamed)
            (Bool.eq_false_iff.mpr notCore) noneEligible mayWait row endpoint first found⟩
        · cases chosen

/-- Every call respects the scope of its workspace exactly where what the resolver leaves
unchecked is in scope: the endpoint a decision is remembered for, a named endpoint that
can take the call, and the endpoint a waiting call falls back to. -/
theorem respects_scope_iff :
    RespectsScope score order view cache now request ↔
      ∀ workspaceId workspace, view.registry.getByWorkspaceId request.workspaceId =
        some (workspaceId, workspace) → InScope order view cache now request workspaceId := by
  unfold RespectsScope InScope
  rw [resolveExecutionTarget_fst]
  cases found : remembered cache now (resolutionCacheKey request) with
  | some target =>
    constructor
    · intro respects workspaceId workspace stored remote
      exact respects target rfl remote workspaceId workspace stored
    · rintro inScope _ answered remote workspaceId workspace stored
      cases answered
      exact inScope workspaceId workspace stored remote
  | none =>
    constructor
    · intro respects workspaceId workspace stored keyed allowed
      refine ⟨fun named remote serves => ?_, fun unnamed notCore noneEligible mayWait => ?_⟩
      · obtain ⟨target, resolved⟩ := resolveNamed_of_serves serves
        obtain ⟨_, same, typed⟩ := resolveNamed_ok resolved
        rw [← same]
        refine respects target ?_ (mt typed.mp remote) workspaceId workspace stored
        rw [resolveUncached_of_allowed keyed allowed, if_pos named, resolved]
      · intro row endpoint first held
        obtain ⟨target, chosen, same, isEndpoint⟩ := waitingTarget_some_iff.mpr
          ⟨mayWait, row, endpoint, first, rfl, held⟩
        have answered : resolveUncached score order view request = .ok target := by
          rw [resolveUncached_of_allowed keyed allowed, if_neg (by simp [unnamed]),
            if_neg (by simp [notCore])]
          exact resolveUnnamed_of_noneEligible noneEligible chosen
        obtain ⟨other, also, admits⟩ :=
          respects target answered (by simp [isEndpoint]) workspaceId workspace stored
        rw [same, held] at also
        cases also
        exact admits
    · intro inScope target resolved remote workspaceId workspace stored
      obtain ⟨keyed, allowed⟩ := resolveUncached_ok resolved
      exact uncached_in_scope resolved remote stored
        (inScope workspaceId workspace stored keyed allowed)

theorem named_workspace : plain "w" ≠ blank := by decide +kernel

/-- Two workspaces and an endpoint that only the second may use. -/
def scopedRegistry : Registry where
  workspaces := (Dict.empty.set ⟨plain "w", named_workspace⟩ {}).set
    ⟨plain "v", by decide +kernel⟩ {}
  endpoints := Dict.empty.set (plain "e") { providerType := "edge", workspaceScope := ["v"] }
  capabilities := Dict.empty.set (plain "e", plain "t") {}
  memberships := Dict.empty

/-- The endpoint is connected. -/
def scopedView : View := ⟨scopedRegistry, [], some [plain "e"]⟩

/-- The first workspace names the endpoint. -/
def outsideRequest : RoutingRequest where
  toolKey := "t"
  workspaceId := "w"
  endpointId := "e"

/-- A named endpoint is used by a workspace its scope leaves out. -/
theorem named_endpoint_outside_scope :
    ¬ RespectsScope (fun _ _ _ => (0 : ℕ)) OrderBy.stable scopedView Dict.empty 0
      outsideRequest := by
  intro respects
  obtain ⟨target, answered, remote, same⟩ : ∃ target,
      (resolveExecutionTarget (fun _ _ _ => (0 : ℕ)) OrderBy.stable scopedView Dict.empty 0
        outsideRequest).1 = .ok target ∧ target.targetType ≠ .core ∧
          target.targetId = plain "e" := ⟨_, rfl, by decide, rfl⟩
  obtain ⟨endpoint, held, admits⟩ :=
    respects target answered remote ⟨plain "w", named_workspace⟩ {} rfl
  have stored : scopedView.registry.endpoints.get (plain "e") =
      some { providerType := "edge", workspaceScope := ["v"] } := rfl
  have found : scopedView.registry.endpoints.get (plain "e") = some endpoint := same ▸ held
  obtain rfl := Option.some.inj (stored.symm.trans found)
  exact absurd admits (by decide +kernel)

end

end MeetYou.RoutingCache
