import MeetYou.Foundation.FieldEdits
import MeetYou.Foundation.Runs
import MeetYou.MembershipBooks

/-!
# Memberships of endpoints and addresses

The services seed, add, remove and promote memberships of an endpoint or an address, and copy
the enabled ones into its scope. All of it keeps one enabled primary membership, but for the
removal of the primary one: its place is given to the membership just removed.
`memberships_formed_iff` says that this is the only way to lose it.
-/

namespace MeetYou.WorkspaceMemberships

open Text EndpointRegistry Runs

/-! ## The services -/

/-- A row of `endpoint_addresses`. -/
structure Address where
  endpointId : Plain
  workspaceScope : List String
  metadata : Fields

/-- The registry with its addresses and their memberships. -/
structure State where
  registry : Registry
  addresses : Dict Plain Address
  addressMemberships : Book

/-- How a change of an address's memberships can be refused. -/
inductive AddressError
  | addressNotFound
  | workspaceNotFound
  | addressLastWorkspaceMembership

/-- What `_sync_endpoint_scope` and `_sync_address_scope` write into the scope. -/
def scopeNames (registry : Registry) (book : Book) (owner : Plain) : List String :=
  (registry.publicWorkspaceIds (Book.listFor book owner)).map fun workspaceId => workspaceId.1.1

/-- The loop of a seeding: the first workspace becomes the primary one. -/
def seedAll (book : Book) (owner : Plain) (workspaces : List WorkspaceId) : Book :=
  workspaces.zipIdx.foldl (fun written (entry : WorkspaceId × Nat) =>
    Book.upsert written owner entry.1 (decide (entry.2 = 0))) book

namespace State

/-- `_sync_address_scope` -/
def syncAddressScope (state : State) (addressId : Plain) : State :=
  let workspaceIds := scopeNames state.registry state.addressMemberships addressId
  let primary := state.registry.primaryWorkspaceId
    (Book.listFor state.addressMemberships addressId)
  { state with
    addresses := state.addresses.revise addressId fun address =>
      { address with
        workspaceScope := workspaceIds
        metadata := (address.metadata.set "managed_workspace_ids"
          (.arr (workspaceIds.map Json.str))).set "primary_workspace_id" (.str primary) } }

/-- `seed_address_memberships`; without a requested workspace those of the endpoint are taken. -/
def seedAddressMemberships (state : State) (addressId : Plain) (workspaceIds : List String) :
    State :=
  match state.addresses.get addressId with
  | none => state
  | some address =>
      if Book.listFor state.addressMemberships addressId ≠ [] then
        state.syncAddressScope addressId
      else
        let requested := state.registry.openWorkspaces (EndpointSockets.normalizedIds workspaceIds)
        let endpointScope := ((state.registry.endpoints.get address.endpointId).map
          Endpoint.workspaceScope).getD []
        let seeded := if requested = [] then
          state.registry.openWorkspaces (EndpointSockets.normalizedIds endpointScope)
          else requested
        { state with
          addressMemberships := seedAll state.addressMemberships addressId seeded }
          |>.syncAddressScope addressId

/-- The address and the workspace that a membership change is about. -/
def addressTargets (state : State) (addressId workspaceId : String) :
    Except AddressError WorkspaceId :=
  match state.addresses.get (plain addressId) with
  | none => .error .addressNotFound
  | some _ =>
      match state.registry.getByWorkspaceId (strip workspaceId) with
      | none => .error .workspaceNotFound
      | some (key, _) => .ok key

/-- `EndpointAddressWorkspaceMembershipService.add_workspace` -/
def addAddressWorkspace (state : State) (addressId workspaceId : String) (makePrimary : Bool) :
    Except AddressError State :=
  (state.addressTargets addressId workspaceId).bind fun key =>
    if !state.registry.isOpen key then .error .workspaceNotFound
    else
      let first := decide (Book.listFor state.addressMemberships (plain addressId) = [])
      .ok ({ state with
        addressMemberships := Book.upsert state.addressMemberships (plain addressId) key
          (makePrimary || first) } |>.syncAddressScope (plain addressId))

/-- `EndpointAddressWorkspaceMembershipService.remove_workspace` -/
def removeAddressWorkspace (state : State) (addressId workspaceId : String) :
    Except AddressError State :=
  (state.addressTargets addressId workspaceId).bind fun key =>
    let rows := Book.listFor state.addressMemberships (plain addressId)
    if key ∉ rows.map Prod.fst then .ok (state.syncAddressScope (plain addressId))
    else if rows.length ≤ 1 then .error .addressLastWorkspaceMembership
    else .ok ({ state with
      addressMemberships := Book.disable state.addressMemberships (plain addressId) key }
        |>.syncAddressScope (plain addressId))

/-- `EndpointAddressWorkspaceMembershipService.set_primary_workspace` -/
def setAddressPrimaryWorkspace (state : State) (addressId workspaceId : String) :
    Except AddressError State :=
  (state.addressTargets addressId workspaceId).bind fun key =>
    if !state.registry.isOpen key then .error .workspaceNotFound
    else .ok ({ state with
      addressMemberships := Book.upsert state.addressMemberships (plain addressId) key true }
        |>.syncAddressScope (plain addressId))

/-- To make a workspace the primary one is to add it as that. -/
theorem setAddressPrimaryWorkspace_eq (state : State) (addressId workspaceId : String) :
    state.setAddressPrimaryWorkspace addressId workspaceId =
      state.addAddressWorkspace addressId workspaceId true := rfl

end State

/-- The calls of the two membership services. -/
inductive Action
  | seedEndpoint (endpointId : Plain) (workspaceIds : List String)
  | addToEndpoint (endpointId workspaceId : String) (makePrimary : Bool)
  | removeFromEndpoint (endpointId workspaceId : String)
  | setEndpointPrimary (endpointId workspaceId : String)
  | seedAddress (addressId : Plain) (workspaceIds : List String)
  | addToAddress (addressId workspaceId : String) (makePrimary : Bool)
  | removeFromAddress (addressId workspaceId : String)
  | setAddressPrimary (addressId workspaceId : String)

/-- One call. A call that raises is rolled back, and is no step. -/
def step (state : State) : Action → Option State
  | .seedEndpoint endpointId workspaceIds =>
      some { state with registry := state.registry.seedEndpointMemberships endpointId workspaceIds }
  | .addToEndpoint endpointId workspaceId makePrimary =>
      (state.registry.addWorkspace endpointId workspaceId makePrimary).toOption.map
        fun registry => { state with registry }
  | .removeFromEndpoint endpointId workspaceId =>
      (state.registry.removeWorkspace endpointId workspaceId).toOption.map
        fun registry => { state with registry }
  | .setEndpointPrimary endpointId workspaceId =>
      (state.registry.setPrimaryWorkspace endpointId workspaceId).toOption.map
        fun registry => { state with registry }
  | .seedAddress addressId workspaceIds =>
      some (state.seedAddressMemberships addressId workspaceIds)
  | .addToAddress addressId workspaceId makePrimary =>
      (state.addAddressWorkspace addressId workspaceId makePrimary).toOption
  | .removeFromAddress addressId workspaceId =>
      (state.removeAddressWorkspace addressId workspaceId).toOption
  | .setAddressPrimary addressId workspaceId =>
      (state.setAddressPrimaryWorkspace addressId workspaceId).toOption

/-! ## What is kept -/

/-- The scope lists exactly the workspaces of the enabled memberships, and one of these is
primary. -/
structure Kept (roster : Roster WorkspaceId) (scope : List String) : Prop where
  proper : Proper roster
  lists : ∀ name, name ∈ scope ↔
    ∃ workspaceId row, roster workspaceId = some row ∧ row.enabled = true ∧ workspaceId.1.1 = name
  distinct : scope.Nodup

/-- The owner has no membership yet, or its memberships are in order. -/
def Formed (roster : Roster WorkspaceId) (scope : List String) : Prop :=
  (∀ workspaceId, roster workspaceId = none) ∨ Kept roster scope

/-- The memberships of every owner with a scope are in order. -/
def AllFormed (book : Book) (scopes : Plain → Option (List String)) : Prop :=
  ∀ owner scope, scopes owner = some scope → Formed (rosterOf book owner) scope

/-- The scope of an endpoint that is not core. -/
def scopeOf (endpoint : Endpoint) : Option (List String) :=
  if Registry.isCoreEndpoint endpoint then none else some endpoint.workspaceScope

/-- The scope that is stored with an endpoint. -/
def endpointScopes (registry : Registry) (endpointId : Plain) : Option (List String) :=
  (registry.endpoints.get endpointId).bind scopeOf

/-- The scope that is stored with an address. -/
def addressScopes (addresses : Dict Plain Address) (addressId : Plain) : Option (List String) :=
  (addresses.get addressId).map Address.workspaceScope

/-- The memberships of endpoints and of addresses are in order. -/
structure WellFormed (state : State) : Prop where
  endpoints : AllFormed state.registry.memberships (endpointScopes state.registry)
  addresses : AllFormed state.addressMemberships (addressScopes state.addresses)

/-- The foreign key of a table of memberships: every one is of a stored workspace. -/
def Filed (registry : Registry) (book : Book) : Prop :=
  ∀ owner workspaceId row, rosterOf book owner workspaceId = some row →
    (registry.workspaces.get workspaceId).isSome = true

/-- The workspace is not the primary one of the owner. -/
def notPrimary (registry : Registry) (book : Book) (owner workspaceId : String) : Bool :=
  (registry.getByWorkspaceId (strip workspaceId)).all fun found =>
    !(rosterOf book (plain owner) found.1).any Membership.isPrimary

/-- A removal is not of the primary membership. -/
def sparesPrimary (state : State) : Action → Bool
  | .removeFromEndpoint endpointId workspaceId =>
      notPrimary state.registry state.registry.memberships endpointId workspaceId
  | .removeFromAddress addressId workspaceId =>
      notPrimary state.registry state.addressMemberships addressId workspaceId
  | _ => true

/-! ## One owner -/

section
variable {registry : Registry} {book : Book} {owner : Plain} {scope : List String}

/-- The scope that is written lists the workspaces of the enabled memberships. -/
theorem kept_scopeNames (filed : Filed registry book) (proper : Proper (rosterOf book owner)) :
    Kept (rosterOf book owner) (scopeNames registry book owner) := by
  have all : registry.publicWorkspaceIds (Book.listFor book owner) =
      (Book.listFor book owner).map Prod.fst := by
    refine List.filter_eq_self.mpr fun workspaceId member => ?_
    obtain ⟨⟨_, row⟩, listed, rfl⟩ := List.mem_map.mp member
    exact filed owner _ row ((mem_listFor book owner _ row).mp listed).1
  have named : scopeNames registry book owner =
      ((Book.listFor book owner).map Prod.fst).map fun workspaceId => workspaceId.1.1 := by
    rw [scopeNames, all]
  refine ⟨proper, fun name => ?_, ?_⟩
  · rw [named, List.map_map, List.mem_map]
    constructor
    · rintro ⟨⟨workspaceId, row⟩, listed, same⟩
      obtain ⟨found, on⟩ := (mem_listFor book owner workspaceId row).mp listed
      exact ⟨workspaceId, row, found, on, same⟩
    · rintro ⟨workspaceId, row, found, on, same⟩
      exact ⟨(workspaceId, row), (mem_listFor book owner workspaceId row).mpr ⟨found, on⟩, same⟩
  · rw [named]
    refine (nodup_listFor book owner).map fun first second same => ?_
    exact Subtype.ext (Subtype.ext same)

/-- Where the scope was just written, the memberships are in order or there are none. -/
theorem formed_scopeNames (filed : Filed registry book) :
    Formed (rosterOf book owner) (scopeNames registry book owner) ↔
      (∀ workspaceId, rosterOf book owner workspaceId = none) ∨ Proper (rosterOf book owner) :=
  or_congr_right ⟨Kept.proper, kept_scopeNames filed⟩

/-- An owner in order has an enabled membership, or none at all. -/
theorem Formed.nil_iff (formed : Formed (rosterOf book owner) scope) :
    Book.listFor book owner = [] ↔ ∀ workspaceId, rosterOf book owner workspaceId = none := by
  constructor
  · intro empty
    rcases formed with none | kept
    · exact none
    · obtain ⟨workspaceId, row, found, on⟩ := kept.proper.staffed
      have listed := (mem_listFor book owner workspaceId row).mpr ⟨found, on⟩
      rw [empty] at listed
      cases listed
  · intro none
    refine List.eq_nil_iff_forall_not_mem.mpr ?_
    rintro ⟨workspaceId, row⟩ listed
    have found := ((mem_listFor book owner workspaceId row).mp listed).1
    rw [none workspaceId] at found
    cases found

/-- A first membership is primary, and a further one joins the others. -/
theorem Formed.add (formed : Formed (rosterOf book owner) scope) (workspaceId : WorkspaceId)
    (makePrimary : Bool) : Proper (rosterOf (Book.upsert book owner workspaceId
      (makePrimary || decide (Book.listFor book owner = []))) owner) := by
  rw [rosterOf_upsert]
  rcases formed with absent | kept
  · rw [decide_eq_true ((@Formed.nil_iff book owner [] (Or.inl absent)).mpr absent), Bool.or_true]
    exact (proper_iff _).mpr ⟨workspaceId, led_enroll_primary _ workspaceId⟩
  · exact kept.proper.enroll workspaceId _

/-- Seeding enrolls the first workspace as the primary one. -/
theorem seedAll_proper (seeded : List WorkspaceId)
    (absent : ∀ workspaceId, rosterOf book owner workspaceId = none) :
    (∀ workspaceId, rosterOf (seedAll book owner seeded) owner workspaceId = none) ∨
      Proper (rosterOf (seedAll book owner seeded) owner) := by
  have further : ∀ (entries : List (WorkspaceId × Nat)) (before : Book),
      Proper (rosterOf before owner) → Proper (rosterOf (entries.foldl (fun written entry =>
        Book.upsert written owner entry.1 (decide (entry.2 = 0))) before) owner) := by
    intro entries
    induction entries with
    | nil => exact fun _ proper => proper
    | cons entry rest inductionHypothesis =>
      intro before proper
      refine inductionHypothesis _ ?_
      rw [rosterOf_upsert]
      exact proper.enroll entry.1 _
  cases seeded with
  | nil => exact Or.inl absent
  | cons first rest =>
    right
    rw [seedAll, List.zipIdx_cons, List.foldl_cons]
    refine further _ _ ?_
    rw [rosterOf_upsert]
    exact (proper_iff _).mpr ⟨first, led_enroll_primary _ first⟩

/-- What is not listed is not primary. -/
theorem Formed.unlisted (formed : Formed (rosterOf book owner) scope) {workspaceId : WorkspaceId}
    (unlisted : workspaceId ∉ (Book.listFor book owner).map Prod.fst) :
    (!(rosterOf book owner workspaceId).any Membership.isPrimary) = true := by
  rw [Bool.not_eq_true', ← Bool.not_eq_true, Option.any_eq_true]
  rintro ⟨row, found, primary⟩
  rcases formed with absent | kept
  · rw [absent] at found
    cases found
  · have on := kept.proper.enabled workspaceId row found primary
    have listed := (mem_listFor book owner workspaceId row).mpr ⟨found, on⟩
    exact unlisted (List.mem_map_of_mem listed)

/-- Removing a membership that is listed keeps the others in order exactly if it is not the
primary one. -/
theorem Formed.remove_iff (formed : Formed (rosterOf book owner) scope) {workspaceId : WorkspaceId}
    (listed : workspaceId ∈ (Book.listFor book owner).map Prod.fst) :
    ((∀ other, rosterOf (Book.disable book owner workspaceId) owner other = none) ∨
      Proper (rosterOf (Book.disable book owner workspaceId) owner)) ↔
      (!(rosterOf book owner workspaceId).any Membership.isPrimary) = true := by
  obtain ⟨⟨_, ⟨isPrimary, enabled⟩⟩, member, rfl⟩ := List.mem_map.mp listed
  obtain ⟨found, on⟩ := (mem_listFor book owner _ _).mp member
  dsimp only at found on ⊢
  cases on
  rcases formed with none | kept
  · rw [none] at found
    cases found
  · obtain ⟨leader, led⟩ := (proper_iff _).mp kept.proper
    rw [found, Option.any_some]
    cases isPrimary with
    | true =>
      obtain rfl := led.alone _ _ found rfl
      have left := rosterOf_disable_leader led
      refine iff_of_false ?_ (by decide)
      rintro (none | proper)
      · rw [none] at left
        cases left
      · exact absurd (proper.enabled _ _ left rfl) (by decide)
    | false =>
      refine iff_of_true (Or.inr ?_) rfl
      rw [rosterOf_disable_member found]
      refine (proper_iff _).mpr ⟨leader, led.retire_member ?_⟩
      rintro rfl
      rw [led.leads] at found
      cases found

end

/-! ## All owners -/

/-- A change of one owner's memberships and scope is all there is to check. -/
theorem AllFormed.change_iff {book after : Book} {scopes written : Plain → Option (List String)}
    (formed : AllFormed book scopes) {owner : Plain}
    (others : ∀ other, other ≠ owner → rosterOf after other = rosterOf book other)
    (kept : ∀ other, other ≠ owner → written other = scopes other) :
    AllFormed after written ↔
      ∀ scope, written owner = some scope → Formed (rosterOf after owner) scope := by
  constructor
  · exact fun all => all owner
  · intro own tested scope found
    by_cases same : tested = owner
    · subst same
      exact own scope found
    · rw [others tested same]
      exact formed tested scope (by rw [← kept tested same, found])

/-- The foreign key holds of a table with no new rows but of stored workspaces. -/
theorem Filed.of_rows {registry : Registry} {book after : Book} (filed : Filed registry book)
    (rows : ∀ owner workspaceId, rosterOf book owner workspaceId = none →
      rosterOf after owner workspaceId ≠ none →
      (registry.workspaces.get workspaceId).isSome = true) : Filed registry after := by
  intro owner workspaceId row found
  cases before : rosterOf book owner workspaceId with
  | none => exact rows owner workspaceId before (found ▸ Option.some_ne_none row)
  | some old => exact filed owner workspaceId old before

theorem Filed.upsert {registry : Registry} {book : Book} (filed : Filed registry book)
    (owner : Plain) {workspaceId : WorkspaceId}
    (stored : (registry.workspaces.get workspaceId).isSome = true) (isPrimary : Bool) :
    Filed registry (Book.upsert book owner workspaceId isPrimary) := by
  refine filed.of_rows fun tested other absent present => ?_
  by_cases same : tested = owner
  · subst same
    rw [rosterOf_upsert, enroll] at present
    by_cases own : other = workspaceId
    · exact own ▸ stored
    · rw [if_neg own, absent, Option.map_none, ite_self] at present
      exact absurd rfl present
  · rw [rosterOf_upsert_ne book same] at present
    exact absurd absent present

theorem Filed.seedAll {registry : Registry} {book : Book} (filed : Filed registry book)
    (owner : Plain) {seeded : List WorkspaceId}
    (stored : ∀ workspaceId ∈ seeded, (registry.workspaces.get workspaceId).isSome = true) :
    Filed registry (seedAll book owner seeded) := by
  have further : ∀ (entries : List (WorkspaceId × Nat)) (before : Book), Filed registry before →
      (∀ entry ∈ entries, (registry.workspaces.get entry.1).isSome = true) →
      Filed registry (entries.foldl (fun written entry =>
        Book.upsert written owner entry.1 (decide (entry.2 = 0))) before) := by
    intro entries
    induction entries with
    | nil => exact fun _ held _ => held
    | cons entry rest inductionHypothesis =>
      intro before held all
      refine inductionHypothesis _ (held.upsert owner (all entry List.mem_cons_self) _) ?_
      exact fun other member => all other (List.mem_cons_of_mem entry member)
  refine further _ _ filed fun entry member => stored entry.1 ?_
  obtain ⟨_, _, same⟩ := List.mem_zipIdx member
  exact same ▸ List.getElem_mem _

theorem Filed.disable {registry : Registry} {book : Book} (filed : Filed registry book)
    (owner : Plain) (workspaceId : WorkspaceId) :
    Filed registry (Book.disable book owner workspaceId) := by
  refine filed.of_rows fun tested other absent present => absurd ?_ present
  have released (row found : Membership) (held : book.get (owner, workspaceId) = some found) :
      (book.set (owner, workspaceId) row).get (tested, other) = none := by
    rw [Dict.get_set_ne _ _ ?_]
    · exact absent
    · intro same
      rw [same] at held
      exact absurd (held.symm.trans absent) (Option.some_ne_none found)
  unfold Book.disable
  split
  · exact absent
  · next found held =>
    split
    · exact absent
    · dsimp only
      split
      · exact released _ found held
      · split
        · exact released _ found held
        · rw [rosterOf, Dict.get_revise]
          split
          · next same => rw [same, released _ found held, Option.map_none]
          · exact released _ found held

/-- Workspaces that are open are stored. -/
theorem stored_of_isOpen {registry : Registry} {workspaceId : WorkspaceId}
    (isOpen : registry.isOpen workspaceId = true) :
    (registry.workspaces.get workspaceId).isSome = true := by
  unfold Registry.isOpen at isOpen
  obtain ⟨workspace, found, _⟩ := (Option.any_eq_true _ _).mp isOpen
  rw [found]
  rfl

theorem stored_of_openWorkspaces {registry : Registry} {workspaceIds : List Plain} :
    ∀ workspaceId ∈ registry.openWorkspaces workspaceIds,
      (registry.workspaces.get workspaceId).isSome = true :=
  fun _ member => stored_of_isOpen (List.mem_filter.mp member).2

/-- Both tables have their foreign keys. -/
structure Keyed (state : State) : Prop where
  endpoints : Filed state.registry state.registry.memberships
  addresses : Filed state.registry state.addressMemberships

theorem scopeOf_rescoped (endpoint : Endpoint) (scope : List String) (metadata : Fields) :
    scopeOf { endpoint with workspaceScope := scope, metadata := metadata } =
      (scopeOf endpoint).map fun _ => scope := by
  unfold scopeOf
  show (if Registry.isCoreEndpoint endpoint = true then none else some scope) = _
  split <;> rfl

theorem endpointScopes_sync (registry : Registry) (endpointId other : Plain) :
    endpointScopes (registry.syncEndpointScope endpointId) other =
      if other = endpointId then (endpointScopes registry endpointId).map fun _ =>
        scopeNames registry registry.memberships endpointId
      else endpointScopes registry other := by
  unfold endpointScopes Registry.syncEndpointScope Registry.reviseEndpoint
  dsimp only
  rw [Dict.get_revise]
  by_cases same : other = endpointId
  · rw [if_pos same.symm, if_pos same]
    cases registry.endpoints.get endpointId with
    | none => rfl
    | some endpoint =>
      rw [Option.map_some, Option.bind_some, Option.bind_some, scopeOf_rescoped, scopeNames,
        ← Registry.listForEndpoint]
  · rw [if_neg (Ne.symm same), if_neg same]

theorem addressScopes_sync (state : State) (addressId other : Plain) :
    addressScopes (state.syncAddressScope addressId).addresses other =
      if other = addressId then (addressScopes state.addresses addressId).map fun _ =>
        scopeNames state.registry state.addressMemberships addressId
      else addressScopes state.addresses other := by
  unfold addressScopes State.syncAddressScope
  dsimp only
  rw [Dict.get_revise]
  by_cases same : other = addressId
  · rw [if_pos same.symm, if_pos same]
    cases state.addresses.get addressId <;> rfl
  · rw [if_neg (Ne.symm same), if_neg same]

/-- Of one owner whose scope was just written, everything is in order or nothing is there. -/
def Settled (scope : Option (List String)) (roster : Roster WorkspaceId) : Prop :=
  scope.isSome = true → (∀ workspaceId, roster workspaceId = none) ∨ Proper roster

/-- A change of the memberships of one endpoint, with its scope written again. -/
theorem endpoint_change {state : State} (formed : WellFormed state) (keyed : Keyed state)
    (endpointId : Plain) {after : Book} (filed : Filed state.registry after)
    (others : ∀ other, other ≠ endpointId →
      rosterOf after other = rosterOf state.registry.memberships other) :
    let registry := ({ state.registry with memberships := after } : Registry)
      |>.syncEndpointScope endpointId
    Keyed { state with registry } ∧ (WellFormed { state with registry } ↔
      Settled (endpointScopes state.registry endpointId) (rosterOf after endpointId)) := by
  dsimp only
  refine ⟨⟨filed, keyed.addresses⟩, ?_⟩
  have own := endpointScopes_sync { state.registry with memberships := after } endpointId
  have changed := @AllFormed.change_iff _ after _ (endpointScopes
    (({ state.registry with memberships := after } : Registry).syncEndpointScope endpointId))
    formed.endpoints endpointId others fun other different => by rw [own, if_neg different]; rfl
  rw [own endpointId, if_pos rfl] at changed
  have names := @formed_scopeNames { state.registry with memberships := after } after endpointId
    filed
  constructor
  · intro all present
    obtain ⟨scope, found⟩ := Option.isSome_iff_exists.mp present
    refine names.mp (changed.mp all.endpoints _ ?_)
    show (endpointScopes state.registry endpointId).map _ = _
    rw [found]
    rfl
  · intro settled
    refine ⟨changed.mpr fun scope written => ?_, formed.addresses⟩
    obtain ⟨held, found, rfl⟩ := Option.map_eq_some_iff.mp written
    have present : endpointScopes state.registry endpointId = some held := found
    exact names.mpr (settled (by rw [present]; rfl))

/-- A change of the memberships of one address, with its scope written again. -/
theorem address_change {state : State} (formed : WellFormed state) (keyed : Keyed state)
    (addressId : Plain) {after : Book} (filed : Filed state.registry after)
    (others : ∀ other, other ≠ addressId →
      rosterOf after other = rosterOf state.addressMemberships other) :
    let next := ({ state with addressMemberships := after } : State).syncAddressScope addressId
    Keyed next ∧ (WellFormed next ↔
      Settled (addressScopes state.addresses addressId) (rosterOf after addressId)) := by
  dsimp only
  refine ⟨⟨keyed.endpoints, filed⟩, ?_⟩
  have own := addressScopes_sync { state with addressMemberships := after } addressId
  have changed := @AllFormed.change_iff _ after _ (addressScopes
    (({ state with addressMemberships := after } : State).syncAddressScope addressId).addresses)
    formed.addresses addressId others fun other different => by rw [own, if_neg different]
  rw [own addressId, if_pos rfl] at changed
  have names := @formed_scopeNames state.registry after addressId filed
  constructor
  · intro all present
    obtain ⟨scope, found⟩ := Option.isSome_iff_exists.mp present
    refine names.mp (changed.mp all.addresses _ ?_)
    rw [found]
    rfl
  · intro settled
    refine ⟨formed.endpoints, changed.mpr fun scope written => ?_⟩
    obtain ⟨held, found, rfl⟩ := Option.map_eq_some_iff.mp written
    exact names.mpr (settled (by rw [found]; rfl))

/-! ## What each call keeps -/

theorem AllFormed.settled {book : Book} {scopes : Plain → Option (List String)}
    (formed : AllFormed book scopes) (owner : Plain) :
    Settled (scopes owner) (rosterOf book owner) := by
  intro present
  obtain ⟨scope, found⟩ := Option.isSome_iff_exists.mp present
  exact (formed owner scope found).imp_right Kept.proper

theorem toOption_some {ε α : Type} {result : Except ε α} {value : α}
    (done : result.toOption = some value) : result = .ok value := by
  cases result with
  | error raised => cases done
  | ok other => exact congrArg Except.ok (Option.some.inj done)

/-- The target of a change is a stored workspace, and its endpoint has a scope. -/
theorem membershipTargets_ok {registry : Registry} {endpointId workspaceId : String}
    {key : WorkspaceId} (found : registry.membershipTargets endpointId workspaceId = .ok key) :
    (∃ workspace, registry.getByWorkspaceId (strip workspaceId) = some (key, workspace)) ∧
      (endpointScopes registry (plain endpointId)).isSome = true := by
  unfold Registry.membershipTargets at found
  unfold endpointScopes
  cases stored : registry.endpoints.get (plain endpointId) with
  | none =>
    rw [stored] at found
    cases found
  | some endpoint =>
    rw [stored] at found
    dsimp only at found
    split at found
    case isTrue => cases found
    case isFalse core =>
      split at found
      case h_1 => cases found
      case h_2 target workspace named =>
        cases found
        refine ⟨⟨workspace, named⟩, ?_⟩
        rw [Option.bind_some, scopeOf, if_neg core]
        rfl

theorem addressTargets_ok {state : State} {addressId workspaceId : String} {key : WorkspaceId}
    (found : state.addressTargets addressId workspaceId = .ok key) :
    (∃ workspace, state.registry.getByWorkspaceId (strip workspaceId) = some (key, workspace)) ∧
      (addressScopes state.addresses (plain addressId)).isSome = true := by
  unfold State.addressTargets at found
  unfold addressScopes
  cases stored : state.addresses.get (plain addressId) with
  | none =>
    rw [stored] at found
    cases found
  | some address =>
    rw [stored] at found
    dsimp only at found
    split at found
    case h_1 => cases found
    case h_2 target workspace named =>
      cases found
      exact ⟨⟨workspace, named⟩, rfl⟩

/-- Seeding an endpoint enrolls all its workspaces in its book. -/
theorem seedEndpoint_fold (registry : Registry) (endpointId : Plain) (seeded : List WorkspaceId) :
    seeded.zipIdx.foldl (fun written entry =>
        written.upsertMembership endpointId entry.1 (decide (entry.2 = 0))) registry =
      { registry with memberships := seedAll registry.memberships endpointId seeded } := by
  unfold seedAll
  generalize seeded.zipIdx = entries
  induction entries generalizing registry with
  | nil => rfl
  | cons entry rest inductionHypothesis =>
    rw [List.foldl_cons, inductionHypothesis, Registry.upsertMembership, List.foldl_cons]

theorem rosterOf_seedAll_ne (book : Book) {owner tested : Plain} (different : tested ≠ owner)
    (seeded : List WorkspaceId) :
    rosterOf (seedAll book owner seeded) tested = rosterOf book tested := by
  unfold seedAll
  generalize seeded.zipIdx = entries
  induction entries generalizing book with
  | nil => rfl
  | cons entry rest inductionHypothesis =>
    rw [List.foldl_cons, inductionHypothesis, rosterOf_upsert_ne book different]

section
variable {state : State} (formed : WellFormed state) (keyed : Keyed state)
include formed keyed

theorem seedEndpoint_kept (endpointId : Plain) (workspaceIds : List String) :
    Keyed { state with
        registry := state.registry.seedEndpointMemberships endpointId workspaceIds } ∧
      WellFormed { state with
        registry := state.registry.seedEndpointMemberships endpointId workspaceIds } := by
  unfold Registry.seedEndpointMemberships
  split
  case h_1 => exact ⟨keyed, formed⟩
  case h_2 endpoint stored =>
    by_cases members : state.registry.listForEndpoint endpointId = []
    · have seeds : ∀ seeded : List WorkspaceId, (∀ workspaceId ∈ seeded,
          (state.registry.workspaces.get workspaceId).isSome = true) →
          Keyed { state with registry := Registry.syncEndpointScope { state.registry with
            memberships := seedAll state.registry.memberships endpointId seeded } endpointId } ∧
          WellFormed { state with registry := Registry.syncEndpointScope { state.registry with
            memberships := seedAll state.registry.memberships endpointId seeded } endpointId } := by
        intro seeded stored
        obtain ⟨still, decided⟩ := endpoint_change formed keyed endpointId
          (keyed.endpoints.seedAll endpointId stored)
          fun other different => rosterOf_seedAll_ne _ different seeded
        refine ⟨still, decided.mpr fun present => ?_⟩
        obtain ⟨scope, found⟩ := Option.isSome_iff_exists.mp present
        exact seedAll_proper seeded ((formed.endpoints endpointId scope found).nil_iff.mp members)
      rw [if_neg (not_not.mpr members)]
      dsimp only
      rw [seedEndpoint_fold]
      refine seeds _ ?_
      split <;> exact stored_of_openWorkspaces
    · rw [if_pos members]
      obtain ⟨still, decided⟩ := endpoint_change formed keyed endpointId keyed.endpoints
        fun other _ => rfl
      exact ⟨still, decided.mpr (formed.endpoints.settled endpointId)⟩

theorem addToEndpoint_kept {endpointId workspaceId : String} {makePrimary : Bool}
    {registry : Registry}
    (done : state.registry.addWorkspace endpointId workspaceId makePrimary = .ok registry) :
    Keyed { state with registry } ∧ WellFormed { state with registry } := by
  obtain ⟨key, _, changed⟩ := Edit.bind_ok done
  split at changed
  case isTrue => cases changed
  case isFalse isOpen =>
    cases changed
    rw [Bool.not_eq_true, Bool.not_eq_false'] at isOpen
    unfold Registry.upsertMembership
    obtain ⟨still, decided⟩ := endpoint_change formed keyed (plain endpointId)
      (keyed.endpoints.upsert (plain endpointId) (stored_of_isOpen isOpen) _)
      fun other different => rosterOf_upsert_ne _ different key _
    refine ⟨still, decided.mpr fun present => ?_⟩
    obtain ⟨scope, found⟩ := Option.isSome_iff_exists.mp present
    exact Or.inr ((formed.endpoints _ scope found).add key makePrimary)

theorem setEndpointPrimary_kept {endpointId workspaceId : String} {registry : Registry}
    (done : state.registry.setPrimaryWorkspace endpointId workspaceId = .ok registry) :
    Keyed { state with registry } ∧ WellFormed { state with registry } := by
  rw [Registry.setPrimaryWorkspace_eq] at done
  exact addToEndpoint_kept formed keyed done

/-- Removing a workspace of an endpoint keeps the memberships in order exactly if it is not the
primary one. -/
theorem removeFromEndpoint_kept {endpointId workspaceId : String} {registry : Registry}
    (done : state.registry.removeWorkspace endpointId workspaceId = .ok registry) :
    Keyed { state with registry } ∧ (WellFormed { state with registry } ↔
      notPrimary state.registry state.registry.memberships endpointId workspaceId = true) := by
  obtain ⟨key, target, changed⟩ := Edit.bind_ok done
  obtain ⟨⟨workspace, named⟩, present⟩ := membershipTargets_ok target
  obtain ⟨scope, found⟩ := Option.isSome_iff_exists.mp present
  have own := formed.endpoints _ scope found
  have spared : notPrimary state.registry state.registry.memberships endpointId workspaceId =
      !(rosterOf state.registry.memberships (plain endpointId) key).any Membership.isPrimary := by
    rw [notPrimary, named, Option.all_some]
  rw [spared]
  dsimp only at changed
  unfold Registry.listForEndpoint at changed
  split at changed
  case isTrue unlisted =>
    cases changed
    obtain ⟨still, decided⟩ := endpoint_change formed keyed (plain endpointId) keyed.endpoints
      fun other _ => rfl
    refine ⟨still, iff_of_true (decided.mpr (formed.endpoints.settled _)) ?_⟩
    exact own.unlisted unlisted
  case isFalse listed =>
    split at changed
    case isTrue => cases changed
    case isFalse =>
      cases changed
      unfold Registry.disableMembership
      obtain ⟨still, decided⟩ := endpoint_change formed keyed (plain endpointId)
        (keyed.endpoints.disable (plain endpointId) key)
        fun other different => rosterOf_disable_ne _ different key
      refine ⟨still, decided.trans ?_⟩
      rw [← own.remove_iff (not_not.mp listed)]
      exact ⟨fun settled => settled present, fun either _ => either⟩

theorem seedAddress_kept (addressId : Plain) (workspaceIds : List String) :
    Keyed (state.seedAddressMemberships addressId workspaceIds) ∧
      WellFormed (state.seedAddressMemberships addressId workspaceIds) := by
  unfold State.seedAddressMemberships
  split
  case h_1 => exact ⟨keyed, formed⟩
  case h_2 address stored =>
    by_cases members : Book.listFor state.addressMemberships addressId = []
    · have seeds : ∀ seeded : List WorkspaceId, (∀ workspaceId ∈ seeded,
          (state.registry.workspaces.get workspaceId).isSome = true) →
          Keyed (State.syncAddressScope { state with
            addressMemberships := seedAll state.addressMemberships addressId seeded } addressId) ∧
          WellFormed (State.syncAddressScope { state with
            addressMemberships := seedAll state.addressMemberships addressId seeded }
              addressId) := by
        intro seeded stored
        obtain ⟨still, decided⟩ := address_change formed keyed addressId
          (keyed.addresses.seedAll addressId stored)
          fun other different => rosterOf_seedAll_ne _ different seeded
        refine ⟨still, decided.mpr fun present => ?_⟩
        obtain ⟨scope, found⟩ := Option.isSome_iff_exists.mp present
        exact seedAll_proper seeded ((formed.addresses addressId scope found).nil_iff.mp members)
      rw [if_neg (not_not.mpr members)]
      dsimp only
      refine seeds _ ?_
      split <;> exact stored_of_openWorkspaces
    · rw [if_pos members]
      obtain ⟨still, decided⟩ := address_change formed keyed addressId keyed.addresses
        fun other _ => rfl
      exact ⟨still, decided.mpr (formed.addresses.settled addressId)⟩

theorem addToAddress_kept {addressId workspaceId : String} {makePrimary : Bool} {next : State}
    (done : state.addAddressWorkspace addressId workspaceId makePrimary = .ok next) :
    Keyed next ∧ WellFormed next := by
  obtain ⟨key, _, changed⟩ := Edit.bind_ok done
  split at changed
  case isTrue => cases changed
  case isFalse isOpen =>
    cases changed
    rw [Bool.not_eq_true, Bool.not_eq_false'] at isOpen
    obtain ⟨still, decided⟩ := address_change formed keyed (plain addressId)
      (keyed.addresses.upsert (plain addressId) (stored_of_isOpen isOpen) _)
      fun other different => rosterOf_upsert_ne _ different key _
    refine ⟨still, decided.mpr fun present => ?_⟩
    obtain ⟨scope, found⟩ := Option.isSome_iff_exists.mp present
    exact Or.inr ((formed.addresses _ scope found).add key makePrimary)

theorem setAddressPrimary_kept {addressId workspaceId : String} {next : State}
    (done : state.setAddressPrimaryWorkspace addressId workspaceId = .ok next) :
    Keyed next ∧ WellFormed next := by
  rw [State.setAddressPrimaryWorkspace_eq] at done
  exact addToAddress_kept formed keyed done

theorem removeFromAddress_kept {addressId workspaceId : String} {next : State}
    (done : state.removeAddressWorkspace addressId workspaceId = .ok next) :
    Keyed next ∧ (WellFormed next ↔
      notPrimary state.registry state.addressMemberships addressId workspaceId = true) := by
  obtain ⟨key, target, changed⟩ := Edit.bind_ok done
  obtain ⟨⟨workspace, named⟩, present⟩ := addressTargets_ok target
  obtain ⟨scope, found⟩ := Option.isSome_iff_exists.mp present
  have own := formed.addresses _ scope found
  have spared : notPrimary state.registry state.addressMemberships addressId workspaceId =
      !(rosterOf state.addressMemberships (plain addressId) key).any Membership.isPrimary := by
    rw [notPrimary, named, Option.all_some]
  rw [spared]
  dsimp only at changed
  split at changed
  case isTrue unlisted =>
    cases changed
    obtain ⟨still, decided⟩ := address_change formed keyed (plain addressId) keyed.addresses
      fun other _ => rfl
    refine ⟨still, iff_of_true (decided.mpr (formed.addresses.settled _)) ?_⟩
    exact own.unlisted unlisted
  case isFalse listed =>
    split at changed
    case isTrue => cases changed
    case isFalse =>
      cases changed
      obtain ⟨still, decided⟩ := address_change formed keyed (plain addressId)
        (keyed.addresses.disable (plain addressId) key)
        fun other different => rosterOf_disable_ne _ different key
      refine ⟨still, decided.trans ?_⟩
      rw [← own.remove_iff (not_not.mp listed)]
      exact ⟨fun settled => settled present, fun either _ => either⟩

/-- One call keeps the foreign keys, and the memberships in order unless it removes a primary
one. -/
theorem step_kept {next : State} {action : Action} (taken : step state action = some next) :
    Keyed next ∧ (WellFormed next ↔ sparesPrimary state action = true) := by
  cases action with
  | seedEndpoint endpointId workspaceIds =>
    obtain rfl := Option.some.inj taken
    exact (seedEndpoint_kept formed keyed endpointId workspaceIds).imp_right fun still =>
      iff_of_true still rfl
  | addToEndpoint endpointId workspaceId makePrimary =>
    obtain ⟨registry, done, rfl⟩ := Option.map_eq_some_iff.mp taken
    exact (addToEndpoint_kept formed keyed (toOption_some done)).imp_right fun still =>
      iff_of_true still rfl
  | removeFromEndpoint endpointId workspaceId =>
    obtain ⟨registry, done, rfl⟩ := Option.map_eq_some_iff.mp taken
    exact removeFromEndpoint_kept formed keyed (toOption_some done)
  | setEndpointPrimary endpointId workspaceId =>
    obtain ⟨registry, done, rfl⟩ := Option.map_eq_some_iff.mp taken
    exact (setEndpointPrimary_kept formed keyed (toOption_some done)).imp_right fun still =>
      iff_of_true still rfl
  | seedAddress addressId workspaceIds =>
    obtain rfl := Option.some.inj taken
    exact (seedAddress_kept formed keyed addressId workspaceIds).imp_right fun still =>
      iff_of_true still rfl
  | addToAddress addressId workspaceId makePrimary =>
    exact (addToAddress_kept formed keyed (toOption_some taken)).imp_right fun still =>
      iff_of_true still rfl
  | removeFromAddress addressId workspaceId =>
    exact removeFromAddress_kept formed keyed (toOption_some taken)
  | setAddressPrimary addressId workspaceId =>
    exact (setAddressPrimary_kept formed keyed (toOption_some taken)).imp_right fun still =>
      iff_of_true still rfl

end

/-- The memberships of endpoints and addresses are in order after every call exactly if no call
removes the primary one of its owner. -/
theorem memberships_formed_iff (state : State) (keyed : Keyed state) (formed : WellFormed state)
    (actions : List Action) : Throughout step WellFormed state actions ↔
      Taking step (fun state action => sparesPrimary state action = true) state actions :=
  throughout_iff_taking (fun state => Keyed state ∧ WellFormed state)
    (fun _ _ _ held taken still => ⟨(step_kept held.2 held.1 taken).1, still⟩)
    (fun _ _ _ held taken => (step_kept held.2 held.1 taken).2) ⟨keyed, formed⟩ formed actions

/-! ## Two runs -/

/-- A desktop endpoint with one address, two workspaces, and no membership. -/
def newDesktop : State where
  registry :=
    { workspaces := (Dict.empty.set ⟨plain "personal", by decide +kernel⟩ {}).set
        ⟨plain "study", by decide +kernel⟩ {}
      endpoints := Dict.empty.set (plain "desktop") { providerType := "desktop" }
      capabilities := Dict.empty
      memberships := Dict.empty }
  addresses := Dict.empty.set (plain "desktop.me")
    { endpointId := plain "desktop", workspaceScope := [], metadata := Dict.empty }
  addressMemberships := Dict.empty

theorem newDesktop_keyed : Keyed newDesktop where
  endpoints _ _ _ found := nomatch found
  addresses _ _ _ found := nomatch found

theorem newDesktop_formed : WellFormed newDesktop where
  endpoints _ _ _ := Or.inl fun _ => rfl
  addresses _ _ _ := Or.inl fun _ => rfl

/-- The endpoint and its address join both workspaces; the study takes the lead before the personal
workspace is left. -/
theorem other_leads_first : Throughout step WellFormed newDesktop
    [.seedEndpoint (plain "desktop") ["personal", "study"], .setEndpointPrimary "desktop" "study",
      .removeFromEndpoint "desktop" "personal", .seedAddress (plain "desktop.me") [],
      .addToAddress "desktop.me" "personal" false, .removeFromAddress "desktop.me" "personal"] :=
  (memberships_formed_iff newDesktop newDesktop_keyed newDesktop_formed _).mpr (by decide +kernel)

/-- The endpoint, or its address, leaves the workspace that is its primary one. -/
theorem leader_leaves :
    (¬ Throughout step WellFormed newDesktop
      [.seedEndpoint (plain "desktop") ["personal", "study"],
        .removeFromEndpoint "desktop" "personal"]) ∧
    ¬ Throughout step WellFormed newDesktop
      [.seedAddress (plain "desktop.me") ["personal", "study"],
        .removeFromAddress "desktop.me" "personal"] := by
  have decided := fun actions => @throughout_iff_taking State Action step
    (fun state action => sparesPrimary state action = true)
    (fun state => Keyed state ∧ WellFormed state) WellFormed
    (fun _ _ _ held taken still => ⟨(step_kept held.2 held.1 taken).1, still⟩)
    (fun _ _ _ held taken => (step_kept held.2 held.1 taken).2) newDesktop
    ⟨newDesktop_keyed, newDesktop_formed⟩ newDesktop_formed actions
  constructor
  · exact fun still => absurd ((decided _).mp still) (by decide +kernel)
  · exact fun still => absurd ((decided _).mp still) (by decide +kernel)

end MeetYou.WorkspaceMemberships
