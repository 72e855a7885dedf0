import MeetYou.Foundation.Runs
import MeetYou.Foundation.SetIndex
import MeetYou.Foundation.Text
import MeetYou.Foundation.Values

/-!
# Endpoint sockets and their subscriptions

The socket manager keeps three tables: the sockets of each endpoint, the sockets
of each subscription target, and the metadata of each socket. The first two are
indexes; the metadata of a socket lists the keys it stands under. Six operations
edit an index and the metadata of one socket together.

A subscription request matches a stored subscription by identifier or by target,
so one request may replace several stored ones. `step_consistent` shows for each
operation that both indexes still mirror the metadata, and
`reached_consistent` carries this to every sequence of operations. Every lock
acquisition of the source is one action; `updateSubscription` acquires the lock
twice, and its two halves are also available as separate actions.
-/

namespace MeetYou.EndpointSockets

open Text SetIndex

/-- A subscription stored in a socket's metadata. -/
structure Subscription where
  subscriptionId : Plain
  targetType : Plain
  targetId : Plain
deriving DecidableEq

/-- The index key of a subscription. -/
abbrev Target := Plain × Plain

def Subscription.target (item : Subscription) : Target := (item.targetType, item.targetId)

/-- The metadata a binding brings along, with the endpoints it registers. -/
structure BindMetadata where
  endpointIds : Option (List String) := none
  registeredEndpoints : Option (List String) := none
  others : Fields := Dict.empty

/-- No metadata was given. -/
def BindMetadata.isEmpty (metadata : BindMetadata) : Bool :=
  metadata.endpointIds.isNone && metadata.registeredEndpoints.isNone &&
    metadata.others.entries.isEmpty

/-- The registered endpoints: the first of the two lists that is present and not empty. -/
def BindMetadata.candidates (metadata : BindMetadata) : List String :=
  match metadata.endpointIds with
  | some (first :: rest) => first :: rest
  | _ => metadata.registeredEndpoints.getD []

/-- A row of `_connection_meta`. A field is absent until an operation writes it. -/
structure ConnectionMeta where
  endpointId : Option Plain := none
  endpointIds : Option (List Plain) := none
  connectionId : Option Plain := none
  provider : Option Fields := none
  metadata : Option BindMetadata := none
  subscriptions : Option (List Subscription) := none
  connectedAt : Option Instant := none
  updatedAt : Option Instant := none

/-- The empty text. -/
def blank : Plain := plain ""

/-- `metadata.get("endpoint_ids") or [metadata.get("endpoint_id")]` without blanks. -/
def ConnectionMeta.boundIds (metadata : ConnectionMeta) : List Plain :=
  (match metadata.endpointIds with
    | some (first :: rest) => first :: rest
    | _ => [metadata.endpointId.getD blank]).filter fun endpointId => decide (endpointId ≠ blank)

/-- `list(metadata.get("subscriptions") or [])`. -/
def ConnectionMeta.items (metadata : ConnectionMeta) : List Subscription :=
  metadata.subscriptions.getD []

section
variable {Socket : Type} [DecidableEq Socket]

/-- `EndpointWebSocketManager`. -/
structure Manager (Socket : Type) where
  connections : Dict Plain (Finset Socket)
  connectionMeta : Dict Socket ConnectionMeta
  subscriptions : Dict Target (Finset Socket)

/-- A manager without sockets. -/
def Manager.start : Manager Socket := ⟨Dict.empty, Dict.empty, Dict.empty⟩

/-- `dict(self._connection_meta.get(websocket) or {})`. -/
def Manager.metaOf (manager : Manager Socket) (websocket : Socket) : ConnectionMeta :=
  (manager.connectionMeta.get websocket).getD {}

/-- `EndpointWebSocketManager.connect`. -/
def connect (manager : Manager Socket) (websocket : Socket) (now : Instant) : Manager Socket :=
  { manager with
    connectionMeta := manager.connectionMeta.set websocket
      { endpointId := some blank, connectionId := some blank, provider := some Dict.empty,
        subscriptions := some [], connectedAt := some now, updatedAt := some now } }

/-- Take a candidate unless it is blank or already taken. -/
def collect (endpointIds : List Plain) (candidate : String) : List Plain :=
  if plain candidate ≠ blank ∧ plain candidate ∉ endpointIds then
    endpointIds ++ [plain candidate]
  else endpointIds

/-- The endpoints of a binding in order, blanks and repetitions left out. -/
def normalizedIds (candidates : List String) : List Plain := candidates.foldl collect []

/-- `EndpointWebSocketManager.bind_endpoint`. -/
def bindEndpoint (manager : Manager Socket) (websocket : Socket) (endpointId connectionId : String)
    (provider : Fields) (metadata : BindMetadata) (now : Instant) : Manager Socket :=
  let endpointIds := normalizedIds ((plain endpointId).1 :: metadata.candidates)
  let previous := manager.metaOf websocket
  let left := previous.boundIds.filter fun previousId => decide (previousId ∉ endpointIds)
  { manager with
    connections := addAll (discardAll manager.connections left websocket) endpointIds websocket
    connectionMeta := manager.connectionMeta.set websocket
      { previous with
        endpointId := some (plain endpointId)
        endpointIds := some endpointIds
        connectionId := some
          (if connectionId ≠ "" then plain connectionId else previous.connectionId.getD blank)
        provider := some
          (if provider.entries.isEmpty then previous.provider.getD Dict.empty else provider)
        metadata := some (if metadata.isEmpty then previous.metadata.getD {} else metadata)
        updatedAt := some now } }

/-- `EndpointWebSocketManager.disconnect`, with the metadata it returns. -/
def disconnect (manager : Manager Socket) (websocket : Socket) : ConnectionMeta × Manager Socket :=
  let metadata := manager.metaOf websocket
  (metadata,
    { connections := discardAll manager.connections metadata.boundIds websocket
      connectionMeta := manager.connectionMeta.pop websocket
      subscriptions := removeEverywhere manager.subscriptions websocket })

/-- `EndpointWebSocketManager._subscription_matches`. -/
def subscriptionMatches (subscriptionId targetType targetId : Plain) (item : Subscription) : Bool :=
  (decide (subscriptionId ≠ blank) && decide (item.subscriptionId = subscriptionId)) ||
    (decide (targetType ≠ blank) && decide (targetId ≠ blank) &&
      decide (item.targetType = targetType) && decide (item.targetId = targetId))

/-- `EndpointWebSocketManager.subscribe`. -/
def subscribe (manager : Manager Socket) (websocket : Socket)
    (targetType targetId subscriptionId : String) (now : Instant) : Manager Socket :=
  if plain targetType = blank ∨ plain targetId = blank then manager
  else
    let item : Subscription := ⟨plain subscriptionId, plain targetType, plain targetId⟩
    let matched := subscriptionMatches item.subscriptionId item.targetType item.targetId
    let previous := manager.metaOf websocket
    let left := ((previous.items.filter matched).map Subscription.target).filter
      fun target => decide (target ≠ item.target)
    { manager with
      subscriptions :=
        discardAll (add manager.subscriptions item.target websocket) left websocket
      connectionMeta := manager.connectionMeta.set websocket
        { previous with
          subscriptions := some ((previous.items.filter fun held => !matched held) ++ [item])
          updatedAt := some now } }

/-- `EndpointWebSocketManager.unsubscribe`, with the number of subscriptions it removed. -/
def unsubscribe (manager : Manager Socket) (websocket : Socket)
    (targetType targetId subscriptionId : String) (now : Instant) : Nat × Manager Socket :=
  let matched := subscriptionMatches (plain subscriptionId) (plain targetType) (plain targetId)
  let previous := manager.metaOf websocket
  let removed := previous.items.filter matched
  (removed.length,
    { manager with
      subscriptions :=
        discardAll manager.subscriptions (removed.map Subscription.target) websocket
      connectionMeta := manager.connectionMeta.set websocket
        { previous with
          subscriptions := some (previous.items.filter fun held => !matched held)
          updatedAt := some now } })

/-- `EndpointWebSocketManager.update_subscription`. -/
def updateSubscription (manager : Manager Socket) (websocket : Socket)
    (targetType targetId subscriptionId : String) (now : Instant) : Manager Socket :=
  let released := unsubscribe manager websocket
    (if subscriptionId ≠ "" then "" else targetType)
    (if subscriptionId ≠ "" then "" else targetId) subscriptionId now
  subscribe released.2 websocket targetType targetId subscriptionId now

/-- One operation on the manager, with the clock reading it takes. -/
inductive Action (Socket : Type) where
  | connect (websocket : Socket) (now : Instant)
  | bindEndpoint (websocket : Socket) (endpointId connectionId : String) (provider : Fields)
      (metadata : BindMetadata) (now : Instant)
  | subscribe (websocket : Socket) (targetType targetId subscriptionId : String) (now : Instant)
  | updateSubscription (websocket : Socket) (targetType targetId subscriptionId : String)
      (now : Instant)
  | unsubscribe (websocket : Socket) (targetType targetId subscriptionId : String) (now : Instant)
  | disconnect (websocket : Socket)

/-- Operations in sequence. A socket connects once; every other operation is taken
in every state, also for a socket that is not or no longer connected. -/
def step (manager : Manager Socket) : Action Socket → Option (Manager Socket)
  | .connect websocket now =>
      match manager.connectionMeta.get websocket with
      | some _ => none
      | none => some (connect manager websocket now)
  | .bindEndpoint websocket endpointId connectionId provider metadata now =>
      some (bindEndpoint manager websocket endpointId connectionId provider metadata now)
  | .subscribe websocket targetType targetId subscriptionId now =>
      some (subscribe manager websocket targetType targetId subscriptionId now)
  | .updateSubscription websocket targetType targetId subscriptionId now =>
      some (updateSubscription manager websocket targetType targetId subscriptionId now)
  | .unsubscribe websocket targetType targetId subscriptionId now =>
      some (unsubscribe manager websocket targetType targetId subscriptionId now).2
  | .disconnect websocket => some (disconnect manager websocket).2

/-- The endpoints a socket's metadata records. -/
def Manager.endpointIds (manager : Manager Socket) (websocket : Socket) : List Plain :=
  (manager.metaOf websocket).endpointIds.getD []

/-- The subscriptions a socket's metadata records. -/
def Manager.items (manager : Manager Socket) (websocket : Socket) : List Subscription :=
  (manager.metaOf websocket).items

/-- The targets a socket's metadata records. -/
def Manager.targets (manager : Manager Socket) (websocket : Socket) : List Target :=
  (manager.items websocket).map Subscription.target

/-- No two subscriptions of a socket share an identifier that is not blank. -/
def IdsDistinct (items : List Subscription) : Prop :=
  items.Pairwise fun first second =>
    first.subscriptionId = second.subscriptionId → first.subscriptionId = blank

/-- The metadata of a socket names no blank endpoint, and without a list of
endpoints no endpoint at all. -/
def ConnectionMeta.Recorded (metadata : ConnectionMeta) : Prop :=
  metadata.boundIds = metadata.endpointIds.getD []

/-- Both indexes mirror the metadata. -/
structure Consistent (manager : Manager Socket) : Prop where
  connected : Mirrors manager.connections manager.endpointIds
  subscribed : Mirrors manager.subscriptions manager.targets
  named : ∀ websocket, IdsDistinct (manager.items websocket)
  recorded : ∀ websocket, (manager.metaOf websocket).Recorded

/-- The metadata of one socket after another's was written. -/
theorem get_meta_set (metas : Dict Socket ConnectionMeta) (written websocket : Socket)
    (metadata : ConnectionMeta) :
    ((metas.set written metadata).get websocket).getD {} =
      if written = websocket then metadata else (metas.get websocket).getD {} := by
  rw [Dict.get_set]
  split <;> rfl

/-- The empty manager has nothing to mirror. -/
theorem start_consistent : Consistent (Manager.start : Manager Socket) where
  connected := Mirrors.empty
  subscribed := Mirrors.empty
  named _ := List.Pairwise.nil
  recorded _ := rfl

/-- A fresh socket starts with metadata that names nothing. -/
theorem connect_consistent {manager : Manager Socket} (consistent : Consistent manager)
    {websocket : Socket} (fresh : manager.connectionMeta.get websocket = none) (now : Instant) :
    Consistent (connect manager websocket now) := by
  have unnamed : manager.metaOf websocket = {} := by simp [Manager.metaOf, fresh]
  have sameIds : (connect manager websocket now).endpointIds = manager.endpointIds := by
    funext member
    simp only [Manager.endpointIds, Manager.metaOf, connect, get_meta_set]
    split
    · next same => simp [← same, fresh]
    · rfl
  have sameItems : (connect manager websocket now).items = manager.items := by
    funext member
    simp only [Manager.items, Manager.metaOf, connect, get_meta_set]
    split
    · next same => simp [← same, fresh, ConnectionMeta.items]
    · rfl
  have sameTargets : (connect manager websocket now).targets = manager.targets := by
    funext member
    rw [Manager.targets, sameItems, Manager.targets]
  refine ⟨?_, ?_, ?_, ?_⟩
  · rw [sameIds]
    exact consistent.connected
  · rw [sameTargets]
    exact consistent.subscribed
  · rw [sameItems]
    exact consistent.named
  · intro member
    simp only [Manager.metaOf, connect, get_meta_set]
    split
    · simp [ConnectionMeta.Recorded, ConnectionMeta.boundIds]
    · exact consistent.recorded member

theorem mem_collect (endpointIds : List Plain) (candidate : String) (tested : Plain) :
    tested ∈ collect endpointIds candidate ↔
      tested ∈ endpointIds ∨ (tested ≠ blank ∧ tested = plain candidate) := by
  unfold collect
  split
  · next taken =>
    rw [List.mem_append, List.mem_singleton]
    constructor
    · rintro (held | same)
      · exact Or.inl held
      · exact Or.inr ⟨same ▸ taken.1, same⟩
    · exact Or.imp_right And.right
  · next refused =>
    constructor
    · exact Or.inl
    · rintro (held | ⟨named, same⟩)
      · exact held
      · by_contra absent
        exact refused ⟨same ▸ named, same ▸ absent⟩

/-- The endpoints of a binding are its candidates other than blanks. -/
theorem mem_normalizedIds (candidates : List String) (tested : Plain) :
    tested ∈ normalizedIds candidates ↔
      tested ≠ blank ∧ ∃ candidate ∈ candidates, tested = plain candidate := by
  have collected : ∀ endpointIds : List Plain, tested ∈ candidates.foldl collect endpointIds ↔
      tested ∈ endpointIds ∨ (tested ≠ blank ∧ ∃ candidate ∈ candidates, tested = plain candidate)
      := by
    induction candidates with
    | nil => simp
    | cons candidate rest inductionHypothesis =>
      intro endpointIds
      rw [List.foldl_cons, inductionHypothesis, mem_collect, or_assoc, ← and_or_left]
      simp only [List.mem_cons, exists_eq_or_imp]
  simpa [normalizedIds] using collected []

/-- Each endpoint of a binding is taken once. -/
theorem normalizedIds_nodup (candidates : List String) : (normalizedIds candidates).Nodup := by
  refine List.foldlRecOn (motive := List.Nodup) candidates collect List.nodup_nil ?_
  intro endpointIds distinct candidate _
  unfold collect
  split
  · next taken =>
    refine List.nodup_append.mpr ⟨distinct, List.nodup_singleton _, ?_⟩
    intro held member other single
    rw [List.mem_singleton.mp single]
    exact fun same => taken.2 (same ▸ member)
  · exact distinct

/-- What a metadata row with these endpoints names as bound: the endpoints, and
without any the main endpoint, which is then blank. -/
theorem bound_recorded {metadata : ConnectionMeta} (endpointId : String)
    {candidates : List String} (main : metadata.endpointId = some (plain endpointId))
    (listed : metadata.endpointIds = some (normalizedIds (endpointId :: candidates))) :
    metadata.Recorded := by
  unfold ConnectionMeta.Recorded ConnectionMeta.boundIds
  rw [listed, main, Option.getD_some, Option.getD_some]
  have named : ∀ tested ∈ normalizedIds (endpointId :: candidates), tested ≠ blank :=
    fun tested member => ((mem_normalizedIds _ tested).mp member).1
  cases ids : normalizedIds (endpointId :: candidates) with
  | nil =>
    have unnamed : plain endpointId = blank := by
      by_contra other
      have taken : plain endpointId ∈ normalizedIds (endpointId :: candidates) :=
        (mem_normalizedIds _ _).mpr ⟨other, endpointId, List.mem_cons_self, rfl⟩
      rw [ids] at taken
      cases taken
    simp [unnamed]
  | cons first rest =>
    rw [ids] at named
    exact List.filter_eq_self.mpr fun tested member => by simpa using named tested member

/-- Binding files the socket under exactly its new endpoints. -/
theorem bindEndpoint_consistent {manager : Manager Socket} (consistent : Consistent manager)
    (websocket : Socket) (endpointId connectionId : String) (provider : Fields)
    (metadata : BindMetadata) (now : Instant) :
    Consistent (bindEndpoint manager websocket endpointId connectionId provider metadata now) := by
  have sameItems : (bindEndpoint manager websocket endpointId connectionId provider metadata
      now).items = manager.items := by
    funext member
    simp only [Manager.items, Manager.metaOf, bindEndpoint, get_meta_set]
    split
    · next same => rw [← same]; rfl
    · rfl
  have newIds : ∀ member, (bindEndpoint manager websocket endpointId connectionId provider
      metadata now).endpointIds member =
        if websocket = member then normalizedIds ((plain endpointId).1 :: metadata.candidates)
        else manager.endpointIds member := by
    intro member
    simp only [Manager.endpointIds, Manager.metaOf, bindEndpoint, get_meta_set]
    split
    · rw [Option.getD_some]
    · rfl
  refine ⟨?_, ?_, ?_, ?_⟩
  · refine consistent.connected.rekey websocket ?_ ?_ ?_ ?_
    · intro member other
      refine ⟨by rw [newIds, if_neg (Ne.symm other)], fun key => ?_⟩
      simp [bindEndpoint, mem_addAll, mem_discardAll, other]
    · intro key
      have bound : (manager.metaOf websocket).boundIds = manager.endpointIds websocket :=
        consistent.recorded websocket
      have filed := consistent.connected.member websocket key
      rw [newIds, if_pos rfl]
      simp only [bindEndpoint, mem_addAll, mem_discardAll, and_true, List.mem_filter,
        decide_eq_true_eq, bound, filed]
      tauto
    · rw [newIds, if_pos rfl]
      exact normalizedIds_nodup _
    · exact (consistent.connected.noEmpty.discardAll _ _).addAll _ _
  · have sameTargets : (bindEndpoint manager websocket endpointId connectionId provider metadata
        now).targets = manager.targets := by
      funext member
      rw [Manager.targets, sameItems, Manager.targets]
    rw [sameTargets]
    exact consistent.subscribed
  · rw [sameItems]
    exact consistent.named
  · intro member
    simp only [Manager.metaOf, bindEndpoint, get_meta_set]
    split
    · exact bound_recorded (plain endpointId).1 (by simp) rfl
    · exact consistent.recorded member

/-- With distinct keys, the entries kept by a test have exactly the keys that no
rejected entry has. -/
theorem mem_keys_kept {α β : Type*} {entries : List α} {key : α → β} (rejected : α → Bool)
    (distinct : (entries.map key).Nodup) (tested : β) :
    tested ∈ (entries.filter fun entry => !rejected entry).map key ↔
      tested ∈ entries.map key ∧ tested ∉ (entries.filter rejected).map key := by
  simp only [List.mem_map, List.mem_filter, Bool.not_eq_true', not_exists, not_and]
  constructor
  · rintro ⟨entry, ⟨member, kept⟩, rfl⟩
    refine ⟨⟨entry, member, rfl⟩, ?_⟩
    rintro other ⟨otherMember, out⟩ same
    have equal : other = entry := List.inj_on_of_nodup_map distinct otherMember member same
    rw [equal, kept] at out
    cases out
  · rintro ⟨⟨entry, member, rfl⟩, none⟩
    refine ⟨entry, ⟨member, ?_⟩, rfl⟩
    by_contra out
    exact none entry ⟨member, by simpa using out⟩ rfl

/-- Unsubscribing takes the socket out of exactly the targets whose entries it drops. -/
theorem unsubscribe_consistent {manager : Manager Socket} (consistent : Consistent manager)
    (websocket : Socket) (targetType targetId subscriptionId : String) (now : Instant) :
    Consistent (unsubscribe manager websocket targetType targetId subscriptionId now).2 := by
  generalize settled : (unsubscribe manager websocket targetType targetId subscriptionId now).2 =
    after
  have sameIds : after.endpointIds = manager.endpointIds := by
    funext member
    subst settled
    simp only [Manager.endpointIds, Manager.metaOf, unsubscribe, get_meta_set]
    split
    · next same => rw [← same]
    · rfl
  let matched := subscriptionMatches (plain subscriptionId) (plain targetType) (plain targetId)
  have newItems : ∀ member, after.items member =
      if websocket = member then (manager.items websocket).filter fun held => !matched held
      else manager.items member := by
    intro member
    subst settled
    simp only [Manager.items, Manager.metaOf, unsubscribe, get_meta_set]
    split
    · rw [ConnectionMeta.items, Option.getD_some]
    · rfl
  have newIndex : after.subscriptions = discardAll manager.subscriptions
      (((manager.items websocket).filter matched).map Subscription.target) websocket := by
    subst settled
    rfl
  have sameConnections : after.connections = manager.connections := by
    subst settled
    rfl
  refine ⟨?_, ?_, ?_, ?_⟩
  · rw [sameIds, sameConnections]
    exact consistent.connected
  · refine consistent.subscribed.rekey websocket ?_ ?_ ?_ ?_
    · intro member other
      refine ⟨by rw [Manager.targets, newItems, if_neg (Ne.symm other), Manager.targets], ?_⟩
      simp [newIndex, mem_discardAll, other]
    · intro key
      rw [Manager.targets, newItems, if_pos rfl,
        mem_keys_kept matched (consistent.subscribed.single websocket), newIndex, mem_discardAll,
        consistent.subscribed.member, Manager.targets]
      simp
    · rw [Manager.targets, newItems, if_pos rfl]
      exact (consistent.subscribed.single websocket).sublist
        (List.filter_sublist.map Subscription.target)
    · rw [newIndex]
      exact consistent.subscribed.noEmpty.discardAll _ _
  · intro member
    rw [newItems]
    split
    · exact (consistent.named websocket).sublist List.filter_sublist
    · exact consistent.named member
  · intro member
    subst settled
    simp only [Manager.metaOf, unsubscribe, get_meta_set]
    split
    · exact consistent.recorded websocket
    · exact consistent.recorded member

/-- A stored subscription to the requested target matches the request. -/
theorem matches_of_target {item held : Subscription} (typed : item.targetType ≠ blank)
    (identified : item.targetId ≠ blank) (same : held.target = item.target) :
    subscriptionMatches item.subscriptionId item.targetType item.targetId held = true := by
  obtain ⟨sameType, sameId⟩ := Prod.mk.inj same
  simp [subscriptionMatches, typed, identified, sameType, sameId]

/-- A stored subscription with the requested identifier matches the request. -/
theorem matches_of_id {item held : Subscription} (named : item.subscriptionId ≠ blank)
    (same : held.subscriptionId = item.subscriptionId) :
    subscriptionMatches item.subscriptionId item.targetType item.targetId held = true := by
  simp [subscriptionMatches, named, same]

/-- Subscribing files the socket under the new target and takes it out of the
other targets whose entries the request replaces. -/
theorem subscribe_consistent {manager : Manager Socket} (consistent : Consistent manager)
    (websocket : Socket) (targetType targetId subscriptionId : String) (now : Instant) :
    Consistent (subscribe manager websocket targetType targetId subscriptionId now) := by
  by_cases untargeted : plain targetType = blank ∨ plain targetId = blank
  · rw [subscribe, if_pos untargeted]
    exact consistent
  · obtain ⟨typed, identified⟩ := not_or.mp untargeted
    generalize settled : subscribe manager websocket targetType targetId subscriptionId now = after
    rw [subscribe, if_neg untargeted] at settled
    let item : Subscription := ⟨plain subscriptionId, plain targetType, plain targetId⟩
    let matched := subscriptionMatches item.subscriptionId item.targetType item.targetId
    have sameIds : after.endpointIds = manager.endpointIds := by
      funext member
      subst settled
      simp only [Manager.endpointIds, Manager.metaOf, get_meta_set]
      split
      · next same => rw [← same]
      · rfl
    have newItems : ∀ member, after.items member =
        if websocket = member then
          ((manager.items websocket).filter fun held => !matched held) ++ [item]
        else manager.items member := by
      intro member
      subst settled
      simp only [Manager.items, Manager.metaOf, get_meta_set]
      split
      · rw [ConnectionMeta.items, Option.getD_some]
      · rfl
    have newIndex : after.subscriptions =
        discardAll (add manager.subscriptions item.target websocket)
          ((((manager.items websocket).filter matched).map Subscription.target).filter
            fun target => decide (target ≠ item.target)) websocket := by
      subst settled
      rfl
    have sameConnections : after.connections = manager.connections := by
      subst settled
      rfl
    have newTarget : item.target ∉
        ((manager.items websocket).filter fun held => !matched held).map Subscription.target := by
      intro listed
      obtain ⟨held, member, same⟩ := List.mem_map.mp listed
      have kept := (List.mem_filter.mp member).2
      rw [show matched held = true from matches_of_target typed identified same] at kept
      cases kept
    refine ⟨?_, ?_, ?_, ?_⟩
    · rw [sameIds, sameConnections]
      exact consistent.connected
    · refine consistent.subscribed.rekey websocket ?_ ?_ ?_ ?_
      · intro member other
        refine ⟨by rw [Manager.targets, newItems, if_neg (Ne.symm other), Manager.targets], ?_⟩
        simp [newIndex, mem_discardAll, mem_add, other]
      · intro key
        rw [Manager.targets, newItems, if_pos rfl, List.map_append, List.mem_append,
          mem_keys_kept matched (consistent.subscribed.single websocket), newIndex,
          mem_discardAll, mem_add, consistent.subscribed.member, Manager.targets, List.mem_filter]
        by_cases same : key = item.target
        · simp [same]
        · simp [same]
      · rw [Manager.targets, newItems, if_pos rfl, List.map_append]
        refine List.nodup_append.mpr ⟨(consistent.subscribed.single websocket).sublist
          (List.filter_sublist.map Subscription.target), List.nodup_singleton _, ?_⟩
        intro held member other single same
        have isItem : other = item.target := by simpa using single
        exact newTarget (isItem ▸ same ▸ member)
      · rw [newIndex]
        exact (consistent.subscribed.noEmpty.add _ _).discardAll _ _
    · intro member
      rw [newItems]
      split
      · refine List.pairwise_append.mpr ⟨(consistent.named websocket).sublist List.filter_sublist,
          List.pairwise_singleton _ _, ?_⟩
        intro held kept other single same
        rw [List.mem_singleton.mp single] at same
        by_contra named
        have out := (List.mem_filter.mp kept).2
        rw [show matched held = true from matches_of_id (same ▸ named) same] at out
        cases out
      · exact consistent.named member
    · intro member
      subst settled
      simp only [Manager.metaOf, get_meta_set]
      split
      · exact consistent.recorded websocket
      · exact consistent.recorded member

/-- Disconnecting takes the socket out of every set of both indexes. -/
theorem disconnect_consistent {manager : Manager Socket} (consistent : Consistent manager)
    (websocket : Socket) : Consistent (disconnect manager websocket).2 := by
  have newMeta : ∀ member, (disconnect manager websocket).2.metaOf member =
      if websocket = member then {} else manager.metaOf member := by
    intro member
    simp only [Manager.metaOf, disconnect, Dict.get_pop]
    split <;> rfl
  have bound : (manager.metaOf websocket).boundIds = manager.endpointIds websocket :=
    consistent.recorded websocket
  refine ⟨?_, ?_, ?_, ?_⟩
  · refine consistent.connected.rekey websocket ?_ ?_ ?_ ?_
    · intro member other
      refine ⟨by rw [Manager.endpointIds, newMeta, if_neg (Ne.symm other), Manager.endpointIds], ?_⟩
      simp [disconnect, mem_discardAll, other]
    · intro key
      rw [Manager.endpointIds, newMeta, if_pos rfl]
      simp [disconnect, mem_discardAll, bound, consistent.connected.member]
    · rw [Manager.endpointIds, newMeta, if_pos rfl]
      exact List.nodup_nil
    · exact consistent.connected.noEmpty.discardAll _ _
  · refine consistent.subscribed.rekey websocket ?_ ?_ ?_ ?_
    · intro member other
      refine ⟨?_, ?_⟩
      · rw [Manager.targets, Manager.items, newMeta, if_neg (Ne.symm other), Manager.targets,
          Manager.items]
      · simp [disconnect, mem_removeEverywhere, other]
    · intro key
      rw [Manager.targets, Manager.items, newMeta, if_pos rfl]
      simp [disconnect, mem_removeEverywhere, ConnectionMeta.items]
    · rw [Manager.targets, Manager.items, newMeta, if_pos rfl]
      exact List.nodup_nil
    · exact consistent.subscribed.noEmpty.removeEverywhere _
  · intro member
    rw [Manager.items, newMeta]
    split
    · exact List.Pairwise.nil
    · exact consistent.named member
  · intro member
    rw [newMeta]
    split
    · simp [ConnectionMeta.Recorded, ConnectionMeta.boundIds]
    · exact consistent.recorded member

/-- Every operation keeps both indexes mirroring the metadata. -/
theorem step_consistent {manager next : Manager Socket} {action : Action Socket}
    (consistent : Consistent manager) (taken : step manager action = some next) :
    Consistent next := by
  cases action with
  | connect websocket now =>
    simp only [step] at taken
    split at taken
    · cases taken
    · next fresh =>
      cases taken
      exact connect_consistent consistent fresh now
  | bindEndpoint websocket endpointId connectionId provider metadata now =>
    cases taken
    exact bindEndpoint_consistent consistent websocket endpointId connectionId provider metadata now
  | subscribe websocket targetType targetId subscriptionId now =>
    rw [← Option.some.inj taken]
    exact subscribe_consistent consistent websocket targetType targetId subscriptionId now
  | updateSubscription websocket targetType targetId subscriptionId now =>
    rw [← Option.some.inj taken]
    exact subscribe_consistent (unsubscribe_consistent consistent websocket _ _ _ now) websocket
      targetType targetId subscriptionId now
  | unsubscribe websocket targetType targetId subscriptionId now =>
    cases taken
    exact unsubscribe_consistent consistent websocket targetType targetId subscriptionId now
  | disconnect websocket =>
    cases taken
    exact disconnect_consistent consistent websocket

/-- After any sequence of operations on an empty manager: a socket stands under a
target exactly when its metadata has an entry for it, and then it has one; no two
of its entries share an identifier; it stands under an endpoint exactly when its
metadata records it; and no set is empty. -/
theorem reached_consistent {manager : Manager Socket}
    (reached : Runs.Reachable step Manager.start manager) :
    (∀ websocket target, websocket ∈ members manager.subscriptions target ↔
      ∃ item ∈ manager.items websocket, item.target = target) ∧
    (∀ websocket target, websocket ∈ members manager.subscriptions target →
      ((manager.items websocket).filter fun item => decide (item.target = target)).length = 1) ∧
    (∀ websocket, (manager.items websocket).Pairwise fun first second =>
      first.subscriptionId = second.subscriptionId → first.subscriptionId = blank) ∧
    (∀ websocket endpointId, websocket ∈ members manager.connections endpointId ↔
      endpointId ∈ manager.endpointIds websocket) ∧
    NoEmpty manager.subscriptions ∧ NoEmpty manager.connections := by
  have consistent : Consistent manager := Runs.reachable_preserves
    (fun _ _ _ holds taken => step_consistent holds taken) start_consistent reached
  refine ⟨?_, ?_, consistent.named, consistent.connected.member, consistent.subscribed.noEmpty,
    consistent.connected.noEmpty⟩
  · intro websocket target
    rw [consistent.subscribed.member, Manager.targets, List.mem_map]
  · intro websocket target standing
    have listed := (consistent.subscribed.member websocket target).mp standing
    have once : (manager.targets websocket).count target = 1 :=
      List.count_eq_one_of_mem (consistent.subscribed.single websocket) listed
    rw [Manager.targets, List.count_eq_countP, List.countP_map, List.countP_eq_length_filter] at once
    have sameTest : ((fun tested => tested == target) ∘ Subscription.target) =
        fun item => decide (item.target = target) := by
      funext item
      simp [Function.comp, beq_eq_decide]
    rwa [sameTest] at once

/-- Two sockets: one binds, subscribes to a thread and moves the subscription to
another; the other only subscribes, and disconnects in the end. -/
def movedSubscription : List (Action Nat) :=
  [.connect 1 0, .connect 2 0, .bindEndpoint 1 " desk " "c" Dict.empty {} 1,
    .subscribe 1 "thread" "t" "s" 2, .subscribe 2 "thread" "t" "" 3,
    .updateSubscription 1 "thread" "u" "s" 4, .disconnect 2]

theorem movedSubscription_consistent :
    ∃ manager : Manager Nat, Runs.run step Manager.start movedSubscription = some manager ∧
      ∀ websocket target, websocket ∈ members manager.subscriptions target ↔
        ∃ item ∈ manager.items websocket, item.target = target :=
  ⟨_, rfl, (reached_consistent ⟨movedSubscription, rfl⟩).1⟩

end
end MeetYou.EndpointSockets
