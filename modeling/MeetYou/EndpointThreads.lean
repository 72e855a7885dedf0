import MeetYou.Foundation.Dict
import MeetYou.Foundation.Persistence
import MeetYou.Foundation.Text

/-!
# Threads of endpoint conversations

An endpoint asks for the thread of a conversation. The thread the conversation is bound to is tried
first, then a thread that is named explicitly, and then a new one is made; the binding is written on
every call. That a thread belongs to the caller is checked for the explicit one alone.

The thread a call returned is remembered for the law that a conversation keeps its thread. A thread
stands for its row under its public identifier, which is unique.
-/

namespace MeetYou.EndpointThreads

open Runs

universe u v w

/-- `_VALID_STRATEGIES` -/
inductive Strategy where
  | perConversation
  | perAddress
  | sharedEndpoint
  | explicitThread
deriving DecidableEq

/-- The strategy of a text; a blank one is "per_conversation". -/
def Strategy.ofText (text : String) : Option Strategy :=
  match Text.strip text with
  | "" => some .perConversation
  | "per_conversation" => some .perConversation
  | "per_address" => some .perAddress
  | "shared_endpoint" => some .sharedEndpoint
  | "explicit_thread" => some .explicitThread
  | _ => none

/-- The codes of an `EndpointThreadBindingError`, and a row the database refuses. -/
inductive Refusal where
  | unsupportedThreadStrategy
  | conversationKeyRequired
  | explicitThreadIdRequired
  | explicitThreadNotFound
  | explicitThreadDeleted
  | explicitThreadForbidden
  | explicitThreadWorkspaceMismatch
  | integrity
deriving DecidableEq

/-- The address of a call. -/
structure Address where
  addressId : String
  externalRef : String

section
variable {π : Type u} {ω : Type v} {ε : Type w}

/-- A row of threads. -/
structure Thread (π : Type u) (ω : Type v) where
  principal : π
  homeWorkspace : ω
  deleted : Bool := false
deriving DecidableEq

/-- What a binding is kept for: the endpoint, the strategy and the canonical key. -/
structure Conversation (ε : Type w) where
  endpoint : ε
  strategy : Strategy
  key : String
deriving DecidableEq

/-- The threads and the bindings. -/
structure Store (π : Type u) (ω : Type v) (ε : Type w) where
  threads : Dict String (Thread π ω)
  bindings : Dict (Conversation ε) String

/-- The arguments of `resolve_thread`, and the identifier a new thread would get. -/
structure Call (π : Type u) (ω : Type v) (ε : Type w) where
  principal : π
  endpoint : ε
  endpointPublicId : String
  workspace : Option ω
  threadStrategy : String := "per_conversation"
  conversationKey : String := ""
  address : Option Address := none
  explicitThreadId : String := ""
  fresh : String

/-- A key that is not blank, behind its kind. -/
def keyed (kind key : String) (refusal : Refusal) : Except Refusal String :=
  if key = "" then .error refusal else .ok (kind ++ key)

/-- `_canonical_key` -/
def Call.canonicalKey (call : Call π ω ε) : Strategy → Except Refusal String
  | .sharedEndpoint => .ok ("endpoint:" ++ call.endpointPublicId)
  | .perAddress =>
      let addressId := Text.strip ((call.address.map Address.addressId).getD "")
      let externalRef := Text.strip ((call.address.map Address.externalRef).getD "")
      keyed "address:" (Text.orElse addressId (Text.orElse (Text.strip call.conversationKey) externalRef))
        .conversationKeyRequired
  | .explicitThread => keyed "thread:" (Text.strip call.explicitThreadId) .explicitThreadIdRequired
  | .perConversation =>
      keyed "conversation:" (Text.strip call.conversationKey) .conversationKeyRequired

/-- The conversation a call is about. -/
def Call.conversation (call : Call π ω ε) : Except Refusal (Conversation ε) :=
  match Strategy.ofText call.threadStrategy with
  | none => .error .unsupportedThreadStrategy
  | some strategy => (call.canonicalKey strategy).map fun key =>
      { endpoint := call.endpoint, strategy, key := Text.strip key }

variable [DecidableEq ε]

/-- The thread with this identifier is there and not deleted. -/
def Store.live (store : Store π ω ε) (threadId : String) : Bool :=
  (store.threads.get threadId).any fun thread => !thread.deleted

/-- The thread a conversation is bound to, unless it is deleted. -/
def Store.bound (store : Store π ω ε) (conversation : Conversation ε) : Option String :=
  (store.bindings.get conversation).filter store.live

variable [DecidableEq π] [DecidableEq ω]

/-- The explicit thread of a call, or why it cannot be used; none if no thread is named. -/
def Call.explicitThread (call : Call π ω ε) (store : Store π ω ε) :
    Except Refusal (Option String) :=
  if call.explicitThreadId = "" then .ok none
  else
    match store.threads.get call.explicitThreadId with
    | none => .error .explicitThreadNotFound
    | some thread =>
        if thread.deleted then .error .explicitThreadDeleted
        else if thread.principal ≠ call.principal then .error .explicitThreadForbidden
        else if call.workspace.any fun workspace => decide (thread.homeWorkspace ≠ workspace) then
          .error .explicitThreadWorkspaceMismatch
        else .ok (some call.explicitThreadId)

/-- The explicit thread a strategy goes on with; only "explicit_thread" insists on it. -/
def Call.hint (call : Call π ω ε) (strategy : Strategy) (store : Store π ω ε) :
    Except Refusal (Option String) :=
  match call.explicitThread store with
  | .ok thread => .ok thread
  | .error refusal => if strategy = .explicitThread then .error refusal else .ok none

/-- Make a thread; its workspace must be given and its identifier free. -/
def Call.create (call : Call π ω ε) (store : Store π ω ε) :
    Except Refusal (Dict String (Thread π ω)) :=
  match call.workspace with
  | none => .error .integrity
  | some workspace =>
      match store.threads.insertNew call.fresh
        { principal := call.principal, homeWorkspace := workspace } with
      | none => .error .integrity
      | some threads => .ok threads

/-- Write the binding; its workspace must be given. -/
def Call.bind (call : Call π ω ε) (conversation : Conversation ε)
    (threads : Dict String (Thread π ω)) (store : Store π ω ε) (threadId : String) :
    Except Refusal (Store π ω ε × String) :=
  if call.workspace.isNone then .error .integrity
  else .ok ({ threads, bindings := store.bindings.set conversation threadId }, threadId)

/-- `resolve_thread` -/
def resolveThread (call : Call π ω ε) (store : Store π ω ε) :
    Except Refusal (Store π ω ε × String) :=
  match call.conversation with
  | .error refusal => .error refusal
  | .ok conversation =>
      match call.hint conversation.strategy store with
      | .error refusal => .error refusal
      | .ok hint =>
          match (store.bound conversation).or hint with
          | some threadId => call.bind conversation store.threads store threadId
          | none =>
              match call.create store with
              | .error refusal => .error refusal
              | .ok threads => call.bind conversation threads store call.fresh

/-- `soft_delete`, for a thread that may be deleted. -/
def Store.delete (store : Store π ω ε) (principal : π) (threadId : String) : Store π ω ε :=
  { store with threads := store.threads.revise threadId fun thread =>
      if thread.principal = principal then { thread with deleted := true } else thread }

/-! ## Runs -/

/-- The store, and the thread each principal was last given for a conversation. -/
structure State (π : Type u) (ω : Type v) (ε : Type w) where
  store : Store π ω ε
  given : Dict (π × Conversation ε) String

/-- A call, or the deletion of a thread by its principal. -/
inductive Action (π : Type u) (ω : Type v) (ε : Type w) where
  | resolve (call : Call π ω ε)
  | delete (principal : π) (threadId : String)

/-- Remember what a call returned. -/
def State.remember (state : State π ω ε) (call : Call π ω ε) : Dict (π × Conversation ε) String :=
  match call.conversation, resolveThread call state.store with
  | .ok conversation, .ok (_, threadId) => state.given.set (call.principal, conversation) threadId
  | _, _ => state.given

/-- One step. A call that is refused changes nothing. -/
def step (state : State π ω ε) : Action π ω ε → Option (State π ω ε)
  | .resolve call =>
      match resolveThread call state.store with
      | .error _ => some state
      | .ok (store, _) => some { store, given := state.remember call }
  | .delete principal threadId => some { state with store := state.store.delete principal threadId }

/-- A call returns a thread of its principal that is not deleted, and the one it was given for the
conversation before unless that one is deleted. -/
def Kept (state : State π ω ε) : Action π ω ε → Prop
  | .resolve call => ∀ store threadId, resolveThread call state.store = .ok (store, threadId) →
      (∃ thread, store.threads.get threadId = some thread ∧ thread.deleted = false ∧
        thread.principal = call.principal) ∧
      ∀ conversation before, call.conversation = .ok conversation →
        state.given.get (call.principal, conversation) = some before →
        state.store.live before = true → threadId = before
  | .delete _ _ => True

/-- The thread a conversation is bound to, unless it is deleted, is one of the caller's. Calls that
are refused for their strategy, their key, their explicit thread or their workspace do not matter. -/
def OwnBinding (state : State π ω ε) : Action π ω ε → Prop
  | .resolve call => ∀ conversation hint threadId thread, call.conversation = .ok conversation →
      call.hint conversation.strategy state.store = .ok hint → call.workspace.isSome = true →
      state.store.bound conversation = some threadId →
      state.store.threads.get threadId = some thread → thread.principal = call.principal
  | .delete _ _ => True

/-! ## What a call returns -/

omit [DecidableEq π] [DecidableEq ω] [DecidableEq ε] in
theorem live_iff {store : Store π ω ε} {threadId : String} :
    store.live threadId = true ↔
      ∃ thread, store.threads.get threadId = some thread ∧ thread.deleted = false := by
  simp [Store.live, Option.any_eq_true]

omit [DecidableEq ε] in
/-- A thread that can be used explicitly is one of the caller's and not deleted. -/
theorem explicitThread_owned {call : Call π ω ε} {store : Store π ω ε} {threadId : String}
    (usable : call.explicitThread store = .ok (some threadId)) :
    ∃ thread, store.threads.get threadId = some thread ∧ thread.deleted = false ∧
      thread.principal = call.principal := by
  rw [Call.explicitThread] at usable
  split at usable
  · cases usable
  · split at usable
    · cases usable
    · next thread stored =>
      split at usable
      · cases usable
      · next kept =>
        split at usable
        · cases usable
        · next owned =>
          split at usable
          · cases usable
          · obtain rfl := Option.some.inj (Except.ok.inj usable)
            exact ⟨thread, stored, Bool.eq_false_iff.mpr kept, not_not.mp owned⟩

omit [DecidableEq ε] in
theorem hint_owned {call : Call π ω ε} {strategy : Strategy} {store : Store π ω ε}
    {threadId : String} (hinted : call.hint strategy store = .ok (some threadId)) :
    ∃ thread, store.threads.get threadId = some thread ∧ thread.deleted = false ∧
      thread.principal = call.principal := by
  rw [Call.hint] at hinted
  split at hinted
  · next usable =>
    rw [hinted] at usable
    exact explicitThread_owned usable
  · split at hinted
    · cases hinted
    · cases hinted

/-- What a call that is not refused does: it binds the conversation to the thread it was bound to,
or else to a thread of the caller that is not deleted, which may be a new one. -/
theorem resolveThread_cases {call : Call π ω ε} {store after : Store π ω ε} {threadId : String}
    (resolved : resolveThread call store = .ok (after, threadId)) :
    ∃ conversation hint, call.conversation = .ok conversation ∧
      call.hint conversation.strategy store = .ok hint ∧ call.workspace.isSome = true ∧
      after.bindings = store.bindings.set conversation threadId ∧
      ((store.bound conversation = some threadId ∧ after.threads = store.threads) ∨
        (store.bound conversation = none ∧
          (∀ other, other ≠ threadId → after.threads.get other = store.threads.get other) ∧
          (∀ thread, store.threads.get threadId = some thread →
            after.threads.get threadId = some thread) ∧
          ∃ thread, after.threads.get threadId = some thread ∧ thread.deleted = false ∧
            thread.principal = call.principal)) := by
  rw [resolveThread] at resolved
  split at resolved
  · cases resolved
  · next conversation about =>
    split at resolved
    · cases resolved
    · next hint hinted =>
      refine ⟨conversation, hint, about, hinted, ?_⟩
      split at resolved
      · next chosen found =>
        rw [Call.bind] at resolved
        split at resolved
        · cases resolved
        · next given =>
          obtain ⟨rfl, rfl⟩ := Prod.mk.inj (Except.ok.inj resolved)
          refine ⟨by simpa [Option.isSome_iff_ne_none] using given, rfl, ?_⟩
          rcases Option.or_eq_some_iff.mp found with bound | ⟨free, hinting⟩
          · exact Or.inl ⟨bound, rfl⟩
          · rw [hinting] at hinted
            exact Or.inr ⟨free, fun _ _ => rfl, fun _ stored => stored, hint_owned hinted⟩
      · next found =>
        obtain ⟨free, _⟩ := Option.or_eq_none_iff.mp found
        split at resolved
        · cases resolved
        · next threads made =>
          rw [Call.bind] at resolved
          split at resolved
          · cases resolved
          · next given =>
            obtain ⟨rfl, rfl⟩ := Prod.mk.inj (Except.ok.inj resolved)
            refine ⟨by simpa [Option.isSome_iff_ne_none] using given, rfl,
              Or.inr ⟨free, ?_⟩⟩
            rw [Call.create] at made
            split at made
            · cases made
            · next workspace present =>
              split at made
              · cases made
              · next inserted fresh =>
                obtain rfl := Except.ok.inj made
                obtain ⟨absent, rfl⟩ := Dict.insertNew_some_iff.mp fresh
                refine ⟨fun other apart => Dict.get_set_ne _ _ (Ne.symm apart), ?_, ?_⟩
                · intro thread stored
                  rw [absent] at stored
                  cases stored
                · exact ⟨_, Dict.get_set_self _ _ _, rfl, rfl⟩

/-! ## Every sequence of calls and deletions -/

/-- What was returned is a stored thread, and as long as it is not deleted the conversation is bound
to it. -/
def Standing (state : State π ω ε) : Prop :=
  ∀ principal conversation threadId, state.given.get (principal, conversation) = some threadId →
    (∃ thread, state.store.threads.get threadId = some thread) ∧
      (state.store.live threadId = true →
        state.store.bindings.get conversation = some threadId)

omit [DecidableEq ω] in
theorem bound_of_standing {state : State π ω ε} (standing : Standing state) {principal : π}
    {conversation : Conversation ε} {threadId : String}
    (given : state.given.get (principal, conversation) = some threadId)
    (live : state.store.live threadId = true) :
    state.store.bound conversation = some threadId := by
  rw [Store.bound, (standing principal conversation threadId given).2 live, Option.filter_some,
    if_pos live]

/-- A thread that is stored stays so through a call, and is not deleted by it. -/
theorem stored_of_resolve {call : Call π ω ε} {store after : Store π ω ε} {threadId : String}
    (resolved : resolveThread call store = .ok (after, threadId)) {other : String}
    {thread : Thread π ω} (stored : store.threads.get other = some thread) :
    after.threads.get other = some thread := by
  obtain ⟨conversation, hint, _, _, _, _, ⟨_, same⟩ | ⟨_, others, kept, _⟩⟩ :=
    resolveThread_cases resolved
  · rw [same]
    exact stored
  · by_cases here : other = threadId
    · subst here
      exact kept thread stored
    · rw [others other here]
      exact stored

theorem remember_eq {state : State π ω ε} {call : Call π ω ε} {after : Store π ω ε}
    {conversation : Conversation ε} {threadId : String}
    (about : call.conversation = .ok conversation)
    (resolved : resolveThread call state.store = .ok (after, threadId)) :
    state.remember call = state.given.set (call.principal, conversation) threadId := by
  rw [State.remember, about, resolved]

/-- A call keeps what was returned, whoever makes it. -/
theorem standing_resolve {state : State π ω ε} {call : Call π ω ε} {after : Store π ω ε}
    {threadId : String} (standing : Standing state)
    (resolved : resolveThread call state.store = .ok (after, threadId)) :
    Standing { store := after, given := state.remember call } := by
  obtain ⟨conversation, hint, about, _, _, bindings, outcome⟩ := resolveThread_cases resolved
  intro principal tested returned found
  rw [remember_eq about resolved] at found
  rcases Dict.get_of_set found with ⟨same, rfl⟩ | ⟨apart, earlier⟩
  · obtain ⟨rfl, rfl⟩ := Prod.mk.inj same
    refine ⟨?_, fun _ => ?_⟩
    · rcases outcome with ⟨bound, same⟩ | ⟨_, _, _, thread, stored, _⟩
      · obtain ⟨_, live⟩ := Option.filter_eq_some_iff.mp bound
        obtain ⟨thread, stored, _⟩ := live_iff.mp live
        exact ⟨thread, by rw [same]; exact stored⟩
      · exact ⟨thread, stored⟩
    · change after.bindings.get conversation = some threadId
      rw [bindings]
      exact Dict.get_set_self _ _ _
  · obtain ⟨⟨thread, stored⟩, binds⟩ := standing principal tested returned earlier
    have still := stored_of_resolve resolved stored
    refine ⟨⟨thread, still⟩, fun live => ?_⟩
    have before : state.store.live returned = true := by
      obtain ⟨other, placed, kept⟩ := live_iff.mp live
      rw [still] at placed
      obtain rfl := Option.some.inj placed
      exact live_iff.mpr ⟨thread, stored, kept⟩
    change after.bindings.get tested = some returned
    rw [bindings]
    by_cases here : conversation = tested
    · subst here
      have bound := bound_of_standing standing earlier before
      rcases outcome with ⟨other, _⟩ | ⟨free, _⟩
      · rw [bound] at other
        obtain rfl := Option.some.inj other
        exact Dict.get_set_self _ _ _
      · rw [bound] at free
        cases free
    · rw [Dict.get_set_ne _ _ here]
      exact binds before

omit [DecidableEq ω] in
/-- A deletion keeps what was returned. -/
theorem standing_delete {state : State π ω ε} (standing : Standing state) (principal : π)
    (deletedId : String) :
    Standing { state with store := state.store.delete principal deletedId } := by
  intro tested conversation returned found
  obtain ⟨⟨thread, stored⟩, binds⟩ := standing tested conversation returned found
  by_cases here : deletedId = returned
  · subst here
    have revised := Dict.get_revise_self state.store.threads deletedId fun thread =>
      if thread.principal = principal then { thread with deleted := true } else thread
    rw [stored] at revised
    refine ⟨⟨_, revised⟩, fun live => binds (live_iff.mpr ⟨thread, stored, ?_⟩)⟩
    obtain ⟨other, placed, kept⟩ := live_iff.mp live
    have same := revised.symm.trans placed
    simp only [Option.map_some, Option.some.injEq] at same
    rw [← same] at kept
    split at kept
    · cases kept
    · exact kept
  · have same := Dict.get_revise_ne state.store.threads (fun thread : Thread π ω =>
      if thread.principal = principal then { thread with deleted := true } else thread) here
    refine ⟨⟨thread, same.trans stored⟩, fun live => binds ?_⟩
    obtain ⟨other, placed, kept⟩ := live_iff.mp live
    exact live_iff.mpr ⟨other, same.symm.trans placed, kept⟩

/-- The law of a call is that the conversation is not bound to a thread of somebody else. -/
theorem kept_iff {state : State π ω ε} (standing : Standing state) (action : Action π ω ε) :
    Kept state action ↔ OwnBinding state action := by
  cases action with
  | delete principal threadId => exact iff_of_true trivial trivial
  | resolve call =>
    constructor
    · intro kept conversation hint threadId thread about hinted workspace bound stored
      have resolved : resolveThread call state.store = .ok
          ({ threads := state.store.threads
             bindings := state.store.bindings.set conversation threadId }, threadId) := by
        have given : call.workspace.isNone = false := by
          cases found : call.workspace with
          | none => rw [found] at workspace; cases workspace
          | some _ => rfl
        simp only [resolveThread, about, hinted, bound, Option.some_or, Call.bind, given,
          Bool.false_eq_true, if_false]
      obtain ⟨⟨other, placed, _, owned⟩, _⟩ := kept _ _ resolved
      obtain rfl := Option.some.inj (stored.symm.trans placed)
      exact owned
    · intro own after threadId resolved
      obtain ⟨conversation, hint, about, hinted, workspace, _, outcome⟩ :=
        resolveThread_cases resolved
      constructor
      · rcases outcome with ⟨bound, same⟩ | ⟨_, _, _, thread, stored, kept, owned⟩
        · obtain ⟨_, live⟩ := Option.filter_eq_some_iff.mp bound
          obtain ⟨thread, stored, kept⟩ := live_iff.mp live
          exact ⟨thread, by rw [same]; exact stored, kept,
            own conversation hint threadId thread about hinted workspace bound stored⟩
        · exact ⟨thread, stored, kept, owned⟩
      · intro tested before asked given live
        rw [about] at asked
        obtain rfl := Except.ok.inj asked
        have bound := bound_of_standing standing given live
        rcases outcome with ⟨other, _⟩ | ⟨free, _⟩
        · exact Option.some.inj (other.symm.trans bound)
        · rw [bound] at free
          cases free

theorem standing_step {state next : State π ω ε} {action : Action π ω ε}
    (standing : Standing state) (taken : step state action = some next) : Standing next := by
  cases action with
  | resolve call =>
    rw [step] at taken
    split at taken
    · obtain rfl := Option.some.inj taken
      exact standing
    · next after threadId resolved =>
      obtain rfl := Option.some.inj taken
      exact standing_resolve standing resolved
  | delete principal threadId =>
    obtain rfl := Option.some.inj taken
    exact standing_delete standing principal threadId

/-- Nothing was returned yet. -/
def start (store : Store π ω ε) : State π ω ε := { store, given := Dict.empty }

/-- Along every sequence of calls and deletions, each call returns a thread of its principal, not
deleted and the same as before, exactly if no call meets a conversation that is bound to a thread
of somebody else. -/
theorem conversations_keep_threads (store : Store π ω ε) (actions : List (Action π ω ε)) :
    Along step Kept (start store) actions ↔ Along step OwnBinding (start store) actions := by
  have standing : Standing (start store) := fun _ _ _ found => nomatch found
  constructor
  · refine Along.imp_of_invariant Standing ?_ ?_ standing
    · exact fun _ _ _ holding _ taken => standing_step holding taken
    · exact fun _ action holding kept => (kept_iff holding action).mp kept
  · refine Along.imp_of_invariant Standing ?_ ?_ standing
    · exact fun _ _ _ holding _ taken => standing_step holding taken
    · exact fun _ action holding own => (kept_iff holding action).mpr own

end

/-- The desk, shared by two principals, asks for its thread. -/
def atDesk (principal : Nat) (fresh : String) : Call Nat Nat Nat where
  principal := principal
  endpoint := 0
  endpointPublicId := "desk"
  workspace := some 0
  threadStrategy := "shared_endpoint"
  fresh := fresh

/-- No threads and no bindings. -/
def noThreads : Store Nat Nat Nat := { threads := Dict.empty, bindings := Dict.empty }

/-- The call returns a thread of its principal, if it returns one. -/
def returnsOwn (call : Call Nat Nat Nat) (state : State Nat Nat Nat) : Bool :=
  match resolveThread call state.store with
  | .ok (store, threadId) => (store.threads.get threadId).any fun thread =>
      decide (thread.principal = call.principal)
  | .error _ => true

theorem returnsOwn_of_kept {call : Call Nat Nat Nat} {state : State Nat Nat Nat}
    (kept : Kept state (.resolve call)) : returnsOwn call state = true := by
  rw [returnsOwn]
  split
  · next store threadId resolved =>
    obtain ⟨⟨thread, stored, _, owned⟩, _⟩ := kept store threadId resolved
    rw [stored]
    exact decide_eq_true owned
  · rfl

/-- The second principal is given the thread of the first. -/
theorem desk_shares_thread :
    ¬∀ (store : Store Nat Nat Nat) (actions : List (Action Nat Nat Nat)),
      Along step Kept (start store) actions := by
  intro always
  have along := always noThreads [.resolve (atDesk 1 "thr_1"), .resolve (atDesk 2 "thr_2")]
  have second : (run step (start noThreads) [.resolve (atDesk 1 "thr_1")]).map
      (returnsOwn (atDesk 2 "thr_2")) = some false := by decide +kernel
  obtain ⟨state, reached, foreign⟩ := Option.map_eq_some_iff.mp second
  have kept := @Along.at_action _ _ step Kept (start noThreads) state
    [.resolve (atDesk 1 "thr_1")] [] (.resolve (atDesk 2 "thr_2")) along reached
  rw [returnsOwn_of_kept kept] at foreign
  cases foreign

end MeetYou.EndpointThreads
