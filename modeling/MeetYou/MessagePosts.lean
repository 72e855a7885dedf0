import Mathlib.Data.List.Infix
import MeetYou.ResearchTasks

/-!
# Message posts

An endpoint posts a message to a thread and may post it again under the same
`endpoint_message_id`. A post that finds a message with its id is answered with that
message; any other stores a message and hands it on, as an inbound event of its session
or as a command of the research mode. A post can fail at each of these stages. The
message it stored remains.

The id is looked up among the messages of the thread and the role, and among those of the
endpoint where that is registered. So a post reaches its reader exactly once as long as the
first message there with its id is its own and was handed on, and its own message, if there is
one, is there.
-/

namespace MeetYou.MessagePosts

open Runs ResearchTasks

/-! ## Posts and messages -/

/-- What an endpoint calls a message of its session. -/
structure Pair where
  session : Option String
  endpointId : String
  endpointMessageId : String
  deriving DecidableEq

/-- A `RuntimeMessageCreateRequest`, with the thread and the session it names and the
row its endpoint is registered under. -/
structure Post where
  thread : Nat
  session : Option String
  endpointId : String
  endpoint : Option Nat
  role : String
  content : String
  endpointMessageId : String
  preferredMode : String
  metadata : Fields

/-- A row of `messages`; `pair` is not a column, it says which post stored the row. -/
structure Message where
  messageId : Nat
  thread : Nat
  session : Option String
  role : String
  origin : Option Nat
  meta_ : Fields
  pair : Option Pair

/-- The role of a post. -/
def Post.roleOf (post : Post) : String := if post.role = "" then "user" else post.role

/-- `endpoint_message_id` of a post. -/
def Post.idOf (post : Post) : String := Text.strip post.endpointMessageId

/-- The pair of a post that carries an id. -/
def Post.pair (post : Post) : Option Pair :=
  if post.idOf = "" then none
  else some ⟨post.session, Text.strip post.endpointId, post.idOf⟩

/-- The metadata of a message. -/
def Post.metaOf (post : Post) : Fields :=
  let metadata := if post.preferredMode = "" then post.metadata
    else post.metadata.set "preferred_mode" (.str post.preferredMode)
  if post.idOf = "" then metadata
  else metadata.set "endpoint_message_id" (.str post.idOf)

/-! ## Research commands -/

/-- What the research mode does with a message. -/
inductive Command
  | disabled
  | cancel
  | start
  | revise
  | running
  | create
  deriving DecidableEq

/-- The kind of the reply to a command. -/
def Command.kind : Command → String
  | .disabled => "research_disabled"
  | .cancel => "research_task_cancelled"
  | .start => "research_task_started"
  | .revise => "research_task_plan_revision"
  | .running => "research_task_running_notice"
  | .create => "research_task_plan"

/-- `"".join(text.strip().lower().split())`. -/
def compact (content : String) : String :=
  String.ofList ((wordOf content).toList.filter fun character => !Text.isSpace character)

/-- `phrase in text`. -/
def occursIn (phrase text : String) : Bool := decide (phrase.toList <:+: text.toList)

/-- `_is_research_cancel`. -/
def isResearchCancel (content : String) : Bool :=
  decide (compact content ∈ ["取消", "取消研究", "停止", "停止研究", "cancel", "stop"]) ||
    ["取消这个研究", "停止这个研究", "不要研究了"].any fun phrase => occursIn phrase (compact content)

/-- `_is_research_confirmation`. -/
def isResearchConfirmation (content : String) : Bool :=
  decide (compact content ∈ ["确认", "确认开始", "开始", "开始研究", "执行", "执行计划", "可以",
    "可以开始", "同意", "批准", "approve", "approved", "start", "go"]) ||
    ["确认开始", "可以开始", "开始执行", "开始研究", "按计划执行"].any fun phrase =>
      occursIn phrase (compact content)

/-- The command of a message that is not blank, from the status of the latest active task
of the thread. -/
def commandOf (featureEnabled : Bool) (active : Option String) (content : String) : Command :=
  if featureEnabled then
    match active with
    | none => .create
    | some status =>
        if isResearchCancel content then .cancel
        else if status ∈ ["planned", "approved"] ∧ isResearchConfirmation content then .start
        else if status ∈ ["planned", "approved"] then .revise
        else if status = "running" then .running
        else .create
  else .disabled

/-! ## Answering a post -/

/-- How a message is handed on. -/
inductive Way
  | event (sessionId : String)
  | command (command : Command)

/-- A message that was handed on. -/
structure Handing where
  message : Message
  way : Way

/-- A post that was answered with success. -/
structure Answer where
  pair : Option Pair
  message : Message
  idempotentReplay : Bool

/-- The stored messages, what was handed on, and the answers. -/
structure State where
  messages : List Message
  handings : List Handing
  answers : List Answer

/-- The stage at which a post fails: before its message is stored, then attaching it to
the branch, looking for a title, in the research mode (perhaps behind its reply), queueing
the event, and answering. -/
inductive Stage
  | request
  | attach
  | title
  | research (replied : Bool)
  | enqueue
  | answer
  deriving DecidableEq

/-- What a post meets: the stage it fails at, if it does, whether research is enabled, and
the status of the latest active task. -/
structure Circumstances where
  fails : Option Stage
  featureEnabled : Bool
  active : Option String

section
variable (str : Json → String)

/-- `get_by_endpoint_message_id`; the rows are in the order of their creation. -/
def getByEndpointMessageId (messages : List Message) (thread : Nat) (id : String)
    (origin : Option Nat) (role : String) : Option Message :=
  if id = "" then none
  else messages.find? fun row =>
    row.thread = thread ∧ row.role = role ∧ (origin.isSome → row.origin = origin) ∧
      Text.strip (textOr str ((row.meta_.get "endpoint_message_id").getD .null)) = id

/-- The message a post finds. -/
def existing (state : State) (post : Post) : Option Message :=
  getByEndpointMessageId str state.messages post.thread post.idOf post.endpoint post.roleOf

/-- The message of a post. -/
def messageOf (state : State) (post : Post) : Message where
  messageId := state.messages.length
  thread := post.thread
  session := post.session
  role := post.roleOf
  origin := post.endpoint
  meta_ := post.metaOf
  pair := post.pair

/-- The message is stored. -/
def stored (state : State) (message : Message) : State :=
  { state with messages := state.messages ++ [message] }

/-- The reply of the research mode. -/
def replied (state : State) (post : Post) (command : Command) : State :=
  stored state
    { messageId := state.messages.length, thread := post.thread, session := post.session,
      role := "assistant", origin := post.endpoint,
      meta_ := Fields.of [("message_kind", .str command.kind)], pair := none }

/-- The message is handed on. -/
def handedOn (state : State) (message : Message) (way : Way) : State :=
  { state with handings := state.handings ++ [⟨message, way⟩] }

/-- The post is answered, unless that fails. -/
def answered (state : State) (post : Post) (message : Message) (replay : Bool)
    (fails : Option Stage) : State :=
  if fails = some .answer then state
  else { state with answers := state.answers ++ [⟨post.pair, message, replay⟩] }

/-- The post goes to the research mode. -/
def Post.asksResearch (post : Post) : Prop :=
  post.roleOf = "user" ∧
    wordOf (textOr str ((post.metaOf.get "preferred_mode").getD .null)) = "research" ∧
      Text.strip post.content ≠ ""

instance (post : Post) : Decidable (post.asksResearch str) :=
  inferInstanceAs (Decidable (_ ∧ _ ∧ _))

/-- The message is handed to the research mode. -/
def research (state : State) (post : Post) (message : Message) (meets : Circumstances) : State :=
  let command := commandOf meets.featureEnabled meets.active post.content
  match meets.fails with
  | some (.research behindReply) => if behindReply then replied state post command else state
  | fails => answered (handedOn (replied state post command) message (.command command)) post
      message false fails

/-- The message is queued for its session. -/
def enqueue (state : State) (post : Post) (message : Message) (meets : Circumstances) : State :=
  if meets.fails = some .enqueue then state
  else match post.session with
    | none => answered state post message false meets.fails
    | some sessionId =>
        answered (handedOn state message (.event sessionId)) post message false meets.fails

/-- `create_message`. -/
def createMessage (state : State) (post : Post) (meets : Circumstances) : State :=
  if meets.fails = some .request then state
  else match existing str state post with
    | some message => answered state post message true meets.fails
    | none =>
        let message := messageOf state post
        let created := stored state message
        if meets.fails = some .attach ∨ meets.fails = some .title then created
        else if post.asksResearch str then research created post message meets
        else enqueue created post message meets

/-- A post and what it meets. -/
def step (state : State) (action : Post × Circumstances) : Option State :=
  some (createMessage str state action.1 action.2)

end

/-! ## Heard exactly once -/

/-- The messages stored for the pair. -/
def storedFor (state : State) (pair : Pair) : Nat :=
  state.messages.countP fun message => message.pair = some pair

/-- How often the pair was handed on. -/
def handedFor (state : State) (pair : Pair) : Nat :=
  state.handings.countP fun handing => handing.message.pair = some pair

/-- A pair of a session that was answered has one message and was handed on once, and a
replay is of a message the same endpoint sent, which was handed on. -/
structure Heard (state : State) : Prop where
  once : ∀ answer ∈ state.answers, ∀ pair, answer.pair = some pair → pair.session.isSome →
    storedFor state pair = 1 ∧ handedFor state pair = 1
  replays : ∀ answer ∈ state.answers, answer.idempotentReplay → ∃ pair own,
    answer.pair = some pair ∧ answer.message.pair = some own ∧ own.endpointId = pair.endpointId ∧
      ∃ handing ∈ state.handings, handing.message = answer.message

/-- The id a message carries in its metadata. -/
def Message.idIn (str : Json → String) (message : Message) : String :=
  Text.strip (textOr str ((message.meta_.get "endpoint_message_id").getD .null))

/-- The message lies where a post looks: in its thread and role, and, if its endpoint is
registered, among the messages of that endpoint. -/
def Message.LiesFor (message : Message) (post : Post) : Prop :=
  message.thread = post.thread ∧ message.role = post.roleOf ∧
    (post.endpoint.isSome → message.origin = post.endpoint)

/-- What a post with an id meets: the first message with that id where it looks was sent under
its pair and handed on, and a message of its pair lies there. -/
structure MeetsOwn (str : Json → String) (state : State) (post : Post) (pair : Pair) : Prop where
  first : ∀ before message behind, state.messages = before ++ message :: behind →
    message.LiesFor post → message.idIn str = pair.endpointMessageId →
    (∀ earlier ∈ before, earlier.LiesFor post → earlier.idIn str ≠ pair.endpointMessageId) →
      message.pair = some pair ∧ ∃ handing ∈ state.handings, handing.message = message
  near : pair.session.isSome → ∀ message ∈ state.messages, message.pair = some pair →
    message.LiesFor post

/-- A post with an id that gets as far as the lookup meets its own messages only. -/
def Clear (str : Json → String) (state : State) (action : Post × Circumstances) : Prop :=
  ∀ pair, action.1.pair = some pair → action.2.fails ≠ some .request →
    MeetsOwn str state action.1 pair

/-- What holds of the messages, their handing on and the answers: a pair of a session is
stored at most once, nothing is handed on that was not stored, and a message carries the id of
its pair. -/
structure Kept (str : Json → String) (state : State) : Prop where
  heard : Heard state
  single : ∀ pair : Pair, pair.session.isSome → storedFor state pair ≤ 1
  within : ∀ pair, handedFor state pair ≤ storedFor state pair
  carries : ∀ message ∈ state.messages, ∀ pair, message.pair = some pair →
    message.idIn str = pair.endpointMessageId

@[simp] theorem storedFor_stored (state : State) (message : Message) (pair : Pair) :
    storedFor (stored state message) pair =
      storedFor state pair + if message.pair = some pair then 1 else 0 := by
  simp [storedFor, stored, List.countP_append, List.countP_singleton]

@[simp] theorem handedFor_stored (state : State) (message : Message) (pair : Pair) :
    handedFor (stored state message) pair = handedFor state pair := rfl

@[simp] theorem storedFor_handedOn (state : State) (message : Message) (way : Way) (pair : Pair) :
    storedFor (handedOn state message way) pair = storedFor state pair := rfl

@[simp] theorem handedFor_handedOn (state : State) (message : Message) (way : Way) (pair : Pair) :
    handedFor (handedOn state message way) pair =
      handedFor state pair + if message.pair = some pair then 1 else 0 := by
  simp [handedFor, handedOn, List.countP_append, List.countP_singleton]

theorem storedFor_eq_zero {state : State} {pair : Pair} :
    storedFor state pair = 0 ↔ ∀ message ∈ state.messages, message.pair ≠ some pair := by
  simp [storedFor, List.countP_eq_zero]

/-- A stored message counts for its pair. -/
theorem storedFor_pos {state : State} {pair : Pair} {message : Message}
    (member : message ∈ state.messages) (own : message.pair = some pair) :
    0 < storedFor state pair :=
  List.countP_pos_iff.mpr ⟨message, member, by simp [own]⟩

/-- A handing counts for its pair. -/
theorem handedFor_pos {state : State} {pair : Pair} {handing : Handing}
    (member : handing ∈ state.handings) (own : handing.message.pair = some pair) :
    0 < handedFor state pair :=
  List.countP_pos_iff.mpr ⟨handing, member, by simp [own]⟩

theorem storedFor_answers (state : State) (answers : List Answer) (pair : Pair) :
    storedFor { state with answers := answers } pair = storedFor state pair := rfl

theorem handedFor_answers (state : State) (answers : List Answer) (pair : Pair) :
    handedFor { state with answers := answers } pair = handedFor state pair := rfl

theorem messageOf_pair (state : State) (post : Post) :
    (messageOf state post).pair = post.pair := by
  simp only [messageOf]

theorem storedFor_replied (state : State) (post : Post) (command : Command) (pair : Pair) :
    storedFor (replied state post command) pair = storedFor state pair := by
  simp [replied]

theorem handedFor_replied (state : State) (post : Post) (command : Command) (pair : Pair) :
    handedFor (replied state post command) pair = handedFor state pair := rfl

/-- The pair of a post names its session. -/
theorem Post.session_of_pair {post : Post} {pair : Pair} (named : post.pair = some pair) :
    pair.session = post.session := by
  unfold Post.pair at named
  split at named
  · cases named
  · exact Option.some.inj named ▸ rfl

theorem Post.pair_of_id {post : Post} (some_ : post.idOf ≠ "") :
    post.pair = some ⟨post.session, Text.strip post.endpointId, post.idOf⟩ :=
  if_neg some_

/-- The id of a pair is the one its post carries, and not blank. -/
theorem Post.id_of_pair {post : Post} {pair : Pair} (named : post.pair = some pair) :
    pair.endpointMessageId = post.idOf ∧ post.idOf ≠ "" := by
  unfold Post.pair at named
  split at named
  · cases named
  · rename_i some_
    exact ⟨Option.some.inj named ▸ rfl, some_⟩

/-- A message is stored with the id of its post in its metadata. -/
theorem messageOf_idIn {str : Json → String} (state : State) {post : Post} {pair : Pair}
    (named : post.pair = some pair) :
    (messageOf state post).idIn str = pair.endpointMessageId := by
  obtain ⟨same, some_⟩ := Post.id_of_pair named
  have held : post.metaOf.get "endpoint_message_id" = some (.str post.idOf) := by
    rw [Post.metaOf, if_neg some_, Dict.get_set_self]
  rw [same, Message.idIn]
  dsimp only [messageOf]
  rw [held, Option.getD_some, textOr_str]
  exact Text.strip_strip _

/-- The lookup finds the first message with the id where the post looks. -/
theorem existing_eq_some {str : Json → String} {state : State} {post : Post} {message : Message}
    (found : existing str state post = some message) :
    post.idOf ≠ "" ∧ message.LiesFor post ∧ message.idIn str = post.idOf ∧
      ∃ before behind, state.messages = before ++ message :: behind ∧
        ∀ earlier ∈ before, earlier.LiesFor post → earlier.idIn str ≠ post.idOf := by
  unfold existing getByEndpointMessageId at found
  split at found
  · cases found
  · rename_i some_
    obtain ⟨meets, before, behind, split_, none_⟩ := List.find?_eq_some_iff_append.mp found
    obtain ⟨thread, role, origin, id⟩ := of_decide_eq_true meets
    refine ⟨some_, ⟨thread, role, origin⟩, id, before, behind, split_, ?_⟩
    rintro earlier member ⟨thread, role, origin⟩ id
    have misses := none_ earlier member
    rw [decide_eq_true ⟨thread, role, origin, id⟩] at misses
    cases misses

/-- Where the lookup of a post with an id finds nothing, no message with the id is there. -/
theorem existing_eq_none {str : Json → String} {state : State} {post : Post}
    (missed : existing str state post = none) (some_ : post.idOf ≠ "") :
    ∀ message ∈ state.messages, message.LiesFor post → message.idIn str ≠ post.idOf := by
  unfold existing getByEndpointMessageId at missed
  rw [if_neg some_] at missed
  rintro message member ⟨thread, role, origin⟩ id
  exact List.find?_eq_none.mp missed message member
    (decide_eq_true ⟨thread, role, origin, id⟩)

/-- A post that meets its own messages only finds its message, which was handed on. -/
theorem MeetsOwn.found {str : Json → String} {state : State} {post : Post} {pair : Pair}
    {message : Message} (meets : MeetsOwn str state post pair) (named : post.pair = some pair)
    (found : existing str state post = some message) : message ∈ state.messages ∧
      message.pair = some pair ∧ ∃ handing ∈ state.handings, handing.message = message := by
  obtain ⟨_, lies, id, before, behind, split_, first⟩ := existing_eq_some found
  have same := (Post.id_of_pair named).1
  refine ⟨?_, meets.first before message behind split_ lies (id.trans same.symm) ?_⟩
  · rw [split_]
    exact List.mem_append_right _ List.mem_cons_self
  · exact same ▸ first

section
variable {str : Json → String}

attribute [local irreducible] storedFor handedFor Post.pair existing

/-- A message is stored for a pair with none yet. -/
theorem stored_kept {state : State} {message : Message} (kept : Kept str state)
    (fresh : ∀ pair : Pair, message.pair = some pair → pair.session.isSome →
      storedFor state pair = 0)
    (carries : ∀ pair, message.pair = some pair → message.idIn str = pair.endpointMessageId) :
    Kept str (stored state message) := by
  refine ⟨⟨?_, kept.heard.replays⟩, ?_, ?_, ?_⟩
  · intro answer member pair named hears
    obtain ⟨one, once⟩ := kept.heard.once answer member pair named hears
    rw [storedFor_stored, handedFor_stored]
    by_cases own : message.pair = some pair
    · have none_ := fresh pair own hears
      omega
    · exact ⟨by simp [own, one], once⟩
  · intro pair hears
    rw [storedFor_stored]
    by_cases own : message.pair = some pair
    · simp [own, fresh pair own hears]
    · simp [own, kept.single pair hears]
  · intro pair
    have within := kept.within pair
    rw [storedFor_stored, handedFor_stored]
    omega
  · intro other member
    rcases List.mem_append.mp member with old | new
    · exact kept.carries other old
    · exact List.mem_singleton.mp new ▸ carries

/-- A message is handed on for a pair with one still to be handed on. -/
theorem handedOn_kept {state : State} {message : Message} {way : Way} (kept : Kept str state)
    (owed : ∀ pair, message.pair = some pair → handedFor state pair < storedFor state pair) :
    Kept str (handedOn state message way) := by
  refine ⟨⟨?_, ?_⟩, fun pair => storedFor_handedOn state message way pair ▸ kept.single pair, ?_,
    kept.carries⟩
  · intro answer member pair named hears
    obtain ⟨one, once⟩ := kept.heard.once answer member pair named hears
    rw [storedFor_handedOn, handedFor_handedOn]
    by_cases own : message.pair = some pair
    · have behind := owed pair own
      omega
    · exact ⟨one, by simp [own, once]⟩
  · intro answer member replay
    obtain ⟨pair, own, sent, was, same, handing, listed, of_⟩ :=
      kept.heard.replays answer member replay
    exact ⟨pair, own, sent, was, same, handing, List.mem_append_left _ listed, of_⟩
  · intro pair
    have within := kept.within pair
    rw [storedFor_handedOn, handedFor_handedOn]
    by_cases own : message.pair = some pair
    · have behind := owed pair own
      simp only [own, if_true]
      omega
    · simp [own, within]

/-- A post is answered that was heard. -/
theorem answered_kept {state : State} {post : Post} {message : Message} {replay : Bool}
    {fails : Option Stage} (kept : Kept str state)
    (heard : ∀ pair, post.pair = some pair → pair.session.isSome →
      storedFor state pair = 1 ∧ handedFor state pair = 1)
    (own : replay = true → ∃ pair, post.pair = some pair ∧ message.pair = some pair ∧
      ∃ handing ∈ state.handings, handing.message = message) :
    Kept str (answered state post message replay fails) := by
  unfold answered
  split
  · exact kept
  · refine ⟨⟨?_, ?_⟩, ?_, ?_, kept.carries⟩
    · intro answer member pair named hears
      rw [storedFor_answers, handedFor_answers]
      rcases List.mem_append.mp member with old | new
      · exact kept.heard.once answer old pair named hears
      · obtain rfl := List.mem_singleton.mp new
        exact heard pair named hears
    · intro answer member isReplay
      rcases List.mem_append.mp member with old | new
      · exact kept.heard.replays answer old isReplay
      · obtain rfl := List.mem_singleton.mp new
        obtain ⟨pair, sent, was, handed⟩ := own isReplay
        exact ⟨pair, pair, sent, was, rfl, handed⟩
    · intro pair hears
      rw [storedFor_answers]
      exact kept.single pair hears
    · intro pair
      rw [storedFor_answers, handedFor_answers]
      exact kept.within pair

/-- A reply of the research mode has no pair. -/
theorem replied_kept {state : State} {post : Post} {command : Command} (kept : Kept str state) :
    Kept str (replied state post command) :=
  stored_kept kept (fun _ named => by cases named) fun _ named => by cases named

/-- A new message is handed on and its post answered. -/
theorem handed_answered_kept {state : State} {post : Post} {message : Message} {way : Way}
    {fails : Option Stage} (kept : Kept str state) (same : message.pair = post.pair)
    (owed : ∀ pair, post.pair = some pair → handedFor state pair < storedFor state pair) :
    Kept str (answered (handedOn state message way) post message false fails) := by
  have handed : Kept str (handedOn state message way) :=
    handedOn_kept kept fun pair own => owed pair (same.symm.trans own)
  apply answered_kept handed
  · intro pair named hears
    have behind := owed pair named
    have one := handed.single pair hears
    have within := handed.within pair
    simp only [storedFor_handedOn, handedFor_handedOn, same, named, if_true] at one within ⊢
    omega
  · intro replay
    cases replay

/-- The research handler keeps the count, for a message that is owed a handing. -/
theorem research_kept {state : State} {post : Post} {message : Message} {meets : Circumstances}
    (kept : Kept str state) (same : message.pair = post.pair)
    (owed : ∀ pair, post.pair = some pair → handedFor state pair < storedFor state pair) :
    Kept str (research state post message meets) := by
  unfold research
  dsimp only
  split
  · split
    · exact replied_kept kept
    · exact kept
  · apply handed_answered_kept (replied_kept kept) same
    intro pair named
    rw [storedFor_replied, handedFor_replied]
    exact owed pair named

/-- So does the inbound queue. -/
theorem enqueue_kept {state : State} {post : Post} {message : Message} {meets : Circumstances}
    (kept : Kept str state) (same : message.pair = post.pair)
    (owed : ∀ pair, post.pair = some pair → handedFor state pair < storedFor state pair) :
    Kept str (enqueue state post message meets) := by
  unfold enqueue
  split
  · exact kept
  split
  · rename_i silent
    apply answered_kept kept
    · intro pair named hears
      rw [Post.session_of_pair named, silent] at hears
      cases hears
    · intro replay
      cases replay
  · exact handed_answered_kept kept same owed

/-- What holds of the messages is kept by a post that meets its own messages only. -/
theorem createMessage_kept {state : State} {post : Post} {meets : Circumstances}
    (kept : Kept str state) (clear : Clear str state (post, meets)) :
    Kept str (createMessage str state post meets) := by
  unfold createMessage
  split
  · exact kept
  rename_i begins
  cases found : existing str state post with
  | some message =>
    obtain ⟨pair, named⟩ : ∃ pair, post.pair = some pair :=
      ⟨_, Post.pair_of_id (existing_eq_some found).1⟩
    obtain ⟨member, own, handing, listed, of_⟩ := (clear pair named begins).found named found
    apply answered_kept kept
    · intro other also hears
      obtain rfl := Option.some.inj (named.symm.trans also)
      have some_ := storedFor_pos member own
      have handed := handedFor_pos listed (of_ ▸ own)
      have one := kept.single pair hears
      have within := kept.within pair
      omega
    · exact fun _ => ⟨pair, named, own, handing, listed, of_⟩
  | none =>
    have created : Kept str (stored state (messageOf state post)) := by
      refine stored_kept kept (fun pair own hears => ?_) fun pair own =>
        messageOf_idIn state ((messageOf_pair state post).symm.trans own)
      have named := (messageOf_pair state post).symm.trans own
      obtain ⟨same, some_⟩ := Post.id_of_pair named
      -- a message of the pair would carry the id where the post looks
      refine storedFor_eq_zero.mpr fun message member mine => ?_
      exact existing_eq_none found some_ message member
        ((clear pair named begins).near hears message member mine)
        ((kept.carries message member pair mine).trans same)
    have owed : ∀ pair, post.pair = some pair →
        handedFor (stored state (messageOf state post)) pair <
          storedFor (stored state (messageOf state post)) pair := by
      intro pair named
      have within := kept.within pair
      have own := (messageOf_pair state post).trans named
      rw [handedFor_stored, storedFor_stored, if_pos own]
      omega
    dsimp only
    split
    · exact created
    split
    · exact research_kept created (messageOf_pair state post) owed
    · exact enqueue_kept created (messageOf_pair state post) owed

end

section
variable {str : Json → String}

/-- No message yet. -/
def empty : State := ⟨[], [], []⟩

/-- Without messages nothing is owed. -/
theorem empty_kept : Kept str empty where
  heard := ⟨fun _ member => (List.not_mem_nil member).elim,
    fun _ member => (List.not_mem_nil member).elim⟩
  single := fun _ _ => by simp [empty, storedFor]
  within := fun _ => by simp [empty, handedFor]
  carries := fun _ member => (List.not_mem_nil member).elim

/-- Through every run of posts, failing at any stage, each pair of a session that was
answered is stored and handed on exactly once, and a replay is of a message of the same
endpoint that was handed on, if every post with an id meets its own messages only. -/
theorem posts_heard (posts : List (Post × Circumstances))
    (clear : Along (step str) (Clear str) empty posts) :
    Throughout (step str) Heard empty posts := by
  refine ⟨(@empty_kept str).heard, ?_⟩
  refine Along.imp_of_invariant (Kept str) ?_ ?_ empty_kept clear
  · exact fun state action next kept met taken =>
      Option.some.inj taken ▸ createMessage_kept kept met
  · exact fun state action kept met next taken =>
      (Option.some.inj taken ▸ createMessage_kept kept met : Kept str next).heard

end

/-! A message posted twice by a registered endpoint, and one endpoint's message posted
under the id of another's, neither of them registered. -/

/-- A greeting in the session, under the id of number one. -/
def greeting (endpointId : String) (endpoint : Option Nat) : Post where
  thread := 0
  session := some "sess_1"
  endpointId := endpointId
  endpoint := endpoint
  role := "user"
  content := "hello"
  endpointMessageId := "1"
  preferredMode := ""
  metadata := Fields.of []

/-- Nothing fails. -/
def smoothly : Circumstances := ⟨none, false, none⟩

def twice : List (Post × Circumstances) :=
  [(greeting "desktop" (some 0), smoothly), (greeting "desktop" (some 0), smoothly)]

/-- A post meets its own messages only where there is none. -/
theorem meetsOwn_nil {str : Json → String} {state : State} (none_ : state.messages = [])
    (post : Post) (pair : Pair) : MeetsOwn str state post pair where
  first := by
    intro before message behind split_
    rw [none_] at split_
    cases List.append_eq_nil_iff.mp split_.symm |>.2
  near := by
    intro _ message member
    rw [none_] at member
    cases member

/-- A post meets its own message, handed on and the only one. -/
theorem meetsOwn_one {str : Json → String} {state : State} {message : Message} {handing : Handing}
    (only : state.messages = [message]) (listed : handing ∈ state.handings)
    (of_ : handing.message = message) {post : Post} {pair : Pair} (own : message.pair = some pair)
    (lies : message.LiesFor post) : MeetsOwn str state post pair where
  first := by
    intro before other behind split_ _ _ _
    have member : other ∈ state.messages := by
      rw [split_]
      exact List.mem_append_right _ List.mem_cons_self
    rw [only, List.mem_singleton] at member
    exact member ▸ ⟨own, handing, listed, of_⟩
  near := by
    intro _ other member _
    rw [only, List.mem_singleton] at member
    exact member ▸ lies

/-- A post and its retry are heard once. -/
theorem twice_heard : Throughout (step textsOnly) Heard empty twice := by
  refine posts_heard twice ⟨fun _ _ _ => meetsOwn_nil rfl _ _,
    fun next taken => ⟨?_, fun _ _ => trivial⟩⟩
  obtain rfl := Option.some.inj taken
  intro pair named _
  -- the second post finds the message of the first
  let own := messageOf empty (greeting "desktop" (some 0))
  have stored : (createMessage textsOnly empty (greeting "desktop" (some 0)) smoothly).messages =
      [own] := by rfl
  have handed : (createMessage textsOnly empty (greeting "desktop" (some 0)) smoothly).handings =
      [⟨own, .event "sess_1"⟩] := by rfl
  exact meetsOwn_one stored (handed ▸ List.mem_singleton.mpr rfl) rfl named
    ⟨rfl, rfl, fun _ => rfl⟩

def borrowed : List (Post × Circumstances) :=
  [(greeting "web-a" none, smoothly), (greeting "web-b" none, smoothly)]

/-- The second endpoint is answered with the message of the first. -/
theorem borrowed_not_heard :
    ¬ ∀ posts : List (Post × Circumstances), Throughout (step textsOnly) Heard empty posts := by
  intro heard
  have ran : (run (step textsOnly) empty borrowed).any (fun state =>
      state.answers.any (fun answer => decide (answer.pair = some ⟨some "sess_1", "web-b", "1"⟩)) &&
        decide (storedFor state ⟨some "sess_1", "web-b", "1"⟩ = 0)) = true := by decide +kernel
  obtain ⟨state, completed, found⟩ := Option.any_eq_true _ _ |>.mp ran
  obtain ⟨answers, unstored⟩ := Bool.and_eq_true _ _ |>.mp found
  obtain ⟨answer, member, named⟩ := List.any_eq_true.mp answers
  have one := (((heard borrowed).final completed).once answer member _ (of_decide_eq_true named)
    rfl).1
  have none_ := of_decide_eq_true unstored
  omega

end MeetYou.MessagePosts
