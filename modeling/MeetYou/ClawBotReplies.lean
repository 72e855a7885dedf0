import Mathlib.Data.Fintype.Defs
import MeetYou.Foundation.Dict
import MeetYou.Foundation.Positions
import MeetYou.Foundation.Runs
import MeetYou.Foundation.Text

/-!
# Final replies to a WeChat conversation

A final reply arrives as a message, or as the end of a stream whose parts came before. Its
conversation and its message id are remembered before it is sent, and a frame whose key is
remembered is dropped; so are a frame for another conversation, one of another role and one
without text. The memory is emptied when it has grown. Only a send that was tried is reported.

A send takes time, and other frames are handled meanwhile. Which plain text a reply has is given
from outside.
-/

namespace MeetYou.ClawBotReplies

open Runs Text

/-! ## Frames -/

/-- The frames that carry a reply or a part of one, their texts as `str` makes them. -/
inductive Frame
  | message (role content messageId : String)
  | delta (streamId channel text : String)
  | completed (streamId content messageId : String)

/-- A frame with its delivery id and its target, both without blanks at their ends. -/
structure Outbound where
  deliveryId : String
  targetExternalRef : String
  frame : Frame

/-- The message id of a final reply. -/
def Frame.messageId : Frame → String
  | .message _ _ messageId | .completed _ _ messageId => messageId
  | .delta _ _ _ => ""

/-- The frame carries a final reply. -/
def Frame.isFinal : Frame → Bool
  | .delta _ _ _ => false
  | .message _ _ _ | .completed _ _ _ => true

/-! ## The output service -/

/-- What has become of a final reply: it was dropped, is being sent, was sent, or its send
raised. -/
inductive Phase
  | dropped
  | sending
  | sent
  | failed
  deriving DecidableEq

/-- A handled final reply, with the statuses reported for its delivery. -/
structure Handled where
  ref : String
  messageId : String
  deliveryId : String
  /-- A turn waits for the reply when it is handled. -/
  pending : Bool
  phase : Phase
  reports : List String
  /-- The key the reply was looked up under, and how often the memory had been emptied when it
  was; no attributes of the service. -/
  key : Option String
  era : Nat

/-- The output service with what has become of its final replies. -/
structure State where
  /-- `_pending_replies`, as far as whether they allow a send. -/
  pendingReplies : Dict String Bool
  streamBuffers : Dict String (List String)
  sentFinalKeys : List String
  /-- The final replies handled so far, and how often the memory was emptied; no attributes of
  the service. -/
  handled : List Handled
  emptied : Nat

/-- The service has sent nothing. -/
def start : State := ⟨Dict.empty, Dict.empty, [], [], 0⟩

/-- The conversation a frame is for, unless it is for another one or for none. -/
def Outbound.refFor (outbound : Outbound) (ref : String) : Option String :=
  if outbound.targetExternalRef ≠ "" then
    if ref ≠ "" ∧ ref ≠ outbound.targetExternalRef then none
    else some outbound.targetExternalRef
  else if ref = "" then none else some ref

/-- `stream_key` -/
def streamKey (ref streamId : String) : String :=
  if streamId = "" then "" else ref ++ ":" ++ streamId

/-- The key of `_remember_final_delivery`, if there is one. -/
def finalKey (ref messageId stream : String) : Option String :=
  let key := strip (if messageId = "" then stream else messageId)
  if key = "" then none else some (ref ++ ":" ++ key)

/-- Whether the memory has a key. -/
def State.remembers (state : State) (key : Option String) : Bool :=
  key.any fun scopedKey => scopedKey ∈ state.sentFinalKeys

/-- `_remember_final_delivery` of a key that is not remembered. -/
def State.remember (state : State) (key : Option String) : State :=
  match key with
  | none => state
  | some scopedKey =>
    if state.sentFinalKeys.length > 4096 then
      { state with sentFinalKeys := [scopedKey], emptied := state.emptied + 1 }
    else { state with sentFinalKeys := state.sentFinalKeys ++ [scopedKey] }

/-- A handled reply is noted. -/
def State.record (state : State) (handled : Handled) : State :=
  { state with handled := state.handled ++ [handled] }

/-- `_complete_pending` -/
def State.completePending (state : State) (ref : String) : State :=
  { state with pendingReplies := state.pendingReplies.pop ref }

/-- `_handle_outbound_text` of a final reply, up to its send. -/
def handleOutboundText (plainText : String → String) (state : State) (ref text messageId : String)
    (deliveryId : String) (key : Option String) : State :=
  let pending := state.pendingReplies.get ref
  let handled : Handled :=
    ⟨ref, messageId, deliveryId, pending.isSome, .dropped, [], key, state.emptied⟩
  if plainText text = "" ∨ pending = some false then
    if pending.isSome then (state.completePending ref).record handled else state.record handled
  else state.record { handled with phase := .sending }

/-- A final reply is dropped when its key is remembered, else remembered and handed on. -/
def handleFinal (plainText : String → String) (state : State) (ref text messageId stream : String)
    (deliveryId : String) : State :=
  let key := finalKey ref messageId stream
  if state.remembers key then
    state.record ⟨ref, messageId, deliveryId, (state.pendingReplies.get ref).isSome, .dropped, [],
      key, state.emptied⟩
  else handleOutboundText plainText (state.remember key) ref text messageId deliveryId key

/-- The text of a reply: its content, or else what its stream has brought. -/
def State.textOf (state : State) (ref : String) : Frame → String
  | .message _ content _ => strip content
  | .completed streamId content _ =>
    if strip content ≠ "" then strip content
    else String.join ((state.streamBuffers.get (streamKey ref streamId)).getD [])
  | .delta _ _ _ => ""

/-- The role of a message is that of the assistant, or none. -/
def Frame.admitted : Frame → Bool
  | .message role _ _ => lowerWord (strip role) ∈ ["", "assistant"]
  | _ => true

/-- The stream key of a frame. -/
def Frame.stream (ref : String) : Frame → String
  | .completed streamId _ _ => streamKey ref streamId
  | _ => ""

/-- `send_runtime_event` of a reply frame that came in for a conversation, up to its send. -/
def sendRuntimeEvent (plainText : String → String) (state : State) (ref : String)
    (outbound : Outbound) : State :=
  let dropped (ref : String) : State :=
    if outbound.frame.isFinal then
      state.record ⟨ref, outbound.frame.messageId, outbound.deliveryId, false, .dropped, [], none,
        state.emptied⟩
    else state
  match outbound.refFor ref with
  | none => dropped ref
  | some ref =>
    match outbound.frame with
    | .message _ _ messageId =>
      if outbound.frame.admitted = false then dropped ref
      else handleFinal plainText state ref (state.textOf ref outbound.frame) messageId ""
        outbound.deliveryId
    | .delta streamId channel text =>
      let key := streamKey ref streamId
      if channel ∈ ["", "answer"] ∧ key ≠ "" then
        { state with streamBuffers :=
            state.streamBuffers.set key ((state.streamBuffers.get key).getD [] ++ [text]) }
      else state
    | .completed streamId _ messageId =>
      let key := streamKey ref streamId
      let text := state.textOf ref outbound.frame
      let taken := if key = "" then state
        else { state with streamBuffers := state.streamBuffers.pop key }
      handleFinal plainText taken ref text messageId key outbound.deliveryId

/-- A send succeeds or raises; the waiting turn is told, and the delivery's result reported. -/
def finishSend (state : State) (index : Nat) (ok : Bool) : Option State :=
  state.handled[index]?.bind fun handled =>
    if handled.phase ≠ .sending then none
    else
      let completed := if handled.pending then state.completePending handled.ref else state
      let status := if ok then "sent" else "failed"
      some { completed with
        handled := state.handled.set index { handled with
          phase := if ok then .sent else .failed
          reports := if handled.deliveryId = "" then handled.reports
            else handled.reports ++ [status] } }

/-- A frame comes in on the connection of a conversation, or of the provider; a send ends; or a
turn begins or stops to wait for its reply. -/
inductive Action
  | handles (ref : String) (outbound : Outbound)
  | sends (index : Nat) (ok : Bool)
  | begins (ref : String) (allowSend : Bool)
  | discards (ref : String)

/-- A frame comes, a send ends, or a pending reply begins or is discarded. -/
def step (plainText : String → String) (state : State) : Action → Option State
  | .handles ref outbound => some (sendRuntimeEvent plainText state ref outbound)
  | .sends index ok => finishSend state index ok
  | .begins ref allowSend =>
    some { state with pendingReplies := state.pendingReplies.set ref allowSend }
  | .discards ref => some (state.completePending ref)

/-! ## Exactly once -/

/-- The reply of a message id in a conversation. -/
def Handled.Is (handled : Handled) (ref messageId : String) : Prop :=
  handled.ref = ref ∧ handled.messageId = messageId

instance (handled : Handled) (ref messageId : String) : Decidable (handled.Is ref messageId) := by
  unfold Handled.Is
  infer_instance

/-- No reply of a message id has been sent or is being sent to a conversation. -/
def State.Unsent (state : State) (ref messageId : String) : Prop :=
  ∀ handled ∈ state.handled, handled.Is ref messageId →
    handled.phase ≠ .sent ∧ handled.phase ≠ .sending

instance (state : State) (ref messageId : String) : Decidable (state.Unsent ref messageId) := by
  unfold State.Unsent
  infer_instance

/-- A send of a reply of a message id to a conversation has raised. -/
def State.Failed (state : State) (ref messageId : String) : Prop :=
  ∃ handled ∈ state.handled, handled.Is ref messageId ∧ handled.phase = .failed

instance (state : State) (ref messageId : String) : Decidable (state.Failed ref messageId) := by
  unfold State.Failed
  infer_instance

/-- The frame has a reply to send to a conversation: its role is admitted, its text is not
empty, and no waiting turn forbids it. -/
def Sendable (plainText : String → String) (state : State) (ref : String) (frame : Frame) : Prop :=
  frame.admitted = true ∧ plainText (state.textOf ref frame) ≠ "" ∧
    state.pendingReplies.get ref ≠ some false

instance (plainText : String → String) (state : State) (ref : String) (frame : Frame) :
    Decidable (Sendable plainText state ref frame) := by
  unfold Sendable
  infer_instance

/-- A message id is sent with success to a conversation once, and a handled reply whose send is
not going on is reported once if it carries a delivery id. -/
structure ExactlyOnce (state : State) : Prop where
  sentOnce : ∀ (one other : Nat) (oneHandled otherHandled : Handled),
    state.handled[one]? = some oneHandled → state.handled[other]? = some otherHandled →
    oneHandled.messageId ≠ "" → otherHandled.Is oneHandled.ref oneHandled.messageId →
    oneHandled.phase = .sent → otherHandled.phase = .sent → one = other
  reported : ∀ handled ∈ state.handled, handled.deliveryId ≠ "" → handled.phase ≠ .sending →
    handled.reports.length = 1

/-- A reply that comes again after its send failed, and has not been sent since, is tried. -/
def Retried (plainText : String → String) (state : State) : Action → State → Prop
  | .handles ref outbound, next => ∀ target ∈ outbound.refFor ref,
      outbound.frame.isFinal = true → outbound.frame.messageId ≠ "" →
      Sendable plainText state target outbound.frame →
      state.Failed target outbound.frame.messageId →
      state.Unsent target outbound.frame.messageId →
      ∃ tried, next.handled = state.handled ++ [tried] ∧
        tried.Is target outbound.frame.messageId ∧ tried.phase = .sending
  | _, _ => True

/-- No reply that was looked up under the key of a frame has been handled since the memory was
last emptied. -/
def State.New (state : State) (ref : String) (frame : Frame) : Prop :=
  ∀ earlier ∈ state.handled, earlier.era = state.emptied →
    earlier.key ≠ none → earlier.key ≠ finalKey ref frame.messageId (frame.stream ref)

instance (state : State) (ref : String) (frame : Frame) : Decidable (state.New ref frame) := by
  unfold State.New
  infer_instance

/-- A final reply with a delivery id is for its conversation, has a reply to send, and is the first
one under its key since the memory was last emptied. A reply that was sent or is being sent comes
again only before the memory is emptied and with an id that is not blank; one whose send failed and
that has not been sent comes again only after the memory was emptied. -/
def Fits (plainText : String → String) (state : State) : Action → Prop
  | .handles ref outbound => outbound.frame.isFinal = true →
      (outbound.deliveryId ≠ "" → ∃ target ∈ outbound.refFor ref,
        Sendable plainText state target outbound.frame ∧ state.New target outbound.frame) ∧
      ∀ target ∈ outbound.refFor ref, outbound.frame.messageId ≠ "" →
        Sendable plainText state target outbound.frame →
          (∀ earlier ∈ state.handled, earlier.Is target outbound.frame.messageId →
            earlier.phase = .sent ∨ earlier.phase = .sending →
              earlier.era = state.emptied ∧ strip outbound.frame.messageId ≠ "") ∧
          (state.Failed target outbound.frame.messageId →
            state.Unsent target outbound.frame.messageId → state.New target outbound.frame)
  | _ => True

/-- The memory has the key of a frame for a conversation. -/
def Remembered (state : State) (ref : String) (frame : Frame) : Prop :=
  state.remembers (finalKey ref frame.messageId (frame.stream ref)) = true

instance (state : State) (ref : String) (frame : Frame) : Decidable (Remembered state ref frame) :=
  inferInstanceAs (Decidable (_ = true))

/-! ## What a step does -/

/-- The key a final reply is looked up under: none, if it is dropped before that. -/
def Outbound.key (outbound : Outbound) (ref : String) : Option String :=
  match outbound.refFor ref with
  | none => none
  | some target =>
    if outbound.frame.admitted = true then
      finalKey target outbound.frame.messageId (outbound.frame.stream target)
    else none

/-- The memory, with how often it was emptied, behind a look under a key. -/
def noted (keys : List String) (emptied : Nat) : Option String → List String × Nat
  | none => (keys, emptied)
  | some key =>
    if key ∈ keys then (keys, emptied)
    else if keys.length > 4096 then ([key], emptied + 1)
    else (keys ++ [key], emptied)

section
variable {plainText : String → String} {state next : State}

/-- A reply was handled: it was looked up under its key, and what became of it is recorded. -/
structure Records (state : State) (key : Option String) (next : State) (reply : Handled) :
    Prop where
  handled : next.handled = state.handled ++ [reply]
  memory : (next.sentFinalKeys, next.emptied) = noted state.sentFinalKeys state.emptied key
  key : reply.key = key
  era : reply.era = next.emptied
  reports : reply.reports = []

theorem remembers_iff {key : Option String} : state.remembers key = true ↔
    ∃ scopedKey, key = some scopedKey ∧ scopedKey ∈ state.sentFinalKeys := by
  cases key with
  | none => exact ⟨nofun, fun ⟨_, keyless, _⟩ => by cases keyless⟩
  | some scopedKey =>
    rw [State.remembers, Option.any_some, decide_eq_true_eq]
    exact ⟨fun member => ⟨scopedKey, rfl, member⟩,
      fun ⟨_, same, member⟩ => Option.some.inj same ▸ member⟩

/-- What `_handle_outbound_text` leaves behind. -/
theorem handleOutboundText_handled (ref text messageId deliveryId : String)
    (key : Option String) :
    ∃ handled : Handled,
      (handleOutboundText plainText state ref text messageId deliveryId key).handled =
        state.handled ++ [handled] ∧
      (handleOutboundText plainText state ref text messageId deliveryId key).sentFinalKeys =
        state.sentFinalKeys ∧
      (handleOutboundText plainText state ref text messageId deliveryId key).emptied =
        state.emptied ∧
      handled.key = key ∧ handled.era = state.emptied ∧
      handled.Is ref messageId ∧ handled.deliveryId = deliveryId ∧ handled.reports = [] ∧
      handled.phase = if plainText text ≠ "" ∧ state.pendingReplies.get ref ≠ some false then .sending
        else .dropped := by
  unfold handleOutboundText
  dsimp only
  by_cases silent : plainText text = "" ∨ state.pendingReplies.get ref = some false
  · have unsendable : ¬ (plainText text ≠ "" ∧ state.pendingReplies.get ref ≠ some false) := by
      rintro ⟨some_, allowed⟩
      exact silent.elim some_ allowed
    rw [if_pos silent, if_neg unsendable]
    split <;> exact ⟨_, rfl, rfl, rfl, rfl, rfl, ⟨rfl, rfl⟩, rfl, rfl, rfl⟩
  · rw [if_neg silent, if_pos (not_or.mp silent)]
    exact ⟨_, rfl, rfl, rfl, rfl, rfl, ⟨rfl, rfl⟩, rfl, rfl, rfl⟩

/-- What a final reply leaves behind: a record that is being sent, or one that is dropped. -/
theorem handleFinal_records (ref text messageId stream deliveryId : String) :
    ∃ handled : Handled,
      Records state (finalKey ref messageId stream)
        (handleFinal plainText state ref text messageId stream deliveryId) handled ∧
      handled.Is ref messageId ∧ handled.deliveryId = deliveryId ∧
      handled.phase = if (plainText text ≠ "" ∧ state.pendingReplies.get ref ≠ some false) ∧
        ¬ state.remembers (finalKey ref messageId stream) = true then .sending else .dropped := by
  unfold handleFinal
  dsimp only
  by_cases known : state.remembers (finalKey ref messageId stream) = true
  · rw [if_pos known, if_neg (fun both => both.2 known)]
    refine ⟨_, ⟨rfl, ?_, rfl, rfl, rfl⟩, ⟨rfl, rfl⟩, rfl, rfl⟩
    obtain ⟨scopedKey, is, member⟩ := remembers_iff.mp known
    rw [is, noted, if_pos member]
    rfl
  · rw [if_neg known]
    obtain ⟨handled, grown, keys, emptied, key, era, same, delivery, reports, phase⟩ :=
      @handleOutboundText_handled plainText (state.remember (finalKey ref messageId stream)) ref
        text messageId deliveryId (finalKey ref messageId stream)
    generalize finalKey ref messageId stream = looked at *
    have kept : (state.remember looked).handled = state.handled ∧
        (state.remember looked).pendingReplies = state.pendingReplies := by
      unfold State.remember
      split
      · exact ⟨rfl, rfl⟩
      · split <;> exact ⟨rfl, rfl⟩
    have memory : ((state.remember looked).sentFinalKeys, (state.remember looked).emptied) =
        noted state.sentFinalKeys state.emptied looked := by
      cases looked with
      | none => rfl
      | some scopedKey =>
        rw [remembers_iff, not_exists] at known
        rw [noted, if_neg fun member => known scopedKey ⟨rfl, member⟩, State.remember]
        split <;> rfl
    rw [kept.1] at grown
    rw [kept.2] at phase
    refine ⟨handled, ⟨grown, ?_, key, ?_, reports⟩, same, delivery, ?_⟩
    · rw [keys, emptied, memory]
    · rw [era, emptied]
    · rw [phase]
      simp [known]

/-- What a final reply frame leaves behind. -/
theorem sendRuntimeEvent_records (ref : String) {outbound : Outbound}
    (final : outbound.frame.isFinal = true) :
    ∃ handled : Handled,
      Records state (outbound.key ref) (sendRuntimeEvent plainText state ref outbound) handled ∧
      handled.messageId = outbound.frame.messageId ∧ handled.deliveryId = outbound.deliveryId ∧
      match outbound.refFor ref with
      | none => handled.phase = .dropped
      | some target => handled.ref = target ∧
          handled.phase = if Sendable plainText state target outbound.frame ∧
            ¬ Remembered state target outbound.frame then .sending else .dropped := by
  unfold sendRuntimeEvent Outbound.key
  dsimp only
  cases outbound.refFor ref with
  | none =>
    dsimp only
    rw [if_pos final]
    exact ⟨_, ⟨rfl, rfl, rfl, rfl, rfl⟩, rfl, rfl, rfl⟩
  | some target =>
    dsimp only
    cases frame : outbound.frame with
    | delta streamId channel text =>
      rw [frame] at final
      cases final
    | message role content messageId =>
      dsimp only
      by_cases admitted : (Frame.message role content messageId).admitted = false
      · rw [if_pos admitted, ← frame, if_pos final, frame, admitted]
        refine ⟨_, ⟨rfl, rfl, rfl, rfl, rfl⟩, rfl, rfl, rfl, ?_⟩
        rw [if_neg]
        rintro ⟨sendable, _⟩
        rw [sendable.1] at admitted
        cases admitted
      · have admits : (Frame.message role content messageId).admitted = true := by
          simpa using admitted
        rw [if_neg admitted, admits]
        obtain ⟨handled, records, same, delivery, phase⟩ := @handleFinal_records plainText
          state target (state.textOf target (.message role content messageId)) messageId ""
          outbound.deliveryId
        refine ⟨handled, records, same.2, delivery, same.1, ?_⟩
        rw [phase]
        simp only [Sendable, Remembered, admits, true_and, Frame.stream, Frame.messageId]
    | completed streamId content messageId =>
      have admits : (Frame.completed streamId content messageId).admitted = true := rfl
      rw [if_pos admits]
      dsimp only [Frame.messageId, Frame.stream]
      have fields : ∀ taken : State, taken = (if streamKey target streamId = "" then state
          else { state with
            streamBuffers := state.streamBuffers.pop (streamKey target streamId) }) →
          taken.handled = state.handled ∧ taken.sentFinalKeys = state.sentFinalKeys ∧
            taken.emptied = state.emptied ∧ taken.pendingReplies = state.pendingReplies := by
        intro taken is
        rw [is]
        split <;> exact ⟨rfl, rfl, rfl, rfl⟩
      generalize takenIs : (if streamKey target streamId = "" then state
        else { state with
          streamBuffers := state.streamBuffers.pop (streamKey target streamId) }) = taken
      obtain ⟨sameHandled, sameKeys, sameEmptied, samePending⟩ := fields taken takenIs.symm
      obtain ⟨handled, records, same, delivery, phase⟩ := @handleFinal_records plainText
        taken target (state.textOf target (.completed streamId content messageId)) messageId
        (streamKey target streamId) outbound.deliveryId
      refine ⟨handled, ⟨?_, ?_, records.key, records.era, records.reports⟩, same.2, delivery,
        same.1, ?_⟩
      · rw [records.handled, sameHandled]
      · rw [records.memory, sameKeys, sameEmptied]
      · rw [phase, samePending]
        simp only [Sendable, Remembered, Frame.admitted, true_and, Frame.stream, Frame.messageId,
          State.remembers, sameKeys]

/-- A part of a stream leaves no record and is not remembered. -/
theorem sendRuntimeEvent_delta (ref : String) {outbound : Outbound}
    (part : outbound.frame.isFinal = false) :
    (sendRuntimeEvent plainText state ref outbound).handled = state.handled ∧
      (sendRuntimeEvent plainText state ref outbound).sentFinalKeys = state.sentFinalKeys ∧
      (sendRuntimeEvent plainText state ref outbound).emptied = state.emptied := by
  unfold sendRuntimeEvent
  dsimp only
  cases outbound.refFor ref with
  | none =>
    dsimp only
    rw [if_neg (by rw [part]; decide)]
    exact ⟨rfl, rfl, rfl⟩
  | some target =>
    cases frame : outbound.frame with
    | delta streamId channel text =>
      dsimp only
      split <;> exact ⟨rfl, rfl, rfl⟩
    | message role content messageId =>
      rw [frame] at part
      cases part
    | completed streamId content messageId =>
      rw [frame] at part
      cases part

/-! ## What holds between steps -/

/-- A reply that was sent or is being sent. -/
def Phase.claimed : Phase → Bool
  | .sending | .sent => true
  | .dropped | .failed => false

/-- A message id of a conversation is claimed by one record, and a reply with a delivery id is
reported unless its send is going on. -/
structure Sound (handled : List Handled) : Prop where
  single : ∀ (one other : Nat) (oneHandled otherHandled : Handled), handled[one]? = some oneHandled →
    handled[other]? = some otherHandled → oneHandled.messageId ≠ "" →
    otherHandled.Is oneHandled.ref oneHandled.messageId → oneHandled.phase.claimed = true →
    otherHandled.phase.claimed = true → one = other
  reported : ∀ reply ∈ handled, reply.deliveryId ≠ "" →
    reply.reports.length = if reply.phase = .sending then 0 else 1

/-- The memory holds the keys of the replies handled since it was last emptied, and a reply that
was handed on was looked up under the key of its message id. -/
structure Memory (state : State) : Prop where
  known : ∀ key, key ∈ state.sentFinalKeys ↔
    ∃ reply ∈ state.handled, reply.era = state.emptied ∧ reply.key = some key
  eras : ∀ reply ∈ state.handled, reply.era ≤ state.emptied
  keyed : ∀ reply ∈ state.handled, reply.messageId ≠ "" → reply.phase ≠ .dropped →
    reply.key = finalKey reply.ref reply.messageId ""

/-- A frame is remembered exactly where it is not the first one under its key. -/
theorem Memory.remembered_iff (memory : Memory state) (ref : String) (frame : Frame) :
    Remembered state ref frame ↔ ¬ state.New ref frame := by
  unfold Remembered State.New
  rw [remembers_iff]
  push Not
  constructor
  · rintro ⟨key, is, member⟩
    obtain ⟨reply, handled, era, keyed⟩ := (memory.known key).mp member
    exact ⟨reply, handled, era, keyed ▸ Option.some_ne_none key, keyed.trans is.symm⟩
  · rintro ⟨reply, handled, era, some_, same⟩
    obtain ⟨key, keyed⟩ := Option.ne_none_iff_exists'.mp some_
    exact ⟨key, same.symm.trans keyed, (memory.known key).mpr ⟨reply, handled, era, keyed⟩⟩

/-- The key of a reply with a message id does not depend on its stream. -/
theorem finalKey_eq {ref messageId : String} (stream : String) (named : messageId ≠ "") :
    finalKey ref messageId stream =
      if strip messageId = "" then none else some (ref ++ ":" ++ strip messageId) := by
  rw [finalKey, if_neg named]

/-- A look under a key keeps the memory right. -/
theorem Memory.records (memory : Memory state) {key : Option String} {reply : Handled}
    (records : Records state key next reply)
    (keyed : reply.messageId ≠ "" → reply.phase ≠ .dropped →
      reply.key = finalKey reply.ref reply.messageId "") : Memory next := by
  obtain ⟨handled, noted, isKey, isEra, _⟩ := records
  obtain ⟨keys, emptied⟩ := Prod.ext_iff.mp noted
  dsimp only at keys emptied
  have grown : state.emptied ≤ next.emptied ∧ ∀ key, key ∈ next.sentFinalKeys ↔
      (next.emptied = state.emptied ∧ key ∈ state.sentFinalKeys) ∨ reply.key = some key := by
    rw [isKey, keys, emptied]
    cases key with
    | none => simp [ClawBotReplies.noted]
    | some scopedKey =>
      rw [ClawBotReplies.noted]
      split
      · next member =>
        refine ⟨Nat.le_refl _, fun key => ⟨fun there => Or.inl ⟨rfl, there⟩, ?_⟩⟩
        rintro (⟨_, there⟩ | same)
        · exact there
        · exact Option.some.inj same ▸ member
      · split
        · refine ⟨Nat.le_succ _, fun key => ?_⟩
          simp [eq_comm]
        · refine ⟨Nat.le_refl _, fun key => ?_⟩
          simp [eq_comm]
  refine ⟨fun key => ?_, ?_, ?_⟩
  · rw [grown.2 key, handled]
    constructor
    · rintro (⟨same, member⟩ | same)
      · obtain ⟨earlier, there, era, is⟩ := (memory.known key).mp member
        exact ⟨earlier, List.mem_append_left _ there, era.trans same.symm, is⟩
      · exact ⟨reply, List.mem_append_right _ (List.mem_singleton_self _), isEra, same⟩
    · rintro ⟨earlier, member, era, is⟩
      rcases List.mem_append.mp member with there | last
      · have late := memory.eras earlier there
        have same : next.emptied = state.emptied := by
          have := grown.1
          omega
        exact Or.inl ⟨same, (memory.known key).mpr ⟨earlier, there, era.trans same, is⟩⟩
      · exact Or.inr (List.mem_singleton.mp last ▸ is)
  · rw [handled]
    intro earlier member
    rcases List.mem_append.mp member with there | last
    · exact Nat.le_trans (memory.eras earlier there) grown.1
    · obtain rfl := List.mem_singleton.mp last
      exact Nat.le_of_eq isEra
  · rw [handled]
    intro earlier member
    rcases List.mem_append.mp member with there | last
    · exact memory.keyed earlier there
    · obtain rfl := List.mem_singleton.mp last
      exact keyed

theorem unclaimed_iff {phase : Phase} :
    phase.claimed = false ↔ phase ≠ .sent ∧ phase ≠ .sending := by
  cases phase <;> simp [Phase.claimed]

/-- A new record keeps what holds, if it is sent only where its reply was not, and dropped only
without a delivery id. -/
theorem sound_append (sound : Sound state.handled) {reply : Handled} (reports : reply.reports = [])
    (delivered : reply.deliveryId ≠ "" → reply.phase = .sending)
    (fresh : reply.messageId ≠ "" → reply.phase.claimed = true →
      state.Unsent reply.ref reply.messageId) :
    Sound (state.handled ++ [reply]) := by
  constructor
  · intro one other oneHandled otherHandled placedOne placedOther named same oneClaimed otherClaimed
    have unsent : ∀ {earlier : Handled}, earlier ∈ state.handled → earlier.phase.claimed = true →
        reply.messageId ≠ "" → reply.phase.claimed = true →
          ¬ earlier.Is reply.ref reply.messageId := by
      intro earlier member claimed some_ claims is
      have unclaimed := unclaimed_iff.mpr (fresh some_ claims earlier member is)
      rw [claimed] at unclaimed
      cases unclaimed
    rcases Positions.append_cases placedOne with oneOld | ⟨oneLast, rfl⟩
    · rcases Positions.append_cases placedOther with otherOld | ⟨_, rfl⟩
      · exact sound.single one other oneHandled otherHandled oneOld otherOld named same oneClaimed
          otherClaimed
      · exact absurd ⟨same.1.symm, same.2.symm⟩ (unsent (List.mem_of_getElem? oneOld) oneClaimed
          (same.2 ▸ named) otherClaimed)
    · rcases Positions.append_cases placedOther with otherOld | ⟨otherLast, _⟩
      · exact absurd same (unsent (List.mem_of_getElem? otherOld) otherClaimed named oneClaimed)
      · exact oneLast.trans otherLast.symm
  · intro earlier member some_
    rcases List.mem_append.mp member with old | new
    · exact sound.reported earlier old some_
    · obtain rfl := List.mem_singleton.mp new
      rw [reports, if_pos (delivered some_)]
      rfl

/-- The end of a send keeps what holds. -/
theorem sound_set (sound : Sound state.handled) {index : Nat} {reply after : Handled}
    (found : state.handled[index]? = some reply) (sending : reply.phase = .sending)
    (is : after.Is reply.ref reply.messageId) (delivery : after.deliveryId = reply.deliveryId)
    (ended : after.phase ≠ .sending)
    (reports : after.deliveryId ≠ "" → after.reports.length = reply.reports.length + 1) :
    Sound (state.handled.set index after) := by
  have claimed : reply.phase.claimed = true := by
    rw [sending]
    rfl
  have earlier : ∀ {other : Nat} {held : Handled},
      (state.handled.set index after)[other]? = some held → held.phase.claimed = true →
        ∃ old : Handled, state.handled[other]? = some old ∧ held.Is old.ref old.messageId ∧
          old.phase.claimed = true := by
    intro other held placed claims
    rcases Positions.set_cases placed with ⟨rfl, rfl⟩ | ⟨_, old⟩
    · exact ⟨reply, found, is, claimed⟩
    · exact ⟨held, old, ⟨rfl, rfl⟩, claims⟩
  constructor
  · intro one other oneHandled otherHandled placedOne placedOther named same oneClaimed otherClaimed
    obtain ⟨oneOld, oneFound, oneIs, oneClaims⟩ := earlier placedOne oneClaimed
    obtain ⟨otherOld, otherFound, otherIs, otherClaims⟩ := earlier placedOther otherClaimed
    refine sound.single one other oneOld otherOld oneFound otherFound (oneIs.2 ▸ named)
      ⟨?_, ?_⟩ oneClaims otherClaims
    · exact otherIs.1.symm.trans (same.1.trans oneIs.1)
    · exact otherIs.2.symm.trans (same.2.trans oneIs.2)
  · intro held member some_
    obtain ⟨other, placed⟩ := List.getElem?_of_mem member
    rcases Positions.set_cases placed with ⟨rfl, rfl⟩ | ⟨_, old⟩
    · have before := sound.reported reply (List.mem_of_getElem? found) (delivery ▸ some_)
      rw [if_pos sending] at before
      rw [if_neg ended, reports some_, before]
    · exact sound.reported held (List.mem_of_getElem? old) some_

/-- Fields that stay as they are keep the memory right. -/
theorem Memory.of_same (memory : Memory state) (handled : next.handled = state.handled)
    (keys : next.sentFinalKeys = state.sentFinalKeys) (emptied : next.emptied = state.emptied) :
    Memory next := by
  obtain ⟨known, eras, keyed⟩ := memory
  refine ⟨?_, ?_, ?_⟩
  · rwa [keys, handled, emptied]
  · rwa [handled, emptied]
  · rwa [handled]

/-- The end of a send keeps the memory right. -/
theorem Memory.ended (memory : Memory state) {index : Nat} {reply : Handled} {phase : Phase}
    {reports : List String} (found : state.handled[index]? = some reply)
    (sending : reply.phase = .sending)
    (handled : next.handled =
      state.handled.set index { reply with phase := phase, reports := reports })
    (keys : next.sentFinalKeys = state.sentFinalKeys) (emptied : next.emptied = state.emptied) :
    Memory next := by
  have member := List.mem_of_getElem? found
  have back : ∀ held ∈ next.handled, ∃ old ∈ state.handled, old.key = held.key ∧
      old.era = held.era ∧ old.messageId = held.messageId ∧ old.ref = held.ref ∧
      (held.phase ≠ .dropped → old.phase ≠ .dropped) := by
    rw [handled]
    intro held there
    obtain ⟨place, placed⟩ := List.getElem?_of_mem there
    rcases Positions.set_cases placed with ⟨rfl, rfl⟩ | ⟨_, old⟩
    · refine ⟨reply, member, rfl, rfl, rfl, rfl, fun _ => ?_⟩
      rw [sending]
      decide
    · exact ⟨held, List.mem_of_getElem? old, rfl, rfl, rfl, rfl, id⟩
  have forth : ∀ old ∈ state.handled, ∃ held ∈ next.handled,
      held.key = old.key ∧ held.era = old.era := by
    rw [handled]
    intro old there
    obtain ⟨place, placed⟩ := List.getElem?_of_mem there
    by_cases same : index = place
    · subst same
      obtain rfl := Option.some.inj (found.symm.trans placed)
      exact ⟨_, List.mem_set (List.getElem?_eq_some_iff.mp found).1 _, rfl, rfl⟩
    · exact ⟨old, List.mem_of_getElem? ((List.getElem?_set_ne same).trans placed), rfl, rfl⟩
  refine ⟨fun key => ?_, ?_, ?_⟩
  · rw [keys, emptied, memory.known key]
    constructor
    · rintro ⟨old, there, era, is⟩
      obtain ⟨held, after, sameKey, sameEra⟩ := forth old there
      exact ⟨held, after, sameEra.trans era, sameKey.trans is⟩
    · rintro ⟨held, there, era, is⟩
      obtain ⟨old, before, sameKey, sameEra, _⟩ := back held there
      exact ⟨old, before, sameEra.trans era, sameKey.trans is⟩
  · intro held there
    obtain ⟨old, before, _, sameEra, _⟩ := back held there
    rw [emptied, ← sameEra]
    exact memory.eras old before
  · intro held there named kept
    obtain ⟨old, before, sameKey, _, sameId, sameRef, phases⟩ := back held there
    rw [← sameKey, ← sameRef, ← sameId]
    exact memory.keyed old before (sameId ▸ named) (phases kept)

/-- Whatever frame comes in, the memory stays right. -/
theorem sendRuntimeEvent_memory (memory : Memory state) (ref : String) (outbound : Outbound) :
    Memory (sendRuntimeEvent plainText state ref outbound) := by
  cases final : outbound.frame.isFinal with
  | false =>
    obtain ⟨handled, keys, emptied⟩ := @sendRuntimeEvent_delta plainText state ref outbound final
    exact memory.of_same handled keys emptied
  | true =>
    obtain ⟨reply, records, messageId, _, phase⟩ :=
      @sendRuntimeEvent_records plainText state ref outbound final
    refine memory.records records fun named kept => ?_
    rw [records.key, Outbound.key]
    cases addressed : outbound.refFor ref with
    | none =>
      rw [addressed] at phase
      exact absurd phase kept
    | some target =>
      rw [addressed] at phase
      have goes : Sendable plainText state target outbound.frame ∧
          ¬ Remembered state target outbound.frame := by
        by_contra stays
        exact kept (phase.2.trans (if_neg stays))
      have id : outbound.frame.messageId ≠ "" := messageId ▸ named
      dsimp only
      rw [if_pos goes.1.1, phase.1, messageId, finalKey_eq _ id, finalKey_eq _ id]

/-- The memory is right behind every step, whatever frames come in. -/
theorem step_memory (memory : Memory state) {action : Action}
    (taken : step plainText state action = some next) : Memory next := by
  cases action with
  | handles ref outbound =>
    obtain rfl := Option.some.inj taken
    exact sendRuntimeEvent_memory memory ref outbound
  | sends index ok =>
    obtain ⟨reply, found, ended⟩ := Option.bind_eq_some_iff.mp taken
    dsimp only at ended
    split at ended
    · cases ended
    case isFalse sending =>
      obtain rfl := Option.some.inj ended
      refine memory.ended found (not_not.mp sending) rfl ?_ ?_
      · dsimp only
        split <;> rfl
      · dsimp only
        split <;> rfl
  | begins ref allowSend =>
    obtain rfl := Option.some.inj taken
    exact memory.of_same rfl rfl rfl
  | discards ref =>
    obtain rfl := Option.some.inj taken
    exact memory.of_same rfl rfl rfl

/-- A reply that comes again before the memory is emptied, with an id that is not blank, is
remembered. -/
theorem Memory.again (memory : Memory state) {target : String} {frame : Frame} {earlier : Handled}
    (member : earlier ∈ state.handled) (is : earlier.Is target frame.messageId)
    (handed : earlier.phase ≠ .dropped) (named : frame.messageId ≠ "")
    (era : earlier.era = state.emptied) (some_ : strip frame.messageId ≠ "") :
    Remembered state target frame := by
  have keyed := memory.keyed earlier member (is.2 ▸ named) handed
  have key : earlier.key = finalKey target frame.messageId (frame.stream target) := by
    rw [keyed, is.1, is.2, finalKey_eq _ named, finalKey_eq _ named]
  refine (memory.remembered_iff target frame).mpr fun new => new earlier member era ?_ key
  rw [key, finalKey_eq _ named, if_neg some_]
  exact Option.some_ne_none _

/-- A step whose frame fits keeps what holds, and tries again what failed. -/
theorem step_sound (sound : Sound state.handled) (memory : Memory state) {action : Action}
    (fits : Fits plainText state action) (taken : step plainText state action = some next) :
    Sound next.handled ∧ Retried plainText state action next := by
  cases action with
  | handles ref outbound =>
    have same : sendRuntimeEvent plainText state ref outbound = next := Option.some.inj taken
    cases final : outbound.frame.isFinal with
    | false =>
      refine ⟨?_, fun target _ isFinal => ?_⟩
      · rw [← same, (sendRuntimeEvent_delta ref final).1]
        exact sound
      · rw [final] at isFinal
        cases isFinal
    | true =>
      obtain ⟨delivers, fresh⟩ := fits final
      obtain ⟨reply, records, messageId, deliveryId, phase⟩ :=
        @sendRuntimeEvent_records plainText state ref outbound final
      have grown := records.handled
      rw [same] at grown
      cases addressed : outbound.refFor ref with
      | none =>
        rw [addressed] at phase delivers
        refine ⟨?_, fun target found => ?_⟩
        · rw [grown]
          refine sound_append sound records.reports ?_ ?_
          · intro some_
            obtain ⟨target, found, _⟩ := delivers (deliveryId ▸ some_)
            cases found
          · intro _ claimed
            rw [phase] at claimed
            cases claimed
        · rw [addressed] at found
          cases found
      | some target =>
        rw [addressed] at phase delivers fresh
        obtain ⟨reference, phase⟩ := phase
        have mine := fresh target (Option.mem_some_self target)
        have unremembered : state.New target outbound.frame →
            ¬ Remembered state target outbound.frame :=
          fun new remembered => (memory.remembered_iff _ _).mp remembered new
        refine ⟨?_, fun other found _ some_ sendable failed unsent => ?_⟩
        · rw [grown]
          refine sound_append sound records.reports ?_ ?_
          · intro some_
            obtain ⟨other, found, sendable, new⟩ := delivers (deliveryId ▸ some_)
            obtain rfl := Option.mem_some.mp found
            rw [phase, if_pos ⟨sendable, unremembered new⟩]
          · intro named claimed
            by_cases goes : Sendable plainText state target outbound.frame ∧
                ¬ Remembered state target outbound.frame
            · rw [reference, messageId]
              intro earlier member is
              have id : outbound.frame.messageId ≠ "" := messageId ▸ named
              by_contra handed
              have claimed : earlier.phase = .sent ∨ earlier.phase = .sending :=
                or_iff_not_and_not.mpr handed
              obtain ⟨era, some_⟩ := (mine id goes.1).1 earlier member is claimed
              refine goes.2 (memory.again member is ?_ id era some_)
              rcases claimed with sent | sending
              · exact sent ▸ by decide
              · exact sending ▸ by decide
            · rw [phase, if_neg goes] at claimed
              cases claimed
        · rw [addressed] at found
          obtain rfl := Option.mem_some.mp found
          have new := (mine some_ sendable).2 failed unsent
          refine ⟨reply, grown, ⟨reference, messageId⟩, ?_⟩
          rw [phase, if_pos ⟨sendable, unremembered new⟩]
  | sends index ok =>
    obtain ⟨reply, found, ended⟩ := Option.bind_eq_some_iff.mp taken
    dsimp only at ended
    split at ended
    · cases ended
    case isFalse sending =>
      obtain rfl := Option.some.inj ended
      refine ⟨?_, trivial⟩
      refine sound_set sound found (not_not.mp sending) ⟨rfl, rfl⟩ rfl ?_ ?_
      · cases ok <;> nofun
      · intro some_
        have named : reply.deliveryId ≠ "" := some_
        simp [named]
  | begins ref allowSend =>
    obtain rfl := Option.some.inj taken
    exact ⟨sound, trivial⟩
  | discards ref =>
    obtain rfl := Option.some.inj taken
    exact ⟨sound, trivial⟩

theorem exactlyOnce_of_sound (sound : Sound state.handled) : ExactlyOnce state where
  sentOnce := by
    intro one other oneHandled otherHandled oneFound otherFound named same oneSent otherSent
    refine sound.single one other oneHandled otherHandled oneFound otherFound named same ?_ ?_
    · rw [oneSent]
      rfl
    · rw [otherSent]
      rfl
  reported := by
    intro handled member some_ ended
    rw [sound.reported handled member some_, if_neg ended]

end

/-- In every run of the service whose frames fit, a reply is sent with success once, every
handled reply with a delivery id is reported once, and a reply that failed is tried again. -/
theorem run_exactlyOnce (plainText : String → String) (actions : List Action)
    (fits : Taking (step plainText) (Fits plainText) start actions) :
    Throughout (step plainText) ExactlyOnce start actions ∧
      Along (step plainText) (fun state action => ∀ next,
        step plainText state action = some next → Retried plainText state action next)
        start actions := by
  have first : Sound start.handled ∧ Memory start :=
    ⟨⟨by simp [start], by simp [start]⟩, ⟨by simp [start], by simp [start], by simp [start]⟩⟩
  have kept : ∀ state action next, Sound state.handled ∧ Memory state →
      (∀ next, step plainText state action = some next → Fits plainText state action) →
        step plainText state action = some next → Sound next.handled ∧ Memory next :=
    fun state action next ⟨sound, memory⟩ met taken =>
      ⟨(step_sound sound memory (met next taken) taken).1, step_memory memory taken⟩
  refine ⟨⟨exactlyOnce_of_sound first.1, ?_⟩, ?_⟩
  · exact Along.imp_of_invariant (fun state => Sound state.handled ∧ Memory state) kept
      (fun state action both met next taken =>
        exactlyOnce_of_sound (kept state action next both met taken).1) first fits
  · exact Along.imp_of_invariant (fun state => Sound state.handled ∧ Memory state) kept
      (fun state action ⟨sound, memory⟩ met next taken =>
        (step_sound sound memory (met next taken) taken).2)
      first fits

/-! ## A reply that is delivered again -/

instance (plainText : String → String) (state : State) : DecidablePred (Fits plainText state)
  | .handles _ _ => by unfold Fits; infer_instance
  | .sends _ _ | .begins _ _ | .discards _ => isTrue trivial

def helloFrame (messageId deliveryId : String) : Outbound :=
  ⟨deliveryId, "bot::peer", .message "assistant" "hello" messageId⟩

/-- Two replies, the second of which cannot be sent. -/
theorem run_exactlyOnce_two :
    Throughout (step id) ExactlyOnce start
        [.handles "" (helloFrame "m1" "d1"), .handles "bot::peer" (helloFrame "m2" "d2"),
          .sends 0 true, .sends 1 false, .handles "bot::peer" (helloFrame "m1" "")] ∧
      Along (step id) (fun state action => ∀ next,
        step id state action = some next → Retried id state action next) start
        [.handles "" (helloFrame "m1" "d1"), .handles "bot::peer" (helloFrame "m2" "d2"),
          .sends 0 true, .sends 1 false, .handles "bot::peer" (helloFrame "m1" "")] :=
  run_exactlyOnce id _ (by decide +kernel)

/-- A reply that is delivered again after its send failed is neither tried nor reported. -/
theorem redelivered_dropped :
    ¬ ∀ (plainText : String → String) (actions : List Action),
        Throughout (step plainText) ExactlyOnce start actions ∧
          Along (step plainText) (fun state action => ∀ next,
            step plainText state action = some next → Retried plainText state action next)
            start actions := by
  intro always
  obtain ⟨final, completed⟩ : ∃ final, run (step id) start
      [.handles "" (helloFrame "m1" "d1"), .sends 0 false, .handles "" (helloFrame "m1" "d1")] =
        some final :=
    ⟨_, rfl⟩
  have reported := ((always id _).1.final completed).reported
  obtain rfl := Option.some.inj completed
  exact absurd (reported _ (List.mem_of_getElem? (i := 1) rfl)) (by decide +kernel)

end MeetYou.ClawBotReplies
