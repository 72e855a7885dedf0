import Mathlib
import MeetYou.Foundation.Groups
import MeetYou.Foundation.Runs
import MeetYou.Foundation.Text
import MeetYou.Foundation.Values

/-!
# Signals of the heart

A heartbeat takes a snapshot of the background, asks a model what it means, and may then send a
signal to the user. The scheduler starts heartbeats and so does a manual trigger, so several of them
can be under way, each with a snapshot of its own, and the model may answer anything at any time.
What a signal says is made from the snapshot and not from the answer.

A signal that repeats the one before has to wait, and so has an idle poke behind the last one its
snapshot knows. The first is decided when the signal is sent, the second when the snapshot is taken.
-/

namespace MeetYou.HeartSignals

open Runs Text

/-- The kinds of signals. -/
inductive SignalKind
  | none
  | systemIssue
  | temporalAttention
  | idlePoke
deriving DecidableEq

/-- The kind as it is stored. -/
def SignalKind.name : SignalKind → String
  | .none => "none"
  | .systemIssue => "system_issue"
  | .temporalAttention => "temporal_attention"
  | .idlePoke => "idle_poke"

/-- What the model decides about a signal. -/
inductive Decision
  | ok
  | notify
  | escalate
deriving DecidableEq

/-! ## The background -/

/-- What the background says of a task. -/
structure TaskNote where
  taskKey : String
  summary : String
  autoRun : Bool
  overdue : Bool

/-- The last activity of a user, as it is written and as it is read back. -/
structure Activity where
  text : String
  instant : Instant

/-- What `get_background_status` collects from the task manager, the memory and the sessions. -/
structure Background where
  schedulerStalled : Bool
  housekeepingStalled : Bool
  pendingConsolidationStale : Bool
  lastHousekeepingError : String
  repeatedFailureTasks : List TaskNote
  pendingRedeliveryTasks : List TaskNote
  awaitingCompletionTasks : List TaskNote
  nearestDueTask : Option TaskNote
  pendingDeliveryCount : Int
  awaitingCompletionCount : Int
  runSucceededPendingCompletionCount : Int
  overdueTaskCount : Int
  lastUserActivity : Option Activity
  recentUserSessionId : String

/-- The names that apply. -/
def named (issues : List (Bool × String)) : List String :=
  (issues.filter Prod.fst).map Prod.snd

/-- `build_system_issue_candidates` -/
def buildSystemIssueCandidates (status : Background) : List String :=
  named [(status.schedulerStalled, "scheduler_stalled"),
    (status.housekeepingStalled, "housekeeping_stalled"),
    (status.pendingConsolidationStale, "pending_consolidation_stale"),
    (decide (strip status.lastHousekeepingError ≠ ""), "housekeeping_error"),
    (!status.repeatedFailureTasks.isEmpty, "repeated_task_failures")]

/-- `build_temporal_attention_candidates` -/
def buildTemporalAttentionCandidates (status : Background) : List String :=
  named [(decide (0 < status.pendingDeliveryCount), "pending_redelivery"),
    (decide (0 < status.awaitingCompletionCount), "awaiting_completion"),
    (decide (0 < status.runSucceededPendingCompletionCount), "completion_confirmation_pending"),
    (decide (0 < status.overdueTaskCount), "overdue_follow_up")]

/-! ## Messages -/

/-- The name of a task in a message. -/
def TaskNote.title (task : TaskNote) (default : String) : String :=
  strip (orElse (orElse task.summary task.taskKey) default)

/-- `_canonical_signal_message` -/
def canonicalSignalMessage (status : Background) : SignalKind → String
  | .systemIssue =>
    match status.repeatedFailureTasks with
    | task :: _ => "Task \"" ++ task.title "background task" ++
        "\" has failed repeatedly. Keep the follow-up brief and practical."
    | [] =>
      if status.schedulerStalled then
        "The scheduler looks stalled and scheduled jobs may stop firing. " ++
          "Keep the follow-up brief and practical."
      else if status.housekeepingStalled then
        "Background housekeeping looks stalled. " ++
          "Mention it only if it may affect task execution or reminders."
      else if status.pendingConsolidationStale then
        "Pending memory consolidation has been stale for too long. " ++
          "Mention it only if it may affect memory freshness or reminders."
      else if strip status.lastHousekeepingError ≠ "" then
        "Background housekeeping is erroring. Keep the follow-up short and action-oriented."
      else
        "There is a concrete background issue that may affect task execution or reminders. " ++
          "Keep the follow-up short."
  | .temporalAttention =>
    match status.pendingRedeliveryTasks, status.awaitingCompletionTasks with
    | task :: _, _ => "Triggered follow-up \"" ++ task.title "scheduled follow-up" ++
        "\" is still waiting to be delivered. Keep the follow-up brief and practical."
    | [], task :: _ =>
      if task.autoRun then
        "Scheduled task \"" ++ task.title "scheduled task" ++
          "\" has run and is still waiting for completion confirmation. " ++
            "Keep the follow-up brief and practical."
      else
        "Scheduled follow-up \"" ++ task.title "scheduled task" ++
          "\" is still waiting for completion confirmation. " ++
            "Keep the follow-up brief and practical."
    | [], [] =>
      match status.nearestDueTask with
      | some task =>
        if task.overdue then
          "Scheduled follow-up \"" ++ task.title "scheduled follow-up" ++
            "\" is overdue. Keep the follow-up brief and practical."
        else
          "There is a time-sensitive scheduled follow-up that may need attention. " ++
            "Keep the follow-up brief and practical."
      | Option.none =>
        "There is a time-sensitive scheduled follow-up that may need attention. " ++
          "Keep the follow-up brief and practical."
  | .idlePoke => "There is no critical system issue. A single short casual check-in is enough."
  | .none => ""

/-- The ends of a sentence, in the order in which they are looked for. -/
def sentenceEnds : List (Char × Bool) :=
  [('。', true), ('！', true), ('？', true), ('.', false), ('!', false), ('?', false)]

/-- The first sentence, by the first of the ends that stands in the text. -/
def firstSentence (text : List Char) : List Char :=
  match sentenceEnds.find? fun ending => text.contains ending.1 with
  | Option.none => text
  | some (character, kept) =>
    let front := trim (text.takeWhile fun other => other ≠ character)
    if front = [] then text else if kept then front ++ [character] else front

/-- The length that a message is cut to. -/
def maxMessageChars : Nat := 120

/-- `_sanitize_message` -/
def sanitizeMessage (text : String) (singleSentence : Bool) : String :=
  let raw := trim (text.toList.map fun character => if character = '\r' then ' ' else character)
  let lines := ((raw.splitOn '\n').map trim).filter fun line => !line.isEmpty
  let line := trim (collapseFrom false (List.intercalate [' '] lines))
  String.ofList (trim ((if singleSentence then firstSentence line else line).take maxMessageChars))

/-! ## Fingerprints -/

/-- The tasks that a fingerprint names: three keys at most, in order. -/
def repeatedTaskKeys (tasks : List TaskNote) : List String :=
  let keys := (tasks.map fun task => strip (orElse task.taskKey task.summary)).filter
    fun key => decide (key ≠ "")
  (Groups.ascending id keys.eraseDups).take 3

/-- The parts of the fingerprint of a system issue. -/
def systemIssueParts (status : Background) : List String :=
  let repeated := repeatedTaskKeys status.repeatedFailureTasks
  named [(!repeated.isEmpty, "repeated:" ++ String.intercalate "," repeated),
    (status.schedulerStalled, "scheduler_stalled"),
    (status.housekeepingStalled, "housekeeping_stalled"),
    (status.pendingConsolidationStale, "pending_consolidation_stale"),
    (decide (strip status.lastHousekeepingError ≠ ""), "housekeeping_error")]

/-- The parts of the fingerprint of what needs attention. -/
def temporalAttentionParts (status : Background) : List String :=
  let counted (name : String) (count : Int) := (decide (0 < count), name ++ toString count)
  named [counted "pending_delivery:" status.pendingDeliveryCount,
    counted "awaiting_completion:" status.awaitingCompletionCount,
    counted "completion_confirmation_pending:" status.runSucceededPendingCompletionCount,
    counted "overdue:" status.overdueTaskCount]

/-- The parts of the fingerprint of an idle poke. -/
def idlePokeParts (status : Background) : List String :=
  let session := strip status.recentUserSessionId
  let activity := strip ((status.lastUserActivity.map Activity.text).getD "")
  if session ≠ "" ∨ activity ≠ "" then [session, activity] else []

/-- What a signal of the kind is recognised by. -/
def fingerprintParts (status : Background) : SignalKind → List String
  | .systemIssue => systemIssueParts status
  | .temporalAttention => temporalAttentionParts status
  | .idlePoke => idlePokeParts status
  | .none => []

/-- `_signal_fingerprint` -/
def signalFingerprint (status : Background) (kind : SignalKind) : String :=
  let parts := fingerprintParts status kind
  kind.name ++ ":" ++
    if parts = [] then
      sanitizeMessage (canonicalSignalMessage status kind) (decide (kind = .idlePoke))
    else String.intercalate "|" parts

/-! ## The heart -/

/-- The settings that `refresh_config` reads; both spans are positive. -/
structure Settings where
  idlePokeEnabled : Bool
  idlePokeAfterSeconds : Nat
  idlePokeCooldownSeconds : Nat

/-- A heartbeat under way: its snapshot, when it was taken, and the settings it was taken with.
`behind` counts the signals that had been sent before. -/
structure Heartbeat where
  background : Background
  idlePokeEligible : Bool
  begunAt : Instant
  pokeCooldown : Nat
  behind : Nat

/-- A signal that was sent, with the heartbeat it comes from and the cooldown that applied. -/
structure Signal where
  kind : SignalKind
  fingerprint : String
  message : String
  emittedAt : Instant
  cooldown : Nat
  heartbeat : Heartbeat

/-- The `_last_heartbeat_signal_*` fields. -/
structure LastSignal where
  kind : SignalKind
  message : String
  fingerprint : String
  sentAt : Option Instant

/-- The heart with the heartbeats that run. -/
structure Heart where
  settings : Settings
  last : LastSignal
  lastIdlePokeAt : Option Instant
  /-- The heartbeats begun so far; one that has ended is gone. -/
  heartbeats : List (Option Heartbeat)
  signals : List Signal

/-- The heart has sent nothing. -/
def start (settings : Settings) : Heart :=
  ⟨settings, ⟨.none, "", "", Option.none⟩, Option.none, [], []⟩

/-- `_utcnow_iso` read back: the second a clock reading lies in. -/
def wholeSecond (reading : Int) : Instant := reading - reading % 1000000

/-- `get_background_status`, as far as a signal depends on it. -/
def takeSnapshot (heart : Heart) (background : Background) (now : Instant) : Heartbeat :=
  let settings := heart.settings
  let windowReady := match background.lastUserActivity with
    | some activity => decide (activity.instant ≤ now - seconds settings.idlePokeAfterSeconds)
    | Option.none => false
  let cooldownReady := match heart.lastIdlePokeAt with
    | some poke => decide (poke ≤ now - seconds settings.idlePokeCooldownSeconds)
    | Option.none => true
  { background
    idlePokeEligible := settings.idlePokeEnabled && background.lastUserActivity.isSome &&
      windowReady && cooldownReady && (buildSystemIssueCandidates background).isEmpty
    begunAt := now
    pokeCooldown := settings.idlePokeCooldownSeconds
    behind := heart.signals.length }

/-- What a model answers, each entry as `str(entry or default)` makes it. -/
structure Reply where
  decision : String
  signalKind : String

/-- The decision of an answer. -/
def readDecision (text : String) : Decision :=
  match lowerWord (strip text) with
  | "notify" => .notify
  | "escalate" => .escalate
  | _ => .ok

/-- `_normalize_signal_kind` -/
def normalizeSignalKind (text : String) : SignalKind :=
  match lowerWord (strip text) with
  | "system_issue" => .systemIssue
  | "temporal_attention" | "urgent_deadline" => .temporalAttention
  | "idle_poke" => .idlePoke
  | _ => .none

/-- `_signal_cooldown_seconds` -/
def signalCooldownSeconds (settings : Settings) (kind : SignalKind) : Nat :=
  if kind = .idlePoke then settings.idlePokeCooldownSeconds else 1800

/-- `_signal_in_cooldown` -/
def signalInCooldown (heart : Heart) (now : Instant) (kind : SignalKind)
    (fingerprint message : String) : Bool :=
  match heart.last.sentAt with
  | Option.none => false
  | some sent =>
    decide (heart.last.kind = kind) &&
      (if heart.last.fingerprint ≠ "" then decide (heart.last.fingerprint = fingerprint)
        else decide (heart.last.message = message)) &&
      decide (now - seconds (signalCooldownSeconds heart.settings kind) < sent)

/-- Whether the snapshot has what a kind of signal needs. -/
def supports (heartbeat : Heartbeat) : SignalKind → Bool
  | .systemIssue => !(buildSystemIssueCandidates heartbeat.background).isEmpty
  | .temporalAttention => !(buildTemporalAttentionCandidates heartbeat.background).isEmpty
  | .idlePoke => heartbeat.idlePokeEligible
  | .none => false

/-- The kind of signal that is asked for, if the snapshot supports it. -/
def supportedKind (heartbeat : Heartbeat) (reply : Reply) : SignalKind :=
  let kind :=
    if readDecision reply.decision = .ok then .none else normalizeSignalKind reply.signalKind
  if supports heartbeat kind && heartbeat.background.lastUserActivity.isSome then kind else .none

/-- `_normalize_heartbeat_result`: the signal to send, if any, by kind, message and fingerprint. -/
def normalizeHeartbeatResult (heart : Heart) (now : Instant) (heartbeat : Heartbeat)
    (reply : Reply) : Option (SignalKind × String × String) :=
  let kind := supportedKind heartbeat reply
  if kind = .none then Option.none
  else
    let message := sanitizeMessage (canonicalSignalMessage heartbeat.background kind)
      (decide (kind = .idlePoke))
    let fingerprint := signalFingerprint heartbeat.background kind
    if message = "" then Option.none
    else if signalInCooldown heart now kind fingerprint message then Option.none
    else some (kind, message, fingerprint)

/-- A signal is put in the queue of the core. -/
def emit (heart : Heart) (heartbeat : Heartbeat) (kind : SignalKind) (message fingerprint : String)
    (emittedAt : Instant) : Heart :=
  { heart with
    last := ⟨kind, message, fingerprint, some emittedAt⟩
    lastIdlePokeAt := if kind = .idlePoke then some emittedAt else heart.lastIdlePokeAt
    signals := heart.signals ++ [⟨kind, fingerprint, message, emittedAt,
      signalCooldownSeconds heart.settings kind, heartbeat⟩] }

/-- A heartbeat begins at a reading of the clock; its model answers some time later, and a signal is
stamped a little later still; or it fails. The settings change at any time. -/
inductive Action
  | refreshConfig (settings : Settings)
  | begins (background : Background) (now : Instant)
  | answers (heartbeat : Nat) (reply : Reply) (waited elapsed : Nat)
  | fails (heartbeat : Nat)

/-- New settings, or a step of one heartbeat. -/
def step (heart : Heart) : Action → Option Heart
  | .refreshConfig settings => some { heart with settings }
  | .begins background now =>
    some { heart with heartbeats := heart.heartbeats ++ [some (takeSnapshot heart background now)] }
  | .answers index reply waited elapsed =>
    match heart.heartbeats[index]? with
    | some (some heartbeat) =>
      let now := heartbeat.begunAt + waited
      let ended := { heart with heartbeats := heart.heartbeats.set index Option.none }
      match normalizeHeartbeatResult heart now heartbeat reply with
      | Option.none => some ended
      | some (kind, message, fingerprint) =>
        some (emit ended heartbeat kind message fingerprint (wholeSecond (now + elapsed)))
    | _ => Option.none
  | .fails index =>
    match heart.heartbeats[index]? with
    | some (some _) => some { heart with heartbeats := heart.heartbeats.set index Option.none }
    | _ => Option.none

/-! ## What the heart owes its user -/

/-- The last idle poke among the signals. -/
def lastPoke (signals : List Signal) : Option Signal :=
  (signals.filter fun signal => decide (signal.kind = .idlePoke)).getLast?

/-- A signal repeats the one before it only behind its cooldown. -/
def Apart (earlier later : Signal) : Prop :=
  earlier.kind = later.kind → earlier.fingerprint = later.fingerprint →
    earlier.emittedAt + seconds later.cooldown ≤ later.emittedAt

/-- What a signal rests on in the snapshot of its heartbeat. -/
def Grounded (signal : Signal) : Prop :=
  let background := signal.heartbeat.background
  background.lastUserActivity.isSome ∧ signal.message ≠ "" ∧
    signal.message.toList.length ≤ maxMessageChars ∧
    match signal.kind with
    | .systemIssue => buildSystemIssueCandidates background ≠ []
    | .temporalAttention => buildTemporalAttentionCandidates background ≠ []
    | .idlePoke => buildSystemIssueCandidates background = []
    | .none => False

/-- Signals that repeat each other are apart, an idle poke is behind the last one its heartbeat
could know, and every signal has its ground. -/
structure Considerate (heart : Heart) : Prop where
  apart : heart.signals.IsChain Apart
  pokes : ∀ signal ∈ heart.signals, signal.kind = .idlePoke →
    ∀ poke ∈ lastPoke (heart.signals.take signal.heartbeat.behind),
      poke.emittedAt + seconds signal.heartbeat.pokeCooldown ≤ signal.emittedAt
  grounded : ∀ signal ∈ heart.signals, Grounded signal

/-! ## Parts of a step -/

theorem signalFingerprint_ne (status : Background) (kind : SignalKind) :
    signalFingerprint status kind ≠ "" := by
  unfold signalFingerprint
  dsimp only
  generalize (if fingerprintParts status kind = [] then _ else _ : String) = rest
  intro empty
  have none_ := congrArg String.toList empty
  rw [String.toList_append, String.toList_append, String.toList_empty] at none_
  simp at none_

theorem sanitizeMessage_length (text : String) (singleSentence : Bool) :
    (sanitizeMessage text singleSentence).toList.length ≤ maxMessageChars := by
  unfold sanitizeMessage
  dsimp only
  generalize (if singleSentence = true then _ else _ : List Char) = line
  rw [String.toList_ofList]
  have shorter : (trim (line.take maxMessageChars)).length ≤
      (line.take maxMessageChars).length := by
    unfold trim
    have fromEnd := (List.rdropWhile_prefix isSpace
      (l := (line.take maxMessageChars).dropWhile isSpace)).length_le
    exact fromEnd.trans (List.dropWhile_suffix isSpace).length_le
  exact shorter.trans (List.length_take_le _ _)

theorem wholeSecond_mod (reading : Int) : wholeSecond reading % 1000000 = 0 := by
  change (reading - reading % 1000000) % 1000000 = 0
  omega

/-- A reading that is late enough is so in whole seconds. -/
theorem le_wholeSecond {sent reading : Int} {count : Nat} (whole : sent % 1000000 = 0)
    (late : sent + seconds count ≤ reading) : sent + seconds count ≤ wholeSecond reading := by
  unfold seconds at late
  change sent + (count : Int) * 1000000 ≤ reading - reading % 1000000
  omega

section
variable {heart next : Heart} {heartbeat : Heartbeat} {reply : Reply} {now : Instant}
  {kind : SignalKind} {message fingerprint : String}

/-- What a signal is made from: its kind has support in the snapshot, and it is not a repetition
within the cooldown. -/
structure Sends (heart : Heart) (heartbeat : Heartbeat) (reply : Reply) (now : Instant)
    (kind : SignalKind) (message fingerprint : String) : Prop where
  supported : supportedKind heartbeat reply = kind
  some_ : kind ≠ .none
  made : message = sanitizeMessage (canonicalSignalMessage heartbeat.background kind)
    (decide (kind = .idlePoke))
  marked : fingerprint = signalFingerprint heartbeat.background kind
  filled : message ≠ ""
  rested : signalInCooldown heart now kind fingerprint message = false

theorem normalizeHeartbeatResult_sends
    (sent : normalizeHeartbeatResult heart now heartbeat reply =
      some (kind, message, fingerprint)) :
    Sends heart heartbeat reply now kind message fingerprint := by
  unfold normalizeHeartbeatResult at sent
  dsimp only at sent
  split at sent
  · cases sent
  case isFalse some_ =>
    split at sent
    · cases sent
    case isFalse filled =>
      split at sent
      · cases sent
      case isFalse rested =>
        obtain ⟨rfl, rfl, rfl⟩ := by simpa using sent
        exact ⟨rfl, some_, rfl, rfl, filled, by simpa using rested⟩

/-- The kind that the snapshot supports has its ground there. -/
theorem supportedKind_grounds (supported : supportedKind heartbeat reply = kind)
    (some_ : kind ≠ .none) :
    heartbeat.background.lastUserActivity.isSome ∧ supports heartbeat kind = true := by
  unfold supportedKind at supported
  dsimp only at supported
  generalize (if readDecision reply.decision = .ok then SignalKind.none
    else normalizeSignalKind reply.signalKind) = asked at supported
  split at supported
  case isTrue both =>
    subst supported
    exact (Bool.and_eq_true_iff.mp both).symm
  case isFalse => exact absurd supported.symm some_

/-- A repetition that is sent is behind the cooldown. -/
theorem rested_apart {sent : Instant}
    (rested : signalInCooldown heart now kind fingerprint message = false)
    (at_ : heart.last.sentAt = some sent) (same : heart.last.kind = kind)
    (marked : heart.last.fingerprint ≠ "") (repeated : heart.last.fingerprint = fingerprint) :
    sent + seconds (signalCooldownSeconds heart.settings kind) ≤ now := by
  unfold signalInCooldown at rested
  rw [at_] at rested
  dsimp only at rested
  rw [if_pos marked, decide_eq_true same, decide_eq_true repeated, Bool.true_and, Bool.true_and,
    decide_eq_false_iff_not, not_lt] at rested
  exact le_sub_iff_add_le.mp rested

end

/-! ## What holds between steps -/

/-- A heartbeat that waits for its model may poke behind the pokes it knows. -/
structure Waiting (signals : List Signal) (heartbeat : Heartbeat) : Prop where
  behind : heartbeat.behind ≤ signals.length
  idle : heartbeat.idlePokeEligible = true →
    buildSystemIssueCandidates heartbeat.background = [] ∧
      ∀ poke ∈ lastPoke (signals.take heartbeat.behind),
        poke.emittedAt + seconds heartbeat.pokeCooldown ≤ heartbeat.begunAt

/-- The heart remembers its last signal and its last poke, and its signals kept their distance. -/
structure Sound (heart : Heart) : Prop where
  last : ∀ signal ∈ heart.signals.getLast?,
    heart.last = ⟨signal.kind, signal.message, signal.fingerprint, some signal.emittedAt⟩
  poke : heart.lastIdlePokeAt = (lastPoke heart.signals).map Signal.emittedAt
  stamps : ∀ signal ∈ heart.signals, signal.emittedAt % 1000000 = 0 ∧ signal.fingerprint ≠ "" ∧
    signal.heartbeat.behind ≤ heart.signals.length
  waiting : ∀ heartbeat, some heartbeat ∈ heart.heartbeats → Waiting heart.signals heartbeat
  considerate : Considerate heart

theorem start_sound (settings : Settings) : Sound (start settings) where
  last := by
    intro signal member
    cases member
  poke := rfl
  stamps := by
    intro signal member
    cases member
  waiting := by
    intro heartbeat member
    cases member
  considerate :=
    { apart := List.isChain_nil
      pokes := by
        intro signal member
        cases member
      grounded := by
        intro signal member
        cases member }

theorem lastPoke_append (signals : List Signal) (signal : Signal) :
    lastPoke (signals ++ [signal]) =
      if signal.kind = .idlePoke then some signal else lastPoke signals := by
  unfold lastPoke
  rw [List.filter_append]
  by_cases idle : signal.kind = .idlePoke
  · rw [List.filter_cons_of_pos (by simpa using idle), if_pos idle, List.filter_nil]
    exact List.getLast?_concat
  · rw [List.filter_cons_of_neg (by simpa using idle), if_neg idle, List.filter_nil,
      List.append_nil]

section
variable {heart next : Heart}

/-- What a snapshot knows of the pokes is what the heart knows. -/
theorem takeSnapshot_waiting (sound : Sound heart) (background : Background) (now : Instant) :
    Waiting heart.signals (takeSnapshot heart background now) where
  behind := Nat.le_refl _
  idle := by
    intro eligible
    change (_ && _ && _ && _ && (buildSystemIssueCandidates background).isEmpty) = true at eligible
    obtain ⟨others, quiet⟩ := Bool.and_eq_true_iff.mp eligible
    obtain ⟨_, ready⟩ := Bool.and_eq_true_iff.mp others
    refine ⟨List.isEmpty_iff.mp quiet, ?_⟩
    intro poke known
    have last : lastPoke heart.signals = some poke := by
      have all : heart.signals.take heart.signals.length = heart.signals := List.take_length
      rw [← all]
      exact known
    have stamp : heart.lastIdlePokeAt = some poke.emittedAt := by rw [sound.poke, last]; rfl
    rw [stamp] at ready
    exact le_sub_iff_add_le.mp (of_decide_eq_true ready)

/-- A signal behind the others changes nothing for a heartbeat that waits. -/
theorem Waiting.append {signals : List Signal} {heartbeat : Heartbeat}
    (waiting : Waiting signals heartbeat) (signal : Signal) :
    Waiting (signals ++ [signal]) heartbeat where
  behind := by
    rw [List.length_append]
    exact waiting.behind.trans (Nat.le_add_right _ _)
  idle := by
    rw [List.take_append_of_le_length waiting.behind]
    exact waiting.idle

/-- A heartbeat that ends, with the same signals and settings at any value. -/
theorem Sound.keeps (sound : Sound heart) (settings : Settings)
    {heartbeats : List (Option Heartbeat)}
    (waiting : ∀ heartbeat, some heartbeat ∈ heartbeats → Waiting heart.signals heartbeat) :
    Sound { heart with settings, heartbeats } where
  last := sound.last
  poke := sound.poke
  stamps := sound.stamps
  waiting := waiting
  considerate := ⟨sound.considerate.apart, sound.considerate.pokes, sound.considerate.grounded⟩

theorem mem_ended {heartbeats : List (Option Heartbeat)} {index : Nat} {heartbeat : Heartbeat}
    (member : some heartbeat ∈ heartbeats.set index Option.none) : some heartbeat ∈ heartbeats := by
  rcases List.mem_or_eq_of_mem_set member with kept | gone
  · exact kept
  · cases gone

variable {heartbeat : Heartbeat} {reply : Reply} {waited elapsed : Nat} {kind : SignalKind}
  {message fingerprint : String}

/-- A signal that is sent has its ground. -/
theorem Sends.grounded (waiting : Waiting heart.signals heartbeat)
    (sends : Sends heart heartbeat reply (heartbeat.begunAt + waited) kind message fingerprint)
    (emittedAt : Instant) (cooldown : Nat) :
    Grounded ⟨kind, fingerprint, message, emittedAt, cooldown, heartbeat⟩ := by
  obtain ⟨recent, support⟩ := supportedKind_grounds sends.supported sends.some_
  refine ⟨recent, sends.filled, ?_, ?_⟩
  · rw [sends.made]
    exact sanitizeMessage_length _ _
  · have filled := sends.some_
    cases kind with
    | none => exact filled rfl
    | systemIssue =>
      intro empty
      have nothing : supports heartbeat .systemIssue = false := by
        unfold supports
        rw [empty]
        rfl
      rw [nothing] at support
      cases support
    | temporalAttention =>
      intro empty
      have nothing : supports heartbeat .temporalAttention = false := by
        unfold supports
        rw [empty]
        rfl
      rw [nothing] at support
      cases support
    | idlePoke => exact (waiting.idle support).1

/-- A signal that is sent keeps what holds. -/
theorem emit_sound (sound : Sound heart) (waiting : Waiting heart.signals heartbeat)
    (sends : Sends heart heartbeat reply (heartbeat.begunAt + waited) kind message fingerprint) :
    Sound (emit heart heartbeat kind message fingerprint
      (wholeSecond (heartbeat.begunAt + waited + elapsed))) := by
  set emittedAt := wholeSecond (heartbeat.begunAt + waited + elapsed) with stamped
  set signal : Signal := ⟨kind, fingerprint, message, emittedAt,
    signalCooldownSeconds heart.settings kind, heartbeat⟩ with sent
  have later : ∀ {instant : Int} {count : Nat}, instant % 1000000 = 0 →
      instant + seconds count ≤ heartbeat.begunAt + waited →
        instant + seconds count ≤ emittedAt := by
    intro instant count whole late
    refine le_wholeSecond whole ?_
    omega
  have grown : (heart.signals ++ [signal]).length = heart.signals.length + 1 :=
    List.length_append
  refine
    { last := ?_
      poke := ?_
      stamps := ?_
      waiting := fun other member => (sound.waiting other member).append signal
      considerate :=
        { apart := ?_
          pokes := ?_
          grounded := ?_ } }
  · intro other member
    rw [show (emit heart heartbeat kind message fingerprint emittedAt).signals =
      heart.signals ++ [signal] from rfl, List.getLast?_concat] at member
    obtain rfl := Option.some.inj member
    rfl
  · change (if kind = .idlePoke then some emittedAt else heart.lastIdlePokeAt) =
      (lastPoke (heart.signals ++ [signal])).map Signal.emittedAt
    rw [lastPoke_append, sound.poke]
    by_cases idle : kind = .idlePoke
    · rw [if_pos idle, if_pos idle]
      rfl
    · rw [if_neg idle, if_neg idle]
  · intro other member
    change _ ∧ _ ∧ _ ≤ (heart.signals ++ [signal]).length
    rw [grown]
    rcases List.mem_append.mp member with old | new
    · obtain ⟨whole, marked, behind⟩ := sound.stamps other old
      exact ⟨whole, marked, behind.trans (Nat.le_succ _)⟩
    · obtain rfl := List.mem_singleton.mp new
      exact ⟨wholeSecond_mod _, sends.marked ▸ signalFingerprint_ne _ _,
        waiting.behind.trans (Nat.le_succ _)⟩
  · refine sound.considerate.apart.append (List.isChain_singleton _) ?_
    intro earlier last other first sameKind sameFingerprint
    obtain rfl := Option.some.inj first
    have known := sound.last earlier last
    obtain ⟨whole, marked, _⟩ := sound.stamps earlier (List.mem_of_getLast? last)
    refine later whole ?_
    exact rested_apart sends.rested (by rw [known]) (by rw [known]; exact sameKind)
      (by rw [known]; exact marked) (by rw [known]; exact sameFingerprint)
  · intro other member idle poke known
    rcases List.mem_append.mp member with old | new
    · have behind := (sound.stamps other old).2.2
      change poke ∈ lastPoke ((heart.signals ++ [signal]).take _) at known
      rw [List.take_append_of_le_length behind] at known
      exact sound.considerate.pokes other old idle poke known
    · obtain rfl := List.mem_singleton.mp new
      change poke ∈ lastPoke ((heart.signals ++ [signal]).take heartbeat.behind) at known
      rw [List.take_append_of_le_length waiting.behind] at known
      have support := (supportedKind_grounds sends.supported sends.some_).2
      rw [show kind = .idlePoke from idle] at support
      have rested := (waiting.idle support).2 poke known
      have among : poke ∈ heart.signals := by
        have listed := List.mem_of_getLast? known
        exact List.mem_of_mem_take (List.mem_filter.mp listed).1
      refine later (sound.stamps poke among).1 (rested.trans ?_)
      exact le_add_of_nonneg_right (Int.natCast_nonneg waited)
  · intro other member
    rcases List.mem_append.mp member with old | new
    · exact sound.considerate.grounded other old
    · obtain rfl := List.mem_singleton.mp new
      exact sends.grounded waiting _ _

/-- A step keeps what holds. -/
theorem step_sound (sound : Sound heart) {action : Action} (taken : step heart action = some next) :
    Sound next := by
  cases action with
  | refreshConfig settings =>
    obtain rfl := Option.some.inj taken
    exact sound.keeps settings sound.waiting
  | begins background now =>
    obtain rfl := Option.some.inj taken
    refine sound.keeps heart.settings fun other member => ?_
    rcases List.mem_append.mp member with old | new
    · exact sound.waiting other old
    · obtain rfl := Option.some.inj (List.mem_singleton.mp new)
      exact takeSnapshot_waiting sound background now
  | answers index reply waited elapsed =>
    unfold step at taken
    dsimp only at taken
    split at taken
    case h_1 heartbeat found =>
      have waiting := sound.waiting heartbeat (List.mem_of_getElem? found)
      have ended := sound.keeps heart.settings fun other member =>
        sound.waiting other (@mem_ended heart.heartbeats index other member)
      split at taken
      · obtain rfl := Option.some.inj taken
        exact ended
      case h_2 kind message fingerprint sent =>
        obtain rfl := Option.some.inj taken
        have sends := normalizeHeartbeatResult_sends sent
        exact emit_sound ended waiting ⟨sends.supported, sends.some_, sends.made, sends.marked,
          sends.filled, sends.rested⟩
    case h_2 => cases taken
  | fails index =>
    unfold step at taken
    dsimp only at taken
    split at taken
    · obtain rfl := Option.some.inj taken
      exact sound.keeps heart.settings fun other member => sound.waiting other (mem_ended member)
    · cases taken

end

/-- In every run of heartbeats, however they overlap and whatever their models answer, the heart is
considerate of its user. -/
theorem run_considerate (settings : Settings) (actions : List Action) :
    Throughout step Considerate (start settings) actions := by
  refine ⟨(start_sound settings).considerate, ?_⟩
  have unconditional : Along step (fun _ _ => True) (start settings) actions :=
    along_of_mem (fun _ _ _ => trivial) _
  refine Along.imp_of_invariant Sound ?_ ?_ (start_sound settings) unconditional
  · exact fun state action next sound _ taken => step_sound sound taken
  · exact fun state action sound _ next taken => (step_sound sound taken).considerate

end MeetYou.HeartSignals
