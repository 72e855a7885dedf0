import MeetYou.Foundation.Positions
import MeetYou.Foundation.Runs
import MeetYou.Foundation.Text
import MeetYou.Foundation.Values

/-!
# Runs of operations

The runner of an endpoint is handed a request under an operation id. It answers from its
table of finals when the id is in it. Otherwise it checks the request, announces progress,
executes the capability, and stores the final before it announces and returns it. A request
whose id is blank fails and is not looked up.

The table is read when a run begins and written when it concludes; in between other runs
move. Two runs of one id that overlap therefore both execute. The emitter takes an event at
the moment it is called; a run that has no emitter does not wait there.
-/

namespace MeetYou.OperationRuns

open Runs Text

/-! ## Requests and results -/

/-- A request for an operation. -/
structure OperationRequest where
  operationId : String
  callId : String
  capabilityName : String
  arguments : Fields

/-- The final result of an operation, as it is kept. -/
structure OperationFinal where
  operationId : String
  callId : String
  capabilityName : String
  status : String
  payload : Fields
  error : Option Fields
  seq : Nat
  timestamp : String

/-- An event of an operation, as it is emitted. -/
structure OperationEvent where
  operationId : String
  callId : String
  capabilityName : String
  status : String
  payload : Fields
  error : Option Fields
  seq : Nat
  timestamp : String

/-- The error of a capability. -/
structure CapabilityError where
  code : String
  message : String
  retryable : Bool

/-- The registered capabilities, and what `_validate_input_schema` objects to arguments. -/
structure Registry where
  has : String → Bool
  inputError : String → Fields → Option CapabilityError

/-- How the wait for a capability ends. A timeout carries the text of its seconds; a result may
be none. -/
inductive Outcome
  | returned (result : Option Fields)
  | timedOut (seconds : String)
  | capabilityError (error : CapabilityError)
  | cancelled
  | raised (message : String)

/-- Where a run is: in the emission of its progress, in the capability, in the emission of its
final (and whether it raises afterwards), or over. -/
inductive Phase
  | progressing
  | executing
  | concluding (final : OperationFinal) (raises : Bool)
  | returned (final : OperationFinal)
  | raised

/-- A call of `run`; `emits` tells whether it has an emitter. -/
structure Run where
  request : OperationRequest
  emits : Bool
  phase : Phase

/-- `operation_id` of `run`. -/
def Run.id (run : Run) : String := strip run.request.operationId

/-- The runner with its runs and the emitted events. -/
structure State where
  /-- `_final_by_operation_id` -/
  finals : Dict String OperationFinal
  /-- `_seq_by_operation_id` -/
  seqs : Dict String Nat
  runs : List Run
  /-- The events that emitters have been called with. -/
  events : List OperationEvent
  /-- The operation ids whose capability has been started. -/
  starts : List String

/-- The runner without operations. -/
def start : State := ⟨Dict.empty, Dict.empty, [], [], []⟩

/-! ## The runner -/

/-- The key of `_next_seq`. -/
def seqKey (operationId : String) : String :=
  if strip operationId = "" then "_missing" else strip operationId

/-- The value that `_next_seq` returns. -/
def State.nextSeq (state : State) (operationId : String) : Nat :=
  (state.seqs.get (seqKey operationId)).getD 0 + 1

/-- The counter after `_next_seq`. -/
def State.countSeq (state : State) (operationId : String) : State :=
  { state with seqs := state.seqs.set (seqKey operationId) (state.nextSeq operationId) }

/-- A run comes to a phase. -/
def State.put (state : State) (index : Nat) (run : Run) (phase : Phase) : State :=
  { state with runs := state.runs.set index { run with phase } }

/-- `get_final` -/
def State.getFinal (state : State) (operationId : String) : Option OperationFinal :=
  state.finals.get (strip operationId)

/-- The event of `_emit_final`. -/
def OperationFinal.event (final : OperationFinal) : OperationEvent :=
  ⟨final.operationId, final.callId, final.capabilityName, final.status, final.payload,
    final.error, final.seq, final.timestamp⟩

/-- `_final`, its sequence number not counted yet. -/
def State.final (state : State) (request : OperationRequest) (status : String) (payload : Fields)
    (error : Option Fields) (now : String) : OperationFinal :=
  ⟨request.operationId, request.callId, request.capabilityName, status, payload, error,
    state.nextSeq request.operationId, now⟩

/-- Where a run is with its final, before its emitter returns or without one. -/
def Run.with (run : Run) (final : OperationFinal) (raises : Bool) : Phase :=
  if run.emits then .concluding final raises else if raises then .raised else .returned final

/-- A final is counted, stored under its operation id, if there is a text, and announced. -/
def State.conclude (state : State) (index : Nat) (run : Run) (status : String) (payload : Fields)
    (error : Option Fields) (now : String) (raises : Bool) : State :=
  let final := state.final run.request status payload error now
  { (state.countSeq run.request.operationId).put index run (run.with final raises) with
    finals :=
      if run.request.operationId = "" then state.finals
      else state.finals.set (strip run.request.operationId) final
    events := if run.emits then state.events ++ [final.event] else state.events }

/-- `_fail` -/
def State.fail (state : State) (index : Nat) (run : Run) (error : CapabilityError) (now : String) :
    State :=
  state.conclude index run "failed" Dict.empty
    (some (Fields.of [("code", .str error.code), ("message", .str error.message),
      ("retryable", .bool error.retryable)])) now false

/-- The capability is started. -/
def State.execute (state : State) (index : Nat) (run : Run) : State :=
  { state.put index run .executing with
    starts := state.starts ++ [strip run.request.operationId] }

/-- What `run` finds wrong with a request that is not answered from the table. -/
def requestError (registry : Registry) (request : OperationRequest) : Option CapabilityError :=
  let capabilityName := strip request.capabilityName
  if strip request.callId = "" then some ⟨"call_id_required", "call_id is required", false⟩
  else if capabilityName = "" then
    some ⟨"capability_required", "capability_name is required", false⟩
  else if registry.has capabilityName = false then
    some ⟨"capability_not_found", "Capability is not registered: " ++ capabilityName, false⟩
  else registry.inputError capabilityName request.arguments

/-- The progress event of `run`. -/
def progressEvent (request : OperationRequest) (seq : Nat) (now : String) : OperationEvent :=
  ⟨request.operationId, request.callId, request.capabilityName, "progress",
    Fields.of [("phase", .str "running"),
      ("detail", .str ("Executing " ++ strip request.capabilityName))], none, seq, now⟩

/-- `run` up to its first wait. -/
def beginRun (registry : Registry) (state : State) (request : OperationRequest) (emits : Bool)
    (now : String) : State :=
  let run : Run := ⟨request, emits, .progressing⟩
  let index := state.runs.length
  let called : State := { state with runs := state.runs ++ [run] }
  if strip request.operationId = "" then
    called.fail index run ⟨"operation_id_required", "operation_id is required", false⟩ now
  else
    match state.finals.get (strip request.operationId) with
    | some cached => called.put index run (.returned cached)
    | none =>
      match requestError registry request with
      | some error => called.fail index run error now
      | none =>
        let counted := called.countSeq request.operationId
        if emits then
          { counted with
            events := counted.events ++
              [progressEvent request (state.nextSeq request.operationId) now] }
        else counted.execute index run

/-- The emitter returns. -/
def emitted (state : State) (index : Nat) (run : Run) : Option State :=
  match run.phase with
  | .progressing => some (state.execute index run)
  | .concluding final raises =>
    some (state.put index run (if raises then .raised else .returned final))
  | _ => none

/-- A run is cancelled while its emitter works. -/
def interrupted (state : State) (index : Nat) (run : Run) : Option State :=
  match run.phase with
  | .progressing | .concluding _ _ => some (state.put index run .raised)
  | _ => none

/-- The wait for the capability ends. -/
def finished (state : State) (index : Nat) (run : Run) (outcome : Outcome) (now : String) :
    Option State :=
  match run.phase with
  | .executing =>
    match outcome with
    | .returned result =>
      some (state.conclude index run "completed" (result.getD Dict.empty) none now false)
    | .timedOut seconds =>
      some (state.fail index run
        ⟨"operation_timeout", "Operation timed out after " ++ seconds ++ " seconds", true⟩ now)
    | .capabilityError error => some (state.fail index run error now)
    | .cancelled =>
      some (state.conclude index run "cancelled" Dict.empty
        (some (Fields.of [("code", .str "operation_cancelled"),
          ("message", .str "Operation cancelled")])) now true)
    | .raised message => some (state.fail index run ⟨"operation_failed", message, false⟩ now)
  | _ => none

/-- What happens next: a call of `run`, or something that a run waits for. -/
inductive Action
  | calls (request : OperationRequest) (emits : Bool) (now : String)
  | emits (run : Nat)
  | interrupts (run : Nat)
  | ends (run : Nat) (outcome : Outcome) (now : String)

/-- A call, or a step of one run. -/
def step (registry : Registry) (state : State) : Action → Option State
  | .calls request emits now => some (beginRun registry state request emits now)
  | .emits index => state.runs[index]?.bind fun run => emitted state index run
  | .interrupts index => state.runs[index]?.bind fun run => interrupted state index run
  | .ends index outcome now =>
    state.runs[index]?.bind fun run => finished state index run outcome now

/-! ## One outcome -/

/-- `event_type` -/
def OperationEvent.eventType (event : OperationEvent) : String :=
  if event.status = "completed" then "operation.completed"
  else if event.status = "failed" then "operation.failed"
  else if event.status = "cancelled" then "operation.cancelled"
  else "operation.progress"

/-- Only progress is followed by more. -/
def OperationEvent.isTerminal (event : OperationEvent) : Bool :=
  event.eventType ≠ "operation.progress"

/-- The events of an operation id. -/
def State.eventsOf (state : State) (id : String) : List OperationEvent :=
  state.events.filter fun event => strip event.operationId = id

/-- The run has not concluded. -/
def Phase.active : Phase → Bool
  | .progressing | .executing => true
  | _ => false

/-- Under every operation id the capability is started once, what runs return is one final,
and the events count upwards and end with their only terminal one. While a run of the id is
active the terminal event is still to come. -/
structure OneOutcome (state : State) : Prop where
  startedOnce : state.starts.Nodup
  sameFinal : ∀ one ∈ state.runs, ∀ other ∈ state.runs, one.id = other.id →
    ∀ oneFinal otherFinal, one.phase = .returned oneFinal → other.phase = .returned otherFinal →
      oneFinal = otherFinal
  ordered : ∀ id, (state.eventsOf id).Pairwise fun one later =>
    one.seq < later.seq ∧ one.isTerminal = false
  closed : ∀ id, state.eventsOf id ≠ [] →
    (∀ run ∈ state.runs, run.id = id → run.phase.active = false) →
      ∃ event ∈ (state.eventsOf id).getLast?, event.isTerminal = true

/-- The finals that are there stay. -/
def FinalsStay (state next : State) : Prop :=
  ∀ operationId final, state.getFinal operationId = some final →
    next.getFinal operationId = some final

/-- A call finds no active run of its operation id, and if its id is blank no run of a blank
id; a run is not cancelled while it announces its progress. -/
def Apart (state : State) : Action → Prop
  | .calls request _ _ => ∀ run ∈ state.runs, run.id = strip request.operationId →
      run.id ≠ "" ∧ run.phase.active = false
  | .interrupts index => ∀ run ∈ state.runs[index]?, run.phase.active = false
  | .emits _ | .ends _ _ _ => True

/-! ## What holds between steps -/

/-- An active run is the only one of its id and has no final; a concluded one has the final of
the table, unless its id is blank. -/
structure Sound (state : State) : Prop where
  open_ : ∀ (index : Nat) (run : Run), state.runs[index]? = some run →
    run.phase.active = true → state.finals.get run.id = none
  single : ∀ (one other : Nat) (oneRun otherRun : Run), state.runs[one]? = some oneRun →
    state.runs[other]? = some otherRun → oneRun.id = otherRun.id →
    (oneRun.phase.active = true ∧ otherRun.phase.active = true) ∨ oneRun.id = "" → one = other
  settled : ∀ (index : Nat) (run : Run), state.runs[index]? = some run → run.id ≠ "" →
    ∀ final, (run.phase = .returned final ∨ ∃ raises, run.phase = .concluding final raises) →
      state.finals.get run.id = some final
  blank : state.finals.get "" ≠ none → ∃ run ∈ state.runs, run.id = ""
  started : ∀ id ∈ state.starts, id ≠ "" ∧ (state.finals.get id ≠ none ∨
    ∃ run ∈ state.runs, run.id = id ∧ run.phase = .executing)
  startedOnce : state.starts.Nodup
  ordered : ∀ id, (state.eventsOf id).Pairwise fun one later =>
    one.seq < later.seq ∧ one.isTerminal = false
  counted : ∀ event ∈ state.events, event.seq < state.nextSeq event.operationId
  closed : ∀ id, state.eventsOf id ≠ [] →
    (∀ run ∈ state.runs, run.id = id → run.phase.active = false) →
      ∃ event ∈ (state.eventsOf id).getLast?, event.isTerminal = true
  unfinished : ∀ event ∈ state.events, strip event.operationId ≠ "" →
    state.finals.get (strip event.operationId) = none → event.isTerminal = false
  silent : ∀ run ∈ state.runs, run.id = "" ∨ run.emits = false → run.phase.active = true →
    state.eventsOf run.id = []
  known : ∀ event ∈ state.events, ∃ run ∈ state.runs, run.id = strip event.operationId

/-- The active runs have an operation id. -/
def Named (state : State) : Prop := ∀ run ∈ state.runs, run.phase.active = true → run.id ≠ ""

section
variable {state : State} {index : Nat} {run : Run}

/-- Counting keeps the events below the counter. -/
theorem counted_set {events : List OperationEvent} {operationId : String}
    (counted : ∀ event ∈ events, event.seq < state.nextSeq event.operationId) :
    ∀ event ∈ events, event.seq < (state.countSeq operationId).nextSeq event.operationId := by
  intro event member
  have before := counted event member
  unfold State.countSeq State.nextSeq at *
  dsimp only at *
  rw [Dict.get_set]
  split
  case isTrue same =>
    rw [same]
    exact Nat.lt_succ_of_lt before
  case isFalse => exact before

/-- The counter after an event is above it. -/
theorem nextSeq_countSeq (state : State) (operationId : String) :
    state.nextSeq operationId < (state.countSeq operationId).nextSeq operationId := by
  unfold State.countSeq State.nextSeq
  dsimp only
  rw [Dict.get_set_self]
  exact Nat.lt_succ_self _

/-- The event of a final whose status is not that of a progress event is terminal. -/
theorem isTerminal_of_status {event : OperationEvent}
    (status : event.status ∈ ["completed", "failed", "cancelled"]) :
    event.isTerminal = true := by
  unfold OperationEvent.isTerminal OperationEvent.eventType
  rw [List.mem_cons, List.mem_cons, List.mem_singleton] at status
  rcases status with same | same | same <;> rw [same] <;> decide

theorem with_inactive (run : Run) (final : OperationFinal) (raises : Bool) :
    (run.with final raises).active = false := by
  unfold Run.with
  split
  · rfl
  · split <;> rfl

/-- A conclusion that holds a final holds the one it was made with. -/
theorem with_final {final other : OperationFinal} {raises : Bool}
    (holds : run.with final raises = .returned other ∨
      ∃ raises', run.with final raises = .concluding other raises') : other = final := by
  unfold Run.with at holds
  cases emits : run.emits <;> cases raises <;> simp_all

/-- An event behind the events of its id. -/
theorem eventsOf_append (events : List OperationEvent) (event : OperationEvent) (id : String) :
    (events ++ [event]).filter (fun event => strip event.operationId = id) =
      if strip event.operationId = id then
        events.filter (fun event => strip event.operationId = id) ++ [event]
      else events.filter fun event => strip event.operationId = id := by
  rw [List.filter_append]
  by_cases mine : strip event.operationId = id <;> simp [mine]

theorem progressEvent_isTerminal (request : OperationRequest) (seq : Nat) (now : String) :
    (progressEvent request seq now).isTerminal = false := by
  simp [OperationEvent.isTerminal, OperationEvent.eventType, progressEvent]

/-- A conclusion of an active run keeps what holds between steps. -/
theorem conclude_sound (sound : Sound state) (found : state.runs[index]? = some run)
    (active : run.phase.active = true) {status : String}
    (terminal : status ∈ ["completed", "failed", "cancelled"]) (payload : Fields)
    (error : Option Fields) (now : String) (raises : Bool) :
    Sound (state.conclude index run status payload error now raises) := by
  have member := List.mem_of_getElem? found
  have inactive := with_inactive run (state.final run.request status payload error now) raises
  have open_ := sound.open_ index run found active
  have named_text : run.id ≠ "" → run.request.operationId ≠ "" := by
    intro named unnamed
    refine named ?_
    unfold Run.id
    rw [unnamed]
    decide
  -- the finals afterwards
  have stored : run.id ≠ "" →
      (state.conclude index run status payload error now raises).finals.get run.id =
        some (state.final run.request status payload error now) := by
    intro named
    unfold State.conclude
    dsimp only
    rw [if_neg (named_text named)]
    exact Dict.get_set_self _ _ _
  have elsewhere : ∀ id, id ≠ run.id →
      (state.conclude index run status payload error now raises).finals.get id =
        state.finals.get id := by
    intro id other
    unfold State.conclude
    dsimp only
    split
    · rfl
    · exact Dict.get_set_ne _ _ (Ne.symm other)
  -- no event of the id is terminal before
  have before : ∀ event ∈ state.eventsOf run.id, event.isTerminal = false := by
    intro event listed
    obtain ⟨emitted, mine⟩ := List.mem_filter.mp listed
    have mine : strip event.operationId = run.id := by simpa using mine
    by_cases named : run.id = ""
    · rw [sound.silent run member (Or.inl named) active] at listed
      cases listed
    · exact sound.unfinished event emitted (mine ▸ named) (mine ▸ open_)
  have eventId : strip (state.final run.request status payload error now).event.operationId =
      run.id := rfl
  have eventTerminal : (state.final run.request status payload error now).event.isTerminal = true :=
    isTerminal_of_status terminal
  have runAt : ∀ {other : Nat} {held : Run},
      (state.conclude index run status payload error now raises).runs[other]? = some held →
        (other = index ∧ held = { run with
          phase := run.with (state.final run.request status payload error now) raises }) ∨
            (other ≠ index ∧ state.runs[other]? = some held) :=
    Positions.set_cases
  have requested : ∀ {other : Nat} {held : Run},
      (state.conclude index run status payload error now raises).runs[other]? = some held →
        ∃ old : Run, state.runs[other]? = some old ∧ old.id = held.id ∧
          (held.phase.active = true → old.phase.active = true) := by
    intro other held placed
    rcases runAt placed with ⟨rfl, rfl⟩ | ⟨_, old⟩
    · exact ⟨run, found, rfl, fun _ => active⟩
    · exact ⟨held, old, rfl, id⟩
  have kept : ∀ old ∈ state.runs, ∃ held ∈
      (state.conclude index run status payload error now raises).runs, held.id = old.id := by
    intro old listed
    obtain ⟨other, placed⟩ := List.getElem?_of_mem listed
    by_cases same : other = index
    · subst same
      obtain rfl := Option.some.inj (found.symm.trans placed)
      exact ⟨_, List.mem_of_getElem? (Positions.set_self found _), rfl⟩
    · refine ⟨old, List.mem_of_getElem? (i := other) ?_, rfl⟩
      exact (List.getElem?_set_ne (Ne.symm same)).trans placed
  have eventCases : ∀ event ∈ (state.conclude index run status payload error now raises).events,
      event ∈ state.events ∨
        event = (state.final run.request status payload error now).event := by
    intro event listed
    unfold State.conclude at listed
    dsimp only at listed
    split at listed
    · exact (List.mem_append.mp listed).imp_right List.mem_singleton.mp
    · exact Or.inl listed
  have events : ∀ id, (state.conclude index run status payload error now raises).eventsOf id =
      if run.emits = true ∧ run.id = id then
        state.eventsOf id ++ [(state.final run.request status payload error now).event]
      else state.eventsOf id := by
    intro id
    unfold State.eventsOf State.conclude
    dsimp only
    by_cases emits : run.emits = true
    · rw [if_pos emits, eventsOf_append, eventId]
      simp [emits]
    · rw [if_neg emits]
      simp [emits]
  refine
    { open_ := ?_
      single := ?_
      settled := ?_
      blank := ?_
      started := ?_
      startedOnce := sound.startedOnce
      ordered := ?_
      counted := ?_
      closed := ?_
      unfinished := ?_
      silent := ?_
      known := ?_ }
  · intro other held placed stillActive
    rcases runAt placed with ⟨rfl, rfl⟩ | ⟨different, old⟩
    · rw [inactive] at stillActive
      cases stillActive
    · have others : held.id ≠ run.id := fun same =>
        different (sound.single other index held run old found same (Or.inl ⟨stillActive, active⟩))
      rw [elsewhere _ others]
      exact sound.open_ other held old stillActive
  · intro one other oneRun otherRun placedOne placedOther same why
    obtain ⟨oneOld, oneFound, oneId, oneActive⟩ := requested placedOne
    obtain ⟨otherOld, otherFound, otherId, otherActive⟩ := requested placedOther
    refine sound.single one other oneOld otherOld oneFound otherFound
      (oneId.trans (same.trans otherId.symm)) ?_
    exact why.imp (And.imp oneActive otherActive) (fun unnamed => oneId.trans unnamed)
  · intro other held placed named result holds
    rcases runAt placed with ⟨rfl, rfl⟩ | ⟨different, old⟩
    · rw [with_final holds]
      exact stored named
    · by_cases same : held.id = run.id
      · have final := sound.settled other held old named result holds
        rw [same, open_] at final
        cases final
      · rw [elsewhere _ same]
        exact sound.settled other held old named result holds
  · intro present
    by_cases named : run.id = ""
    · obtain ⟨held, listed, same⟩ := kept run member
      exact ⟨held, listed, same.trans named⟩
    · rw [elsewhere "" (Ne.symm named)] at present
      obtain ⟨old, listed, unnamed⟩ := sound.blank present
      obtain ⟨held, listed', same⟩ := kept old listed
      exact ⟨held, listed', same.trans unnamed⟩
  · intro id begun
    obtain ⟨named, before⟩ := sound.started id begun
    refine ⟨named, ?_⟩
    by_cases same : id = run.id
    · subst same
      rw [stored named]
      exact Or.inl (Option.some_ne_none _)
    · rw [elsewhere id same]
      refine before.imp_right ?_
      rintro ⟨old, listed, mine, executing⟩
      obtain ⟨other, placed⟩ := List.getElem?_of_mem listed
      have different : other ≠ index := by
        rintro rfl
        obtain rfl := Option.some.inj (found.symm.trans placed)
        exact same mine.symm
      refine ⟨old, List.mem_of_getElem? (i := other) ?_, mine, executing⟩
      exact (List.getElem?_set_ne (Ne.symm different)).trans placed
  · intro id
    rw [events]
    split
    case isTrue mine =>
      obtain ⟨_, rfl⟩ := mine
      refine List.pairwise_append.mpr ⟨sound.ordered run.id, List.pairwise_singleton _ _, ?_⟩
      intro event listed last single
      obtain rfl := List.mem_singleton.mp single
      refine ⟨?_, before event listed⟩
      have below := sound.counted event (List.mem_filter.mp listed).1
      have mine : strip event.operationId = run.id := by
        simpa using (List.mem_filter.mp listed).2
      have sameCounter : state.nextSeq event.operationId = state.nextSeq run.request.operationId := by
        unfold State.nextSeq seqKey
        rw [mine]
        rfl
      rw [sameCounter] at below
      exact below
    case isFalse => exact sound.ordered id
  · intro event listed
    change event.seq < (state.countSeq run.request.operationId).nextSeq event.operationId
    rcases eventCases event listed with old | rfl
    · exact counted_set sound.counted event old
    · exact nextSeq_countSeq state run.request.operationId
  · intro id some_ idle
    rw [events] at some_ ⊢
    split
    case isTrue mine =>
      exact ⟨_, by simp, eventTerminal⟩
    case isFalse other =>
      rw [if_neg other] at some_
      refine sound.closed id some_ ?_
      intro old listed same
      obtain ⟨place, placed⟩ := List.getElem?_of_mem listed
      by_cases here : place = index
      · subst here
        obtain rfl := Option.some.inj (found.symm.trans placed)
        rw [← same] at some_
        have quiet : run.emits = false := by
          simpa [same] using other
        exact absurd (sound.silent run member (Or.inr quiet) active) some_
      · refine idle old (List.mem_of_getElem? (i := place) ?_) same
        exact (List.getElem?_set_ne (Ne.symm here)).trans placed
  · intro event listed named none_
    rcases eventCases event listed with old | rfl
    · by_cases mine : strip event.operationId = run.id
      · rw [mine, stored (mine ▸ named)] at none_
        cases none_
      · rw [elsewhere _ mine] at none_
        exact sound.unfinished event old named none_
    · rw [eventId] at named none_
      rw [stored named] at none_
      cases none_
  · intro held listed quiet stillActive
    obtain ⟨other, placed⟩ := List.getElem?_of_mem listed
    rcases runAt placed with ⟨rfl, rfl⟩ | ⟨different, old⟩
    · rw [inactive] at stillActive
      cases stillActive
    · rw [events]
      split
      case isTrue mine =>
        exact absurd (sound.single other index held run old found mine.2.symm
          (Or.inl ⟨stillActive, active⟩)) different
      case isFalse => exact sound.silent held (List.mem_of_getElem? old) quiet stillActive
  · intro event listed
    rcases eventCases event listed with old | rfl
    · obtain ⟨before, there, same⟩ := sound.known event old
      obtain ⟨held, listed', mine⟩ := kept before there
      exact ⟨held, listed', mine.trans same⟩
    · obtain ⟨held, listed', mine⟩ := kept run member
      exact ⟨held, listed', mine.trans eventId.symm⟩

/-- Counting alone keeps what holds between steps. -/
theorem countSeq_sound (sound : Sound state) (operationId : String) :
    Sound (state.countSeq operationId) :=
  { sound with counted := counted_set sound.counted }

/-- No event is there of an id that has neither a final nor an active run. -/
theorem eventsOf_fresh (sound : Sound state) {id : String}
    (fresh : ∀ run ∈ state.runs, run.id = id → id ≠ "" ∧ run.phase.active = false)
    (unsettled : state.finals.get id = none) : state.eventsOf id = [] := by
  by_contra some_
  obtain ⟨event, last, terminal⟩ := sound.closed id some_ fun run listed same =>
    (fresh run listed same).2
  obtain ⟨emitted, mine⟩ := List.mem_filter.mp (List.mem_of_getLast? last)
  have mine : strip event.operationId = id := by simpa using mine
  obtain ⟨run, listed, same⟩ := sound.known event emitted
  have named := (fresh run listed (same.trans mine)).1
  rw [sound.unfinished event emitted (mine ▸ named) (mine ▸ unsettled)] at terminal
  cases terminal

/-- A new run that has the final of the table, or is the only active one of its id, keeps what
holds between steps. -/
theorem call_sound (sound : Sound state) (run : Run)
    (fresh : ∀ old ∈ state.runs, old.id = run.id → run.id ≠ "" ∧ old.phase.active = false)
    (phase : (run.phase = .progressing ∧ state.finals.get run.id = none) ∨
      (∃ cached, run.phase = .returned cached ∧ run.id ≠ "" ∧
        state.finals.get run.id = some cached)) :
    Sound { state with runs := state.runs ++ [run] } := by
  have runAt : ∀ {other : Nat} {held : Run}, (state.runs ++ [run])[other]? = some held →
      state.runs[other]? = some held ∨ (other = state.runs.length ∧ held = run) :=
    Positions.append_cases
  refine
    { open_ := ?_
      single := ?_
      settled := ?_
      blank := ?_
      started := ?_
      startedOnce := sound.startedOnce
      ordered := sound.ordered
      counted := sound.counted
      closed := ?_
      unfinished := sound.unfinished
      silent := ?_
      known := ?_ }
  · intro other held placed active
    rcases runAt placed with old | ⟨_, rfl⟩
    · exact sound.open_ other held old active
    · rcases phase with ⟨_, unsettled⟩ | ⟨cached, returned, _⟩
      · exact unsettled
      · rw [returned] at active
        cases active
  · intro one other oneRun otherRun placedOne placedOther same why
    rcases runAt placedOne with oneOld | ⟨oneLast, rfl⟩
    · rcases runAt placedOther with otherOld | ⟨_, rfl⟩
      · exact sound.single one other oneRun otherRun oneOld otherOld same why
      · obtain ⟨named, inactive⟩ := fresh oneRun (List.mem_of_getElem? oneOld) same
        rcases why with ⟨active, _⟩ | unnamed
        · rw [inactive] at active
          cases active
        · exact absurd (same ▸ unnamed) named
    · rcases runAt placedOther with otherOld | ⟨otherLast, _⟩
      · obtain ⟨named, inactive⟩ := fresh otherRun (List.mem_of_getElem? otherOld) same.symm
        rcases why with ⟨_, active⟩ | unnamed
        · rw [inactive] at active
          cases active
        · exact absurd unnamed named
      · exact oneLast.trans otherLast.symm
  · intro other held placed named final holds
    rcases runAt placed with old | ⟨_, rfl⟩
    · exact sound.settled other held old named final holds
    · rcases phase with ⟨progressing, _⟩ | ⟨cached, returned, _, stored⟩
      · rw [progressing] at holds
        rcases holds with other | ⟨_, other⟩ <;> cases other
      · rw [returned] at holds
        rcases holds with same | ⟨_, other⟩
        · cases same
          exact stored
        · cases other
  · intro present
    obtain ⟨old, listed, unnamed⟩ := sound.blank present
    exact ⟨old, List.mem_append_left _ listed, unnamed⟩
  · intro id begun
    obtain ⟨named, before⟩ := sound.started id begun
    exact ⟨named, before.imp_right fun ⟨old, listed, mine⟩ =>
      ⟨old, List.mem_append_left _ listed, mine⟩⟩
  · exact fun id some_ idle => sound.closed id some_ fun old listed =>
      idle old (List.mem_append_left _ listed)
  · intro held listed quiet active
    rcases List.mem_append.mp listed with old | new
    · exact sound.silent held old quiet active
    · obtain rfl := List.mem_singleton.mp new
      rcases phase with ⟨_, unsettled⟩ | ⟨cached, returned, _⟩
      · exact eventsOf_fresh sound fresh unsettled
      · rw [returned] at active
        cases active
  · intro event emitted
    obtain ⟨old, listed, same⟩ := sound.known event emitted
    exact ⟨old, List.mem_append_left _ listed, same⟩

/-- The progress event of an active run is the first of its id. -/
theorem announce_sound (sound : Sound state) (found : state.runs[index]? = some run)
    (active : run.phase.active = true) (named : run.id ≠ "") (emits : run.emits = true)
    (first : state.eventsOf run.id = []) (now : String) :
    Sound { state.countSeq run.request.operationId with
      events := state.events ++
        [progressEvent run.request (state.nextSeq run.request.operationId) now] } := by
  have member := List.mem_of_getElem? found
  have eventId : strip (progressEvent run.request (state.nextSeq run.request.operationId)
      now).operationId = run.id := rfl
  have events : ∀ id, State.eventsOf { state.countSeq run.request.operationId with
      events := state.events ++
        [progressEvent run.request (state.nextSeq run.request.operationId) now] } id =
      if run.id = id then
        [progressEvent run.request (state.nextSeq run.request.operationId) now]
      else state.eventsOf id := by
    intro id
    change List.filter _ (state.events ++ [_]) = _
    rw [eventsOf_append, eventId]
    split
    case isTrue mine =>
      subst mine
      change state.eventsOf run.id ++ _ = _
      rw [first, List.nil_append]
    case isFalse => rfl
  refine
    { open_ := sound.open_
      single := sound.single
      settled := sound.settled
      blank := sound.blank
      started := sound.started
      startedOnce := sound.startedOnce
      ordered := ?_
      counted := ?_
      closed := ?_
      unfinished := ?_
      silent := ?_
      known := ?_ }
  · intro id
    rw [events]
    split
    · exact List.pairwise_singleton _ _
    · exact sound.ordered id
  · intro event listed
    rcases List.mem_append.mp listed with old | new
    · exact counted_set sound.counted event old
    · obtain rfl := List.mem_singleton.mp new
      exact nextSeq_countSeq state run.request.operationId
  · intro id some_ idle
    by_cases mine : run.id = id
    · rw [idle run member mine] at active
      cases active
    · rw [events, if_neg mine] at some_ ⊢
      exact sound.closed id some_ idle
  · intro event listed some_ unsettled
    rcases List.mem_append.mp listed with old | new
    · exact sound.unfinished event old some_ unsettled
    · obtain rfl := List.mem_singleton.mp new
      exact progressEvent_isTerminal run.request _ now
  · intro held listed quiet stillActive
    by_cases mine : run.id = held.id
    · obtain ⟨other, placed⟩ := List.getElem?_of_mem listed
      obtain rfl := sound.single index other run held found placed mine
        (Or.inl ⟨active, stillActive⟩)
      obtain rfl := Option.some.inj (found.symm.trans placed)
      rcases quiet with unnamed | quiet
      · exact absurd unnamed named
      · rw [emits] at quiet
        cases quiet
    · rw [events, if_neg mine]
      exact sound.silent held listed quiet stillActive
  · intro event listed
    rcases List.mem_append.mp listed with old | new
    · exact sound.known event old
    · obtain rfl := List.mem_singleton.mp new
      exact ⟨run, member, eventId.symm⟩

/-- A run that goes on as active as it was, with the final it had, keeps what holds between
steps. -/
theorem put_sound (sound : Sound state) (found : state.runs[index]? = some run) {phase : Phase}
    (active : phase.active = run.phase.active)
    (held : ∀ final, (phase = .returned final ∨ ∃ raises, phase = .concluding final raises) →
      run.phase = .returned final ∨ ∃ raises, run.phase = .concluding final raises)
    (executing : run.phase = .executing → phase = .executing) :
    Sound (state.put index run phase) := by
  have before : ∀ {other : Nat} {new : Run}, (state.put index run phase).runs[other]? = some new →
      ∃ old : Run, state.runs[other]? = some old ∧ old.id = new.id ∧ old.emits = new.emits ∧
        new.phase.active = old.phase.active ∧
        ∀ final, (new.phase = .returned final ∨ ∃ raises, new.phase = .concluding final raises) →
          old.phase = .returned final ∨ ∃ raises, old.phase = .concluding final raises := by
    intro other new placed
    rcases Positions.set_cases placed with ⟨rfl, rfl⟩ | ⟨_, old⟩
    · exact ⟨run, found, rfl, rfl, active, held⟩
    · exact ⟨new, old, rfl, rfl, rfl, fun _ => id⟩
  have after : ∀ old ∈ state.runs, ∃ new ∈ (state.put index run phase).runs, new.id = old.id ∧
      new.phase.active = old.phase.active ∧ (old.phase = .executing → new.phase = .executing) := by
    intro old listed
    obtain ⟨other, placed⟩ := List.getElem?_of_mem listed
    by_cases same : other = index
    · subst same
      obtain rfl := Option.some.inj (found.symm.trans placed)
      exact ⟨_, List.mem_of_getElem? (Positions.set_self found _), rfl, active, executing⟩
    · have kept : (state.put index run phase).runs[other]? = some old :=
        (List.getElem?_set_ne (Ne.symm same)).trans placed
      exact ⟨old, List.mem_of_getElem? kept, rfl, rfl, id⟩
  refine
    { open_ := ?_
      single := ?_
      settled := ?_
      blank := ?_
      started := ?_
      startedOnce := sound.startedOnce
      ordered := sound.ordered
      counted := sound.counted
      closed := ?_
      unfinished := sound.unfinished
      silent := ?_
      known := ?_ }
  · intro other new placed stillActive
    obtain ⟨old, there, id, _, activity, _⟩ := before placed
    rw [← id]
    exact sound.open_ other old there (activity ▸ stillActive)
  · intro one other oneRun otherRun placedOne placedOther same why
    obtain ⟨oneOld, oneFound, oneId, _, oneActive, _⟩ := before placedOne
    obtain ⟨otherOld, otherFound, otherId, _, otherActive, _⟩ := before placedOther
    refine sound.single one other oneOld otherOld oneFound otherFound
      (oneId.trans (same.trans otherId.symm)) ?_
    rw [oneActive, otherActive] at why
    exact why.imp_right oneId.trans
  · intro other new placed named final holds
    obtain ⟨old, there, id, _, _, finals⟩ := before placed
    rw [← id] at named ⊢
    exact sound.settled other old there named final (finals final holds)
  · intro present
    obtain ⟨old, listed, unnamed⟩ := sound.blank present
    obtain ⟨new, there, id, _⟩ := after old listed
    exact ⟨new, there, id.trans unnamed⟩
  · intro id begun
    obtain ⟨named, some_⟩ := sound.started id begun
    refine ⟨named, some_.imp_right ?_⟩
    rintro ⟨old, listed, mine, executes⟩
    obtain ⟨new, there, same, _, goes⟩ := after old listed
    exact ⟨new, there, same.trans mine, goes executes⟩
  · intro id some_ idle
    refine sound.closed id some_ fun old listed mine => ?_
    obtain ⟨new, there, same, activity, _⟩ := after old listed
    exact activity ▸ idle new there (same.trans mine)
  · intro new listed quiet stillActive
    obtain ⟨other, placed⟩ := List.getElem?_of_mem listed
    obtain ⟨old, there, id, emits, activity, _⟩ := before placed
    rw [← id] at quiet ⊢
    exact sound.silent old (List.mem_of_getElem? there) (emits ▸ quiet) (activity ▸ stillActive)
  · intro event emitted
    obtain ⟨old, listed, same⟩ := sound.known event emitted
    obtain ⟨new, there, id, _⟩ := after old listed
    exact ⟨new, there, id.trans same⟩

/-- A run that starts its capability keeps what holds between steps. -/
theorem execute_sound (sound : Sound state) (found : state.runs[index]? = some run)
    (progressing : run.phase = .progressing) (named : run.id ≠ "") :
    Sound (state.execute index run) := by
  have active : run.phase.active = true := by
    rw [progressing]
    rfl
  have moved : Sound (state.put index run .executing) := by
    refine put_sound sound found active.symm ?_ (by rw [progressing]; nofun)
    rintro final (other | ⟨_, other⟩) <;> cases other
  have placed : (state.put index run .executing).runs[index]? =
      some { run with phase := .executing } :=
    Positions.set_self found _
  refine { moved with started := ?_, startedOnce := ?_ }
  · intro id begun
    rcases List.mem_append.mp begun with old | new
    · exact moved.started id old
    · obtain rfl := List.mem_singleton.mp new
      exact ⟨named, Or.inr ⟨_, List.mem_of_getElem? placed, rfl, rfl⟩⟩
  · refine List.nodup_append.mpr ⟨sound.startedOnce, List.nodup_singleton _, ?_⟩
    rintro id begun other single rfl
    obtain rfl := List.mem_singleton.mp single
    rcases (sound.started _ begun).2 with present | ⟨old, listed, mine, executing⟩
    · exact present (sound.open_ index run found active)
    · obtain ⟨other, there⟩ := List.getElem?_of_mem listed
      obtain rfl := sound.single other index old run there found mine
        (Or.inl ⟨by rw [executing]; rfl, active⟩)
      obtain rfl := Option.some.inj (found.symm.trans there)
      rw [progressing] at executing
      cases executing

/-! ## Steps -/

/-- The active runs stay named when a run is replaced by an inactive or a named one. -/
theorem named_set (named : Named state) {new : Run}
    (fits : new.phase.active = true → new.id ≠ "") :
    ∀ held ∈ state.runs.set index new, held.phase.active = true → held.id ≠ "" := by
  intro held listed active
  rcases List.mem_or_eq_of_mem_set listed with old | rfl
  · exact named held old active
  · exact fits active

/-- A conclusion changes no final that is there, if its run is active. -/
theorem conclude_stays (sound : Sound state) (found : state.runs[index]? = some run)
    (active : run.phase.active = true) (status : String) (payload : Fields)
    (error : Option Fields) (now : String) (raises : Bool) :
    FinalsStay state (state.conclude index run status payload error now raises) := by
  intro operationId final present
  unfold State.getFinal State.conclude at *
  dsimp only
  split
  · exact present
  · rw [Dict.get_set_ne]
    · exact present
    · intro same
      have open_ := sound.open_ index run found active
      unfold Run.id at open_
      rw [same, present] at open_
      cases open_

/-- A step keeps what holds between steps, and the finals. -/
def Keeps (state next : State) : Prop := Sound next ∧ Named next ∧ FinalsStay state next

theorem conclude_keeps (sound : Sound state) (named : Named state)
    (found : state.runs[index]? = some run) (active : run.phase.active = true) {status : String}
    (terminal : status ∈ ["completed", "failed", "cancelled"]) (payload : Fields)
    (error : Option Fields) (now : String) (raises : Bool) :
    Keeps state (state.conclude index run status payload error now raises) := by
  refine ⟨conclude_sound sound found active terminal payload error now raises, ?_,
    conclude_stays sound found active status payload error now raises⟩
  refine named_set named fun stillActive => ?_
  rw [with_inactive] at stillActive
  cases stillActive

theorem beginRun_keeps (registry : Registry) (sound : Sound state) (named : Named state)
    {request : OperationRequest} {emits : Bool} {now : String}
    (apart : Apart state (.calls request emits now)) :
    Keeps state (beginRun registry state request emits now) := by
  have fresh : ∀ old ∈ state.runs, old.id = strip request.operationId →
      strip request.operationId ≠ "" ∧ old.phase.active = false := fun old listed same =>
    ⟨same ▸ (apart old listed same).1, (apart old listed same).2⟩
  have placed : (state.runs ++ [⟨request, emits, .progressing⟩])[state.runs.length]? =
      some (⟨request, emits, .progressing⟩ : Run) :=
    Positions.append_self _ _
  have called : state.finals.get (strip request.operationId) = none →
      Sound { state with runs := state.runs ++ [⟨request, emits, .progressing⟩] } := fun unsettled =>
    call_sound sound ⟨request, emits, .progressing⟩ fresh (Or.inl ⟨rfl, unsettled⟩)
  -- a request that fails at once
  have fails : state.finals.get (strip request.operationId) = none → ∀ error : CapabilityError,
      Keeps state (State.fail { state with runs := state.runs ++ [⟨request, emits, .progressing⟩] }
        state.runs.length ⟨request, emits, .progressing⟩ error now) := by
    intro unsettled error
    refine ⟨conclude_sound (called unsettled) placed rfl (by simp) _ _ now false, ?_,
      conclude_stays (called unsettled) placed rfl _ _ _ now false⟩
    intro held listed active
    obtain ⟨other, there⟩ := List.getElem?_of_mem listed
    rcases Positions.set_cases there with ⟨_, rfl⟩ | ⟨different, old⟩
    · rw [with_inactive] at active
      cases active
    · rcases Positions.append_cases old with older | ⟨last, _⟩
      · exact named held (List.mem_of_getElem? older) active
      · exact absurd last different
  unfold beginRun
  dsimp only
  split
  case isTrue unnamed =>
    refine fails ?_ _
    by_contra present
    obtain ⟨old, listed, same⟩ := sound.blank (unnamed ▸ present)
    exact (apart old listed (same.trans unnamed.symm)).1 same
  case isFalse text =>
    split
    case h_1 cached stored =>
      have answered : State.put { state with runs := state.runs ++ [⟨request, emits, .progressing⟩] }
          state.runs.length ⟨request, emits, .progressing⟩ (.returned cached) =
            { state with runs := state.runs ++ [⟨request, emits, .returned cached⟩] } := by
        simp [State.put]
      rw [answered]
      refine ⟨call_sound sound ⟨request, emits, .returned cached⟩ fresh
        (Or.inr ⟨cached, rfl, text, stored⟩), ?_, fun _ _ => id⟩
      intro held listed active
      rcases List.mem_append.mp listed with old | new
      · exact named held old active
      · obtain rfl := List.mem_singleton.mp new
        cases active
    case h_2 unsettled =>
      split
      case h_1 error _ => exact fails unsettled error
      case h_2 =>
        have namedNow : ∀ held ∈ state.runs ++ [⟨request, emits, .progressing⟩],
            held.phase.active = true → held.id ≠ "" := by
          intro held listed active
          rcases List.mem_append.mp listed with old | new
          · exact named held old active
          · obtain rfl := List.mem_singleton.mp new
            exact text
        split
        case isTrue announces =>
          exact ⟨announce_sound (called unsettled) placed rfl text announces
            (eventsOf_fresh sound fresh unsettled) now, namedNow, fun _ _ => id⟩
        case isFalse silent =>
          refine ⟨execute_sound (countSeq_sound (called unsettled) _) placed rfl text, ?_,
            fun _ _ => id⟩
          intro held listed active
          rcases List.mem_or_eq_of_mem_set listed with old | rfl
          · exact namedNow held old active
          · exact text

/-- A step whose calls are apart keeps what holds between steps, and the finals. -/
theorem step_keeps (registry : Registry) (sound : Sound state) (named : Named state)
    {action : Action} {next : State} (apart : Apart state action)
    (taken : step registry state action = some next) : Keeps state next := by
  cases action with
  | calls request emits now =>
    obtain rfl := Option.some.inj taken
    exact beginRun_keeps registry sound named apart
  | emits index =>
    obtain ⟨run, found, moved⟩ := Option.bind_eq_some_iff.mp taken
    unfold emitted at moved
    split at moved
    case h_1 progressing =>
      obtain rfl := Option.some.inj moved
      have text := named run (List.mem_of_getElem? found) (by rw [progressing]; rfl)
      exact ⟨execute_sound sound found progressing text, named_set named fun _ => text,
        fun _ _ => id⟩
    case h_2 final raises concluding =>
      obtain rfl := Option.some.inj moved
      refine ⟨put_sound sound found ?_ ?_ (by rw [concluding]; nofun), named_set named ?_,
        fun _ _ => id⟩
      · rw [concluding]
        cases raises <;> rfl
      · rw [concluding]
        cases raises <;> simp
      · cases raises <;> nofun
    case h_3 => cases moved
  | interrupts index =>
    obtain ⟨run, found, moved⟩ := Option.bind_eq_some_iff.mp taken
    have inactive := apart run found
    unfold interrupted at moved
    split at moved
    case h_1 progressing =>
      rw [progressing] at inactive
      cases inactive
    case h_2 final raises concluding =>
      obtain rfl := Option.some.inj moved
      refine ⟨put_sound sound found (by rw [concluding]; rfl) (by simp)
        (by rw [concluding]; nofun), named_set named nofun, fun _ _ => id⟩
    case h_3 => cases moved
  | ends index outcome now =>
    obtain ⟨run, found, moved⟩ := Option.bind_eq_some_iff.mp taken
    unfold finished at moved
    split at moved
    case h_1 executing =>
      have active : run.phase.active = true := by
        rw [executing]
        rfl
      cases outcome with
      | returned result =>
        obtain rfl := Option.some.inj moved
        exact conclude_keeps sound named found active (by simp) _ _ now false
      | timedOut seconds =>
        obtain rfl := Option.some.inj moved
        exact conclude_keeps sound named found active (by simp) _ _ now false
      | capabilityError error =>
        obtain rfl := Option.some.inj moved
        exact conclude_keeps sound named found active (by simp) _ _ now false
      | cancelled =>
        obtain rfl := Option.some.inj moved
        exact conclude_keeps sound named found active (by simp) _ _ now true
      | raised message =>
        obtain rfl := Option.some.inj moved
        exact conclude_keeps sound named found active (by simp) _ _ now false
    case h_2 => cases moved

/-- What holds between steps gives one outcome. -/
theorem oneOutcome_of_sound (sound : Sound state) : OneOutcome state where
  startedOnce := sound.startedOnce
  sameFinal := by
    intro one oneListed other otherListed same oneFinal otherFinal oneReturned otherReturned
    obtain ⟨onePlace, oneFound⟩ := List.getElem?_of_mem oneListed
    obtain ⟨otherPlace, otherFound⟩ := List.getElem?_of_mem otherListed
    by_cases named : one.id = ""
    · obtain rfl := sound.single onePlace otherPlace one other oneFound otherFound same
        (Or.inr named)
      obtain rfl := Option.some.inj (oneFound.symm.trans otherFound)
      rw [oneReturned] at otherReturned
      cases otherReturned
      rfl
    · have oneSettled := sound.settled onePlace one oneFound named oneFinal (Or.inl oneReturned)
      have otherSettled := sound.settled otherPlace other otherFound (same ▸ named) otherFinal
        (Or.inl otherReturned)
      rw [same] at oneSettled
      exact Option.some.inj (oneSettled.symm.trans otherSettled)
  ordered := sound.ordered
  closed := sound.closed

end

theorem start_sound : Sound start ∧ Named start := by
  refine ⟨⟨?_, ?_, ?_, ?_, ?_, ?_, ?_, ?_, ?_, ?_, ?_, ?_⟩, ?_⟩ <;>
    simp [start, State.eventsOf, Named]

/-- In every run of the runner whose calls are apart, each operation has one outcome in every
state, and no step changes a final. -/
theorem run_oneOutcome (registry : Registry) (actions : List Action)
    (apart : Taking (step registry) Apart start actions) :
    Throughout (step registry) OneOutcome start actions ∧
      Along (step registry) (fun state action => ∀ next,
        step registry state action = some next → FinalsStay state next) start actions := by
  have kept : ∀ state action next, (Sound state ∧ Named state) →
      (∀ next, step registry state action = some next → Apart state action) →
        step registry state action = some next → Keeps state next :=
    fun state action next holds met taken =>
      step_keeps registry holds.1 holds.2 (met next taken) taken
  refine ⟨⟨oneOutcome_of_sound start_sound.1, ?_⟩, ?_⟩
  · refine Along.imp_of_invariant (fun state => Sound state ∧ Named state) ?_ ?_ start_sound apart
    · exact fun state action next holds met taken =>
        ⟨(kept state action next holds met taken).1, (kept state action next holds met taken).2.1⟩
    · exact fun state action holds met next taken =>
        oneOutcome_of_sound (kept state action next holds met taken).1
  · refine Along.imp_of_invariant (fun state => Sound state ∧ Named state) ?_ ?_ start_sound apart
    · exact fun state action next holds met taken =>
        ⟨(kept state action next holds met taken).1, (kept state action next holds met taken).2.1⟩
    · exact fun state action holds met next taken => (kept state action next holds met taken).2.2

/-! ## A repeated operation -/

instance (state : State) : DecidablePred (Apart state)
  | .calls _ _ _ => by unfold Apart; infer_instance
  | .emits _ | .ends _ _ _ => isTrue trivial
  | .interrupts _ => by unfold Apart; infer_instance

def counterRegistry : Registry where
  has := fun capabilityName => capabilityName = "rpi.test.counter"
  inputError := fun _ _ => none

def counterRequest (callId : String) : OperationRequest :=
  ⟨"op-repeat", callId, "rpi.test.counter", Dict.empty⟩

/-- An operation that is requested again after its end is answered from the table. -/
theorem run_oneOutcome_repeated :
    Throughout (step counterRegistry) OneOutcome start
        [.calls (counterRequest "call-1") true "t0", .emits 0,
          .ends 0 (.returned none) "t1", .emits 0, .calls (counterRequest "call-2") true "t2"] ∧
      Along (step counterRegistry) (fun state action => ∀ next,
        step counterRegistry state action = some next → FinalsStay state next) start
        [.calls (counterRequest "call-1") true "t0", .emits 0,
          .ends 0 (.returned none) "t1", .emits 0, .calls (counterRequest "call-2") true "t2"] :=
  run_oneOutcome counterRegistry _ (by decide +kernel)

/-- An operation that is requested again while it runs is executed again. -/
theorem repeated_executed_twice :
    ¬ ∀ (registry : Registry) (actions : List Action),
        Throughout (step registry) OneOutcome start actions ∧
          Along (step registry) (fun state action => ∀ next,
            step registry state action = some next → FinalsStay state next) start actions := by
  intro always
  obtain ⟨final, completed⟩ : ∃ final, run (step counterRegistry) start
      [.calls (counterRequest "call-1") false "t0", .calls (counterRequest "call-2") false "t1"] =
        some final :=
    ⟨_, rfl⟩
  have once := ((always counterRegistry _).1.final completed).startedOnce
  obtain rfl := Option.some.inj completed
  exact absurd once (by decide +kernel)

end MeetYou.OperationRuns
