import MeetYou.Foundation.Persistence
import MeetYou.Foundation.Text
import MeetYou.OperationCalls

/-!
# Decisions on approvals

An operation that needs approval has an approval row, or several. A decision writes the row and
sends the operation back to the queue, or rejects it. The confirmation in a chat decides only an
approval that is pending, but it writes the operation in any case. What becomes of the tool call
writes the operation too. None of them looks at the status that the operation has.
-/

namespace MeetYou.ApprovalDecisions

open OperationCalls Runs

/-! ## Rows -/

/-- `approval_id` -/
abbrev ApprovalId := String

/-- The statuses of an approval. -/
inductive ApprovalStatus
  | pending
  | approved
  | rejected
  deriving DecidableEq

/-- A row of `approvals`. -/
structure Approval where
  operationId : OperationId
  status : ApprovalStatus
  decision : String
  reason : String
  decidedByActorId : Option Nat

/-- The statuses of an operation that may need approval. -/
inductive Status
  | waitingApproval
  | rejected
  | tracked (status : OperationStatus)
  deriving DecidableEq

/-- The operation is over. -/
def Status.terminal : Status → Bool
  | .rejected | .tracked .succeeded | .tracked .failed | .tracked .cancelled => true
  | _ => false

/-- A row of `operations`. -/
structure OperationRow where
  status : Status
  resultSummary : Json
  metadata : Fields

/-- What `OperationRepository.update_status` writes. -/
structure StatusUpdate where
  status : Status
  resultSummary : Option Json
  metadata : Option Fields

/-- `OperationRepository.update_status` on a stored row. -/
def StatusUpdate.apply (update : StatusUpdate) (row : OperationRow) : OperationRow where
  status := update.status
  resultSummary := update.resultSummary.getD row.resultSummary
  metadata := match update.metadata with
    | none => row.metadata
    | some metadata => row.metadata.update metadata

/-- The three tables that a decision touches. -/
structure State where
  approvals : Dict ApprovalId Approval
  operations : Dict OperationId OperationRow
  calls : Dict CallId OperationCall

/-! ## Decisions -/

/-- `ApprovalRepository.decide` on a stored row. -/
def Approval.decide (approval : Approval) (decision reason : String) (actor : Option Nat) :
    Approval :=
  { approval with
    decision := decision, reason := reason, decidedByActorId := actor
    status := if decision = "approve" then .approved else .rejected }

theorem Approval.decide_operationId (approval : Approval) (decision reason : String)
    (actor : Option Nat) : (approval.decide decision reason actor).operationId =
      approval.operationId := rfl

/-- A request to decide an approval, with the actor that it comes from. -/
structure DecisionRequest where
  approvalId : ApprovalId
  decision : String
  reason : String
  endpointId : String
  actor : Option Nat

/-- `str(payload.decision or "").strip().lower()` -/
def DecisionRequest.word (request : DecisionRequest) : String :=
  Text.lowerWord (Text.strip request.decision)

/-- `next_status` -/
def nextStatus (decision : String) : Status :=
  if decision = "approve" then .tracked .queued else .rejected

/-- The status as it is stored. -/
def ApprovalStatus.text : ApprovalStatus → String
  | .pending => "pending"
  | .approved => "approved"
  | .rejected => "rejected"

/-- `decide_approval`; a request with another word or an unknown approval is refused. -/
def decideApproval (state : State) (request : DecisionRequest) : State :=
  if request.word ≠ "approve" ∧ request.word ≠ "reject" then state
  else match state.approvals.get request.approvalId with
    | none => state
    | some approval =>
      let decided := approval.decide request.word request.reason request.actor
      { state with
        approvals := state.approvals.set request.approvalId decided
        operations := state.operations.revise decided.operationId (StatusUpdate.apply
          { status := nextStatus request.word
            resultSummary := none
            metadata := some (Fields.of [("approval_id", .str request.approvalId),
              ("approval_status", .str decided.status.text),
              ("approval_decision", .str decided.decision),
              ("approval_endpoint_id", .str request.endpointId)]) }) }

/-- An answer to a confirmation, with what `_confirm_approval_requests` has for it. -/
structure Confirmation where
  approvalId : ApprovalId
  operationId : Option OperationId
  accepted : Bool
  reason : String
  actor : Option Nat

/-- The approval of a confirmation after it. -/
def Confirmation.approval (confirmation : Confirmation) (state : State) : Option Approval :=
  ((if confirmation.approvalId = "" then none
    else state.approvals.get confirmation.approvalId)).map fun approval =>
      if approval.status = .pending then
        approval.decide (if confirmation.accepted then "approve" else "reject")
          confirmation.reason confirmation.actor
      else approval

/-- The status that a confirmation gives to its operation. -/
def Confirmation.status (confirmation : Confirmation) : Status :=
  if confirmation.accepted then .tracked .succeeded else .rejected

/-- `_apply_confirm_approval_decision` -/
def applyConfirmApprovalDecision (state : State) (confirmation : Confirmation) : State :=
  let approval := confirmation.approval state
  let decided := match approval with
    | none => state
    | some decided =>
      { state with approvals := state.approvals.set confirmation.approvalId decided }
  match confirmation.operationId with
  | none => decided
  | some operationId =>
    { decided with
      operations := decided.operations.revise operationId (StatusUpdate.apply
        { status := confirmation.status
          resultSummary := some (.str (if confirmation.accepted then "确认已通过"
            else if confirmation.reason = "" then "确认已拒绝" else confirmation.reason))
          metadata := some (Fields.of [("approval_id", .str confirmation.approvalId),
            ("approval_status", .str ((approval.map fun row => row.status.text).getD "")),
            ("approval_required", .bool true),
            ("confirm_decision", .str (if confirmation.accepted then "approve"
              else "reject"))]) }) }

/-- What a record of a call writes to its operation. -/
def operationChange : Mark → OperationChange
  | .dispatched => { status := .dispatching }
  | .accepted => { status := .running }
  | .progress detail metadata =>
    { status := .running
      metadata := some (Fields.of [("last_progress",
        ((Fields.of [("detail", .str detail)]).update metadata).toJson)]) }
  | .succeeded result =>
    { status := .succeeded
      resultSummary := some (result.getOr "summary" (result.getOr "message" (.str "")))
      metadata := some (Fields.of [("result", result.toJson)]) }
  | .failed error =>
    { status := .failed
      resultSummary := some (error.getOr "message" (.str ""))
      metadata := some (Fields.of [("error", error.toJson)]) }
  | .cancelled error =>
    { status := .cancelled
      resultSummary := some (error.getOr "message" (.str "Tool call cancelled"))
      metadata := some (Fields.of [("error", error.toJson)]) }

/-- The records write what they write where no operation needs approval. -/
theorem record_eq_operationChange (ledger : Ledger) (callId : CallId) (recorded : Mark) :
    recorded.record ledger callId =
      mark ledger callId recorded.change (operationChange recorded) := by
  cases recorded <;> rfl

/-- `OperationCallService.mark_*` -/
def settle (state : State) (callId : CallId) (recorded : Mark) : State :=
  match state.calls.get callId with
  | none => state
  | some row =>
    let change := operationChange recorded
    { state with
      calls := state.calls.set callId (recorded.change.apply row)
      operations := state.operations.revise row.operationId
        (StatusUpdate.apply ⟨.tracked change.status, change.resultSummary, change.metadata⟩) }

/-- A decision, an answer to a confirmation, or a result of a tool call. -/
inductive Action
  | decide (request : DecisionRequest)
  | confirm (confirmation : Confirmation)
  | settle (callId : CallId) (recorded : Mark)

/-- Each action is one transaction. -/
def step (state : State) : Action → Option State
  | .decide request => some (decideApproval state request)
  | .confirm confirmation => some (applyConfirmApprovalDecision state confirmation)
  | .settle callId recorded => some (settle state callId recorded)

/-! ## What stays -/

/-- The approval has been approved or rejected. -/
def Approval.Decided (approval : Approval) : Prop := approval.status ≠ .pending

/-- The two rows have one decision. -/
def Approval.SameDecision (approval later : Approval) : Prop :=
  later.decision = approval.decision ∧ later.status = approval.status

/-- The operation has ended. -/
def OperationRow.Over (row : OperationRow) : Prop := row.status.terminal = true

/-- The status of an operation has not changed. -/
def OperationRow.SameStatus (row later : OperationRow) : Prop := later.status = row.status

/-- Decided approvals keep their decisions, and operations that are over their statuses. -/
def Stays (state later : State) : Prop :=
  KeepsRows Approval.Decided Approval.SameDecision state.approvals later.approvals ∧
    KeepsRows OperationRow.Over OperationRow.SameStatus state.operations later.operations

theorem sameDecision_refl (approval : Approval) : approval.SameDecision approval := ⟨rfl, rfl⟩

theorem sameStatus_refl (row : OperationRow) : row.SameStatus row := rfl

theorem stays_refl (state : State) : Stays state state :=
  ⟨keepsRows_refl sameDecision_refl _, keepsRows_refl sameStatus_refl _⟩

theorem stays_trans (state middle later : State) (first : Stays state middle)
    (second : Stays middle later) : Stays state later := by
  constructor
  · refine keepsRows_trans ?_ ?_ first.1 second.1
    · exact fun row between last equal again =>
        ⟨again.1.trans equal.1, again.2.trans equal.2⟩
    · intro row between is equal
      unfold Approval.Decided at is ⊢
      rwa [equal.2]
  · refine keepsRows_trans ?_ ?_ first.2 second.2
    · exact fun row between last equal again => Eq.trans again equal
    · intro row between is equal
      unfold OperationRow.Over at is ⊢
      rwa [show between.status = row.status from equal]

/-- The operation is not over, or has the status already. -/
def State.Admits (state : State) (operationId : OperationId) (status : Status) : Prop :=
  ∀ row, state.operations.get operationId = some row → row.status.terminal = true →
    status = row.status

/-- No decided approval gets another decision, no operation that is over another status. -/
def Respects (state : State) : Action → Prop
  | .decide request => (request.word = "approve" ∨ request.word = "reject") →
    ∀ approval, state.approvals.get request.approvalId = some approval →
      (approval.Decided → approval.SameDecision
        (approval.decide request.word request.reason request.actor)) ∧
      state.Admits approval.operationId (nextStatus request.word)
  | .confirm confirmation => ∀ operationId, confirmation.operationId = some operationId →
    state.Admits operationId confirmation.status
  | .settle callId recorded => ∀ row, state.calls.get callId = some row →
    state.Admits row.operationId (.tracked (operationChange recorded).status)

/-- An update of an operation is admitted exactly if it keeps what is over. -/
theorem keeps_update_iff (state : State) (operationId : OperationId) (update : StatusUpdate) :
    KeepsRows OperationRow.Over OperationRow.SameStatus state.operations
        (state.operations.revise operationId update.apply) ↔
      state.Admits operationId update.status :=
  keepsRows_revise_iff sameStatus_refl _ _ _

theorem decideApproval_stays_iff (state : State) (request : DecisionRequest) :
    Stays state (decideApproval state request) ↔ Respects state (.decide request) := by
  unfold decideApproval Respects
  dsimp only
  by_cases refused : request.word ≠ "approve" ∧ request.word ≠ "reject"
  · rw [if_pos refused]
    refine iff_of_true (stays_refl state) (fun valid => ?_)
    rcases valid with approves | rejects
    · exact absurd approves refused.1
    · exact absurd rejects refused.2
  · rw [if_neg refused]
    have valid : request.word = "approve" ∨ request.word = "reject" := by
      by_contra neither
      exact refused (not_or.mp neither)
    cases present : state.approvals.get request.approvalId with
    | none => exact iff_of_true (stays_refl state) fun _ _ there => nomatch there
    | some approval =>
      dsimp only
      unfold Stays
      dsimp only
      rw [keepsRows_set_iff sameDecision_refl _ present, keeps_update_iff,
        Approval.decide_operationId]
      dsimp only
      constructor
      · rintro kept _ other there
        cases there
        exact kept
      · exact fun respects => respects valid approval rfl

/-- A confirmation keeps every decision, as it looks whether the approval is pending. -/
theorem applyConfirm_stays_iff (state : State) (confirmation : Confirmation) :
    Stays state (applyConfirmApprovalDecision state confirmation) ↔
      Respects state (.confirm confirmation) := by
  have decided : KeepsRows Approval.Decided Approval.SameDecision state.approvals
      (match confirmation.approval state with
        | none => state
        | some decided =>
          { state with approvals := state.approvals.set confirmation.approvalId decided }).approvals
      := by
    cases made : confirmation.approval state with
    | none => exact keepsRows_refl sameDecision_refl _
    | some later =>
      obtain ⟨approval, asked, rfl⟩ := Option.map_eq_some_iff.mp made
      split at asked
      · cases asked
      · refine (keepsRows_set_iff sameDecision_refl _ asked _).mpr fun is => ?_
        rw [if_neg is]
        exact ⟨rfl, rfl⟩
  have operations : (match confirmation.approval state with
        | none => state
        | some decided =>
          { state with approvals := state.approvals.set confirmation.approvalId decided }).operations
      = state.operations := by
    cases confirmation.approval state <;> rfl
  unfold applyConfirmApprovalDecision Respects
  dsimp only
  cases target : confirmation.operationId with
  | none =>
    refine iff_of_true ⟨decided, ?_⟩ fun _ there => by cases there
    rw [operations]
    exact keepsRows_refl sameStatus_refl _
  | some operationId =>
    dsimp only
    unfold Stays
    dsimp only
    rw [operations, keeps_update_iff]
    constructor
    · rintro kept other same
      cases same
      exact kept.2
    · exact fun respects => ⟨decided, respects operationId rfl⟩

theorem settle_stays_iff (state : State) (callId : CallId) (recorded : Mark) :
    Stays state (settle state callId recorded) ↔ Respects state (.settle callId recorded) := by
  unfold settle Respects
  dsimp only
  cases present : state.calls.get callId with
  | none => exact iff_of_true (stays_refl state) fun _ there => nomatch there
  | some row =>
    dsimp only
    unfold Stays
    dsimp only
    rw [keeps_update_iff]
    constructor
    · rintro kept other there
      cases there
      exact kept.2
    · exact fun respects => ⟨keepsRows_refl sameDecision_refl _, respects row rfl⟩

/-- A step keeps what is decided and over exactly if it respects it. -/
theorem step_stays_iff (state : State) (action : Action) :
    (∀ next, step state action = some next → Stays state next) ↔ Respects state action := by
  have one : ∀ next : State, (∀ other, some next = some other → Stays state other) ↔
      Stays state next :=
    fun next => ⟨fun all => all next rfl, fun kept other same => Option.some.inj same ▸ kept⟩
  cases action with
  | decide request => exact (one _).trans (decideApproval_stays_iff state request)
  | confirm confirmation => exact (one _).trans (applyConfirm_stays_iff state confirmation)
  | settle callId recorded => exact (one _).trans (settle_stays_iff state callId recorded)

/-- In a run, decisions and final statuses persist exactly if every step respects them. -/
theorem decisions_persist_iff (start : State) (actions : List Action) :
    Persists step Stays start actions ↔ Along step Respects start actions := by
  rw [persists_iff_along stays_refl stays_trans]
  exact ⟨Along.imp fun state action => (step_stays_iff state action).mp,
    Along.imp fun state action => (step_stays_iff state action).mpr⟩

/-! ### A decision that is made twice -/

def waitingApproval : Approval := ⟨0, .pending, "", "", none⟩

/-- An operation that waits for an approval. -/
def waiting : State where
  approvals := Dict.empty.set "a" waitingApproval
  operations := Dict.empty.set 0 ⟨.waitingApproval, .str "", Dict.empty⟩
  calls := Dict.empty.set "call" { operationId := 0 }

/-- Rejected, and approved afterwards. -/
def contradictory : List Action :=
  [.decide ⟨"a", "reject", "", "", none⟩, .decide ⟨"a", "approve", "", "", none⟩]

theorem rejected_then_queued : ¬Persists step Stays waiting contradictory := by
  intro persists
  obtain ⟨rejected, first⟩ : ∃ rejected, run step waiting (contradictory.take 1) = some rejected :=
    ⟨_, rfl⟩
  obtain ⟨approved, second⟩ : ∃ approved, run step rejected (contradictory.drop 1) =
      some approved := ⟨_, rfl⟩
  have finished : (run step waiting (contradictory.take 1)).bind (fun state =>
      (state.operations.get 0).map OperationRow.status) = some .rejected := by decide +kernel
  have queued : (run step waiting contradictory).bind (fun state =>
      (state.operations.get 0).map OperationRow.status) = some (.tracked .queued) := by
    decide +kernel
  have whole : run step waiting contradictory = some approved :=
    run_append.mpr ⟨rejected, first, second⟩
  rw [first] at finished
  rw [whole] at queued
  obtain ⟨row, there, status⟩ := Option.map_eq_some_iff.mp finished
  have kept := (persists (contradictory.take 1) (contradictory.drop 1) [] rejected approved rfl
    first second).2 0 row there (by unfold OperationRow.Over; rw [status]; rfl)
  obtain ⟨later, still, same⟩ := kept
  obtain ⟨last, present, new⟩ := Option.map_eq_some_iff.mp queued
  rw [still] at present
  cases present
  rw [show later.status = row.status from same, status] at new
  cases new

end MeetYou.ApprovalDecisions
