import MeetYou.ContextBudget

/-!
# Whether token budgets add up

Two budgets share out a context limit, here with the ratios as exact numbers. The length
policy reserves tokens for the response and keeps a target for the input; the resolver
takes output, reasoning and tool results out of the window and leaves the rest.

Both keep a least amount for the input whatever is left of the limit: 512 tokens for the
target, 256 for the budget. Neither counts it when it checks what the other shares take.
The resolver cuts the shares only when they fill the window, not when they leave less than
its least amount.
-/

namespace MeetYou.TokenBudgets

open ContextBudget

/-! ## The budgets -/

/-- `int(tokens * ratio)`, exactly. -/
def share (tokens : Int) (ratio : Rat) : Int := (tokens * ratio.num).tdiv ratio.den

/-! ## When they add up -/

/-- Target and reserve are within the limit. -/
def PolicyAddsUp (policy : LengthPolicy) : Prop :=
  policy.targetInputTokens + policy.reservedResponseTokens ≤ policy.contextLimitTokens

/-- All four shares are within the window. -/
def BudgetAddsUp (budget : ModelCapabilityBudget) : Prop :=
  budget.inputBudget + budget.maxOutputTokens + budget.reservedReasoningTokens +
    budget.toolResultBudget ≤ budget.contextWindow

/-- What is asked for leaves the input its least amount, or fills a window that is wide
enough for what is granted then. -/
def LeavesInput (window output reasoning results : Int) : Prop :=
  output + reasoning + results + 256 ≤ window ∨
    window ≤ output + reasoning + results ∧
      (626 ≤ window ∨ min output 256 + min reasoning (window * 2 / 25) + 320 ≤ window)

/-- A share of a limit is the quotient. -/
theorem share_of {tokens : Int} (positive : 0 < tokens) {ratio : Rat} {numerator denominator : Nat}
    (same : ratio.num = numerator ∧ ratio.den = denominator) :
    share tokens ratio = tokens * numerator / denominator := by
  unfold share
  rw [same.1, same.2]
  exact Int.tdiv_eq_ediv_of_nonneg (Int.mul_nonneg positive.le (Int.natCast_nonneg _))

/-- A response's share is less than a fourth of the limit. -/
theorem response_share (family : ProviderFamily) {limit : Int} (positive : 0 < limit) :
    4 * share limit family.policy.responseRatio ≤ limit := by
  cases family with
  | openai =>
    have same := @share_of limit positive (22 / 100) 11 50 (by decide +kernel)
    change 4 * share limit (22 / 100) ≤ limit
    omega
  | anthropic =>
    have same := @share_of limit positive (18 / 100) 9 50 (by decide +kernel)
    change 4 * share limit (18 / 100) ≤ limit
    omega
  | gemini =>
    have same := @share_of limit positive (20 / 100) 1 5 (by decide +kernel)
    change 4 * share limit (20 / 100) ≤ limit
    omega
  | generic =>
    have same := @share_of limit positive (20 / 100) 1 5 (by decide +kernel)
    change 4 * share limit (20 / 100) ≤ limit
    omega

/-- The policy adds up when its two least amounts do. -/
theorem policyAddsUp_iff (family : ProviderFamily) {contextLimitOverride modelLimit : Int}
    (positive : 0 < contextLimit contextLimitOverride modelLimit) :
    PolicyAddsUp (buildLengthPolicy share family contextLimitOverride modelLimit) ↔
      512 + family.policy.minResponseTokens ≤ contextLimit contextLimitOverride modelLimit := by
  unfold PolicyAddsUp buildLengthPolicy
  dsimp only
  generalize contextLimit contextLimitOverride modelLimit = limit at positive
  have least : 768 ≤ family.policy.minResponseTokens := by cases family <;> decide
  have response := response_share family positive
  generalize family.policy.minResponseTokens = minimum at least ⊢
  generalize share limit family.policy.responseRatio = reserved at response ⊢
  generalize share limit family.policy.reserveRatio = target
  omega

/-- The budget adds up when the least input fits beside what is granted. -/
theorem addsUp_iff (budget : ModelCapabilityBudget) : BudgetAddsUp budget ↔
    budget.maxOutputTokens + budget.reservedReasoningTokens + budget.toolResultBudget + 256 ≤
      budget.contextWindow := by
  unfold BudgetAddsUp ModelCapabilityBudget.inputBudget
  dsimp only
  omega

/-- The resolver's budget adds up when what is asked for leaves the input its least amount, or
is cut down in a window that is wide enough. A window of 626 tokens is, whatever is asked. -/
theorem resolve_addsUp_iff {window : Int} (positive : 0 < window) (reservedResponseTokens : Int)
    (thinking : Thinking) :
    BudgetAddsUp (resolve share window reservedResponseTokens thinking) ↔
      LeavesInput window (maxOutput share window reservedResponseTokens)
        (reasoningBudget share window thinking) (toolResultBudget share window) := by
  have twoShares := @share_of window positive (8 / 100) 2 25 (by decide +kernel)
  have sevenShares := @share_of window positive (35 / 100) 7 20 (by decide +kernel)
  have results : toolResultBudget share window = max 128 (window * 2 / 25) := by
    unfold toolResultBudget
    rw [twoShares]
    rfl
  rw [addsUp_iff]
  unfold resolve LeavesInput
  dsimp only
  rw [if_neg positive.ne']
  generalize maxOutput share window reservedResponseTokens = output
  generalize reasoningBudget share window thinking = reasoning
  rw [results, twoShares, sevenShares]
  split
  · dsimp only
    omega
  · dsimp only
    omega

/-- Both budgets of a context limit add up in these cases only. -/
theorem token_budgets_add_up_iff (family : ProviderFamily)
    (contextLimitOverride modelLimit reservedResponseTokens : Int) (thinking : Thinking)
    (positive : 0 < contextLimit contextLimitOverride modelLimit) :
    (PolicyAddsUp (buildLengthPolicy share family contextLimitOverride modelLimit) ↔
      512 + family.policy.minResponseTokens ≤ contextLimit contextLimitOverride modelLimit) ∧
    (BudgetAddsUp (resolve share (contextLimit contextLimitOverride modelLimit)
        reservedResponseTokens thinking) ↔
      LeavesInput (contextLimit contextLimitOverride modelLimit)
        (maxOutput share (contextLimit contextLimitOverride modelLimit) reservedResponseTokens)
        (reasoningBudget share (contextLimit contextLimitOverride modelLimit) thinking)
        (toolResultBudget share (contextLimit contextLimitOverride modelLimit))) :=
  ⟨policyAddsUp_iff family positive, resolve_addsUp_iff positive reservedResponseTokens thinking⟩

/-- A small local model, and a user's thinking budget in a common window. -/
theorem small_limit_and_large_thinking :
    ¬ PolicyAddsUp (buildLengthPolicy share .generic 1024 0) ∧
      ¬ BudgetAddsUp (resolve share 8192 1638 ⟨some true, 5800⟩) := by
  constructor
  · rw [policyAddsUp_iff .generic (by decide)]
    decide
  · rw [resolve_addsUp_iff (by decide)]
    unfold LeavesInput
    decide +kernel

/-- A common window without a budget of the user. -/
theorem token_budgets_add_up_common :
    (PolicyAddsUp (buildLengthPolicy share .generic 8192 0) ↔
      512 + ProviderFamily.generic.policy.minResponseTokens ≤ contextLimit 8192 0) ∧
    (BudgetAddsUp (resolve share (contextLimit 8192 0) 0 ⟨none, 0⟩) ↔
      LeavesInput (contextLimit 8192 0) (maxOutput share (contextLimit 8192 0) 0)
        (reasoningBudget share (contextLimit 8192 0) ⟨none, 0⟩)
        (toolResultBudget share (contextLimit 8192 0))) :=
  token_budgets_add_up_iff .generic 8192 0 0 ⟨none, 0⟩ (by decide)

end MeetYou.TokenBudgets
