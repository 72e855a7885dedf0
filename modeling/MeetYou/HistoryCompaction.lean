import MeetYou.ContextBudget

/-!
# What a compaction takes out of the history

A trim and the compaction of an idle session hand the older messages to the summariser
and replace the history when its answer is there. The new history is put together from
what was read before the call: a message that is appended while the call is awaited is
not part of it.

A trim takes the least important messages and summarises all of them. The idle
compaction takes everything in front of the recent messages and summarises what is
meaningful in there: a temporary message leaves and no summary holds it.
`compactions_faithful_iff` says when neither of this happens.
-/

namespace MeetYou.HistoryCompaction

open ContextBudget

/-- What others append to the list while the summariser is awaited, and while the new
summary is written. -/
structure Arrivals where
  summarizing : List ChatMessage
  updating : List ChatMessage

/-- The list after a pass over it, what the one call of the summariser was given,
`trimmed_messages`, and how the pass ended. -/
structure Compaction where
  chatHistory : List ChatMessage
  summarized : Option (List ChatMessage)
  trimmedMessages : Nat
  ended : Awaited

section
variable (render : Rendering)

/-- `trim_history`, with its usable tokens worked out. -/
def trimHistory (usable preserveMessageCount : Int) (calls : SummaryCalls) (arrivals : Arrivals)
    (history : List ChatMessage) : Compaction :=
  let preserveCount := (max preserveMessageCount 0).toNat
  if (estimateTokens render (dicts history) : Int) ≤ usable then ⟨history, none, 0, .returned⟩
  else
    let parts := trimParts render usable preserveCount history
    let awaited := history ++ arrivals.summarizing
    if parts.2.isEmpty then ⟨history, none, 0, .returned⟩
    else if calls.summarized = .returned then
      -- the list is replaced first, the summary is written after it
      let replaced := awaited.take preserveCount ++ parts.1
      if ThreadSummary.normalizeConversationSummary calls.summary = "" then
        ⟨replaced, some parts.2, parts.2.length, .returned⟩
      else ⟨replaced ++ arrivals.updating, some parts.2, parts.2.length, calls.updated⟩
    else ⟨awaited, some parts.2, 0, calls.summarized⟩

/-- `compact_history_for_idle_heartbeat`. -/
def compactHistoryForIdleHeartbeat (preserveMessageCount recentMessageCount : Int)
    (calls : SummaryCalls) (arrivals : Arrivals) (history : List ChatMessage) : Compaction :=
  let preserveCount := (max preserveMessageCount 0).toNat
  let recentCount := (max recentMessageCount 2).toNat
  let preserved := history.take preserveCount
  let tail := history.drop preserveCount
  if tail.length ≤ recentCount then ⟨history, none, 0, .returned⟩
  else
    let messages := (tail.take (tail.length - recentCount)).filter fun message =>
      isMeaningful render message.fields
    let replaced := preserved ++ tail.drop (tail.length - recentCount)
    if messages.isEmpty then ⟨history, none, 0, .returned⟩
    else if calls.summarized = .returned then
      if ThreadSummary.normalizeConversationSummary calls.summary = "" then
        ⟨replaced, some messages, messages.length, .returned⟩
      else if calls.updated = .returned then
        ⟨replaced, some messages, messages.length, .returned⟩
      else ⟨history ++ arrivals.summarizing ++ arrivals.updating, some messages, 0, calls.updated⟩
    else ⟨history ++ arrivals.summarizing, some messages, 0, calls.summarized⟩

/-- A message with text or tool calls. -/
def holdsTextOrCalls (message : ChatMessage) : Bool :=
  decide (plainText render (valueOf message.fields "content") ≠ "") ||
    isTrue message.fields "tool_calls"

end

/-- What others append to the list before the pass ends: during the call of the summariser, and
during the write of the summary where there is one to write. -/
def arrived (calls : SummaryCalls) (arrivals : Arrivals) : List ChatMessage :=
  arrivals.summarizing ++
    if ThreadSummary.normalizeConversationSummary calls.summary = "" then []
    else arrivals.updating

/-- The summariser answers, and its summary is written where it is not empty. -/
def Succeeds (calls : SummaryCalls) : Prop :=
  calls.summarized = .returned ∧
    (ThreadSummary.normalizeConversationSummary calls.summary = "" ∨ calls.updated = .returned)

/-- The messages behind the preserved ones and in front of the recent ones. -/
def older (preserveCount recentCount : Nat) (history : List ChatMessage) : List ChatMessage :=
  (history.drop preserveCount).take ((history.drop preserveCount).length - recentCount)

/-! ## What a compaction keeps -/

/-- The parts of a compaction: the messages `kept` of the history, in their order and with the
preserved and the protected ones among them, and those that `left` it. Behind the kept ones stand
the later ones, and of those that left each with text or tool calls is among the `passed`, as
often as it left. -/
def Parts (render : Rendering) (preserveCount protectedCount : Nat)
    (later history chatHistory passed : List ChatMessage) : Prop :=
  ∃ kept left, chatHistory = kept ++ later ∧ kept.Sublist history ∧ (kept ++ left).Perm history ∧
    (passed.filter (holdsTextOrCalls render)).Perm (left.filter (holdsTextOrCalls render)) ∧
    history.take preserveCount <+: kept ∧
    history.drop (history.length - protectedCount) <:+ kept

/-- A pass that counts removed messages has its one summariser call given each message with text
or tool calls that left, once, and what others appended meanwhile is still in the list. A pass
whose summariser call fails leaves the list alone. -/
structure Compacts (render : Rendering) (preserveCount protectedCount : Nat)
    (calls : SummaryCalls) (arrivals : Arrivals) (history : List ChatMessage)
    (after : Compaction) : Prop where
  removed : after.ended = .returned → 0 < after.trimmedMessages →
    ∃ passed, after.summarized = some passed ∧
      Parts render preserveCount protectedCount (arrived calls arrivals) history
        after.chatHistory passed
  failed : after.summarized ≠ none → calls.summarized ≠ .returned →
    after.chatHistory = history ++ arrivals.summarizing

section
variable {render : Rendering} {preserveCount protectedCount : Nat} {calls : SummaryCalls}
  {arrivals : Arrivals} {history : List ChatMessage}

/-- A pass that calls no summariser removes nothing. -/
theorem Compacts.idle :
    Compacts render preserveCount protectedCount calls arrivals history
      ⟨history, none, 0, .returned⟩ :=
  ⟨fun _ some => absurd some (Nat.lt_irrefl 0), fun called => absurd rfl called⟩

/-- A pass that ends without counting a removal is judged by its list alone. -/
theorem Compacts.broken {passed chatHistory : List ChatMessage} {ended : Awaited}
    (list : calls.summarized ≠ .returned → chatHistory = history ++ arrivals.summarizing) :
    Compacts render preserveCount protectedCount calls arrivals history
      ⟨chatHistory, some passed, 0, ended⟩ :=
  ⟨fun _ some => absurd some (Nat.lt_irrefl 0), fun _ failed => list failed⟩

/-- A pass that cannot write its summary does not return. -/
theorem Compacts.unwritten {after : Compaction} (ended : after.ended ≠ .returned)
    (returned : calls.summarized = .returned) :
    Compacts render preserveCount protectedCount calls arrivals history after :=
  ⟨fun is => absurd is ended, fun _ failed => absurd returned failed⟩

/-- A pass whose summariser answered is judged by its parts. -/
theorem compacts_iff_parts {passed chatHistory : List ChatMessage}
    (returned : calls.summarized = .returned) (taken : 0 < passed.length) :
    Compacts render preserveCount protectedCount calls arrivals history
        ⟨chatHistory, some passed, passed.length, .returned⟩ ↔
      Parts render preserveCount protectedCount (arrived calls arrivals) history chatHistory
        passed := by
  constructor
  · intro compacts
    obtain ⟨given, is, parts⟩ := compacts.removed rfl taken
    obtain rfl := Option.some.inj is
    exact parts
  · exact fun parts => ⟨fun _ _ => ⟨passed, rfl, parts⟩, fun _ failed => absurd returned failed⟩

/-- What arrived while a history was put together from older messages is not in it. -/
theorem arrived_lost {replaced behind passed : List ChatMessage}
    (distinct : ((history ++ arrivals.summarizing ++ arrivals.updating).map
      ChatMessage.serial).Nodup)
    (parts : Parts render preserveCount protectedCount (arrived calls arrivals) history
      (replaced ++ behind) passed) (older : replaced.Sublist history)
    {message : ChatMessage} (came : message ∈ arrived calls arrivals) : message ∈ behind := by
  obtain ⟨kept, _, whole, _⟩ := parts
  have there : message ∈ replaced ++ behind := by
    rw [whole]
    exact List.mem_append_right _ came
  rcases List.mem_append.mp there with before | there
  · have apart := (List.nodup_append.mp (List.append_assoc .. ▸ List.Nodup.of_map _ distinct)).2.2
    have arrives : message ∈ arrivals.summarizing ++ arrivals.updating := by
      rw [arrived] at came
      split at came
      · rw [List.append_nil] at came
        exact List.mem_append_left _ came
      · exact came
    exact absurd rfl (apart message (older.subset before) message arrives)
  · exact there

end

section
variable {render : Rendering}

/-! ## The newest two messages of a trim -/

/-- The message that a trim takes is in front of the newest two. -/
theorem trimIndex_before {removable : List ChatMessage} (long : 2 < removable.length) :
    trimIndex removable + 2 < removable.length := by
  have candidates : (removable.take (removable.length - 2)).map
      (fun message => trimPriority message.fields) ≠ [] := by
    intro nothing
    have := congrArg List.length nothing
    simp at this
    omega
  have bound := leastIndex_lt candidates
  rw [List.length_map, List.length_take] at bound
  rw [trimIndex]
  omega

/-- An ending of at most two messages outlasts the loop of a trim. -/
theorem trimLoop_ending (preserved : List ChatMessage) (usable : Int)
    (rounds : Nat) {ending removable : List ChatMessage} (short : ending.length ≤ 2)
    (ends : ending <:+ removable) :
    ending <:+ (trimLoop render preserved usable rounds removable).1 := by
  induction rounds generalizing removable with
  | zero => exact ends
  | succ rounds inductionHypothesis =>
    rw [trimLoop]
    split
    · rename_i goesOn
      apply inductionHypothesis
      have before := trimIndex_before goesOn.2
      -- the ending is behind the message that leaves
      have behind : ending <:+ removable.drop (trimIndex removable + 1) := by
        apply List.suffix_of_suffix_length_le ends (List.drop_suffix ..)
        rw [List.length_drop]
        omega
      rw [List.eraseIdx_eq_take_drop_succ]
      exact behind.trans (List.suffix_append ..)
    · exact ends

/-- What a trim takes out and keeps, where more than two messages may leave. -/
theorem trim_parts (usable : Int) (preserveCount : Nat) {history : List ChatMessage}
    (later : List ChatMessage) (long : preserveCount + 2 < history.length) :
    Parts render preserveCount 2 later history
      (history.take preserveCount ++ (trimParts render usable preserveCount history).1 ++ later)
      (trimParts render usable preserveCount history).2 := by
  obtain ⟨sublist, pieces⟩ := @trimLoop_parts render (history.take preserveCount) usable
    (history.drop preserveCount).length (history.drop preserveCount)
  have ending : history.drop (history.length - 2) <:+
      (trimParts render usable preserveCount history).1 := by
    apply trimLoop_ending
    · rw [List.length_drop]
      omega
    · apply List.suffix_of_suffix_length_le (List.drop_suffix ..) (List.drop_suffix ..)
      rw [List.length_drop, List.length_drop]
      omega
  refine ⟨_, _, rfl, ?_, ?_, List.Perm.refl _, List.prefix_append ..,
    ending.trans (List.suffix_append ..)⟩
  · have whole := sublist.append_left (history.take preserveCount)
    rwa [List.take_append_drop] at whole
  · rw [List.append_assoc]
    exact (pieces.append_left _).trans (by rw [List.take_append_drop])

/-- What a trim comes to that overflows and whose calls succeed: the list is replaced in front of
what is appended while the summary is written. -/
theorem trimHistory_replaces (usable preserveMessageCount : Int) {preserveCount : Nat}
    (preserveIs : (max preserveMessageCount 0).toNat = preserveCount) {calls : SummaryCalls}
    (arrivals : Arrivals) {history : List ChatMessage}
    (overflows : Overflows render usable preserveCount history) (succeeds : Succeeds calls) :
    trimHistory render usable preserveMessageCount calls arrivals history =
      ⟨history.take preserveCount ++ (trimParts render usable preserveCount history).1 ++
          (if ThreadSummary.normalizeConversationSummary calls.summary = "" then []
            else arrivals.updating),
        some (trimParts render usable preserveCount history).2,
        (trimParts render usable preserveCount history).2.length, .returned⟩ := by
  have above := overflows.1
  have long := overflows.2
  have something := (trimParts_takes_iff usable preserveCount history).mpr overflows
  have front : (history ++ arrivals.summarizing).take preserveCount =
      history.take preserveCount :=
    List.take_append_of_le_length (by omega)
  unfold trimHistory
  simp only [preserveIs, front]
  rw [if_neg (by omega), if_neg (by simpa using something), if_pos succeeds.1]
  split
  · rw [List.append_nil]
  · rename_i filled
    rw [succeeds.2.resolve_left filled]

/-- A trim that does not overflow, or one of whose calls fails, counts no removed message or does
not return. -/
theorem trimHistory_otherwise (usable preserveMessageCount : Int) {preserveCount : Nat}
    (preserveIs : (max preserveMessageCount 0).toNat = preserveCount) {calls : SummaryCalls}
    (arrivals : Arrivals) {history : List ChatMessage}
    (otherwise : ¬ (Overflows render usable preserveCount history ∧ Succeeds calls)) :
    Compacts render preserveCount 2 calls arrivals history
      (trimHistory render usable preserveMessageCount calls arrivals history) := by
  unfold trimHistory
  simp only [preserveIs]
  split
  · exact .idle
  split
  · exact .idle
  rename_i something
  have overflows := (trimParts_takes_iff usable preserveCount history).mp
    (by simpa using something)
  split
  · rename_i returned
    split
    · rename_i nothing
      exact absurd ⟨overflows, returned, Or.inl nothing⟩ otherwise
    · exact .unwritten (fun updated => otherwise ⟨overflows, returned, Or.inr updated⟩) returned
  · exact .broken fun _ => rfl

/-- A trim is as it should be exactly where nothing is appended while the summariser is awaited,
if it overflows and its calls succeed. -/
theorem trimHistory_compacts_iff (usable preserveMessageCount : Int) {preserveCount : Nat}
    (preserveIs : (max preserveMessageCount 0).toNat = preserveCount) {calls : SummaryCalls}
    {arrivals : Arrivals} {history : List ChatMessage}
    (distinct : ((history ++ arrivals.summarizing ++ arrivals.updating).map
      ChatMessage.serial).Nodup) :
    Compacts render preserveCount 2 calls arrivals history
        (trimHistory render usable preserveMessageCount calls arrivals history) ↔
      (Overflows render usable preserveCount history → Succeeds calls →
        arrivals.summarizing = []) := by
  by_cases takes : Overflows render usable preserveCount history ∧ Succeeds calls
  · obtain ⟨overflows, succeeds⟩ := takes
    have taken := List.length_pos_iff.mpr
      ((trimParts_takes_iff usable preserveCount history).mpr overflows)
    rw [trimHistory_replaces usable preserveMessageCount preserveIs arrivals overflows succeeds,
      compacts_iff_parts succeeds.1 taken]
    constructor
    · intro parts _ _
      by_contra came
      obtain ⟨message, came⟩ := List.exists_mem_of_ne_nil _ came
      have older : (history.take preserveCount ++
          (trimParts render usable preserveCount history).1).Sublist history := by
        have whole := (@trimLoop_parts render (history.take preserveCount) usable
          (history.drop preserveCount).length (history.drop preserveCount)).1.append_left
            (history.take preserveCount)
        rwa [List.take_append_drop] at whole
      have behind := arrived_lost distinct parts older (List.mem_append_left _ came)
      -- what stands behind was appended while the summary was written
      have apart := (List.nodup_append.mp (List.Nodup.of_map _ distinct)).2.2
      split at behind
      · cases behind
      · exact absurd rfl (apart message (List.mem_append_right _ came) message behind)
    · intro none
      have parts := @trim_parts render usable preserveCount history (arrived calls arrivals)
        overflows.2
      rw [arrived, none overflows succeeds, List.nil_append] at parts ⊢
      exact parts
  · have compacts := trimHistory_otherwise usable preserveMessageCount preserveIs arrivals takes
    exact ⟨fun _ overflows succeeds => absurd ⟨overflows, succeeds⟩ takes, fun _ => compacts⟩

/-! ## The recent messages of an idle session -/

/-- A message with text or tool calls is meaningful exactly where it is not marked as temporary. -/
theorem isMeaningful_iff {message : ChatMessage}
    (holds : holdsTextOrCalls render message = true) :
    isMeaningful render message.fields = true ↔
      metadataTrue message.fields "transient" = false := by
  rw [isMeaningful]
  cases metadataTrue message.fields "transient" with
  | true => simp
  | false =>
    refine ⟨fun _ => rfl, fun _ => ?_⟩
    rw [Bool.not_false, Bool.true_and]
    rcases Bool.or_eq_true_iff.mp holds with text | requests
    · rw [Bool.or_eq_true, Bool.or_eq_true]
      refine .inl (.inl (decide_eq_true ?_))
      replace text := of_decide_eq_true text
      generalize valueOf message.fields "content" = content at text ⊢
      cases content with
      | str _ => exact text
      | _ =>
        simp only [plainText] at text
        dsimp only
        split at text
        · rename_i truthy
          rw [if_pos truthy]
          exact text
        · exact absurd rfl text
    · rw [requests, Bool.or_true, Bool.true_or]

section
variable {preserveCount recentCount : Nat} {history : List ChatMessage}

/-- What an idle compaction keeps. -/
def recent (preserveCount recentCount : Nat) (history : List ChatMessage) : List ChatMessage :=
  history.take preserveCount ++
    (history.drop preserveCount).drop ((history.drop preserveCount).length - recentCount)

/-- The messages kept are in order, and with the older ones they are the history. -/
theorem recent_parts : (recent preserveCount recentCount history).Sublist history ∧
    (recent preserveCount recentCount history ++ older preserveCount recentCount history).Perm
      history := by
  rw [recent, older]
  generalize tailIs : history.drop preserveCount = tail
  have whole : history.take preserveCount ++ tail = history := by
    rw [← tailIs, List.take_append_drop]
  constructor
  · have cut := (List.drop_sublist (tail.length - recentCount) tail).append_left
      (history.take preserveCount)
    rwa [whole] at cut
  · rw [List.append_assoc]
    have swapped : (tail.drop (tail.length - recentCount) ++
        tail.take (tail.length - recentCount)).Perm tail :=
      List.perm_append_comm.trans (by rw [List.take_append_drop])
    have pieces := swapped.append_left (history.take preserveCount)
    rwa [whole] at pieces

/-- The recent messages are the last of those kept. -/
theorem recent_ending (long : recentCount < (history.drop preserveCount).length) :
    history.drop (history.length - recentCount) <:+
      recent preserveCount recentCount history := by
  rw [List.length_drop] at long
  have same : history.drop (history.length - recentCount) =
      (history.drop preserveCount).drop ((history.drop preserveCount).length - recentCount) := by
    rw [List.drop_drop, List.length_drop]
    congr 1
    omega
  rw [same]
  exact List.suffix_append ..

/-- An idle compaction summarises what leaves exactly where no older message with text or tool
calls is marked as temporary. -/
theorem recent_parts_iff (long : recentCount < (history.drop preserveCount).length) :
    Parts render preserveCount recentCount [] history (recent preserveCount recentCount history)
        ((older preserveCount recentCount history).filter fun message =>
          isMeaningful render message.fields) ↔
      ∀ message ∈ older preserveCount recentCount history,
        holdsTextOrCalls render message = true →
          metadataTrue message.fields "transient" = false := by
  have pieces := (@recent_parts preserveCount recentCount history).2
  constructor
  · rintro ⟨kept, left, whole, _, parts, passed, _⟩ message member holds
    rw [List.append_nil] at whole
    subst whole
    have same : left.Perm (older preserveCount recentCount history) :=
      (List.perm_append_left_iff _).mp (parts.trans pieces.symm)
    have there : message ∈ left.filter (holdsTextOrCalls render) :=
      List.mem_filter.mpr ⟨same.mem_iff.mpr member, holds⟩
    have summarised := (List.mem_filter.mp (passed.mem_iff.mpr there)).1
    exact (isMeaningful_iff holds).mp (List.mem_filter.mp summarised).2
  · intro lasting
    refine ⟨_, _, (List.append_nil _).symm, recent_parts.1, pieces, ?_, List.prefix_append ..,
      recent_ending long⟩
    rw [List.filter_filter]
    apply List.Perm.of_eq
    apply List.filter_congr
    intro message member
    by_cases holds : holdsTextOrCalls render message = true
    · rw [holds, (isMeaningful_iff holds).mpr (lasting message member holds), Bool.true_and]
    · rw [Bool.not_eq_true] at holds
      rw [holds, Bool.false_and]

end

/-- What an idle compaction comes to that has something to summarise and whose calls succeed. -/
theorem compactHistoryForIdleHeartbeat_replaces (preserveMessageCount recentMessageCount : Int)
    {preserveCount recentCount : Nat}
    (preserveIs : (max preserveMessageCount 0).toNat = preserveCount)
    (recentIs : (max recentMessageCount 2).toNat = recentCount) {calls : SummaryCalls}
    (arrivals : Arrivals) {history : List ChatMessage}
    (long : recentCount < (history.drop preserveCount).length)
    (taken : ((older preserveCount recentCount history).filter fun message =>
      isMeaningful render message.fields) ≠ []) (succeeds : Succeeds calls) :
    compactHistoryForIdleHeartbeat render preserveMessageCount recentMessageCount calls arrivals
        history =
      ⟨recent preserveCount recentCount history,
        some ((older preserveCount recentCount history).filter fun message =>
          isMeaningful render message.fields),
        ((older preserveCount recentCount history).filter fun message =>
          isMeaningful render message.fields).length, .returned⟩ := by
  rw [older] at taken ⊢
  unfold compactHistoryForIdleHeartbeat
  simp only [preserveIs, recentIs]
  rw [if_neg (by omega), if_neg (by simpa using taken), if_pos succeeds.1]
  split
  · rfl
  · rename_i filled
    rw [if_pos (succeeds.2.resolve_left filled)]
    rfl

/-- Any other idle compaction counts no removed message. -/
theorem compactHistoryForIdleHeartbeat_otherwise (preserveMessageCount recentMessageCount : Int)
    {preserveCount recentCount : Nat}
    (preserveIs : (max preserveMessageCount 0).toNat = preserveCount)
    (recentIs : (max recentMessageCount 2).toNat = recentCount) {calls : SummaryCalls}
    (arrivals : Arrivals) {history : List ChatMessage}
    (otherwise : ¬ (recentCount < (history.drop preserveCount).length ∧
      ((older preserveCount recentCount history).filter fun message =>
        isMeaningful render message.fields) ≠ [] ∧ Succeeds calls)) :
    Compacts render preserveCount recentCount calls arrivals history
      (compactHistoryForIdleHeartbeat render preserveMessageCount recentMessageCount calls
        arrivals history) := by
  unfold compactHistoryForIdleHeartbeat
  simp only [preserveIs, recentIs]
  split
  · exact .idle
  rename_i long
  split
  · exact .idle
  rename_i taken
  have takes : ((older preserveCount recentCount history).filter fun message =>
      isMeaningful render message.fields) ≠ [] := by
    rw [older]
    simpa using taken
  split
  · rename_i returned
    split
    · rename_i nothing
      exact absurd ⟨Nat.lt_of_not_le long, takes, returned, Or.inl nothing⟩ otherwise
    split
    · rename_i updated
      exact absurd ⟨Nat.lt_of_not_le long, takes, returned, Or.inr updated⟩ otherwise
    · exact .broken fun failed => absurd returned failed
  · exact .broken fun _ => rfl

/-- An idle compaction is as it should be exactly where nothing is appended before it ends and no
older message with text or tool calls is marked as temporary, if there is something to summarise
and its calls succeed. -/
theorem compactHistoryForIdleHeartbeat_compacts_iff
    (preserveMessageCount recentMessageCount : Int) {preserveCount recentCount : Nat}
    (preserveIs : (max preserveMessageCount 0).toNat = preserveCount)
    (recentIs : (max recentMessageCount 2).toNat = recentCount) {calls : SummaryCalls}
    {arrivals : Arrivals} {history : List ChatMessage}
    (distinct : ((history ++ arrivals.summarizing ++ arrivals.updating).map
      ChatMessage.serial).Nodup) :
    Compacts render preserveCount recentCount calls arrivals history
        (compactHistoryForIdleHeartbeat render preserveMessageCount recentMessageCount calls
          arrivals history) ↔
      ((∃ message ∈ older preserveCount recentCount history,
          isMeaningful render message.fields = true) → Succeeds calls →
        arrived calls arrivals = [] ∧
          ∀ message ∈ older preserveCount recentCount history,
            holdsTextOrCalls render message = true →
              metadataTrue message.fields "transient" = false) := by
  by_cases takes : recentCount < (history.drop preserveCount).length ∧
      ((older preserveCount recentCount history).filter fun message =>
        isMeaningful render message.fields) ≠ [] ∧ Succeeds calls
  · obtain ⟨long, taken, succeeds⟩ := takes
    obtain ⟨meaningful, member⟩ := List.exists_mem_of_ne_nil _ taken
    rw [compactHistoryForIdleHeartbeat_replaces preserveMessageCount recentMessageCount preserveIs
      recentIs arrivals long taken succeeds,
      compacts_iff_parts succeeds.1 (List.length_pos_iff.mpr taken)]
    constructor
    · intro parts _ _
      have nothing : arrived calls arrivals = [] := by
        by_contra came
        obtain ⟨message, came⟩ := List.exists_mem_of_ne_nil _ came
        rw [← List.append_nil (recent preserveCount recentCount history)] at parts
        cases arrived_lost distinct parts recent_parts.1 came
      rw [nothing, recent_parts_iff long] at parts
      exact ⟨nothing, parts⟩
    · intro condition
      obtain ⟨nothing, lasting⟩ := condition
        ⟨meaningful, (List.mem_filter.mp member).1, (List.mem_filter.mp member).2⟩ succeeds
      rw [nothing]
      exact (recent_parts_iff long).mpr lasting
  · have compacts := compactHistoryForIdleHeartbeat_otherwise preserveMessageCount
      recentMessageCount preserveIs recentIs arrivals takes
    refine ⟨fun _ meaningful succeeds => absurd ⟨?_, ?_, succeeds⟩ takes, fun _ => compacts⟩
    · obtain ⟨message, member, _⟩ := meaningful
      have taken := List.length_pos_of_mem member
      rw [older, List.length_take] at taken
      omega
    · obtain ⟨message, member, is⟩ := meaningful
      exact List.ne_nil_of_mem (List.mem_filter.mpr ⟨member, is⟩)

end

/-- Whatever the awaited calls do and others append meanwhile, a trim removes exactly what it
summarised where nothing is appended while the summariser is awaited, and an idle compaction where
nothing is appended before it ends and no older message with text or tool calls is marked as
temporary. Where something is to be taken out and the calls succeed, these conditions are also
necessary. -/
theorem compactions_faithful_iff (render : Rendering)
    (usable preserveMessageCount recentMessageCount : Int) (calls : SummaryCalls)
    (arrivals : Arrivals) (history : List ChatMessage)
    (distinct : ((history ++ arrivals.summarizing ++ arrivals.updating).map
      ChatMessage.serial).Nodup) :
    (Compacts render (max preserveMessageCount 0).toNat 2 calls arrivals history
        (trimHistory render usable preserveMessageCount calls arrivals history) ↔
      (Overflows render usable (max preserveMessageCount 0).toNat history → Succeeds calls →
        arrivals.summarizing = [])) ∧
      (Compacts render (max preserveMessageCount 0).toNat (max recentMessageCount 2).toNat calls
          arrivals history
          (compactHistoryForIdleHeartbeat render preserveMessageCount recentMessageCount calls
            arrivals history) ↔
        ((∃ message ∈ older (max preserveMessageCount 0).toNat
            (max recentMessageCount 2).toNat history,
            isMeaningful render message.fields = true) → Succeeds calls →
          arrived calls arrivals = [] ∧
            ∀ message ∈ older (max preserveMessageCount 0).toNat
                (max recentMessageCount 2).toNat history,
              holdsTextOrCalls render message = true →
                metadataTrue message.fields "transient" = false)) :=
  ⟨trimHistory_compacts_iff usable preserveMessageCount rfl distinct,
    compactHistoryForIdleHeartbeat_compacts_iff preserveMessageCount recentMessageCount rfl rfl
      distinct⟩

/-- A message of a user. -/
def said (serial : Nat) (text : String) : ChatMessage :=
  ⟨serial, Fields.of [("role", .str "user"), ("content", .str text)]⟩

/-- Every value is written as an empty text. -/
def blank : Rendering := ⟨fun _ => "", fun _ => ""⟩

/-- Two of four messages are summarised while a fifth one arrives. -/
theorem compactions_faithful_iff_arrival :
    Compacts blank 0 2 ⟨.returned, "1. user: a", .returned⟩ ⟨[said 4 "e"], []⟩
        [said 0 "a", said 1 "b", said 2 "c", said 3 "d"]
        (compactHistoryForIdleHeartbeat blank 0 2 ⟨.returned, "1. user: a", .returned⟩
          ⟨[said 4 "e"], []⟩ [said 0 "a", said 1 "b", said 2 "c", said 3 "d"]) ↔
      ((∃ message ∈ older 0 2 [said 0 "a", said 1 "b", said 2 "c", said 3 "d"],
          isMeaningful blank message.fields = true) →
        Succeeds ⟨.returned, "1. user: a", .returned⟩ →
          arrived ⟨.returned, "1. user: a", .returned⟩ ⟨[said 4 "e"], []⟩ = [] ∧
            ∀ message ∈ older 0 2 [said 0 "a", said 1 "b", said 2 "c", said 3 "d"],
              holdsTextOrCalls blank message = true →
                metadataTrue message.fields "transient" = false) :=
  (compactions_faithful_iff blank 0 0 2 ⟨.returned, "1. user: a", .returned⟩
    ⟨[said 4 "e"], []⟩ [said 0 "a", said 1 "b", said 2 "c", said 3 "d"] (by decide)).2

/-- A message that arrives while the summariser is awaited is lost: of four messages the newer two
stay, and the fifth is in the list no more. -/
theorem arrived_message_lost :
    compactHistoryForIdleHeartbeat blank 0 2 ⟨.returned, "1. user: a", .returned⟩
        ⟨[said 4 "e"], []⟩ [said 0 "a", said 1 "b", said 2 "c", said 3 "d"] =
      ⟨[said 2 "c", said 3 "d"], some [said 0 "a", said 1 "b"], 2, .returned⟩ ∧
    ¬ Compacts blank 0 2 ⟨.returned, "1. user: a", .returned⟩ ⟨[said 4 "e"], []⟩
        [said 0 "a", said 1 "b", said 2 "c", said 3 "d"]
        ⟨[said 2 "c", said 3 "d"], some [said 0 "a", said 1 "b"], 2, .returned⟩ := by
  refine ⟨rfl, fun compacts => ?_⟩
  obtain ⟨passed, _, kept, left, whole, _⟩ := compacts.removed rfl (by decide)
  have there : said 4 "e" ∈ [said 2 "c", said 3 "d"] := by
    change [said 2 "c", said 3 "d"] = _ at whole
    rw [whole]
    exact List.mem_append_right _ List.mem_cons_self
  have serials : 4 ∈ [2, 3] := List.mem_map_of_mem (f := ChatMessage.serial) there
  exact absurd serials (by decide)

end MeetYou.HistoryCompaction
