import MeetYou.ClawBotInbound

/-!
# Answers to questions

A turn that asks a question in a conversation goes on waiting for its reply. Its worker has an
event in work, and the poll loop waits for the end of that work before it asks for messages
again. So the answer, which only a later poll can bring, cannot be submitted as long as the turn
waits.
-/

namespace MeetYou.ClawBotInbound

/-- A confirmation or a human-input request is pending in the conversation. -/
def State.Asks (state : State) (ref : String) : Prop :=
  state.pendingConfirms.get ref ≠ none ∨ state.pendingInputs.get ref ≠ none

/-- A worker waits for the reply future of a turn in the conversation, which is not done. -/
def State.AwaitsReply (state : State) (index : Nat) (ref : String) : Prop :=
  ∃ event, state.workers[index]? = some (some ⟨event, .waiting, none⟩) ∧ event.ref = ref

/-- A question is pending in a conversation, and a turn of the conversation waits. -/
def State.Questioned (state : State) (index : Nat) (ref : String) : Prop :=
  state.Asks ref ∧ state.AwaitsReply index ref

/-- The worker submits its event as an answer. -/
def Stage.Submits : Stage → Prop
  | .submittingConfirm _ _ | .submittingInput _ => True
  | _ => False

/-- A message of a poll that was not yet answered is being submitted as an answer in the
conversation. -/
def State.SubmitsLater (polls : Nat) (ref : String) (state : State) : Prop :=
  ∃ (index : Nat) (job : Job), state.workers[index]? = some (some job) ∧ job.stage.Submits ∧
    job.event.ref = ref ∧ polls ≤ job.event.poll

/-- Some course of events submits a next message of the user as an answer, while the turn still
waits for its reply. -/
def CanAnswer (adapter : Adapter) (state : State) (index : Nat) (ref : String) : Prop :=
  ∃ actions final, Runs.run (step adapter) state actions = some final ∧
    Runs.Throughout (step adapter) (fun state => state.AwaitsReply index ref) state actions ∧
    final.SubmitsLater state.polls ref

section
variable {adapter : Adapter} {state next final : State} {index : Nat} {ref : String}

theorem State.AwaitsReply.found (awaits : state.AwaitsReply index ref) :
    ∃ job, state.workers[index]? = some (some job) := by
  obtain ⟨event, found, _⟩ := awaits
  exact ⟨_, found⟩

theorem worked_polls {job : Job} (worked : Worked state index job next) :
    next.polls = state.polls := by
  obtain ⟨middle, same, rfl | ⟨after, _, rfl⟩⟩ := worked
  · exact same.polls
  · exact same.polls

/-- No poll is answered while a worker has an event. -/
theorem poll_of_busy {job : Job} {result : PollResult} (kept : Kept state)
    (found : state.workers[index]? = some (some job)) : poll adapter state result = none := by
  unfold poll
  rcases kept.poller_of_busy found with ⟨_, _, _, putting⟩ | ⟨_, _, joining⟩
  · rw [putting]
  · rw [joining]

theorem receive_polls (ref : String) (frame : CoreFrame) :
    (receive state ref frame).polls = state.polls := by
  cases frame with
  | completes ok =>
    unfold receive
    dsimp only
    split
    · rfl
    · split
      · rfl
      · rfl
  | _ =>
    unfold receive
    dsimp only
    split
    · rfl
    · rfl

/-- What happens while a worker has an event brings no further poll. -/
theorem step_polls {action : Action} {job : Job} (kept : Kept state)
    (found : state.workers[index]? = some (some job))
    (stepped : step adapter state action = some next) : next.polls = state.polls := by
  cases action with
  | polls result =>
    have refused := @poll_of_busy adapter _ _ _ result kept found
    exact absurd stepped (by simp [step, refused])
  | puts =>
    simp only [step, put] at stepped
    split at stepped
    · obtain rfl := Option.some.inj stepped
      rfl
    · split at stepped
      · cases stepped
      · obtain rfl := Option.some.inj stepped
        rfl
    · cases stepped
  | joins =>
    simp only [step, join] at stepped
    split at stepped
    · split at stepped
      · cases stepped
      · obtain rfl := Option.some.inj stepped
        rfl
    · cases stepped
  | saves =>
    simp only [step, save] at stepped
    split at stepped
    · split at stepped
      · obtain rfl := Option.some.inj stepped
        rfl
      · obtain rfl := Option.some.inj stepped
        rfl
    · cases stepped
  | takes other =>
    simp only [step, take] at stepped
    split at stepped
    · obtain rfl := Option.some.inj stepped
      rfl
    · cases stepped
  | moves other outcome =>
    simp only [step] at stepped
    split at stepped
    · exact worked_polls (move_worked stepped)
    · cases stepped
  | receives ref frame =>
    obtain rfl := Option.some.inj stepped
    exact receive_polls ref frame
  | writes oldest =>
    obtain rfl := Option.some.inj stepped
    rfl
  | restarts =>
    obtain rfl := Option.some.inj stepped
    rfl

/-- No poll is answered as long as a turn waits for its reply. -/
theorem run_polls {actions : List Action} (kept : Kept state)
    (waits : Runs.Throughout (step adapter) (fun state => state.AwaitsReply index ref) state actions)
    (completed : Runs.run (step adapter) state actions = some final) :
    Kept final ∧ final.polls = state.polls := by
  have preserved := @Runs.run_preserves _ _ (step adapter)
    (fun before action => ∀ after, step adapter before action = some after →
      after.AwaitsReply index ref)
    (fun before => Kept before ∧ before.polls = state.polls ∧ before.AwaitsReply index ref)
    (fun before action after ⟨held, polls, awaits⟩ waiting stepped => by
      obtain ⟨job, found⟩ := awaits.found
      exact ⟨step_kept held stepped, (step_polls held found stepped).trans polls,
        waiting after stepped⟩)
    state final actions ⟨kept, rfl, waits.1⟩ waits.2 completed
  exact ⟨preserved.1, preserved.2.1⟩

/-- No next message of the user is submitted as an answer to the question of a turn that still
waits for its reply. -/
theorem questioned_not_answered
    (reachable : Runs.Reachable (step adapter) (start adapter) state) :
    ¬CanAnswer adapter state index ref := by
  rintro ⟨actions, final, completed, waits, other, job, found, _, _, later⟩
  have kept := reachable_kept reachable
  obtain ⟨kept', polls⟩ := run_polls kept waits completed
  have earlier := kept'.working other job found
  omega

end

def exampleMessage : Message :=
  ⟨1, "m1", "peer", "bot", 5, "", 1, 2, "token", [⟨1, "delete the folder", true⟩]⟩

/-- The message is handed to Core, and its turn asks for a confirmation. -/
def asking : List Action :=
  [.polls (.fetched [exampleMessage] "c1"), .puts, .takes 0, .moves 0 .returns, .moves 0 .returns,
    .moves 0 .returns, .moves 0 .returns, .moves 0 (.sent true (some false)),
    .receives "bot::peer" (.confirmRequested "r1")]

def asked : State := (Runs.run (step oneWorker) (start oneWorker) asking).getD
  (start oneWorker)

theorem asked_reachable :
    Runs.Reachable (step oneWorker) (start oneWorker) asked := ⟨asking, rfl⟩

theorem asked_questioned : asked.Questioned 0 "bot::peer" :=
  ⟨Or.inl (by decide +kernel), _, rfl, by decide +kernel⟩

theorem asked_not_answered : ¬CanAnswer oneWorker asked 0 "bot::peer" :=
  questioned_not_answered asked_reachable

/-- Not every question of a turn that waits can be answered. -/
theorem some_question_not_answered :
    ¬∀ (adapter : Adapter) (state : State) (index : Nat) (ref : String),
      Runs.Reachable (step adapter) (start adapter) state → state.Questioned index ref →
        CanAnswer adapter state index ref := by
  intro always
  obtain ⟨actions, final, completed, waits, other, job, found, _, _, later⟩ :=
    always oneWorker asked 0 "bot::peer" asked_reachable asked_questioned
  obtain ⟨kept, polls⟩ := run_polls (reachable_kept asked_reachable) waits completed
  have earlier := kept.working other job found
  omega

end MeetYou.ClawBotInbound
