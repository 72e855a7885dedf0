import Mathlib.Data.List.Count
import Mathlib.Data.List.Induction
import Mathlib.Data.List.Nodup

/-!
# Calls and their answers in a sequence

A sequence of calls and answers, each with an identifier, is paired when each answer has exactly one
call with its identifier in front of it, and each call exactly one answer behind it. The same is
said without counting: no identifier is called twice or answered twice, every call is answered, and
every answer stands behind its call.
-/

namespace CallEvents

universe u

/-- A call or an answer. -/
inductive Event (κ : Type u) where
  | call (id : κ)
  | answer (id : κ)

variable {κ : Type u}

/-- The identifier that is called. -/
def Event.called : Event κ → Option κ
  | .call id => some id
  | .answer _ => none

/-- The identifier that is answered. -/
def Event.answered : Event κ → Option κ
  | .call _ => none
  | .answer id => some id

/-- The ids that are called, in order. -/
def calls (events : List (Event κ)) : List κ := events.filterMap Event.called

/-- The ids that are answered, in order. -/
def answers (events : List (Event κ)) : List κ := events.filterMap Event.answered

/-- One call in front of each answer, and one answer behind each call. -/
structure Paired [DecidableEq κ] (events : List (Event κ)) : Prop where
  call : ∀ front id back, events = front ++ .answer id :: back → (calls front).count id = 1
  answer : ∀ front id back, events = front ++ .call id :: back → (answers back).count id = 1

/-- Nothing is called twice or answered twice, every call is answered, and every answer stands
behind its call. -/
structure Settled (events : List (Event κ)) : Prop where
  callsOnce : (calls events).Nodup
  answersOnce : (answers events).Nodup
  answered : ∀ id ∈ calls events, id ∈ answers events
  behind : ∀ front id back, events = front ++ .answer id :: back → id ∈ calls front

theorem calls_nil : calls ([] : List (Event κ)) = [] := rfl

@[simp] theorem calls_append (first second : List (Event κ)) :
    calls (first ++ second) = calls first ++ calls second := List.filterMap_append

@[simp] theorem answers_append (first second : List (Event κ)) :
    answers (first ++ second) = answers first ++ answers second := List.filterMap_append

@[simp] theorem calls_call (id : κ) (rest : List (Event κ)) :
    calls (.call id :: rest) = id :: calls rest := rfl

@[simp] theorem calls_answer (id : κ) (rest : List (Event κ)) :
    calls (.answer id :: rest) = calls rest := rfl

@[simp] theorem answers_answer (id : κ) (rest : List (Event κ)) :
    answers (.answer id :: rest) = id :: answers rest := rfl

@[simp] theorem answers_call (id : κ) (rest : List (Event κ)) :
    answers (.call id :: rest) = answers rest := rfl

/-- A call stands somewhere. -/
theorem exists_call {events : List (Event κ)} {id : κ} (member : id ∈ calls events) :
    ∃ front back, events = front ++ .call id :: back := by
  obtain ⟨event, inside, called⟩ := List.mem_filterMap.mp member
  cases event with
  | call other =>
    obtain rfl := Option.some.inj called
    exact List.append_of_mem inside
  | answer other => cases called

/-- An answer stands somewhere. -/
theorem exists_answer {events : List (Event κ)} {id : κ} (member : id ∈ answers events) :
    ∃ front back, events = front ++ .answer id :: back := by
  obtain ⟨event, inside, answered⟩ := List.mem_filterMap.mp member
  cases event with
  | call other => cases answered
  | answer other =>
    obtain rfl := Option.some.inj answered
    exact List.append_of_mem inside

variable {events : List (Event κ)}

/-- No call stands behind a call with its identifier. -/
theorem calls_nodup
    (fresh : ∀ front id back, events = front ++ .call id :: back → id ∉ calls front) :
    (calls events).Nodup := by
  induction events using List.reverseRecOn with
  | nil => exact List.nodup_nil
  | append_singleton front event inductionHypothesis =>
    have earlier := inductionHypothesis fun early id late same =>
      fresh early id (late ++ [event]) (by rw [same, List.append_assoc, List.cons_append])
    rw [calls_append]
    cases event with
    | call id =>
      rw [calls_call, List.nodup_append]
      refine ⟨earlier, List.nodup_singleton id, ?_⟩
      rintro other called _ last rfl
      rw [List.mem_singleton.mp last] at called
      exact fresh front id [] rfl called
    | answer id => rwa [calls_answer, calls_nil, List.append_nil]

/-- No answer stands in front of an answer with its identifier. -/
theorem answers_nodup
    (fresh : ∀ front id back, events = front ++ .answer id :: back → id ∉ answers back) :
    (answers events).Nodup := by
  induction events with
  | nil => exact List.nodup_nil
  | cons event rest inductionHypothesis =>
    have later := inductionHypothesis fun early id late same =>
      fresh (event :: early) id late (by rw [same, List.cons_append])
    cases event with
    | call id => rwa [answers_call]
    | answer id =>
      rw [answers_answer, List.nodup_cons]
      exact ⟨fresh [] id rest rfl, later⟩

/-! ## Calls that come in groups with answers -/

section
variable {τ : Type u} (called answered : τ → List κ)

/-- The calls of a group, and then its answers. -/
def group (turn : τ) : List (Event κ) := (called turn).map .call ++ (answered turn).map .answer

/-- Group by group: no identifier is called twice or answered twice, each one called is answered
in some group, and each one answered is called in its group or an earlier one. -/
structure GroupsSettled (turns : List τ) : Prop where
  callsOnce : (turns.flatMap called).Nodup
  answersOnce : (turns.flatMap answered).Nodup
  each : ∀ turn ∈ turns, ∀ id ∈ called turn, ∃ other ∈ turns, id ∈ answered other
  behind : ∀ front turn back, turns = front ++ turn :: back → ∀ id ∈ answered turn,
    ∃ earlier ∈ front ++ [turn], id ∈ called earlier

variable {called answered}

theorem calls_group (turn : τ) : calls (group called answered turn) = called turn := by
  simp [group, calls, Event.called, Function.comp_def]

theorem answers_group (turn : τ) : answers (group called answered turn) = answered turn := by
  simp [group, answers, Event.answered, Function.comp_def]

theorem calls_groups (turns : List τ) :
    calls (turns.flatMap (group called answered)) = turns.flatMap called := by
  induction turns with
  | nil => rfl
  | cons turn rest inductionHypothesis =>
    rw [List.flatMap_cons, calls_append, calls_group, inductionHypothesis, List.flatMap_cons]

theorem answers_groups (turns : List τ) :
    answers (turns.flatMap (group called answered)) = turns.flatMap answered := by
  induction turns with
  | nil => rfl
  | cons turn rest inductionHypothesis =>
    rw [List.flatMap_cons, answers_append, answers_group, inductionHypothesis, List.flatMap_cons]

/-- An answer in the groups stands in one of them. -/
theorem exists_group {turns : List τ} {front back : List (Event κ)} {id : κ}
    (split_ : turns.flatMap (group called answered) = front ++ .answer id :: back) :
    ∃ before turn behind, turns = before ++ turn :: behind ∧ id ∈ answered turn ∧
      ∀ earlier ∈ before ++ [turn], ∀ other ∈ called earlier, other ∈ calls front := by
  induction turns generalizing front with
  | nil => simp at split_
  | cons turn rest inductionHypothesis =>
    rw [List.flatMap_cons] at split_
    rcases List.append_eq_append_iff.mp split_ with ⟨more, rfl, later⟩ | ⟨more, inside, later⟩
    · obtain ⟨before, found, behind, rfl, is, all⟩ := inductionHypothesis later
      refine ⟨turn :: before, found, behind, rfl, is, ?_⟩
      intro earlier member other mine
      rw [calls_append, calls_group, List.mem_append]
      rcases List.mem_cons.mp member with rfl | among
      · exact .inl mine
      · exact .inr (all earlier among other mine)
    · cases more with
      | nil =>
        rw [List.nil_append] at later
        have atStart : rest.flatMap (group called answered) = [] ++ .answer id :: back :=
          later.symm
        obtain ⟨before, found, behind, rfl, is, all⟩ := inductionHypothesis atStart
        refine ⟨turn :: before, found, behind, rfl, is, ?_⟩
        intro earlier member other mine
        rcases List.mem_cons.mp member with rfl | among
        · rw [List.append_nil] at inside
          rw [← inside, calls_group]
          exact mine
        · exact absurd (all earlier among other mine) List.not_mem_nil
      | cons event tail =>
        obtain ⟨rfl, _⟩ := List.cons.inj later
        refine ⟨[], turn, rest, rfl, ?_, ?_⟩
        · rw [← @answers_group κ τ called answered turn, inside, answers_append, answers_answer]
          exact List.mem_append_right _ List.mem_cons_self
        · intro earlier member other mine
          obtain rfl := List.mem_singleton.mp member
          -- the calls of a group stand in front of its answers
          rcases List.append_eq_append_iff.mp inside with ⟨between, rfl, _⟩ | ⟨between, early, late⟩
          · rw [calls_append, List.mem_append]
            refine .inl ?_
            simpa [calls, Event.called, Function.comp_def] using mine
          · cases between with
            | nil =>
              rw [List.append_nil] at early
              rw [← early]
              simpa [calls, Event.called, Function.comp_def] using mine
            | cons first others =>
              obtain ⟨rfl, _⟩ := List.cons.inj late
              have call : Event.answer id ∈ (called earlier).map Event.call := by
                rw [early]
                simp
              obtain ⟨_, _, same⟩ := List.mem_map.mp call
              cases same

/-- Groups of calls with answers are settled just if they are so group by group. -/
theorem settled_groups_iff {turns : List τ} :
    Settled (turns.flatMap (group called answered)) ↔ GroupsSettled called answered turns := by
  constructor
  · intro settled
    obtain ⟨callsOnce, answersOnce, answers, behind⟩ := settled
    rw [calls_groups] at callsOnce answers
    rw [answers_groups] at answersOnce answers
    refine ⟨callsOnce, answersOnce, ?_, ?_⟩
    · intro turn member id mine
      exact List.mem_flatMap.mp (answers id (List.mem_flatMap.mpr ⟨turn, member, mine⟩))
    · rintro front turn back rfl id mine
      obtain ⟨early, late, same⟩ := List.append_of_mem mine
      have called := behind (front.flatMap (group called answered) ++ (called turn).map .call ++
        early.map .answer) id (late.map .answer ++ back.flatMap (group called answered)) (by
          simp [group, same])
      have none_ : calls (early.map Event.answer) = [] := by
        simp [calls, Event.called, Function.comp_def]
      rw [calls_append, calls_append, calls_groups, none_, List.append_nil, List.mem_append] at called
      rcases called with inFront | inTurn
      · obtain ⟨earlier, member, is⟩ := List.mem_flatMap.mp inFront
        exact ⟨earlier, List.mem_append_left _ member, is⟩
      · refine ⟨turn, List.mem_append_right _ (List.mem_singleton_self _), ?_⟩
        simpa [calls, Event.called, Function.comp_def] using inTurn
  · intro settled
    refine ⟨?_, ?_, ?_, ?_⟩
    · rw [calls_groups]
      exact settled.callsOnce
    · rw [answers_groups]
      exact settled.answersOnce
    · intro id member
      rw [calls_groups] at member
      rw [answers_groups]
      obtain ⟨turn, inside, mine⟩ := List.mem_flatMap.mp member
      exact List.mem_flatMap.mpr (settled.each turn inside id mine)
    · intro front id back split_
      obtain ⟨before, turn, behind, rfl, is, all⟩ := exists_group split_
      obtain ⟨earlier, member, mine⟩ := settled.behind before turn behind rfl id is
      exact all earlier member id mine

end

variable [DecidableEq κ]

/-- The answer behind the second of two calls would have both in front of it. -/
theorem Paired.callsOnce (paired : Paired events) : (calls events).Nodup := by
  refine calls_nodup ?_
  rintro front id back rfl twice
  have answered : id ∈ answers back := List.count_pos_iff.mp (by
    rw [paired.answer front id back rfl]
    exact Nat.one_pos)
  obtain ⟨early, late, rfl⟩ := exists_answer answered
  have once := paired.call (front ++ .call id :: early) id late (by simp)
  have first := List.count_pos_iff.mpr twice
  rw [calls_append, calls_call, List.count_append, List.count_cons_self] at once
  omega

/-- The call in front of the first of two answers would have both behind it. -/
theorem Paired.answersOnce (paired : Paired events) : (answers events).Nodup := by
  refine answers_nodup ?_
  rintro front id back rfl twice
  have called : id ∈ calls front := List.count_pos_iff.mp (by
    rw [paired.call front id back rfl]
    exact Nat.one_pos)
  obtain ⟨early, late, rfl⟩ := exists_call called
  have once := paired.answer early id (late ++ .answer id :: back) (by simp)
  have second := List.count_pos_iff.mpr twice
  rw [answers_append, answers_answer, List.count_append, List.count_cons_self] at once
  omega

theorem Paired.settled (paired : Paired events) : Settled events where
  callsOnce := paired.callsOnce
  answersOnce := paired.answersOnce
  answered := by
    intro id called
    obtain ⟨front, back, rfl⟩ := exists_call called
    have behind : id ∈ answers back := List.count_pos_iff.mp (by
      rw [paired.answer front id back rfl]
      exact Nat.one_pos)
    rw [answers_append, answers_call]
    exact List.mem_append_right _ behind
  behind := by
    intro front id back split
    exact List.count_pos_iff.mp (by rw [paired.call front id back split]; exact Nat.one_pos)

theorem Settled.paired (settled : Settled events) : Paired events where
  call := by
    intro front id back split
    have once := settled.callsOnce
    rw [split, calls_append, List.nodup_append] at once
    exact List.count_eq_one_of_mem once.1 (settled.behind front id back split)
  answer := by
    intro front id back split
    have once := settled.answersOnce
    have answered := settled.answered id (by rw [split]; simp)
    rw [split, answers_append, answers_call] at answered once
    rcases List.mem_append.mp answered with before | behind
    · -- an answer in front of the call would be behind another call
      obtain ⟨early, late, rfl⟩ := exists_answer before
      have called := settled.behind early id (late ++ .call id :: back) (by rw [split]; simp)
      have callsOnce := settled.callsOnce
      rw [split, calls_append, calls_call, List.nodup_append] at callsOnce
      exact absurd rfl (callsOnce.2.2 id (by simp [called]) id List.mem_cons_self)
    · exact List.count_eq_one_of_mem (List.nodup_append.mp once).2.1 behind

/-- Pairing without counting. -/
theorem paired_iff : Paired events ↔ Settled events := ⟨Paired.settled, Settled.paired⟩

end CallEvents
