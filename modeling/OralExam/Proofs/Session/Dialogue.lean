import OralExam.Proofs.Session.Course

/-! The log of a session: questions and answers in turn.

A dialogue grows by a question when none is open, and by an answer to the open one. Its turns are
numbered from one, and no question is asked in it twice.
-/

set_option autoImplicit false

namespace OralExam

/-- Turns and answers that belong together, and the question that is open. -/
inductive Dialogue (r : Rubric) : List Turn → List Answer → Option String → Prop where
  | empty : Dialogue r [] [] none
  | asked {turns : List Turn} {answers : List Answer} {turn : Turn} {id : String}
      (before : Dialogue r turns answers none) (number : turn.number = turns.length + 1)
      (speaker : turn.speaker = .examiner) (question : turn.questionId = some id)
      (selectable : ∃ q ∈ r.selectableQuestions, q.id = id)
      (fresh : id ∉ answers.map Answer.questionId) :
      Dialogue r (turns ++ [turn]) answers (some id)
  | answered {turns : List Turn} {answers : List Answer} {turn : Turn} {a : Answer} {id : String}
      (before : Dialogue r turns answers (some id)) (number : turn.number = turns.length + 1)
      (speaker : turn.speaker = .student) (question : turn.questionId = some id)
      (same : a.questionId = id) (place : a.turnNumber = turns.length + 1) :
      Dialogue r (turns ++ [turn]) (answers ++ [a]) none

section

variable {α : Type} {xs ys : List α} {x y : α} {i : Nat}

theorem selected_or_last (selected : (xs ++ [x])[i]? = some y) :
    xs[i]? = some y ∨ i = xs.length ∧ y = x := by
  rw [List.getElem?_append] at selected
  split at selected
  · exact .inl selected
  · rename_i beyond
    rw [List.getElem?_singleton] at selected
    split at selected
    · rename_i first
      exact .inr ⟨by omega, (Option.some.inj selected).symm⟩
    · cases selected

theorem selected_append (selected : xs[i]? = some y) (ys : List α) :
    (xs ++ ys)[i]? = some y := by
  have inside : i < xs.length := (List.getElem?_eq_some_iff.mp selected).1
  rw [List.getElem?_append_left inside, selected]

end

namespace Dialogue

variable {r : Rubric} {turns : List Turn} {answers : List Answer} {waiting : Option String}

theorem length_eq (dialogue : Dialogue r turns answers waiting) :
    turns.length = 2 * answers.length + if waiting.isSome then 1 else 0 := by
  induction dialogue with
  | empty => rfl
  | asked before number speaker question selectable fresh ih => simp [ih]
  | answered before number speaker question same place ih =>
    simp only [List.length_append, List.length_singleton, ih, Option.isSome_some, if_true]
    simp only [Option.isSome_none, Bool.false_eq_true, if_false]
    omega

/-- Turns are numbered from one, and examiner and student take them in turn. -/
theorem turn_eq (dialogue : Dialogue r turns answers waiting) {i : Nat} {turn : Turn}
    (selected : turns[i]? = some turn) :
    turn.number = i + 1 ∧ turn.speaker = if i % 2 = 0 then .examiner else .student := by
  induction dialogue with
  | empty => cases selected
  | asked before number speaker question selectable fresh ih =>
    rcases selected_or_last selected with old | ⟨rfl, rfl⟩
    · exact ih old
    · have even := before.length_eq
      simp only [Option.isSome_none, Bool.false_eq_true, if_false] at even
      exact ⟨number, by rw [speaker, if_pos (by omega)]⟩
  | answered before number speaker question same place ih =>
    rcases selected_or_last selected with old | ⟨rfl, rfl⟩
    · exact ih old
    · have odd := before.length_eq
      simp only [Option.isSome_some, if_true] at odd
      exact ⟨number, by rw [speaker, if_neg (by omega)]⟩

/-- The open question stands in the last turn. -/
theorem open_turn {id : String} (dialogue : Dialogue r turns answers (some id)) :
    ∃ turn, turns.getLast? = some turn ∧ turns[2 * answers.length]? = some turn ∧
      turn.speaker = .examiner ∧ turn.questionId = some id := by
  cases dialogue with
  | asked before number speaker question selectable fresh =>
    have even := before.length_eq
    simp only [Option.isSome_none, Bool.false_eq_true, if_false, Nat.add_zero] at even
    refine ⟨_, List.getLast?_concat, ?_, speaker, question⟩
    rw [← even, List.getElem?_concat_length]

/-- An answer belongs to the question before it. -/
theorem exchange (dialogue : Dialogue r turns answers waiting) {k : Nat} {a : Answer}
    (selected : answers[k]? = some a) :
    a.turnNumber = 2 * k + 2 ∧
      (∃ turn, turns[2 * k]? = some turn ∧ turn.questionId = some a.questionId) ∧
      ∃ turn, turns[2 * k + 1]? = some turn ∧ turn.questionId = some a.questionId := by
  induction dialogue with
  | empty => cases selected
  | asked before number speaker question selectable fresh ih =>
    obtain ⟨place, ⟨ask, asked, same⟩, reply, replied, same'⟩ := ih selected
    exact ⟨place, ⟨ask, selected_append asked _, same⟩, reply, selected_append replied _, same'⟩
  | @answered turns answers turn a' id before number speaker question same place ih =>
    rcases selected_or_last selected with old | ⟨rfl, rfl⟩
    · obtain ⟨place, ⟨ask, asked, same⟩, reply, replied, same'⟩ := ih old
      exact ⟨place, ⟨ask, selected_append asked _, same⟩, reply, selected_append replied _, same'⟩
    · -- The question was open until now, so it stands in the turn before.
      have odd := before.length_eq
      simp only [Option.isSome_some, if_true] at odd
      obtain ⟨ask, -, asked, -, asks⟩ := before.open_turn
      refine ⟨by omega, ⟨ask, selected_append asked _, by rw [asks, same]⟩, turn, ?_, ?_⟩
      · rw [← odd, List.getElem?_concat_length]
      · rw [question, same]

/-- The questions asked are those answered and the open one. -/
theorem asked_eq (dialogue : Dialogue r turns answers waiting) :
    (turns.filter (·.speaker = .examiner)).map Turn.questionId =
      (answers.map Answer.questionId ++ waiting.toList).map some := by
  induction dialogue with
  | empty => rfl
  | asked before number speaker question selectable fresh ih =>
    rw [List.filter_append, List.map_append, ih]
    simp [speaker, question]
  | answered before number speaker question same place ih =>
    rw [List.filter_append, List.map_append, ih]
    simp [speaker, same]

theorem nodup (dialogue : Dialogue r turns answers waiting) :
    (answers.map Answer.questionId ++ waiting.toList).Nodup := by
  induction dialogue with
  | empty => exact List.nodup_nil
  | asked before number speaker question selectable fresh ih =>
    simp only [Option.toList_none, List.append_nil] at ih
    simp only [Option.toList_some]
    exact ih.append (List.nodup_singleton _) (by simpa using fresh)
  | answered before number speaker question same place ih => simpa [same] using ih

theorem selectable (dialogue : Dialogue r turns answers waiting) :
    ∀ id ∈ answers.map Answer.questionId ++ waiting.toList,
      ∃ q ∈ r.selectableQuestions, q.id = id := by
  induction dialogue with
  | empty => exact fun _ member => by cases member
  | asked before number speaker question selectable fresh ih =>
    intro id member
    rcases List.mem_append.mp member with old | new
    · exact ih id (List.mem_append_left _ old)
    · cases List.mem_singleton.mp new
      exact selectable
  | answered before number speaker question same place ih => simpa [same] using ih

theorem distinct (dialogue : Dialogue r turns answers waiting) :
    ((turns.filter (·.speaker = .examiner)).map Turn.questionId).Nodup := by
  rw [dialogue.asked_eq]
  exact dialogue.nodup.map fun _ _ same => Option.some.inj same

end Dialogue

namespace Session

variable {settings : Settings} {s s' : Session} {deed : Deed} {waiting : Option String}

theorem nextTurnNumber_eq (dialogue : Dialogue s.rubric s.turns s.answers waiting) :
    s.nextTurnNumber = s.turns.length + 1 := by
  unfold nextTurnNumber
  cases last : s.turns.getLast? with
  | none =>
    rw [List.getLast?_eq_none_iff] at last
    rw [last]
    rfl
  | some turn =>
    rw [List.getLast?_eq_getElem?] at last
    have inside := (List.getElem?_eq_some_iff.mp last).1
    have numbered := (dialogue.turn_eq last).1
    simp only [numbered]
    omega

theorem asked_eq (dialogue : Dialogue s.rubric s.turns s.answers waiting) :
    s.asked = s.answers.map Answer.questionId ++ waiting.toList := by
  have ids := congrArg (List.filterMap fun id => id) dialogue.asked_eq
  rw [List.filterMap_map, List.filterMap_map] at ids
  simpa [asked] using ids

/-! ## The dialogue of a session -/

/-- A session in progress waits for an answer to the question that is open in its log, and knows the
concept that it is about. One that was ended early leaves a question open, a complete one does not. -/
def Stands (s : Session) : Prop :=
  match s.status with
  | .inProgress => ∃ pending c q, s.pending = some pending ∧
      s.rubric.question? pending.questionId = some (c, q) ∧ pending.conceptId = c.id ∧
      Dialogue s.rubric s.turns s.answers (some pending.questionId)
  | .submitted | .abandoned =>
    s.pending = none ∧ ∃ id, Dialogue s.rubric s.turns s.answers (some id)
  | .completed => s.pending = none ∧ Dialogue s.rubric s.turns s.answers none
  | .notStarted | .failed => False

/-- What holds of every session that can come up. -/
structure Proper (s : Session) : Prop where
  checked : s.rubric.Checked
  stands : s.Stands

theorem Stands.going (stands : s.Stands) (going : s.status = .inProgress) :
    ∃ pending c q, s.pendingQuestion? = some (pending, c, q) ∧ pending.conceptId = c.id ∧
      c ∈ s.rubric.concepts ∧ q ∈ c.questions ∧ q.id = pending.questionId ∧
      Dialogue s.rubric s.turns s.answers (some pending.questionId) := by
  simp only [Stands, going] at stands
  obtain ⟨pending, c, q, waits, found, concept, dialogue⟩ := stands
  obtain ⟨owner, question, same⟩ := Rubric.mem_of_question? found
  exact ⟨pending, c, q, pendingQuestion?_eq_some_iff.mpr ⟨waits, found⟩, concept, owner, question,
    same, dialogue⟩

/-- Only a complete session leaves no question open. -/
theorem Stands.dialogue (stands : s.Stands) :
    ∃ waiting, Dialogue s.rubric s.turns s.answers waiting ∧
      (waiting = none ↔ s.status = .completed) := by
  unfold Stands at stands
  split at stands
  · rename_i going
    obtain ⟨pending, c, q, -, -, -, dialogue⟩ := stands
    exact ⟨_, dialogue, by simp [going]⟩
  · rename_i submitted
    obtain ⟨-, id, dialogue⟩ := stands
    exact ⟨_, dialogue, by simp [submitted]⟩
  · rename_i abandoned
    obtain ⟨-, id, dialogue⟩ := stands
    exact ⟨_, dialogue, by simp [abandoned]⟩
  · rename_i completed
    exact ⟨_, stands.2, by simp [completed]⟩
  · exact stands.elim
  · exact stands.elim

theorem Stands.status_eq (stands : s.Stands) : s.status = .inProgress ∨ s.status = .submitted ∨
    s.status = .abandoned ∨ s.status = .completed := by
  unfold Stands at stands
  split at stands <;> simp_all

theorem Proper.isTerminal_iff (proper : s.Proper) :
    s.status.isTerminal ↔ s.status ≠ .inProgress := by
  rcases proper.stands.status_eq with status | status | status | status <;>
    simp [status, Status.isTerminal]

theorem Stands.isSome_pending_iff (stands : s.Stands) :
    s.pending.isSome ↔ s.status = .inProgress := by
  unfold Stands at stands
  split at stands
  · rename_i going
    obtain ⟨pending, c, q, waits, -⟩ := stands
    simp [waits, going]
  · rename_i submitted
    simp [stands.1, submitted]
  · rename_i abandoned
    simp [stands.1, abandoned]
  · rename_i completed
    simp [stands.1, completed]
  · exact stands.elim
  · exact stands.elim

/-- The pending question is the open one. -/
theorem Stands.pending (stands : s.Stands) {pending : Pending} (waits : s.pending = some pending) :
    ∃ c q, pending.conceptId = c.id ∧ c ∈ s.rubric.concepts ∧ q ∈ c.questions ∧
      q.id = pending.questionId ∧
      Dialogue s.rubric s.turns s.answers (some pending.questionId) := by
  obtain ⟨pending', c, q, waiting, rest⟩ :=
    stands.going (stands.isSome_pending_iff.mp (by rw [waits]; rfl))
  obtain rfl := Option.some.inj (waits.symm.trans (pendingQuestion?_eq_some_iff.mp waiting).1)
  exact ⟨c, q, rest⟩

/-- The answer closes the open question. -/
theorem dialogue_scored {pending : Pending} {c : Concept} {q : Question} {transcript : String}
    {similarity : Option Float} {now : Instant}
    (dialogue : Dialogue s.rubric s.turns s.answers (some q.id)) :
    Dialogue s.rubric (s.scored settings pending c q transcript similarity now).turns
      (s.scored settings pending c q transcript similarity now).answers none := by
  have number := nextTurnNumber_eq dialogue
  rw [turns_scored, answers_scored]
  exact .answered dialogue number rfl rfl rfl number

/-- What is selected opens the next question. -/
theorem dialogue_ask {c : Concept} {q : Question} {now : Instant}
    (dialogue : Dialogue s.rubric s.turns s.answers none) (concept : c ∈ s.rubric.concepts)
    (question : q ∈ c.questions) (selectable : q.isSelectable) (fresh : q.id ∉ s.asked) :
    Dialogue s.rubric (s.ask c q now).turns (s.ask c q now).answers (some q.id) := by
  rw [turns_ask, answers_ask]
  refine .asked dialogue (nextTurnNumber_eq dialogue) rfl rfl ⟨q, ?_, rfl⟩ ?_
  · exact List.mem_filter.mpr ⟨Rubric.mem_questions concept question, selectable⟩
  · simpa [asked_eq dialogue] using fresh

/-- A session in progress with a dialogue without an open question is asked the next one. -/
theorem Proper.ask (checked : s.rubric.Checked) (going : s.status = .inProgress)
    (dialogue : Dialogue s.rubric s.turns s.answers none) {chosen : Candidate Float}
    (choice : s.rubric.selectNext s.theta s.asked = some chosen) (now : Instant) :
    (s.ask chosen.concept chosen.question now).Proper := by
  obtain ⟨concept, question, selectable, fresh⟩ := Rubric.selectNext_spec choice
  refine ⟨checked, ?_⟩
  simp only [Stands, status_ask, going, pending_ask, rubric_ask]
  exact ⟨_, chosen.concept, chosen.question, rfl, checked.question?_eq concept question, rfl,
    dialogue_ask dialogue concept question selectable fresh⟩

theorem Opens.proper (opens : Opens settings s) : s.Proper := by
  cases opens with
  | @intro id studentId attempt assignment rubric now chosen checked choice =>
    exact Proper.ask (s := blank id studentId attempt assignment rubric settings.estimator.initial now)
      checked rfl .empty choice now

theorem Step.proper (proper : s.Proper) (step : Step settings s deed s') : s'.Proper := by
  have checked : s'.rubric.Checked := step.rubric_eq ▸ proper.checked
  cases step with
  | refused => exact proper
  | failed going missing =>
    -- What is pending is found in the rubric, so this does not come about.
    obtain ⟨pending, c, q, waiting, -⟩ := proper.stands.going going
    rw [missing] at waiting
    cases waiting
  | @asked transcript similarity now pending c q a chosen going waiting scored rule choice =>
    obtain ⟨pending', c', q', waiting', -, -, -, same, dialogue⟩ := proper.stands.going going
    rw [waiting] at waiting'
    cases waiting'
    subst scored
    refine Proper.ask (by simpa using proper.checked) (by simpa using going) ?_ choice now
    rw [rubric_scored]
    exact dialogue_scored (same ▸ dialogue)
  | @completed transcript similarity now pending c q a termination going waiting scored why =>
    obtain ⟨pending', c', q', waiting', -, -, -, same, dialogue⟩ := proper.stands.going going
    rw [waiting] at waiting'
    cases waiting'
    subst scored
    refine ⟨checked, ?_⟩
    simp only [Stands, status_finish, pending_finish, rubric_finish, turns_finish, answers_finish,
      rubric_scored]
    exact ⟨trivial, dialogue_scored (same ▸ dialogue)⟩
  | submitted going | abandoned going | idled going idle =>
    obtain ⟨pending, c, q, -, -, -, -, -, dialogue⟩ := proper.stands.going going
    refine ⟨checked, ?_⟩
    simp only [Stands, status_finish, pending_finish, rubric_finish, turns_finish, answers_finish]
    exact ⟨trivial, _, dialogue⟩
  | reviewed ended done =>
    subst done
    exact ⟨checked, proper.stands⟩

theorem Reached.proper (reached : Reached settings s) : s.Proper := by
  obtain ⟨s₀, deeds, opens, course⟩ := reached
  induction course with
  | start => exact opens.proper
  | next before step ih => exact step.proper ih

/-- The question that a session in progress waits for is always found. -/
theorem Step.report_ne_unavailable (proper : s.Proper) (step : Step settings s deed s')
    (id : String) : deed.report ≠ .answered (.error (.questionUnavailable id)) := by
  cases step with
  | refused refusal known => exact known id
  | failed going missing =>
    obtain ⟨pending, c, q, waiting, -⟩ := proper.stands.going going
    rw [missing] at waiting
    cases waiting
  | asked | completed | submitted | abandoned | idled | reviewed => simp

/-! ## What a reader sees of it -/

/-- Questions and answers stand in turn, no question is asked twice, and a question is pending
exactly while the session is in progress. -/
structure Alternating (s : Session) : Prop where
  turns : ∀ i turn, s.turns[i]? = some turn →
    turn.number = i + 1 ∧ turn.speaker = if i % 2 = 0 then .examiner else .student
  exchanges : ∀ k a, s.answers[k]? = some a → a.turnNumber = 2 * k + 2 ∧
    (∃ turn, s.turns[2 * k]? = some turn ∧ turn.questionId = some a.questionId) ∧
    ∃ turn, s.turns[2 * k + 1]? = some turn ∧ turn.questionId = some a.questionId
  distinct : ((s.turns.filter (·.speaker = .examiner)).map Turn.questionId).Nodup
  selectable : ∀ turn ∈ s.turns, turn.speaker = .examiner →
    ∃ q ∈ s.rubric.selectableQuestions, turn.questionId = some q.id
  status : s.status = .inProgress ∨ s.status = .submitted ∨ s.status = .abandoned ∨
    s.status = .completed
  length : s.turns.length =
    if s.status = .completed then 2 * s.answers.length else 2 * s.answers.length + 1
  waits : s.pending.isSome ↔ s.status = .inProgress
  last : ∀ pending, s.pending = some pending → ∃ turn, s.turns.getLast? = some turn ∧
    turn.speaker = .examiner ∧ turn.questionId = some pending.questionId
  owner : ∀ pending, s.pending = some pending → ∃ c ∈ s.rubric.concepts,
    c.id = pending.conceptId ∧
    ∀ c' ∈ s.rubric.concepts, (∃ q ∈ c'.questions, q.id = pending.questionId) ↔ c' = c

theorem Proper.alternating (proper : s.Proper) : s.Alternating := by
  have stands := proper.stands
  obtain ⟨waiting, dialogue, complete⟩ := stands.dialogue
  have open_iff : s.pending.isSome ↔ s.status = .inProgress := stands.isSome_pending_iff
  refine ⟨fun i turn => dialogue.turn_eq, fun k a => dialogue.exchange, dialogue.distinct, ?_,
    stands.status_eq, ?_, open_iff, ?_, ?_⟩
  · intro turn member speaker
    have asked : turn.questionId ∈ (s.turns.filter (·.speaker = .examiner)).map Turn.questionId :=
      List.mem_map_of_mem (List.mem_filter.mpr ⟨member, by simpa using speaker⟩)
    rw [dialogue.asked_eq] at asked
    obtain ⟨id, known, same⟩ := List.mem_map.mp asked
    obtain ⟨q, selectable, own⟩ := dialogue.selectable id known
    exact ⟨q, selectable, by rw [← same, own]⟩
  · have count := dialogue.length_eq
    split
    · rename_i completed
      simpa [complete.mpr completed] using count
    · rename_i going
      obtain ⟨id, rfl⟩ := Option.ne_none_iff_exists'.mp fun none => going (complete.mp none)
      simpa using count
  · intro pending waits
    obtain ⟨c, q, -, -, -, -, dialogue⟩ := stands.pending waits
    obtain ⟨turn, last, -, speaker, question⟩ := dialogue.open_turn
    exact ⟨turn, last, speaker, question⟩
  · intro pending waits
    obtain ⟨c, q, concept, owner, question, same, -⟩ := stands.pending waits
    refine ⟨c, owner, concept.symm, fun c' owner' => ⟨?_, ?_⟩⟩
    · rintro ⟨q', question', same'⟩
      exact proper.checked.owner_unique owner' question' owner question (same'.trans same.symm)
    · rintro rfl
      exact ⟨q, question, same⟩

end Session

end OralExam
