import Mathlib.Data.List.Perm.Subperm
import OralExam.Proofs.Session.Replay

/-! When a session stops, and why.

The rules are stated on the answers alone. A session stops after the first answer at which one of
them holds, and records which. The pool of questions can run dry only before the rules apply: once
every question is answered, every concept is covered.
-/

set_option autoImplicit false

namespace OralExam

/-- The rule holds after the answers. -/
def StopsBy (settings : Settings) (r : Rubric) (answers : List Answer) : Termination → Prop
  | .maxQuestions => answers.length = settings.exam.maxQuestions
  | .precisionReached =>
    settings.exam.minQuestions ≤ answers.length ∧ answers.length < settings.exam.maxQuestions ∧
      (Session.estimateAfter settings answers).standardError < settings.exam.precisionThreshold
  | .contentCovered =>
    settings.exam.minQuestions ≤ answers.length ∧ answers.length < settings.exam.maxQuestions ∧
      ¬(Session.estimateAfter settings answers).standardError < settings.exam.precisionThreshold ∧
      ∀ c ∈ r.selectableConcepts, ∃ a ∈ answers, a.conceptId = c.id
  | .itemPoolExhausted =>
    answers.length = r.selectableQuestions.length ∧
      answers.length < settings.exam.maxQuestions ∧ answers.length < settings.exam.minQuestions
  | .studentSubmitted | .abandoned | .error => False

/-! ## The pool of questions -/

namespace Dialogue

variable {r : Rubric} {turns : List Turn} {answers : List Answer} {waiting : Option String}

theorem subset_selectable (dialogue : Dialogue r turns answers waiting) :
    answers.map Answer.questionId ++ waiting.toList ⊆ r.selectableQuestions.map Question.id := by
  intro id member
  obtain ⟨q, selectable, same⟩ := dialogue.selectable id member
  exact List.mem_map.mpr ⟨q, selectable, same⟩

theorem length_le (dialogue : Dialogue r turns answers waiting) :
    answers.length + waiting.toList.length ≤ r.selectableQuestions.length := by
  have fits := (dialogue.nodup.subperm dialogue.subset_selectable).length_le
  simpa using fits

/-- All that can be asked has been answered exactly if there are as many answers. -/
theorem all_answered_iff (checked : r.Checked) (dialogue : Dialogue r turns answers none) :
    (∀ q ∈ r.selectableQuestions, q.id ∈ answers.map Answer.questionId) ↔
      answers.length = r.selectableQuestions.length := by
  have asked := dialogue.nodup
  have subset := dialogue.subset_selectable
  rw [Option.toList_none, List.append_nil] at asked subset
  -- Of two lists without repetition, one within the other, the shorter one is the part.
  constructor
  · intro all
    have distinct : (r.selectableQuestions.map Question.id).Nodup :=
      checked.questions.sublist (List.filter_sublist.map Question.id)
    have back : r.selectableQuestions.map Question.id ⊆ answers.map Answer.questionId := by
      intro id member
      obtain ⟨q, selectable, same⟩ := List.mem_map.mp member
      exact same ▸ all q selectable
    have fits := (asked.subperm subset).length_le
    have fits' := (distinct.subperm back).length_le
    rw [List.length_map, List.length_map] at fits fits'
    omega
  · intro same q selectable
    have perm := (asked.subperm subset).perm_of_length_le (by simp [same])
    exact perm.mem_iff.mpr (List.mem_map_of_mem selectable)

end Dialogue

namespace Session

variable {settings : Settings} {s s' a : Session} {deed : Deed} {waiting : Option String}
  {termination : Termination}

/-- The log, the rubric and what is derived from the answers fit together. -/
structure Consistent (settings : Settings) (s : Session) (waiting : Option String) : Prop where
  checked : s.rubric.Checked
  dialogue : Dialogue s.rubric s.turns s.answers waiting
  tallied : s.Tallied settings
  known : ∀ a ∈ s.answers, ∃ c q, s.rubric.question? a.questionId = some (c, q) ∧ a.conceptId = c.id

theorem Told.known {submissions : List (String × Option Float)} (told : s.Told settings submissions) :
    ∀ a ∈ s.answers, ∃ c q, s.rubric.question? a.questionId = some (c, q) ∧ a.conceptId = c.id := by
  intro a member
  obtain ⟨k, selected⟩ := List.getElem?_of_mem member
  obtain ⟨turn, similarity, -, -, c, q, found, concept, -⟩ := told.each k a selected
  exact ⟨c, q, found, concept⟩

theorem Reached.told (reached : Reached settings s) : ∃ submissions, s.Told settings submissions := by
  obtain ⟨s₀, deeds, opens, course⟩ := reached
  exact ⟨_, course.told opens⟩

theorem Reached.consistent_scored (reached : Reached settings s) (going : s.status = .inProgress)
    {pending : Pending} {c : Concept} {q : Question}
    (waiting : s.pendingQuestion? = some (pending, c, q)) (transcript : String)
    (similarity : Option Float) (now : Instant) :
    (s.scored settings pending c q transcript similarity now).Consistent settings none := by
  have proper := reached.proper
  have found := question?_of_pendingQuestion? waiting
  obtain ⟨submissions, told⟩ := reached.told
  obtain ⟨pending', c', q', waiting', -, -, -, same, dialogue⟩ := proper.stands.going going
  rw [waiting] at waiting'
  cases waiting'
  have count : s.turns.length = 2 * s.answers.length + 1 := by
    simpa [going] using proper.alternating.length
  refine ⟨by simpa using proper.checked, ?_, reached.replayed.toTallied.scored found _ _ _, ?_⟩
  · rw [rubric_scored]
    exact dialogue_scored (same ▸ dialogue)
  · exact (told.scored pending found count transcript similarity now).known

namespace Consistent

theorem exhausted_iff (consistent : a.Consistent settings none) :
    a.rubric.selectNext a.theta a.asked = none ↔
      a.answers.length = a.rubric.selectableQuestions.length := by
  rw [Rubric.selectNext_eq_none_iff, asked_eq consistent.dialogue, Option.toList_none,
    List.append_nil, consistent.dialogue.all_answered_iff consistent.checked]

theorem covered_iff (consistent : a.Consistent settings waiting) :
    (a.rubric.selectableConcepts.all fun c => a.mastery.contains c.id) ↔
      ∀ c ∈ a.rubric.selectableConcepts, ∃ b ∈ a.answers, b.conceptId = c.id := by
  rw [List.all_eq_true]
  refine forall₂_congr fun c member => ?_
  rw [Keyed.contains, Keyed.isSome_find?_iff, consistent.tallied.concepts, List.mem_map]

/-- Where every question is answered, every concept is covered. -/
theorem covered_of_exhausted (consistent : a.Consistent settings none)
    (exhausted : a.answers.length = a.rubric.selectableQuestions.length) :
    ∀ c ∈ a.rubric.selectableConcepts, ∃ b ∈ a.answers, b.conceptId = c.id := by
  intro c member
  obtain ⟨concept, selectable⟩ := List.mem_filter.mp member
  obtain ⟨q, question, askable⟩ := List.any_eq_true.mp selectable
  have pooled : q ∈ a.rubric.selectableQuestions :=
    List.mem_filter.mpr ⟨Rubric.mem_questions concept question, askable⟩
  have answered := (consistent.dialogue.all_answered_iff consistent.checked).mpr exhausted q pooled
  obtain ⟨b, given, same⟩ := List.mem_map.mp answered
  obtain ⟨c', q', found, owner⟩ := consistent.known b given
  rw [same, consistent.checked.question?_eq concept question] at found
  cases found
  exact ⟨b, given, owner⟩

/-- The session stops for what holds of its answers, and for nothing else. -/
theorem stopsBy_iff (consistent : a.Consistent settings none)
    (bound : a.answers.length ≤ settings.exam.maxQuestions) :
    StopsBy settings a.rubric a.answers termination ↔
      a.stoppingRule settings.exam = some termination ∨
        a.stoppingRule settings.exam = none ∧ a.rubric.selectNext a.theta a.asked = none ∧
          termination = .itemPoolExhausted := by
  have error := congrArg Ability.Estimate.standardError consistent.tallied.estimate
  simp only at error
  -- The cases are those of the stopping rule, in its order.
  have covered := consistent.covered_iff
  have exhausted := consistent.exhausted_iff
  by_cases full : settings.exam.maxQuestions ≤ a.answers.length
  · have rule : a.stoppingRule settings.exam = some .maxQuestions := if_pos full
    rw [rule]
    cases termination <;> simp [StopsBy]
    all_goals omega
  have below : a.answers.length < settings.exam.maxQuestions := by omega
  by_cases few : a.answers.length < settings.exam.minQuestions
  · have rule : a.stoppingRule settings.exam = none := by
      rw [stoppingRule, questionsAnswered, if_neg full, if_pos few]
    rw [rule, exhausted]
    cases termination <;> simp [StopsBy, below, few]
    all_goals omega
  by_cases precise : a.standardError < settings.exam.precisionThreshold
  · have rule : a.stoppingRule settings.exam = some .precisionReached := by
      rw [stoppingRule, questionsAnswered, if_neg full, if_neg few, if_pos precise]
    rw [error] at precise
    rw [rule]
    cases termination <;> simp [StopsBy, precise, few, below]
    all_goals omega
  by_cases all : ∀ c ∈ a.rubric.selectableConcepts, ∃ b ∈ a.answers, b.conceptId = c.id
  · have rule : a.stoppingRule settings.exam = some .contentCovered := by
      rw [stoppingRule, questionsAnswered, if_neg full, if_neg few, if_neg precise,
        if_pos (covered.mpr all)]
    rw [error] at precise
    rw [rule]
    cases termination with
    | contentCovered => exact iff_of_true ⟨by omega, below, precise, all⟩ (.inl rfl)
    | _ =>
      simp [StopsBy, precise, few, below]
      all_goals omega
  · have rule : a.stoppingRule settings.exam = none := by
      rw [stoppingRule, questionsAnswered, if_neg full, if_neg few, if_neg precise,
        if_neg fun holds => all (covered.mp holds)]
    -- Nothing is left to be asked only if all concepts are covered.
    have left : a.rubric.selectNext a.theta a.asked ≠ none :=
      fun dry => all (consistent.covered_of_exhausted (exhausted.mp dry))
    rw [error] at precise
    rw [rule]
    cases termination <;> simp [StopsBy, precise, few, below, all, left]
    all_goals omega

end Consistent

/-! ## Sessions and the rules -/

/-- The session stops at the first answer after which a rule holds, and says which. -/
structure Stopping (settings : Settings) (s : Session) : Prop where
  bound : s.answers.length ≤ min settings.exam.maxQuestions s.rubric.selectableQuestions.length
  going : s.status ≠ .completed →
    s.answers.length < min settings.exam.maxQuestions s.rubric.selectableQuestions.length
  first : ∀ earlier, earlier <+: s.answers → earlier ≠ [] →
    (s.status = .completed → earlier ≠ s.answers) →
      ∀ termination, ¬StopsBy settings s.rubric earlier termination
  reason : s.status = .completed → s.answers ≠ [] ∧ ∃ why, s.termination = some why ∧
    ∀ termination, StopsBy settings s.rubric s.answers termination ↔ termination = why

theorem Stopping.congr (stopping : s.Stopping settings) (before : s.status ≠ .completed)
    (after : s'.status ≠ .completed) (rubric : s'.rubric = s.rubric)
    (answers : s'.answers = s.answers) : s'.Stopping settings := by
  refine ⟨?_, ?_, ?_, fun completed => absurd completed after⟩
  · rw [rubric, answers]
    exact stopping.bound
  · rw [rubric, answers]
    exact fun _ => stopping.going before
  · rw [rubric, answers]
    exact fun earlier sooner some _ =>
      stopping.first earlier sooner some fun completed => absurd completed before

theorem Stopping.first_scored (stopping : s.Stopping settings) (going : s.status = .inProgress)
    {pending : Pending} {c : Concept} {q : Question} {transcript : String}
    {similarity : Option Float} {now : Instant} {earlier : List Answer}
    (sooner : earlier <+: (s.scored settings pending c q transcript similarity now).answers)
    (some : earlier ≠ [])
    (apart : earlier ≠ (s.scored settings pending c q transcript similarity now).answers)
    (termination : Termination) : ¬StopsBy settings s.rubric earlier termination := by
  rw [answers_scored] at sooner apart
  rcases List.prefix_concat_iff.mp sooner with whole | sooner
  · exact absurd whole apart
  · exact stopping.first earlier sooner some (by simp [going]) termination

theorem Opens.stopping (positive : 1 ≤ settings.exam.maxQuestions) (opens : Opens settings s) :
    s.Stopping settings := by
  have going : s.status = .inProgress := by cases opens; rfl
  have none : s.answers = [] := by cases opens; rfl
  have zero : s.answers.length = 0 := by rw [none, List.length_nil]
  obtain ⟨pending, c, q, -, -, -, -, -, dialogue⟩ := opens.proper.stands.going going
  have pool := dialogue.length_le
  rw [Option.toList_some, List.length_singleton] at pool
  refine ⟨by omega, fun _ => by omega, ?_, by simp [going]⟩
  intro earlier sooner some
  rw [none, List.prefix_nil] at sooner
  exact absurd sooner some

theorem Step.stopping (reached : Reached settings s) (stopping : s.Stopping settings)
    (step : Step settings s deed s') : s'.Stopping settings := by
  cases step with
  | refused => exact stopping
  | failed going missing | submitted going | abandoned going | idled going idle =>
    exact stopping.congr (by simp [going]) (by simp) rfl rfl
  | @asked transcript similarity now pending c q a chosen going waiting scored rule choice =>
    have before := stopping.going (by simp [going])
    have consistent := reached.consistent_scored going waiting transcript similarity now
    have count : a.answers.length = s.answers.length + 1 := by simp [scored]
    have rubric : a.rubric = s.rubric := by simp [scored]
    have status : a.status = .inProgress := by simp [scored, going]
    rw [← scored] at consistent
    have none (termination : Termination) : ¬StopsBy settings s.rubric a.answers termination := by
      rw [← rubric, consistent.stopsBy_iff (by omega), rule, choice]
      simp
    -- There was room for one more answer, and it did not use up the last question.
    have below : ¬settings.exam.maxQuestions ≤ a.answers.length := by
      intro full
      rw [stoppingRule, questionsAnswered, if_pos full] at rule
      cases rule
    have left : a.answers.length ≠ s.rubric.selectableQuestions.length := by
      rw [← rubric, Ne, ← consistent.exhausted_iff, choice]
      simp
    refine ⟨?_, fun _ => ?_, ?_, by simp [status]⟩
    · rw [rubric_ask, answers_ask, rubric]
      omega
    · rw [rubric_ask, answers_ask, rubric]
      omega
    · intro earlier sooner some _
      rw [rubric_ask, rubric]
      rw [answers_ask] at sooner
      by_cases whole : earlier = a.answers
      · rw [whole]
        exact none
      · subst scored
        exact stopping.first_scored going sooner some whole
  | @completed transcript similarity now pending c q a termination going waiting scored why =>
    have before := stopping.going (by simp [going])
    have consistent := reached.consistent_scored going waiting transcript similarity now
    have count : a.answers.length = s.answers.length + 1 := by simp [scored]
    have rubric : a.rubric = s.rubric := by simp [scored]
    rw [← scored] at consistent
    refine ⟨?_, by simp, ?_, fun _ => ⟨?_, termination, rfl, ?_⟩⟩
    · rw [rubric_finish, answers_finish, rubric]
      omega
    · intro earlier sooner some apart
      rw [rubric_finish, rubric]
      rw [answers_finish] at sooner apart
      subst scored
      exact stopping.first_scored going sooner some (apart rfl)
    · rw [answers_finish, ← List.length_pos_iff_ne_nil]
      omega
    · -- The stopping rule gives one reason only, and running dry comes after it.
      intro other
      rw [rubric_finish, answers_finish, consistent.stopsBy_iff (by omega)]
      constructor
      · intro why'
        rcases why with rule | ⟨rule, dry, rfl⟩
        · simpa [rule, eq_comm] using why'
        · simpa [rule, dry] using why'
      · rintro rfl
        exact why
  | reviewed ended done =>
    subst done
    exact ⟨stopping.bound, stopping.going, stopping.first, stopping.reason⟩

theorem Reached.stopping (positive : 1 ≤ settings.exam.maxQuestions)
    (reached : Reached settings s) : s.Stopping settings := by
  obtain ⟨s₀, deeds, opens, course⟩ := reached
  induction course with
  | start => exact opens.stopping positive
  | @next deeds t deed t' before step ih => exact step.stopping ⟨s₀, deeds, opens, before⟩ ih

/-! ## What comes of an answer -/

/-- A similarity is a share of one, if there is one. -/
def Admissible (similarity : Option Float) : Prop := ∀ x ∈ similarity, isShare x

/-- An answer to a session in progress is taken, unless its similarity is no share. -/
theorem Reached.answer_ok (reached : Reached settings s) (going : s.status = .inProgress)
    (transcript : String) {similarity : Option Float} (admissible : Admissible similarity)
    (now : Instant) :
    ∃ outcome, (s.answer settings transcript similarity now).result = .ok outcome := by
  obtain ⟨pending, c, q, waiting, -⟩ := reached.proper.stands.going going
  have admitted : similarity.filter (!isShare ·) = none := by
    rw [Option.filter_eq_none_iff]
    intro x member
    simp [admissible x member]
  rw [answer_of_waiting settings transcript now going admitted waiting]
  exact ⟨_, rfl⟩

/-- An answer brings the session on by one, or completes it. -/
theorem Reached.answer_cases (reached : Reached settings s) (going : s.status = .inProgress)
    (transcript : String) {similarity : Option Float} (admissible : Admissible similarity)
    (now : Instant) :
    let next := (s.answer settings transcript similarity now).session s
    next.status = .completed ∨ next.status = .inProgress ∧ next.rubric = s.rubric ∧
      next.answers.length = s.answers.length + 1 := by
  obtain ⟨outcome, taken⟩ := reached.answer_ok going transcript admissible now
  have step := answer_step settings s transcript similarity now
  rw [taken] at step
  generalize (s.answer settings transcript similarity now).session s = next at step
  cases step with
  | refused refusal => cases refusal
  | asked _ _ scored => exact .inr (by simp [scored, going])
  | completed _ _ scored => exact .inl (by simp)

/-- What becomes of the session as one answer after another comes in. -/
def answerAll (settings : Settings) (s : Session)
    (answers : List (String × Option Float × Instant)) : Session :=
  answers.foldl (fun s a => (s.answer settings a.1 a.2.1 a.2.2).session s) s

theorem answerAll_of_completed (ended : s.status = .completed)
    (answers : List (String × Option Float × Instant)) : s.answerAll settings answers = s := by
  induction answers with
  | nil => rfl
  | cons a rest ih =>
    have left : (s.answer settings a.1 a.2.1 a.2.2).session s = s := by
      simp [answer, ended, Handling.session]
    rw [answerAll, List.foldl_cons, left]
    exact ih

/-- As many answers as the rules leave room for complete the session. -/
theorem Reached.answerAll_completed (positive : 1 ≤ settings.exam.maxQuestions)
    (reached : Reached settings s) (going : s.status = .inProgress)
    {answers : List (String × Option Float × Instant)}
    (admissible : ∀ a ∈ answers, Admissible a.2.1)
    (enough : min settings.exam.maxQuestions s.rubric.selectableQuestions.length ≤
      s.answers.length + answers.length) : (s.answerAll settings answers).status = .completed := by
  -- The room left shrinks with every answer that does not complete the session.
  induction answers generalizing s with
  | nil =>
    have room := (reached.stopping positive).going (by simp [going])
    rw [List.length_nil] at enough
    omega
  | cons a rest ih =>
    rw [answerAll, List.foldl_cons, ← answerAll]
    have first := admissible a (List.mem_cons_self ..)
    rcases reached.answer_cases going a.1 first a.2.2 with ended | ⟨going', rubric, count⟩
    · rw [answerAll_of_completed ended, ended]
    · have reached' := reached.step (answer_step settings s a.1 a.2.1 a.2.2)
      refine ih reached' going' (fun b later => admissible b (List.mem_cons_of_mem _ later)) ?_
      rw [rubric, count]
      rw [List.length_cons] at enough
      omega

/-- The session stops by the rules, and answers bring it there. Its standard error is the one that
the rules look at. -/
structure StopsByRules (settings : Settings) (s : Session) : Prop extends Stopping settings s where
  error : s.standardError = (estimateAfter settings s.answers).standardError
  full : s.answers.length =
    min settings.exam.maxQuestions s.rubric.selectableQuestions.length → s.status = .completed
  ends : s.status = .inProgress → ∀ answers : List (String × Option Float × Instant),
    (∀ a ∈ answers, Admissible a.2.1) →
    min settings.exam.maxQuestions s.rubric.selectableQuestions.length ≤
      s.answers.length + answers.length →
    (s.answerAll settings answers).status = .completed

theorem Reached.stopsByRules (positive : 1 ≤ settings.exam.maxQuestions)
    (reached : Reached settings s) : s.StopsByRules settings := by
  have stopping := reached.stopping positive
  have error := congrArg Ability.Estimate.standardError reached.replayed.estimate
  refine ⟨stopping, error, ?_, fun going answers admissible enough =>
    reached.answerAll_completed positive going admissible enough⟩
  intro full
  by_contra going
  have room := stopping.going going
  omega

end Session

end OralExam
