import OralExam.Proofs.Grading
import OralExam.Proofs.Session.Stopping
import OralExam.Settings.Repair

/-! The numbers of a session stay in bounds.

The estimate is taken from answers to questions that separate abilities, and the answers were scored
with shares of one. So in every course the ability stays within its bound, the standard error is
finite and positive, and a verdict has a score and a confidence between zero and one.
-/

set_option autoImplicit false

namespace OralExam

open Double

/-- The settings that numbers are computed with are in their ranges. -/
structure Settings.InRange (settings : Settings) : Prop where
  bound : isPositive settings.exam.thetaBound
  prior : isPositive settings.exam.priorStandardError
  weight : isShare settings.scoring.semanticWeight
  penalty : isShare settings.scoring.misconceptionPenalty

/-- The settings that answers are scored with are shares of one. -/
structure Settings.ScoresFairly (settings : Settings) : Prop where
  weight : isShare settings.scoring.semanticWeight
  penalty : isShare settings.scoring.misconceptionPenalty

theorem Settings.usual_scoresFairly : ({} : Settings).ScoresFairly :=
  ⟨by decide +kernel, by decide +kernel⟩

theorem Settings.InRange.scoresFairly {settings : Settings} (range : settings.InRange) :
    settings.ScoresFairly :=
  ⟨range.weight, range.penalty⟩

theorem between_of_isShare {x : Float} (share : isShare x) : Between 0 1 x := by
  simp only [isShare, Bool.and_eq_true, decide_eq_true_eq, Verdict.literal_zero,
    Verdict.literal_one] at share
  obtain ⟨⟨finite, above⟩, below⟩ := share
  obtain ⟨a, denotes⟩ := isFinite_iff.mp finite
  exact ⟨a, denotes, EReal.coe_le_coe_iff.mp ((denotes_zero.le_iff denotes).mp above),
    EReal.coe_le_coe_iff.mp ((denotes.le_iff denotes_one).mp below)⟩

theorem positive_of_isPositive {x : Float} (positive : isPositive x) : Ability.Positive x := by
  simp only [isPositive, Bool.and_eq_true, decide_eq_true_eq] at positive
  obtain ⟨finite, above⟩ := positive
  obtain ⟨a, denotes⟩ := isFinite_iff.mp finite
  exact ⟨a, denotes, EReal.coe_lt_coe_iff.mp ((denotes_zero.lt_iff denotes).mp above)⟩

/-- The answer was not taken, or came with a similarity that is a share of one. -/
def Deed.Admitted (deed : Deed) : Prop :=
  ∀ transcript similarity, deed.task = .answer transcript similarity →
    deed.report.isRefusal = false → Session.Admissible similarity

namespace Session

variable {settings : Settings} {s s' : Session} {deed : Deed}

theorem admitted_perform (settings : Settings) (s : Session) (task : Task) (now : Instant) :
    Deed.Admitted ⟨task, now, (task.perform settings now s).result⟩ := by
  rintro transcript similarity rfl taken x member
  by_contra outside
  have unfit : similarity.filter (!isShare ·) = some x := by
    rw [Option.filter_eq_some_iff]
    exact ⟨member, by simpa using outside⟩
  -- Such an answer is refused whether or not the session is in progress.
  simp only [Task.perform, Handling.result_map, answer] at taken
  split at taken
  · cases taken
  · simp only [unfit] at taken
    cases taken

/-- The rubric fits into machine words, and the answers were scored with shares of one. -/
structure Graded (s : Session) : Prop where
  words : s.rubric.InWords
  answers : ∀ a ∈ s.answers, Between 0 1 a.correctness

theorem Graded.scored (graded : s.Graded) (fair : settings.ScoresFairly) {pending : Pending}
    {c : Concept} {q : Question} (waiting : s.pendingQuestion? = some (pending, c, q))
    (transcript : String) {similarity : Option Float} (admissible : Admissible similarity)
    (now : Instant) : (s.scored settings pending c q transcript similarity now).Graded := by
  constructor
  · rw [rubric_scored]
    exact graded.words
  · intro a member
    rw [answers_scored] at member
    rcases List.mem_append.mp member with old | new
    · exact graded.answers a old
    · cases List.mem_singleton.mp new
      obtain ⟨concept, question, -⟩ :=
        Rubric.mem_of_question? (question?_of_pendingQuestion? waiting)
      obtain ⟨few, few'⟩ := graded.words.keywords c concept
      have word : (Scoring.expected c q).length < Word.size64 := by
        unfold Scoring.expected
        split
        · exact few
        · exact few' q question
      exact Scoring.assess_between (between_of_isShare fair.weight)
        (between_of_isShare fair.penalty).isFinite word transcript
        fun x given => (between_of_isShare (admissible x given)).isNumber

theorem Step.graded (fair : settings.ScoresFairly) (graded : s.Graded)
    (step : Step settings s deed s') (admitted : deed.Admitted) : s'.Graded := by
  cases step with
  | refused => exact graded
  | failed | submitted | abandoned | idled => exact ⟨graded.words, graded.answers⟩
  | @asked transcript similarity now pending c q a chosen going waiting scored rule choice =>
    subst scored
    have scored := graded.scored fair waiting transcript (admitted _ _ rfl rfl) now
    exact ⟨scored.words, scored.answers⟩
  | @completed transcript similarity now pending c q a termination going waiting scored why =>
    subst scored
    have scored := graded.scored fair waiting transcript (admitted _ _ rfl rfl) now
    exact ⟨scored.words, scored.answers⟩
  | reviewed ended done =>
    subst done
    exact ⟨graded.words, graded.answers⟩

/-! ## Estimates -/

/-- The answer is to a question that separates abilities. -/
structure Informative (a : Answer) : Prop where
  discrimination : Ability.Positive a.discrimination
  difficulty : a.difficulty.isFinite

theorem Reached.informative (reached : Reached settings s) : ∀ a ∈ s.answers, Informative a := by
  intro a member
  obtain ⟨submissions, told⟩ := reached.told
  obtain ⟨waiting, dialogue, -⟩ := reached.proper.stands.dialogue
  obtain ⟨k, selected⟩ := List.getElem?_of_mem member
  obtain ⟨turn, similarity, -, -, c, q, found, -, discrimination, difficulty, -⟩ :=
    told.each k a selected
  obtain ⟨concept, question, same⟩ := Rubric.mem_of_question? found
  -- Only such questions are asked, and the answer is to the one that it names.
  obtain ⟨q', asked, own⟩ := dialogue.selectable a.questionId
    (List.mem_append_left _ (List.mem_map_of_mem member))
  obtain ⟨pooled, selectable⟩ := List.mem_filter.mp asked
  obtain rfl := reached.proper.checked.question_unique pooled
    (Rubric.mem_questions concept question) (own.trans same.symm)
  simp only [Question.isSelectable, Bool.and_eq_true, decide_eq_true_eq] at selectable
  obtain ⟨⟨⟨-, sharp⟩, positive⟩, finite⟩ := selectable
  refine ⟨?_, difficulty ▸ finite⟩
  rw [discrimination]
  exact positive_of_isPositive (by simp [isPositive, sharp, positive])

theorem bounded_estimateAfter (range : settings.InRange) {answers : List Answer}
    (informative : ∀ a ∈ answers, Informative a)
    (scored : ∀ a ∈ answers, Between 0 1 a.correctness) :
    settings.estimator.Bounded (estimateAfter settings answers) := by
  have bound : Ability.Positive settings.estimator.bound := positive_of_isPositive range.bound
  have prior : Ability.Positive settings.estimator.priorStandardError :=
    positive_of_isPositive range.prior
  -- On the answers, the latest one last.
  induction answers using List.reverseRecOn with
  | nil => exact Ability.Estimator.bounded_initial bound prior
  | append_singleton answers a ih =>
    rw [estimateAfter_append]
    have before := ih (fun b member => informative b (List.mem_append_left _ member))
      fun b member => scored b (List.mem_append_left _ member)
    refine before.update bound prior ?_
    intro item member
    obtain ⟨b, given, rfl⟩ := List.mem_map.mp member
    exact ⟨(informative b given).discrimination, (informative b given).difficulty,
      Ability.Estimator.responseValue_between _ (scored b given).isNumber⟩

theorem scaled_masteryAfter (settings : Settings) (id : String) (r : Rubric)
    {answers : List Answer} (scored : ∀ a ∈ answers, Between 0 1 a.correctness) :
    (masteryAfter settings id r answers).Scaled := by
  refine List.foldlRecOn answers _ (fun _ _ found => by cases found) ?_
  intro m scaled a member
  split
  · exact scaled.record _ _ _ _ (scored a member).isNumber _
  · exact scaled

/-! ## Sessions in bounds -/

/-- The double is a share of one. -/
def IsPart (x : Float) : Prop := 0 ≤ x ∧ x ≤ 1

/-- The ability, the standard error and the verdict are in bounds. -/
structure InBounds (settings : Settings) (s : Session) : Prop where
  theta : -settings.exam.thetaBound ≤ s.theta ∧ s.theta ≤ settings.exam.thetaBound
  standardError : s.standardError.isFinite ∧ 0 < s.standardError
  score : ∀ x ∈ s.overallScore, IsPart x
  verdict : ∀ v ∈ s.verdict, IsPart v.overallScore ∧ IsPart v.confidence

theorem isShare_of_between {x : Float} (between : Between 0 1 x) : isShare x := by
  obtain ⟨a, denotes, above, below⟩ := between
  simp only [isShare, Bool.and_eq_true, decide_eq_true_eq, Verdict.literal_zero,
    Verdict.literal_one]
  exact ⟨⟨isFinite_iff.mpr ⟨a, denotes⟩, (denotes_zero.le_iff denotes).mpr
    (EReal.coe_le_coe_iff.mpr above)⟩, (denotes.le_iff denotes_one).mpr
      (EReal.coe_le_coe_iff.mpr below)⟩

theorem isPart_of_between {x : Float} (between : Between 0 1 x) : IsPart x := by
  obtain ⟨a, denotes, above, below⟩ := between
  exact ⟨(denotes_zero.le_iff denotes).mpr (EReal.coe_le_coe_iff.mpr above),
    (denotes.le_iff denotes_one).mpr (EReal.coe_le_coe_iff.mpr below)⟩

/-- A session has the verdict on itself, or none yet. -/
theorem Reached.verdict_cases (reached : Reached settings s) :
    s.verdict = none ∧ s.overallScore = none ∨
      ∃ now, s.verdict = some (Verdict.ofSession settings.grading settings.scoring s now) ∧
        s.overallScore =
          some (Verdict.ofSession settings.grading settings.scoring s now).overallScore := by
  have replayed := reached.replayed
  by_cases ended : s.status.isTerminal
  · obtain ⟨now, -, verdict, score, -⟩ := replayed.decided ended
    exact .inr ⟨now, verdict, score⟩
  · have going : s.status = .inProgress := by
      by_contra closed
      exact ended (reached.proper.isTerminal_iff.mpr closed)
    obtain ⟨score, -, -, verdict⟩ := replayed.undecided going
    exact .inl ⟨verdict, score⟩

theorem Reached.score_between (reached : Reached settings s) (graded : s.Graded) {x : Float}
    (score : s.overallScore = some x) : Between 0 1 x := by
  have scaled := scaled_masteryAfter settings s.id s.rubric graded.answers
  rw [← reached.replayed.mastery] at scaled
  rcases reached.verdict_cases with ⟨-, none⟩ | ⟨now, -, decided⟩
  · rw [none] at score
    cases score
  · rw [decided] at score
    cases score
    exact overallScore_between graded.words scaled

theorem Reached.inBounds (range : settings.InRange) (reached : Reached settings s)
    (graded : s.Graded) : s.InBounds settings := by
  have replayed := reached.replayed
  have bounded := bounded_estimateAfter range reached.informative graded.answers
  have scaled := scaled_masteryAfter settings s.id s.rubric graded.answers
  rw [← replayed.estimate] at bounded
  rw [← replayed.mastery] at scaled
  obtain ⟨r, limit, t, ability, above, below⟩ := bounded.theta
  obtain ⟨e, error, positive⟩ := bounded.standardError
  have judged (now : Instant) := Verdict.ofSession_between graded.words scaled
    bounded.standardError settings.grading settings.scoring now
  refine ⟨⟨?_, ?_⟩, ⟨?_, ?_⟩, ?_, ?_⟩
  · exact (limit.neg.le_iff ability).mpr (EReal.coe_le_coe_iff.mpr above)
  · exact (ability.le_iff limit).mpr (EReal.coe_le_coe_iff.mpr below)
  · exact isFinite_iff.mpr ⟨e, error⟩
  · exact (denotes_zero.lt_iff error).mpr (EReal.coe_lt_coe_iff.mpr positive)
  · intro x given
    exact isPart_of_between (reached.score_between graded given)
  · intro v given
    rcases reached.verdict_cases with ⟨none, -⟩ | ⟨now, verdict, -⟩
    · rw [none] at given
      cases given
    · rw [verdict] at given
      cases given
      exact ⟨isPart_of_between (judged now).1, isPart_of_between (judged now).2⟩

end Session

end OralExam
