import OralExam.Proofs.Session.Dialogue

/-! All that a session derives from its answers, derived afresh.

A session keeps its estimate and its mastery as it goes and takes its verdict when it ends. Here they
are computed from the answers alone, and found to be the same.
-/

set_option autoImplicit false

namespace OralExam

namespace Session

/-- Answers as the estimator takes them. -/
def itemsOf (settings : Settings) (answers : List Answer) : List (Ability.Item Float) :=
  answers.map fun a =>
    ⟨a.discrimination, a.difficulty, settings.estimator.responseValue a.correctness⟩

/-- The ability estimated after each answer anew, from all answers up to it. -/
def estimateAfter (settings : Settings) (answers : List Answer) : Ability.Estimate Float :=
  (List.range answers.length).foldl
    (fun e k => settings.estimator.update e (itemsOf settings (answers.take (k + 1))))
    settings.estimator.initial

/-- The mastery that the answers show, each taken with its question in the rubric. -/
def masteryAfter (settings : Settings) (id : String) (r : Rubric) (answers : List Answer) :
    Mastery Float :=
  answers.foldl (fun m a =>
    match r.question? a.questionId with
    | some (c, q) => m.record settings.scoring id c.id q a.correctness a.misconceptions
    | none => m) {}

theorem estimateAfter_append (settings : Settings) (answers : List Answer) (a : Answer) :
    estimateAfter settings (answers ++ [a]) =
      settings.estimator.update (estimateAfter settings answers)
        (itemsOf settings (answers ++ [a])) := by
  -- The estimates before the last one do not see the new answer.
  have earlier (e : Ability.Estimate Float) (k : Nat) (member : k ∈ List.range answers.length) :
      settings.estimator.update e (itemsOf settings ((answers ++ [a]).take (k + 1))) =
        settings.estimator.update e (itemsOf settings (answers.take (k + 1))) := by
    rw [List.take_append_of_le_length (List.mem_range.mp member)]
  rw [estimateAfter, List.length_append, List.length_singleton, List.range_succ, List.foldl_append,
    List.foldl_cons, List.foldl_nil, List.foldl_ext _ _ _ earlier, ← estimateAfter,
    List.take_of_length_le (by simp)]

theorem masteryAfter_append (settings : Settings) (id : String) (r : Rubric)
    (answers : List Answer) (a : Answer) {c : Concept} {q : Question}
    (found : r.question? a.questionId = some (c, q)) :
    masteryAfter settings id r (answers ++ [a]) =
      (masteryAfter settings id r answers).record settings.scoring id c.id q a.correctness
        a.misconceptions := by
  simp only [masteryAfter, List.foldl_append, List.foldl_cons, List.foldl_nil, found]

end Session

/-! ## Mastery -/

namespace Mastery

variable {α : Type} [Scalar α] {m : Mastery α} {policy : ScoringPolicy α} {id conceptId : String}
  {q : Question} {correctness : α} {misconceptions : List String}

theorem mem_keys_record_iff {other : String} :
    other ∈ (m.record policy id conceptId q correctness misconceptions).keys ↔
      other = conceptId ∨ other ∈ m.keys :=
  Keyed.mem_keys_put_iff

theorem sum_record :
    ((m.record policy id conceptId q correctness misconceptions).values.map
      Standing.questionsAnswered).sum = (m.values.map Standing.questionsAnswered).sum + 1 := by
  have total := Keyed.sum_values_put m conceptId
    (((m.find? conceptId).getD (Standing.fresh id conceptId)).add policy q correctness
      misconceptions) Standing.questionsAnswered
  -- A concept that is new starts from zero.
  have counted : (((m.find? conceptId).getD (Standing.fresh id conceptId)).add policy q correctness
      misconceptions).questionsAnswered =
      ((m.find? conceptId).map Standing.questionsAnswered).getD 0 + 1 := by
    cases m.find? conceptId <;> rfl
  rw [counted] at total
  rw [record]
  omega

end Mastery

/-! ## Verdicts and flags -/

/-- A verdict looks at the rubric, the mastery and the estimate only. -/
theorem Verdict.ofSession_congr {grading : GradingPolicy} {scoring : ScoringPolicy Float}
    {s s' : Session} (rubric : s'.rubric = s.rubric) (mastery : s'.mastery = s.mastery)
    (theta : s'.theta = s.theta) (error : s'.standardError = s.standardError) (now : Instant) :
    ofSession grading scoring s' now = ofSession grading scoring s now := by
  simp only [ofSession, coverage, touched, rubric, mastery, theta, error]

/-- Flags look at the rubric, the answers and the standard error only. -/
theorem Flag.ofSession_congr {policy : FlagPolicy} {s s' : Session}
    (rubric : s'.rubric = s.rubric) (answers : s'.answers = s.answers)
    (error : s'.standardError = s.standardError) : ofSession policy s' = ofSession policy s := by
  unfold ofSession highSeverityCount
  rw [rubric, answers, error]

namespace Session

variable {settings : Settings} {s s' : Session} {deed : Deed}

/-- The estimate and the mastery are those that the answers give. -/
structure Tallied (settings : Settings) (s : Session) : Prop where
  estimate : (⟨s.theta, s.standardError⟩ : Ability.Estimate Float) =
    estimateAfter settings s.answers
  mastery : s.mastery = masteryAfter settings s.id s.rubric s.answers
  concepts : ∀ id, id ∈ s.mastery.keys ↔ id ∈ s.answers.map Answer.conceptId
  counts : (s.mastery.values.map Standing.questionsAnswered).sum = s.answers.length

/-- The session holds the verdict on itself, and the flags. -/
def Decided (settings : Settings) (s : Session) (now : Instant) : Prop :=
  let v := Verdict.ofSession settings.grading settings.scoring s now
  let flags := Flag.ofSession settings.flags s
  s.verdict = some v ∧ s.overallScore = some v.overallScore ∧ s.level = some v.level ∧
    s.passed = some v.passed ∧ s.flagged = !flags.isEmpty ∧ s.flagReason = Flag.reason flags

def Undecided (s : Session) : Prop :=
  s.overallScore = none ∧ s.level = none ∧ s.passed = none ∧ s.verdict = none

/-- All that is derived from the answers is as they have it: nothing is decided while the session is
in progress, and everything once it has ended. -/
structure Replayed (settings : Settings) (s : Session) : Prop extends Tallied settings s where
  undecided : s.status = .inProgress → s.Undecided
  decided : s.status.isTerminal → ∃ now, s.completedAt = some now ∧ s.Decided settings now

theorem Tallied.scored (tallied : s.Tallied settings) {pending : Pending} {c : Concept}
    {q : Question} (found : s.rubric.question? q.id = some (c, q)) (transcript : String)
    (similarity : Option Float) (now : Instant) :
    (s.scored settings pending c q transcript similarity now).Tallied settings := by
  let a := s.answerTo settings pending c q transcript similarity now
  have answers : (s.scored settings pending c q transcript similarity now).answers =
      s.answers ++ [a] := answers_scored ..
  have mastery : (s.scored settings pending c q transcript similarity now).mastery =
      s.mastery.record settings.scoring s.id c.id q a.correctness a.misconceptions := by
    rfl
  have estimate : (⟨(s.scored settings pending c q transcript similarity now).theta,
      (s.scored settings pending c q transcript similarity now).standardError⟩ :
        Ability.Estimate Float) =
      settings.estimator.update ⟨s.theta, s.standardError⟩
        (itemsOf settings (s.answers ++ [a])) := by
    rfl
  refine ⟨?_, ?_, ?_, ?_⟩
  · rw [estimate, answers, tallied.estimate, estimateAfter_append]
  · rw [mastery, answers, id_scored, rubric_scored, masteryAfter_append settings s.id _ _ a found,
      ← tallied.mastery]
  · intro id
    rw [mastery, answers, Mastery.mem_keys_record_iff, tallied.concepts, List.map_append,
      List.mem_append, or_comm]
    exact or_congr_right List.mem_singleton.symm
  · rw [mastery, answers, Mastery.sum_record, tallied.counts]
    rw [List.length_append, List.length_singleton]

theorem Tallied.ask (tallied : s.Tallied settings) (c : Concept) (q : Question) (now : Instant) :
    (s.ask c q now).Tallied settings :=
  ⟨tallied.estimate, tallied.mastery, tallied.concepts, tallied.counts⟩

theorem Tallied.finish (tallied : s.Tallied settings) (status : Status) (termination : Termination)
    (reason : Option String) (now : Instant) :
    (s.finish settings status termination reason now).1.Tallied settings :=
  ⟨tallied.estimate, tallied.mastery, tallied.concepts, tallied.counts⟩

/-- Whoever ends a session decides it, on all that it has been told. -/
theorem decided_finish (settings : Settings) (s : Session) (status : Status)
    (termination : Termination) (reason : Option String) (now : Instant) :
    (s.finish settings status termination reason now).1.Decided settings now := by
  -- The verdict is taken before the session is marked as ended, which it does not look at.
  have verdict : Verdict.ofSession settings.grading settings.scoring
      (s.finish settings status termination reason now).1 now =
      Verdict.ofSession settings.grading settings.scoring s now :=
    Verdict.ofSession_congr rfl rfl rfl rfl now
  have flags : Flag.ofSession settings.flags (s.finish settings status termination reason now).1 =
      Flag.ofSession settings.flags s :=
    Flag.ofSession_congr rfl rfl rfl
  unfold Decided
  rw [verdict, flags]
  exact ⟨rfl, rfl, rfl, rfl, rfl, rfl⟩

theorem Replayed.finish (tallied : s.Tallied settings) {status : Status} (ended : status.isTerminal)
    (termination : Termination) (reason : Option String) (now : Instant) :
    (s.finish settings status termination reason now).1.Replayed settings := by
  refine ⟨tallied.finish status termination reason now, ?_, ?_⟩
  · intro going
    rw [status_finish] at going
    rw [going] at ended
    cases ended
  · exact fun _ => ⟨now, rfl, decided_finish settings s status termination reason now⟩

theorem Opens.replayed (opens : Opens settings s) : s.Replayed settings := by
  cases opens with
  | intro checked choice =>
    refine ⟨⟨rfl, rfl, ?_, rfl⟩, fun _ => ⟨rfl, rfl, rfl, rfl⟩, ?_⟩
    · intro id
      exact Iff.rfl
    · intro ended
      cases ended

theorem Undecided.scored (undecided : s.Undecided) (settings : Settings) (pending : Pending)
    (c : Concept) (q : Question) (transcript : String) (similarity : Option Float) (now : Instant) :
    (s.scored settings pending c q transcript similarity now).Undecided := by
  simpa only [Undecided, Session.scored, withAnswer, estimated, withTurn] using undecided

theorem Step.replayed (replayed : s.Replayed settings) (step : Step settings s deed s') :
    s'.Replayed settings := by
  have tallied := replayed.toTallied
  cases step with
  | refused => exact replayed
  | failed going missing => exact .finish tallied rfl _ _ _
  | @asked transcript similarity now pending c q a chosen going waiting scored rule choice =>
    subst scored
    have found := question?_of_pendingQuestion? waiting
    have undecided := (replayed.undecided going).scored settings pending c q transcript similarity
      now
    refine ⟨(tallied.scored found transcript similarity now).ask _ _ now, fun _ => undecided, ?_⟩
    intro ended
    rw [status_ask, status_scored, going] at ended
    cases ended
  | @completed transcript similarity now pending c q a termination going waiting scored why =>
    subst scored
    have found := question?_of_pendingQuestion? waiting
    exact .finish (tallied.scored found transcript similarity now) rfl _ _ _
  | submitted going | abandoned going | idled going idle => exact .finish tallied rfl _ _ _
  | reviewed ended done =>
    subst done
    refine ⟨⟨tallied.estimate, tallied.mastery, tallied.concepts, tallied.counts⟩,
      replayed.undecided, ?_⟩
    intro ended
    obtain ⟨moment, completed, decided⟩ := replayed.decided ended
    exact ⟨moment, completed, decided⟩

theorem Reached.replayed (reached : Reached settings s) : s.Replayed settings := by
  obtain ⟨s₀, deeds, opens, course⟩ := reached
  induction course with
  | start => exact opens.replayed
  | next before step ih => exact step.replayed ih

end Session

/-! ## What was submitted -/

/-- The transcript and the similarity that a deed submitted, if they were taken. -/
def Deed.submission? (deed : Deed) : Option (String × Option Float) :=
  match deed.task, deed.report with
  | .answer transcript similarity, .answered (.ok _) => some (transcript, similarity)
  | _, _ => none

def submissionsOf (deeds : List Deed) : List (String × Option Float) :=
  deeds.filterMap Deed.submission?

@[simp] theorem submissionsOf_append (deeds later : List Deed) :
    submissionsOf (deeds ++ later) = submissionsOf deeds ++ submissionsOf later :=
  List.filterMap_append

theorem submissionsOf_single (deed : Deed) : submissionsOf [deed] = deed.submission?.toList := by
  cases same : deed.submission? <;> simp [submissionsOf, same]

/-- The answer is what the assessment makes of a transcript, with what the rubric says of the
question. -/
def Answer.Assessed (settings : Settings) (r : Rubric) (transcript : String)
    (similarity : Option Float) (a : Answer) : Prop :=
  ∃ c q, r.question? a.questionId = some (c, q) ∧ a.conceptId = c.id ∧
    a.discrimination = q.discrimination ∧ a.difficulty = q.difficulty ∧
    a.expectedSeconds = q.expectedSeconds ∧
    let judgement := Scoring.assess settings.scoring c q transcript similarity
    a.correctness = judgement.correctness ∧
      a.misconceptions = judgement.misconceptions.map ShownMisconception.id

theorem Deed.submission?_of_isRefusal {deed : Deed} (refusal : deed.report.isRefusal) :
    deed.submission? = none := by
  obtain ⟨task, now, report⟩ := deed
  unfold submission?
  split
  · rename_i answered
    simp only at answered
    subst answered
    cases refusal
  · rfl

namespace Session

variable {settings : Settings} {s s' : Session} {deed : Deed}
  {submissions : List (String × Option Float)}

/-- The answers are what became of the submissions, one by one. -/
structure Told (settings : Settings) (submissions : List (String × Option Float)) (s : Session) :
    Prop where
  length : submissions.length = s.answers.length
  each : ∀ k a, s.answers[k]? = some a → ∃ turn similarity, s.turns[2 * k + 1]? = some turn ∧
    submissions[k]? = some (turn.text, similarity) ∧
    a.Assessed settings s.rubric turn.text similarity

theorem assessed_answerTo {pending : Pending} {c : Concept} {q : Question}
    (found : s.rubric.question? q.id = some (c, q)) (transcript : String)
    (similarity : Option Float) (now : Instant) :
    (s.answerTo settings pending c q transcript similarity now).Assessed settings s.rubric
      transcript similarity :=
  ⟨c, q, found, rfl, rfl, rfl, rfl, rfl, rfl⟩

theorem Told.scored (told : s.Told settings submissions) (pending : Pending) {c : Concept}
    {q : Question} (found : s.rubric.question? q.id = some (c, q))
    (count : s.turns.length = 2 * s.answers.length + 1) (transcript : String)
    (similarity : Option Float) (now : Instant) :
    (s.scored settings pending c q transcript similarity now).Told settings
      (submissions ++ [(transcript, similarity)]) := by
  constructor
  · rw [answers_scored, List.length_append, List.length_append, told.length]
    rfl
  · intro k a selected
    rw [answers_scored] at selected
    rw [turns_scored, rubric_scored]
    rcases selected_or_last selected with old | ⟨rfl, rfl⟩
    · obtain ⟨turn, similarity', said, sent, assessed⟩ := told.each k a old
      exact ⟨turn, similarity', selected_append said _, selected_append sent _, assessed⟩
    · -- The new answer stands right after the question that was open.
      refine ⟨⟨s.nextTurnNumber, .student, transcript, some q.id, now⟩, similarity, ?_, ?_,
        assessed_answerTo found transcript similarity now⟩
      · rw [← count, List.getElem?_concat_length]
      · rw [← told.length, List.getElem?_concat_length]

theorem Told.ask (told : s.Told settings submissions) (c : Concept) (q : Question)
    (now : Instant) : (s.ask c q now).Told settings submissions := by
  refine ⟨told.length, ?_⟩
  intro k a selected
  obtain ⟨turn, similarity, said, sent, assessed⟩ := told.each k a selected
  rw [turns_ask]
  exact ⟨turn, similarity, selected_append said _, sent, assessed⟩

theorem Told.finish (told : s.Told settings submissions) (status : Status)
    (termination : Termination) (reason : Option String) (now : Instant) :
    (s.finish settings status termination reason now).1.Told settings submissions :=
  ⟨told.length, told.each⟩

theorem Step.told (proper : s.Proper) (told : s.Told settings submissions)
    (step : Step settings s deed s') :
    s'.Told settings (submissions ++ deed.submission?.toList) := by
  have taken {pending : Pending} {c : Concept} {q : Question} (going : s.status = .inProgress)
      (waiting : s.pendingQuestion? = some (pending, c, q)) (transcript : String)
      (similarity : Option Float) (now : Instant) :=
    told.scored pending (question?_of_pendingQuestion? waiting)
      (by simpa [going] using proper.alternating.length) transcript similarity now
  cases step with
  | refused refusal known =>
    rw [Deed.submission?_of_isRefusal refusal]
    simpa using told
  | failed going missing => simpa [Deed.submission?] using told.finish _ _ _ _
  | @asked transcript similarity now pending c q a chosen going waiting scored rule choice =>
    subst scored
    exact (taken going waiting transcript similarity now).ask _ _ now
  | @completed transcript similarity now pending c q a termination going waiting scored why =>
    subst scored
    exact (taken going waiting transcript similarity now).finish _ _ _ now
  | submitted going | abandoned going | idled going idle =>
    simpa [Deed.submission?] using told.finish _ _ _ _
  | reviewed ended done =>
    subst done
    change Told settings (submissions ++ []) _
    rw [List.append_nil]
    exact ⟨told.length, told.each⟩

theorem Opens.told (opens : Opens settings s) : s.Told settings [] := by
  cases opens with
  | intro checked choice =>
    refine ⟨rfl, ?_⟩
    intro k a selected
    cases selected

theorem Course.told {s₀ : Session} {deeds : List Deed} (opens : Opens settings s₀)
    (course : Course settings s₀ deeds s) : s.Told settings (submissionsOf deeds) := by
  induction course with
  | start => exact opens.told
  | @next deeds t deed t' before step ih =>
    have reached : Reached settings t := ⟨s₀, deeds, opens, before⟩
    rw [submissionsOf_append, submissionsOf_single]
    exact step.told reached.proper ih

end Session

end OralExam
