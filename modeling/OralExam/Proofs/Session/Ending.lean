import OralExam.Proofs.Session.Replay

/-! Sessions that have ended.

Only reviews are still taken into such a session, and they touch nothing but its review, which is
that of the latest one accepted. Answers, ends and sweeps come too late.
-/

set_option autoImplicit false

namespace OralExam

/-! ## Reviews in the course of deeds -/

/-- The review that the deed put down, if it was accepted. -/
def Deed.review? (deed : Deed) : Option Review :=
  match deed.task, deed.report with
  | .review reviewer scoreOverride reason, .reviewed (.ok _) =>
    some ⟨true, some reviewer, some deed.now, scoreOverride, reason⟩
  | _, _ => none

/-- The latest accepted review among the deeds, all five fields of it; blank if there is none. -/
def latestReview (deeds : List Deed) : Review := (deeds.filterMap Deed.review?).getLast?.getD {}

theorem Deed.review?_of_isRefusal {deed : Deed} (refusal : deed.report.isRefusal) :
    deed.review? = none := by
  obtain ⟨task, now, report⟩ := deed
  unfold review?
  split
  · rename_i reviewed
    simp only at reviewed
    subst reviewed
    cases refusal
  · rfl

theorem latestReview_append (deeds : List Deed) (deed : Deed) :
    latestReview (deeds ++ [deed]) = deed.review?.getD (latestReview deeds) := by
  cases taken : deed.review? <;> simp [latestReview, taken]

namespace Session

variable {settings : Settings} {s s' s₀ : Session} {deed : Deed} {deeds : List Deed}

@[simp] theorem review_scored (settings : Settings) (s : Session) (pending : Pending) (c : Concept)
    (q : Question) (transcript : String) (similarity : Option Float) (now : Instant) :
    (s.scored settings pending c q transcript similarity now).review = s.review := by
  simp only [scored, withAnswer, estimated, withTurn]

@[simp] theorem review_ask (s : Session) (c : Concept) (q : Question) (now : Instant) :
    (s.ask c q now).review = s.review := by rfl

@[simp] theorem review_finish (settings : Settings) (s : Session) (status : Status)
    (termination : Termination) (reason : Option String) (now : Instant) :
    (s.finish settings status termination reason now).1.review = s.review := by rfl

theorem Step.review_eq (step : Step settings s deed s') :
    s'.review = deed.review?.getD s.review := by
  cases step with
  | refused refusal => rw [Deed.review?_of_isRefusal refusal, Option.getD_none]
  | failed | submitted | abandoned | idled => simp [Deed.review?]
  | asked going waiting scored rule choice => simp [Deed.review?, scored]
  | completed going waiting scored why => simp [Deed.review?, scored]
  | reviewed ended done =>
    subst done
    rfl

theorem Course.review_eq (opens : Opens settings s₀) (course : Course settings s₀ deeds s) :
    s.review = latestReview deeds := by
  induction course with
  | start =>
    cases opens
    rfl
  | next before step ih => rw [step.review_eq, ih, latestReview_append]

/-! ## After the end -/

/-- Nothing but the review of a session that has ended is touched. -/
theorem Step.eq_of_ended (ended : s.status.isTerminal) (step : Step settings s deed s') :
    s' = { s with review := s'.review } := by
  cases step with
  | refused => rfl
  | reviewed _ done =>
    subst done
    rfl
  | failed going _ | asked going _ _ _ _ | completed going _ _ _ | submitted going
  | abandoned going | idled going _ => simp [going, Status.isTerminal] at ended

theorem Course.eq_of_ended (ended : s₀.status.isTerminal) (course : Course settings s₀ deeds s) :
    s = { s₀ with review := s.review } := by
  induction course with
  | start => rfl
  | next before step ih =>
    have later := step.eq_of_ended (before.isTerminal ended)
    rw [later, ih]

end Session

/-- What a task other than a review gives when it comes to a session that has ended. -/
def Task.tooLate? (id : String) (status : Status) : Task → Option Report
  | answer _ _ => some (.answered (.error (.notAnswerable id status)))
  | endEarly _ _ => some (.ended (.error (.notEndable id status)))
  | abandonIdle _ => some (.abandoned (.ok false))
  | review _ _ _ => none

namespace Session

variable {s : Session}

theorem perform_of_ended (ended : s.status.isTerminal) {task : Task} {report : Report}
    (late : task.tooLate? s.id s.status = some report) (settings : Settings) (now : Instant) :
    task.perform settings now s = .leave report := by
  have stopped : s.status ≠ .inProgress := by
    intro going
    rw [going] at ended
    cases ended
  cases task with
  | answer transcript similarity =>
    cases late
    simp only [Task.perform, answer, ne_eq, stopped, not_false_eq_true, if_true]
    rfl
  | endEarly reason abandoned =>
    cases late
    simp only [Task.perform, endEarly, ne_eq, stopped, not_false_eq_true, if_true]
    rfl
  | review => cases late
  | abandonIdle cutoff =>
    cases late
    simp only [Task.perform, abandonIdle, isIdleSince, stopped, decide_false, Bool.false_and,
      Bool.false_eq_true, if_false]
    rfl

/-- The session has ended, somebody signs the review, and an override is a number from zero to one. -/
def AcceptsReview (s : Session) (reviewer : String) (scoreOverride : Option Float) : Prop :=
  s.status.isTerminal ∧ Text.isBlank reviewer = false ∧ ∀ x, scoreOverride = some x → isShare x

theorem reviewed_of_accepts {reviewer : String} {scoreOverride : Option Float}
    (accepts : s.AcceptsReview reviewer scoreOverride) (reason : Option String) (now : Instant) :
    s.reviewed reviewer scoreOverride reason now =
      .ok { s with review := ⟨true, some reviewer, some now, scoreOverride, reason⟩ } := by
  obtain ⟨ended, signed, share⟩ := accepts
  have within : scoreOverride.filter (!isShare ·) = none := by
    cases scoreOverride with
    | none => rfl
    | some x => simp [share x rfl]
  simp [reviewed, ended, signed, within]

theorem reviewed_of_not_accepts {reviewer : String} {scoreOverride : Option Float}
    (refused : ¬s.AcceptsReview reviewer scoreOverride) (reason : Option String) (now : Instant) :
    ∃ e, s.reviewed reviewer scoreOverride reason now = .error e := by
  unfold reviewed
  split
  · exact ⟨_, rfl⟩
  · rename_i ended
    split
    · exact ⟨_, rfl⟩
    · rename_i signed
      split
      · exact ⟨_, rfl⟩
      · rename_i within
        refine absurd ⟨by simpa using ended, by simpa using signed, ?_⟩ refused
        rintro x rfl
        simpa using within

end Session

end OralExam
