import OralExam.Proofs.Rubric.Checked
import OralExam.Proofs.Selection
import OralExam.Session.Conduct
import OralExam.Session.Registry

/-! The course of a session: how it opens, and what becomes of it by one deed after another.

`Step` says all that a task done under the session's lock can do to it. What holds of a session when
it opens and is kept by every step holds throughout its course.
-/

set_option autoImplicit false

namespace OralExam

/-- What is done to a session under its lock. -/
inductive Task where
  | answer (transcript : String) (similarity : Option Float)
  | endEarly (reason : Option String) (abandoned : Bool)
  | review (reviewer : String) (scoreOverride : Option Float) (reason : Option String)
  | abandonIdle (cutoff : Instant)
  deriving DecidableEq

/-- What a task gives. -/
inductive Report where
  | answered (result : Except Failure Outcome)
  | ended (result : Except Failure Session)
  | reviewed (result : Except Failure Session)
  | abandoned (result : Except Failure Bool)

/-- The task was not carried out. -/
def Report.isRefusal : Report → Bool
  | answered (.error _) | ended (.error _) | reviewed (.error _) | abandoned (.error _) => true
  | abandoned (.ok false) => true
  | answered (.ok _) | ended (.ok _) | reviewed (.ok _) | abandoned (.ok true) => false

namespace Handling

variable {β γ : Type}

def map (f : β → γ) : Handling β → Handling γ
  | leave result => leave (f result)
  | replace s alert result => replace s alert (f result)

def result : Handling β → β
  | leave result | replace _ _ result => result

/-- The session afterwards. -/
def session (before : Session) : Handling β → Session
  | leave _ => before
  | replace s _ _ => s

@[simp] theorem result_map (f : β → γ) (h : Handling β) : (h.map f).result = f h.result := by
  cases h <;> rfl

@[simp] theorem session_map (f : β → γ) (h : Handling β) (before : Session) :
    (h.map f).session before = h.session before := by
  cases h <;> rfl

end Handling

def Task.perform (settings : Settings) (now : Instant) (s : Session) : Task → Handling Report
  | answer transcript similarity =>
    (s.answer settings transcript similarity now).map .answered
  | endEarly reason abandoned => (s.endEarly settings reason abandoned now).map .ended
  | review reviewer scoreOverride reason =>
    (s.takeReview reviewer scoreOverride reason now).map .reviewed
  | abandonIdle cutoff => (s.abandonIdle settings cutoff now).map .abandoned

/-- A task done at a time, and what it gave. -/
structure Deed where
  task : Task
  now : Instant
  report : Report

namespace Session

/-- What a session is from the start. -/
structure Origin where
  id : String
  pair : String × String
  attempt : Nat
  rubric : Rubric
  assignment : Assignment
  startedAt : Instant

def origin (s : Session) : Origin := ⟨s.id, s.pair, s.attempt, s.rubric, s.assignment, s.startedAt⟩

/-- What is kept of a scored answer to the pending question. -/
def answerTo (settings : Settings) (s : Session) (pending : Pending) (c : Concept) (q : Question)
    (transcript : String) (similarity : Option Float) (now : Instant) : Answer :=
  let judgement := Scoring.assess settings.scoring c q transcript similarity
  { turnNumber := s.nextTurnNumber
    questionId := q.id
    conceptId := c.id
    discrimination := q.discrimination
    difficulty := q.difficulty
    correctness := judgement.correctness
    misconceptions := judgement.misconceptions.map ShownMisconception.id
    latencySeconds := Float.ofInt (now.millisecondsSince pending.askedAt) / 1000.0
    expectedSeconds := q.expectedSeconds }

/-- The session with an answer to the pending question scored. -/
def scored (settings : Settings) (s : Session) (pending : Pending) (c : Concept) (q : Question)
    (transcript : String) (similarity : Option Float) (now : Instant) : Session :=
  s.withAnswer settings pending c q transcript
    (Scoring.assess settings.scoring c q transcript similarity) now

/-- All that one deed can make of a session. -/
inductive Step (settings : Settings) (s : Session) : Deed → Session → Prop where
  | refused {deed : Deed} (refusal : deed.report.isRefusal)
      (known : ∀ id, deed.report ≠ .answered (.error (.questionUnavailable id))) :
      Step settings s deed s
  | failed {transcript : String} {similarity : Option Float} {now : Instant}
      (going : s.status = .inProgress) (missing : s.pendingQuestion? = none) :
      Step settings s
        ⟨.answer transcript similarity, now, .answered (.error (.questionUnavailable s.id))⟩
        (s.finish settings .failed .error (some "pending question unavailable") now).1
  | asked {transcript : String} {similarity : Option Float} {now : Instant} {pending : Pending}
      {c : Concept} {q : Question} {a : Session} {chosen : Candidate Float}
      (going : s.status = .inProgress) (waiting : s.pendingQuestion? = some (pending, c, q))
      (scored : a = s.scored settings pending c q transcript similarity now)
      (rule : a.stoppingRule settings.exam = none)
      (choice : a.rubric.selectNext a.theta a.asked = some chosen) :
      Step settings s
        ⟨.answer transcript similarity, now, .answered (.ok
          ⟨a.ask chosen.concept chosen.question now,
            Scoring.assess settings.scoring c q transcript similarity,
            .question (.of (a.questionsAnswered + 1) chosen.concept chosen.question)⟩)⟩
        (a.ask chosen.concept chosen.question now)
  | completed {transcript : String} {similarity : Option Float} {now : Instant} {pending : Pending}
      {c : Concept} {q : Question} {a : Session} {termination : Termination}
      (going : s.status = .inProgress) (waiting : s.pendingQuestion? = some (pending, c, q))
      (scored : a = s.scored settings pending c q transcript similarity now)
      (why : a.stoppingRule settings.exam = some termination ∨
        a.stoppingRule settings.exam = none ∧ a.rubric.selectNext a.theta a.asked = none ∧
          termination = .itemPoolExhausted) :
      Step settings s
        ⟨.answer transcript similarity, now, .answered (.ok
          ⟨(a.finish settings .completed termination none now).1,
            Scoring.assess settings.scoring c q transcript similarity,
            .finished (a.finish settings .completed termination none now).2⟩)⟩
        (a.finish settings .completed termination none now).1
  | submitted {reason : Option String} {now : Instant} (going : s.status = .inProgress) :
      Step settings s
        ⟨.endEarly reason false, now,
          .ended (.ok (s.finish settings .submitted .studentSubmitted reason now).1)⟩
        (s.finish settings .submitted .studentSubmitted reason now).1
  | abandoned {reason : Option String} {now : Instant} (going : s.status = .inProgress) :
      Step settings s
        ⟨.endEarly reason true, now,
          .ended (.ok (s.finish settings .abandoned .abandoned reason now).1)⟩
        (s.finish settings .abandoned .abandoned reason now).1
  | idled {cutoff now : Instant} (going : s.status = .inProgress)
      (idle : s.lastActivityAt < cutoff) :
      Step settings s ⟨.abandonIdle cutoff, now, .abandoned (.ok true)⟩
        (s.finish settings .abandoned .abandoned (some "inactivity timeout") now).1
  | reviewed {reviewer : String} {scoreOverride : Option Float} {reason : Option String}
      {now : Instant} {s' : Session} (ended : s.status.isTerminal)
      (done : s' = { s with review := ⟨true, some reviewer, some now, scoreOverride, reason⟩ }) :
      Step settings s ⟨.review reviewer scoreOverride reason, now, .reviewed (.ok s')⟩ s'

section

variable {settings : Settings} {a : Session}

theorem goOn_of_rule {termination : Termination}
    (rule : a.stoppingRule settings.exam = some termination) (now : Instant) :
    a.goOn settings now = ((a.finish settings .completed termination none now).1,
      .finished (a.finish settings .completed termination none now).2) := by
  simp only [goOn, rule]

theorem goOn_of_choice (rule : a.stoppingRule settings.exam = none) {chosen : Candidate Float}
    (choice : a.rubric.selectNext a.theta a.asked = some chosen) (now : Instant) :
    a.goOn settings now = (a.ask chosen.concept chosen.question now,
      .question (.of (a.questionsAnswered + 1) chosen.concept chosen.question)) := by
  simp only [goOn, rule, askNext, choice, Option.map_some]

theorem goOn_of_exhausted (rule : a.stoppingRule settings.exam = none)
    (exhausted : a.rubric.selectNext a.theta a.asked = none) (now : Instant) :
    a.goOn settings now = ((a.finish settings .completed .itemPoolExhausted none now).1,
      .finished (a.finish settings .completed .itemPoolExhausted none now).2) := by
  simp only [goOn, rule, askNext, exhausted, Option.map_none]

end

theorem pendingQuestion?_eq_some_iff {s : Session} {pending : Pending} {c : Concept} {q : Question} :
    s.pendingQuestion? = some (pending, c, q) ↔
      s.pending = some pending ∧ s.rubric.question? pending.questionId = some (c, q) := by
  unfold pendingQuestion?
  cases s.pending with
  | none => simp
  | some p =>
    cases found : s.rubric.question? p.questionId with
    | none => grind
    | some owner => grind

theorem question?_of_pendingQuestion? {s : Session} {pending : Pending} {c : Concept} {q : Question}
    (waiting : s.pendingQuestion? = some (pending, c, q)) :
    s.rubric.question? q.id = some (c, q) := by
  have found := (pendingQuestion?_eq_some_iff.mp waiting).2
  rw [(Rubric.mem_of_question? found).2.2]
  exact found

theorem answer_of_waiting {s : Session} {pending : Pending} {c : Concept} {q : Question}
    (settings : Settings) (transcript : String) {similarity : Option Float} (now : Instant)
    (going : s.status = .inProgress) (admitted : similarity.filter (!isShare ·) = none)
    (waiting : s.pendingQuestion? = some (pending, c, q)) :
    let next := (s.scored settings pending c q transcript similarity now).goOn settings now
    s.answer settings transcript similarity now = .replace next.1 next.1.alert?
      (.ok ⟨next.1, Scoring.assess settings.scoring c q transcript similarity, next.2⟩) := by
  simp only [answer, going, ne_eq, not_true_eq_false, if_false, admitted, waiting]
  rfl

theorem answer_step (settings : Settings) (s : Session) (transcript : String)
    (similarity : Option Float) (now : Instant) :
    Step settings s
      ⟨.answer transcript similarity, now,
        .answered (s.answer settings transcript similarity now).result⟩
      ((s.answer settings transcript similarity now).session s) := by
  -- The cases are the checks of an answer in their order, then the two ways to go on.
  by_cases going : s.status = .inProgress
  case neg =>
    simp only [answer, going, ne_eq, not_false_eq_true, if_true]
    exact .refused rfl nofun
  case pos =>
  cases admitted : similarity.filter (!isShare ·) with
  | some x =>
    simp only [answer, going, ne_eq, not_true_eq_false, if_false, admitted]
    exact .refused rfl nofun
  | none =>
  cases waiting : s.pendingQuestion? with
  | none =>
    simp only [answer, going, ne_eq, not_true_eq_false, if_false, admitted, waiting]
    exact .failed going waiting
  | some found =>
    obtain ⟨pending, c, q⟩ := found
    rw [answer_of_waiting settings transcript now going admitted waiting]
    cases rule : (s.scored settings pending c q transcript similarity now).stoppingRule
        settings.exam with
    | some termination =>
      rw [goOn_of_rule rule]
      exact .completed going waiting rfl (.inl rule)
    | none =>
      cases choice : (s.scored settings pending c q transcript similarity now).rubric.selectNext
          (s.scored settings pending c q transcript similarity now).theta
          (s.scored settings pending c q transcript similarity now).asked with
      | some chosen =>
        rw [goOn_of_choice rule choice]
        exact .asked going waiting rfl rule choice
      | none =>
        rw [goOn_of_exhausted rule choice]
        exact .completed going waiting rfl (.inr ⟨rule, choice, rfl⟩)

theorem reviewed_ok {s s' : Session} {reviewer : String} {scoreOverride : Option Float}
    {reason : Option String} {now : Instant}
    (done : s.reviewed reviewer scoreOverride reason now = .ok s') :
    s.status.isTerminal ∧
      s' = { s with review := ⟨true, some reviewer, some now, scoreOverride, reason⟩ } := by
  unfold reviewed at done
  split at done
  · cases done
  · rename_i ended
    split at done
    · cases done
    · split at done
      · cases done
      · exact ⟨by simpa using ended, (Except.ok.inj done).symm⟩

theorem perform_step (settings : Settings) (s : Session) (task : Task) (now : Instant) :
    Step settings s ⟨task, now, (task.perform settings now s).result⟩
      ((task.perform settings now s).session s) := by
  cases task with
  | answer transcript similarity =>
    simpa [Task.perform] using answer_step settings s transcript similarity now
  | endEarly reason abandoned =>
    simp only [Task.perform, endEarly]
    split
    · exact .refused rfl nofun
    · rename_i going
      have going : s.status = .inProgress := Decidable.not_not.mp going
      cases abandoned with
      | true => exact .abandoned going
      | false => exact .submitted going
  | review reviewer scoreOverride reason =>
    simp only [Task.perform, takeReview]
    cases outcome : s.reviewed reviewer scoreOverride reason now with
    | error e => exact .refused rfl nofun
    | ok s' =>
      obtain ⟨ended, done⟩ := reviewed_ok outcome
      exact .reviewed ended done
  | abandonIdle cutoff =>
    simp only [Task.perform, abandonIdle]
    split
    · rename_i idle
      simp only [isIdleSince, Bool.and_eq_true, decide_eq_true_eq] at idle
      exact .idled idle.1 idle.2
    · exact .refused rfl nofun

/-! ## What the parts of a step do to the fields of a session -/

section

variable (s : Session) (c : Concept) (q : Question) (now : Instant)

@[simp] theorem origin_ask : (s.ask c q now).origin = s.origin := by rfl

@[simp] theorem status_ask : (s.ask c q now).status = s.status := by rfl

@[simp] theorem rubric_ask : (s.ask c q now).rubric = s.rubric := by rfl

@[simp] theorem turns_ask : (s.ask c q now).turns =
    s.turns ++ [⟨s.nextTurnNumber, .examiner, q.text, some q.id, now⟩] := by rfl

@[simp] theorem answers_ask : (s.ask c q now).answers = s.answers := by rfl

@[simp] theorem pending_ask : (s.ask c q now).pending = some ⟨q.id, c.id, now⟩ := by rfl

variable (settings : Settings) (pending : Pending) (transcript : String) (similarity : Option Float)

@[simp] theorem origin_scored :
    (s.scored settings pending c q transcript similarity now).origin = s.origin := by
  simp only [origin, pair, scored, withAnswer, estimated, withTurn]

@[simp] theorem id_scored :
    (s.scored settings pending c q transcript similarity now).id = s.id := by
  simp only [scored, withAnswer, estimated, withTurn]

@[simp] theorem status_scored :
    (s.scored settings pending c q transcript similarity now).status = s.status := by
  simp only [scored, withAnswer, estimated, withTurn]

@[simp] theorem rubric_scored :
    (s.scored settings pending c q transcript similarity now).rubric = s.rubric := by
  simp only [scored, withAnswer, estimated, withTurn]

@[simp] theorem turns_scored :
    (s.scored settings pending c q transcript similarity now).turns =
      s.turns ++ [⟨s.nextTurnNumber, .student, transcript, some q.id, now⟩] := by
  simp only [scored, withAnswer, estimated, withTurn]

@[simp] theorem answers_scored :
    (s.scored settings pending c q transcript similarity now).answers =
      s.answers ++ [s.answerTo settings pending c q transcript similarity now] := by
  simp only [scored, withAnswer, estimated, withTurn]
  rfl

variable (status : Status) (termination : Termination) (reason : Option String)

@[simp] theorem origin_finish :
    (s.finish settings status termination reason now).1.origin = s.origin := by rfl

@[simp] theorem status_finish :
    (s.finish settings status termination reason now).1.status = status := by rfl

@[simp] theorem rubric_finish :
    (s.finish settings status termination reason now).1.rubric = s.rubric := by rfl

@[simp] theorem turns_finish :
    (s.finish settings status termination reason now).1.turns = s.turns := by rfl

@[simp] theorem answers_finish :
    (s.finish settings status termination reason now).1.answers = s.answers := by rfl

@[simp] theorem pending_finish :
    (s.finish settings status termination reason now).1.pending = none := by rfl

end

variable {settings : Settings} {s s' : Session} {deed : Deed}

/-! ## What every step keeps -/

theorem Step.origin_eq (step : Step settings s deed s') : s'.origin = s.origin := by
  cases step with
  | refused => rfl
  | asked going waiting scored rule choice => simp [scored]
  | completed going waiting scored why => simp [scored]
  | failed going missing => simp
  | submitted | abandoned | idled => simp
  | reviewed ended done => subst done; rfl

theorem Step.id_eq (step : Step settings s deed s') : s'.id = s.id :=
  congrArg Origin.id step.origin_eq

theorem Step.rubric_eq (step : Step settings s deed s') : s'.rubric = s.rubric :=
  congrArg Origin.rubric step.origin_eq

theorem Step.isTerminal (step : Step settings s deed s') (ended : s.status.isTerminal) :
    s'.status.isTerminal := by
  cases step with
  | refused => exact ended
  | reviewed _ done => subst done; exact ended
  | failed going _ | asked going _ _ _ _ | completed going _ _ _ | submitted going
  | abandoned going | idled going _ => simp [going, Status.isTerminal] at ended

theorem Step.turns_prefix (step : Step settings s deed s') : s.turns <+: s'.turns := by
  cases step with
  | refused => exact List.prefix_rfl
  | asked going waiting scored rule choice => simp [scored]
  | completed going waiting scored why => simp [scored]
  | failed going missing => simp
  | submitted | abandoned | idled => simp
  | reviewed ended done => subst done; exact List.prefix_rfl

/-! ## Openings and courses -/

/-- The session has just been asked its first question. -/
inductive Opens (settings : Settings) : Session → Prop where
  | intro {id studentId : String} {attempt : Nat} {assignment : Assignment} {rubric : Rubric}
      {now : Instant} {chosen : Candidate Float} (checked : rubric.Checked)
      (choice : rubric.selectNext settings.estimator.initial.theta [] = some chosen) :
      Opens settings ((blank id studentId attempt assignment rubric settings.estimator.initial
        now).ask chosen.concept chosen.question now)

/-- The deeds, one after another, make the first session the second one. -/
inductive Course (settings : Settings) (s₀ : Session) : List Deed → Session → Prop where
  | start : Course settings s₀ [] s₀
  | next {deeds : List Deed} {s : Session} {deed : Deed} {s' : Session}
      (before : Course settings s₀ deeds s) (step : Step settings s deed s') :
      Course settings s₀ (deeds ++ [deed]) s'

namespace Course

variable {s₀ : Session} {deeds : List Deed}

theorem origin_eq (course : Course settings s₀ deeds s) : s.origin = s₀.origin := by
  induction course with
  | start => rfl
  | next before step ih => exact step.origin_eq.trans ih

theorem resume {later : List Deed} (course : Course settings s₀ deeds s)
    (rest : Course settings s later s') : Course settings s₀ (deeds ++ later) s' := by
  induction rest with
  | start => simpa using course
  | next before step ih =>
    rw [← List.append_assoc]
    exact ih.next step

/-- Every deed of a course is a step from one of its stages. -/
theorem step_of_mem (course : Course settings s₀ deeds s) (member : deed ∈ deeds) :
    ∃ earlier t t', Course settings s₀ earlier t ∧ Step settings t deed t' := by
  induction course with
  | start => cases member
  | @next deeds t last t' before step ih =>
    rcases List.mem_append.mp member with old | new
    · exact ih old
    · cases List.mem_singleton.mp new
      exact ⟨deeds, t, t', before, step⟩

theorem isTerminal (course : Course settings s₀ deeds s) (ended : s₀.status.isTerminal) :
    s.status.isTerminal := by
  induction course with
  | start => exact ended
  | next before step ih => exact step.isTerminal ih

theorem turns_prefix (course : Course settings s₀ deeds s) : s₀.turns <+: s.turns := by
  induction course with
  | start => exact List.prefix_rfl
  | next before step ih => exact ih.trans step.turns_prefix

end Course

/-- The session can come up. -/
def Reached (settings : Settings) (s : Session) : Prop :=
  ∃ s₀ deeds, Opens settings s₀ ∧ Course settings s₀ deeds s

theorem Reached.step (reached : Reached settings s) (step : Step settings s deed s') :
    Reached settings s' := by
  obtain ⟨s₀, deeds, opens, course⟩ := reached
  exact ⟨s₀, deeds ++ [deed], opens, course.next step⟩

end Session

end OralExam
