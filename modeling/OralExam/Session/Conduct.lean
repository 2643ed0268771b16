import OralExam.Alert
import OralExam.Failure
import OralExam.Scoring
import OralExam.Selection
import OralExam.Session.Flag
import OralExam.Session.Review
import OralExam.Session.Verdict

/-! How a session is held: questions are asked and answered in turn until a stopping rule holds,
the student ends it, or nothing happens in it for too long.
-/

set_option autoImplicit false

namespace OralExam

/-- A question as it is put to the student. -/
structure AskedQuestion where
  number : Nat
  questionId : String
  conceptId : String
  conceptName : String
  text : String
  codeSnippet : Option String
  tier : Tier
  deriving DecidableEq

def AskedQuestion.of (number : Nat) (c : Concept) (q : Question) : AskedQuestion :=
  ⟨number, q.id, c.id, c.name, q.text, q.codeSnippet, q.tier⟩

/-- How a session goes on after an answer. -/
inductive NextStep where
  | question (q : AskedQuestion)
  | finished (v : Verdict)
  deriving DecidableEq

/-- What comes of an answer. -/
structure Outcome where
  session : Session
  judgement : Judgement Float
  next : NextStep
  deriving DecidableEq

/-- What an operation does to a session that it holds: it leaves the session alone, or puts another
in its place and may hand over an alert. -/
inductive Handling (β : Type) where
  | leave (result : β)
  | replace (session : Session) (alert : Option Alert) (result : β)

/-- A session that has just started, and its first question. -/
structure Opening where
  session : Session
  question : AskedQuestion
  deriving DecidableEq

namespace Session

def withTurn (s : Session) (speaker : Speaker) (text questionId : String) (now : Instant) :
    Session :=
  { s with turns := s.turns ++ [⟨s.nextTurnNumber, speaker, text, some questionId, now⟩] }

/-- Puts a question to the student. -/
def ask (s : Session) (c : Concept) (q : Question) (now : Instant) : Session :=
  { s.withTurn .examiner q.text q.id now with
    pending := some ⟨q.id, c.id, now⟩
    lastActivityAt := now }

/-- Puts the question to the student that tells most about the ability, if one is left. -/
def askNext (s : Session) (now : Instant) : Option (Session × AskedQuestion) :=
  (s.rubric.selectNext s.theta s.asked).map fun c =>
    (s.ask c.concept c.question now, .of (s.questionsAnswered + 1) c.concept c.question)

/-- A session before its first question. -/
def blank (id studentId : String) (attempt : Nat) (assignment : Assignment) (rubric : Rubric)
    (prior : Ability.Estimate Float) (now : Instant) : Session where
  id
  assignmentId := assignment.id
  studentId
  attempt
  status := .inProgress
  rubric
  assignment
  startedAt := now
  lastActivityAt := now
  theta := prior.theta
  standardError := prior.standardError

def items (settings : Settings) (s : Session) : List (Ability.Item Float) :=
  s.answers.map fun a =>
    ⟨a.discrimination, a.difficulty, settings.estimator.responseValue a.correctness⟩

/-- The ability estimated from all answers. -/
def estimated (settings : Settings) (s : Session) : Session :=
  let estimate := settings.estimator.update ⟨s.theta, s.standardError⟩ (s.items settings)
  { s with theta := estimate.theta, standardError := estimate.standardError }

/-- Why the session stops after the answers so far, if it does. -/
def stoppingRule (policy : ExamPolicy) (s : Session) : Option Termination :=
  let answered := s.questionsAnswered
  if policy.maxQuestions ≤ answered then some .maxQuestions
  else if answered < policy.minQuestions then none
  else if s.standardError < policy.precisionThreshold then some .precisionReached
  else if s.rubric.selectableConcepts.all fun c => s.mastery.contains c.id then
    some .contentCovered
  else none

/-- Ends the session with a verdict on what there is, and flags it if that is called for. -/
def finish (settings : Settings) (status : Status) (termination : Termination)
    (reason : Option String) (now : Instant) (s : Session) : Session × Verdict :=
  let verdict := Verdict.ofSession settings.grading settings.scoring s now
  let flags := Flag.ofSession settings.flags s
  ({ s with
      status
      termination := some termination
      endReason := reason
      completedAt := some now
      secondsSpent := max (now.secondsSince s.startedAt) 0
      overallScore := some verdict.overallScore
      level := some verdict.level
      passed := some verdict.passed
      verdict := some verdict
      pending := none
      lastActivityAt := now
      flagged := !flags.isEmpty
      flagReason := Flag.reason flags }, verdict)

/-- The pending question with the concept that it is about, if the rubric has it. -/
def pendingQuestion? (s : Session) : Option (Pending × Concept × Question) := do
  let pending ← s.pending
  let (c, q) ← s.rubric.question? pending.questionId
  some (pending, c, q)

/-- Takes a scored answer into the log, the estimate and the mastery. -/
def withAnswer (settings : Settings) (s : Session) (pending : Pending) (c : Concept) (q : Question)
    (transcript : String) (judgement : Judgement Float) (now : Instant) : Session :=
  let shown := judgement.misconceptions.map ShownMisconception.id
  let answer : Answer :=
    { turnNumber := s.nextTurnNumber
      questionId := q.id
      conceptId := c.id
      discrimination := q.discrimination
      difficulty := q.difficulty
      correctness := judgement.correctness
      misconceptions := shown
      latencySeconds := Float.ofInt (now.millisecondsSince pending.askedAt) / 1000.0
      expectedSeconds := q.expectedSeconds }
  let s := s.withTurn .student transcript q.id now
  let s := { s with answers := s.answers ++ [answer] }.estimated settings
  { s with
    mastery := s.mastery.record settings.scoring s.id c.id q judgement.correctness shown
    pending := none
    lastActivityAt := now }

/-- Stops, or asks the next question. -/
def goOn (settings : Settings) (s : Session) (now : Instant) : Session × NextStep :=
  let complete (termination : Termination) : Session × NextStep :=
    let (s, verdict) := s.finish settings .completed termination none now
    (s, .finished verdict)
  match s.stoppingRule settings.exam with
  | some termination => complete termination
  | none =>
    match s.askNext now with
    | some (s, question) => (s, .question question)
    | none => complete .itemPoolExhausted

/-- Takes an answer to the pending question. A session whose rubric does not have that question
cannot go on and fails. -/
def answer (settings : Settings) (transcript : String) (similarity : Option Float) (now : Instant)
    (s : Session) : Handling (Except Failure Outcome) :=
  if s.status ≠ .inProgress then .leave (.error (.notAnswerable s.id s.status))
  else match similarity.filter fun x => !isShare x with
    | some x => .leave (.error (.similarityOutOfRange x))
    | none =>
      match s.pendingQuestion? with
      | none =>
        let reason := "pending question unavailable"
        let (failed, _) := s.finish settings .failed .error (some reason) now
        .replace failed none (.error (.questionUnavailable s.id))
      | some (pending, c, q) =>
        let judgement := Scoring.assess settings.scoring c q transcript similarity
        let s := s.withAnswer settings pending c q transcript judgement now
        let (s, next) := s.goOn settings now
        .replace s s.alert? (.ok ⟨s, judgement, next⟩)

/-- Ends the session before it is complete. -/
def endEarly (settings : Settings) (reason : Option String) (abandoned : Bool) (now : Instant)
    (s : Session) : Handling (Except Failure Session) :=
  if s.status ≠ .inProgress then .leave (.error (.notEndable s.id s.status))
  else
    let (status, termination) : Status × Termination :=
      if abandoned then (.abandoned, .abandoned) else (.submitted, .studentSubmitted)
    let (s, _) := s.finish settings status termination reason now
    .replace s s.alert? (.ok s)

/-- Abandons the session if it is idle since the cutoff, and says whether it was. -/
def abandonIdle (settings : Settings) (cutoff now : Instant) (s : Session) :
    Handling (Except Failure Bool) :=
  if s.isIdleSince cutoff then
    let (s, _) := s.finish settings .abandoned .abandoned (some "inactivity timeout") now
    .replace s s.alert? (.ok true)
  else .leave (.ok false)

def takeReview (reviewer : String) (scoreOverride : Option Float) (reason : Option String)
    (now : Instant) (s : Session) : Handling (Except Failure Session) :=
  match s.reviewed reviewer scoreOverride reason now with
  | .error e => .leave (.error e)
  | .ok s => .replace s none (.ok s)

end Session

end OralExam
