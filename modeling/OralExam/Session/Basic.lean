import OralExam.Mastery
import OralExam.Session.Status
import OralExam.Time.Instant

/-! Sessions: one student examined once on one assignment.

The turns are an alternating log of questions and answers. All else that a session holds besides
its review follows from its rubric, the answers and the settings.
-/

set_option autoImplicit false

namespace OralExam

inductive Speaker where
  | examiner
  | student
  deriving DecidableEq, Repr

structure Turn where
  number : Nat
  speaker : Speaker
  text : String
  /-- The question asked or answered in this turn. -/
  questionId : Option String
  timestamp : Instant
  deriving DecidableEq

/-- A scored answer. -/
structure Answer where
  turnNumber : Nat
  questionId : String
  conceptId : String
  discrimination : Float
  difficulty : Float
  correctness : Float
  misconceptions : List String
  latencySeconds : Float
  expectedSeconds : Nat
  deriving DecidableEq

inductive Level where
  | novice
  | beginner
  | intermediate
  | advanced
  | expert
  deriving DecidableEq, Repr

/-- The part of one concept in a verdict. -/
structure Share where
  conceptId : String
  conceptName : String
  weight : Nat
  mastery : Float
  questionsAnswered : Nat
  deriving DecidableEq

/-- What a session comes to when it ends. -/
structure Verdict where
  overallScore : Float
  level : Level
  passed : Bool
  theta : Float
  standardError : Float
  confidence : Float
  breakdown : List Share
  strengths : List String
  improvements : List String
  computedAt : Instant
  deriving DecidableEq

/-- An instructor's review. It stands beside the verdict and does not change it. -/
structure Review where
  reviewed : Bool := false
  reviewedBy : Option String := none
  reviewedAt : Option Instant := none
  scoreOverride : Option Float := none
  overrideReason : Option String := none
  deriving DecidableEq

/-- Why a session ended. -/
inductive Termination where
  | maxQuestions
  | precisionReached
  | contentCovered
  | itemPoolExhausted
  | studentSubmitted
  | abandoned
  | error
  deriving DecidableEq, Repr

/-- The question that waits for an answer. -/
structure Pending where
  questionId : String
  conceptId : String
  askedAt : Instant
  deriving DecidableEq

structure Session where
  id : String
  assignmentId : String
  studentId : String
  attempt : Nat
  status : Status
  /-- As it was when the session started. -/
  rubric : Rubric
  assignment : Assignment
  startedAt : Instant
  completedAt : Option Instant := none
  lastActivityAt : Instant
  secondsSpent : Int := 0
  theta : Float
  standardError : Float
  overallScore : Option Float := none
  level : Option Level := none
  passed : Option Bool := none
  flagged : Bool := false
  flagReason : Option String := none
  review : Review := {}
  termination : Option Termination := none
  endReason : Option String := none
  turns : List Turn := []
  answers : List Answer := []
  mastery : Mastery Float := {}
  verdict : Option Verdict := none
  pending : Option Pending := none
  deriving DecidableEq

namespace Session

/-- Turns are numbered from one. -/
def nextTurnNumber (s : Session) : Nat :=
  match s.turns.getLast? with
  | some turn => turn.number + 1
  | none => 1

/-- The questions asked so far, in order. -/
def asked (s : Session) : List String :=
  (s.turns.filter (·.speaker = .examiner)).filterMap (·.questionId)

def questionsAnswered (s : Session) : Nat := s.answers.length

/-- The session is in progress and nothing has happened in it since the instant. -/
def isIdleSince (s : Session) (cutoff : Instant) : Bool :=
  s.status = .inProgress && s.lastActivityAt < cutoff

end Session

end OralExam
