import OralExam.Arithmetic.Word
import OralExam.Listing
import OralExam.Settings.Basic
import OralExam.Session.Verdict

/-! An assignment at a glance.

Scores count as reviewed: an instructor's score stands in for the computed one and passes by the
same mark.
-/

set_option autoImplicit false

namespace OralExam

open Scalar

structure StatusOverview where
  totalStudents : Option Nat
  notStarted : Option Nat
  inProgress : Nat
  completed : Nat
  submitted : Nat
  failed : Nat
  abandoned : Nat
  totalSessions : Nat
  deriving DecidableEq

structure QuickStats (α : Type) where
  studentsAttempted : Nat
  finishedSessions : Nat
  averageScore : Option α
  passRate : Option α
  averageTheta : Option α
  flagged : Nat
  pendingReview : Nat
  participationRate : Option α
  deriving DecidableEq

structure ConfigurationStatus where
  enabled : Bool
  trigger : Trigger
  activeRubricId : Option String
  activeRubricName : Option String
  conceptCount : Nat
  questionCount : Nat
  deriving DecidableEq

structure Activity (α : Type) where
  sessionId : String
  studentId : String
  attempt : Nat
  status : Status
  timestamp : Instant
  overallScore : Option α
  flagged : Bool
  deriving DecidableEq

structure Dashboard (α : Type) where
  assignmentId : String
  statusOverview : StatusOverview
  quickStats : QuickStats α
  configuration : ConfigurationStatus
  recentActivity : List (Activity α)
  deriving DecidableEq

variable {α : Type} [Scalar α]

def Summary.effectiveScore (s : Summary α) : Option α := s.scoreOverride.or s.overallScore

def Summary.effectivePass (passingPercentage : α) (s : Summary α) : Option Bool :=
  match s.scoreOverride with
  | some score => some (decide (passingPercentage ≤ score * ofNat 100))
  | none => s.passed

/-- The share of the true marks among all, if there are any. -/
def markRate (marks : List Bool) : Option α :=
  if marks.isEmpty then none else some (ofNat (marks.countP id) / ofNat marks.length)

/-- The different students, each once. -/
def studentsIn (sessions : List (Summary α)) : List String :=
  (sessions.map Summary.studentId).eraseDups

def StatusOverview.ofSessions (sessions : List (Summary α)) (totalStudents : Option Nat) :
    StatusOverview :=
  let count := fun status => sessions.countP (·.status = status)
  { totalStudents
    -- A roster is counted in 32 bits, and so are those of it who have attempted.
    notStarted := totalStudents.map (· - (studentsIn sessions).length % Word.size32)
    inProgress := count .inProgress
    completed := count .completed
    submitted := count .submitted
    failed := count .failed
    abandoned := count .abandoned
    totalSessions := sessions.length }

def QuickStats.ofSessions (sessions : List (Summary α)) (totalStudents : Option Nat)
    (passingPercentage : α) : QuickStats α :=
  let attempted := (studentsIn sessions).length
  let finished := sessions.filter (·.status.isTerminal)
  { studentsAttempted := attempted
    finishedSessions := finished.length
    averageScore := mean (finished.filterMap Summary.effectiveScore)
    passRate := markRate (finished.filterMap (Summary.effectivePass passingPercentage))
    averageTheta := mean (finished.map Summary.theta)
    flagged := sessions.countP (·.flagged)
    pendingReview := sessions.countP fun s => s.flagged && !s.reviewed
    participationRate := (totalStudents.filter (0 < ·)).map fun total =>
      atMost one (ofNat attempted / ofNat total) }

def ConfigurationStatus.of (assignment : Assignment) (rubric : Option Rubric) :
    ConfigurationStatus where
  enabled := assignment.enabled
  trigger := assignment.trigger
  activeRubricId := rubric.map Rubric.id
  activeRubricName := rubric.map Rubric.name
  conceptCount := rubric.elim 0 fun r => r.concepts.length
  questionCount := rubric.elim 0 fun r => r.selectableQuestions.length

def Summary.activity (s : Summary α) : Activity α where
  sessionId := s.id
  studentId := s.studentId
  attempt := s.attempt
  status := s.status
  timestamp := s.lastActivityAt
  overallScore := s.overallScore
  flagged := s.flagged

/-- Latest activity first, then by identifier. -/
def Summary.moreRecent (a b : Summary α) : Bool :=
  ((Listing.compareTimes b.lastActivityAt a.lastActivityAt).then (compare a.id b.id)).isLT

/-- The ten latest activities. -/
def Activity.latest (sessions : List (Summary α)) : List (Activity α) :=
  ((Sorting.sort Summary.moreRecent sessions).take 10).map Summary.activity

def Dashboard.build (assignment : Assignment) (rubric : Option Rubric)
    (sessions : List (Summary α)) (totalStudents : Option Nat) (passingPercentage : α) :
    Dashboard α where
  assignmentId := assignment.id
  statusOverview := .ofSessions sessions totalStudents
  quickStats := .ofSessions sessions totalStudents passingPercentage
  configuration := .of assignment rubric
  recentActivity := Activity.latest sessions

end OralExam
