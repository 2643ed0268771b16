import OralExam.Session.Basic

/-! Sessions in brief, for lists and overviews. -/

set_option autoImplicit false

namespace OralExam

structure Summary (α : Type) where
  id : String
  assignmentId : String
  studentId : String
  attempt : Nat
  status : Status
  startedAt : Instant
  completedAt : Option Instant
  lastActivityAt : Instant
  questionsAnswered : Nat
  theta : α
  standardError : α
  overallScore : Option α
  level : Option Level
  passed : Option Bool
  flagged : Bool
  flagReason : Option String
  reviewed : Bool
  scoreOverride : Option α
  deriving DecidableEq

def Session.summary (s : Session) : Summary Float where
  id := s.id
  assignmentId := s.assignmentId
  studentId := s.studentId
  attempt := s.attempt
  status := s.status
  startedAt := s.startedAt
  completedAt := s.completedAt
  lastActivityAt := s.lastActivityAt
  questionsAnswered := s.questionsAnswered
  theta := s.theta
  standardError := s.standardError
  overallScore := s.overallScore
  level := s.level
  passed := s.passed
  flagged := s.flagged
  flagReason := s.flagReason
  reviewed := s.review.reviewed
  scoreOverride := s.review.scoreOverride

end OralExam
