import OralExam.Ability
import OralExam.Arithmetic.Exponential
import OralExam.Rubric.Basic

/-! Settings of the service: how sessions are held, scored, graded and flagged, what holds for
single assignments, and rubrics to start with.
-/

set_option autoImplicit false

namespace OralExam

/-- When a session stops, and how the ability is estimated in it. -/
structure ExamPolicy where
  maxQuestions : Nat := 10
  minQuestions : Nat := 3
  /-- After the fewest questions, a standard error below this ends the session. -/
  precisionThreshold : Float := 0.4
  priorStandardError : Float := 1.0
  /-- A number that is not below zero, or else no answer gets as far as its estimate. -/
  thetaBound : Float := 4.0
  responseModel : ResponseModel := .soft
  inactivityTimeoutMinutes : Nat := 15
  sweepIntervalSeconds : Nat := 60
  deriving DecidableEq

structure ScoringPolicy (α : Type) where
  /-- An answer of this correctness counts as correct. -/
  passThreshold : α
  /-- Taken off once if an answer shows misconceptions. -/
  misconceptionPenalty : α
  /-- The share of the similarity signal in the correctness. -/
  semanticWeight : α
  strengthThreshold : α
  weaknessThreshold : α
  /-- The most notes of one sort about one concept. -/
  maxNotes : Nat
  deriving DecidableEq

def ScoringPolicy.standard : ScoringPolicy Float where
  passThreshold := 0.6
  misconceptionPenalty := 0.3
  semanticWeight := 0.5
  strengthThreshold := 0.8
  weaknessThreshold := 0.3
  maxNotes := 5

structure GradingPolicy where
  passingPercentage : Float := 60.0
  /-- The bounds between competency levels of rubrics without bounds of their own. -/
  bands : List Float := [-1.5, -0.5, 0.5, 1.5]
  deriving DecidableEq

structure FlagPolicy where
  lowConfidenceError : Float := 0.8
  highSeverityLimit : Nat := 2
  contradictionDelta : Float := 0.6
  /-- Slower than this many times the expected time is noted, and so is faster than `fastFactor`
  times that. -/
  slowFactor : Float := 3.0
  fastFactor : Float := 0.1
  deriving DecidableEq

/-- What sets off an examination. -/
inductive Trigger where
  | manual
  | onSubmission
  | onDeadline
  deriving DecidableEq, Repr

structure Assignment where
  id : String
  enabled : Bool := true
  trigger : Trigger := .manual
  deriving DecidableEq

structure Settings where
  exam : ExamPolicy := {}
  scoring : ScoringPolicy Float := .standard
  grading : GradingPolicy := {}
  flags : FlagPolicy := {}
  assignments : List Assignment := []
  rubrics : List Rubric := []
  deriving DecidableEq

namespace Settings

/-- What holds for an assignment; one that is not listed is enabled and triggered by hand. -/
def assignment (s : Settings) (id : String) : Assignment :=
  (s.assignments.find? (·.id = id)).getD { id }

def estimator (s : Settings) : Ability.Estimator Float :=
  ⟨s.exam.thetaBound, s.exam.priorStandardError, s.exam.responseModel, s.scoring.passThreshold⟩

end Settings

end OralExam
