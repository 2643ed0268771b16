import OralExam.Settings.Basic

/-! Settings that sessions can be held by.

Values that would break the stopping rules, the estimate or the levels are replaced; the others
stay as they are.
-/

set_option autoImplicit false

namespace OralExam

def isPositive (x : Float) : Bool := x.isFinite && 0 < x

/-- At least one question is asked, and the fewest questions are no more than the most. -/
def ExamPolicy.repaired (p : ExamPolicy) : ExamPolicy :=
  let maxQuestions := if p.maxQuestions = 0 then 1 else p.maxQuestions
  { p with
    maxQuestions
    minQuestions := if maxQuestions < p.minQuestions then maxQuestions else p.minQuestions
    thetaBound := if isPositive p.thetaBound then p.thetaBound else 4.0
    priorStandardError := if isPositive p.priorStandardError then p.priorStandardError else 1.0 }

def GradingPolicy.repaired (p : GradingPolicy) : GradingPolicy :=
  if bandsAreValid p.bands then p else { p with bands := ({} : GradingPolicy).bands }

/-- Shares are brought into the unit interval. -/
def ScoringPolicy.repaired (p : ScoringPolicy Float) : ScoringPolicy Float :=
  { p with
    semanticWeight := Scalar.unit p.semanticWeight
    misconceptionPenalty := Scalar.unit p.misconceptionPenalty }

def Settings.repaired (s : Settings) : Settings :=
  { s with exam := s.exam.repaired, scoring := s.scoring.repaired, grading := s.grading.repaired }

end OralExam
