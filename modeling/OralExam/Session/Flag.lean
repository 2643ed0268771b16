import OralExam.Session.Basic

/-! What makes a session worth a second look. -/

set_option autoImplicit false

namespace OralExam

inductive Flag where
  /-- The ability is not known precisely enough. -/
  | lowConfidence
  /-- Misconceptions of high severity showed that many times. -/
  | highSeverityMisconceptions (count : Nat)
  /-- Two answers on a concept differ too much. -/
  | contradiction (conceptId : String)
  /-- An answer came too slowly or too fast. -/
  | timingOutlier (turnNumber : Nat)
  deriving DecidableEq

namespace Flag

open Scalar

def text : Flag → String
  | lowConfidence => "low_confidence"
  | highSeverityMisconceptions n => "high_severity_misconceptions:" ++ toString n
  | contradiction concept => "contradiction:" ++ concept
  | timingOutlier turn => "timing_outlier:turn=" ++ toString turn

/-- All flags in one line; none if there are none. -/
def reason : List Flag → Option String
  | [] => none
  | flags => some (";".intercalate (flags.map text))

/-- The misconceptions of high severity among those that an answer showed. -/
def highSeverity (rubric : Rubric) (a : Answer) : List String :=
  a.misconceptions.filter fun id =>
    ((rubric.concept? a.conceptId).bind (·.misconception? id)).any (·.severity = .high)

def highSeverityCount (s : Session) : Nat := (s.answers.flatMap (highSeverity s.rubric)).length

/-- The concepts on which an answer lies far from an earlier one, in the order in which that shows;
`before` are the answers so far. -/
def contradicted (delta : Float) (before : List Answer) (found : List String) :
    List Answer → List String
  | [] => found
  | a :: rest =>
    let far := before.any fun b =>
      b.conceptId = a.conceptId && delta < distance a.correctness b.correctness
    let found := if far && !found.contains a.conceptId then found ++ [a.conceptId] else found
    contradicted delta (before ++ [a]) found rest

/-- Without an expected time there is no outlier. -/
def isOutlier (policy : FlagPolicy) (a : Answer) : Bool :=
  let expected : Float := ofNat a.expectedSeconds
  a.expectedSeconds ≠ 0 &&
    (policy.slowFactor * expected < a.latencySeconds ||
      a.latencySeconds < policy.fastFactor * expected)

def ofSession (policy : FlagPolicy) (s : Session) : List Flag :=
  let high := highSeverityCount s
  (if policy.lowConfidenceError < s.standardError then [lowConfidence] else []) ++
  (if max policy.highSeverityLimit 1 ≤ high then [highSeverityMisconceptions high] else []) ++
  (contradicted policy.contradictionDelta [] [] s.answers).map contradiction ++
  (s.answers.filter (isOutlier policy)).map fun a => timingOutlier a.turnNumber

end Flag

end OralExam
