import OralExam.Failure
import OralExam.Session.Basic

/-! Reviewing a session that has ended. -/

set_option autoImplicit false

namespace OralExam

/-- From zero to one. -/
def isShare (x : Float) : Bool := x.isFinite && 0.0 ≤ x && x ≤ 1.0

/-- Records a review in the place of an earlier one. -/
def Session.reviewed (s : Session) (reviewer : String) (scoreOverride : Option Float)
    (reason : Option String) (now : Instant) : Except Failure Session :=
  if !s.status.isTerminal then .error (.notReviewable s.id s.status)
  else if Text.isBlank reviewer then .error .blankReviewer
  else match scoreOverride.filter fun x => !isShare x with
    | some x => .error (.overrideOutOfRange x)
    | none => .ok { s with review := {
        reviewed := true
        reviewedBy := some reviewer
        reviewedAt := some now
        scoreOverride
        overrideReason := reason } }

end OralExam
