import OralExam.Arithmetic.Decimal
import OralExam.Session.Status

/-! Why an operation is refused.

Each cause is of one kind, which decides the code and the HTTP status under which it is reported.
-/

set_option autoImplicit false

namespace OralExam

inductive FailureKind where
  /-- The assignment has no examination that could be held. -/
  | notConfigured
  | conflict
  /-- The session is not in a state for the operation. -/
  | invalidState
  /-- Another call is working on the session. -/
  | concurrentModification
  | notFound
  | validation
  deriving DecidableEq, Repr

namespace FailureKind

def code : FailureKind → String
  | notConfigured => "not_configured"
  | conflict => "conflict"
  | invalidState => "invalid_state"
  | concurrentModification => "concurrent_modification"
  | notFound => "not_found"
  | validation => "validation"

def httpStatus : FailureKind → Nat
  | notConfigured => 412
  | conflict => 409
  | invalidState => 409
  | concurrentModification => 423
  | notFound => 404
  | validation => 400

def message (detail : String) : FailureKind → String
  | notConfigured => "not configured: " ++ detail
  | conflict => "conflict: " ++ detail
  | invalidState => "invalid state: " ++ detail
  | concurrentModification => "concurrent modification of session " ++ detail
  | notFound => "not found: " ++ detail
  | validation => "validation failed: " ++ detail

end FailureKind

inductive Failure where
  | blankRubricId
  | invalidBands (rubric : String)
  | duplicateConcept (rubric concept : String)
  | duplicateQuestion (rubric question : String)
  | blankStartId
  | alreadyInProgress (student session assignment : String)
  | disabled (assignment : String)
  | noActiveRubric (assignment : String)
  | nothingToAsk (rubric : String)
  | noFirstQuestion
  | unknownSession (session : String)
  | busy (session : String)
  | notAnswerable (session : String) (status : Status)
  | similarityOutOfRange (value : Float)
  | questionUnavailable (session : String)
  | notEndable (session : String) (status : Status)
  | notReviewable (session : String) (status : Status)
  | blankReviewer
  | overrideOutOfRange (value : Float)
  | unknownStatus (text : String)
  | unknownSortField (text : String)
  | unknownSortDirection (text : String)
  /-- The body of a request to end a session is no such thing. What the reader found amiss would follow on
  `invalid end-session body: `, and is left out here. -/
  | malformedEnd
  deriving DecidableEq

namespace Failure

def kind : Failure → FailureKind
  | blankRubricId | invalidBands _ | duplicateConcept _ _ | duplicateQuestion _ _ => .validation
  | blankStartId | similarityOutOfRange _ | blankReviewer | overrideOutOfRange _ => .validation
  | unknownStatus _ | unknownSortField _ | unknownSortDirection _ | malformedEnd => .validation
  | alreadyInProgress _ _ _ => .conflict
  | disabled _ | noActiveRubric _ | nothingToAsk _ => .notConfigured
  | noFirstQuestion | questionUnavailable _ => .invalidState
  | notAnswerable _ _ | notEndable _ _ | notReviewable _ _ => .invalidState
  | unknownSession _ => .notFound
  | busy _ => .concurrentModification

def detail : Failure → String
  | blankRubricId => "rubric id and assignment_id must not be empty"
  | invalidBands rubric =>
    "rubric " ++ rubric ++ ": competency_bands must be four strictly ascending numbers"
  | duplicateConcept rubric concept => "rubric " ++ rubric ++ ": duplicate concept id " ++ concept
  | duplicateQuestion rubric question =>
    "rubric " ++ rubric ++ ": duplicate template id " ++ question
  | blankStartId => "assignmentId and studentId must not be empty"
  | alreadyInProgress student session assignment =>
    "student " ++ student ++ " already has session " ++ session ++
      " in progress for assignment " ++ assignment
  | disabled assignment => "viva is disabled for assignment " ++ assignment
  | noActiveRubric assignment => "no ACTIVE rubric for assignment " ++ assignment
  | nothingToAsk rubric => "rubric " ++ rubric ++ " has no selectable questions"
  | noFirstQuestion => "new session has no pending question"
  | unknownSession session => "session " ++ session
  | busy session => session
  | notAnswerable session status =>
    "cannot submit a response: session " ++ session ++ " is " ++ status.word
  | similarityOutOfRange value =>
    "similarity must be within [0, 1], got " ++ Decimal.display value
  | questionUnavailable session => "session " ++ session ++ " has no answerable question"
  | notEndable session status => "cannot end session " ++ session ++ ": it is " ++ status.word
  | notReviewable session status =>
    "session " ++ session ++ " is " ++ status.word ++ "; only terminal sessions can be reviewed"
  | blankReviewer => "reviewerId must not be empty"
  | overrideOutOfRange value =>
    "scoreOverride must be within [0, 1], got " ++ Decimal.display value
  | unknownStatus text => "unknown status '" ++ text ++ "'"
  | unknownSortField text => "unsupported sort field '" ++ text ++ "'"
  | unknownSortDirection text => "unsupported sort direction '" ++ text ++ "'"
  | malformedEnd => "invalid end-session body"

def message (f : Failure) : String := f.kind.message f.detail

end Failure

end OralExam
