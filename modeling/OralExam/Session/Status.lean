import OralExam.Text.Fields

/-! Where a session stands in its life. -/

set_option autoImplicit false

namespace OralExam

inductive Status where
  | notStarted
  | inProgress
  | completed
  | submitted
  | failed
  | abandoned
  deriving DecidableEq, Repr

namespace Status

def isTerminal : Status → Bool
  | completed | submitted | failed | abandoned => true
  | notStarted | inProgress => false

/-- The name in documents. -/
def name : Status → String
  | notStarted => "NOT_STARTED"
  | inProgress => "IN_PROGRESS"
  | completed => "COMPLETED"
  | submitted => "SUBMITTED"
  | failed => "FAILED"
  | abandoned => "ABANDONED"

/-- The name in messages. -/
def word : Status → String
  | notStarted => "NotStarted"
  | inProgress => "InProgress"
  | completed => "Completed"
  | submitted => "Submitted"
  | failed => "Failed"
  | abandoned => "Abandoned"

def all : List Status := [notStarted, inProgress, completed, submitted, failed, abandoned]

def ofName? (s : String) : Option Status := all.find? (·.name = s)

/-- The status of that name, in whatever case its letters are. -/
def parse? (s : String) : Option Status := ofName? (Text.upperLatin s)

theorem ofName?_name (s : Status) : ofName? s.name = some s := by
  cases s <;> decide

end Status

end OralExam
