import OralExam.Service.Basic
import OralExam.Service.Document

/-! What students ask of the service, by whichever way the request comes. -/

set_option autoImplicit false

namespace OralExam

open RecordField (required defaulted nullable)

inductive Command where
  | start (assignmentId studentId : String)
  | answer (sessionId transcript : String) (similarity : Option Float)
  | endSession (sessionId : String) (reason : Option String) (abandoned : Bool)
  | session (sessionId : String)
  deriving DecidableEq

/-- What a command that succeeds gives. -/
inductive Reply where
  | started (opening : Opening)
  | answered (outcome : Outcome)
  | session (s : Session)
  deriving DecidableEq

namespace Command

/-- Carries out a command at a time. -/
def run (v : Service) (now : Instant) : Command → Except Failure Reply × Service
  | start assignmentId studentId =>
    let (result, v) := v.start assignmentId studentId now
    (result.map .started, v)
  | answer sessionId transcript similarity =>
    let (result, v) := v.answer sessionId transcript similarity now
    (result.map .answered, v)
  | endSession sessionId reason abandoned =>
    let (result, v) := v.endSession sessionId reason abandoned now
    (result.map .session, v)
  | session sessionId => ((v.session sessionId).map .session, v)

def decodeStart : Decoder Command :=
  Fields.decode <| Fields.done start
    |>.and (required "assignmentId" .string)
    |>.and (required "studentId" .string)

end Command

/-- An answer, apart from the session that it belongs to. -/
structure AnswerBody where
  transcript : String
  similarity : Option Float := none
  deriving DecidableEq

def AnswerBody.decode : Decoder AnswerBody :=
  Fields.decode <| Fields.done AnswerBody.mk
    |>.and (required "transcript" .string)
    |>.and (nullable "similarity" .float)

/-- How a session is to be ended. -/
structure EndBody where
  reason : Option String := none
  abandoned : Bool := false
  deriving DecidableEq

namespace EndBody

def decode : Decoder EndBody :=
  Fields.decode <| Fields.done EndBody.mk
    |>.and (nullable "reason" .string)
    |>.and (defaulted "abandoned" .bool false)

/-- Nothing but blanks. -/
def isAbsent (text : String) : Bool :=
  text.toList.all fun c => c = ' ' || c = '\t' || c = '\n' || c = '\x0C' || c = '\r'

/-- A body may be left out, but one that is there has to be read as a whole: a mistake in it must
not end the session in another way than was meant. -/
def read (text : String) : Except Failure EndBody :=
  if isAbsent text then .ok {}
  else match Json.read text with
    | (d, true) => (decode .json d).mapError fun _ => .malformedEnd
    | (_, false) => .error .malformedEnd

end EndBody

/-- An instructor's review, apart from the session that it belongs to. -/
structure ReviewBody where
  reviewer : String
  scoreOverride : Option Float := none
  reason : Option String := none
  deriving DecidableEq

def ReviewBody.decode : Decoder ReviewBody :=
  Fields.decode <| Fields.done ReviewBody.mk
    |>.and (required "reviewerId" .string)
    |>.and (nullable "scoreOverride" .float)
    |>.and (nullable "overrideReason" .string)

end OralExam
