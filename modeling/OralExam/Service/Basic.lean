import OralExam.Arithmetic.Word
import OralExam.Dashboard
import OralExam.Rubric.Bank
import OralExam.Session.Conduct
import OralExam.Session.Registry

/-! The examination service: sessions are started, answered, ended, reviewed and swept.

Every operation takes the time at which it happens and gives its result and the service after it.
-/

set_option autoImplicit false

namespace OralExam

structure Service where
  settings : Settings
  bank : RubricBank
  registry : Registry := {}
  /-- The alerts handed over so far, the latest last. -/
  alerts : List Alert := []
  deriving DecidableEq

namespace Service

def ofSettings (settings : Settings) : Service :=
  { settings, bank := .ofRubrics settings.rubrics }

/-! ## Starting -/

/-- Sessions are numbered in the order in which they are put in. -/
def sessionId (number : Nat) : String := "session-" ++ Text.padded 4 number

def nextId (v : Service) : String := sessionId (v.registry.cells.entries.length + 1)

/-- The rubric that a session of the assignment would start from. -/
def startable (v : Service) (assignment : Assignment) : Except Failure Rubric :=
  if !assignment.enabled then .error (.disabled assignment.id)
  else match v.bank.activeFor assignment.id with
    | none => .error (.noActiveRubric assignment.id)
    | some rubric =>
      if rubric.selectableQuestions.isEmpty then .error (.nothingToAsk rubric.id) else .ok rubric

/-- What has to hold before a session is put in. A session in progress matters more than how the
assignment is set up. -/
def admission (v : Service) (assignment : Assignment) (studentId : String) :
    Except Failure Rubric :=
  if Text.isBlank assignment.id || Text.isBlank studentId then .error .blankStartId
  else match v.registry.activeFor studentId assignment.id with
    | some id => .error (.alreadyInProgress studentId id assignment.id)
    | none => v.startable assignment

/-- Puts a session in and asks the first question, unless the pair has a session by then. -/
def openSession (v : Service) (assignment : Assignment) (studentId : String) (rubric : Rubric)
    (now : Instant) : Except Failure Opening × Service :=
  let build (attempt : Nat) : Except Failure (Session × AskedQuestion) :=
    match (Session.blank v.nextId studentId attempt assignment rubric v.settings.estimator.initial
      now).askNext now with
    | some opened => .ok opened
    | none => .error (.nothingToAsk rubric.id)
  let taken (id : String) : Failure := .alreadyInProgress studentId id assignment.id
  match v.registry.create studentId assignment.id taken build with
  | .error e => (.error e, v)
  | .ok (s, _, registry) =>
    let v := { v with registry }
    -- What the student is shown is what the session now waits for.
    match s.pendingQuestion? with
    | some (_, c, q) => (.ok ⟨s, .of (s.questionsAnswered + 1) c q⟩, v)
    | none => (.error .noFirstQuestion, v)

def startWith (v : Service) (assignment : Assignment) (studentId : String) (now : Instant) :
    Except Failure Opening × Service :=
  match v.admission assignment studentId with
  | .error e => (.error e, v)
  | .ok rubric => v.openSession assignment studentId rubric now

/-- Starts a session with what the settings say of the assignment. -/
def start (v : Service) (assignmentId studentId : String) (now : Instant) :
    Except Failure Opening × Service :=
  v.startWith (v.settings.assignment assignmentId) studentId now

/-! ## Working on a session -/

/-- Takes the lock of a session. -/
def hold (v : Service) (id : String) : Except Failure (Session × Service) :=
  match v.registry.lock id with
  | .ok (s, registry) => .ok (s, { v with registry })
  | .error .missing => .error (.unknownSession id)
  | .error .held => .error (.busy id)

/-- Gives the lock back. -/
def free (v : Service) (id : String) : Service := { v with registry := v.registry.unlock id }

/-- Puts what became of a held session into its cell and into its snapshot, and hands over the
alert. -/
def commit (v : Service) (id : String) (s : Session) (alert : Option Alert) : Service :=
  { v with
    registry := (v.registry.update id fun _ => s).sync s
    alerts := v.alerts ++ alert.toList }

/-- Works on a session under its lock. One that somebody else works on is not waited for. -/
def work {β : Type} (v : Service) (id : String)
    (body : Session → Handling (Except Failure β)) : Except Failure β × Service :=
  match v.hold id with
  | .error e => (.error e, v)
  | .ok (s, held) =>
    match body s with
    | .leave result => (result, held.free id)
    | .replace s alert result => (result, (held.commit id s alert).free id)

def answer (v : Service) (id transcript : String) (similarity : Option Float) (now : Instant) :
    Except Failure Outcome × Service :=
  v.work id (Session.answer v.settings transcript similarity now)

def endSession (v : Service) (id : String) (reason : Option String) (abandoned : Bool)
    (now : Instant) : Except Failure Session × Service :=
  v.work id (Session.endEarly v.settings reason abandoned now)

def review (v : Service) (id reviewer : String) (scoreOverride : Option Float)
    (reason : Option String) (now : Instant) : Except Failure Session × Service :=
  v.work id (Session.takeReview reviewer scoreOverride reason now)

/-! ## Sweeping -/

/-- Time spans have at most that many seconds either way. -/
def spanLimit : Nat := 9223372036854775

/-- The instant before which the last activity of an idle session lies. The timeout counts as a
signed number of 64 bits; there is no such instant if the span or the calendar does not reach. -/
def idleCutoff (policy : ExamPolicy) (now : Instant) : Option Instant :=
  let seconds : Int := Int.bmod policy.inactivityTimeoutMinutes Word.size64 * 60
  let cutoff := now.later (-seconds * 1000000000)
  if seconds.natAbs ≤ spanLimit ∧ Instant.first ≤ cutoff ∧ cutoff ≤ Instant.last then some cutoff
  else none

/-- Abandons a session if it is still idle, and counts it. -/
def abandonIdle (cutoff now : Instant) (swept : Nat × Service) (id : String) : Nat × Service :=
  let (count, v) := swept
  match v.work id (Session.abandonIdle v.settings cutoff now) with
  | (.ok true, v) => (count + 1, v)
  | (_, v) => (count, v)

/-- Abandons every session that has been idle for longer than the timeout, and counts them; `none`
if the timeout cannot be applied. -/
def sweep (v : Service) (now : Instant) : Option (Nat × Service) :=
  (idleCutoff v.settings.exam now).map fun cutoff =>
    (v.registry.inactiveSince cutoff).foldl (abandonIdle cutoff now) (0, v)

/-! ## Publishing and reading -/

def publish (v : Service) (r : Rubric) : Except Failure Rubric × Service :=
  match v.bank.publish r with
  | .ok bank => (.ok r, { v with bank })
  | .error e => (.error e, v)

/-- A session as it was when it was last written; a worker is not waited for. -/
def session (v : Service) (id : String) : Except Failure Session :=
  match v.registry.snapshot? id with
  | some s => .ok s
  | none => .error (.unknownSession id)

def list (v : Service) (assignmentId : String) (q : Listing.Query) :
    Except Failure (Listing.Page Float) :=
  Listing.page (v.registry.summariesFor assignmentId) q

def dashboard (v : Service) (assignmentId : String) (totalStudents : Option Nat) :
    Dashboard Float :=
  .build (v.settings.assignment assignmentId) (v.bank.activeFor assignmentId)
    (v.registry.summariesFor assignmentId) totalStudents v.settings.grading.passingPercentage

end Service

end OralExam
