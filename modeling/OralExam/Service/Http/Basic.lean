import OralExam.Arithmetic.Word
import OralExam.Service.Command
import OralExam.Service.Http.Target

/-! The service over HTTP.

A request is answered by the resource that its path names, if the resource knows the method. What
is wrong with the request itself is answered by a status alone; failures of the service have a
body.
-/

set_option autoImplicit false

namespace OralExam.Http

structure Request where
  method : String
  uri : String
  body : String := ""
  /-- The body is declared to be JSON. -/
  declaresJson : Bool := true
  deriving DecidableEq

structure Response where
  status : Nat
  body : Option Document := none

inductive Resource where
  | channel
  | health
  | sessions
  | session
  | responses
  | ending
  | review
  | assignmentSessions
  | assignment
  | dashboard
  | rubrics
  deriving DecidableEq, Repr

namespace Resource

/-- The resource at a path, and the segment that it takes as its parameter. A parameter at the end
of a path is not empty. -/
def find? : List String → Option (Resource × String)
  | ["", "ws"] => some (channel, "")
  | ["", "api", "v1", "health"] => some (health, "")
  | ["", "api", "v1", "sessions"] => some (sessions, "")
  | ["", "api", "v1", "sessions", id] => if id.isEmpty then none else some (session, id)
  | ["", "api", "v1", "sessions", id, "responses"] => some (responses, id)
  | ["", "api", "v1", "sessions", id, "end"] => some (ending, id)
  | ["", "api", "v1", "sessions", id, "review"] => some (review, id)
  | ["", "api", "v1", "assignments", id, "sessions"] => some (assignmentSessions, id)
  | ["", "api", "v1", "assignments", id, "config"] => some (assignment, id)
  | ["", "api", "v1", "assignments", id, "dashboard"] => some (dashboard, id)
  | ["", "api", "v1", "rubrics"] => some (rubrics, "")
  | _ => none

/-- The method that the resource knows. -/
def method : Resource → String
  | channel | health | session | assignmentSessions | assignment | dashboard => "GET"
  | sessions | responses | rubrics => "POST"
  | ending | review => "PUT"

/-- What can be got can also be asked for without its body, save a channel. -/
def allows (r : Resource) (method : String) : Bool :=
  method = r.method || (method = "HEAD" && r.method = "GET" && r ≠ channel)

end Resource

/-- Reads the body; what is wrong with it is said by a status. -/
def Request.read {α : Type} (r : Request) (decode : Decoder α) : Except Nat α :=
  if !r.declaresJson then .error 415
  else match decode .json (Json.readFirst r.body) with
    | .ok a => .ok a
    | .error .grammar => .error 400
    | .error .shape => .error 422

def listQuery (query : List (String × String)) : Except Unit Listing.Query := do
  let status ← queryValue query "status"
  let page ← queryNatural query Word.size64 "page"
  let size ← queryNatural query Word.size64 "size"
  let sort ← queryValue query "sort"
  .ok { status, page, size, sort }

namespace Response

def failed (f : Failure) : Response := ⟨f.kind.httpStatus, some f.document⟩

/-- The answer to a success or to a failure. -/
def ofResult {β : Type} (status : Nat) (encode : β → Document) : Except Failure β → Response
  | .ok b => ⟨status, some (encode b)⟩
  | .error e => failed e

def ofReply : Reply → Response
  | .started opening => ⟨201, some (.object opening.members)⟩
  | .answered outcome => ⟨200, some (.object outcome.members)⟩
  | .session s => ⟨200, some s.document⟩

end Response

/-- Carries out a command for a request. -/
def runCommand (v : Service) (now : Instant) (c : Command) : Response × Service :=
  match c.run v now with
  | (.ok reply, v) => (.ofReply reply, v)
  | (.error e, v) => (.failed e, v)

namespace Resource

/-- Answers a request whose method the resource knows. -/
def serve (v : Service) (now : Instant) (request : Request) (query : List (String × String))
    (id : String) : Resource → Response × Service
  | channel => (⟨400, none⟩, v)
  | health => (⟨200, some (.object [("ok", .bool true)])⟩, v)
  | sessions =>
    match request.read Command.decodeStart with
    | .ok c => runCommand v now c
    | .error status => (⟨status, none⟩, v)
  | session => runCommand v now (.session id)
  | responses =>
    match request.read AnswerBody.decode with
    | .ok body => runCommand v now (.answer id body.transcript body.similarity)
    | .error status => (⟨status, none⟩, v)
  | ending =>
    match EndBody.read request.body with
    | .ok body => runCommand v now (.endSession id body.reason body.abandoned)
    | .error e => (.failed e, v)
  | review =>
    match request.read ReviewBody.decode with
    | .ok body =>
      let (result, v) := v.review id body.reviewer body.scoreOverride body.reason now
      (.ofResult 200 Session.document result, v)
    | .error status => (⟨status, none⟩, v)
  | assignmentSessions =>
    match listQuery query with
    | .ok q => (.ofResult 200 Listing.Page.document (v.list id q), v)
    | .error () => (⟨400, none⟩, v)
  | assignment => (⟨200, some (v.settings.assignment id).view⟩, v)
  | dashboard =>
    match queryNatural query Word.size32 "totalStudents" with
    | .ok totalStudents => (⟨200, some (v.dashboard id totalStudents).document⟩, v)
    | .error () => (⟨400, none⟩, v)
  | rubrics =>
    match request.read Rubric.decode with
    | .ok r =>
      let (result, v) := v.publish r
      (.ofResult 201 Rubric.receipt result, v)
    | .error status => (⟨status, none⟩, v)

end Resource

/-- Answers a request. What a browser asks before a request of another origin is always granted. -/
def respond (v : Service) (request : Request) (now : Instant) : Response × Service :=
  let target := Target.ofUri request.uri
  if request.method = "OPTIONS" then (⟨200, none⟩, v)
  else match Resource.find? target.segments with
    | none => (⟨404, none⟩, v)
    | some (resource, parameter) =>
      if !resource.allows request.method then (⟨405, none⟩, v)
      else match segmentText? parameter with
        | none => (⟨400, none⟩, v)
        | some id =>
          let (response, v) := resource.serve v now request target.query id
          (if request.method = "HEAD" then ⟨response.status, none⟩ else response, v)

end OralExam.Http
