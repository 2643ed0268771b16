import OralExam.Service.Http.Basic

/-! What requests over HTTP ask for: the resource that they go to, and the command that is read from them.

Whatever else is in a request, it is answered by its resource alone; and a request from which a command
is read is answered by carrying it out.
-/

set_option autoImplicit false

namespace OralExam

theorem eq_ok_of_toOption {ε α : Type} {result : Except ε α} {a : α}
    (given : result.toOption = some a) : result = .ok a := by
  cases result with
  | ok b =>
    cases given
    rfl
  | error e => cases given

/-! ## Bodies -/

def AnswerBody.command (id : String) (body : AnswerBody) : Command :=
  .answer id body.transcript body.similarity

def EndBody.command (id : String) (body : EndBody) : Command :=
  .endSession id body.reason body.abandoned

theorem Http.Request.toOption_read {α : Type} {request : Request} {d : Document}
    (json : request.declaresJson) (parsed : Json.readFirst request.body = d) (decode : Decoder α) :
    (request.read decode).toOption = (decode .json d).toOption := by
  rw [read, json, parsed]
  cases decode .json d with
  | ok a => rfl
  | error e => cases e <;> rfl

theorem EndBody.toOption_read {text : String} {d : Document} (there : ¬isAbsent text)
    (parsed : Json.read text = (d, true)) : (read text).toOption = (decode .json d).toOption := by
  simp only [read, if_neg there, parsed]
  cases decode .json d <;> rfl

theorem EndBody.read_of_malformed {text : String} (there : ¬isAbsent text)
    (malformed : ∀ d b, Json.read text = (d, true) → decode .json d ≠ .ok b) :
    read text = .error .malformedEnd := by
  rw [read, if_neg there]
  match parsed : Json.read text with
  | (d, true) =>
    cases decoded : decode .json d with
    | ok b => exact absurd decoded (malformed d b parsed)
    | error e =>
      simp only [decoded]
      rfl
  | (_, false) => rfl

/-! ## Resources -/

namespace Http

variable {request : Request} {resource : Resource} {id : String}

/-- It is a request to the resource with that parameter, by the method that the resource knows. -/
def Request.At (request : Request) (resource : Resource) (id : String) : Prop :=
  request.method = resource.method ∧ ∃ parameter,
    Resource.find? (Target.ofUri request.uri).segments = some (resource, parameter) ∧
      segmentText? parameter = some id

/-- The command that a request to a resource gives. -/
def Resource.command? (request : Request) (id : String) : Resource → Option Command
  | sessions => (request.read Command.decodeStart).toOption
  | session => some (.session id)
  | responses => (request.read AnswerBody.decode).toOption.map (AnswerBody.command id)
  | ending => (EndBody.read request.body).toOption.map (EndBody.command id)
  | _ => none

/-- The command that a request gives, if it gives one. -/
def Request.command? (request : Request) : Option Command :=
  match Resource.find? (Target.ofUri request.uri).segments with
  | none => none
  | some (resource, parameter) =>
    if request.method = resource.method then
      (segmentText? parameter).bind fun id => resource.command? request id
    else none

theorem Request.command?_eq (here : request.At resource id) :
    request.command? = resource.command? request id := by
  obtain ⟨method, parameter, found, text⟩ := here
  simp only [command?, found, method, if_pos, text, Option.bind_some]

theorem Request.at_of_command? {c : Command} (given : request.command? = some c) :
    ∃ resource id, request.At resource id ∧ resource.command? request id = some c := by
  unfold command? at given
  split at given
  · cases given
  · rename_i resource parameter found
    split at given
    · rename_i method
      obtain ⟨id, text, given⟩ := Option.bind_eq_some_iff.mp given
      exact ⟨resource, id, ⟨method, parameter, found, text⟩, given⟩
    · cases given

/-- A request to a resource is answered by the resource. -/
theorem respond_of_at (here : request.At resource id) (v : Service) (now : Instant) :
    respond v request now =
      resource.serve v now request (Target.ofUri request.uri).query id := by
  obtain ⟨method, parameter, found, text⟩ := here
  have own : resource.method ≠ "OPTIONS" ∧ resource.method ≠ "HEAD" ∧
      resource.allows resource.method := by
    cases resource <;> decide
  obtain ⟨asked, headless, allowed⟩ := own
  simp only [respond, method, if_neg asked, found, allowed, Bool.not_true, Bool.false_eq_true,
    if_false, text, if_neg headless]

/-- Whichever resource it is for, a command is carried out. -/
theorem respond_of_command? {c : Command} (given : request.command? = some c) (v : Service)
    (now : Instant) : respond v request now = runCommand v now c := by
  obtain ⟨resource, id, here, given⟩ := Request.at_of_command? given
  rw [respond_of_at here]
  cases resource with
  | sessions => simp only [Resource.serve, eq_ok_of_toOption given]
  | session =>
    cases given
    rfl
  | responses =>
    obtain ⟨body, read, rfl⟩ := Option.map_eq_some_iff.mp given
    simp only [Resource.serve, eq_ok_of_toOption read, AnswerBody.command]
  | ending =>
    obtain ⟨body, read, rfl⟩ := Option.map_eq_some_iff.mp given
    simp only [Resource.serve, eq_ok_of_toOption read, EndBody.command]
  | channel | health | review | assignmentSessions | assignment | dashboard | rubrics =>
    cases given

theorem respond_of_malformed_end {request : Request} {id : String} (here : request.At .ending id)
    (there : ¬EndBody.isAbsent request.body)
    (malformed : ∀ d b, Json.read request.body = (d, true) → EndBody.decode .json d ≠ .ok b)
    (v : Service) (now : Instant) : respond v request now = (.failed .malformedEnd, v) := by
  rw [respond_of_at here, Resource.serve, EndBody.read_of_malformed there malformed]

end Http

end OralExam
