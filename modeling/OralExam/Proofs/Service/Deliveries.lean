import Mathlib.Data.List.Forall2
import OralExam.Proofs.Document.Record
import OralExam.Proofs.Service.Requests
import OralExam.Service.Channel

/-! Commands come by message or by request, and it makes no difference by which.

Both ways in read a command, have the service carry it out, and write what came of it. So a sequence of
commands takes the service through the same states however its parts are delivered, and the answers carry
the same payloads. What is not read as a command changes nothing.
-/

set_option autoImplicit false

namespace OralExam

/-! ## What is delivered -/

def Channel.Message.command? : Message → Option Command
  | ping => none
  | command c => some c

/-- The message that tells what came of a command. -/
def Channel.told : Except Failure Reply → Document
  | .ok reply => replied reply
  | .error f => failed f

/-- The response that tells what came of a command. -/
def Http.told : Except Failure Reply → Response
  | .ok reply => .ofReply reply
  | .error f => .failed f

inductive Delivery where
  | message (text : String)
  | request (request : Http.Request)

/-- What the sender is told. -/
inductive Notice where
  | message (d : Document)
  | response (response : Http.Response)

/-- A delivery, what its sender was told, and the service after it. -/
structure Served where
  delivery : Delivery
  notice : Notice
  after : Service

namespace Delivery

/-- The command that is read from the delivery. -/
def command? : Delivery → Option Command
  | message text => (Channel.Message.read text).bind Channel.Message.command?
  | request r => r.command?

def serve (v : Service) (now : Instant) : Delivery → Served
  | message text =>
    let (d, v) := Channel.reply v text now
    ⟨message text, .message d, v⟩
  | request r =>
    let (response, v) := Http.respond v r now
    ⟨request r, .response response, v⟩

/-- Deliveries are served one after another, each at its time. -/
def serveAll (v : Service) : List (Delivery × Instant) → List Served
  | [] => []
  | (d, now) :: rest => d.serve v now :: serveAll (d.serve v now).after rest

/-- How the sender is told what came of a command. -/
def notice (result : Except Failure Reply) : Delivery → Notice
  | message _ => .message (Channel.told result)
  | request _ => .response (Http.told result)

theorem serve_of_command? {d : Delivery} {c : Command} (given : d.command? = some c) (v : Service)
    (now : Instant) :
    d.serve v now = ⟨d, d.notice (c.run v now).1, (c.run v now).2⟩ := by
  cases d with
  | message text =>
    obtain ⟨m, read, given⟩ := Option.bind_eq_some_iff.mp given
    cases m with
    | ping => cases given
    | command c' =>
      cases given
      simp only [serve, Channel.reply, read]
      match c.run v now with
      | (.ok reply, v') => rfl
      | (.error f, v') => rfl
  | request r =>
    simp only [serve, Http.respond_of_command? given, Http.runCommand]
    match c.run v now with
    | (.ok reply, v') => rfl
    | (.error f, v') => rfl

end Delivery

/-! ## What is told -/

/-- What the message tells of the command, the response tells as well. -/
inductive SamePayload : Command → Document → Http.Response → Prop where
  | started (assignmentId studentId : String) (members : List (String × Document)) :
    SamePayload (.start assignmentId studentId) (Channel.tagged "session_started" members)
      ⟨201, some (.object members)⟩
  | answered (id transcript : String) (similarity : Option Float)
      (members : List (String × Document)) :
    SamePayload (.answer id transcript similarity) (Channel.tagged "response_result" members)
      ⟨200, some (.object members)⟩
  | ended (id : String) (reason : Option String) (abandoned : Bool) (d : Document) :
    SamePayload (.endSession id reason abandoned) (Channel.tagged "session" [("session", d)])
      ⟨200, some d⟩
  | session (id : String) (d : Document) :
    SamePayload (.session id) (Channel.tagged "session" [("session", d)]) ⟨200, some d⟩
  | failed (c : Command) (kind : FailureKind) (message : String) :
    SamePayload c
      (Channel.tagged "error" [("code", .string kind.code), ("message", .string message)])
      ⟨kind.httpStatus,
        some (.object [("error", .string kind.code), ("message", .string message)])⟩

/-- Both senders are told the same of the command. -/
def Notice.Agrees (c : Command) : Notice → Notice → Prop
  | message d, message e => d = e
  | response r, response s => r = s
  | message d, response r => SamePayload c d r
  | response r, message d => SamePayload c d r

/-- The same command was read from both deliveries, and the same came of it. -/
structure Served.Alike (x y : Served) : Prop where
  notices : ∃ c, x.delivery.command? = some c ∧ y.delivery.command? = some c ∧
    x.notice.Agrees c y.notice
  after : x.after = y.after

theorem Command.run_samePayload (c : Command) (v : Service) (now : Instant) :
    SamePayload c (Channel.told (c.run v now).1) (Http.told (c.run v now).1) := by
  cases c with
  | start assignmentId studentId =>
    simp only [Command.run]
    cases (v.start assignmentId studentId now).1 with
    | ok opening => exact .started _ _ _
    | error f => exact .failed _ _ _
  | answer id transcript similarity =>
    simp only [Command.run]
    cases (v.answer id transcript similarity now).1 with
    | ok outcome => exact .answered _ _ _ _
    | error f => exact .failed _ _ _
  | endSession id reason abandoned =>
    simp only [Command.run]
    cases (v.endSession id reason abandoned now).1 with
    | ok s => exact .ended _ _ _ _
    | error f => exact .failed _ _ _
  | session id =>
    simp only [Command.run]
    cases v.session id with
    | ok s => exact .session _ _
    | error f => exact .failed _ _ _

namespace Delivery

theorem serve_alike {d e : Delivery} {c : Command} (given : d.command? = some c)
    (given' : e.command? = some c) (v : Service) (now : Instant) :
    (d.serve v now).Alike (e.serve v now) := by
  rw [serve_of_command? given, serve_of_command? given']
  have same := c.run_samePayload v now
  refine ⟨⟨c, given, given', ?_⟩, rfl⟩
  cases d <;> cases e
  · rfl
  · exact same
  · exact same
  · rfl

theorem serveAll_alike {ds es : List (Delivery × Instant)}
    (same : List.Forall₂ (fun d e => d.2 = e.2 ∧ ∃ c, d.1.command? = some c ∧ e.1.command? = some c)
      ds es) (v : Service) :
    List.Forall₂ Served.Alike (serveAll v ds) (serveAll v es) := by
  induction same generalizing v with
  | nil => exact .nil
  | @cons d e ds es here rest ih =>
    obtain ⟨d, now⟩ := d
    obtain ⟨e, now'⟩ := e
    obtain ⟨rfl, c, given, given'⟩ := here
    -- Both ways lead to the same service, from which the rest is served.
    have alike := serve_alike given given' v now
    refine .cons alike ?_
    rw [alike.after]
    exact ih _

end Delivery

/-! ## The same fields -/

namespace Channel.Message

variable {text type : String} {members : List (String × Document)}

/-- The text is a message with these members, in whatever order. -/
def Has (text : String) (members : List (String × Document)) : Prop :=
  ∃ given, Json.read text = (.object given, true) ∧ (Document.object given).soundWithin 127 ∧
    given.Perm members

theorem read_of_has (has : Has text (("type", .string type) :: members))
    (plain : "type" ∉ members.map Prod.fst) :
    ∃ content, read text = ofContent type (.object content) ∧ content.Perm members ∧
      ∀ m ∈ content, m.2.soundWithin 126 := by
  obtain ⟨given, parsed, sound, order⟩ := has
  have other : ∀ m ∈ members, m.1 ≠ "type" :=
    fun m member same => plain (same ▸ List.mem_map_of_mem member)
  -- Wherever it stands, the type is the only member of its name.
  have types : given.filter (·.1 = "type") = [("type", .string type)] := by
    refine List.perm_singleton.mp ((order.filter _).trans (List.Perm.of_eq ?_))
    rw [List.filter_cons_of_pos (by simp), List.filter_eq_nil_iff.mpr (by simpa using other)]
  refine ⟨given.filter (·.1 ≠ "type"), ?_, ?_, ?_⟩
  · simp only [read, parsed, sound, if_pos, ofDocument, types]
  · refine (order.filter _).trans (List.Perm.of_eq ?_)
    rw [List.filter_cons_of_neg (by simp), List.filter_eq_self.mpr (by simpa using other)]
  · intro m member
    simp only [Document.soundWithin, Bool.and_eq_true] at sound
    exact Document.soundMembers_iff.mp sound.2 m (List.mem_of_mem_filter member)

end Channel.Message

/-- The body is an object with these members, in whatever order. -/
def Http.Request.Has (request : Request) (members : List (String × Document)) : Prop :=
  request.declaresJson ∧ ∃ given, Json.readFirst request.body = .object given ∧ given.Perm members

/-- The message and the request give the same members, but for those that the request has no use for:
the type of the message and the session, which its target names. -/
inductive SameFields (text : String) (request : Http.Request) : Prop where
  | start {members : List (String × Document)} {parameter : String}
    (message : Channel.Message.Has text (("type", .string "start_session") :: members))
    (plain : "type" ∉ members.map Prod.fst) (here : request.At .sessions parameter)
    (body : request.Has members)
  | answer {members : List (String × Document)} {id : String}
    (message : Channel.Message.Has text
      (("type", .string "submit_response") :: ("sessionId", .string id) :: members))
    (plain : "type" ∉ members.map Prod.fst) (single : "sessionId" ∉ members.map Prod.fst)
    (here : request.At .responses id) (body : request.Has members)
  | ending {members given : List (String × Document)} {id : String}
    (message : Channel.Message.Has text
      (("type", .string "end_session") :: ("sessionId", .string id) :: members))
    (plain : "type" ∉ members.map Prod.fst) (single : "sessionId" ∉ members.map Prod.fst)
    (here : request.At .ending id) (there : ¬EndBody.isAbsent request.body)
    (body : Json.read request.body = (.object given, true)) (order : given.Perm members)
  /-- No body is as good as one without members. -/
  | bareEnding {id : String}
    (message : Channel.Message.Has text [("type", .string "end_session"), ("sessionId", .string id)])
    (here : request.At .ending id) (absent : EndBody.isAbsent request.body)
  | session {members : List (String × Document)} {id : String}
    (message : Channel.Message.Has text
      (("type", .string "get_session") :: ("sessionId", .string id) :: members))
    (plain : "type" ∉ members.map Prod.fst) (single : "sessionId" ∉ members.map Prod.fst)
    (here : request.At .session id)

section

open RecordField (required)

variable {β γ δ : Type} {members content given : List (String × Document)} {id : String}

/-- The fields of a body are the same among the members of a message, where the session comes
first. -/
theorem Fields.value?_body (command : String → β → γ → Command) (body : β → γ → δ)
    (of : String → δ → Command) (same : ∀ id b c, command id b c = of id (body b c))
    (first : RecordField β) (second : RecordField γ) (apart : first.name ≠ "sessionId")
    (apart' : second.name ≠ "sessionId") (single : "sessionId" ∉ members.map Prod.fst) :
    (Fields.done command |>.and (required "sessionId" .string) |>.and first |>.and second).value?
        .json (("sessionId", .string id) :: members) =
      ((Fields.done body |>.and first |>.and second).value? .json members).map (of id) := by
  have named : (required "sessionId" .string).value? .json
      (Document.under (("sessionId", .string id) :: members) "sessionId") = some id := by
    rw [Document.under_cons, if_pos rfl, Document.under_eq_nil_iff.mpr single]
    rfl
  have others {name : String} (other : name ≠ "sessionId") :
      Document.under (("sessionId", .string id) :: members) name = Document.under members name := by
    rw [Document.under_cons, if_neg other.symm]
  simp only [Fields.and, Fields.value?, others apart, others apart']
  rw [show (required "sessionId" Decoder.string).name = "sessionId" from rfl, named]
  cases first.value? .json (Document.under members first.name) <;>
    cases second.value? .json (Document.under members second.name) <;> simp [same]

theorem Fields.toOption_decode_body (command : String → β → γ → Command) (body : β → γ → δ)
    (of : String → δ → Command) (same : ∀ id b c, command id b c = of id (body b c))
    (first : RecordField β) (second : RecordField γ)
    (distinct : [second.name, first.name, "sessionId"].Nodup)
    (order : content.Perm (("sessionId", .string id) :: members)) (order' : given.Perm members)
    (sound : ∀ m ∈ content, m.2.soundWithin 126) (single : "sessionId" ∉ members.map Prod.fst) :
    ((Fields.done command |>.and (required "sessionId" .string) |>.and first |>.and second).decode
        .json (.object content)).toOption =
      ((Fields.done body |>.and first |>.and second).decode .json (.object given)).toOption.map
        (of id) := by
  have within : ∀ m ∈ given, m.2.soundWithin 126 := fun m member =>
    sound m (order.mem_iff.mpr (List.mem_cons_of_mem _ (order'.mem_iff.mp member)))
  have apart : first.name ≠ "sessionId" ∧ second.name ≠ "sessionId" ∧ second.name ≠ first.name := by
    grind
  rw [Fields.toOption_decode_object ?_ (.of_sound sound),
    Fields.toOption_decode_object ?_ (.of_sound within), Fields.value?_perm order,
    Fields.value?_perm order',
    Fields.value?_body command body of same first second apart.1 apart.2.1 single]
  · simpa [Fields.names, Fields.and] using apart.2.2
  · exact distinct

theorem toOption_decodeSession (order : content.Perm (("sessionId", .string id) :: members))
    (sound : ∀ m ∈ content, m.2.soundWithin 126) (single : "sessionId" ∉ members.map Prod.fst) :
    (Channel.Message.decodeSession .json (.object content)).toOption = some (.session id) := by
  refine (Fields.toOption_decode_object (by decide) (.of_sound sound)).trans ?_
  rw [Fields.value?_perm order]
  simp [Fields.value?, Fields.and, required, RecordField.value?, Document.under_eq_nil_iff.mpr single,
    Decoder.string, Except.toOption]

end

theorem Delivery.command?_message {text : String} {c? : Option Command}
    (read : Channel.Message.read text = c?.map .command) : (message text).command? = c? := by
  rw [command?, read]
  cases c? <;> rfl

theorem Delivery.command?_request {r : Http.Request} {resource : Http.Resource} {id : String}
    (here : r.At resource id) : (request r).command? = resource.command? r id :=
  Http.Request.command?_eq here

/-- From a message and a request with the same fields the same command is read, or none from either. -/
theorem SameFields.command?_eq {text : String} {request : Http.Request}
    (same : SameFields text request) :
    (Delivery.message text).command? = (Delivery.request request).command? := by
  cases same with
  | start message plain here body =>
    obtain ⟨content, read, order, sound⟩ := Channel.Message.read_of_has message plain
    obtain ⟨json, given, parsed, order'⟩ := body
    rw [Delivery.command?_message read, Delivery.command?_request here, Http.Resource.command?,
      Http.Request.toOption_read json parsed]
    exact Fields.toOption_decode_perm (by decide) (.of_sound sound) (order.trans order'.symm)
  | answer message plain single here body =>
    obtain ⟨content, read, order, sound⟩ :=
      Channel.Message.read_of_has message (by simpa using plain)
    obtain ⟨json, given, parsed, order'⟩ := body
    rw [Delivery.command?_message read, Delivery.command?_request here, Http.Resource.command?,
      Http.Request.toOption_read json parsed]
    refine Fields.toOption_decode_body Command.answer AnswerBody.mk AnswerBody.command
      (fun _ _ _ => rfl) _ _ ?_ order order' sound single
    decide
  | ending message plain single here there body order' =>
    obtain ⟨content, read, order, sound⟩ :=
      Channel.Message.read_of_has message (by simpa using plain)
    rw [Delivery.command?_message read, Delivery.command?_request here, Http.Resource.command?,
      EndBody.toOption_read there body]
    refine Fields.toOption_decode_body Command.endSession EndBody.mk EndBody.command
      (fun _ _ _ => rfl) _ _ ?_ order order' sound single
    decide
  | @bareEnding id message here absent =>
    obtain ⟨content, read, order, sound⟩ := Channel.Message.read_of_has message (by simp)
    rw [List.perm_singleton.mp order] at read
    have told : (Delivery.message text).command? = some (.endSession id none false) :=
      Delivery.command?_message read
    rw [told, Delivery.command?_request here, Http.Resource.command?, EndBody.read, if_pos absent]
    rfl
  | session message plain single here =>
    obtain ⟨content, read, order, sound⟩ :=
      Channel.Message.read_of_has message (by simpa using plain)
    rw [Delivery.command?_message read, Delivery.command?_request here, Http.Resource.command?,
      toOption_decodeSession order sound single]

/-! ## What is not read -/

theorem Channel.reply_of_unread {text : String} (unread : Message.read text = none) (v : Service)
    (now : Instant) : reply v text now = (unreadable, v) := by
  rw [reply, unread]

/-- Commands that are delivered one after another, each by message or by request, take every service
through the same services and are answered alike. Messages and requests with the same fields give the same
commands. A text that is no message is answered by an error, as is an end with a body that cannot be read,
and the service stays as it was. -/
theorem deliveries_agree (v : Service) :
    (∀ ds es : List (Delivery × Instant),
      List.Forall₂
        (fun d e => d.2 = e.2 ∧ ∃ c, d.1.command? = some c ∧ e.1.command? = some c) ds es →
      List.Forall₂ Served.Alike (Delivery.serveAll v ds) (Delivery.serveAll v es)) ∧
    (∀ text request, SameFields text request →
      (Delivery.message text).command? = (Delivery.request request).command?) ∧
    (∀ text now, Channel.Message.read text = none →
      Channel.reply v text now = (Channel.unreadable, v)) ∧
    ∀ (request : Http.Request) now id, request.At .ending id → ¬EndBody.isAbsent request.body →
      (∀ d b, Json.read request.body = (d, true) → EndBody.decode .json d ≠ .ok b) →
      Http.respond v request now = (.failed .malformedEnd, v) :=
  ⟨fun _ _ same => Delivery.serveAll_alike same v, fun _ _ same => same.command?_eq,
    fun _ now unread => Channel.reply_of_unread unread v now,
    fun _ now _ here there malformed => Http.respond_of_malformed_end here there malformed v now⟩

/-- A session is started by message and ended by request, or the other way round. -/
theorem mixed_deliveries_agree :
    let v := Service.ofSettings {}
    let now : Instant := ⟨0⟩
    List.Forall₂ Served.Alike
      (Delivery.serveAll v [
        (.message "[\"start_session\", \"demo-assignment\", \"al\"]", now),
        (.request ⟨"PUT", "/api/v1/sessions/session-0001/end", "", false⟩, now)])
      (Delivery.serveAll v [
        (.request ⟨"POST", "/api/v1/sessions", "[\"demo-assignment\", \"al\"]", true⟩, now),
        (.message "[\"end_session\", \"session-0001\", null, false]", now)]) := by
  intro v now
  refine (deliveries_agree v).1 _ _ (.cons ⟨rfl, .start "demo-assignment" "al", ?_, ?_⟩
    (.cons ⟨rfl, .endSession "session-0001" none false, ?_, ?_⟩ .nil))
  · decide +kernel
  · decide +kernel
  · decide +kernel
  · decide +kernel

end OralExam
