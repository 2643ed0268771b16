import OralExam.Document.Json
import OralExam.Service.Command

/-! A channel on which a client sends messages and gets one reply to each.

A message names its type, in the member of that name or in the first item of an array; the other
members or items belong to the type.
-/

set_option autoImplicit false

namespace OralExam.Channel

open RecordField (required defaulted nullable)

inductive Message where
  | ping
  | command (c : Command)
  deriving DecidableEq

namespace Message

def decodeAnswer : Decoder Command :=
  Fields.decode <| Fields.done Command.answer
    |>.and (required "sessionId" .string)
    |>.and (required "transcript" .string)
    |>.and (nullable "similarity" .float)

def decodeEnd : Decoder Command :=
  Fields.decode <| Fields.done Command.endSession
    |>.and (required "sessionId" .string)
    |>.and (nullable "reason" .string)
    |>.and (defaulted "abandoned" .bool false)

def decodeSession : Decoder Command :=
  Fields.decode <| Fields.done Command.session
    |>.and (required "sessionId" .string)

/-- A ping may have members, which do not count, but no items. -/
def isPing : Document → Bool
  | .object _ => true
  | .array items => items.isEmpty
  | _ => false

def ofContent (type : String) (content : Document) : Option Message :=
  let command (decode : Decoder Command) : Option Message :=
    (decode .json content).toOption.map .command
  match type with
  | "ping" => if isPing content then some .ping else none
  | "start_session" => command Command.decodeStart
  | "submit_response" => command decodeAnswer
  | "end_session" => command decodeEnd
  | "get_session" => command decodeSession
  | _ => none

def ofDocument : Document → Option Message
  | .object members =>
    match members.filter (·.1 = "type") with
    | [(_, .string type)] => ofContent type (.object (members.filter (·.1 ≠ "type")))
    | _ => none
  | .array (.string type :: items) => ofContent type (.array items)
  | _ => none

/-- Reads a message, nested at most 127 levels deep. -/
def read (text : String) : Option Message :=
  match Json.read text with
  | (d, true) => if d.soundWithin 127 then ofDocument d else none
  | (_, false) => none

end Message

def tagged (type : String) (members : List (String × Document)) : Document :=
  .object (("type", .string type) :: members)

def failed (f : Failure) : Document :=
  tagged "error" [("code", .string f.kind.code), ("message", .string f.message)]

/-- The reply to what is no message. What the reader found amiss would follow on `Invalid JSON: `, and is
left out here. -/
def unreadable : Document :=
  tagged "error" [
    ("code", .string FailureKind.validation.code),
    ("message", .string "Invalid JSON")]

def pong : Document := tagged "pong" []

def replied : Reply → Document
  | .started opening => tagged "session_started" opening.members
  | .answered outcome => tagged "response_result" outcome.members
  | .session s => tagged "session" [("session", s.document)]

/-- Replies to one message. -/
def reply (v : Service) (text : String) (now : Instant) : Document × Service :=
  match Message.read text with
  | none => (unreadable, v)
  | some .ping => (pong, v)
  | some (.command c) =>
    match c.run v now with
    | (.ok r, v) => (replied r, v)
    | (.error e, v) => (failed e, v)

end OralExam.Channel
