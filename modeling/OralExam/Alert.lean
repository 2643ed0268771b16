import OralExam.Document.Basic
import OralExam.Session.Basic

/-! Alerts about flagged sessions, delivered to a webhook.

A delivery that fails has no effect on the session.
-/

set_option autoImplicit false

namespace OralExam

structure Alert where
  sessionId : String
  assignmentId : String
  studentId : String
  attempt : Nat
  reason : String
  deriving DecidableEq, Repr

/-- The alert about a session, if it is flagged. -/
def Session.alert? (s : Session) : Option Alert :=
  if s.flagged then s.flagReason.map fun reason =>
    ⟨s.id, s.assignmentId, s.studentId, s.attempt, reason⟩
  else none

namespace Alert

def document (a : Alert) : Document := .object [
  ("sessionId", .string a.sessionId),
  ("assignmentId", .string a.assignmentId),
  ("studentId", .string a.studentId),
  ("attemptNumber", .ofNat a.attempt),
  ("reason", .string a.reason)]

/-- Reason phrases of HTTP statuses. -/
def reasonPhrases : List (Nat × String) := [
  (100, "Continue"), (101, "Switching Protocols"), (102, "Processing"),
  (200, "OK"), (201, "Created"), (202, "Accepted"),
  (203, "Non Authoritative Information"), (204, "No Content"), (205, "Reset Content"),
  (206, "Partial Content"), (207, "Multi-Status"), (208, "Already Reported"), (226, "IM Used"),
  (300, "Multiple Choices"), (301, "Moved Permanently"), (302, "Found"), (303, "See Other"),
  (304, "Not Modified"), (305, "Use Proxy"), (307, "Temporary Redirect"),
  (308, "Permanent Redirect"),
  (400, "Bad Request"), (401, "Unauthorized"), (402, "Payment Required"), (403, "Forbidden"),
  (404, "Not Found"), (405, "Method Not Allowed"), (406, "Not Acceptable"),
  (407, "Proxy Authentication Required"), (408, "Request Timeout"), (409, "Conflict"),
  (410, "Gone"), (411, "Length Required"), (412, "Precondition Failed"),
  (413, "Payload Too Large"), (414, "URI Too Long"), (415, "Unsupported Media Type"),
  (416, "Range Not Satisfiable"), (417, "Expectation Failed"), (418, "I'm a teapot"),
  (421, "Misdirected Request"), (422, "Unprocessable Entity"), (423, "Locked"),
  (424, "Failed Dependency"), (426, "Upgrade Required"),
  (428, "Precondition Required"), (429, "Too Many Requests"),
  (431, "Request Header Fields Too Large"), (451, "Unavailable For Legal Reasons"),
  (500, "Internal Server Error"), (501, "Not Implemented"), (502, "Bad Gateway"),
  (503, "Service Unavailable"), (504, "Gateway Timeout"), (505, "HTTP Version Not Supported"),
  (506, "Variant Also Negotiates"), (507, "Insufficient Storage"), (508, "Loop Detected"),
  (510, "Not Extended"), (511, "Network Authentication Required")]

def reasonPhrase (status : Nat) : String :=
  (reasonPhrases.lookup status).getD "<unknown status code>"

/-- Why a delivery answered with that status has failed; statuses from 200 to 299 mean success. -/
def deliveryFailure (status : Nat) : Option String :=
  if 200 ≤ status ∧ status < 300 then none
  else some ("webhook returned HTTP " ++ toString status ++ " " ++ reasonPhrase status)

end Alert

end OralExam
