import OralExam.Document.Decoder
import OralExam.Rubric.Basic

/-! Rubrics as documents: how they are read and how they are written. -/

set_option autoImplicit false

namespace OralExam

open RecordField (required defaulted nullable)

/-- A name of each value, both ways. -/
def nameOf {α : Type} [DecidableEq α] (names : List (String × α)) (a : α) : String :=
  ((names.find? (·.2 = a)).map Prod.fst).getD ""

namespace RubricStatus

def names : List (String × RubricStatus) :=
  [("DRAFT", draft), ("ACTIVE", active), ("ARCHIVED", archived)]

def name (s : RubricStatus) : String := nameOf names s

end RubricStatus

namespace Tier

def names : List (String × Tier) := [("easy", easy), ("medium", medium), ("hard", hard)]

def name (t : Tier) : String := nameOf names t

end Tier

namespace Severity

def names : List (String × Severity) := [("LOW", low), ("MEDIUM", medium), ("HIGH", high)]

def name (s : Severity) : String := nameOf names s

end Severity

namespace Misconception

def decode : Decoder Misconception :=
  Fields.decode <| Fields.done Misconception.mk
    |>.and (required "id" .string)
    |>.and (defaulted "keywords" (.list .string) [])
    |>.and (defaulted "correction" .string "")
    |>.and (defaulted "severity" (.choice Severity.names) .medium)

def document (m : Misconception) : Document := .object [
  ("id", .string m.id),
  ("keywords", .strings m.keywords),
  ("correction", .string m.correction),
  ("severity", .string m.severity.name)]

end Misconception

namespace Question

def decode : Decoder Question :=
  Fields.decode <| Fields.done Question.mk
    |>.and (required "id" .string)
    |>.and (required "text" .string)
    |>.and (nullable "code_snippet" .string)
    |>.and (defaulted "tier" (.choice Tier.names) .medium)
    |>.and (required "discrimination" .float)
    |>.and (required "difficulty" .float)
    |>.and (defaulted "expected_keywords" (.list .string) [])
    |>.and (defaulted "sample_answer" .string "")
    |>.and (defaulted "expected_response_secs" .word32 90)
    |>.and (defaulted "active" .bool true)

def document (q : Question) : Document := .object [
  ("id", .string q.id),
  ("text", .string q.text),
  ("code_snippet", .ofOption .string q.codeSnippet),
  ("tier", .string q.tier.name),
  ("discrimination", .float q.discrimination),
  ("difficulty", .float q.difficulty),
  ("expected_keywords", .strings q.keywords),
  ("sample_answer", .string q.sampleAnswer),
  ("expected_response_secs", .ofNat q.expectedSeconds),
  ("active", .bool q.active)]

end Question

namespace Concept

def decode : Decoder Concept :=
  Fields.decode <| Fields.done Concept.mk
    |>.and (required "id" .string)
    |>.and (required "name" .string)
    |>.and (defaulted "weight" .word32 1)
    |>.and (defaulted "order" .word32 0)
    |>.and (defaulted "keywords" (.list .string) [])
    |>.and (defaulted "questions" (.list Question.decode) [])
    |>.and (defaulted "misconceptions" (.list Misconception.decode) [])

def document (c : Concept) : Document := .object [
  ("id", .string c.id),
  ("name", .string c.name),
  ("weight", .ofNat c.weight),
  ("order", .ofNat c.order),
  ("keywords", .strings c.keywords),
  ("questions", .array (c.questions.map Question.document)),
  ("misconceptions", .array (c.misconceptions.map Misconception.document))]

end Concept

namespace Rubric

def decode : Decoder Rubric :=
  Fields.decode <| Fields.done Rubric.mk
    |>.and (required "id" .string)
    |>.and (required "assignment_id" .string)
    |>.and (required "name" .string)
    |>.and (defaulted "status" (.choice RubricStatus.names) .draft)
    |>.and (nullable "competency_bands" (.list .float))
    |>.and (defaulted "concepts" (.list Concept.decode) [])

def document (r : Rubric) : Document := .object [
  ("id", .string r.id),
  ("assignment_id", .string r.assignmentId),
  ("name", .string r.name),
  ("status", .string r.status.name),
  ("competency_bands", .ofOption (fun bands => .array (bands.map .float)) r.bands),
  ("concepts", .array (r.concepts.map Concept.document))]

end Rubric

end OralExam
