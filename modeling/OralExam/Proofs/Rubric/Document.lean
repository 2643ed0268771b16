import OralExam.Proofs.Document.JsonValue
import OralExam.Proofs.Rubric.Checked
import OralExam.Proofs.Service.Requests

/-! Rubrics are read back as they were written, so that one service can hand them to another. -/

set_option autoImplicit false

namespace OralExam

open Document (JsonValue)

theorem RubricStatus.mem_names (s : RubricStatus) : s ∈ names.map Prod.snd := by
  cases s <;> decide

theorem Tier.mem_names (t : Tier) : t ∈ names.map Prod.snd := by
  cases t <;> decide

theorem Severity.mem_names (s : Severity) : s ∈ names.map Prod.snd := by
  cases s <;> decide

/-! ## The parts of a rubric -/

theorem Misconception.reads_document (m : Misconception) :
    Misconception.decode.Reads m.document m := by
  obtain ⟨id, keywords, correction, severity⟩ := m
  -- The last field stands outermost, so the fields are gone through from the last to the first.
  refine Fields.reads_object (by decide) ?_
  refine .vacant ?_ (Decoder.reads_choice (by decide) severity.mem_names)
  refine .vacant ?_ (Decoder.reads_string correction)
  refine .vacant ?_ (Decoder.reads_strings keywords)
  exact .vacant (.done _) (Decoder.reads_string id)

/-- Its numbers are finite or fit a word of 32 bits. -/
structure Question.Expressible (q : Question) : Prop where
  discrimination : q.discrimination.isFinite
  difficulty : q.difficulty.isFinite
  seconds : q.expectedSeconds < Word.size32

theorem Question.Expressible.reads_document {q : Question} (expressible : q.Expressible) :
    Question.decode.Reads q.document q := by
  obtain ⟨id, text, snippet, tier, discrimination, difficulty, keywords, sample, seconds, active⟩ := q
  refine Fields.reads_object (by decide) ?_
  refine .vacant ?_ (Decoder.reads_bool active)
  refine .vacant ?_ (Decoder.reads_word32 expressible.seconds)
  refine .vacant ?_ (Decoder.reads_string sample)
  refine .vacant ?_ (Decoder.reads_strings keywords)
  refine .vacant ?_ (Decoder.reads_float expressible.difficulty)
  refine .vacant ?_ (Decoder.reads_float expressible.discrimination)
  refine .vacant ?_ (Decoder.reads_choice (by decide) tier.mem_names)
  refine .vacant ?_ (Decoder.reads_optional nofun fun s _ => Decoder.reads_string s)
  refine .vacant ?_ (Decoder.reads_string text)
  exact .vacant (.done _) (Decoder.reads_string id)

structure Concept.Expressible (c : Concept) : Prop where
  weight : c.weight < Word.size32
  order : c.order < Word.size32
  questions : ∀ q ∈ c.questions, q.Expressible

theorem Concept.Expressible.reads_document {c : Concept} (expressible : c.Expressible) :
    Concept.decode.Reads c.document c := by
  obtain ⟨id, name, weight, order, keywords, questions, misconceptions⟩ := c
  refine Fields.reads_object (by decide) ?_
  refine .vacant ?_ (Decoder.reads_list fun m _ => m.reads_document)
  refine .vacant ?_
    (Decoder.reads_list fun q member => (expressible.questions q member).reads_document)
  refine .vacant ?_ (Decoder.reads_strings keywords)
  refine .vacant ?_ (Decoder.reads_word32 expressible.order)
  refine .vacant ?_ (Decoder.reads_word32 expressible.weight)
  refine .vacant ?_ (Decoder.reads_string name)
  exact .vacant (.done _) (Decoder.reads_string id)

namespace Rubric

structure Expressible (r : Rubric) : Prop where
  bands : ∀ bands ∈ r.bands, ∀ x ∈ bands, x.isFinite
  concepts : ∀ c ∈ r.concepts, c.Expressible

theorem Expressible.reads_document {r : Rubric} (expressible : r.Expressible) :
    Rubric.decode.Reads r.document r := by
  obtain ⟨id, assignmentId, name, status, bands, concepts⟩ := r
  have read_bands : ∀ xs ∈ bands, (Decoder.list .float).Reads (.array (xs.map .float)) xs :=
    fun xs given => Decoder.reads_list fun x member =>
      Decoder.reads_float (expressible.bands xs given x member)
  refine Fields.reads_object (by decide) ?_
  refine .vacant ?_
    (Decoder.reads_list fun c member => (expressible.concepts c member).reads_document)
  refine .vacant ?_ (Decoder.reads_optional nofun read_bands)
  refine .vacant ?_ (Decoder.reads_choice (by decide) status.mem_names)
  refine .vacant ?_ (Decoder.reads_string name)
  refine .vacant ?_ (Decoder.reads_string assignmentId)
  exact .vacant (.done _) (Decoder.reads_string id)

end Rubric

/-! ## From service to service -/

theorem Json.readFirst_join (pieces : List String) :
    readFirst (String.join pieces) =
      (readValue ((pieces.flatMap String.toList).length + 1)
        (pieces.flatMap String.toList)).document := by
  rw [readFirst, String.toList_join]

namespace Http

/-- It asks for the publication of the rubric that the document is. -/
structure Request.Publishes (request : Request) (e : Document) : Prop where
  here : request.At .rubrics ""
  json : request.declaresJson
  body : Json.readFirst request.body = e

theorem Request.Publishes.respond {request : Request} {e : Document} {r : Rubric}
    (publishes : request.Publishes e) (read : Rubric.decode .json e = .ok r) (v : Service)
    (now : Instant) :
    Http.respond v request now = (.ofResult 201 Rubric.receipt (v.publish r).1, (v.publish r).2) := by
  have given : request.read Rubric.decode = .ok r := by
    rw [Request.read, publishes.json, publishes.body, read]
    rfl
  rw [respond_of_at publishes.here, Resource.serve, given]

end Http

theorem Service.publish_of_checked (v : Service) {r : Rubric} (checked : r.Checked) :
    ∃ v' : Service, v.publish r = (.ok r, v') ∧ v'.bank.find? r.id = some r := by
  obtain ⟨bank, published⟩ : ∃ bank, v.bank.publish r = .ok bank :=
    ⟨_, RubricBank.publish_eq_ok_iff.mpr ⟨checked, rfl⟩⟩
  obtain ⟨-, rfl⟩ := RubricBank.publish_eq_ok_iff.mp published
  refine ⟨_, by rw [Service.publish, published], ?_⟩
  simp only [Keyed.find?_put, if_pos]

namespace Rubric

/-- From every JSON value that an expressible rubric is written as, the rubric is read, and what the
check says of it is the same. A rubric from the bank of one service, handed on in this way, is published
by another service and is in its bank unchanged. -/
theorem written_rubrics_arrive (r : Rubric) (expressible : r.Expressible) :
    (∃ e, r.document.JsonValue e) ∧
    ∀ e, r.document.JsonValue e →
      Rubric.decode .json e = .ok r ∧
      (Rubric.decode .json e).map check = .ok r.check ∧
      ∀ bank : RubricBank, bank.AllChecked → r ∈ bank.values →
        ∀ (v : Service) (request : Http.Request) (now : Instant), request.Publishes e →
          ∃ v', Http.respond v request now = (⟨201, some r.receipt⟩, v') ∧
            v'.bank.find? r.id = some r := by
  refine ⟨r.document.exists_jsonValue, fun e value => ?_⟩
  have read : Rubric.decode .json e = .ok r := expressible.reads_document e value
  refine ⟨read, by rw [read]; rfl, fun bank checked member v request now publishes => ?_⟩
  obtain ⟨v', published, kept⟩ := v.publish_of_checked (checked r member)
  refine ⟨v', ?_, kept⟩
  rw [publishes.respond read, published]
  rfl

/-- A rubric that differs from what is left out of a document. -/
def pointed : Rubric where
  id := "r"
  assignmentId := "a"
  name := "R"
  status := .archived
  bands := some [-1.5, -0.5, 0.5, 1.5]
  concepts := [
    { id := "c", name := "C", weight := 0, order := 3
      questions := [
        { id := "q", text := "Why?", tier := .hard, discrimination := 1.0, difficulty := -0.5
          expectedSeconds := 0, active := false }]
      misconceptions := [{ id := "m", severity := .high }] }]

theorem pointed_expressible : pointed.Expressible where
  bands := by
    rintro _ ⟨⟩
    decide +kernel
  concepts := by
    rintro c (_ | ⟨_, ⟨⟩⟩)
    refine ⟨by decide, by decide, ?_⟩
    rintro q (_ | ⟨_, ⟨⟩⟩)
    exact ⟨by decide +kernel, by decide +kernel, by decide⟩

/-- The text of the rubric, with its members the other way round. Pieces of a text are evaluated faster
than the whole. -/
def pointedText : List String := [
  "\x7b\"concepts\":[\x7b\"id\":\"c\",\"name\":\"C\",\"weight\":0,\"order\":3,",
  "\"keywords\":[],\"questions\":[\x7b\"id\":\"q\",\"text\":\"Why?\",",
  "\"code_snippet\":null,\"tier\":\"hard\",\"discrimination\":1.0,",
  "\"difficulty\":-0.5,\"expected_keywords\":[],\"sample_answer\":\"\",",
  "\"expected_response_secs\":0,\"active\":false\x7d],",
  "\"misconceptions\":[\x7b\"id\":\"m\",\"keywords\":[],\"correction\":\"\",",
  "\"severity\":\"HIGH\"\x7d]\x7d],\"competency_bands\":[-1.5,-0.5,0.5,1.5],",
  "\"status\":\"ARCHIVED\",\"name\":\"R\",\"assignment_id\":\"a\",\"id\":\"r\"\x7d"]

/-- From the bank where it is, it comes to a service that does not have it. -/
theorem pointed_rubric_arrives :
    let bank : RubricBank := Keyed.put {} pointed.id pointed
    let request : Http.Request :=
      { method := "POST", uri := "/api/v1/rubrics", body := String.join pointedText }
    pointed.Expressible ∧ bank.AllChecked ∧ pointed ∈ bank.values ∧
    ∃ members, pointed.document = .object members ∧
      request.Publishes (.object members.reverse) ∧
      Rubric.decode .json (.object members.reverse) = .ok pointed ∧
      ∃ v', Http.respond (Service.ofSettings {}) request ⟨0⟩ =
        (⟨201, some pointed.receipt⟩, v') ∧ v'.bank.find? "r" = some pointed := by
  intro bank request
  have checked : bank.AllChecked := by
    rintro r (_ | ⟨_, ⟨⟩⟩)
    exact (isValid_iff pointed).mp (by decide +kernel)
  have member : pointed ∈ bank.values := List.mem_singleton_self _
  obtain ⟨-, arrives⟩ := written_rubrics_arrive pointed pointed_expressible
  refine ⟨pointed_expressible, checked, member, _, rfl, ?publishes, (arrives _ ?value).1,
    (arrives _ ?value).2.2 bank checked member _ request _ ?publishes⟩
  case publishes =>
    refine ⟨⟨rfl, "", by decide +kernel, by decide +kernel⟩, rfl, ?_⟩
    exact (Json.readFirst_join pointedText).trans (by decide +kernel)
  case value =>
    refine .object ?_ (List.reverse_perm _).symm
    repeat' first | exact .float (by decide +kernel) | constructor

end Rubric

end OralExam
