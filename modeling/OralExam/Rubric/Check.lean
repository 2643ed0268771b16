import OralExam.Failure
import OralExam.Rubric.Basic

/-! What a rubric has to satisfy to be kept. -/

set_option autoImplicit false

namespace OralExam.Rubric

/-- The first identifier, in order, that stood in the list before or is among `seen`. -/
def firstRepeated (seen : List String) : List String → Option String
  | [] => none
  | id :: ids => if seen.contains id then some id else firstRepeated (id :: seen) ids

theorem firstRepeated_eq_none_iff {seen ids : List String} :
    firstRepeated seen ids = none ↔ ids.Nodup ∧ ∀ id ∈ ids, id ∉ seen := by
  induction ids generalizing seen with
  | nil => simp [firstRepeated]
  | cons id ids ih =>
    by_cases h : id ∈ seen
    · simp [firstRepeated, h]
    · simp only [firstRepeated, List.contains_iff_mem, h, if_false, ih, List.nodup_cons,
        List.mem_cons, not_or]
      grind

/-- Concepts are taken in order, each before its questions. -/
def checkConcepts (rubric : String) (concepts questions : List String) :
    List Concept → Except Failure Unit
  | [] => .ok ()
  | c :: cs =>
    if concepts.contains c.id then .error (.duplicateConcept rubric c.id)
    else
      let ids := c.questions.map Question.id
      match firstRepeated questions ids with
      | some id => .error (.duplicateQuestion rubric id)
      | none => checkConcepts rubric (c.id :: concepts) (ids ++ questions) cs

/-- Identifiers are not blank, bounds are valid, concepts and questions are told apart. -/
def check (r : Rubric) : Except Failure Unit :=
  if Text.isBlank r.id || Text.isBlank r.assignmentId then .error .blankRubricId
  else if r.bands.any fun bands => !bandsAreValid bands then .error (.invalidBands r.id)
  else checkConcepts r.id [] [] r.concepts

end OralExam.Rubric
