import OralExam.Arithmetic.Exponential
import OralExam.Sorting

/-! Rubrics: the concepts of an assignment, the questions about each, and the misconceptions that
answers may show.

Questions and concepts are found by their identifiers, which are unique in a checked rubric.
-/

set_option autoImplicit false

namespace OralExam

inductive RubricStatus where
  | draft
  | active
  | archived
  deriving DecidableEq, Repr

/-- How hard a question is meant to be; it does not take part in selection. -/
inductive Tier where
  | easy
  | medium
  | hard
  deriving DecidableEq, Repr

inductive Severity where
  | low
  | medium
  | high
  deriving DecidableEq, Repr

structure Misconception where
  id : String
  keywords : List String := []
  correction : String := ""
  severity : Severity := .medium
  deriving DecidableEq

structure Question where
  id : String
  text : String
  codeSnippet : Option String := none
  tier : Tier := .medium
  /-- How sharply the question separates abilities; only positive values do. -/
  discrimination : Float
  /-- The ability at which half of the answers are right. -/
  difficulty : Float
  /-- Each entry lists alternatives. -/
  keywords : List String := []
  sampleAnswer : String := ""
  expectedSeconds : Nat := 90
  active : Bool := true
  deriving DecidableEq

def Question.isSelectable (q : Question) : Bool :=
  q.active && q.discrimination.isFinite && 0 < q.discrimination && q.difficulty.isFinite

structure Concept where
  id : String
  name : String
  /-- Relative to the other concepts that a session reaches. -/
  weight : Nat := 1
  order : Nat := 0
  /-- Expected of answers to questions without keywords of their own. -/
  keywords : List String := []
  questions : List Question := []
  misconceptions : List Misconception := []
  deriving DecidableEq

/-- The concept can be asked about. -/
def Concept.isSelectable (c : Concept) : Bool := c.questions.any Question.isSelectable

def Concept.misconception? (c : Concept) (id : String) : Option Misconception :=
  c.misconceptions.find? (·.id = id)

structure Rubric where
  id : String
  assignmentId : String
  name : String
  status : RubricStatus := .draft
  /-- The bounds between competency levels, if they differ from the usual ones. -/
  bands : Option (List Float) := none
  concepts : List Concept := []
  deriving DecidableEq

namespace Rubric

def concept? (r : Rubric) (id : String) : Option Concept := r.concepts.find? (·.id = id)

/-- A question together with the concept that it is about. -/
def question? (r : Rubric) (id : String) : Option (Concept × Question) :=
  r.concepts.findSome? fun c => (c.questions.find? (·.id = id)).map fun q => (c, q)

def questions (r : Rubric) : List Question := r.concepts.flatMap Concept.questions

def selectableQuestions (r : Rubric) : List Question := r.questions.filter Question.isSelectable

def selectableConcepts (r : Rubric) : List Concept := r.concepts.filter Concept.isSelectable

/-- The concepts in the order in which they are shown. -/
def orderedConcepts (r : Rubric) : List Concept :=
  Sorting.sort (fun a b => a.order < b.order) r.concepts

end Rubric

/-- Each number is below the next one. -/
def isAscending : List Float → Bool
  | a :: b :: rest => a < b && isAscending (b :: rest)
  | _ => true

/-- Bounds between the five competency levels: four finite numbers in ascending order. -/
def bandsAreValid (bands : List Float) : Bool :=
  bands.length = 4 && bands.all Float.isFinite && isAscending bands

end OralExam
