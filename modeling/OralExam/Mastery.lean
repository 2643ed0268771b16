import OralExam.Keyed
import OralExam.Settings.Basic
import OralExam.Text.Excerpt

/-! How well a student has mastered each concept reached in a session. -/

set_option autoImplicit false

namespace OralExam

/-- The answers about one concept taken together. -/
structure Standing (α : Type) where
  sessionId : String
  conceptId : String
  /-- The sum of the answers' correctness. -/
  score : α
  /-- Their mean. -/
  mastery : α
  questionsAnswered : Nat
  correctAnswers : Nat
  misconceptions : List String
  strengths : List String
  weaknesses : List String
  deriving DecidableEq

/-- The standings of a session by concept. -/
abbrev Mastery (α : Type) := Keyed String (Standing α)

namespace Standing

open Scalar Text

variable {α : Type} [Scalar α]

def fresh (sessionId conceptId : String) : Standing α :=
  ⟨sessionId, conceptId, zero, zero, 0, 0, [], [], []⟩

/-- The list with those of `ids` that it does not have, each once. -/
def addNew (known ids : List String) : List String :=
  ids.foldl (fun known id => if known.contains id then known else known ++ [id]) known

/-- As much of a question as a note quotes. -/
def quoted (question : Question) : String := opening 80 question.text

/-- Takes one more answer into account. -/
def add (s : Standing α) (policy : ScoringPolicy α) (question : Question) (correctness : α)
    (misconceptions : List String) : Standing α :=
  let c := unit correctness
  let answered := s.questionsAnswered + 1
  let score := s.score + c
  let strong := policy.strengthThreshold ≤ c ∧ s.strengths.length < policy.maxNotes
  let weak := c ≤ policy.weaknessThreshold ∧ s.weaknesses.length < policy.maxNotes
  { s with
    questionsAnswered := answered
    correctAnswers := if policy.passThreshold ≤ c then s.correctAnswers + 1 else s.correctAnswers
    score
    mastery := score / ofNat answered
    misconceptions := addNew s.misconceptions misconceptions
    strengths :=
      if strong then s.strengths ++ ["Strong answer: " ++ quoted question] else s.strengths
    weaknesses :=
      if ¬strong ∧ weak then s.weaknesses ++ ["Struggled with: " ++ quoted question]
      else s.weaknesses }

end Standing

/-- Takes one more answer about a concept into account. -/
def Mastery.record {α : Type} [Scalar α] (m : Mastery α) (policy : ScoringPolicy α)
    (sessionId conceptId : String) (question : Question) (correctness : α)
    (misconceptions : List String) : Mastery α :=
  let standing := (m.find? conceptId).getD (Standing.fresh sessionId conceptId)
  m.put conceptId (standing.add policy question correctness misconceptions)

end OralExam
