import OralExam.Settings.Basic
import OralExam.Text.Token

/-! Scoring an answer against the question asked.

The correctness is the share of expected keywords that the transcript contains, mixed with a
similarity signal where there is one. Misconceptions about the concept take a penalty off once, and
a transcript without a word scores nothing.
-/

set_option autoImplicit false

namespace OralExam

/-- A misconception that an answer shows. -/
structure ShownMisconception where
  id : String
  severity : Severity
  correction : String
  deriving DecidableEq

/-- What scoring says of an answer. -/
structure Judgement (α : Type) where
  correctness : α
  /-- The share of expected keywords found. -/
  overlap : α
  similarity : Option α
  matched : List String
  missing : List String
  misconceptions : List ShownMisconception
  deriving DecidableEq

namespace Scoring

open Scalar Text

variable {α : Type} [Scalar α]

/-- The keyword entries expected of an answer. -/
def expected (concept : Concept) (question : Question) : List String :=
  if question.keywords.isEmpty then concept.keywords else question.keywords

def shown (concept : Concept) (transcript : List String) : List ShownMisconception :=
  (concept.misconceptions.filter fun m => m.keywords.any (matchesKeyword transcript)).map fun m =>
    ⟨m.id, m.severity, m.correction⟩

/-- The correctness before misconceptions count. Without keywords only the signal is left. -/
def blend (weight overlap : α) (hasKeywords : Bool) (similarity : Option α) : α :=
  match hasKeywords, similarity with
  | true, some s => (one - weight) * overlap + weight * s
  | true, none => overlap
  | false, some s => s
  | false, none => zero

def assess (policy : ScoringPolicy α) (concept : Concept) (question : Question)
    (transcript : String) (similarity : Option α) : Judgement α :=
  let tokens := tokens transcript
  let expected := expected concept question
  let (matched, missing) := expected.partition (matchesKeyword tokens)
  let overlap := if expected.isEmpty then zero else ofNat matched.length / ofNat expected.length
  let similarity := similarity.map unit
  let blended := blend policy.semanticWeight overlap (!expected.isEmpty) similarity
  let misconceptions := shown concept tokens
  let penalized :=
    if misconceptions.isEmpty then blended else blended - policy.misconceptionPenalty
  { correctness := unit (if tokens.isEmpty then zero else penalized)
    overlap
    similarity
    matched := matched.map keywordLabel
    missing := missing.map keywordLabel
    misconceptions }

end Scoring

end OralExam
