import OralExam.Ability
import OralExam.Keyed
import OralExam.Rubric.Basic

/-! The next question: the one that tells most about the ability reached.

Of questions that tell about equally much, the one about the concept asked least so far comes
first, then the one with the smallest identifier.
-/

set_option autoImplicit false

namespace OralExam

structure Candidate (α : Type) where
  concept : Concept
  question : Question
  information : α
  /-- How many questions about the concept have been asked. -/
  load : Nat

namespace Rubric

open Scalar

variable {α : Type} [Scalar α]

/-- Questions asked so far by concept; of two concepts with one identifier the last one counts. -/
def loads (r : Rubric) (asked : List String) : Keyed String Nat :=
  r.concepts.foldl (fun loads c =>
    loads.put c.id (c.questions.countP fun q => asked.contains q.id)) {}

/-- The questions that can still be asked, in the order of the rubric. -/
def candidates (r : Rubric) (measure : Question → α) (asked : List String) : List (Candidate α) :=
  let loads := r.loads asked
  r.concepts.flatMap fun c =>
    let load := (loads.find? c.id).getD 0
    (c.questions.filter fun q => q.isSelectable && !asked.contains q.id).map fun q =>
      ⟨c, q, measure q, load⟩

/-- Informations closer than this count as equal. -/
def tieWidth : α := one / ofNat 1000000000000

/-- The first of two candidates is preferred to the second. -/
def beats (candidate best : Candidate α) : Bool :=
  if best.information + tieWidth < candidate.information then true
  else if candidate.information < best.information - tieWidth then false
  else candidate.load < best.load ||
    (candidate.load = best.load && candidate.question.id < best.question.id)

def choose (r : Rubric) (measure : Question → α) (asked : List String) : Option (Candidate α) :=
  (r.candidates measure asked).foldl (fun best candidate =>
    match best with
    | none => some candidate
    | some b => if beats candidate b then some candidate else some b) none

/-- The next question at an ability; none if all that can be asked have been. -/
def selectNext (r : Rubric) (θ : Float) (asked : List String) : Option (Candidate Float) :=
  r.choose (fun q => Ability.information q.discrimination q.difficulty θ) asked

end Rubric

end OralExam
