import OralExam.Arithmetic.Scalar

/-! Ability under the logistic model with two parameters.

A question of discrimination `a` and difficulty `b` is answered rightly at ability `θ` with
probability `1 / (1 + exp (-a (θ - b)))`. After every answer the ability moves by one Newton step
of the maximum-likelihood equation over all answers, taken at the ability so far.
-/

set_option autoImplicit false

namespace OralExam

/-- How a partly right answer counts. -/
inductive ResponseModel where
  /-- By its correctness. -/
  | soft
  /-- As right or wrong. -/
  | dichotomous
  deriving DecidableEq, Repr

namespace Ability

open Scalar

variable {α : Type} [Scalar α]

def probability (a b θ : α) : α := one / (one + exp (-a * (θ - b)))

/-- Fisher information of a question at an ability. -/
def information (a b θ : α) : α :=
  let p := probability a b θ
  a * a * p * (one - p)

/-- An answered question. -/
structure Item (α : Type) where
  discrimination : α
  difficulty : α
  /-- How right the answer is, from zero to one. -/
  response : α

structure Estimate (α : Type) where
  theta : α
  standardError : α
  deriving DecidableEq

structure Estimator (α : Type) where
  /-- Abilities stay within this distance of zero. -/
  bound : α
  priorStandardError : α
  model : ResponseModel
  passThreshold : α

namespace Estimator

variable (e : Estimator α)

def initial : Estimate α := ⟨zero, e.priorStandardError⟩

/-- How right an answer of that correctness counts as. -/
def responseValue (correctness : α) : α :=
  let c := unit correctness
  match e.model with
  | .soft => c
  | .dichotomous => if e.passThreshold ≤ c then one else zero

/-- The slope of the log-likelihood and the information, both summed over the items. -/
def totals (θ : α) (items : List (Item α)) : α × α :=
  items.foldl (fun (score, info) item =>
    let p := probability item.discrimination item.difficulty θ
    (score + item.discrimination * (item.response - p),
      info + item.discrimination * item.discrimination * p * (one - p))) (zero, zero)

/-- One step from the current estimate. Where the items say nothing the ability stays. The bound has to
be a number that is not below zero, as `update?` checks. -/
def update (current : Estimate α) (items : List (Item α)) : Estimate α :=
  let θ := clamp (-e.bound) e.bound current.theta
  let (score, info) := totals θ items
  if isFinite info ∧ epsilon < info then
    ⟨clamp (-e.bound) e.bound (θ + score / info), one / sqrt info⟩
  else ⟨θ, if items.isEmpty then e.priorStandardError else current.standardError⟩

/-- The same step, and nothing where the program breaks off at a clamp. -/
def update? (current : Estimate α) (items : List (Item α)) : Option (Estimate α) := do
  let θ ← clamp? (-e.bound) e.bound current.theta
  let (score, info) := totals θ items
  if isFinite info ∧ epsilon < info then
    let next ← clamp? (-e.bound) e.bound (θ + score / info)
    some ⟨next, one / sqrt info⟩
  else some ⟨θ, if items.isEmpty then e.priorStandardError else current.standardError⟩

theorem update?_eq (current : Estimate α) (items : List (Item α)) :
    e.update? current items =
      if -e.bound ≤ e.bound then some (e.update current items) else none := by
  unfold update? update clamp?
  by_cases ordered : -e.bound ≤ e.bound
  · simp only [if_pos ordered, Option.bind_eq_bind, Option.bind_some]
    split <;> rfl
  · simp only [if_neg ordered]
    rfl

end Estimator

end Ability

end OralExam
