/-! The arithmetic that scores and abilities are computed in.

Definitions over `Scalar` run on doubles; read over another instance they are the same formulas
in that arithmetic.
-/

set_option autoImplicit false

namespace OralExam

class Scalar (α : Type) extends Add α, Sub α, Mul α, Div α, Neg α, LT α, LE α where
  ofNat : Nat → α
  exp : α → α
  sqrt : α → α
  isFinite : α → Bool
  /-- The distance from one to the next number, where numbers have one. -/
  epsilon : α
  decLt : DecidableLT α
  decLe : DecidableLE α

namespace Scalar

variable {α : Type} [Scalar α]

instance : DecidableLT α := decLt

instance : DecidableLE α := decLe

def zero : α := ofNat 0

def one : α := ofNat 1

/-- The nearest value from `low` to `high`; what is no number stays so. The bounds have to be numbers in
their order: there is nothing to clamp to otherwise, and a program that tries breaks off. -/
def clamp (low high x : α) : α :=
  let raised := if x < low then low else x
  if high < raised then high else raised

/-- The same where the bounds are in order, and nothing where the program breaks off. -/
def clamp? (low high x : α) : Option α := if low ≤ high then some (clamp low high x) else none

def unit (x : α) : α := clamp zero one x

def atMost (limit x : α) : α := if limit < x then limit else x

/-- The distance between two values. -/
def distance (x y : α) : α :=
  let difference := x - y
  if difference < zero then -difference else difference

def sum (xs : List α) : α := xs.foldl (· + ·) zero

/-- The mean of the values, if there are any. -/
def mean (xs : List α) : Option α :=
  if xs.isEmpty then none else some (sum xs / ofNat xs.length)

end Scalar

end OralExam
