import OralExam.Arithmetic.Word

/-! Doubles as integers times powers of two. -/

set_option autoImplicit false

namespace OralExam

/-- The value `significand · 2 ^ exponent`, negated if `negative`. -/
structure Binary where
  negative : Bool
  significand : Nat
  exponent : Int
  deriving DecidableEq, Repr

namespace Binary

/-- There are so many doubles from a power of two up to the next one. -/
abbrev fractions : Nat := 0x10000000000000

/-- The exact value of a finite double. -/
def ofFloat (x : Float) : Binary :=
  let bits := x.toBits.toNat
  let fraction : Nat := bits % fractions
  let scale : Nat := bits / fractions % 0x800
  let negative := Word.size63 ≤ bits
  if scale = 0 then ⟨negative, fraction, -1074⟩
  else ⟨negative, fractions + fraction, (scale : Int) - 1075⟩

/-- `n / 2 ^ shift` to the nearest integer, a tie to the even one. -/
def shiftRightToEven (n shift : Nat) : Nat :=
  let quotient := n >>> shift
  let rest := n - quotient <<< shift
  let half := (1 <<< shift) / 2
  if shift = 0 ∨ rest < half ∨ (rest = half ∧ quotient % 2 = 0) then quotient else quotient + 1

/-- The nearest double, a tie to the even significand; beyond the largest one, infinity. -/
def toFloat (x : Binary) : Float :=
  let sign := if x.negative then Word.size63 else 0
  if x.significand = 0 then Float.ofBits (UInt64.ofNat sign)
  else
    let unit := max (x.exponent + x.significand.log2 - 52) (-1074)
    let steps :=
      if x.exponent < unit then shiftRightToEven x.significand (unit - x.exponent).toNat
      else x.significand <<< (x.exponent - unit).toNat
    -- A significand that fills its 53 bits adds one to the exponent field by its top bit.
    let magnitude := (unit + 1074).toNat * fractions + steps
    Float.ofBits (UInt64.ofNat (sign + min magnitude (2047 * fractions)))

end Binary

end OralExam
