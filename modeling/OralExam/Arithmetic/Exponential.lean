import OralExam.Arithmetic.Binary
import OralExam.Arithmetic.Scalar

/-! The exponential function on doubles.

The argument is split as `k · ln 2 + r` with `0 ≤ r < ln 2`, and `e ^ r` is summed in fixed point
with many more places than a double has, so that rounding once at the end gives the nearest double.
-/

set_option autoImplicit false

namespace OralExam.Exponential

/-- Binary places of the fixed point. -/
def places : Nat := 160

/-- The natural logarithm of two. -/
def ln2 : Nat := 1013035739299659071135698605846798551586536899366

/-- The sum of the terms `r ^ n / n!` from the `n`-th on, of which `term` is the first. -/
def series (r : Nat) : (fuel n term : Nat) → Nat
  | 0, _, _ => 0
  | fuel + 1, n, term => term + series r fuel (n + 1) ((term * r) >>> places / (n + 1))

/-- `e ^ x` for a fixed-point `x`. -/
def ofFixed (x : Int) : Float :=
  let k := x / (ln2 : Int)
  let r := (x - k * ln2).toNat
  Binary.toFloat ⟨false, series r 64 0 (1 <<< places), k - places⟩

/-- The double nearest to `e ^ x`. -/
def nearest (x : Float) : Float :=
  if x.isNaN then x
  else if 710 ≤ x then Float.ofBits 0x7FF0000000000000
  else if x ≤ -746 then 0
  else
    let d := Binary.ofFloat x
    let shift := d.exponent + places
    let magnitude : Nat :=
      if shift < 0 then d.significand >>> (-shift).toNat else d.significand <<< shift.toNat
    ofFixed (if d.negative then -magnitude else magnitude)

end OralExam.Exponential

namespace OralExam

instance : Scalar Float where
  ofNat := Float.ofNat
  exp := Exponential.nearest
  sqrt := Float.sqrt
  isFinite := Float.isFinite
  epsilon := Float.ofBits 0x3CB0000000000000
  decLt := inferInstance
  decLe := inferInstance

end OralExam
