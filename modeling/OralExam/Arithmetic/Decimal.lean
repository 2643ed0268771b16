import OralExam.Arithmetic.Binary

/-! Decimal numbers, and the decimal text of doubles.

The digits of a double are the fewest that no other double is nearer to, and of those the ones
nearest to it.
-/

set_option autoImplicit false

namespace OralExam

/-- The value `digits · 10 ^ exponent`. -/
structure Decimal where
  digits : Nat
  exponent : Int
  deriving DecidableEq, Repr

namespace Decimal

/-- A positive ratio of natural numbers. -/
structure Ratio where
  numerator : Nat
  denominator : Nat

def Ratio.ofBinary (significand : Nat) (exponent : Int) : Ratio :=
  ⟨significand <<< exponent.toNat, 1 <<< (-exponent).toNat⟩

/-- `x / 10 ^ exponent`. -/
def Ratio.scaled (x : Ratio) (exponent : Int) : Ratio :=
  ⟨x.numerator * Nat.pow 10 (-exponent).toNat, x.denominator * Nat.pow 10 exponent.toNat⟩

def Ratio.floor (x : Ratio) : Nat := x.numerator / x.denominator

/-- The number of decimal digits of a natural number. -/
def width (n : Nat) : Nat := (Nat.toDigits 10 n).length

/-- The exponent of the first digit of a ratio not below the smallest double. -/
def leadingExponent (x : Ratio) : Int :=
  (width (x.scaled (-400)).floor : Int) - 401

/-- The doubles next to `significand · 2 ^ exponent` divide the line half way; the interval around
it is given in quarters of `2 ^ exponent`. -/
structure Neighbourhood where
  low : Nat
  value : Nat
  high : Nat
  /-- The ends belong to it. -/
  closed : Bool

def neighbourhood (x : Binary) : Neighbourhood :=
  let value := 4 * x.significand
  let below := if x.significand = Binary.fractions ∧ -1074 < x.exponent then 1 else 2
  ⟨value - below, value, value + 2, x.significand % 2 = 0⟩

/-- `point · unit` lies in the neighbourhood, whose quarters measure `quarter`. -/
def Neighbourhood.holds (n : Neighbourhood) (quarter unit : Nat) (point : Nat) : Bool :=
  let at_ := point * unit
  let low := n.low * quarter
  let high := n.high * quarter
  if n.closed then low ≤ at_ && at_ ≤ high else low < at_ && at_ < high

/-- The multiple of `10 ^ exponent` nearest to the double, if it lies in the neighbourhood. -/
def onGrid (x : Binary) (exponent : Int) : Option Decimal :=
  let n := neighbourhood x
  let quarter := Ratio.scaled (.ofBinary 1 (x.exponent - 2)) exponent
  let scaledValue := n.value * quarter.numerator
  let unit := quarter.denominator
  let down := scaledValue / unit
  let upIsNearer := unit ≤ 2 * (scaledValue - down * unit)
  let holds := n.holds quarter.numerator unit
  let choose (first second : Nat) : Option Decimal :=
    if holds first then some ⟨first, exponent⟩
    else if holds second then some ⟨second, exponent⟩
    else none
  if upIsNearer then choose (down + 1) down else choose down (down + 1)

/-- The shortest decimal of a positive finite double. -/
def shortest (x : Binary) : Decimal :=
  let leading := leadingExponent (.ofBinary x.significand x.exponent)
  let grids := (List.range 17).map fun (n : Nat) => leading - (n : Int)
  (grids.findSome? (onGrid x)).getD ⟨0, 0⟩

/-- Zeros at the end of a fraction dropped. -/
def trimmed (x : Decimal) : Decimal :=
  go (-x.exponent).toNat x
where
  go : Nat → Decimal → Decimal
    | 0, x => x
    | fuel + 1, x => if x.digits % 10 = 0 then go fuel ⟨x.digits / 10, x.exponent + 1⟩ else x

/-- All digits in their places, with a point only before a fraction. -/
def positional (x : Decimal) : String :=
  let x := x.trimmed
  if 0 ≤ x.exponent then
    String.ofList (Nat.toDigits 10 x.digits ++ List.replicate x.exponent.toNat '0')
  else
    let places := (-x.exponent).toNat
    let digits := Nat.toDigits 10 x.digits
    let padded := List.replicate (places + 1 - digits.length) '0' ++ digits
    let whole := padded.length - places
    String.ofList (padded.take whole ++ '.' :: padded.drop whole)

/-- A double as it stands in a message: its shortest digits, without an exponent. -/
def display (x : Float) : String :=
  if x.isNaN then "NaN"
  else
    let d := Binary.ofFloat x
    let magnitude :=
      if x.isInf then "inf"
      else if d.significand = 0 then "0"
      else (shortest d).positional
    if d.negative then "-" ++ magnitude else magnitude

end Decimal

end OralExam
