import OralExam.Text.Padded

/-! Instants of time and their text.

An instant counts nanoseconds from the start of 1970 in universal time, leap seconds apart; a
difference of instants is a number of nanoseconds.
-/

set_option autoImplicit false

namespace OralExam

open Text (padded)

structure Instant where
  nanoseconds : Int
  deriving DecidableEq, Repr, Inhabited

namespace Instant

instance : LT Instant := ⟨fun a b => a.nanoseconds < b.nanoseconds⟩

instance : LE Instant := ⟨fun a b => a.nanoseconds ≤ b.nanoseconds⟩

instance (a b : Instant) : Decidable (a < b) := Int.decLt a.nanoseconds b.nanoseconds

instance (a b : Instant) : Decidable (a ≤ b) := Int.decLe a.nanoseconds b.nanoseconds

def ofMilliseconds (n : Int) : Instant := ⟨n * 1000000⟩

def later (t : Instant) (nanoseconds : Int) : Instant := ⟨t.nanoseconds + nanoseconds⟩

/-- The calendar reaches from the start of the year -262143 to the end of the year 262142. -/
def first : Instant := ⟨-96465292 * 86400 * 1000000000⟩

def last : Instant := ⟨(95026236 + 1) * 86400 * 1000000000 - 1⟩

/-- Whole milliseconds from `start` to `t`, cut off toward zero. -/
def millisecondsSince (t start : Instant) : Int :=
  (t.nanoseconds - start.nanoseconds).tdiv 1000000

/-- Whole seconds from `start` to `t`, cut off toward zero. -/
def secondsSince (t start : Instant) : Int :=
  (t.nanoseconds - start.nanoseconds).tdiv 1000000000

/-- A day of the Gregorian calendar. -/
structure Date where
  year : Int
  month : Nat
  day : Nat
  deriving DecidableEq, Repr

/-- The date of the `n`-th day after 1 January 1970. Years are counted from 1 March, so that a
leap day comes last, and in eras of 400 years, which all have 146097 days. -/
def Date.ofDay (n : Int) : Date :=
  let shifted := n + 719468
  let era := shifted.fdiv 146097
  let dayOfEra := (shifted.fmod 146097).toNat
  let yearOfEra := (dayOfEra - dayOfEra / 1460 + dayOfEra / 36524 - dayOfEra / 146096) / 365
  let dayOfYear := dayOfEra - (365 * yearOfEra + yearOfEra / 4 - yearOfEra / 100)
  let monthFromMarch := (5 * dayOfYear + 2) / 153
  let day := dayOfYear - (153 * monthFromMarch + 2) / 5 + 1
  let month := if monthFromMarch < 10 then monthFromMarch + 3 else monthFromMarch - 9
  let year := era * 400 + yearOfEra + (if month ≤ 2 then 1 else 0)
  ⟨year, month, day⟩

/-- Four digits; outside of the years 0 to 9999 there is a sign in front. -/
def yearText (year : Int) : String :=
  if 0 ≤ year ∧ year ≤ 9999 then padded 4 year.toNat
  else (if year < 0 then "-" else "+") ++ padded 4 year.natAbs

/-- The fraction of a second in 0, 3, 6 or 9 digits, the least number that is exact. -/
def fractionText (nanoseconds : Nat) : String :=
  if nanoseconds = 0 then ""
  else if nanoseconds % 1000000 = 0 then "." ++ padded 3 (nanoseconds / 1000000)
  else if nanoseconds % 1000 = 0 then "." ++ padded 6 (nanoseconds / 1000)
  else "." ++ padded 9 nanoseconds

/-- Date and time by RFC 3339, in universal time. -/
def text (t : Instant) : String :=
  let seconds := t.nanoseconds.fdiv 1000000000
  let fraction := (t.nanoseconds.fmod 1000000000).toNat
  let date := Date.ofDay (seconds.fdiv 86400)
  let second := (seconds.fmod 86400).toNat
  yearText date.year ++ "-" ++ padded 2 date.month ++ "-" ++ padded 2 date.day ++ "T" ++
    padded 2 (second / 3600) ++ ":" ++ padded 2 (second / 60 % 60) ++ ":" ++
    padded 2 (second % 60) ++ fractionText fraction ++ "Z"

end Instant

end OralExam
