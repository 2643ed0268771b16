/-! Numbers written with a least width. -/

set_option autoImplicit false

namespace OralExam.Text

/-- A natural number with zeros in front up to `width` digits. -/
def padded (width n : Nat) : String :=
  let digits := Nat.toDigits 10 n
  String.ofList (List.replicate (width - digits.length) '0' ++ digits)

end OralExam.Text
