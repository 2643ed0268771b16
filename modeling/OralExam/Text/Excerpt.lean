/-! Beginnings of long texts. -/

set_option autoImplicit false

namespace OralExam.Text

/-- At most the first `count` characters. -/
def opening (count : Nat) (s : String) : String := String.ofList (s.toList.take count)

/-- The whole text if it has at most `limit` characters, else its beginning and its size. -/
def excerpt (limit : Nat) (s : String) : String :=
  if s.length ≤ limit then s
  else opening limit s ++ "… (" ++ toString s.utf8ByteSize ++ " bytes total)"

end OralExam.Text
