/-! Text from bytes in UTF-8.

Bytes that are no UTF-8 are taken in pieces: each piece is the longest beginning of a character that
stands there, or else one byte.
-/

set_option autoImplicit false

namespace OralExam.Text

/-- What the first byte of a character says: its own part of the code point, how many bytes follow,
and the range of the first of these. -/
structure Lead where
  value : Nat
  following : Nat
  low : Nat := 0x80
  high : Nat := 0xBF

def lead? (b : Nat) : Option Lead :=
  if b < 0x80 then some ⟨b, 0, 0x80, 0xBF⟩
  else if b < 0xC2 then none
  else if b < 0xE0 then some ⟨b - 0xC0, 1, 0x80, 0xBF⟩
  else if b = 0xE0 then some ⟨0, 2, 0xA0, 0xBF⟩
  else if b = 0xED then some ⟨0xD, 2, 0x80, 0x9F⟩
  else if b < 0xF0 then some ⟨b - 0xE0, 2, 0x80, 0xBF⟩
  else if b = 0xF0 then some ⟨0, 3, 0x90, 0xBF⟩
  else if b < 0xF4 then some ⟨b - 0xF0, 3, 0x80, 0xBF⟩
  else if b = 0xF4 then some ⟨4, 3, 0x80, 0x8F⟩
  else none

/-- Takes the bytes that follow a first byte as far as they fit. -/
def takeFollowing : (following low high value : Nat) → List UInt8 → Option Nat × List UInt8
  | 0, _, _, value, bytes => (some value, bytes)
  | _ + 1, _, _, _, [] => (none, [])
  | following + 1, low, high, value, b :: bytes =>
    if low ≤ b.toNat ∧ b.toNat ≤ high then
      takeFollowing following 0x80 0xBF (value * 64 + b.toNat % 64) bytes
    else (none, b :: bytes)

def piecesWithin : (fuel : Nat) → List UInt8 → List (Option Char)
  | 0, _ => []
  | _ + 1, [] => []
  | fuel + 1, b :: bytes =>
    match lead? b.toNat with
    | none => none :: piecesWithin fuel bytes
    | some lead =>
      let (value, rest) := takeFollowing lead.following lead.low lead.high lead.value bytes
      value.map Char.ofNat :: piecesWithin fuel rest

/-- The characters, and `none` for each piece that is none. -/
def pieces (bytes : List UInt8) : List (Option Char) := piecesWithin bytes.length bytes

def ofUtf8? (bytes : List UInt8) : Option String :=
  ((pieces bytes).mapM id).map String.ofList

/-- Pieces that are no characters become replacement characters. -/
def ofUtf8Lossy (bytes : List UInt8) : String :=
  String.ofList ((pieces bytes).map (·.getD '\uFFFD'))

end OralExam.Text
