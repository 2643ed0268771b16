import OralExam.Document.Basic

/-! Writing documents as compact JSON. -/

set_option autoImplicit false

namespace OralExam.Json

def hexDigit (n : Nat) : Char := (Nat.digitChar n)

/-- Quotation marks, backslashes and control characters are escaped. -/
def escape (c : Char) : List Char :=
  if c = '"' then ['\\', '"']
  else if c = '\\' then ['\\', '\\']
  else if c = '\n' then ['\\', 'n']
  else if c = '\r' then ['\\', 'r']
  else if c = '\t' then ['\\', 't']
  else if c = '\x08' then ['\\', 'b']
  else if c = '\x0C' then ['\\', 'f']
  else if c < ' ' then ['\\', 'u', '0', '0', hexDigit (c.toNat / 16), hexDigit (c.toNat % 16)]
  else [c]

def quote (s : String) : String := "\"" ++ String.ofList (s.toList.flatMap escape) ++ "\""

mutual

/-- The text of a document whose finite doubles are written by `number`; doubles that are no
numbers, and parts without a value, are null. -/
def write (number : Float → String) : Document → String
  | .null => "null"
  | .bool b => if b then "true" else "false"
  | .integer n => toString n
  | .float x => if x.isFinite then number x else "null"
  | .string s => quote s
  | .array items => "[" ++ ",".intercalate (writeItems number items) ++ "]"
  | .object members => "\x7b" ++ ",".intercalate (writeMembers number members) ++ "\x7d"
  | .fault _ => "null"

def writeItems (number : Float → String) : List Document → List String
  | [] => []
  | d :: ds => write number d :: writeItems number ds

def writeMembers (number : Float → String) : List (String × Document) → List String
  | [] => []
  | (key, d) :: ds => (quote key ++ ":" ++ write number d) :: writeMembers number ds

end

end OralExam.Json
