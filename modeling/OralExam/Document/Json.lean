import OralExam.Arithmetic.Exponential
import OralExam.Arithmetic.Word
import OralExam.Document.Basic

/-! Reading JSON texts.

The grammar is that of RFC 8259. Reading gives a document in any case, with a `broken` or
`brokenMember` leaf where a text leaves the grammar.
-/

set_option autoImplicit false

namespace OralExam.Json

def isBlank (c : Char) : Bool := c = ' ' || c = '\n' || c = '\t' || c = '\r'

def skipBlank (cs : List Char) : List Char := cs.dropWhile isBlank

/-- A document and the text behind it; there is none if reading broke off. -/
structure Reading where
  document : Document
  rest : Option (List Char)

def Reading.broken : Reading := ⟨.fault .broken, none⟩

/-! ## Numbers -/

/-- A number as it is written. -/
structure Numeral where
  negative : Bool
  whole : List Char
  fraction : List Char
  exponent : Option (Bool × List Char)

def spanDigits (cs : List Char) : List Char × List Char :=
  (cs.takeWhile Char.isDigit, cs.dropWhile Char.isDigit)

def digitValue (c : Char) : Nat := c.toNat - '0'.toNat

def digitsValue (cs : List Char) : Nat := cs.foldl (fun n c => n * 10 + digitValue c) 0

/-- A point, if there is one, is followed by a digit. -/
def scanFraction : List Char → Option (List Char × List Char)
  | '.' :: cs =>
    let (digits, rest) := spanDigits cs
    if digits.isEmpty then none else some (digits, rest)
  | cs => some ([], cs)

/-- An exponent, if there is one, has a digit; it may have a sign, kept as whether it is minus. -/
def scanExponent (cs : List Char) : Option (Option (Bool × List Char) × List Char) :=
  let signed (negative : Bool) (cs : List Char) :=
    let (digits, rest) := spanDigits cs
    if digits.isEmpty then none else some (some (negative, digits), rest)
  let afterMark (cs : List Char) :=
    match cs with
    | '+' :: cs => signed false cs
    | '-' :: cs => signed true cs
    | cs => signed false cs
  match cs with
  | 'e' :: cs => afterMark cs
  | 'E' :: cs => afterMark cs
  | cs => some (none, cs)

/-- A numeral without its sign. -/
def scanNumeral (negative : Bool) (cs : List Char) : Option (Numeral × List Char) := do
  let (whole, rest) := spanDigits cs
  if whole.isEmpty || (whole.head? = some '0' && 1 < whole.length) then none
  let (fraction, rest) ← scanFraction rest
  let (exponent, rest) ← scanExponent rest
  some (⟨negative, whole, fraction, exponent⟩, rest)

/-- Digits appended to a 64-bit word as long as they fit, and how many did. -/
def appendDigits : (word count : Nat) → List Char → Nat × Nat
  | word, count, [] => (word, count)
  | word, count, c :: cs =>
    let next := word * 10 + digitValue c
    if next < Word.size64 then appendDigits next (count + 1) cs else (word, count)

def powerOfTen (n : Nat) : Float := Float.ofScientific 1 false n

/-- The double scaled by a power of ten, by one multiplication or division where the power is a
double, and by divisions by `10 ^ 308` before that where it is too small. There is none if the
value is too large. -/
def scale : (fuel : Nat) → Float → Int → Option Float
  | 0, _, _ => none
  | fuel + 1, x, exponent =>
    if exponent.natAbs ≤ 308 then
      if 0 ≤ exponent then
        let y := x * powerOfTen exponent.toNat
        if y.isInf then none else some y
      else some (x / powerOfTen exponent.natAbs)
    else if x == 0 then some x
    else if 0 ≤ exponent then none
    else scale fuel (x / powerOfTen 308) (exponent + 308)

/-- The double that a numeral stands for: the digits that fit a 64-bit word, scaled. -/
def Numeral.magnitude (n : Numeral) : Option Float :=
  let (word, kept) := appendDigits 0 0 n.whole
  let (word, places) := appendDigits word 0 n.fraction
  let start : Int := ((n.whole.length - kept : Nat) : Int) - places
  let scaled (exponent : Int) := scale (exponent.natAbs / 308 + 2) (Float.ofNat word) exponent
  match n.exponent with
  | none => scaled start
  | some (minus, digits) =>
    let e := digitsValue digits
    if Word.size31 ≤ e then if word ≠ 0 ∧ !minus then none else some 0
    else scaled (if minus then start - e else start + e)

/-- Integers are kept as such within 64 bits, unsigned or with a minus sign; minus zero and all
else are doubles. -/
def Numeral.document (n : Numeral) : Document :=
  let integer :=
    if n.fraction.isEmpty && n.exponent.isNone then some (digitsValue n.whole) else none
  let fits := fun value =>
    if n.negative then 0 < value ∧ value ≤ Word.size63 else value < Word.size64
  match integer.filter fits with
  | some value => .integer (if n.negative then -value else value)
  | none =>
    match n.magnitude with
    | some x => .float (if n.negative then -x else x)
    | none => .fault .noValue

def readNumber (cs : List Char) : Reading :=
  let scanned := match cs with
    | '-' :: cs => scanNumeral true cs
    | cs => scanNumeral false cs
  match scanned with
  | some (numeral, rest) => ⟨numeral.document, some rest⟩
  | none => .broken

/-! ## Strings -/

def hexValue? (c : Char) : Option Nat :=
  if c.isDigit then some (digitValue c)
  else if 'a' ≤ c ∧ c ≤ 'f' then some (c.toNat - 'a'.toNat + 10)
  else if 'A' ≤ c ∧ c ≤ 'F' then some (c.toNat - 'A'.toNat + 10)
  else none

/-- The value of four hexadecimal digits. -/
def unit? (a b c d : Char) : Option Nat := do
  let a ← hexValue? a
  let b ← hexValue? b
  let c ← hexValue? c
  let d ← hexValue? d
  some (((a * 16 + b) * 16 + c) * 16 + d)

def isHighSurrogate (u : Nat) : Bool := 0xD800 ≤ u && u < 0xDC00

def isLowSurrogate (u : Nat) : Bool := 0xDC00 ≤ u && u < 0xE000

def simpleEscape? : Char → Option Char
  | '"' => some '"'
  | '\\' => some '\\'
  | '/' => some '/'
  | 'b' => some '\x08'
  | 'f' => some '\x0C'
  | 'n' => some '\n'
  | 'r' => some '\r'
  | 't' => some '\t'
  | _ => none

/-- What one character or one escape puts into a string; `unit` is a unit of UTF-16. -/
inductive Piece where
  | char (c : Char)
  | unit (u : Nat)

/-- The pieces up to the closing quotation mark, and the text behind it. -/
def scanPieces : List Char → Option (List Piece × List Char)
  | '"' :: cs => some ([], cs)
  | '\\' :: 'u' :: a :: b :: c :: d :: cs => do
    let u ← unit? a b c d
    let (pieces, rest) ← scanPieces cs
    some (.unit u :: pieces, rest)
  | '\\' :: c :: cs => do
    let e ← simpleEscape? c
    let (pieces, rest) ← scanPieces cs
    some (.char e :: pieces, rest)
  | c :: cs =>
    if c < ' ' then none
    else do
      let (pieces, rest) ← scanPieces cs
      some (.char c :: pieces, rest)
  | [] => none

/-- The characters that the pieces make; a surrogate that stands alone makes none. `high` is the
first half of a pair. -/
def joinPieces : (high : Option Nat) → List Piece → Option (List Char)
  | none, [] => some []
  | some _, [] => none
  | none, .char c :: ps => (joinPieces none ps).map (c :: ·)
  | some _, .char _ :: _ => none
  | none, .unit u :: ps =>
    if isHighSurrogate u then joinPieces (some u) ps
    else if isLowSurrogate u then none
    else (joinPieces none ps).map (Char.ofNat u :: ·)
  | some high, .unit low :: ps =>
    if isLowSurrogate low then
      let point := 0x10000 + (high - 0xD800) * 0x400 + (low - 0xDC00)
      (joinPieces none ps).map (Char.ofNat point :: ·)
    else none

/-- A string up to its closing quotation mark, and the text behind it. -/
def scanString (cs : List Char) : Option (Option String × List Char) :=
  (scanPieces cs).map fun (pieces, rest) => ((joinPieces none pieces).map String.ofList, rest)

def readString (cs : List Char) : Reading :=
  match scanString cs with
  | some (some s, rest) => ⟨.string s, some rest⟩
  | some (none, rest) => ⟨.fault .noValue, some rest⟩
  | none => .broken

/-! ## Values -/

def readWord (word : String) (document : Document) (cs : List Char) : Reading :=
  if word.toList.isPrefixOf cs then ⟨document, some (cs.drop word.length)⟩ else .broken

/-- A member under its key. A key that is no text leaves a fault in place of the value. -/
def keyed : (key : Option String) → (value : Document) → String × Document
  | some key, value => (key, value)
  | none, value => ("", .fault (if value.intact then .noKey else .brokenMember))

mutual

/-- A value at the beginning of the text, blanks before it apart. -/
def readValue : (fuel : Nat) → List Char → Reading
  | 0, _ => .broken
  | fuel + 1, cs =>
    match skipBlank cs with
    | '"' :: cs => readString cs
    | '[' :: cs =>
      match skipBlank cs with
      | ']' :: rest => ⟨.array [], some rest⟩
      | cs =>
        let (items, rest) := readItems fuel cs
        ⟨.array items, rest⟩
    | '{' :: cs =>
      match skipBlank cs with
      | '}' :: rest => ⟨.object [], some rest⟩
      | cs =>
        let (members, rest) := readMembers fuel cs
        ⟨.object members, rest⟩
    | 'n' :: cs => readWord "ull" .null cs
    | 't' :: cs => readWord "rue" (.bool true) cs
    | 'f' :: cs => readWord "alse" (.bool false) cs
    | cs => readNumber cs

/-- The items up to the closing bracket; where they break off a broken one stands last. -/
def readItems : (fuel : Nat) → List Char → List Document × Option (List Char)
  | 0, _ => ([.fault .broken], none)
  | fuel + 1, cs =>
    match readValue fuel cs with
    | ⟨item, none⟩ => ([item], none)
    | ⟨item, some rest⟩ =>
      match skipBlank rest with
      | ']' :: rest => ([item], some rest)
      | ',' :: rest =>
        let (items, rest) := readItems fuel rest
        (item :: items, rest)
      | _ => ([item, .fault .broken], none)

/-- The members up to the closing brace. Where they break off a broken one stands last. -/
def readMembers : (fuel : Nat) → List Char → List (String × Document) × Option (List Char)
  | 0, _ => ([("", .fault .brokenMember)], none)
  | fuel + 1, cs =>
    match skipBlank cs with
    | '"' :: cs =>
      match scanString cs with
      | some (key, rest) =>
        match skipBlank rest with
        | ':' :: rest =>
          match readValue fuel rest with
          | ⟨value, none⟩ => ([keyed key value], none)
          | ⟨value, some rest⟩ =>
            match skipBlank rest with
            | '}' :: rest => ([keyed key value], some rest)
            | ',' :: rest =>
              let (members, rest) := readMembers fuel rest
              (keyed key value :: members, rest)
            | _ => ([keyed key value, ("", .fault .brokenMember)], none)
        | _ => ([keyed key (.fault .broken)], none)
      | none => ([("", .fault .brokenMember)], none)
    | _ => ([("", .fault .brokenMember)], none)

end

/-- The value at the beginning of a text; what follows it does not matter. -/
def readFirst (text : String) : Document :=
  let cs := text.toList
  (readValue (cs.length + 1) cs).document

/-- The value that a text consists of; if more follows, the text is broken there. -/
def read (text : String) : Document × Bool :=
  let cs := text.toList
  let reading := readValue (cs.length + 1) cs
  (reading.document, reading.rest.any fun rest => (skipBlank rest).isEmpty)

end OralExam.Json
