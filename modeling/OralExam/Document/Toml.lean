import OralExam.Arithmetic.Word
import OralExam.Document.Json

/-! Reading TOML 1.0 texts.

A text is read line by line into a tree that still knows how each of its tables came to be, for
that decides what may be added to it; at the end it becomes a document. Dates and times become
tables without a known key.
-/

set_option autoImplicit false

namespace OralExam.Toml

open Json (digitValue digitsValue hexValue?)

/-- Reads a beginning of the text and leaves the rest. -/
abbrev Scan (α : Type) := List Char → Option (α × List Char)

/-- Arrays, inline tables and dotted keys have fewer levels than this. -/
def levelLimit : Nat := 80

/-! ## Lines -/

def isBlank (c : Char) : Bool := c = ' ' || c = '\t'

def skipBlank (cs : List Char) : List Char := cs.dropWhile isBlank

/-- Characters that comments and literal strings may hold. -/
def isPlain (c : Char) : Bool := c = '\t' || (' ' ≤ c && c ≠ '\x7F')

def newline? : List Char → Option (List Char)
  | '\n' :: cs => some cs
  | '\r' :: '\n' :: cs => some cs
  | _ => none

def skipComment : List Char → List Char
  | '#' :: cs => cs.dropWhile isPlain
  | cs => cs

/-- Blanks and a comment up to the end of the line. -/
def endOfLine? (cs : List Char) : Option (List Char) :=
  match skipComment (skipBlank cs) with
  | [] => some []
  | cs => newline? cs

/-- Blanks, line ends and comments. -/
def skipLines : (fuel : Nat) → List Char → List Char
  | 0, cs => cs
  | fuel + 1, cs =>
    match skipBlank cs with
    | '#' :: cs => skipLines fuel (skipComment ('#' :: cs))
    | cs =>
      match newline? cs with
      | some cs => skipLines fuel cs
      | none => cs

/-! ## Strings -/

def hexNumber? (cs : List Char) : Option Nat :=
  cs.foldlM (fun n c => (hexValue? c).map (n * 16 + ·)) 0

/-- A Unicode scalar value of so many hexadecimal digits. -/
def scanScalar (count : Nat) (cs : List Char) : Option (Char × List Char) := do
  let digits := cs.take count
  if digits.length < count then none
  let n ← hexNumber? digits
  if n.isValidChar then some (Char.ofNat n, cs.drop count) else none

/-- What follows a backslash. -/
def scanEscape : Scan Char
  | 'b' :: cs => some ('\x08', cs)
  | 't' :: cs => some ('\t', cs)
  | 'n' :: cs => some ('\n', cs)
  | 'f' :: cs => some ('\x0C', cs)
  | 'r' :: cs => some ('\r', cs)
  | '"' :: cs => some ('"', cs)
  | '\\' :: cs => some ('\\', cs)
  | 'u' :: cs => scanScalar 4 cs
  | 'U' :: cs => scanScalar 8 cs
  | _ => none

/-- A basic string up to its closing quotation mark. -/
def scanBasic : (fuel : Nat) → (taken : List Char) → Scan String
  | 0, _, _ => none
  | fuel + 1, taken, cs =>
    match cs with
    | '"' :: cs => some (String.ofList taken.reverse, cs)
    | '\\' :: cs => do
      let (c, cs) ← scanEscape cs
      scanBasic fuel (c :: taken) cs
    | c :: cs => if isPlain c then scanBasic fuel (c :: taken) cs else none
    | [] => none

/-- A literal string up to its closing apostrophe. -/
def scanLiteral (cs : List Char) : Option (String × List Char) :=
  let inside := fun c => isPlain c && c ≠ '\''
  match cs.dropWhile inside with
  | '\'' :: rest => some (String.ofList (cs.takeWhile inside), rest)
  | _ => none

/-- How many of the marks that start here belong to the text, if at least three close it: of more
than three, two at most. -/
def closing? (mark : Char) (cs : List Char) : Option Nat :=
  let count := (cs.takeWhile (· = mark)).length
  if 3 ≤ count then some (min (count - 3) 2) else none

/-- A string over several lines up to its three closing marks. A line ends with a line feed,
however it was written; with `escapes`, a backslash at the end of a line drops the blanks and line
ends that follow. -/
def scanLong (mark : Char) (escapes : Bool) : (fuel : Nat) → (taken : List Char) → Scan String
  | 0, _, _ => none
  | fuel + 1, taken, cs =>
    match closing? mark cs with
    | some inside =>
      some (String.ofList (taken.reverse ++ List.replicate inside mark), cs.drop (inside + 3))
    | none =>
      match newline? cs, cs with
      | some cs, _ => scanLong mark escapes fuel ('\n' :: taken) cs
      | none, '\\' :: cs =>
        if escapes then
          match newline? (skipBlank cs) with
          | some cs => scanLong mark escapes fuel taken (skipBreaks cs.length cs)
          | none => do
            let (c, cs) ← scanEscape cs
            scanLong mark escapes fuel (c :: taken) cs
        else scanLong mark escapes fuel ('\\' :: taken) cs
      | none, c :: cs => if isPlain c then scanLong mark escapes fuel (c :: taken) cs else none
      | none, [] => none
where
  skipBreaks : Nat → List Char → List Char
    | 0, cs => cs
    | fuel + 1, cs =>
      match newline? (skipBlank cs) with
      | some cs => skipBreaks fuel cs
      | none => skipBlank cs

/-- A line end right behind the opening marks does not count. -/
def dropFirstBreak (cs : List Char) : List Char := (newline? cs).getD cs

def scanString (cs : List Char) : Option (String × List Char) :=
  match cs with
  | '"' :: '"' :: '"' :: cs => scanLong '"' true (cs.length + 1) [] (dropFirstBreak cs)
  | '\'' :: '\'' :: '\'' :: cs => scanLong '\'' false (cs.length + 1) [] (dropFirstBreak cs)
  | '"' :: cs => scanBasic (cs.length + 1) [] cs
  | '\'' :: cs => scanLiteral cs
  | _ => none

/-! ## Numbers, dates and times -/

/-- Digits, between any two of which there may be a low line. -/
def scanRun (isDigit : Char → Bool) : List Char → Option (List Char × List Char)
  | [] => none
  | c :: cs =>
    if !isDigit c then none
    else match cs with
      | '_' :: rest => (scanRun isDigit rest).map fun (digits, rest) => (c :: digits, rest)
      | d :: rest =>
        if isDigit d then
          (scanRun isDigit (d :: rest)).map fun (digits, rest) => (c :: digits, rest)
        else some ([c], d :: rest)
      | [] => some ([c], [])

def inWord63 (negative : Bool) (n : Nat) : Bool :=
  if negative then n ≤ Word.size63 else n < Word.size63

/-- An integer of 64 bits with a sign. -/
def integer? (negative : Bool) (n : Nat) : Option Document :=
  if inWord63 negative n then some (.integer (if negative then -n else n)) else none

def scanRadix (radix : Nat) (isDigit : Char → Bool) (cs : List Char) :
    Option (Document × List Char) := do
  let (digits, rest) ← scanRun isDigit cs
  let n := digits.foldl (fun n c => n * radix + (hexValue? c).getD 0) 0
  let d ← integer? false n
  some (d, rest)

/-- The double nearest to `digits · 10 ^ exponent`. -/
def nearestDouble (digits : List Char) (exponent : Int) : Float :=
  let n := digitsValue digits
  let leading := (digits.dropWhile (· = '0')).length + exponent
  if n = 0 ∨ leading < -400 then 0
  else if 400 < leading then Float.ofBits 0x7FF0000000000000
  else Float.ofScientific n (exponent < 0) exponent.natAbs

/-- A whole part has no zero in front. -/
def scanWhole (cs : List Char) : Option (List Char × List Char) :=
  match cs with
  | '0' :: rest => some (['0'], rest)
  | cs => scanRun Char.isDigit cs

def scanExponent (cs : List Char) : Option (Int × List Char) :=
  let (negative, cs) := match cs with
    | '+' :: cs => (false, cs)
    | '-' :: cs => (true, cs)
    | cs => (false, cs)
  (scanRun Char.isDigit cs).map fun (digits, rest) =>
    let n : Int := digitsValue digits
    (if negative then -n else n, rest)

def isExponentMark (c : Char) : Bool := c = 'e' || c = 'E'

/-- A positive number too large for a double is refused. -/
def float? (negative : Bool) (digits : List Char) (exponent : Int) : Option Document :=
  let x := nearestDouble digits exponent
  if negative then some (.float (-x)) else if x.isInf then none else some (.float x)

/-- A decimal number without its sign. -/
def scanDecimal (negative : Bool) (cs : List Char) : Option (Document × List Char) := do
  let (whole, rest) ← scanWhole cs
  match rest with
  | '.' :: rest =>
    let (fraction, rest) ← scanRun Char.isDigit rest
    let places : Int := fraction.length
    match rest with
    | c :: more =>
      if isExponentMark c then
        let (exponent, rest) ← scanExponent more
        let d ← float? negative (whole ++ fraction) (exponent - places)
        some (d, rest)
      else
        let d ← float? negative (whole ++ fraction) (-places)
        some (d, rest)
    | [] =>
      let d ← float? negative (whole ++ fraction) (-places)
      some (d, [])
  | c :: more =>
    if isExponentMark c then
      let (exponent, rest) ← scanExponent more
      let d ← float? negative whole exponent
      some (d, rest)
    else
      let d ← integer? negative (digitsValue whole)
      some (d, rest)
  | [] =>
    let d ← integer? negative (digitsValue whole)
    some (d, [])

def infinity : Float := Float.ofBits 0x7FF0000000000000

def notANumber : Float := Float.ofBits 0x7FF8000000000000

def scanSigned (negative : Bool) (cs : List Char) : Option (Document × List Char) :=
  match cs with
  | 'i' :: 'n' :: 'f' :: rest => some (.float (if negative then -infinity else infinity), rest)
  | 'n' :: 'a' :: 'n' :: rest => some (.float notANumber, rest)
  | cs => scanDecimal negative cs

/-- A number of exactly so many digits within bounds. -/
def scanFixed (count low high : Nat) (cs : List Char) : Option (Nat × List Char) :=
  let digits := cs.take count
  let n := digitsValue digits
  if digits.length = count ∧ digits.all Char.isDigit ∧ low ≤ n ∧ n ≤ high then
    some (n, cs.drop count)
  else none

def scanMark (mark : Char) : List Char → Option (List Char)
  | c :: cs => if c = mark then some cs else none
  | [] => none

def isLeapYear (year : Nat) : Bool := year % 4 = 0 && (year % 100 ≠ 0 || year % 400 = 0)

def daysIn (year month : Nat) : Nat :=
  if month = 2 then if isLeapYear year then 29 else 28
  else if month = 4 ∨ month = 6 ∨ month = 9 ∨ month = 11 then 30
  else 31

def scanDate (cs : List Char) : Option (List Char) := do
  let (year, cs) ← scanFixed 4 0 9999 cs
  let (month, cs) ← scanFixed 2 1 12 (← scanMark '-' cs)
  let (_, cs) ← scanFixed 2 1 (daysIn year month) (← scanMark '-' cs)
  some cs

def scanTime (cs : List Char) : Option (List Char) := do
  let (_, cs) ← scanFixed 2 0 23 cs
  let (_, cs) ← scanFixed 2 0 59 (← scanMark ':' cs)
  let (_, cs) ← scanFixed 2 0 60 (← scanMark ':' cs)
  match cs with
  | '.' :: rest =>
    if (rest.takeWhile Char.isDigit).isEmpty then none else some (rest.dropWhile Char.isDigit)
  | cs => some cs

def scanOffset (cs : List Char) : List Char :=
  let hours := fun (cs : List Char) => do
    let (_, cs) ← scanFixed 2 0 23 cs
    let (_, cs) ← scanFixed 2 0 59 (← scanMark ':' cs)
    some cs
  match cs with
  | 'Z' :: rest => rest
  | 'z' :: rest => rest
  | '+' :: rest => (hours rest).getD cs
  | '-' :: rest => (hours rest).getD cs
  | cs => cs

/-- A date, a time, or a date and a time with or without an offset. -/
def scanMoment (cs : List Char) : Option (List Char) :=
  match scanDate cs with
  | some rest =>
    match rest with
    | c :: more =>
      if c = 'T' ∨ c = 't' ∨ c = ' ' then
        match scanTime more with
        | some rest => some (scanOffset rest)
        | none => some rest
      else some rest
    | [] => some []
  | none => scanTime cs

def moment : Document := .object [("", .null)]

/-- Whether a number-like text can only be a date or a time. -/
def looksLikeMoment (cs : List Char) : Bool :=
  let digits := (cs.takeWhile Char.isDigit).length
  match cs.drop digits with
  | '-' :: _ => digits = 4
  | ':' :: _ => digits = 2
  | _ => false

def isOctal (c : Char) : Bool := '0' ≤ c && c ≤ '7'

def isBinary (c : Char) : Bool := c = '0' || c = '1'

def isHex (c : Char) : Bool := (hexValue? c).isSome

def scanNumber (cs : List Char) : Option (Document × List Char) :=
  match cs with
  | '+' :: cs => scanSigned false cs
  | '-' :: cs => scanSigned true cs
  | '0' :: 'x' :: cs => scanRadix 16 isHex cs
  | '0' :: 'o' :: cs => scanRadix 8 isOctal cs
  | '0' :: 'b' :: cs => scanRadix 2 isBinary cs
  | cs =>
    if looksLikeMoment cs then (scanMoment cs).map fun rest => (moment, rest)
    else scanSigned false cs

/-! ## Tables -/

/-- How a table came to be. -/
inductive Origin where
  /-- By a header of its own, or as the root. -/
  | header
  /-- As a parent of a table with a header. -/
  | implied
  /-- By a dotted key. -/
  | dotted
  deriving DecidableEq, Repr

inductive Node where
  | value (d : Document)
  | table (origin : Origin) (entries : List (String × Node))
  /-- An array of tables, the last one first. -/
  | tables (elements : List (List (String × Node)))

abbrev Entries := List (String × Node)

structure Table where
  origin : Origin
  entries : Entries

mutual

def Node.document : Node → Document
  | .value d => d
  | .table _ entries => .object (membersOf entries)
  | .tables elements => .array (documentsOf elements).reverse

def membersOf : List (String × Node) → List (String × Document)
  | [] => []
  | (key, node) :: rest => (key, node.document) :: membersOf rest

def documentsOf : List (List (String × Node)) → List Document
  | [] => []
  | entries :: rest => .object (membersOf entries) :: documentsOf rest

end

/-- Puts a value in the place of the one under the key, or at the end. -/
def Entries.put (key : String) (node : Node) : Entries → Entries
  | [] => [(key, node)]
  | (k, old) :: rest =>
    if k = key then (k, node) :: rest else (k, old) :: Entries.put key node rest

/-- Changes the table that a path leads to, making those on the way that do not exist. A dotted key
does not lead into a table that has a header. -/
def Table.modify (dotted : Bool) (change : Table → Option Table) :
    (path : List String) → Table → Option Table
  | [], table => change table
  | key :: path, table => do
    let node ← match table.entries.lookup key with
      | none =>
        let child ← Table.modify dotted change path ⟨if dotted then .dotted else .implied, []⟩
        some (.table child.origin child.entries)
      | some (.value _) => none
      | some (.tables []) => none
      | some (.tables (element :: rest)) =>
        let child ← Table.modify dotted change path ⟨.header, element⟩
        some (.tables (child.entries :: rest))
      | some (.table origin entries) =>
        if dotted && origin = .header then none
        else
          let child ← Table.modify dotted change path ⟨origin, entries⟩
          some (.table child.origin child.entries)
    some { table with entries := Entries.put key node table.entries }

/-- A key is new in its table. Tables made by dotted keys are extended by such keys only, others
by plain keys only. -/
def Table.insert (path : List String) (key : String) (d : Document) (table : Table) :
    Option Table :=
  table.modify true (fun inner =>
    if decide (inner.origin = .dotted) = path.isEmpty then none
    else if (inner.entries.lookup key).isSome then none
    else some { inner with entries := Entries.put key (.value d) inner.entries }) path

/-- A table by a header of its own: a new one, or one that has only been implied so far. -/
def Table.declare (key : String) (table : Table) : Option Table :=
  match table.entries.lookup key with
  | none => some { table with entries := Entries.put key (.table .header []) table.entries }
  | some (.table .implied entries) =>
    some { table with entries := Entries.put key (.table .header entries) table.entries }
  | some _ => none

/-- One more table in an array of tables. -/
def Table.append (key : String) (table : Table) : Option Table :=
  match table.entries.lookup key with
  | none => some { table with entries := Entries.put key (.tables [[]]) table.entries }
  | some (.tables elements) =>
    some { table with entries := Entries.put key (.tables ([] :: elements)) table.entries }
  | some _ => none

/-! ## Keys and values -/

def isBareKeyChar (c : Char) : Bool := c.isAlphanum || c = '-' || c = '_'

def scanSimpleKey (cs : List Char) : Option (String × List Char) :=
  match cs with
  | '"' :: cs => scanBasic (cs.length + 1) [] cs
  | '\'' :: cs => scanLiteral cs
  | cs =>
    let key := cs.takeWhile isBareKeyChar
    if key.isEmpty then none else some (String.ofList key, cs.dropWhile isBareKeyChar)

/-- The parts of a dotted key, with blanks around each. -/
def scanKeyParts : (fuel : Nat) → List Char → Option (List String × List Char)
  | 0, _ => none
  | fuel + 1, cs => do
    let (key, cs) ← scanSimpleKey (skipBlank cs)
    match skipBlank cs with
    | '.' :: cs =>
      let (keys, cs) ← scanKeyParts fuel cs
      some (key :: keys, cs)
    | cs => some ([key], cs)

/-- A dotted key as its path and its last part. -/
def scanKey (cs : List Char) : Option ((List String × String) × List Char) := do
  let (parts, rest) ← scanKeyParts (cs.length + 1) cs
  if levelLimit ≤ parts.length then none
  let last ← parts.getLast?
  some ((parts.dropLast, last), rest)

mutual

def scanValue : (fuel levels : Nat) → Scan Document
  | 0, _, _ => none
  | fuel + 1, levels, cs =>
    match cs with
    | '"' :: _ => (scanString cs).map fun (s, rest) => (.string s, rest)
    | '\'' :: _ => (scanString cs).map fun (s, rest) => (.string s, rest)
    | '[' :: cs =>
      if levels = 0 then none
      else (scanItems fuel (levels - 1) cs).map fun (items, rest) => (.array items, rest)
    | '{' :: cs =>
      if levels = 0 then none
      else match skipBlank cs with
        | '}' :: rest => some (.object [], rest)
        | cs =>
          (scanPairs fuel (levels - 1) ⟨.header, []⟩ cs).map fun (table, rest) =>
            (.object (membersOf table.entries), rest)
    | 't' :: 'r' :: 'u' :: 'e' :: rest => some (.bool true, rest)
    | 'f' :: 'a' :: 'l' :: 's' :: 'e' :: rest => some (.bool false, rest)
    | cs => scanNumber cs

/-- The items of an array up to its closing bracket; a comma may follow the last one. -/
def scanItems : (fuel levels : Nat) → Scan (List Document)
  | 0, _, _ => none
  | fuel + 1, levels, cs =>
    match skipLines (cs.length + 1) cs with
    | ']' :: rest => some ([], rest)
    | cs => do
      let (item, cs) ← scanValue fuel levels cs
      match skipLines (cs.length + 1) cs with
      | ']' :: rest => some ([item], rest)
      | ',' :: cs =>
        let (items, rest) ← scanItems fuel levels cs
        some (item :: items, rest)
      | _ => none

/-- The pairs of an inline table up to its closing brace. -/
def scanPairs : (fuel levels : Nat) → Table → Scan Table
  | 0, _, _, _ => none
  | fuel + 1, levels, table, cs => do
    let ((path, key), cs) ← scanKey cs
    let (d, cs) ← scanValue fuel levels (skipBlank (← scanMark '=' cs))
    let table ← table.insert path key d
    match skipBlank cs with
    | '}' :: rest => some (table, rest)
    | ',' :: cs => scanPairs fuel levels table cs
    | _ => none

end

/-! ## Texts -/

/-- The root table, and the path of the table that the next keys go to. -/
structure Reader where
  root : Table
  path : List String

/-- One line, or several if a value spans them. -/
def Reader.readLine (reader : Reader) (cs : List Char) : Option (Reader × List Char) :=
  match cs with
  | '[' :: '[' :: cs => do
    let ((path, key), cs) ← scanKey cs
    let cs ← endOfLine? (← scanMark ']' (← scanMark ']' cs))
    let root ← reader.root.modify false (·.append key) path
    some (⟨root, path ++ [key]⟩, cs)
  | '[' :: cs => do
    let ((path, key), cs) ← scanKey cs
    let cs ← endOfLine? (← scanMark ']' cs)
    let root ← reader.root.modify false (·.declare key) path
    some (⟨root, path ++ [key]⟩, cs)
  | cs => do
    let ((path, key), cs) ← scanKey cs
    let (d, cs) ← scanValue (cs.length + 1) (levelLimit - 1) (skipBlank (← scanMark '=' cs))
    let cs ← endOfLine? cs
    let root ← reader.root.modify false (·.insert path key d) reader.path
    some ({ reader with root }, cs)

def Reader.readLines : (fuel : Nat) → Reader → List Char → Option Reader
  | 0, _, _ => none
  | fuel + 1, reader, cs =>
    match skipBlank cs with
    | [] => some reader
    | '#' :: cs =>
      match endOfLine? ('#' :: cs) with
      | some cs => readLines fuel reader cs
      | none => none
    | cs =>
      match newline? cs with
      | some cs => readLines fuel reader cs
      | none =>
        match reader.readLine cs with
        | some (reader, cs) => readLines fuel reader cs
        | none => none

def read (text : String) : Option Document :=
  let cs := match text.toList with
    | '\uFEFF' :: cs => cs
    | cs => cs
  (Reader.readLines (cs.length + 1) ⟨⟨.header, []⟩, []⟩ cs).map fun reader =>
    .object (membersOf reader.root.entries)

end OralExam.Toml
