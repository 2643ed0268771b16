import OralExam.Document.Json
import OralExam.Text.Fields
import OralExam.Text.Utf8

/-! Targets of HTTP requests: a path of segments, and a query of names and values.

A target is written as a path and a query alone, or as a URI with a scheme and an authority before
them, which do not count.
-/

set_option autoImplicit false

namespace OralExam.Http

def hexByte? (b : UInt8) : Option Nat := Json.hexValue? (Char.ofNat b.toNat)

/-- Replaces each percent sign with two hexadecimal digits by the byte that they stand for. -/
def decodePercent : List UInt8 → List UInt8
  | 0x25 :: a :: b :: rest =>
    match hexByte? a, hexByte? b with
    | some high, some low => UInt8.ofNat (16 * high + low) :: decodePercent rest
    | _, _ => 0x25 :: decodePercent (a :: b :: rest)
  | b :: rest => b :: decodePercent rest
  | [] => []

def percentDecoded (cs : List Char) : List UInt8 :=
  decodePercent (String.ofList cs).toUTF8.toList

/-- A name or a value in a query, where a plus sign stands for a blank. -/
def queryText (cs : List Char) : String :=
  Text.ofUtf8Lossy (percentDecoded (cs.map fun c => if c = '+' then ' ' else c))

def queryPair (cs : List Char) : String × String :=
  (queryText (cs.takeWhile (· ≠ '=')), queryText ((cs.dropWhile (· ≠ '=')).drop 1))

def queryPairs (cs : List Char) : List (String × String) :=
  ((Text.fields (· = '&') cs).filter (!·.isEmpty)).map queryPair

structure Target where
  /-- What stands between the slashes of the path, as it is written. -/
  segments : List String
  query : List (String × String)
  deriving DecidableEq

/-- What stands behind the authority. A path that is left out is the root. -/
def afterAuthority (cs : List Char) : List Char :=
  match cs.dropWhile fun c => c ≠ '/' && c ≠ '?' with
  | '/' :: path => '/' :: path
  | query => '/' :: query

/-- The path and the query of a URI, which has a scheme if a colon and two slashes come before
any other slash. -/
def pathAndQuery (cs : List Char) : List Char :=
  match cs.dropWhile fun c => c ≠ ':' && c ≠ '/' with
  | ':' :: '/' :: '/' :: rest => afterAuthority rest
  | _ => cs

def Target.ofUri (uri : String) : Target :=
  let cs := pathAndQuery (uri.toList.takeWhile (· ≠ '#'))
  { segments := (Text.fields (· = '/') (cs.takeWhile (· ≠ '?'))).map String.ofList
    query := queryPairs ((cs.dropWhile (· ≠ '?')).drop 1) }

/-- A segment with its percent signs decoded. -/
def segmentText? (segment : String) : Option String :=
  Text.ofUtf8? (percentDecoded segment.toList)

/-- The value of a name that may be left out but not repeated. -/
def queryValue (query : List (String × String)) (name : String) : Except Unit (Option String) :=
  match query.filter (·.1 = name) with
  | [] => .ok none
  | [(_, value)] => .ok (some value)
  | _ => .error ()

/-- A natural number below the limit in decimal digits, perhaps after a plus sign. -/
def readNatural (limit : Nat) (text : String) : Option Nat :=
  let digits :=
    match text.toList with
    | '+' :: digits => digits
    | digits => digits
  if digits.isEmpty || !digits.all Char.isDigit then none
  else (some (Json.digitsValue digits)).filter (· < limit)

def queryNatural (query : List (String × String)) (limit : Nat) (name : String) :
    Except Unit (Option Nat) := do
  match ← queryValue query name with
  | none => .ok none
  | some text =>
    match readNatural limit text with
    | some n => .ok (some n)
    | none => .error ()

end OralExam.Http
