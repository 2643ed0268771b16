import OralExam.Arithmetic.Exponential
import OralExam.Arithmetic.Word
import OralExam.Document.Basic

/-! Reading values from documents.

A record is read from an object, whose unknown members do not count, or from an array of its
fields in order. Members are taken in the order of the text, a key before its value, so that of
several faults the first one in the text decides how the document is refused.
-/

set_option autoImplicit false

namespace OralExam

/-- The notation a document was written in. -/
inductive Notation where
  | json
  | toml
  deriving DecidableEq, Repr

/-- Why a document is refused: its text leaves the grammar, or it has another shape than asked. -/
inductive Refusal where
  | grammar
  | shape
  deriving DecidableEq, Repr

abbrev Decoder (α : Type) := Notation → Document → Except Refusal α

namespace Decoder

/-- Refuses a document that is not of the kind asked for. -/
def refuse {α : Type} : Document → Except Refusal α
  | .fault _ => .error .grammar
  | _ => .error .shape

def string : Decoder String
  | _, .string s => .ok s
  | _, d => refuse d

def bool : Decoder Bool
  | _, .bool b => .ok b
  | _, d => refuse d

/-- A natural number below `limit`. -/
def natural (limit : Nat) : Decoder Nat
  | _, .integer n => if 0 ≤ n ∧ n < limit then .ok n.toNat else .error .shape
  | _, d => refuse d

def word32 : Decoder Nat := natural Word.size32

def word64 : Decoder Nat := natural Word.size64

def float : Decoder Float
  | _, .float x => .ok x
  | _, .integer n => .ok (Float.ofInt n)
  | _, d => refuse d

def optional {α : Type} (decode : Decoder α) : Decoder (Option α)
  | _, .null => .ok none
  | format, d => (decode format d).map some

def list {α : Type} (decode : Decoder α) : Decoder (List α)
  | format, .array items => items.mapM (decode format)
  | _, d => refuse d

/-- One of several values by name. It may also be given as a table of one member of that name
that holds nothing. -/
def choice {α : Type} (names : List (String × α)) : Decoder α
  | _, .string s =>
    match names.lookup s with
    | some a => .ok a
    | none => .error .shape
  | .json, .object ((name, payload) :: rest) =>
    if payload.isUnkeyed then .error .grammar
    else match names.lookup name, payload with
      | none, _ => .error .shape
      | some a, .null => if rest.isEmpty then .ok a else .error .grammar
      | some _, d => refuse d
  | .toml, .object [(name, .object [])] =>
    match names.lookup name with
    | some a => .ok a
    | none => .error .shape
  | .toml, .object [(name, .array [])] =>
    match names.lookup name with
    | some a => .ok a
    | none => .error .shape
  | _, _ => .error .grammar

end Decoder

/-- One field of a record, and what it holds if the record does not give it. -/
structure RecordField (α : Type) where
  name : String
  decode : Decoder α
  /-- Its value in an object without it. -/
  absent : Option α
  /-- Its value in an array that ends before it. -/
  beyond : Option α

namespace RecordField

def required {α : Type} (name : String) (decode : Decoder α) : RecordField α :=
  ⟨name, decode, none, none⟩

def defaulted {α : Type} (name : String) (decode : Decoder α) (value : α) : RecordField α :=
  ⟨name, decode, some value, some value⟩

/-- A field that may be missing or null. -/
def nullable {α : Type} (name : String) (decode : Decoder α) : RecordField (Option α) :=
  defaulted name (.optional decode) none

/-- A field that an object may leave out, but not an array. -/
def keyed {α : Type} (name : String) (decode : Decoder α) : RecordField (Option α) :=
  ⟨name, .optional decode, some none, none⟩

end RecordField

/-- A record in the course of being read: a constructor and its fields, the last one outermost,
each vacant or already given. -/
inductive Fields : Type → Type 1 where
  | done {α : Type} (a : α) : Fields α
  | vacant {α β : Type} (field : RecordField β) (rest : Fields (β → α)) : Fields α
  | given {α β : Type} (name : String) (value : β) (rest : Fields (β → α)) : Fields α

namespace Fields

/-- The record with one more field. -/
def and {α β : Type} (fields : Fields (β → α)) (field : RecordField β) : Fields α :=
  .vacant field fields

/-- Gives a field its value; `none` if the record has no such field. A field is given once. -/
def give {α : Type} (format : Notation) (name : String) (d : Document) :
    Fields α → Option (Except Refusal (Fields α))
  | .done _ => none
  | .vacant field rest =>
    if field.name = name then
      match field.decode format d with
      | .ok value => some (.ok (.given name value rest))
      | .error e => some (.error e)
    else match give format name d rest with
      | some (.ok rest) => some (.ok (.vacant field rest))
      | some (.error e) => some (.error e)
      | none => none
  | .given taken value rest =>
    if taken = name then some (.error .shape)
    else match give format name d rest with
      | some (.ok rest) => some (.ok (.given taken value rest))
      | some (.error e) => some (.error e)
      | none => none

/-- The record, vacant fields at their defaults. -/
def close {α : Type} : Fields α → Except Refusal α
  | .done a => .ok a
  | .vacant field rest =>
    match close rest, field.absent with
    | .ok f, some value => .ok (f value)
    | .ok _, none => .error .shape
    | .error e, _ => .error e
  | .given _ value rest =>
    match close rest with
    | .ok f => .ok (f value)
    | .error e => .error e

def ofMembers {α : Type} (format : Notation) :
    List (String × Document) → Fields α → Except Refusal α
  | [], fields => fields.close
  | (name, d) :: rest, fields =>
    if d.isUnkeyed then .error .grammar
    else match fields.give format name d with
      | some (.ok fields) => ofMembers format rest fields
      | some (.error e) => .error e
      | none => if d.intact then ofMembers format rest fields else .error .grammar

/-- The record from its fields in order, and the items left over. -/
def ofItems {α : Type} (format : Notation) (items : List Document) :
    Fields α → Except Refusal (α × List Document)
  | .done a => .ok (a, items)
  | .given _ value rest => do
    let (f, items) ← ofItems format items rest
    .ok (f value, items)
  | .vacant field rest => do
    let (f, items) ← ofItems format items rest
    match items, field.beyond with
    | d :: items, _ => .ok (f (← field.decode format d), items)
    | [], some value => .ok (f value, [])
    | [], none => .error .shape

/-- Reads the record. JSON arrays have no more items than there are fields. -/
def decode {α : Type} (fields : Fields α) : Decoder α
  | format, .object members => ofMembers format members fields
  | format, .array items => do
    let (a, rest) ← ofItems format items fields
    if rest.isEmpty || format = .toml then .ok a else .error .grammar
  | _, d => Decoder.refuse d

end Fields

end OralExam
