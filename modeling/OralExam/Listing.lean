import OralExam.Failure
import OralExam.Document.Decoder
import OralExam.Session.Summary
import OralExam.Text.Fields

/-! Pages of session lists.

A query filters by status, sorts by one field, and takes one page of what is left. Sessions that
agree in the field follow in the order of their identifiers, whichever way the field is sorted.
-/

set_option autoImplicit false

namespace OralExam.Listing

open Scalar Text

structure Query where
  status : Option String := none
  page : Option Nat := none
  size : Option Nat := none
  /-- A field, and after a comma `asc` or `desc`. -/
  sort : Option String := none

def Query.decode : Decoder Query :=
  Fields.decode <| Fields.done Query.mk
    |>.and (.keyed "status" .string)
    |>.and (.keyed "page" .word64)
    |>.and (.keyed "size" .word64)
    |>.and (.keyed "sort" .string)

inductive SortField where
  | startedAt
  | attemptNumber
  | overallScore
  deriving DecidableEq, Repr

structure SortOrder where
  field : SortField
  descending : Bool
  deriving DecidableEq, Repr

def sortField : String → Except Failure SortField
  | "startedAt" => .ok .startedAt
  | "attemptNumber" => .ok .attemptNumber
  | "overallScore" => .ok .overallScore
  | other => .error (.unknownSortField other)

def sortDirection : String → Except Failure Bool
  | "asc" => .ok false
  | "desc" => .ok true
  | other => .error (.unknownSortDirection other)

/-- The parts of a sort text between commas, without blanks around them. -/
def sortParts (text : String) : List String :=
  (fields (· = ',') text.toList).map fun part => String.ofList (trimmed part)

/-- Newest first if nothing is asked for; ascending if no direction is given. -/
def SortOrder.parse (text : Option String) : Except Failure SortOrder :=
  match text.filter (!isBlank ·) with
  | none => .ok ⟨.startedAt, true⟩
  | some text => do
    let parts := sortParts text
    let field ← sortField (parts.headD "")
    match parts[1]? with
    | none => .ok ⟨field, false⟩
    | some direction => .ok ⟨field, ← sortDirection (lowerLatin direction)⟩

variable {α : Type} [Scalar α]

/-- A missing score counts as minus one. -/
def sortScore (s : Summary α) : α := s.overallScore.getD (-one)

/-- Scores that cannot be compared count as equal. -/
def compareScores (x y : α) : Ordering :=
  if x < y then .lt else if y < x then .gt else .eq

def compareTimes (a b : Instant) : Ordering := compare a.nanoseconds b.nanoseconds

def SortField.compare (field : SortField) (a b : Summary α) : Ordering :=
  match field with
  | .startedAt => compareTimes a.startedAt b.startedAt
  | .attemptNumber => Ord.compare a.attempt b.attempt
  | .overallScore => compareScores (sortScore a) (sortScore b)

def SortOrder.compare (order : SortOrder) (a b : Summary α) : Ordering :=
  let byField := order.field.compare a b
  (if order.descending then byField.swap else byField).then (Ord.compare a.id b.id)

structure Page (α : Type) where
  items : List (Summary α)
  page : Nat
  size : Nat
  totalElements : Nat
  totalPages : Nat

/-- Pages hold from 1 to 100 sessions, 20 if nothing is asked for. -/
def pageSize (requested : Option Nat) : Nat := max 1 (min 100 (requested.getD 20))

def requestedStatus (text : Option String) : Except Failure (Option Status) :=
  match text.filter (!·.isEmpty) with
  | none => .ok none
  | some text =>
    match Status.parse? text with
    | some status => .ok (some status)
    | none => .error (.unknownStatus text)

/-- The sessions asked for, in the order asked for. -/
def ordered (status : Option Status) (order : SortOrder) (items : List (Summary α)) :
    List (Summary α) :=
  Sorting.sort (fun a b => (order.compare a b).isLT)
    (items.filter fun s => status.all (s.status = ·))

def page (items : List (Summary α)) (q : Query) : Except Failure (Page α) := do
  let status ← requestedStatus q.status
  let order ← SortOrder.parse q.sort
  let items := ordered status order items
  let size := pageSize q.size
  let page := q.page.getD 0
  .ok {
    items := (items.drop (page * size)).take size
    page
    size
    totalElements := items.length
    totalPages := (items.length + size - 1) / size }

end OralExam.Listing
