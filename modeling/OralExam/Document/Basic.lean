/-! Documents: the trees that requests, settings and rubrics are read from and answers are
written as.

A document read from a text says where reading failed by a leaf of its own, so that whether a
fault matters is decided by who reads the tree.
-/

set_option autoImplicit false

namespace OralExam

inductive Fault where
  /-- The text breaks off or goes on with something else here. -/
  | broken
  /-- The text has a place here but no value: a number out of range, half a surrogate pair. -/
  | noValue
  /-- The text has a member here whose key is no text: half a surrogate pair. -/
  | noKey
  /-- The text breaks off or goes on with something else before a member has a key. -/
  | brokenMember
  deriving DecidableEq, Repr

inductive Document where
  | null
  | bool (b : Bool)
  | integer (n : Int)
  | float (x : Float)
  | string (s : String)
  | array (items : List Document)
  | object (members : List (String × Document))
  | fault (f : Fault)
  deriving Inhabited

namespace Document

/-- A value or null. -/
def ofOption {α : Type} (encode : α → Document) : Option α → Document
  | some a => encode a
  | none => null

def ofNat (n : Nat) : Document := integer n

def strings (xs : List String) : Document := array (xs.map string)

mutual

/-- The documents are equal part by part. -/
def same : Document → Document → Bool
  | .null, .null => true
  | .bool a, .bool b => a = b
  | .integer m, .integer n => m = n
  | .float x, .float y => x = y
  | .string s, .string t => s = t
  | .array ds, .array es => sameItems ds es
  | .object ds, .object es => sameMembers ds es
  | .fault f, .fault g => f = g
  | _, _ => false

def sameItems : List Document → List Document → Bool
  | [], [] => true
  | d :: ds, e :: es => d.same e && sameItems ds es
  | _, _ => false

def sameMembers : List (String × Document) → List (String × Document) → Bool
  | [], [] => true
  | (key, d) :: ds, (key', e) :: es => key = key' && d.same e && sameMembers ds es
  | _, _ => false

end

mutual

theorem same_iff : (d e : Document) → (d.same e ↔ d = e)
  | .null, e | .bool _, e | .integer _, e | .float _, e | .string _, e | .fault _, e => by
    cases e <;> simp [same]
  | .array ds, e => by cases e <;> simp [same, sameItems_iff ds]
  | .object ds, e => by cases e <;> simp [same, sameMembers_iff ds]

theorem sameItems_iff : (ds es : List Document) → (sameItems ds es ↔ ds = es)
  | [], es => by cases es <;> simp [sameItems]
  | d :: ds, es => by cases es <;> simp [sameItems, same_iff d, sameItems_iff ds]

theorem sameMembers_iff : (ds es : List (String × Document)) → (sameMembers ds es ↔ ds = es)
  | [], es => by cases es <;> simp [sameMembers]
  | (key, d) :: ds, es => by
    cases es <;> simp [sameMembers, same_iff d, sameMembers_iff ds, Prod.ext_iff]

end

/-- The lists inside of documents keep this from being derived. -/
instance : DecidableEq Document := fun d e => decidable_of_iff (d.same e) (same_iff d e)

/-- It stands in a member that has no key. -/
def isUnkeyed : Document → Bool
  | .fault .noKey => true
  | .fault .brokenMember => true
  | _ => false

mutual

/-- No text breaks off in the document. -/
def intact : Document → Bool
  | .fault .broken => false
  | .fault .brokenMember => false
  | .array items => intactItems items
  | .object members => intactMembers members
  | _ => true

def intactItems : List Document → Bool
  | [] => true
  | d :: ds => d.intact && intactItems ds

def intactMembers : List (String × Document) → Bool
  | [] => true
  | (_, d) :: ds => d.intact && intactMembers ds

end

mutual

/-- Every part has a value, and arrays and objects are nested at most `levels` deep. -/
def soundWithin : (levels : Nat) → Document → Bool
  | _, .fault _ => false
  | levels, .array items => 0 < levels && soundItems (levels - 1) items
  | levels, .object members => 0 < levels && soundMembers (levels - 1) members
  | _, _ => true

def soundItems : (levels : Nat) → List Document → Bool
  | _, [] => true
  | levels, d :: ds => d.soundWithin levels && soundItems levels ds

def soundMembers : (levels : Nat) → List (String × Document) → Bool
  | _, [] => true
  | levels, (_, d) :: ds => d.soundWithin levels && soundMembers levels ds

end

/-- The first member of that name. -/
def member? (name : String) : Document → Option Document
  | .object members => members.lookup name
  | _ => none

end Document

end OralExam
