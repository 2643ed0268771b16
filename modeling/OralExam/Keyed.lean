/-! Values by key, in the order in which the keys were first put. -/

set_option autoImplicit false

namespace OralExam

structure Keyed (κ υ : Type) where
  entries : List (κ × υ) := []
  deriving DecidableEq, Repr

namespace Keyed

variable {κ υ : Type} [DecidableEq κ]

def find? (m : Keyed κ υ) (k : κ) : Option υ := m.entries.lookup k

def keys (m : Keyed κ υ) : List κ := m.entries.map Prod.fst

def values (m : Keyed κ υ) : List υ := m.entries.map Prod.snd

def contains (m : Keyed κ υ) (k : κ) : Bool := (m.find? k).isSome

/-- The entries with the value of one key replaced, or appended. -/
def putEntry (k : κ) (v : υ) : List (κ × υ) → List (κ × υ)
  | [] => [(k, v)]
  | (k', v') :: rest => if k' = k then (k, v) :: rest else (k', v') :: putEntry k v rest

def put (m : Keyed κ υ) (k : κ) (v : υ) : Keyed κ υ := ⟨putEntry k v m.entries⟩

theorem lookup_putEntry (k j : κ) (v : υ) (es : List (κ × υ)) :
    (putEntry k v es).lookup j = if j = k then some v else es.lookup j := by
  induction es with
  | nil => grind [putEntry]
  | cons e rest ih => grind [putEntry]

@[simp] theorem find?_put (m : Keyed κ υ) (k j : κ) (v : υ) :
    (m.put k v).find? j = if j = k then some v else m.find? j :=
  lookup_putEntry k j v m.entries

@[simp] theorem find?_empty (k : κ) : (⟨[]⟩ : Keyed κ υ).find? k = none := rfl

end Keyed

end OralExam
