import OralExam.Proofs.Keyed
import OralExam.Session.Registry

/-! What the operations of a registry do to cells, snapshots and slots.

Each operation is described by lookups; later modules do not unfold it.
-/

set_option autoImplicit false

namespace OralExam.Registry

variable {r : Registry} {id : String} {s : Session}

/-- Puts a cell in the place of another. -/
def setCell (r : Registry) (id : String) (cell : Cell) : Registry :=
  { r with cells := r.cells.put id cell }

theorem find?_setCell (r : Registry) (id other : String) (cell : Cell) :
    (r.setCell id cell).cells.find? other =
      if other = id then some cell else r.cells.find? other :=
  Keyed.find?_put _ _ _ _

@[simp] theorem find?_setCell_self (r : Registry) (id : String) (cell : Cell) :
    (r.setCell id cell).cells.find? id = some cell := by
  simp [find?_setCell]

theorem find?_setCell_of_ne (r : Registry) {id other : String} (cell : Cell) (apart : other ≠ id) :
    (r.setCell id cell).cells.find? other = r.cells.find? other := by
  simp [find?_setCell, apart]

theorem mem_keys_of_find? {cell : Cell} (found : r.cells.find? id = some cell) :
    id ∈ r.cells.keys := by
  rw [← Keyed.isSome_find?_iff, found]
  rfl

theorem keys_setCell {old : Cell} (found : r.cells.find? id = some old) (cell : Cell) :
    (r.setCell id cell).cells.keys = r.cells.keys :=
  Keyed.keys_put_of_mem (mem_keys_of_find? found) cell

theorem live?_eq_some_iff : r.live? id = some s ↔ ∃ held, r.cells.find? id = some ⟨s, held⟩ := by
  rw [live?, Option.map_eq_some_iff]
  constructor
  · rintro ⟨⟨s', held⟩, found, same⟩
    exact ⟨held, by rw [found, ← same]⟩
  · rintro ⟨held, found⟩
    exact ⟨_, found, rfl⟩

theorem live?_of_find? {cell : Cell} (found : r.cells.find? id = some cell) :
    r.live? id = some cell.session := by
  rw [live?, found, Option.map_some]

theorem live?_of_fresh (fresh : id ∉ r.cells.keys) : r.live? id = none := by
  rw [live?, (Keyed.find?_eq_none_iff _ _).mpr fresh, Option.map_none]

theorem live?_setCell (r : Registry) (id other : String) (cell : Cell) :
    (r.setCell id cell).live? other = if other = id then some cell.session else r.live? other := by
  rw [live?, find?_setCell]
  split <;> rfl

/-- A lock that is taken or given back leaves the session as it is. -/
theorem live?_setCell_of_find? {held : Bool} (found : r.cells.find? id = some ⟨s, held⟩)
    (held' : Bool) (other : String) : (r.setCell id ⟨s, held'⟩).live? other = r.live? other := by
  rw [live?_setCell]
  split
  · rename_i own
    rw [own, live?_of_find? found]
  · rfl

theorem update_of_find? {cell : Cell} (found : r.cells.find? id = some cell)
    (change : Session → Session) :
    r.update id change = r.setCell id ⟨change cell.session, cell.held⟩ := by
  rw [update, found]
  rfl

theorem unlock_of_find? {cell : Cell} (found : r.cells.find? id = some cell) :
    r.unlock id = r.setCell id ⟨cell.session, false⟩ := by
  rw [unlock, found]
  rfl

@[simp] theorem live?_unlock (r : Registry) (id other : String) :
    (r.unlock id).live? other = r.live? other := by
  cases found : r.cells.find? id with
  | none => rw [unlock, found]
  | some cell =>
    rw [unlock_of_find? found]
    exact live?_setCell_of_find? found false other

/-! ## Snapshots -/

@[simp] theorem snapshot?_unlock (r : Registry) (id other : String) :
    (r.unlock id).snapshot? other = r.snapshot? other := by
  unfold unlock
  split <;> rfl

@[simp] theorem cells_writeSnapshot (r : Registry) (s : Session) :
    (r.writeSnapshot s).cells = r.cells := rfl

@[simp] theorem live?_writeSnapshot (r : Registry) (s : Session) (id : String) :
    (r.writeSnapshot s).live? id = r.live? id := rfl

@[simp] theorem slot_writeSnapshot (r : Registry) (s : Session) (pair : String × String) :
    (r.writeSnapshot s).slot pair = r.slot pair := rfl

theorem snapshot?_writeSnapshot (r : Registry) (s : Session) (id : String) :
    (r.writeSnapshot s).snapshot? id = if id = s.id then some s else r.snapshot? id :=
  Keyed.find?_put _ _ _ _

/-! ## Slots -/

@[simp] theorem cells_releaseSlot (r : Registry) (s : Session) :
    (r.releaseSlot s).cells = r.cells := by
  unfold releaseSlot
  split
  · rfl
  · split <;> rfl

@[simp] theorem live?_releaseSlot (r : Registry) (s : Session) (id : String) :
    (r.releaseSlot s).live? id = r.live? id := by
  rw [live?, cells_releaseSlot, live?]

@[simp] theorem snapshot?_releaseSlot (r : Registry) (s : Session) (id : String) :
    (r.releaseSlot s).snapshot? id = r.snapshot? id := by
  unfold releaseSlot
  split
  · rfl
  · split <;> rfl

/-- A slot is freed by the session that it names, once that has ended, and by no other. -/
theorem slot_releaseSlot (r : Registry) (s : Session) (pair : String × String) :
    (r.releaseSlot s).slot pair =
      if pair = s.pair ∧ s.status.isTerminal ∧ (r.slot pair).active = some s.id then
        { r.slot pair with active := none }
      else r.slot pair := by
  by_cases own : pair = s.pair
  case neg =>
    rw [if_neg fun h => own h.1]
    unfold releaseSlot
    split
    · rfl
    · split
      · simp only [slot, Keyed.find?_put, if_neg own]
      · rfl
  case pos =>
    subst own
    unfold releaseSlot
    cases found : r.slots.find? s.pair with
    | none => simp [slot, found]
    | some named =>
      have same : r.slot s.pair = named := by simp [slot, found]
      rw [same]
      by_cases ended : s.status.isTerminal ∧ named.active = some s.id
      · simp [ended, slot]
      · simp [ended, slot, found]

/-! ## New sessions -/

/-- Puts a session in and names it in the slot of its pair. -/
def enter (r : Registry) (s : Session) : Registry :=
  { r with slots := r.slots.put s.pair ⟨s.attempt, some s.id⟩ }.insert s

theorem cells_enter (r : Registry) (s : Session) : (r.enter s).cells = r.cells.put s.id ⟨s, false⟩ :=
  rfl

theorem find?_enter (r : Registry) (s : Session) (id : String) :
    (r.enter s).cells.find? id = if id = s.id then some ⟨s, false⟩ else r.cells.find? id :=
  Keyed.find?_put _ _ _ _

theorem live?_enter (r : Registry) (s : Session) (id : String) :
    (r.enter s).live? id = if id = s.id then some s else r.live? id := by
  rw [live?, find?_enter]
  split <;> rfl

theorem snapshot?_enter (r : Registry) (s : Session) (id : String) :
    (r.enter s).snapshot? id = if id = s.id then some s else r.snapshot? id :=
  Keyed.find?_put _ _ _ _

theorem slot_enter (r : Registry) (s : Session) (pair : String × String) :
    (r.enter s).slot pair = if pair = s.pair then ⟨s.attempt, some s.id⟩ else r.slot pair := by
  simp only [slot, enter, insert, Keyed.find?_put]
  split <;> rfl

theorem create_of_active {ε β : Type} {studentId assignmentId active : String} (taken : String → ε)
    (build : Nat → Except ε (Session × β))
    (named : (r.slot (studentId, assignmentId)).active = some active) :
    r.create studentId assignmentId taken build = .error (taken active) := by
  simp only [create, named]

theorem create_of_refused {ε β : Type} {studentId assignmentId : String} (taken : String → ε)
    {build : Nat → Except ε (Session × β)} {e : ε}
    (vacant : (r.slot (studentId, assignmentId)).active = none)
    (refused : build ((r.slot (studentId, assignmentId)).attempts + 1) = .error e) :
    r.create studentId assignmentId taken build = .error e := by
  simp only [create, vacant, refused]

/-- Where the slot is free, what is built for the next attempt is put in. -/
theorem create_of_vacant {ε β : Type} {studentId assignmentId : String} (taken : String → ε)
    {build : Nat → Except ε (Session × β)} {s : Session} {b : β}
    (vacant : (r.slot (studentId, assignmentId)).active = none)
    (built : build ((r.slot (studentId, assignmentId)).attempts + 1) = .ok (s, b))
    (pair : s.pair = (studentId, assignmentId))
    (attempt : s.attempt = (r.slot (studentId, assignmentId)).attempts + 1) :
    r.create studentId assignmentId taken build = .ok (s, b, r.enter s) := by
  simp only [create, vacant, built, enter, pair, attempt]

end OralExam.Registry
