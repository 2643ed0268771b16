import OralExam.Session.Summary

/-! Where sessions are kept.

A session is worked on in its cell by one caller at a time, and read from its snapshot, which the
worker writes when done. Each pair of a student and an assignment has a slot, which numbers its
attempts and names the one session that has not ended.
-/

set_option autoImplicit false

namespace OralExam

structure Cell where
  session : Session
  /-- Somebody is working on it. -/
  held : Bool := false
  deriving DecidableEq

structure Slot where
  /-- The number of sessions so far. -/
  attempts : Nat := 0
  /-- The session that has not ended. -/
  active : Option String := none
  deriving DecidableEq

structure Registry where
  cells : Keyed String Cell := {}
  snapshots : Keyed String Session := {}
  /-- By student and assignment. -/
  slots : Keyed (String × String) Slot := {}
  deriving DecidableEq

/-- Why a cell cannot be had. -/
inductive Unavailable where
  | missing
  | held
  deriving DecidableEq, Repr

/-- The student and the assignment of a session. -/
def Session.pair (s : Session) : String × String := (s.studentId, s.assignmentId)

namespace Registry

def slot (r : Registry) (pair : String × String) : Slot := (r.slots.find? pair).getD {}

/-- The session of the pair that has not ended. -/
def activeFor (r : Registry) (studentId assignmentId : String) : Option String :=
  (r.slot (studentId, assignmentId)).active

/-- A session as it was when it was last written. -/
def snapshot? (r : Registry) (id : String) : Option Session := r.snapshots.find? id

/-- A session in its cell. -/
def live? (r : Registry) (id : String) : Option Session := (r.cells.find? id).map Cell.session

/-- Puts in a session with a cell of its own. -/
def insert (r : Registry) (s : Session) : Registry :=
  { r with snapshots := r.snapshots.put s.id s, cells := r.cells.put s.id ⟨s, false⟩ }

/-- Puts in the next session of a pair, unless the pair has one that has not ended. The session is
built from the number of the attempt, and building it may fail. -/
def create {ε β : Type} (r : Registry) (studentId assignmentId : String) (taken : String → ε)
    (build : Nat → Except ε (Session × β)) : Except ε (Session × β × Registry) :=
  let slot := r.slot (studentId, assignmentId)
  match slot.active with
  | some id => .error (taken id)
  | none =>
    match build (slot.attempts + 1) with
    | .error e => .error e
    | .ok (s, b) =>
      let slots := r.slots.put (studentId, assignmentId) ⟨slot.attempts + 1, some s.id⟩
      .ok (s, b, { r with slots }.insert s)

/-! A worker takes the lock, changes the session, writes its snapshot, frees the slot if the session
has ended, and gives the lock back. Each of these is a step of its own. -/

def lock (r : Registry) (id : String) : Except Unavailable (Session × Registry) :=
  match r.cells.find? id with
  | none => .error .missing
  | some cell =>
    if cell.held then .error .held
    else .ok (cell.session, { r with cells := r.cells.put id { cell with held := true } })

/-- Gives back the lock of a session. -/
def unlock (r : Registry) (id : String) : Registry :=
  match r.cells.find? id with
  | none => r
  | some cell => { r with cells := r.cells.put id { cell with held := false } }

/-- Changes a session in its cell. -/
def update (r : Registry) (id : String) (change : Session → Session) : Registry :=
  match r.cells.find? id with
  | none => r
  | some cell => { r with cells := r.cells.put id { cell with session := change cell.session } }

def writeSnapshot (r : Registry) (s : Session) : Registry :=
  { r with snapshots := r.snapshots.put s.id s }

/-- Frees the slot that a session holds, once it has ended. -/
def releaseSlot (r : Registry) (s : Session) : Registry :=
  match r.slots.find? s.pair with
  | none => r
  | some slot =>
    if s.status.isTerminal && slot.active = some s.id then
      { r with slots := r.slots.put s.pair { slot with active := none } }
    else r

/-- Makes a session visible to readers. -/
def sync (r : Registry) (s : Session) : Registry := (r.writeSnapshot s).releaseSlot s

/-- The sessions of an assignment, here in the order in which they were put in. No order is promised to
readers: they come in whatever order the map has them, which may be another one after each write. Only
averages can show it, by their rounding. -/
def summariesFor (r : Registry) (assignmentId : String) : List (Summary Float) :=
  (r.snapshots.values.filter (·.assignmentId = assignmentId)).map Session.summary

def inactiveSince (r : Registry) (cutoff : Instant) : List String :=
  (r.snapshots.values.filter (·.isIdleSince cutoff)).map Session.id

end Registry

end OralExam
