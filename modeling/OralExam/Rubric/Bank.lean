import OralExam.Keyed
import OralExam.Rubric.Check
import OralExam.Rubric.Starter

/-! The rubrics that sessions are started from, by identifier.

Of the rubrics of one assignment at most one is active. Publishing an active rubric archives the one
that was active before; sessions keep the rubric they started with.
-/

set_option autoImplicit false

namespace OralExam

abbrev RubricBank := Keyed String Rubric

/-- The rubric is the one from which sessions of the assignment start. -/
def Rubric.isActiveFor (r : Rubric) (assignmentId : String) : Bool :=
  r.status = .active && r.assignmentId = assignmentId

/-- The check says nothing against the rubric. -/
def Rubric.isValid (r : Rubric) : Bool := r.check.isOk

namespace RubricBank

/-- A bank in the course of being filled. -/
structure Filling where
  bank : RubricBank := {}
  /-- The assignments of the active rubrics taken so far. -/
  served : List String := []

/-- Takes a rubric that passes the check, but no second active one for an assignment. -/
def Filling.take (f : Filling) (r : Rubric) : Filling :=
  if !r.isValid then f
  else if r.status ≠ .active then { f with bank := f.bank.put r.id r }
  else if f.served.contains r.assignmentId then f
  else ⟨f.bank.put r.id r, r.assignmentId :: f.served⟩

/-- The rubrics given, and the starter where nothing stands in its place. -/
def ofRubrics (rubrics : List Rubric) : RubricBank :=
  let filled := rubrics.foldl Filling.take {}
  let starter := Rubric.starter
  if filled.bank.contains starter.id || filled.served.contains starter.assignmentId then filled.bank
  else filled.bank.put starter.id starter

def activeFor (bank : RubricBank) (assignmentId : String) : Option Rubric :=
  bank.values.find? (·.isActiveFor assignmentId)

/-- Archives what is active for the assignment of a rubric under another identifier. -/
def archiveOthers (bank : RubricBank) (r : Rubric) : RubricBank :=
  ⟨bank.entries.map fun (id, old) =>
    if old.id ≠ r.id && old.isActiveFor r.assignmentId then (id, { old with status := .archived })
    else (id, old)⟩

def publish (bank : RubricBank) (r : Rubric) : Except Failure RubricBank :=
  match r.check with
  | .error e => .error e
  | .ok () =>
    let bank := if r.status = .active then bank.archiveOthers r else bank
    .ok (bank.put r.id r)

end RubricBank

end OralExam
