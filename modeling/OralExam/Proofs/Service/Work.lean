import OralExam.Proofs.Service.Sequence

/-! What work on a session comes to.

Work that leaves the session alone leaves the whole service as it was, the lock included. Work that
puts another session in its place puts it into the cell and the snapshot, and frees the slot if the
session has ended. Which of the two it is, can be told from the report.
-/

set_option autoImplicit false

namespace OralExam

namespace Registry

theorem setCell_setCell (r : Registry) (id : String) (cell cell' : Cell) :
    (r.setCell id cell).setCell id cell' = r.setCell id cell' := by
  simp only [setCell, Keyed.put_put]

theorem setCell_of_find? {r : Registry} {id : String} {cell : Cell}
    (found : r.cells.find? id = some cell) : r.setCell id cell = r := by
  simp only [setCell, Keyed.put_of_find? found]

@[simp] theorem cells_sync (r : Registry) (s : Session) : (r.sync s).cells = r.cells := by
  simp [sync]

@[simp] theorem snapshot?_setCell (r : Registry) (id other : String) (cell : Cell) :
    (r.setCell id cell).snapshot? other = r.snapshot? other := by
  rfl

theorem snapshot?_sync (r : Registry) (s : Session) (id : String) :
    (r.sync s).snapshot? id = if id = s.id then some s else r.snapshot? id := by
  rw [sync, snapshot?_releaseSlot, snapshot?_writeSnapshot]

/-- Cells do not matter to readers and slots. -/
theorem sync_setCell (r : Registry) (id : String) (cell : Cell) (s : Session) :
    (r.setCell id cell).sync s = (r.sync s).setCell id cell := by
  simp only [sync, releaseSlot, setCell, writeSnapshot]
  cases r.slots.find? s.pair with
  | none => rfl
  | some slot => dsimp only; split <;> rfl

end Registry

/-! ## Refusals -/

/-- Why the task was refused, if it was. -/
def Report.failure? : Report → Option Failure
  | answered (.error e) | ended (.error e) | reviewed (.error e) | abandoned (.error e) => some e
  | answered (.ok _) | ended (.ok _) | reviewed (.ok _) | abandoned (.ok _) => none

theorem Report.isRefusal_of_failure? {report : Report} {e : Failure}
    (failed : report.failure? = some e) : report.isRefusal := by
  cases report with
  | answered result | ended result | reviewed result | abandoned result =>
    cases result with
    | error => rfl
    | ok => cases failed

@[simp] theorem Task.isRefusal_refused (task : Task) (e : Failure) : (task.refused e).isRefusal := by
  cases task <;> rfl

namespace Session

variable {settings : Settings} {s s' : Session} {now : Instant} {alert : Option Alert}
  {report : Report}

/-- A task that leaves the session alone was refused. -/
theorem isRefusal_of_leave {task : Task} (body : task.perform settings now s = .leave report) :
    report.isRefusal := by
  cases task with
  | answer transcript similarity =>
    simp only [Task.perform, answer] at body
    split at body
    · cases body
      rfl
    · split at body
      · cases body
        rfl
      · split at body <;> cases body
  | endEarly reason abandoned =>
    simp only [Task.perform, endEarly] at body
    split at body <;> cases body
    rfl
  | review reviewer scoreOverride reason =>
    simp only [Task.perform, takeReview] at body
    split at body <;> cases body
    rfl
  | abandonIdle cutoff =>
    simp only [Task.perform, abandonIdle] at body
    split at body <;> cases body
    rfl

/-- A task that changes the session makes it what a deed can make of it. -/
theorem step_of_replace {task : Task}
    (body : task.perform settings now s = .replace s' alert report) :
    Step settings s ⟨task, now, report⟩ s' := by
  have step := perform_step settings s task now
  rw [body] at step
  exact step

/-- A task that changes a session that can come up was not refused: the question that such a session
waits for is always there. -/
theorem not_isRefusal_of_replace {task : Task} (reached : Reached settings s)
    (body : task.perform settings now s = .replace s' alert report) : report.isRefusal = false := by
  have known := (perform_step settings s task now).report_ne_unavailable reached.proper
  cases task with
  | answer transcript similarity =>
    simp only [Task.perform, answer] at body known
    split at body
    · cases body
    · rename_i going
      split at body
      · cases body
      · rename_i admitted
        split at body
        · rename_i missing
          rw [if_neg going, admitted, missing] at known
          exact absurd rfl (known s.id)
        · cases body
          rfl
  | endEarly reason abandoned =>
    simp only [Task.perform, endEarly] at body
    split at body <;> cases body
    rfl
  | review reviewer scoreOverride reason =>
    simp only [Task.perform, takeReview] at body
    split at body <;> cases body
    rfl
  | abandonIdle cutoff =>
    simp only [Task.perform, abandonIdle] at body
    split at body <;> cases body
    rfl

end Session

/-! ## Work under the lock -/

namespace Service

variable {v : Service} {now : Instant} {id : String} {task : Task} {s s' : Session}
  {alert : Option Alert} {report : Report}

theorem carryOut_of_missing (missing : v.registry.cells.find? id = none) (now : Instant)
    (task : Task) : v.carryOut now id task = (task.refused (.unknownSession id), v) := by
  simp only [carryOut, hold_of_missing missing]

theorem carryOut_of_held (taken : v.registry.cells.find? id = some ⟨s, true⟩) (now : Instant)
    (task : Task) : v.carryOut now id task = (task.refused (.busy id), v) := by
  simp only [carryOut, hold, Registry.lock, taken]
  rfl

theorem carryOut_of_leave (free : v.registry.cells.find? id = some ⟨s, false⟩)
    (body : task.perform v.settings now s = .leave report) :
    v.carryOut now id task = (report, v) := by
  simp only [carryOut, hold_of_free free, body, Service.free]
  rw [Registry.unlock_of_find? (Registry.find?_setCell_self _ _ _), Registry.setCell_setCell,
    Registry.setCell_of_find? free]

theorem carryOut_of_replace (free : v.registry.cells.find? id = some ⟨s, false⟩)
    (body : task.perform v.settings now s = .replace s' alert report) :
    v.carryOut now id task = (report, { v with
      registry := (v.registry.sync s').setCell id ⟨s', false⟩
      alerts := v.alerts ++ alert.toList }) := by
  have update : (v.registry.setCell id ⟨s, true⟩).update id (fun _ => s') =
      v.registry.setCell id ⟨s', true⟩ := by
    rw [Registry.update_of_find? (Registry.find?_setCell_self _ _ _), Registry.setCell_setCell]
  simp only [carryOut, hold_of_free free, body, Service.free, commit, update]
  rw [Registry.sync_setCell, Registry.unlock_of_find? (Registry.find?_setCell_self _ _ _),
    Registry.setCell_setCell]

/-- Work on a session leaves everything as it was, or puts another session in its place. -/
theorem carryOut_cases (v : Service) (now : Instant) (id : String) (task : Task) :
    ((v.carryOut now id task).1.isRefusal ∧ (v.carryOut now id task).2 = v) ∨
    ∃ s s' alert report, v.registry.cells.find? id = some ⟨s, false⟩ ∧
      task.perform v.settings now s = .replace s' alert report ∧
      v.carryOut now id task = (report, { v with
        registry := (v.registry.sync s').setCell id ⟨s', false⟩
        alerts := v.alerts ++ alert.toList }) := by
  cases found : v.registry.cells.find? id with
  | none =>
    rw [carryOut_of_missing found]
    exact .inl ⟨task.isRefusal_refused _, rfl⟩
  | some cell =>
    obtain ⟨s, held⟩ := cell
    cases held with
    | true =>
      rw [carryOut_of_held found]
      exact .inl ⟨task.isRefusal_refused _, rfl⟩
    | false =>
      cases body : task.perform v.settings now s with
      | leave report =>
        rw [carryOut_of_leave found body]
        exact .inl ⟨Session.isRefusal_of_leave body, rfl⟩
      | replace s' alert report =>
        exact .inr ⟨s, s', alert, report, rfl, body, carryOut_of_replace found body⟩

/-! ## Answers, ends and reviews -/

/-- What work gives is what the task gives when it is carried out. -/
theorem work_eq_of_carryOut {β : Type} {body : Session → Handling (Except Failure β)}
    {report : Except Failure β → Report} (injective : Function.Injective report)
    (body_eq : ∀ s, task.perform v.settings now s = (body s).map report)
    (refused_eq : ∀ e, task.refused e = report (.error e)) {result : Except Failure β}
    {v' : Service} (carried : v.carryOut now id task = (report result, v')) :
    v.work id body = (result, v') := by
  rw [← work_eq_carryOut body_eq refused_eq] at carried
  have report_eq := congrArg Prod.fst carried
  have service_eq := congrArg Prod.snd carried
  simp only [Prod.map_fst, Prod.map_snd] at report_eq service_eq
  exact Prod.ext (injective report_eq) service_eq

theorem answer_eq {transcript : String} {similarity : Option Float}
    {result : Except Failure Outcome} {v' : Service}
    (carried : v.carryOut now id (.answer transcript similarity) = (.answered result, v')) :
    v.answer id transcript similarity now = (result, v') :=
  work_eq_of_carryOut (fun _ _ => Report.answered.inj) (fun _ => rfl) (fun _ => rfl) carried

theorem endSession_eq {reason : Option String} {abandoned : Bool}
    {result : Except Failure Session} {v' : Service}
    (carried : v.carryOut now id (.endEarly reason abandoned) = (.ended result, v')) :
    v.endSession id reason abandoned now = (result, v') :=
  work_eq_of_carryOut (fun _ _ => Report.ended.inj) (fun _ => rfl) (fun _ => rfl) carried

theorem review_eq {reviewer : String} {scoreOverride : Option Float} {reason : Option String}
    {result : Except Failure Session} {v' : Service}
    (carried : v.carryOut now id (.review reviewer scoreOverride reason) = (.reviewed result, v')) :
    v.review id reviewer scoreOverride reason now = (result, v') :=
  work_eq_of_carryOut (fun _ _ => Report.reviewed.inj) (fun _ => rfl) (fun _ => rfl) carried

end Service

end OralExam
