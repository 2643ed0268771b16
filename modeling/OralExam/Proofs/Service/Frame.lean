import OralExam.Proofs.Service.Locking

/-! What a step has nothing to do with stays as it was.

Work on one session leaves the others alone, in their cells and in their snapshots; and while a call
holds a session, no other call touches it.
-/

set_option autoImplicit false

namespace OralExam

/-- The session that the call is to work on, or works on. -/
def Call.subject? : Call → Option String
  | .working id _ _ _ => some id
  | _ => none

namespace World

variable {settings : Settings} {w : World} {number : Nat} {c : Call} {id : String} {now : Instant}

/-- A step for one session leaves the others alone. -/
theorem Orderly.agrees_of_move (orderly : w.Orderly) (selected : w.calls[number]? = some c)
    {progress : Progress} (move : Call.Move now w.service c progress)
    (apart : c.subject? ≠ some id) (known : id ∈ w.registry.cells.keys) :
    w.registry.Agrees progress.service.registry id := by
  have other {subject : String} (subject_eq : c.subject? = some subject) : id ≠ subject := by
    rintro rfl
    exact apart subject_eq
  cases move with
  | stayed | turned | chosen | left | alerted => exact .refl _ id
  | @opened assignment studentId rubric =>
    rcases w.service.openSession_cases assignment studentId rubric now with
      ⟨e, -, refused⟩ | ⟨chosen, pending, c, q, -, -, -, opened⟩
    · rw [refused]
      exact .refl _ id
    · rw [opened]
      refine .enter _ ?_
      rintro rfl
      exact orderly.numbered.fresh known
  | published =>
    rw [Service.registry_publish]
    exact .refl _ id
  | locked free => exact .setCell _ _ (other rfl)
  | changed live body =>
    obtain ⟨t, found, -⟩ := orderly.found selected nofun
    simp only [Registry.update_of_find? found]
    exact .setCell _ _ (other rfl)
  | @written subject task sweep s alert report live =>
    refine .writeSnapshot _ ?_
    rw [orderly.numbered.named subject s live]
    exact other rfl
  | released live => exact .releaseSlot _ _ id
  | unlocked after =>
    obtain ⟨t, found, -⟩ := orderly.found selected nofun
    rw [Service.free, Registry.unlock_of_find? found]
    exact .setCell _ _ (other rfl)

/-- Who finds a session locked leaves the service as it was. -/
theorem service_step_of_held {task : Task} {sweep : Option Sweep} {s : Session}
    (selected : w.calls[number]? = some (.working id task sweep .waiting))
    (taken : w.registry.cells.find? id = some ⟨s, true⟩) :
    (w.step (.step number now)).service = w.service := by
  simp only [step_of_selected selected, Call.step, Call.workStep, Registry.lock, taken, if_true]
  split <;> rfl

/-- While a call holds a session, the others leave it alone. -/
theorem Orderly.agrees_of_holds (orderly : w.Orderly) (selected : w.calls[number]? = some c)
    (holds : c.holds? = some id) {event : Event} (other : ∀ now, event ≠ .step number now) :
    w.registry.Agrees (w.step event).registry id := by
  obtain ⟨s, taken⟩ := (orderly.sound number c selected).find? holds
  cases event with
  | call request => exact .refl _ id
  | step i now =>
    have apart : i ≠ number := fun same => other now (congrArg (Event.step · now) same)
    cases selected' : w.calls[i]? with
    | none =>
      simp only [step, selected']
      exact .refl _ id
    | some d =>
      by_cases rival : d.subject? = some id
      · -- A rival is still waiting, and goes on waiting or is turned away.
        cases d with
        | working subject task sweep phase =>
          cases rival
          by_cases waiting : phase = .waiting
          · subst waiting
            rw [registry, registry, service_step_of_held selected' taken]
            exact .refl _ _
          · exact absurd (orderly.alone i number _ c _ selected' selected
              (Call.holds?_working waiting) holds) apart
        | _ => cases rival
      · rw [step_of_selected selected']
        exact orderly.agrees_of_move selected' (d.step_move w.service now) rival
          (Registry.mem_keys_of_find? taken)

/-- Where a call stands after a step of its own. -/
theorem calls_of_step (selected : (w.step (.step number now)).calls[number]? = some c) :
    ∃ d, w.calls[number]? = some d ∧ (d.step w.service now).call = c := by
  cases before : w.calls[number]? with
  | none =>
    simp only [step, before] at selected
    cases selected
  | some d =>
    rw [step_of_selected before,
      List.getElem?_set_self (List.getElem?_eq_some_iff.mp before).1] at selected
    exact ⟨d, rfl, Option.some.inj selected⟩

/-- Calls get hold of a session by steps of their own. -/
theorem calls_of_holds {event : Event} (other : ∀ now, event ≠ .step number now)
    (selected : (w.step event).calls[number]? = some c) (holds : c.holds? = some id) :
    w.calls[number]? = some c := by
  cases event with
  | call request =>
    simp only [step] at selected
    rw [List.getElem?_append] at selected
    split at selected
    · exact selected
    · have new := List.mem_singleton.mp (List.mem_of_getElem? selected)
      rw [new, (request.plain_call w.service.settings).holds?_eq] at holds
      cases holds
  | step i now =>
    have apart : i ≠ number := fun same => other now (congrArg (Event.step · now) same)
    cases selected' : w.calls[i]? with
    | none =>
      simp only [step, selected'] at selected
      exact selected
    | some d =>
      rw [step_of_selected selected'] at selected
      rw [← selected]
      exact (List.getElem?_set_ne apart).symm

/-- A session nobody works on stays as it is, but may be locked. -/
theorem Orderly.find?_step_of_free (orderly : w.Orderly) {s : Session}
    (free : w.registry.cells.find? id = some ⟨s, false⟩) (event : Event) :
    ∃ held, (w.step event).registry.cells.find? id = some ⟨s, held⟩ := by
  cases event with
  | call request => exact ⟨false, free⟩
  | step i now =>
    cases selected : w.calls[i]? with
    | none =>
      simp only [step, selected]
      exact ⟨false, free⟩
    | some d =>
      by_cases mine : d.subject? = some id
      · cases d with
        | working subject task sweep phase =>
          cases mine
          by_cases waiting : phase = .waiting
          · subst waiting
            refine ⟨true, ?_⟩
            simp only [step_of_selected selected, Call.step, Call.workStep, Registry.lock, free]
            exact Registry.find?_setCell_self _ _ _
          · obtain ⟨t, taken, -⟩ := orderly.found selected waiting
            rw [free] at taken
            cases taken
        | _ => cases mine
      · refine ⟨false, ?_⟩
        rw [step_of_selected selected, ← free]
        exact (orderly.agrees_of_move selected (d.step_move w.service now) mine
          (Registry.mem_keys_of_find? free)).cell

end World

end OralExam
