import OralExam.Proofs.Service.Locking

/-! How the registry develops.

`Registry.Change` says all that one step of one call does to the registry, whatever the call. What
holds of sessions, snapshots and slots is proved by looking at changes; calls need not be looked at.
-/

set_option autoImplicit false

namespace OralExam

/-! ## Rubrics -/

/-- The settings stay, and sessions start from rubrics that pass the check. -/
structure World.Supplied (settings : Settings) (w : World) : Prop where
  settings : w.service.settings = settings
  bank : w.service.bank.AllChecked
  rubrics : ∀ assignment studentId rubric,
    .opening assignment studentId rubric ∈ w.calls → rubric.Checked

theorem Service.mem_of_startable {v : Service} {assignment : Assignment} {rubric : Rubric}
    (found : v.startable assignment = .ok rubric) : rubric ∈ v.bank.values := by
  unfold startable at found
  split at found
  · cases found
  · split at found
    · cases found
    · rename_i active
      split at found
      · cases found
      · cases found
        exact List.mem_of_find?_eq_some active

namespace World

variable {settings : Settings} {w : World}

namespace Supplied

theorem replace (supplied : w.Supplied settings) {v' : Service} {number : Nat} {c' : Call}
    {history : List (String × Deed)} (same : v'.settings = w.service.settings)
    (bank : v'.bank.AllChecked)
    (opening : ∀ assignment studentId rubric, c' = .opening assignment studentId rubric →
      rubric.Checked) :
    Supplied settings ⟨v', w.calls.set number c', history⟩ := by
  refine ⟨same.trans supplied.settings, bank, ?_⟩
  intro assignment studentId rubric member
  rcases List.mem_or_eq_of_mem_set member with before | now
  · exact supplied.rubrics assignment studentId rubric before
  · exact opening assignment studentId rubric now.symm

theorem move (supplied : w.Supplied settings) {number : Nat} {c : Call} {now : Instant}
    {progress : Progress} {history : List (String × Deed)} (selected : w.calls[number]? = some c)
    (move : Call.Move now w.service c progress) :
    Supplied settings ⟨progress.service, w.calls.set number progress.call, history⟩ := by
  -- Only a call that is opening has a rubric.
  have plainly {c' : Call} (plain : c'.Plain) (assignment : Assignment) (studentId : String)
      (rubric : Rubric) (opening : c' = .opening assignment studentId rubric) : rubric.Checked :=
    (opening ▸ plain : (Call.opening assignment studentId rubric).Plain).elim
  cases move with
  | stayed =>
    refine supplied.replace rfl supplied.bank ?_
    rintro assignment studentId rubric rfl
    exact supplied.rubrics _ _ _ (List.mem_of_getElem? selected)
  | turned free plain => exact supplied.replace rfl supplied.bank (plainly plain)
  | chosen startable =>
    refine supplied.replace rfl supplied.bank ?_
    rintro assignment studentId rubric ⟨⟩
    exact supplied.bank _ (Service.mem_of_startable startable)
  | @opened assignment studentId rubric =>
    rcases w.service.openSession_cases assignment studentId rubric now with
      ⟨e, -, refused⟩ | ⟨chosen, pending, c, q, -, -, -, opened⟩
    · rw [refused]
      exact supplied.replace rfl supplied.bank (by simp)
    · rw [opened]
      exact supplied.replace rfl supplied.bank (by simp)
  | @published r =>
    cases outcome : w.service.bank.publish r with
    | error e =>
      simp only [Service.publish, outcome]
      exact supplied.replace rfl supplied.bank (by simp)
    | ok bank =>
      simp only [Service.publish, outcome]
      exact supplied.replace rfl (RubricBank.publish_allChecked supplied.bank outcome)
        (by simp)
  | locked | left | changed | written | released | alerted =>
    exact supplied.replace rfl supplied.bank (by simp)
  | unlocked after =>
    rcases after with rfl | plain
    · exact supplied.replace rfl supplied.bank (by simp)
    · exact supplied.replace rfl supplied.bank (plainly plain)

end Supplied

theorem Reachable.supplied (reachable : Reachable settings w) : w.Supplied settings := by
  refine reachable.induction ?_ ?_ ?_
  · exact ⟨rfl, RubricBank.ofRubrics_allChecked _, fun _ _ _ member => by cases member⟩
  · intro w c _ supplied plain
    refine ⟨supplied.settings, supplied.bank, ?_⟩
    intro assignment studentId rubric member
    rcases List.mem_append.mp member with before | now
    · exact supplied.rubrics assignment studentId rubric before
    · cases List.mem_singleton.mp now
      exact plain.elim
  · intro w number c now progress _ supplied selected move
    exact supplied.move selected move

end World

/-! ## Changes of the registry -/

/-- All that one step can do to the registry, with what it adds to the history. -/
inductive Registry.Change (settings : Settings) (r : Registry) :
    List (String × Deed) → Registry → Prop where
  | kept : Change settings r [] r
  | entered {s : Session} (opens : Session.Opens settings s)
      (next : s.id = Service.sessionId (r.cells.entries.length + 1)) (fresh : s.id ∉ r.cells.keys)
      (vacant : (r.slot s.pair).active = none) (attempt : s.attempt = (r.slot s.pair).attempts + 1) :
      Change settings r [] (r.enter s)
  | held {s : Session} {held : Bool} (found : r.cells.find? s.id = some ⟨s, held⟩) (held' : Bool) :
      Change settings r [] (r.setCell s.id ⟨s, held'⟩)
  | seen {s : Session} {deed : Deed} (live : r.live? s.id = some s)
      (step : Session.Step settings s deed s) : Change settings r [(s.id, deed)] r
  | changed {s s' : Session} {held : Bool} {deed : Deed}
      (found : r.cells.find? s.id = some ⟨s, held⟩) (step : Session.Step settings s deed s') :
      Change settings r [(s.id, deed)] (r.setCell s.id ⟨s', held⟩)
  | written {s : Session} (live : r.live? s.id = some s) : Change settings r [] (r.writeSnapshot s)
  | released {s : Session} (live : r.live? s.id = some s) (written : r.snapshot? s.id = some s) :
      Change settings r [] (r.releaseSlot s)

namespace World

variable {settings : Settings} {w : World}

theorem change_of_move (orderly : w.Orderly) (supplied : w.Supplied settings) {number : Nat}
    {c : Call} {now : Instant} {progress : Progress} (selected : w.calls[number]? = some c)
    (move : Call.Move now w.service c progress) :
    Registry.Change settings w.registry progress.log progress.service.registry := by
  have same := supplied.settings
  cases move with
  | stayed | turned | chosen | alerted => exact .kept
  | @opened assignment studentId rubric =>
    rcases w.service.openSession_cases assignment studentId rubric now with
      ⟨e, -, refused⟩ | ⟨chosen, pending, c, q, vacant, choice, -, opened⟩
    · rw [refused]
      exact .kept
    · rw [opened]
      -- The rubric was checked when it was chosen; the bank may have changed since.
      have checked := supplied.rubrics _ _ _ (List.mem_of_getElem? selected)
      refine .entered ?_ rfl orderly.numbered.fresh vacant rfl
      rw [same] at choice
      unfold Service.firstAsked
      rw [same]
      exact .intro checked choice
  | published =>
    rw [Service.registry_publish]
    exact .kept
  | @locked id task sweep s free =>
    obtain rfl := orderly.numbered.named id s (Registry.live?_of_find? free)
    exact .held free true
  | @left id task sweep s report live body =>
    obtain rfl := orderly.numbered.named id s live
    have step := Session.perform_step w.service.settings s task now
    rw [body, same] at step
    exact .seen live step
  | @changed id task sweep s s' alert report live body =>
    obtain rfl := orderly.numbered.named id s live
    have found := orderly.taken selected nofun live
    have step := Session.perform_step w.service.settings s task now
    rw [body, same] at step
    simp only [Registry.update_of_find? found]
    exact .changed found step
  | @written id task sweep s alert report live =>
    obtain rfl := orderly.numbered.named id s live
    exact .written live
  | @released id task sweep s alert report live =>
    -- The worker has written the snapshot, and nobody else has had the session since.
    obtain ⟨t, found, live', rfl, written⟩ := orderly.found selected nofun
    rw [live] at live'
    cases live'
    exact .released live (written.trans live)
  | @unlocked id task sweep report c after =>
    obtain ⟨t, found, live, rfl, -⟩ := orderly.found selected nofun
    rw [Service.free, Registry.unlock_of_find? found]
    exact .held found false

theorem Reachable.change (reachable : Reachable settings w) (event : Event) :
    ∃ log, Registry.Change settings w.registry log (w.step event).registry ∧
      (w.step event).history = w.history ++ log := by
  cases event with
  | call request => exact ⟨[], .kept, (List.append_nil _).symm⟩
  | step number now =>
    simp only [step]
    split
    · exact ⟨[], .kept, (List.append_nil _).symm⟩
    · rename_i c selected
      exact ⟨_, change_of_move reachable.orderly reachable.supplied selected (c.step_move _ now), rfl⟩

/-- What holds of the empty registry and is kept by changes holds in every course. -/
theorem Reachable.registry_induction {P : Registry → List (String × Deed) → Prop} (start : P {} [])
    (change : ∀ r history log r', P r history → Registry.Change settings r log r' →
      P r' (history ++ log))
    (reachable : Reachable settings w) : P w.registry w.history := by
  obtain ⟨events, rfl⟩ := reachable
  induction events using List.reverseRecOn with
  | nil => exact start
  | append_singleton events event holds =>
    rw [run_append]
    change P (((begin settings).run events).step event).registry _
    obtain ⟨log, changes, same⟩ := Reachable.change ⟨events, rfl⟩ event
    rw [show (((begin settings).run events).run [event]).history = _ from same]
    exact change _ _ _ _ holds changes

end World

end OralExam
