import OralExam.Proofs.Service.Frame
import OralExam.Proofs.Service.Trace

/-! What readers are shown.

A reader does not wait for a worker. What it is shown is nevertheless a session between two
operations: as it was put in, or as it is at the end of an operation on it. Either that end has come,
or the worker has nothing left to do to the session and has only to give the lock back.
-/

set_option autoImplicit false

namespace OralExam

/-- How many steps a worker has left that has written the snapshot, or has nothing to write. -/
def Phase.stepsLeft : Phase → Nat
  | .waiting | .locked | .changed _ _ => 0
  | .written _ _ => 3
  | .settled _ _ => 2
  | .leaving _ => 1

/-- Who is at work and has not written the snapshot yet has just got the lock, or was at work before. -/
theorem Call.Move.before_unwritten {now : Instant} {v : Service} {c : Call} {progress : Progress}
    {id : String} {task : Task} {sweep : Option Sweep} {phase : Phase}
    (move : Move now v c progress) (called : progress.call = .working id task sweep phase)
    (busy : phase ≠ .waiting) (unwritten : phase.stepsLeft = 0) :
    progress.service.registry.snapshots = v.registry.snapshots ∧
      ((∃ s, v.registry.cells.find? id = some ⟨s, false⟩) ∨
        ∃ phase, c = .working id task sweep phase ∧ phase ≠ .waiting ∧ phase.stepsLeft = 0) := by
  have resting {c' : Call} (plain : c'.Plain) (called : c' = .working id task sweep phase) : False := by
    subst called
    exact busy plain
  cases move with
  | stayed => exact ⟨rfl, .inr ⟨phase, called, busy, unwritten⟩⟩
  | turned free plain => exact (resting plain called).elim
  | chosen | opened | published => cases called
  | locked free =>
    cases called
    exact ⟨rfl, .inl ⟨_, free⟩⟩
  | @changed id task sweep s s' alert report live body =>
    cases called
    refine ⟨?_, .inr ⟨.locked, rfl, nofun, rfl⟩⟩
    simp only [Registry.update]
    split <;> rfl
  | left | written | released | alerted =>
    cases called
    cases unwritten
  | unlocked after =>
    rcases after with rfl | plain
    · cases called
    · exact (resting plain called).elim

theorem Phase.Restored.shown {r : Registry} {id : String} {phase : Phase} {left : Nat}
    (restored : phase.Restored r id) (written : phase.stepsLeft = left + 1) :
    r.snapshot? id = r.live? id := by
  cases phase with
  | waiting | locked | changed => cases written
  | written => exact restored
  | settled | leaving => exact Registry.Settled.snapshot restored

namespace World

/-! ## Ends of operations -/

/-- In the course of the events the session is put in as given, or a worker gives its lock back and
leaves it so. -/
def Completes (w : World) (events : List Event) (id : String) (s : Session) : Prop :=
  ∃ earlier event, earlier ++ [event] <+: events ∧
    (∀ t, (w.run earlier).registry.cells.find? id ≠ some ⟨t, false⟩) ∧
    ((w.run earlier).step event).registry.cells.find? id = some ⟨s, false⟩

variable {settings : Settings} {w : World} {events later : List Event} {id : String} {s t : Session}

namespace Completes

theorem mono (completes : w.Completes events id s) (grows : events <+: later) :
    w.Completes later id s := by
  obtain ⟨earlier, event, part, ends⟩ := completes
  exact ⟨earlier, event, part.trans grows, ends⟩

theorem append (completes : w.Completes events id s) (later : List Event) :
    w.Completes (events ++ later) id s :=
  completes.mono (List.prefix_append _ _)

theorem cons {event : Event} (completes : (w.step event).Completes events id s) :
    w.Completes (event :: events) id s := by
  obtain ⟨earlier, last, part, ends⟩ := completes
  exact ⟨event :: earlier, last, List.cons_prefix_cons.mpr ⟨rfl, part⟩, ends⟩

/-- The last of the events is the end. -/
theorem last {event : Event} (busy : ∀ t, (w.run events).registry.cells.find? id ≠ some ⟨t, false⟩)
    (free : ((w.run events).step event).registry.cells.find? id = some ⟨s, false⟩) :
    w.Completes (events ++ [event]) id s :=
  ⟨events, event, List.prefix_rfl, busy, free⟩

end Completes

/-- What nobody works on is as it was at the end of an operation. -/
theorem completes_of_free (settings : Settings) (events : List Event)
    (free : ((begin settings).run events).registry.cells.find? id = some ⟨s, false⟩) :
    (begin settings).Completes events id s := by
  induction events using List.reverseRecOn with
  | nil => cases free
  | append_singleton events event ih =>
    have before : Reachable settings ((begin settings).run events) := ⟨events, rfl⟩
    have orderly := before.orderly
    rw [run_append] at free
    by_cases unheld : ∃ t, ((begin settings).run events).registry.cells.find? id = some ⟨t, false⟩
    · obtain ⟨t, already⟩ := unheld
      -- It was so before the last event.
      obtain ⟨held, after⟩ := orderly.find?_step_of_free already event
      change (((begin settings).run events).step event).registry.cells.find? id = _ at free
      rw [after] at free
      cases free
      exact (ih already).append [event]
    · exact .last (fun t already => unheld ⟨t, already⟩) free

/-! ## Before the snapshot is written -/

/-- Until a worker writes the snapshot, it shows what the worker has found. -/
theorem completes_of_unwritten (settings : Settings) (events : List Event) {number : Nat}
    {task : Task} {sweep : Option Sweep} {phase : Phase}
    (selected : ((begin settings).run events).calls[number]? = some (.working id task sweep phase))
    (busy : phase ≠ .waiting) (unwritten : phase.stepsLeft = 0)
    (shown : ((begin settings).run events).registry.snapshot? id = some t) :
    (begin settings).Completes events id t := by
  induction events using List.reverseRecOn generalizing phase with
  | nil => cases selected
  | append_singleton events event ih =>
    have before : Reachable settings ((begin settings).run events) := ⟨events, rfl⟩
    have orderly := before.orderly
    rw [run_append] at selected shown
    change (((begin settings).run events).step event).calls[number]? = _ at selected
    change (((begin settings).run events).step event).registry.snapshot? id = _ at shown
    have holds : (Call.working id task sweep phase).holds? = some id := Call.holds?_working busy
    by_cases own : ∃ now, event = .step number now
    · obtain ⟨now, rfl⟩ := own
      obtain ⟨c, selected', called⟩ := calls_of_step selected
      rw [step_of_selected selected'] at shown
      rcases (c.step_move _ now).before_unwritten called busy unwritten with
        ⟨same, ⟨s, free⟩ | ⟨phase', rfl, busy', unwritten'⟩⟩
      · -- The lock has just been taken, on what the snapshot shows.
        have settled := (orderly.settled id s free).snapshot
        rw [Registry.snapshot?, same, ← Registry.snapshot?, settled,
          Registry.live?_of_find? free] at shown
        cases shown
        exact (completes_of_free settings events free).append _
      · rw [Registry.snapshot?, same] at shown
        exact (ih selected' busy' unwritten' shown).append _
    · have other (now : Instant) : event ≠ .step number now := fun same => own ⟨now, same⟩
      have selected' := calls_of_holds other selected holds
      rw [(orderly.agrees_of_holds selected' holds other).snapshot] at shown
      exact (ih selected' busy unwritten shown).append [event]

/-! ## After the snapshot is written -/

/-- The call holds the session and has so many steps left. -/
structure Leaves (w : World) (number : Nat) (id : String) (s : Session) (left : Nat) : Prop where
  call : ∃ task sweep phase, w.calls[number]? = some (.working id task sweep phase) ∧
    phase.stepsLeft = left
  taken : w.registry.cells.find? id = some ⟨s, true⟩

/-- The operation under way on the session has done all to it that it does: the session stays as given
until the lock is back, and the worker can give it back by steps of its own. -/
structure Finishes (w : World) (id : String) (s : Session) : Prop where
  stays : ∀ later, (w.run later).registry.live? id = some s ∨ w.Completes later id s
  ends : ∃ number steps, ∀ now, w.Completes (List.replicate steps (.step number now)) id s

namespace Leaves

variable {number left : Nat}

/-- None of the steps changes the session, and the last one gives the lock back. -/
theorem step (leaves : w.Leaves number id s (left + 1)) (now : Instant) :
    (left = 0 ∧ (w.step (.step number now)).registry.cells.find? id = some ⟨s, false⟩) ∨
    ∃ left', left = left' + 1 ∧ (w.step (.step number now)).Leaves number id s left := by
  obtain ⟨⟨task, sweep, phase, selected, count⟩, taken⟩ := leaves
  have live := Registry.live?_of_find? taken
  have called (c : Call) : (w.calls.set number c)[number]? = some c :=
    List.getElem?_set_self (List.getElem?_eq_some_iff.mp selected).1
  rw [step_of_selected selected]
  cases phase with
  | waiting | locked | changed => cases count
  | written alert report =>
    cases count
    refine .inr ⟨1, rfl, ?_⟩
    simp only [Call.step, Call.workStep, live]
    exact ⟨⟨task, sweep, _, called _, rfl⟩, by rw [Registry.cells_releaseSlot, taken]⟩
  | settled alert report =>
    cases count
    exact .inr ⟨0, rfl, ⟨task, sweep, _, called _, rfl⟩, taken⟩
  | leaving report =>
    cases count
    refine .inl ⟨rfl, ?_⟩
    simp only [Call.step, Call.workStep, Service.free, Registry.unlock_of_find? taken]
    exact Registry.find?_setCell_self _ _ _

theorem other (leaves : w.Leaves number id s (left + 1)) (orderly : w.Orderly) {event : Event}
    (other : ∀ now, event ≠ .step number now) : (w.step event).Leaves number id s (left + 1) := by
  obtain ⟨⟨task, sweep, phase, selected, count⟩, taken⟩ := leaves
  have busy : phase ≠ .waiting := by
    rintro rfl
    cases count
  refine ⟨⟨task, sweep, phase, ?_, count⟩, ?_⟩
  · rcases calls_step selected event with stays | ⟨now, same, -⟩
    · exact stays
    · exact absurd same (other now)
  · rw [(orderly.agrees_of_holds selected (Call.holds?_working busy) other).cell, taken]

theorem completes (leaves : w.Leaves number id s (left + 1)) (now : Instant) :
    w.Completes (List.replicate (left + 1) (.step number now)) id s := by
  -- On the number of the steps left.
  induction left generalizing w with
  | zero =>
    rcases leaves.step now with ⟨-, free⟩ | ⟨left', same, -⟩
    · change w.Completes ([] ++ [.step number now]) id s
      refine .last (fun t free' => ?_) free
      rw [show w.run [] = w from rfl, leaves.taken] at free'
      cases free'
    · cases same
  | succ left ih =>
    rcases leaves.step now with ⟨same, -⟩ | ⟨-, -, next⟩
    · cases same
    · exact (ih next).cons

theorem leaves_or_completes (leaves : w.Leaves number id s (left + 1))
    (reachable : Reachable settings w) (later : List Event) :
    (∃ left, (w.run later).Leaves number id s (left + 1)) ∨ w.Completes later id s := by
  induction later using List.reverseRecOn with
  | nil => exact .inl ⟨left, leaves⟩
  | append_singleton later event ih =>
    rcases ih with ⟨left, leaves⟩ | completes
    · by_cases own : ∃ now, event = .step number now
      · obtain ⟨now, rfl⟩ := own
        rcases leaves.step now with ⟨-, free⟩ | ⟨left', rfl, next⟩
        · refine .inr (.last (fun t free' => ?_) free)
          rw [leaves.taken] at free'
          cases free'
        · rw [run_append]
          exact .inl ⟨left', next⟩
      · rw [run_append]
        exact .inl ⟨left, leaves.other (reachable.run later).orderly
          fun now same => own ⟨now, same⟩⟩
    · exact .inr (completes.append [event])

theorem finishes (leaves : w.Leaves number id s (left + 1)) (reachable : Reachable settings w) :
    w.Finishes id s := by
  refine ⟨?_, number, left + 1, leaves.completes⟩
  intro later
  rcases leaves.leaves_or_completes reachable later with ⟨left', still⟩ | completes
  · exact .inl (Registry.live?_of_find? still.taken)
  · exact .inr completes

end Leaves

/-- What a snapshot shows is the session at the end of an operation, which has come or is certain. -/
theorem completes_or_finishes_of_shown (settings : Settings) (events : List Event)
    (shown : ((begin settings).run events).registry.snapshot? id = some t) :
    (begin settings).Completes events id t ∨ ((begin settings).run events).Finishes id t := by
  have reachable : Reachable settings ((begin settings).run events) := ⟨events, rfl⟩
  have orderly := reachable.orderly
  obtain ⟨s, live⟩ := Option.isSome_iff_exists.mp (reachable.traced.shown id (by rw [shown]; rfl))
  obtain ⟨held, found⟩ := Registry.live?_eq_some_iff.mp live
  cases held with
  | false =>
    rw [(orderly.settled id s found).snapshot, live] at shown
    cases shown
    exact .inl (completes_of_free settings events found)
  | true =>
    obtain ⟨number, c, selected, holds⟩ := reachable.attended id s found
    obtain ⟨task, sweep, phase, rfl, busy⟩ := Call.working_of_holds? holds
    obtain ⟨u, taken, live', -, restored⟩ := orderly.found selected busy
    cases left : phase.stepsLeft with
    | zero => exact .inl (completes_of_unwritten settings events selected busy left shown)
    | succ left' =>
      rw [restored.shown left, live'] at shown
      cases shown
      exact .inr (Leaves.finishes ⟨⟨task, sweep, phase, selected, left⟩, taken⟩ reachable)

end World

/-! ## Sessions and lists -/

/-- A page has no items but those that it is made from. -/
theorem Listing.mem_of_page {items : List (Summary Float)} {q : Query} {p : Page Float}
    (made : page items q = .ok p) {item : Summary Float} (member : item ∈ p.items) :
    item ∈ items := by
  simp only [page, bind, Except.bind] at made
  split at made
  · cases made
  · split at made
    · cases made
    · cases made
      have sorted := List.mem_of_mem_drop (List.mem_of_mem_take member)
      exact (List.mem_filter.mp ((Sorting.sort_perm _ _).mem_iff.mp sorted)).1

namespace World

variable {settings : Settings} {w : World}

/-- Who asks for a list is shown what those are shown who ask for its sessions. -/
theorem Reachable.list_eq (reachable : Reachable settings w) {assignmentId : String}
    {q : Listing.Query} {p : Listing.Page Float} (listed : w.service.list assignmentId q = .ok p)
    {item : Summary Float} (member : item ∈ p.items) :
    ∃ t, item = t.summary ∧ t.assignmentId = assignmentId ∧ w.service.session t.id = .ok t := by
  have listed' := Listing.mem_of_page listed member
  rw [Registry.summariesFor, List.mem_map] at listed'
  obtain ⟨t, chosen, rfl⟩ := listed'
  obtain ⟨shown, own⟩ := List.mem_filter.mp chosen
  obtain ⟨⟨id, t⟩, entry, rfl⟩ := List.mem_map.mp shown
  have distinct : w.registry.snapshots.keys.Nodup := by
    rw [reachable.orderly.numbered.snapshots]
    exact reachable.orderly.numbered.nodup
  have found : w.registry.snapshot? id = some t := Keyed.find?_of_mem distinct entry
  refine ⟨t, rfl, of_decide_eq_true own, ?_⟩
  rw [reachable.traced.shown_named found, Service.session, found]

/-- What a reader is shown is a session at the end of an operation on it, or as it was put in. If that
operation is still under way, it has nothing left to do to the session. -/
structure ReadsWhole (settings : Settings) (events : List Event) : Prop where
  session : ∀ id t, ((begin settings).run events).service.session id = .ok t →
    (begin settings).Completes events id t ∨ ((begin settings).run events).Finishes id t
  list : ∀ assignmentId q page,
    ((begin settings).run events).service.list assignmentId q = .ok page → ∀ item ∈ page.items,
    ∃ t, item = t.summary ∧ t.assignmentId = assignmentId ∧
      ((begin settings).run events).service.session t.id = .ok t

theorem readsWhole (settings : Settings) (events : List Event) : ReadsWhole settings events := by
  constructor
  · intro id t found
    unfold Service.session at found
    split at found
    · rename_i shown
      cases found
      exact completes_or_finishes_of_shown settings events shown
    · cases found
  · intro assignmentId q page listed item member
    exact Reachable.list_eq ⟨events, rfl⟩ listed member

end World

end OralExam
