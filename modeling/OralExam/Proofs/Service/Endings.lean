import OralExam.Proofs.Service.Work
import OralExam.Proofs.Session.Ending

/-! Sessions that have ended, however calls come.

A session that has ended keeps all but its review, which is that of the latest review accepted for it.
Whoever comes too late is turned away: a call that has not been at work on the session by then never
comes to anything but a refusal.
-/

set_option autoImplicit false

namespace OralExam

/-! ## What is kept -/

/-- Sessions that have ended are the same afterwards, but for their reviews. -/
def Registry.KeepsEnded (r r' : Registry) : Prop :=
  ∀ id s, s.status.isTerminal →
    (r.live? id = some s → ∃ review, r'.live? id = some { s with review }) ∧
    (r.snapshot? id = some s → ∃ review, r'.snapshot? id = some { s with review })

theorem Registry.Continues.keepsEnded {settings : Settings} {r r' : Registry}
    (continues : Continues settings r r') : r.KeepsEnded r' := by
  intro id s ended
  constructor
  · intro live
    obtain ⟨deeds, s', live', course⟩ := continues.live id s live
    exact ⟨s'.review, by rw [live', ← course.eq_of_ended ended]⟩
  · intro shown
    obtain ⟨deeds, s', shown', course⟩ := continues.shown id s shown
    exact ⟨s'.review, by rw [shown', ← course.eq_of_ended ended]⟩

theorem latestReview_accepted (history : List (String × Deed)) (id : String) :
    latestReview (deedsOf (accepted history) id) = latestReview (deedsOf history id) := by
  unfold latestReview
  rw [filterMap_deedsOf_accepted]
  intro deed idle
  obtain ⟨task, now, report⟩ := deed
  cases task with
  | review => exact Deed.review?_of_isRefusal (by simpa [Deed.isAccepted] using idle)
  | answer | endEarly | abandonIdle => rfl

/-! ## Calls that come too late -/

/-- The call is for a task that is too late, and is on its way to the report, or to being turned away
at the lock. -/
inductive Call.TooLate (id : String) (task : Task) (report : Report) : Call → Prop where
  | waiting : TooLate id task report (.working id task none .waiting)
  | locked : TooLate id task report (.working id task none .locked)
  | leaving : TooLate id task report (.working id task none (.leaving report))
  | refused : TooLate id task report (.done (.worked report))
  | busy (hurried : task.waits = false) :
      TooLate id task report (.done (.worked (task.refused (.busy id))))

theorem Call.TooLate.step {v : Service} {c : Call} {s : Session} {task : Task} {report : Report}
    (tooLate : c.TooLate s.id task report) (live : v.registry.live? s.id = some s)
    (ended : s.status.isTerminal) (late : task.tooLate? s.id s.status = some report)
    (now : Instant) : (c.step v now).call.TooLate s.id task report := by
  obtain ⟨held, found⟩ := Registry.live?_eq_some_iff.mp live
  cases tooLate with
  | waiting =>
    simp only [Call.step, workStep, Registry.lock, found]
    cases held with
    | false => exact .locked
    | true =>
      simp only [if_true]
      split
      · exact .waiting
      · rename_i hurried
        exact .busy (by simpa using hurried)
  | locked =>
    simp only [Call.step, workStep, live, Session.perform_of_ended ended late]
    exact .leaving
  | leaving => exact .refused
  | refused => exact .refused
  | busy hurried => exact .busy hurried

namespace World

variable {settings : Settings} {w : World}

/-- Calls that have not got the lock of a session when it ends, and are not for a review, only ever
come to a refusal; those that do not wait may also be turned away at the lock. -/
def TurnsAwayLate (w : World) : Prop :=
  ∀ id s, w.registry.live? id = some s → s.status.isTerminal →
  ∀ (number : Nat) (task : Task) (report : Report), task.tooLate? id s.status = some report →
    w.calls[number]? = some (.working id task none .waiting) →
  ∀ (later : List Event) (receipt : Receipt), (w.run later).calls[number]? = some (.done receipt) →
    receipt = .worked report ∨
      (task.waits = false ∧ receipt = .worked (task.refused (.busy id)))

theorem Reachable.turnsAwayLate (reachable : Reachable settings w) : w.TurnsAwayLate := by
  intro id s live ended number task report late selected later receipt done
  obtain rfl := reachable.orderly.numbered.named id s live
  have lasts (w : World) (event : Event) (reachable : Reachable settings w)
      (live : ∃ review, w.registry.live? s.id = some { s with review }) :
      ∃ review, (w.step event).registry.live? s.id = some { s with review } := by
    obtain ⟨review, live⟩ := live
    exact ((reachable.continues [event]).keepsEnded s.id { s with review } ended).1 live
  -- At every moment the session is there as it ended, and the call is on its way to the refusal.
  obtain ⟨c, selected', -, tooLate⟩ := reachable.calls_run
    (P := fun w c => (∃ review, w.registry.live? s.id = some { s with review }) ∧
      c.TooLate s.id task report)
    selected ⟨⟨s.review, live⟩, .waiting⟩
    (fun w c event reachable holds => ⟨lasts w event reachable holds.1, holds.2⟩)
    (fun w c now reachable _ holds => by
      obtain ⟨⟨review, live⟩, tooLate⟩ := holds
      exact ⟨lasts w _ reachable ⟨review, live⟩,
        Call.TooLate.step (s := { s with review }) tooLate live ended late now⟩)
    later
  rw [done] at selected'
  cases selected'
  cases tooLate with
  | refused => exact .inl rfl
  | busy hurried => exact .inr ⟨hurried, rfl⟩

/-- A review that a session does not accept leaves the service as it was, when the call is at work on
the session; what is left to do is to give the lock back. -/
def ChecksReviews (w : World) : Prop :=
  ∀ (number : Nat) id reviewer scoreOverride reason now s,
    w.calls[number]? = some (.working id (.review reviewer scoreOverride reason) none .locked) →
    w.registry.live? id = some s → ¬s.AcceptsReview reviewer scoreOverride →
    ∃ e, (w.step (.step number now)).service = w.service ∧
      (w.step (.step number now)).calls = w.calls.set number
        (.working id (.review reviewer scoreOverride reason) none (.leaving (.reviewed (.error e))))

theorem checksReviews (w : World) : w.ChecksReviews := by
  intro number id reviewer scoreOverride reason now s selected live refused
  obtain ⟨e, error⟩ := Session.reviewed_of_not_accepts refused reason now
  refine ⟨e, ?_⟩
  simp [step, selected, Call.step, Call.workStep, live, Task.perform, Session.takeReview, error,
    Handling.map]

/-- The review of a session is the latest one accepted; its snapshot may not have caught up. -/
structure Reviewed (w : World) : Prop where
  live : ∀ id s, w.registry.live? id = some s → s.review = latestReview (deedsOf w.history id)
  shown : ∀ id s, w.registry.snapshot? id = some s →
    ∃ deeds, deeds <+: deedsOf w.history id ∧ s.review = latestReview deeds

theorem Reachable.reviewed (reachable : Reachable settings w) : w.Reviewed := by
  have traced := reachable.traced
  constructor
  · intro id s live
    obtain ⟨s₀, opens, course⟩ := traced.live_course live
    exact course.review_eq opens
  · intro id t shown
    obtain ⟨s₀, earlier, later, s, opens, split, before, -, -⟩ := traced.shown_course shown
    exact ⟨earlier, ⟨later, split.symm⟩, before.review_eq opens⟩

end World

/-! ## Requests that come too late -/

namespace Service

/-- Whoever answers or ends a session that has ended, while nobody works on it, is told so, and
nothing changes. -/
def RefusesLate (v : Service) : Prop :=
  ∀ id s, v.registry.cells.find? id = some ⟨s, false⟩ → s.status.isTerminal → ∀ now,
    (∀ transcript similarity, ∃ e, e.kind = .invalidState ∧
      v.answer id transcript similarity now = (.error e, v)) ∧
    ∀ reason abandoned, ∃ e, e.kind = .invalidState ∧
      v.endSession id reason abandoned now = (.error e, v)

/-- A review is taken exactly if the session accepts it: then its five fields stand in the place of
the earlier ones, and otherwise nothing changes. -/
def JudgesReviews (v : Service) : Prop :=
  ∀ id s, v.registry.cells.find? id = some ⟨s, false⟩ → ∀ reviewer scoreOverride reason now,
    (s.AcceptsReview reviewer scoreOverride →
      (v.review id reviewer scoreOverride reason now).1 =
        .ok { s with review := ⟨true, some reviewer, some now, scoreOverride, reason⟩ } ∧
      (v.review id reviewer scoreOverride reason now).2.session id =
        .ok { s with review := ⟨true, some reviewer, some now, scoreOverride, reason⟩ }) ∧
    (¬s.AcceptsReview reviewer scoreOverride →
      ∃ e, v.review id reviewer scoreOverride reason now = (.error e, v))

variable {v : Service}

theorem refusesLate (named : ∀ id s, v.registry.live? id = some s → s.id = id) : v.RefusesLate := by
  intro id s free ended now
  obtain rfl := named id s (Registry.live?_of_find? free)
  have refused {task : Task} {report : Report} (late : task.tooLate? s.id s.status = some report) :
      v.carryOut now s.id task = (report, v) :=
    carryOut_of_leave free (Session.perform_of_ended ended late v.settings now)
  exact ⟨fun _ _ => ⟨_, rfl, answer_eq (refused rfl)⟩, fun _ _ => ⟨_, rfl, endSession_eq (refused rfl)⟩⟩

/-- A review that the session accepts is put into its cell and its snapshot. -/
theorem review_of_accepts {s : Session} (free : v.registry.cells.find? s.id = some ⟨s, false⟩)
    {reviewer : String} {scoreOverride : Option Float}
    (accepts : s.AcceptsReview reviewer scoreOverride) (reason : Option String) (now : Instant) :
    let reviewed := { s with review := ⟨true, some reviewer, some now, scoreOverride, reason⟩ }
    v.review s.id reviewer scoreOverride reason now = (.ok reviewed, { v with
      registry := (v.registry.sync reviewed).setCell s.id ⟨reviewed, false⟩ }) := by
  have taken := Session.reviewed_of_accepts accepts reason now
  have body : (Task.review reviewer scoreOverride reason).perform v.settings now s =
      .replace { s with review := ⟨true, some reviewer, some now, scoreOverride, reason⟩ } none
        (.reviewed (.ok
          { s with review := ⟨true, some reviewer, some now, scoreOverride, reason⟩ })) := by
    simp only [Task.perform, Session.takeReview, taken, Handling.map]
  have carried := carryOut_of_replace free body
  rw [Option.toList_none, List.append_nil] at carried
  exact review_eq carried

/-- A review that it does not accept changes nothing. -/
theorem review_of_not_accepts {s : Session} (free : v.registry.cells.find? s.id = some ⟨s, false⟩)
    {reviewer : String} {scoreOverride : Option Float}
    (refused : ¬s.AcceptsReview reviewer scoreOverride) (reason : Option String) (now : Instant) :
    ∃ e, v.review s.id reviewer scoreOverride reason now = (.error e, v) := by
  obtain ⟨e, error⟩ := Session.reviewed_of_not_accepts refused reason now
  have body : (Task.review reviewer scoreOverride reason).perform v.settings now s =
      .leave (.reviewed (.error e)) := by
    simp only [Task.perform, Session.takeReview, error, Handling.map]
  exact ⟨e, review_eq (carryOut_of_leave free body)⟩

theorem judgesReviews (named : ∀ id s, v.registry.live? id = some s → s.id = id) :
    v.JudgesReviews := by
  intro id s free reviewer scoreOverride reason now
  obtain rfl := named id s (Registry.live?_of_find? free)
  constructor
  · intro accepts
    rw [review_of_accepts free accepts]
    refine ⟨rfl, ?_⟩
    simp only [session]
    rw [Registry.snapshot?_setCell, Registry.snapshot?_sync, if_pos rfl]
  · intro refused
    exact review_of_not_accepts free refused reason now

end Service

namespace World

/-- A session that has ended keeps all but its review; answers and ends come too late for it, however
their steps come among those of other calls; and its review is the latest one accepted. -/
theorem ended_sessions_sealed (settings : Settings) (events : List Event)
    (requests : List (Request × Instant)) :
    let w := (begin settings).run events
    let v := (Service.ofSettings settings).run requests
    ((∀ later, w.registry.KeepsEnded (w.run later).registry) ∧ w.TurnsAwayLate ∧ w.ChecksReviews ∧
      w.Reviewed ∧ w.service.RefusesLate ∧ w.service.JudgesReviews) ∧
    (∀ later, v.registry.KeepsEnded (v.run later).registry) ∧ v.RefusesLate ∧ v.JudgesReviews ∧
    ∀ id s, (v.registry.live? id = some s ∨ v.registry.snapshot? id = some s) →
      s.review = latestReview (deedsOf ((Service.ofSettings settings).deeds requests) id) := by
  have reachable : Reachable settings ((begin settings).run events) := ⟨events, rfl⟩
  have named := reachable.orderly.numbered.named
  refine ⟨⟨fun later => (reachable.continues later).keepsEnded, reachable.turnsAwayLate,
    checksReviews _, reachable.reviewed, Service.refusesLate named, Service.judgesReviews named⟩, ?_⟩
  obtain ⟨w, served, same, idle, told⟩ := reachable_run_accepted settings requests
  have named' := served.orderly.numbered.named
  rw [← same]
  refine ⟨?_, Service.refusesLate named', Service.judgesReviews named', ?_⟩
  · intro later
    obtain ⟨events', after⟩ := w.serve_run idle later
    rw [← after]
    exact (served.continues events').keepsEnded
  · intro id s found
    have live : w.registry.live? id = some s := by
      rcases found with live | shown
      · exact live
      · exact (served.snapshot?_eq idle id).symm.trans shown
    rw [served.reviewed.live id s live, ← latestReview_accepted, told, latestReview_accepted]

end World

end OralExam
