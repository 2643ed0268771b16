import OralExam.Proofs.Dashboard
import OralExam.Proofs.Service.Exclusivity
import OralExam.Proofs.Service.Measures
import OralExam.Proofs.Session.Flagging

/-! The dashboards of the service.

A dashboard is made from the snapshots of an assignment. Whatever course the service has taken, they
show sessions that go on or are decided, and one at most that goes on for each student, so the figures
agree; and where answers are scored with shares of one, the rates are shares of one.
-/

set_option autoImplicit false

namespace OralExam

open Double

namespace Session

variable {settings : Settings} {s : Session}

theorem Reached.presentable (reached : Reached settings s) : s.Presentable := by
  have replayed := reached.replayed
  refine ⟨?_, ?_, ?_⟩
  · rw [reached.proper.isTerminal_iff]
    exact Decidable.em _
  · intro flagged
    by_contra going
    rw [reached.flaggedAtEnd.going going] at flagged
    cases flagged
  · intro ended
    obtain ⟨now, -, -, score, -, passed, -⟩ := replayed.decided ended
    rw [score, passed]
    exact ⟨rfl, rfl⟩

/-! ## Overrides -/

/-- An instructor's score is a share of one. -/
def OverrideFits (s : Session) : Prop := ∀ x, s.review.scoreOverride = some x → isShare x

theorem OverrideFits.perform (fits : s.OverrideFits) (settings : Settings) (task : Task)
    (now : Instant) : ((task.perform settings now s).session s).OverrideFits := by
  have same := (perform_step settings s task now).review_eq
  cases task with
  | answer | endEarly | abandonIdle =>
    rw [OverrideFits, same]
    exact fits
  | review reviewer scoreOverride reason =>
    intro x given
    simp only [Task.perform, Handling.session_map, takeReview] at given
    split at given
    · exact fits x given
    · rename_i s' outcome
      by_cases accepts : s.AcceptsReview reviewer scoreOverride
      · rw [reviewed_of_accepts accepts] at outcome
        cases outcome
        exact accepts.2.2 x given
      · obtain ⟨e, refused⟩ := reviewed_of_not_accepts accepts reason now
        rw [refused] at outcome
        cases outcome

theorem Reached.sharedScore (reached : Reached settings s) (graded : s.Graded)
    (fits : s.OverrideFits) : s.SharedScore := by
  intro x given
  cases override : s.review.scoreOverride with
  | some score =>
    rw [override] at given
    cases given
    exact between_of_isShare (fits x override)
  | none =>
    rw [override] at given
    exact reached.score_between graded given

end Session

/-! ## Sessions of an assignment -/

/-- The sessions of an assignment, as their snapshots show them. -/
def Registry.sessionsOf (r : Registry) (assignmentId : String) : List Session :=
  r.snapshots.values.filter (·.assignmentId = assignmentId)

namespace World

variable {settings : Settings} {w : World}

theorem Reachable.mem_sessionsOf_iff (reachable : Reachable settings w) {assignmentId : String}
    {s : Session} : s ∈ w.registry.sessionsOf assignmentId ↔
      w.registry.snapshot? s.id = some s ∧ s.assignmentId = assignmentId := by
  rw [Registry.sessionsOf, List.mem_filter, Keyed.mem_values_iff reachable.keys_nodup,
    decide_eq_true_iff]
  refine and_congr_left fun _ => ⟨?_, fun shown => ⟨s.id, shown⟩⟩
  rintro ⟨id, shown⟩
  exact (reachable.traced.shown_named shown).symm ▸ shown

/-- No student has two sessions of an assignment that go on. -/
theorem Reachable.going_nodup (reachable : Reachable settings w) (assignmentId : String) :
    (((w.registry.sessionsOf assignmentId).filter (·.status = .inProgress)).map
      Session.studentId).Nodup := by
  have distinct : w.registry.snapshots.values.Nodup := reachable.nodup_ids.of_map Session.id
  refine List.Nodup.map_on ?_ ((distinct.filter _).filter _)
  intro s first t second same
  obtain ⟨member, going⟩ := List.mem_filter.mp first
  obtain ⟨member', going'⟩ := List.mem_filter.mp second
  obtain ⟨shown, own⟩ := reachable.mem_sessionsOf_iff.mp member
  obtain ⟨shown', own'⟩ := reachable.mem_sessionsOf_iff.mp member'
  have isOpen : w.registry.IsOpen s.pair s.id :=
    ⟨s, .inr shown, rfl, by simp [of_decide_eq_true going, Status.isTerminal]⟩
  have isOpen' : w.registry.IsOpen s.pair t.id :=
    ⟨t, .inr shown', Prod.ext same.symm (own'.trans own.symm),
      by simp [of_decide_eq_true going', Status.isTerminal]⟩
  rw [reachable.exclusive.single s.pair s.id t.id isOpen isOpen'] at shown
  exact Option.some.inj (shown.symm.trans shown')

theorem Reachable.overrideFits (reachable : Reachable settings w) :
    w.registry.Every Session.OverrideFits := by
  refine reachable.step_induction (P := fun w => w.registry.Every Session.OverrideFits) (.empty _)
    (fun w request _ every => every) ?_
  intro w number c now _ every selected
  refine Call.every_step every ?_ ?_
  · intro assignment studentId rubric chosen _ x given
    cases given
  · intro id task sweep s _ fits
    exact fits.perform w.service.settings task now

theorem Reachable.presentable (reachable : Reachable settings w) {assignmentId : String} :
    ∀ s ∈ w.registry.sessionsOf assignmentId, s.Presentable := by
  intro s member
  have shown := (reachable.mem_sessionsOf_iff.mp member).1
  exact (reachable.traced.reached s.id s (.inr shown)).presentable

end World

namespace Service

/-- The figures of every dashboard agree with each other, and its rates are shares of one. -/
def PresentsSoundly (grading : GradingPolicy) (v : Service) : Prop :=
  ∀ assignmentId roster,
    (v.dashboard assignmentId roster).Consistent grading (v.registry.sessionsOf assignmentId) roster ∧
    (v.dashboard assignmentId roster).Shared

end Service

namespace World

variable {settings : Settings} {w : World}

theorem Reachable.consistent (reachable : Reachable settings w) (assignmentId : String)
    (roster : Option Nat) :
    (w.service.dashboard assignmentId roster).Consistent settings.grading
      (w.registry.sessionsOf assignmentId) roster := by
  unfold Service.dashboard
  rw [reachable.supplied.settings]
  exact Dashboard.consistent_build (fun s => reachable.presentable s)
    (reachable.going_nodup assignmentId) _ _ settings.grading roster

theorem Reachable.presentsSoundly (reachable : Reachable settings w)
    (graded : w.service.Graded settings) : w.service.PresentsSoundly settings.grading := by
  intro assignmentId roster
  have shared : ∀ s ∈ w.registry.sessionsOf assignmentId, s.SharedScore := by
    intro s member
    have shown : w.registry.live? s.id = some s ∨ w.registry.snapshot? s.id = some s :=
      .inr (reachable.mem_sessionsOf_iff.mp member).1
    exact (reachable.traced.reached s.id s shown).sharedScore (graded.sessions s.id s shown)
      (reachable.overrideFits s.id s shown)
  exact ⟨reachable.consistent assignmentId roster, Dashboard.shared_build shared _ _ _ roster⟩

/-- With answers scored by shares of one, and with rubrics whose sizes fit into machine words: in every
run the figures of every dashboard agree with each other, and with the roster as long as 32 bits are
enough for the students; and its rates are shares of one, as long as 64 bits are for the sessions. -/
theorem dashboards_consistent (settings : Settings) (fair : settings.ScoresFairly)
    (rubrics : ∀ r ∈ settings.rubrics, r.InWords) (events : List Event)
    (called : ∀ request, .call request ∈ events → request.InWords)
    (requests : List (Request × Instant)) (requested : ∀ r ∈ requests, r.1.InWords) :
    let w := (begin settings).run events
    let v := (Service.ofSettings settings).run requests
    w.service.PresentsSoundly settings.grading ∧ v.PresentsSoundly settings.grading :=
  graded_runs (fun _ reachable graded => reachable.presentsSoundly graded) fair rubrics called
    requested

/-- Two students start, one submits at once, and is reviewed. -/
theorem usual_dashboards_consistent :
    let events : List Event :=
      [.call (.start "demo-assignment" "ada"), .step 0 ⟨0⟩, .step 0 ⟨0⟩, .step 0 ⟨0⟩]
    let requests : List (Request × Instant) :=
      [(.start "demo-assignment" "ada", ⟨0⟩), (.start "demo-assignment" "ben", ⟨0⟩),
        (.endSession "session-0001" none false, ⟨1⟩),
        (.review "session-0001" "prof" (some 0.5) none, ⟨2⟩)]
    let w := (begin {}).run events
    let v := (Service.ofSettings {}).run requests
    ({} : Settings).ScoresFairly ∧ (∀ request, .call request ∈ events → request.InWords) ∧
    (∀ r ∈ requests, r.1.InWords) ∧
    (w.service.dashboard "demo-assignment" none).statusOverview.inProgress = 1 ∧
    (v.dashboard "demo-assignment" (some 3)).statusOverview.notStarted = some 1 ∧
    (v.dashboard "demo-assignment" (some 3)).quickStats.averageScore = some 0.5 ∧
    w.service.PresentsSoundly {} ∧ v.PresentsSoundly {} := by
  intro events requests w v
  have called : ∀ request, .call request ∈ events → request.InWords := by
    intro request member
    apply Request.inWords_of_ne
    rintro r rfl
    simp [events] at member
  have requested : ∀ r ∈ requests, r.1.InWords := by
    intro r member
    apply Request.inWords_of_ne
    intro rubric same
    simp only [requests, List.mem_cons, List.not_mem_nil, or_false] at member
    grind
  have fair := Settings.usual_scoresFairly
  exact ⟨fair, called, requested, by decide +kernel, by decide +kernel, by decide +kernel,
    dashboards_consistent {} fair (by simp) events called requests requested⟩

end World

end OralExam
