import OralExam.Proofs.Dashboard.Unordered
import OralExam.Proofs.Service.Dashboards
import OralExam.Proofs.Service.Endings

/-! Scores that an instructor puts in the place of computed ones.

They pass by the mark that computed ones pass by, and leave the verdict alone. So an override that
equals the computed score makes no difference to any dashboard, but that the session was reviewed. It is
written to the map of sessions, though, which may then have them in another order: the averages are
rounded in that order, and apart from the rounding they are the same too.
-/

set_option autoImplicit false

namespace OralExam

open Double
open scoped Exact

/-! ## What a dashboard takes from a session -/

section

variable {settings : Settings} {s : Session}

theorem Session.passed_ofSession (settings : Settings) (s : Session) (now : Instant) :
    (Verdict.ofSession settings.grading settings.scoring s now).passed =
      Verdict.passes settings.grading
        (Verdict.ofSession settings.grading settings.scoring s now).overallScore := by
  rfl

/-- The mark of a session that has ended is that of its score. -/
theorem Session.Reached.passed_eq (reached : Reached settings s) (ended : s.status.isTerminal) :
    ∃ score, s.overallScore = some score ∧
      s.passed = some (Verdict.passes settings.grading score) := by
  obtain ⟨now, -, -, score, -, passed, -⟩ := reached.replayed.decided ended
  exact ⟨_, score, passed⟩

/-- With its own score for an override the session looks as it does without. -/
theorem Session.figure_reviewed {grading : GradingPolicy} {score : Float}
    (computed : s.overallScore = some score)
    (passed : s.passed = some (Verdict.passes grading score))
    (plain : s.review.scoreOverride = none) (review : Review)
    (own : review.scoreOverride = some score) :
    ({ s with review } : Session).summary.figure grading.passingPercentage =
      s.summary.figure grading.passingPercentage := by
  simp only [Summary.figure, Summary.effectiveScore, Summary.effectivePass, Session.summary, own,
    plain, computed, passed, Verdict.passes, Verdict.literal_hundred]
  rfl

end

namespace Registry

variable {r : Registry}

theorem snapshots_sync (r : Registry) (s : Session) :
    (r.sync s).snapshots = r.snapshots.put s.id s := by
  simp only [sync, releaseSlot, writeSnapshot]
  split
  · rfl
  · split <;> rfl

/-- What is taken from the sessions of an assignment, when one of them is written that looks the same. -/
theorem map_summariesFor_sync {β : Type} (f : Summary Float → β) {s : Session} (s' : Session)
    (shown : r.snapshot? s'.id = some s) (assignment : s'.assignmentId = s.assignmentId)
    (same : f s'.summary = f s.summary) (assignmentId : String) :
    ((r.sync s').summariesFor assignmentId).map f = (r.summariesFor assignmentId).map f := by
  have taken (r : Registry) : (r.summariesFor assignmentId).map f =
      ((r.snapshots.values.map fun s => (s.assignmentId, f s.summary)).filter
        (·.1 = assignmentId)).map Prod.snd := by
    simp [summariesFor, List.filter_map, Function.comp_def]
  rw [taken, taken, snapshots_sync, Keyed.map_values_put _ shown (by rw [assignment, same])]

end Registry

namespace Service

/-- The dashboard of an assignment whose sessions come in this order. -/
def dashboardOn (v : Service) (assignmentId : String) (roster : Option Nat)
    (sessions : List (Summary Float)) : Dashboard Float :=
  .build (v.settings.assignment assignmentId) (v.bank.activeFor assignmentId) sessions roster
    v.settings.grading.passingPercentage

/-- The same in exact arithmetic, on real numbers that the doubles stand for. -/
noncomputable def exactDashboardOn (value : Float → ℝ) (v : Service) (assignmentId : String)
    (roster : Option Nat) (sessions : List (Summary Float)) : Dashboard ℝ :=
  .build (v.settings.assignment assignmentId) (v.bank.activeFor assignmentId)
    (sessions.map (Summary.map value)) roster (value v.settings.grading.passingPercentage)

/-- Two services show the same of an assignment but for the reviews that are missing, where they have its
sessions in these orders. -/
structure ShowsAlike (v v' : Service) (assignmentId : String) (roster : Option Nat)
    (sessions sessions' : List (Summary Float)) : Prop where
  /-- All figures but the averages are the same as they are computed. -/
  figures : ∃ pendingReview averageScore averageTheta,
    v'.dashboardOn assignmentId roster sessions' =
      { v.dashboardOn assignmentId roster sessions with quickStats :=
        { (v.dashboardOn assignmentId roster sessions).quickStats with
          pendingReview, averageScore, averageTheta } }
  /-- The averages are the same in exact arithmetic, whatever numbers the doubles stand for. -/
  averages : ∀ value : Float → ℝ,
    (v'.exactDashboardOn value assignmentId roster sessions').quickStats.averageScore =
      (v.exactDashboardOn value assignmentId roster sessions).quickStats.averageScore ∧
    (v'.exactDashboardOn value assignmentId roster sessions').quickStats.averageTheta =
      (v.exactDashboardOn value assignmentId roster sessions).quickStats.averageTheta
  /-- In the same order they are the same as they are computed. -/
  inOrder : sessions'.map Summary.id = sessions.map Summary.id →
    (v'.dashboardOn assignmentId roster sessions').quickStats.averageScore =
      (v.dashboardOn assignmentId roster sessions).quickStats.averageScore ∧
    (v'.dashboardOn assignmentId roster sessions').quickStats.averageTheta =
      (v.dashboardOn assignmentId roster sessions).quickStats.averageTheta

/-- What overrides do, to sessions that nobody works on, and what they leave alone. -/
structure TakesOverrides (settings : Settings) (v : Service) : Prop where
  /-- The computed score for an override makes no difference but that the session is reviewed, in
  whatever orders the sessions of an assignment come before and after the review. -/
  own : ∀ id s, v.registry.cells.find? id = some ⟨s, false⟩ → s.status.isTerminal →
    s.review.scoreOverride = none → ∃ score, s.overallScore = some score ∧
    ∀ reviewer, Text.isBlank reviewer = false → ∀ reason now, ∃ s' v',
      v.review id reviewer (some score) reason now = (.ok s', v') ∧
      s'.review.scoreOverride = some score ∧
      ∀ assignmentId roster sessions sessions',
        sessions.Perm (v.registry.summariesFor assignmentId) →
        sessions'.Perm (v'.registry.summariesFor assignmentId) →
        v.ShowsAlike v' assignmentId roster sessions sessions'
  /-- An override counts as passed if a verdict with that score would pass. -/
  counted : ∀ id s, v.registry.cells.find? id = some ⟨s, false⟩ → s.status.isTerminal →
    ∀ reviewer score reason now s' v', v.review id reviewer (some score) reason now = (.ok s', v') →
      s' ∈ v'.registry.sessionsOf s.assignmentId ∧ s'.status.isTerminal ∧
      s'.passesReviewed settings.grading = Verdict.passes settings.grading score ∧
      (∀ t moment, (Verdict.ofSession settings.grading settings.scoring t moment).overallScore =
        score → (Verdict.ofSession settings.grading settings.scoring t moment).passed =
          s'.passesReviewed settings.grading) ∧
      ∀ roster, (v'.dashboard s.assignmentId roster).quickStats.passRate =
        some (Float.ofNat ((v'.registry.sessionsOf s.assignmentId).countP fun t =>
          t.status.isTerminal && t.passesReviewed settings.grading) /
          Float.ofNat ((v'.registry.sessionsOf s.assignmentId).countP (·.status.isTerminal)))
  /-- Reviews change nothing of a session but its review. -/
  kept : ∀ id reviewer scoreOverride reason now s,
    (v.registry.live? id = some s → ∃ review,
      (v.review id reviewer scoreOverride reason now).2.registry.live? id =
        some { s with review }) ∧
    (v.registry.snapshot? id = some s → ∃ review,
      (v.review id reviewer scoreOverride reason now).2.registry.snapshot? id =
        some { s with review })

variable {v : Service} {s : Session}

/-- Where the sessions look alike, the dashboards do. -/
theorem showsAlike_of_lookAlike {r : Registry} {assignmentId : String}
    {sessions sessions' : List (Summary Float)}
    (alike : LookAlike v.settings.grading.passingPercentage sessions sessions')
    (distinct : (sessions.map Summary.id).Nodup) (roster : Option Nat) :
    v.ShowsAlike { v with registry := r } assignmentId roster sessions sessions' where
  figures := ⟨_, _, _, alike.build_eq distinct _ _ roster⟩
  averages := alike.averages_eq
  inOrder := by
    intro order
    have same := Dashboard.build_congr (alike.map_eq distinct order)
      (v.settings.assignment assignmentId) (v.bank.activeFor assignmentId) roster
    exact ⟨congrArg (·.quickStats.averageScore) same, congrArg (·.quickStats.averageTheta) same⟩

theorem review_snd (v : Service) (id reviewer : String) (scoreOverride : Option Float)
    (reason : Option String) (now : Instant) :
    (v.review id reviewer scoreOverride reason now).2 =
      (v.carryOut now id (.review reviewer scoreOverride reason)).2 := by
  have served : v.perform now (.review id reviewer scoreOverride reason) = _ :=
    perform_of_job rfl v now
  exact congrArg Prod.snd served

/-- A review leaves all of a session but its review as it was. -/
theorem review_keeps (named : ∀ id s, v.registry.live? id = some s → s.id = id)
    (settled : ∀ id s, v.registry.cells.find? id = some ⟨s, false⟩ →
      v.registry.snapshot? id = some s)
    (id reviewer : String) (scoreOverride : Option Float) (reason : Option String) (now : Instant)
    (s : Session) :
    (v.registry.live? id = some s → ∃ review,
      (v.review id reviewer scoreOverride reason now).2.registry.live? id =
        some { s with review }) ∧
    (v.registry.snapshot? id = some s → ∃ review,
      (v.review id reviewer scoreOverride reason now).2.registry.snapshot? id =
        some { s with review }) := by
  rw [review_snd]
  rcases v.carryOut_cases now id (.review reviewer scoreOverride reason) with
    ⟨-, same⟩ | ⟨t, t', alert, report, free, body, carried⟩
  · rw [same]
    exact ⟨fun live => ⟨s.review, live⟩, fun shown => ⟨s.review, shown⟩⟩
  · rw [carried]
    have live := Registry.live?_of_find? free
    obtain rfl := named id t live
    have step := Session.step_of_replace body
    have only : ∃ review, t' = { t with review } := by
      cases step with
      | refused => exact ⟨t.review, rfl⟩
      | reviewed ended done => exact ⟨_, done⟩
    obtain ⟨review, rfl⟩ := only
    constructor
    · intro live'
      rw [live] at live'
      cases live'
      exact ⟨review, Registry.live?_of_find? (Registry.find?_setCell_self _ _ _)⟩
    · intro shown
      rw [settled t.id t free] at shown
      cases shown
      refine ⟨review, ?_⟩
      rw [Registry.snapshot?_setCell, Registry.snapshot?_sync, if_pos rfl]

end Service

namespace World

variable {settings : Settings} {w : World}

/-- The review of a session that nobody works on is one course of events. -/
theorem Reachable.review (reachable : Reachable settings w) {id : String} {s : Session}
    (free : w.registry.cells.find? id = some ⟨s, false⟩) (reviewer : String)
    (scoreOverride : Option Float) (reason : Option String) (now : Instant) :
    ∃ w', Reachable settings w' ∧
      w'.service = (w.service.review id reviewer scoreOverride reason now).2 := by
  -- The review is one more call, all of whose steps are taken at once.
  let request : Request := .review id reviewer scoreOverride reason
  have unheld : ∀ cell, w.service.registry.cells.find? id = some cell → cell.held = false := by
    intro cell found
    rw [free] at found
    cases found
    rfl
  obtain ⟨log, runs, -⟩ := Call.work_runs now (.review reviewer scoreOverride reason) none unheld
  have selected : (w.calls ++ [request.call w.service.settings])[w.calls.length]? =
      some (request.call w.service.settings) := by simp
  obtain ⟨events, after⟩ := runs.world selected w.history
  have called : w.run (.call request :: events) = _ := after
  refine ⟨w.run (.call request :: events), reachable.run _, ?_⟩
  rw [called]
  exact (w.service.review_snd id reviewer scoreOverride reason now).symm

theorem Reachable.nodup_summariesFor (reachable : Reachable settings w) (assignmentId : String) :
    ((w.registry.summariesFor assignmentId).map Summary.id).Nodup := by
  rw [Registry.summariesFor, List.map_map]
  exact reachable.nodup_ids.sublist (List.filter_sublist.map _)

/-- An override that equals the computed score is accepted, and shows on no dashboard. -/
theorem Reachable.own_override (reachable : Reachable settings w)
    (graded : w.service.Graded settings) {s : Session}
    (free : w.registry.cells.find? s.id = some ⟨s, false⟩) (ended : s.status.isTerminal)
    (plain : s.review.scoreOverride = none) :
    ∃ score, s.overallScore = some score ∧
    ∀ reviewer, Text.isBlank reviewer = false → ∀ reason now, ∃ s' v',
      w.service.review s.id reviewer (some score) reason now = (.ok s', v') ∧
      s'.review.scoreOverride = some score ∧
      ∀ assignmentId roster sessions sessions',
        sessions.Perm (w.registry.summariesFor assignmentId) →
        sessions'.Perm (v'.registry.summariesFor assignmentId) →
        w.service.ShowsAlike v' assignmentId roster sessions sessions' := by
  have live := Registry.live?_of_find? free
  have shown := (reachable.orderly.settled s.id s free).snapshot.trans live
  have reached := reachable.traced.reached s.id s (.inl live)
  obtain ⟨score, computed, passed⟩ := reached.passed_eq ended
  have share := reached.score_between (graded.sessions s.id s (.inl live)) computed
  refine ⟨score, computed, ?_⟩
  intro reviewer signed reason now
  have accepts : s.AcceptsReview reviewer (some score) := by
    refine ⟨ended, signed, ?_⟩
    rintro x ⟨⟩
    exact Session.isShare_of_between share
  let reviewed : Session :=
    { s with review := ⟨true, some reviewer, some now, some score, reason⟩ }
  refine ⟨reviewed, _, Service.review_of_accepts free accepts reason now, rfl, ?_⟩
  intro assignmentId roster sessions sessions' before after
  -- Dashboards take the mark from the service, verdicts from the settings that it started with.
  rw [← reachable.supplied.settings] at passed
  have same : reviewed.summary.figure w.service.settings.grading.passingPercentage =
      s.summary.figure w.service.settings.grading.passingPercentage :=
    Session.figure_reviewed computed passed plain _ rfl
  have alike : LookAlike w.service.settings.grading.passingPercentage sessions sessions' := by
    have looks := Registry.map_summariesFor_sync _ reviewed shown rfl same assignmentId
    exact (after.map _).trans (looks ▸ (before.map _).symm)
  have distinct := (before.map Summary.id).nodup_iff.mpr (reachable.nodup_summariesFor assignmentId)
  exact Service.showsAlike_of_lookAlike alike distinct roster

/-- A session with an override counts as passed if the override passes. -/
theorem Reachable.counted_override (reachable : Reachable settings w) {s s' : Session} {v' : Service}
    (free : w.registry.cells.find? s.id = some ⟨s, false⟩) {reviewer : String} {score : Float}
    {reason : Option String} {now : Instant}
    (taken : w.service.review s.id reviewer (some score) reason now = (.ok s', v')) :
    s' ∈ v'.registry.sessionsOf s.assignmentId ∧ s'.status.isTerminal ∧
    s'.passesReviewed settings.grading = Verdict.passes settings.grading score ∧
    ∀ roster, (v'.dashboard s.assignmentId roster).quickStats.passRate =
      some (Float.ofNat ((v'.registry.sessionsOf s.assignmentId).countP fun t =>
        t.status.isTerminal && t.passesReviewed settings.grading) /
        Float.ofNat ((v'.registry.sessionsOf s.assignmentId).countP (·.status.isTerminal))) := by
  -- Only a review that is accepted gives back a session.
  have accepts : s.AcceptsReview reviewer (some score) := by
    by_contra refused
    obtain ⟨e, error⟩ := Service.review_of_not_accepts free refused reason now
    rw [error] at taken
    cases taken
  obtain ⟨w', reachable', after⟩ := reachable.review free reviewer (some score) reason now
  rw [taken] at after
  subst after
  rw [Service.review_of_accepts free accepts] at taken
  obtain ⟨done, written⟩ := Prod.mk.inj taken
  cases done
  let reviewed : Session :=
    { s with review := ⟨true, some reviewer, some now, some score, reason⟩ }
  have shown : w'.registry.snapshot? reviewed.id = some reviewed := by
    rw [World.registry, ← written, Registry.snapshot?_setCell, Registry.snapshot?_sync, if_pos rfl]
  have member : reviewed ∈ w'.registry.sessionsOf s.assignmentId :=
    reachable'.mem_sessionsOf_iff.mpr ⟨shown, rfl⟩
  refine ⟨member, accepts.1, rfl, ?_⟩
  intro roster
  have figures := reachable'.consistent s.assignmentId roster
  -- The session itself has ended, so there is a rate.
  have some : 0 < (w'.registry.sessionsOf s.assignmentId).countP (·.status.isTerminal) :=
    List.countP_pos_iff.mpr ⟨_, member, accepts.1⟩
  rw [← figures.ended] at some ⊢
  obtain ⟨x, rate⟩ := Option.isSome_iff_exists.mp (figures.present.2.1.mpr some)
  rw [rate, figures.passRate x rate]

theorem Reachable.takesOverrides (reachable : Reachable settings w)
    (graded : w.service.Graded settings) : w.service.TakesOverrides settings := by
  have named := reachable.orderly.numbered.named
  constructor
  case own =>
    intro id s free ended plain
    obtain rfl := named id s (Registry.live?_of_find? free)
    exact reachable.own_override graded free ended plain
  case counted =>
    intro id s free ended reviewer score reason now s' v' taken
    obtain rfl := named id s (Registry.live?_of_find? free)
    obtain ⟨member, ended', passes, rate⟩ := reachable.counted_override free taken
    refine ⟨member, ended', passes, ?_, rate⟩
    rintro t moment rfl
    rw [passes, Session.passed_ofSession]
  case kept =>
    refine Service.review_keeps named fun id s free => ?_
    exact (reachable.orderly.settled id s free).snapshot.trans (Registry.live?_of_find? free)

/-- An override equal to the computed score is accepted and shows on no dashboard, any override
passes by the mark that verdicts pass by, and reviews change nothing of a session but its review:
after every interleaving of calls, and after every sequence of requests. -/
theorem overrides_count_as_scores (settings : Settings) (fair : settings.ScoresFairly)
    (rubrics : ∀ r ∈ settings.rubrics, r.InWords) (events : List Event)
    (called : ∀ request, .call request ∈ events → request.InWords)
    (requests : List (Request × Instant)) (requested : ∀ r ∈ requests, r.1.InWords) :
    let w := (begin settings).run events
    let v := (Service.ofSettings settings).run requests
    w.service.TakesOverrides settings ∧ v.TakesOverrides settings :=
  graded_runs (fun _ reachable graded => reachable.takesOverrides graded) fair rubrics called
    requested

/-- One student starts, and submits at once. -/
theorem usual_overrides_count_as_scores :
    let events : List Event :=
      [.call (.start "demo-assignment" "ada"), .step 0 ⟨0⟩, .step 0 ⟨0⟩, .step 0 ⟨0⟩]
    let requests : List (Request × Instant) :=
      [(.start "demo-assignment" "ada", ⟨0⟩), (.endSession "session-0001" none false, ⟨1⟩)]
    let w := (begin {}).run events
    let v := (Service.ofSettings {}).run requests
    ({} : Settings).ScoresFairly ∧ (∀ request, .call request ∈ events → request.InWords) ∧
    (∀ r ∈ requests, r.1.InWords) ∧
    ((v.registry.cells.find? "session-0001").map fun c =>
      (c.held, c.session.status.isTerminal, c.session.review.scoreOverride)) =
        some (false, true, none) ∧
    w.service.TakesOverrides {} ∧ v.TakesOverrides {} := by
  intro events requests w v
  have called : ∀ request, .call request ∈ events → request.InWords := by
    intro request member
    apply Request.inWords_of_ne
    rintro r rfl
    simp [events] at member
  have requested : ∀ r ∈ requests, r.1.InWords := by
    intro r member
    apply Request.inWords_of_ne
    intro rubric same
    simp only [requests, List.mem_cons, List.not_mem_nil, or_false] at member
    grind
  have fair := Settings.usual_scoresFairly
  exact ⟨fair, called, requested, by decide +kernel,
    overrides_count_as_scores {} fair (by simp) events called requests requested⟩

end World

end OralExam
