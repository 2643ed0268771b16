import OralExam.Proofs.Service.Sequence
import OralExam.Proofs.Session.Stopping
import OralExam.Service.Document

/-! What holds of all sessions of a service, however its calls come.

A session of the registry went through a course of its own, so what holds in every course holds here,
of the sessions in their cells and of their snapshots.
-/

set_option autoImplicit false

namespace OralExam

/-- A start did not lack its first question, nor an answer the question that it is for. -/
def Receipt.FoundQuestion (receipt : Receipt) : Prop :=
  receipt ≠ .started (.error .noFirstQuestion) ∧
    ∀ id, receipt ≠ .worked (.answered (.error (.questionUnavailable id)))

/-- Turns are only added to the logs, at their ends. -/
def Registry.LogsGrow (r r' : Registry) : Prop :=
  ∀ id s, (r.live? id = some s → ∃ s', r'.live? id = some s' ∧ s.turns <+: s'.turns) ∧
    (r.snapshot? id = some s → ∃ s', r'.snapshot? id = some s' ∧ s.turns <+: s'.turns)

theorem Registry.Continues.logsGrow {settings : Settings} {r r' : Registry}
    (continues : Continues settings r r') : r.LogsGrow r' := by
  intro id s
  constructor
  · intro live
    obtain ⟨deeds, s', live', course⟩ := continues.live id s live
    exact ⟨s', live', course.turns_prefix⟩
  · intro shown
    obtain ⟨deeds, s', shown', course⟩ := continues.shown id s shown
    exact ⟨s', shown', course.turns_prefix⟩

namespace World

/-- It holds of what all calls that are done have come to. -/
def EveryReceipt (P : Receipt → Prop) (w : World) : Prop :=
  ∀ receipt, .done receipt ∈ w.calls → P receipt

variable {settings : Settings} {w : World}

/-- A report is about a step of some session, unless the session could not be had. -/
theorem Reachable.report_cases (reachable : Reachable settings w) {report : Report}
    (member : .done (.worked report) ∈ w.calls) :
    report.IsTurnedAway ∨ ∃ s deed s', Session.Reached settings s ∧
      Session.Step settings s deed s' ∧ deed.report = report := by
  -- What is reported stands in the history, which consists of steps.
  rcases reachable.accounted.reports _ member report rfl with away | ⟨entry, heard, same⟩
  · exact .inl away
  · obtain ⟨s, s', reached, step⟩ := reachable.traced.step_of_mem heard
    exact .inr ⟨s, entry.2, s', reached, step, same⟩

theorem Reachable.foundQuestion (reachable : Reachable settings w) :
    w.EveryReceipt Receipt.FoundQuestion := by
  intro receipt member
  constructor
  · rintro rfl
    exact reachable.accounted.starts _ member rfl
  · rintro id rfl
    rcases reachable.report_cases member with ⟨task, id', away⟩ | ⟨s, deed, s', reached, step, same⟩
    · cases task <;> simp [Task.refused] at away
    · exact step.report_ne_unavailable reached.proper id same

theorem Reachable.alternating (reachable : Reachable settings w) :
    w.registry.Every Session.Alternating :=
  fun id s found => (reachable.traced.reached id s found).proper.alternating

/-- In every session questions and answers alternate, and the one that is pending is always found, as
long as abilities can be clamped to their bound, so that no answer breaks off. -/
theorem dialogues_alternate (settings : Settings) (bound : 0 ≤ settings.exam.thetaBound)
    (events : List Event) (requests : List (Request × Instant)) :
    let w := (begin settings).run events
    let v := (Service.ofSettings settings).run requests
    (w.registry.Every (Session.CarriedThrough settings) ∧
      v.registry.Every (Session.CarriedThrough settings)) ∧
    (w.registry.Every Session.Alternating ∧ w.EveryReceipt Receipt.FoundQuestion ∧
      ∀ later, w.registry.LogsGrow (w.run later).registry) ∧
    v.registry.Every Session.Alternating ∧
    ∀ now request, (v.perform now request).1.FoundQuestion ∧
      v.registry.LogsGrow (v.perform now request).2.registry := by
  have reachable : Reachable settings ((begin settings).run events) := ⟨events, rfl⟩
  refine ⟨carriedThrough_runs bound events requests, ⟨reachable.alternating,
    reachable.foundQuestion, fun later => (reachable.continues later).logsGrow⟩, ?_⟩
  -- Requests served one by one are a course of events that leaves no call under way.
  obtain ⟨w, served, same, idle, -⟩ := reachable_run settings requests
  rw [← same]
  refine ⟨served.alternating, ?_⟩
  intro now request
  obtain ⟨-, later, after, done, -⟩ := w.serve idle now request
  rw [← after]
  exact ⟨(served.run later).foundQuestion _ done, (served.continues later).logsGrow⟩

end World

/-- Two questions about one concept. -/
def Rubric.twoQuestions : Rubric :=
  { id := "r", assignmentId := "a", name := "R", status := .active
    concepts := [
      { id := "c", name := "C", keywords := ["owner"]
        questions := [
          { id := "p", text := "Who owns it?", discrimination := 1.0, difficulty := 0.0 },
          { id := "q", text := "Who frees it?", discrimination := 1.0, difficulty := 1.0 }] }] }

namespace World

/-- One student answers the first question, and is asked the second one. -/
theorem first_answer_alternates :
    let settings : Settings := { rubrics := [.twoQuestions] }
    let events : List Event :=
      [.call (.start "a" "al"), .step 0 ⟨0⟩, .step 0 ⟨0⟩, .step 0 ⟨0⟩,
        .call (.answer "session-0001" "The owner." none), .step 1 ⟨1⟩, .step 1 ⟨1⟩, .step 1 ⟨1⟩,
        .step 1 ⟨1⟩, .step 1 ⟨1⟩, .step 1 ⟨1⟩]
    let requests : List (Request × Instant) :=
      [(.start "a" "al", ⟨0⟩), (.answer "session-0001" "The owner." none, ⟨1⟩)]
    let w := (begin settings).run events
    let v := (Service.ofSettings settings).run requests
    let looks (s : Session) := (s.turns.map Turn.questionId, s.pending.map Pending.questionId)
    0 ≤ settings.exam.thetaBound ∧
    (w.registry.live? "session-0001").map looks =
      some ([some "p", some "p", some "q"], some "q") ∧
    (v.registry.live? "session-0001").map looks =
      some ([some "p", some "p", some "q"], some "q") ∧
    (w.registry.Every (Session.CarriedThrough settings) ∧
      v.registry.Every (Session.CarriedThrough settings)) ∧
    (w.registry.Every Session.Alternating ∧ w.EveryReceipt Receipt.FoundQuestion ∧
      ∀ later, w.registry.LogsGrow (w.run later).registry) ∧
    v.registry.Every Session.Alternating ∧
    ∀ now request, (v.perform now request).1.FoundQuestion ∧
      v.registry.LogsGrow (v.perform now request).2.registry := by
  intro settings events requests
  have bound : 0 ≤ settings.exam.thetaBound := by decide +kernel
  exact ⟨bound, by decide +kernel, by decide +kernel,
    dialogues_alternate settings bound events requests⟩

end World

/-! ## Stopping -/

/-- A session that goes on comes with the question that it waits for, a complete one with its
verdict. -/
def Outcome.IsClear (o : Outcome) : Prop :=
  (o.session.status = .inProgress ∧ o.next.verdict? = none ∧ o.next.question?.isSome ∧
    o.next.question?.map AskedQuestion.questionId = o.session.pending.map Pending.questionId) ∨
  (o.session.status = .completed ∧ o.next.question? = none ∧ o.next.verdict?.isSome ∧
    o.next.verdict? = o.session.verdict)

def Receipt.IsClear (receipt : Receipt) : Prop :=
  ∀ o, receipt = .worked (.answered (.ok o)) → o.IsClear

theorem Session.Step.isClear {settings : Settings} {s s' : Session} {deed : Deed}
    (step : Step settings s deed s') {o : Outcome} (taken : deed.report = .answered (.ok o)) :
    o.IsClear := by
  cases step with
  | refused refusal =>
    rw [taken] at refusal
    cases refusal
  | asked going waiting scored rule choice =>
    cases taken
    exact .inl ⟨by simp [scored, going], rfl, rfl, rfl⟩
  | completed going waiting scored why =>
    cases taken
    exact .inr ⟨rfl, rfl, rfl, rfl⟩
  | failed | submitted | abandoned | idled | reviewed => cases taken

namespace World

variable {settings : Settings} {w : World}

theorem Reachable.isClear (reachable : Reachable settings w) : w.EveryReceipt Receipt.IsClear := by
  rintro receipt member o rfl
  rcases reachable.report_cases member with ⟨task, id, away⟩ | ⟨s, deed, s', -, step, same⟩
  · cases task <;> simp [Task.refused] at away
  · exact step.isClear same

/-- The answers of a session are the submissions that were taken, as they were when taken. -/
structure Told (settings : Settings) (w : World) : Prop where
  live : ∀ id s, w.registry.live? id = some s →
    s.Told settings (submissionsOf (deedsOf w.history id))
  shown : ∀ id s, w.registry.snapshot? id = some s →
    ∃ deeds, deeds <+: deedsOf w.history id ∧ s.Told settings (submissionsOf deeds)

/-- A session has as many answers as submissions to it were taken. -/
def Counted (w : World) : Prop :=
  ∀ id s, w.registry.live? id = some s →
    s.answers.length = (submissionsOf (deedsOf w.history id)).length

theorem Reachable.told (reachable : Reachable settings w) : w.Told settings := by
  have traced := reachable.traced
  constructor
  · intro id s live
    obtain ⟨s₀, opens, course⟩ := traced.live_course live
    exact course.told opens
  · intro id t shown
    obtain ⟨s₀, earlier, later, s, opens, split, before, -, -⟩ := traced.shown_course shown
    exact ⟨earlier, ⟨later, split.symm⟩, before.told opens⟩

theorem Reachable.stopsByRules (positive : 1 ≤ settings.exam.maxQuestions)
    (reachable : Reachable settings w) : w.registry.Every (Session.StopsByRules settings) :=
  fun id s found => (reachable.traced.reached id s found).stopsByRules positive

/-- Every session stops at the first answer at which a rule holds, and is complete after as many
answers as there are questions for it, at the latest, if abilities can be clamped to their bound. -/
theorem sessions_stop_by_rules (settings : Settings) (bound : 0 ≤ settings.exam.thetaBound)
    (positive : 1 ≤ settings.exam.maxQuestions) (events : List Event)
    (requests : List (Request × Instant)) :
    let w := (begin settings).run events
    let v := (Service.ofSettings settings).run requests
    (w.registry.Every (Session.CarriedThrough settings) ∧
      v.registry.Every (Session.CarriedThrough settings)) ∧
    (w.registry.Every (Session.StopsByRules settings) ∧ w.Counted ∧
      w.EveryReceipt Receipt.IsClear) ∧
    v.registry.Every (Session.StopsByRules settings) ∧
    ∀ now request, (v.perform now request).1.IsClear := by
  have reachable : Reachable settings ((begin settings).run events) := ⟨events, rfl⟩
  refine ⟨carriedThrough_runs bound events requests,
    ⟨reachable.stopsByRules positive, ?_, reachable.isClear⟩, ?_⟩
  · exact fun id s live => (reachable.told.live id s live).length.symm
  · obtain ⟨w, served, same, idle, -⟩ := reachable_run settings requests
    rw [← same]
    refine ⟨served.stopsByRules positive, ?_⟩
    intro now request
    obtain ⟨-, later, -, done, -⟩ := w.serve idle now request
    exact (served.run later).isClear _ done

/-- One student answers both questions, which are as many as there may be. -/
theorem usual_session_stops_by_rules :
    let settings : Settings := { exam := { maxQuestions := 2 }, rubrics := [.twoQuestions] }
    let events : List Event :=
      [.call (.start "a" "al"), .step 0 ⟨0⟩, .step 0 ⟨0⟩, .step 0 ⟨0⟩,
        .call (.answer "session-0001" "The owner." none), .step 1 ⟨1⟩, .step 1 ⟨1⟩, .step 1 ⟨1⟩,
        .step 1 ⟨1⟩, .step 1 ⟨1⟩, .step 1 ⟨1⟩,
        .call (.answer "session-0001" "Nobody." none), .step 2 ⟨2⟩, .step 2 ⟨2⟩, .step 2 ⟨2⟩,
        .step 2 ⟨2⟩, .step 2 ⟨2⟩, .step 2 ⟨2⟩]
    let requests : List (Request × Instant) :=
      [(.start "a" "al", ⟨0⟩), (.answer "session-0001" "The owner." none, ⟨1⟩),
        (.answer "session-0001" "Nobody." none, ⟨2⟩)]
    let w := (begin settings).run events
    let v := (Service.ofSettings settings).run requests
    let looks (s : Session) := (s.answers.length, s.status, s.termination)
    0 ≤ settings.exam.thetaBound ∧ 1 ≤ settings.exam.maxQuestions ∧
    (w.registry.snapshot? "session-0001").map looks = some (2, .completed, some .maxQuestions) ∧
    (v.registry.snapshot? "session-0001").map looks = some (2, .completed, some .maxQuestions) ∧
    (w.registry.Every (Session.CarriedThrough settings) ∧
      v.registry.Every (Session.CarriedThrough settings)) ∧
    (w.registry.Every (Session.StopsByRules settings) ∧ w.Counted ∧
      w.EveryReceipt Receipt.IsClear) ∧
    v.registry.Every (Session.StopsByRules settings) ∧
    ∀ now request, (v.perform now request).1.IsClear := by
  intro settings events requests
  have bound : 0 ≤ settings.exam.thetaBound := by decide +kernel
  have positive : 1 ≤ settings.exam.maxQuestions := by decide
  exact ⟨bound, positive, by decide +kernel, by decide +kernel,
    sessions_stop_by_rules settings bound positive events requests⟩

theorem Reachable.replayed (reachable : Reachable settings w) :
    w.registry.Every (Session.Replayed settings) :=
  fun id s found => (reachable.traced.reached id s found).replayed

/-- What sessions derive from their answers is what the answers give when taken afresh, and the
answers are what the assessment makes of what was submitted, if abilities can be clamped to their
bound: then taking the answers afresh does not break off either. -/
theorem sessions_replayed (settings : Settings) (bound : 0 ≤ settings.exam.thetaBound)
    (events : List Event) (requests : List (Request × Instant)) :
    let w := (begin settings).run events
    let v := (Service.ofSettings settings).run requests
    (w.registry.Every (Session.CarriedThrough settings) ∧
      v.registry.Every (Session.CarriedThrough settings)) ∧
    (w.registry.Every (Session.Replayed settings) ∧ w.Told settings) ∧
    v.registry.Every (Session.Replayed settings) ∧
    ∀ id s, (v.registry.live? id = some s ∨ v.registry.snapshot? id = some s) →
      s.Told settings ((Service.ofSettings settings).submissions id requests) := by
  have reachable : Reachable settings ((begin settings).run events) := ⟨events, rfl⟩
  refine ⟨carriedThrough_runs bound events requests, ⟨reachable.replayed, reachable.told⟩, ?_⟩
  obtain ⟨w, served, same, idle, told⟩ := reachable_run settings requests
  rw [← same]
  refine ⟨served.replayed, ?_⟩
  intro id s found
  have live : w.registry.live? id = some s := by
    rcases found with live | shown
    · exact live
    · exact (served.snapshot?_eq idle id).symm.trans shown
  rw [← told id]
  exact served.told.live id s live

/-- One student answers a question and submits. -/
theorem submitted_session_replayed :
    let settings : Settings := { rubrics := [.twoQuestions] }
    let events : List Event :=
      [.call (.start "a" "al"), .step 0 ⟨0⟩, .step 0 ⟨0⟩, .step 0 ⟨0⟩,
        .call (.answer "session-0001" "The owner." none), .step 1 ⟨1⟩, .step 1 ⟨1⟩, .step 1 ⟨1⟩,
        .step 1 ⟨1⟩, .step 1 ⟨1⟩, .step 1 ⟨1⟩,
        .call (.endSession "session-0001" none false), .step 2 ⟨2⟩, .step 2 ⟨2⟩, .step 2 ⟨2⟩,
        .step 2 ⟨2⟩, .step 2 ⟨2⟩, .step 2 ⟨2⟩]
    let requests : List (Request × Instant) :=
      [(.start "a" "al", ⟨0⟩), (.answer "session-0001" "The owner." none, ⟨1⟩),
        (.endSession "session-0001" none false, ⟨2⟩)]
    let w := (begin settings).run events
    let v := (Service.ofSettings settings).run requests
    let looks (s : Session) := (s.answers.length, s.mastery.keys, s.verdict.isSome)
    0 ≤ settings.exam.thetaBound ∧
    (w.registry.snapshot? "session-0001").map looks = some (1, ["c"], true) ∧
    (v.registry.snapshot? "session-0001").map looks = some (1, ["c"], true) ∧
    (w.registry.Every (Session.CarriedThrough settings) ∧
      v.registry.Every (Session.CarriedThrough settings)) ∧
    (w.registry.Every (Session.Replayed settings) ∧ w.Told settings) ∧
    v.registry.Every (Session.Replayed settings) ∧
    ∀ id s, (v.registry.live? id = some s ∨ v.registry.snapshot? id = some s) →
      s.Told settings ((Service.ofSettings settings).submissions id requests) := by
  intro settings events requests
  have bound : 0 ≤ settings.exam.thetaBound := by decide +kernel
  exact ⟨bound, by decide +kernel, by decide +kernel,
    sessions_replayed settings bound events requests⟩

end World

end OralExam
