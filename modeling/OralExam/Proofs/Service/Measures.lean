import OralExam.Proofs.Service.Sequence
import OralExam.Proofs.Session.Measures

/-! The numbers of all sessions stay in bounds.

Sessions start without answers, from rubrics that fit into machine words, and whoever works on one
leaves it graded. Publications, starts and sweeps of others may come in between.
-/

set_option autoImplicit false

namespace OralExam

variable {settings : Settings} {v v' : Service} {now : Instant} {c c' : Call}

/-! ## Rubrics -/

namespace RubricBank

/-- Every rubric in the bank fits into machine words. -/
def AllInWords (bank : RubricBank) : Prop := ∀ r ∈ bank.values, r.InWords

theorem starter_inWords : Rubric.starter.InWords where
  concepts := by decide
  weights := by decide
  keywords := by decide

theorem ofRubrics_allInWords {rubrics : List Rubric} (given : ∀ r ∈ rubrics, r.InWords) :
    (ofRubrics rubrics).AllInWords := by
  intro r member
  rcases mem_ofRubrics member with rfl | ⟨own, -⟩
  · exact starter_inWords
  · exact given r own

theorem AllInWords.publish {bank bank' : RubricBank} {r : Rubric} (words : bank.AllInWords)
    (own : r.InWords) (published : bank.publish r = .ok bank') : bank'.AllInWords := by
  intro r' member
  rcases mem_publish published member with rfl | ⟨old, known, rfl | rfl⟩
  · exact own
  · exact words _ known
  · have kept := words old known
    exact ⟨kept.concepts, kept.weights, kept.keywords⟩

end RubricBank

/-- A rubric that is published fits into machine words. -/
def Request.InWords : Request → Prop
  | publish r => r.InWords
  | start _ _ | startWith _ _ | answer _ _ _ | endSession _ _ _ | review _ _ _ _ | sweep => True

/-- Only a publication brings in a rubric. -/
theorem Request.inWords_of_ne {request : Request} (other : ∀ r, request ≠ .publish r) :
    request.InWords := by
  cases request with
  | publish r => exact absurd rfl (other r)
  | start | startWith | answer | endSession | review | sweep => trivial

namespace Call

/-- The rubric that the call goes with, if any, fits into machine words. -/
def InWords : Call → Prop
  | opening _ _ r | publishing r => r.InWords
  | checking _ _ | choosing _ _ | listing | working _ _ _ _ | done _ => True

theorem inWords_sweepOn (cutoff : Instant) (count : Nat) (ids : List String) :
    (sweepOn cutoff count ids).InWords := by
  cases ids <;> trivial

theorem inWords_proceed (report : Report) (sweep : Option Sweep) :
    (proceed report sweep).InWords := by
  cases sweep with
  | none => trivial
  | some sweep => exact inWords_sweepOn _ _ _

theorem inWords_workStep (v : Service) (now : Instant) (id : String) (task : Task)
    (sweep : Option Sweep) (phase : Phase) : (workStep v now id task sweep phase).call.InWords := by
  cases phase with
  | waiting =>
    simp only [workStep]
    split
    · trivial
    · exact inWords_proceed _ _
    · split
      · trivial
      · exact inWords_proceed _ _
  | locked =>
    simp only [workStep]
    split
    · trivial
    · split <;> trivial
  | changed | written =>
    simp only [workStep]
    split <;> trivial
  | settled => trivial
  | leaving => exact inWords_proceed _ _

theorem InWords.step (words : c.InWords) (bank : v.bank.AllInWords) (now : Instant) :
    (c.step v now).call.InWords := by
  cases c with
  | checking assignment studentId =>
    simp only [Call.step]
    split <;> trivial
  | choosing assignment studentId =>
    simp only [Call.step]
    split
    · trivial
    · rename_i rubric startable
      exact bank rubric (Service.mem_of_startable startable)
  | opening | publishing | done => trivial
  | listing =>
    simp only [Call.step]
    cases Service.idleCutoff v.settings.exam now with
    | none => trivial
    | some cutoff => exact inWords_sweepOn _ _ _
  | working id task sweep phase => exact inWords_workStep v now id task sweep phase

end Call

theorem Request.InWords.call {request : Request} (words : request.InWords) (settings : Settings) :
    (request.call settings).InWords := by
  cases request with
  | publish r => exact words
  | start | startWith | answer | endSession | review | sweep => trivial

/-! ## Sessions -/

theorem Session.Graded.perform {s : Session} (graded : s.Graded) (fair : settings.ScoresFairly)
    (task : Task) (now : Instant) : ((task.perform settings now s).session s).Graded :=
  Session.Step.graded fair graded (perform_step settings s task now)
    (admitted_perform settings s task now)

/-! ## Steps -/

/-- The settings stay, the rubrics fit into machine words, and all sessions are graded. -/
structure Service.Graded (settings : Settings) (v : Service) : Prop where
  settings : v.settings = settings
  bank : v.bank.AllInWords
  sessions : v.registry.Every Session.Graded

namespace Service.Graded

theorem publish (graded : v.Graded settings) {r : Rubric} (words : r.InWords) :
    (v.publish r).2.Graded settings := by
  unfold Service.publish
  cases published : v.bank.publish r with
  | error e => exact graded
  | ok bank => exact ⟨graded.settings, graded.bank.publish words published, graded.sessions⟩

theorem step (graded : v.Graded settings) (fair : settings.ScoresFairly) (words : c.InWords)
    (now : Instant) : (c.step v now).service.Graded settings := by
  have sessions : (c.step v now).service.registry.Every Session.Graded := by
    refine Call.every_step graded.sessions ?_ ?_
    · rintro assignment studentId rubric chosen rfl
      exact ⟨words, fun a member => by cases member⟩
    · intro id task sweep s _ own
      rw [graded.settings]
      exact own.perform fair task now
  have move := c.step_move v now
  generalize c.step v now = progress at move sessions
  cases move with
  | published => exact graded.publish words
  | opened =>
    rcases v.openSession_cases _ _ _ now with ⟨e, -, refused⟩ | ⟨chosen, pending, c, q, -, -, -, opened⟩
    · rw [refused]
      exact graded
    · rw [opened] at sessions ⊢
      exact ⟨graded.settings, graded.bank, sessions⟩
  | stayed | turned | chosen | left | locked | changed | written | released | alerted | unlocked =>
    exact ⟨graded.settings, graded.bank, sessions⟩

end Service.Graded

/-! ## Runs -/

theorem Service.graded_ofSettings (rubrics : ∀ r ∈ settings.rubrics, r.InWords) :
    (ofSettings settings).Graded settings :=
  ⟨rfl, RubricBank.ofRubrics_allInWords rubrics, .empty _⟩

theorem Call.Runs.graded {log : List (String × Deed)} (runs : Runs now v c v' c' log)
    (fair : settings.ScoresFairly) (graded : v.Graded settings) (words : c.InWords) :
    v'.Graded settings := by
  induction runs with
  | stop => exact graded
  | step rest ih => exact ih (graded.step fair words now) (words.step graded.bank now)

theorem Service.graded_run (fair : settings.ScoresFairly)
    (rubrics : ∀ r ∈ settings.rubrics, r.InWords) {requests : List (Request × Instant)}
    (words : ∀ r ∈ requests, r.1.InWords) :
    ((ofSettings settings).run requests).Graded settings := by
  have kept : ((ofSettings settings).run requests).Idle ∧
      ((ofSettings settings).run requests).Graded settings := by
    refine List.foldlRecOn requests _
      (motive := fun v => Service.Idle v ∧ Service.Graded settings v)
      ⟨?_, graded_ofSettings rubrics⟩ ?_
    · intro id cell found
      cases found
    · rintro v ⟨idle, graded⟩ ⟨request, now⟩ member
      obtain ⟨idle', log, runs, -⟩ := request.runs idle now
      exact ⟨idle', runs.graded fair graded ((words _ member).call v.settings)⟩
  exact kept.2

namespace World

/-- The service is graded, and the calls under way bring in rubrics of fitting sizes only. -/
structure Graded (settings : Settings) (w : World) : Prop where
  service : w.service.Graded settings
  calls : ∀ c ∈ w.calls, c.InWords

theorem Graded.step {w : World} (graded : w.Graded settings) (fair : settings.ScoresFairly)
    {event : Event} (words : ∀ request, event = .call request → request.InWords) :
    (w.step event).Graded settings := by
  cases event with
  | call request =>
    refine ⟨graded.service, fun c member => ?_⟩
    rcases List.mem_append.mp member with old | new
    · exact graded.calls c old
    · cases List.mem_singleton.mp new
      exact (words request rfl).call _
  | step number now =>
    cases selected : w.calls[number]? with
    | none =>
      simp only [World.step, selected]
      exact graded
    | some c =>
      have own := graded.calls c (List.mem_of_getElem? selected)
      rw [step_of_selected selected]
      refine ⟨graded.service.step fair own now, fun d member => ?_⟩
      rcases List.mem_or_eq_of_mem_set member with old | rfl
      · exact graded.calls d old
      · exact own.step graded.service.bank now

theorem graded_run (fair : settings.ScoresFairly) (rubrics : ∀ r ∈ settings.rubrics, r.InWords)
    {events : List Event} (words : ∀ request, .call request ∈ events → request.InWords) :
    ((begin settings).run events).Graded settings := by
  refine List.foldlRecOn events World.step (motive := World.Graded settings)
    ⟨Service.graded_ofSettings rubrics, fun _ member => by cases member⟩ ?_
  intro w graded event member
  exact graded.step fair fun request same => words request (same ▸ member)

/-- What holds of the service wherever it is graded, holds after calls in any order of their steps and
after any requests served one by one. -/
theorem graded_runs {P : Service → Prop}
    (holds : ∀ w : World, Reachable settings w → w.service.Graded settings → P w.service)
    (fair : settings.ScoresFairly) (rubrics : ∀ r ∈ settings.rubrics, r.InWords) {events : List Event}
    (called : ∀ request, .call request ∈ events → request.InWords)
    {requests : List (Request × Instant)} (requested : ∀ r ∈ requests, r.1.InWords) :
    P ((begin settings).run events).service ∧ P ((Service.ofSettings settings).run requests) := by
  refine ⟨holds _ ⟨events, rfl⟩ (graded_run fair rubrics called).service, ?_⟩
  obtain ⟨served, reachable, same, -⟩ := reachable_run settings requests
  rw [← same]
  exact holds served reachable (same ▸ Service.graded_run fair rubrics requested)

/-- With settings in their ranges, and with rubrics whose sizes fit into machine words: in every run
every session has an ability within its bound and a standard error that is finite and positive, and
its verdict, once it has one, has a score and a confidence between zero and one. -/
theorem measures_in_bounds (settings : Settings) (range : settings.InRange)
    (rubrics : ∀ r ∈ settings.rubrics, r.InWords) (events : List Event)
    (called : ∀ request, .call request ∈ events → request.InWords)
    (requests : List (Request × Instant)) (requested : ∀ r ∈ requests, r.1.InWords) :
    let w := (begin settings).run events
    let v := (Service.ofSettings settings).run requests
    w.registry.Every (Session.InBounds settings) ∧
    v.registry.Every (Session.InBounds settings) := by
  intro w v
  have reachable : Reachable settings w := ⟨events, rfl⟩
  obtain ⟨served, reachable', same, -⟩ := reachable_run settings requests
  have reached' := reachable'.traced.reached
  rw [World.registry, same] at reached'
  have graded : w.Graded settings := graded_run range.scoresFairly rubrics called
  have graded' : v.Graded settings := Service.graded_run range.scoresFairly rubrics requested
  exact ⟨fun id s found => (reachable.traced.reached id s found).inBounds range
      (graded.service.sessions id s found),
    fun id s found => (reached' id s found).inBounds range (graded'.sessions id s found)⟩

/-- One student answers the only question, after the starter was published once more: the ability moves,
and there is a verdict. -/
theorem usual_measures_in_bounds :
    let settings : Settings := { exam := { maxQuestions := 1 } }
    let events : List Event :=
      [.call (.publish Rubric.starter), .step 0 ⟨0⟩, .call (.start "demo-assignment" "ada"),
        .step 1 ⟨0⟩, .step 1 ⟨0⟩, .step 1 ⟨0⟩,
        .call (.answer "session-0001" "Ownership moves." none), .step 2 ⟨1⟩, .step 2 ⟨1⟩,
        .step 2 ⟨1⟩, .step 2 ⟨1⟩, .step 2 ⟨1⟩, .step 2 ⟨1⟩]
    let requests : List (Request × Instant) :=
      [(.publish Rubric.starter, ⟨0⟩), (.start "demo-assignment" "ada", ⟨0⟩),
        (.answer "session-0001" "Ownership moves." none, ⟨1⟩)]
    let w := (begin settings).run events
    let v := (Service.ofSettings settings).run requests
    let looks (s : Session) := (s.answers.length, decide (s.theta = 0), s.verdict.isSome)
    settings.InRange ∧ (∀ request, .call request ∈ events → request.InWords) ∧
    (∀ r ∈ requests, r.1.InWords) ∧
    (w.registry.snapshot? "session-0001").map looks = some (1, false, true) ∧
    (v.registry.snapshot? "session-0001").map looks = some (1, false, true) ∧
    w.registry.Every (Session.InBounds settings) ∧
    v.registry.Every (Session.InBounds settings) := by
  intro settings events requests
  have range : settings.InRange :=
    ⟨by decide +kernel, by decide +kernel, by decide +kernel, by decide +kernel⟩
  have called : ∀ request, .call request ∈ events → request.InWords := by
    intro request member
    simp only [events, List.mem_cons, Event.call.injEq, reduceCtorEq, List.not_mem_nil, false_or,
      or_false] at member
    rcases member with rfl | rfl | rfl
    · exact RubricBank.starter_inWords
    all_goals trivial
  have requested : ∀ r ∈ requests, r.1.InWords := by
    intro r member
    simp only [requests, List.mem_cons, List.not_mem_nil, or_false] at member
    rcases member with rfl | rfl | rfl
    · exact RubricBank.starter_inWords
    all_goals trivial
  exact ⟨range, called, requested, by decide +kernel, by decide +kernel,
    measures_in_bounds settings range (by simp [settings]) events called requests requested⟩

end World

end OralExam
