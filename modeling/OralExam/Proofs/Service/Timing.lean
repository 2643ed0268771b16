import OralExam.Proofs.Service.Sequence
import OralExam.Proofs.Session.Timing

/-! The times of all sessions agree, as long as the clock is not turned back.

Whoever works on a session reads the clock under its lock, so what the session notes next is no earlier
than its latest activity. A start reads the clock before it puts its session in; what others note in the
meantime is in other sessions.
-/

set_option autoImplicit false

namespace OralExam

/-- The times of the session agree, and nothing in it is later than the clock. -/
structure Session.TimelyBy (clock : Instant) (s : Session) : Prop extends Timely s where
  latest : s.lastActivityAt ≤ clock

namespace Session.TimelyBy

variable {s : Session} {clock now : Instant}

theorem mono (timely : s.TimelyBy clock) (later : clock ≤ now) : s.TimelyBy now :=
  ⟨timely.toTimely, timely.latest.trans later⟩

theorem perform (timely : s.TimelyBy now) (settings : Settings) (task : Task) :
    ((task.perform settings now s).session s).TimelyBy now := by
  have step := perform_step settings s task now
  exact ⟨step.timely timely.toTimely timely.latest, step.lastActivityAt_le timely.latest⟩

end Session.TimelyBy

namespace Call

variable {v v' : Service} {c c' : Call} {clock now : Instant}

theorem timely_step (timely : v.registry.Every (Session.TimelyBy now)) :
    (c.step v now).service.registry.Every (Session.TimelyBy now) := by
  refine every_step timely ?_ ?_
  · intro assignment studentId rubric chosen _
    exact ⟨Session.timely_opened .., le_rfl⟩
  · intro id task sweep s _ own
    exact own.perform v.settings task

/-- A start may have read the clock before others did. -/
theorem timely_opening {assignment : Assignment} {studentId : String} {rubric : Rubric}
    (timely : v.registry.Every (Session.TimelyBy clock)) (read : now ≤ clock) :
    ((opening assignment studentId rubric).step v now).service.registry.Every
      (Session.TimelyBy clock) := by
  refine every_step timely ?_ ?_
  · intro assignment studentId rubric chosen _
    exact ⟨Session.timely_opened .., read⟩
  · intro id task sweep s working
    cases working

theorem Runs.timely {log : List (String × Deed)} (runs : Runs now v c v' c' log)
    (timely : v.registry.Every (Session.TimelyBy now)) :
    v'.registry.Every (Session.TimelyBy now) := by
  induction runs with
  | stop => exact timely
  | step rest ih => exact ih (timely_step timely)

end Call

/-- No request comes before an earlier one. -/
theorem Service.timely_run (settings : Settings) {requests : List (Request × Instant)}
    (ordered : requests.Pairwise fun r later => r.2 ≤ later.2) {clock : Instant}
    (read : ∀ r ∈ requests, r.2 ≤ clock) :
    ((ofSettings settings).run requests).registry.Every (Session.TimelyBy clock) := by
  induction requests using List.reverseRecOn generalizing clock with
  | nil => exact .empty _
  | append_singleton requests request ih =>
    obtain ⟨request, now⟩ := request
    obtain ⟨ordered, -, before⟩ := List.pairwise_append.mp ordered
    have timely := ih ordered fun r member => before r member _ (List.mem_singleton_self _)
    have idle : ((ofSettings settings).run requests).Idle := by
      obtain ⟨w, -, same, idle, -⟩ := World.reachable_run settings requests
      exact same ▸ idle
    obtain ⟨-, log, runs, -⟩ := request.runs idle now
    rw [run_append]
    intro id s found
    exact ((runs.timely timely) id s found).mono (read (request, now) (by simp))

namespace World

variable {settings : Settings} {w : World} {clock : Instant}

/-- The clock is not turned back in the course of the events: each step is taken no earlier than the
latest one so far, but for those that put a session in, whose time was read before. -/
inductive KeepsTime : Instant → World → List Event → Prop where
  | done {clock : Instant} {w : World} : KeepsTime clock w []
  | called {clock : Instant} {w : World} {request : Request} {events : List Event}
      (rest : KeepsTime clock (w.step (.call request)) events) :
      KeepsTime clock w (.call request :: events)
  | stepped {clock now : Instant} {w : World} {number : Nat} {events : List Event}
      (later : clock ≤ now) (rest : KeepsTime now (w.step (.step number now)) events) :
      KeepsTime clock w (.step number now :: events)
  | opened {clock now : Instant} {w : World} {number : Nat} {assignment : Assignment}
      {studentId : String} {rubric : Rubric} {events : List Event}
      (selected : w.calls[number]? = some (.opening assignment studentId rubric))
      (read : now ≤ clock) (rest : KeepsTime clock (w.step (.step number now)) events) :
      KeepsTime clock w (.step number now :: events)

theorem KeepsTime.timely {events : List Event} (keeps : KeepsTime clock w events)
    (timely : w.registry.Every (Session.TimelyBy clock)) :
    (w.run events).registry.Every Session.Timely := by
  induction keeps with
  | done => exact timely.mono fun s own => own.toTimely
  | called rest ih => exact ih timely
  | @stepped clock now w number events later rest ih =>
    apply ih
    have timely := timely.mono fun s own => own.mono later
    cases selected : w.calls[number]? with
    | none =>
      simp only [World.step, selected]
      exact timely
    | some c =>
      rw [step_of_selected selected]
      exact Call.timely_step timely
  | opened selected read rest ih =>
    apply ih
    rw [step_of_selected selected]
    exact Call.timely_opening timely read

/-- As long as the clock is not turned back, and abilities can be clamped to their bound so that no
answer breaks off: in every session the turns stand in the order of their times, the latest activity is
the last turn until the session ends and then its end, answers have the latency that lies between them
and their questions, and the time spent is that from start to end. -/
theorem session_times_agree (settings : Settings) (bound : 0 ≤ settings.exam.thetaBound)
    (clock : Instant) (events : List Event) (keeps : KeepsTime clock (begin settings) events)
    (requests : List (Request × Instant))
    (ordered : requests.Pairwise fun r later => r.2 ≤ later.2) :
    let w := (begin settings).run events
    let v := (Service.ofSettings settings).run requests
    (w.registry.Every (Session.CarriedThrough settings) ∧
      v.registry.Every (Session.CarriedThrough settings)) ∧
    w.registry.Every Session.Timely ∧ v.registry.Every Session.Timely := by
  intro w v
  refine ⟨carriedThrough_runs bound events requests, keeps.timely (.empty _), ?_⟩
  rcases List.eq_nil_or_concat requests with rfl | ⟨earlier, last, rfl⟩
  · exact .empty _
  · rw [List.concat_eq_append] at ordered
    obtain ⟨-, -, before⟩ := List.pairwise_append.mp ordered
    have read : ∀ r ∈ earlier ++ [last], r.2 ≤ last.2 := by
      intro r member
      rcases List.mem_append.mp member with old | new
      · exact before r old last (List.mem_singleton_self _)
      · cases List.mem_singleton.mp new
        exact le_rfl
    simp only [v, List.concat_eq_append]
    exact (Service.timely_run settings ordered read).mono fun s own => own.toTimely

/-- One student answers a second and a half after the start, and submits half a second later. -/
theorem usual_session_times_agree :
    let events : List Event :=
      [.call (.start "demo-assignment" "ada"), .step 0 ⟨0⟩, .step 0 ⟨0⟩, .step 0 ⟨0⟩,
        .call (.answer "session-0001" "ownership moves" none), .step 1 ⟨1500000000⟩,
        .step 1 ⟨1500000000⟩]
    let requests : List (Request × Instant) :=
      [(.start "demo-assignment" "ada", ⟨0⟩),
        (.answer "session-0001" "ownership moves" none, ⟨1500000000⟩),
        (.endSession "session-0001" none false, ⟨2000000000⟩)]
    let w := (begin {}).run events
    let v := (Service.ofSettings {}).run requests
    0 ≤ ({} : Settings).exam.thetaBound ∧
    KeepsTime ⟨0⟩ (begin {}) events ∧ requests.Pairwise (fun r later => r.2 ≤ later.2) ∧
    (w.registry.live? "session-0001").map (·.answers.length) = some 1 ∧
    (v.registry.live? "session-0001").map (·.secondsSpent) = some 2 ∧
    (w.registry.Every (Session.CarriedThrough {}) ∧ v.registry.Every (Session.CarriedThrough {})) ∧
    w.registry.Every Session.Timely ∧ v.registry.Every Session.Timely := by
  intro events requests w v
  have bound : 0 ≤ ({} : Settings).exam.thetaBound := by decide +kernel
  have keeps : KeepsTime ⟨0⟩ (begin {}) events :=
    .called (.stepped (by decide) (.stepped (by decide) (.stepped (by decide)
      (.called (.stepped (by decide) (.stepped (by decide) .done))))))
  have ordered : requests.Pairwise fun r later => r.2 ≤ later.2 := by decide
  exact ⟨bound, keeps, ordered, by decide +kernel, by decide +kernel,
    session_times_agree {} bound ⟨0⟩ events keeps requests ordered⟩

end World

end OralExam
