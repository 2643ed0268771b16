import OralExam.Proofs.Service.Sequence
import OralExam.Proofs.Session.Misconceptions

/-! What students are told of misconceptions, and what instructors see, however calls come.

A session that has ended is true to all that was told in it, if its rubric is unambiguous. The check of
rubrics does not ask for that: it tells concepts apart, and questions, but not the misconceptions about
a concept. Where two of them share an identifier, the second one may be told and never be counted.
-/

set_option autoImplicit false

namespace OralExam

theorem misconceptionsTold_accepted (history : List (String × Deed)) (id : String) :
    misconceptionsTold (deedsOf (accepted history) id) = misconceptionsTold (deedsOf history id) := by
  unfold misconceptionsTold judgementsOf
  rw [filterMap_deedsOf_accepted]
  intro deed idle
  exact Deed.judgement?_eq_none_iff.mpr (Deed.submission?_of_not_isAccepted idle)

/-- Sessions that have ended are true to what the history has of them, if their rubrics are
unambiguous. -/
def Registry.TellsTruly (settings : Settings) (history : List (String × Deed)) (r : Registry) : Prop :=
  r.Every fun s => s.status.isTerminal → s.rubric.Unambiguous →
    s.TrueTo settings (misconceptionsTold (deedsOf history s.id))

/-- One question, and two misconceptions about its concept, the second one of high severity. -/
def Rubric.twoMisconceptions (first second : String) : Rubric :=
  { id := "r", assignmentId := "a", name := "R", status := .active
    concepts := [
      { id := "c", name := "C", keywords := ["owner"]
        questions := [
          { id := "q", text := "Who frees it?", discrimination := 1.0, difficulty := 0.0
            expectedSeconds := 0 }]
        misconceptions := [
          { id := first, keywords := ["alpha"], severity := .low },
          { id := second, keywords := ["beta"], correction := "No beta.", severity := .high }] }] }

namespace World

variable {settings : Settings} {w : World}

theorem Reachable.tellsTruly (reachable : Reachable settings w) :
    w.registry.TellsTruly settings w.history := by
  have traced := reachable.traced
  rintro id s (live | shown) ended clear
  · obtain ⟨s₀, opens, course⟩ := traced.live_course live
    rw [traced.named id s live]
    exact course.trueTo opens ended clear
  · obtain ⟨s₀, earlier, later, last, opens, split, before, after, -⟩ := traced.shown_course shown
    -- The snapshot has ended, so nothing was told after it was taken.
    rw [traced.shown_named shown, split, misconceptionsTold, judgementsOf_append,
      after.judgementsOf_eq_nil ended, List.append_nil]
    exact before.trueTo opens ended clear

/-- When a session has ended, its flags count the misconceptions of high severity that the student was
told, and its verdict has the corrections, if misconceptions about one concept that share an
identifier agree in both, and if abilities can be clamped to their bound, so that no answer breaks off
before its misconceptions are told. -/
theorem misconceptions_told_truly (settings : Settings) (bound : 0 ≤ settings.exam.thetaBound)
    (events : List Event) (requests : List (Request × Instant)) :
    let w := (begin settings).run events
    let v := (Service.ofSettings settings).run requests
    (w.registry.Every (Session.CarriedThrough settings) ∧
      v.registry.Every (Session.CarriedThrough settings)) ∧
    w.registry.TellsTruly settings w.history ∧
      v.registry.TellsTruly settings ((Service.ofSettings settings).deeds requests) := by
  intro w v
  have reachable : Reachable settings w := ⟨events, rfl⟩
  refine ⟨carriedThrough_runs bound events requests, reachable.tellsTruly, ?_⟩
  obtain ⟨served, reachable', same, -, told⟩ := reachable_run_accepted settings requests
  have truly := reachable'.tellsTruly
  rw [World.registry, same] at truly
  intro id s found ended clear
  have own := truly id s found ended clear
  rwa [← misconceptionsTold_accepted, told, misconceptionsTold_accepted] at own

/-- One student shows the misconception of high severity. -/
theorem usual_misconception_told_truly :
    let settings : Settings := { flags := { highSeverityLimit := 1 } }
    let requests : List (Request × Instant) :=
      [(.publish (.twoMisconceptions "m" "n"), ⟨0⟩), (.start "a" "al", ⟨0⟩),
        (.answer "session-0001" "owner and beta" none, ⟨0⟩)]
    let start := Service.ofSettings settings
    let told := misconceptionsTold (deedsOf (start.deeds requests) "session-0001")
    0 ≤ settings.exam.thetaBound ∧ told = [⟨"n", .high, "No beta."⟩] ∧
    ∃ s, (start.run requests).registry.live? "session-0001" = some s ∧ s.status.isTerminal ∧
      s.CarriedThrough settings ∧ s.rubric.Unambiguous ∧ s.TrueTo settings told ∧
      .highSeverityMisconceptions 1 ∈ Flag.ofSession settings.flags s := by
  intro settings requests start told
  have bound : 0 ≤ settings.exam.thetaBound := by decide +kernel
  have heard : told = [⟨"n", .high, "No beta."⟩] := by decide +kernel
  have looks : ((start.run requests).registry.live? "session-0001").map (fun s =>
      (s.id, s.status.isTerminal, decide s.rubric.Unambiguous)) =
        some ("session-0001", true, true) := by
    decide +kernel
  obtain ⟨s, live, same⟩ := Option.map_eq_some_iff.mp looks
  simp only [Prod.mk.injEq, decide_eq_true_eq] at same
  obtain ⟨id, ended, clear⟩ := same
  obtain ⟨⟨-, through⟩, -, every⟩ := misconceptions_told_truly settings bound [] requests
  have truly := every "session-0001" s (.inl live) ended clear
  rw [id] at truly
  have once : told.countP (·.severity = .high) = 1 := by rw [heard]; rfl
  exact ⟨bound, heard, s, live, ended, through "session-0001" s (.inl live), clear, truly,
    (truly.counted 1).mpr ⟨once.symm, le_rfl⟩⟩

/-- Where both misconceptions have one identifier, the second one is told to the student, but is
neither counted nor corrected when the session ends. -/
theorem repeated_misconception_missed :
    let settings : Settings := { flags := { highSeverityLimit := 1, lowConfidenceError := 5.0 } }
    let requests : List (Request × Instant) :=
      [(.publish (.twoMisconceptions "m" "m"), ⟨0⟩), (.start "a" "al", ⟨0⟩),
        (.answer "session-0001" "owner and beta" none, ⟨0⟩)]
    let start := Service.ofSettings settings
    let told := misconceptionsTold (deedsOf (start.deeds requests) "session-0001")
    (Rubric.twoMisconceptions "m" "m").Checked ∧ told = [⟨"m", .high, "No beta."⟩] ∧
    ∃ s, (start.run requests).registry.live? "session-0001" = some s ∧
      s.rubric = .twoMisconceptions "m" "m" ∧ s.status.isTerminal ∧ s.flagged = false ∧
      s.verdict.map Verdict.improvements = some [] ∧ ¬ s.TrueTo settings told := by
  intro settings requests start told
  have checked : (Rubric.twoMisconceptions "m" "m").Checked :=
    (Rubric.isValid_iff _).mp (by decide +kernel)
  have heard : told = [⟨"m", .high, "No beta."⟩] := by decide +kernel
  have looks : ((start.run requests).registry.live? "session-0001").map (fun s =>
      (s.rubric, s.status.isTerminal, s.flagged, s.verdict.map Verdict.improvements)) =
        some (Rubric.twoMisconceptions "m" "m", true, false, some []) := by
    decide +kernel
  obtain ⟨s, live, same⟩ := Option.map_eq_some_iff.mp looks
  simp only [Prod.mk.injEq] at same
  obtain ⟨own, ended, unflagged, uncorrected⟩ := same
  refine ⟨checked, heard, s, live, own, ended, unflagged, uncorrected, ?_⟩
  intro truly
  -- The flag would be raised, once the one told misconception reaches the limit.
  have once : told.countP (·.severity = .high) = 1 := by rw [heard]; rfl
  have raised := (truly.counted 1).mpr ⟨once.symm, le_rfl⟩
  have flagged := truly.flagged
  rw [unflagged, eq_comm, Bool.not_eq_false', List.isEmpty_iff] at flagged
  rw [flagged] at raised
  cases raised

end World

end OralExam
