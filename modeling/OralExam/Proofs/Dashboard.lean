import Mathlib.Data.List.Perm.Subperm
import OralExam.Dashboard
import OralExam.Proofs.Session.Measures

/-! The figures of a dashboard.

They are counts over the sessions of an assignment and means over those that have ended. They agree
with each other if each session goes on or has ended, is decided and flagged at its end only, and no
student has two sessions that go on.
-/

set_option autoImplicit false

namespace OralExam

open Double

/-! ## Lists -/

section

variable {α β : Type}

theorem length_eraseDups_le [BEq α] : (xs : List α) → xs.eraseDups.length ≤ xs.length
  | [] => by simp
  | x :: xs => by
    have shorter := length_eraseDups_le (xs.filter fun y => !y == x)
    have fewer := List.length_filter_le (fun y => !y == x) xs
    rw [List.eraseDups_cons, List.length_cons, List.length_cons]
    omega
termination_by xs => xs.length
decreasing_by exact Nat.lt_succ_of_le (List.length_filter_le _ _)

theorem nodup_eraseDups [BEq α] [LawfulBEq α] : (xs : List α) → xs.eraseDups.Nodup
  | [] => by simp
  | x :: xs => by
    rw [List.eraseDups_cons, List.nodup_cons]
    exact ⟨by simp [List.mem_eraseDups], nodup_eraseDups (xs.filter fun y => !y == x)⟩
termination_by xs => xs.length
decreasing_by exact Nat.lt_succ_of_le (List.length_filter_le _ _)

theorem length_filterMap_of_isSome {f : α → Option β} {xs : List α}
    (all : ∀ x ∈ xs, (f x).isSome) : (xs.filterMap f).length = xs.length := by
  rw [List.length_filterMap_eq_countP, List.countP_eq_length]
  exact all

end

/-! ## Means -/

theorem Scalar.isSome_mean_iff {α : Type} [Scalar α] {xs : List α} :
    (mean xs).isSome ↔ 0 < xs.length := by
  cases xs <;> simp [mean]

theorem isSome_markRate_iff {marks : List Bool} :
    (markRate marks : Option Float).isSome ↔ 0 < marks.length := by
  cases marks <;> simp [markRate]

theorem eq_of_mem_markRate {marks : List Bool} {x : Float} (given : x ∈ markRate marks) :
    x = Float.ofNat (marks.countP id) / Float.ofNat marks.length := by
  unfold markRate at given
  split at given
  · cases given
  · exact (Option.some.inj given).symm

/-- A sum of shares, one by one. -/
theorem sum_shares_between {xs : List Float} (shares : ∀ x ∈ xs, Between 0 1 x) :
    Between 0 (mostShares xs.length) (Scalar.sum xs) := by
  induction xs using List.reverseRecOn with
  | nil => exact ⟨0, denotes_zero, le_rfl, Nat.cast_nonneg _⟩
  | append_singleton xs x ih =>
    have before := ih fun y member => shares y (List.mem_append_left _ member)
    rw [Scalar.sum, List.foldl_append, List.length_append]
    exact between_add_share before (shares x (by simp))

theorem mean_between {xs : List Float} (shares : ∀ x ∈ xs, Between 0 1 x) :
    ∀ x ∈ Scalar.mean xs, Between 0 1 x := by
  intro x given
  have some : 0 < xs.length := Scalar.isSome_mean_iff.mp (by rw [given]; rfl)
  rw [Scalar.mean, if_neg (by simpa using List.length_pos_iff.mp some)] at given
  cases given
  exact mean_shares_between (sum_shares_between shares) some

/-! ## Sessions as they are shown -/

theorem Verdict.literal_hundred : (100.0 : Float) = Scalar.ofNat 100 := by decide +kernel

namespace Session

variable {s : Session}

/-- The session goes on, or has ended with a score and a mark; it is flagged at its end only. -/
structure Presentable (s : Session) : Prop where
  status : s.status = .inProgress ∨ s.status.isTerminal
  flagged : s.flagged → s.status.isTerminal
  decided : s.status.isTerminal → s.overallScore.isSome ∧ s.passed.isSome

/-- The score that an instructor gave instead, or else the computed one, is a share of one. -/
def SharedScore (s : Session) : Prop :=
  ∀ x, (s.review.scoreOverride.or s.overallScore) = some x → Between 0 1 x

/-- The session passes as reviewed: an instructor's score passes by the mark that is set for computed
ones, and without one the verdict stands. -/
def passesReviewed (grading : GradingPolicy) (s : Session) : Bool :=
  match s.review.scoreOverride with
  | some score => Verdict.passes grading score
  | none => s.passed = some true

theorem effectivePass_summary (decided : s.passed.isSome) (grading : GradingPolicy) :
    s.summary.effectivePass grading.passingPercentage = some (s.passesReviewed grading) := by
  obtain ⟨passed, own⟩ := Option.isSome_iff_exists.mp decided
  simp only [Summary.effectivePass, summary, passesReviewed, Verdict.passes,
    Verdict.literal_hundred]
  cases s.review.scoreOverride with
  | some score => rfl
  | none => simp [own]

theorem isSome_effectiveScore (decided : s.overallScore.isSome) : s.summary.effectiveScore.isSome := by
  obtain ⟨score, own⟩ := Option.isSome_iff_exists.mp decided
  simp only [Summary.effectiveScore, summary, own]
  cases s.review.scoreOverride <;> rfl

end Session

/-! ## Counts -/

section

variable {sessions : List Session}

theorem filter_isTerminal_summary (sessions : List Session) :
    (sessions.map Session.summary).filter (·.status.isTerminal) =
      (sessions.filter (·.status.isTerminal)).map Session.summary := by
  rw [List.filter_map]
  rfl

/-- Each session is counted under one status. -/
theorem StatusOverview.counts (each : ∀ s ∈ sessions, s.Presentable) (roster : Option Nat) :
    let o := StatusOverview.ofSessions (sessions.map Session.summary) roster
    o.completed + o.submitted + o.failed + o.abandoned =
      (sessions.filter (·.status.isTerminal)).length ∧
    o.inProgress + (sessions.filter (·.status.isTerminal)).length = o.totalSessions := by
  induction sessions with
  | nil => exact ⟨rfl, rfl⟩
  | cons s rest ih =>
    obtain ⟨ended, all⟩ := ih fun t member => each t (List.mem_cons_of_mem s member)
    have status := (each s List.mem_cons_self).status
    simp only [ofSessions, List.map_cons, List.countP_cons, List.length_cons, List.filter_cons,
      Session.summary] at ended all ⊢
    cases own : s.status with
    | notStarted => simp [own, Status.isTerminal] at status
    | inProgress | completed | submitted | failed | abandoned =>
      simp [Status.isTerminal] at ended all ⊢
      omega

/-- Whoever has a session that goes on has attempted the assignment. -/
theorem StatusOverview.inProgress_le
    (single : ((sessions.filter (·.status = .inProgress)).map Session.studentId).Nodup)
    (roster : Option Nat) :
    (StatusOverview.ofSessions (sessions.map Session.summary) roster).inProgress ≤
      (studentsIn (sessions.map Session.summary)).length := by
  have count : (StatusOverview.ofSessions (sessions.map Session.summary) roster).inProgress =
      ((sessions.filter (·.status = .inProgress)).map Session.studentId).length := by
    rw [List.length_map, ← List.countP_eq_length_filter]
    exact List.countP_map
  rw [count]
  refine single.length_le_of_subset ?_
  intro student member
  obtain ⟨s, going, rfl⟩ := List.mem_map.mp member
  rw [studentsIn, List.mem_eraseDups, List.map_map]
  exact List.mem_map.mpr ⟨s, List.mem_of_mem_filter going, rfl⟩

theorem length_studentsIn_le (sessions : List (Summary Float)) :
    (studentsIn sessions).length ≤ sessions.length := by
  simpa [studentsIn] using length_eraseDups_le (sessions.map Summary.studentId)

/-- Only sessions that have ended are flagged. -/
theorem countP_flagged_le (each : ∀ s ∈ sessions, s.Presentable) :
    (sessions.map Session.summary).countP (·.flagged) ≤
      (sessions.filter (·.status.isTerminal)).length := by
  rw [List.countP_map, ← List.countP_eq_length_filter]
  exact List.countP_mono_left fun s member flagged => (each s member).flagged flagged

end

/-! ## Figures that agree -/

/-- The figures of a dashboard on these sessions agree with each other, and with the roster if there is
one and 32 bits are enough for the students who attempted. -/
structure Dashboard.Consistent (grading : GradingPolicy) (sessions : List Session)
    (roster : Option Nat) (d : Dashboard Float) : Prop where
  total : d.statusOverview.totalSessions = sessions.length
  statuses : d.statusOverview.inProgress + d.statusOverview.completed +
    d.statusOverview.submitted + d.statusOverview.failed + d.statusOverview.abandoned =
      d.statusOverview.totalSessions
  finished : d.quickStats.finishedSessions = d.statusOverview.completed +
    d.statusOverview.submitted + d.statusOverview.failed + d.statusOverview.abandoned
  ended : d.quickStats.finishedSessions = sessions.countP (·.status.isTerminal)
  students : d.statusOverview.inProgress ≤ d.quickStats.studentsAttempted ∧
    d.quickStats.studentsAttempted ≤ d.statusOverview.totalSessions
  flagged : d.quickStats.pendingReview ≤ d.quickStats.flagged ∧
    d.quickStats.flagged ≤ d.quickStats.finishedSessions
  present : (d.quickStats.averageScore.isSome ↔ 0 < d.quickStats.finishedSessions) ∧
    (d.quickStats.passRate.isSome ↔ 0 < d.quickStats.finishedSessions) ∧
    (d.quickStats.averageTheta.isSome ↔ 0 < d.quickStats.finishedSessions)
  passRate : ∀ x ∈ d.quickStats.passRate, x =
    Float.ofNat (sessions.countP fun s => s.status.isTerminal && s.passesReviewed grading) /
      Float.ofNat d.quickStats.finishedSessions
  notStarted : ∀ students ∈ roster, d.quickStats.studentsAttempted < Word.size32 →
    ∃ n ∈ d.statusOverview.notStarted, n + min d.quickStats.studentsAttempted students = students

/-- The rates on a dashboard are shares of one, as long as 64 bits are enough for the sessions. -/
structure Dashboard.Shared (d : Dashboard Float) : Prop where
  averageScore : ∀ x ∈ d.quickStats.averageScore, Session.IsPart x
  passRate : d.statusOverview.totalSessions < Word.size64 →
    ∀ x ∈ d.quickStats.passRate, Session.IsPart x
  participation : d.statusOverview.totalSessions < Word.size64 →
    ∀ x ∈ d.quickStats.participationRate, Session.IsPart x

section

variable {sessions : List Session} {grading : GradingPolicy}

/-- The marks of the sessions that have ended. -/
theorem marks_eq (each : ∀ s ∈ sessions, s.Presentable) (grading : GradingPolicy) :
    ((sessions.map Session.summary).filter (·.status.isTerminal)).filterMap
        (Summary.effectivePass grading.passingPercentage) =
      (sessions.filter (·.status.isTerminal)).map (Session.passesReviewed grading) := by
  rw [filter_isTerminal_summary, List.filterMap_map, ← List.filterMap_eq_map]
  refine List.filterMap_congr fun s member => ?_
  obtain ⟨known, ended⟩ := List.mem_filter.mp member
  exact Session.effectivePass_summary ((each s known).decided ended).2 grading

theorem length_scores (each : ∀ s ∈ sessions, s.Presentable) :
    (((sessions.map Session.summary).filter (·.status.isTerminal)).filterMap
        Summary.effectiveScore).length = (sessions.filter (·.status.isTerminal)).length := by
  rw [filter_isTerminal_summary, List.filterMap_map]
  refine length_filterMap_of_isSome fun s member => ?_
  obtain ⟨known, ended⟩ := List.mem_filter.mp member
  exact Session.isSome_effectiveScore ((each s known).decided ended).1

theorem Dashboard.consistent_build (each : ∀ s ∈ sessions, s.Presentable)
    (single : ((sessions.filter (·.status = .inProgress)).map Session.studentId).Nodup)
    (assignment : Assignment) (rubric : Option Rubric) (grading : GradingPolicy)
    (roster : Option Nat) :
    (build assignment rubric (sessions.map Session.summary) roster
      grading.passingPercentage).Consistent grading sessions roster := by
  obtain ⟨ended, all⟩ := StatusOverview.counts each roster
  have finished : (build assignment rubric (sessions.map Session.summary) roster
      grading.passingPercentage).quickStats.finishedSessions =
        (sessions.filter (·.status.isTerminal)).length := by
    simp only [build, QuickStats.ofSessions, filter_isTerminal_summary, List.length_map]
  have marks := marks_eq each grading
  constructor
  case total => exact List.length_map _
  case statuses =>
    change _ = (StatusOverview.ofSessions (sessions.map Session.summary) roster).totalSessions
    rw [← all, ← ended]
    simp only [build]
    omega
  case finished => exact finished.trans ended.symm
  case ended => rw [finished, List.countP_eq_length_filter]
  case students =>
    exact ⟨StatusOverview.inProgress_le single roster, length_studentsIn_le _⟩
  case flagged =>
    refine ⟨List.countP_mono_left fun s _ pending => ?_, ?_⟩
    · simp only [Bool.and_eq_true] at pending
      exact pending.1
    · rw [finished]
      exact countP_flagged_le each
  case present =>
    rw [finished]
    refine ⟨Scalar.isSome_mean_iff.trans ?_, isSome_markRate_iff.trans ?_,
      Scalar.isSome_mean_iff.trans ?_⟩
    · rw [length_scores each]
    · rw [marks, List.length_map]
    · rw [List.length_map, filter_isTerminal_summary, List.length_map]
  case passRate =>
    intro x given
    have rate := eq_of_mem_markRate given
    rw [marks, List.countP_map, List.length_map, List.countP_filter, ← finished] at rate
    rw [rate]
    congr 3
    funext s
    exact Bool.and_comm _ _
  case notStarted =>
    rintro students rfl few
    refine ⟨_, rfl, ?_⟩
    simp only [build, QuickStats.ofSessions] at few ⊢
    rw [Nat.mod_eq_of_lt few]
    omega

/-- On sessions whose scores are shares of one, so are the rates. -/
theorem Dashboard.shared_build (shared : ∀ s ∈ sessions, s.SharedScore) (assignment : Assignment)
    (rubric : Option Rubric) (passingPercentage : Float) (roster : Option Nat) :
    (build assignment rubric (sessions.map Session.summary) roster passingPercentage).Shared := by
  constructor
  case averageScore =>
    intro x given
    refine Session.isPart_of_between (mean_between ?_ x given)
    intro score member
    rw [filter_isTerminal_summary, List.filterMap_map] at member
    obtain ⟨s, ended, own⟩ := List.mem_filterMap.mp member
    exact shared s (List.mem_of_mem_filter ended) score own
  case passRate =>
    intro few x given
    have some := isSome_markRate_iff.mp (Option.isSome_of_mem given)
    rw [eq_of_mem_markRate given]
    -- There are no more marks than sessions.
    refine Session.isPart_of_between (ratio_between List.countP_le_length some ?_)
    refine (List.countP_le_length.trans ?_).trans_lt few
    exact (List.length_filterMap_le _ _).trans (List.length_filter_le _ _)
  case participation =>
    intro few x given
    obtain ⟨students, roster, rfl⟩ := Option.map_eq_some_iff.mp given
    have some : 0 < students := by simpa using Option.filter_eq_some_iff.mp roster |>.2
    have word : (studentsIn (sessions.map Session.summary)).length < Word.size64 :=
      (length_studentsIn_le _).trans_lt few
    exact Session.isPart_of_between ((quotient_between word some).atMost denotes_one zero_le_one)

end

/-! ## Sessions that look alike -/

/-- What a dashboard takes from a session, but for whether it was reviewed. -/
structure Figure where
  score : Option Float
  passed : Option Bool
  theta : Float
  activity : Activity Float

def Summary.figure (passingPercentage : Float) (s : Summary Float) : Figure :=
  ⟨s.effectiveScore, s.effectivePass passingPercentage, s.theta, s.activity⟩

/-- The order of the latest activities. -/
def Figure.moreRecent (a b : Figure) : Bool :=
  ((Listing.compareTimes b.activity.timestamp a.activity.timestamp).then
    (compare a.activity.sessionId b.activity.sessionId)).isLT

section

variable {sessions sessions' : List (Summary Float)} {passingPercentage : Float}

theorem Activity.latest_eq (passingPercentage : Float) (sessions : List (Summary Float)) :
    latest sessions = ((Sorting.sort Figure.moreRecent
      (sessions.map (Summary.figure passingPercentage))).take 10).map Figure.activity := by
  have sorted : Sorting.sort Figure.moreRecent (sessions.map (Summary.figure passingPercentage)) =
      (Sorting.sort Summary.moreRecent sessions).map (Summary.figure passingPercentage) :=
    Sorting.sort_map (fun _ _ => rfl) sessions
  rw [sorted, latest, ← List.map_take, List.map_map]
  rfl

/-- What is taken from the sessions that have ended. -/
theorem filterMap_ended {β : Type} (f : Figure → Option β) (passingPercentage : Float)
    (sessions : List (Summary Float)) :
    (sessions.filter (·.status.isTerminal)).filterMap (fun s => f (s.figure passingPercentage)) =
      ((sessions.map (Summary.figure passingPercentage)).filter
        (·.activity.status.isTerminal)).filterMap f := by
  rw [List.filter_map, List.filterMap_map]
  rfl

/-- A dashboard on sessions that look alike is the same, but for the reviews that are missing. -/
theorem Dashboard.build_congr
    (same : sessions'.map (Summary.figure passingPercentage) =
      sessions.map (Summary.figure passingPercentage))
    (assignment : Assignment) (rubric : Option Rubric) (roster : Option Nat) :
    let d := build assignment rubric sessions roster passingPercentage
    let d' := build assignment rubric sessions' roster passingPercentage
    d' = { d with quickStats :=
      { d.quickStats with pendingReview := d'.quickStats.pendingReview } } := by
  have students : studentsIn sessions' = studentsIn sessions := by
    have ids := congrArg (List.map fun f => f.activity.studentId) same
    rw [List.map_map, List.map_map] at ids
    exact congrArg List.eraseDups ids
  have counts (p : Figure → Bool) : sessions'.countP (fun s => p (s.figure passingPercentage)) =
      sessions.countP fun s => p (s.figure passingPercentage) := by
    have figures := congrArg (List.countP p) same
    rwa [List.countP_map, List.countP_map] at figures
  have ended {β : Type} (f : Figure → Option β) :
      (sessions'.filter (·.status.isTerminal)).filterMap (fun s => f (s.figure passingPercentage)) =
      (sessions.filter (·.status.isTerminal)).filterMap fun s => f (s.figure passingPercentage) := by
    rw [filterMap_ended, same, filterMap_ended]
  have total : sessions'.length = sessions.length := by
    simpa using congrArg List.length same
  have latest : Activity.latest sessions' = Activity.latest sessions := by
    rw [Activity.latest_eq passingPercentage, same, ← Activity.latest_eq]
  intro d d'
  have overview : d'.statusOverview = d.statusOverview := by
    have status (status : Status) : sessions'.countP (·.status = status) =
        sessions.countP (·.status = status) := counts fun f => f.activity.status = status
    simp only [d, d', build, StatusOverview.ofSessions, students, status, total]
  have stats : d'.quickStats =
      { d.quickStats with pendingReview := d'.quickStats.pendingReview } := by
    have finished : (sessions'.filter (·.status.isTerminal)).length =
        (sessions.filter (·.status.isTerminal)).length := by
      rw [← List.countP_eq_length_filter, ← List.countP_eq_length_filter]
      exact counts fun f => f.activity.status.isTerminal
    have scores : (sessions'.filter (·.status.isTerminal)).filterMap Summary.effectiveScore =
        (sessions.filter (·.status.isTerminal)).filterMap Summary.effectiveScore :=
      ended Figure.score
    have marks : (sessions'.filter (·.status.isTerminal)).filterMap
          (Summary.effectivePass passingPercentage) =
        (sessions.filter (·.status.isTerminal)).filterMap
          (Summary.effectivePass passingPercentage) :=
      ended Figure.passed
    have thetas : (sessions'.filter (·.status.isTerminal)).map Summary.theta =
        (sessions.filter (·.status.isTerminal)).map Summary.theta := by
      rw [← List.filterMap_eq_map]
      exact ended fun f => some f.theta
    have flagged : sessions'.countP (·.flagged) = sessions.countP (·.flagged) :=
      counts fun f => f.activity.flagged
    simp only [d, d', build, QuickStats.ofSessions, students, finished, scores, marks, thetas,
      flagged]
  calc d' = ⟨assignment.id, d'.statusOverview, d'.quickStats, .of assignment rubric,
        Activity.latest sessions'⟩ := rfl
    _ = _ := by
      rw [overview, stats, latest]
      rfl

end

end OralExam
