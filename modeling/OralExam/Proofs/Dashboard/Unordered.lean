import OralExam.Proofs.Arithmetic.Exact
import OralExam.Proofs.Dashboard
import OralExam.Proofs.Sorting

/-! Dashboards on sessions in any order.

Sessions come from a map, in no order of their own. Counts and rates do not depend on it, and neither
do the latest activities, which are sorted by a rank that no two sessions share. Sums are rounded on
their way, so that the averages alone can show the order; in exact arithmetic they do not. So it is too
for sessions of which some have changed in what no dashboard takes from them.
-/

set_option autoImplicit false

namespace OralExam

/-! ## The order of activities -/

section

variable {α : Type} {a b : Summary α} {sessions sessions' : List (Summary α)}

/-- The first session stands before the second: it was active later, or at the same time and it has the
smaller identifier. -/
def Summary.ActiveBefore (a b : Summary α) : Prop :=
  b.lastActivityAt < a.lastActivityAt ∨ a.lastActivityAt = b.lastActivityAt ∧ a.id < b.id

instance (a b : Summary α) : Decidable (a.ActiveBefore b) :=
  inferInstanceAs (Decidable (_ ∨ _))

/-- Later activities rank lower. -/
def Summary.activityRank (s : Summary α) : ℤ ×ₗ String := toLex (-s.lastActivityAt.nanoseconds, s.id)

theorem Summary.moreRecent_iff : a.moreRecent b ↔ a.ActiveBefore b := by
  unfold moreRecent Listing.compareTimes ActiveBefore
  rw [Ordering.isLT_iff_eq_lt, Ordering.then_eq_lt, compare_lt_iff_lt, compare_eq_iff_eq,
    compare_lt_iff_lt, Instant.mk.injEq, eq_comm]
  rfl

theorem Summary.activeBefore_iff : a.ActiveBefore b ↔ a.activityRank < b.activityRank := by
  unfold ActiveBefore activityRank
  rw [Prod.Lex.toLex_lt_toLex, neg_lt_neg_iff, neg_inj, Instant.mk.injEq]
  rfl

theorem ranks_moreRecent (sessions : List (Summary α)) :
    Sorting.Ranks Summary.activityRank Summary.moreRecent sessions :=
  fun _ _ _ _ => Summary.moreRecent_iff.trans Summary.activeBefore_iff

theorem Activity.latest_eq_of_perm (distinct : (sessions.map Summary.id).Nodup)
    (perm : sessions.Perm sessions') : latest sessions = latest sessions' := by
  rw [latest, latest, Sorting.sort_eq_of_perm (ranks_moreRecent sessions)
    (Sorting.nodup_ranks _ distinct) perm]

/-- These are the activities of different sessions, as many as there are up to ten, in their order, and
no session left out stands before one of them. -/
def ShowsLatest (sessions : List (Summary α)) (activities : List (Activity α)) : Prop :=
  ∃ listed : List (Summary α), activities = listed.map Summary.activity ∧
    listed.length = min 10 sessions.length ∧ listed ⊆ sessions ∧
    (listed.map Summary.id).Nodup ∧ listed.Pairwise Summary.ActiveBefore ∧
    ∀ s ∈ sessions, s ∉ listed → ∀ shown ∈ listed, ¬s.ActiveBefore shown

theorem showsLatest (distinct : (sessions.map Summary.id).Nodup) :
    ShowsLatest sessions (Activity.latest sessions) := by
  have perm := Sorting.sort_perm Summary.moreRecent sessions
  have rising := Sorting.pairwise_sort_lt (ranks_moreRecent sessions) (Sorting.nodup_ranks _ distinct)
  refine ⟨(Sorting.sort Summary.moreRecent sessions).take 10, rfl, ?_, ?_, ?_, ?_, ?_⟩
  · rw [List.length_take, perm.length_eq]
  · exact fun s shown => perm.mem_iff.mp (List.mem_of_mem_take shown)
  · have ids := (perm.map Summary.id).nodup_iff.mpr distinct
    exact ids.sublist ((List.take_sublist _ _).map _)
  · exact (rising.sublist (List.take_sublist _ _)).imp Summary.activeBefore_iff.mpr
  · -- Who is left out stands in the rest of the sorted list, behind all that are shown.
    intro s member hidden shown first
    rw [← List.take_append_drop 10 (Sorting.sort _ sessions)] at rising
    have later : s ∈ (Sorting.sort Summary.moreRecent sessions).drop 10 := by
      have sorted := perm.mem_iff.mpr member
      rw [← List.take_append_drop 10 (Sorting.sort _ sessions)] at sorted
      exact (List.mem_append.mp sorted).resolve_left hidden
    rw [Summary.activeBefore_iff]
    exact ((List.pairwise_append.mp rising).2.2 shown first s later).not_gt

end

/-! ## Counts and rates -/

section

variable {α : Type} {sessions sessions' : List (Summary α)}

theorem length_studentsIn_of_perm (perm : sessions.Perm sessions') :
    (studentsIn sessions).length = (studentsIn sessions').length := by
  apply List.Perm.length_eq
  refine (List.perm_ext_iff_of_nodup (nodup_eraseDups _) (nodup_eraseDups _)).mpr fun student => ?_
  rw [List.mem_eraseDups, List.mem_eraseDups]
  exact (perm.map Summary.studentId).mem_iff

theorem StatusOverview.ofSessions_of_perm (perm : sessions.Perm sessions') (roster : Option Nat) :
    ofSessions sessions roster = ofSessions sessions' roster := by
  simp only [ofSessions, length_studentsIn_of_perm perm, perm.countP_eq, perm.length_eq]

/-- The scores, as reviewed, of the sessions that have ended. -/
def endedScores (sessions : List (Summary α)) : List α :=
  (sessions.filter (·.status.isTerminal)).filterMap Summary.effectiveScore

/-- The abilities in the sessions that have ended. -/
def endedThetas (sessions : List (Summary α)) : List α :=
  (sessions.filter (·.status.isTerminal)).map Summary.theta

theorem endedScores_perm (perm : sessions.Perm sessions') :
    (endedScores sessions).Perm (endedScores sessions') :=
  (perm.filter _).filterMap _

theorem endedThetas_perm (perm : sessions.Perm sessions') :
    (endedThetas sessions).Perm (endedThetas sessions') :=
  (perm.filter _).map _

/-- The same dashboard with other averages. -/
def Dashboard.withAverages (d : Dashboard α) (score theta : Option α) : Dashboard α :=
  { d with quickStats := { d.quickStats with averageScore := score, averageTheta := theta } }

theorem Dashboard.recentActivity_withAverages (d : Dashboard α) (score theta : Option α) :
    (d.withAverages score theta).recentActivity = d.recentActivity := rfl

variable [Scalar α]

theorem markRate_of_perm {marks marks' : List Bool} (perm : marks.Perm marks') :
    (markRate marks : Option α) = markRate marks' := by
  rw [markRate, markRate, perm.isEmpty_eq, perm.countP_eq, perm.length_eq]

/-- The averages alone can show the order of the sessions. -/
theorem Dashboard.build_of_perm (distinct : (sessions.map Summary.id).Nodup)
    (perm : sessions.Perm sessions') (assignment : Assignment) (rubric : Option Rubric)
    (roster : Option Nat) (passingPercentage : α) :
    build assignment rubric sessions' roster passingPercentage =
      (build assignment rubric sessions roster passingPercentage).withAverages
        (Scalar.mean (endedScores sessions')) (Scalar.mean (endedThetas sessions')) := by
  have ended := perm.filter fun s => s.status.isTerminal
  have rate : (markRate _ : Option α) = markRate _ :=
    markRate_of_perm (ended.filterMap (Summary.effectivePass passingPercentage))
  -- All other figures are counts over what a permutation keeps.
  simp only [build, withAverages, QuickStats.ofSessions, StatusOverview.ofSessions_of_perm perm,
    Activity.latest_eq_of_perm distinct perm, length_studentsIn_of_perm perm, ended.length_eq, rate,
    perm.countP_eq, endedScores, endedThetas]

end

/-! ## Sessions that look alike -/

section

variable {α β : Type} {f : α → β} {xs ys : List α}

/-- Lists that look alike up to order look alike once one of them is reordered. -/
theorem exists_perm_of_map_perm (alike : (ys.map f).Perm (xs.map f)) :
    ∃ zs : List α, zs.Perm xs ∧ ys.map f = zs.map f := by
  have entries : List.Forall₂ (fun b a => b = f a) (xs.map f) xs := by
    rw [List.forall₂_map_left_iff]
    exact List.forall₂_same.mpr fun _ _ => rfl
  obtain ⟨zs, same, perm⟩ := List.perm_comp_forall₂ alike entries
  refine ⟨zs, perm, ?_⟩
  rw [← List.forall₂_eq_eq_eq, List.forall₂_map_right_iff]
  exact same

theorem eq_of_perm_of_map_eq (perm : ys.Perm xs) (distinct : (xs.map f).Nodup)
    (same : ys.map f = xs.map f) : ys = xs := by
  refine List.ext_getElem perm.length_eq fun k inside inside' => ?_
  refine List.inj_on_of_nodup_map distinct (perm.mem_iff.mp (List.getElem_mem inside))
    (List.getElem_mem inside') ?_
  have selected := congrArg (·[k]?) same
  simpa [inside, inside'] using selected

end

section

variable {sessions sessions' : List (Summary Float)} {passingPercentage : Float}

/-- A dashboard takes the same from the one sessions and from the others, in whatever orders they come. -/
def LookAlike (passingPercentage : Float) (sessions sessions' : List (Summary Float)) : Prop :=
  (sessions'.map (Summary.figure passingPercentage)).Perm
    (sessions.map (Summary.figure passingPercentage))

theorem LookAlike.endedScores_perm (alike : LookAlike passingPercentage sessions sessions') :
    (endedScores sessions').Perm (endedScores sessions) := by
  have taken (sessions : List (Summary Float)) : endedScores sessions = _ :=
    filterMap_ended Figure.score passingPercentage sessions
  rw [taken, taken]
  exact (alike.filter _).filterMap _

theorem LookAlike.endedThetas_perm (alike : LookAlike passingPercentage sessions sessions') :
    (endedThetas sessions').Perm (endedThetas sessions) := by
  have taken (sessions : List (Summary Float)) : endedThetas sessions = _ :=
    (congrFun List.filterMap_eq_map.symm _).trans
      (filterMap_ended (fun f => some f.theta) passingPercentage sessions)
  rw [taken, taken]
  exact (alike.filter _).filterMap _

/-- In the same order they look the same one by one. -/
theorem LookAlike.map_eq (alike : LookAlike passingPercentage sessions sessions')
    (distinct : (sessions.map Summary.id).Nodup)
    (order : sessions'.map Summary.id = sessions.map Summary.id) :
    sessions'.map (Summary.figure passingPercentage) =
      sessions.map (Summary.figure passingPercentage) := by
  have named (sessions : List (Summary Float)) :
      (sessions.map (Summary.figure passingPercentage)).map (·.activity.sessionId) =
        sessions.map Summary.id :=
    List.map_map
  refine eq_of_perm_of_map_eq (f := fun f => f.activity.sessionId) alike ?_ ?_
  · rw [named]
    exact distinct
  · rw [named, named, order]

/-- Their dashboards are the same, but for the averages and for the reviews that are missing. -/
theorem LookAlike.build_eq (alike : LookAlike passingPercentage sessions sessions')
    (distinct : (sessions.map Summary.id).Nodup) (assignment : Assignment)
    (rubric : Option Rubric) (roster : Option Nat) :
    let d := Dashboard.build assignment rubric sessions roster passingPercentage
    let d' := Dashboard.build assignment rubric sessions' roster passingPercentage
    d' = Dashboard.withAverages { d with quickStats :=
      { d.quickStats with pendingReview := d'.quickStats.pendingReview } }
        d'.quickStats.averageScore d'.quickStats.averageTheta := by
  intro d d'
  obtain ⟨listed, perm, same⟩ := exists_perm_of_map_perm alike
  have looks : d' = _ := Dashboard.build_congr same assignment rubric roster
  have order : Dashboard.build assignment rubric listed roster passingPercentage = _ :=
    Dashboard.build_of_perm distinct perm.symm assignment rubric roster passingPercentage
  rw [looks, order]
  rfl

end

/-! ## Averages in exact arithmetic -/

section

open scoped Exact

theorem Exact.mean_of_perm {xs ys : List ℝ} (perm : xs.Perm ys) :
    Scalar.mean xs = Scalar.mean ys := by
  rw [Scalar.mean, Scalar.mean, sum_eq, sum_eq, perm.isEmpty_eq, perm.sum_eq, perm.length_eq]

/-- In exact arithmetic the order of the sessions does not show at all. -/
theorem Exact.build_of_perm {sessions sessions' : List (Summary ℝ)}
    (distinct : (sessions.map Summary.id).Nodup) (perm : sessions.Perm sessions')
    (assignment : Assignment) (rubric : Option Rubric) (roster : Option Nat)
    (passingPercentage : ℝ) :
    Dashboard.build assignment rubric sessions' roster passingPercentage =
      Dashboard.build assignment rubric sessions roster passingPercentage := by
  rw [Dashboard.build_of_perm distinct perm, ← mean_of_perm (endedScores_perm perm),
    ← mean_of_perm (endedThetas_perm perm)]
  rfl

/-- The same session with its figures read as others. -/
def Summary.map {α β : Type} (value : α → β) (s : Summary α) : Summary β :=
  { s with
    theta := value s.theta
    standardError := value s.standardError
    overallScore := s.overallScore.map value
    scoreOverride := s.scoreOverride.map value }

/-- In exact arithmetic sessions that look alike have the same averages. -/
theorem LookAlike.averages_eq {passingPercentage : Float} {sessions sessions' : List (Summary Float)}
    (alike : LookAlike passingPercentage sessions sessions') (value : Float → ℝ) :
    Scalar.mean (endedScores (sessions'.map (Summary.map value))) =
      Scalar.mean (endedScores (sessions.map (Summary.map value))) ∧
    Scalar.mean (endedThetas (sessions'.map (Summary.map value))) =
      Scalar.mean (endedThetas (sessions.map (Summary.map value))) := by
  have scores (sessions : List (Summary Float)) :
      endedScores (sessions.map (Summary.map value)) = (endedScores sessions).map value := by
    have taken (s : Summary Float) :
        (s.map value).effectiveScore = s.effectiveScore.map value := Option.map_or.symm
    simp only [endedScores, List.filter_map, List.filterMap_map, List.map_filterMap,
      Function.comp_def, taken]
    rfl
  have thetas (sessions : List (Summary Float)) :
      endedThetas (sessions.map (Summary.map value)) = (endedThetas sessions).map value := by
    simp only [endedThetas, List.filter_map, List.map_map]
    rfl
  rw [scores, scores, thetas, thetas]
  exact ⟨Exact.mean_of_perm (alike.endedScores_perm.map value),
    Exact.mean_of_perm (alike.endedThetas_perm.map value)⟩

/-- Where sessions have different identifiers, their dashboard is the same in whatever order they come:
all of it in exact arithmetic, for any real numbers that the doubles stand for, and all but its two
averages as it is computed, which are then means of the same values in different orders. The activities
on it are the latest ones. -/
theorem Dashboard.same_in_any_order (sessions sessions' : List (Summary Float))
    (distinct : (sessions.map Summary.id).Nodup) (perm : sessions.Perm sessions')
    (assignment : Assignment) (rubric : Option Rubric) (roster : Option Nat)
    (passingPercentage : Float) :
    let d := build assignment rubric sessions roster passingPercentage
    let d' := build assignment rubric sessions' roster passingPercentage
    (∀ value : Float → ℝ,
      build assignment rubric (sessions'.map (Summary.map value)) roster (value passingPercentage) =
        build assignment rubric (sessions.map (Summary.map value)) roster
          (value passingPercentage)) ∧
    (d = d.withAverages (Scalar.mean (endedScores sessions)) (Scalar.mean (endedThetas sessions)) ∧
      d' = d.withAverages (Scalar.mean (endedScores sessions'))
        (Scalar.mean (endedThetas sessions'))) ∧
    ((endedScores sessions).Perm (endedScores sessions') ∧
      (endedThetas sessions).Perm (endedThetas sessions')) ∧
    ShowsLatest sessions d.recentActivity := by
  intro d d'
  refine ⟨?exact, ⟨rfl, build_of_perm distinct perm assignment rubric roster passingPercentage⟩,
    ⟨endedScores_perm perm, endedThetas_perm perm⟩, showsLatest distinct⟩
  intro value
  refine Exact.build_of_perm ?_ (perm.map _) assignment rubric roster _
  rw [List.map_map]
  exact distinct

/-- Twelve sessions, the last two active at one time, turned around: the latest ten stay, and the
average, which is rounded at each score, does not. -/
theorem Dashboard.twelve_turned_around :
    let session (n : Nat) : Summary Float :=
      { id := "s" ++ toString n, assignmentId := "a", studentId := "u" ++ toString (n % 5)
        attempt := 1, status := .completed, startedAt := ⟨0⟩, completedAt := some ⟨60⟩
        lastActivityAt := ⟨min n 10⟩, questionsAnswered := 3, theta := 0.0, standardError := 0.5
        overallScore := some (Float.ofNat n / 11), level := none, passed := some true
        flagged := false, flagReason := none, reviewed := false, scoreOverride := none }
    let sessions := (List.range 12).map session
    let d := build { id := "a" } none sessions (some 30) 60.0
    let d' := build { id := "a" } none sessions.reverse (some 30) 60.0
    (sessions.map Summary.id).Nodup ∧ sessions.Perm sessions.reverse ∧
    d.recentActivity.map Activity.sessionId =
      ["s10", "s11", "s9", "s8", "s7", "s6", "s5", "s4", "s3", "s2"] ∧
    d.quickStats.averageScore ≠ d'.quickStats.averageScore ∧
    d'.recentActivity = d.recentActivity ∧ ShowsLatest sessions d.recentActivity := by
  intro session sessions d d'
  have distinct : (sessions.map Summary.id).Nodup := by decide +kernel
  have perm : sessions.Perm sessions.reverse := sessions.reverse_perm.symm
  obtain ⟨-, ⟨-, same⟩, -, latest⟩ :=
    same_in_any_order sessions sessions.reverse distinct perm { id := "a" } none (some 30) 60.0
  have kept : d'.recentActivity = d.recentActivity :=
    (congrArg recentActivity same).trans (recentActivity_withAverages _ _ _)
  exact ⟨distinct, perm, by decide +kernel, by decide +kernel, kept, latest⟩

end

end OralExam
