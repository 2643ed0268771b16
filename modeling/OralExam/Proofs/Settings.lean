import OralExam.Proofs.Arithmetic.Number
import OralExam.Proofs.Session.Measures
import OralExam.Settings.Document

/-! Repaired settings.

A repair brings every setting that it looks at into its range, and leaves alone what is in its range,
so a second repair changes nothing. One value slips through: a share that is no number is neither below
zero nor above one, and stays as it is.
-/

set_option autoImplicit false

namespace OralExam

open Double

/-! ## Shares -/

section

variable {x : Float}

theorem unit_of_isShare (share : isShare x) : Scalar.unit x = x := by
  obtain ⟨a, denotes, above, below⟩ := between_of_isShare share
  have low : ¬x < Scalar.zero := by
    rw [denotes.lt_iff denotes_zero]
    exact_mod_cast above.not_gt
  have high : ¬Scalar.one < x := by
    rw [denotes_one.lt_iff denotes]
    exact_mod_cast below.not_gt
  simp [Scalar.unit, Scalar.clamp, low, high]

theorem unit_of_not_isNumber (none : ¬IsNumber x) : Scalar.unit x = x := by
  have low : ¬x < Scalar.zero := fun less => none (isNumber_of_lt less).1
  have high : ¬Scalar.one < x := fun less => none (isNumber_of_lt less).2
  simp [Scalar.unit, Scalar.clamp, low, high]

/-- What is brought into the unit interval is there, unless it is no number. -/
theorem isShare_unit_iff : isShare (Scalar.unit x) ↔ x.isNaN = false := by
  rw [← isNumber_iff]
  constructor
  · intro share
    by_contra none
    rw [unit_of_not_isNumber none] at share
    exact none (between_of_isShare share).isNumber
  · exact fun number => Session.isShare_of_between (between_unit number)

theorem unit_unit (x : Float) : Scalar.unit (Scalar.unit x) = Scalar.unit x := by
  by_cases number : IsNumber x
  · exact unit_of_isShare (isShare_unit_iff.mpr (isNumber_iff.mp number))
  · rw [unit_of_not_isNumber number, unit_of_not_isNumber number]

end

/-! ## The parts of the settings -/

/-- There is something to ask, the fewest questions are no more than the most, and abilities and their
first error are measured by finite positive numbers. -/
structure ExamPolicy.Workable (p : ExamPolicy) : Prop where
  some_question : 1 ≤ p.maxQuestions
  fewest : p.minQuestions ≤ p.maxQuestions
  bound : isPositive p.thetaBound
  prior : isPositive p.priorStandardError

namespace ExamPolicy

variable {p : ExamPolicy}

theorem workable_repaired (p : ExamPolicy) : p.repaired.Workable := by
  constructor <;> simp only [repaired]
  case some_question =>
    split <;> omega
  case fewest =>
    split <;> split <;> omega
  case bound =>
    split
    · assumption
    · decide +kernel
  case prior =>
    split
    · assumption
    · decide +kernel

theorem repaired_of_workable (workable : p.Workable) : p.repaired = p := by
  have some : p.maxQuestions ≠ 0 := (Nat.lt_of_lt_of_le Nat.zero_lt_one workable.some_question).ne'
  simp only [repaired, if_neg some, if_neg workable.fewest.not_gt, if_pos workable.bound,
    if_pos workable.prior]

end ExamPolicy

namespace GradingPolicy

variable {p : GradingPolicy}

theorem bands_repaired (p : GradingPolicy) : bandsAreValid p.repaired.bands := by
  have usual : bandsAreValid ({} : GradingPolicy).bands := by decide +kernel
  unfold repaired
  split
  · assumption
  · exact usual

theorem repaired_of_bands (valid : bandsAreValid p.bands) : p.repaired = p := if_pos valid

end GradingPolicy

namespace ScoringPolicy

variable {p : ScoringPolicy Float}

theorem repaired_of_isShare (weight : isShare p.semanticWeight)
    (penalty : isShare p.misconceptionPenalty) : p.repaired = p := by
  rw [repaired, unit_of_isShare weight, unit_of_isShare penalty]

theorem repaired_repaired (p : ScoringPolicy Float) : p.repaired.repaired = p.repaired := by
  simp only [repaired, unit_unit]

end ScoringPolicy

/-! ## Settings as a whole -/

namespace Settings

/-- Sessions can be held and graded by the settings. -/
structure Workable (s : Settings) : Prop where
  exam : s.exam.Workable
  bands : bandsAreValid s.grading.bands

/-- What a repair may touch of the settings. -/
def TouchedOnly (s t : Settings) : Prop :=
  ∃ maxQuestions minQuestions thetaBound priorStandardError semanticWeight misconceptionPenalty bands,
    t = { s with
      exam := { s.exam with maxQuestions, minQuestions, thetaBound, priorStandardError }
      scoring := { s.scoring with semanticWeight, misconceptionPenalty }
      grading := { s.grading with bands } }

variable {s : Settings}

theorem workable_repaired (s : Settings) : s.repaired.Workable :=
  ⟨s.exam.workable_repaired, s.grading.bands_repaired⟩

/-- Abilities can be clamped to the bound, so no answer breaks off at its estimate. -/
theorem Workable.bound_nonneg (workable : s.Workable) : 0 ≤ s.exam.thetaBound := by
  obtain ⟨a, denotes, above⟩ := positive_of_isPositive workable.exam.bound
  exact (denotes_zero.le_iff denotes).mpr (by exact_mod_cast above.le)

theorem repaired_of_workable (workable : s.Workable) (fair : s.ScoresFairly) : s.repaired = s := by
  rw [repaired, ExamPolicy.repaired_of_workable workable.exam,
    ScoringPolicy.repaired_of_isShare fair.weight fair.penalty,
    GradingPolicy.repaired_of_bands workable.bands]

theorem repaired_repaired (s : Settings) : s.repaired.repaired = s.repaired := by
  have exam := ExamPolicy.repaired_of_workable s.exam.workable_repaired
  have grading := GradingPolicy.repaired_of_bands s.grading.bands_repaired
  simp only [repaired, exam, grading, ScoringPolicy.repaired_repaired]

theorem touchedOnly_repaired (s : Settings) : s.TouchedOnly s.repaired := by
  refine ⟨s.repaired.exam.maxQuestions, s.repaired.exam.minQuestions, s.repaired.exam.thetaBound,
    s.repaired.exam.priorStandardError, s.repaired.scoring.semanticWeight,
    s.repaired.scoring.misconceptionPenalty, s.repaired.grading.bands, ?_⟩
  have grading : s.grading.repaired = { s.grading with bands := s.grading.repaired.bands } := by
    unfold GradingPolicy.repaired
    split <;> rfl
  simp only [repaired, ← grading]
  rfl

end Settings

/-- Sessions can be held by repaired settings, and shares that are numbers are shares of one in them. A
second repair changes nothing, nor does a first one if nothing is amiss, and other settings are never
touched. So it is for all settings, and the settings that a text gives are repaired ones. -/
theorem Settings.repairs_settle (s : Settings) :
    s.repaired.Workable ∧
    (isShare s.repaired.scoring.semanticWeight ↔ s.scoring.semanticWeight.isNaN = false) ∧
    (isShare s.repaired.scoring.misconceptionPenalty ↔
      s.scoring.misconceptionPenalty.isNaN = false) ∧
    s.repaired.repaired = s.repaired ∧
    (s.Workable → s.ScoresFairly → s.repaired = s) ∧
    s.TouchedOnly s.repaired ∧
    ∀ text t, ofToml? text = some t → t.Workable ∧ t.repaired = t := by
  refine ⟨s.workable_repaired, isShare_unit_iff, isShare_unit_iff, s.repaired_repaired,
    repaired_of_workable, s.touchedOnly_repaired, ?_⟩
  intro text t read
  obtain ⟨written, -, rfl⟩ := Option.map_eq_some_iff.mp read
  exact ⟨written.workable_repaired, written.repaired_repaired⟩

/-- A weight that is no number is read and kept, and an answer with all that was expected of it, and
found wholly similar, then has no number for its correctness. -/
theorem Settings.weight_slips_through :
    let concept : Concept := { id := "c", name := "C", keywords := ["owner"] }
    let question : Question :=
      { id := "q", text := "Who frees it?", discrimination := 1.0, difficulty := 0.0 }
    ∃ s, ofToml? "[scoring]\nsemantic_weight = nan\n" = some s ∧
      ¬isShare s.scoring.semanticWeight ∧
      (Scoring.assess s.scoring concept question "The owner." (some 1.0)).overlap = 1.0 ∧
      (Scoring.assess s.scoring concept question "The owner." (some 1.0)).correctness.isNaN := by
  intro concept question
  have looks : (ofToml? "[scoring]\nsemantic_weight = nan\n").map (fun s =>
      let judgement := Scoring.assess s.scoring concept question "The owner." (some 1.0)
      (isShare s.scoring.semanticWeight, decide (judgement.overlap = 1.0),
        judgement.correctness.isNaN)) = some (false, true, true) := by
    decide +kernel
  obtain ⟨s, read, same⟩ := Option.map_eq_some_iff.mp looks
  simp only [Prod.mk.injEq, decide_eq_true_eq] at same
  exact ⟨s, read, by simp [same.1], same.2⟩

end OralExam
