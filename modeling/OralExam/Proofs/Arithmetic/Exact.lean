import Mathlib.Analysis.Complex.Exponential
import Mathlib.Analysis.Real.Sqrt
import OralExam.Arithmetic.Scalar

/-! Exact arithmetic.

Over the real numbers scores, abilities and their comparisons are what their formulas say, without
rounding. Where this reading is meant it is opened by name, so that elsewhere real numbers keep their
own operations.
-/

set_option autoImplicit false

namespace OralExam.Exact

/-- Two sums taken in one scan. -/
theorem foldl_sums {α β : Type} [AddMonoid β] (f g : α → β) (xs : List α) (sums : β × β) :
    xs.foldl (fun sums x => (sums.1 + f x, sums.2 + g x)) sums =
      (sums.1 + (xs.map f).sum, sums.2 + (xs.map g).sum) := by
  induction xs generalizing sums with
  | nil => simp
  | cons x xs ih => simp [ih, add_assoc]

noncomputable scoped instance : Scalar ℝ where
  ofNat := Nat.cast
  exp := Real.exp
  sqrt := Real.sqrt
  isFinite _ := true
  epsilon := (Nat.cast (2 ^ 52))⁻¹
  decLt := inferInstance
  decLe := inferInstance

@[simp] theorem zero_eq : (Scalar.zero : ℝ) = 0 := Nat.cast_zero

@[simp] theorem one_eq : (Scalar.one : ℝ) = 1 := Nat.cast_one

theorem clamp_eq {low high : ℝ} (le : low ≤ high) (x : ℝ) :
    Scalar.clamp low high x = max low (min high x) := by
  unfold Scalar.clamp
  dsimp only
  split_ifs with below above above
  · exact absurd above le.not_gt
  · rw [max_eq_left (min_le_of_right_le below.le)]
  · rw [min_eq_left above.le, max_eq_right le]
  · rw [min_eq_right (not_lt.mp above), max_eq_right (not_lt.mp below)]

theorem clamp_mono {low high x y : ℝ} (le : low ≤ high) (raised : x ≤ y) :
    Scalar.clamp low high x ≤ Scalar.clamp low high y := by
  rw [clamp_eq le, clamp_eq le]
  exact max_le_max_left _ (min_le_min_left _ raised)

/-- What differs still does so when clamped, unless both come to rest at one end. -/
theorem clamp_strict {low high x y : ℝ} (le : low ≤ high) (raised : x < y)
    (below : Scalar.clamp low high x < high) (above : low < Scalar.clamp low high y) :
    Scalar.clamp low high x < Scalar.clamp low high y := by
  rw [clamp_eq le] at below above ⊢
  have inside : x < high :=
    (min_lt_iff.mp ((le_max_right _ _).trans_lt below)).resolve_left (lt_irrefl high)
  have reached : low < min high y := (lt_max_iff.mp above).resolve_left (lt_irrefl low)
  rw [clamp_eq le, max_eq_right reached.le]
  exact max_lt reached ((min_le_right _ _).trans_lt (lt_min inside raised))

theorem clamp_clamp {low high : ℝ} (le : low ≤ high) (x : ℝ) :
    Scalar.clamp low high (Scalar.clamp low high x) = Scalar.clamp low high x := by
  rw [clamp_eq le (Scalar.clamp low high x), clamp_eq le x]
  have most : max low (min high x) ≤ high := max_le le (min_le_left _ _)
  rw [min_eq_right most, max_eq_right (le_max_left _ _)]

theorem unit_eq (x : ℝ) : Scalar.unit x = max 0 (min 1 x) := by
  rw [Scalar.unit, zero_eq, one_eq, clamp_eq zero_le_one]

theorem unit_mono {x y : ℝ} (raised : x ≤ y) : Scalar.unit x ≤ Scalar.unit y := by
  unfold Scalar.unit
  rw [zero_eq, one_eq]
  exact clamp_mono zero_le_one raised

theorem unit_of_mem {x : ℝ} (member : x ∈ Set.Icc 0 1) : Scalar.unit x = x := by
  rw [unit_eq, min_eq_right member.2, max_eq_right member.1]

theorem sum_eq (xs : List ℝ) : Scalar.sum xs = xs.sum := by
  rw [List.sum_eq_foldl, Scalar.sum, zero_eq]

end OralExam.Exact
