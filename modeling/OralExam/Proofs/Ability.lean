import OralExam.Ability
import OralExam.Proofs.Arithmetic.Bounds

/-! Estimates stay within their bounds.

A step divides by the information only where that is finite and not too small, and the slope is a
number even when it overflows, since each of its terms is finite. So whatever the answers are, the
ability stays within the bound and the standard error finite and positive.
-/

set_option autoImplicit false

namespace OralExam.Ability

open Double Rounding

/-- The double is finite and above zero. -/
def Positive (x : Float) : Prop := ∃ a : ℝ, Denotes x a ∧ 0 < a

/-- The question separates abilities, and its answer counts for a share of one. -/
structure Item.Sound (item : Item Float) : Prop where
  discrimination : Positive item.discrimination
  difficulty : item.difficulty.isFinite
  response : Between 0 1 item.response

variable {a b θ : Float} {t : ℝ}

theorem probability_between (discrimination : Positive a) (difficulty : b.isFinite)
    (ability : Denotes θ t) : Between 0 1 (probability a b θ) := by
  obtain ⟨d, sharp, positive⟩ := discrimination
  obtain ⟨β, difficult⟩ := isFinite_iff.mp difficulty
  -- The distance may overflow, and then it still has a sign.
  have distance : IsNumber (θ - b) := isNumber_rounded (ability.sub difficult)
  have exponent : IsNumber (-a * (θ - b)) :=
    distance.mul_left sharp.neg (neg_ne_zero.mpr positive.ne')
  obtain ⟨odds, denotes, nonneg⟩ := exp_nonneg exponent
  obtain ⟨total, denotes', above⟩ := one_add denotes_one denotes nonneg
  exact between_div denotes_one denotes' zero_le_one above (zero_lt_one.trans_le above)

namespace Estimator

variable {items : List (Item Float)}

/-- What an answer adds to the slope is finite. -/
theorem slope_finite {item : Item Float} (sound : item.Sound) (ability : Denotes θ t) :
    ∃ r : ℝ, Denotes (item.discrimination *
      (item.response - probability item.discrimination item.difficulty θ)) r := by
  have chance := probability_between sound.discrimination sound.difficulty ability
  obtain ⟨d, sharp, positive⟩ := sound.discrimination
  have minus_one : Exact (0 - 1) := by simpa using exact_one.neg
  obtain ⟨r, surprise, above, below⟩ :=
    sound.response.sub chance minus_one (by simpa using exact_one)
  obtain ⟨s, denotes, -, -⟩ := between_of_rounded (sharp.mul surprise) sharp.exact.neg sharp.exact
    (by nlinarith) (by nlinarith)
  exact ⟨s, denotes⟩

theorem totals_number (sound : ∀ item ∈ items, item.Sound) (ability : Denotes θ t) :
    IsNumber (totals θ items).1 := by
  unfold totals
  have start : IsNumber ((Scalar.zero, Scalar.zero) : Float × Float).1 := ⟨_, denotes_zero⟩
  generalize ((Scalar.zero, Scalar.zero) : Float × Float) = sums at start ⊢
  induction items generalizing sums with
  | nil => exact start
  | cons item items ih =>
    rw [List.foldl_cons]
    obtain ⟨r, denotes⟩ := slope_finite (sound item (List.mem_cons_self ..)) ability
    exact ih (fun other later => sound other (List.mem_cons_of_mem _ later)) _ (start.add denotes)

theorem denotes_epsilon : Denotes Scalar.epsilon (2 ^ (-52 : ℤ) : ℝ) := by
  rw [denotes_coe_iff]
  change some (signed .positive ((2 ^ 52 : ℕ) * 2 ^ (-104 : ℤ))) = some (2 ^ (-52 : ℤ))
  norm_num [signed]

/-- The ability is within the bound, and the standard error is finite and positive. -/
structure Bounded (e : Estimator Float) (estimate : Estimate Float) : Prop where
  theta : ∃ r : ℝ, Denotes e.bound r ∧ Between (-r) r estimate.theta
  standardError : Positive estimate.standardError

variable {e : Estimator Float} {current : Estimate Float}

theorem bounded_initial (bound : Positive e.bound) (prior : Positive e.priorStandardError) :
    e.Bounded e.initial := by
  obtain ⟨r, denotes, positive⟩ := bound
  exact ⟨⟨r, denotes, 0, denotes_zero, by linarith, positive.le⟩, prior⟩

theorem Bounded.update (bounded : e.Bounded current) (bound : Positive e.bound)
    (prior : Positive e.priorStandardError) (sound : ∀ item ∈ items, item.Sound) :
    e.Bounded (e.update current items) := by
  obtain ⟨r, limit, positive⟩ := bound
  obtain ⟨_, _, within⟩ := bounded.theta
  have clamped := between_clamp limit.neg limit (by linarith) within.isNumber
  obtain ⟨t, ability, -, -⟩ := id clamped
  have slope := totals_number sound ability
  unfold Estimator.update
  dsimp only
  split
  · rename_i informative
    obtain ⟨finite, large⟩ := informative
    obtain ⟨info, denotes⟩ := isFinite_iff.mp finite
    have least := EReal.coe_lt_coe_iff.mp ((denotes_epsilon.lt_iff denotes).mp large)
    have some : 0 < info := (two_zpow_pos _).trans least
    have step := (slope.div denotes some.ne').add_left ability
    exact ⟨⟨r, limit, between_clamp limit.neg limit (by linarith) step⟩,
      inverse_root denotes_one denotes least.le⟩
  · refine ⟨⟨r, limit, clamped⟩, ?_⟩
    dsimp only
    split
    · exact prior
    · exact bounded.standardError

/-- In both response models an answer counts for a share of one. -/
theorem responseValue_between (e : Estimator Float) {correctness : Float}
    (number : IsNumber correctness) : Between 0 1 (e.responseValue correctness) := by
  unfold responseValue
  dsimp only
  split
  · exact between_unit number
  · split
    · exact ⟨1, denotes_one, zero_le_one, le_rfl⟩
    · exact ⟨0, denotes_zero, le_rfl, zero_le_one⟩

end Estimator

end OralExam.Ability
