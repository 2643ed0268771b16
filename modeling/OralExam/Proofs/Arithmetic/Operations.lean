import OralExam.Proofs.Arithmetic.Double

/-! Sums, products, quotients and roots of doubles.

Each is the exact result, rounded. An operation keeps some of the digits of the result together with
where the rest lies, and rounding drops further digits without losing that.
-/

set_option autoImplicit false

namespace OralExam.Double

open Float.Model Float.Model.UnpackedFloat Rounding

noncomputable section

/-! ## Digits and the rest -/

/-- The number lies above the integer by as much as is said of the rest. -/
def Located (m : ℕ) : Accuracy → ℝ → Prop
  | .exact, x => x = m
  | .inexact .lt, x => m < x ∧ x < m + half
  | .inexact .eq, x => x = m + half
  | .inexact .gt, x => m + half < x ∧ x < m + 1

namespace Located

variable {m : ℕ} {accuracy : Accuracy} {x : ℝ}

theorem le (located : Located m accuracy x) : (m : ℝ) ≤ x := by
  rcases accuracy with _ | _ | _ | _ <;> simp only [Located, half] at located <;> linarith

theorem lt (located : Located m accuracy x) : x < m + 1 := by
  rcases accuracy with _ | _ | _ | _ <;> simp only [Located, half] at located <;> linarith

theorem floor (located : Located m accuracy x) : ⌊x⌋ = (m : ℤ) :=
  Int.floor_eq_iff.mpr ⟨located.le, located.lt⟩

theorem roundToNearestEven (located : Located m accuracy x) :
    (accuracy.roundToNearestEven m : ℤ) = toEven x := by
  have fract : Int.fract x = x - m := by rw [Int.fract, located.floor, Int.cast_natCast]
  unfold toEven
  rw [fract, located.floor]
  rcases accuracy with _ | _ | _ | _ <;> simp only [Located, half] at located
  · rw [if_pos (by linarith)]
    rfl
  · rw [if_pos (by linarith)]
    rfl
  · rw [if_neg (by linarith), if_neg (by linarith)]
    rfl
  · rw [if_neg (by linarith), if_pos (by linarith)]
    rfl

/-- Half of the number lies above half of the integer, by its last digit and the rest. -/
theorem shiftRightOne {em : ExtendedMantissa} (located : Located em.mantissa em.accuracy x) :
    Located em.shiftRightOne.mantissa em.shiftRightOne.accuracy (x / 2) := by
  obtain ⟨m, first, others⟩ := em
  obtain ⟨k, rfl | rfl⟩ := m.even_or_odd'
  · have quotient : 2 * k / 2 = k := by omega
    have digit : (2 * k % 2 != 0) = false := by simp
    cases first <;> cases others <;>
      simp only [ExtendedMantissa.shiftRightOne, ExtendedMantissa.accuracy, quotient, digit,
        Located, half, Bool.or_false, Bool.or_true, Nat.cast_mul, Nat.cast_ofNat] at located ⊢
    all_goals first | linarith | constructor <;> linarith
  · have quotient : (2 * k + 1) / 2 = k := by omega
    have digit : ((2 * k + 1) % 2 != 0) = true := by simp
    cases first <;> cases others <;>
      simp only [ExtendedMantissa.shiftRightOne, ExtendedMantissa.accuracy, quotient, digit,
        Located, half, Bool.or_false, Bool.or_true, Nat.cast_add, Nat.cast_mul, Nat.cast_ofNat,
        Nat.cast_one] at located ⊢
    all_goals first | linarith | constructor <;> linarith

theorem shiftRight {em : ExtendedMantissa} (located : Located em.mantissa em.accuracy x) (n : ℕ) :
    Located (em >>> n).mantissa (em >>> n).accuracy (x / 2 ^ n) := by
  change Located (n.repeat ExtendedMantissa.shiftRightOne em).mantissa
    (n.repeat ExtendedMantissa.shiftRightOne em).accuracy _
  induction n with
  | zero =>
    rw [pow_zero, div_one]
    exact located
  | succ n ih =>
    rw [pow_succ, ← div_div]
    exact ih.shiftRightOne

end Located

theorem located_ofMantissaAndAccuracy {m : ℕ} {accuracy : Accuracy} {x : ℝ}
    (located : Located m accuracy x) :
    Located (ExtendedMantissa.ofMantissaAndAccuracy m accuracy).mantissa
      (ExtendedMantissa.ofMantissaAndAccuracy m accuracy).accuracy x := by
  rcases accuracy with _ | _ | _ | _ <;> exact located

/-! ## Rounding once -/

theorem targetExponent_eq (total : ℤ) :
    Format.binary64.targetExponent total = max (total - 53) (-1074) := by
  rfl

/-- What is kept of a number, in units of some exponent, is enough to round it. -/
structure Kept (m : ℕ) (t : ℤ) (accuracy : Accuracy) (a : ℝ) : Prop where
  located : Located m accuracy (a / 2 ^ t)
  enough : 2 ^ 52 ≤ m ∨ t ≤ -1074

namespace Kept

variable {m : ℕ} {t : ℤ} {accuracy : Accuracy} {a : ℝ}

theorem lower (kept : Kept m t accuracy a) : (m : ℝ) * 2 ^ t ≤ a :=
  (le_div_iff₀ (two_zpow_pos t)).mp kept.located.le

theorem upper (kept : Kept m t accuracy a) : a < (m + 1) * 2 ^ t :=
  (div_lt_iff₀ (two_zpow_pos t)).mp kept.located.lt

theorem target (kept : Kept m t accuracy a) (positive : 0 < a) :
    Format.binary64.targetExponent (totalExponent m t) = exponent a := by
  rw [targetExponent_eq, totalExponent]
  refine (exponent_eq positive (le_max_right _ _) ?_ ?_).symm
  · have digits : (m : ℝ) + 1 ≤ 2 ^ ((m.log2 : ℤ) + 1) := by exact_mod_cast Nat.lt_log2_self
    calc a < (m + 1) * 2 ^ t := kept.upper
      _ ≤ 2 ^ ((m.log2 : ℤ) + 1) * 2 ^ t := mul_le_mul_of_nonneg_right digits (two_zpow_pos t).le
      _ = 2 ^ ((m.log2 : ℤ) + 1 + t) := (zpow_add₀ two_ne_zero _ _).symm
      _ ≤ 2 ^ (max ((m.log2 : ℤ) + 1 + t - 53) (-1074) + 53) :=
        zpow_le_zpow_right₀ one_le_two (by omega)
  · rcases Nat.eq_zero_or_pos m with rfl | some
    · have small := kept.enough.resolve_left (by decide)
      right
      rw [Nat.log2_zero]
      omega
    · by_cases least : (m.log2 : ℤ) + 1 + t - 53 ≤ -1074
      · exact .inr (max_eq_right least)
      · left
        have digits : (2 : ℝ) ^ (m.log2 : ℤ) ≤ m := by exact_mod_cast Nat.log2_self_le some.ne'
        rw [max_eq_left (by omega)]
        calc (2 : ℝ) ^ ((m.log2 : ℤ) + 1 + t - 53 + 52) = 2 ^ (m.log2 : ℤ) * 2 ^ t := by
              rw [← zpow_add₀ two_ne_zero]
              congr 1
              omega
          _ ≤ m * 2 ^ t := mul_le_mul_of_nonneg_right digits (two_zpow_pos t).le
          _ ≤ a := kept.lower

theorem le_exponent (kept : Kept m t accuracy a) (positive : 0 < a) : t ≤ exponent a := by
  rw [← kept.target positive, targetExponent_eq, totalExponent]
  rcases kept.enough with full | small
  · have digits : 52 ≤ m.log2 := (Nat.le_log2 (by omega)).mpr full
    omega
  · omega

/-- The digits that are dropped decide how the others are rounded. -/
theorem shift (kept : Kept m t accuracy a) (positive : 0 < a) :
    ((shiftToTargetExponent Format.binary64 m t accuracy).1.roundedMantissa : ℤ) = units a ∧
      (shiftToTargetExponent Format.binary64 m t accuracy).2 = exponent a := by
  have le := kept.le_exponent positive
  have enough : (((exponent a - t).toNat : ℕ) : ℤ) = exponent a - t :=
    Int.toNat_of_nonneg (by omega)
  have scaled : a / 2 ^ t / 2 ^ (exponent a - t).toNat = a / 2 ^ exponent a := by
    rw [div_div, ← zpow_natCast, ← zpow_add₀ two_ne_zero, enough, add_sub_cancel]
  have located := (located_ofMantissaAndAccuracy kept.located).shiftRight (exponent a - t).toNat
  rw [scaled] at located
  rw [shiftToTargetExponent, kept.target positive, shiftToExponent]
  exact ⟨located.roundToNearestEven, by simp only; omega⟩

end Kept

/-- After rounding nothing is dropped, unless there is one digit too many. -/
theorem shift_rounded {m : ℕ} {t : ℤ} (least : -1074 ≤ t) (below : m < 2 ^ 53) :
    shiftToTargetExponent Format.binary64 m t .exact = (⟨m, false, false⟩, t) := by
  have digits : m.log2 < 53 := by
    rcases m.eq_zero_or_pos with rfl | positive
    · decide
    · exact (Nat.log2_lt positive.ne').mpr below
  have stays : (max (totalExponent m t - 53) (-1074) - t).toNat = 0 := by
    rw [totalExponent]
    omega
  simp only [shiftToTargetExponent, targetExponent_eq, shiftToExponent, stays]
  exact Prod.ext rfl (add_zero t)

theorem shift_overflown {t : ℤ} (least : -1074 ≤ t) :
    shiftToTargetExponent Format.binary64 (2 ^ 53) t .exact = (⟨2 ^ 52, false, false⟩, t + 1) := by
  have once : (max (totalExponent (2 ^ 53) t - 53) (-1074) - t).toNat = 1 := by
    rw [totalExponent, Nat.log2_two_pow]
    omega
  simp only [shiftToTargetExponent, targetExponent_eq, shiftToExponent, once]
  rfl

theorem signed_zero (s : Sign) : signed s 0 = 0 := by
  cases s with
  | positive => rfl
  | negative => exact neg_zero

theorem saturate_zero : saturate 0 = 0 := by
  have large := limit_pos
  rw [saturate, if_neg (by linarith), if_neg (by linarith), EReal.coe_zero]

@[simp] theorem nearest_signed (s : Sign) {a : ℝ} (nonneg : 0 ≤ a) :
    nearest (signed s a) = signed s (magnitude a) := by
  have positive : nearest a = magnitude a := if_pos nonneg
  cases s with
  | positive => exact positive
  | negative => exact (nearest_neg a).trans (congrArg _ positive)

/-- What is packed from the digits kept of a number is that number rounded. -/
theorem value_roundWithAccuracy {m : ℕ} {t : ℤ} {accuracy : Accuracy} {a : ℝ}
    (kept : Kept m t accuracy a) (positive : 0 < a) (s : Sign) :
    value (Float.Model.pack (roundWithAccuracy Format.binary64 s m t accuracy)).unpack =
      some (rounded (signed s a)) := by
  obtain ⟨mantissa, shifted⟩ := kept.shift positive
  have least : -1074 ≤ exponent a := le_max_right _ _
  have most := units_le positive
  have normal := le_units positive
  rw [rounded, nearest_signed s positive.le, magnitude, ← mantissa, Int.cast_natCast]
  rw [← mantissa] at most normal
  unfold roundWithAccuracy
  simp only [shifted]
  generalize (shiftToTargetExponent Format.binary64 m t accuracy).1.roundedMantissa = n at *
  rcases Nat.lt_or_ge n (2 ^ 53) with below | full
  · simp only [shift_rounded least below]
    split
    · rename_i zero
      rw [zero, Nat.cast_zero, zero_mul, signed_zero, saturate_zero]
      exact value_pack_zero s
    · refine value_pack_finite ⟨below, least, ?_⟩ _
      by_cases tiny : exponent a = -1074
      · exact .inr tiny
      · exact .inl (by have := normal (by omega); omega)
  · obtain rfl : n = 2 ^ 53 := by omega
    have same : ((2 ^ 53 : ℕ) : ℝ) * 2 ^ exponent a =
        ((2 ^ 52 : ℕ) : ℝ) * 2 ^ (exponent a + 1) := by
      rw [zpow_add_one₀ two_ne_zero]
      push_cast
      ring
    rw [same]
    simp only [shift_overflown least]
    rw [dif_neg (by decide)]
    exact value_pack_finite ⟨by decide, by omega, .inl le_rfl⟩ _

theorem decreaseExponent_eq (m : ℕ) (t target : ℤ) :
    decreaseExponent m t target = (m * 2 ^ (t - target).toNat, t - (t - target).toNat) := by
  rw [decreaseExponent, Nat.shiftLeft_eq]

theorem scaled (m k : ℕ) (t : ℤ) : ((m * 2 ^ k : ℕ) : ℝ) * 2 ^ (t - k) = m * 2 ^ t := by
  rw [Nat.cast_mul, Nat.cast_pow, Nat.cast_ofNat, mul_assoc, ← zpow_natCast,
    ← zpow_add₀ two_ne_zero]
  congr 2
  omega

theorem kept_exact {m : ℕ} {t : ℤ} (enough : 2 ^ 52 ≤ m ∨ t ≤ -1074) :
    Kept m t .exact (m * 2 ^ t) :=
  ⟨mul_div_cancel_right₀ _ (two_zpow_pos t).ne', enough⟩

theorem value_round {m : ℕ} (positive : 0 < m) (t : ℤ) (s : Sign) :
    value (Float.Model.pack (UnpackedFloat.round Format.binary64 s m t)).unpack =
      some (rounded (signed s (m * 2 ^ t))) := by
  simp only [UnpackedFloat.round, decreaseExponent_eq, targetExponent_eq]
  set k := (t - max (totalExponent m t - 53) (-1074)).toNat with shift
  have enough : 2 ^ 52 ≤ m * 2 ^ k ∨ t - k ≤ -1074 := by
    by_cases small : t - k ≤ -1074
    · exact .inr small
    · left
      rw [totalExponent] at shift
      have digits : 52 ≤ m.log2 + k := by omega
      calc 2 ^ 52 ≤ 2 ^ (m.log2 + k) := Nat.pow_le_pow_right two_pos digits
        _ = 2 ^ m.log2 * 2 ^ k := pow_add _ _ _
        _ ≤ m * 2 ^ k := Nat.mul_le_mul_right _ (Nat.log2_self_le positive.ne')
  have kept := kept_exact enough
  rw [scaled] at kept
  exact value_roundWithAccuracy kept (mul_pos (Nat.cast_pos.mpr positive) (two_zpow_pos t)) s

theorem value_normalize (n : ℤ) (t : ℤ) (s : Sign) :
    value (Float.Model.pack (UnpackedFloat.normalize Format.binary64 n t s)).unpack =
      some (rounded (n * 2 ^ t)) := by
  unfold UnpackedFloat.normalize
  rcases lt_trichotomy n 0 with below | rfl | above
  · rw [compare_lt_iff_lt.mpr below]
    have magnitude : (((-n).toNat : ℕ) : ℝ) = -n := by
      rw [← Int.cast_natCast, Int.toNat_of_nonneg (by omega), Int.cast_neg]
    have value := value_round (m := (-n).toNat) (by omega) t .negative
    rw [magnitude] at value
    rw [value, signed, neg_mul, neg_neg]
  · rw [compare_eq_iff_eq.mpr rfl, Int.cast_zero, zero_mul, rounded_zero]
    exact value_pack_zero s
  · rw [compare_gt_iff_gt.mpr above]
    have magnitude : ((n.toNat : ℕ) : ℝ) = n := by
      rw [← Int.cast_natCast, Int.toNat_of_nonneg above.le]
    have value := value_round (m := n.toNat) (by omega) t .positive
    rw [magnitude] at value
    exact value

/-! ## Sums -/

theorem denotes_coe_iff {x : Float} {a : ℝ} : Denotes x a ↔ real? x.toModel.unpack = some a := by
  constructor
  · intro denotes
    rcases value_cases denotes with ⟨-, infinite⟩ | ⟨-, infinite⟩ | ⟨b, stored, same⟩
    · exact absurd infinite (EReal.coe_ne_top a)
    · exact absurd infinite (EReal.coe_ne_bot a)
    · rw [EReal.coe_eq_coe_iff.mp same]
      exact stored
  · intro stored
    unfold Denotes
    cases unpacked : x.toModel.unpack with
    | infinity | notANumber =>
      rw [unpacked] at stored
      cases stored
    | zero | finite =>
      rw [unpacked] at stored
      cases stored
      rfl

theorem apply_eq (s : Sign) (m : ℕ) : ((s.apply m : ℤ) : ℝ) = signed s m := by
  cases s with
  | positive => exact Int.cast_natCast m
  | negative => exact (Int.cast_neg _).trans (congrArg _ (Int.cast_natCast m))

theorem signed_mul (s : Sign) (a b : ℝ) : signed s (a * b) = signed s a * b := by
  cases s with
  | positive => rfl
  | negative => exact (neg_mul a b).symm

/-- A stored number, stored again. -/
theorem value_pack_real {u : UnpackedFloat} {a : ℝ} (form : IsCanonical u)
    (stored : real? u = some a) : value (Float.Model.pack u).unpack = some (rounded a) := by
  cases u with
  | infinity | notANumber => cases stored
  | zero s =>
    cases stored
    rw [rounded_zero]
    exact value_pack_zero s
  | finite s m t positive =>
    cases stored
    have above : (0 : ℝ) < m * 2 ^ t := mul_pos (Nat.cast_pos.mpr positive) (two_zpow_pos t)
    rw [value_pack_finite form.1, rounded, nearest_signed s above.le,
      magnitude_of_lt form.1.below form.1.least]

/-- Both numbers in the units of the smaller exponent. -/
theorem aligned (s : Sign) (m : ℕ) {t least : ℤ} (le : least ≤ t) :
    ((s.apply (decreaseExponent m t least).1 : ℤ) : ℝ) * 2 ^ least = signed s (m * 2 ^ t) := by
  have shift : (((t - least).toNat : ℕ) : ℤ) = t - least := Int.toNat_of_nonneg (by omega)
  have same := scaled m (t - least).toNat t
  rw [shift, sub_sub_cancel] at same
  rw [apply_eq, ← signed_mul, decreaseExponent_eq, same]

theorem value_add {u v : UnpackedFloat} {a b : ℝ} (first : IsCanonical u) (second : IsCanonical v)
    (left : real? u = some a) (right : real? v = some b) :
    value (Float.Model.pack (UnpackedFloat.add Format.binary64 u v)).unpack =
      some (rounded (a + b)) := by
  cases u with
  | infinity | notANumber => cases left
  | zero s =>
    cases left
    rw [zero_add]
    cases v with
    | infinity | notANumber => cases right
    | zero s' =>
      cases right
      rw [rounded_zero]
      cases s <;> cases s' <;> exact value_pack_zero _
    | finite s' n t' positive' => exact value_pack_real second right
  | finite s m t positive =>
    cases v with
    | infinity | notANumber => cases right
    | zero s' =>
      cases right
      rw [add_zero]
      exact value_pack_real first left
    | finite s' n t' positive' =>
      cases left
      cases right
      simp only [UnpackedFloat.add]
      rw [value_normalize, Int.cast_add, add_mul, aligned s m (min_le_left t t'),
        aligned s' n (min_le_right t t')]

theorem Denotes.add {x y : Float} {a b : ℝ} (left : Denotes x a) (right : Denotes y b) :
    Denotes (x + y) (rounded (a + b)) :=
  value_add (isCanonical x) (isCanonical y) (denotes_coe_iff.mp left) (denotes_coe_iff.mp right)

theorem signed_neg_sign (s : Sign) (a : ℝ) : signed (-s) a = -signed s a := by
  cases s with
  | positive => rfl
  | negative => exact (neg_neg a).symm

theorem real?_neg {u : UnpackedFloat} {a : ℝ} (stored : real? u = some a) :
    real? u.neg = some (-a) := by
  cases u with
  | infinity | notANumber => cases stored
  | zero s =>
    cases stored
    exact congrArg some neg_zero.symm
  | finite s m t positive =>
    cases stored
    exact congrArg some (signed_neg_sign s _)

theorem isCanonical_neg {u : UnpackedFloat} (form : IsCanonical u) : IsCanonical u.neg := by
  cases u with
  | finite => exact form
  | _ => trivial

theorem Denotes.neg {x : Float} {a : ℝ} (denotes : Denotes x a) : Denotes (-x) (-a : ℝ) := by
  have same := value_pack_real (isCanonical_neg (isCanonical x))
    (real?_neg (denotes_coe_iff.mp denotes))
  rw [show rounded (-a) = (-a : ℝ) from denotes.exact.neg] at same
  exact same

theorem sub_eq_add (u v : UnpackedFloat) :
    UnpackedFloat.sub Format.binary64 u v = UnpackedFloat.add Format.binary64 u v.neg := by
  cases u with
  | infinity | notANumber | zero => cases v <;> rfl
  | finite s m t positive =>
    cases v with
    | infinity | notANumber | zero => rfl
    | finite s' n t' positive' =>
      have negated (k : ℕ) : (-s').apply k = -s'.apply k := by
        cases s' with
        | positive => rfl
        | negative => exact (neg_neg _).symm
      simp only [UnpackedFloat.sub, UnpackedFloat.add, UnpackedFloat.neg, negated]
      rw [Int.sub_eq_add_neg]

theorem Denotes.sub {x y : Float} {a b : ℝ} (left : Denotes x a) (right : Denotes y b) :
    Denotes (x - y) (rounded (a - b)) := by
  have sum := value_add (isCanonical x) (isCanonical_neg (isCanonical y))
    (denotes_coe_iff.mp left) (real?_neg (denotes_coe_iff.mp right))
  rw [← sub_eq_add, ← sub_eq_add_neg] at sum
  exact sum

/-! ## Products -/

theorem signed_mul_signed (s s' : Sign) (a b : ℝ) :
    signed (s * s') (a * b) = signed s a * signed s' b := by
  cases s <;> cases s' <;> simp [signed]

theorem value_mul_finite {m n : ℕ} {t u : ℤ} (positive : 0 < m) (positive' : 0 < n)
    (enough : 2 ^ 52 ≤ m * n ∨ t + u ≤ -1074) (s s' : Sign) :
    value (Float.Model.pack (UnpackedFloat.mul Format.binary64 (.finite s m t positive)
      (.finite s' n u positive'))).unpack =
      some (rounded (signed s (m * 2 ^ t) * signed s' (n * 2 ^ u))) := by
  have product : ((m * n : ℕ) : ℝ) * 2 ^ (t + u) = m * 2 ^ t * (n * 2 ^ u) := by
    rw [Nat.cast_mul, zpow_add₀ two_ne_zero]
    ring
  have above : (0 : ℝ) < ((m * n : ℕ) : ℝ) * 2 ^ (t + u) :=
    mul_pos (Nat.cast_pos.mpr (Nat.mul_pos positive positive')) (two_zpow_pos _)
  have same := value_roundWithAccuracy (kept_exact enough) above (s * s')
  rw [product, signed_mul_signed] at same
  exact same

theorem enough_of_canonical {m n : ℕ} {t u : ℤ} (positive : 0 < m) (positive' : 0 < n)
    (first : Canonical m t) (second : Canonical n u) : 2 ^ 52 ≤ m * n ∨ t + u ≤ -1074 := by
  rcases first.full with full | least
  · exact .inl (full.trans (Nat.le_mul_of_pos_right m positive'))
  · rcases second.full with full | least'
    · exact .inl (full.trans (Nat.le_mul_of_pos_left n positive))
    · exact .inr (by omega)

theorem value_mul {u v : UnpackedFloat} {a b : ℝ} (first : IsCanonical u) (second : IsCanonical v)
    (left : real? u = some a) (right : real? v = some b) :
    value (Float.Model.pack (UnpackedFloat.mul Format.binary64 u v)).unpack =
      some (rounded (a * b)) := by
  cases u with
  | infinity | notANumber => cases left
  | zero s =>
    cases left
    rw [zero_mul, rounded_zero]
    cases v with
    | infinity | notANumber => cases right
    | zero | finite => exact value_pack_zero _
  | finite s m t positive =>
    cases left
    cases v with
    | infinity | notANumber => cases right
    | zero s' =>
      cases right
      rw [mul_zero, rounded_zero]
      exact value_pack_zero _
    | finite s' n u positive' =>
      cases right
      exact value_mul_finite positive positive'
        (enough_of_canonical positive positive' first.1 second.1) s s'

theorem Denotes.mul {x y : Float} {a b : ℝ} (left : Denotes x a) (right : Denotes y b) :
    Denotes (x * y) (rounded (a * b)) :=
  value_mul (isCanonical x) (isCanonical y) (denotes_coe_iff.mp left) (denotes_coe_iff.mp right)

/-! ## Quotients -/

theorem signed_div_signed (s s' : Sign) (a b : ℝ) :
    signed (s / s') (a / b) = signed s a / signed s' b := by
  cases s with
  | positive =>
    cases s' with
    | positive => rfl
    | negative => exact (div_neg a).symm
  | negative =>
    cases s' with
    | positive => exact (neg_div b a).symm
    | negative => exact (neg_div_neg_eq a b).symm

theorem located_div (m : ℕ) {n : ℕ} (positive : 0 < n) :
    Located (m / n) (accuracyOfFraction (m % n) n) ((m : ℝ) / n) := by
  have above : (0 : ℝ) < n := Nat.cast_pos.mpr positive
  have split : (m : ℝ) / n = (m / n : ℕ) + ((m % n : ℕ) : ℝ) / n := by
    have parts : ((n * (m / n) + m % n : ℕ) : ℝ) = m := congrArg _ (Nat.div_add_mod m n)
    push_cast at parts
    field_simp
    linarith
  have below : ((m % n : ℕ) : ℝ) / n < 1 :=
    (div_lt_one above).mpr (Nat.cast_lt.mpr (Nat.mod_lt m positive))
  rw [split]
  generalize m / n = q, m % n = r at *
  unfold accuracyOfFraction
  by_cases none : r = 0
  · simp [Located, none]
  have some : (0 : ℝ) < r / n := div_pos (Nat.cast_pos.mpr (Nat.pos_of_ne_zero none)) above
  have compares : (r : ℝ) / n < 1 / 2 ∧ 2 * r < n ∨ (r : ℝ) / n = 1 / 2 ∧ 2 * r = n ∨
      1 / 2 < (r : ℝ) / n ∧ n < 2 * r := by
    rw [div_lt_div_iff₀ above two_pos, div_eq_div_iff above.ne' two_ne_zero,
      div_lt_div_iff₀ two_pos above]
    norm_cast
    omega
  rw [if_neg none]
  rcases compares with ⟨half, less⟩ | ⟨half, same⟩ | ⟨half, more⟩
  · rw [compare_lt_iff_lt.mpr less]
    constructor <;> linarith
  · rw [compare_eq_iff_eq.mpr same]
    change _ = _
    linarith
  · rw [compare_gt_iff_gt.mpr more]
    constructor <;> linarith

/-- The quotient has enough digits. -/
theorem kept_divCore {m n : ℕ} (t u : ℤ) (positive : 0 < m) (positive' : 0 < n) :
    Kept (divCore Format.binary64 m t n u).1 (divCore Format.binary64 m t n u).2.1
      (divCore Format.binary64 m t n u).2.2 ((m * 2 ^ t) / (n * 2 ^ u)) := by
  have above : (0 : ℝ) < n := Nat.cast_pos.mpr positive'
  simp only [divCore, targetExponent_eq, Nat.shiftLeft_eq]
  set target := min (t - u) (max (totalExponent m t - totalExponent n u - 53) (-1074)) with chosen
  have shift : (((t - u - target).toNat : ℕ) : ℤ) = t - u - target :=
    Int.toNat_of_nonneg (by omega)
  set k := (t - u - target).toNat
  constructor
  · have same : ((m : ℝ) * 2 ^ t) / (n * 2 ^ u) / 2 ^ target = ((m * 2 ^ k : ℕ) : ℝ) / n := by
      have exponents : (2 : ℝ) ^ t = 2 ^ k * 2 ^ u * 2 ^ target := by
        rw [← zpow_natCast, ← zpow_add₀ two_ne_zero, ← zpow_add₀ two_ne_zero, shift]
        congr 1
        omega
      have := two_zpow_pos u
      have := two_zpow_pos target
      rw [exponents]
      push_cast
      field_simp
    rw [same]
    exact located_div _ positive'
  · by_cases small : target ≤ -1074
    · exact .inr small
    left
    unfold totalExponent at chosen
    have digits : 52 + (n.log2 + 1) ≤ m.log2 + k := by omega
    rw [Nat.le_div_iff_mul_le positive']
    calc 2 ^ 52 * n ≤ 2 ^ 52 * 2 ^ (n.log2 + 1) := Nat.mul_le_mul_left _ Nat.lt_log2_self.le
      _ = 2 ^ (52 + (n.log2 + 1)) := (pow_add _ _ _).symm
      _ ≤ 2 ^ (m.log2 + k) := Nat.pow_le_pow_right two_pos digits
      _ = 2 ^ m.log2 * 2 ^ k := pow_add _ _ _
      _ ≤ m * 2 ^ k := Nat.mul_le_mul_right _ (Nat.log2_self_le positive.ne')

theorem value_div {u v : UnpackedFloat} {a b : ℝ} (left : real? u = some a)
    (right : real? v = some b) (apart : b ≠ 0) :
    value (Float.Model.pack (UnpackedFloat.div Format.binary64 u v)).unpack =
      some (rounded (a / b)) := by
  cases v with
  | infinity | notANumber => cases right
  | zero s' =>
    cases right
    exact absurd rfl apart
  | finite s' n u' positive' =>
    cases right
    cases u with
    | infinity | notANumber => cases left
    | zero s =>
      cases left
      rw [zero_div, rounded_zero]
      exact value_pack_zero _
    | finite s m t positive =>
      cases left
      have above : (0 : ℝ) < m * 2 ^ t / (n * 2 ^ u') :=
        div_pos (mul_pos (Nat.cast_pos.mpr positive) (two_zpow_pos t))
          (mul_pos (Nat.cast_pos.mpr positive') (two_zpow_pos u'))
      have same := value_roundWithAccuracy (kept_divCore t u' positive positive') above (s / s')
      rw [signed_div_signed] at same
      exact same

theorem Denotes.div {x y : Float} {a b : ℝ} (left : Denotes x a) (right : Denotes y b)
    (apart : b ≠ 0) : Denotes (x / y) (rounded (a / b)) :=
  value_div (denotes_coe_iff.mp left) (denotes_coe_iff.mp right) apart

/-! ## Roots -/

theorem located_sqrt (m : ℕ) :
    Located (Nat.sqrt m) (if m - Nat.sqrt m * Nat.sqrt m = 0 then .exact
      else .inexact (if m - Nat.sqrt m * Nat.sqrt m ≤ Nat.sqrt m then .lt else .gt)) (√m) := by
  have low : Nat.sqrt m * Nat.sqrt m ≤ m := Nat.sqrt_le m
  have high : m < (Nat.sqrt m + 1) * (Nat.sqrt m + 1) := Nat.lt_succ_sqrt m
  generalize Nat.sqrt m = root at *
  have nonneg : (0 : ℝ) ≤ root := root.cast_nonneg
  have above : √(m : ℝ) < root + 1 := by
    rw [Real.sqrt_lt' (by linarith), pow_two]
    exact_mod_cast high
  split
  · rename_i none
    obtain rfl : m = root * root := by omega
    change √((root * root : ℕ) : ℝ) = root
    rw [Nat.cast_mul, Real.sqrt_mul_self nonneg]
  · rename_i some
    split
    · rename_i less
      -- Half a unit more has a square that is a quarter more than the root and its square.
      have near : (m : ℝ) ≤ root * root + root := by
        exact_mod_cast (by omega : m ≤ root * root + root)
      constructor
      · rw [Real.lt_sqrt nonneg, pow_two]
        exact_mod_cast (by omega : root * root < m)
      · change √(m : ℝ) < root + 1 / 2
        rw [Real.sqrt_lt' (by linarith)]
        linarith [near, add_sq (root : ℝ) (1 / 2), pow_two (root : ℝ)]
    · rename_i more
      have far : (root : ℝ) * root + root + 1 ≤ m := by
        exact_mod_cast (by omega : root * root + root + 1 ≤ m)
      constructor
      · change (root : ℝ) + 1 / 2 < √m
        rw [Real.lt_sqrt (by linarith)]
        linarith [far, add_sq (root : ℝ) (1 / 2), pow_two (root : ℝ)]
      · exact above

/-- The root has enough digits. -/
theorem kept_sqrtCore {m : ℕ} (t : ℤ) (positive : 0 < m) :
    Kept (sqrtCore Format.binary64 m t).1 (sqrtCore Format.binary64 m t).2.1
      (sqrtCore Format.binary64 m t).2.2 (√(m * 2 ^ t)) := by
  simp only [sqrtCore, targetExponent_eq, Nat.shiftLeft_eq]
  set target := min (t.ediv 2) (max ((totalExponent m t + 1).ediv 2 - 53) (-1074)) with chosen
  have half : t.ediv 2 * 2 ≤ t := Int.ediv_mul_le t two_ne_zero
  have half' : (totalExponent m t + 1).ediv 2 * 2 ≤ totalExponent m t + 1 :=
    Int.ediv_mul_le _ two_ne_zero
  have shift : (((t - 2 * target).toNat : ℕ) : ℤ) = t - 2 * target :=
    Int.toNat_of_nonneg (by omega)
  set k := (t - 2 * target).toNat
  constructor
  · have same : √((m : ℝ) * 2 ^ t) / 2 ^ target = √((m * 2 ^ k : ℕ) : ℝ) := by
      have parts : (m : ℝ) * 2 ^ t = (m * 2 ^ k : ℕ) * (2 ^ target * 2 ^ target) := by
        rw [Nat.cast_mul, Nat.cast_pow, Nat.cast_ofNat, mul_assoc, ← zpow_natCast,
          ← zpow_add₀ two_ne_zero, ← zpow_add₀ two_ne_zero, shift]
        congr 2
        omega
      rw [parts, Real.sqrt_mul (Nat.cast_nonneg _), Real.sqrt_mul_self (two_zpow_pos target).le,
        mul_div_cancel_right₀ _ (two_zpow_pos target).ne']
    rw [same]
    exact located_sqrt _
  · by_cases small : target ≤ -1074
    · exact .inr small
    left
    have digits : 52 + 52 ≤ m.log2 + k := by
      unfold totalExponent at chosen half'
      omega
    rw [Nat.le_sqrt]
    calc 2 ^ 52 * 2 ^ 52 = 2 ^ (52 + 52) := (pow_add _ _ _).symm
      _ ≤ 2 ^ (m.log2 + k) := Nat.pow_le_pow_right two_pos digits
      _ = 2 ^ m.log2 * 2 ^ k := pow_add _ _ _
      _ ≤ m * 2 ^ k := Nat.mul_le_mul_right _ (Nat.log2_self_le positive.ne')

theorem Denotes.sqrt {x : Float} {a : ℝ} (denotes : Denotes x a) (positive : 0 < a) :
    Denotes x.sqrt (rounded (√a)) := by
  have stored := denotes_coe_iff.mp denotes
  change value (Float.Model.pack (UnpackedFloat.sqrt Format.binary64 x.toModel.unpack)).unpack = _
  cases unpacked : x.toModel.unpack with
  | infinity | notANumber =>
    rw [unpacked] at stored
    cases stored
  | zero s =>
    rw [unpacked] at stored
    cases stored
    exact absurd positive (lt_irrefl 0)
  | finite s m t some =>
    rw [unpacked] at stored
    cases stored
    have above : (0 : ℝ) < m * 2 ^ t := mul_pos (Nat.cast_pos.mpr some) (two_zpow_pos t)
    cases s with
    | positive =>
      exact value_roundWithAccuracy (kept_sqrtCore t some) (Real.sqrt_pos.mpr above) .positive
    | negative => exact absurd positive (signed_neg above).not_gt

/-! ## Integers -/

theorem denotes_bits_one : Denotes (Float.ofBits 0x3FF0000000000000) (1 : ℝ) := by
  rw [denotes_coe_iff]
  change some (signed .positive ((2 ^ 52 : ℕ) * 2 ^ (-52 : ℤ))) = some 1
  norm_num [signed]

theorem denotes_toFloat (n : UInt64) : Denotes n.toFloat (rounded n.toNat) := by
  have value := value_normalize n.toNat 0 .positive
  rw [zpow_zero, mul_one, Int.cast_natCast] at value
  exact value

theorem value_ofScientific {n : ℕ} (full : 2 ^ 53 ≤ n) :
    value (Float.Model.ofScientific n 0).unpack = some (rounded n) := by
  have some : n ≠ 0 := by omega
  have small : ¬(0 : ℤ) < -((2 ^ Format.binary64.exponentBits : ℤ) + n.log2) := by
    norm_num
  have enough : 2 ^ 52 ≤ n <<< 53 * 10 ^ 0 := by
    rw [Nat.shiftLeft_eq, pow_zero, mul_one]
    omega
  have product := value_mul_finite (m := n <<< 53) (n := 10 ^ 0) (t := -53) (u := 0)
    (by omega) (by decide) (.inl enough) .positive .positive
  have same : (((n <<< 53 : ℕ) : ℝ) * 2 ^ (-53 : ℤ)) * (((10 ^ 0 : ℕ) : ℝ) * 2 ^ (0 : ℤ)) = n := by
    rw [Nat.shiftLeft_eq]
    norm_num [mul_assoc]
  simp only [signed, same] at product
  rw [← product, Float.Model.ofScientific, UnpackedFloat.ofScientific, dif_neg some,
    if_neg (by decide), if_neg small, if_pos le_rfl]
  rfl

/-- Integers are converted as exactly as doubles allow. -/
theorem denotes_ofNat (n : ℕ) : Denotes (Float.ofNat n) (rounded n) := by
  change Denotes (Float.ofScientific n false 0) _
  unfold Float.ofScientific
  split
  · rename_i small
    have word : n.toUInt64.toNat = n := by
      rw [Nat.toUInt64, UInt64.toNat_ofNat', Nat.mod_eq_of_lt (by omega)]
    have converted : Denotes n.toUInt64.toFloat (n : ℝ) := by
      have value := denotes_toFloat n.toUInt64
      rw [word, show rounded n = (n : ℝ) from exact_natCast small.1] at value
      exact value
    have product := converted.mul denotes_bits_one
    rw [mul_one] at product
    exact product
  · rename_i large
    exact value_ofScientific (by omega)

end

end OralExam.Double
