import OralExam.Arithmetic.Exponential
import OralExam.Proofs.Arithmetic.Operations

/-! Bounds on computed doubles.

Rounding keeps the order, so a result lies between two doubles if the exact result does. What is not
known to be finite is at least known to be a number.
-/

set_option autoImplicit false

namespace OralExam.Double

open Float.Model Float.Model.UnpackedFloat Rounding

variable {x y : Float} {a b low high : ℝ} {v w : EReal}

/-- The double is a number, though it may be infinite. -/
def IsNumber (x : Float) : Prop := ∃ v, Denotes x v

/-- The double is finite, with its value in these bounds. -/
def Between (low high : ℝ) (x : Float) : Prop := ∃ a : ℝ, Denotes x a ∧ low ≤ a ∧ a ≤ high

theorem Between.isNumber (between : Between low high x) : IsNumber x := by
  obtain ⟨a, denotes, -, -⟩ := between
  exact ⟨a, denotes⟩

theorem Between.isFinite (between : Between low high x) : x.isFinite := by
  obtain ⟨a, denotes, -, -⟩ := between
  exact isFinite_iff.mpr ⟨a, denotes⟩

theorem Between.mono {low' high' : ℝ} (between : Between low high x) (less : low' ≤ low)
    (more : high ≤ high') : Between low' high' x := by
  obtain ⟨a, denotes, above, below⟩ := between
  exact ⟨a, denotes, less.trans above, below.trans more⟩

theorem between_of_le (denotes : Denotes x v) (above : (low : EReal) ≤ v)
    (below : v ≤ (high : EReal)) : Between low high x := by
  rcases value_cases denotes with ⟨-, rfl⟩ | ⟨-, rfl⟩ | ⟨a, -, rfl⟩
  · exact absurd (top_le_iff.mp below) (EReal.coe_ne_top high)
  · exact absurd (le_bot_iff.mp above) (EReal.coe_ne_bot low)
  · exact ⟨a, denotes, EReal.coe_le_coe_iff.mp above, EReal.coe_le_coe_iff.mp below⟩

/-- Between two doubles an exact result is rounded to one between them. -/
theorem between_of_rounded (denotes : Denotes x (rounded a)) (least : Exact low)
    (most : Exact high) (above : low ≤ a) (below : a ≤ high) : Between low high x :=
  between_of_le denotes (least.ge.trans (rounded_mono above)) ((rounded_mono below).trans most.le)

/-! ## Numbers -/

theorem isNumber_rounded (denotes : Denotes x (rounded a)) : IsNumber x := ⟨_, denotes⟩

theorem isNumber_of_infinity {u : UnpackedFloat} {s : Sign} (computed : x.toModel = .pack u)
    (infinite : u = .infinity s) : IsNumber x := by
  have unpacked : x.toModel.unpack = .infinity s := by
    rw [computed, infinite]
    exact unpack_packedInfinity s
  unfold IsNumber Denotes
  rw [unpacked]
  cases s <;> exact ⟨_, rfl⟩

theorem IsNumber.cases (number : IsNumber x) :
    (∃ s, x.toModel.unpack = .infinity s) ∨ ∃ a : ℝ, Denotes x a := by
  obtain ⟨v, denotes⟩ := number
  rcases value_cases denotes with ⟨infinite, -⟩ | ⟨infinite, -⟩ | ⟨a, stored, -⟩
  · exact .inl ⟨_, infinite⟩
  · exact .inl ⟨_, infinite⟩
  · exact .inr ⟨a, denotes_coe_iff.mpr stored⟩

theorem infinity_add {u : UnpackedFloat} (stored : real? u = some a) (s : Sign) :
    UnpackedFloat.add Format.binary64 (.infinity s) u = .infinity s ∧
      UnpackedFloat.add Format.binary64 u (.infinity s) = .infinity s := by
  cases u with
  | infinity | notANumber => cases stored
  | zero | finite => exact ⟨rfl, rfl⟩

/-- A number other than zero times or through infinity, as far as it is defined. -/
theorem infinity_mul_div {u : UnpackedFloat} (stored : real? u = some a) (apart : a ≠ 0)
    (s : Sign) : ∃ s', UnpackedFloat.mul Format.binary64 u (.infinity s) = .infinity (s' * s) ∧
      UnpackedFloat.div Format.binary64 (.infinity s) u = .infinity (s / s') := by
  cases u with
  | infinity | notANumber => cases stored
  | zero =>
    cases stored
    exact absurd rfl apart
  | finite s' m t positive => exact ⟨s', rfl, rfl⟩

/-- Only a sum of two infinities may be no number. -/
theorem IsNumber.add (number : IsNumber x) (denotes : Denotes y b) : IsNumber (x + y) := by
  rcases number.cases with ⟨s, infinite⟩ | ⟨a, finite⟩
  · apply isNumber_of_infinity (u := .add _ x.toModel.unpack y.toModel.unpack) (s := s) rfl
    rw [infinite]
    exact (infinity_add (denotes_coe_iff.mp denotes) s).1
  · exact isNumber_rounded (finite.add denotes)

theorem IsNumber.add_left (number : IsNumber y) (denotes : Denotes x a) : IsNumber (x + y) := by
  rcases number.cases with ⟨s, infinite⟩ | ⟨b, finite⟩
  · apply isNumber_of_infinity (u := .add _ x.toModel.unpack y.toModel.unpack) (s := s) rfl
    rw [infinite]
    exact (infinity_add (denotes_coe_iff.mp denotes) s).2
  · exact isNumber_rounded (denotes.add finite)

theorem IsNumber.mul_left (number : IsNumber y) (denotes : Denotes x a) (apart : a ≠ 0) :
    IsNumber (x * y) := by
  rcases number.cases with ⟨s, infinite⟩ | ⟨b, finite⟩
  · obtain ⟨s', product, -⟩ := infinity_mul_div (denotes_coe_iff.mp denotes) apart s
    apply isNumber_of_infinity (u := .mul _ x.toModel.unpack y.toModel.unpack) (s := s' * s) rfl
    rw [infinite]
    exact product
  · exact isNumber_rounded (denotes.mul finite)

theorem IsNumber.div (number : IsNumber x) (denotes : Denotes y b) (apart : b ≠ 0) :
    IsNumber (x / y) := by
  rcases number.cases with ⟨s, infinite⟩ | ⟨a, finite⟩
  · obtain ⟨s', -, quotient⟩ := infinity_mul_div (denotes_coe_iff.mp denotes) apart s
    apply isNumber_of_infinity (u := .div _ x.toModel.unpack y.toModel.unpack) (s := s / s') rfl
    rw [infinite]
    exact quotient
  · exact isNumber_rounded (finite.div denotes apart)

/-! ## Sums and products -/

theorem Between.add {low' high' : ℝ} (left : Between low high x) (right : Between low' high' y)
    (least : Exact (low + low')) (most : Exact (high + high')) :
    Between (low + low') (high + high') (x + y) := by
  obtain ⟨a, denotes, above, below⟩ := left
  obtain ⟨b, denotes', above', below'⟩ := right
  exact between_of_rounded (denotes.add denotes') least most (by linarith) (by linarith)

theorem Between.sub {low' high' : ℝ} (left : Between low high x) (right : Between low' high' y)
    (least : Exact (low - high')) (most : Exact (high - low')) :
    Between (low - high') (high - low') (x - y) := by
  obtain ⟨a, denotes, above, below⟩ := left
  obtain ⟨b, denotes', above', below'⟩ := right
  exact between_of_rounded (denotes.sub denotes') least most (by linarith) (by linarith)

theorem Between.mul {high' : ℝ} (left : Between 0 high x) (right : Between 0 high' y)
    (most : Exact (high * high')) : Between 0 (high * high') (x * y) := by
  obtain ⟨a, denotes, above, below⟩ := left
  obtain ⟨b, denotes', above', below'⟩ := right
  exact between_of_rounded (denotes.mul denotes') exact_zero most (mul_nonneg above above')
    (mul_le_mul below below' above' (above.trans below))

/-- One and something more is at least one. -/
theorem one_add (one : Denotes x (1 : ℝ)) (denotes : Denotes y v) (nonneg : 0 ≤ v) :
    ∃ w, Denotes (x + y) w ∧ 1 ≤ w := by
  rcases value_cases denotes with ⟨infinite, -⟩ | ⟨-, rfl⟩ | ⟨b, -, rfl⟩
  · refine ⟨⊤, ?_, le_top⟩
    change value (Float.Model.pack (.add _ x.toModel.unpack y.toModel.unpack)).unpack = _
    rw [infinite, (infinity_add (denotes_coe_iff.mp one) .positive).2, unpack_pack]
    exact congrArg value (unpack_packedInfinity .positive)
  · exact absurd nonneg (by simp)
  · have mono := rounded_mono (le_add_of_nonneg_right (a := 1) (EReal.coe_nonneg.mp nonneg))
    rw [show rounded 1 = (1 : ℝ) from one.exact] at mono
    exact ⟨_, one.add denotes, mono⟩

/-- A part of something is between nothing and all of it. -/
theorem between_div (left : Denotes x a) (right : Denotes y v) (nonneg : 0 ≤ a)
    (le : (a : EReal) ≤ v) (positive : 0 < v) : Between 0 1 (x / y) := by
  rcases value_cases right with ⟨infinite, -⟩ | ⟨-, rfl⟩ | ⟨b, -, rfl⟩
  · refine ⟨0, ?_, le_rfl, zero_le_one⟩
    have stored := denotes_coe_iff.mp left
    change value (Float.Model.pack (.div _ x.toModel.unpack y.toModel.unpack)).unpack = _
    rw [infinite]
    cases unpacked : x.toModel.unpack with
    | infinity | notANumber =>
      rw [unpacked] at stored
      cases stored
    | zero | finite => exact value_pack_zero _
  · exact absurd positive (by simp)
  · have above : 0 < b := EReal.coe_pos.mp positive
    have below : a / b ≤ 1 := (div_le_one above).mpr (EReal.coe_le_coe_iff.mp le)
    exact between_of_rounded (left.div right above.ne') exact_zero exact_one
      (div_nonneg nonneg above.le) below

/-- What is not negative stays so when it is divided by something positive. -/
theorem div_nonneg_of_pos (left : Denotes x v) (nonneg : 0 ≤ v) (right : Denotes y b)
    (positive : 0 < b) : ∃ w, Denotes (x / y) w ∧ 0 ≤ w := by
  rcases value_cases left with ⟨infinite, -⟩ | ⟨-, rfl⟩ | ⟨a, -, rfl⟩
  · refine ⟨⊤, ?_, le_top⟩
    have stored := denotes_coe_iff.mp right
    change value (Float.Model.pack (.div _ x.toModel.unpack y.toModel.unpack)).unpack = _
    rw [infinite]
    cases unpacked : y.toModel.unpack with
    | infinity | notANumber =>
      rw [unpacked] at stored
      cases stored
    | zero =>
      rw [unpacked] at stored
      cases stored
      exact absurd positive (lt_irrefl 0)
    | finite s m t some =>
      rw [unpacked] at stored
      cases stored
      cases s with
      | positive => exact congrArg value (unpack_packedInfinity .positive)
      | negative =>
        have size := mul_pos (Nat.cast_pos.mpr some) (two_zpow_pos t)
        exact absurd positive (signed_neg size).not_gt
  · exact absurd nonneg (by simp)
  · exact ⟨_, left.div right positive.ne', exact_zero.ge.trans
      (rounded_mono (div_nonneg (EReal.coe_nonneg.mp nonneg) positive.le))⟩

/-! ## Powers of two -/

/-- Half of the last digit of a power of two is lost on it. -/
theorem rounded_absorbs {k : ℕ} (small : k ≤ 970) (nonneg : 0 ≤ a) (le : a ≤ 2 ^ k) :
    rounded (2 ^ (k + 53) + a) = (2 ^ (k + 53) : ℝ) := by
  have unit : (0 : ℝ) < 2 ^ (k + 1) := by positivity
  have power : (2 : ℝ) ^ (k + 53) = 2 ^ 52 * 2 ^ (k + 1) := by ring
  have sum : (0 : ℝ) < 2 ^ (k + 53) + a := by positivity
  have exponent : exponent (2 ^ (k + 53) + a) = (k + 1 : ℕ) := by
    refine exponent_eq sum (by omega) ?_ (.inl ?_)
    · have double : (2 : ℝ) ^ (((k + 1 : ℕ) : ℤ) + 53) = 2 ^ (k + 53) + 2 ^ 53 * 2 ^ k := by
        rw [show ((k + 1 : ℕ) : ℤ) + 53 = ((k + 54 : ℕ) : ℤ) by omega, zpow_natCast]
        ring
      have : (0 : ℝ) < 2 ^ k := by positivity
      rw [double]
      linarith
    · rw [show ((k + 1 : ℕ) : ℤ) + 52 = ((k + 53 : ℕ) : ℤ) by omega, zpow_natCast]
      linarith
  have half : a / 2 ^ (k + 1) ≤ 1 / 2 := by
    rw [div_le_div_iff₀ unit two_pos, pow_succ]
    linarith
  have rest : 0 ≤ a / 2 ^ (k + 1) := div_nonneg nonneg unit.le
  have units : units (2 ^ (k + 53) + a) = 2 ^ 52 := by
    have split : (2 ^ (k + 53) + a) / 2 ^ (k + 1) = ((2 ^ 52 : ℤ) : ℝ) + a / 2 ^ (k + 1) := by
      rw [power, add_div, mul_div_cancel_right₀ _ unit.ne']
      norm_num
    have fract : Int.fract (((2 ^ 52 : ℤ) : ℝ) + a / 2 ^ (k + 1)) = a / 2 ^ (k + 1) := by
      rw [Int.fract_intCast_add, Int.fract_eq_self]
      exact ⟨rest, by linarith⟩
    have floor : ⌊((2 ^ 52 : ℤ) : ℝ) + a / 2 ^ (k + 1)⌋ = 2 ^ 52 :=
      Int.floor_eq_iff.mpr ⟨by linarith, by linarith⟩
    rw [Rounding.units, exponent, zpow_natCast, split, toEven, fract, floor]
    split_ifs
    · rfl
    · linarith
    · rfl
  have below : (2 : ℝ) ^ (k + 53) < limit := by
    rw [limit, ← zpow_natCast]
    exact zpow_lt_zpow_right₀ one_lt_two (by omega)
  have large := limit_pos
  have magnitude : magnitude (2 ^ (k + 53) + a) = 2 ^ (k + 53) := by
    rw [Rounding.magnitude, units, exponent, zpow_natCast, power]
    norm_num
  rw [rounded, nearest, if_pos sum.le, magnitude, saturate, if_neg (by linarith),
    if_neg (by linarith [sum])]

/-- The inverse of the root of a number is positive, and finite if the number is not too small. -/
theorem inverse_root (one : Denotes y (1 : ℝ)) (denotes : Denotes x a) (large : 2 ^ (-52 : ℤ) ≤ a) :
    ∃ b : ℝ, Denotes (y / x.sqrt) b ∧ 0 < b := by
  have least : Exact (2 ^ (-26 : ℤ)) := by
    simpa using exact_of_lt (m := 1) (t := -26) (by decide) (by decide) (by decide)
  have tiny : Exact (2 ^ (-1024 : ℤ)) := by
    simpa using exact_of_lt (m := 1) (t := -1024) (by decide) (by decide) (by decide)
  have most : Exact (2 ^ (26 : ℤ)) := by
    simpa using exact_of_lt (m := 1) (t := 26) (by decide) (by decide) (by decide)
  have top : Exact (max a 1) := by
    rcases max_choice a 1 with same | same <;> rw [same]
    · exact denotes.exact
    · exact one.exact
  have positive : 0 < a := (two_zpow_pos _).trans_le large
  have low : 2 ^ (-26 : ℤ) ≤ √a := by
    rw [Real.le_sqrt (two_zpow_pos _).le positive.le, ← zpow_natCast, ← zpow_mul]
    exact large
  have high : √a ≤ max a 1 := by
    rw [Real.sqrt_le_left (le_max_of_le_right zero_le_one), pow_two]
    have : 1 ≤ max a 1 := le_max_right _ _
    have : a ≤ max a 1 := le_max_left _ _
    nlinarith
  obtain ⟨root, denotes', above, below⟩ :=
    between_of_rounded (denotes.sqrt positive) least top low high
  have some : 0 < root := (two_zpow_pos _).trans_le above
  have limited : root < 2 ^ (1024 : ℤ) := below.trans_lt top.lt_limit
  have above' : 2 ^ (-1024 : ℤ) ≤ 1 / root := by
    rw [zpow_neg, ← one_div]
    exact one_div_le_one_div_of_le some limited.le
  have below' : 1 / root ≤ 2 ^ (26 : ℤ) := by
    rw [one_div, ← inv_inv (2 ^ (26 : ℤ)), ← zpow_neg]
    exact inv_anti₀ (two_zpow_pos _) above
  obtain ⟨b, quotient, bound, -⟩ :=
    between_of_rounded (one.div denotes' some.ne') tiny most above' below'
  exact ⟨b, quotient, (two_zpow_pos _).trans_le bound⟩

/-! ## Bits -/

theorem value_pack {u : UnpackedFloat} (form : IsCanonical u) (stored : value u = some v) :
    value (Float.Model.pack u).unpack = some v := by
  rcases value_cases stored with ⟨rfl, rfl⟩ | ⟨rfl, rfl⟩ | ⟨a, real, rfl⟩
  · exact congrArg value (unpack_packedInfinity .positive)
  · exact congrArg value (unpack_packedInfinity .negative)
  · rw [value_pack_real form real]
    exact congrArg some (exact_of_real? form real)

/-- Without the bit for the sign and up to those of infinity, bits are those of a number. -/
theorem value_unpack_nonneg {bits : BitVec Format.binary64.numBits}
    (le : bits.toNat ≤ 0x7FF0000000000000) :
    ∃ v, value (UnpackedFloat.unpack Format.binary64 bits) = some v ∧ 0 ≤ v := by
  have exponent : (unpackExponent bits).toNat = bits.toNat / 2 ^ 52 % 2 ^ 11 := by
    simp [unpackExponent, Nat.shiftRight_eq_div_pow]
  have fraction : (unpackMantissa bits).toNat = bits.toNat % 2 ^ 52 := by
    simp [unpackMantissa]
  have sign : Sign.ofBitVec (unpackSign bits) = .positive := by
    have none : (unpackSign bits).toNat = 0 := by
      simp [unpackSign, Nat.shiftRight_eq_div_pow]
      omega
    rw [Sign.ofBitVec, if_pos (BitVec.eq_of_toNat_eq none)]
  have nonneg (m : ℕ) (t : ℤ) : (0 : EReal) ≤ (m * 2 ^ t : ℝ) :=
    EReal.coe_nonneg.mpr (mul_nonneg m.cast_nonneg (two_zpow_pos t).le)
  unfold UnpackedFloat.unpack
  dsimp only
  rw [sign]
  split
  · rename_i ones
    split
    · exact ⟨_, rfl, le_top⟩
    · rename_i some
      -- Larger bits would be needed for what is no number.
      have full : (unpackExponent bits).toNat = 2047 := by
        rw [ones]
        rfl
      have rest : bits.toNat % 2 ^ 52 ≠ 0 := fun zero =>
        some (BitVec.eq_of_toNat_eq (fraction.trans zero))
      omega
  · split
    · split
      · exact ⟨_, rfl, le_rfl⟩
      · exact ⟨_, rfl, nonneg _ _⟩
    · exact ⟨_, rfl, nonneg _ _⟩

theorem ofBits_nonneg {bits : UInt64} (le : bits.toNat ≤ 0x7FF0000000000000) :
    ∃ v, Denotes (Float.ofBits bits) v ∧ 0 ≤ v := by
  obtain ⟨v, stored, nonneg⟩ := @value_unpack_nonneg bits.toBitVec le
  exact ⟨v, value_pack (isCanonical_unpack _) stored, nonneg⟩

/-! ## Scalars -/

theorem denotes_natCast {n : ℕ} (below : n < 2 ^ 53) : Denotes (Float.ofNat n) (n : ℝ) := by
  have value := denotes_ofNat n
  rwa [show rounded n = (n : ℝ) from exact_natCast below] at value

theorem denotes_zero : Denotes Scalar.zero (0 : ℝ) := by
  exact_mod_cast denotes_natCast (n := 0) (by decide)

theorem denotes_one : Denotes Scalar.one (1 : ℝ) := by
  exact_mod_cast denotes_natCast (n := 1) (by decide)

theorem between_clamp (left : Denotes x a) (right : Denotes y b) (le : a ≤ b) {z : Float}
    (number : IsNumber z) : Between a b (Scalar.clamp x y z) := by
  obtain ⟨v, denotes⟩ := number
  unfold Scalar.clamp
  dsimp only
  split_ifs with below above above
  · exact ⟨b, right, le, le_rfl⟩
  · exact ⟨a, left, le_rfl, le⟩
  · exact ⟨b, right, le, le_rfl⟩
  · have low := not_lt.mp (mt (denotes.lt_iff left).mpr below)
    have high := not_lt.mp (mt (right.lt_iff denotes).mpr above)
    rcases value_cases denotes with ⟨-, rfl⟩ | ⟨-, rfl⟩ | ⟨c, -, rfl⟩
    · exact absurd (top_le_iff.mp high) (EReal.coe_ne_top b)
    · exact absurd (le_bot_iff.mp low) (EReal.coe_ne_bot a)
    · exact ⟨c, denotes, EReal.coe_le_coe_iff.mp low, EReal.coe_le_coe_iff.mp high⟩

theorem between_unit (number : IsNumber x) : Between 0 1 (Scalar.unit x) :=
  between_clamp denotes_zero denotes_one zero_le_one number

theorem Between.atMost (between : Between low high x) (limit : Denotes y b) (le : low ≤ b) :
    Between low b (Scalar.atMost y x) := by
  obtain ⟨a, denotes, above, below⟩ := between
  unfold Scalar.atMost
  split
  · exact ⟨b, limit, le, le_rfl⟩
  · rename_i within
    have most := not_lt.mp (mt (limit.lt_iff denotes).mpr within)
    exact ⟨a, denotes, above, EReal.coe_le_coe_iff.mp most⟩

/-! ## The exponential function -/

theorem toFloat_nonneg (m : ℕ) (t : ℤ) :
    ∃ v, Denotes (Binary.toFloat ⟨false, m, t⟩) v ∧ 0 ≤ v := by
  simp only [Binary.toFloat, Bool.false_eq_true, if_false]
  split
  · exact ofBits_nonneg (by decide)
  · refine ofBits_nonneg ?_
    rw [UInt64.toNat_ofNat', zero_add]
    exact (Nat.mod_le _ _).trans (min_le_right _ _)

theorem ofFixed_nonneg (n : ℤ) : ∃ v, Denotes (Exponential.ofFixed n) v ∧ 0 ≤ v := by
  unfold Exponential.ofFixed
  dsimp only
  exact toFloat_nonneg _ _

/-- A power of `e` is not negative. -/
theorem exp_nonneg (number : IsNumber x) : ∃ v, Denotes (Scalar.exp x) v ∧ 0 ≤ v := by
  obtain ⟨v, denotes⟩ := number
  have some : x.isNaN = false := by
    change x.toModel.unpack.isNaN = false
    unfold Denotes at denotes
    cases unpacked : x.toModel.unpack with
    | notANumber =>
      rw [unpacked] at denotes
      cases denotes
    | _ => rfl
  change ∃ v, Denotes (Exponential.nearest x) v ∧ 0 ≤ v
  unfold Exponential.nearest
  rw [some]
  simp only [Bool.false_eq_true, if_false]
  split
  · exact ofBits_nonneg (by decide)
  split
  · exact ⟨0, denotes_zero, le_rfl⟩
  · exact ofFixed_nonneg _

end OralExam.Double
