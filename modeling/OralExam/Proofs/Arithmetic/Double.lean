import Mathlib
import OralExam.Proofs.Arithmetic.Rounding

/-! What numbers doubles are.

A double denotes an extended real number, unless it is no number at all. It is compared as that
number is, and what is packed into its bits comes out of them again.
-/

set_option autoImplicit false

namespace OralExam.Double

open Float.Model Float.Model.UnpackedFloat Rounding

/-! ## Bits -/

section

variable (s : Sign)

theorem unpack_packedInfinity :
    UnpackedFloat.unpack Format.binary64 (packedInfinity Format.binary64 s) = .infinity s := by
  cases s <;> rfl

theorem unpack_subnormal {m : ℕ} (positive : 0 < m) (below : m < 2 ^ 52) :
    UnpackedFloat.unpack Format.binary64
      (packComponents Format.binary64 s 0#11 (BitVec.ofNat 52 m)) =
      .finite s m (-1074) positive := by
  have same : (BitVec.ofNat 52 m).toNat = m := by
    rw [BitVec.toNat_ofNat, Nat.mod_eq_of_lt below]
  have some : BitVec.ofNat 52 m ≠ 0#52 := by
    intro zero
    rw [zero] at same
    exact positive.ne same
  have finite : 0#11 ≠ -1#11 := by decide
  simp only [UnpackedFloat.unpack, unpackMantissa_packComponents, unpackExponent_packComponents,
    unpackSign_packComponents, Sign.ofBitVec_toBitVec, finite, if_false, if_true, some, dif_neg,
    same, not_false_eq_true]
  rfl

theorem unpack_normal {m : ℕ} {t : ℤ} (positive : 0 < m) (full : 2 ^ 52 ≤ m) (below : m < 2 ^ 53)
    (least : -1074 ≤ t) (small : t ≤ 971) :
    UnpackedFloat.unpack Format.binary64 (packComponents Format.binary64 s
      (BitVec.ofNat 11 (t + 1075).toNat) (BitVec.ofNat 52 m)) = .finite s m t positive := by
  have biased : (BitVec.ofNat 11 (t + 1075).toNat).toNat = (t + 1075).toNat := by
    rw [BitVec.toNat_ofNat, Nat.mod_eq_of_lt (by omega)]
  have normal : BitVec.ofNat 11 (t + 1075).toNat ≠ 0#11 := by
    intro zero
    rw [zero, BitVec.toNat_zero] at biased
    omega
  have finite : BitVec.ofNat 11 (t + 1075).toNat ≠ -1#11 := by
    intro ones
    rw [ones, show (-1#11).toNat = 2047 from rfl] at biased
    omega
  -- The leading digit is not stored.
  have significand : (1#1 ++ BitVec.ofNat 52 m).toNat = m := by
    rw [BitVec.toNat_append, ← Nat.shiftLeft_add_eq_or_of_lt (BitVec.isLt _), BitVec.toNat_ofNat]
    simp
    omega
  simp only [UnpackedFloat.unpack, unpackMantissa_packComponents, unpackExponent_packComponents,
    unpackSign_packComponents, Sign.ofBitVec_toBitVec, finite, normal, if_false, biased,
    significand]
  congr 1
  change ((t + 1075).toNat : ℤ) - (1023 + 52) = t
  omega

theorem unpack_pack (u : UnpackedFloat) :
    (Float.Model.pack u).unpack =
      UnpackedFloat.unpack Format.binary64 (UnpackedFloat.pack Format.binary64 u) := by
  rfl

/-- What has the form of a double is found again in its bits, or is infinite. -/
theorem unpack_pack_finite {m : ℕ} {t : ℤ} (canonical : Canonical m t) (positive : 0 < m) :
    (Float.Model.pack (.finite s m t positive)).unpack =
      if t ≤ 971 then .finite s m t positive else .infinity s := by
  have below := canonical.below
  have least := canonical.least
  have digits : m.log2 < 53 := (Nat.log2_lt positive.ne').mpr below
  have biased : (t + (Format.binary64.exponentBias : ℤ) +
      (Format.binary64.mantissaBitsWithoutImplicit : ℤ)).toNat = (t + 1075).toNat := by
    change (t + 1023 + 52).toNat = _
    omega
  rw [unpack_pack]
  simp only [UnpackedFloat.pack, biased]
  change UnpackedFloat.unpack _ (if 2 ^ 11 ≤ (t + 1075).toNat + 1 then _
    else if m.log2 + 1 = 53 then _ else _) = _
  by_cases small : t ≤ 971
  · rw [if_neg (by omega), if_pos small]
    by_cases full : 2 ^ 52 ≤ m
    · have log : 52 ≤ m.log2 := (Nat.le_log2 positive.ne').mpr full
      rw [if_pos (by omega)]
      exact unpack_normal s positive full below least small
    · have log : m.log2 < 52 := (Nat.log2_lt positive.ne').mpr (by omega)
      obtain rfl : t = -1074 := canonical.full.resolve_left full
      rw [if_neg (by omega)]
      exact unpack_subnormal s positive (by omega)
  · rw [if_pos (by omega), if_neg small]
    exact unpack_packedInfinity s

end

/-- Finite doubles have the form that they are packed in. -/
theorem unpack_canonical {bits : BitVec Format.binary64.numBits} {s : Sign} {m : ℕ} {t : ℤ}
    {positive : 0 < m}
    (unpacked : UnpackedFloat.unpack Format.binary64 bits = .finite s m t positive) :
    Canonical m t ∧ t ≤ 971 := by
  have fraction : (unpackMantissa bits).toNat < 2 ^ 52 := BitVec.isLt _
  have biased : (unpackExponent bits).toNat < 2 ^ 11 := BitVec.isLt _
  unfold UnpackedFloat.unpack at unpacked
  dsimp only at unpacked
  split at unpacked
  · split at unpacked <;> cases unpacked
  rename_i finite
  split at unpacked
  · rename_i zero
    split at unpacked
    · cases unpacked
    · injection unpacked with _ same exponent
      have least : t = -1074 := by
        rw [← exponent, zero]
        rfl
      exact ⟨⟨by omega, by omega, .inr least⟩, by omega⟩
  · rename_i normal
    injection unpacked with _ same exponent
    rw [BitVec.toNat_append, ← Nat.shiftLeft_add_eq_or_of_lt (BitVec.isLt _)] at same
    change 2 ^ 52 + (unpackMantissa bits).toNat = m at same
    change ((unpackExponent bits).toNat : ℤ) - (1023 + 52) = t at exponent
    have low : (unpackExponent bits).toNat ≠ 0 := fun none => normal (BitVec.eq_of_toNat_eq none)
    have high : (unpackExponent bits).toNat ≠ 2047 := fun ones =>
      finite (BitVec.eq_of_toNat_eq ones)
    exact ⟨⟨by omega, by omega, .inl (by omega)⟩, by omega⟩

/-! ## Values -/

noncomputable section

/-- A magnitude with a sign. -/
def signed : Sign → ℝ → ℝ
  | .positive, a => a
  | .negative, a => -a

/-- The real number that is stored, if it is one. -/
def real? : UnpackedFloat → Option ℝ
  | .infinity _ | .notANumber => none
  | .zero _ => some 0
  | .finite s m t _ => some (signed s (multiple m t))

/-- The number that is stored, if it is one. -/
def value : UnpackedFloat → Option EReal
  | .infinity .positive => some ⊤
  | .infinity .negative => some ⊥
  | .notANumber => none
  | .zero _ => some (0 : ℝ)
  | .finite s m t _ => some (signed s (multiple m t))

/-- The double has that value. -/
def Denotes (x : Float) (v : EReal) : Prop := value x.toModel.unpack = some v

theorem Denotes.unique {x : Float} {v w : EReal} (first : Denotes x v) (second : Denotes x w) :
    v = w :=
  Option.some.inj (first.symm.trans second)

theorem Canonical.lt_of_exponent_lt {m n : ℕ} {t u : ℤ} (first : Canonical m t)
    (second : Canonical n u) (below : t < u) : (m : ℝ) * 2 ^ t < n * 2 ^ u := by
  have full : 2 ^ 52 ≤ n := by
    have least := first.least
    exact second.full.resolve_right (by omega)
  calc (m : ℝ) * 2 ^ t < 2 ^ (t + 53) := lt_pow_of_lt first.below t
    _ ≤ 2 ^ (u + 52) := zpow_le_zpow_right₀ one_le_two (by omega)
    _ ≤ n * 2 ^ u := pow_le_of_full full u

/-- The exponents decide, and if they are the same the numbers of units do. -/
theorem compares_magnitudes {m n : ℕ} {t u : ℤ} (first : Canonical m t) (second : Canonical n u) :
    ((compare t u).then (compare m n)).Compares ((m : ℝ) * 2 ^ t) (n * 2 ^ u) := by
  rcases lt_trichotomy t u with below | rfl | above
  · rw [compare_lt_iff_lt.mpr below]
    exact Canonical.lt_of_exponent_lt first second below
  · rw [compare_eq_iff_eq.mpr rfl]
    rcases lt_trichotomy m n with below | rfl | above
    · rw [compare_lt_iff_lt.mpr below]
      exact mul_lt_mul_of_pos_right (Nat.cast_lt.mpr below) (two_zpow_pos t)
    · rw [compare_eq_iff_eq.mpr rfl]
      rfl
    · rw [compare_gt_iff_gt.mpr above]
      exact mul_lt_mul_of_pos_right (Nat.cast_lt.mpr above) (two_zpow_pos t)
  · rw [compare_gt_iff_gt.mpr above]
    exact Canonical.lt_of_exponent_lt second first above

/-- The form of finite doubles. -/
def IsCanonical : UnpackedFloat → Prop
  | .finite _ m t _ => Canonical m t ∧ t ≤ 971
  | .infinity _ | .notANumber | .zero _ => True

theorem isCanonical_unpack (bits : BitVec Format.binary64.numBits) :
    IsCanonical (UnpackedFloat.unpack Format.binary64 bits) := by
  cases unpacked : UnpackedFloat.unpack Format.binary64 bits with
  | finite s m t positive => exact unpack_canonical unpacked
  | _ => trivial

theorem isCanonical (x : Float) : IsCanonical x.toModel.unpack := isCanonical_unpack _

theorem compares_coe {o : Ordering} {a b : ℝ} (compares : o.Compares a b) :
    o.Compares (a : EReal) b := by
  cases o with
  | lt => exact EReal.coe_lt_coe_iff.mpr compares
  | eq => exact congrArg _ compares
  | gt => exact EReal.coe_lt_coe_iff.mpr compares

theorem compares_neg {o : Ordering} {a b : ℝ} (compares : o.Compares a b) :
    o.swap.Compares (-a) (-b) := by
  cases o with
  | lt => exact neg_lt_neg (show a < b from compares)
  | eq => exact congrArg _ compares
  | gt => exact neg_lt_neg (show b < a from compares)

theorem signed_pos {a : ℝ} (positive : 0 < a) : 0 < signed .positive a := positive

theorem signed_neg {a : ℝ} (positive : 0 < a) : signed .negative a < 0 := neg_neg_of_pos positive

theorem compares_finite {s s' : Sign} {m n : ℕ} {t u : ℤ} {positive : 0 < m} {positive' : 0 < n}
    (first : Canonical m t) (second : Canonical n u) :
    ∃ o, (finite s m t positive).compare (finite s' n u positive') = some o ∧
      o.Compares (signed s (m * 2 ^ t)) (signed s' (n * 2 ^ u)) := by
  have above : (0 : ℝ) < m * 2 ^ t := mul_pos (Nat.cast_pos.mpr positive) (two_zpow_pos t)
  have above' : (0 : ℝ) < n * 2 ^ u := mul_pos (Nat.cast_pos.mpr positive') (two_zpow_pos u)
  have magnitudes := compares_magnitudes first second
  cases s with
  | positive =>
    cases s' with
    | positive => exact ⟨_, rfl, magnitudes⟩
    | negative => exact ⟨_, rfl, (signed_neg above').trans (signed_pos above)⟩
  | negative =>
    cases s' with
    | positive => exact ⟨_, rfl, (signed_neg above).trans (signed_pos above')⟩
    | negative => exact ⟨_, rfl, compares_neg magnitudes⟩

theorem compares_zero {s s' : Sign} {m : ℕ} {t : ℤ} {positive : 0 < m} :
    ∃ o, (finite s m t positive).compare (zero s') = some o ∧
      o.Compares (signed s (m * 2 ^ t)) 0 := by
  have above : (0 : ℝ) < m * 2 ^ t := mul_pos (Nat.cast_pos.mpr positive) (two_zpow_pos t)
  cases s with
  | positive => exact ⟨_, rfl, signed_pos above⟩
  | negative => exact ⟨_, rfl, signed_neg above⟩

theorem zero_compares {s s' : Sign} {m : ℕ} {t : ℤ} {positive : 0 < m} :
    ∃ o, (zero s').compare (finite s m t positive) = some o ∧
      o.Compares 0 (signed s (m * 2 ^ t)) := by
  have above : (0 : ℝ) < m * 2 ^ t := mul_pos (Nat.cast_pos.mpr positive) (two_zpow_pos t)
  cases s with
  | positive => exact ⟨_, rfl, signed_pos above⟩
  | negative => exact ⟨_, rfl, signed_neg above⟩

theorem compares_real {u v : UnpackedFloat} {a b : ℝ} (first : IsCanonical u)
    (second : IsCanonical v) (left : real? u = some a) (right : real? v = some b) :
    ∃ o, u.compare v = some o ∧ o.Compares a b := by
  cases u with
  | infinity | notANumber => cases left
  | zero s =>
    cases left
    cases v with
    | infinity | notANumber => cases right
    | zero s' =>
      cases right
      exact ⟨_, rfl, rfl⟩
    | finite s' n t' positive' =>
      cases right
      exact zero_compares
  | finite s m t positive =>
    cases left
    cases v with
    | infinity | notANumber => cases right
    | zero s' =>
      cases right
      exact compares_zero
    | finite s' n t' positive' =>
      cases right
      exact compares_finite first.1 second.1

theorem value_cases {u : UnpackedFloat} {v : EReal} (stored : value u = some v) :
    (u = .infinity .positive ∧ v = ⊤) ∨ (u = .infinity .negative ∧ v = ⊥) ∨
      ∃ a, real? u = some a ∧ v = a := by
  cases u with
  | infinity s =>
    cases s with
    | positive =>
      cases stored
      exact .inl ⟨rfl, rfl⟩
    | negative =>
      cases stored
      exact .inr (.inl ⟨rfl, rfl⟩)
  | notANumber => cases stored
  | zero | finite =>
    cases stored
    exact .inr (.inr ⟨_, rfl, rfl⟩)

theorem infinity_compare {v : UnpackedFloat} {b : ℝ} (right : real? v = some b) (s : Sign) :
    (infinity s).compare v = some (compare s (-s)) ∧
      v.compare (infinity s) = some (compare (-s) s) := by
  cases v with
  | infinity | notANumber => cases right
  | zero | finite => cases s <;> exact ⟨rfl, rfl⟩

/-- Doubles compare as their values do. -/
theorem compare_spec {u v : UnpackedFloat} {a b : EReal} (first : IsCanonical u)
    (second : IsCanonical v) (left : value u = some a) (right : value v = some b) :
    ∃ o, u.compare v = some o ∧ o.Compares a b := by
  rcases value_cases left with ⟨rfl, rfl⟩ | ⟨rfl, rfl⟩ | ⟨a, stored, rfl⟩ <;>
    rcases value_cases right with ⟨rfl, rfl⟩ | ⟨rfl, rfl⟩ | ⟨b, stored', rfl⟩
  · exact ⟨_, rfl, rfl⟩
  · exact ⟨_, rfl, bot_lt_top⟩
  · exact ⟨_, (infinity_compare stored' .positive).1, EReal.coe_lt_top b⟩
  · exact ⟨_, rfl, bot_lt_top⟩
  · exact ⟨_, rfl, rfl⟩
  · exact ⟨_, (infinity_compare stored' .negative).1, EReal.bot_lt_coe b⟩
  · exact ⟨_, (infinity_compare stored .positive).2, EReal.coe_lt_top a⟩
  · exact ⟨_, (infinity_compare stored .negative).2, EReal.bot_lt_coe a⟩
  · obtain ⟨o, same, compares⟩ := compares_real first second stored stored'
    exact ⟨o, same, compares_coe compares⟩

theorem lt_iff_compare (x y : Float) :
    x < y ↔ x.toModel.unpack.compare y.toModel.unpack = some .lt := by
  change decide ((x.toModel.unpack.compare y.toModel.unpack == some .lt) = true) = true ↔ _
  rw [decide_eq_true_iff]
  cases x.toModel.unpack.compare y.toModel.unpack with
  | none => decide
  | some o => cases o <;> decide

theorem le_iff_compare (x y : Float) :
    x ≤ y ↔ ∃ o, x.toModel.unpack.compare y.toModel.unpack = some o ∧ o ≠ .gt := by
  change decide ((x.toModel.unpack.compare y.toModel.unpack).any (·.isLE) = true) = true ↔ _
  rw [decide_eq_true_iff]
  cases x.toModel.unpack.compare y.toModel.unpack with
  | none => simp
  | some o => cases o <;> simp

theorem Denotes.lt_iff {x y : Float} {v w : EReal} (left : Denotes x v) (right : Denotes y w) :
    x < y ↔ v < w := by
  obtain ⟨o, same, compares⟩ := compare_spec (isCanonical x) (isCanonical y) left right
  rw [← compares.eq_lt, lt_iff_compare, same, Option.some_inj]

theorem Denotes.le_iff {x y : Float} {v w : EReal} (left : Denotes x v) (right : Denotes y w) :
    x ≤ y ↔ v ≤ w := by
  obtain ⟨o, same, compares⟩ := compare_spec (isCanonical x) (isCanonical y) left right
  rw [← compares.ne_gt, le_iff_compare, same]
  simp

theorem isFinite_iff {x : Float} : x.isFinite ↔ ∃ a : ℝ, Denotes x a := by
  change x.toModel.unpack.isFinite = true ↔ ∃ a : ℝ, value x.toModel.unpack = some (a : EReal)
  cases x.toModel.unpack with
  | infinity s => cases s <;> simp [UnpackedFloat.isFinite, value]
  | notANumber => simp [UnpackedFloat.isFinite, value]
  | zero | finite => exact iff_of_true rfl ⟨_, rfl⟩

theorem exact_of_real? {u : UnpackedFloat} {a : ℝ} (form : IsCanonical u)
    (stored : real? u = some a) : Exact a := by
  cases u with
  | infinity | notANumber => cases stored
  | zero s =>
    cases stored
    exact exact_zero
  | finite s m t positive =>
    cases stored
    have exact := exact_of_lt form.1.below form.1.least form.2
    cases s with
    | positive => exact exact
    | negative => exact exact.neg

/-- The value of a finite double is one that doubles have. -/
theorem Denotes.exact {x : Float} {a : ℝ} (denotes : Denotes x a) : Exact a := by
  rcases value_cases denotes with ⟨-, infinite⟩ | ⟨-, infinite⟩ | ⟨b, stored, same⟩
  · exact absurd infinite (EReal.coe_ne_top a)
  · exact absurd infinite (EReal.coe_ne_bot a)
  · rw [EReal.coe_eq_coe_iff.mp same]
    exact exact_of_real? (isCanonical x) stored

/-! ## Packing -/

theorem value_pack_zero (s : Sign) :
    value (Float.Model.pack (.zero s)).unpack = some (0 : EReal) := by
  rw [unpack_pack]
  exact congrArg value unpack_packedZero

/-- What is packed is the number, or infinite if no double is as large. -/
theorem value_pack_finite {s : Sign} {m : ℕ} {t : ℤ} (canonical : Canonical m t)
    (positive : 0 < m) :
    value (Float.Model.pack (.finite s m t positive)).unpack =
      some (saturate (signed s (m * 2 ^ t))) := by
  have above : (0 : ℝ) < m * 2 ^ t := mul_pos (Nat.cast_pos.mpr positive) (two_zpow_pos t)
  have large := limit_pos
  rw [unpack_pack_finite s canonical positive]
  by_cases small : t ≤ 971
  · have below : (m : ℝ) * 2 ^ t < limit :=
      (lt_pow_of_lt canonical.below t).trans_le (zpow_le_zpow_right₀ one_le_two (by omega))
    rw [if_pos small]
    cases s with
    | positive =>
      change some ((m * 2 ^ t : ℝ) : EReal) = some (saturate (m * 2 ^ t))
      rw [saturate, if_neg (by linarith), if_neg (by linarith)]
    | negative =>
      change some ((-(m * 2 ^ t) : ℝ) : EReal) = some (saturate (-(m * 2 ^ t)))
      rw [saturate, if_neg (by linarith), if_neg (by linarith)]
  · have least := canonical.least
    have full := canonical.full.resolve_right (by omega)
    have beyond : limit ≤ m * 2 ^ t :=
      (zpow_le_zpow_right₀ one_le_two (by omega)).trans (pow_le_of_full full t)
    rw [if_neg small]
    cases s with
    | positive =>
      change some ⊤ = some (saturate (m * 2 ^ t))
      rw [saturate, if_pos beyond]
    | negative =>
      change some ⊥ = some (saturate (-(m * 2 ^ t)))
      rw [saturate, if_neg (by linarith), if_pos (by linarith)]

end

end OralExam.Double
