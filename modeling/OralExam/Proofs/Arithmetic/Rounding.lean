import Mathlib.Algebra.Order.Archimedean.Real.Basic
import Mathlib.Data.EReal.Operations
import Mathlib.Data.Int.Log
import Mathlib.Tactic.Linarith

/-! Rounding of real numbers to doubles.

A positive number is rounded to a multiple of a power of two, so chosen that the multiple has 53
binary digits, or fewer near zero. What is too large for a double becomes infinite. Rounding keeps
the order, and this is all that bounds on computed values need to know of it.
-/

set_option autoImplicit false

namespace OralExam.Rounding

noncomputable section

/-! ## Integers -/

abbrev half : ℝ := 1 / 2

/-- The nearest integer, from the middle between two the even one. -/
def toEven (x : ℝ) : ℤ :=
  if Int.fract x < 1 / 2 then ⌊x⌋
  else if 1 / 2 < Int.fract x then ⌊x⌋ + 1
  else ⌊x⌋ + ⌊x⌋ % 2

theorem floor_le_toEven (x : ℝ) : ⌊x⌋ ≤ toEven x := by
  unfold toEven
  split_ifs <;> omega

theorem toEven_le (x : ℝ) : toEven x ≤ ⌊x⌋ + 1 := by
  unfold toEven
  split_ifs <;> omega

theorem toEven_mono {x y : ℝ} (le : x ≤ y) : toEven x ≤ toEven y := by
  rcases (Int.floor_mono le).lt_or_eq with apart | same
  · have low := toEven_le x
    have high := floor_le_toEven y
    omega
  · -- Between the same integers it is the fractions that decide.
    have fract : Int.fract x ≤ Int.fract y := by
      rw [Int.fract, Int.fract, same]
      linarith
    have parity := Int.emod_lt_of_pos ⌊y⌋ two_pos
    unfold toEven
    rw [same]
    split_ifs <;> first | omega | linarith

@[simp] theorem toEven_intCast (n : ℤ) : toEven n = n := by
  simp [toEven]

@[simp] theorem toEven_natCast (n : ℕ) : toEven n = n := by
  simp [toEven]

/-! ## Magnitudes -/

/-- The exponent of the power of two whose multiples the number is rounded to. -/
def exponent (a : ℝ) : ℤ := max (Int.log 2 a - 52) (-1074)

/-- The number of these multiples nearest to the number. -/
def units (a : ℝ) : ℤ := toEven (a / 2 ^ exponent a)

/-- A number that is not negative, rounded as if there were no largest double. -/
def magnitude (a : ℝ) : ℝ := units a * 2 ^ exponent a

/-- So many units of that exponent. -/
abbrev multiple (m : ℕ) (t : ℤ) : ℝ := m * 2 ^ t

theorem two_zpow_pos (t : ℤ) : (0 : ℝ) < 2 ^ t := zpow_pos two_pos t

theorem exponent_eq {a : ℝ} {t : ℤ} (positive : 0 < a) (least : -1074 ≤ t)
    (below : a < 2 ^ (t + 53)) (full : 2 ^ (t + 52) ≤ a ∨ t = -1074) : exponent a = t := by
  have high : Int.log 2 a < t + 53 := (Int.lt_zpow_iff_log_lt one_lt_two positive).mp below
  have low : t + 52 ≤ Int.log 2 a ∨ t = -1074 :=
    full.imp_left (Int.zpow_le_iff_le_log one_lt_two positive).mp
  unfold exponent
  omega

@[simp] theorem magnitude_zero : magnitude 0 = 0 := by
  have zero : toEven 0 = 0 := by exact_mod_cast toEven_intCast 0
  simp [magnitude, units, zero]

theorem units_nonneg {a : ℝ} (nonneg : 0 ≤ a) : 0 ≤ units a :=
  (Int.floor_nonneg.mpr (div_nonneg nonneg (two_zpow_pos _).le)).trans (floor_le_toEven _)

theorem magnitude_nonneg {a : ℝ} (nonneg : 0 ≤ a) : 0 ≤ magnitude a :=
  mul_nonneg (Int.cast_nonneg (units_nonneg nonneg)) (two_zpow_pos _).le

theorem pow_add_53 (t : ℤ) : (2 : ℝ) ^ (t + 53) = ((2 ^ 53 : ℤ) : ℝ) * 2 ^ t := by
  rw [zpow_add₀ two_ne_zero, mul_comm]
  norm_num

theorem pow_add_52 (t : ℤ) : (2 : ℝ) ^ (t + 52) = ((2 ^ 52 : ℤ) : ℝ) * 2 ^ t := by
  rw [zpow_add₀ two_ne_zero, mul_comm]
  norm_num

/-- Rounding up may need one digit more. -/
theorem units_le {a : ℝ} (positive : 0 < a) : units a ≤ 2 ^ 53 := by
  have log : Int.log 2 a < exponent a + 53 := by
    unfold exponent
    omega
  have below := (Int.lt_zpow_iff_log_lt one_lt_two positive).mpr log
  have steps : a / 2 ^ exponent a ≤ ((2 ^ 53 : ℤ) : ℝ) := by
    rw [div_le_iff₀ (two_zpow_pos _), ← pow_add_53]
    exact below.le
  exact (toEven_mono steps).trans (toEven_intCast _).le

theorem le_units {a : ℝ} (positive : 0 < a) (normal : -1074 < exponent a) : 2 ^ 52 ≤ units a := by
  have log : exponent a + 52 ≤ Int.log 2 a := by
    unfold exponent at normal ⊢
    omega
  have above := (Int.zpow_le_iff_le_log one_lt_two positive).mpr log
  have steps : ((2 ^ 52 : ℤ) : ℝ) ≤ a / 2 ^ exponent a := by
    rw [le_div_iff₀ (two_zpow_pos _), ← pow_add_52]
    exact above
  exact (toEven_intCast _).ge.trans (toEven_mono steps)

theorem magnitude_le_pow {a : ℝ} (positive : 0 < a) : magnitude a ≤ 2 ^ (exponent a + 53) := by
  rw [pow_add_53]
  exact mul_le_mul_of_nonneg_right (Int.cast_le.mpr (units_le positive)) (two_zpow_pos _).le

theorem pow_le_magnitude {a : ℝ} (positive : 0 < a) (normal : -1074 < exponent a) :
    2 ^ (exponent a + 52) ≤ magnitude a := by
  rw [pow_add_52]
  exact mul_le_mul_of_nonneg_right (Int.cast_le.mpr (le_units positive normal)) (two_zpow_pos _).le

theorem magnitude_mono {a b : ℝ} (nonneg : 0 ≤ a) (le : a ≤ b) : magnitude a ≤ magnitude b := by
  rcases nonneg.eq_or_lt with rfl | positive
  · rw [magnitude_zero]
    exact magnitude_nonneg le
  have exponents : exponent a ≤ exponent b := by
    have log := Int.log_mono_right (b := 2) positive le
    unfold exponent
    omega
  rcases exponents.eq_or_lt with same | apart
  · unfold magnitude units
    rw [same]
    have steps := toEven_mono (div_le_div_of_nonneg_right le (two_zpow_pos (exponent b)).le)
    exact mul_le_mul_of_nonneg_right (Int.cast_le.mpr steps) (two_zpow_pos _).le
  · -- A power of two lies between the two.
    have normal : -1074 < exponent b := by
      have least : -1074 ≤ exponent a := le_max_right _ _
      omega
    calc magnitude a ≤ 2 ^ (exponent a + 53) := magnitude_le_pow positive
      _ ≤ 2 ^ (exponent b + 52) := zpow_le_zpow_right₀ one_le_two (by omega)
      _ ≤ magnitude b := pow_le_magnitude (positive.trans_le le) normal

/-- So many units of that exponent are the magnitude of a double, if it is not too large. -/
structure Canonical (m : ℕ) (t : ℤ) : Prop where
  below : m < 2 ^ 53
  least : -1074 ≤ t
  full : 2 ^ 52 ≤ m ∨ t = -1074

theorem lt_pow_of_lt {m : ℕ} (below : m < 2 ^ 53) (t : ℤ) : (m : ℝ) * 2 ^ t < 2 ^ (t + 53) := by
  have below : (m : ℝ) < ((2 ^ 53 : ℤ) : ℝ) := by exact_mod_cast below
  rw [pow_add_53]
  exact mul_lt_mul_of_pos_right below (two_zpow_pos t)

theorem pow_le_of_full {m : ℕ} (full : 2 ^ 52 ≤ m) (t : ℤ) : (2 : ℝ) ^ (t + 52) ≤ m * 2 ^ t := by
  have above : ((2 ^ 52 : ℤ) : ℝ) ≤ m := by exact_mod_cast full
  rw [pow_add_52]
  exact mul_le_mul_of_nonneg_right above (two_zpow_pos t).le

/-- So many units need no rounding. -/
theorem magnitude_of_lt {m : ℕ} {t : ℤ} (below : m < 2 ^ 53) (least : -1074 ≤ t) :
    magnitude (m * 2 ^ t) = m * 2 ^ t := by
  rcases m.eq_zero_or_pos with rfl | positive
  · simp
  have some : (0 : ℝ) < m * 2 ^ t := mul_pos (Nat.cast_pos.mpr positive) (two_zpow_pos t)
  have le : exponent (m * 2 ^ t) ≤ t := by
    have log := (Int.lt_zpow_iff_log_lt one_lt_two some).mp (lt_pow_of_lt below t)
    unfold exponent
    omega
  -- In smaller units it is still an integer.
  have finer : (m : ℝ) * 2 ^ t / 2 ^ exponent (m * 2 ^ t) =
      ((m * 2 ^ (t - exponent (m * 2 ^ t)).toNat : ℕ) : ℝ) := by
    rw [mul_div_assoc, ← zpow_sub₀ two_ne_zero, Nat.cast_mul, Nat.cast_pow, Nat.cast_ofNat,
      ← zpow_natCast, Int.toNat_of_nonneg (by omega)]
  rw [magnitude, units, finer, toEven_natCast, Int.cast_natCast, ← finer,
    div_mul_cancel₀ _ (two_zpow_pos _).ne']

/-! ## Signs and infinity -/

/-- The nearest multiple on either side of zero. -/
def nearest (r : ℝ) : ℝ := if 0 ≤ r then magnitude r else -magnitude (-r)

/-- The least power of two that no double has. -/
def limit : ℝ := 2 ^ (1024 : ℤ)

theorem limit_pos : 0 < limit := two_zpow_pos 1024

/-- Beyond the largest double there is only infinity. -/
def saturate (r : ℝ) : EReal := if limit ≤ r then ⊤ else if r ≤ -limit then ⊥ else r

/-- A real number as a double has it. -/
def rounded (r : ℝ) : EReal := saturate (nearest r)

theorem nearest_mono : Monotone nearest := by
  intro r s le
  unfold nearest
  split_ifs with first second second
  · exact magnitude_mono first le
  · linarith
  · have low := magnitude_nonneg (a := -r) (by linarith)
    have high := magnitude_nonneg second
    linarith
  · have swapped := magnitude_mono (a := -s) (b := -r) (by linarith) (by linarith)
    linarith

theorem nearest_neg (r : ℝ) : nearest (-r) = -nearest r := by
  unfold nearest
  rcases lt_trichotomy r 0 with negative | rfl | positive
  · rw [if_pos (by linarith), if_neg (by linarith), neg_neg]
  · simp
  · rw [if_neg (by linarith), if_pos positive.le, neg_neg]

theorem saturate_mono : Monotone saturate := by
  have large := limit_pos
  intro r s le
  unfold saturate
  split_ifs <;> first | exact le_top | exact bot_le | exact EReal.coe_le_coe_iff.mpr le | linarith

theorem saturate_neg (r : ℝ) : saturate (-r) = -saturate r := by
  have large := limit_pos
  unfold saturate
  split_ifs <;> first | rfl | linarith

theorem rounded_mono : Monotone rounded := saturate_mono.comp nearest_mono

theorem rounded_neg (r : ℝ) : rounded (-r) = -rounded r := by
  rw [rounded, nearest_neg, saturate_neg, rounded]

/-- A double has exactly that value. -/
def Exact (r : ℝ) : Prop := rounded r = r

theorem Exact.neg {r : ℝ} (same : Exact r) : Exact (-r) := by
  rw [Exact, rounded_neg, same, EReal.coe_neg]

theorem Exact.lt_limit {r : ℝ} (same : Exact r) : r < limit := by
  by_contra beyond
  unfold Exact rounded saturate at same
  split_ifs at same with above below
  · exact EReal.coe_ne_top r same.symm
  · exact EReal.coe_ne_bot r same.symm
  · rw [EReal.coe_eq_coe_iff] at same
    exact above (same.ge.trans' (not_lt.mp beyond))

theorem exact_of_lt {m : ℕ} {t : ℤ} (below : m < 2 ^ 53) (least : -1074 ≤ t) (small : t ≤ 971) :
    Exact (m * 2 ^ t) := by
  have nonneg : (0 : ℝ) ≤ m * 2 ^ t := mul_nonneg m.cast_nonneg (two_zpow_pos t).le
  have finite : (m : ℝ) * 2 ^ t < limit :=
    (lt_pow_of_lt below t).trans_le (zpow_le_zpow_right₀ one_le_two (by omega))
  have large := limit_pos
  rw [Exact, rounded, nearest, if_pos nonneg, magnitude_of_lt below least, saturate,
    if_neg (by linarith), if_neg (by linarith)]

theorem exact_natCast {n : ℕ} (below : n < 2 ^ 53) : Exact n := by
  simpa using exact_of_lt (t := 0) below (by decide) (by decide)

theorem exact_zero : Exact 0 := by
  simpa using exact_natCast (n := 0) (by decide)

theorem exact_one : Exact 1 := by
  simpa using exact_natCast (n := 1) (by decide)

theorem rounded_zero : rounded 0 = 0 := exact_zero

end

end OralExam.Rounding
