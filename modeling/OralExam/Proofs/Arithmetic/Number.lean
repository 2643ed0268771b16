import OralExam.Proofs.Arithmetic.Bounds

/-! What a comparison says of doubles.

What is no number is neither less nor more than anything, and no sum or difference with it is a number.
Between numbers a comparison is that of their values, and something added to one or taken off keeps it
on its side.
-/

set_option autoImplicit false

namespace OralExam.Double

open Float.Model Float.Model.UnpackedFloat Rounding

variable {x y : Float} {v : EReal} {b : ℝ}

/-! ## What is no number -/

theorem not_isNumber_iff : ¬IsNumber x ↔ x.toModel.unpack = .notANumber := by
  unfold IsNumber Denotes
  cases x.toModel.unpack with
  | infinity s => cases s <;> simp [value]
  | notANumber | zero | finite => simp [value]

theorem isNumber_iff : IsNumber x ↔ x.isNaN = false := by
  rw [← not_iff_not, not_isNumber_iff, Bool.not_eq_false]
  change x.toModel.unpack = .notANumber ↔ x.toModel.unpack.isNaN = true
  cases x.toModel.unpack <;> simp [UnpackedFloat.isNaN]

theorem isNumber_of_lt (less : x < y) : IsNumber x ∧ IsNumber y := by
  rw [lt_iff_compare] at less
  constructor
  · by_contra none
    rw [not_isNumber_iff.mp none] at less
    cases less
  · by_contra none
    rw [not_isNumber_iff.mp none] at less
    cases unpacked : x.toModel.unpack <;> simp [unpacked, UnpackedFloat.compare] at less

theorem isNumber_of_le (le : x ≤ y) : IsNumber x ∧ IsNumber y := by
  obtain ⟨o, compared, -⟩ := (le_iff_compare x y).mp le
  constructor
  · by_contra none
    rw [not_isNumber_iff.mp none] at compared
    cases compared
  · by_contra none
    rw [not_isNumber_iff.mp none] at compared
    cases unpacked : x.toModel.unpack <;> simp [unpacked, UnpackedFloat.compare] at compared

theorem isNumber_of_add (number : IsNumber (x + y)) : IsNumber x := by
  by_contra none
  have sum (u : UnpackedFloat) : UnpackedFloat.add Format.binary64 .notANumber u = .notANumber := by
    cases u <;> rfl
  refine not_isNumber_iff.mpr ?_ number
  change (Float.Model.pack (.add _ x.toModel.unpack y.toModel.unpack)).unpack = _
  rw [not_isNumber_iff.mp none, sum]
  rfl

theorem isNumber_of_sub (number : IsNumber (x - y)) : IsNumber x := by
  by_contra none
  have rest (u : UnpackedFloat) : UnpackedFloat.sub Format.binary64 .notANumber u = .notANumber := by
    cases u <;> rfl
  refine not_isNumber_iff.mpr ?_ number
  change (Float.Model.pack (.sub _ x.toModel.unpack y.toModel.unpack)).unpack = _
  rw [not_isNumber_iff.mp none, rest]
  rfl

/-! ## Values -/

/-- The value of a number. -/
noncomputable def number (x : Float) : EReal := (value x.toModel.unpack).getD 0

theorem IsNumber.denotes (isNumber : IsNumber x) : Denotes x (number x) := by
  obtain ⟨v, denotes⟩ := isNumber
  unfold Denotes at denotes
  rw [Denotes, number, denotes, Option.getD_some]

theorem IsNumber.lt_iff (left : IsNumber x) (right : IsNumber y) : x < y ↔ number x < number y :=
  left.denotes.lt_iff right.denotes

theorem IsNumber.le_iff (left : IsNumber x) (right : IsNumber y) : x ≤ y ↔ number x ≤ number y :=
  left.denotes.le_iff right.denotes

theorem IsNumber.not_lt_iff (left : IsNumber x) (right : IsNumber y) : ¬x < y ↔ y ≤ x := by
  rw [left.lt_iff right, right.le_iff left, not_lt]

/-- A number and something more is at least the number. -/
theorem le_add (denotes : Denotes x v) (more : Denotes y b) (nonneg : 0 ≤ b) :
    ∃ w, Denotes (x + y) w ∧ v ≤ w := by
  rcases value_cases denotes with ⟨infinite, rfl⟩ | ⟨-, rfl⟩ | ⟨a, -, rfl⟩
  · refine ⟨⊤, ?_, le_rfl⟩
    change value (Float.Model.pack (.add _ x.toModel.unpack y.toModel.unpack)).unpack = _
    rw [infinite, (infinity_add (denotes_coe_iff.mp more) .positive).1, unpack_pack]
    exact congrArg value (unpack_packedInfinity .positive)
  · obtain ⟨w, sum⟩ := IsNumber.add ⟨_, denotes⟩ more
    exact ⟨w, sum, bot_le⟩
  · refine ⟨_, denotes.add more, ?_⟩
    exact denotes.exact.ge.trans (rounded_mono (le_add_of_nonneg_right nonneg))

theorem infinity_sub {s : Sign} (infinite : x.toModel.unpack = .infinity s) (less : Denotes y b) :
    (x - y).toModel.unpack = .infinity s := by
  change (Float.Model.pack (.sub _ x.toModel.unpack y.toModel.unpack)).unpack = _
  rw [infinite, sub_eq_add, (infinity_add (real?_neg (denotes_coe_iff.mp less)) s).1, unpack_pack]
  exact unpack_packedInfinity s

/-- A number less something is at most the number. -/
theorem Denotes.sub_le (denotes : Denotes x v) (less : Denotes y b) (nonneg : 0 ≤ b) :
    ∃ w, Denotes (x - y) w ∧ w ≤ v := by
  rcases value_cases denotes with ⟨infinite, rfl⟩ | ⟨infinite, rfl⟩ | ⟨a, -, rfl⟩
  · exact ⟨⊤, congrArg value (infinity_sub infinite less), le_rfl⟩
  · exact ⟨⊥, congrArg value (infinity_sub infinite less), le_rfl⟩
  · refine ⟨_, denotes.sub less, ?_⟩
    exact (rounded_mono (sub_le_self a nonneg)).trans denotes.exact.le

end OralExam.Double
