import OralExam.Proofs.Arithmetic.Number

/-! How far two doubles lie apart.

The distance is the difference without its sign, rounded as the difference is. It is the same from
either side, nothing lies away from itself, and of finitely many doubles no two lie further apart than
the greatest and the least one.
-/

set_option autoImplicit false

namespace OralExam.Double

open Float.Model Float.Model.UnpackedFloat Rounding

variable {x y d : Float} {a b : ℝ} {v w : EReal}

/-! ## Differences -/

theorem value_packedInfinity (s : Sign) :
    value (Float.Model.pack (.infinity s)).unpack = value (.infinity s) :=
  congrArg value (unpack_packedInfinity s)

theorem value_infinity_neg (s : Sign) :
    value (.infinity (-s)) = (value (.infinity s)).map Neg.neg := by
  cases s with
  | positive => exact congrArg some EReal.neg_top.symm
  | negative => exact congrArg some EReal.neg_bot.symm

theorem denotes_neg (denotes : Denotes x v) : Denotes (-x) (-v) := by
  have infinite (s : Sign) (stored : x.toModel.unpack = .infinity s) :
      value (Float.Model.pack x.toModel.unpack.neg).unpack =
        (value x.toModel.unpack).map Neg.neg := by
    rw [stored]
    exact (value_packedInfinity (-s)).trans (value_infinity_neg s)
  unfold Denotes at denotes
  rcases value_cases denotes with ⟨stored, rfl⟩ | ⟨stored, rfl⟩ | ⟨a, stored, rfl⟩
  · exact (infinite .positive stored).trans (congrArg (Option.map Neg.neg) denotes)
  · exact (infinite .negative stored).trans (congrArg (Option.map Neg.neg) denotes)
  · exact Denotes.neg denotes

/-- A number is bounded below by its negation if it is not below zero; what is no number is not. -/
theorem neg_le_iff_nonneg : -x ≤ x ↔ 0 ≤ x := by
  constructor
  · intro ordered
    obtain ⟨-, ⟨v, denotes⟩⟩ := isNumber_of_le ordered
    rw [(denotes_neg denotes).le_iff denotes] at ordered
    refine (denotes_zero.le_iff denotes).mpr ?_
    by_contra below
    have above : 0 < -v := EReal.neg_pos.mpr (not_le.mp below)
    exact below (above.le.trans ordered)
  · intro nonneg
    obtain ⟨-, ⟨v, denotes⟩⟩ := isNumber_of_le nonneg
    have above : 0 ≤ v := (denotes_zero.le_iff denotes).mp nonneg
    have below : -v ≤ 0 := by rwa [EReal.neg_le, neg_zero]
    rw [(denotes_neg denotes).le_iff denotes]
    exact below.trans above

/-- The other way round a difference has the other sign. -/
theorem value_sub_swap {u u' : UnpackedFloat} (first : IsCanonical u) (second : IsCanonical u') :
    value (Float.Model.pack (.sub Format.binary64 u' u)).unpack =
      (value (Float.Model.pack (.sub Format.binary64 u u')).unpack).map Neg.neg := by
  have infinite (s : Sign) (one : UnpackedFloat.sub Format.binary64 u u' = .infinity s)
      (other : UnpackedFloat.sub Format.binary64 u' u = .infinity (-s)) :
      value (Float.Model.pack (.sub Format.binary64 u' u)).unpack =
        (value (Float.Model.pack (.sub Format.binary64 u u')).unpack).map Neg.neg := by
    rw [one, other, value_packedInfinity, value_packedInfinity, value_infinity_neg]
  have none (one : UnpackedFloat.sub Format.binary64 u u' = .notANumber)
      (other : UnpackedFloat.sub Format.binary64 u' u = .notANumber) :
      value (Float.Model.pack (.sub Format.binary64 u' u)).unpack =
        (value (Float.Model.pack (.sub Format.binary64 u u')).unpack).map Neg.neg := by
    rw [one, other]
    rfl
  cases u with
  | notANumber => cases u' <;> exact none rfl rfl
  | infinity s =>
    cases u' with
    | notANumber => exact none rfl rfl
    | infinity s' =>
      cases s <;> cases s' <;> first | exact none rfl rfl | exact infinite _ rfl rfl
    | zero | finite => exact infinite s rfl rfl
  | zero | finite =>
    cases u' with
    | notANumber => exact none rfl rfl
    | infinity s =>
      refine infinite (-s) rfl ?_
      cases s <;> rfl
    | zero | finite =>
      rw [sub_eq_add, sub_eq_add, value_add second (isCanonical_neg first) rfl (real?_neg rfl),
        value_add first (isCanonical_neg second) rfl (real?_neg rfl), Option.map_some,
        ← rounded_neg, neg_add, neg_neg, add_comm]

theorem Denotes.sub_swap (denotes : Denotes (x - y) v) : Denotes (y - x) (-v) := by
  have swapped := value_sub_swap (isCanonical x) (isCanonical y)
  change value (Float.Model.pack (.sub _ x.toModel.unpack y.toModel.unpack)).unpack = _ at denotes
  rw [denotes] at swapped
  exact swapped

/-! ## Distances -/

theorem Denotes.distance (denotes : Denotes (x - y) v) :
    Denotes (Scalar.distance x y) (max v (-v)) := by
  unfold Scalar.distance
  dsimp only
  split_ifs with negative
  · rw [denotes.lt_iff denotes_zero] at negative
    have above : 0 ≤ -v := EReal.neg_nonneg.mpr negative.le
    rw [max_eq_right (negative.le.trans above)]
    exact denotes_neg denotes
  · rw [denotes.lt_iff denotes_zero, not_lt] at negative
    have below : -v ≤ 0 := by rwa [EReal.neg_le, neg_zero]
    rw [max_eq_left (below.trans negative)]
    exact denotes

theorem isNumber_of_distance (number : IsNumber (Scalar.distance x y)) : IsNumber (x - y) := by
  unfold Scalar.distance at number
  dsimp only at number
  split_ifs at number with negative
  · exact (isNumber_of_lt negative).1
  · exact number

/-- Something is less than the distance from one to the other, and so from the other to the one. -/
theorem lt_distance_swap (less : d < Scalar.distance x y) : d < Scalar.distance y x := by
  obtain ⟨⟨w, limit⟩, number⟩ := isNumber_of_lt less
  obtain ⟨v, difference⟩ := isNumber_of_distance number
  rw [limit.lt_iff difference.sub_swap.distance, neg_neg, max_comm]
  exact (limit.lt_iff difference.distance).mp less

theorem not_lt_distance_self (nonneg : 0 ≤ d) : ¬d < Scalar.distance x x := by
  intro less
  obtain ⟨⟨w, limit⟩, number⟩ := isNumber_of_lt less
  obtain ⟨v, difference⟩ := isNumber_of_distance number
  have same : v = -v := difference.unique difference.sub_swap
  have nothing : v ≤ 0 := by
    by_contra above
    have below : -v < 0 := by rwa [EReal.neg_lt_comm, neg_zero, ← not_le]
    exact above (same.le.trans below.le)
  rw [limit.lt_iff difference.distance, ← same, max_self] at less
  exact (((denotes_zero.le_iff limit).mp nonneg).trans_lt less).not_ge nothing

/-! ## The greatest and the least -/

section

variable {xs : List Float} {high low : Float}

theorem le_of_le_of_le {z : Float} (first : x ≤ y) (second : y ≤ z) : x ≤ z := by
  obtain ⟨⟨u, small⟩, ⟨v, middle⟩⟩ := isNumber_of_le first
  obtain ⟨-, ⟨w, large⟩⟩ := isNumber_of_le second
  rw [small.le_iff large]
  exact ((small.le_iff middle).mp first).trans ((middle.le_iff large).mp second)

theorem IsNumber.le_or_le (left : IsNumber x) (right : IsNumber y) : x ≤ y ∨ y ≤ x := by
  obtain ⟨v, denotes⟩ := left
  obtain ⟨w, denotes'⟩ := right
  rw [denotes.le_iff denotes', denotes'.le_iff denotes]
  exact le_total v w

/-- Whoever chooses one of two numbers at a time, and always one that the other is before, comes to one
that all of them are before. -/
theorem foldl_choice (choice : Float → Float → Float) (Before : Float → Float → Prop)
    (trans : ∀ {x y z}, Before x y → Before y z → Before x z)
    (chosen : ∀ {x y}, IsNumber x → IsNumber y →
      choice x y = x ∧ Before y x ∨ choice x y = y ∧ Before x y)
    (refl : ∀ {x}, IsNumber x → Before x x) {x : Float} (numbers : ∀ y ∈ x :: xs, IsNumber y) :
    xs.foldl choice x ∈ x :: xs ∧ ∀ y ∈ x :: xs, Before y (xs.foldl choice x) := by
  induction xs generalizing x with
  | nil =>
    refine ⟨List.mem_singleton_self x, fun y member => ?_⟩
    obtain rfl := List.mem_singleton.mp member
    exact refl (numbers y member)
  | cons z zs ih =>
    simp only [List.forall_mem_cons] at numbers ih ⊢
    obtain ⟨first, second, rest⟩ := numbers
    rw [List.foldl_cons]
    rcases chosen first second with ⟨same, before⟩ | ⟨same, before⟩
    · rw [same]
      obtain ⟨member, own, later⟩ := ih ⟨first, rest⟩
      refine ⟨?_, own, trans before own, later⟩
      rcases List.mem_cons.mp member with here | there
      · exact List.mem_cons.mpr (.inl here)
      · exact List.mem_cons_of_mem _ (List.mem_cons_of_mem _ there)
    · rw [same]
      obtain ⟨member, own, later⟩ := ih ⟨second, rest⟩
      exact ⟨List.mem_cons_of_mem _ member, trans before own, own, later⟩

theorem le_max? (numbers : ∀ x ∈ xs, IsNumber x) (greatest : xs.max? = some high) :
    high ∈ xs ∧ ∀ x ∈ xs, x ≤ high := by
  cases xs with
  | nil => cases greatest
  | cons x xs =>
    cases greatest
    refine foldl_choice max (· ≤ ·) le_of_le_of_le ?_
      (fun number => (number.le_or_le number).elim id id) numbers
    intro x y left right
    change (if x ≤ y then y else x) = x ∧ y ≤ x ∨ (if x ≤ y then y else x) = y ∧ x ≤ y
    split_ifs with le
    · exact .inr ⟨rfl, le⟩
    · exact .inl ⟨rfl, (left.le_or_le right).resolve_left le⟩

theorem min?_le (numbers : ∀ x ∈ xs, IsNumber x) (least : xs.min? = some low) :
    low ∈ xs ∧ ∀ x ∈ xs, low ≤ x := by
  cases xs with
  | nil => cases least
  | cons x xs =>
    cases least
    refine foldl_choice min (· ≥ ·) (fun first second => le_of_le_of_le second first) ?_
      (fun number => (number.le_or_le number).elim id id) numbers
    intro x y left right
    change (if x ≤ y then x else y) = x ∧ x ≤ y ∨ (if x ≤ y then x else y) = y ∧ y ≤ x
    split_ifs with le
    · exact .inl ⟨rfl, le⟩
    · exact .inr ⟨rfl, (left.le_or_le right).resolve_left le⟩

/-- Two of the doubles lie further apart than some distance exactly if the greatest and the least do. -/
theorem lt_range_iff (finite : ∀ x ∈ xs, x.isFinite) (greatest : xs.max? = some high)
    (least : xs.min? = some low) :
    d < high - low ↔ ∃ x ∈ xs, ∃ y ∈ xs, d < Scalar.distance x y := by
  have numbers : ∀ x ∈ xs, IsNumber x := by
    intro x member
    obtain ⟨a, denotes⟩ := isFinite_iff.mp (finite x member)
    exact ⟨a, denotes⟩
  obtain ⟨top, above⟩ := le_max? numbers greatest
  obtain ⟨bottom, below⟩ := min?_le numbers least
  obtain ⟨h, highest⟩ := isFinite_iff.mp (finite high top)
  obtain ⟨l, lowest⟩ := isFinite_iff.mp (finite low bottom)
  have range := highest.sub lowest
  have within {z : Float} {c : ℝ} (member : z ∈ xs) (denotes : Denotes z c) : l ≤ c ∧ c ≤ h :=
    ⟨EReal.coe_le_coe_iff.mp ((lowest.le_iff denotes).mp (below z member)),
      EReal.coe_le_coe_iff.mp ((denotes.le_iff highest).mp (above z member))⟩
  constructor
  · intro less
    obtain ⟨⟨w, limit⟩, -⟩ := isNumber_of_lt less
    refine ⟨high, top, low, bottom, ?_⟩
    rw [limit.lt_iff range.distance]
    exact ((limit.lt_iff range).mp less).trans_le (le_max_left _ _)
  · rintro ⟨x, member, y, member', less⟩
    obtain ⟨⟨w, limit⟩, -⟩ := isNumber_of_lt less
    obtain ⟨a, denotes⟩ := isFinite_iff.mp (finite x member)
    obtain ⟨b, denotes'⟩ := isFinite_iff.mp (finite y member')
    obtain ⟨least, most⟩ := within member denotes
    obtain ⟨least', most'⟩ := within member' denotes'
    rw [limit.lt_iff (denotes.sub denotes').distance, ← rounded_neg] at less
    rw [limit.lt_iff range]
    exact less.trans_le (max_le (rounded_mono (by linarith)) (rounded_mono (by linarith)))

end

end OralExam.Double
