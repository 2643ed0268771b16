import Mathlib.Algebra.Order.BigOperators.Group.List
import OralExam.Proofs.Arithmetic.Exact
import OralExam.Session.Conduct

/-! A better answer does not lower the ability.

In exact arithmetic a step adds to the ability the slope over the information. The information does not
depend on how the questions were answered, and the slope is a sum over the answers that grows with each
of them; so of two courses of the same questions the one with the better answers leads to an ability at
least as high, and to the same standard error.
-/

set_option autoImplicit false

namespace OralExam.Ability

/-- The same question, answered at least as well. -/
structure Item.NoWorse (item item' : Item ℝ) : Prop where
  discrimination : item.discrimination = item'.discrimination
  difficulty : item.difficulty = item'.difficulty
  response : item.response ≤ item'.response

/-- An answer whose response is its correctness, as it counts for the estimate. -/
def Estimator.counted {α : Type} [Scalar α] (e : Estimator α) (answer : Item α) : Item α :=
  { answer with response := e.responseValue answer.response }

/-- The items of a session are its answers as they count. -/
theorem items_eq_counted (settings : Settings) (s : Session) :
    s.items settings =
      (s.answers.map fun a => (⟨a.discrimination, a.difficulty, a.correctness⟩ : Item Float)).map
        settings.estimator.counted := by
  rw [List.map_map]
  rfl

noncomputable section

open scoped Exact

theorem probability_eq (a b θ : ℝ) : probability a b θ = 1 / (1 + Real.exp (-a * (θ - b))) := by
  unfold probability
  rw [Exact.one_eq]
  rfl

theorem probability_mem (a b θ : ℝ) : probability a b θ ∈ Set.Ioo 0 1 := by
  have odds : 0 < Real.exp (-a * (θ - b)) := Real.exp_pos _
  rw [probability_eq]
  exact ⟨by positivity, (div_lt_one (by positivity)).mpr (lt_add_of_pos_right 1 odds)⟩

/-! ## Sums over the answers -/

/-- What an answer adds to the slope of the log-likelihood. -/
def Item.slope (θ : ℝ) (item : Item ℝ) : ℝ :=
  item.discrimination * (item.response - probability item.discrimination item.difficulty θ)

/-- What a question adds to the information. -/
def Item.information (θ : ℝ) (item : Item ℝ) : ℝ :=
  Ability.information item.discrimination item.difficulty θ

def slope (θ : ℝ) (items : List (Item ℝ)) : ℝ := (items.map (Item.slope θ)).sum

def totalInformation (θ : ℝ) (items : List (Item ℝ)) : ℝ := (items.map (Item.information θ)).sum

variable {item item' : Item ℝ} {items items' answers answers' : List (Item ℝ)} {θ : ℝ}

theorem totals_eq (θ : ℝ) (items : List (Item ℝ)) :
    Estimator.totals θ items = (slope θ items, totalInformation θ items) := by
  have sums := Exact.foldl_sums (Item.slope θ) (Item.information θ) items (0, 0)
  rw [zero_add, zero_add] at sums
  unfold Estimator.totals
  rw [Exact.zero_eq]
  exact sums

theorem Item.NoWorse.slope_le (noWorse : item.NoWorse item') (sharp : 0 < item.discrimination) :
    item.slope θ ≤ item'.slope θ := by
  unfold Item.slope
  rw [← noWorse.discrimination, ← noWorse.difficulty]
  exact mul_le_mul_of_nonneg_left (sub_le_sub_right noWorse.response _) sharp.le

theorem Item.NoWorse.slope_lt (noWorse : item.NoWorse item') (sharp : 0 < item.discrimination)
    (differ : item.response ≠ item'.response) : item.slope θ < item'.slope θ := by
  unfold Item.slope
  rw [← noWorse.discrimination, ← noWorse.difficulty]
  exact mul_lt_mul_of_pos_left (sub_lt_sub_right (noWorse.response.lt_of_ne differ) _) sharp

/-- Slopes compare as those of the single answers do. -/
theorem slope_mono (better : List.Forall₂ Item.NoWorse items items')
    (sharp : ∀ item ∈ items, 0 < item.discrimination) : slope θ items ≤ slope θ items' := by
  induction better with
  | nil => exact le_rfl
  | @cons item item' items items' first rest ih =>
    obtain ⟨sharpFirst, sharpRest⟩ := List.forall_mem_cons.mp sharp
    simp only [slope, List.map_cons, List.sum_cons] at ih ⊢
    exact add_le_add (first.slope_le sharpFirst) (ih sharpRest)

/-- One better answer among them is enough. -/
theorem slope_strict (better : List.Forall₂ Item.NoWorse items items')
    (sharp : ∀ item ∈ items, 0 < item.discrimination)
    (differ : items.map Item.response ≠ items'.map Item.response) :
    slope θ items < slope θ items' := by
  induction better with
  | nil => exact absurd rfl differ
  | @cons item item' items items' first rest ih =>
    obtain ⟨sharpFirst, sharpRest⟩ := List.forall_mem_cons.mp sharp
    have others := slope_mono (θ := θ) rest sharpRest
    simp only [slope, List.map_cons, List.sum_cons] at ih others ⊢
    by_cases same : item.response = item'.response
    · refine add_lt_add_of_le_of_lt (first.slope_le sharpFirst) (ih sharpRest fun equal => ?_)
      exact differ (List.cons_eq_cons.mpr ⟨same, equal⟩)
    · exact add_lt_add_of_lt_of_le (first.slope_lt sharpFirst same) others

theorem totalInformation_eq (better : List.Forall₂ Item.NoWorse items items') :
    totalInformation θ items = totalInformation θ items' := by
  induction better with
  | nil => rfl
  | @cons item item' items items' first rest ih =>
    simp only [totalInformation, List.map_cons, List.sum_cons] at ih ⊢
    rw [ih, Item.information, Item.information, first.discrimination, first.difficulty]

theorem slope_nonneg (sharp : ∀ item ∈ items, 0 < item.discrimination)
    (right : ∀ item ∈ items, item.response = 1) : 0 ≤ slope θ items := by
  refine List.sum_nonneg fun x member => ?_
  obtain ⟨item, inside, rfl⟩ := List.mem_map.mp member
  have chance := probability_mem item.discrimination item.difficulty θ
  rw [Item.slope, right item inside]
  exact mul_nonneg (sharp item inside).le (sub_nonneg.mpr chance.2.le)

theorem slope_nonpos (sharp : ∀ item ∈ items, 0 < item.discrimination)
    (wrong : ∀ item ∈ items, item.response = 0) : slope θ items ≤ 0 := by
  rw [← smul_zero (items.map (Item.slope θ)).length]
  refine List.sum_le_card_nsmul _ _ fun x member => ?_
  obtain ⟨item, inside, rfl⟩ := List.mem_map.mp member
  have chance := probability_mem item.discrimination item.difficulty θ
  rw [Item.slope, wrong item inside]
  exact mul_nonpos_of_nonneg_of_nonpos (sharp item inside).le (sub_nonpos.mpr chance.1.le)

/-! ## Steps -/

namespace Estimator

variable {e : Estimator ℝ}

/-- The nearest ability within the bound. -/
def within (e : Estimator ℝ) (θ : ℝ) : ℝ := Scalar.clamp (-e.bound) e.bound θ

theorem neg_bound_le (bound : 0 < e.bound) : -e.bound ≤ e.bound := (neg_lt_self bound).le

theorem within_mono (bound : 0 < e.bound) {x y : ℝ} (le : x ≤ y) : e.within x ≤ e.within y :=
  Exact.clamp_mono (neg_bound_le bound) le

theorem within_within (bound : 0 < e.bound) (x : ℝ) : e.within (e.within x) = e.within x :=
  Exact.clamp_clamp (neg_bound_le bound) x

theorem update_eq (e : Estimator ℝ) (current : Estimate ℝ) (items : List (Item ℝ)) :
    e.update current items =
      let θ := e.within current.theta
      let info := totalInformation θ items
      if Scalar.epsilon < info then
        ⟨e.within (θ + slope θ items / info), 1 / Real.sqrt info⟩
      else ⟨θ, if items.isEmpty then e.priorStandardError else current.standardError⟩ := by
  unfold update
  dsimp only
  rw [totals_eq, Exact.one_eq]
  exact if_congr (and_iff_right rfl) rfl rfl

theorem epsilon_pos : 0 < (Scalar.epsilon : ℝ) := by
  change (0 : ℝ) < ((2 ^ 52 : ℕ) : ℝ)⁻¹
  positivity

theorem update_mono (bound : 0 < e.bound) (current : Estimate ℝ)
    (better : List.Forall₂ Item.NoWorse items items')
    (sharp : ∀ item ∈ items, 0 < item.discrimination) :
    (e.update current items).theta ≤ (e.update current items').theta ∧
      (e.update current items).standardError = (e.update current items').standardError := by
  have empty : items.isEmpty = items'.isEmpty := by cases better <;> rfl
  rw [update_eq, update_eq]
  dsimp only
  rw [totalInformation_eq better, empty]
  -- The information is the same, so that both courses take the step or neither does.
  split_ifs with informative
  · have some := epsilon_pos.trans informative
    refine ⟨within_mono bound (add_le_add_right ?_ _), rfl⟩
    exact div_le_div_of_nonneg_right (slope_mono better sharp) some.le
  all_goals exact ⟨le_rfl, rfl⟩

/-- Where the step is taken and its end is not cut off, a better answer tells. -/
theorem update_strict (bound : 0 < e.bound) (current : Estimate ℝ)
    (better : List.Forall₂ Item.NoWorse items items')
    (sharp : ∀ item ∈ items, 0 < item.discrimination)
    (differ : items.map Item.response ≠ items'.map Item.response)
    (informative : Scalar.epsilon < totalInformation (e.within current.theta) items)
    (below : (e.update current items).theta < e.bound)
    (above : -e.bound < (e.update current items').theta) :
    (e.update current items).theta < (e.update current items').theta := by
  have some := epsilon_pos.trans informative
  rw [update_eq] at below above ⊢
  rw [update_eq e current items']
  dsimp only at below above ⊢
  rw [← totalInformation_eq better] at above ⊢
  rw [if_pos informative] at below above ⊢
  rw [if_pos informative]
  refine Exact.clamp_strict (neg_bound_le bound) (add_lt_add_right ?_ _) below above
  exact div_lt_div_of_pos_right (slope_strict better sharp differ) some

theorem le_update (bound : 0 < e.bound) {current : Estimate ℝ}
    (rising : 0 ≤ slope (e.within current.theta) items) :
    e.within current.theta ≤ (e.update current items).theta := by
  rw [update_eq]
  dsimp only
  split_ifs with informative
  · have some := epsilon_pos.trans informative
    -- Where the step starts is within the bound already.
    refine (within_within bound _).ge.trans (within_mono bound ?_)
    exact le_add_of_nonneg_right (div_nonneg rising some.le)
  all_goals exact le_rfl

theorem update_le (bound : 0 < e.bound) {current : Estimate ℝ}
    (falling : slope (e.within current.theta) items ≤ 0) :
    (e.update current items).theta ≤ e.within current.theta := by
  rw [update_eq]
  dsimp only
  split_ifs with informative
  · have some := epsilon_pos.trans informative
    refine (within_mono bound ?_).trans (within_within bound _).le
    exact add_le_of_nonpos_right (div_nonpos_of_nonpos_of_nonneg falling some.le)
  all_goals exact le_rfl

theorem update_of_perm (e : Estimator ℝ) (current : Estimate ℝ) (perm : items.Perm items') :
    e.update current items = e.update current items' := by
  have sums (θ : ℝ) : slope θ items = slope θ items' ∧
      totalInformation θ items = totalInformation θ items' :=
    ⟨(perm.map _).sum_eq, (perm.map _).sum_eq⟩
  obtain ⟨slopes, informations⟩ := sums (e.within current.theta)
  rw [update_eq, update_eq]
  dsimp only
  rw [slopes, informations, perm.isEmpty_eq]

theorem responseValue_mono (e : Estimator ℝ) {c c' : ℝ} (le : c ≤ c') :
    e.responseValue c ≤ e.responseValue c' := by
  have within := Exact.unit_mono le
  unfold responseValue
  cases e.model with
  | soft => exact within
  | dichotomous =>
    dsimp only
    split_ifs with passed passed'
    · exact le_rfl
    · exact absurd (passed.trans within) passed'
    · rw [Exact.zero_eq, Exact.one_eq]
      exact zero_le_one
    · exact le_rfl

theorem counted_noWorse (e : Estimator ℝ) (better : List.Forall₂ Item.NoWorse answers answers') :
    List.Forall₂ Item.NoWorse (answers.map e.counted) (answers'.map e.counted) := by
  rw [List.forall₂_map_left_iff, List.forall₂_map_right_iff]
  refine better.imp fun answer answer' noWorse => ?_
  exact ⟨noWorse.discrimination, noWorse.difficulty, e.responseValue_mono noWorse.response⟩

/-- Whatever the estimate so far, better answers to the same questions, each of which separates abilities,
lead to an ability at least as high and to the same standard error, and to a higher one where the
questions are informative and the bound leaves room; the first also holds where each answer counts by
its correctness or as right or wrong. If all answers are right the ability does not fall, and if all are
wrong it does not rise, other than to come within the bound. The order of the answers makes no
difference. -/
theorem better_answers_raise_ability (e : Estimator ℝ) (bound : 0 < e.bound)
    (current : Estimate ℝ) :
    (∀ a b θ : ℝ, probability a b θ ∈ Set.Ioo 0 1) ∧
      (∀ items items', List.Forall₂ Item.NoWorse items items' →
        (∀ item ∈ items, 0 < item.discrimination) →
          (e.update current items).theta ≤ (e.update current items').theta ∧
          (e.update current items).standardError = (e.update current items').standardError ∧
          (items.map Item.response ≠ items'.map Item.response →
            Scalar.epsilon <
              (totals (Scalar.clamp (-e.bound) e.bound current.theta) items).2 →
            (e.update current items).theta < e.bound →
            -e.bound < (e.update current items').theta →
              (e.update current items).theta < (e.update current items').theta)) ∧
      (∀ items : List (Item ℝ), (∀ item ∈ items, 0 < item.discrimination) →
        ((∀ item ∈ items, item.response = 1) →
          Scalar.clamp (-e.bound) e.bound current.theta ≤ (e.update current items).theta) ∧
        ((∀ item ∈ items, item.response = 0) →
          (e.update current items).theta ≤ Scalar.clamp (-e.bound) e.bound current.theta)) ∧
      (∀ items items' : List (Item ℝ), items.Perm items' →
        e.update current items = e.update current items') ∧
      ∀ answers answers', List.Forall₂ Item.NoWorse answers answers' →
        (∀ answer ∈ answers, 0 < answer.discrimination) →
          (e.update current (answers.map e.counted)).theta ≤
            (e.update current (answers'.map e.counted)).theta := by
  refine ⟨probability_mem, fun items items' better sharp => ?_,
    fun items sharp => ⟨fun right => ?_, fun wrong => ?_⟩,
    fun items items' => update_of_perm e current, fun answers answers' better sharp => ?_⟩
  · obtain ⟨theta, standardError⟩ := update_mono bound current better sharp
    refine ⟨theta, standardError, fun differ informative => ?_⟩
    rw [totals_eq] at informative
    exact update_strict bound current better sharp differ informative
  · exact le_update bound (slope_nonneg sharp right)
  · exact update_le bound (slope_nonpos sharp wrong)
  · refine (update_mono bound current (e.counted_noWorse better) ?_).1
    exact List.forall_mem_map.mpr sharp

/-- One answer is not enough to pass, and the other one is. -/
theorem passing_raises_ability :
    let e : Estimator ℝ := ⟨4, 1, .dichotomous, 1 / 2⟩
    let failed : List (Item ℝ) := [⟨1, 0, 1 / 4⟩]
    let passed : List (Item ℝ) := [⟨1, 0, 3 / 4⟩]
    0 < e.bound ∧ List.Forall₂ Item.NoWorse failed passed ∧
      (e.update ⟨0, 1⟩ (failed.map e.counted)).theta ≤
        (e.update ⟨0, 1⟩ (passed.map e.counted)).theta := by
  intro e failed passed
  have bound : 0 < e.bound := by simp [e]
  have better : List.Forall₂ Item.NoWorse failed passed :=
    .cons ⟨rfl, rfl, by norm_num⟩ .nil
  have sharp : ∀ answer ∈ failed, 0 < answer.discrimination := by simp [failed]
  obtain ⟨-, -, -, -, raised⟩ := better_answers_raise_ability e bound ⟨0, 1⟩
  exact ⟨bound, better, raised failed passed better sharp⟩

end Estimator

end

end OralExam.Ability
