import Mathlib.Algebra.Order.BigOperators.Group.List
import Mathlib.Data.Set.Finite.Lattice
import OralExam.Proofs.Arithmetic.Exact
import OralExam.Session.Verdict

/-! The score of a session as a mean.

In exact arithmetic the score is the mean mastery of the concepts that a session reached, each of them
counted as often as its weight says. A concept that was not reached takes no part in it, so that only
the weights of the others, relative to each other, make a difference.
-/

set_option autoImplicit false

namespace OralExam

/-! ## Weighted means -/

def totalWeight (ps : List (ℕ × ℝ)) : ℝ := (ps.map fun p => (p.1 : ℝ)).sum

def weightedSum (ps : List (ℕ × ℝ)) : ℝ := (ps.map fun p => (p.1 : ℝ) * p.2).sum

/-- The mean of values that count by their weights; zero if no weight is positive. -/
noncomputable def weightedMean (ps : List (ℕ × ℝ)) : ℝ := weightedSum ps / totalWeight ps

section

variable {ps qs : List (ℕ × ℝ)} {low high : ℝ}

theorem weights_nonneg (ps : List (ℕ × ℝ)) : ∀ w ∈ ps.map fun p => (p.1 : ℝ), 0 ≤ w := by
  intro w member
  obtain ⟨p, -, rfl⟩ := List.mem_map.mp member
  exact Nat.cast_nonneg p.1

theorem totalWeight_pos (heavy : ∃ p ∈ ps, 0 < p.1) : 0 < totalWeight ps := by
  obtain ⟨p, member, weight⟩ := heavy
  have counted : (p.1 : ℝ) ∈ ps.map fun p => (p.1 : ℝ) := List.mem_map_of_mem member
  exact (Nat.cast_pos.mpr weight).trans_le (List.single_le_sum (weights_nonneg ps) _ counted)

/-- Values are compared only where they have some weight. -/
theorem weighted_le {w : ℕ} {x y : ℝ} (le : 0 < w → x ≤ y) : w * x ≤ w * y := by
  rcases Nat.eq_zero_or_pos w with rfl | some
  · rw [Nat.cast_zero, zero_mul, zero_mul]
  · exact mul_le_mul_of_nonneg_left (le some) (Nat.cast_nonneg w)

theorem mul_totalWeight (x : ℝ) (ps : List (ℕ × ℝ)) :
    x * totalWeight ps = (ps.map fun p => (p.1 : ℝ) * x).sum := by
  rw [totalWeight, List.sum_map_mul_right, mul_comm]

theorem weightedMean_of_perm (perm : ps.Perm qs) : weightedMean ps = weightedMean qs := by
  unfold weightedMean weightedSum totalWeight
  rw [(perm.map _).sum_eq, (perm.map fun p => (p.1 : ℝ)).sum_eq]

theorem weightedMean_scaled {k : ℕ} (positive : 0 < k) (ps : List (ℕ × ℝ)) :
    weightedMean (ps.map fun p => (k * p.1, p.2)) = weightedMean ps := by
  have total : totalWeight (ps.map fun p => (k * p.1, p.2)) = k * totalWeight ps := by
    simp [totalWeight, Function.comp_def, List.sum_map_mul_left]
  have sum : weightedSum (ps.map fun p => (k * p.1, p.2)) = k * weightedSum ps := by
    simp [weightedSum, Function.comp_def, List.sum_map_mul_left, mul_assoc]
  rw [weightedMean, total, sum, mul_div_mul_left _ _ (Nat.cast_ne_zero.mpr positive.ne')]
  rfl

/-- Where each value is raised and each weight kept. -/
theorem weightedMean_mono (raised : List.Forall₂ (fun p q => p.1 = q.1 ∧ p.2 ≤ q.2) ps qs) :
    weightedMean ps ≤ weightedMean qs := by
  obtain ⟨total, sum⟩ :
      totalWeight ps = totalWeight qs ∧ weightedSum ps ≤ weightedSum qs := by
    induction raised with
    | nil => exact ⟨rfl, le_rfl⟩
    | @cons p q ps qs first rest ih =>
      obtain ⟨weight, value⟩ := first
      simp only [totalWeight, weightedSum, List.map_cons, List.sum_cons] at ih ⊢
      rw [weight, ih.1]
      exact ⟨rfl, add_le_add (weighted_le fun _ => value) ih.2⟩
  rw [weightedMean, weightedMean, total]
  exact div_le_div_of_nonneg_right sum (List.sum_nonneg (weights_nonneg qs))

theorem le_weightedMean (heavy : ∃ p ∈ ps, 0 < p.1) (least : ∀ p ∈ ps, 0 < p.1 → low ≤ p.2) :
    low ≤ weightedMean ps := by
  rw [weightedMean, le_div_iff₀ (totalWeight_pos heavy), mul_totalWeight]
  exact List.sum_le_sum fun p member => weighted_le (least p member)

theorem weightedMean_le (heavy : ∃ p ∈ ps, 0 < p.1) (most : ∀ p ∈ ps, 0 < p.1 → p.2 ≤ high) :
    weightedMean ps ≤ high := by
  rw [weightedMean, div_le_iff₀ (totalWeight_pos heavy), mul_totalWeight]
  exact List.sum_le_sum fun p member => weighted_le (most p member)

theorem weightedMean_eq_zero_iff (nonneg : ∀ p ∈ ps, 0 ≤ p.2) :
    weightedMean ps = 0 ↔ ∀ p ∈ ps, 0 < p.1 → p.2 = 0 := by
  have terms : ∀ x ∈ ps.map (fun p => (p.1 : ℝ) * p.2), 0 ≤ x := by
    intro x member
    obtain ⟨p, inside, rfl⟩ := List.mem_map.mp member
    exact mul_nonneg (Nat.cast_nonneg _) (nonneg p inside)
  constructor
  · intro zero p member some
    have weight : (0 : ℝ) < p.1 := Nat.cast_pos.mpr some
    -- A single share above zero would raise the sum above zero.
    by_contra other
    have value : 0 < p.2 := (nonneg p member).lt_of_ne' other
    have counted : (p.1 : ℝ) * p.2 ∈ ps.map fun p => (p.1 : ℝ) * p.2 := List.mem_map_of_mem member
    have sum : 0 < weightedSum ps :=
      (mul_pos weight value).trans_le (List.single_le_sum terms _ counted)
    exact (div_pos sum (totalWeight_pos ⟨p, member, some⟩)).ne' zero
  · intro zero
    have sum : weightedSum ps = 0 := by
      refine List.sum_eq_zero fun x member => ?_
      obtain ⟨p, inside, rfl⟩ := List.mem_map.mp member
      rcases Nat.eq_zero_or_pos p.1 with none | some
      · rw [none, Nat.cast_zero, zero_mul]
      · rw [zero p inside some, mul_zero]
    rw [weightedMean, sum, zero_div]

end

/-! ## Concepts that were reached -/

/-- After the same number of questions the mastery is at least as high. -/
structure Standing.Raised (s s' : Standing ℝ) : Prop where
  answered : s.questionsAnswered = s'.questionsAnswered
  mastery : s.mastery ≤ s'.mastery

namespace Mastery

/-- The standing on a concept, if there has been a question about it. -/
def reached? {α : Type} (m : Mastery α) (c : Concept) : Option (Standing α) :=
  (m.find? c.id).filter (0 < ·.questionsAnswered)

/-- The weight and the mastery of a concept that was reached. -/
def share? (m : Mastery ℝ) (c : Concept) : Option (ℕ × ℝ) :=
  (m.reached? c).map fun standing => (c.weight, standing.mastery)

variable {m m' : Mastery ℝ} {c : Concept}

theorem share?_eq_none (away : m.reached? c = none) : m.share? c = none := by
  rw [share?, away, Option.map_none]

/-- Raising masteries keeps which concepts have a share, and their weights. -/
theorem shares_raised {cs : List Concept}
    (raised : ∀ c ∈ cs, Option.Rel Standing.Raised (m.find? c.id) (m'.find? c.id)) :
    List.Forall₂ (fun p q => p.1 = q.1 ∧ p.2 ≤ q.2) (cs.filterMap m.share?)
      (cs.filterMap m'.share?) := by
  induction cs with
  | nil => exact .nil
  | cons c cs ih =>
    obtain ⟨first, rest⟩ := List.forall_mem_cons.mp raised
    have later := ih rest
    rw [List.filterMap_cons, List.filterMap_cons]
    unfold share? reached?
    generalize m.find? c.id = known, m'.find? c.id = known' at first ⊢
    cases first with
    | none => exact later
    | @some s s' raised =>
      rw [Option.filter_some, Option.filter_some, raised.answered]
      by_cases some : 0 < s'.questionsAnswered
      · simp only [some]
        exact .cons ⟨rfl, raised.mastery⟩ later
      · -- Not reached under either.
        simp only [some]
        exact later

end Mastery

namespace Rubric

variable {r other : Rubric} {m : Mastery ℝ}

/-- The concepts that there has been a question about. -/
def reached (r : Rubric) (m : Mastery ℝ) : List Concept :=
  r.concepts.filter fun c => (m.reached? c).isSome

/-- The masteries of the concepts that were reached and have some weight. -/
def counted (r : Rubric) (m : Mastery ℝ) : Set ℝ :=
  {x | ∃ c ∈ r.concepts, 0 < c.weight ∧ ∃ standing ∈ m.reached? c, standing.mastery = x}

/-- The rubric with other weights. -/
def reweighed (r : Rubric) (weigh : Concept → Nat) : Rubric :=
  { r with concepts := r.concepts.map fun c => { c with weight := weigh c } }

def shares (r : Rubric) (m : Mastery ℝ) : List (ℕ × ℝ) := r.concepts.filterMap m.share?

theorem mem_counted_iff {x : ℝ} : x ∈ r.counted m ↔ ∃ p ∈ r.shares m, 0 < p.1 ∧ p.2 = x := by
  simp only [counted, shares, Mastery.share?, Set.mem_ofPred_eq, List.mem_filterMap,
    Option.map_eq_some_iff, Option.mem_def]
  constructor
  · rintro ⟨c, member, weight, standing, found, rfl⟩
    exact ⟨_, ⟨c, member, standing, found, rfl⟩, weight, rfl⟩
  · rintro ⟨_, ⟨c, member, standing, found, rfl⟩, weight, rfl⟩
    exact ⟨c, member, weight, standing, found, rfl⟩

theorem counted_finite (r : Rubric) (m : Mastery ℝ) : (r.counted m).Finite := by
  refine ((r.shares m).map Prod.snd).finite_toSet.subset fun x member => ?_
  obtain ⟨p, inside, -, same⟩ := mem_counted_iff.mp member
  exact List.mem_map.mpr ⟨p, inside, same⟩

theorem shares_reached (r : Rubric) (m : Mastery ℝ) :
    (r.reached m).filterMap m.share? = r.shares m := by
  rw [reached, List.filterMap_filter, shares]
  refine List.filterMap_congr fun c _ => ?_
  cases found : m.reached? c with
  | none => exact (Mastery.share?_eq_none found).symm
  | some standing => rfl

theorem shares_of_perm (perm : (other.reached m).Perm (r.reached m)) :
    (other.shares m).Perm (r.shares m) := by
  rw [← shares_reached, ← shares_reached]
  exact perm.filterMap _

theorem shares_reweighed {weigh : Concept → Nat} (kept : ∀ c ∈ r.reached m, weigh c = c.weight) :
    (r.reweighed weigh).shares m = r.shares m := by
  rw [shares, reweighed, List.filterMap_map]
  refine List.filterMap_congr fun c member => ?_
  rw [Function.comp_apply]
  cases found : m.reached? c with
  | none =>
    rw [Mastery.share?_eq_none found]
    exact Mastery.share?_eq_none found
  | some standing =>
    have counts : c ∈ r.reached m := List.mem_filter.mpr ⟨member, by rw [found]; rfl⟩
    rw [kept c counts]

theorem shares_scaled (k : Nat) (r : Rubric) (m : Mastery ℝ) :
    (r.reweighed (k * ·.weight)).shares m = (r.shares m).map fun p => (k * p.1, p.2) := by
  rw [shares, reweighed, List.filterMap_map, shares, List.map_filterMap]
  refine List.filterMap_congr fun c _ => ?_
  rw [Mastery.share?, Option.map_map]
  rfl

end Rubric

/-! ## The score -/

section

open scoped Exact

/-- Passing over a concept that was not reached leaves both sums as they are. -/
theorem overallScore_eq_foldl (r : Rubric) (m : Mastery ℝ) :
    overallScore r m =
      let sums : ℝ × ℝ :=
        (r.shares m).foldl (fun sums p => (sums.1 + p.1 * p.2, sums.2 + p.1)) (0, 0)
      if 0 < sums.2 then sums.1 / sums.2 else 0 := by
  unfold overallScore
  rw [Exact.zero_eq, Rubric.shares, List.foldl_filterMap]
  refine congrArg (fun sums : ℝ × ℝ => if 0 < sums.2 then sums.1 / sums.2 else 0) ?_
  refine List.foldl_ext _ _ _ fun sums c _ => ?_
  rw [Mastery.share?, Mastery.reached?]
  cases m.find? c.id with
  | none => rfl
  | some standing =>
    rw [Option.filter_some]
    by_cases none : standing.questionsAnswered = 0
    · simp [none]
    · simp only [none, if_false, Nat.pos_of_ne_zero none, decide_true, if_true]
      rfl

theorem overallScore_eq_weightedMean (r : Rubric) (m : Mastery ℝ) :
    overallScore r m = weightedMean (r.shares m) := by
  rw [overallScore_eq_foldl, Exact.foldl_sums, zero_add, zero_add]
  dsimp only
  split_ifs with some
  · rfl
  · -- Weights that come to nothing in all; the quotient by zero is zero as well.
    have none := (List.sum_nonneg (weights_nonneg (r.shares m))).antisymm (not_lt.mp some)
    rw [weightedMean, totalWeight, ← none, div_zero]

namespace Rubric

variable {r : Rubric} {m : Mastery ℝ}

theorem overallScore_between (some : (r.counted m).Nonempty) :
    ∃ low high, IsLeast (r.counted m) low ∧ IsGreatest (r.counted m) high ∧
      overallScore r m ∈ Set.Icc low high := by
  obtain ⟨low, least, below⟩ := Set.exists_min_image _ (fun x => x) (r.counted_finite m) some
  obtain ⟨high, greatest, above⟩ := Set.exists_max_image _ (fun x => x) (r.counted_finite m) some
  obtain ⟨p, share, weight, -⟩ := mem_counted_iff.mp least
  have heavy : ∃ p ∈ r.shares m, 0 < p.1 := ⟨p, share, weight⟩
  have counts : ∀ p ∈ r.shares m, 0 < p.1 → p.2 ∈ r.counted m :=
    fun p member weight => mem_counted_iff.mpr ⟨p, member, weight, rfl⟩
  refine ⟨low, high, ⟨least, below⟩, ⟨greatest, above⟩, ?_⟩
  rw [overallScore_eq_weightedMean]
  exact ⟨le_weightedMean heavy fun p member weight => below _ (counts p member weight),
    weightedMean_le heavy fun p member weight => above _ (counts p member weight)⟩

theorem overallScore_eq_zero_iff
    (nonneg : ∀ c ∈ r.concepts, ∀ standing ∈ m.find? c.id, 0 ≤ standing.mastery) :
    overallScore r m = 0 ↔ ∀ x ∈ r.counted m, x = 0 := by
  have shares : ∀ p ∈ r.shares m, 0 ≤ p.2 := by
    intro p member
    obtain ⟨c, inside, share⟩ := List.mem_filterMap.mp member
    obtain ⟨standing, reached, rfl⟩ := Option.map_eq_some_iff.mp share
    exact nonneg c inside standing (Option.eq_some_of_filter_eq_some reached)
  rw [overallScore_eq_weightedMean, weightedMean_eq_zero_iff shares]
  constructor
  · intro zero x member
    obtain ⟨p, share, weight, rfl⟩ := mem_counted_iff.mp member
    exact zero p share weight
  · intro zero p share weight
    exact zero p.2 (mem_counted_iff.mpr ⟨p, share, weight, rfl⟩)

/-- The score is the weighted mean of the masteries of the concepts that were reached. Where the masteries
lie between zero and one, it lies between the least and the greatest of those that have some weight, and
is zero just if these are all zero or there are none. Raising masteries does not lower it. It stays the
same where concepts that were not reached are added, taken away or weighed otherwise, where the concepts
are put in another order, and where all weights are multiplied by the same number. -/
theorem score_is_mean_of_reached (r : Rubric) (m : Mastery ℝ)
    (parts : ∀ c ∈ r.concepts, ∀ standing ∈ m.find? c.id, standing.mastery ∈ Set.Icc 0 1) :
    overallScore r m = weightedMean (r.shares m) ∧
      ((r.counted m).Nonempty →
        ∃ low high, IsLeast (r.counted m) low ∧ IsGreatest (r.counted m) high ∧
          overallScore r m ∈ Set.Icc low high) ∧
      (overallScore r m = 0 ↔ ∀ x ∈ r.counted m, x = 0) ∧
      (∀ m' : Mastery ℝ,
        (∀ c ∈ r.concepts, Option.Rel Standing.Raised (m.find? c.id) (m'.find? c.id)) →
          overallScore r m ≤ overallScore r m') ∧
      (∀ other : Rubric, (other.reached m).Perm (r.reached m) →
        overallScore other m = overallScore r m) ∧
      (∀ weigh : Concept → Nat, (∀ c ∈ r.reached m, weigh c = c.weight) →
        overallScore (r.reweighed weigh) m = overallScore r m) ∧
      ∀ k > 0, overallScore (r.reweighed (k * ·.weight)) m = overallScore r m := by
  refine ⟨overallScore_eq_weightedMean r m, overallScore_between, overallScore_eq_zero_iff ?_,
    fun m' raised => ?_, fun other perm => ?_, fun weigh kept => ?_, fun k positive => ?_⟩
  · exact fun c member standing found => (parts c member standing found).1
  · rw [overallScore_eq_weightedMean, overallScore_eq_weightedMean]
    exact weightedMean_mono (Mastery.shares_raised raised)
  · rw [overallScore_eq_weightedMean, overallScore_eq_weightedMean]
    exact weightedMean_of_perm (shares_of_perm perm)
  · rw [overallScore_eq_weightedMean, overallScore_eq_weightedMean, shares_reweighed kept]
  · rw [overallScore_eq_weightedMean, overallScore_eq_weightedMean, shares_scaled,
      weightedMean_scaled positive]

/-- A rubric with two concepts that were reached, and one that was not. -/
theorem two_concepts_scored :
    let ownership : Concept := { id := "ownership", name := "Ownership" }
    let borrowing : Concept := { id := "borrowing", name := "Borrowing", weight := 3 }
    let errors : Concept := { id := "errors", name := "Errors", weight := 2 }
    let r : Rubric :=
      { id := "r", assignmentId := "a", name := "R", concepts := [ownership, borrowing] }
    let m : Mastery ℝ :=
      ⟨[("ownership", ⟨"s", "ownership", 1, 1 / 2, 2, 1, [], [], []⟩),
        ("borrowing", ⟨"s", "borrowing", 1, 1, 1, 1, [], [], []⟩)]⟩
    (∀ c ∈ r.concepts, ∀ standing ∈ m.find? c.id, standing.mastery ∈ Set.Icc (0 : ℝ) 1) ∧
      overallScore r m = 7 / 8 ∧
      overallScore { r with concepts := [errors, borrowing, ownership] } m = overallScore r m ∧
      overallScore (r.reweighed (5 * ·.weight)) m = overallScore r m := by
  intro ownership borrowing errors r m
  have first : m.find? ownership.id =
      some ⟨"s", "ownership", 1, 1 / 2, 2, 1, [], [], []⟩ := rfl
  have second : m.find? borrowing.id = some ⟨"s", "borrowing", 1, 1, 1, 1, [], [], []⟩ := rfl
  have parts : ∀ c ∈ r.concepts, ∀ standing ∈ m.find? c.id,
      standing.mastery ∈ Set.Icc (0 : ℝ) 1 := by
    intro c member standing found
    rcases List.mem_pair.mp member with rfl | rfl
    · cases first.symm.trans found
      norm_num
    · cases second.symm.trans found
      norm_num
  obtain ⟨mean, -, -, -, rearranged, -, scaled⟩ := score_is_mean_of_reached r m parts
  have shares : r.shares m = [(1, 1 / 2), (3, 1)] := rfl
  refine ⟨parts, ?_, rearranged _ (.swap ownership borrowing []), scaled 5 (by decide)⟩
  rw [mean, shares]
  norm_num [weightedMean, weightedSum, totalWeight]

end Rubric

end

end OralExam
