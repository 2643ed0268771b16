import OralExam.Proofs.Arithmetic.Number
import OralExam.Proofs.Scoring.Matching
import OralExam.Proofs.Session.Measures

/-! Better answers score no less.

Every operation that scoring applies to the overlap and the similarity keeps their order, rounding
included, so an answer that is at least as good in all that scoring looks at gets at least the same
correctness. Without rounding the correctness lies between overlap and similarity, and misconceptions take
the penalty off once.
-/

set_option autoImplicit false

namespace OralExam

open Double Rounding

/-! ## Doubles in ascending order -/

namespace Double

variable {x y x' y' : Float} {a b low high : ℝ} {v w : EReal}

/-- Both doubles are finite, with their values in these bounds and the second not below the first. -/
def Ascending (low high : ℝ) (x y : Float) : Prop :=
  ∃ a b : ℝ, Denotes x a ∧ Denotes y b ∧ low ≤ a ∧ a ≤ b ∧ b ≤ high

theorem Between.ascending (between : Between low high x) : Ascending low high x x := by
  obtain ⟨a, denotes, above, below⟩ := between
  exact ⟨a, a, denotes, denotes, above, le_rfl, below⟩

theorem ascending_of_between (left : Between low high x) (right : Between low high y)
    (leftValue : Denotes x v) (rightValue : Denotes y w) (le : v ≤ w) : Ascending low high x y := by
  obtain ⟨a, denotes, above, -⟩ := left
  obtain ⟨b, denotes', -, below⟩ := right
  have order : (a : EReal) ≤ b := by
    rwa [denotes.unique leftValue, denotes'.unique rightValue]
  exact ⟨a, b, denotes, denotes', above, EReal.coe_le_coe_iff.mp order, below⟩

theorem ascending_of_rounded (left : Denotes x (rounded a)) (right : Denotes y (rounded b))
    (least : Exact low) (most : Exact high) (above : low ≤ a) (le : a ≤ b) (below : b ≤ high) :
    Ascending low high x y :=
  ascending_of_between (between_of_rounded left least most above (le.trans below))
    (between_of_rounded right least most (above.trans le) below) left right (rounded_mono le)

theorem Ascending.mono {low' high' : ℝ} (ascending : Ascending low high x y) (less : low' ≤ low)
    (more : high ≤ high') : Ascending low' high' x y := by
  obtain ⟨a, b, denotes, denotes', above, le, below⟩ := ascending
  exact ⟨a, b, denotes, denotes', less.trans above, le, below.trans more⟩

theorem Ascending.add {low' high' : ℝ} (left : Ascending low high x y)
    (right : Ascending low' high' x' y') (least : Exact (low + low'))
    (most : Exact (high + high')) : Ascending (low + low') (high + high') (x + x') (y + y') := by
  obtain ⟨a, b, denotes, denotes', above, le, below⟩ := left
  obtain ⟨a', b', more, more', above', le', below'⟩ := right
  exact ascending_of_rounded (denotes.add more) (denotes'.add more') least most (by linarith)
    (by linarith) (by linarith)

theorem Ascending.mul {high' : ℝ} (left : Ascending 0 high x y) (right : Ascending 0 high' x' y')
    (most : Exact (high * high')) : Ascending 0 (high * high') (x * x') (y * y') := by
  obtain ⟨a, b, denotes, denotes', above, le, below⟩ := left
  obtain ⟨a', b', more, more', above', le', below'⟩ := right
  have nonneg : 0 ≤ b := above.trans le
  refine ascending_of_rounded (denotes.mul more) (denotes'.mul more') exact_zero most
    (mul_nonneg above above') (mul_le_mul le le' above' nonneg) ?_
  exact mul_le_mul below below' (above'.trans le') (nonneg.trans below)

theorem denotes_unit (denotes : Denotes x v) :
    Denotes (Scalar.unit x) (max (0 : ℝ) (min (1 : ℝ) v)) := by
  have order : ((0 : ℝ) : EReal) ≤ (1 : ℝ) := EReal.coe_le_coe_iff.mpr zero_le_one
  unfold Scalar.unit Scalar.clamp
  dsimp only
  split_ifs with negative above above
  · exact absurd ((denotes_one.lt_iff denotes_zero).mp above) order.not_gt
  · rw [denotes.lt_iff denotes_zero] at negative
    rw [max_eq_left (min_le_of_right_le negative.le)]
    exact denotes_zero
  · rw [denotes_one.lt_iff denotes] at above
    rw [min_eq_left above.le, max_eq_right order]
    exact denotes_one
  · rw [denotes_one.lt_iff denotes, not_lt] at above
    rw [denotes.lt_iff denotes_zero, not_lt] at negative
    rw [min_eq_right above, max_eq_right negative]
    exact denotes

theorem unit_mono (left : Denotes x v) (right : Denotes y w) (le : v ≤ w) :
    Scalar.unit x ≤ Scalar.unit y :=
  ((denotes_unit left).le_iff (denotes_unit right)).mpr
    (max_le_max le_rfl (min_le_min le_rfl le))

/-- Two counts of parts of the same whole. -/
theorem ratio_ascending {m m' n : ℕ} (le : m ≤ m') (part : m' ≤ n) (some : 0 < n)
    (word : n < Word.size64) :
    Ascending 0 1 (Float.ofNat m / Float.ofNat n) (Float.ofNat m' / Float.ofNat n) := by
  have small : m' < Word.size64 := part.trans_lt word
  obtain ⟨a, counted, -, -⟩ := count_between (k := 0) (by decide) m.zero_le (le.trans_lt small)
  obtain ⟨a', counted', -, -⟩ := count_between (k := 0) (by decide) m'.zero_le small
  obtain ⟨c, whole, least, -⟩ := count_between (k := 1) (by decide) some word
  have positive : 0 < c := zero_lt_one.trans_le (by exact_mod_cast least)
  -- A count that a double cannot hold is rounded, which keeps the order of counts.
  have order : (a : EReal) ≤ a' := by
    rw [counted.unique (denotes_ofNat m), counted'.unique (denotes_ofNat m')]
    exact rounded_mono (Nat.cast_le.mpr le)
  refine ascending_of_between (ratio_between (le.trans part) some (le.trans_lt small))
    (ratio_between part some small) (counted.div whole positive.ne')
    (counted'.div whole positive.ne') (rounded_mono ?_)
  exact div_le_div_of_nonneg_right (EReal.coe_le_coe_iff.mp order) positive.le

end Double

namespace Scoring

open Text

section

variable {α : Type} [Scalar α] {policy : ScoringPolicy α} {concept : Concept} {question : Question}
  {transcript : String} {similarity : Option α}

/-- The correctness before misconceptions count. -/
def blended (policy : ScoringPolicy α) (concept : Concept) (question : Question)
    (transcript : String) (similarity : Option α) : α :=
  blend policy.semanticWeight (assess policy concept question transcript similarity).overlap
    (!(expected concept question).isEmpty) (similarity.map Scalar.unit)

theorem correctness_assess :
    (assess policy concept question transcript similarity).correctness =
      Scalar.unit (if (tokens transcript).isEmpty then Scalar.zero
        else if (shown concept (tokens transcript)).isEmpty then
          blended policy concept question transcript similarity
        else blended policy concept question transcript similarity -
          policy.misconceptionPenalty) := rfl

end

/-! ## Two answers -/

/-- In all that scoring looks at the second answer is at least as good as the first. -/
structure NoWorse (concept : Concept) (question : Question) (transcript transcript' : String)
    (similarity similarity' : Option Float) : Prop where
  worded : tokens transcript ≠ []
  worded' : tokens transcript' ≠ []
  keywords : ∀ entry ∈ expected concept question,
    matchesKeyword (tokens transcript) entry → matchesKeyword (tokens transcript') entry
  misconceptions : shown concept (tokens transcript) = [] → shown concept (tokens transcript') = []
  similarity : Option.Rel (· ≤ ·) similarity similarity'

section

variable {policy : ScoringPolicy Float} {concept : Concept} {question : Question}
  {transcript transcript' : String} {similarity similarity' : Option Float}

theorem blend_ascending {weight overlap overlap' : Float} (share : Between 0 1 weight)
    (found : Ascending 0 1 overlap overlap')
    (signal : Option.Rel (Ascending 0 1) similarity similarity') (hasKeywords : Bool) :
    Ascending 0 2 (blend weight overlap hasKeywords similarity)
      (blend weight overlap' hasKeywords similarity') := by
  have more {x y : Float} (ascending : Ascending 0 1 x y) : Ascending 0 2 x y :=
    ascending.mono le_rfl one_le_two
  have exact_unit : Exact (1 * 1) := by simpa using exact_one
  cases hasKeywords with
  | false =>
    cases signal with
    | none => exact ⟨0, 0, denotes_zero, denotes_zero, le_rfl, le_rfl, zero_le_two⟩
    | some signal => exact more signal
  | true =>
    cases signal with
    | none => exact more found
    | some signal =>
      -- The rounded shares may add up to more than one, so that the sum is bounded by two here.
      have one : Between 1 1 Scalar.one := ⟨1, denotes_one, le_rfl, le_rfl⟩
      have rest : Between 0 1 (Scalar.one - weight) :=
        (one.sub share (by simpa using exact_zero) (by simpa using exact_one)).mono (by norm_num)
          (by norm_num)
      have two : Exact (1 * 1 + 1 * 1) := by
        norm_num
        exact_mod_cast exact_natCast (n := 2) (by decide)
      have sum := (rest.ascending.mul found exact_unit).add
        (share.ascending.mul signal exact_unit) (by simpa using exact_zero) two
      exact sum.mono (by norm_num) (by norm_num)

theorem overlap_ascending (noWorse : NoWorse concept question transcript transcript' similarity
    similarity') (word : (expected concept question).length < Word.size64) :
    Ascending 0 1 (assess policy concept question transcript similarity).overlap
      (assess policy concept question transcript' similarity').overlap := by
  have fewer : (assess policy concept question transcript similarity).matched.length ≤
      (assess policy concept question transcript' similarity').matched.length := by
    rw [matched_assess, matched_assess, List.length_map, List.length_map, ← List.countP_eq_length_filter,
      ← List.countP_eq_length_filter]
    exact List.countP_mono_left noWorse.keywords
  rw [overlap_assess, overlap_assess]
  split
  · exact ⟨0, 0, denotes_zero, denotes_zero, le_rfl, le_rfl, zero_le_one⟩
  · rename_i some
    rw [List.isEmpty_iff, ← Ne, ← List.length_pos_iff] at some
    exact ratio_ascending fewer length_matched_le some word

theorem signal_ascending (rises : Option.Rel (· ≤ ·) similarity similarity') :
    Option.Rel (Ascending 0 1) (similarity.map Scalar.unit) (similarity'.map Scalar.unit) := by
  cases rises with
  | none => exact .none
  | some le =>
    obtain ⟨⟨v, denotes⟩, ⟨w, denotes'⟩⟩ := isNumber_of_le le
    have order : v ≤ w := (denotes.le_iff denotes').mp le
    refine .some (ascending_of_between (between_unit ⟨v, denotes⟩) (between_unit ⟨w, denotes'⟩)
      (denotes_unit denotes) (denotes_unit denotes') ?_)
    exact max_le_max le_rfl (min_le_min le_rfl order)

theorem NoWorse.correctness_le
    (noWorse : NoWorse concept question transcript transcript' similarity similarity')
    (weight : isShare policy.semanticWeight) (penalty : isShare policy.misconceptionPenalty)
    (word : (expected concept question).length < Word.size64) :
    (assess policy concept question transcript similarity).correctness ≤
      (assess policy concept question transcript' similarity').correctness := by
  have found : Ascending 0 1 (assess policy concept question transcript similarity).overlap
      (assess policy concept question transcript' similarity').overlap :=
    overlap_ascending noWorse word
  obtain ⟨a, b, denotes, denotes', above, le, below⟩ :=
    blend_ascending (between_of_isShare weight) found (signal_ascending noWorse.similarity)
      (!(expected concept question).isEmpty)
  obtain ⟨p, cost, nonneg, -⟩ := between_of_isShare penalty
  have spoken : (tokens transcript).isEmpty = false := List.isEmpty_eq_false_iff.mpr noWorse.worded
  have spoken' : (tokens transcript').isEmpty = false :=
    List.isEmpty_eq_false_iff.mpr noWorse.worded'
  simp only [correctness_assess, spoken, spoken', Bool.false_eq_true, if_false]
  have lowered := denotes.sub cost
  -- The second answer takes the penalty only if the first one does.
  split
  · rename_i clean
    rw [if_pos (List.isEmpty_iff.mpr (noWorse.misconceptions (List.isEmpty_iff.mp clean)))]
    exact unit_mono denotes denotes' (EReal.coe_le_coe_iff.mpr le)
  · split
    · refine unit_mono lowered denotes' ((rounded_mono (sub_le_self a nonneg)).trans ?_)
      exact denotes.exact.le.trans (EReal.coe_le_coe_iff.mpr le)
    · exact unit_mono lowered (denotes'.sub cost) (rounded_mono (sub_le_sub_right le p))

end

/-! ## Without rounding -/

section

open Exact

variable {policy : ScoringPolicy ℝ} {concept : Concept} {question : Question}
  {transcript : String} {similarity : ℝ}

theorem overlap_mem {signal : Option ℝ} :
    (assess policy concept question transcript signal).overlap ∈ Set.Icc 0 1 := by
  rw [overlap_exact]
  exact ⟨by positivity, div_le_one_of_le₀ (Nat.cast_le.mpr length_matched_le) (Nat.cast_nonneg _)⟩

/-- A mean with weights that add up to one lies between what it is taken of. -/
theorem blend_mem {weight overlap : ℝ} (share : weight ∈ Set.Icc 0 1) :
    blend weight overlap true (some similarity) ∈ Set.uIcc overlap similarity := by
  have convex : Convex ℝ (Set.uIcc overlap similarity) := convex_uIcc overlap similarity
  have mean := convex Set.left_mem_uIcc Set.right_mem_uIcc (sub_nonneg.mpr share.2) share.1
    (sub_add_cancel 1 weight)
  rwa [blend, one_eq]

theorem blended_mem (weight : policy.semanticWeight ∈ Set.Icc 0 1)
    (share : similarity ∈ Set.Icc 0 1) :
    blended policy concept question transcript (some similarity) ∈
      Set.uIcc (assess policy concept question transcript (some similarity)).overlap similarity := by
  rw [blended, Option.map_some, unit_of_mem share]
  cases (expected concept question).isEmpty with
  | true => exact Set.right_mem_uIcc
  | false => exact blend_mem weight

theorem blended_mem_unit (weight : policy.semanticWeight ∈ Set.Icc 0 1)
    (share : similarity ∈ Set.Icc 0 1) :
    blended policy concept question transcript (some similarity) ∈ Set.Icc 0 1 :=
  Set.uIcc_subset_Icc overlap_mem share (blended_mem weight share)

theorem blended_of_nil (none : expected concept question = []) (share : similarity ∈ Set.Icc 0 1) :
    blended policy concept question transcript (some similarity) = similarity := by
  rw [blended, none, Option.map_some, unit_of_mem share]
  rfl

/-- The correctness that the answer has if none of the misconceptions is looked for. -/
theorem correctness_plain (weight : policy.semanticWeight ∈ Set.Icc 0 1)
    (share : similarity ∈ Set.Icc 0 1) (worded : tokens transcript ≠ []) :
    (assess policy { concept with misconceptions := [] } question transcript
        (some similarity)).correctness =
      blended policy concept question transcript (some similarity) := by
  have spoken : (tokens transcript).isEmpty = false := List.isEmpty_eq_false_iff.mpr worded
  rw [correctness_assess, spoken]
  exact unit_of_mem (blended_mem_unit weight share)

theorem correctness_exact (weight : policy.semanticWeight ∈ Set.Icc 0 1)
    (penalty : policy.misconceptionPenalty ∈ Set.Icc 0 1)
    (share : similarity ∈ Set.Icc 0 1) (worded : tokens transcript ≠ []) :
    (assess policy concept question transcript (some similarity)).correctness =
      if (shown concept (tokens transcript)).isEmpty then
        blended policy concept question transcript (some similarity)
      else max 0 (blended policy concept question transcript (some similarity) -
        policy.misconceptionPenalty) := by
  have spoken : (tokens transcript).isEmpty = false := List.isEmpty_eq_false_iff.mpr worded
  have between : blended policy concept question transcript (some similarity) ∈ Set.Icc 0 1 :=
    blended_mem_unit weight share
  simp only [correctness_assess, spoken, Bool.false_eq_true, if_false]
  split
  · exact unit_of_mem between
  · rw [unit_eq, min_eq_right ((sub_le_self _ penalty.1).trans between.2)]

end

theorem correctness_wordless {α : Type} [Scalar α] {policy : ScoringPolicy α} {concept : Concept}
    {question : Question} {transcript : String} {similarity : Option α}
    (wordless : tokens transcript = []) :
    (assess policy concept question transcript similarity).correctness =
      Scalar.unit Scalar.zero := by
  rw [correctness_assess, wordless]
  rfl

open Exact in
/-- With settings that are shares of one, an answer that is at least as good in all that scoring looks
at has at least the same correctness, as it is computed. Without rounding, the correctness lies between
overlap and similarity if no misconception counts, and is the similarity if no keywords are expected;
misconceptions lower it once by the penalty, down to zero at most. Without a token it is zero. -/
theorem better_answers_score_more (concept : Concept) (question : Question)
    (word : (expected concept question).length < Word.size64) :
    (∀ policy : ScoringPolicy Float,
      isShare policy.semanticWeight → isShare policy.misconceptionPenalty →
      ∀ transcript transcript' similarity similarity',
        NoWorse concept question transcript transcript' similarity similarity' →
        (assess policy concept question transcript similarity).correctness ≤
          (assess policy concept question transcript' similarity').correctness) ∧
    (∀ policy : ScoringPolicy ℝ,
      policy.semanticWeight ∈ Set.Icc 0 1 → policy.misconceptionPenalty ∈ Set.Icc 0 1 →
      ∀ (transcript : String) (similarity : ℝ),
        tokens transcript ≠ [] → similarity ∈ Set.Icc 0 1 →
        let judged := assess policy concept question transcript (some similarity)
        let plain := (assess policy { concept with misconceptions := [] } question transcript
          (some similarity)).correctness
        plain ∈ Set.uIcc judged.overlap similarity ∧
          (question.keywords = [] → concept.keywords = [] → plain = similarity) ∧
          judged.correctness = if judged.misconceptions.isEmpty then plain
            else max 0 (plain - policy.misconceptionPenalty)) ∧
    ∀ transcript, tokens transcript = [] →
      (∀ (policy : ScoringPolicy Float) similarity,
        (assess policy concept question transcript similarity).correctness = Scalar.zero) ∧
      ∀ (policy : ScoringPolicy ℝ) similarity,
        (assess policy concept question transcript similarity).correctness = 0 := by
  refine ⟨?_, ?_, ?_⟩
  · intro policy weight penalty transcript transcript' similarity similarity' noWorse
    exact noWorse.correctness_le weight penalty word
  · intro policy weight penalty transcript similarity worded share judged plain
    have unpenalized : plain = blended policy concept question transcript (some similarity) :=
      correctness_plain weight share worded
    rw [unpenalized]
    refine ⟨blended_mem weight share, fun own general => ?_,
      correctness_exact weight penalty share worded⟩
    have none : expected concept question = [] := by simp [expected, own, general]
    exact blended_of_nil none share
  · intro transcript wordless
    refine ⟨fun policy similarity => ?_, fun policy similarity => ?_⟩
    · rw [correctness_wordless wordless]
      decide +kernel
    · rw [correctness_wordless wordless, zero_eq]
      exact unit_of_mem ⟨le_rfl, zero_le_one⟩

open Exact in
theorem second_keyword_scores_more :
    let concept : Concept :=
      { id := "memory", name := "Memory", keywords := ["owner", "end|block"],
        misconceptions := [{ id := "collected", keywords := ["gc"] }] }
    let question : Question :=
      { id := "freed", text := "When is memory freed?", discrimination := 1, difficulty := 0 }
    let policy : ScoringPolicy ℝ :=
      { passThreshold := 2⁻¹, misconceptionPenalty := 4⁻¹, semanticWeight := 2⁻¹,
        strengthThreshold := 1, weaknessThreshold := 0, maxNotes := 3 }
    let confused := "Owner calls GC."
    NoWorse concept question "The owner." "Owner, block." (some 0.25) (some 0.5) ∧
      (assess .standard concept question "The owner." (some 0.25)).correctness ≤
        (assess .standard concept question "Owner, block." (some 0.5)).correctness ∧
      (assess policy concept question confused (some 1)).correctness =
        max 0 ((assess policy { concept with misconceptions := [] } question confused
          (some 1)).correctness - 4⁻¹) ∧
      (assess policy concept question "..." (some 1)).correctness = 0 := by
  intro concept question policy confused
  have noWorse : NoWorse concept question "The owner." "Owner, block." (some 0.25) (some 0.5) :=
    { worded := by decide +kernel
      worded' := by decide +kernel
      keywords := by decide +kernel
      misconceptions := by decide +kernel
      similarity := .some (by decide +kernel) }
  have few : (expected concept question).length < Word.size64 := by decide +kernel
  have half : policy.semanticWeight ∈ Set.Icc (0 : ℝ) 1 := by norm_num [policy]
  have quarter : policy.misconceptionPenalty ∈ Set.Icc (0 : ℝ) 1 := by norm_num [policy]
  obtain ⟨computed, unrounded, wordless⟩ := better_answers_score_more concept question few
  obtain ⟨-, -, lowered⟩ :=
    unrounded policy half quarter confused 1 (by decide +kernel) ⟨zero_le_one, le_rfl⟩
  rw [misconceptions_assess, if_neg (by decide +kernel)] at lowered
  exact ⟨noWorse, computed _ (by decide +kernel) (by decide +kernel) _ _ _ _ noWorse, lowered,
    (wordless "..." (by decide +kernel)).2 _ _⟩

end Scoring

end OralExam
