import OralExam.Proofs.Ability
import OralExam.Proofs.Keyed
import OralExam.Scoring
import OralExam.Session.Verdict

/-! Scores are shares of one.

The correctness of an answer, the mastery of a concept, the overall score and the confidence of a
verdict lie between zero and one. A sum of shares is compared with the number of its terms: where
that number is no longer exact, a further share is too small to count.
-/

set_option autoImplicit false

namespace OralExam

open Double Rounding

/-! ## Sizes -/

/-- The sizes of the rubric fit into the machine words that hold them: a weight takes 32 bits, and no
list is longer than 64 bits can count. -/
structure Rubric.InWords (r : Rubric) : Prop where
  concepts : r.concepts.length < Word.size64
  weights : ∀ c ∈ r.concepts, c.weight < Word.size32
  keywords : ∀ c ∈ r.concepts, c.keywords.length < Word.size64 ∧
    ∀ q ∈ c.questions, q.keywords.length < Word.size64

namespace Double

theorem exact_pow {k : ℕ} (small : k ≤ 971) : Exact (2 ^ k) := by
  have exact := exact_of_lt (m := 1) (t := k) (by decide) (by omega) (by omega)
  rwa [Nat.cast_one, one_mul, zpow_natCast] at exact

theorem count_between {k n : ℕ} (small : k < 2 ^ 53) (le : k ≤ n) (word : n < Word.size64) :
    Between k (2 ^ 64) (Float.ofNat n) :=
  between_of_rounded (denotes_ofNat n) (exact_natCast small) (exact_pow (by decide))
    (Nat.cast_le.mpr le) (by exact_mod_cast word.le)

theorem rounded_count_pos {n : ℕ} (some : 0 < n) : 0 < rounded n := by
  refine zero_lt_one.trans_le (exact_one.ge.trans (rounded_mono ?_))
  exact_mod_cast some

/-- A part that is counted, over the whole. -/
theorem ratio_between {m n : ℕ} (part : m ≤ n) (some : 0 < n) (word : m < Word.size64) :
    Between 0 1 (Float.ofNat m / Float.ofNat n) := by
  obtain ⟨a, denotes, nonneg, -⟩ := count_between (k := 0) (by decide) m.zero_le word
  rw [Nat.cast_zero] at nonneg
  have le : (a : EReal) ≤ rounded n := by
    rw [denotes.unique (denotes_ofNat m)]
    exact rounded_mono (Nat.cast_le.mpr part)
  exact between_div denotes (denotes_ofNat n) nonneg le (rounded_count_pos some)

/-- One count over another. -/
theorem quotient_between {m n : ℕ} (word : m < Word.size64) (some : 0 < n) :
    Between 0 (2 ^ 64) (Float.ofNat m / Float.ofNat n) := by
  rcases le_or_gt m n with part | more
  · exact (ratio_between part some word).mono le_rfl (by norm_num)
  · obtain ⟨a, denotes, nonneg, most⟩ := count_between (k := 0) (by decide) m.zero_le word
    obtain ⟨b, denotes', least, -⟩ := count_between (k := 1) (by decide) some (more.trans word)
    rw [Nat.cast_zero] at nonneg
    rw [Nat.cast_one] at least
    have above : 0 < b := zero_lt_one.trans_le least
    exact between_of_rounded (denotes.div denotes' above.ne') exact_zero
      (exact_pow (k := 64) (by decide)) (div_nonneg nonneg above.le)
      ((div_le_self nonneg least).trans most)

end Double

/-! ## Answers -/

namespace Scoring

variable {policy : ScoringPolicy Float} {concept : Concept} {question : Question}

theorem blend_between {weight overlap : Float} {similarity : Option Float}
    (share : Between 0 1 weight) (found : Between 0 1 overlap)
    (signal : ∀ x ∈ similarity, Between 0 1 x) (hasKeywords : Bool) :
    Between 0 2 (blend weight overlap hasKeywords similarity) := by
  have more {x : Float} (between : Between 0 1 x) : Between 0 2 x :=
    between.mono le_rfl one_le_two
  cases hasKeywords with
  | false =>
    cases similarity with
    | none => exact ⟨0, denotes_zero, le_rfl, zero_le_two⟩
    | some x => exact more (signal x rfl)
  | true =>
    cases similarity with
    | none => exact more found
    | some x =>
      have one : Between 1 1 Scalar.one := ⟨1, denotes_one, le_rfl, le_rfl⟩
      have rest : Between 0 1 (Scalar.one - weight) :=
        (one.sub share (by simpa using exact_zero) (by simpa using exact_one)).mono (by norm_num)
          (by norm_num)
      have kept := rest.mul found (by simpa using exact_one)
      have added := share.mul (signal x rfl) (by simpa using exact_one)
      have two : Exact (1 * 1 + 1 * 1) := by
        norm_num
        exact_mod_cast exact_natCast (n := 2) (by decide)
      have sum := kept.add added (by simpa using exact_zero) two
      exact sum.mono (by norm_num) (by norm_num)

/-- The correctness is a share of one, whatever the transcript says. -/
theorem assess_between (weight : Between 0 1 policy.semanticWeight)
    (penalty : policy.misconceptionPenalty.isFinite)
    (word : (expected concept question).length < Word.size64) (transcript : String)
    {similarity : Option Float} (signal : ∀ x ∈ similarity, IsNumber x) :
    Between 0 1 (assess policy concept question transcript similarity).correctness := by
  have signal' : ∀ x ∈ similarity.map Scalar.unit, Between 0 1 x := by
    intro x member
    obtain ⟨y, given, rfl⟩ := Option.mem_map.mp member
    exact between_unit (signal y given)
  unfold assess
  refine between_unit ?_
  split
  · exact ⟨_, denotes_zero⟩
  have overlap (matched : List String)
      (part : matched.length ≤ (expected concept question).length) :
      Between 0 1 (if (expected concept question).isEmpty then Scalar.zero
        else Scalar.ofNat matched.length / Scalar.ofNat (expected concept question).length) := by
    split
    · exact ⟨0, denotes_zero, le_rfl, zero_le_one⟩
    · rename_i some
      refine ratio_between part ?_ (part.trans_lt word)
      rwa [List.isEmpty_iff, ← Ne, ← List.length_pos_iff] at some
  have part : ((expected concept question).partition
      (Text.matchesKeyword (Text.tokens transcript))).1.length ≤
        (expected concept question).length := by
    rw [List.partition_eq_filter_filter]
    exact List.length_filter_le _ _
  obtain ⟨b, blended, -, -⟩ := blend_between weight (overlap _ part) signal' _
  obtain ⟨p, denotes⟩ := isFinite_iff.mp penalty
  split
  · exact ⟨_, blended⟩
  · exact isNumber_rounded (blended.sub denotes)

end Scoring

/-! ## Concepts -/

/-- The most that shares of one can come to when they are summed one by one: as many as there are,
until one more is too small to count. -/
def mostShares (n : ℕ) : ℕ := min n (2 ^ 53)

theorem exact_mostShares (n : ℕ) : Exact (mostShares n) := by
  unfold mostShares
  rcases lt_or_ge n (2 ^ 53) with below | full
  · rw [min_eq_left below.le]
    exact exact_natCast below
  · rw [min_eq_right full]
    exact_mod_cast exact_pow (k := 53) (by decide)

theorem rounded_mostShares (n : ℕ) : rounded (mostShares n + 1) = (mostShares (n + 1) : ℝ) := by
  rcases lt_or_ge n (2 ^ 53) with below | full
  · have next : (mostShares n : ℝ) + 1 = mostShares (n + 1) := by
      rw [mostShares, mostShares, min_eq_left below.le, min_eq_left below]
      push_cast
      rfl
    rw [next]
    exact exact_mostShares (n + 1)
  · have absorbed := rounded_absorbs (k := 0) (a := 1) (by decide) zero_le_one (by norm_num)
    rw [mostShares, mostShares, min_eq_right full, min_eq_right (by omega)]
    norm_num at absorbed ⊢
    exact absorbed

/-- One more share added to so many. -/
theorem between_add_share {n : ℕ} {sum share : Float} (shares : Between 0 (mostShares n) sum)
    (between : Between 0 1 share) : Between 0 (mostShares (n + 1)) (sum + share) := by
  obtain ⟨a, denotes, nonneg, le⟩ := shares
  obtain ⟨b, denotes', nonneg', le'⟩ := between
  refine between_of_le (denotes.add denotes') ?_ ?_
  · exact exact_zero.ge.trans (rounded_mono (add_nonneg nonneg nonneg'))
  · rw [← rounded_mostShares]
    exact rounded_mono (add_le_add le le')

/-- The mean of so many shares is a share. -/
theorem mean_shares_between {n : ℕ} {sum : Float} (shares : Between 0 (mostShares n) sum)
    (some : 0 < n) : Between 0 1 (sum / Float.ofNat n) := by
  obtain ⟨total, denotes, least, most⟩ := shares
  have few : (mostShares n : ℝ) ≤ n := Nat.cast_le.mpr (min_le_left _ _)
  have below : (total : EReal) ≤ rounded n :=
    denotes.exact.ge.trans (rounded_mono (most.trans few))
  exact between_div denotes (denotes_ofNat _) least below (rounded_count_pos some)

/-- The score of a concept is a sum of shares, and the mastery their mean. -/
structure Standing.Scaled (s : Standing Float) : Prop where
  score : Between 0 (mostShares s.questionsAnswered) s.score
  mastery : Between 0 1 s.mastery

theorem Standing.scaled_fresh (sessionId conceptId : String) : (fresh sessionId conceptId).Scaled :=
  ⟨⟨0, denotes_zero, le_rfl, Nat.cast_nonneg _⟩, ⟨0, denotes_zero, le_rfl, zero_le_one⟩⟩

theorem Standing.Scaled.add {s : Standing Float} (scaled : s.Scaled) (policy : ScoringPolicy Float)
    (question : Question) {correctness : Float} (number : IsNumber correctness)
    (misconceptions : List String) :
    (s.add policy question correctness misconceptions).Scaled := by
  have sum := between_add_share scaled.score (between_unit number)
  exact ⟨sum, mean_shares_between sum (Nat.succ_pos _)⟩

/-- All standings are sums and means of shares. -/
def Mastery.Scaled (m : Mastery Float) : Prop := ∀ id s, m.find? id = some s → s.Scaled

theorem Mastery.Scaled.record {m : Mastery Float} (scaled : m.Scaled) (policy : ScoringPolicy Float)
    (sessionId conceptId : String) (question : Question) {correctness : Float}
    (number : IsNumber correctness) (misconceptions : List String) :
    (m.record policy sessionId conceptId question correctness misconceptions).Scaled := by
  intro id s found
  rw [Mastery.record, Keyed.find?_put] at found
  split at found
  · cases found
    refine Standing.Scaled.add ?_ policy question number misconceptions
    cases known : m.find? conceptId with
    | none => exact Standing.scaled_fresh sessionId conceptId
    | some standing => exact scaled conceptId standing known
  · exact scaled id s found

/-! ## Verdicts -/

/-- The weighted sum stays below the sum of the weights, and neither becomes too large. -/
structure Weighed (sums : Float × Float) : Prop where
  bounds : ∃ a b : ℝ, Denotes sums.1 a ∧ Denotes sums.2 b ∧ 0 ≤ a ∧ a ≤ b ∧ b ≤ 2 ^ 85

theorem Weighed.add {sums : Float × Float} (weighed : Weighed sums) {weight : ℕ} {mastery : Float}
    (word : weight < Word.size32) (share : Between 0 1 mastery) :
    Weighed (sums.1 + Float.ofNat weight * mastery, sums.2 + Float.ofNat weight) := by
  obtain ⟨a, b, part, total, nonneg, le, small⟩ := weighed.bounds
  have counted := denotes_natCast (n := weight) (word.trans (by decide))
  have below : (weight : ℝ) ≤ 2 ^ 32 := by exact_mod_cast word.le
  have whole : Between 0 weight (Float.ofNat weight) := ⟨_, counted, Nat.cast_nonneg _, le_rfl⟩
  have product : Between 0 weight (Float.ofNat weight * mastery) := by
    have scaled := whole.mul share (by simpa using counted.exact)
    rwa [mul_one] at scaled
  obtain ⟨p, denotes, nonneg', le'⟩ := product
  have sum : Between 0 (2 ^ 85) (sums.2 + Float.ofNat weight) := by
    refine between_of_le (total.add counted) ?_ ?_
    · exact exact_zero.ge.trans (rounded_mono (by linarith))
    · rw [← rounded_absorbs (k := 32) (a := weight) (by decide) (Nat.cast_nonneg _) below]
      exact rounded_mono (add_le_add small le_rfl)
  obtain ⟨t, sum', -, most⟩ := sum
  have part' : Between 0 t (sums.1 + Float.ofNat weight * mastery) := by
    refine between_of_le (part.add denotes) ?_ ?_
    · exact exact_zero.ge.trans (rounded_mono (by linarith))
    · rw [(sum'.unique (total.add counted))]
      exact rounded_mono (by linarith)
  obtain ⟨u, denotes', least, within⟩ := part'
  exact ⟨u, t, denotes', sum', least, within, most⟩

/-- A weighted mean of shares is a share. -/
theorem overallScore_between {r : Rubric} {m : Mastery Float} (words : r.InWords)
    (scaled : m.Scaled) : Between 0 1 (overallScore r m) := by
  have start : Weighed (Scalar.zero, Scalar.zero) :=
    ⟨⟨0, 0, denotes_zero, denotes_zero, le_rfl, le_rfl, by positivity⟩⟩
  unfold overallScore
  dsimp only
  generalize same : List.foldl _ _ r.concepts = sums
  -- The sums are weighed after every concept.
  have weighed : Weighed sums := by
    rw [← same]
    refine List.foldlRecOn r.concepts _ start ?_
    intro sums weighed c member
    split
    · rename_i standing found
      split
      · exact weighed
      · exact weighed.add (words.weights c member) (scaled c.id standing found).mastery
    · exact weighed
  obtain ⟨a, b, part, total, nonneg, le, -⟩ := weighed.bounds
  split
  · rename_i positive
    exact between_div part total nonneg (EReal.coe_le_coe_iff.mpr le)
      ((denotes_zero.lt_iff total).mp positive)
  · exact ⟨0, denotes_zero, le_rfl, zero_le_one⟩

namespace Verdict

theorem literal_one : (1.0 : Float) = Scalar.one := by decide +kernel

theorem literal_zero : (0.0 : Float) = Scalar.zero := by decide +kernel

theorem coverage_between {s : Session} (words : s.rubric.InWords) : Between 0 1 (coverage s) := by
  have length : (touched s).length ≤ s.rubric.concepts.length :=
    (List.length_filterMap_le _ _).trans (Sorting.sort_perm _ _).length_eq.le
  unfold coverage
  dsimp only
  rw [literal_zero, literal_one]
  split
  · exact ⟨0, denotes_zero, le_rfl, zero_le_one⟩
  · rename_i some
    have ratio := quotient_between (length.trans_lt words.concepts) (Nat.pos_of_ne_zero some)
    exact ratio.atMost denotes_one zero_le_one

/-- What a verdict says in numbers is in bounds. -/
theorem ofSession_between {s : Session} (words : s.rubric.InWords) (scaled : s.mastery.Scaled)
    (error : Ability.Positive s.standardError) (grading : GradingPolicy)
    (scoring : ScoringPolicy Float) (now : Instant) :
    Between 0 1 (ofSession grading scoring s now).overallScore ∧
      Between 0 1 (ofSession grading scoring s now).confidence := by
  refine ⟨overallScore_between words scaled, ?_⟩
  obtain ⟨a, denotes, positive⟩ := error
  obtain ⟨c, covered, nonneg, le⟩ := coverage_between words
  have square : (0 : EReal) ≤ rounded (a * a) :=
    exact_zero.ge.trans (rounded_mono (mul_self_nonneg a))
  obtain ⟨v, total, least⟩ := one_add denotes_one (denotes.mul denotes) square
  change Between 0 1 (coverage s / (1.0 + s.standardError * s.standardError))
  rw [literal_one]
  refine between_div covered total nonneg ((EReal.coe_le_coe_iff.mpr le).trans least)
    (zero_lt_one.trans_le least)

end Verdict

end OralExam
