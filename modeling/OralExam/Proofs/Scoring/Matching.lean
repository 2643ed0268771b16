import OralExam.Proofs.Arithmetic.Exact
import OralExam.Proofs.Grading
import OralExam.Proofs.Text.Token

/-! Which keywords and misconceptions are found in a transcript.

A keyword entry is found where the tokens of one of its alternatives stand next to each other. So more text
around a transcript, set off by separators, takes nothing away from what is found. The expected entries are
parted into those found and those missed, and the overlap is the share of those found.
-/

set_option autoImplicit false

namespace OralExam.Scoring

open Double Rounding Text

/-- A text inside a longer one, set off by two separators. -/
def enclosed (before : String) (p : Char) (text : String) (q : Char) (after : String) : String :=
  before ++ String.singleton p ++ text ++ String.singleton q ++ after

/-- The entries are parted by whether the transcript has them, and each part keeps their order. -/
structure Parted (transcript entries found missed : List String) : Prop where
  found_sublist : found.Sublist entries
  missed_sublist : missed.Sublist entries
  perm : (found ++ missed).Perm entries
  of_mem_found : ∀ entry ∈ found, matchesKeyword transcript entry
  of_mem_missed : ∀ entry ∈ missed, matchesKeyword transcript entry = false

theorem parted_filter (transcript entries : List String) :
    Parted transcript entries (entries.filter (matchesKeyword transcript))
      (entries.filter (!matchesKeyword transcript ·)) where
  found_sublist := List.filter_sublist
  missed_sublist := List.filter_sublist
  perm := List.filter_append_perm _ _
  of_mem_found := fun _ member => List.of_mem_filter member
  of_mem_missed := fun entry member => by simpa using List.of_mem_filter member

section

variable {α : Type} [Scalar α] {policy : ScoringPolicy α} {concept : Concept} {question : Question}
  {transcript : String} {similarity : Option α}

theorem matched_assess :
    (assess policy concept question transcript similarity).matched =
      ((expected concept question).filter (matchesKeyword (tokens transcript))).map keywordLabel := by
  simp [assess, List.partition_eq_filter_filter]

theorem missing_assess :
    (assess policy concept question transcript similarity).missing =
      ((expected concept question).filter (!matchesKeyword (tokens transcript) ·)).map
        keywordLabel := by
  simp [assess, List.partition_eq_filter_filter, Function.comp_def]

theorem misconceptions_assess :
    (assess policy concept question transcript similarity).misconceptions =
      shown concept (tokens transcript) := rfl

theorem overlap_assess :
    (assess policy concept question transcript similarity).overlap =
      if (expected concept question).isEmpty then Scalar.zero
      else Scalar.ofNat (assess policy concept question transcript similarity).matched.length /
        Scalar.ofNat (expected concept question).length := by
  simp [assess, List.partition_eq_filter_filter]

theorem length_matched_le :
    (assess policy concept question transcript similarity).matched.length ≤
      (expected concept question).length := by
  rw [matched_assess, List.length_map]
  exact List.length_filter_le _ _

/-! ## More text -/

theorem tokens_enclosed {p q : Char} (left : isSeparator p) (right : isSeparator q)
    (before text after : String) :
    tokens (enclosed before p text q after) = tokens before ++ tokens text ++ tokens after := by
  rw [enclosed, tokens_append_separator right, tokens_append_separator left]

/-- What is found in a part of the tokens is found in all of them. -/
theorem matched_sublist {whole : String} (part : tokens transcript <:+: tokens whole) :
    (assess policy concept question transcript similarity).matched.Sublist
      (assess policy concept question whole similarity).matched := by
  rw [matched_assess, matched_assess]
  refine (List.monotone_filter_right _ fun entry found => ?_).map keywordLabel
  exact matchesKeyword_mono part found

theorem misconceptions_sublist {whole : String} (part : tokens transcript <:+: tokens whole) :
    (assess policy concept question transcript similarity).misconceptions.Sublist
      (assess policy concept question whole similarity).misconceptions := by
  rw [misconceptions_assess, misconceptions_assess, shown, shown]
  refine (List.monotone_filter_right _ fun m found => ?_).map _
  obtain ⟨entry, listed, has⟩ := List.any_eq_true.mp found
  exact List.any_eq_true.mpr ⟨entry, listed, matchesKeyword_mono part has⟩

end

/-! ## The share -/

section

variable {concept : Concept} {question : Question} {transcript : String}

/-- Of as many entries as a double can count the overlap is the double nearest to the share. -/
theorem denotes_overlap {policy : ScoringPolicy Float} {similarity : Option Float}
    (few : (expected concept question).length < 2 ^ 53) :
    Denotes (assess policy concept question transcript similarity).overlap
      (rounded ((assess policy concept question transcript similarity).matched.length /
        (expected concept question).length)) := by
  have less : (assess policy concept question transcript similarity).matched.length < 2 ^ 53 :=
    length_matched_le.trans_lt few
  rw [overlap_assess]
  split
  · rename_i none
    rw [List.isEmpty_iff.mp none, List.length_nil, Nat.cast_zero, div_zero, rounded_zero]
    exact denotes_zero
  · rename_i some
    rw [List.isEmpty_iff, ← List.length_eq_zero_iff] at some
    exact (denotes_natCast less).div (denotes_natCast few) (Nat.cast_ne_zero.mpr some)

open Exact in
theorem overlap_exact {policy : ScoringPolicy ℝ} {similarity : Option ℝ} :
    (assess policy concept question transcript similarity).overlap =
      (assess policy concept question transcript similarity).matched.length /
        (expected concept question).length := by
  rw [overlap_assess]
  split
  · rename_i none
    rw [List.isEmpty_iff.mp none, List.length_nil, Nat.cast_zero, div_zero, zero_eq]
  · rfl

end

open Exact in
/-- The tokens of a text set off by separators stand in the longer text between those before and those
after it, so what is found in the text is found in the longer one. An entry is found exactly if one of its
alternatives, which are what stands between its bars, has tokens that stand in the transcript as one block.
Every expected entry is named once, among those found or those missed, in order; and the overlap is the
share of those found. -/
theorem keywords_found_as_blocks (concept : Concept) (question : Question)
    (policy : ScoringPolicy Float) (similarity : Option Float) :
    (∀ (before text after : String) (p q : Char), isSeparator p → isSeparator q →
      let whole := enclosed before p text q after
      let judged := assess policy concept question text similarity
      let judged' := assess policy concept question whole similarity
      tokens whole = tokens before ++ tokens text ++ tokens after ∧
        (∀ entry, matchesKeyword (tokens text) entry → matchesKeyword (tokens whole) entry) ∧
        judged.matched.Sublist judged'.matched ∧
        judged.misconceptions.Sublist judged'.misconceptions) ∧
    (∀ entry, "|".intercalate (alternatives entry) = entry ∧
      ∀ alt ∈ alternatives entry, '|' ∉ alt.toList) ∧
    ∀ transcript : String,
      let judged := assess policy concept question transcript similarity
      let entries := expected concept question
      (∀ entry, matchesKeyword (tokens transcript) entry ↔
        ∃ alt ∈ alternatives entry, tokens alt ≠ [] ∧ tokens alt <:+: tokens transcript) ∧
      (∃ found missed, Parted (tokens transcript) entries found missed ∧
        judged.matched = found.map keywordLabel ∧ judged.missing = missed.map keywordLabel) ∧
      (entries.length < 2 ^ 53 →
        Denotes judged.overlap (rounded (judged.matched.length / entries.length))) ∧
      ∀ (policy' : ScoringPolicy ℝ) (similarity' : Option ℝ),
        let judged' := assess policy' concept question transcript similarity'
        judged'.matched = judged.matched ∧
          judged'.overlap = judged.matched.length / entries.length := by
  refine ⟨?_, fun entry => ⟨intercalate_alternatives entry, ?_⟩, ?_⟩
  · intro before text after p q left right
    have same := tokens_enclosed left right before text after
    have part : tokens text <:+: tokens (enclosed before p text q after) :=
      ⟨tokens before, tokens after, same.symm⟩
    exact ⟨same, fun entry found => matchesKeyword_mono part found, matched_sublist part,
      misconceptions_sublist part⟩
  · exact fun alt member => bar_notMem_alternatives member
  · intro transcript
    refine ⟨fun entry => matchesKeyword_iff, ⟨_, _, parted_filter _ _, matched_assess, missing_assess⟩,
      denotes_overlap, ?_⟩
    intro policy' similarity' judged'
    have same : judged'.matched = (assess policy concept question transcript similarity).matched :=
      matched_assess.trans matched_assess.symm
    refine ⟨same, ?_⟩
    rw [← same]
    exact overlap_exact

theorem enclosed_keyword_found :
    let concept : Concept :=
      { id := "memory", name := "Memory", keywords := ["freed|dropped", "own"],
        misconceptions := [{ id := "collected", keywords := ["gc"] }] }
    let question : Question :=
      { id := "freed", text := "When is memory freed?", discrimination := 1, difficulty := 0 }
    let text := "Dropped (by GC)"
    let whole := enclosed "I think" ':' text '.' "Or is it?"
    let judged := assess .standard concept question text (some 0.5)
    tokens whole = tokens "I think" ++ tokens text ++ tokens "Or is it?" ∧
      judged.matched.Sublist (assess .standard concept question whole (some 0.5)).matched ∧
      Denotes judged.overlap (rounded (judged.matched.length / (2 : ℕ))) ∧
      judged.matched = ["freed"] ∧ judged.missing = ["own"] := by
  intro concept question text whole judged
  obtain ⟨more, -, parted⟩ := keywords_found_as_blocks concept question .standard (some 0.5)
  obtain ⟨same, -, kept, -⟩ :=
    more "I think" text "Or is it?" ':' '.' (by decide +kernel) (by decide +kernel)
  obtain ⟨-, -, share, -⟩ := parted text
  exact ⟨same, kept, share (by decide +kernel), by decide +kernel, by decide +kernel⟩

end OralExam.Scoring
