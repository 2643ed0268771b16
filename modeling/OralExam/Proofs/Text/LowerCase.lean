import Mathlib.Data.Nat.Bitwise
import OralExam.Text.LowerCase

/-! Lower case is taken once.

What lower case puts in the place of a character is in lower case itself. Of a character that belongs to
a word it makes characters that belong to words, with one exception: the capital I with a dot becomes two
characters, and the second, a dot above, belongs to no word. Both rest on comparing the tables of mappings
and of words as a whole, for which a set of code points is one number, with a bit for each of them.
-/

set_option autoImplicit false

namespace OralExam.Text

/-! ## Sets of code points -/

/-- The number with all bits from the first to the last. -/
def spanBits (first last : Nat) : Nat := (1 <<< (last + 1 - first) - 1) <<< first

/-- The number with so many bits, `step` apart. -/
def everyBit (step : Nat) : Nat → Nat
  | 0 => 0
  | count + 1 => 1 ||| everyBit step count <<< step

/-- The number whose bits are found in the ranges. -/
def rangeBits : List (Nat × Nat) → Nat
  | [] => 0
  | (first, last) :: rest =>
    spanBits first last ||| (rangeBits rest >>> (last + 1)) <<< (last + 1)

theorem testBit_spanBits (first last c : Nat) :
    (spanBits first last).testBit c ↔ first ≤ c ∧ c ≤ last := by
  simp only [spanBits, Nat.one_shiftLeft, Nat.testBit_shiftLeft, Nat.testBit_two_pow_sub_one,
    Bool.and_eq_true, decide_eq_true_eq]
  omega

theorem testBit_everyBit (step : Nat) {i count : Nat} (less : i < count) :
    (everyBit step count).testBit (step * i) := by
  induction count generalizing i with
  | zero => exact absurd less (Nat.not_lt_zero i)
  | succ count ih =>
    rw [everyBit, Nat.testBit_or, Nat.testBit_shiftLeft]
    cases i with
    | zero => simp
    | succ i =>
      have before := ih (Nat.lt_of_succ_lt_succ less)
      simp [Nat.mul_succ, before]

theorem testBit_rangeBits (ranges : List (Nat × Nat)) (c : Nat) :
    (rangeBits ranges).testBit c = inRanges c ranges := by
  induction ranges with
  | nil => simp [rangeBits, inRanges]
  | cons range rest ih =>
    obtain ⟨first, last⟩ := range
    rw [Bool.eq_iff_iff, rangeBits, Nat.testBit_or, Bool.or_eq_true, testBit_spanBits,
      Nat.testBit_shiftLeft, Nat.testBit_shiftRight, Bool.and_eq_true, decide_eq_true_eq, inRanges]
    split
    · rw [decide_eq_true_eq]
      omega
    · rename_i beyond
      have past : last + 1 ≤ c := by omega
      rw [Nat.add_sub_cancel' past, ih, and_iff_right past, or_iff_right (by omega)]

theorem testBit_of_subset {small large c : Nat} (subset : small &&& large = small)
    (bit : small.testBit c) : large.testBit c := by
  rw [← subset, Nat.testBit_and, Bool.and_eq_true] at bit
  exact bit.2

/-! ## The table of mappings -/

namespace CaseRun

/-- The code point that a covered one is mapped to. -/
def image (run : CaseRun) (c : Nat) : Nat := (c + run.shift).toNat

/-- The code points that the run covers. -/
def bits (run : CaseRun) : Nat :=
  everyBit run.step ((run.last - run.first) / run.step + 1) <<< run.first

/-- The code points that the run maps to. -/
def imageBits (run : CaseRun) : Nat :=
  if 0 ≤ run.shift then run.bits <<< run.shift.toNat else run.bits >>> (-run.shift).toNat

variable {run : CaseRun} {c : Nat}

theorem testBit_bits (covered : run.covers c) : run.bits.testBit c := by
  simp only [covers, Bool.and_eq_true, decide_eq_true_eq] at covered
  obtain ⟨⟨above, below⟩, fits⟩ := covered
  have steps : run.step * ((c - run.first) / run.step) = c - run.first :=
    Nat.mul_div_cancel' (Nat.dvd_of_mod_eq_zero fits)
  have early : (c - run.first) / run.step < (run.last - run.first) / run.step + 1 :=
    Nat.lt_succ_of_le (Nat.div_le_div_right (by omega))
  rw [bits, Nat.testBit_shiftLeft, ← steps, testBit_everyBit run.step early]
  simpa using above

theorem testBit_imageBits (nonneg : 0 ≤ run.first + run.shift) (covered : run.covers c) :
    run.imageBits.testBit (run.image c) := by
  have bit := testBit_bits covered
  simp only [covers, Bool.and_eq_true, decide_eq_true_eq] at covered
  rw [imageBits, image]
  split
  · rw [Nat.testBit_shiftLeft, show (c + run.shift).toNat - run.shift.toNat = c by omega, bit,
      Bool.and_true, decide_eq_true_eq]
    omega
  · rwa [Nat.testBit_shiftRight,
      show (-run.shift).toNat + (c + run.shift).toNat = c by omega]

end CaseRun

/-- The code points that have a lower case, among them the capital I with a dot. -/
def capitalBits : Nat := caseRuns.foldr (fun run bits => run.bits ||| bits) (1 <<< 0x130)

/-- The code points that others are mapped to. -/
def smallBits : Nat := caseRuns.foldr (fun run bits => run.imageBits ||| bits) 0

theorem testBit_foldr_or {runs : List CaseRun} (part : CaseRun → Nat) (base : Nat) {c : Nat}
    {run : CaseRun} (member : run ∈ runs) (bit : (part run).testBit c) :
    (runs.foldr (fun run bits => part run ||| bits) base).testBit c := by
  induction runs with
  | nil => cases member
  | cons first rest ih =>
    rw [List.foldr_cons, Nat.testBit_or, Bool.or_eq_true]
    rcases List.mem_cons.mp member with rfl | later
    · exact .inl bit
    · exact .inr (ih later)

/-- What evaluating the table shows. No capital is the lower case of another letter, and every lower case
is a letter. -/
structure CaseTable : Prop where
  nonneg : ∀ run ∈ caseRuns, 0 ≤ run.first + run.shift
  dotted : capitalBits.testBit 0x130
  apart : capitalBits &&& smallBits = 0
  alphanumeric : smallBits &&& rangeBits alphanumericRanges = smallBits
  valid : smallBits &&& (spanBits 0 0xD7FF ||| spanBits 0xE000 0x10FFFF) = smallBits

theorem caseTable : CaseTable := by
  have evaluated : (∀ run ∈ caseRuns, 0 ≤ run.first + run.shift) ∧ capitalBits.testBit 0x130 ∧
      capitalBits &&& smallBits = 0 ∧ smallBits &&& rangeBits alphanumericRanges = smallBits ∧
      smallBits &&& (spanBits 0 0xD7FF ||| spanBits 0xE000 0x10FFFF) = smallBits := by
    decide +kernel
  obtain ⟨nonneg, dotted, apart, alphanumeric, valid⟩ := evaluated
  exact ⟨nonneg, dotted, apart, alphanumeric, valid⟩

/-- The characters that are exceptions, which are the capital I with a dot and the sigmas, and those that
come of them. -/
theorem exceptions_spec : (lowerChar 'i' = ['i'] ∧ lowerChar '\u0307' = ['\u0307']) ∧
    (lowerChar 'Σ' = ['σ'] ∧ lowerChar 'ς' = ['ς']) ∧
    isWordChar 'İ' ∧ isWordChar '\u0307' = false ∧ isWordChar 'ς' := by
  decide +kernel

theorem lowerChar_sigma : lowerChar 'Σ' = ['σ'] := exceptions_spec.2.1.1

theorem lowerChar_dotted : lowerChar 'İ' = ['i', '\u0307'] := rfl

theorem isWordChar_dotted : isWordChar 'İ' := exceptions_spec.2.2.1

theorem isWordChar_dot : isWordChar '\u0307' = false := exceptions_spec.2.2.2.1

section

variable {c d : Char} {run : CaseRun}

/-- What a mapping gives is in the table of words, and no mapping begins there. -/
theorem image_spec (member : run ∈ caseRuns) (covered : run.covers c.toNat) :
    (Char.ofNat (run.image c.toNat)).toNat = run.image c.toNat ∧
      inRanges (run.image c.toNat) alphanumericRanges ∧
      capitalBits.testBit (run.image c.toNat) = false := by
  have small : smallBits.testBit (run.image c.toNat) :=
    testBit_foldr_or CaseRun.imageBits 0 member
      (CaseRun.testBit_imageBits (caseTable.nonneg run member) covered)
  have valid : (run.image c.toNat).isValidChar := by
    have within := testBit_of_subset caseTable.valid small
    rw [Nat.testBit_or, Bool.or_eq_true, testBit_spanBits, testBit_spanBits] at within
    unfold Nat.isValidChar
    omega
  refine ⟨?_, ?_, ?_⟩
  · rw [Char.ofNat, dif_pos valid]
    rfl
  · rw [← testBit_rangeBits]
    exact testBit_of_subset caseTable.alphanumeric small
  · have apart := congrArg (Nat.testBit · (run.image c.toNat)) caseTable.apart
    simpa [small] using apart

/-! ## One character -/

theorem lowerChar_eq_self (small : capitalBits.testBit c.toNat = false) : lowerChar c = [c] := by
  have plain : c ≠ 'İ' := by
    rintro rfl
    rw [show ('İ').toNat = 0x130 from rfl, caseTable.dotted] at small
    cases small
  have free : caseRuns.find? (·.covers c.toNat) = none := by
    rw [List.find?_eq_none]
    intro run member covered
    have capital : capitalBits.testBit c.toNat :=
      testBit_foldr_or CaseRun.bits _ member (CaseRun.testBit_bits covered)
    rw [small] at capital
    cases capital
  rw [lowerChar, if_neg plain, free]

/-- A character is the capital I with a dot, or is mapped by the table, or is its own lower case. -/
theorem lowerChar_cases (c : Char) :
    (c = 'İ' ∧ lowerChar c = ['i', '\u0307']) ∨
      (∃ run ∈ caseRuns, run.covers c.toNat ∧
        lowerChar c = [Char.ofNat (run.image c.toNat)]) ∨
      lowerChar c = [c] := by
  by_cases dotted : c = 'İ'
  · subst dotted
    exact .inl ⟨rfl, lowerChar_dotted⟩
  · rw [lowerChar, if_neg dotted]
    cases found : caseRuns.find? (·.covers c.toNat) with
    | none => exact .inr (.inr rfl)
    | some run =>
      have covered := List.find?_some found
      exact .inr (.inl ⟨run, List.mem_of_find?_eq_some found, covered, rfl⟩)

theorem lowerChar_of_mem (member : d ∈ lowerChar c) : lowerChar d = [d] := by
  rcases lowerChar_cases c with ⟨rfl, image⟩ | ⟨run, listed, covered, image⟩ | image
  · rw [image] at member
    obtain ⟨⟨small, dot⟩, -⟩ := exceptions_spec
    simp only [List.mem_cons, List.not_mem_nil, or_false] at member
    rcases member with rfl | rfl
    · exact small
    · exact dot
  · rw [image, List.mem_singleton] at member
    obtain ⟨code, -, small⟩ := image_spec listed covered
    rw [← code, ← member] at small
    exact lowerChar_eq_self small
  · rw [image, List.mem_singleton] at member
    rw [member, image]

theorem isWordChar_of_mem_lowerChar (word : isWordChar c) (plain : c ≠ 'İ')
    (member : d ∈ lowerChar c) : isWordChar d := by
  rcases lowerChar_cases c with ⟨rfl, -⟩ | ⟨run, listed, covered, image⟩ | image
  · exact absurd rfl plain
  · rw [image, List.mem_singleton] at member
    obtain ⟨code, letter, -⟩ := image_spec listed covered
    rw [isWordChar, isAlphanumeric, member, code, letter, Bool.true_or]
  · rw [image, List.mem_singleton] at member
    rwa [member]

theorem lowerChar_ne_nil (c : Char) : lowerChar c ≠ [] := by
  rcases lowerChar_cases c with ⟨-, image⟩ | ⟨run, -, -, image⟩ | image <;> simp [image]

end

/-! ## Texts -/

section

variable {before cs : List Char} {d : Char}

/-- Each character of a lower case comes from one of the text. -/
theorem mem_lowerAfter (member : d ∈ lowerAfter before cs) :
    ∃ c ∈ cs, d ∈ lowerChar c ∨ (c = 'Σ' ∧ d = 'ς') := by
  induction cs generalizing before with
  | nil => cases member
  | cons c cs ih =>
    rw [lowerAfter] at member
    rcases List.mem_append.mp member with here | later
    · refine ⟨c, List.mem_cons_self, ?_⟩
      split at here
      · rename_i sigma
        subst sigma
        split at here
        · exact .inr ⟨rfl, List.mem_singleton.mp here⟩
        · exact .inl (lowerChar_sigma ▸ here)
      · exact .inl here
    · obtain ⟨c', found, origin⟩ := ih later
      exact ⟨c', List.mem_cons_of_mem c found, origin⟩

theorem lowerChar_of_mem_lower (member : d ∈ lower cs) : lowerChar d = [d] := by
  obtain ⟨c, -, image | ⟨-, rfl⟩⟩ := mem_lowerAfter member
  · exact lowerChar_of_mem image
  · exact exceptions_spec.2.1.2

theorem isWordChar_of_mem_lower (word : ∀ c ∈ cs, isWordChar c) (plain : 'İ' ∉ cs)
    (member : d ∈ lower cs) : isWordChar d := by
  obtain ⟨c, found, image | ⟨-, rfl⟩⟩ := mem_lowerAfter member
  · exact isWordChar_of_mem_lowerChar (word c found) (fun dotted => plain (dotted ▸ found)) image
  · exact exceptions_spec.2.2.2.2

/-- Where nothing has another lower case, there is no sigma that could become a final one. -/
theorem lowerAfter_eq_self (small : ∀ c ∈ cs, lowerChar c = [c]) : lowerAfter before cs = cs := by
  induction cs generalizing before with
  | nil => rfl
  | cons c cs ih =>
    have own := small c List.mem_cons_self
    have other : c ≠ 'Σ' := by
      rintro rfl
      rw [lowerChar_sigma] at own
      exact absurd own (by decide)
    rw [lowerAfter, if_neg other, own, ih fun d later => small d (List.mem_cons_of_mem c later)]
    rfl

theorem lower_lower (cs : List Char) : lower (lower cs) = lower cs :=
  lowerAfter_eq_self fun _ member => lowerChar_of_mem_lower member

theorem lowerAfter_ne_nil (some : cs ≠ []) : lowerAfter before cs ≠ [] := by
  cases cs with
  | nil => exact absurd rfl some
  | cons c cs =>
    rw [lowerAfter]
    refine List.append_ne_nil_of_left_ne_nil ?_ _
    split
    · split <;> simp
    · exact lowerChar_ne_nil c

theorem dot_mem_lowerAfter (dotted : 'İ' ∈ cs) : '\u0307' ∈ lowerAfter before cs := by
  induction cs generalizing before with
  | nil => cases dotted
  | cons c cs ih =>
    rw [lowerAfter, List.mem_append]
    rcases List.mem_cons.mp dotted with rfl | later
    · rw [if_neg (by decide), lowerChar_dotted]
      exact .inl (by decide)
    · exact .inr (ih later)

end

end OralExam.Text
