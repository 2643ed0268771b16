import Mathlib.Data.List.TakeWhile
import OralExam.Text.Fields

/-! Texts and their parts.

A text is cut at separators as the library splits a list, so its parts put together again give the text
back, and no part has a separator in it. What is left of a text without the blanks at its ends is the
word that stands between blanks in it.
-/

set_option autoImplicit false

namespace OralExam.Text

/-! ## Parts -/

section

variable {isSeparator : Char → Bool} {part cs : List Char} {c : Char}

theorem fields_eq_splitOnP (isSeparator : Char → Bool) (cs : List Char) :
    fields isSeparator cs = cs.splitOnP isSeparator := by
  induction cs with
  | nil => rfl
  | cons c cs ih =>
    rw [fields, List.splitOnP_cons_eq_if_modifyHead, ih]
    cases split : cs.splitOnP isSeparator with
    | nil => exact absurd split (List.splitOnP_ne_nil _ _)
    | cons first rest => rfl

theorem fields_of_forall (inside : ∀ c ∈ part, isSeparator c = false) :
    fields isSeparator part = [part] := by
  rw [fields_eq_splitOnP, List.splitOnP_eq_singleton inside]

theorem fields_first (inside : ∀ c ∈ part, isSeparator c = false) (h : isSeparator c = true)
    (rest : List Char) : fields isSeparator (part ++ c :: rest) = part :: fields isSeparator rest := by
  rw [fields_append_separator h, fields_of_forall inside]
  rfl

theorem of_mem_fields (member : part ∈ fields isSeparator cs) :
    ∀ c ∈ part, isSeparator c = false ∧ c ∈ cs := by
  induction cs generalizing part with
  | nil => simp_all [fields]
  | cons d cs ih =>
    intro c inside
    rw [fields] at member
    split at member
    · rcases List.mem_cons.mp member with rfl | later
      · cases inside
      · exact (ih later c inside).imp_right (List.mem_cons_of_mem d)
    · rename_i letter
      cases split : fields isSeparator cs with
      | nil => exact absurd split (fields_ne_nil _ _)
      | cons first rest =>
        rw [split] at member ih
        rcases List.mem_cons.mp member with rfl | later
        · rcases List.mem_cons.mp inside with rfl | tail
          · exact ⟨Bool.eq_false_iff.mpr letter, List.mem_cons_self⟩
          · exact (ih List.mem_cons_self c tail).imp_right (List.mem_cons_of_mem d)
        · exact (ih (List.mem_cons_of_mem _ later) c inside).imp_right (List.mem_cons_of_mem d)

theorem exists_mem_fields (member : c ∈ cs) (letter : isSeparator c = false) :
    ∃ part ∈ fields isSeparator cs, c ∈ part := by
  obtain ⟨before, after, rfl⟩ := List.append_of_mem member
  -- The part with this character ends at the next separator and begins after the last one.
  induction before with
  | nil =>
    cases split : fields isSeparator after with
    | nil => exact absurd split (fields_ne_nil _ _)
    | cons first rest => exact ⟨c :: first, by simp [fields, letter, split], by simp⟩
  | cons d before ih =>
    obtain ⟨part, found, inside⟩ := ih (by simp)
    rw [List.cons_append, fields]
    split
    · exact ⟨part, List.mem_cons_of_mem _ found, inside⟩
    · cases split : fields isSeparator (before ++ c :: after) with
      | nil => exact absurd split (fields_ne_nil _ _)
      | cons first rest =>
        rw [split] at found
        rcases List.mem_cons.mp found with rfl | later
        · exact ⟨d :: part, List.mem_cons_self, List.mem_cons_of_mem _ inside⟩
        · exact ⟨part, List.mem_cons_of_mem _ later, inside⟩

theorem of_mem_intercalate {d : Char} {parts : List (List Char)}
    (member : c ∈ [d].intercalate parts) : c = d ∨ ∃ part ∈ parts, c ∈ part := by
  induction parts with
  | nil => cases member
  | cons first rest ih =>
    cases rest with
    | nil => exact .inr ⟨first, List.mem_cons_self, by simpa using member⟩
    | cons second rest =>
      rw [List.intercalate_cons_cons, List.append_assoc, List.mem_append, List.singleton_append,
        List.mem_cons] at member
      rcases member with here | same | later
      · exact .inr ⟨first, List.mem_cons_self, here⟩
      · exact .inl same
      · exact (ih later).imp_right fun ⟨part, found, inside⟩ =>
          ⟨part, List.mem_cons_of_mem first found, inside⟩

theorem intercalate_fields (c : Char) (cs : List Char) :
    [c].intercalate (fields (· = c) cs) = cs := by
  have same : fields (· = c) cs = cs.splitOn c := fields_eq_splitOnP _ _
  rw [same, List.intercalate_splitOn]

end

/-! ## Blanks -/

/-- The text is the word with blanks before and after it. -/
def Pads (word text : List Char) : Prop :=
  ∃ before after, text = before ++ word ++ after ∧ (∀ c ∈ before, isBlankChar c) ∧
    ∀ c ∈ after, isBlankChar c

theorem pads_trimmed (text : List Char) : Pads (trimmed text) text := by
  let rest := text.dropWhile isBlankChar
  refine ⟨text.takeWhile isBlankChar, (rest.reverse.takeWhile isBlankChar).reverse, ?_, ?_, ?_⟩
  · rw [List.append_assoc, trimmed, ← List.reverse_append, List.takeWhile_append_dropWhile,
      List.reverse_reverse, List.takeWhile_append_dropWhile]
  · intro c member
    exact List.mem_takeWhile_imp member
  · intro c member
    exact List.mem_takeWhile_imp (List.mem_reverse.mp member)

theorem dropWhile_eq_self {word : List Char} (solid : ∀ c ∈ word, isBlankChar c = false)
    (some : word ≠ []) (rest : List Char) :
    (word ++ rest).dropWhile isBlankChar = word ++ rest := by
  cases word with
  | nil => exact absurd rfl some
  | cons c cs => simp [solid c List.mem_cons_self]

/-- A word without blanks is what is left of the texts that it stands in alone. -/
theorem trimmed_eq_iff {word text : List Char} (solid : ∀ c ∈ word, isBlankChar c = false) :
    trimmed text = word ↔ Pads word text := by
  constructor
  · rintro rfl
    exact pads_trimmed text
  · rintro ⟨before, after, rfl, left, right⟩
    have right' : ∀ c ∈ after.reverse, isBlankChar c := by simpa using right
    rw [trimmed, List.append_assoc, List.dropWhile_append_of_pos left]
    rcases eq_or_ne word [] with rfl | some
    · rw [List.nil_append, List.dropWhile_eq_nil_iff.mpr right]
      rfl
    · have solid' : ∀ c ∈ word.reverse, isBlankChar c = false := by simpa using solid
      rw [dropWhile_eq_self solid some, List.reverse_append, List.dropWhile_append_of_pos right']
      have kept := dropWhile_eq_self solid' (by simpa using some) []
      rw [List.append_nil] at kept
      rw [kept, List.reverse_reverse]

end OralExam.Text
