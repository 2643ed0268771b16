import OralExam.Proofs.Text.Fields
import OralExam.Proofs.Text.LowerCase
import OralExam.Text.Token

/-! Tokens of texts.

A text between two separators keeps its tokens. Tokens written out with blanks between them are cut into
the same tokens again, unless the text has a capital I with a dot: the dot that lower case makes of it
stands alone and belongs to no word, so that the written token falls apart at it. A phrase is found where
its tokens stand next to each other.
-/

set_option autoImplicit false

namespace OralExam.Text

/-! ## Words -/

section

variable {cs w : List Char} {c : Char}

theorem isSeparator_eq_false_iff : isSeparator c = false ↔ isWordChar c := by
  simp [isSeparator]

theorem of_mem_words (member : w ∈ words cs) : w ≠ [] ∧ ∀ c ∈ w, isWordChar c ∧ c ∈ cs := by
  obtain ⟨field, some⟩ := List.mem_filter.mp member
  refine ⟨by simpa using some, fun c inside => ?_⟩
  exact (of_mem_fields field c inside).imp_left isSeparator_eq_false_iff.mp

theorem exists_mem_words (member : c ∈ cs) (word : isWordChar c) : ∃ w ∈ words cs, c ∈ w := by
  obtain ⟨w, field, inside⟩ := exists_mem_fields member (isSeparator_eq_false_iff.mpr word)
  exact ⟨w, List.mem_filter.mpr ⟨field, by simpa using List.ne_nil_of_mem inside⟩, inside⟩

theorem words_of_word (some : w ≠ []) (inside : ∀ c ∈ w, isWordChar c) : words w = [w] := by
  rw [words, fields_of_forall fun c member => isSeparator_eq_false_iff.mpr (inside c member)]
  simpa using some

theorem isSeparator_blank : isSeparator ' ' := by decide

theorem words_intercalate {ws : List (List Char)}
    (parts : ∀ w ∈ ws, w ≠ [] ∧ ∀ c ∈ w, isWordChar c) : words ([' '].intercalate ws) = ws := by
  induction ws with
  | nil => rfl
  | cons w rest ih =>
    obtain ⟨some, inside⟩ := parts w List.mem_cons_self
    have later := ih fun v member => parts v (List.mem_cons_of_mem w member)
    cases rest with
    | nil => simpa using words_of_word some inside
    | cons v rest =>
      rw [List.intercalate_cons_cons, List.append_assoc, List.singleton_append,
        words_append_separator isSeparator_blank, words_of_word some inside, later]
      rfl

end

/-! ## Tokens -/

theorem tokens_append_separator {p : Char} (separator : isSeparator p) (before after : String) :
    tokens (before ++ String.singleton p ++ after) = tokens before ++ tokens after := by
  have cut := words_append_separator separator before.toList after.toList
  simp [tokens, cut]

/-- The tokens of the text, written out with blanks between them. -/
def spelled (s : String) : String := " ".intercalate (tokens s)

section

variable {s : String} {c : Char}

theorem toList_spelled (s : String) :
    (spelled s).toList = [' '].intercalate ((words s.toList).map lower) := by
  rw [spelled, String.toList_intercalate, tokens, List.map_map]
  congr 1
  exact List.map_congr_left fun w _ => String.toList_ofList

theorem mem_tokens_iff {t : String} : t ∈ tokens s ↔ ∃ w ∈ words s.toList, t.toList = lower w := by
  rw [tokens, List.mem_map]
  refine exists_congr fun w => and_congr_right fun _ => ?_
  rw [← String.toList_inj, String.toList_ofList, eq_comm]

/-- Without the capital I with a dot, tokens are made of what belongs to words. -/
theorem isWordChar_of_mem_tokens (plain : 'İ' ∉ s.toList) {t : String} (token : t ∈ tokens s)
    (inside : c ∈ t.toList) : isWordChar c := by
  obtain ⟨w, word, same⟩ := mem_tokens_iff.mp token
  obtain ⟨-, letters⟩ := of_mem_words word
  rw [same] at inside
  exact isWordChar_of_mem_lower (fun d found => (letters d found).1)
    (fun dotted => plain (letters 'İ' dotted).2) inside

theorem exists_dot_mem_tokens (dotted : 'İ' ∈ s.toList) : ∃ t ∈ tokens s, '\u0307' ∈ t.toList := by
  obtain ⟨w, word, inside⟩ := exists_mem_words dotted isWordChar_dotted
  refine ⟨String.ofList (lower w), mem_tokens_iff.mpr ⟨w, word, String.toList_ofList⟩, ?_⟩
  rw [String.toList_ofList]
  exact dot_mem_lowerAfter inside

/-- What is spelled is in lower case, which the capital I with a dot is not. -/
theorem dotted_notMem_spelled (s : String) : 'İ' ∉ (spelled s).toList := by
  intro dotted
  rw [toList_spelled] at dotted
  rcases of_mem_intercalate dotted with blank | ⟨part, found, inside⟩
  · exact absurd blank (by decide)
  · obtain ⟨w, -, rfl⟩ := List.mem_map.mp found
    have fixed := lowerChar_of_mem_lower inside
    rw [lowerChar_dotted] at fixed
    exact absurd fixed (by decide)

theorem tokens_spelled (plain : 'İ' ∉ s.toList) : tokens (spelled s) = tokens s := by
  have parts : ∀ w ∈ (words s.toList).map lower, w ≠ [] ∧ ∀ c ∈ w, isWordChar c := by
    intro w member
    obtain ⟨v, word, rfl⟩ := List.mem_map.mp member
    obtain ⟨some, letters⟩ := of_mem_words word
    refine ⟨lowerAfter_ne_nil some, fun c inside => ?_⟩
    exact isWordChar_of_mem_lower (fun d found => (letters d found).1)
      (fun dotted => plain (letters 'İ' dotted).2) inside
  rw [tokens, toList_spelled, words_intercalate parts, List.map_map, tokens]
  exact List.map_congr_left fun w _ => congrArg String.ofList (lower_lower w)

/-- A token with a dot above is none of the tokens of a text in lower case. -/
theorem exists_lost_token (dotted : 'İ' ∈ s.toList) : ∃ t ∈ tokens s, t ∉ tokens (spelled s) := by
  obtain ⟨t, token, dot⟩ := exists_dot_mem_tokens dotted
  refine ⟨t, token, fun kept => ?_⟩
  have word := isWordChar_of_mem_tokens (dotted_notMem_spelled s) kept dot
  rw [isWordChar_dot] at word
  cases word

end

/-! ## Phrases -/

section

variable {needle transcript : List String}

theorem hasBlock_iff : hasBlock needle transcript ↔ needle <:+: transcript := by
  induction transcript with
  | nil => rw [hasBlock, List.isEmpty_iff, List.infix_nil]
  | cons t ts ih =>
    rw [hasBlock, Bool.or_eq_true, ih, List.isPrefixOf_iff_prefix, List.infix_cons_iff]

theorem containsPhrase_iff {phrase : String} :
    containsPhrase transcript phrase ↔ tokens phrase ≠ [] ∧ tokens phrase <:+: transcript := by
  rw [containsPhrase, Bool.and_eq_true, hasBlock_iff, Bool.not_eq_true', List.isEmpty_eq_false_iff]

theorem intercalate_alternatives (entry : String) : "|".intercalate (alternatives entry) = entry := by
  rw [← String.toList_inj, String.toList_intercalate, alternatives, List.map_map]
  have same : (fields (· = '|') entry.toList).map (String.toList ∘ String.ofList) =
      fields (· = '|') entry.toList := by simp
  rw [same]
  exact intercalate_fields '|' entry.toList

theorem bar_notMem_alternatives {entry alt : String} (member : alt ∈ alternatives entry) :
    '|' ∉ alt.toList := by
  obtain ⟨part, field, rfl⟩ := List.mem_map.mp member
  rw [String.toList_ofList]
  intro bar
  have inside := (of_mem_fields field '|' bar).1
  simp at inside

theorem matchesKeyword_iff {entry : String} :
    matchesKeyword transcript entry ↔
      ∃ alt ∈ alternatives entry, tokens alt ≠ [] ∧ tokens alt <:+: transcript := by
  simp only [matchesKeyword, List.any_eq_true, containsPhrase_iff]

/-- What is found in a part is found in the whole. -/
theorem matchesKeyword_mono {whole : List String} (part : transcript <:+: whole)
    {entry : String} (found : matchesKeyword transcript entry) : matchesKeyword whole entry := by
  rw [matchesKeyword_iff] at found ⊢
  obtain ⟨alt, listed, some, block⟩ := found
  exact ⟨alt, listed, some, block.trans part⟩

end

/-- The tokens of a text, written out with blanks between them, are cut into the same tokens exactly if
the text has no capital I with a dot, and they are from the second time on. So a phrase with a token is
found in its own tokens, and in these written out exactly if it has no such letter. -/
theorem tokens_settle (s : String) :
    (tokens (spelled s) = tokens s ↔ 'İ' ∉ s.toList) ∧
      tokens (spelled (spelled s)) = tokens (spelled s) ∧
      (containsPhrase (tokens s) s ↔ tokens s ≠ []) ∧
      (containsPhrase (tokens (spelled s)) s ↔ tokens s ≠ [] ∧ 'İ' ∉ s.toList) := by
  refine ⟨⟨fun same dotted => ?_, tokens_spelled⟩, tokens_spelled (dotted_notMem_spelled s), ?_, ?_⟩
  · obtain ⟨t, token, lost⟩ := exists_lost_token dotted
    rw [← same] at token
    exact lost token
  · rw [containsPhrase_iff]
    exact and_iff_left List.infix_rfl
  · rw [containsPhrase_iff]
    refine and_congr_right fun _ => ⟨fun block dotted => ?_, fun plain => ?_⟩
    · obtain ⟨t, token, lost⟩ := exists_lost_token dotted
      exact lost (block.subset token)
    · exact tokens_spelled plain ▸ List.infix_rfl

/-- The capital I with a dot becomes a small i and a dot above. Written out, the dot separates, so the
phrase is not found in a transcript of its own token. -/
theorem dotted_phrase_lost :
    tokens "İ" = ["i\u0307"] ∧ tokens (spelled "İ") = ["i"] ∧
      containsPhrase (tokens (spelled "İ")) "İ" = false := by
  decide +kernel

end OralExam.Text
