import Mathlib.Data.List.Nodup
import Mathlib.Data.List.Pairwise
import OralExam.Proofs.Keyed
import OralExam.Rubric.Bank

/-! Rubrics that pass the check, and banks that hold no others.

The check accepts a rubric exactly if it is named, its bounds are valid, and no identifier of a
concept or of a question stands in it twice. In such a rubric a question is found by its identifier
together with the one concept that it is about.
-/

set_option autoImplicit false

namespace OralExam

namespace Rubric

/-- What the check asks of a rubric. -/
structure Checked (r : Rubric) : Prop where
  named : Text.isBlank r.id = false
  assigned : Text.isBlank r.assignmentId = false
  bands : ∀ bands ∈ r.bands, bandsAreValid bands
  concepts : (r.concepts.map Concept.id).Nodup
  questions : (r.questions.map Question.id).Nodup

/-- Concepts are told apart from each other and from `concepts`, questions from `questions`. -/
theorem checkConcepts_eq_ok_iff {rubric : String} {concepts questions : List String}
    {cs : List Concept} :
    checkConcepts rubric concepts questions cs = .ok () ↔
      ((cs.map Concept.id).Nodup ∧ ∀ id ∈ cs.map Concept.id, id ∉ concepts) ∧
      ((cs.flatMap Concept.questions).map Question.id).Nodup ∧
      ∀ id ∈ (cs.flatMap Concept.questions).map Question.id, id ∉ questions := by
  induction cs generalizing concepts questions with
  | nil => simp [checkConcepts]
  | cons c cs ih =>
    by_cases known : c.id ∈ concepts
    · simp [checkConcepts, known]
    · cases repeated : firstRepeated questions (c.questions.map Question.id) with
      | some id =>
        have twice : ¬((c.questions.map Question.id).Nodup ∧
            ∀ id ∈ c.questions.map Question.id, id ∉ questions) := by
          rw [← firstRepeated_eq_none_iff, repeated]
          simp
        simp only [checkConcepts, List.contains_iff_mem, known, if_false, repeated,
          reduceCtorEq, false_iff]
        intro accepted
        rw [List.flatMap_cons, List.map_append, List.nodup_append] at accepted
        exact twice ⟨accepted.2.1.1, fun id member =>
          accepted.2.2 id (List.mem_append_left _ member)⟩
      | none =>
        obtain ⟨distinct, fresh⟩ := firstRepeated_eq_none_iff.mp repeated
        simp only [checkConcepts, List.contains_iff_mem, known, if_false, repeated, ih,
          List.map_cons, List.nodup_cons, List.flatMap_cons, List.map_append, List.nodup_append]
        grind

theorem check_eq_ok_iff (r : Rubric) : r.check = .ok () ↔ r.Checked := by
  have listed : checkConcepts r.id [] [] r.concepts = .ok () ↔ _ := checkConcepts_eq_ok_iff
  constructor
  · intro accepted
    unfold check at accepted
    split at accepted
    · cases accepted
    · rename_i named
      split at accepted
      · cases accepted
      · rename_i bands
        obtain ⟨concepts, questions, -⟩ := listed.mp accepted
        simp only [Bool.or_eq_true, not_or, Bool.not_eq_true] at named
        refine ⟨named.1, named.2, ?_, concepts.1, questions⟩
        intro own member
        rw [Option.mem_def] at member
        simpa [member] using bands
  · intro checked
    have bands : (r.bands.any fun bands => !bandsAreValid bands) = false := by
      cases own : r.bands with
      | none => rfl
      | some bands => simp [checked.bands bands own]
    simp only [check, checked.named, checked.assigned, bands, Bool.or_self, Bool.false_eq_true,
      if_false]
    exact listed.mpr ⟨⟨checked.concepts, by simp⟩, checked.questions, by simp⟩

theorem isValid_iff (r : Rubric) : r.isValid ↔ r.Checked := by
  rw [← check_eq_ok_iff, isValid]
  cases r.check with
  | error e => simp [Except.isOk, Except.toBool]
  | ok u => simp [Except.isOk, Except.toBool]

/-! ## Questions by their identifiers -/

theorem mem_of_question? {r : Rubric} {id : String} {c : Concept} {q : Question}
    (found : r.question? id = some (c, q)) : c ∈ r.concepts ∧ q ∈ c.questions ∧ q.id = id := by
  obtain ⟨owner, member, found⟩ := List.exists_of_findSome?_eq_some found
  obtain ⟨own, ownFound, same⟩ := Option.map_eq_some_iff.mp found
  cases same
  exact ⟨member, List.mem_of_find?_eq_some ownFound, by simpa using List.find?_some ownFound⟩

theorem mem_questions {r : Rubric} {c : Concept} {q : Question} (concept : c ∈ r.concepts)
    (question : q ∈ c.questions) : q ∈ r.questions :=
  List.mem_flatMap_of_mem concept question

theorem isSome_question? {r : Rubric} {c : Concept} {q : Question} (concept : c ∈ r.concepts)
    (question : q ∈ c.questions) : (r.question? q.id).isSome := by
  rw [question?, List.findSome?_isSome_iff]
  refine ⟨c, concept, ?_⟩
  rw [Option.isSome_map, List.find?_isSome]
  exact ⟨q, question, by simp⟩

variable {r : Rubric} {c c' : Concept} {q q' : Question}

theorem owner_of_nodup (distinct : (r.questions.map Question.id).Nodup) (concept : c ∈ r.concepts)
    (question : q ∈ c.questions) (concept' : c' ∈ r.concepts) (question' : q' ∈ c'.questions)
    (same : q.id = q'.id) : c = c' := by
  rw [Rubric.questions, List.map_flatMap, List.nodup_flatMap] at distinct
  by_contra other
  have symmetric : Std.Symm (Function.onFun List.Disjoint fun c : Concept =>
      c.questions.map Question.id) := ⟨fun _ _ apart _ here there => apart there here⟩
  exact distinct.2.forall concept concept' other (List.mem_map_of_mem question)
    (same ▸ List.mem_map_of_mem question')

/-- Where no identifier of a question stands twice, it finds the question and its concept. -/
theorem question?_eq_of_nodup (distinct : (r.questions.map Question.id).Nodup)
    (concept : c ∈ r.concepts) (question : q ∈ c.questions) :
    r.question? q.id = some (c, q) := by
  obtain ⟨⟨owner, own⟩, found⟩ := Option.isSome_iff_exists.mp (isSome_question? concept question)
  obtain ⟨ownerIn, ownIn, same⟩ := mem_of_question? found
  rw [found, owner_of_nodup distinct ownerIn ownIn concept question same,
    List.inj_on_of_nodup_map distinct (mem_questions ownerIn ownIn) (mem_questions concept question)
      same]

namespace Checked

/-- A question is in one concept only. -/
theorem owner_unique (checked : r.Checked) (concept : c ∈ r.concepts) (question : q ∈ c.questions)
    (concept' : c' ∈ r.concepts) (question' : q' ∈ c'.questions) (same : q.id = q'.id) : c = c' :=
  owner_of_nodup checked.questions concept question concept' question' same

theorem question_unique (checked : r.Checked) (member : q ∈ r.questions)
    (member' : q' ∈ r.questions) (same : q.id = q'.id) : q = q' :=
  List.inj_on_of_nodup_map checked.questions member member' same

/-- A question is found by its identifier. -/
theorem question?_eq (checked : r.Checked) (concept : c ∈ r.concepts) (question : q ∈ c.questions) :
    r.question? q.id = some (c, q) :=
  question?_eq_of_nodup checked.questions concept question

/-- A concept is found by its identifier. -/
theorem concept?_eq (checked : r.Checked) (concept : c ∈ r.concepts) :
    r.concept? c.id = some c := by
  have found : (r.concepts.find? (·.id = c.id)).isSome :=
    List.find?_isSome.mpr ⟨c, concept, by simp⟩
  obtain ⟨other, found⟩ := Option.isSome_iff_exists.mp found
  have same : other.id = c.id := by simpa using List.find?_some found
  rw [concept?, found, List.inj_on_of_nodup_map checked.concepts (List.mem_of_find?_eq_some found)
    concept same]

end Checked

end Rubric

/-! ## Banks -/

namespace RubricBank

variable {bank bank' : RubricBank} {rubrics : List Rubric} {r r' : Rubric}

theorem starter_checked : Rubric.starter.Checked := by
  rw [← Rubric.isValid_iff]
  decide +kernel

/-- What a bank takes passes the check. -/
theorem Filling.mem_take {f : Filling} (member : r' ∈ (f.take r).bank.values) :
    r' = r ∧ r.Checked ∨ r' ∈ f.bank.values := by
  unfold take at member
  split at member
  · exact .inr member
  · rename_i valid
    have checked : r.Checked := (Rubric.isValid_iff r).mp (by simpa using valid)
    split at member
    · exact (Keyed.eq_or_mem_of_mem_values_put member).imp_left (⟨·, checked⟩)
    · split at member
      · exact .inr member
      · exact (Keyed.eq_or_mem_of_mem_values_put member).imp_left (⟨·, checked⟩)

theorem mem_ofRubrics (member : r ∈ (ofRubrics rubrics).values) :
    r = Rubric.starter ∨ r ∈ rubrics ∧ r.Checked := by
  have filled : ∀ r ∈ (rubrics.foldl Filling.take {}).bank.values, r ∈ rubrics ∧ r.Checked := by
    refine List.foldlRecOn rubrics Filling.take
      (motive := fun f => ∀ r ∈ f.bank.values, r ∈ rubrics ∧ r.Checked) ?_ ?_
    · intro r found
      cases found
    · intro f given r taken r' member
      rcases Filling.mem_take member with ⟨rfl, checked⟩ | old
      · exact ⟨taken, checked⟩
      · exact given r' old
  unfold ofRubrics at member
  simp only at member
  split at member
  · exact .inr (filled r member)
  · rcases Keyed.eq_or_mem_of_mem_values_put member with same | given
    · exact .inl same
    · exact .inr (filled r given)

theorem publish_eq_ok_iff : bank.publish r = .ok bank' ↔
    r.Checked ∧
      bank' = Keyed.put (if r.status = .active then bank.archiveOthers r else bank) r.id r := by
  rw [← Rubric.check_eq_ok_iff]
  unfold publish
  cases r.check with
  | error e => simp
  | ok u => simp [eq_comm]

/-- A publication brings in the published rubric only; it may archive others. -/
theorem mem_publish (published : bank.publish r = .ok bank') (member : r' ∈ bank'.values) :
    r' = r ∨ ∃ old ∈ bank.values, r' = old ∨ r' = { old with status := .archived } := by
  obtain ⟨-, rfl⟩ := publish_eq_ok_iff.mp published
  rcases Keyed.eq_or_mem_of_mem_values_put member with same | other
  · exact .inl same
  · refine .inr ?_
    split at other
    · simp only [archiveOthers, Keyed.values, List.map_map, List.mem_map] at other
      obtain ⟨⟨id, old⟩, known, same⟩ := other
      refine ⟨old, List.mem_map_of_mem known, ?_⟩
      simp only [Function.comp_apply] at same
      split at same
      · exact .inr same.symm
      · exact .inl same.symm
    · exact ⟨r', other, .inl rfl⟩

/-- Every rubric in the bank passes the check. -/
def AllChecked (bank : RubricBank) : Prop := ∀ r ∈ bank.values, r.Checked

theorem ofRubrics_allChecked (rubrics : List Rubric) : (ofRubrics rubrics).AllChecked := by
  intro r member
  rcases mem_ofRubrics member with rfl | ⟨-, checked⟩
  · exact starter_checked
  · exact checked

/-- The status of a rubric is not looked at. -/
theorem publish_allChecked (checked : bank.AllChecked) (published : bank.publish r = .ok bank') :
    bank'.AllChecked := by
  intro r' member
  rcases mem_publish published member with rfl | ⟨old, known, rfl | rfl⟩
  · exact (publish_eq_ok_iff.mp published).1
  · exact checked _ known
  · have own := checked old known
    exact ⟨own.named, own.assigned, own.bands, own.concepts, own.questions⟩

end RubricBank

end OralExam
