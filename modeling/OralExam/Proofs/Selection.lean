import OralExam.Selection

/-! What selection picks from: the questions that can be asked and have not been.

A question is chosen exactly if there is one, whatever the measure says about it.
-/

set_option autoImplicit false

namespace OralExam.Rubric

variable {α : Type} {r : Rubric} {measure : Question → α} {asked : List String}

theorem mem_candidates {candidate : Candidate α} (member : candidate ∈ r.candidates measure asked) :
    candidate.concept ∈ r.concepts ∧ candidate.question ∈ candidate.concept.questions ∧
      candidate.question.isSelectable ∧ candidate.question.id ∉ asked := by
  obtain ⟨c, concept, member⟩ := List.mem_flatMap.mp member
  obtain ⟨q, question, same⟩ := List.mem_map.mp member
  subst same
  simpa [concept] using question

theorem candidates_eq_nil_iff :
    r.candidates measure asked = [] ↔ ∀ q ∈ r.selectableQuestions, q.id ∈ asked := by
  simp only [candidates, List.flatMap_eq_nil_iff, List.map_eq_nil_iff, List.filter_eq_nil_iff,
    selectableQuestions, questions, List.mem_filter, List.mem_flatMap]
  grind

variable [Scalar α]

/-- What is kept of the best so far and the next one. -/
def better (best candidate : Candidate α) : Candidate α :=
  if beats candidate best then candidate else best

theorem better_eq_or (best candidate : Candidate α) :
    better best candidate = best ∨ better best candidate = candidate := by
  unfold better
  split
  · exact .inr rfl
  · exact .inl rfl

theorem foldl_eq_better (best : Candidate α) (rest : List (Candidate α)) :
    rest.foldl (fun best candidate =>
      match best with
      | none => some candidate
      | some b => if beats candidate b then some candidate else some b) (some best) =
        some (rest.foldl better best) := by
  induction rest generalizing best with
  | nil => rfl
  | cons candidate rest ih =>
    rw [List.foldl_cons, List.foldl_cons, ← ih]
    by_cases wins : beats candidate best <;> simp [better, wins]

/-- The one that is left stands in the list, and none behind it beats it. -/
theorem foldl_better_split (best : Candidate α) (rest : List (Candidate α)) :
    ∃ before after, best :: rest = before ++ rest.foldl better best :: after ∧
      ∀ candidate ∈ after, ¬beats candidate (rest.foldl better best) := by
  induction rest generalizing best with
  | nil => exact ⟨[], [], rfl, by simp⟩
  | cons candidate rest ih =>
    rw [List.foldl_cons]
    by_cases wins : beats candidate best
    · rw [show better best candidate = candidate from if_pos wins]
      obtain ⟨before, after, split, unbeaten⟩ := ih candidate
      exact ⟨best :: before, after, by rw [split, List.cons_append], unbeaten⟩
    · rw [show better best candidate = best from if_neg wins]
      obtain ⟨before, after, split, unbeaten⟩ := ih best
      cases before with
      | nil =>
        -- The best has been kept throughout, the next one included.
        obtain ⟨same, rfl⟩ := List.cons.inj split
        refine ⟨[], candidate :: rest, by rw [← same, List.nil_append], ?_⟩
        rw [← same] at unbeaten ⊢
        exact List.forall_mem_cons.mpr ⟨wins, unbeaten⟩
      | cons first before =>
        obtain ⟨-, later⟩ := List.cons.inj split
        exact ⟨best :: candidate :: before, after, congrArg (best :: candidate :: ·) later, unbeaten⟩

theorem choose_of_cons {first : Candidate α} {rest : List (Candidate α)}
    (cons : r.candidates measure asked = first :: rest) :
    r.choose measure asked = some (rest.foldl better first) := by
  rw [choose, cons, List.foldl_cons]
  exact foldl_eq_better first rest

theorem split_of_choose {chosen : Candidate α} (choice : r.choose measure asked = some chosen) :
    ∃ before after, r.candidates measure asked = before ++ chosen :: after ∧
      ∀ candidate ∈ after, ¬beats candidate chosen := by
  cases cons : r.candidates measure asked with
  | nil => simp [choose, cons] at choice
  | cons first rest =>
    rw [choose_of_cons cons, Option.some.injEq] at choice
    exact choice ▸ foldl_better_split first rest

theorem mem_of_choose {chosen : Candidate α} (choice : r.choose measure asked = some chosen) :
    chosen ∈ r.candidates measure asked := by
  obtain ⟨before, after, split, -⟩ := split_of_choose choice
  simp [split]

theorem choose_eq_none_iff : r.choose measure asked = none ↔ r.candidates measure asked = [] := by
  cases cons : r.candidates measure asked with
  | nil => simp [choose, cons]
  | cons first rest => simp [choose_of_cons cons]

theorem selectNext_eq_none_iff {θ : Float} :
    r.selectNext θ asked = none ↔ ∀ q ∈ r.selectableQuestions, q.id ∈ asked := by
  rw [selectNext, choose_eq_none_iff, candidates_eq_nil_iff]

/-- What is selected stands in the rubric, can be asked and has not been. -/
theorem selectNext_spec {θ : Float} {chosen : Candidate Float}
    (choice : r.selectNext θ asked = some chosen) :
    chosen.concept ∈ r.concepts ∧ chosen.question ∈ chosen.concept.questions ∧
      chosen.question.isSelectable ∧ chosen.question.id ∉ asked :=
  mem_candidates (mem_of_choose choice)

end OralExam.Rubric
