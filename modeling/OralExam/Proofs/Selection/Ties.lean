import OralExam.Proofs.Arithmetic.Number
import OralExam.Proofs.Rubric.Checked
import OralExam.Proofs.Selection

/-! How much the selected question tells, compared with the others that could be asked.

One question is kept as the best so far, and each next one is compared with it alone, where
informations that are close count as equal. The one that is left at the end is exceeded by no other if
what counts as equal to one information counts as equal to all that this one counts as equal to. Where
that fails, the best may be given up for one that tells a little less, and that for another one again,
until the one that is left tells clearly less than the first; and an information that is no number
counts as equal to all.
-/

set_option autoImplicit false

namespace OralExam

namespace Rubric

open Double

/-- The first information is clearly more than the second. -/
def Exceeds (x y : Float) : Prop := y + tieWidth < x

instance (x y : Float) : Decidable (Exceeds x y) := inferInstanceAs (Decidable (_ < _))

/-- The informations count as equal. -/
def Tied (x y : Float) : Prop := ¬Exceeds x y ∧ ¬Exceeds y x

instance (x y : Float) : Decidable (Tied x y) := inferInstanceAs (Decidable (_ ∧ _))

theorem tieWidth_between : Between 0 1 (tieWidth : Float) := by
  have many : Denotes (Scalar.ofNat 1000000000000) ((1000000000000 : ℕ) : ℝ) :=
    denotes_natCast (by decide)
  refine between_div denotes_one many zero_le_one ?_ ?_
  · exact_mod_cast (by decide : 1 ≤ 1000000000000)
  · exact_mod_cast (by decide : 0 < 1000000000000)

theorem not_exceeds_self (x : Float) : ¬Exceeds x x := by
  intro exceeds
  obtain ⟨width, wide, nonneg, -⟩ := tieWidth_between
  obtain ⟨-, v, denotes⟩ := isNumber_of_lt exceeds
  obtain ⟨u, sum, le⟩ := le_add denotes wide nonneg
  exact le.not_gt ((sum.lt_iff denotes).mp exceeds)

theorem Exceeds.trans {x y z : Float} (first : Exceeds x y) (second : Exceeds y z) :
    Exceeds x z := by
  obtain ⟨width, wide, nonneg, -⟩ := tieWidth_between
  obtain ⟨sum, t, large⟩ := isNumber_of_lt first
  obtain ⟨v, denotes⟩ := isNumber_of_add sum
  obtain ⟨u, denotes', le⟩ := le_add denotes wide nonneg
  obtain ⟨⟨s, small⟩, -⟩ := isNumber_of_lt second
  refine (small.lt_iff large).mpr ?_
  calc s < v := (small.lt_iff denotes).mp second
    _ ≤ u := le
    _ < t := (denotes'.lt_iff large).mp first

/-- Among these informations, those that count as equal to one another are kept apart from the
rest. -/
structure Graded (informations : List Float) : Prop where
  /-- It does not matter from which of the two the width is counted. -/
  agree : ∀ x ∈ informations, ∀ y ∈ informations, y < x - tieWidth ↔ Exceeds x y
  trans : ∀ x ∈ informations, ∀ y ∈ informations, ∀ z ∈ informations, Tied x y → Tied y z → Tied x z

theorem graded_iff (informations : List Float) : Graded informations ↔
    (∀ x ∈ informations, ∀ y ∈ informations, y < x - tieWidth ↔ Exceeds x y) ∧
    ∀ x ∈ informations, ∀ y ∈ informations, ∀ z ∈ informations, Tied x y → Tied y z → Tied x z :=
  ⟨fun graded => ⟨graded.agree, graded.trans⟩, fun both => ⟨both.1, both.2⟩⟩

instance (informations : List Float) : Decidable (Graded informations) :=
  decidable_of_iff _ (graded_iff informations).symm

/-! ## The scan -/

section

variable {informations : List Float} {best candidate other : Candidate Float}
  {rest : List (Candidate Float)}

theorem not_exceeds_of_not_beats (kept : ¬beats candidate best) :
    ¬Exceeds candidate.information best.information := by
  intro exceeds
  unfold Exceeds at exceeds
  exact kept (by rw [beats, if_pos exceeds])

theorem exceeds_or_of_beats (wins : beats candidate best) :
    Exceeds candidate.information best.information ∨
      ¬candidate.information < best.information - tieWidth := by
  unfold beats at wins
  split at wins
  · rename_i exceeds
    exact .inl exceeds
  · split at wins
    · cases wins
    · rename_i near
      exact .inr near

/-- What does not exceed the best so far does not exceed one that comes in its place. -/
theorem Graded.not_exceeds_of_beats (graded : Graded informations)
    (best_mem : best.information ∈ informations) (mem : candidate.information ∈ informations)
    (other_mem : other.information ∈ informations)
    (below : ¬Exceeds other.information best.information) (wins : beats candidate best) :
    ¬Exceeds other.information candidate.information := by
  intro exceeds
  have level : ¬Exceeds candidate.information best.information := fun above =>
    below (exceeds.trans above)
  have near := (exceeds_or_of_beats wins).resolve_left level
  rw [graded.agree _ best_mem _ mem] at near
  -- The other one does not fall short of the best either, or the candidate would too.
  have tied : Tied other.information best.information :=
    ⟨below, fun above => near (above.trans exceeds)⟩
  exact (graded.trans _ other_mem _ best_mem _ mem tied ⟨near, level⟩).1 exceeds

theorem Graded.not_exceeds_better (graded : Graded informations)
    (best_mem : best.information ∈ informations) (mem : candidate.information ∈ informations)
    (other_mem : other.information ∈ informations)
    (below : ¬Exceeds other.information best.information) :
    ¬Exceeds other.information (better best candidate).information := by
  unfold better
  split
  · rename_i wins
    exact graded.not_exceeds_of_beats best_mem mem other_mem below wins
  · exact below

theorem not_exceeds_better_self : ¬Exceeds candidate.information (better best candidate).information := by
  unfold better
  split
  · exact not_exceeds_self _
  · rename_i kept
    exact not_exceeds_of_not_beats kept

/-- The one that is left is exceeded neither by what did not exceed the first one nor by a later one. -/
theorem Graded.not_exceeds_foldl (graded : Graded informations)
    (best_mem : best.information ∈ informations)
    (rest_mem : ∀ candidate ∈ rest, candidate.information ∈ informations)
    (other_mem : other.information ∈ informations)
    (known : ¬Exceeds other.information best.information ∨ other ∈ rest) :
    ¬Exceeds other.information (rest.foldl better best).information := by
  induction rest generalizing best with
  | nil => simpa using known
  | cons candidate rest ih =>
    obtain ⟨mem, rest_mem⟩ := List.forall_mem_cons.mp rest_mem
    have better_mem : (better best candidate).information ∈ informations := by
      rcases better_eq_or best candidate with same | same
      · rwa [same]
      · rwa [same]
    refine ih better_mem rest_mem ?_
    rcases known with below | later
    · exact .inl (graded.not_exceeds_better best_mem mem other_mem below)
    · rcases List.mem_cons.mp later with rfl | later
      · exact .inl not_exceeds_better_self
      · exact .inr later

end

/-! ## Selection -/

/-- What the questions tell at an ability that can be asked and have not been. -/
def informations (r : Rubric) (θ : Float) (asked : List String) : List Float :=
  (r.selectableQuestions.filter fun q => !asked.contains q.id).map fun q =>
    Ability.information q.discrimination q.difficulty θ

section

variable {r : Rubric} {θ : Float} {asked : List String}

theorem mem_informations {q : Question} (question : q ∈ r.questions) (selectable : q.isSelectable)
    (fresh : q.id ∉ asked) :
    Ability.information q.discrimination q.difficulty θ ∈ r.informations θ asked :=
  List.mem_map_of_mem (by simp [selectableQuestions, question, selectable, fresh])

theorem information_of_mem {α : Type} {measure : Question → α} {candidate : Candidate α}
    (member : candidate ∈ r.candidates measure asked) :
    candidate.information = measure candidate.question := by
  obtain ⟨c, -, member⟩ := List.mem_flatMap.mp member
  obtain ⟨q, -, same⟩ := List.mem_map.mp member
  rw [← same]

theorem exists_candidate {α : Type} (measure : Question → α) {q : Question}
    (question : q ∈ r.questions) (selectable : q.isSelectable) (fresh : q.id ∉ asked) :
    ∃ candidate ∈ r.candidates measure asked, candidate.question = q := by
  obtain ⟨c, concept, own⟩ := List.mem_flatMap.mp question
  refine ⟨_, List.mem_flatMap.mpr ⟨c, concept, List.mem_map.mpr ⟨q, ?_, rfl⟩⟩, rfl⟩
  simp [own, selectable, fresh]

/-- Where informations are graded, the chosen one is exceeded by none. -/
theorem Graded.not_exceeds_chosen (graded : Graded (r.informations θ asked))
    {chosen : Candidate Float} (choice : r.selectNext θ asked = some chosen) {q : Question}
    (question : q ∈ r.questions) (selectable : q.isSelectable) (fresh : q.id ∉ asked) :
    ¬Exceeds (Ability.information q.discrimination q.difficulty θ) chosen.information := by
  let measure (q : Question) := Ability.information q.discrimination q.difficulty θ
  have pool_mem (candidate : Candidate Float) (member : candidate ∈ r.candidates measure asked) :
      candidate.information ∈ r.informations θ asked := by
    obtain ⟨concept, own, selectable, fresh⟩ := mem_candidates member
    rw [information_of_mem member]
    exact mem_informations (mem_questions concept own) selectable fresh
  obtain ⟨other, member, rfl⟩ := exists_candidate measure question selectable fresh
  have other_mem := pool_mem other member
  have told : other.information = measure other.question := information_of_mem member
  change ¬Exceeds (measure other.question) chosen.information
  rw [← told]
  change r.choose measure asked = some chosen at choice
  cases pool : r.candidates measure asked with
  | nil =>
    rw [pool] at member
    cases member
  | cons first rest =>
    rw [pool] at pool_mem member
    obtain ⟨first_mem, rest_mem⟩ := List.forall_mem_cons.mp pool_mem
    rw [choose_of_cons pool, Option.some.injEq] at choice
    rw [← choice]
    refine graded.not_exceeds_foldl first_mem rest_mem other_mem ?_
    rcases List.mem_cons.mp member with rfl | later
    · exact .inl (not_exceeds_self _)
    · exact .inr later

end

/-- Nothing is selected exactly if all that can be asked has been. Otherwise a question that can be
asked and has not been is selected together with the concept that it is about. Of the questions that
could be asked, none behind it in the rubric tells clearly more at the ability; and where what they
tell is graded, none at all does. -/
theorem selection_tells_most (r : Rubric) (distinct : (r.questions.map Question.id).Nodup)
    (θ : Float) (asked : List String) :
    (r.selectNext θ asked = none ↔ ∀ q ∈ r.questions, q.isSelectable → q.id ∈ asked) ∧
    ∀ chosen, r.selectNext θ asked = some chosen →
      (chosen.question.isSelectable ∧ chosen.question.id ∉ asked ∧
        r.question? chosen.question.id = some (chosen.concept, chosen.question) ∧
        chosen.information = Ability.information chosen.question.discrimination
          chosen.question.difficulty θ) ∧
      (∃ before after, r.candidates (fun q => Ability.information q.discrimination q.difficulty θ)
          asked = before ++ chosen :: after ∧
        ∀ later ∈ after, ¬Exceeds later.information chosen.information) ∧
      (Graded (r.informations θ asked) → ∀ q ∈ r.questions, q.isSelectable → q.id ∉ asked →
        ¬Exceeds (Ability.information q.discrimination q.difficulty θ) chosen.information) := by
  refine ⟨?_, fun chosen choice => ⟨?_, ?_, fun graded q question selectable fresh =>
    graded.not_exceeds_chosen choice question selectable fresh⟩⟩
  · rw [selectNext_eq_none_iff]
    simp only [selectableQuestions, List.mem_filter, and_imp]
  · obtain ⟨concept, own, selectable, fresh⟩ := selectNext_spec choice
    exact ⟨selectable, fresh, question?_eq_of_nodup distinct concept own,
      information_of_mem (mem_of_choose choice)⟩
  · obtain ⟨before, after, split, unbeaten⟩ := split_of_choose choice
    exact ⟨before, after, split, fun later member => not_exceeds_of_not_beats (unbeaten later member)⟩

/-- A rubric of one concept, whose questions differ in how sharp they are. -/
def ofDiscriminations (questions : List (String × Float)) : Rubric :=
  { id := "r", assignmentId := "a", name := "R", status := .active
    concepts := [
      { id := "c", name := "C"
        questions := questions.map fun (id, discrimination) =>
          { id, text := "question " ++ id, discrimination, difficulty := 0.0 } }] }

/-- Two questions tell the most, and the one with the smaller identifier is selected. -/
theorem tied_selection_tells_most :
    let r := ofDiscriminations [("z", 1.0), ("a", 0.5), ("m", 1.0)]
    (r.questions.map Question.id).Nodup ∧ Graded (r.informations 0.0 []) ∧
    ∃ chosen, r.selectNext 0.0 [] = some chosen ∧ chosen.question.id = "m" ∧
      ∀ q ∈ r.questions, q.isSelectable → q.id ∉ [] →
        ¬Exceeds (Ability.information q.discrimination q.difficulty 0.0) chosen.information := by
  intro r
  have distinct : (r.questions.map Question.id).Nodup := by decide
  have graded : Graded (r.informations 0.0 []) := by decide +kernel
  have looks : (r.selectNext 0.0 []).map (·.question.id) = some "m" := by decide +kernel
  obtain ⟨chosen, choice, id⟩ := Option.map_eq_some_iff.mp looks
  exact ⟨distinct, graded, chosen, choice, id,
    ((selection_tells_most r distinct 0.0 []).2 chosen choice).2.2 graded⟩

/-- Each of three questions tells a little less than the one before it. The last one is selected,
although the first one tells clearly more. -/
theorem close_selection_tells_less :
    let r := ofDiscriminations [("z", 1.0), ("m", 0.9999999999982), ("a", 0.9999999999964)]
    (r.questions.map Question.id).Nodup ∧
    ∃ chosen, r.selectNext 0.0 [] = some chosen ∧ chosen.question.id = "a" ∧
      ∃ q ∈ r.questions, q.isSelectable ∧ q.id ∉ [] ∧
        Exceeds (Ability.information q.discrimination q.difficulty 0.0) chosen.information := by
  intro r
  have distinct : (r.questions.map Question.id).Nodup := by decide
  have looks : (r.selectNext 0.0 []).map (fun chosen => (chosen.question.id,
      decide (∃ q ∈ r.questions, q.isSelectable ∧ q.id ∉ [] ∧
        Exceeds (Ability.information q.discrimination q.difficulty 0.0) chosen.information))) =
      some ("a", true) := by
    decide +kernel
  obtain ⟨chosen, choice, same⟩ := Option.map_eq_some_iff.mp looks
  simp only [Prod.mk.injEq, decide_eq_true_eq] at same
  exact ⟨distinct, chosen, choice, same⟩

end Rubric

end OralExam
