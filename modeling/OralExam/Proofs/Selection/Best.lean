import OralExam.Proofs.Arithmetic.Exact
import OralExam.Proofs.Keyed
import OralExam.Proofs.Selection.Ties

/-! The best question to ask, where no two tell almost the same.

If what any two questions tell is either equal or clearly apart, then comparing within the tie width
is comparing: one candidate beats another exactly if it tells more, or tells as much about a concept
asked less, or that and has the smaller identifier. This order is strict and total, so the scan ends
with the one candidate that comes first in it, and the order of the rubric does not matter.
-/

set_option autoImplicit false

namespace OralExam

namespace Rubric

open Double

/-! ## Arithmetic that ties can be decided in -/

/-- Comparisons are those of a preorder, what is no number apart, and the tie width does not turn them
round. -/
class DecidesTies (α : Type) [Scalar α] : Prop where
  le_trans : ∀ {x y z : α}, x ≤ y → y ≤ z → x ≤ z
  lt_iff : ∀ {x y : α}, x < y ↔ x ≤ y ∧ ¬y ≤ x
  lt_of_add_lt : ∀ {x y : α}, x + tieWidth < y → x < y
  lt_of_lt_sub : ∀ {x y : α}, x < y - tieWidth → x < y

instance : DecidesTies Float where
  le_trans := by
    intro x y z first second
    obtain ⟨⟨a, small⟩, ⟨b, middle⟩⟩ := isNumber_of_le first
    obtain ⟨-, ⟨c, large⟩⟩ := isNumber_of_le second
    rw [small.le_iff large]
    exact ((small.le_iff middle).mp first).trans ((middle.le_iff large).mp second)
  lt_iff := by
    intro x y
    constructor
    · intro less
      obtain ⟨⟨a, small⟩, ⟨b, large⟩⟩ := isNumber_of_lt less
      rw [small.le_iff large, large.le_iff small, ← lt_iff_le_not_ge]
      exact (small.lt_iff large).mp less
    · rintro ⟨le, more⟩
      obtain ⟨⟨a, small⟩, ⟨b, large⟩⟩ := isNumber_of_le le
      rw [small.le_iff large] at le
      rw [large.le_iff small] at more
      exact (small.lt_iff large).mpr (lt_of_le_not_ge le more)
  lt_of_add_lt := by
    intro x y less
    obtain ⟨width, wide, nonneg, -⟩ := tieWidth_between
    obtain ⟨sum, ⟨b, large⟩⟩ := isNumber_of_lt less
    obtain ⟨a, small⟩ := isNumber_of_add sum
    obtain ⟨c, more, le⟩ := le_add small wide nonneg
    exact (small.lt_iff large).mpr (le.trans_lt ((more.lt_iff large).mp less))
  lt_of_lt_sub := by
    intro x y less
    obtain ⟨width, wide, nonneg, -⟩ := tieWidth_between
    obtain ⟨⟨a, small⟩, rest⟩ := isNumber_of_lt less
    obtain ⟨b, large⟩ := isNumber_of_sub rest
    obtain ⟨c, fewer, le⟩ := large.sub_le wide nonneg
    exact (small.lt_iff large).mpr (((small.lt_iff fewer).mp less).trans_le le)

section

open scoped Exact

theorem tieWidth_exact : (tieWidth : ℝ) = 1 / 10 ^ 12 := by
  change Scalar.one / ((1000000000000 : ℕ) : ℝ) = _
  rw [Exact.one_eq]
  norm_num

instance : DecidesTies ℝ where
  le_trans := le_trans
  lt_iff := lt_iff_le_not_ge
  lt_of_add_lt := by
    intro x y less
    rw [tieWidth_exact] at less
    change x + (1 / 10 ^ 12 : ℝ) < y at less
    linarith
  lt_of_lt_sub := by
    intro x y less
    rw [tieWidth_exact] at less
    change x < y - (1 / 10 ^ 12 : ℝ) at less
    linarith

end

section

variable {α : Type} [Scalar α]

/-- The two informations are one number. -/
def Coincide (x y : α) : Prop := x ≤ y ∧ y ≤ x

instance (x y : α) : Decidable (Coincide x y) := inferInstanceAs (Decidable (_ ∧ _))

/-- The first information is clearly more, from whichever of the two the tie width is counted. -/
def Clears (x y : α) : Prop := y + tieWidth < x ∧ y < x - tieWidth

instance (x y : α) : Decidable (Clears x y) := inferInstanceAs (Decidable (_ ∧ _))

/-- The two informations are equal or clearly apart. -/
def Apart (x y : α) : Prop := Coincide x y ∨ Clears x y ∨ Clears y x

instance (x y : α) : Decidable (Apart x y) := inferInstanceAs (Decidable (_ ∨ _))

theorem Coincide.symm {x y : α} (equal : Coincide x y) : Coincide y x := ⟨equal.2, equal.1⟩

theorem Apart.symm {x y : α} (apart : Apart x y) : Apart y x := by
  rcases apart with equal | clears | clears
  · exact .inl equal.symm
  · exact .inr (.inr clears)
  · exact .inr (.inl clears)

variable [DecidesTies α] {x y z : α}

namespace DecidesTies

theorem not_lt_of_le (le : x ≤ y) : ¬y < x := fun less => (lt_iff.mp less).2 le

theorem lt_asymm (less : x < y) : ¬y < x := not_lt_of_le (lt_iff.mp less).1

theorem lt_of_lt_of_le (first : x < y) (second : y ≤ z) : x < z := by
  obtain ⟨le, more⟩ := lt_iff.mp first
  exact lt_iff.mpr ⟨le_trans le second, fun back => more (le_trans second back)⟩

theorem lt_of_le_of_lt (first : x ≤ y) (second : y < z) : x < z := by
  obtain ⟨le, more⟩ := lt_iff.mp second
  exact lt_iff.mpr ⟨le_trans first le, fun back => more (le_trans back first)⟩

end DecidesTies

theorem Coincide.trans (first : Coincide x y) (second : Coincide y z) : Coincide x z :=
  ⟨DecidesTies.le_trans first.1 second.1, DecidesTies.le_trans second.2 first.2⟩

theorem Clears.lt (clears : Clears x y) : y < x := DecidesTies.lt_of_add_lt clears.1

end

/-! ## The order of candidates -/

section

variable {α : Type} [Scalar α]

/-- The first candidate tells more, or as much about a concept asked less, or that and has the smaller
identifier. -/
def Precedes (a b : Candidate α) : Prop :=
  b.information < a.information ∨ Coincide b.information a.information ∧
    (a.load < b.load ∨ a.load = b.load ∧ a.question.id < b.question.id)

variable [DecidesTies α] {a b c best : Candidate α} {rest : List (Candidate α)}

theorem Precedes.trans (first : Precedes a b) (second : Precedes b c) : Precedes a c := by
  rcases first with more | ⟨equal, order⟩ <;> rcases second with more' | ⟨equal', order'⟩
  · exact .inl (DecidesTies.lt_of_lt_of_le more' (DecidesTies.lt_iff.mp more).1)
  · exact .inl (DecidesTies.lt_of_le_of_lt equal'.1 more)
  · exact .inl (DecidesTies.lt_of_lt_of_le more' equal.1)
  · refine .inr ⟨equal'.trans equal, ?_⟩
    rcases order with fewer | ⟨same, id⟩ <;> rcases order' with fewer' | ⟨same', id'⟩
    · exact .inl (fewer.trans fewer')
    · exact .inl (same' ▸ fewer)
    · exact .inl (same ▸ fewer')
    · exact .inr ⟨same.trans same', id.trans id'⟩

theorem not_precedes_self : ¬Precedes a a := by
  rintro (more | ⟨-, fewer | ⟨-, id⟩⟩)
  · exact DecidesTies.lt_asymm more more
  · exact lt_irrefl _ fewer
  · exact lt_irrefl _ id

/-- Of two candidates that tell as much or clearly apart, one comes first. -/
theorem precedes_or (apart : Apart a.information b.information)
    (ids : a.question.id ≠ b.question.id) : Precedes a b ∨ Precedes b a := by
  rcases apart with equal | clears | clears
  · rcases lt_trichotomy a.load b.load with fewer | same | fewer
    · exact .inl (.inr ⟨equal.symm, .inl fewer⟩)
    · rcases lt_or_gt_of_ne ids with less | less
      · exact .inl (.inr ⟨equal.symm, .inr ⟨same, less⟩⟩)
      · exact .inr (.inr ⟨equal, .inr ⟨same.symm, less⟩⟩)
    · exact .inr (.inr ⟨equal, .inl fewer⟩)
  · exact .inl (.inl clears.lt)
  · exact .inr (.inl clears.lt)

/-- Where nothing is close, comparing within the tie width is comparing. -/
theorem beats_iff (apart : Apart a.information b.information) : beats a b ↔ Precedes a b := by
  unfold beats Precedes
  rcases apart with equal | clears | clears
  · have above : ¬b.information + tieWidth < a.information := fun more =>
      DecidesTies.not_lt_of_le equal.1 (DecidesTies.lt_of_add_lt more)
    have below : ¬a.information < b.information - tieWidth := fun less =>
      DecidesTies.not_lt_of_le equal.2 (DecidesTies.lt_of_lt_sub less)
    simp [above, below, DecidesTies.not_lt_of_le equal.1, equal.symm]
  · simp [clears.1, clears.lt]
  · have above : ¬b.information + tieWidth < a.information := fun more =>
      DecidesTies.lt_asymm clears.lt (DecidesTies.lt_of_add_lt more)
    have equal : ¬Coincide b.information a.information := fun equal =>
      DecidesTies.not_lt_of_le equal.1 clears.lt
    simp [above, clears.2, DecidesTies.lt_asymm clears.lt, equal]

/-- The one that is kept comes before the other. -/
theorem better_cases (apart : Apart best.information c.information)
    (ids : best.question.id ≠ c.question.id) :
    better best c = best ∧ Precedes best c ∨ better best c = c ∧ Precedes c best := by
  unfold better
  split
  · rename_i wins
    exact .inr ⟨rfl, (beats_iff apart.symm).mp wins⟩
  · rename_i kept
    exact .inl ⟨rfl, (precedes_or apart ids).resolve_right (mt (beats_iff apart.symm).mpr kept)⟩

/-- The one that is left comes before all others. -/
theorem precedes_of_foldl_better
    (apart : (best :: rest).Pairwise fun a b =>
      Apart a.information b.information ∧ a.question.id ≠ b.question.id) :
    ∀ other ∈ best :: rest,
      other = rest.foldl better best ∨ Precedes (rest.foldl better best) other := by
  induction rest generalizing best with
  | nil => simp
  | cons c rest ih =>
    obtain ⟨first, later⟩ := List.pairwise_cons.mp apart
    obtain ⟨near, far⟩ := List.forall_mem_cons.mp first
    rw [List.foldl_cons]
    -- What comes before the kept one comes before the other as well.
    rcases better_cases near.1 near.2 with ⟨same, before⟩ | ⟨same, before⟩ <;> rw [same]
    · obtain ⟨own, others⟩ := List.forall_mem_cons.mp
        (ih (List.pairwise_cons.mpr ⟨far, (List.pairwise_cons.mp later).2⟩))
      refine List.forall_mem_cons.mpr ⟨own, List.forall_mem_cons.mpr ⟨.inr ?_, others⟩⟩
      rcases own with left | earlier
      · rwa [← left]
      · exact earlier.trans before
    · have others := ih later
      refine List.forall_mem_cons.mpr ⟨.inr ?_, others⟩
      rcases others c List.mem_cons_self with left | earlier
      · rwa [← left]
      · exact earlier.trans before

end

/-! ## The questions of a rubric -/

end Rubric

/-- How many questions about the concept have been asked. -/
def Concept.timesAsked (c : Concept) (asked : List String) : Nat :=
  c.questions.countP fun q => asked.contains q.id

namespace Rubric

/-- The questions that can be asked and have not been. -/
def openQuestions (r : Rubric) (asked : List String) : List Question :=
  r.selectableQuestions.filter fun q => !asked.contains q.id

theorem mem_openQuestions_iff {r : Rubric} {asked : List String} {q : Question} :
    q ∈ r.openQuestions asked ↔ q ∈ r.questions ∧ q.isSelectable ∧ q.id ∉ asked := by
  rw [openQuestions, selectableQuestions, List.mem_filter, List.mem_filter]
  simp [and_assoc]

section

variable {α : Type} {r : Rubric} {measure : Question → α} {asked : List String} {c : Concept}
  {q : Question} {a : Candidate α}

theorem map_question_candidates (r : Rubric) (measure : Question → α) (asked : List String) :
    (r.candidates measure asked).map Candidate.question = r.openQuestions asked := by
  simp only [candidates, openQuestions, selectableQuestions, questions, List.map_flatMap,
    List.map_map, List.filter_flatMap, List.filter_filter]
  refine List.flatMap_congr fun c _ => ?_
  rw [Function.comp_def, List.map_id']
  exact List.filter_congr fun q _ => Bool.and_comm _ _

/-- Where concepts have different identifiers, each is counted for itself. -/
theorem load_of_mem (distinct : (r.concepts.map Concept.id).Nodup)
    (member : a ∈ r.candidates measure asked) : a.load = a.concept.timesAsked asked := by
  obtain ⟨c, concept, member⟩ := List.mem_flatMap.mp member
  obtain ⟨q, -, rfl⟩ := List.mem_map.mp member
  have found : (r.loads asked).find? c.id = some (c.timesAsked asked) :=
    Keyed.find?_foldl_put distinct concept {}
  change ((r.loads asked).find? c.id).getD 0 = c.timesAsked asked
  rw [found, Option.getD_some]

variable [Scalar α]

/-- What any two questions tell that can be asked is equal or clearly apart. -/
def Separated (r : Rubric) (measure : Question → α) (asked : List String) : Prop :=
  ∀ q ∈ r.openQuestions asked, ∀ q' ∈ r.openQuestions asked, q.id ≠ q'.id →
    Apart (measure q) (measure q')

instance (r : Rubric) (measure : Question → α) (asked : List String) :
    Decidable (r.Separated measure asked) :=
  inferInstanceAs (Decidable (∀ q ∈ _, ∀ q' ∈ _, _ → _))

theorem Separated.pairwise (separated : r.Separated measure asked)
    (distinct : (r.questions.map Question.id).Nodup) :
    (r.candidates measure asked).Pairwise fun a b =>
      Apart a.information b.information ∧ a.question.id ≠ b.question.id := by
  have openId : ((r.openQuestions asked).map Question.id).Nodup :=
    distinct.sublist ((List.filter_sublist.trans List.filter_sublist).map _)
  rw [← map_question_candidates r measure asked, List.map_map] at openId
  refine (List.pairwise_map.mp openId).imp_of_mem ?_
  intro a b first second ids
  rw [information_of_mem first, information_of_mem second]
  have asks {a : Candidate α} (member : a ∈ r.candidates measure asked) :
      a.question ∈ r.openQuestions asked := by
    rw [← map_question_candidates r measure asked]
    exact List.mem_map_of_mem member
  exact ⟨separated _ (asks first) _ (asks second) ids, ids⟩

/-- The question can be asked, and any other one that can tells less, or as much about a concept asked
more, or that and has the larger identifier. -/
structure IsBest (r : Rubric) (measure : Question → α) (asked : List String) (c : Concept)
    (q : Question) : Prop where
  concept : c ∈ r.concepts
  question : q ∈ c.questions
  selectable : q.isSelectable
  fresh : q.id ∉ asked
  first : ∀ c' ∈ r.concepts, ∀ q' ∈ c'.questions, q'.isSelectable → q'.id ∉ asked → q'.id ≠ q.id →
    measure q' < measure q ∨ Coincide (measure q') (measure q) ∧
      (c.timesAsked asked < c'.timesAsked asked ∨
        c.timesAsked asked = c'.timesAsked asked ∧ q.id < q'.id)

theorem IsBest.precedes (best : r.IsBest measure asked c q) {c' : Concept} {q' : Question}
    (other : r.IsBest measure asked c' q') (ids : q.id ≠ q'.id) :
    Precedes ⟨c, q, measure q, c.timesAsked asked⟩ ⟨c', q', measure q', c'.timesAsked asked⟩ :=
  best.first c' other.concept q' other.question other.selectable other.fresh ids.symm

variable [DecidesTies α]

/-- There are no two best questions. -/
theorem IsBest.unique (best : r.IsBest measure asked c q)
    (distinct : (r.questions.map Question.id).Nodup) {c' : Concept} {q' : Question}
    (other : r.IsBest measure asked c' q') : c' = c ∧ q' = q := by
  have same : q'.id = q.id := by
    by_contra ids
    exact not_precedes_self ((best.precedes other (Ne.symm ids)).trans (other.precedes best ids))
  exact ⟨owner_of_nodup distinct other.concept other.question best.concept best.question same,
    List.inj_on_of_nodup_map distinct (mem_questions other.concept other.question)
      (mem_questions best.concept best.question) same⟩

/-- The chosen question is the best one. -/
theorem isBest_of_choose (concepts : (r.concepts.map Concept.id).Nodup)
    (questions : (r.questions.map Question.id).Nodup) (separated : r.Separated measure asked)
    (choice : r.choose measure asked = some a) : r.IsBest measure asked a.concept a.question := by
  obtain ⟨concept, question, selectable, fresh⟩ := mem_candidates (mem_of_choose choice)
  refine ⟨concept, question, selectable, fresh, ?_⟩
  intro c' concept' q' question' selectable' fresh' ids
  obtain ⟨b, member, rfl⟩ := exists_candidate measure (mem_questions concept' question') selectable'
    fresh'
  have owner : c' = b.concept :=
    owner_of_nodup questions concept' question' (mem_candidates member).1 (mem_candidates member).2.1
      rfl
  -- The scan starts from the first candidate, so that one has to be taken off the list.
  have before : b = a ∨ Precedes a b := by
    have pool := separated.pairwise questions
    cases list : r.candidates measure asked with
    | nil =>
      rw [list] at member
      cases member
    | cons first rest =>
      rw [list] at pool member
      rw [choose_of_cons list, Option.some.injEq] at choice
      exact choice ▸ precedes_of_foldl_better pool b member
  have earlier : Precedes a b := before.resolve_left fun same => ids (by rw [same])
  rw [owner, ← load_of_mem concepts member, ← load_of_mem concepts (mem_of_choose choice),
    ← information_of_mem member, ← information_of_mem (mem_of_choose choice)]
  exact earlier

end

/-! ## Rubrics in another order -/

end Rubric

namespace Concept

/-- The same concept, with its questions in some order. -/
def Rearranged (c c' : Concept) : Prop :=
  ∃ questions, c.questions.Perm questions ∧ c' = { c with questions }

variable {c c' : Concept}

theorem Rearranged.id_eq (same : c.Rearranged c') : c'.id = c.id := by
  obtain ⟨questions, -, rfl⟩ := same
  rfl

theorem Rearranged.questions_perm (same : c.Rearranged c') : c.questions.Perm c'.questions := by
  obtain ⟨questions, perm, rfl⟩ := same
  exact perm

theorem Rearranged.timesAsked_eq (same : c.Rearranged c') (asked : List String) :
    c'.timesAsked asked = c.timesAsked asked :=
  (same.questions_perm.countP_eq _).symm

theorem map_id_eq_of_rearranged {cs ds : List Concept} (pairs : List.Forall₂ Rearranged cs ds) :
    cs.map id = ds.map id := by
  induction pairs with
  | nil => rfl
  | cons same _ ih => rw [List.map_cons, List.map_cons, same.id_eq, ih]

theorem flatMap_questions_perm {cs ds : List Concept} (pairs : List.Forall₂ Rearranged cs ds) :
    (cs.flatMap questions).Perm (ds.flatMap questions) := by
  induction pairs with
  | nil => exact .refl _
  | cons same _ ih =>
    rw [List.flatMap_cons, List.flatMap_cons]
    exact same.questions_perm.append ih

end Concept

/-- Two choices that differ at most in how the questions of their concept are ordered. -/
structure Candidate.Matches {α : Type} (a b : Candidate α) : Prop where
  concept : a.concept.Rearranged b.concept
  question : b.question = a.question
  information : b.information = a.information
  load : b.load = a.load

namespace Rubric

/-- The same concepts in some order, each with its questions in some order. -/
def Rearranged (r r' : Rubric) : Prop :=
  ∃ concepts, List.Forall₂ Concept.Rearranged r.concepts concepts ∧ concepts.Perm r'.concepts

section

variable {r r' : Rubric} {c c' : Concept}

theorem Rearranged.exists_right (same : r.Rearranged r') (member : c ∈ r.concepts) :
    ∃ c' ∈ r'.concepts, c.Rearranged c' := by
  obtain ⟨concepts, pairs, perm⟩ := same
  obtain ⟨n, bound, rfl⟩ := List.mem_iff_getElem.mp member
  have bound' : n < concepts.length := pairs.length_eq ▸ bound
  exact ⟨concepts[n], perm.mem_iff.mp (List.getElem_mem _), pairs.get bound bound'⟩

theorem Rearranged.exists_left (same : r.Rearranged r') (member : c' ∈ r'.concepts) :
    ∃ c ∈ r.concepts, c.Rearranged c' := by
  obtain ⟨concepts, pairs, perm⟩ := same
  obtain ⟨n, bound, rfl⟩ := List.mem_iff_getElem.mp (perm.mem_iff.mpr member)
  have bound' : n < r.concepts.length := pairs.length_eq ▸ bound
  exact ⟨r.concepts[n], List.getElem_mem _, pairs.get bound' bound⟩

theorem Rearranged.map_id_perm (same : r.Rearranged r') :
    (r.concepts.map Concept.id).Perm (r'.concepts.map Concept.id) := by
  obtain ⟨concepts, pairs, perm⟩ := same
  rw [Concept.map_id_eq_of_rearranged pairs]
  exact perm.map _

theorem Rearranged.questions_perm (same : r.Rearranged r') : r.questions.Perm r'.questions := by
  obtain ⟨concepts, pairs, perm⟩ := same
  exact (Concept.flatMap_questions_perm pairs).trans (perm.flatMap_right Concept.questions)

theorem Rearranged.mem_openQuestions_iff (same : r.Rearranged r') {asked : List String}
    {q : Question} : q ∈ r'.openQuestions asked ↔ q ∈ r.openQuestions asked := by
  rw [Rubric.mem_openQuestions_iff, Rubric.mem_openQuestions_iff, same.questions_perm.mem_iff]

end

section

variable {α : Type} [Scalar α] {r r' : Rubric} {measure : Question → α} {asked : List String}
  {c : Concept} {q : Question}

theorem Separated.rearranged (separated : r.Separated measure asked) (same : r.Rearranged r') :
    r'.Separated measure asked := by
  intro q member q' member'
  exact separated q (same.mem_openQuestions_iff.mp member) q' (same.mem_openQuestions_iff.mp member')

/-- The best question stays the best one. -/
theorem IsBest.rearranged (best : r.IsBest measure asked c q) (same : r.Rearranged r') :
    ∃ c', c.Rearranged c' ∧ r'.IsBest measure asked c' q := by
  obtain ⟨c', concept, own⟩ := same.exists_right best.concept
  refine ⟨c', own, concept, own.questions_perm.mem_iff.mp best.question, best.selectable,
    best.fresh, ?_⟩
  intro d' concept' q' question' selectable' fresh' ids
  obtain ⟨d, known, own'⟩ := same.exists_left concept'
  rw [own.timesAsked_eq, own'.timesAsked_eq]
  exact best.first d known q' (own'.questions_perm.mem_iff.mpr question') selectable' fresh' ids

theorem choose_eq_none_iff_openQuestions :
    r.choose measure asked = none ↔ r.openQuestions asked = [] := by
  rw [choose_eq_none_iff, ← map_question_candidates r measure asked, List.map_eq_nil_iff]

/-- What a selection has to do with what the questions tell. -/
structure SelectsBest (r : Rubric) (measure : Question → α) (asked : List String)
    (select : Rubric → Option (Candidate α)) : Prop where
  /-- Nothing is selected only if nothing can be. -/
  none_iff : select r = none ↔ ∀ q ∈ r.questions, q.isSelectable → q.id ∈ asked
  best : ∀ chosen, select r = some chosen →
    r.IsBest measure asked chosen.concept chosen.question ∧
      chosen.information = measure chosen.question
  unique : ∀ chosen, select r = some chosen → ∀ c q, r.IsBest measure asked c q →
    c = chosen.concept ∧ q = chosen.question
  /-- The order of the rubric makes no difference. -/
  rearranged : ∀ r', r.Rearranged r' → Option.Rel Candidate.Matches (select r) (select r')

variable [DecidesTies α]

theorem choose_rearranged (concepts : (r.concepts.map Concept.id).Nodup)
    (questions : (r.questions.map Question.id).Nodup) (separated : r.Separated measure asked)
    (same : r.Rearranged r') :
    Option.Rel Candidate.Matches (r.choose measure asked) (r'.choose measure asked) := by
  have concepts' := same.map_id_perm.nodup_iff.mp concepts
  have questions' := (same.questions_perm.map Question.id).nodup_iff.mp questions
  have nothing : r.choose measure asked = none ↔ r'.choose measure asked = none := by
    simp only [choose_eq_none_iff_openQuestions, List.eq_nil_iff_forall_not_mem,
      same.mem_openQuestions_iff]
  cases choice : r.choose measure asked with
  | none =>
    rw [nothing.mp choice]
    exact .none
  | some a =>
    cases choice' : r'.choose measure asked with
    | none =>
      rw [nothing.mpr choice'] at choice
      cases choice
    | some b =>
      have best := isBest_of_choose concepts questions separated choice
      have best' := isBest_of_choose concepts' questions' (separated.rearranged same) choice'
      obtain ⟨c', own, moved⟩ := best.rearranged same
      obtain ⟨rfl, question⟩ := best'.unique questions' moved
      refine .some ⟨own, question.symm, ?_, ?_⟩
      · rw [information_of_mem (mem_of_choose choice), information_of_mem (mem_of_choose choice'),
          question]
      · rw [load_of_mem concepts (mem_of_choose choice),
          load_of_mem concepts' (mem_of_choose choice'), own.timesAsked_eq]

theorem selectsBest_choose (concepts : (r.concepts.map Concept.id).Nodup)
    (questions : (r.questions.map Question.id).Nodup) (separated : r.Separated measure asked) :
    r.SelectsBest measure asked fun r => r.choose measure asked where
  none_iff := by
    rw [choose_eq_none_iff_openQuestions, List.eq_nil_iff_forall_not_mem]
    simp only [Rubric.mem_openQuestions_iff, not_and, not_not]
  best chosen choice :=
    ⟨isBest_of_choose concepts questions separated choice, information_of_mem (mem_of_choose choice)⟩
  unique chosen choice c q best :=
    (isBest_of_choose concepts questions separated choice).unique questions best
  rearranged r' same := choose_rearranged concepts questions separated same

end

/-- What any two questions tell that can be asked is equal, or differs by more than the tie width. -/
def SeparatedExactly (r : Rubric) (measure : Question → ℝ) (asked : List String) : Prop :=
  ∀ q ∈ r.openQuestions asked, ∀ q' ∈ r.openQuestions asked,
    measure q = measure q' ∨ 1 / 10 ^ 12 < |measure q - measure q'|

open scoped Exact

theorem SeparatedExactly.separated {r : Rubric} {measure : Question → ℝ} {asked : List String}
    (separated : r.SeparatedExactly measure asked) : r.Separated measure asked := by
  intro q member q' member' _
  have clears {x y : ℝ} (apart : 1 / 10 ^ 12 < x - y) : Clears x y := by
    unfold Clears
    rw [tieWidth_exact]
    change y + (1 / 10 ^ 12 : ℝ) < x ∧ y < x - (1 / 10 ^ 12 : ℝ)
    constructor <;> linarith
  rcases separated q member q' member' with same | apart
  · exact .inl ⟨same.le, same.ge⟩
  · rcases lt_abs.mp apart with more | more
    · exact .inr (.inl (clears more))
    · exact .inr (.inr (clears (by linarith)))

/-- Where what the questions tell that can be asked is equal or clearly apart, and no identifier
repeats, the selected question is the one that tells most, among those that tell as much the one whose
concept was asked least, and among those the one with the smallest identifier; in whatever order the
rubric has its concepts and their questions. It is so for any measure with exact comparisons, and for
the informations at an ability as they are computed and compared. -/
theorem best_question_selected (r : Rubric) (concepts : (r.concepts.map Concept.id).Nodup)
    (questions : (r.questions.map Question.id).Nodup) (asked : List String) :
    (∀ measure : Question → ℝ, r.SeparatedExactly measure asked →
      r.SelectsBest measure asked fun r => r.choose measure asked) ∧
    ∀ θ : Float,
      r.Separated (fun q => Ability.information q.discrimination q.difficulty θ) asked →
      r.SelectsBest (fun q => Ability.information q.discrimination q.difficulty θ) asked
        fun r => r.selectNext θ asked :=
  ⟨fun _ separated => selectsBest_choose concepts questions separated.separated,
    fun _ separated => selectsBest_choose concepts questions separated⟩

/-- Four questions tell the same. One about the first concept was asked, so one about the second comes
next, and not the first of them in the rubric. -/
theorem balanced_question_selected :
    let question (id : String) (discrimination : Float) : Question :=
      { id, text := "question " ++ id, discrimination, difficulty := 0.0 }
    let r : Rubric :=
      { id := "r", assignmentId := "a", name := "R", status := .active
        concepts := [
          { id := "c1", name := "C1", questions := [question "c1-a" 1.0, question "c1-b" 1.0] },
          { id := "c2", name := "C2"
            questions := [question "c2-c" 0.5, question "c2-b" 1.0, question "c2-a" 1.0] }] }
    let measure (q : Question) : ℝ := if q.id = "c2-c" then 1 / 16 else 1 / 4
    let asked := ["c1-a"]
    (r.concepts.map Concept.id).Nodup ∧ (r.questions.map Question.id).Nodup ∧
    r.SeparatedExactly measure asked ∧
    r.Separated (fun q => Ability.information q.discrimination q.difficulty 0.0) asked ∧
    (r.selectNext 0.0 asked).map (fun chosen => (chosen.concept.id, chosen.question.id)) =
      some ("c2", "c2-a") ∧
    (r.SelectsBest measure asked fun r => r.choose measure asked) ∧
    r.SelectsBest (fun q => Ability.information q.discrimination q.difficulty 0.0) asked
      fun r => r.selectNext 0.0 asked := by
  intro question r measure asked
  have concepts : (r.concepts.map Concept.id).Nodup := by decide
  have questions : (r.questions.map Question.id).Nodup := by decide
  have exactly : r.SeparatedExactly measure asked := by
    intro q _ q' _
    simp only [measure]
    split_ifs <;> norm_num
  have separated :
      r.Separated (fun q => Ability.information q.discrimination q.difficulty 0.0) asked := by
    decide +kernel
  obtain ⟨exact, computed⟩ := best_question_selected r concepts questions asked
  exact ⟨concepts, questions, exactly, separated, by decide +kernel, exact measure exactly,
    computed 0.0 separated⟩

end Rubric

end OralExam
