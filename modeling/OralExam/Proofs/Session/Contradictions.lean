import OralExam.Proofs.Arithmetic.Distance
import OralExam.Rubric.Starter
import OralExam.Session.Flag

/-! Which concepts are reported as contradicted.

The answers are taken one by one, each compared with all before it. What is found so far are the concepts
with two answers that lie too far apart, each once, in the order in which this showed. Which concepts
these are does not depend on the order of the answers, and can be told from the greatest and the least
correctness on a concept alone.
-/

set_option autoImplicit false

namespace OralExam.Flag

open Double

variable {delta : Float} {before answers : List Answer} {found : List String} {a : Answer}
  {concept : String}

/-! ## Contradictions -/

/-- Two answers on the concept lie further apart than the limit. -/
def Contradicted (delta : Float) (answers : List Answer) (concept : String) : Prop :=
  ∃ a ∈ answers, ∃ b ∈ answers, a.conceptId = concept ∧ b.conceptId = concept ∧
    delta < Scalar.distance a.correctness b.correctness

instance (delta : Float) (answers : List Answer) (concept : String) :
    Decidable (Contradicted delta answers concept) :=
  inferInstanceAs (Decidable (∃ a ∈ answers, ∃ b ∈ answers, _))

theorem Contradicted.mono {more : List Answer} (contradicted : Contradicted delta before concept)
    (part : before ⊆ more) : Contradicted delta more concept := by
  obtain ⟨a, member, b, member', apart⟩ := contradicted
  exact ⟨a, part member, b, part member', apart⟩

/-- The answer lies too far from one before it on the same concept. -/
def Departs (delta : Float) (before : List Answer) (a : Answer) : Prop :=
  ∃ b ∈ before, b.conceptId = a.conceptId ∧
    delta < Scalar.distance a.correctness b.correctness

/-- One more answer contradicts those before it, or adds nothing. -/
theorem contradicted_append_iff (nonneg : 0 ≤ delta) :
    Contradicted delta (before ++ [a]) concept ↔
      Contradicted delta before concept ∨ concept = a.conceptId ∧ Departs delta before a := by
  constructor
  · rintro ⟨b, member, c, member', rfl, same, apart⟩
    rcases List.mem_append.mp member with old | new
    · rcases List.mem_append.mp member' with old' | new'
      · exact .inl ⟨b, old, c, old', rfl, same, apart⟩
      · cases List.mem_singleton.mp new'
        exact .inr ⟨same.symm, b, old, same.symm, lt_distance_swap apart⟩
    · cases List.mem_singleton.mp new
      rcases List.mem_append.mp member' with old' | new'
      · exact .inr ⟨rfl, c, old', same, apart⟩
      · cases List.mem_singleton.mp new'
        exact absurd apart (not_lt_distance_self nonneg)
  · rintro (contradicted | ⟨rfl, b, member, same, apart⟩)
    · exact contradicted.mono (List.subset_append_left _ _)
    · exact ⟨a, by simp, b, by simp [member], rfl, same, apart⟩

/-! ## The report -/

/-- The contradicted concepts, each once. One stands before another if at some point there was a
contradiction on it and none on the other yet. -/
structure ListsContradicted (delta : Float) (answers : List Answer) (found : List String) : Prop where
  mem_iff : ∀ concept, concept ∈ found ↔ Contradicted delta answers concept
  nodup : found.Nodup
  inOrder : found.Pairwise fun first second => ∃ earlier, earlier <+: answers ∧
    Contradicted delta earlier first ∧ ¬Contradicted delta earlier second

theorem ListsContradicted.empty : ListsContradicted delta [] [] :=
  ⟨by simp [Contradicted], .nil, .nil⟩

theorem ListsContradicted.unchanged (nonneg : 0 ≤ delta)
    (lists : ListsContradicted delta before found)
    (known : Departs delta before a → a.conceptId ∈ found) :
    ListsContradicted delta (before ++ [a]) found := by
  refine ⟨fun concept => ?_, lists.nodup, lists.inOrder.imp ?_⟩
  · rw [contradicted_append_iff nonneg, lists.mem_iff]
    refine (or_iff_left_of_imp ?_).symm
    rintro ⟨rfl, departs⟩
    exact (lists.mem_iff _).mp (known departs)
  · rintro first second ⟨earlier, before, shown⟩
    exact ⟨earlier, before.trans (List.prefix_append _ _), shown⟩

theorem ListsContradicted.append (nonneg : 0 ≤ delta)
    (lists : ListsContradicted delta before found) (departs : Departs delta before a)
    (fresh : a.conceptId ∉ found) :
    ListsContradicted delta (before ++ [a]) (found ++ [a.conceptId]) := by
  refine ⟨fun concept => ?_, ?_, List.pairwise_append.mpr ⟨lists.inOrder.imp ?_, ?_, ?_⟩⟩
  · rw [contradicted_append_iff nonneg, ← lists.mem_iff, List.mem_append, List.mem_singleton,
      and_iff_left departs]
  · rw [← List.concat_eq_append]
    exact lists.nodup.concat fresh
  · rintro first second ⟨earlier, before, shown⟩
    exact ⟨earlier, before.trans (List.prefix_append _ _), shown⟩
  · exact List.pairwise_singleton _ _
  · intro first known second new
    cases List.mem_singleton.mp new
    -- The answers before this one tell the two apart.
    exact ⟨before, List.prefix_append _ _, (lists.mem_iff first).mp known,
      fun shown => fresh ((lists.mem_iff _).mpr shown)⟩

theorem listsContradicted_contradicted (nonneg : 0 ≤ delta)
    (lists : ListsContradicted delta before found) (rest : List Answer) :
    ListsContradicted delta (before ++ rest) (contradicted delta before found rest) := by
  induction rest generalizing before found with
  | nil => simpa [contradicted] using lists
  | cons a rest ih =>
    have new_iff : ((before.any fun b => b.conceptId = a.conceptId &&
        delta < Scalar.distance a.correctness b.correctness) && !found.contains a.conceptId) ↔
          Departs delta before a ∧ a.conceptId ∉ found := by
      simp [Departs]
    rw [contradicted, List.append_cons]
    apply ih
    split
    · rename_i new
      obtain ⟨departs, fresh⟩ := new_iff.mp new
      exact lists.append nonneg departs fresh
    · rename_i old
      rw [new_iff, not_and, Decidable.not_not] at old
      exact lists.unchanged nonneg old

/-- The concept that a flag reports as contradicted. -/
def contradiction? : Flag → Option String
  | contradiction concept => some concept
  | lowConfidence | highSeverityMisconceptions _ | timingOutlier _ => none

theorem filterMap_contradiction?_ofSession (policy : FlagPolicy) (s : Session) :
    (ofSession policy s).filterMap contradiction? =
      contradicted policy.contradictionDelta [] [] s.answers := by
  have low : (if policy.lowConfidenceError < s.standardError then [lowConfidence]
      else []).filterMap contradiction? = [] := by
    split <;> rfl
  have high : (if max policy.highSeverityLimit 1 ≤ highSeverityCount s then
      [highSeverityMisconceptions (highSeverityCount s)] else []).filterMap contradiction? = [] := by
    split <;> rfl
  simp only [ofSession, List.filterMap_append, low, high, List.nil_append, List.filterMap_map]
  rw [show contradiction? ∘ contradiction = some from rfl, List.filterMap_some]
  simp [Function.comp_def, contradiction?]

theorem listsContradicted_ofSession (policy : FlagPolicy) (nonneg : 0 ≤ policy.contradictionDelta)
    (s : Session) : ListsContradicted policy.contradictionDelta s.answers
      ((ofSession policy s).filterMap contradiction?) := by
  rw [filterMap_contradiction?_ofSession]
  exact listsContradicted_contradicted nonneg .empty s.answers

theorem contradiction_mem_iff {policy : FlagPolicy} (nonneg : 0 ≤ policy.contradictionDelta)
    {s : Session} : contradiction concept ∈ ofSession policy s ↔
      Contradicted policy.contradictionDelta s.answers concept := by
  rw [← (listsContradicted_ofSession policy nonneg s).mem_iff, List.mem_filterMap]
  constructor
  · exact fun member => ⟨_, member, rfl⟩
  · rintro ⟨flag, member, same⟩
    cases flag with
    | contradiction other =>
      cases same
      exact member
    | lowConfidence | highSeverityMisconceptions | timingOutlier => cases same

/-! ## The range of correctness -/

/-- The correctness of each answer on the concept. -/
def correctnesses (answers : List Answer) (concept : String) : List Float :=
  (answers.filter (·.conceptId = concept)).map (·.correctness)

theorem mem_correctnesses {x : Float} : x ∈ correctnesses answers concept ↔
    ∃ a ∈ answers, a.conceptId = concept ∧ a.correctness = x := by
  simp [correctnesses, and_assoc]

theorem contradicted_iff_correctnesses : Contradicted delta answers concept ↔
    ∃ x ∈ correctnesses answers concept, ∃ y ∈ correctnesses answers concept,
      delta < Scalar.distance x y := by
  constructor
  · rintro ⟨a, member, b, member', same, same', apart⟩
    exact ⟨_, mem_correctnesses.mpr ⟨a, member, same, rfl⟩, _,
      mem_correctnesses.mpr ⟨b, member', same', rfl⟩, apart⟩
  · rintro ⟨x, given, y, given', apart⟩
    obtain ⟨a, member, same, rfl⟩ := mem_correctnesses.mp given
    obtain ⟨b, member', same', rfl⟩ := mem_correctnesses.mp given'
    exact ⟨a, member, b, member', same, same', apart⟩

/-- The greatest correctness on the concept, less the least one, is more than the limit. -/
def Ranges (delta : Float) (answers : List Answer) (concept : String) : Prop :=
  ∃ high ∈ (correctnesses answers concept).max?, ∃ low ∈ (correctnesses answers concept).min?,
    delta < high - low

theorem contradicted_iff_ranges (finite : ∀ x ∈ correctnesses answers concept, x.isFinite) :
    Contradicted delta answers concept ↔ Ranges delta answers concept := by
  rw [contradicted_iff_correctnesses, Ranges]
  constructor
  · rintro ⟨x, member, apart⟩
    obtain ⟨high, greatest⟩ := List.isSome_max?_of_mem member |> Option.isSome_iff_exists.mp
    obtain ⟨low, least⟩ := List.isSome_min?_of_mem member |> Option.isSome_iff_exists.mp
    exact ⟨high, greatest, low, least, (lt_range_iff finite greatest least).mpr ⟨x, member, apart⟩⟩
  · rintro ⟨high, greatest, low, least, less⟩
    exact (lt_range_iff finite greatest least).mp less

/-- The concepts reported as contradicted are those with two answers whose correctness, as doubles are
subtracted, differs by more than the limit; each is reported once, in the order in which the
contradictions came up. Where the correctness is finite, they are those on which it ranges over more than
the limit; and in whatever order the same answers are given, the same concepts are reported. -/
theorem contradictions_reported (policy : FlagPolicy) (nonneg : 0 ≤ policy.contradictionDelta)
    (s : Session) :
    ListsContradicted policy.contradictionDelta s.answers
        ((ofSession policy s).filterMap contradiction?) ∧
      (∀ concept, (∀ x ∈ correctnesses s.answers concept, x.isFinite) →
        (contradiction concept ∈ ofSession policy s ↔
          Ranges policy.contradictionDelta s.answers concept)) ∧
      ∀ answers, s.answers.Perm answers → ∀ concept,
        (contradiction concept ∈ ofSession policy { s with answers } ↔
          contradiction concept ∈ ofSession policy s) := by
  refine ⟨listsContradicted_ofSession policy nonneg s, fun concept finite => ?_, ?_⟩
  · rw [contradiction_mem_iff nonneg, contradicted_iff_ranges finite]
  · intro answers perm concept
    rw [contradiction_mem_iff nonneg, contradiction_mem_iff nonneg]
    exact ⟨fun contradicted => contradicted.mono perm.symm.subset,
      fun contradicted => contradicted.mono perm.subset⟩

/-- A session on the rubric with answers of this correctness on these concepts. -/
def answering (rubric : Rubric) (marks : List (String × Float)) : Session :=
  { id := "s", assignmentId := rubric.assignmentId, studentId := "u", attempt := 1
    status := .inProgress, rubric, assignment := { id := rubric.assignmentId }, startedAt := ⟨0⟩
    lastActivityAt := ⟨0⟩, theta := 0, standardError := 0.5
    answers := marks.map fun (conceptId, correctness) =>
      { turnNumber := 2, questionId := "q", conceptId, discrimination := 1, difficulty := 0
        correctness, misconceptions := [], latencySeconds := 60, expectedSeconds := 60 } }

/-- Answers on one concept swing far before those on another do, which was asked about first. -/
theorem swinging_answers_reported :
    let policy : FlagPolicy := {}
    let s := answering .starter [("borrowing", 0.95), ("ownership", 0.1), ("errors", 0.5),
      ("ownership", 0.75), ("borrowing", 0.1), ("ownership", 1)]
    0 ≤ policy.contradictionDelta ∧
      Contradicted policy.contradictionDelta (s.answers.take 4) "ownership" ∧
      ¬Contradicted policy.contradictionDelta (s.answers.take 4) "borrowing" ∧
      ListsContradicted policy.contradictionDelta s.answers ["ownership", "borrowing"] ∧
      Ranges policy.contradictionDelta s.answers "borrowing" ∧
      contradiction "ownership" ∈ ofSession policy { s with answers := s.answers.reverse } ∧
      contradiction "errors" ∉ ofSession policy { s with answers := s.answers.reverse } := by
  intro policy s
  have nonneg : 0 ≤ policy.contradictionDelta := by decide +kernel
  have found : (ofSession policy s).filterMap contradiction? = ["ownership", "borrowing"] := by
    decide +kernel
  obtain ⟨lists, ranges, reordered⟩ := contradictions_reported policy nonneg s
  have turned := reordered s.answers.reverse s.answers.reverse_perm.symm
  rw [found] at lists
  exact ⟨nonneg, by decide +kernel, by decide +kernel, lists,
    (ranges "borrowing" (by decide +kernel)).mp (by decide +kernel),
    (turned "ownership").mpr (by decide +kernel),
    fun reported => absurd ((turned "errors").mp reported) (by decide +kernel)⟩

end OralExam.Flag
