import OralExam.Proofs.Arithmetic.Number
import OralExam.Proofs.Session.Measures

/-! What a series of answers makes of the standings.

Answers to questions about several concepts are recorded one after the other. The standing on a concept
depends on the answers about it alone, and is what a look at all of them at once gives: their number,
how many of them were correct, the sum and the mean of their correctness, and the misconceptions in the
order in which they first showed.
-/

set_option autoImplicit false

namespace OralExam

open Scalar

section

variable {α : Type}

/-- What is recorded of an answer. -/
structure Mastery.Entry (α : Type) where
  sessionId : String
  conceptId : String
  question : Question
  correctness : α
  misconceptions : List String

namespace Mastery

def about (conceptId : String) (entries : List (Entry α)) : List (Entry α) :=
  entries.filter (·.conceptId = conceptId)

/-- The correctness of an answer as it counts. -/
def Entry.share [Scalar α] (e : Entry α) : α := unit e.correctness

/-- Takes the answers into account one after the other. -/
def recordAll [Scalar α] (policy : ScoringPolicy α) (m : Mastery α) (entries : List (Entry α)) :
    Mastery α :=
  entries.foldl
    (fun m e => m.record policy e.sessionId e.conceptId e.question e.correctness e.misconceptions) m

end Mastery

namespace Standing

open Mastery

variable [Scalar α]

/-- Takes the answers into account one after the other, all of which are about one concept. -/
def addAll (policy : ScoringPolicy α) (s : Standing α) (entries : List (Entry α)) : Standing α :=
  entries.foldl (fun s e => s.add policy e.question e.correctness e.misconceptions) s

/-- The standing on a concept after answers about it; there need not be one before. -/
def after (policy : ScoringPolicy α) (known : Option (Standing α)) :
    List (Entry α) → Option (Standing α)
  | [] => known
  | e :: rest => some ((known.getD (fresh e.sessionId e.conceptId)).addAll policy (e :: rest))

theorem after_some (policy : ScoringPolicy α) (s : Standing α) (entries : List (Entry α)) :
    after policy (some s) entries = some (s.addAll policy entries) := by
  cases entries <;> rfl

end Standing

/-! ## One concept among several -/

namespace Mastery

/-- Where answers about different concepts follow one another, their order does not matter to either
concept. -/
theorem about_swap {a b : Entry α} (apart : a.conceptId ≠ b.conceptId) (conceptId : String)
    (before rest : List (Entry α)) :
    about conceptId (before ++ a :: b :: rest) = about conceptId (before ++ b :: a :: rest) := by
  by_cases own : a.conceptId = conceptId
  · have other : b.conceptId ≠ conceptId := own ▸ apart.symm
    simp [about, own, other]
  · simp [about, List.filter_cons, own]

/-- The standing on a concept comes from the answers about it. -/
theorem find?_recordAll [Scalar α] (policy : ScoringPolicy α) (m : Mastery α)
    (entries : List (Entry α)) (conceptId : String) :
    (m.recordAll policy entries).find? conceptId =
      Standing.after policy (m.find? conceptId) (about conceptId entries) := by
  induction entries generalizing m with
  | nil => rfl
  | cons e rest ih =>
    change ((m.record _ _ _ _ _ _).recordAll policy rest).find? conceptId = _
    rw [ih, record, Keyed.find?_put]
    by_cases own : e.conceptId = conceptId
    · subst own
      rw [if_pos rfl, Standing.after_some]
      simp [about, Standing.after, Standing.addAll]
    · rw [if_neg (Ne.symm own)]
      simp [about, own]

end Mastery

/-! ## All answers at once -/

namespace Standing

open Mastery

theorem addNew_eq (known ids : List String) :
    addNew known ids = known ++ (ids.removeAll known).eraseDups := by
  induction ids generalizing known with
  | nil => simp [addNew, List.removeAll]
  | cons id ids ih =>
    change addNew (if known.contains id then known else known ++ [id]) ids = _
    rw [ih]
    by_cases old : id ∈ known
    · simp [List.removeAll, old]
    · have head : (id :: ids).removeAll known = id :: ids.removeAll known := by
        simp [List.removeAll, old]
      have later :
          (ids.removeAll known).filter (fun x => !x == id) = ids.removeAll (known ++ [id]) := by
        simp [List.removeAll, List.filter_filter, Bool.and_comm, beq_eq_decide]
      rw [List.contains_eq_mem, decide_eq_false old, if_neg Bool.false_ne_true, ← later, head,
        List.eraseDups_cons, List.append_assoc]
      rfl

theorem addNew_eraseDups (ids more : List String) :
    addNew ids.eraseDups more = (ids ++ more).eraseDups := by
  rw [addNew_eq, List.eraseDups_append]
  simp [List.removeAll]

variable [Scalar α] {policy : ScoringPolicy α} {entries : List (Entry α)} {s : Standing α}

/-- The standing is what the answers come to. -/
structure SumsUp (policy : ScoringPolicy α) (entries : List (Entry α)) (s : Standing α) : Prop where
  answered : s.questionsAnswered = entries.length
  correct : s.correctAnswers = entries.countP (policy.passThreshold ≤ ·.share)
  score : s.score = sum (entries.map Entry.share)
  mastery : entries ≠ [] → s.mastery = s.score / ofNat s.questionsAnswered
  misconceptions : s.misconceptions = (entries.flatMap Entry.misconceptions).eraseDups
  strengths : s.strengths.length ≤ policy.maxNotes
  weaknesses : s.weaknesses.length ≤ policy.maxNotes

theorem sumsUp_fresh (policy : ScoringPolicy α) (sessionId conceptId : String) :
    (fresh sessionId conceptId).SumsUp policy [] :=
  ⟨rfl, rfl, rfl, fun some => absurd rfl some, rfl, Nat.zero_le _, Nat.zero_le _⟩

theorem SumsUp.add (sumsUp : s.SumsUp policy entries) (e : Entry α) :
    (s.add policy e.question e.correctness e.misconceptions).SumsUp policy (entries ++ [e]) where
  answered := by
    rw [List.length_append]
    exact congrArg (· + 1) sumsUp.answered
  correct := by
    rw [List.countP_append, List.countP_singleton, ← sumsUp.correct]
    by_cases passed : policy.passThreshold ≤ unit e.correctness <;>
      simp [Standing.add, Entry.share, passed]
  score := by
    rw [List.map_append, sum, List.foldl_append, ← sum, ← sumsUp.score]
    rfl
  mastery _ := rfl
  misconceptions := by
    rw [List.flatMap_append, ← addNew_eraseDups, ← sumsUp.misconceptions, List.flatMap_singleton]
    rfl
  strengths := by
    have before := sumsUp.strengths
    simp only [Standing.add]
    split
    · rename_i room
      rw [List.length_append, List.length_singleton]
      exact room.2
    · exact before
  weaknesses := by
    have before := sumsUp.weaknesses
    simp only [Standing.add]
    split
    · rename_i room
      rw [List.length_append, List.length_singleton]
      exact room.2.2
    · exact before

theorem SumsUp.addAll (sumsUp : s.SumsUp policy entries) (more : List (Entry α)) :
    (s.addAll policy more).SumsUp policy (entries ++ more) := by
  induction more generalizing s entries with
  | nil => rwa [List.append_nil]
  | cons e more ih =>
    rw [List.append_cons]
    exact ih (sumsUp.add e)

end Standing

end

/-! ## The standings -/

open Double

theorem Standing.Scaled.addAll {policy : ScoringPolicy Float} {s : Standing Float}
    (scaled : s.Scaled) {entries : List (Mastery.Entry Float)}
    (numbers : ∀ e ∈ entries, IsNumber e.correctness) :
    (s.addAll policy entries).Scaled := by
  refine List.foldlRecOn entries _ scaled ?_
  intro s scaled e member
  exact scaled.add policy e.question (numbers e member) e.misconceptions

namespace Mastery

/-- Whatever answers are recorded, the standing on a concept depends on those about it only, so that two
answers on different concepts may come in either order. If the concept is new, there is a standing once
there is an answer about it, and it is what these answers come to; where they were scored with
numbers, the mastery lies between zero and one. -/
theorem standings_sum_up (policy : ScoringPolicy Float) (m : Mastery Float)
    (entries : List (Entry Float)) (conceptId : String) :
    (∀ entries', about conceptId entries' = about conceptId entries →
        (m.recordAll policy entries').find? conceptId =
          (m.recordAll policy entries).find? conceptId) ∧
      (∀ before a b rest, entries = before ++ a :: b :: rest → a.conceptId ≠ b.conceptId →
        (m.recordAll policy (before ++ b :: a :: rest)).find? conceptId =
          (m.recordAll policy entries).find? conceptId) ∧
      (m.find? conceptId = none →
        (about conceptId entries = [] → (m.recordAll policy entries).find? conceptId = none) ∧
        (about conceptId entries ≠ [] →
          ∃ s, (m.recordAll policy entries).find? conceptId = some s ∧
            s.SumsUp policy (about conceptId entries) ∧
            ((∀ e ∈ about conceptId entries, IsNumber e.correctness) →
              Session.IsPart s.mastery))) := by
  refine ⟨fun entries' own => ?_, ?_, fun new => ⟨fun none => ?_, fun some => ?_⟩⟩
  · rw [find?_recordAll, find?_recordAll, own]
  · rintro before a b rest rfl apart
    rw [find?_recordAll, find?_recordAll, about_swap apart]
  · rw [find?_recordAll, new, none]
    rfl
  · rw [find?_recordAll, new]
    obtain ⟨first, rest, same⟩ := List.exists_cons_of_ne_nil some
    rw [same]
    have start := Standing.sumsUp_fresh policy first.sessionId first.conceptId
    refine ⟨_, rfl, start.addAll (first :: rest), fun numbers => ?_⟩
    exact Session.isPart_of_between
      ((Standing.scaled_fresh first.sessionId first.conceptId).addAll numbers).mastery

/-- Answers about two concepts in turn, one of them worth more than one can be. -/
theorem two_concepts_sum_up :
    let q : Question := { id := "q", text := "Who frees it?", discrimination := 1, difficulty := 0 }
    let entries : List (Entry Float) :=
      [⟨"s", "ownership", q, 1.5, ["moved", "copied"]⟩, ⟨"s", "borrowing", q, 0.25, []⟩,
        ⟨"s", "ownership", q, 0, ["copied", "leaked"]⟩]
    (∃ s, (recordAll .standard ⟨[]⟩ entries).find? "ownership" = some s ∧
      s.questionsAnswered = 2 ∧ s.correctAnswers = 1 ∧ s.score = 1 ∧ s.mastery = 0.5 ∧
      s.misconceptions = ["moved", "copied", "leaked"] ∧ Session.IsPart s.mastery) ∧
    (recordAll .standard ⟨[]⟩ entries).find? "errors" = none := by
  intro q entries
  obtain ⟨-, -, told⟩ := standings_sum_up .standard ⟨[]⟩ entries "ownership"
  obtain ⟨s, found, sumsUp, part⟩ := (told rfl).2 (by decide +kernel)
  have score : s.score = 1 := sumsUp.score.trans (by decide +kernel)
  have answered : s.questionsAnswered = 2 := sumsUp.answered.trans (by decide +kernel)
  have mastery : s.mastery = 0.5 := by
    rw [sumsUp.mastery (by decide +kernel), score, answered]
    decide +kernel
  have numbers : ∀ e ∈ about "ownership" entries, e.correctness.isNaN = false := by decide +kernel
  exact ⟨⟨s, found, answered, sumsUp.correct.trans (by decide +kernel), score, mastery,
    sumsUp.misconceptions.trans (by decide +kernel),
    part fun e member => isNumber_iff.mpr (numbers e member)⟩,
    ((standings_sum_up .standard ⟨[]⟩ entries "errors").2.2 rfl).1 (by decide +kernel)⟩

end Mastery

end OralExam
