import OralExam.Proofs.Arithmetic.Distance
import OralExam.Proofs.Mastery

/-! Which answers leave a note.

There is room for so many notes of each sort. An answer that is strong, but finds no room among the
strengths, is looked at as if it were not strong. That does no harm where no strong answer is weak,
as is so if the threshold of strength lies above that of weakness.
-/

set_option autoImplicit false

namespace OralExam

open Double Scalar

section

variable {α : Type} [Scalar α] {policy : ScoringPolicy α}

namespace Mastery

/-- The answer reaches the threshold of strength. -/
def Entry.Strong (policy : ScoringPolicy α) (e : Entry α) : Prop := policy.strengthThreshold ≤ e.share

/-- The answer does not exceed the threshold of weakness. -/
def Entry.Weak (policy : ScoringPolicy α) (e : Entry α) : Prop := e.share ≤ policy.weaknessThreshold

instance : DecidablePred (Entry.Strong policy) := fun e =>
  inferInstanceAs (Decidable (_ ≤ e.share))

instance : DecidablePred (Entry.Weak policy) := fun e =>
  inferInstanceAs (Decidable (e.share ≤ _))

def Entry.praise (e : Entry α) : String := "Strong answer: " ++ Standing.quoted e.question

def Entry.critique (e : Entry α) : String := "Struggled with: " ++ Standing.quoted e.question

/-- The answers without the first so many strong ones. -/
def beyond (policy : ScoringPolicy α) : Nat → List (Entry α) → List (Entry α)
  | 0, entries => entries
  | _ + 1, [] => []
  | n + 1, e :: rest =>
    if e.Strong policy then beyond policy n rest else e :: beyond policy (n + 1) rest

theorem beyond_nil (n : Nat) : beyond policy n [] = [] := by cases n <;> rfl

/-- Which of them are weak, if no strong answer that is left is. -/
theorem filter_beyond {n : Nat} {entries : List (Entry α)}
    (apart : ∀ e ∈ (entries.filter (Entry.Strong policy ·)).drop n, ¬e.Weak policy) :
    (beyond policy n entries).filter (Entry.Weak policy ·) =
      entries.filter (fun e => ¬e.Strong policy ∧ e.Weak policy) := by
  induction n, entries using beyond.induct policy with
  | case1 entries =>
    rw [beyond]
    refine List.filter_congr fun e member => ?_
    rw [decide_eq_decide, iff_and_self]
    intro weak strong
    exact apart e (List.mem_filter.mpr ⟨member, decide_eq_true strong⟩) weak
  | case2 => rfl
  | case3 n e rest strong ih =>
    rw [beyond, if_pos strong, ih (by simpa [strong] using apart)]
    simp [strong]
  | case4 n e rest plain ih =>
    rw [beyond, if_neg plain, List.filter_cons, List.filter_cons,
      ih (by simpa [plain] using apart)]
    simp [plain]

end Mastery

namespace Standing

open Mastery

variable {limit : Nat}

/-- A further note, if there is room. -/
def noted (limit : Nat) (notes : List String) (note : String) : List String :=
  if notes.length < limit then notes ++ [note] else notes

theorem noted_of_room {notes : List String} (room : notes.length < limit) (note : String) :
    noted limit notes note = notes ++ [note] := if_pos room

theorem noted_of_full {notes : List String} (full : ¬notes.length < limit) (note : String) :
    noted limit notes note = notes := if_neg full

theorem foldl_noted (more notes : List String) :
    more.foldl (noted limit) notes = notes ++ more.take (limit - notes.length) := by
  induction more generalizing notes with
  | nil => simp
  | cons note more ih =>
    rw [List.foldl_cons, ih]
    by_cases room : notes.length < limit
    · have left : limit - notes.length = limit - (notes ++ [note]).length + 1 := by
        rw [List.length_append, List.length_singleton]
        omega
      rw [noted_of_room room, left, List.take_succ_cons, List.append_assoc, List.singleton_append]
    · rw [noted_of_full room, Nat.sub_eq_zero_of_le (not_lt.mp room), List.take_zero,
        List.take_zero]

theorem strengths_add (s : Standing α) (e : Entry α) :
    (s.add policy e.question e.correctness e.misconceptions).strengths =
      if e.Strong policy then noted policy.maxNotes s.strengths e.praise else s.strengths := by
  simp only [add, noted, ite_and]
  rfl

theorem weaknesses_add (s : Standing α) (e : Entry α) :
    (s.add policy e.question e.correctness e.misconceptions).weaknesses =
      if e.Strong policy ∧ s.strengths.length < policy.maxNotes then s.weaknesses
      else if e.Weak policy then noted policy.maxNotes s.weaknesses e.critique
      else s.weaknesses := by
  simp only [add, noted, ite_and, ite_not]
  rfl

theorem strengths_addAll (s : Standing α) (entries : List (Entry α)) :
    (s.addAll policy entries).strengths =
      ((entries.filter (Entry.Strong policy ·)).map Entry.praise).foldl (noted policy.maxNotes)
        s.strengths := by
  induction entries generalizing s with
  | nil => rfl
  | cons e rest ih =>
    change ((s.add _ _ _ _).addAll policy rest).strengths = _
    rw [ih, strengths_add]
    by_cases strong : e.Strong policy <;> simp [strong]

theorem weaknesses_addAll (s : Standing α) (entries : List (Entry α)) :
    (s.addAll policy entries).weaknesses =
      (((beyond policy (policy.maxNotes - s.strengths.length) entries).filter
        (Entry.Weak policy ·)).map Entry.critique).foldl (noted policy.maxNotes) s.weaknesses := by
  induction entries generalizing s with
  | nil => simp [addAll, beyond_nil]
  | cons e rest ih =>
    change ((s.add _ _ _ _).addAll policy rest).weaknesses = _
    rw [ih, strengths_add, weaknesses_add]
    -- A strong answer takes one of the places that are left; with none left, all are tested for weakness.
    by_cases room : s.strengths.length < policy.maxNotes
    · obtain ⟨left, same⟩ : ∃ left, policy.maxNotes - s.strengths.length = left + 1 :=
        Nat.exists_eq_add_one.mpr (Nat.sub_pos_of_lt room)
      by_cases strong : e.Strong policy
      · have less : policy.maxNotes - (s.strengths ++ [e.praise]).length = left := by
          rw [List.length_append, List.length_singleton]
          omega
        rw [if_pos ⟨strong, room⟩, if_pos strong, noted_of_room room, less, same, beyond,
          if_pos strong]
      · rw [if_neg (not_and_of_not_left _ strong), if_neg strong, same, beyond, if_neg strong]
        by_cases weak : e.Weak policy <;> simp [weak]
    · have none : policy.maxNotes - s.strengths.length = 0 :=
        Nat.sub_eq_zero_of_le (not_lt.mp room)
      rw [if_neg (not_and_of_not_right _ room), noted_of_full room, ite_self, none, beyond, beyond]
      by_cases weak : e.Weak policy <;> simp [weak]

end Standing

end

/-! ## The notes on a concept -/

namespace Mastery

/-- Where the thresholds do not overlap, no strong answer is weak. -/
theorem Entry.Strong.not_weak {policy : ScoringPolicy Float} {e : Entry Float}
    (strong : e.Strong policy) (apart : ¬policy.strengthThreshold ≤ policy.weaknessThreshold) :
    ¬e.Weak policy :=
  fun weak => apart (le_of_le_of_le strong weak)

/-- The notes on a new concept once there is an answer about it. The first strong answers, as many as
there is room for, are praised. Weak ones among all others are criticized, again as many as there is
room for; where the thresholds keep the two sorts apart, or no strong answer past the room for praise
is weak, no strong one is among them. -/
theorem notes_taken (policy : ScoringPolicy Float) (m : Mastery Float) (entries : List (Entry Float))
    (conceptId : String) (new : m.find? conceptId = none)
    (answered : about conceptId entries ≠ []) :
    ∃ s, (m.recordAll policy entries).find? conceptId = some s ∧
      s.strengths = (((about conceptId entries).filter (Entry.Strong policy ·)).take
        policy.maxNotes).map Entry.praise ∧
      s.weaknesses = (((beyond policy policy.maxNotes (about conceptId entries)).filter
        (Entry.Weak policy ·)).take policy.maxNotes).map Entry.critique ∧
      ((¬policy.strengthThreshold ≤ policy.weaknessThreshold ∨
          ∀ e ∈ ((about conceptId entries).filter (Entry.Strong policy ·)).drop policy.maxNotes,
            ¬e.Weak policy) →
        s.weaknesses = (((about conceptId entries).filter
          (fun e => ¬e.Strong policy ∧ e.Weak policy)).take policy.maxNotes).map
            Entry.critique) := by
  obtain ⟨first, rest, same⟩ := List.exists_cons_of_ne_nil answered
  rw [find?_recordAll, new, same]
  refine ⟨_, rfl, ?_, ?_, fun apart => ?_⟩
  · rw [Standing.strengths_addAll, Standing.foldl_noted, ← List.map_take]
    rfl
  · rw [Standing.weaknesses_addAll, Standing.foldl_noted, ← List.map_take]
    rfl
  · have none_weak : ∀ e ∈ ((first :: rest).filter (Entry.Strong policy ·)).drop policy.maxNotes,
        ¬e.Weak policy := by
      rcases apart with ordered | none_weak
      · intro e member
        have strong := (List.mem_filter.mp (List.mem_of_mem_drop member)).2
        exact Entry.Strong.not_weak (of_decide_eq_true strong) ordered
      · exact none_weak
    rw [Standing.weaknesses_addAll, Standing.foldl_noted, ← List.map_take, ← filter_beyond none_weak]
    rfl

/-- An answer of this correctness to a question about ownership. -/
def onOwnership (text : String) (correctness : Float) : Entry Float :=
  ⟨"s", "ownership", { id := text, text, discrimination := 1, difficulty := 0 }, correctness, []⟩

/-- Two strong answers and two weak ones, with room for a note of each sort. -/
theorem first_notes_taken :
    let policy : ScoringPolicy Float := { ScoringPolicy.standard with maxNotes := 1 }
    let entries := [onOwnership "a" 1, onOwnership "b" 0.9, onOwnership "c" 0.1,
      onOwnership "d" 0.2]
    about "ownership" entries ≠ [] ∧ ¬policy.strengthThreshold ≤ policy.weaknessThreshold ∧
      ∃ s, (recordAll policy ⟨[]⟩ entries).find? "ownership" = some s ∧
        s.strengths = ["Strong answer: a"] ∧ s.weaknesses = ["Struggled with: c"] := by
  intro policy entries
  have some : about "ownership" entries ≠ [] := by decide +kernel
  have ordered : ¬policy.strengthThreshold ≤ policy.weaknessThreshold := by decide +kernel
  obtain ⟨s, found, strengths, -, weaknesses⟩ := notes_taken policy ⟨[]⟩ entries "ownership" rfl some
  exact ⟨some, ordered, s, found, strengths.trans (by decide +kernel),
    (weaknesses (.inl ordered)).trans (by decide +kernel)⟩

/-- If answers may be strong and weak at once, a strong one past the room for praise is criticized. -/
theorem strong_answer_criticized :
    let policy : ScoringPolicy Float :=
      { ScoringPolicy.standard with strengthThreshold := 0.5, weaknessThreshold := 0.8, maxNotes := 1 }
    let entries := [onOwnership "a" 0.6, onOwnership "b" 0.6]
    (∀ e ∈ entries, e.Strong policy) ∧
      ((recordAll policy ⟨[]⟩ entries).find? "ownership").map (fun s => (s.strengths, s.weaknesses)) =
        some (["Strong answer: a"], ["Struggled with: b"]) := by
  intro policy entries
  exact ⟨by decide +kernel, by decide +kernel⟩

end Mastery

end OralExam
