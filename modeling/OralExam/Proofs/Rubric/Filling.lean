import Mathlib.Data.List.Induction
import OralExam.Proofs.Rubric.Publishing

/-! Banks filled from a list of rubrics: which of them stand in the bank, and which assignments they
serve.

A rubric is taken if it passes the check and does not come second for its assignment, and it stands as
long as none that is taken later has its identifier. The first rubric that serves an assignment keeps
all others of the assignment out. So the assignment is served exactly if that one stands: a later rubric
that takes its place, for another assignment or no longer active, leaves the assignment with none.
-/

set_option autoImplicit false

namespace OralExam

/-- It passes the check and is active for the assignment. -/
def Rubric.Serves (r : Rubric) (assignmentId : String) : Prop :=
  r.Checked ∧ r.isActiveFor assignmentId

namespace RubricBank

def filled (rubrics : List Rubric) : Filling := rubrics.foldl Filling.take {}

/-- After these rubrics the rubric is taken: none of them serves its assignment, if it is active. -/
def Admits (earlier : List Rubric) (r : Rubric) : Prop :=
  r.Checked ∧ (r.status = .active → ∀ other ∈ earlier, ¬other.Serves r.assignmentId)

/-- The rubric is taken between those before and after it, and none that is taken after it has its
identifier. -/
def Stands (before : List Rubric) (r : Rubric) (after : List Rubric) : Prop :=
  Admits before r ∧ ∀ middle later rest, after = middle ++ later :: rest → later.id = r.id →
    ¬Admits (before ++ r :: middle) later

variable {rubrics before after : List Rubric} {r r' : Rubric} {id assignmentId : String}

/-! ## One more rubric -/

theorem filled_append (rubrics : List Rubric) (r : Rubric) :
    filled (rubrics ++ [r]) = (filled rubrics).take r := by
  simp [filled]

/-- The assignments served are those of all rubrics that could have served them. -/
theorem mem_served_iff (rubrics : List Rubric) (assignmentId : String) :
    assignmentId ∈ (filled rubrics).served ↔ ∃ r ∈ rubrics, r.Serves assignmentId := by
  induction rubrics using List.reverseRecOn with
  | nil => simp [filled]
  | append_singleton rubrics r ih =>
    have either : (∃ r' ∈ rubrics ++ [r], r'.Serves assignmentId) ↔
        assignmentId ∈ (filled rubrics).served ∨ r.Serves assignmentId := by
      rw [ih]
      simp [or_and_right, exists_or]
    rw [either, filled_append, Rubric.Serves, ← Rubric.isValid_iff, Rubric.isActiveFor_iff]
    unfold Filling.take
    split
    · rename_i refused
      simp [(by simpa using refused : r.isValid = false)]
    · rename_i valid
      split
      · rename_i inactive
        simp [inactive]
      · rename_i active
        split
        · rename_i known
          rw [List.contains_iff_mem] at known
          grind
        · grind

theorem bank_take_of_admits (admitted : Admits rubrics r) :
    ((filled rubrics).take r).bank = (filled rubrics).bank.put r.id r := by
  obtain ⟨checked, alone⟩ := admitted
  have valid : r.isValid := (Rubric.isValid_iff r).mpr checked
  unfold Filling.take
  rw [if_neg (by simp [valid])]
  split
  · rfl
  · rename_i active
    have fresh : r.assignmentId ∉ (filled rubrics).served := by
      rw [mem_served_iff]
      rintro ⟨other, member, serves⟩
      exact alone (not_not.mp active) other member serves
    rw [if_neg (by simpa using fresh)]

theorem bank_take_of_not_admits (kept : ¬Admits rubrics r) :
    ((filled rubrics).take r).bank = (filled rubrics).bank := by
  unfold Filling.take
  split
  · rfl
  · rename_i valid
    have checked : r.Checked := (Rubric.isValid_iff r).mp (by simpa using valid)
    rw [Admits, not_and, Classical.not_imp] at kept
    obtain ⟨active, served⟩ := kept checked
    push Not at served
    rw [if_neg (by simp [active]), if_pos]
    rw [List.contains_iff_mem, mem_served_iff]
    exact served

/-! ## What is found -/

/-- The rubric stands somewhere among the rubrics, under its identifier. -/
def IsEntry (rubrics : List Rubric) (id : String) (r : Rubric) : Prop :=
  ∃ before after, rubrics = before ++ r :: after ∧ r.id = id ∧ Stands before r after

theorem stands_append_iff {x : Rubric} :
    Stands before r (after ++ [x]) ↔
      Stands before r after ∧ (x.id = r.id → ¬Admits (before ++ r :: after) x) := by
  constructor
  · rintro ⟨admitted, last⟩
    refine ⟨⟨admitted, fun middle later rest split => ?_⟩, last after x [] rfl⟩
    exact last middle later (rest ++ [x]) (by rw [split, List.append_assoc, List.cons_append])
  · rintro ⟨⟨admitted, last⟩, kept⟩
    refine ⟨admitted, fun middle later rest split => ?_⟩
    rcases List.eq_nil_or_concat rest with rfl | ⟨rest, y, rfl⟩
    · obtain ⟨rfl, same⟩ := List.append_inj' split rfl
      cases same
      exact kept
    · rw [List.concat_eq_append, ← List.cons_append, ← List.append_assoc] at split
      exact last middle later rest (List.append_inj' split rfl).1

theorem isEntry_append_iff {x : Rubric} :
    IsEntry (rubrics ++ [x]) id r ↔
      (r = x ∧ x.id = id ∧ Admits rubrics x) ∨
        (IsEntry rubrics id r ∧ (x.id = id → ¬Admits rubrics x)) := by
  constructor
  · rintro ⟨before, after, split, rfl, stands⟩
    rcases List.eq_nil_or_concat after with rfl | ⟨after, y, rfl⟩
    · obtain ⟨rfl, same⟩ := List.append_inj' split rfl
      cases same
      exact .inl ⟨rfl, rfl, stands.1⟩
    · rw [List.concat_eq_append, ← List.cons_append, ← List.append_assoc] at split
      obtain ⟨rfl, same⟩ := List.append_inj' split rfl
      cases same
      rw [List.concat_eq_append, stands_append_iff] at stands
      exact .inr ⟨⟨before, after, rfl, rfl, stands.1⟩, stands.2⟩
  · rintro (⟨rfl, rfl, admitted⟩ | ⟨⟨before, after, rfl, rfl, stands⟩, kept⟩)
    · exact ⟨rubrics, [], rfl, rfl, admitted, by simp⟩
    · exact ⟨before, after ++ [x], by simp, rfl, stands_append_iff.mpr ⟨stands, kept⟩⟩

/-- Under an identifier the bank has the rubric that stands there. -/
theorem find?_filled_iff (rubrics : List Rubric) (id : String) (r : Rubric) :
    (filled rubrics).bank.find? id = some r ↔ IsEntry rubrics id r := by
  induction rubrics using List.reverseRecOn with
  | nil => simp [filled, IsEntry]
  | append_singleton rubrics x ih =>
    rw [isEntry_append_iff, filled_append]
    by_cases admitted : Admits rubrics x
    · rw [bank_take_of_admits admitted, Keyed.find?_put]
      grind
    · rw [bank_take_of_not_admits admitted, ih]
      grind

/-! ## The active rubric of an assignment -/

/-- Only one place in a list is the first one of its kind. -/
theorem first_unique {α : Type} {p : α → Prop} {before before' after after' : List α} {x x' : α}
    (same : before ++ x :: after = before' ++ x' :: after') (none : ∀ y ∈ before, ¬p y) (here : p x)
    (none' : ∀ y ∈ before', ¬p y) (here' : p x') : before = before' ∧ x = x' ∧ after = after' := by
  induction before generalizing before' with
  | nil =>
    cases before' with
    | nil => simpa using same
    | cons y before' =>
      obtain ⟨rfl, -⟩ := List.cons.inj same
      exact absurd here (none' x List.mem_cons_self)
  | cons y before ih =>
    cases before' with
    | nil =>
      obtain ⟨rfl, -⟩ := List.cons.inj same
      exact absurd here' (none y List.mem_cons_self)
    | cons y' before' =>
      obtain ⟨rfl, rest⟩ := List.cons.inj same
      obtain ⟨rfl, rfl, rfl⟩ := ih rest (fun z member => none z (List.mem_cons_of_mem _ member))
        fun z member => none' z (List.mem_cons_of_mem _ member)
      exact ⟨rfl, rfl, rfl⟩

theorem exists_first (served : ∃ r ∈ rubrics, r.Serves assignmentId) :
    ∃ before r after, rubrics = before ++ r :: after ∧ r.Serves assignmentId ∧
      ∀ other ∈ before, ¬other.Serves assignmentId := by
  have serves_iff (r : Rubric) :
      r.Serves assignmentId ↔ (r.isValid && r.isActiveFor assignmentId) = true := by
    rw [Rubric.Serves, ← Rubric.isValid_iff, Bool.and_eq_true]
  simp only [serves_iff] at served ⊢
  obtain ⟨r, found⟩ := Option.isSome_iff_exists.mp (List.find?_isSome.mpr served)
  obtain ⟨serves, before, after, split, none⟩ := List.find?_eq_some_iff_append.mp found
  exact ⟨before, r, after, split, serves, fun other member => (Bool.not_eq_true _).mpr
    (Bool.not_eq_true' _ ▸ none other member)⟩

/-- Of the entries only the first rubric that serves the assignment is active for it. -/
theorem isEntry_active_iff (serves : r.Serves assignmentId)
    (first : ∀ other ∈ before, ¬other.Serves assignmentId) :
    IsEntry (before ++ r :: after) r'.id r' ∧ r'.isActiveFor assignmentId ↔
      r' = r ∧ Stands before r after := by
  constructor
  · rintro ⟨⟨before', after', split, -, stands⟩, active⟩
    obtain ⟨status, rfl⟩ := Rubric.isActiveFor_iff.mp active
    -- It was taken as active, so none before it serves the assignment: it is the first one itself.
    obtain ⟨rfl, rfl, rfl⟩ := first_unique split first serves (stands.1.2 status) ⟨stands.1.1, active⟩
    exact ⟨rfl, stands⟩
  · rintro ⟨rfl, stands⟩
    exact ⟨⟨before, after, rfl, rfl, stands⟩, serves.2⟩

theorem starter_isActiveFor : Rubric.starter.isActiveFor Rubric.starter.assignmentId := by
  decide

theorem ofRubrics_eq (rubrics : List Rubric) : ofRubrics rubrics =
    if (filled rubrics).bank.contains Rubric.starter.id ||
        (filled rubrics).served.contains Rubric.starter.assignmentId
    then (filled rubrics).bank
    else (filled rubrics).bank.put Rubric.starter.id Rubric.starter := rfl

/-- The starter does not take part where an assignment is served. -/
theorem activeFor_ofRubrics_iff (served : ∃ r ∈ rubrics, r.Serves assignmentId) :
    (ofRubrics rubrics).activeFor assignmentId = some r ↔
      IsEntry rubrics r.id r ∧ r.isActiveFor assignmentId := by
  rw [(ofRubrics_sound rubrics).activeFor_eq_some_iff, ← Rubric.isActiveFor_iff,
    ← find?_filled_iff]
  refine and_congr_left fun active => ?_
  rw [ofRubrics_eq]
  split
  · rfl
  · rename_i absent
    simp only [Bool.or_eq_true, List.contains_iff_mem, not_or, mem_served_iff] at absent
    obtain ⟨fresh, unserved⟩ := absent
    rw [Keyed.find?_put]
    split
    · -- The starter is active for its own assignment only, and that one is not served.
      rename_i same
      rw [same]
      constructor
      · rintro ⟨rfl⟩
        rw [Rubric.isActiveFor_iff] at active
        exact absurd (active.2 ▸ served) unserved
      · intro found
        exact absurd (by rw [Keyed.contains, found]; rfl) fresh
    · rfl

theorem activeFor_ofRubrics_of_first (serves : r.Serves assignmentId)
    (first : ∀ other ∈ before, ¬other.Serves assignmentId) :
    (ofRubrics (before ++ r :: after)).activeFor assignmentId = some r' ↔
      r' = r ∧ Stands before r after := by
  rw [activeFor_ofRubrics_iff ⟨r, by simp, serves⟩, isEntry_active_iff serves first]

theorem activeFor_ofRubrics_starter
    (unserved : ∀ r ∈ rubrics, ¬r.Serves Rubric.starter.assignmentId)
    (apart : ∀ r ∈ rubrics, r.Checked → r.id ≠ Rubric.starter.id) :
    (ofRubrics rubrics).activeFor Rubric.starter.assignmentId = some Rubric.starter := by
  rw [(ofRubrics_sound rubrics).activeFor_eq_some_iff, ← Rubric.isActiveFor_iff]
  refine ⟨?_, starter_isActiveFor⟩
  rw [ofRubrics_eq, if_neg, Keyed.find?_put, if_pos rfl]
  simp only [Bool.or_eq_true, List.contains_iff_mem, not_or, mem_served_iff, not_exists, not_and]
  refine ⟨fun known => ?_, unserved⟩
  obtain ⟨r, found⟩ := Option.isSome_iff_exists.mp known
  obtain ⟨before, after, rfl, same, stands⟩ := (find?_filled_iff _ _ _).mp found
  exact apart r (by simp) stands.1.1 same

/-! ## How many -/

section

variable {bank : RubricBank}

theorem Sound.values_nodup (sound : bank.Sound) : bank.values.Nodup := by
  have ids : bank.values.map Rubric.id = bank.keys := by
    rw [Keyed.values, Keyed.keys, List.map_map]
    refine List.map_congr_left fun entry member => ?_
    exact sound.own _ _ (Keyed.find?_of_mem sound.distinct member)
  exact (ids ▸ sound.distinct).of_map

theorem Sound.countP_le_one (sound : bank.Sound) (assignmentId : String) :
    bank.values.countP (·.isActiveFor assignmentId) ≤ 1 := by
  rw [List.countP_eq_length_filter]
  have distinct := sound.values_nodup.filter (·.isActiveFor assignmentId)
  have unique (r : Rubric) (member : r ∈ bank.values.filter (·.isActiveFor assignmentId))
      (r' : Rubric) (member' : r' ∈ bank.values.filter (·.isActiveFor assignmentId)) : r = r' := by
    rw [List.mem_filter] at member member'
    exact sound.active_unique assignmentId r member.1 r' member'.1 member.2 member'.2
  revert distinct unique
  cases bank.values.filter (·.isActiveFor assignmentId) with
  | nil => simp
  | cons r rest =>
    intro distinct unique
    cases rest with
    | nil => simp
    | cons r' rest =>
      obtain rfl := unique r (by simp) r' (by simp)
      exact absurd List.mem_cons_self (List.nodup_cons.mp distinct).1

/-- One rubric is active for the assignment exactly if one is found. -/
theorem Sound.countP_eq_one_iff (sound : bank.Sound) (assignmentId : String) :
    bank.values.countP (·.isActiveFor assignmentId) = 1 ↔
      ∃ r, bank.activeFor assignmentId = some r := by
  have most := sound.countP_le_one assignmentId
  rw [← Option.isSome_iff_exists, activeFor, List.find?_isSome, ← List.countP_pos_iff]
  omega

end

/-- The first one stands if no two rubrics that pass the check share an identifier. -/
theorem stands_of_nodup (serves : r.Serves assignmentId)
    (first : ∀ other ∈ before, ¬other.Serves assignmentId)
    (distinct : (((before ++ r :: after).filter Rubric.isValid).map Rubric.id).Nodup) :
    Stands before r after := by
  obtain ⟨checked, active⟩ := serves
  obtain ⟨-, rfl⟩ := Rubric.isActiveFor_iff.mp active
  refine ⟨⟨checked, fun _ => first⟩, fun middle later rest split same admitted => ?_⟩
  have valid : r.isValid := (Rubric.isValid_iff r).mpr checked
  have valid' : later.isValid := (Rubric.isValid_iff later).mpr admitted.1
  rw [split, List.filter_append, List.filter_cons_of_pos valid, List.map_append,
    List.map_cons] at distinct
  refine (List.nodup_cons.mp (List.nodup_append.mp distinct).2.1).1 ?_
  exact List.mem_map.mpr ⟨later, List.mem_filter.mpr ⟨by simp, valid'⟩, same⟩

/-- A bank never has two rubrics that are active for one assignment. If the rubrics that it is filled
from have some that pass the check and are active for the assignment, it has one of them exactly if the
first one stands, and it has that one; so it always has one if rubrics that pass the check do not share
identifiers. The starter is active if nothing among the rubrics stands in its place. -/
theorem first_rubrics_serve (rubrics : List Rubric) :
    let bank := ofRubrics rubrics
    (∀ assignmentId, bank.values.countP (·.isActiveFor assignmentId) ≤ 1) ∧
    (∀ assignmentId before r after, rubrics = before ++ r :: after → r.Serves assignmentId →
      (∀ other ∈ before, ¬other.Serves assignmentId) →
        (bank.values.countP (·.isActiveFor assignmentId) = 1 ↔ Stands before r after) ∧
        (Stands before r after → bank.activeFor assignmentId = some r)) ∧
    (((rubrics.filter Rubric.isValid).map Rubric.id).Nodup → ∀ assignmentId,
      (∃ r ∈ rubrics, r.Serves assignmentId) →
        bank.values.countP (·.isActiveFor assignmentId) = 1) ∧
    ((∀ r ∈ rubrics, ¬r.Serves Rubric.starter.assignmentId) →
      (∀ r ∈ rubrics, r.Checked → r.id ≠ Rubric.starter.id) →
        bank.activeFor Rubric.starter.assignmentId = some Rubric.starter) := by
  intro bank
  have sound : bank.Sound := ofRubrics_sound rubrics
  refine ⟨sound.countP_le_one, ?_, ?_, activeFor_ofRubrics_starter⟩
  · rintro assignmentId before r after rfl serves first
    have found (r' : Rubric) : bank.activeFor assignmentId = some r' ↔
        r' = r ∧ Stands before r after := activeFor_ofRubrics_of_first serves first
    rw [sound.countP_eq_one_iff]
    refine ⟨⟨fun ⟨r', here⟩ => ((found r').mp here).2, fun stands => ?_⟩, fun stands => ?_⟩
    · exact ⟨r, (found r).mpr ⟨rfl, stands⟩⟩
    · exact (found r).mpr ⟨rfl, stands⟩
  · intro distinct assignmentId served
    obtain ⟨before, r, after, rfl, serves, first⟩ := exists_first served
    rw [sound.countP_eq_one_iff]
    have stands := stands_of_nodup serves first distinct
    exact ⟨r, (activeFor_ofRubrics_of_first serves first).mpr ⟨rfl, stands⟩⟩

/-- A rubric of one question. -/
def sample (id assignmentId : String) (status : RubricStatus) : Rubric :=
  { id, assignmentId, name := "R " ++ id, status
    concepts := [
      { id := "c", name := "C"
        questions := [{ id := "q", text := "question q", discrimination := 1.0, difficulty := 0.0 }] }] }

/-- The first rubric that serves the assignment takes the place of a draft, and keeps another one out. -/
theorem kept_rubric_serves :
    let draft := sample "f" "hw1" .draft
    let active := sample "f" "hw1" .active
    let other := sample "g" "hw1" .active
    active.Serves "hw1" ∧ Stands [draft] active [other] ∧
      (ofRubrics [draft, active, other]).activeFor "hw1" = some active := by
  intro draft active other
  have serves : active.Serves "hw1" :=
    ⟨(Rubric.isValid_iff active).mp (by decide +kernel), by decide⟩
  have first : ∀ r ∈ [draft], ¬r.Serves "hw1" := by
    simp [Rubric.Serves, show draft.isActiveFor "hw1" = false by decide]
  have claimed := (first_rubrics_serve [draft, active, other]).2.1 "hw1" [draft] active [other] rfl
    serves first
  have stands : Stands [draft] active [other] := claimed.1.mp (by decide +kernel)
  exact ⟨serves, stands, claimed.2 stands⟩

/-- A draft takes the place of the rubric that was taken as active, and another active one is kept out all
the same: the assignment is left with none. -/
theorem replaced_rubric_serves_nobody :
    let rubrics := [sample "f" "hw1" .active, sample "f" "hw1" .draft, sample "g" "hw1" .active]
    (∃ r ∈ rubrics, r.Serves "hw1") ∧
      (ofRubrics rubrics).values.countP (·.isActiveFor "hw1") = 0 ∧
      (ofRubrics rubrics).activeFor "hw1" = none := by
  intro rubrics
  have valid : (sample "f" "hw1" .active).isValid := by decide +kernel
  refine ⟨⟨sample "f" "hw1" .active, by simp [rubrics], (Rubric.isValid_iff _).mp valid, ?_⟩, ?_, ?_⟩
  · decide
  · decide +kernel
  · decide +kernel

end RubricBank

end OralExam
