import OralExam.Proofs.Arithmetic.Distance
import OralExam.Session.Verdict

/-! Which level an ability comes to.

The bounds between the levels ascend, so those that an ability has reached come before all others, and
how many they are is the rank of its level. A higher ability never comes to a lower level, and for every
level there is an ability that comes to it. The bounds are the rubric's own where these are valid, and
those of the settings where not.
-/

set_option autoImplicit false

namespace OralExam

open Double

namespace Level

/-- The number of levels below. -/
def rank : Level → Nat
  | novice => 0
  | beginner => 1
  | intermediate => 2
  | advanced => 3
  | expert => 4

theorem rank_injective : Function.Injective rank := by
  intro level other same
  cases level <;> cases other <;> first | rfl | cases same

theorem rank_le (level : Level) : level.rank ≤ 4 := by
  cases level <;> decide

variable {θ θ' b : Float} {bands before after : List Float}

/-! ## Bounds in ascending order -/

/-- The bounds are numbers, each above all before it. -/
structure Ascends (bands : List Float) : Prop where
  numbers : ∀ b ∈ bands, IsNumber b
  ordered : bands.Pairwise fun a b => number a < number b

theorem ascends_of_isAscending (numbers : ∀ b ∈ bands, IsNumber b) (ascending : isAscending bands) :
    Ascends bands := by
  refine ⟨numbers, ?_⟩
  fun_induction isAscending bands with
  | case1 a b rest ih =>
    obtain ⟨first, later⟩ := List.forall_mem_cons.mp numbers
    simp only [Bool.and_eq_true, decide_eq_true_eq] at ascending
    have next := ih later ascending.2
    have less : number a < number b :=
      (first.lt_iff (later b List.mem_cons_self)).mp ascending.1
    refine List.pairwise_cons.mpr ⟨?_, next⟩
    rintro c member
    rcases List.mem_cons.mp member with rfl | beyond
    · exact less
    · exact less.trans ((List.pairwise_cons.mp next).1 c beyond)
  | case2 bands short =>
    match bands, short with
    | [], _ => exact .nil
    | [a], _ => exact List.pairwise_singleton _ a
    | a :: b :: rest, short => exact absurd rfl (short a b rest)

theorem length_of_valid (valid : bandsAreValid bands) : bands.length = 4 := by
  simp only [bandsAreValid, Bool.and_eq_true, decide_eq_true_eq] at valid
  exact valid.1.1

theorem isFinite_of_valid (valid : bandsAreValid bands) : ∀ b ∈ bands, b.isFinite := by
  simp only [bandsAreValid, Bool.and_eq_true, List.all_eq_true] at valid
  exact valid.1.2

theorem ascends_of_valid (valid : bandsAreValid bands) : Ascends bands := by
  have finite := isFinite_of_valid valid
  rw [bandsAreValid, Bool.and_eq_true] at valid
  refine ascends_of_isAscending (fun b member => ?_) valid.2
  obtain ⟨a, denotes⟩ := isFinite_iff.mp (finite b member)
  exact ⟨a, denotes⟩

theorem Ascends.tail (ascends : Ascends (b :: after)) : Ascends after :=
  ⟨(List.forall_mem_cons.mp ascends.numbers).2, ascends.ordered.of_cons⟩

/-- Bounds that are above the ability are followed by others that are. -/
theorem Ascends.countP_eq_zero (ascends : Ascends (b :: after)) (above : θ < b) :
    (b :: after).countP (· ≤ θ) = 0 := by
  obtain ⟨number, first⟩ := isNumber_of_lt above
  have less := (number.lt_iff first).mp above
  rw [List.countP_eq_zero]
  intro c member
  rw [decide_eq_true_eq, (ascends.numbers c member).le_iff number, not_le]
  rcases List.mem_cons.mp member with rfl | beyond
  · exact less
  · exact less.trans ((List.pairwise_cons.mp ascends.ordered).1 c beyond)

/-- Where the first bound above the ability stands is how many are not above it. -/
theorem Ascends.findIdx_eq (ascends : Ascends bands) (number : IsNumber θ) :
    bands.findIdx (θ < ·) = bands.countP (· ≤ θ) := by
  induction bands with
  | nil => rfl
  | cons b after ih =>
    rw [List.findIdx_cons]
    -- At a bound that is above, the scan stops and nothing is counted any more.
    by_cases above : θ < b
    · rw [ascends.countP_eq_zero above, decide_eq_true above, cond_true]
    · have first := ascends.numbers b List.mem_cons_self
      have reached : decide (b ≤ θ) := decide_eq_true ((number.not_lt_iff first).mp above)
      rw [decide_eq_false above, cond_false, ih ascends.tail, List.countP_cons, if_pos reached]

/-- An ability at a bound has reached that bound and all before it. -/
theorem Ascends.countP_at (ascends : Ascends (before ++ b :: after)) :
    (before ++ b :: after).countP (· ≤ b) = before.length + 1 := by
  have own : IsNumber b := ascends.numbers b (by simp)
  obtain ⟨-, later, apart⟩ := List.pairwise_append.mp ascends.ordered
  have passed : before.countP (· ≤ b) = before.length := by
    rw [List.countP_eq_length]
    intro a member
    have lower : IsNumber a := ascends.numbers a (List.mem_append_left _ member)
    rw [decide_eq_true_eq, lower.le_iff own]
    exact (apart a member b List.mem_cons_self).le
  have ahead : after.countP (· ≤ b) = 0 := by
    rw [List.countP_eq_zero]
    intro c member
    have higher : IsNumber c := ascends.numbers c (by simp [member])
    rw [decide_eq_true_eq, higher.le_iff own, not_le]
    exact (List.pairwise_cons.mp later).1 c member
  have here : decide (b ≤ b) := decide_eq_true ((own.le_iff own).mpr le_rfl)
  rw [List.countP_append, List.countP_cons, if_pos here, passed, ahead]

theorem Ascends.countP_getElem (ascends : Ascends bands) {k : Nat} (inside : k < bands.length) :
    bands.countP (· ≤ bands[k]) = k + 1 := by
  have split : bands.take k ++ bands[k] :: bands.drop (k + 1) = bands := by
    rw [List.getElem_cons_drop, List.take_append_drop]
  have passed := Ascends.countP_at (split.symm ▸ ascends)
  rwa [split, List.length_take_of_le inside.le] at passed

/-! ## Levels -/

theorem rank_ofTheta_eq_findIdx (four : bands.length = 4) :
    (ofTheta θ bands).rank = bands.findIdx (θ < ·) := by
  match bands, four with
  | [a, b, c, d], _ =>
    simp only [ofTheta, bounded, List.zip_cons_cons, List.zip_nil_left, List.find?_cons,
      List.findIdx_cons, List.find?_nil, List.findIdx_nil]
    cases decide (θ < a)
    · cases decide (θ < b)
      · cases decide (θ < c)
        · cases decide (θ < d) <;> rfl
        · rfl
      · rfl
    · rfl

theorem rank_ofTheta (valid : bandsAreValid bands) (number : IsNumber θ) :
    (ofTheta θ bands).rank = bands.countP (· ≤ θ) := by
  rw [rank_ofTheta_eq_findIdx (length_of_valid valid), (ascends_of_valid valid).findIdx_eq number]

theorem rank_ofTheta_mono (valid : bandsAreValid bands) (le : θ ≤ θ') :
    (ofTheta θ bands).rank ≤ (ofTheta θ' bands).rank := by
  obtain ⟨lower, higher⟩ := isNumber_of_le le
  rw [rank_ofTheta valid lower, rank_ofTheta valid higher]
  refine List.countP_mono_left fun b _ reached => ?_
  rw [decide_eq_true_eq] at reached ⊢
  exact le_of_le_of_le reached le

/-- Less than all numbers that are finite. -/
theorem denotes_lowest : Denotes (-1.0 / 0.0) ⊥ := by
  have unpacked : (-1.0 / 0.0 : Float).toModel.unpack = .infinity .negative := rfl
  rw [Denotes, unpacked]
  rfl

theorem countP_lowest (valid : bandsAreValid bands) : bands.countP (· ≤ -1.0 / 0.0) = 0 := by
  rw [List.countP_eq_zero]
  intro b member
  obtain ⟨a, denotes⟩ := isFinite_iff.mp (isFinite_of_valid valid b member)
  rw [decide_eq_true_eq, denotes.le_iff denotes_lowest, le_bot_iff]
  exact EReal.coe_ne_bot a

theorem exists_ofTheta_eq (valid : bandsAreValid bands) (level : Level) :
    ∃ θ, IsNumber θ ∧ ofTheta θ bands = level := by
  have ascends := ascends_of_valid valid
  -- Below all bounds for the lowest level, and for any other at the bound that it starts from.
  cases rank : level.rank with
  | zero =>
    refine ⟨-1.0 / 0.0, ⟨_, denotes_lowest⟩, rank_injective ?_⟩
    rw [rank_ofTheta valid ⟨_, denotes_lowest⟩, countP_lowest valid, rank]
  | succ k =>
    have inside : k < bands.length := by
      have most := level.rank_le
      have four := length_of_valid valid
      omega
    have number := ascends.numbers bands[k] (List.getElem_mem inside)
    refine ⟨bands[k], number, rank_injective ?_⟩
    rw [rank_ofTheta valid number, ascends.countP_getElem inside, rank]

end Level

/-! ## Verdicts -/

namespace Verdict

variable {grading : GradingPolicy} {r : Rubric}

theorem bandsFor_of_valid {own : List Float} (given : r.bands = some own)
    (valid : bandsAreValid own) : bandsFor grading r = own := by
  rw [bandsFor, given]
  exact if_pos valid

theorem bandsFor_of_none_valid (unusable : ∀ own, r.bands = some own → ¬bandsAreValid own) :
    bandsFor grading r = grading.bands := by
  unfold bandsFor
  split
  · rename_i own given
    exact if_neg (unusable own given)
  · rfl

theorem bandsFor_valid (usual : bandsAreValid grading.bands) (r : Rubric) :
    bandsAreValid (bandsFor grading r) := by
  by_cases usable : ∃ own, r.bands = some own ∧ bandsAreValid own
  · obtain ⟨own, given, valid⟩ := usable
    rwa [bandsFor_of_valid given valid]
  · rw [bandsFor_of_none_valid fun own given valid => usable ⟨own, given, valid⟩]
    exact usual

/-- By valid bounds an ability comes to the level whose rank is the number of bounds that it has
reached; so a higher ability never comes to a lower level, and to every level there is an ability. The
bounds that a verdict is given by are valid whatever the rubric says, if those of the settings are: they
are the rubric's own where these are valid, and those of the settings where not. -/
theorem levels_follow_bounds :
    (∀ bands, bandsAreValid bands →
      (∀ θ : Float, θ.isNaN = false → (Level.ofTheta θ bands).rank = bands.countP (· ≤ θ)) ∧
      (∀ θ θ' : Float, θ ≤ θ' →
        (Level.ofTheta θ bands).rank ≤ (Level.ofTheta θ' bands).rank) ∧
      ∀ level, ∃ θ : Float, θ.isNaN = false ∧ Level.ofTheta θ bands = level) ∧
    ∀ grading : GradingPolicy, bandsAreValid grading.bands →
      ∀ (scoring : ScoringPolicy Float) (s : Session) (now : Instant),
        let bands := bandsFor grading s.rubric
        bandsAreValid bands ∧
          (∀ own, s.rubric.bands = some own → bandsAreValid own → bands = own) ∧
          ((∀ own, s.rubric.bands = some own → ¬bandsAreValid own) → bands = grading.bands) ∧
          (ofSession grading scoring s now).level = Level.ofTheta s.theta bands ∧
          (s.theta.isNaN = false →
            (ofSession grading scoring s now).level.rank = bands.countP (· ≤ s.theta)) := by
  refine ⟨fun bands valid => ⟨fun θ number => ?_, fun θ θ' le => ?_, fun level => ?_⟩, ?_⟩
  · exact Level.rank_ofTheta valid (isNumber_iff.mpr number)
  · exact Level.rank_ofTheta_mono valid le
  · obtain ⟨θ, number, same⟩ := Level.exists_ofTheta_eq valid level
    exact ⟨θ, isNumber_iff.mp number, same⟩
  · intro grading usual scoring s now bands
    have valid : bandsAreValid bands := bandsFor_valid usual s.rubric
    exact ⟨valid, fun own => bandsFor_of_valid, bandsFor_of_none_valid, rfl,
      fun number => Level.rank_ofTheta valid (isNumber_iff.mpr number)⟩

/-- One bound is not enough, so those of the settings are used, and the third of them has just been
reached. -/
theorem advanced_by_usual_bounds :
    let rubric : Rubric := { id := "r", assignmentId := "a", name := "R", bands := some [1.0] }
    let s : Session :=
      { id := "s", assignmentId := "a", studentId := "al", attempt := 1, status := .inProgress
        rubric, assignment := { id := "a" }, startedAt := ⟨0⟩, lastActivityAt := ⟨0⟩
        theta := 0.5, standardError := 1.0 }
    bandsAreValid ({} : GradingPolicy).bands ∧ ¬bandsAreValid [1.0] ∧
      bandsFor {} rubric = [-1.5, -0.5, 0.5, 1.5] ∧
      (ofSession {} .standard s ⟨0⟩).level = .advanced ∧
      (Level.ofTheta 0.5 [-1.5, -0.5, 0.5, 1.5]).rank = 3 := by
  intro rubric s
  have usual : bandsAreValid ({} : GradingPolicy).bands := by decide +kernel
  have short : ¬bandsAreValid [1.0] := by decide +kernel
  obtain ⟨ranked, graded⟩ := levels_follow_bounds
  obtain ⟨-, -, fallback, -, rank⟩ := graded {} usual .standard s ⟨0⟩
  have unusable : ∀ own, s.rubric.bands = some own → ¬bandsAreValid own := by
    rintro own ⟨⟩
    exact short
  have used := fallback unusable
  refine ⟨usual, short, used, ?_, ?_⟩
  · refine Level.rank_injective ((rank (by decide +kernel)).trans ?_)
    rw [used]
    decide +kernel
  · rw [(ranked _ usual).1 0.5 (by decide +kernel)]
    decide +kernel

end Verdict

end OralExam
