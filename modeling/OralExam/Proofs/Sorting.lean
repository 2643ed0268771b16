import Mathlib.Data.List.Nodup
import Mathlib.Data.List.Pairwise
import Mathlib.Data.Prod.Lex
import Mathlib.Order.Lattice
import OralExam.Sorting

/-! Sorting by rank.

Where one item precedes another exactly if it has the lower rank, a sorted list is in the order of the
ranks. Where no two items have the same rank, it does not matter in which order they came.
-/

set_option autoImplicit false

namespace OralExam.Sorting

variable {α β : Type} [LinearOrder β] {rank : α → β} {precedes : α → α → Bool}
  {items xs ys sorted : List α}

/-- Among these items one precedes another exactly if it has the lower rank. -/
def Ranks (rank : α → β) (precedes : α → α → Bool) (items : List α) : Prop :=
  ∀ x ∈ items, ∀ y ∈ items, precedes x y ↔ rank x < rank y

theorem Ranks.of_perm (ranks : Ranks rank precedes xs) (perm : xs.Perm ys) :
    Ranks rank precedes ys :=
  fun x mem y mem' => ranks x (perm.mem_iff.mpr mem) y (perm.mem_iff.mpr mem')

theorem pairwise_place (ranks : Ranks rank precedes items) {x : α} (known : x ∈ items)
    (all : ∀ y ∈ ys, y ∈ items) (falling : ys.Pairwise fun a b => rank b ≤ rank a) :
    (place precedes x ys).Pairwise fun a b => rank b ≤ rank a := by
  induction ys with
  | nil => exact List.pairwise_singleton _ _
  | cons y ys ih =>
    -- The list is kept from its end: what precedes its first item goes further back.
    obtain ⟨first, rest⟩ := List.pairwise_cons.mp falling
    obtain ⟨mem, mems⟩ := List.forall_mem_cons.mp all
    simp only [place]
    split
    · rename_i before
      refine List.pairwise_cons.mpr ⟨?_, ih mems rest⟩
      intro z placed
      rcases List.mem_cons.mp ((place_perm precedes x ys).mem_iff.mp placed) with rfl | old
      · exact ((ranks _ known _ mem).mp before).le
      · exact first z old
    · rename_i behind
      have least : rank y ≤ rank x := not_lt.mp (mt (ranks _ known _ mem).mpr behind)
      refine List.pairwise_cons.mpr ⟨?_, falling⟩
      exact List.forall_mem_cons.mpr ⟨least, fun z old => (first z old).trans least⟩

theorem pairwise_foldl_place (ranks : Ranks rank precedes items) (new : ∀ x ∈ xs, x ∈ items)
    (all : ∀ y ∈ sorted, y ∈ items) (falling : sorted.Pairwise fun a b => rank b ≤ rank a) :
    (xs.foldl (fun sorted x => place precedes x sorted) sorted).Pairwise
      fun a b => rank b ≤ rank a := by
  induction xs generalizing sorted with
  | nil => exact falling
  | cons x xs ih =>
    obtain ⟨known, later⟩ := List.forall_mem_cons.mp new
    refine ih later ?_ (pairwise_place ranks known all falling)
    intro y placed
    rcases List.mem_cons.mp ((place_perm precedes x sorted).mem_iff.mp placed) with rfl | old
    · exact known
    · exact all y old

/-- A sorted list is in the order of the ranks. -/
theorem pairwise_sort (ranks : Ranks rank precedes xs) :
    (sort precedes xs).Pairwise fun a b => rank a ≤ rank b :=
  List.pairwise_reverse.mpr
    (pairwise_foldl_place ranks (fun _ mem => mem) (by simp) List.Pairwise.nil)

theorem pairwise_sort_lt (ranks : Ranks rank precedes xs) (distinct : (xs.map rank).Nodup) :
    (sort precedes xs).Pairwise fun a b => rank a < rank b := by
  have apart : ((sort precedes xs).map rank).Nodup :=
    ((sort_perm precedes xs).map rank).nodup_iff.mpr distinct
  exact (pairwise_sort ranks).imp₂ (fun _ _ le ne => lt_of_le_of_ne le ne) (List.pairwise_map.mp apart)

/-- Items of different ranks come out in one order, whatever order they are in. -/
theorem sort_eq_of_perm (ranks : Ranks rank precedes xs) (distinct : (xs.map rank).Nodup)
    (perm : xs.Perm ys) : sort precedes xs = sort precedes ys := by
  have same : (sort precedes xs).Perm (sort precedes ys) :=
    (sort_perm precedes xs).trans (perm.trans (sort_perm precedes ys).symm)
  refine List.Perm.eq_of_pairwise ?_ (pairwise_sort ranks) (pairwise_sort (ranks.of_perm perm)) same
  intro x y mem mem' le le'
  have known : x ∈ xs := (sort_perm precedes xs).mem_iff.mp mem
  have known' : y ∈ xs := perm.mem_iff.mpr ((sort_perm precedes ys).mem_iff.mp mem')
  exact List.inj_on_of_nodup_map distinct known known' (le.antisymm le')

/-- Items of different names have different ranks, whatever counts before the names. -/
theorem nodup_ranks {γ δ : Type} (key : α → γ) {name : α → δ} (distinct : (xs.map name).Nodup) :
    (xs.map fun x => toLex (key x, name x)).Nodup := by
  apply List.Nodup.of_map fun rank => (ofLex rank).2
  rw [List.map_map]
  exact distinct

end OralExam.Sorting
