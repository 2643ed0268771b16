/-! Stable sorting by insertion.

Items are taken from the left and put behind all that they do not precede, so that items of which
none precedes the other stay in their order.
-/

set_option autoImplicit false

namespace OralExam.Sorting

variable {α : Type}

/-- Puts an item into a list that is sorted from its end. -/
def place (precedes : α → α → Bool) (x : α) : List α → List α
  | [] => [x]
  | y :: ys => if precedes x y then y :: place precedes x ys else x :: y :: ys

def sort (precedes : α → α → Bool) (xs : List α) : List α :=
  (xs.foldl (fun sorted x => place precedes x sorted) []).reverse

theorem place_perm (precedes : α → α → Bool) (x : α) (ys : List α) :
    (place precedes x ys).Perm (x :: ys) := by
  induction ys with
  | nil => exact .refl _
  | cons y ys ih =>
    simp only [place]
    split
    · exact (ih.cons y).trans (.swap x y ys)
    · exact .refl _

theorem foldl_place_perm (precedes : α → α → Bool) (xs sorted : List α) :
    (xs.foldl (fun sorted x => place precedes x sorted) sorted).Perm (xs ++ sorted) := by
  induction xs generalizing sorted with
  | nil => exact .refl _
  | cons x xs ih =>
    exact (ih _).trans (((place_perm precedes x sorted).append_left xs).trans List.perm_middle)

theorem sort_perm (precedes : α → α → Bool) (xs : List α) : (sort precedes xs).Perm xs := by
  have h := foldl_place_perm precedes xs []
  rw [List.append_nil] at h
  exact (List.reverse_perm _).trans h

section

variable {β : Type} {f : α → β} {precedes : α → α → Bool} {precedes' : β → β → Bool}

theorem place_map (same : ∀ x y, precedes' (f x) (f y) = precedes x y) (x : α) (ys : List α) :
    place precedes' (f x) (ys.map f) = (place precedes x ys).map f := by
  induction ys with
  | nil => rfl
  | cons y ys ih =>
    simp only [List.map_cons, place, same]
    split
    · rw [ih, List.map_cons]
    · rfl

theorem foldl_place_map (same : ∀ x y, precedes' (f x) (f y) = precedes x y) (xs sorted : List α) :
    (xs.map f).foldl (fun sorted x => place precedes' x sorted) (sorted.map f) =
      (xs.foldl (fun sorted x => place precedes x sorted) sorted).map f := by
  induction xs generalizing sorted with
  | nil => rfl
  | cons x xs ih =>
    simp only [List.map_cons, List.foldl_cons]
    rw [place_map same, ih]

/-- Sorting looks at nothing but what precedes what. -/
theorem sort_map (same : ∀ x y, precedes' (f x) (f y) = precedes x y) (xs : List α) :
    sort precedes' (xs.map f) = (sort precedes xs).map f := by
  rw [sort, sort, List.map_reverse]
  exact congrArg List.reverse (foldl_place_map same xs [])

end

end OralExam.Sorting
