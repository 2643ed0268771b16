import Mathlib.Algebra.Ring.Nat
import Mathlib.Data.List.Nodup
import OralExam.Keyed

/-! Maps in insertion order: what a put does to the keys, the values and their order.

A put under a key that is there replaces one value and moves nothing; a put under a new key appends.
-/

set_option autoImplicit false

namespace OralExam.Keyed

variable {κ υ α : Type} [DecidableEq κ]

theorem isSome_find?_iff (m : Keyed κ υ) (k : κ) : (m.find? k).isSome ↔ k ∈ m.keys := by
  obtain ⟨entries⟩ := m
  simp only [find?, keys]
  induction entries with
  | nil => simp
  | cons e rest ih =>
    obtain ⟨j, v⟩ := e
    by_cases same : k = j
    · simp [same]
    · rw [List.lookup_cons, beq_eq_false_iff_ne.mpr same, List.map_cons, List.mem_cons]
      exact ih.trans (or_iff_right same).symm

theorem find?_eq_none_iff (m : Keyed κ υ) (k : κ) : m.find? k = none ↔ k ∉ m.keys := by
  rw [← isSome_find?_iff]
  simp

/-! ## Puts under a key that is there -/

theorem keys_put_of_mem {m : Keyed κ υ} {k : κ} (known : k ∈ m.keys) (v : υ) :
    (m.put k v).keys = m.keys := by
  obtain ⟨entries⟩ := m
  simp only [keys, put] at known ⊢
  induction entries with
  | nil => cases known
  | cons e rest ih =>
    obtain ⟨j, w⟩ := e
    by_cases same : j = k
    · simp [putEntry, same]
    · have later : k ∈ rest.map Prod.fst := by simpa [Ne.symm same] using known
      simp [putEntry, same, ih later]

/-- What two values agree in stays where it was when one replaces the other. -/
theorem map_values_put {m : Keyed κ υ} {k : κ} {old v : υ} (f : υ → α)
    (found : m.find? k = some old) (same : f v = f old) :
    (m.put k v).values.map f = m.values.map f := by
  obtain ⟨entries⟩ := m
  simp only [find?] at found
  simp only [values, put]
  induction entries with
  | nil => simp at found
  | cons e rest ih =>
    obtain ⟨j, w⟩ := e
    by_cases here : j = k
    · subst here
      simp only [List.lookup_cons, BEq.rfl, Option.some.injEq] at found
      simp [putEntry, found, same]
    · have other : k ≠ j := Ne.symm here
      simp only [List.lookup_cons, beq_eq_false_iff_ne.mpr other] at found
      simp [putEntry, here, ih found]

/-! ## Puts under a new key -/

theorem entries_put_of_notMem {m : Keyed κ υ} {k : κ} (fresh : k ∉ m.keys) (v : υ) :
    (m.put k v).entries = m.entries ++ [(k, v)] := by
  obtain ⟨entries⟩ := m
  simp only [keys, put] at fresh ⊢
  induction entries with
  | nil => rfl
  | cons e rest ih =>
    obtain ⟨j, w⟩ := e
    simp only [List.map_cons, List.mem_cons, not_or] at fresh
    simp [putEntry, Ne.symm fresh.1, ih fresh.2]

theorem keys_put_of_notMem {m : Keyed κ υ} {k : κ} (fresh : k ∉ m.keys) (v : υ) :
    (m.put k v).keys = m.keys ++ [k] := by
  simp [keys, entries_put_of_notMem fresh]

theorem values_put_of_notMem {m : Keyed κ υ} {k : κ} (fresh : k ∉ m.keys) (v : υ) :
    (m.put k v).values = m.values ++ [v] := by
  simp [values, entries_put_of_notMem fresh]

/-! ## Any put -/

/-- Of two puts under one key the later one stands. -/
theorem put_put (m : Keyed κ υ) (k : κ) (v w : υ) : (m.put k v).put k w = m.put k w := by
  obtain ⟨entries⟩ := m
  simp only [put, mk.injEq]
  induction entries with
  | nil => simp [putEntry]
  | cons e rest ih =>
    obtain ⟨j, u⟩ := e
    by_cases same : j = k
    · simp [putEntry, same]
    · simp [putEntry, same, ih]

/-- What is there already need not be put. -/
theorem put_of_find? {m : Keyed κ υ} {k : κ} {v : υ} (found : m.find? k = some v) :
    m.put k v = m := by
  obtain ⟨entries⟩ := m
  simp only [find?] at found
  simp only [put, mk.injEq]
  induction entries with
  | nil => cases found
  | cons e rest ih =>
    obtain ⟨j, u⟩ := e
    by_cases same : j = k
    · subst same
      simp only [List.lookup_cons, BEq.rfl, Option.some.injEq] at found
      simp [putEntry, found]
    · have other : (k == j) = false := beq_eq_false_iff_ne.mpr (Ne.symm same)
      simp only [List.lookup_cons, other] at found
      simp [putEntry, same, ih found]

theorem mem_keys_put_iff {m : Keyed κ υ} {k j : κ} {v : υ} :
    j ∈ (m.put k v).keys ↔ j = k ∨ j ∈ m.keys := by
  rw [← isSome_find?_iff, ← isSome_find?_iff, find?_put]
  split
  · rename_i same
    simp [same]
  · rename_i other
    simp [other]

/-- A put exchanges what the old value, if there is one, adds to a sum for what the new one adds. -/
theorem sum_values_put (m : Keyed κ υ) (k : κ) (v : υ) (f : υ → Nat) :
    ((m.put k v).values.map f).sum + ((m.find? k).map f).getD 0 = (m.values.map f).sum + f v := by
  obtain ⟨entries⟩ := m
  simp only [values, put, find?]
  induction entries with
  | nil => simp [putEntry]
  | cons e rest ih =>
    obtain ⟨j, u⟩ := e
    by_cases same : j = k
    · subst same
      simp [putEntry]
      omega
    · have other : (k == j) = false := beq_eq_false_iff_ne.mpr (Ne.symm same)
      simp only [putEntry, if_neg same, List.map_cons, List.sum_cons, List.lookup_cons, other]
      omega

theorem eq_or_mem_of_mem_values_put {m : Keyed κ υ} {k : κ} {v w : υ}
    (member : w ∈ (m.put k v).values) : w = v ∨ w ∈ m.values := by
  obtain ⟨entries⟩ := m
  simp only [values, put] at member ⊢
  induction entries with
  | nil => simpa [putEntry] using member
  | cons e rest ih =>
    obtain ⟨j, u⟩ := e
    by_cases same : j = k
    · simp only [putEntry, if_pos same, List.map_cons, List.mem_cons] at member
      rcases member with here | later
      · exact .inl here
      · exact .inr (by simp [later])
    · simp only [putEntry, if_neg same, List.map_cons, List.mem_cons] at member
      rcases member with here | later
      · exact .inr (by simp [here])
      · rcases ih later with new | old
        · exact .inl new
        · exact .inr (by simp [old])

theorem mem_of_find? {m : Keyed κ υ} {k : κ} {v : υ} (found : m.find? k = some v) :
    (k, v) ∈ m.entries := by
  obtain ⟨before, rest, same, -⟩ := List.lookup_eq_some_iff.mp found
  rw [same]
  exact List.mem_append_right _ List.mem_cons_self

/-- Where no key stands twice, every value is found under its key. -/
theorem find?_of_mem {m : Keyed κ υ} (distinct : m.keys.Nodup) {k : κ} {v : υ}
    (member : (k, v) ∈ m.entries) : m.find? k = some v := by
  obtain ⟨entries⟩ := m
  simp only [keys] at distinct
  simp only [find?]
  induction entries with
  | nil => cases member
  | cons e rest ih =>
    obtain ⟨j, u⟩ := e
    simp only [List.map_cons, List.nodup_cons] at distinct
    rcases List.mem_cons.mp member with here | later
    · cases here
      simp
    · have apart : k ≠ j := by
        rintro rfl
        exact distinct.1 (List.mem_map_of_mem later)
      rw [List.lookup_cons, beq_eq_false_iff_ne.mpr apart]
      exact ih distinct.2 later

theorem keys_put_nodup {m : Keyed κ υ} (distinct : m.keys.Nodup) (k : κ) (v : υ) :
    (m.put k v).keys.Nodup := by
  by_cases known : k ∈ m.keys
  · rwa [keys_put_of_mem known]
  · rw [keys_put_of_notMem known, ← List.concat_eq_append]
    exact List.Nodup.concat known distinct

theorem mem_values_iff {m : Keyed κ υ} (distinct : m.keys.Nodup) {v : υ} :
    v ∈ m.values ↔ ∃ k, m.find? k = some v := by
  constructor
  · intro member
    obtain ⟨⟨k, w⟩, entry, same⟩ := List.mem_map.mp member
    exact ⟨k, same ▸ find?_of_mem distinct entry⟩
  · rintro ⟨k, found⟩
    exact List.mem_map_of_mem (mem_of_find? found)

/-! ## Puts one after the other -/

section

variable {key : α → κ} {value : α → υ} {xs : List α}

theorem find?_foldl_put_of_notMem {k : κ} (fresh : k ∉ xs.map key) (m : Keyed κ υ) :
    (xs.foldl (fun m x => m.put (key x) (value x)) m).find? k = m.find? k := by
  induction xs generalizing m with
  | nil => rfl
  | cons x xs ih =>
    simp only [List.map_cons, List.mem_cons, not_or] at fresh
    rw [List.foldl_cons, ih fresh.2, find?_put, if_neg fresh.1]

/-- Under different keys every value stays. -/
theorem find?_foldl_put (distinct : (xs.map key).Nodup) {x : α} (member : x ∈ xs)
    (m : Keyed κ υ) :
    (xs.foldl (fun m x => m.put (key x) (value x)) m).find? (key x) = some (value x) := by
  induction xs generalizing m with
  | nil => cases member
  | cons y ys ih =>
    obtain ⟨fresh, distinct⟩ := List.nodup_cons.mp distinct
    rw [List.foldl_cons]
    rcases List.mem_cons.mp member with rfl | later
    · rw [find?_foldl_put_of_notMem fresh, find?_put, if_pos rfl]
    · exact ih distinct later _

end

/-! ## Other values under the same keys -/

section

variable {ω : Type}

def map (m : Keyed κ υ) (f : υ → ω) : Keyed κ ω := ⟨m.entries.map fun e => (e.1, f e.2)⟩

/-- The new value may depend on the key. -/
theorem lookup_map_entries (entries : List (κ × υ)) (f : κ × υ → ω) (k : κ) :
    (entries.map fun e => (e.1, f e)).lookup k = (entries.lookup k).map fun v => f (k, v) := by
  induction entries with
  | nil => rfl
  | cons e rest ih =>
    obtain ⟨j, u⟩ := e
    by_cases same : k = j
    · simp [same]
    · simp only [List.map_cons, List.lookup_cons, beq_eq_false_iff_ne.mpr same, ih]

theorem find?_map (m : Keyed κ υ) (f : υ → ω) (k : κ) : (m.map f).find? k = (m.find? k).map f :=
  lookup_map_entries m.entries (fun e => f e.2) k

theorem map_put (m : Keyed κ υ) (f : υ → ω) (k : κ) (v : υ) :
    (m.put k v).map f = (m.map f).put k (f v) := by
  obtain ⟨entries⟩ := m
  simp only [map, put, mk.injEq]
  induction entries with
  | nil => rfl
  | cons e rest ih =>
    obtain ⟨j, u⟩ := e
    by_cases same : j = k
    · simp [putEntry, same]
    · simp [putEntry, same, ih]

end

end OralExam.Keyed
