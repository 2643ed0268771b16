import OralExam.Proofs.Rubric.Checked

/-! Banks that are filled and published to: which rubric is the active one of an assignment.

A bank is sound if it is a map of checked rubrics by their identifiers in which every assignment has
one active rubric at most. Banks are sound when they are filled, and publishing keeps them so,
whatever is published: a rubric may come back under its identifier with another status, or for
another assignment.
-/

set_option autoImplicit false

namespace OralExam

theorem find?_eq_some_iff_of_unique {α : Type} {p : α → Bool} {l : List α}
    (unique : ∀ x ∈ l, ∀ y ∈ l, p x → p y → x = y) {x : α} :
    l.find? p = some x ↔ x ∈ l ∧ p x := by
  constructor
  · intro found
    exact ⟨List.mem_of_find?_eq_some found, List.find?_some found⟩
  · rintro ⟨member, fits⟩
    obtain ⟨y, found⟩ := Option.isSome_iff_exists.mp (List.find?_isSome.mpr ⟨x, member, fits⟩)
    rw [found, unique x member y (List.mem_of_find?_eq_some found) fits (List.find?_some found)]

namespace Rubric

theorem isActiveFor_iff {r : Rubric} {assignmentId : String} :
    r.isActiveFor assignmentId ↔ r.status = .active ∧ r.assignmentId = assignmentId := by
  simp [isActiveFor]

/-- What becomes of a rubric when another one is published. -/
def supersededBy (old r : Rubric) : Rubric :=
  if r.status = .active ∧ old.status = .active ∧ old.assignmentId = r.assignmentId then
    { old with status := .archived }
  else old

theorem Checked.supersededBy {old : Rubric} (checked : old.Checked) (r : Rubric) :
    (old.supersededBy r).Checked := by
  unfold Rubric.supersededBy
  split
  · exact ⟨checked.named, checked.assigned, checked.bands, checked.concepts, checked.questions⟩
  · exact checked

/-- An active rubric leaves no other one active for its assignment. -/
theorem supersededBy_active {old r : Rubric} (active : (old.supersededBy r).status = .active) :
    old.supersededBy r = old ∧ ¬(r.status = .active ∧ old.assignmentId = r.assignmentId) := by
  unfold supersededBy at active ⊢
  split at active
  · cases active
  · rename_i apart
    exact ⟨if_neg apart, fun same => apart ⟨same.1, active, same.2⟩⟩

@[simp] theorem supersededBy_id (old r : Rubric) : (old.supersededBy r).id = old.id := by
  unfold supersededBy
  split <;> rfl

end Rubric

namespace RubricBank

/-- The bank after publications one after another, of which refused ones change nothing. -/
def publishAll (bank : RubricBank) (published : List Rubric) : RubricBank :=
  published.foldl (fun bank r => (bank.publish r).toOption.getD bank) bank

structure Sound (bank : RubricBank) : Prop where
  distinct : bank.keys.Nodup
  own : ∀ id r, bank.find? id = some r → r.id = id
  checked : ∀ id r, bank.find? id = some r → r.Checked
  /-- No assignment has two active rubrics. -/
  alone : ∀ id id' r r', bank.find? id = some r → bank.find? id' = some r' →
    r.status = .active → r'.status = .active → r.assignmentId = r'.assignmentId → id = id'

/-! ## Puts -/

/-- A checked rubric may be put in if it is not active for an assignment that another one serves. -/
theorem Sound.put {bank : RubricBank} (sound : bank.Sound) {r : Rubric} (checked : r.Checked)
    (free : r.status = .active → ∀ id old, id ≠ r.id → bank.find? id = some old →
      old.status = .active → old.assignmentId ≠ r.assignmentId) :
    Sound (Keyed.put bank r.id r) where
  distinct := Keyed.keys_put_nodup sound.distinct _ _
  own id r' found := by
    rw [Keyed.find?_put] at found
    split at found
    · rename_i same
      cases found
      exact same.symm
    · exact sound.own id r' found
  checked id r' found := by
    rw [Keyed.find?_put] at found
    split at found
    · cases found
      exact checked
    · exact sound.checked id r' found
  alone id id' old old' found found' active active' same := by
    rw [Keyed.find?_put] at found found'
    split at found <;> split at found'
    · rename_i here there
      exact here.trans there.symm
    · rename_i other
      cases found
      exact absurd same.symm (free active id' old' other found' active')
    · rename_i other _
      cases found'
      exact absurd same (free active' id old other found active)
    · exact sound.alone id id' old old' found found' active active' same

theorem empty_sound : Sound {} where
  distinct := List.nodup_nil
  own _ _ found := nomatch found
  checked _ _ found := nomatch found
  alone _ _ _ _ found := nomatch found

/-! ## Filling -/

/-- The assignments served are listed; a listed one may have lost its rubric to a later entry. -/
structure Filling.Sound (f : Filling) : Prop where
  bank : f.bank.Sound
  served : ∀ id r, f.bank.find? id = some r → r.status = .active → r.assignmentId ∈ f.served

theorem Filling.Sound.take {f : Filling} (sound : f.Sound) (r : Rubric) : (f.take r).Sound := by
  unfold Filling.take
  split
  · exact sound
  · rename_i valid
    have checked : r.Checked := (Rubric.isValid_iff r).mp (by simpa using valid)
    split
    · rename_i inactive
      refine ⟨sound.bank.put checked fun active => absurd active inactive, ?_⟩
      intro id r' found active
      rw [Keyed.find?_put] at found
      split at found
      · cases found
        exact absurd active inactive
      · exact sound.served id r' found active
    · split
      · exact sound
      · rename_i fresh
        rw [List.contains_iff_mem] at fresh
        refine ⟨sound.bank.put checked fun _ id old _ found active same =>
          fresh (same ▸ sound.served id old found active), ?_⟩
        intro id r' found active
        rw [Keyed.find?_put] at found
        split at found
        · cases found
          exact List.mem_cons_self
        · exact List.mem_cons_of_mem _ (sound.served id r' found active)

theorem ofRubrics_sound (rubrics : List Rubric) : (ofRubrics rubrics).Sound := by
  have filled : (rubrics.foldl Filling.take {}).Sound :=
    List.foldlRecOn rubrics Filling.take (motive := Filling.Sound)
      ⟨empty_sound, fun _ _ found => nomatch found⟩ fun f sound r _ => sound.take r
  unfold ofRubrics
  simp only
  split
  · exact filled.bank
  · rename_i absent
    simp only [Bool.or_eq_true, List.contains_iff_mem, not_or] at absent
    exact filled.bank.put starter_checked fun _ id old _ found active same =>
      absent.2 (same ▸ filled.served id old found active)

/-! ## Publishing -/

section

variable {bank bank' : RubricBank} {r : Rubric}

theorem keys_archiveOthers (bank : RubricBank) (r : Rubric) :
    (bank.archiveOthers r).keys = bank.keys := by
  simp only [Keyed.keys, archiveOthers, List.map_map]
  refine List.map_congr_left fun entry _ => ?_
  simp only [Function.comp_apply]
  split <;> rfl

theorem Sound.find?_archiveOthers (sound : bank.Sound) (active : r.status = .active) {id : String}
    (other : id ≠ r.id) :
    (bank.archiveOthers r).find? id = (bank.find? id).map (·.supersededBy r) := by
  have entries : (bank.archiveOthers r).entries = bank.entries.map fun e =>
      (e.1, if e.2.id ≠ r.id ∧ e.2.isActiveFor r.assignmentId then
        { e.2 with status := .archived } else e.2) := by
    refine List.map_congr_left fun e _ => ?_
    obtain ⟨key, old⟩ := e
    simp only [Bool.and_eq_true, decide_eq_true_eq]
    split <;> rfl
  rw [Keyed.find?, entries, Keyed.lookup_map_entries]
  refine Option.map_congr fun old found => ?_
  have apart : old.id ≠ r.id := sound.own id old found ▸ other
  simp only [Rubric.isActiveFor_iff, Rubric.supersededBy, active, apart, ne_eq, not_false_eq_true,
    true_and]

/-- The published rubric is found under its identifier. All others are as they were, except that an
active one makes way for an active one of its assignment. -/
theorem Sound.find?_publish (sound : bank.Sound) (published : bank.publish r = .ok bank')
    (id : String) :
    bank'.find? id = if id = r.id then some r else (bank.find? id).map (·.supersededBy r) := by
  obtain ⟨-, rfl⟩ := publish_eq_ok_iff.mp published
  rw [Keyed.find?_put]
  split
  · rfl
  · rename_i other
    split
    · rename_i active
      exact sound.find?_archiveOthers active other
    · rename_i inactive
      have kept (old : Rubric) : old.supersededBy r = old := if_neg fun same => inactive same.1
      simp [kept]

theorem Sound.publish (sound : bank.Sound) (published : bank.publish r = .ok bank') :
    bank'.Sound := by
  have found? := sound.find?_publish published
  obtain ⟨checked, same⟩ := publish_eq_ok_iff.mp published
  -- What is found after the publication is the rubric itself or what became of an older one.
  have origin (id : String) (r' : Rubric) (found : bank'.find? id = some r') :
      id = r.id ∧ r' = r ∨
        id ≠ r.id ∧ ∃ old, bank.find? id = some old ∧ r' = old.supersededBy r := by
    rw [found?] at found
    split at found
    · rename_i here
      exact .inl ⟨here, (Option.some.inj found).symm⟩
    · rename_i other
      obtain ⟨old, before, became⟩ := Option.map_eq_some_iff.mp found
      exact .inr ⟨other, old, before, became.symm⟩
  refine ⟨?_, ?_, ?_, ?_⟩
  · rw [same]
    refine Keyed.keys_put_nodup ?_ _ _
    split
    · rw [keys_archiveOthers]
      exact sound.distinct
    · exact sound.distinct
  · intro id r' found
    rcases origin id r' found with ⟨rfl, rfl⟩ | ⟨-, old, before, rfl⟩
    · rfl
    · rw [Rubric.supersededBy_id]
      exact sound.own id old before
  · intro id r' found
    rcases origin id r' found with ⟨-, rfl⟩ | ⟨-, old, before, rfl⟩
    · exact checked
    · exact (sound.checked id old before).supersededBy r
  · intro id id' r₁ r₂ found found' active active' same
    rcases origin id r₁ found with ⟨here, rfl⟩ | ⟨-, old, before, rfl⟩ <;>
      rcases origin id' r₂ found' with ⟨there, rfl⟩ | ⟨-, old', before', rfl⟩
    · exact here.trans there.symm
    · obtain ⟨kept, apart⟩ := Rubric.supersededBy_active active'
      exact absurd ⟨active, by rw [← kept, same]⟩ apart
    · obtain ⟨kept, apart⟩ := Rubric.supersededBy_active active
      exact absurd ⟨active', by rw [← kept, same]⟩ apart
    · have kept := (Rubric.supersededBy_active active).1
      have kept' := (Rubric.supersededBy_active active').1
      rw [kept] at active same
      rw [kept'] at active' same
      exact sound.alone id id' old old' before before' active active' same

end

theorem publishAll_sound {bank : RubricBank} (sound : bank.Sound) (published : List Rubric) :
    (bank.publishAll published).Sound := by
  refine List.foldlRecOn published _ (motive := Sound) sound fun bank sound r _ => ?_
  cases result : bank.publish r with
  | error e => exact sound
  | ok bank' => exact sound.publish result

/-! ## The active rubric -/

section

variable {bank : RubricBank}

theorem Sound.mem_values_iff (sound : bank.Sound) {r : Rubric} :
    r ∈ bank.values ↔ bank.find? r.id = some r := by
  rw [Keyed.mem_values_iff sound.distinct]
  constructor
  · rintro ⟨id, found⟩
    rwa [sound.own id r found]
  · exact fun found => ⟨_, found⟩

theorem Sound.active_unique (sound : bank.Sound) (assignmentId : String) :
    ∀ r ∈ bank.values, ∀ r' ∈ bank.values, r.isActiveFor assignmentId →
      r'.isActiveFor assignmentId → r = r' := by
  intro r member r' member' active active'
  rw [sound.mem_values_iff] at member member'
  rw [Rubric.isActiveFor_iff] at active active'
  have same := sound.alone _ _ _ _ member member' active.1 active'.1 (active.2.trans active'.2.symm)
  rw [same, member'] at member
  exact (Option.some.inj member).symm

theorem Sound.activeFor_eq_some_iff (sound : bank.Sound) {assignmentId : String} {r : Rubric} :
    bank.activeFor assignmentId = some r ↔
      bank.find? r.id = some r ∧ r.status = .active ∧ r.assignmentId = assignmentId := by
  rw [activeFor, find?_eq_some_iff_of_unique (sound.active_unique assignmentId),
    sound.mem_values_iff, Rubric.isActiveFor_iff]

/-- The order of the rubrics does not tell which one is active. -/
theorem Sound.activeFor_perm (sound : bank.Sound) {other : RubricBank}
    (reordered : other.entries.Perm bank.entries) (assignmentId : String) :
    other.activeFor assignmentId = bank.activeFor assignmentId := by
  have values : other.values.Perm bank.values := reordered.map Prod.snd
  have unique : ∀ r ∈ other.values, ∀ r' ∈ other.values, r.isActiveFor assignmentId →
      r'.isActiveFor assignmentId → r = r' := fun r member r' member' =>
    sound.active_unique assignmentId r (values.subset member) r' (values.subset member')
  refine Option.ext fun r => ?_
  rw [activeFor, activeFor, find?_eq_some_iff_of_unique unique,
    find?_eq_some_iff_of_unique (sound.active_unique assignmentId), values.mem_iff]

end

/-- After any publications to any bank that was filled: it is a map of checked rubrics by their
identifiers; an assignment has one active rubric at most, which is the one found for it in whatever
order the rubrics stand; and a further publication succeeds with checked rubrics, puts the rubric
under its identifier, makes it the active one of its assignment if it is active, and leaves all
others alone but for the rubric whose place it takes, which is archived. -/
theorem publications_keep_order (rubrics published : List Rubric) :
    let bank := (ofRubrics rubrics).publishAll published
    (bank.keys.Nodup ∧ ∀ id r, bank.find? id = some r → r.id = id ∧ r.check = .ok ()) ∧
    (∀ id id' r r', bank.find? id = some r → bank.find? id' = some r' → r.status = .active →
      r'.status = .active → r.assignmentId = r'.assignmentId → id = id' ∧ r = r') ∧
    (∀ assignmentId,
      (∀ r, bank.activeFor assignmentId = some r ↔
        bank.find? r.id = some r ∧ r.status = .active ∧ r.assignmentId = assignmentId) ∧
      ∀ other : RubricBank, other.entries.Perm bank.entries →
        other.activeFor assignmentId = bank.activeFor assignmentId) ∧
    ∀ r, ((∃ bank', bank.publish r = .ok bank') ↔ r.check = .ok ()) ∧
      ∀ bank', bank.publish r = .ok bank' →
        bank'.find? r.id = some r ∧
        (r.status = .active → bank'.activeFor r.assignmentId = some r) ∧
        ∀ id, id ≠ r.id →
          (∀ old, bank.find? id = some old → r.status = .active →
            bank.activeFor r.assignmentId = some old →
              bank'.find? id = some { old with status := .archived }) ∧
          (¬(r.status = .active ∧ ∃ old, bank.find? id = some old ∧
              bank.activeFor r.assignmentId = some old) →
            bank'.find? id = bank.find? id) := by
  intro bank
  have sound : bank.Sound := publishAll_sound (ofRubrics_sound rubrics) published
  refine ⟨⟨sound.distinct, fun id r found => ⟨sound.own id r found,
    (Rubric.check_eq_ok_iff r).mpr (sound.checked id r found)⟩⟩, ?_,
    fun assignmentId => ⟨fun r => sound.activeFor_eq_some_iff,
      fun other reordered => sound.activeFor_perm reordered assignmentId⟩, fun r => ⟨?_, ?_⟩⟩
  · intro id id' r r' found found' active active' same
    have here := sound.alone id id' r r' found found' active active' same
    refine ⟨here, ?_⟩
    rw [here, found'] at found
    exact (Option.some.inj found).symm
  · simp only [publish_eq_ok_iff, Rubric.check_eq_ok_iff]
    exact ⟨fun ⟨_, checked, _⟩ => checked, fun checked => ⟨_, checked, rfl⟩⟩
  · intro bank' success
    have found? := sound.find?_publish success
    have here : bank'.find? r.id = some r := by rw [found?, if_pos rfl]
    refine ⟨here, fun active => (sound.publish success).activeFor_eq_some_iff.mpr
      ⟨here, active, rfl⟩, fun id other => ⟨?_, ?_⟩⟩
    · intro old found active serving
      obtain ⟨-, oldActive, sameAssignment⟩ := sound.activeFor_eq_some_iff.mp serving
      rw [found?, if_neg other, found, Option.map_some, Rubric.supersededBy,
        if_pos ⟨active, oldActive, sameAssignment⟩]
    · intro apart
      rw [found?, if_neg other]
      cases found : bank.find? id with
      | none => rfl
      | some old =>
        rw [Option.map_some, Rubric.supersededBy, if_neg]
        rintro ⟨active, oldActive, sameAssignment⟩
        exact apart ⟨active, old, found, sound.activeFor_eq_some_iff.mpr
          ⟨sound.own id old found ▸ found, oldActive, sameAssignment⟩⟩

end RubricBank

end OralExam
