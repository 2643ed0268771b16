import OralExam.Proofs.Service.Change

/-! How the sessions of the registry came to be what they are.

Every session opened once and went through the deeds that the history has for it, in their order; its
snapshot is an earlier stage of the same course.
-/

set_option autoImplicit false

namespace OralExam

/-- The deeds that a history has for one session. -/
def deedsOf (history : List (String × Deed)) (id : String) : List Deed :=
  (history.filter (·.1 = id)).map Prod.snd

section

variable {history : List (String × Deed)} {id : String}

@[simp] theorem deedsOf_append (history later : List (String × Deed)) (id : String) :
    deedsOf (history ++ later) id = deedsOf history id ++ deedsOf later id := by
  simp [deedsOf]

@[simp] theorem deedsOf_single (deed : Deed) (id : String) : deedsOf [(id, deed)] id = [deed] := by
  simp [deedsOf]

theorem deedsOf_single_of_ne (deed : Deed) {other : String} (apart : id ≠ other) :
    deedsOf [(other, deed)] id = [] := by
  simp [deedsOf, Ne.symm apart]

theorem deedsOf_eq_nil (unheard : ∀ entry ∈ history, entry.1 ≠ id) : deedsOf history id = [] := by
  rw [deedsOf, List.map_eq_nil_iff, List.filter_eq_nil_iff]
  simpa using unheard

end

namespace Registry

variable {settings : Settings} {r r' : Registry} {history : List (String × Deed)} {s : Session}

/-- The session opened, came by earlier deeds to what its snapshot shows and by later ones to what
it is. -/
def Lived (settings : Settings) (r : Registry) (deeds : List Deed) (s : Session) : Prop :=
  ∃ s₀ earlier later t, Session.Opens settings s₀ ∧ deeds = earlier ++ later ∧
    Session.Course settings s₀ earlier t ∧ Session.Course settings t later s ∧
    r.snapshot? s.id = some t

/-- Every session has lived by its deeds. -/
structure Traced (settings : Settings) (r : Registry) (history : List (String × Deed)) : Prop where
  named : ∀ id s, r.live? id = some s → s.id = id
  shown : ∀ id, (r.snapshot? id).isSome → (r.live? id).isSome
  logged : ∀ entry ∈ history, (r.live? entry.1).isSome
  lived : ∀ id s, r.live? id = some s → r.Lived settings (deedsOf history id) s

theorem Lived.congr {deeds : List Deed} (lived : r.Lived settings deeds s)
    (same : r'.snapshot? s.id = r.snapshot? s.id) : r'.Lived settings deeds s := by
  obtain ⟨s₀, earlier, later, t, opens, split, before, after, shown⟩ := lived
  exact ⟨s₀, earlier, later, t, opens, split, before, after, same.trans shown⟩

theorem Lived.next {deeds : List Deed} {deed : Deed} {s' : Session}
    (lived : r.Lived settings deeds s) (step : Session.Step settings s deed s')
    (same : r'.snapshot? s.id = r.snapshot? s.id) : r'.Lived settings (deeds ++ [deed]) s' := by
  obtain ⟨s₀, earlier, later, t, opens, rfl, before, after, shown⟩ := lived
  refine ⟨s₀, earlier, later ++ [deed], t, opens, List.append_assoc _ _ _, before,
    after.next step, ?_⟩
  rw [step.id_eq, same, shown]

namespace Traced

/-- Locks and slots do not matter. -/
theorem congr (traced : r.Traced settings history) (live : ∀ id, r'.live? id = r.live? id)
    (shown : ∀ id, r'.snapshot? id = r.snapshot? id) : r'.Traced settings history := by
  constructor
  · intro id s found
    exact traced.named id s (live id ▸ found)
  · intro id found
    rw [live]
    exact traced.shown id (shown id ▸ found)
  · intro entry member
    rw [live]
    exact traced.logged entry member
  · intro id s found
    exact (traced.lived id s (live id ▸ found)).congr (shown s.id)

/-- A deed is done to one session, and the history says so. -/
theorem next (traced : r.Traced settings history) {s' : Session} {deed : Deed}
    (before : r.live? s.id = some s) (step : Session.Step settings s deed s')
    (live : ∀ id, r'.live? id = if id = s.id then some s' else r.live? id)
    (shown : ∀ id, r'.snapshot? id = r.snapshot? id) :
    r'.Traced settings (history ++ [(s.id, deed)]) := by
  constructor
  · intro id t found
    rw [live] at found
    split at found
    · rename_i own
      cases found
      rw [own, step.id_eq]
    · exact traced.named id t found
  · intro id found
    rw [live]
    split
    · rfl
    · exact traced.shown id (shown id ▸ found)
  · intro entry member
    rw [live]
    split
    · rfl
    · rename_i apart
      rcases List.mem_append.mp member with old | new
      · exact traced.logged entry old
      · exact absurd (congrArg Prod.fst (List.mem_singleton.mp new)) apart
  · intro id t found
    rw [live] at found
    rw [deedsOf_append]
    split at found
    · rename_i own
      cases found
      subst own
      rw [deedsOf_single]
      exact (traced.lived s.id s before).next step (shown _)
    · rename_i apart
      rw [deedsOf_single_of_ne _ apart, List.append_nil]
      exact (traced.lived id t found).congr (shown _)

theorem enter (traced : r.Traced settings history) (opens : Session.Opens settings s)
    (fresh : s.id ∉ r.cells.keys) : (r.enter s).Traced settings history := by
  have unborn := live?_of_fresh fresh
  constructor
  · intro id t found
    rw [live?_enter] at found
    split at found
    · rename_i own
      cases found
      exact own.symm
    · exact traced.named id t found
  · intro id found
    rw [live?_enter]
    rw [snapshot?_enter] at found
    split
    · rfl
    · rename_i apart
      rw [if_neg apart] at found
      exact traced.shown id found
  · intro entry member
    rw [live?_enter]
    split
    · rfl
    · exact traced.logged entry member
  · intro id t found
    rw [live?_enter] at found
    split at found
    · rename_i own
      cases found
      subst own
      -- Deeds are done to sessions that are there, and this one was not.
      have unheard : deedsOf history s.id = [] := by
        apply deedsOf_eq_nil
        intro entry member same
        have known := traced.logged entry member
        rw [same, unborn] at known
        cases known
      refine ⟨s, [], [], s, opens, unheard, .start, .start, ?_⟩
      rw [snapshot?_enter, if_pos rfl]
    · rename_i apart
      apply (traced.lived id t found).congr
      rw [snapshot?_enter, traced.named id t found, if_neg apart]

theorem write (traced : r.Traced settings history) (live : r.live? s.id = some s) :
    (r.writeSnapshot s).Traced settings history := by
  refine ⟨traced.named, ?_, traced.logged, ?_⟩
  · intro id found
    rw [snapshot?_writeSnapshot] at found
    rw [live?_writeSnapshot]
    split at found
    · rename_i own
      rw [own, live]
      rfl
    · exact traced.shown id found
  · intro id t found
    have lived := traced.lived id t found
    by_cases own : id = s.id
    · subst own
      rw [live?_writeSnapshot, live] at found
      cases found
      -- The snapshot has caught up with all later deeds.
      obtain ⟨s₀, earlier, later, u, opens, split, before, after, -⟩ := lived
      refine ⟨s₀, earlier ++ later, [], s, opens, ?_, before.resume after, .start, ?_⟩
      · rw [split, List.append_nil]
      · rw [snapshot?_writeSnapshot, if_pos rfl]
    · apply lived.congr
      rw [snapshot?_writeSnapshot, traced.named id t found, if_neg own]

theorem change (traced : r.Traced settings history) {log : List (String × Deed)}
    (change : Change settings r log r') : r'.Traced settings (history ++ log) := by
  cases change with
  | kept => simpa using traced
  | entered opens next fresh vacant attempt => simpa using traced.enter opens fresh
  | @held s held found held' =>
    rw [List.append_nil]
    exact traced.congr (live?_setCell_of_find? found held') fun _ => rfl
  | seen live step =>
    refine traced.next live step ?_ fun _ => rfl
    intro id
    split
    · rename_i own
      rw [own, live]
    · rfl
  | @changed s s' held deed found step =>
    exact traced.next (live?_of_find? found) step (fun id => live?_setCell r s.id id _) fun _ => rfl
  | written live => simpa using traced.write live
  | released live written =>
    rw [List.append_nil]
    exact traced.congr (live?_releaseSlot r _) (snapshot?_releaseSlot r _)

theorem empty (settings : Settings) : ({} : Registry).Traced settings [] := by
  constructor
  · intro id s found
    cases found
  · intro id found
    cases found
  · intro entry member
    cases member
  · intro id s found
    cases found

end Traced

end Registry

namespace Registry

variable {settings : Settings} {r r' r'' : Registry} {history log : List (String × Deed)}

/-- It holds of all sessions, as they are and as their snapshots show them. -/
def Every (P : Session → Prop) (r : Registry) : Prop :=
  ∀ id s, (r.live? id = some s ∨ r.snapshot? id = some s) → P s

namespace Every

variable {P : Session → Prop}

theorem empty (P : Session → Prop) : ({} : Registry).Every P := by
  rintro id s (live | shown)
  · cases live
  · cases shown

theorem mono {Q : Session → Prop} (every : r.Every P) (weaker : ∀ s, P s → Q s) : r.Every Q :=
  fun id s found => weaker s (every id s found)

theorem congr (every : r.Every P) (live : ∀ id, r'.live? id = r.live? id)
    (shown : ∀ id, r'.snapshot? id = r.snapshot? id) : r'.Every P := by
  intro id s found
  rw [live, shown] at found
  exact every id s found

theorem enter (every : r.Every P) {s : Session} (own : P s) : (r.enter s).Every P := by
  intro id t found
  rw [live?_enter, snapshot?_enter] at found
  split at found
  · rw [or_self] at found
    cases found
    exact own
  · exact every id t found

theorem update (every : r.Every P) {id : String} {s s' : Session} (live : r.live? id = some s)
    (own : P s') : (r.update id fun _ => s').Every P := by
  obtain ⟨held, found⟩ := live?_eq_some_iff.mp live
  rw [update_of_find? found]
  rintro other t (live' | shown)
  · rw [live?_setCell] at live'
    split at live'
    · cases live'
      exact own
    · exact every other t (.inl live')
  · exact every other t (.inr shown)

theorem writeSnapshot (every : r.Every P) {s : Session} (own : P s) :
    (r.writeSnapshot s).Every P := by
  rintro id t (live | shown)
  · exact every id t (.inl live)
  · rw [snapshot?_writeSnapshot] at shown
    split at shown
    · cases shown
      exact own
    · exact every id t (.inr shown)

end Every

/-- A session is what the deeds that the history has for it have made of it. -/
theorem Traced.live_course (traced : r.Traced settings history) {id : String} {s : Session}
    (live : r.live? id = some s) :
    ∃ s₀, Session.Opens settings s₀ ∧ Session.Course settings s₀ (deedsOf history id) s := by
  obtain ⟨s₀, earlier, later, t, opens, split, before, after, -⟩ := traced.lived id s live
  exact ⟨s₀, opens, split ▸ before.resume after⟩

/-- A snapshot is a stage of the course of its session. -/
theorem Traced.shown_course (traced : r.Traced settings history) {id : String} {t : Session}
    (shown : r.snapshot? id = some t) :
    ∃ s₀ earlier later s, Session.Opens settings s₀ ∧ deedsOf history id = earlier ++ later ∧
      Session.Course settings s₀ earlier t ∧ Session.Course settings t later s ∧
      r.live? id = some s := by
  obtain ⟨s, live⟩ := Option.isSome_iff_exists.mp (traced.shown id (by rw [shown]; rfl))
  obtain ⟨s₀, earlier, later, u, opens, split, before, after, same⟩ := traced.lived id s live
  rw [traced.named id s live, shown] at same
  cases same
  exact ⟨s₀, earlier, later, s, opens, split, before, after, live⟩

theorem Traced.reached (traced : r.Traced settings history) :
    r.Every (Session.Reached settings) := by
  intro id s found
  rcases found with live | shown
  · obtain ⟨s₀, opens, course⟩ := traced.live_course live
    exact ⟨s₀, _, opens, course⟩
  · obtain ⟨s₀, earlier, later, u, opens, -, before, -, -⟩ := traced.shown_course shown
    exact ⟨s₀, _, opens, before⟩

/-- A snapshot stands under the identifier of the session that it shows. -/
theorem Traced.shown_named (traced : r.Traced settings history) {id : String} {t : Session}
    (shown : r.snapshot? id = some t) : t.id = id := by
  obtain ⟨s₀, earlier, later, s, -, -, -, after, live⟩ := traced.shown_course shown
  exact (congrArg Session.Origin.id after.origin_eq).symm.trans (traced.named id s live)

/-- What the history tells happened to a session that can come up. -/
theorem Traced.step_of_mem (traced : r.Traced settings history) {entry : String × Deed}
    (member : entry ∈ history) :
    ∃ s s', Session.Reached settings s ∧ Session.Step settings s entry.2 s' := by
  obtain ⟨s, live⟩ := Option.isSome_iff_exists.mp (traced.logged entry member)
  obtain ⟨s₀, opens, course⟩ := traced.live_course live
  have heard : entry.2 ∈ deedsOf history entry.1 :=
    List.mem_map_of_mem (List.mem_filter.mpr ⟨member, by simp⟩)
  obtain ⟨earlier, t, t', before, step⟩ := course.step_of_mem heard
  exact ⟨t, t', ⟨s₀, earlier, opens, before⟩, step⟩

/-- Every session of the first registry has gone on to what it is in the second, and so has its
snapshot. -/
structure Continues (settings : Settings) (r r' : Registry) : Prop where
  live : ∀ id s, r.live? id = some s →
    ∃ deeds s', r'.live? id = some s' ∧ Session.Course settings s deeds s'
  shown : ∀ id s, r.snapshot? id = some s →
    ∃ deeds s', r'.snapshot? id = some s' ∧ Session.Course settings s deeds s'

namespace Continues

theorem congr (live : ∀ id, r'.live? id = r.live? id)
    (shown : ∀ id, r'.snapshot? id = r.snapshot? id) : Continues settings r r' :=
  ⟨fun id s found => ⟨[], s, (live id).trans found, .start⟩,
    fun id s found => ⟨[], s, (shown id).trans found, .start⟩⟩

theorem trans (first : Continues settings r r') (second : Continues settings r' r'') :
    Continues settings r r'' := by
  constructor
  · intro id s found
    obtain ⟨deeds, s', found', course⟩ := first.live id s found
    obtain ⟨deeds', s'', found'', course'⟩ := second.live id s' found'
    exact ⟨_, s'', found'', course.resume course'⟩
  · intro id s found
    obtain ⟨deeds, s', found', course⟩ := first.shown id s found
    obtain ⟨deeds', s'', found'', course'⟩ := second.shown id s' found'
    exact ⟨_, s'', found'', course.resume course'⟩

end Continues

theorem Change.continues (change : Change settings r log r') (traced : r.Traced settings history) :
    Continues settings r r' := by
  cases change with
  | kept | seen => exact .congr (fun _ => rfl) fun _ => rfl
  | @entered s opens next fresh vacant attempt =>
    have apart (id : String) (known : (r.live? id).isSome) : id ≠ s.id := by
      rintro rfl
      rw [live?_of_fresh fresh] at known
      cases known
    constructor
    · intro id t found
      have other := apart id (by rw [found]; rfl)
      refine ⟨[], t, ?_, .start⟩
      rw [live?_enter, if_neg other, found]
    · intro id t found
      have other := apart id (traced.shown id (by rw [found]; rfl))
      refine ⟨[], t, ?_, .start⟩
      rw [snapshot?_enter, if_neg other, found]
  | @held s held found held' =>
    exact .congr (live?_setCell_of_find? found held') fun _ => rfl
  | @changed s s' held deed found step =>
    refine ⟨?_, fun id t shown => ⟨[], t, shown, .start⟩⟩
    intro id t live
    by_cases own : id = s.id
    · subst own
      rw [live?_of_find? found] at live
      cases live
      exact ⟨_, s', live?_of_find? (find?_setCell_self _ _ _), .next .start step⟩
    · refine ⟨[], t, ?_, .start⟩
      rw [live?_setCell, if_neg own, live]
  | @written s live =>
    refine ⟨fun id t found => ⟨[], t, found, .start⟩, ?_⟩
    intro id t found
    rw [snapshot?_writeSnapshot]
    split
    · rename_i own
      subst own
      obtain ⟨s₀, earlier, later, u, -, -, -, course, shown⟩ := traced.lived s.id s live
      rw [found] at shown
      cases shown
      exact ⟨later, s, rfl, course⟩
    · exact ⟨[], t, found, .start⟩
  | released live written => exact .congr (live?_releaseSlot r _) (snapshot?_releaseSlot r _)

end Registry

/-- What holds of the session that a start puts in, and is kept by work on a session, holds of all
sessions after a step if it did before. -/
theorem Call.every_step {P : Session → Prop} {v : Service} {now : Instant} {c : Call}
    (every : v.registry.Every P)
    (opened : ∀ assignment studentId rubric chosen, c = opening assignment studentId rubric →
      P (v.firstAsked assignment studentId rubric now chosen))
    (worked : ∀ id task sweep s, c = working id task sweep .locked → P s →
      P ((task.perform v.settings now s).session s)) :
    (c.step v now).service.registry.Every P := by
  have move := c.step_move v now
  generalize c.step v now = progress at move
  cases move with
  | stayed | turned | chosen | left | alerted => exact every
  | @opened assignment studentId rubric =>
    rcases v.openSession_cases assignment studentId rubric now with
      ⟨e, -, refused⟩ | ⟨chosen, pending, c, q, -, -, -, entered⟩
    · rw [refused]
      exact every
    · rw [entered]
      exact every.enter (opened assignment studentId rubric chosen rfl)
  | published =>
    rw [Service.registry_publish]
    exact every
  | locked free => exact every.congr (Registry.live?_setCell_of_find? free true) fun _ => rfl
  | @changed id task sweep s s' alert report live body =>
    have own := worked id task sweep s rfl (every id s (.inl live))
    rw [body] at own
    exact every.update live own
  | @written id task sweep s alert report live => exact every.writeSnapshot (every id s (.inl live))
  | released live =>
    exact every.congr (Registry.live?_releaseSlot _ _) (Registry.snapshot?_releaseSlot _ _)
  | @unlocked id task sweep report c after =>
    exact every.congr (Registry.live?_unlock _ id) (Registry.snapshot?_unlock _ id)

namespace World

variable {settings : Settings} {w : World}

theorem Reachable.traced (reachable : Reachable settings w) :
    w.registry.Traced settings w.history :=
  reachable.registry_induction (P := fun r history => r.Traced settings history) (.empty settings)
    fun _ _ _ _ traced change => traced.change change

theorem Reachable.keys_nodup (reachable : Reachable settings w) :
    w.registry.snapshots.keys.Nodup := by
  rw [reachable.orderly.numbered.snapshots]
  exact reachable.orderly.numbered.nodup

theorem Reachable.map_id_snapshots (reachable : Reachable settings w) :
    w.registry.snapshots.values.map Session.id = w.registry.snapshots.keys := by
  rw [Keyed.values, Keyed.keys, List.map_map]
  refine List.map_congr_left fun entry member => ?_
  exact reachable.traced.shown_named (Keyed.find?_of_mem reachable.keys_nodup member)

/-- The sessions that are shown have different identifiers. -/
theorem Reachable.nodup_ids (reachable : Reachable settings w) :
    (w.registry.snapshots.values.map Session.id).Nodup := by
  rw [reachable.map_id_snapshots]
  exact reachable.keys_nodup

theorem Reachable.continues (reachable : Reachable settings w) (later : List Event) :
    Registry.Continues settings w.registry (w.run later).registry := by
  induction later using List.reverseRecOn with
  | nil => exact .congr (fun _ => rfl) fun _ => rfl
  | append_singleton later event ih =>
    have before := reachable.run later
    obtain ⟨log, change, -⟩ := before.change event
    rw [run_append]
    exact ih.trans (change.continues before.traced)

end World

end OralExam
