import OralExam.Proofs.Service.Sequence

/-! One open session for a student and an assignment, and attempts numbered without gaps.

The slot of a pair is taken by the step that puts a session in and freed by a later step of whichever
call ends it. What ties the two together is the snapshot: it is written before the slot is freed, and
never shows a session as ended that goes on. So a session that its snapshot shows as open is named in
its slot, and all that is open is shown so.
-/

set_option autoImplicit false

namespace OralExam

namespace Registry

/-- All sessions, in the order of their creation. -/
def sessions (r : Registry) : List Session := r.cells.values.map Cell.session

/-- The numbers of the pair's attempts, in the order of their creation. -/
def attemptsOf (r : Registry) (pair : String × String) : List Nat :=
  (r.sessions.filter (·.pair = pair)).map Session.attempt

/-- A session of the pair has not ended, in its cell or in its snapshot. -/
def IsOpen (r : Registry) (pair : String × String) (id : String) : Prop :=
  ∃ s, (r.live? id = some s ∨ r.snapshot? id = some s) ∧ s.pair = pair ∧ ¬s.status.isTerminal

/-- The session has ended, and its snapshot shows it as it is. -/
def HasEnded (r : Registry) (id : String) : Prop :=
  ∃ s, r.live? id = some s ∧ r.snapshot? id = some s ∧ s.status.isTerminal

/-- Each pair has one open session at most, the one in its slot, and the slot counts all of them. -/
structure Exclusive (r : Registry) : Prop where
  single : ∀ pair id id', r.IsOpen pair id → r.IsOpen pair id' → id = id'
  named : ∀ pair id, r.IsOpen pair id → (r.slot pair).active = some id
  attempts : ∀ pair, r.attemptsOf pair = List.range' 1 (r.slot pair).attempts

/-- A slot lets go only of a session that has ended. -/
def HoldsOn (r r' : Registry) : Prop :=
  ∀ pair id, (r.slot pair).active = some id → (r'.slot pair).active = some id ∨ r.HasEnded id

/-- What a step of any call keeps. -/
structure Slotted (r : Registry) : Prop where
  named : ∀ id t, r.snapshot? id = some t → ¬t.status.isTerminal →
    (r.slot t.pair).active = some id
  attempts : ∀ pair, r.attemptsOf pair = List.range' 1 (r.slot pair).attempts

variable {settings : Settings} {r r' : Registry} {history log : List (String × Deed)}

theorem attemptsOf_eq (r : Registry) (pair : String × String) :
    r.attemptsOf pair =
      ((r.cells.values.map fun c => (c.session.pair, c.session.attempt)).filter
        (·.1 = pair)).map Prod.snd := by
  simp [attemptsOf, sessions, List.filter_map, Function.comp_def]

/-- Work on a session does not renumber it. -/
theorem attemptsOf_setCell {id : String} {s s' : Session} {held held' : Bool}
    (found : r.cells.find? id = some ⟨s, held⟩) (same : s'.origin = s.origin)
    (pair : String × String) : (r.setCell id ⟨s', held'⟩).attemptsOf pair = r.attemptsOf pair := by
  have own : s'.pair = s.pair := congrArg Session.Origin.pair same
  have number : s'.attempt = s.attempt := congrArg Session.Origin.attempt same
  rw [attemptsOf_eq, attemptsOf_eq, setCell,
    Keyed.map_values_put (fun c : Cell => (c.session.pair, c.session.attempt)) found
      (by simp only [own, number])]

theorem sessions_enter {s : Session} (fresh : s.id ∉ r.cells.keys) :
    (r.enter s).sessions = r.sessions ++ [s] := by
  rw [sessions, cells_enter, Keyed.values_put_of_notMem fresh, List.map_append]
  rfl

theorem attemptsOf_enter {s : Session} (fresh : s.id ∉ r.cells.keys) (pair : String × String) :
    (r.enter s).attemptsOf pair =
      r.attemptsOf pair ++ if s.pair = pair then [s.attempt] else [] := by
  rw [attemptsOf, sessions_enter fresh, List.filter_append, List.map_append]
  congr 1
  by_cases own : s.pair = pair
  · simp [own]
  · simp [own]

namespace Slotted

/-- Locks and work do not matter, as long as the snapshots stay. -/
theorem setCell (slotted : r.Slotted) {id : String} {s s' : Session} {held held' : Bool}
    (found : r.cells.find? id = some ⟨s, held⟩) (same : s'.origin = s.origin) :
    (r.setCell id ⟨s', held'⟩).Slotted := by
  refine ⟨slotted.named, ?_⟩
  intro pair
  rw [attemptsOf_setCell found same, slotted.attempts]
  rfl

theorem enter (slotted : r.Slotted) {s : Session} (fresh : s.id ∉ r.cells.keys)
    (vacant : (r.slot s.pair).active = none) (next : s.attempt = (r.slot s.pair).attempts + 1) :
    (r.enter s).Slotted := by
  constructor
  · intro id t shown going
    rw [snapshot?_enter] at shown
    rw [slot_enter]
    by_cases own : id = s.id
    · rw [if_pos own] at shown
      cases shown
      rw [if_pos rfl, own]
    · rw [if_neg own] at shown
      have named := slotted.named id t shown going
      -- The pair that was vacant is not the one of a session that is open.
      have apart : t.pair ≠ s.pair := by
        intro same
        rw [same, vacant] at named
        cases named
      rw [if_neg apart, named]
  · intro pair
    rw [attemptsOf_enter fresh, slot_enter, slotted.attempts]
    by_cases own : s.pair = pair
    · subst own
      rw [if_pos rfl, if_pos rfl, next, List.range'_1_concat, Nat.add_comm 1]
    · rw [if_neg own, if_neg (Ne.symm own), List.append_nil]

/-- What a snapshot newly shows as open was shown so before. -/
theorem writeSnapshot (slotted : r.Slotted) (traced : r.Traced settings history) {s : Session}
    (live : r.live? s.id = some s) : (r.writeSnapshot s).Slotted := by
  refine ⟨?_, slotted.attempts⟩
  intro id t shown going
  rw [slot_writeSnapshot]
  rw [snapshot?_writeSnapshot] at shown
  split at shown
  · rename_i own
    cases shown
    -- It showed an earlier stage, and who goes on now went on then.
    obtain ⟨s₀, earlier, later, t, -, -, -, course, before⟩ := traced.lived s.id s live
    have going' : ¬t.status.isTerminal := fun ended => going (course.isTerminal ended)
    have same : s.pair = t.pair := congrArg Session.Origin.pair course.origin_eq
    rw [own, same]
    exact slotted.named s.id t before going'
  · exact slotted.named id t shown going

/-- The slot that is freed names a session that its snapshot shows as ended. -/
theorem releaseSlot (slotted : r.Slotted) {s : Session} (written : r.snapshot? s.id = some s) :
    (r.releaseSlot s).Slotted := by
  constructor
  · intro id t shown going
    rw [snapshot?_releaseSlot] at shown
    have named := slotted.named id t shown going
    rw [slot_releaseSlot]
    split
    · rename_i freed
      obtain ⟨-, ended, active⟩ := freed
      rw [named] at active
      cases active
      -- The snapshot was written before, so it does not show the session as open.
      rw [written] at shown
      cases shown
      exact absurd ended going
    · exact named
  · intro pair
    have count : ((r.releaseSlot s).slot pair).attempts = (r.slot pair).attempts := by
      rw [slot_releaseSlot]
      split <;> rfl
    rw [count, ← slotted.attempts, attemptsOf, sessions, cells_releaseSlot]
    rfl

theorem change (slotted : r.Slotted) (traced : r.Traced settings history)
    (change : Change settings r log r') : r'.Slotted := by
  cases change with
  | kept => exact slotted
  | entered opens next fresh vacant attempt => exact slotted.enter fresh vacant attempt
  | held found held' => exact slotted.setCell found rfl
  | seen live step => exact slotted
  | changed found step => exact slotted.setCell found step.origin_eq
  | written live => exact slotted.writeSnapshot traced live
  | released live written => exact slotted.releaseSlot written

theorem exclusive (slotted : r.Slotted) (traced : r.Traced settings history) : r.Exclusive := by
  have named (pair : String × String) (id : String) (isOpen : r.IsOpen pair id) :
      (r.slot pair).active = some id := by
    obtain ⟨s, live | shown, rfl, going⟩ := isOpen
    · -- Open in its cell, it is shown as open too, at whatever stage.
      obtain ⟨s₀, earlier, later, t, -, -, -, course, shown⟩ := traced.lived id s live
      have going' : ¬t.status.isTerminal := fun ended => going (course.isTerminal ended)
      have same : s.pair = t.pair := congrArg Session.Origin.pair course.origin_eq
      rw [same, ← traced.named id s live]
      exact slotted.named s.id t shown going'
    · exact slotted.named id s shown going
  refine ⟨?_, named, slotted.attempts⟩
  intro pair id id' first second
  exact Option.some.inj ((named pair id first).symm.trans (named pair id' second))

end Slotted

theorem Change.holdsOn (change : Change settings r log r') : r.HoldsOn r' := by
  intro pair id named
  cases change with
  | kept | held | seen | changed | written => exact .inl named
  | @entered s opens next fresh vacant attempt =>
    rw [slot_enter]
    split
    · rename_i own
      rw [own, vacant] at named
      cases named
    · exact .inl named
  | @released s live written =>
    rw [slot_releaseSlot]
    split
    · rename_i freed
      obtain ⟨-, ended, active⟩ := freed
      rw [named] at active
      cases active
      exact .inr ⟨s, live, written, ended⟩
    · exact .inl named

/-- New sessions come after the old ones. -/
theorem Change.keys_prefix (change : Change settings r log r') : r.cells.keys <+: r'.cells.keys := by
  cases change with
  | kept | seen | written => exact List.prefix_rfl
  | entered opens next fresh vacant attempt =>
    rw [cells_enter, Keyed.keys_put_of_notMem fresh]
    exact List.prefix_append _ _
  | held found held' => exact ⟨[], by rw [List.append_nil, keys_setCell found]⟩
  | changed found step => exact ⟨[], by rw [List.append_nil, keys_setCell found]⟩
  | released live written => exact ⟨[], by rw [List.append_nil, cells_releaseSlot]⟩

end Registry

namespace World

variable {settings : Settings} {w : World}

theorem Reachable.exclusive (reachable : Reachable settings w) : w.registry.Exclusive := by
  have slotted : w.registry.Traced settings w.history ∧ w.registry.Slotted := by
    refine reachable.registry_induction
      (P := fun r history => r.Traced settings history ∧ r.Slotted) ?_ ?_
    · refine ⟨.empty settings, ?_, fun pair => rfl⟩
      intro id t shown
      cases shown
    · rintro r history log r' ⟨traced, slotted⟩ change
      exact ⟨traced.change change, slotted.change traced change⟩
  exact slotted.2.exclusive slotted.1

theorem Reachable.keys_prefix (reachable : Reachable settings w) (later : List Event) :
    w.registry.cells.keys <+: (w.run later).registry.cells.keys := by
  induction later using List.reverseRecOn with
  | nil => exact List.prefix_rfl
  | append_singleton later event ih =>
    obtain ⟨log, change, -⟩ := (reachable.run later).change event
    rw [run_append]
    exact ih.trans change.keys_prefix

/-- However the steps of the calls come, no pair has two open sessions, a slot holds on to its session
until that has ended, and attempts are numbered one by one as they are put in. -/
theorem attempts_exclusive (settings : Settings) (events : List Event)
    (requests : List (Request × Instant)) :
    let w := (begin settings).run events
    w.registry.Exclusive ∧
    (∀ event, w.registry.HoldsOn (w.step event).registry) ∧
    (∀ later, w.registry.cells.keys <+: (w.run later).registry.cells.keys) ∧
    ((Service.ofSettings settings).run requests).registry.Exclusive := by
  have reachable : Reachable settings ((begin settings).run events) := ⟨events, rfl⟩
  refine ⟨reachable.exclusive, ?_, reachable.keys_prefix, ?_⟩
  · intro event
    obtain ⟨log, change, -⟩ := reachable.change event
    exact change.holdsOn
  · obtain ⟨w, served, same, -⟩ := reachable_run settings requests
    rw [← same]
    exact served.exclusive

end World

end OralExam
