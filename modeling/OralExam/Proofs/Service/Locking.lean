import OralExam.Proofs.Service.Opening

/-! What the locks guarantee.

One call at a time works on a session. While nobody does, its snapshot shows it as it is and no slot
is kept for it once it has ended; a worker has these restored before it gives the lock back.
-/

set_option autoImplicit false

namespace OralExam

/-! ## Identifiers -/

namespace Registry

/-- Cells and snapshots stand under the numbers of the sessions, in the order of their creation. -/
structure Numbered (r : Registry) : Prop where
  cells : r.cells.keys = (List.range' 1 r.cells.entries.length).map Service.sessionId
  snapshots : r.snapshots.keys = r.cells.keys
  named : ∀ id s, r.live? id = some s → s.id = id

namespace Numbered

variable {r : Registry} {id : String} {s : Session}

theorem fresh (numbered : r.Numbered) :
    Service.sessionId (r.cells.entries.length + 1) ∉ r.cells.keys := by
  rw [numbered.cells, List.mem_map]
  rintro ⟨number, member, same⟩
  have next : number = r.cells.entries.length + 1 := Service.sessionId_injective same
  rw [List.mem_range'_1] at member
  omega

/-- No identifier is used twice. -/
theorem nodup (numbered : r.Numbered) : r.cells.keys.Nodup := by
  rw [numbered.cells]
  exact List.Nodup.map Service.sessionId_injective List.nodup_range'

theorem setCell (numbered : r.Numbered) {held held' : Bool} {s' : Session}
    (found : r.cells.find? id = some ⟨s, held⟩) (same : s'.id = s.id) :
    (r.setCell id ⟨s', held'⟩).Numbered := by
  have keys := keys_setCell found ⟨s', held'⟩
  have length : (r.setCell id ⟨s', held'⟩).cells.entries.length = r.cells.entries.length := by
    simpa [Keyed.keys] using congrArg List.length keys
  refine ⟨by rw [keys, length, numbered.cells], by rw [keys]; exact numbered.snapshots, ?_⟩
  intro other t live
  rw [live?_setCell] at live
  split at live
  · rename_i own
    cases live
    rw [own]
    exact same.trans (numbered.named id s (live?_of_find? found))
  · exact numbered.named other t live

theorem writeSnapshot (numbered : r.Numbered) (live : r.live? id = some s) :
    (r.writeSnapshot s).Numbered := by
  obtain ⟨held, found⟩ := live?_eq_some_iff.mp live
  have known : s.id ∈ r.snapshots.keys := by
    rw [numbered.snapshots, numbered.named _ _ live]
    exact mem_keys_of_find? found
  exact ⟨numbered.cells, (Keyed.keys_put_of_mem known s).trans numbered.snapshots, numbered.named⟩

theorem releaseSlot (numbered : r.Numbered) (s : Session) : (r.releaseSlot s).Numbered := by
  -- Only slots are touched, in each of the three branches.
  have snapshots : (r.releaseSlot s).snapshots = r.snapshots := by
    unfold Registry.releaseSlot
    split
    · rfl
    · split <;> rfl
  refine ⟨?_, ?_, ?_⟩
  · rw [cells_releaseSlot]
    exact numbered.cells
  · rw [cells_releaseSlot, snapshots]
    exact numbered.snapshots
  · simpa using numbered.named

theorem enter (numbered : r.Numbered)
    (next : s.id = Service.sessionId (r.cells.entries.length + 1)) : (r.enter s).Numbered := by
  have fresh : s.id ∉ r.cells.keys := next ▸ numbered.fresh
  have unseen : s.id ∉ r.snapshots.keys := numbered.snapshots ▸ fresh
  refine ⟨?_, ?_, ?_⟩
  · rw [cells_enter, Keyed.keys_put_of_notMem fresh, Keyed.entries_put_of_notMem fresh,
      List.length_append, List.length_singleton, List.range'_1_concat, List.map_append,
      ← numbered.cells, next]
    simp [Nat.add_comm]
  · rw [cells_enter, Keyed.keys_put_of_notMem fresh, ← numbered.snapshots]
    exact Keyed.keys_put_of_notMem unseen s
  · intro other t live
    rw [live?_enter] at live
    split at live
    · rename_i own
      cases live
      exact own.symm
    · exact numbered.named other t live

end Numbered

/-! ## Sessions nobody works on -/

/-- The snapshot shows the session as it is, and no slot is kept for it if it has ended. -/
structure Settled (r : Registry) (id : String) : Prop where
  snapshot : r.snapshot? id = r.live? id
  slot : ∀ s, r.live? id = some s → s.status.isTerminal → (r.slot s.pair).active ≠ some id

theorem Settled.setCell {r : Registry} {id : String} {s : Session} {held : Bool}
    (settled : r.Settled id) (found : r.cells.find? id = some ⟨s, held⟩) (held' : Bool) :
    (r.setCell id ⟨s, held'⟩).Settled id := by
  have live := live?_setCell_of_find? found held' id
  exact ⟨live ▸ settled.snapshot, live ▸ settled.slot⟩

theorem Settled.releaseSlot {r : Registry} {s : Session} (numbered : r.Numbered) {id : String}
    (live : r.live? id = some s) (written : r.snapshot? id = r.live? id) :
    (r.releaseSlot s).Settled id := by
  refine ⟨by rw [snapshot?_releaseSlot, live?_releaseSlot, written], ?_⟩
  intro t live' ended named
  rw [live?_releaseSlot, live] at live'
  cases live'
  have own : s.id = id := numbered.named id s live
  rw [slot_releaseSlot] at named
  split at named
  · cases named
  · -- Had the slot named the session, it would have been freed.
    rename_i kept
    exact kept ⟨rfl, ended, own.symm ▸ named⟩

theorem Settled.enter (r : Registry) {s : Session} (going : ¬s.status.isTerminal) :
    (r.enter s).Settled s.id := by
  have live : (r.enter s).live? s.id = some s := by
    rw [live?_enter, if_pos rfl]
  constructor
  · rw [live, snapshot?_enter, if_pos rfl]
  · intro t found ended
    rw [live] at found
    cases found
    exact absurd ended going

/-- To one session it makes no difference which of the two registries it is in; slots may have been
freed. -/
structure Agrees (r r' : Registry) (id : String) : Prop where
  cell : r'.cells.find? id = r.cells.find? id
  snapshot : r'.snapshot? id = r.snapshot? id
  slot : ∀ pair, (r'.slot pair).active = some id → (r.slot pair).active = some id

namespace Agrees

variable {r r' : Registry} {id : String} {s : Session}

theorem refl (r : Registry) (id : String) : Agrees r r id := ⟨rfl, rfl, fun _ named => named⟩

theorem live? (agrees : Agrees r r' id) : r'.live? id = r.live? id := by
  rw [Registry.live?, agrees.cell, Registry.live?]

theorem settled (agrees : Agrees r r' id) (settled : r.Settled id) : r'.Settled id := by
  refine ⟨by rw [agrees.snapshot, agrees.live?, settled.snapshot], ?_⟩
  intro s live ended named
  rw [agrees.live?] at live
  exact settled.slot s live ended (agrees.slot _ named)

theorem setCell (r : Registry) {other : String} (cell : Cell) (apart : id ≠ other) :
    Agrees r (r.setCell other cell) id :=
  ⟨find?_setCell_of_ne r cell apart, rfl, fun _ named => named⟩

theorem writeSnapshot (r : Registry) (apart : id ≠ s.id) : Agrees r (r.writeSnapshot s) id :=
  ⟨rfl, by rw [snapshot?_writeSnapshot, if_neg apart], fun _ named => named⟩

theorem releaseSlot (r : Registry) (s : Session) (id : String) :
    Agrees r (r.releaseSlot s) id := by
  refine ⟨by rw [cells_releaseSlot], snapshot?_releaseSlot r s id, ?_⟩
  intro pair named
  rw [slot_releaseSlot] at named
  split at named
  · cases named
  · exact named

theorem enter (r : Registry) (apart : id ≠ s.id) : Agrees r (r.enter s) id := by
  refine ⟨by rw [find?_enter, if_neg apart], by rw [snapshot?_enter, if_neg apart], ?_⟩
  intro pair named
  rw [slot_enter] at named
  split at named
  · exact absurd (Option.some.inj named).symm apart
  · exact named

end Agrees

end Registry

/-! ## Workers -/

/-- What a worker that has come so far has restored. -/
def Phase.Restored (r : Registry) (id : String) : Phase → Prop
  | .waiting | .changed _ _ => True
  | .written _ _ => r.snapshot? id = r.live? id
  | .locked | .settled _ _ | .leaving _ => r.Settled id

/-- A call that holds a lock finds its session locked, and as its phase says. -/
def Call.Sound (r : Registry) : Call → Prop
  | .working id _ _ phase =>
    phase ≠ .waiting → (∃ s, r.cells.find? id = some ⟨s, true⟩) ∧ phase.Restored r id
  | _ => True

theorem Phase.Restored.congr {r r' : Registry} {id : String} {phase : Phase}
    (restored : phase.Restored r id) (agrees : r.Agrees r' id) : phase.Restored r' id := by
  cases phase with
  | waiting | changed alert report => trivial
  | written alert report =>
    simp only [Phase.Restored] at restored ⊢
    rw [agrees.snapshot, agrees.live?, restored]
  | locked | settled alert report | leaving report => exact agrees.settled restored

namespace Call

variable {r r' : Registry} {c : Call} {id : String}

theorem sound_of_holds?_eq_none (free : c.holds? = none) : c.Sound r := by
  cases c with
  | working id task sweep phase =>
    intro busy
    cases phase <;> simp_all [holds?]
  | _ => trivial

theorem holds?_working {task : Task} {sweep : Option Sweep} {phase : Phase}
    (busy : phase ≠ .waiting) : (working id task sweep phase).holds? = some id := by
  cases phase with
  | waiting => exact absurd rfl busy
  | _ => rfl

theorem working_of_holds? (holds : c.holds? = some id) :
    ∃ task sweep phase, c = working id task sweep phase ∧ phase ≠ .waiting := by
  cases c with
  | working own task sweep phase =>
    by_cases busy : phase = .waiting
    · subst busy
      cases holds
    · rw [holds?_working busy] at holds
      cases holds
      exact ⟨task, sweep, phase, rfl, busy⟩
  | _ => cases holds

namespace Sound

theorem congr (sound : c.Sound r) (agrees : ∀ id, c.holds? = some id → r.Agrees r' id) :
    c.Sound r' := by
  cases c with
  | working id task sweep phase =>
    intro busy
    obtain ⟨⟨s, found⟩, restored⟩ := sound busy
    have same := agrees id (holds?_working busy)
    exact ⟨⟨s, same.cell.trans found⟩, restored.congr same⟩
  | _ => trivial

theorem find? (sound : c.Sound r) (holds : c.holds? = some id) :
    ∃ s, r.cells.find? id = some ⟨s, true⟩ := by
  obtain ⟨task, sweep, phase, rfl, busy⟩ := working_of_holds? holds
  exact (sound busy).1

end Sound

end Call

namespace World

/-- Sessions nobody works on are settled, and no session has two workers. -/
structure Orderly (w : World) : Prop where
  numbered : w.registry.Numbered
  settled : ∀ id s, w.registry.cells.find? id = some ⟨s, false⟩ → w.registry.Settled id
  sound : ∀ (i : Nat) (c : Call), w.calls[i]? = some c → c.Sound w.registry
  alone : ∀ (i j : Nat) (c d : Call) (id : String), w.calls[i]? = some c → w.calls[j]? = some d →
    c.holds? = some id → d.holds? = some id → i = j

namespace Orderly

variable {w : World} {v' : Service} {number : Nat} {c c' : Call} {id : String}
  {history : List (String × Deed)}

theorem begin (settings : Settings) : (begin settings).Orderly := by
  refine ⟨⟨rfl, rfl, ?_⟩, ?_, ?_, ?_⟩
  · intro id s live
    cases live
  · intro id s found
    cases found
  · intro i c selected
    cases selected
  · intro i j c d id selected
    cases selected

theorem call (orderly : w.Orderly) (plain : c.Plain) :
    Orderly { w with calls := w.calls ++ [c] } := by
  have free := plain.holds?_eq
  -- A call that has just come in holds nothing, so it is in nobody's way.
  have old (i : Nat) (d : Call) (selected : (w.calls ++ [c])[i]? = some d) :
      w.calls[i]? = some d ∨ d = c := by
    rw [List.getElem?_append] at selected
    split at selected
    · exact .inl selected
    · have member := List.mem_of_getElem? selected
      exact .inr (List.mem_singleton.mp member)
  refine ⟨orderly.numbered, orderly.settled, ?_, ?_⟩
  · intro i d selected
    rcases old i d selected with before | rfl
    · exact orderly.sound i d before
    · exact Call.sound_of_holds?_eq_none free
  · intro i j d e id selected selected' holds holds'
    rcases old i d selected with before | rfl
    · rcases old j e selected' with before' | rfl
      · exact orderly.alone i j d e id before before' holds holds'
      · simp [free] at holds'
    · simp [free] at holds

/-- One call takes a step, and the others find what they hold as it was. -/
theorem replace (orderly : w.Orderly) (numbered : v'.registry.Numbered)
    (settled : ∀ id s, v'.registry.cells.find? id = some ⟨s, false⟩ → v'.registry.Settled id)
    (sound : c'.Sound v'.registry)
    (others : ∀ (i : Nat) (d : Call) (other : String), i ≠ number → w.calls[i]? = some d →
      d.holds? = some other → w.registry.Agrees v'.registry other ∧ c'.holds? ≠ some other) :
    Orderly ⟨v', w.calls.set number c', history⟩ := by
  have old (i : Nat) (d : Call) (selected : (w.calls.set number c')[i]? = some d) :
      (i = number ∧ d = c') ∨ (i ≠ number ∧ w.calls[i]? = some d) := by
    rw [List.getElem?_set] at selected
    split at selected
    · rename_i here
      split at selected
      · exact .inl ⟨here.symm, (Option.some.inj selected).symm⟩
      · cases selected
    · rename_i apart
      exact .inr ⟨Ne.symm apart, selected⟩
  refine ⟨numbered, settled, ?_, ?_⟩
  · intro i d selected
    rcases old i d selected with ⟨-, rfl⟩ | ⟨apart, before⟩
    · exact sound
    · exact (orderly.sound i d before).congr fun other holds =>
        (others i d other apart before holds).1
  · intro i j d e id selected selected' holds holds'
    rcases old i d selected with ⟨rfl, rfl⟩ | ⟨apart, before⟩
    · rcases old j e selected' with ⟨rfl, -⟩ | ⟨apart', before'⟩
      · rfl
      · exact absurd holds (others j e id apart' before' holds').2
    · rcases old j e selected' with ⟨rfl, rfl⟩ | ⟨apart', before'⟩
      · exact absurd holds' (others i d id apart before holds).2
      · exact orderly.alone i j d e id before before' holds holds'

theorem turn (orderly : w.Orderly) (selected : w.calls[number]? = some c)
    (same : v'.registry = w.registry) (sound : c'.Sound w.registry)
    (kept : ∀ id, c'.holds? = some id → c.holds? = some id) :
    Orderly ⟨v', w.calls.set number c', history⟩ := by
  refine orderly.replace (same ▸ orderly.numbered) (same ▸ orderly.settled) (same ▸ sound) ?_
  intro i d other apart before holds
  refine ⟨same ▸ .refl w.registry other, ?_⟩
  intro held
  exact apart (orderly.alone i number d c other before selected holds (kept other held))

/-- The step is about one session, which no other call holds. -/
theorem work (orderly : w.Orderly) (id : String) (numbered : v'.registry.Numbered)
    (mine : ∀ (i : Nat) (d : Call), w.calls[i]? = some d → d.holds? = some id → i = number)
    (elsewhere : ∀ other, other ≠ id → w.registry.Agrees v'.registry other)
    (only : ∀ other, c'.holds? = some other → other = id) (sound : c'.Sound v'.registry)
    (settled : ∀ s, v'.registry.cells.find? id = some ⟨s, false⟩ → v'.registry.Settled id) :
    Orderly ⟨v', w.calls.set number c', history⟩ := by
  refine orderly.replace numbered ?_ sound ?_
  · intro other s found
    by_cases own : other = id
    · subst own
      exact settled s found
    · have agrees := elsewhere other own
      exact agrees.settled (orderly.settled other s (agrees.cell ▸ found))
  · intro i d other apart selected holds
    have away : other ≠ id := by
      intro own
      subst own
      exact apart (mine i d selected holds)
    exact ⟨elsewhere other away, fun held => away (only other held)⟩

/-- What a worker past the waiting finds. -/
theorem found (orderly : w.Orderly) {task : Task} {sweep : Option Sweep} {phase : Phase}
    (selected : w.calls[number]? = some (.working id task sweep phase)) (busy : phase ≠ .waiting) :
    ∃ s, w.registry.cells.find? id = some ⟨s, true⟩ ∧ w.registry.live? id = some s ∧ s.id = id ∧
      phase.Restored w.registry id := by
  obtain ⟨⟨s, found⟩, restored⟩ := orderly.sound number _ selected busy
  have live := Registry.live?_of_find? found
  exact ⟨s, found, live, orderly.numbered.named id s live, restored⟩

/-- The session that a worker finds is the one that is locked. -/
theorem taken (orderly : w.Orderly) {task : Task} {sweep : Option Sweep} {phase : Phase}
    {s : Session} (selected : w.calls[number]? = some (.working id task sweep phase))
    (busy : phase ≠ .waiting) (live : w.registry.live? id = some s) :
    w.registry.cells.find? id = some ⟨s, true⟩ := by
  obtain ⟨t, found, live', -⟩ := orderly.found selected busy
  rw [live] at live'
  cases live'
  exact found

/-- A worker goes on with its session locked. -/
theorem keep (orderly : w.Orderly) {task : Task} {sweep : Option Sweep} {phase phase' : Phase}
    (selected : w.calls[number]? = some (.working id task sweep phase)) (busy : phase ≠ .waiting)
    (numbered : v'.registry.Numbered)
    (elsewhere : ∀ other, other ≠ id → w.registry.Agrees v'.registry other)
    (locked : ∃ s, v'.registry.cells.find? id = some ⟨s, true⟩)
    (restored : phase'.Restored v'.registry id) :
    Orderly ⟨v', w.calls.set number (.working id task sweep phase'), history⟩ := by
  refine orderly.work id numbered ?_ elsewhere ?_ (fun _ => ⟨locked, restored⟩) ?_
  · intro i d before holds
    exact orderly.alone i number d _ id before selected holds (Call.holds?_working busy)
  · intro other held
    by_cases busy' : phase' = .waiting
    · subst busy'
      cases held
    · rw [Call.holds?_working busy'] at held
      exact (Option.some.inj held).symm
  · intro s found
    obtain ⟨t, found'⟩ := locked
    rw [found'] at found
    cases found

theorem enter (orderly : w.Orderly) {s : Session} (same : v'.registry = w.registry.enter s)
    (next : s.id = Service.sessionId (w.registry.cells.entries.length + 1))
    (going : ¬s.status.isTerminal) (free : c'.holds? = none) :
    Orderly ⟨v', w.calls.set number c', history⟩ := by
  -- No call holds a session that is not there yet.
  have fresh : s.id ∉ w.registry.cells.keys := next ▸ orderly.numbered.fresh
  refine orderly.work s.id ?_ ?_ ?_ (by simp [free]) (Call.sound_of_holds?_eq_none free) ?_
  · rw [same]
    exact orderly.numbered.enter next
  · intro i d before holds
    obtain ⟨t, found⟩ := (orderly.sound i d before).find? holds
    exact absurd (Registry.mem_keys_of_find? found) fresh
  · intro other apart
    rw [same]
    exact .enter _ apart
  · intro t _
    rw [same]
    exact .enter _ going

theorem lock (orderly : w.Orderly) {s : Session}
    (free : w.registry.cells.find? id = some ⟨s, false⟩) (task : Task) (sweep : Option Sweep)
    (same : v'.registry = w.registry.setCell id ⟨s, true⟩) :
    Orderly ⟨v', w.calls.set number (.working id task sweep .locked), history⟩ := by
  refine orderly.work id ?_ ?_ ?_ ?_ ?_ ?_
  · rw [same]
    exact orderly.numbered.setCell free rfl
  · intro i d before holds
    obtain ⟨t, found⟩ := (orderly.sound i d before).find? holds
    rw [free] at found
    cases found
  · intro other apart
    rw [same]
    exact .setCell _ _ apart
  · intro other held
    exact (Option.some.inj held).symm
  · intro busy
    rw [same]
    exact ⟨⟨s, Registry.find?_setCell_self _ _ _⟩, (orderly.settled id s free).setCell free true⟩
  · intro t found
    rw [same, Registry.find?_setCell_self] at found
    cases found

theorem unlock (orderly : w.Orderly) {task : Task} {sweep : Option Sweep} {report : Report}
    (selected : w.calls[number]? = some (.working id task sweep (.leaving report)))
    (same : v'.registry = w.registry.unlock id) (free : c'.holds? = none) :
    Orderly ⟨v', w.calls.set number c', history⟩ := by
  obtain ⟨t, found, live, own, settled⟩ := orderly.found selected nofun
  rw [Registry.unlock_of_find? found] at same
  refine orderly.work id ?_ ?_ ?_ (by simp [free]) (Call.sound_of_holds?_eq_none free) ?_
  · rw [same]
    exact orderly.numbered.setCell found rfl
  · intro i d before holds
    exact orderly.alone i number d _ id before selected holds rfl
  · intro other apart
    rw [same]
    exact .setCell _ _ apart
  · intro u _
    rw [same]
    exact settled.setCell found false

theorem move (orderly : w.Orderly) (selected : w.calls[number]? = some c) {now : Instant}
    {progress : Progress} (move : Call.Move now w.service c progress) :
    Orderly ⟨progress.service, w.calls.set number progress.call, history⟩ := by
  -- Most moves leave the registry alone; the others are about the session whose lock is held.
  cases move with
  | stayed => exact orderly.turn selected rfl (orderly.sound number c selected) fun _ held => held
  | turned free plain =>
    have free' := plain.holds?_eq
    exact orderly.turn selected rfl (Call.sound_of_holds?_eq_none free') (by simp [free'])
  | chosen startable => exact orderly.turn selected rfl trivial nofun
  | published => exact orderly.turn selected (w.service.registry_publish _) trivial nofun
  | @opened assignment studentId rubric =>
    rcases w.service.openSession_cases assignment studentId rubric now with
      ⟨e, -, refused⟩ | ⟨chosen, pending, c, q, vacant, choice, waiting, opened⟩
    · rw [refused]
      exact orderly.turn selected rfl trivial nofun
    · rw [opened]
      exact orderly.enter rfl rfl nofun rfl
  | locked free => exact orderly.lock free _ _ rfl
  | left live body =>
    obtain ⟨t, found, -, -, settled⟩ := orderly.found selected nofun
    exact orderly.keep selected nofun orderly.numbered (fun other _ => .refl _ other) ⟨t, found⟩
      settled
  | @changed id task sweep s s' alert report live body =>
    have found := orderly.taken selected nofun live
    have step := Session.perform_step w.service.settings s task now
    rw [body] at step
    simp only [Registry.update_of_find? found]
    exact orderly.keep selected nofun (orderly.numbered.setCell found step.id_eq)
      (fun other => .setCell _ _) ⟨s', Registry.find?_setCell_self _ _ _⟩ trivial
  | @written id task sweep s alert report live =>
    obtain ⟨t, found, -, -, -⟩ := orderly.found selected nofun
    -- The snapshot is written under the identifier that the session has in its cell.
    have own := orderly.numbered.named id s live
    refine orderly.keep selected nofun (orderly.numbered.writeSnapshot live)
      (fun other apart => .writeSnapshot _ (own.symm ▸ apart)) ⟨t, found⟩ ?_
    change (w.registry.writeSnapshot s).snapshot? id = w.registry.live? id
    rw [Registry.snapshot?_writeSnapshot, if_pos own.symm, live]
  | @released id task sweep s alert report live =>
    obtain ⟨t, found, -, -, written⟩ := orderly.found selected nofun
    rw [← Registry.cells_releaseSlot w.registry s] at found
    exact orderly.keep selected nofun (orderly.numbered.releaseSlot s)
      (fun other _ => .releaseSlot _ s other) ⟨t, found⟩ (.releaseSlot orderly.numbered live written)
  | alerted =>
    obtain ⟨t, found, -, -, settled⟩ := orderly.found selected nofun
    exact orderly.keep selected nofun orderly.numbered (fun other _ => .refl _ other) ⟨t, found⟩
      settled
  | unlocked after =>
    refine orderly.unlock selected rfl ?_
    rcases after with rfl | plain
    · rfl
    · exact plain.holds?_eq

end Orderly

theorem Reachable.orderly {settings : Settings} {w : World} (reachable : Reachable settings w) :
    w.Orderly :=
  reachable.induction (.begin settings) (fun _ _ _ orderly plain => orderly.call plain)
    fun _ _ _ _ _ _ orderly selected move => orderly.move selected move

/-! ## Holders -/

/-- Every session that is locked has a call that holds it. -/
def Attended (w : World) : Prop :=
  ∀ id s, w.registry.cells.find? id = some ⟨s, true⟩ →
    ∃ (number : Nat) (c : Call), w.calls[number]? = some c ∧ c.holds? = some id

namespace Attended

variable {w : World} {v' : Service} {number : Nat} {c c' : Call}

/-- What is locked after a step is held by the call that took it, or was locked before by another. -/
theorem replace (attended : w.Attended) (selected : w.calls[number]? = some c)
    (history : List (String × Deed))
    (kept : ∀ id s, v'.registry.cells.find? id = some ⟨s, true⟩ → c'.holds? = some id ∨
      c.holds? ≠ some id ∧ ∃ s, w.registry.cells.find? id = some ⟨s, true⟩) :
    Attended ⟨v', w.calls.set number c', history⟩ := by
  intro id s locked
  rcases kept id s locked with mine | ⟨others, t, before⟩
  · have inside : number < w.calls.length := (List.getElem?_eq_some_iff.mp selected).1
    exact ⟨number, c', List.getElem?_set_self inside, mine⟩
  · obtain ⟨i, d, selected', holds⟩ := attended id t before
    have apart : number ≠ i := by
      rintro rfl
      rw [selected] at selected'
      cases selected'
      exact others holds
    exact ⟨i, d, by rw [List.getElem?_set_ne apart, selected'], holds⟩

theorem move (attended : w.Attended) (orderly : w.Orderly) (selected : w.calls[number]? = some c)
    {now : Instant} {progress : Progress} (move : Call.Move now w.service c progress) :
    Attended ⟨progress.service, w.calls.set number progress.call, w.history ++ progress.log⟩ := by
  apply attended.replace selected
  intro other t locked
  have idle : none ≠ some other := by simp
  cases move with
  | stayed =>
    by_cases mine : c.holds? = some other
    · exact .inl mine
    · exact .inr ⟨mine, t, locked⟩
  | turned free plain => exact .inr ⟨by simp [free], t, locked⟩
  | chosen => exact .inr ⟨idle, t, locked⟩
  | @opened assignment studentId rubric =>
    refine .inr ⟨idle, t, ?_⟩
    rcases w.service.openSession_cases assignment studentId rubric now with
      ⟨e, -, refused⟩ | ⟨chosen, pending, c, q, -, -, -, opened⟩
    · rw [refused] at locked
      exact locked
    · -- A session that has just been put in is not locked.
      rw [opened, Registry.find?_enter] at locked
      split at locked
      · cases locked
      · exact locked
  | published =>
    rw [Service.registry_publish] at locked
    exact .inr ⟨idle, t, locked⟩
  | @locked id task sweep s free =>
    rw [Registry.find?_setCell] at locked
    split at locked
    · rename_i own
      exact .inl (congrArg some own.symm)
    · exact .inr ⟨idle, t, locked⟩
  | @left id task sweep s report live body | @written id task sweep s alert report live
  | @alerted id task sweep alert report =>
    by_cases own : id = other
    · exact .inl (congrArg some own)
    · exact .inr ⟨by simpa [Call.holds?] using own, t, locked⟩
  | @changed id task sweep s s' alert report live body =>
    obtain ⟨u, found, -⟩ := orderly.found selected (by simp)
    simp only [Registry.update_of_find? found, Registry.find?_setCell] at locked
    split at locked
    · rename_i own
      exact .inl (congrArg some own.symm)
    · rename_i apart
      exact .inr ⟨by simpa [Call.holds?] using Ne.symm apart, t, locked⟩
  | @released id task sweep s alert report live =>
    rw [Registry.cells_releaseSlot] at locked
    by_cases own : id = other
    · exact .inl (congrArg some own)
    · exact .inr ⟨by simpa [Call.holds?] using own, t, locked⟩
  | @unlocked id task sweep report c after =>
    obtain ⟨u, found, -⟩ := orderly.found selected (by simp)
    rw [Service.free, Registry.unlock_of_find? found, Registry.find?_setCell] at locked
    split at locked
    · cases locked
    · rename_i apart
      exact .inr ⟨by simpa [Call.holds?] using Ne.symm apart, t, locked⟩

end Attended

theorem Reachable.attended {settings : Settings} {w : World} (reachable : Reachable settings w) :
    w.Attended := by
  refine reachable.induction ?_ ?_ ?_
  · intro id s locked
    cases locked
  · intro w c _ attended plain id s locked
    obtain ⟨number, d, selected, holds⟩ := attended id s locked
    have inside : number < w.calls.length := (List.getElem?_eq_some_iff.mp selected).1
    exact ⟨number, d, by rw [List.getElem?_append_left inside, selected], holds⟩
  · intro w number c now progress before attended selected move
    exact attended.move before.orderly selected move

end World

end OralExam
