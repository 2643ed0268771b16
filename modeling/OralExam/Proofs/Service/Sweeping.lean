import OralExam.Proofs.Service.Answers
import OralExam.Proofs.Service.Isolation

/-! Sweeps of idle sessions.

A sweep lists the sessions whose snapshots show them as idle, and looks at each of them again under its
lock. It abandons those that are idle then, counts them, and leaves all others alone. It can always be
brought to its end: who has a lock that it waits for can give it back.
-/

set_option autoImplicit false

namespace OralExam

/-! ## The cutoff -/

namespace Service

/-- The instant so many minutes ago. -/
def minutesAgo (minutes : Int) (now : Instant) : Instant := now.later (-(minutes * 60) * 1000000000)

/-- The span and the calendar reach back so many minutes. -/
def ReachesBack (minutes : Int) (now : Instant) : Prop :=
  (minutes * 60).natAbs ≤ spanLimit ∧ Instant.first ≤ minutesAgo minutes now ∧
    minutesAgo minutes now ≤ Instant.last

/-- Sessions are idle that have been so for longer than the timeout, as long as that is less than half
of what a word holds. -/
theorem idleCutoff_of_lt {policy : ExamPolicy}
    (short : policy.inactivityTimeoutMinutes < Word.size63) (now cutoff : Instant) :
    idleCutoff policy now = some cutoff ↔
      ReachesBack policy.inactivityTimeoutMinutes now ∧
        cutoff = minutesAgo policy.inactivityTimeoutMinutes now := by
  have same : Int.bmod policy.inactivityTimeoutMinutes Word.size64 =
      policy.inactivityTimeoutMinutes := by
    rw [Int.bmod_eq_of_le] <;> simp only [Word.size63, Word.size64] at * <;> omega
  simp only [idleCutoff, same, ReachesBack, minutesAgo]
  split
  · rename_i reaches
    rw [Option.some_inj, and_iff_right reaches, eq_comm]
  · rename_i beyond
    exact iff_of_false nofun fun reached => beyond reached.1

/-- A longer timeout counts from the other end: the cutoff lies in the future. -/
theorem lt_of_idleCutoff {policy : ExamPolicy}
    (long : Word.size63 ≤ policy.inactivityTimeoutMinutes)
    (word : policy.inactivityTimeoutMinutes < Word.size64) {now cutoff : Instant}
    (reaches : idleCutoff policy now = some cutoff) : now < cutoff := by
  have wrapped : Int.bmod policy.inactivityTimeoutMinutes Word.size64 =
      (policy.inactivityTimeoutMinutes : Int) - Word.size64 := by
    rw [Int.bmod_def]
    simp only [Word.size63, Word.size64] at *
    split <;> omega
  simp only [idleCutoff, wrapped] at reaches
  split at reaches
  · cases reaches
    change now.nanoseconds < now.nanoseconds + _
    simp only [Word.size63, Word.size64] at *
    omega
  · cases reaches

end Service

/-! ## One session -/

namespace Session

variable {settings : Settings} {now cutoff : Instant} {s : Session}

theorem isIdleSince_iff :
    s.isIdleSince cutoff ↔ s.status = .inProgress ∧ s.lastActivityAt < cutoff := by
  simp [isIdleSince]

/-- A session that is abandoned because nothing happens in it. -/
def timedOut (settings : Settings) (now : Instant) (s : Session) : Session :=
  (s.finish settings .abandoned .abandoned (some "inactivity timeout") now).1

theorem perform_abandonIdle (settings : Settings) (now cutoff : Instant) (s : Session) :
    (Task.abandonIdle cutoff).perform settings now s =
      if s.isIdleSince cutoff then
        .replace (s.timedOut settings now) (s.timedOut settings now).alert? (.abandoned (.ok true))
      else .leave (.abandoned (.ok false)) := by
  simp only [Task.perform, abandonIdle]
  split <;> rfl

theorem worked_abandonIdle (settings : Settings) (now cutoff : Instant) (s : Session) :
    s.worked settings now (.abandonIdle cutoff) =
      if s.isIdleSince cutoff then s.timedOut settings now else s := by
  rw [worked, perform_abandonIdle]
  split <;> rfl

end Session

/-! ## The steps of a sweep -/

/-- The session that a call looks at under its lock in its next step, as it finds it. -/
def Call.looksAt? (v : Service) : Call → Option Session
  | .working id _ _ .locked => v.registry.live? id
  | _ => none

namespace World

/-- The session that one of the calls looks at in an event. -/
def looksAt? (w : World) (number : Nat) : Event → Option Session
  | .step other _ =>
    if other = number then (w.calls[number]?).bind (·.looksAt? w.service) else none
  | .call _ => none

/-- The sessions that a call looks at in the course of events, in their order. -/
def lookedAt (w : World) (number : Nat) : List Event → List Session
  | [] => []
  | event :: rest => (w.looksAt? number event).toList ++ (w.step event).lookedAt number rest

variable {w : World} {number : Nat}

theorem looksAt?_own {c : Call} (selected : w.calls[number]? = some c) (now : Instant) :
    w.looksAt? number (.step number now) = c.looksAt? w.service := by
  rw [looksAt?, if_pos rfl, selected, Option.bind_some]

theorem looksAt?_other {event : Event} (other : ∀ now, event ≠ .step number now) :
    w.looksAt? number event = none := by
  cases event with
  | call request => rfl
  | step i now => exact if_neg fun same => other now (congrArg (Event.step · now) same)

theorem lookedAt_append (w : World) (number : Nat) (events : List Event) (event : Event) :
    w.lookedAt number (events ++ [event]) =
      w.lookedAt number events ++ ((w.run events).looksAt? number event).toList := by
  induction events generalizing w with
  | nil => exact List.append_nil _
  | cons first rest ih =>
    rw [List.cons_append, lookedAt, ih, lookedAt, List.append_assoc]
    rfl

end World

namespace Call

/-- Where a sweep stands that has looked at these sessions: they come first among those that it has
listed, and it has counted the idle ones among them. -/
inductive Sweeping (cutoff : Instant) (listed : List String) (seen : List Session) : Call → Prop where
  | turning {id : String} {rest : List String} {phase : Phase}
      (early : phase = .waiting ∨ phase = .locked)
      (order : seen.map Session.id ++ id :: rest = listed) :
      Sweeping cutoff listed seen (.working id (.abandonIdle cutoff)
        (some ⟨cutoff, seen.countP (·.isIdleSince cutoff), rest⟩) phase)
  | handled {id : String} {rest : List String} {count : Nat} {phase : Phase} {report : Report}
      (known : id ∈ listed)
      (late : (Call.working id (.abandonIdle cutoff) (some ⟨cutoff, count, rest⟩) phase).report? =
        some report)
      (order : seen.map Session.id ++ rest = listed)
      (counted : (count + if report.isRefusal then 0 else 1) =
        seen.countP (·.isIdleSince cutoff)) :
      Sweeping cutoff listed seen
        (.working id (.abandonIdle cutoff) (some ⟨cutoff, count, rest⟩) phase)
  | done (order : seen.map Session.id = listed) :
      Sweeping cutoff listed seen (.done (.swept (some (seen.countP (·.isIdleSince cutoff)))))

/-- Work on sessions does not touch rubrics. -/
theorem Move.bank_eq {now : Instant} {v : Service} {id : String} {task : Task} {sweep : Option Sweep}
    {phase : Phase} {progress : Progress}
    (move : Move now v (.working id task sweep phase) progress) :
    progress.service.bank = v.bank := by
  cases move <;> rfl

namespace Sweeping

variable {settings : Settings} {cutoff : Instant} {listed rest : List String} {seen : List Session}
  {v : Service} {c : Call}

theorem sweepOn (order : seen.map Session.id ++ rest = listed) :
    Sweeping cutoff listed seen
      (Call.sweepOn cutoff (seen.countP (·.isIdleSince cutoff)) rest) := by
  cases rest with
  | nil => exact .done (by simpa using order)
  | cons id rest => exact .turning (.inl rfl) order

/-- A step brings the sweep on by the session that it looks at. -/
theorem step (sweeping : Sweeping cutoff listed seen c)
    (there : ∀ id ∈ listed, ∃ s, v.registry.live? id = some s ∧ s.id = id) (now : Instant) :
    Sweeping cutoff listed (seen ++ (c.looksAt? v).toList) (c.step v now).call := by
  cases sweeping with
  | @turning id rest phase early order =>
    obtain ⟨s, live, rfl⟩ := there id (by rw [← order]; simp)
    rcases early with rfl | rfl
    · obtain ⟨held, found⟩ := Registry.live?_eq_some_iff.mp live
      rw [show (working s.id (.abandonIdle cutoff) _ .waiting).looksAt? v = none from rfl,
        Option.toList_none, List.append_nil]
      simp only [Call.step, workStep, Registry.lock, found]
      cases held with
      | true => exact .turning (.inl rfl) order
      | false => exact .turning (.inr rfl) order
    · rw [show (working s.id (.abandonIdle cutoff) _ .locked).looksAt? v = some s from live,
        Option.toList_some]
      have order' : (seen ++ [s]).map Session.id ++ rest = listed := by
        rw [← order, List.map_append, List.append_assoc]
        rfl
      have known : s.id ∈ listed := by
        rw [← order]
        simp
      simp only [Call.step, workStep, live, Session.perform_abandonIdle]
      by_cases idle : s.isIdleSince cutoff
      · simp only [if_pos idle]
        refine .handled known rfl order' ?_
        simp [Report.isRefusal, List.countP_append, idle]
      · simp only [if_neg idle]
        refine .handled known rfl order' ?_
        simp [Report.isRefusal, List.countP_append, idle]
  | @handled id rest count phase report known late order counted =>
    obtain ⟨s, live, rfl⟩ := there id known
    have away : (working s.id (.abandonIdle cutoff) (some ⟨cutoff, count, rest⟩) phase).looksAt? v =
        none := by
      cases phase with
      | locked => cases late
      | _ => rfl
    rw [away, Option.toList_none, List.append_nil]
    cases phase with
    | waiting | locked => cases late
    | changed alert report | written alert report =>
      simp only [Call.step, workStep, live]
      exact .handled known late order counted
    | settled alert report => exact .handled known late order counted
    | leaving report =>
      cases late
      simp only [Call.step, workStep, proceed, counted]
      exact .sweepOn order
  | done order =>
    rw [show (Call.done _).looksAt? v = none from rfl, Option.toList_none, List.append_nil]
    exact .done order

end Sweeping

end Call

namespace World

variable {settings : Settings} {w : World} {number : Nat} {cutoff now : Instant}
  {listed : List String}

theorem Reachable.live?_run (reachable : Reachable settings w) {id : String} {s : Session}
    (live : w.registry.live? id = some s) (later : List Event) :
    ∃ s', (w.run later).registry.live? id = some s' ∧ s'.id = id := by
  obtain ⟨deeds, s', live', course⟩ := (reachable.continues later).live id s live
  exact ⟨s', live', (reachable.run later).orderly.numbered.named id s' live'⟩

/-- At every moment the sweep has looked at the first of the sessions that it has listed. -/
theorem Reachable.sweeping (reachable : Reachable settings w)
    (listed_live : ∀ id ∈ listed, ∃ s, w.registry.live? id = some s)
    (selected : w.calls[number]? = some (.sweepOn cutoff 0 listed)) (later : List Event) :
    ∃ c, (w.run later).calls[number]? = some c ∧
      c.Sweeping cutoff listed (w.lookedAt number later) := by
  induction later using List.reverseRecOn with
  | nil =>
    have order : ([] : List Session).map Session.id ++ listed = listed := rfl
    exact ⟨_, selected, .sweepOn order⟩
  | append_singleton later event ih =>
    obtain ⟨c, selected, sweeping⟩ := ih
    rw [lookedAt_append, run_append]
    change ∃ c, ((w.run later).step event).calls[number]? = some c ∧ _
    by_cases own : ∃ now, event = .step number now
    · obtain ⟨now, rfl⟩ := own
      rw [looksAt?_own selected, step_of_selected selected]
      refine ⟨_, List.getElem?_set_self (List.getElem?_eq_some_iff.mp selected).1,
        sweeping.step (fun id member => ?_) now⟩
      obtain ⟨s, live⟩ := listed_live id member
      exact reachable.live?_run live later
    · have other (now : Instant) : event ≠ .step number now := fun same => own ⟨now, same⟩
      rw [looksAt?_other other, Option.toList_none, List.append_nil]
      rcases calls_step selected event with stays | ⟨now, same, -⟩
      · exact ⟨c, stays, sweeping⟩
      · exact absurd same (other now)

/-! ## What a sweep changes -/

/-- Only the look at an idle session changes a session: that one is abandoned. -/
theorem Orderly.live?_of_sweeping (orderly : w.Orderly) {c : Call} {seen : List Session}
    (selected : w.calls[number]? = some c) (sweeping : c.Sweeping cutoff listed seen) (now : Instant)
    (id : String) :
    (w.step (.step number now)).registry.live? id =
      if (c.looksAt? w.service).any fun s => s.id = id && s.isIdleSince cutoff then
        (w.registry.live? id).map (·.timedOut w.service.settings now)
      else w.registry.live? id := by
  rw [step_of_selected selected]
  cases sweeping with
  | @turning own rest phase early order =>
    rcases early with rfl | rfl
    · -- Taking the lock changes no session.
      simp only [Call.looksAt?, Option.any_none, Bool.false_eq_true, if_false, Call.step,
        Call.workStep, registry, Registry.lock]
      cases found : w.service.registry.cells.find? own with
      | none => rfl
      | some cell =>
        obtain ⟨s, held⟩ := cell
        cases held with
        | true => rfl
        | false => exact Registry.live?_setCell_of_find? found true id
    · obtain ⟨s, found, live, rfl, -⟩ := orderly.found selected (by simp)
      have live' : w.service.registry.live? s.id = some s := live
      simp only [Call.looksAt?, live', Option.any_some, Call.step, Call.workStep, registry,
        Session.perform_abandonIdle]
      by_cases idle : s.isIdleSince cutoff
      · have changed (t : Session) : (w.service.registry.update s.id fun _ => t).live? id =
            if id = s.id then some t else w.service.registry.live? id := by
          rw [Registry.update_of_find? found, Registry.live?_setCell]
        by_cases here : id = s.id
        · subst here
          simp [idle, changed, live']
        · simp [idle, changed, here, Ne.symm here]
      · simp [idle]
  | @handled own rest count phase report known late order counted =>
    obtain ⟨s, -, live, -⟩ := orderly.found selected (by rintro rfl; cases late)
    have live' : w.service.registry.live? own = some s := live
    cases phase with
    | waiting | locked => cases late
    | changed alert report | written alert report =>
      simp [Call.looksAt?, Call.step, Call.workStep, registry, live']
    | settled alert report | leaving report =>
      simp [Call.looksAt?, Call.step, Call.workStep, registry, Service.free]
  | done order => rfl

end World

/-! ## Sweeps come to their end -/

namespace Call

/-- By steps of its own, the call finishes its work on the session and leaves it unlocked. -/
def Frees (now : Instant) (id : String) (sweep : Option Sweep) (v : Service) (c : Call) : Prop :=
  ∃ v' report s log, Runs now v c v' (proceed report sweep) log ∧
    v'.registry.cells.find? id = some ⟨s, false⟩

namespace Frees

variable {v : Service} {now : Instant} {id : String} {task : Task} {sweep : Option Sweep}
  {s : Session} {alert : Option Alert} {report : Report}

theorem after {c : Call} (progress : Progress) (taken : c.step v now = progress)
    (rest : Frees now id sweep progress.service progress.call) : Frees now id sweep v c := by
  obtain ⟨v', report, s, log, runs, free⟩ := rest
  exact ⟨v', report, s, _, .after taken runs, free⟩

theorem leaving (found : v.registry.cells.find? id = some ⟨s, true⟩) :
    Frees now id sweep v (.working id task sweep (.leaving report)) := by
  refine ⟨v.free id, report, s, _, .after rfl .stop, ?_⟩
  rw [Service.free, Registry.unlock_of_find? found, Registry.find?_setCell_self]

theorem settled (found : v.registry.cells.find? id = some ⟨s, true⟩) :
    Frees now id sweep v (.working id task sweep (.settled alert report)) :=
  .after _ rfl (.leaving found)

theorem written (found : v.registry.cells.find? id = some ⟨s, true⟩) :
    Frees now id sweep v (.working id task sweep (.written alert report)) := by
  refine .after ⟨.working id task sweep (.settled alert report),
    { v with registry := v.registry.releaseSlot s }, []⟩ ?_ (.settled (s := s) ?_)
  · simp only [step, workStep, Registry.live?_of_find? found]
  · rw [Registry.cells_releaseSlot, found]

theorem changed (found : v.registry.cells.find? id = some ⟨s, true⟩) :
    Frees now id sweep v (.working id task sweep (.changed alert report)) := by
  refine .after ⟨.working id task sweep (.written alert report),
    { v with registry := v.registry.writeSnapshot s }, []⟩ ?_ (.written (s := s) found)
  simp only [step, workStep, Registry.live?_of_find? found]

theorem locked (found : v.registry.cells.find? id = some ⟨s, true⟩) :
    Frees now id sweep v (.working id task sweep .locked) := by
  cases body : task.perform v.settings now s with
  | leave report =>
    refine .after ⟨.working id task sweep (.leaving report), v,
      [(id, ⟨task, now, report⟩)]⟩ ?_ (.leaving found)
    simp only [step, workStep, Registry.live?_of_find? found, body]
  | replace s' alert report =>
    refine .after ⟨.working id task sweep (.changed alert report),
      { v with registry := v.registry.update id fun _ => s' }, [(id, ⟨task, now, report⟩)]⟩ ?_
      (.changed (s := s') ?_)
    · simp only [step, workStep, Registry.live?_of_find? found, body]
    · rw [Registry.update_of_find? found, Registry.find?_setCell_self]

/-- Whoever is at work on a session can finish. -/
theorem of_busy (found : v.registry.cells.find? id = some ⟨s, true⟩) (task : Task) {phase : Phase}
    (busy : phase ≠ .waiting) (now : Instant) (sweep : Option Sweep) :
    Frees now id sweep v (.working id task sweep phase) := by
  cases phase with
  | waiting => exact absurd rfl busy
  | locked => exact .locked found
  | changed => exact .changed found
  | written => exact .written found
  | settled => exact .settled found
  | leaving => exact .leaving found

/-- So can who gets a lock that is free. -/
theorem waiting (free : v.registry.cells.find? id = some ⟨s, false⟩) (task : Task) (now : Instant)
    (sweep : Option Sweep) : Frees now id sweep v (.working id task sweep .waiting) := by
  refine .after ⟨.working id task sweep .locked,
    { v with registry := v.registry.setCell id ⟨s, true⟩ }, []⟩ ?_
    (.locked (Registry.find?_setCell_self _ _ _))
  simp only [step, workStep, Registry.lock, free]
  rfl

end Frees

end Call

namespace World

variable {settings : Settings} {w : World} {number : Nat} {cutoff : Instant}

/-- The lock of a session can be given back by whoever has it, without a step of anybody else. -/
theorem Reachable.find?_free (reachable : Reachable settings w) {id : String} {s : Session}
    (taken : w.registry.cells.find? id = some ⟨s, true⟩) {c : Call}
    (selected : w.calls[number]? = some c) (away : c.holds? ≠ some id) :
    ∃ later t, (w.run later).registry.cells.find? id = some ⟨t, false⟩ ∧
      (w.run later).calls[number]? = some c := by
  obtain ⟨holder, d, selected', holds⟩ := reachable.attended id s taken
  obtain ⟨task, sweep, phase, rfl, busy⟩ := Call.working_of_holds? holds
  obtain ⟨v', report, t, log, runs, free⟩ := Call.Frees.of_busy taken task busy ⟨0⟩ sweep
  obtain ⟨later, after⟩ := runs.world selected' w.history
  have apart : holder ≠ number := by
    rintro rfl
    rw [selected] at selected'
    cases selected'
    exact away holds
  refine ⟨later, t, ?_, ?_⟩
  · rw [show w.run later = _ from after]
    exact free
  · rw [show w.run later = _ from after]
    exact (List.getElem?_set_ne apart).trans selected

/-- A sweep that can finish its work on a session turns to the next one. -/
theorem turns_of_frees {id : String} {sweep : Sweep} {now : Instant} {c : Call}
    (selected : w.calls[number]? = some c) (frees : c.Frees now id (some sweep) w.service) :
    ∃ later count,
      (w.run later).calls[number]? = some (.sweepOn sweep.cutoff count sweep.rest) := by
  obtain ⟨v', report, s, log, runs, -⟩ := frees
  obtain ⟨later, after⟩ := runs.world selected w.history
  refine ⟨later, sweep.count + if report.isRefusal then 0 else 1, ?_⟩
  rw [show w.run later = _ from after]
  exact List.getElem?_set_self (List.getElem?_eq_some_iff.mp selected).1

theorem Reachable.sweepOn_completes (reachable : Reachable settings w) (ids : List String)
    {count : Nat} (selected : w.calls[number]? = some (.sweepOn cutoff count ids)) :
    ∃ later n, (w.run later).calls[number]? = some (.done (.swept (some n))) := by
  -- On the sessions still to be looked at; each is worked on once its lock is free.
  induction ids generalizing w count with
  | nil => exact ⟨[], count, selected⟩
  | cons id rest ih =>
    have onward {w' : World} (reachable' : Reachable settings w')
        (selected' : w'.calls[number]? = some (.sweepOn cutoff count (id :: rest)))
        (free : ∀ s, w'.registry.cells.find? id ≠ some ⟨s, true⟩) :
        ∃ later n, (w'.run later).calls[number]? = some (.done (.swept (some n))) := by
      have turned : ∃ later count,
          (w'.run later).calls[number]? = some (.sweepOn cutoff count rest) := by
        cases found : w'.registry.cells.find? id with
        | none =>
          refine ⟨[.step number ⟨0⟩], count, ?_⟩
          change (w'.step (.step number ⟨0⟩)).calls[number]? = _
          rw [step_of_selected selected', List.getElem?_set_self
            (List.getElem?_eq_some_iff.mp selected').1]
          simp only [Call.sweepOn, Call.step, Call.workStep, Registry.lock, found]
          rfl
        | some cell =>
          obtain ⟨s, held⟩ := cell
          cases held with
          | true => exact absurd found (free s)
          | false => exact turns_of_frees selected' (.waiting found _ ⟨0⟩ _)
      obtain ⟨later, count', next⟩ := turned
      obtain ⟨rest', n, done⟩ := ih (reachable'.run later) next
      exact ⟨later ++ rest', n, by rw [run_append, done]⟩
    by_cases taken : ∃ s, w.registry.cells.find? id = some ⟨s, true⟩
    · obtain ⟨s, taken⟩ := taken
      obtain ⟨later, t, free, selected'⟩ :=
        reachable.find?_free taken selected (by simp [Call.sweepOn, Call.holds?])
      obtain ⟨rest', n, done⟩ := onward (reachable.run later) selected' (by simp [free])
      exact ⟨later ++ rest', n, by rw [run_append, done]⟩
    · exact onward reachable selected (not_exists.mp taken)

/-- Wherever it stands, a sweep can be brought to its end. -/
theorem Reachable.sweeping_completes (reachable : Reachable settings w) {c : Call}
    {listed : List String} {seen : List Session} (selected : w.calls[number]? = some c)
    (sweeping : c.Sweeping cutoff listed seen) :
    ∃ later n, (w.run later).calls[number]? = some (.done (.swept (some n))) := by
  have finishing {id : String} {task : Task} {sweep : Sweep} {phase : Phase}
      (selected : w.calls[number]? = some (.working id task (some sweep) phase))
      (busy : phase ≠ .waiting) :
      ∃ later n, (w.run later).calls[number]? = some (.done (.swept (some n))) := by
    obtain ⟨s, taken, -⟩ := reachable.orderly.found selected busy
    obtain ⟨later, count, next⟩ := turns_of_frees selected (.of_busy taken task busy ⟨0⟩ _)
    obtain ⟨rest, n, done⟩ := (reachable.run later).sweepOn_completes _ next
    exact ⟨later ++ rest, n, by rw [run_append, done]⟩
  cases sweeping with
  | @turning id rest phase early order =>
    rcases early with rfl | rfl
    · exact reachable.sweepOn_completes (id :: rest) selected
    · exact finishing selected nofun
  | handled known late order counted => exact finishing selected (by rintro rfl; cases late)
  | done order => exact ⟨[], _, selected⟩

/-! ## What a sweep lists -/

theorem Reachable.inactiveSince_nodup (reachable : Reachable settings w) (cutoff : Instant) :
    (w.registry.inactiveSince cutoff).Nodup :=
  reachable.nodup_ids.sublist (List.filter_sublist.map Session.id)

theorem Reachable.mem_inactiveSince_iff (reachable : Reachable settings w) {id : String} :
    id ∈ w.registry.inactiveSince cutoff ↔
      ∃ s, w.registry.snapshot? id = some s ∧ s.isIdleSince cutoff := by
  constructor
  · intro member
    obtain ⟨s, chosen, rfl⟩ := List.mem_map.mp member
    obtain ⟨shown, idle⟩ := List.mem_filter.mp chosen
    obtain ⟨id, found⟩ := (Keyed.mem_values_iff reachable.keys_nodup).mp shown
    rw [reachable.traced.shown_named found]
    exact ⟨s, found, idle⟩
  · rintro ⟨s, shown, idle⟩
    exact Registry.mem_inactiveSince shown (reachable.traced.shown_named shown) idle

end World

/-! ## Sweeps served in one go -/

namespace Service

variable {v : Service} {id : String} {cutoff now : Instant}

theorem live?_carryOut_of_none (unknown : v.registry.live? id = none) (now : Instant)
    (subject : String) (task : Task) : (v.carryOut now subject task).2.registry.live? id = none := by
  by_cases own : id = subject
  · subst own
    have missing : v.registry.cells.find? id = none := Option.map_eq_none_iff.mp unknown
    rw [carryOut_of_missing missing, unknown]
  · rw [live?_carryOut_of_ne own, unknown]

/-- What every work on a session keeps, a sweep keeps. -/
theorem foldl_abandonIdle_induction {P : Service → Prop} (start : P v)
    (work : ∀ v id, P v → P (v.carryOut now id (.abandonIdle cutoff)).2) (ids : List String)
    (count : Nat) : P (ids.foldl (abandonIdle cutoff now) (count, v)).2 := by
  refine List.foldlRecOn ids (abandonIdle cutoff now) (motive := fun swept => P swept.2)
    (show P (count, v).2 from start) ?_
  intro swept holds id _
  obtain ⟨count, v⟩ := swept
  rw [abandonIdle_eq]
  exact work v id holds

theorem live?_foldl_of_none (unknown : v.registry.live? id = none) (ids : List String)
    (count : Nat) : (ids.foldl (abandonIdle cutoff now) (count, v)).2.registry.live? id = none :=
  foldl_abandonIdle_induction (P := fun v => v.registry.live? id = none) unknown
    (fun _ subject unknown => live?_carryOut_of_none unknown now subject _) ids count

theorem bank_carryOut (v : Service) (now : Instant) (id : String) (task : Task) :
    (v.carryOut now id task).2.bank = v.bank := by
  rcases v.carryOut_cases now id task with ⟨-, kept⟩ | ⟨s, s', alert, report, -, -, carried⟩
  · rw [kept]
  · rw [carried]

theorem attempts_carryOut (v : Service) (now : Instant) (id : String) (task : Task)
    (pair : String × String) : ((v.carryOut now id task).2.registry.slot pair).attempts =
      (v.registry.slot pair).attempts := by
  rcases v.carryOut_cases now id task with ⟨-, kept⟩ | ⟨s, s', alert, report, -, -, carried⟩
  · rw [kept]
  · rw [carried]
    change ((v.registry.sync s').slot pair).attempts = _
    rw [Registry.sync, Registry.slot_releaseSlot]
    split <;> rfl

/-- Every session that is idle is abandoned and counted. -/
theorem count_foldl_abandonIdle (idle : v.Idle) (ids : List String) (distinct : ids.Nodup)
    (due : ∀ id ∈ ids, ∃ s, v.registry.live? id = some s ∧ s.isIdleSince cutoff) (count : Nat) :
    (ids.foldl (abandonIdle cutoff now) (count, v)).1 = count + ids.length := by
  induction ids generalizing v count with
  | nil => rfl
  | cons id rest ih =>
    obtain ⟨s, live, overdue⟩ := due id List.mem_cons_self
    have report := (carryOut_of_free (idle.find?_of_live? live) now (.abandonIdle cutoff)).1
    rw [Session.perform_abandonIdle, if_pos overdue] at report
    rw [List.foldl_cons, abandonIdle_eq, report, ih (idle.carryOut now id _)
      (List.nodup_cons.mp distinct).2]
    · simp only [Handling.result, Report.isRefusal, List.length_cons]
      simp
      omega
    · intro other member
      obtain ⟨t, live', overdue'⟩ := due other (List.mem_cons_of_mem _ member)
      refine ⟨t, ?_, overdue'⟩
      rw [live?_carryOut_of_ne, live']
      rintro rfl
      exact (List.nodup_cons.mp distinct).1 member

/-- What a sweep comes to when nothing comes in between: all idle sessions are abandoned and counted, and
all else is as it was. -/
structure SweptAtOnce (settings : Settings) (v : Service) (now cutoff : Instant) : Prop where
  receipt : (v.perform now .sweep).1 = .swept (some (v.registry.inactiveSince cutoff).length)
  listed : (v.registry.inactiveSince cutoff).Nodup ∧ ∀ id, id ∈ v.registry.inactiveSince cutoff ↔
    ∃ s, v.registry.live? id = some s ∧ s.isIdleSince cutoff
  sessions : ∀ id, (v.perform now .sweep).2.registry.live? id =
    (v.registry.live? id).map fun s => if s.isIdleSince cutoff then s.timedOut settings now else s
  going : ∀ id, (∃ s, (v.perform now .sweep).2.registry.live? id = some s ∧
      s.status = .inProgress) ↔
    ∃ s, v.registry.live? id = some s ∧ s.status = .inProgress ∧ cutoff ≤ s.lastActivityAt
  rest : (v.perform now .sweep).2.settings = v.settings ∧ (v.perform now .sweep).2.bank = v.bank ∧
    ∀ pair, ((v.perform now .sweep).2.registry.slot pair).attempts =
      (v.registry.slot pair).attempts

theorem going_iff {settings : Settings} {s : Session} :
    (if s.isIdleSince cutoff then s.timedOut settings now else s).status = .inProgress ↔
      s.status = .inProgress ∧ cutoff ≤ s.lastActivityAt := by
  by_cases idle : s.isIdleSince cutoff
  · have before := (Session.isIdleSince_iff.mp idle).2
    have after : ¬cutoff ≤ s.lastActivityAt := Int.not_le.mpr before
    simp [idle, after, Session.timedOut]
  · rw [if_neg idle]
    rw [Session.isIdleSince_iff, not_and] at idle
    exact ⟨fun going => ⟨going, Int.not_lt.mp (idle going)⟩, And.left⟩

theorem sweptAtOnce (settings : Settings) (requests : List (Request × Instant))
    (reaches : idleCutoff settings.exam now = some cutoff) :
    ((ofSettings settings).run requests).SweptAtOnce settings now cutoff := by
  obtain ⟨w, reachable, same, idle, -⟩ := World.reachable_run settings requests
  have steady := steady settings requests
  rw [← same] at steady ⊢
  have shown := reachable.snapshot?_eq idle
  have listed (id : String) : id ∈ w.registry.inactiveSince cutoff ↔
      ∃ s, w.registry.live? id = some s ∧ s.isIdleSince cutoff := by
    rw [reachable.mem_inactiveSince_iff, shown]
  have swept : w.service.perform now .sweep =
      ((.swept (some ((w.registry.inactiveSince cutoff).foldl (abandonIdle cutoff now)
        (0, w.service)).1)), ((w.registry.inactiveSince cutoff).foldl (abandonIdle cutoff now)
        (0, w.service)).2) := by
    simp only [perform, sweep, steady.settings, reaches, Option.map_some, Option.elim_some]
  have sessions (id : String) : (w.service.perform now .sweep).2.registry.live? id =
      (w.registry.live? id).map fun s =>
        if s.isIdleSince cutoff then s.timedOut settings now else s := by
    cases live : w.registry.live? id with
    | none =>
      rw [swept]
      exact live?_foldl_of_none live _ _
    | some s =>
      rw [steady.live?_sweep live, Option.map_some]
      simp only [Session.after, Request.job?, Request.isSweep, reaches, Option.elim_some,
        Session.worked_abandonIdle]
  refine ⟨?_, ⟨reachable.inactiveSince_nodup cutoff, listed⟩, sessions, ?_, ?_, ?_, ?_⟩
  · rw [swept, count_foldl_abandonIdle idle _ (reachable.inactiveSince_nodup cutoff)
      (fun id member => (listed id).mp member), Nat.zero_add]
  · intro id
    rw [sessions]
    constructor
    · rintro ⟨t, after, going⟩
      obtain ⟨s, live, rfl⟩ := Option.map_eq_some_iff.mp after
      exact ⟨s, live, going_iff.mp going⟩
    · rintro ⟨s, live, going⟩
      exact ⟨_, by rw [live, Option.map_some], going_iff.mpr going⟩
  · rw [swept]
    exact foldl_abandonIdle_induction (P := fun v => v.settings = w.service.settings) rfl
      (fun v id same => settings_carryOut.trans same) _ _
  · rw [swept]
    exact foldl_abandonIdle_induction (P := fun v => v.bank = w.service.bank) rfl
      (fun v id same => (bank_carryOut v now id _).trans same) _ _
  · intro pair
    rw [swept]
    exact foldl_abandonIdle_induction
      (P := fun v => (v.registry.slot pair).attempts = (w.registry.slot pair).attempts) rfl
      (fun v id same => (attempts_carryOut v now id _ pair).trans same) _ _

end Service

/-! ## Sweeps in any run -/

namespace World

variable {settings : Settings} {w : World} {number : Nat} {cutoff : Instant} {listed : List String}

/-- What a sweep does that has listed these sessions, however its steps come among those of other
calls. -/
structure SweepsListed (settings : Settings) (w : World) (number : Nat) (cutoff : Instant)
    (listed : List String) : Prop where
  /-- It looks once at each of them, and counts those that are idle when it does. -/
  counts : ∀ later receipt, (w.run later).calls[number]? = some (.done receipt) →
    (w.lookedAt number later).map Session.id = listed ∧
      receipt = .swept (some ((w.lookedAt number later).countP (·.isIdleSince cutoff)))
  /-- A session is abandoned if it is idle when it is looked at. -/
  abandons : ∀ later now id,
    ((w.run later).step (.step number now)).registry.live? id =
      if ((w.run later).looksAt? number (.step number now)).any
          fun s => s.id = id && s.isIdleSince cutoff then
        ((w.run later).registry.live? id).map (·.timedOut settings now)
      else (w.run later).registry.live? id
  /-- Sessions other than the one that it is at, rubrics and settings are left alone. -/
  leaves : ∀ later now c, (w.run later).calls[number]? = some c →
    ((w.run later).step (.step number now)).service.settings = settings ∧
    ((w.run later).step (.step number now)).service.bank = (w.run later).service.bank ∧
    ∀ id ∈ (w.run later).registry.cells.keys, c.subject? ≠ some id →
      (w.run later).registry.Agrees ((w.run later).step (.step number now)).registry id
  completes : ∀ later, ∃ rest n,
    (w.run (later ++ rest)).calls[number]? = some (.done (.swept (some n)))

theorem Reachable.sweepsListed (reachable : Reachable settings w)
    (listed_live : ∀ id ∈ listed, ∃ s, w.registry.live? id = some s)
    (selected : w.calls[number]? = some (.sweepOn cutoff 0 listed)) :
    w.SweepsListed settings number cutoff listed := by
  have stands := reachable.sweeping listed_live selected
  refine ⟨?_, ?_, ?_, ?_⟩
  · intro later receipt done
    obtain ⟨c, selected', sweeping⟩ := stands later
    rw [done] at selected'
    cases selected'
    cases sweeping with
    | done order => exact ⟨order, rfl⟩
  · intro later now id
    obtain ⟨c, selected', sweeping⟩ := stands later
    rw [looksAt?_own selected', (reachable.run later).orderly.live?_of_sweeping selected' sweeping,
      (reachable.run later).supplied.settings]
  · intro later now c selected'
    obtain ⟨c', same, sweeping⟩ := stands later
    rw [selected'] at same
    cases same
    refine ⟨((reachable.run later).run [.step number now]).supplied.settings, ?_, ?_⟩
    · rw [step_of_selected selected']
      have move := c.step_move (w.run later).service now
      cases sweeping with
      | turning | handled => exact move.bank_eq
      | done => rfl
    · intro id known apart
      rw [step_of_selected selected']
      exact (reachable.run later).orderly.agrees_of_move selected'
        (c.step_move (w.run later).service now) apart known
  · intro later
    obtain ⟨c, selected', sweeping⟩ := stands later
    obtain ⟨rest, n, done⟩ := (reachable.run later).sweeping_completes selected' sweeping
    exact ⟨rest, n, by rw [run_append, done]⟩

/-- A sweep abandons the sessions that it has listed and finds idle when it looks at them, counts them,
and comes to its end; served in one go, it leaves in progress those that are not idle. A session is idle
if nothing has happened in it for longer than the timeout, unless that takes up a whole word. -/
theorem idle_sessions_swept (settings : Settings) (events : List Event)
    (requests : List (Request × Instant)) :
    let w := (begin settings).run events
    let minutes := settings.exam.inactivityTimeoutMinutes
    (∀ number now, w.calls[number]? = some .listing →
      (w.step (.step number now)).service = w.service ∧
      ∀ cutoff, Service.idleCutoff settings.exam now = some cutoff →
        (w.step (.step number now)).SweepsListed settings number cutoff
          (w.registry.inactiveSince cutoff)) ∧
    (∀ cutoff id, id ∈ w.registry.inactiveSince cutoff ↔
      ∃ s, w.registry.snapshot? id = some s ∧ s.status = .inProgress ∧ s.lastActivityAt < cutoff) ∧
    (∀ now cutoff, Service.idleCutoff settings.exam now = some cutoff →
      ((Service.ofSettings settings).run requests).SweptAtOnce settings now cutoff) ∧
    (minutes < Word.size63 → ∀ now cutoff, Service.idleCutoff settings.exam now = some cutoff ↔
      Service.ReachesBack minutes now ∧ cutoff = Service.minutesAgo minutes now) := by
  intro w minutes
  have reachable : Reachable settings w := ⟨events, rfl⟩
  refine ⟨?_, ?_, fun now cutoff => Service.sweptAtOnce settings requests,
    fun short => Service.idleCutoff_of_lt short⟩
  · intro number now selected
    refine ⟨by rw [step_of_selected selected]; rfl, fun cutoff reaches => ?_⟩
    refine Reachable.sweepsListed (reachable.run [.step number now]) ?_ ?_
    · intro id member
      obtain ⟨s, shown, -⟩ := reachable.mem_inactiveSince_iff.mp member
      have live := reachable.traced.shown id (by rw [shown]; rfl)
      obtain ⟨t, live⟩ := Option.isSome_iff_exists.mp live
      exact ⟨t, by rw [step_of_selected selected]; exact live⟩
    · rw [step_of_selected selected,
        List.getElem?_set_self (List.getElem?_eq_some_iff.mp selected).1]
      simp only [Call.step, reachable.supplied.settings, reaches, Option.elim_some]
  · intro cutoff id
    simp only [reachable.mem_inactiveSince_iff, Session.isIdleSince_iff]

/-- With the longest timeout that a word holds, a session is abandoned at the moment it starts. -/
theorem active_session_abandoned :
    let settings : Settings := { exam := { inactivityTimeoutMinutes := 18446744073709551615 } }
    let now : Instant := ⟨1700000000000000000⟩
    let v := (Service.ofSettings settings).run [(.start "demo-assignment" "al", now)]
    (v.registry.live? "session-0001").map (fun s => (s.status, s.lastActivityAt)) =
      some (.inProgress, now) ∧
    ((v.perform now .sweep).2.registry.live? "session-0001").map (·.status) = some .abandoned := by
  decide +kernel

end World

end OralExam
