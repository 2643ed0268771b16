import OralExam.Proofs.Service.Frame
import OralExam.Proofs.Service.Refusals

/-! Sessions are kept apart.

What becomes of a session is decided by what it is, by the settings, and by the requests for it and the
sweeps with their times. Whatever else is asked of the service meanwhile makes no difference: rubrics
may be published or archived, other sessions started, answered, ended and reviewed.
-/

set_option autoImplicit false

namespace OralExam

namespace Request

/-- The request is for work on the session. -/
def addresses (id : String) (request : Request) : Bool := request.job?.any (·.1 = id)

def isSweep : Request → Bool
  | sweep => true
  | _ => false

/-- The request is for the session, or may sweep it. -/
def concerns (id : String) (request : Request) : Bool := request.addresses id || request.isSweep

end Request

/-- What a request has given, if it was for the session, and what readers are shown of the session
afterwards. -/
structure Dealing where
  receipt : Option Receipt
  shown : Except Failure Session

/-- What comes of the requests that concern a session. -/
def Service.dealings (id : String) (v : Service) : List (Request × Instant) → List Dealing
  | [] => []
  | (request, now) :: rest =>
    let (receipt, v) := v.perform now request
    if request.concerns id then
      ⟨if request.addresses id then some receipt else none, v.session id⟩ :: v.dealings id rest
    else v.dealings id rest

/-! ## A session by itself -/

namespace Session

/-- The session after a task. -/
def worked (settings : Settings) (now : Instant) (task : Task) (s : Session) : Session :=
  (task.perform settings now s).session s

/-- The session after a request that concerns it. -/
def after (settings : Settings) (now : Instant) (request : Request) (s : Session) : Session :=
  match request.job?, request.isSweep with
  | some (_, task), _ => s.worked settings now task
  | none, true => (Service.idleCutoff settings.exam now).elim s fun cutoff =>
      s.worked settings now (.abandonIdle cutoff)
  | none, false => s

/-- What comes of requests that concern the session, if there is nothing but the session. -/
def dealings (settings : Settings) (s : Session) : List (Request × Instant) → List Dealing
  | [] => []
  | (request, now) :: rest =>
    ⟨request.job?.map fun job => .worked (job.2.perform settings now s).result,
      .ok (s.after settings now request)⟩ :: (s.after settings now request).dealings settings rest

/-- What becomes of the session by requests that concern it. -/
def through (settings : Settings) (s : Session) (requests : List (Request × Instant)) : Session :=
  requests.foldl (fun s r => s.after settings r.2 r.1) s

variable {settings : Settings} {now cutoff : Instant} {s : Session}

theorem worked_of_not_isIdleSince (active : s.isIdleSince cutoff = false) :
    s.worked settings now (.abandonIdle cutoff) = s := by
  simp [worked, Task.perform, abandonIdle, active, Handling.map, Handling.session]

/-- A session is not abandoned twice. -/
theorem worked_abandonIdle_twice :
    (s.worked settings now (.abandonIdle cutoff)).worked settings now (.abandonIdle cutoff) =
      s.worked settings now (.abandonIdle cutoff) := by
  apply worked_of_not_isIdleSince
  cases idle : s.isIdleSince cutoff with
  | false => rw [worked_of_not_isIdleSince idle, idle]
  | true =>
    have ended : (s.worked settings now (.abandonIdle cutoff)).status = .abandoned := by
      simp [worked, Task.perform, abandonIdle, idle, Handling.map, Handling.session]
    simp [isIdleSince, ended]

end Session

/-! ## The session among others -/

namespace Service

variable {v : Service} {now : Instant} {id other : String} {task : Task} {s : Session}

theorem settings_carryOut : (v.carryOut now id task).2.settings = v.settings := by
  rcases v.carryOut_cases now id task with ⟨-, kept⟩ | ⟨s, s', alert, report, -, -, carried⟩
  · rw [kept]
  · rw [carried]

theorem live?_carryOut_of_ne (apart : other ≠ id) :
    (v.carryOut now id task).2.registry.live? other = v.registry.live? other := by
  rcases v.carryOut_cases now id task with ⟨-, kept⟩ | ⟨s, s', alert, report, -, -, carried⟩
  · rw [kept]
  · simp only [carried]
    rw [Registry.live?_setCell, if_neg apart, Registry.live?, Registry.cells_sync, Registry.live?]

/-- Work on a session nobody works on depends on nothing but the session. -/
theorem carryOut_of_free (free : v.registry.cells.find? id = some ⟨s, false⟩) (now : Instant)
    (task : Task) : (v.carryOut now id task).1 = (task.perform v.settings now s).result ∧
      (v.carryOut now id task).2.registry.live? id = some (s.worked v.settings now task) := by
  unfold Session.worked
  cases body : task.perform v.settings now s with
  | leave report =>
    rw [carryOut_of_leave free body]
    exact ⟨rfl, Registry.live?_of_find? free⟩
  | replace s' alert report =>
    rw [carryOut_of_replace free body]
    exact ⟨rfl, Registry.live?_of_find? (Registry.find?_setCell_self _ _ _)⟩

theorem Idle.find?_of_live? (idle : v.Idle) (live : v.registry.live? id = some s) :
    v.registry.cells.find? id = some ⟨s, false⟩ := by
  obtain ⟨held, found⟩ := Registry.live?_eq_some_iff.mp live
  obtain rfl : held = false := idle id _ found
  exact found

/-- In a sweep, the work on the other sessions makes no difference to one. -/
theorem live?_foldl_abandonIdle (idle : v.Idle) (live : v.registry.live? id = some s)
    (cutoff now : Instant) (ids : List String) (count : Nat) :
    (ids.foldl (abandonIdle cutoff now) (count, v)).2.registry.live? id =
      some (if id ∈ ids then s.worked v.settings now (.abandonIdle cutoff) else s) := by
  induction ids generalizing v s count with
  | nil => simpa using live
  | cons first rest ih =>
    have idle' := idle.carryOut now first (.abandonIdle cutoff)
    rw [List.foldl_cons, abandonIdle_eq]
    by_cases own : id = first
    · subst own
      have worked := (carryOut_of_free (idle.find?_of_live? live) now (.abandonIdle cutoff)).2
      rw [ih idle' worked, settings_carryOut, Session.worked_abandonIdle_twice, ite_self,
        if_pos List.mem_cons_self]
    · rw [ih idle' ((live?_carryOut_of_ne own).trans live), settings_carryOut]
      simp only [List.mem_cons, own, false_or]

end Service

/-- A session that is idle is swept. -/
theorem Registry.mem_inactiveSince {r : Registry} {id : String} {s : Session} {cutoff : Instant}
    (shown : r.snapshot? id = some s) (named : s.id = id) (idle : s.isIdleSince cutoff) :
    id ∈ r.inactiveSince cutoff := by
  have member : s ∈ r.snapshots.values := List.mem_map_of_mem (Keyed.mem_of_find? shown)
  rw [← named]
  exact List.mem_map_of_mem (List.mem_filter.mpr ⟨member, idle⟩)

namespace Service

/-- What holds of the service between two requests that are served one after the other. -/
structure Steady (settings : Settings) (v : Service) : Prop where
  settings : v.settings = settings
  idle : v.Idle
  named : ∀ id s, v.registry.live? id = some s → s.id = id
  shown : ∀ id, v.registry.snapshot? id = v.registry.live? id
  fresh : sessionId (v.registry.cells.entries.length + 1) ∉ v.registry.cells.keys

theorem steady (settings : Settings) (requests : List (Request × Instant)) :
    ((ofSettings settings).run requests).Steady settings := by
  obtain ⟨w, reachable, same, idle, -⟩ := World.reachable_run settings requests
  rw [← same]
  exact ⟨reachable.supplied.settings, idle, reachable.orderly.numbered.named,
    reachable.snapshot?_eq idle, reachable.orderly.numbered.fresh⟩

namespace Steady

variable {settings : Settings} {v : Service} {now : Instant} {id : String} {s : Session}

theorem live?_sweep (steady : v.Steady settings) (live : v.registry.live? id = some s) :
    (v.perform now .sweep).2.registry.live? id = some (s.after settings now .sweep) := by
  simp only [perform, sweep, Session.after, Request.job?, Request.isSweep, steady.settings]
  cases idleCutoff settings.exam now with
  | none => exact live
  | some cutoff =>
    simp only [Option.map_some, Option.elim_some]
    rw [live?_foldl_abandonIdle steady.idle live, steady.settings]
    split
    · rfl
    · -- Who is not listed is not idle.
      rename_i unlisted
      have active : s.isIdleSince cutoff = false := by
        by_contra idle
        exact unlisted (Registry.mem_inactiveSince ((steady.shown id).trans live)
          (steady.named id s live) (by simpa using idle))
      rw [Session.worked_of_not_isIdleSince active]

theorem live?_startWith (steady : v.Steady settings) (live : v.registry.live? id = some s)
    (assignment : Assignment) (studentId : String) :
    (v.startWith assignment studentId now).2.registry.live? id = some s := by
  unfold startWith
  split
  · exact live
  · rename_i rubric admitted
    rcases v.openSession_cases assignment studentId rubric now with
      ⟨e, -, refused⟩ | ⟨chosen, pending, c, q, -, -, -, opened⟩
    · rw [refused]
      exact live
    · rw [opened]
      have fresh : (v.firstAsked assignment studentId rubric now chosen).id ∉
          v.registry.cells.keys := steady.fresh
      have apart : id ≠ (v.firstAsked assignment studentId rubric now chosen).id := by
        rintro rfl
        rw [Registry.live?_of_fresh fresh] at live
        cases live
      simp only
      rw [Registry.live?_enter, if_neg apart, live]

/-- Only requests that concern a session make anything of it, and what they make of it and give is what
they would if there were nothing but the session. -/
theorem perform (steady : v.Steady settings) (live : v.registry.live? id = some s)
    (now : Instant) (request : Request) :
    (v.perform now request).2.registry.live? id =
      some (if request.concerns id then s.after settings now request else s) ∧
    (request.concerns id → (if request.addresses id then some (v.perform now request).1 else none) =
      request.job?.map fun job => .worked (job.2.perform settings now s).result) := by
  cases job : request.job? with
  | some found =>
    obtain ⟨subject, task⟩ := found
    have sweep : request.isSweep = false := by
      cases request <;> first | rfl | cases job
    have addresses : request.addresses id = decide (subject = id) := by
      rw [Request.addresses, job, Option.any_some]
    have concerns : request.concerns id = decide (subject = id) := by
      rw [Request.concerns, addresses, sweep, Bool.or_false]
    rw [perform_of_job job, concerns, addresses]
    by_cases own : subject = id
    · subst own
      obtain ⟨report, after⟩ := carryOut_of_free (steady.idle.find?_of_live? live) now task
      simp only [decide_true, if_true, Session.after, job, Option.map_some, true_implies]
      rw [after, report, steady.settings]
      exact ⟨rfl, rfl⟩
    · simp only [own, decide_false, Bool.false_eq_true, if_false, false_implies, and_true]
      rw [live?_carryOut_of_ne (Ne.symm own), live]
  | none =>
    have addresses : request.addresses id = false := by
      rw [Request.addresses, job, Option.any_none]
    rw [Request.concerns, addresses, Bool.false_or]
    refine ⟨?_, fun _ => rfl⟩
    cases request with
    | answer | endSession | review => cases job
    | start | startWith => exact steady.live?_startWith live _ _
    | publish r =>
      change (v.publish r).2.registry.live? id = some s
      rw [registry_publish, live]
    | sweep =>
      rw [if_pos (show Request.isSweep .sweep = true from rfl)]
      exact steady.live?_sweep live

end Steady

variable {id : String} {s : Session}

/-- What comes of a session among others is what would come of it by itself. -/
theorem dealings_eq (settings : Settings) (requests later : List (Request × Instant))
    (live : ((ofSettings settings).run requests).registry.live? id = some s) :
    ((ofSettings settings).run requests).dealings id later =
      s.dealings settings (later.filter (·.1.concerns id)) ∧
    (((ofSettings settings).run requests).run later).registry.live? id =
      some (s.through settings (later.filter (·.1.concerns id))) := by
  induction later generalizing requests s with
  | nil => exact ⟨rfl, live⟩
  | cons first rest ih =>
    obtain ⟨request, now⟩ := first
    have before := steady settings requests
    have run (v : Service) : v.run ((request, now) :: rest) = (v.perform now request).2.run rest :=
      rfl
    have next : (((ofSettings settings).run requests).perform now request).2 =
        (ofSettings settings).run (requests ++ [(request, now)]) :=
      (run_append _ requests [(request, now)]).symm
    obtain ⟨after, given⟩ := before.perform live now request
    have shown := (next ▸ (steady settings (requests ++ [(request, now)])).shown id).trans after
    have rest' := ih (requests ++ [(request, now)]) (next ▸ after)
    rw [← next] at rest'
    rw [run, dealings, List.filter_cons]
    cases concerns : request.concerns id with
    | true =>
      rw [concerns, if_pos rfl] at shown rest'
      have read : (((ofSettings settings).run requests).perform now request).2.session id =
          .ok (s.after settings now request) := by
        rw [session, shown]
      simp only [if_true, given concerns, read]
      exact ⟨by rw [rest'.1, Session.dealings], rest'.2⟩
    | false =>
      rw [concerns] at rest'
      simpa using rest'

end Service

/-! ## The session among calls under way -/

/-- Who works on the session cannot tell the two services apart. -/
structure Service.AlikeFor (id : String) (v v' : Service) : Prop where
  settings : v'.settings = v.settings
  cell : v'.registry.cells.find? id = v.registry.cells.find? id
  snapshot : v'.registry.snapshot? id = v.registry.snapshot? id

namespace Service.AlikeFor

variable {id : String} {v v' : Service}

theorem live? (alike : v.AlikeFor id v') : v'.registry.live? id = v.registry.live? id := by
  rw [Registry.live?, alike.cell, Registry.live?]

/-- The session is put into the same cell in both. -/
theorem setCell (alike : v.AlikeFor id v') (cell : Cell) :
    Service.AlikeFor id { v with registry := v.registry.setCell id cell }
      { v' with registry := v'.registry.setCell id cell } :=
  ⟨alike.settings, by rw [Registry.find?_setCell_self, Registry.find?_setCell_self], alike.snapshot⟩

/-- A step of the work on the session is the same in both, and leaves them alike. -/
theorem workStep (alike : v.AlikeFor id v') (now : Instant) (task : Task) (sweep : Option Sweep)
    (phase : Phase) :
    (Call.workStep v' now id task sweep phase).call = (Call.workStep v now id task sweep phase).call ∧
      (Call.workStep v now id task sweep phase).service.AlikeFor id
        (Call.workStep v' now id task sweep phase).service := by
  cases phase with
  | waiting =>
    simp only [Call.workStep, Registry.lock, alike.cell]
    cases found : v.registry.cells.find? id with
    | none => exact ⟨rfl, alike⟩
    | some cell =>
      obtain ⟨s, held⟩ := cell
      cases held with
      | false => exact ⟨rfl, alike.setCell ⟨s, true⟩⟩
      | true =>
        simp only [if_true]
        split <;> exact ⟨rfl, alike⟩
  | locked =>
    simp only [Call.workStep, alike.live?, alike.settings]
    cases live : v.registry.live? id with
    | none => exact ⟨rfl, alike⟩
    | some s =>
      simp only
      cases task.perform v.settings now s with
      | leave report => exact ⟨rfl, alike⟩
      | replace s' alert report =>
        obtain ⟨held, found⟩ := Registry.live?_eq_some_iff.mp live
        refine ⟨rfl, ?_⟩
        simp only [Registry.update_of_find? found, Registry.update_of_find? (alike.cell.trans found)]
        exact ⟨rfl, (alike.setCell ⟨s', held⟩).cell, alike.snapshot⟩
  | changed alert report =>
    simp only [Call.workStep, alike.live?]
    cases v.registry.live? id with
    | none => exact ⟨rfl, alike⟩
    | some s =>
      refine ⟨rfl, alike.settings, alike.cell, ?_⟩
      simp only [Registry.snapshot?_writeSnapshot, alike.snapshot]
  | written alert report =>
    simp only [Call.workStep, alike.live?]
    cases v.registry.live? id with
    | none => exact ⟨rfl, alike⟩
    | some s =>
      refine ⟨rfl, alike.settings, ?_, ?_⟩
      · simp only [Registry.cells_releaseSlot, alike.cell]
      · simp only [Registry.snapshot?_releaseSlot, alike.snapshot]
  | settled alert report => exact ⟨rfl, alike.settings, alike.cell, alike.snapshot⟩
  | leaving report =>
    refine ⟨rfl, ?_⟩
    simp only [Call.workStep, Service.free]
    cases found : v.registry.cells.find? id with
    | none =>
      rw [Registry.unlock, Registry.unlock, alike.cell, found]
      exact alike
    | some cell =>
      rw [Registry.unlock_of_find? found, Registry.unlock_of_find? (alike.cell.trans found)]
      exact alike.setCell _

end Service.AlikeFor

namespace World

/-- Steps of calls that are not for the session leave it alone; and the steps of a call that is for it
are the same in two worlds which agree in the session, and leave them so. -/
structure KeepsApart (id : String) (w w' : World) : Prop where
  others : ∀ (number : Nat) (c : Call), w.calls[number]? = some c → c.subject? ≠ some id →
    ∀ now, w.service.AlikeFor id (w.step (.step number now)).service
  own : w.service.AlikeFor id w'.service → ∀ c : Call, c.subject? = some id → ∀ now,
    (c.step w'.service now).call = (c.step w.service now).call ∧
      (c.step w.service now).service.AlikeFor id (c.step w'.service now).service

variable {settings : Settings} {w : World}

theorem Reachable.keepsApart (reachable : Reachable settings w) {id : String}
    (started : (w.registry.live? id).isSome) (w' : World) : KeepsApart id w w' := by
  constructor
  · intro number c selected apart now
    obtain ⟨s, live⟩ := Option.isSome_iff_exists.mp started
    obtain ⟨held, found⟩ := Registry.live?_eq_some_iff.mp live
    have agrees := reachable.orderly.agrees_of_move selected (c.step_move w.service now) apart
      (Registry.mem_keys_of_find? found)
    have settings_eq := (reachable.run [.step number now]).supplied.settings
    refine ⟨settings_eq.trans reachable.supplied.settings.symm, ?_, ?_⟩
    · rw [step_of_selected selected]
      exact agrees.cell
    · rw [step_of_selected selected]
      exact agrees.snapshot
  · intro alike c mine now
    cases c with
    | working subject task sweep phase =>
      cases mine
      exact alike.workStep now task sweep phase
    | _ => cases mine

/-- Take a session that has been started, and two continuations in which the same requests for the
session and the same sweeps come at the same times. They give the same for the session and leave it the
same, whatever else comes in the one and in the other. Nor does a request matter that fails; and calls
that are under way are kept apart in each of their steps. -/
theorem sessions_isolated (settings : Settings) (id : String)
    (requests first second : List (Request × Instant))
    (started : (((Service.ofSettings settings).run requests).registry.live? id).isSome)
    (same : first.filter (·.1.concerns id) = second.filter (·.1.concerns id)) :
    let v := (Service.ofSettings settings).run requests
    (v.dealings id first = v.dealings id second ∧
      (v.run first).registry.live? id = (v.run second).registry.live? id ∧
      (v.run first).session id = (v.run second).session id) ∧
    (∀ earlier request now e, ((v.run earlier).perform now request).1.failure? = some e →
      v.run (earlier ++ [(request, now)]) = v.run earlier) ∧
    ∀ events events', let w := (begin settings).run events
      (w.registry.live? id).isSome → KeepsApart id w ((begin settings).run events') := by
  intro v
  obtain ⟨s, live⟩ := Option.isSome_iff_exists.mp started
  obtain ⟨given, left⟩ := Service.dealings_eq settings requests first live
  obtain ⟨given', left'⟩ := Service.dealings_eq settings requests second live
  have content : (v.run first).registry.live? id = (v.run second).registry.live? id := by
    rw [left, left', same]
  refine ⟨⟨?_, content, ?_⟩, ?_, ?_⟩
  · rw [given, given', same]
  · have shown (later : List (Request × Instant)) :
        (v.run later).registry.snapshot? id = (v.run later).registry.live? id := by
      have steady := Service.steady settings (requests ++ later)
      rw [Service.run_append] at steady
      exact steady.shown id
    rw [Service.session, Service.session, shown, shown, content]
  · intro earlier request now e failed
    obtain ⟨w, served, after, -⟩ := reachable_run settings (requests ++ earlier)
    rw [Service.run_append] at after
    rw [Service.run_append]
    exact Service.perform_of_failure? (after ▸ served.supplied.settings)
      (after ▸ served.traced.reached) failed
  · intro events events' w started
    exact Reachable.keepsApart ⟨events, rfl⟩ started _

/-- One student answers; in between, or not, the rubric is withdrawn and another student comes and
goes. -/
theorem usual_session_isolated :
    let requests : List (Request × Instant) := [(.start "demo-assignment" "ada", ⟨0⟩)]
    let first : List (Request × Instant) :=
      [(.answer "session-0001" "a base case" none, ⟨60⟩), (.sweep, ⟨90⟩)]
    let second : List (Request × Instant) :=
      [(.start "demo-assignment" "bob", ⟨10⟩),
        (.publish { Rubric.starter with status := .archived }, ⟨20⟩),
        (.answer "session-0001" "a base case" none, ⟨60⟩),
        (.endSession "session-0002" none true, ⟨70⟩), (.sweep, ⟨90⟩)]
    let v := (Service.ofSettings {}).run requests
    (v.registry.live? "session-0001").isSome ∧
    first.filter (·.1.concerns "session-0001") = second.filter (·.1.concerns "session-0001") ∧
    (v.dealings "session-0001" first = v.dealings "session-0001" second ∧
      (v.run first).registry.live? "session-0001" = (v.run second).registry.live? "session-0001" ∧
      (v.run first).session "session-0001" = (v.run second).session "session-0001") ∧
    (∀ earlier request now e, ((v.run earlier).perform now request).1.failure? = some e →
      v.run (earlier ++ [(request, now)]) = v.run earlier) ∧
    ∀ events events', let w := (begin {}).run events
      (w.registry.live? "session-0001").isSome →
        KeepsApart "session-0001" w ((begin {}).run events') := by
  intro requests first second v
  have started : (v.registry.live? "session-0001").isSome := by decide +kernel
  have same : first.filter (·.1.concerns "session-0001") =
      second.filter (·.1.concerns "session-0001") := by
    simp [first, second, Request.concerns, Request.addresses, Request.job?, Request.isSweep]
  exact ⟨started, same, sessions_isolated {} "session-0001" requests first second started same⟩

end World

end OralExam
