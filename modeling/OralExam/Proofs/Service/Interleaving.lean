import Mathlib.Data.List.Induction
import OralExam.Proofs.Session.Course
import OralExam.Proofs.Session.Registry
import OralExam.Service.Basic

/-! Calls to the service that run side by side.

A call is made of steps, and each step looks at one thing or changes one: a start checks that the
pair is free, finds a rubric and puts the session in; work on a session takes its lock, changes it
in its cell, writes the snapshot, frees the slot, hands over the alert and gives the lock back.
Between two steps of one call any others may come. Answers do not wait for a lock, the other tasks do.
-/

set_option autoImplicit false

namespace OralExam

/-- What clients, authors and the sweeper ask of the service. -/
inductive Request where
  | start (assignmentId studentId : String)
  | startWith (assignment : Assignment) (studentId : String)
  | answer (id transcript : String) (similarity : Option Float)
  | endSession (id : String) (reason : Option String) (abandoned : Bool)
  | review (id reviewer : String) (scoreOverride : Option Float) (reason : Option String)
  | publish (r : Rubric)
  | sweep

/-- What a call gives in the end. -/
inductive Receipt where
  | started (result : Except Failure Opening)
  | worked (report : Report)
  | published (result : Except Failure Rubric)
  | swept (count : Option Nat)

namespace Task

def waits : Task → Bool
  | answer _ _ => false
  | endEarly _ _ | review _ _ _ | abandonIdle _ => true

/-- The session cannot be had. -/
def refused (e : Failure) : Task → Report
  | answer _ _ => .answered (.error e)
  | endEarly _ _ => .ended (.error e)
  | review _ _ _ => .reviewed (.error e)
  | abandonIdle _ => .abandoned (.error e)

end Task

/-- The session could not be had, so nothing was done to it. -/
def Report.IsTurnedAway (report : Report) : Prop :=
  ∃ task id, report = Task.refused (.unknownSession id) task ∨ report = Task.refused (.busy id) task

/-- How far the work on a session has come. -/
inductive Phase where
  | waiting
  | locked
  /-- The session is changed in its cell. -/
  | changed (alert : Option Alert) (report : Report)
  | written (alert : Option Alert) (report : Report)
  /-- The slot is free if the session has ended. -/
  | settled (alert : Option Alert) (report : Report)
  | leaving (report : Report)

/-- Where a sweep stands: the sessions abandoned so far, and those still to be looked at. -/
structure Sweep where
  cutoff : Instant
  count : Nat
  rest : List String

/-- A call under way: the step that it takes next. -/
inductive Call where
  | checking (assignment : Assignment) (studentId : String)
  | choosing (assignment : Assignment) (studentId : String)
  | opening (assignment : Assignment) (studentId : String) (rubric : Rubric)
  | publishing (r : Rubric)
  | listing
  | working (id : String) (task : Task) (sweep : Option Sweep) (phase : Phase)
  | done (receipt : Receipt)

def Request.call (settings : Settings) : Request → Call
  | start assignmentId studentId => .checking (settings.assignment assignmentId) studentId
  | startWith assignment studentId => .checking assignment studentId
  | answer id transcript similarity => .working id (.answer transcript similarity) none .waiting
  | endSession id reason abandoned => .working id (.endEarly reason abandoned) none .waiting
  | review id reviewer scoreOverride reason =>
    .working id (.review reviewer scoreOverride reason) none .waiting
  | publish r => .publishing r
  | sweep => .listing

/-- What has to hold of the pair before a rubric is looked for. -/
def Service.vacancy (v : Service) (assignment : Assignment) (studentId : String) :
    Except Failure Unit :=
  if Text.isBlank assignment.id || Text.isBlank studentId then .error .blankStartId
  else match v.registry.activeFor studentId assignment.id with
    | some id => .error (.alreadyInProgress studentId id assignment.id)
    | none => .ok ()

/-- What comes of one step of a call. -/
structure Progress where
  call : Call
  service : Service
  /-- The deed done to a session in its cell, if the step did one. -/
  log : List (String × Deed) := []

namespace Call

/-- Turns to the next session of a sweep. -/
def sweepOn (cutoff : Instant) (count : Nat) : List String → Call
  | [] => done (.swept (some count))
  | id :: rest => working id (.abandonIdle cutoff) (some ⟨cutoff, count, rest⟩) .waiting

/-- Goes on after the work on a session. -/
def proceed (report : Report) : Option Sweep → Call
  | none => done (.worked report)
  | some sweep =>
    sweepOn sweep.cutoff (sweep.count + if report.isRefusal then 0 else 1) sweep.rest

/-- One step of the work on a session. What cannot go on stays. -/
def workStep (v : Service) (now : Instant) (id : String) (task : Task) (sweep : Option Sweep) :
    Phase → Progress
  | .waiting =>
    match v.registry.lock id with
    | .ok (_, registry) => ⟨working id task sweep .locked, { v with registry }, []⟩
    | .error .missing => ⟨proceed (task.refused (.unknownSession id)) sweep, v, []⟩
    | .error .held =>
      -- Who waits asks again at the next step.
      if task.waits then ⟨working id task sweep .waiting, v, []⟩
      else ⟨proceed (task.refused (.busy id)) sweep, v, []⟩
  | .locked =>
    -- Sessions are never taken out, so what was locked is there.
    match v.registry.live? id with
    | none => ⟨working id task sweep .locked, v, []⟩
    | some s =>
      match task.perform v.settings now s with
      | .leave report =>
        ⟨working id task sweep (.leaving report), v, [(id, ⟨task, now, report⟩)]⟩
      | .replace s alert report =>
        ⟨working id task sweep (.changed alert report),
          { v with registry := v.registry.update id fun _ => s }, [(id, ⟨task, now, report⟩)]⟩
  | .changed alert report =>
    match v.registry.live? id with
    | none => ⟨working id task sweep (.changed alert report), v, []⟩
    | some s =>
      ⟨working id task sweep (.written alert report),
        { v with registry := v.registry.writeSnapshot s }, []⟩
  | .written alert report =>
    match v.registry.live? id with
    | none => ⟨working id task sweep (.written alert report), v, []⟩
    | some s =>
      ⟨working id task sweep (.settled alert report),
        { v with registry := v.registry.releaseSlot s }, []⟩
  | .settled alert report =>
    ⟨working id task sweep (.leaving report), { v with alerts := v.alerts ++ alert.toList }, []⟩
  | .leaving report => ⟨proceed report sweep, v.free id, []⟩

/-- One step of a call. -/
def step (v : Service) (now : Instant) : Call → Progress
  | checking assignment studentId =>
    match v.vacancy assignment studentId with
    | .error e => ⟨done (.started (.error e)), v, []⟩
    | .ok () => ⟨choosing assignment studentId, v, []⟩
  | choosing assignment studentId =>
    match v.startable assignment with
    | .error e => ⟨done (.started (.error e)), v, []⟩
    | .ok rubric => ⟨opening assignment studentId rubric, v, []⟩
  | opening assignment studentId rubric =>
    -- Another start may have come first, so the slot of the pair is looked at again.
    let (result, v) := v.openSession assignment studentId rubric now
    ⟨done (.started result), v, []⟩
  | publishing r =>
    let (result, v) := v.publish r
    ⟨done (.published result), v, []⟩
  | listing =>
    ⟨(Service.idleCutoff v.settings.exam now).elim (done (.swept none)) fun cutoff =>
      sweepOn cutoff 0 (v.registry.inactiveSince cutoff), v, []⟩
  | working id task sweep phase => workStep v now id task sweep phase
  | done receipt => ⟨done receipt, v, []⟩

/-- The session whose lock the call has. -/
def holds? : Call → Option String
  | working _ _ _ .waiting => none
  | working id _ _ _ => some id
  | _ => none

/-- The call has no lock and no rubric, and if it is done it has not come to anything. -/
def Plain : Call → Prop
  | opening _ _ _ => False
  | working _ _ _ phase => phase = .waiting
  | done (.worked report) => report.IsTurnedAway
  | done (.started result) => ∃ e, result = .error e ∧ e ≠ .noFirstQuestion
  | checking _ _ | choosing _ _ | publishing _ | listing | done (.swept _) => True
  | done (.published _) => False

end Call

/-- All that one step of a call can do. -/
inductive Call.Move (now : Instant) (v : Service) : Call → Progress → Prop where
  | stayed {c : Call} : Move now v c ⟨c, v, []⟩
  | turned {c c' : Call} (free : c.holds? = none) (plain : c'.Plain) : Move now v c ⟨c', v, []⟩
  | chosen {assignment : Assignment} {studentId : String} {rubric : Rubric}
      (startable : v.startable assignment = .ok rubric) :
      Move now v (.choosing assignment studentId) ⟨.opening assignment studentId rubric, v, []⟩
  | opened {assignment : Assignment} {studentId : String} {rubric : Rubric} :
      Move now v (.opening assignment studentId rubric)
        ⟨.done (.started (v.openSession assignment studentId rubric now).1),
          (v.openSession assignment studentId rubric now).2, []⟩
  | published {r : Rubric} :
      Move now v (.publishing r) ⟨.done (.published (v.publish r).1), (v.publish r).2, []⟩
  | locked {id : String} {task : Task} {sweep : Option Sweep} {s : Session}
      (free : v.registry.cells.find? id = some ⟨s, false⟩) :
      Move now v (.working id task sweep .waiting)
        ⟨.working id task sweep .locked,
          { v with registry := v.registry.setCell id ⟨s, true⟩ }, []⟩
  | left {id : String} {task : Task} {sweep : Option Sweep} {s : Session} {report : Report}
      (live : v.registry.live? id = some s)
      (body : task.perform v.settings now s = .leave report) :
      Move now v (.working id task sweep .locked)
        ⟨.working id task sweep (.leaving report), v, [(id, ⟨task, now, report⟩)]⟩
  | changed {id : String} {task : Task} {sweep : Option Sweep} {s s' : Session}
      {alert : Option Alert} {report : Report} (live : v.registry.live? id = some s)
      (body : task.perform v.settings now s = .replace s' alert report) :
      Move now v (.working id task sweep .locked)
        ⟨.working id task sweep (.changed alert report),
          { v with registry := v.registry.update id fun _ => s' }, [(id, ⟨task, now, report⟩)]⟩
  | written {id : String} {task : Task} {sweep : Option Sweep} {s : Session}
      {alert : Option Alert} {report : Report} (live : v.registry.live? id = some s) :
      Move now v (.working id task sweep (.changed alert report))
        ⟨.working id task sweep (.written alert report),
          { v with registry := v.registry.writeSnapshot s }, []⟩
  | released {id : String} {task : Task} {sweep : Option Sweep} {s : Session}
      {alert : Option Alert} {report : Report} (live : v.registry.live? id = some s) :
      Move now v (.working id task sweep (.written alert report))
        ⟨.working id task sweep (.settled alert report),
          { v with registry := v.registry.releaseSlot s }, []⟩
  | alerted {id : String} {task : Task} {sweep : Option Sweep} {alert : Option Alert}
      {report : Report} :
      Move now v (.working id task sweep (.settled alert report))
        ⟨.working id task sweep (.leaving report),
          { v with alerts := v.alerts ++ alert.toList }, []⟩
  | unlocked {id : String} {task : Task} {sweep : Option Sweep} {report : Report} {c : Call}
      (after : c = .done (.worked report) ∨ c.Plain) :
      Move now v (.working id task sweep (.leaving report)) ⟨c, v.free id, []⟩

namespace Call

theorem Plain.holds?_eq {c : Call} (plain : c.Plain) : c.holds? = none := by
  cases c with
  | working id task sweep phase =>
    cases plain
    rfl
  | _ => rfl

theorem plain_sweepOn (cutoff : Instant) (count : Nat) (ids : List String) :
    (sweepOn cutoff count ids).Plain := by
  cases ids with
  | nil => trivial
  | cons id rest => rfl

theorem proceed_cases (report : Report) (sweep : Option Sweep) :
    proceed report sweep = .done (.worked report) ∨ (proceed report sweep).Plain := by
  cases sweep with
  | none => exact .inl rfl
  | some sweep => exact .inr (plain_sweepOn _ _ _)

theorem plain_proceed {report : Report} (away : report.IsTurnedAway) (sweep : Option Sweep) :
    (proceed report sweep).Plain := by
  rcases proceed_cases report sweep with done | plain
  · rw [done]
    exact away
  · exact plain

theorem workStep_move (v : Service) (now : Instant) (id : String) (task : Task)
    (sweep : Option Sweep) (phase : Phase) :
    Move now v (working id task sweep phase) (workStep v now id task sweep phase) := by
  -- A case for each phase, and in it one for each thing that the step may find.
  cases phase with
  | waiting =>
    unfold workStep Registry.lock
    cases found : v.registry.cells.find? id with
    | none => exact .turned rfl (plain_proceed ⟨task, id, .inl rfl⟩ sweep)
    | some cell =>
      obtain ⟨s, held⟩ := cell
      cases held with
      | false => exact .locked found
      | true =>
        simp only [if_true]
        split
        · exact .stayed
        · exact .turned rfl (plain_proceed ⟨task, id, .inr rfl⟩ sweep)
  | locked =>
    unfold workStep
    cases live : v.registry.live? id with
    | none => exact .stayed
    | some s =>
      cases body : task.perform v.settings now s with
      | leave report => simpa only [body] using Move.left live body
      | replace s' alert report => simpa only [body] using Move.changed live body
  | changed alert report =>
    unfold workStep
    cases live : v.registry.live? id with
    | none => exact .stayed
    | some s => exact .written live
  | written alert report =>
    unfold workStep
    cases live : v.registry.live? id with
    | none => exact .stayed
    | some s => exact .released live
  | settled alert report => exact .alerted
  | leaving report => exact .unlocked (proceed_cases _ _)

theorem vacancy_ne_noFirstQuestion {v : Service} {assignment : Assignment} {studentId : String}
    {e : Failure} (refused : v.vacancy assignment studentId = .error e) :
    e ≠ .noFirstQuestion := by
  unfold Service.vacancy at refused
  split at refused
  · cases refused
    exact nofun
  · split at refused
    · cases refused
      exact nofun
    · cases refused

theorem startable_ne_noFirstQuestion {v : Service} {assignment : Assignment} {e : Failure}
    (refused : v.startable assignment = .error e) : e ≠ .noFirstQuestion := by
  unfold Service.startable at refused
  split at refused
  · cases refused
    exact nofun
  · split at refused
    · cases refused
      exact nofun
    · split at refused
      · cases refused
        exact nofun
      · cases refused

theorem step_move (v : Service) (now : Instant) (c : Call) : Move now v c (c.step v now) := by
  cases c with
  | checking assignment studentId =>
    simp only [step]
    cases vacant : v.vacancy assignment studentId with
    | error e => exact .turned rfl ⟨e, rfl, vacancy_ne_noFirstQuestion vacant⟩
    | ok u => exact .turned rfl trivial
  | choosing assignment studentId =>
    simp only [step]
    cases startable : v.startable assignment with
    | error e => exact .turned rfl ⟨e, rfl, startable_ne_noFirstQuestion startable⟩
    | ok rubric => exact .chosen startable
  | opening assignment studentId rubric => exact .opened
  | publishing r => exact .published
  | listing =>
    refine .turned rfl ?_
    cases Service.idleCutoff v.settings.exam now with
    | none => trivial
    | some cutoff => exact plain_sweepOn _ _ _
  | working id task sweep phase => exact workStep_move v now id task sweep phase
  | done receipt => exact .stayed

end Call

theorem Request.plain_call (settings : Settings) (request : Request) :
    (request.call settings).Plain := by
  cases request <;> first | rfl | trivial

/-- The service with the calls made so far, and all deeds done to sessions in their order. -/
structure World where
  service : Service
  calls : List Call := []
  history : List (String × Deed) := []

/-- Somebody calls, or one of the calls takes a step at a time. -/
inductive Event where
  | call (request : Request)
  | step (number : Nat) (now : Instant)

namespace World

def begin (settings : Settings) : World := { service := .ofSettings settings }

def step (w : World) : Event → World
  | .call request => { w with calls := w.calls ++ [request.call w.service.settings] }
  | .step number now =>
    match w.calls[number]? with
    | none => w
    | some call =>
      let progress := call.step w.service now
      ⟨progress.service, w.calls.set number progress.call, w.history ++ progress.log⟩

/-- What becomes of the world in the course of events. -/
def run (w : World) (events : List Event) : World := events.foldl step w

abbrev registry (w : World) : Registry := w.service.registry

/-- The world comes up in some course of events. -/
def Reachable (settings : Settings) (w : World) : Prop :=
  ∃ events, (begin settings).run events = w

theorem run_append (w : World) (events later : List Event) :
    w.run (events ++ later) = (w.run events).run later :=
  List.foldl_append

theorem Reachable.run {settings : Settings} {w : World} (reachable : Reachable settings w)
    (events : List Event) : Reachable settings (w.run events) := by
  obtain ⟨earlier, rfl⟩ := reachable
  exact ⟨earlier ++ events, run_append _ _ _⟩

theorem step_of_selected {w : World} {number : Nat} {c : Call}
    (selected : w.calls[number]? = some c) (now : Instant) :
    w.step (.step number now) = ⟨(c.step w.service now).service,
      w.calls.set number (c.step w.service now).call, w.history ++ (c.step w.service now).log⟩ := by
  simp only [step, selected]

/-- In an event a call stays as it is, or takes the step that the event is. -/
theorem calls_step {w : World} {number : Nat} {c : Call} (selected : w.calls[number]? = some c)
    (event : Event) : (w.step event).calls[number]? = some c ∨
      ∃ now, event = .step number now ∧
        (w.step event).calls[number]? = some (c.step w.service now).call := by
  have inside : number < w.calls.length := (List.getElem?_eq_some_iff.mp selected).1
  cases event with
  | call request =>
    refine .inl ?_
    rw [step, List.getElem?_append_left inside, selected]
  | step other now =>
    by_cases own : other = number
    · subst own
      refine .inr ⟨now, rfl, ?_⟩
      simp only [step, selected]
      exact List.getElem?_set_self inside
    · refine .inl ?_
      simp only [step]
      split
      · exact selected
      · rw [List.getElem?_set_ne own, selected]

/-- What is kept by the steps of a call holds of it from then on. -/
theorem Reachable.calls_run {P : World → Call → Prop} {settings : Settings} {w : World} {number : Nat}
    {c : Call} (reachable : Reachable settings w) (selected : w.calls[number]? = some c)
    (holds : P w c)
    (others : ∀ w c event, Reachable settings w → P w c → P (w.step event) c)
    (own : ∀ w c now, Reachable settings w → w.calls[number]? = some c → P w c →
      P (w.step (.step number now)) (c.step w.service now).call)
    (later : List Event) : ∃ c', (w.run later).calls[number]? = some c' ∧ P (w.run later) c' := by
  induction later using List.reverseRecOn with
  | nil => exact ⟨c, selected, holds⟩
  | append_singleton later event ih =>
    obtain ⟨c', selected', holds'⟩ := ih
    have before := reachable.run later
    rw [run_append]
    change ∃ c'', ((w.run later).step event).calls[number]? = some c'' ∧
      P ((w.run later).step event) c''
    rcases calls_step selected' event with stays | ⟨now, rfl, steps⟩
    · exact ⟨c', stays, others _ _ event before holds'⟩
    · exact ⟨_, steps, own _ _ now before selected' holds'⟩

/-- What holds at the beginning and is kept by calls and by their steps holds in every course. -/
theorem Reachable.step_induction {P : World → Prop} {settings : Settings} (start : P (begin settings))
    (call : ∀ w (request : Request), Reachable settings w → P w →
      P { w with calls := w.calls ++ [request.call w.service.settings] })
    (step : ∀ w number c now, Reachable settings w → P w → w.calls[number]? = some c →
      P ⟨(c.step w.service now).service, w.calls.set number (c.step w.service now).call,
        w.history ++ (c.step w.service now).log⟩)
    {w : World} (reachable : Reachable settings w) : P w := by
  obtain ⟨events, rfl⟩ := reachable
  -- On the events, the latest one last.
  induction events using List.reverseRecOn with
  | nil => exact start
  | append_singleton events event holds =>
    have before : Reachable settings ((begin settings).run events) := ⟨events, rfl⟩
    rw [run_append]
    change P (((begin settings).run events).step event)
    cases event with
    | call request => exact call _ request before holds
    | step number now =>
      cases selected : ((begin settings).run events).calls[number]? with
      | none =>
        simp only [World.step, selected]
        exact holds
      | some c =>
        rw [step_of_selected selected]
        exact step _ number c now before holds selected

/-- What holds of every call that comes in and is kept by its steps holds of all calls. -/
theorem Reachable.forall_calls {P : Call → Prop} {settings : Settings} {w : World}
    (reachable : Reachable settings w)
    (new : ∀ (request : Request) settings, P (request.call settings))
    (step : ∀ w c now, Reachable settings w → P c → P (c.step w.service now).call) :
    ∀ c ∈ w.calls, P c := by
  refine reachable.step_induction (P := fun w => ∀ c ∈ w.calls, P c) ?_ ?_ ?_
  · intro c member
    cases member
  · intro w request _ all c member
    rcases List.mem_append.mp member with old | new'
    · exact all c old
    · cases List.mem_singleton.mp new'
      exact new request w.service.settings
  · intro w number c now before all selected d member
    rcases List.mem_or_eq_of_mem_set member with old | rfl
    · exact all d old
    · exact step w c now before (all c (List.mem_of_getElem? selected))

/-- What holds at the beginning and is kept by calls and by moves holds in every course. -/
theorem Reachable.induction {P : World → Prop} {settings : Settings} (start : P (begin settings))
    (call : ∀ w c, Reachable settings w → P w → c.Plain → P { w with calls := w.calls ++ [c] })
    (move : ∀ w number c now progress, Reachable settings w → P w → w.calls[number]? = some c →
      Call.Move now w.service c progress →
      P ⟨progress.service, w.calls.set number progress.call, w.history ++ progress.log⟩)
    {w : World} (reachable : Reachable settings w) : P w :=
  reachable.step_induction start
    (fun w request before holds => call w _ before holds (request.plain_call w.service.settings))
    fun w number c now before holds selected =>
      move w number c now _ before holds selected (c.step_move w.service now)

end World

end OralExam
