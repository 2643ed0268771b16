import OralExam.Proofs.Service.Reports
import OralExam.Proofs.Session.Estimation

/-! Requests served one after another.

A request served to its end before the next one comes is a call all of whose steps are taken in one
go. So whatever holds in every course of events holds after any sequence of requests.
-/

set_option autoImplicit false

namespace OralExam

namespace Service

/-- Serves one request to its end. -/
def perform (v : Service) (now : Instant) : Request → Receipt × Service
  | .start assignmentId studentId => (v.start assignmentId studentId now).map .started id
  | .startWith assignment studentId => (v.startWith assignment studentId now).map .started id
  | .answer session transcript similarity =>
    (v.answer session transcript similarity now).map (.worked ∘ .answered) id
  | .endSession session reason abandoned =>
    (v.endSession session reason abandoned now).map (.worked ∘ .ended) id
  | .review session reviewer scoreOverride reason =>
    (v.review session reviewer scoreOverride reason now).map (.worked ∘ .reviewed) id
  | .publish r => (v.publish r).map .published id
  | .sweep =>
    (v.sweep now).elim (.swept none, v) fun swept => (.swept (some swept.1), swept.2)

/-- Serves requests, each at its time. -/
def run (v : Service) (requests : List (Request × Instant)) : Service :=
  requests.foldl (fun v r => (v.perform r.2 r.1).2) v

theorem run_append (v : Service) (requests later : List (Request × Instant)) :
    v.run (requests ++ later) = (v.run requests).run later :=
  List.foldl_append

/-- Nobody works on any session. -/
def Idle (v : Service) : Prop := ∀ id cell, v.registry.cells.find? id = some cell → cell.held = false

end Service

/-! ## What receipts tell -/

/-- Carried out because a client asked for it: neither refused nor done by a sweep. -/
def Deed.isAccepted (deed : Deed) : Bool :=
  match deed.task with
  | .abandonIdle _ => false
  | _ => !deed.report.isRefusal

/-- The accepted deeds of a history. -/
def accepted (history : List (String × Deed)) : List (String × Deed) :=
  history.filter (·.2.isAccepted)

@[simp] theorem accepted_append (history later : List (String × Deed)) :
    accepted (history ++ later) = accepted history ++ accepted later :=
  List.filter_append _ _

theorem accepted_single_of_isRefusal {deed : Deed} (refusal : deed.report.isRefusal) (id : String) :
    accepted [(id, deed)] = [] := by
  have idle : deed.isAccepted = false := by
    unfold Deed.isAccepted
    split <;> simp [refusal]
  rw [accepted, List.filter_singleton, idle]
  rfl

/-- Who looks at accepted deeds only sees them in the whole history as well. -/
theorem filterMap_deedsOf_accepted {β : Type} {f : Deed → Option β}
    (only : ∀ deed, deed.isAccepted = false → f deed = none) (history : List (String × Deed))
    (id : String) :
    (deedsOf (accepted history) id).filterMap f = (deedsOf history id).filterMap f := by
  unfold deedsOf accepted
  rw [List.filterMap_map, List.filterMap_map, List.filter_filter, List.filterMap_filter,
    List.filterMap_filter]
  congr 1
  funext entry
  cases taken : entry.2.isAccepted with
  | true => simp
  | false => simp [only entry.2 taken]

namespace Request

/-- The session to be worked on, and the task. -/
def job? : Request → Option (String × Task)
  | answer id transcript similarity => some (id, .answer transcript similarity)
  | endSession id reason abandoned => some (id, .endEarly reason abandoned)
  | review id reviewer scoreOverride reason => some (id, .review reviewer scoreOverride reason)
  | start _ _ | startWith _ _ | publish _ | sweep => none

/-- What was done to a session, as the receipt of the request tells it. -/
def deed? (request : Request) (now : Instant) (receipt : Receipt) : Option (String × Deed) :=
  match request.job?, receipt with
  | some (id, task), .worked report => some (id, ⟨task, now, report⟩)
  | _, _ => none

/-- What the request submits to the session, if the receipt says that it was taken. -/
def submission? (request : Request) (id : String) (receipt : Receipt) :
    Option (String × Option Float) :=
  match request, receipt with
  | .answer session transcript similarity, .worked (.answered (.ok _)) =>
    if id = session then some (transcript, similarity) else none
  | _, _ => none

theorem call_of_job {request : Request} {id : String} {task : Task}
    (job : request.job? = some (id, task)) (settings : Settings) :
    request.call settings = .working id task none .waiting := by
  cases request <;> cases job <;> rfl

end Request

/-- A deed submits to the session that it is done to. -/
theorem submissionsOf_deedsOf_single (id other : String) (deed : Deed) :
    submissionsOf (deedsOf [(other, deed)] id) =
      if id = other then deed.submission?.toList else [] := by
  split
  · rename_i own
    rw [own, deedsOf_single, submissionsOf_single]
  · rename_i apart
    rw [deedsOf_single_of_ne deed apart]
    rfl

theorem Deed.submission?_of_not_isAccepted {deed : Deed} (idle : deed.isAccepted = false) :
    deed.submission? = none := by
  obtain ⟨task, now, report⟩ := deed
  cases task with
  | answer => exact Deed.submission?_of_isRefusal (by simpa [Deed.isAccepted] using idle)
  | endEarly | review | abandonIdle => rfl

theorem Request.submission?_eq (request : Request) (id : String) (now : Instant)
    (receipt : Receipt) :
    (request.submission? id receipt).toList =
      submissionsOf (deedsOf (request.deed? now receipt).toList id) := by
  -- Only an answer that was taken submits something.
  cases request with
  | answer session transcript similarity =>
    cases receipt with
    | worked report =>
      simp only [deed?, job?, Option.toList_some, submissionsOf_deedsOf_single]
      cases report with
      | answered result =>
        cases result with
        | error e => exact (ite_self _).symm
        | ok o => exact apply_ite Option.toList _ _ _
      | ended | reviewed | abandoned => exact (ite_self _).symm
    | started | published | swept => rfl
  | endSession | review =>
    cases receipt with
    | worked report => simp [deed?, job?, submissionsOf_deedsOf_single, Deed.submission?, submission?]
    | started | published | swept => rfl
  | start | startWith | publish | sweep => rfl

namespace Service

/-- What was submitted to the session in the course of the requests, and taken. -/
def submissions (v : Service) (id : String) :
    List (Request × Instant) → List (String × Option Float)
  | [] => []
  | (request, now) :: rest =>
    (request.submission? id (v.perform now request).1).toList ++
      (v.perform now request).2.submissions id rest

/-- What was done to sessions in the course of the requests, as the receipts tell it. -/
def deeds (v : Service) : List (Request × Instant) → List (String × Deed)
  | [] => []
  | (request, now) :: rest =>
    (request.deed? now (v.perform now request).1).toList ++ (v.perform now request).2.deeds rest

theorem deeds_append (v : Service) (requests : List (Request × Instant)) (request : Request)
    (now : Instant) :
    v.deeds (requests ++ [(request, now)]) = v.deeds requests ++
      (request.deed? now ((v.run requests).perform now request).1).toList := by
  induction requests generalizing v with
  | nil => simp [deeds, run]
  | cons first rest ih =>
    rw [List.cons_append, deeds, ih, deeds, List.append_assoc]
    rfl

theorem submissions_eq (v : Service) (id : String) (requests : List (Request × Instant)) :
    v.submissions id requests = submissionsOf (deedsOf (v.deeds requests) id) := by
  induction requests generalizing v with
  | nil => rfl
  | cons first rest ih =>
    rw [submissions, deeds, deedsOf_append, submissionsOf_append, ih,
      Request.submission?_eq _ _ first.2]

end Service

/-! ## The steps of one call in one go -/

/-- Taking step after step at one time, the call makes one service into the other. -/
inductive Call.Runs (now : Instant) :
    Service → Call → Service → Call → List (String × Deed) → Prop where
  | stop {v : Service} {c : Call} : Runs now v c v c []
  | step {v v' : Service} {c c' : Call} {log : List (String × Deed)}
      (rest : Runs now (c.step v now).service (c.step v now).call v' c' log) :
      Runs now v c v' c' ((c.step v now).log ++ log)

namespace Call.Runs

variable {now : Instant} {v v' v'' : Service} {c c' c'' : Call} {log log' : List (String × Deed)}

theorem trans (first : Runs now v c v' c' log) (second : Runs now v' c' v'' c'' log') :
    Runs now v c v'' c'' (log ++ log') := by
  induction first with
  | stop => exact second
  | step rest ih =>
    rw [List.append_assoc]
    exact .step (ih second)

/-- One step and then the rest. -/
theorem after {progress : Progress} (taken : c.step v now = progress)
    (rest : Runs now progress.service progress.call v' c' log) :
    Runs now v c v' c' (progress.log ++ log) := by
  subst taken
  exact .step rest

theorem world (runs : Runs now v c v' c' log) {calls : List Call} {number : Nat}
    (selected : calls[number]? = some c) (history : List (String × Deed)) :
    ∃ events, (World.mk v calls history).run events =
      ⟨v', calls.set number c', history ++ log⟩ := by
  induction runs generalizing calls history with
  | @stop v c =>
    refine ⟨[], ?_⟩
    obtain ⟨inside, same⟩ := List.getElem?_eq_some_iff.mp selected
    rw [← same, List.set_getElem_self, List.append_nil]
    rfl
  | @step v v' c c' log rest ih =>
    -- The first step is an event of its own, and leaves the call where the next one finds it.
    have inside : number < calls.length := (List.getElem?_eq_some_iff.mp selected).1
    have selected' : (calls.set number (c.step v now).call)[number]? =
        some (c.step v now).call := List.getElem?_set_self inside
    obtain ⟨events, same⟩ := ih selected' (history ++ (c.step v now).log)
    refine ⟨.step number now :: events, ?_⟩
    rw [List.set_set, List.append_assoc] at same
    rw [← same, World.run, List.foldl_cons, World.run, World.step]
    simp only [selected]

end Call.Runs

namespace Service

variable {v : Service} {id : String} {s : Session}

theorem hold_of_missing (missing : v.registry.cells.find? id = none) :
    v.hold id = .error (.unknownSession id) := by
  simp only [hold, Registry.lock, missing]

theorem hold_of_free (free : v.registry.cells.find? id = some ⟨s, false⟩) :
    v.hold id = .ok (s, { v with registry := v.registry.setCell id ⟨s, true⟩ }) := by
  simp only [hold, Registry.lock, free]
  rfl

/-- Works on a session under its lock, whatever the task. -/
def carryOut (v : Service) (now : Instant) (id : String) (task : Task) : Report × Service :=
  match v.hold id with
  | .error e => (task.refused e, v)
  | .ok (s, held) =>
    match task.perform v.settings now s with
    | .leave report => (report, held.free id)
    | .replace s alert report => (report, (held.commit id s alert).free id)

theorem work_eq_carryOut {β : Type} {body : Session → Handling (Except Failure β)}
    {report : Except Failure β → Report} {task : Task} {now : Instant}
    (body_eq : ∀ s, task.perform v.settings now s = (body s).map report)
    (refused_eq : ∀ e, task.refused e = report (.error e)) :
    (v.work id body).map report (fun v => v) = v.carryOut now id task := by
  unfold work carryOut
  cases v.hold id with
  | error e => simp [refused_eq]
  | ok found =>
    obtain ⟨s, held⟩ := found
    simp only [body_eq]
    cases body s <;> rfl

end Service

/-! ## One request -/

namespace Call

variable {v : Service} {now : Instant} {id : String} {task : Task} {sweep : Option Sweep}
  {s s' : Session} {alert : Option Alert} {report : Report}

theorem runs_of_missing (missing : v.registry.cells.find? id = none) :
    Runs now v (working id task sweep .waiting) v
      (proceed (task.refused (.unknownSession id)) sweep) [] := by
  have refused : (working id task sweep .waiting).step v now =
      ⟨proceed (task.refused (.unknownSession id)) sweep, v, []⟩ := by
    simp only [step, workStep, Registry.lock, missing]
  exact .after refused .stop

/-- A worker that leaves the session alone. -/
theorem runs_of_leave (live : v.registry.live? id = some s)
    (body : task.perform v.settings now s = .leave report) :
    Runs now v (working id task sweep .locked) (v.free id) (proceed report sweep)
      [(id, ⟨task, now, report⟩)] := by
  have seen : (working id task sweep .locked).step v now =
      ⟨working id task sweep (.leaving report), v, [(id, ⟨task, now, report⟩)]⟩ := by
    simp only [step, workStep, live, body]
  exact .after seen (.after rfl .stop)

/-- A worker that changes the session, writes it, frees the slot and hands over the alert. -/
theorem runs_of_replace (found : v.registry.cells.find? id = some ⟨s, true⟩)
    (body : task.perform v.settings now s = .replace s' alert report) :
    Runs now v (working id task sweep .locked) ((v.commit id s' alert).free id)
      (proceed report sweep) [(id, ⟨task, now, report⟩)] := by
  let changed := v.registry.update id fun _ => s'
  have live : changed.live? id = some s' := by
    rw [show changed = v.registry.setCell id ⟨s', true⟩ from Registry.update_of_find? found _,
      Registry.live?_of_find? (Registry.find?_setCell_self _ _ _)]
  have change : (working id task sweep .locked).step v now =
      ⟨working id task sweep (.changed alert report), { v with registry := changed },
        [(id, ⟨task, now, report⟩)]⟩ := by
    simp only [step, workStep, Registry.live?_of_find? found, body, changed]
  have write : (working id task sweep (.changed alert report)).step
      { v with registry := changed } now =
      ⟨working id task sweep (.written alert report),
        { v with registry := changed.writeSnapshot s' }, []⟩ := by
    simp only [step, workStep, live]
  have release : (working id task sweep (.written alert report)).step
      { v with registry := changed.writeSnapshot s' } now =
      ⟨working id task sweep (.settled alert report),
        { v with registry := changed.sync s' }, []⟩ := by
    simp only [step, workStep, Registry.live?_writeSnapshot, live, Registry.sync]
  exact .after change (.after write (.after release (.after rfl (.after rfl .stop))))

theorem work_runs (now : Instant) (task : Task) (sweep : Option Sweep)
    (unheld : ∀ cell, v.registry.cells.find? id = some cell → cell.held = false) :
    ∃ log, Runs now v (working id task sweep .waiting) (v.carryOut now id task).2
      (proceed (v.carryOut now id task).1 sweep) log ∧
      accepted log = accepted [(id, ⟨task, now, (v.carryOut now id task).1⟩)] := by
  cases found : v.registry.cells.find? id with
  | none =>
    simp only [Service.carryOut, Service.hold_of_missing found]
    refine ⟨[], runs_of_missing found, ?_⟩
    have refusal : (task.refused (.unknownSession id)).isRefusal := by cases task <;> rfl
    exact (accepted_single_of_isRefusal refusal id).symm
  | some cell =>
    obtain ⟨s, held⟩ := cell
    obtain rfl : held = false := unheld _ found
    -- Nobody has the lock, so the worker gets it at once.
    have lock : (working id task sweep .waiting).step v now =
        ⟨working id task sweep .locked,
          { v with registry := v.registry.setCell id ⟨s, true⟩ }, []⟩ := by
      simp only [step, workStep, Registry.lock, found]
      rfl
    have relocked := Registry.find?_setCell_self v.registry id ⟨s, true⟩
    simp only [Service.carryOut, Service.hold_of_free found]
    cases body : task.perform v.settings now s with
    | leave report =>
      exact ⟨_, .after lock (runs_of_leave (Registry.live?_of_find? relocked) body), rfl⟩
    | replace s' alert report =>
      exact ⟨_, .after lock (runs_of_replace relocked body), rfl⟩

end Call

namespace Service

variable {v : Service} {now : Instant} {id : String} {task : Task}

namespace Idle

/-- Who gives a lock back leaves nothing locked, if there was no other lock. -/
theorem free {v' : Service} (idle : v.Idle) (elsewhere : ∀ other, other ≠ id →
    v'.registry.cells.find? other = v.registry.cells.find? other) : (v'.free id).Idle := by
  intro other cell found
  rw [Service.free] at found
  cases own : v'.registry.cells.find? id with
  | none =>
    -- There is nothing to unlock.
    have same : v'.registry.unlock id = v'.registry := by rw [Registry.unlock, own]
    rw [same] at found
    by_cases here : other = id
    · rw [here, own] at found
      cases found
    · exact idle other cell (elsewhere other here ▸ found)
  | some held =>
    rw [Registry.unlock_of_find? own, Registry.find?_setCell] at found
    split at found
    · cases found
      rfl
    · rename_i apart
      exact idle other cell (elsewhere other apart ▸ found)

theorem carryOut (idle : v.Idle) (now : Instant) (id : String) (task : Task) :
    (v.carryOut now id task).2.Idle := by
  cases found : v.registry.cells.find? id with
  | none =>
    simp only [Service.carryOut, hold_of_missing found]
    exact idle
  | some cell =>
    obtain ⟨s, held⟩ := cell
    obtain rfl : held = false := idle id _ found
    have locked (other : String) (apart : other ≠ id) :=
      Registry.find?_setCell_of_ne v.registry ⟨s, true⟩ apart
    simp only [Service.carryOut, hold_of_free found]
    cases task.perform v.settings now s with
    | leave report => exact idle.free locked
    | replace s' alert report =>
      refine idle.free fun other apart => ?_
      simp only [commit, Registry.sync, Registry.cells_releaseSlot, Registry.cells_writeSnapshot]
      rw [Registry.update_of_find? (Registry.find?_setCell_self v.registry id ⟨s, true⟩),
        Registry.find?_setCell_of_ne _ _ apart, locked other apart]

theorem openSession (idle : v.Idle) (assignment : Assignment) (studentId : String)
    (rubric : Rubric) (now : Instant) : (v.openSession assignment studentId rubric now).2.Idle := by
  rcases v.openSession_cases assignment studentId rubric now with
    ⟨e, -, refused⟩ | ⟨chosen, pending, c, q, -, -, -, opened⟩
  · rw [refused]
    exact idle
  · rw [opened]
    intro other cell found
    rw [Registry.find?_enter] at found
    split at found
    · cases found
      rfl
    · exact idle other cell found

end Idle

end Service

namespace Service

/-- A sweep counts what was not refused. -/
theorem abandonIdle_eq (v : Service) (cutoff now : Instant) (count : Nat) (id : String) :
    abandonIdle cutoff now (count, v) id =
      (count + if (v.carryOut now id (.abandonIdle cutoff)).1.isRefusal then 0 else 1,
        (v.carryOut now id (.abandonIdle cutoff)).2) := by
  have carried : (v.work id (Session.abandonIdle v.settings cutoff now)).map .abandoned
      (fun v => v) = v.carryOut now id (.abandonIdle cutoff) :=
    work_eq_carryOut (fun _ => rfl) fun _ => rfl
  rw [← carried]
  simp only [abandonIdle]
  generalize v.work id (Session.abandonIdle v.settings cutoff now) = outcome
  obtain ⟨result, v'⟩ := outcome
  cases result with
  | error e => rfl
  | ok abandoned => cases abandoned <;> rfl

theorem admission_eq (v : Service) (assignment : Assignment) (studentId : String) :
    v.admission assignment studentId =
      (v.vacancy assignment studentId).bind fun _ => v.startable assignment := by
  unfold admission vacancy
  split
  · rfl
  · cases v.registry.activeFor studentId assignment.id <;> rfl

end Service

namespace Call

variable {v : Service}

/-- Each session of the sweep is worked on to the end, and counted if it was abandoned. -/
theorem sweep_runs (now cutoff : Instant) (ids : List String) (count : Nat) (idle : v.Idle) :
    let swept := ids.foldl (Service.abandonIdle cutoff now) (count, v)
    swept.2.Idle ∧ ∃ log, Runs now v (sweepOn cutoff count ids) swept.2
      (.done (.swept (some swept.1))) log ∧ accepted log = [] := by
  -- Each session is left unlocked, so the work on the next one need not wait.
  induction ids generalizing count v with
  | nil => exact ⟨idle, [], .stop, rfl⟩
  | cons id rest ih =>
    obtain ⟨log, work, none⟩ :=
      work_runs now (.abandonIdle cutoff) (some ⟨cutoff, count, rest⟩) (idle id)
    simp only [List.foldl_cons, Service.abandonIdle_eq]
    obtain ⟨idle', log', others, none'⟩ := ih _ (idle.carryOut now id (.abandonIdle cutoff))
    refine ⟨idle', _, work.trans others, ?_⟩
    rw [accepted_append, none, none']
    rfl

theorem start_runs (v : Service) (now : Instant) (assignment : Assignment) (studentId : String) :
    Runs now v (.checking assignment studentId) (v.startWith assignment studentId now).2
      (.done (.started (v.startWith assignment studentId now).1)) [] := by
  rw [Service.startWith, Service.admission_eq]
  cases vacant : v.vacancy assignment studentId with
  | error e =>
    have checked : (Call.checking assignment studentId).step v now =
        ⟨.done (.started (.error e)), v, []⟩ := by
      simp only [step, vacant]
    exact .after checked .stop
  | ok u =>
    have checked : (Call.checking assignment studentId).step v now =
        ⟨.choosing assignment studentId, v, []⟩ := by
      simp only [step, vacant]
    cases startable : v.startable assignment with
    | error e =>
      have chosen : (Call.choosing assignment studentId).step v now =
          ⟨.done (.started (.error e)), v, []⟩ := by
        simp only [step, startable]
      simp only [Except.bind]
      exact .after checked (.after chosen .stop)
    | ok rubric =>
      have chosen : (Call.choosing assignment studentId).step v now =
          ⟨.opening assignment studentId rubric, v, []⟩ := by
        simp only [step, startable]
      simp only [Except.bind]
      exact .after checked (.after chosen (.after rfl .stop))

end Call

theorem Service.Idle.startWith {v : Service} (idle : v.Idle) (assignment : Assignment)
    (studentId : String) (now : Instant) : (v.startWith assignment studentId now).2.Idle := by
  unfold Service.startWith
  split
  · exact idle
  · exact idle.openSession _ _ _ _

/-- Work on a session is carried out, whatever the request that asks for it. -/
theorem Service.perform_of_job {request : Request} {id : String} {task : Task}
    (job : request.job? = some (id, task)) (v : Service) (now : Instant) :
    v.perform now request = (.worked (v.carryOut now id task).1, (v.carryOut now id task).2) := by
  have carried {β : Type} (body : Session → Handling (Except Failure β))
      (report : Except Failure β → Report)
      (body_eq : ∀ s, task.perform v.settings now s = (body s).map report)
      (refused_eq : ∀ e, task.refused e = report (.error e)) :
      (v.work id body).map (Receipt.worked ∘ report) (fun v => v) =
        (.worked (v.carryOut now id task).1, (v.carryOut now id task).2) := by
    rw [← work_eq_carryOut body_eq refused_eq]
    rfl
  cases request with
  | answer | endSession | review =>
    cases job
    exact carried _ _ (fun _ => rfl) fun _ => rfl
  | start | startWith | publish | sweep => cases job

/-- A call that is served in one go gives what the service gives. -/
theorem Request.runs {v : Service} (idle : v.Idle) (now : Instant) (request : Request) :
    (v.perform now request).2.Idle ∧ ∃ log, Call.Runs now v (request.call v.settings)
      (v.perform now request).2 (.done (v.perform now request).1) log ∧
      accepted log = accepted (request.deed? now (v.perform now request).1).toList := by
  cases job : request.job? with
  | some found =>
    obtain ⟨id, task⟩ := found
    rw [Service.perform_of_job job, Request.call_of_job job]
    simp only [deed?, job, Option.toList_some]
    exact ⟨idle.carryOut now id task, Call.work_runs now task none (idle id)⟩
  | none =>
  cases request with
  | answer | endSession | review => cases job
  | start assignmentId studentId =>
    exact ⟨idle.startWith _ _ _, _,
      Call.start_runs v now (v.settings.assignment assignmentId) studentId, rfl⟩
  | startWith assignment studentId =>
    exact ⟨idle.startWith _ _ _, _, Call.start_runs v now assignment studentId, rfl⟩
  | publish r =>
    have published : (Call.publishing r).step v now =
        ⟨.done (.published (v.publish r).1), (v.publish r).2, []⟩ := rfl
    refine ⟨?_, _, .after published .stop, rfl⟩
    change (v.publish r).2.Idle
    rw [Service.Idle, Service.registry_publish]
    exact idle
  | sweep =>
    rw [Service.perform, Service.sweep]
    cases cutoff : Service.idleCutoff v.settings.exam now with
    | none =>
      have listed : Call.listing.step v now = ⟨.done (.swept none), v, []⟩ := by
        simp only [Call.step, cutoff, Option.elim_none]
      exact ⟨idle, _, .after listed .stop, rfl⟩
    | some cutoff' =>
      have listed : Call.listing.step v now =
          ⟨Call.sweepOn cutoff' 0 (v.registry.inactiveSince cutoff'), v, []⟩ := by
        simp only [Call.step, cutoff, Option.elim_some]
      obtain ⟨idle', log, swept, none⟩ :=
        Call.sweep_runs now cutoff' (v.registry.inactiveSince cutoff') 0 idle
      exact ⟨idle', _, .after listed swept, none⟩

namespace World

/-- A request that is served to its end while nobody else works on anything. -/
theorem serve (w : World) (idle : w.service.Idle) (now : Instant) (request : Request) :
    (w.service.perform now request).2.Idle ∧ ∃ later,
      (w.run later).service = (w.service.perform now request).2 ∧
      .done (w.service.perform now request).1 ∈ (w.run later).calls ∧
      accepted (w.run later).history = accepted w.history ++
        accepted (request.deed? now (w.service.perform now request).1).toList := by
  obtain ⟨idle', log, runs, told⟩ := request.runs idle now
  -- The new call is the last one, and only it takes steps.
  have selected : (w.calls ++ [request.call w.service.settings])[w.calls.length]? =
      some (request.call w.service.settings) := by simp
  obtain ⟨events, after⟩ := runs.world selected w.history
  have called : w.run (.call request :: events) =
      ⟨_, (w.calls ++ [_]).set w.calls.length (.done (w.service.perform now request).1),
        w.history ++ log⟩ := after
  refine ⟨idle', .call request :: events, ?_⟩
  rw [called]
  refine ⟨rfl, ?_, ?_⟩
  · refine List.mem_of_getElem? (i := w.calls.length) ?_
    rw [List.getElem?_set_self (by simp)]
  · rw [accepted_append, told]

/-- Requests that are served one by one while nobody else works on anything. -/
theorem serve_run (w : World) (idle : w.service.Idle) (requests : List (Request × Instant)) :
    ∃ later, (w.run later).service = w.service.run requests := by
  induction requests generalizing w with
  | nil => exact ⟨[], rfl⟩
  | cons first rest ih =>
    obtain ⟨idle', later, after, -⟩ := w.serve idle first.2 first.1
    obtain ⟨last, same⟩ := ih (w.run later) (after ▸ idle')
    refine ⟨later ++ last, ?_⟩
    rw [run_append, same, after]
    rfl

/-- Any sequence of requests is served in some course of events, in which is done what the receipts
tell. -/
theorem reachable_run_accepted (settings : Settings) (requests : List (Request × Instant)) :
    ∃ w, Reachable settings w ∧ w.service = (Service.ofSettings settings).run requests ∧
      w.service.Idle ∧
      accepted w.history = accepted ((Service.ofSettings settings).deeds requests) := by
  induction requests using List.reverseRecOn with
  | nil =>
    refine ⟨begin settings, ⟨[], rfl⟩, rfl, ?_, rfl⟩
    intro id cell found
    cases found
  | append_singleton requests request ih =>
    obtain ⟨w, reachable, same, idle, told⟩ := ih
    obtain ⟨request, now⟩ := request
    have served : (Service.ofSettings settings).run (requests ++ [(request, now)]) =
        (w.service.perform now request).2 := by
      rw [same]
      exact Service.run_append _ _ _
    obtain ⟨idle', later, after, -, told'⟩ := w.serve idle now request
    rw [served]
    refine ⟨w.run later, reachable.run later, after, after ▸ idle', ?_⟩
    rw [told', told, Service.deeds_append, accepted_append, same]

theorem reachable_run (settings : Settings) (requests : List (Request × Instant)) :
    ∃ w, Reachable settings w ∧ w.service = (Service.ofSettings settings).run requests ∧
      w.service.Idle ∧ ∀ id, submissionsOf (deedsOf w.history id) =
        (Service.ofSettings settings).submissions id requests := by
  obtain ⟨w, reachable, same, idle, told⟩ := reachable_run_accepted settings requests
  refine ⟨w, reachable, same, idle, ?_⟩
  intro id
  have only (history : List (String × Deed)) := filterMap_deedsOf_accepted
    (fun _ => Deed.submission?_of_not_isAccepted) history id
  rw [Service.submissions_eq, submissionsOf, submissionsOf, ← only w.history, told, only]

theorem Reachable.carriedThrough {settings : Settings} {w : World}
    (reachable : Reachable settings w) (bound : 0 ≤ settings.exam.thetaBound) :
    w.registry.Every (Session.CarriedThrough settings) :=
  reachable.traced.reached.mono fun _ own => own.carriedThrough bound

/-- No answer breaks off at its estimate, in any course of events or sequence of requests. -/
theorem carriedThrough_runs {settings : Settings} (bound : 0 ≤ settings.exam.thetaBound)
    (events : List Event) (requests : List (Request × Instant)) :
    ((begin settings).run events).registry.Every (Session.CarriedThrough settings) ∧
    ((Service.ofSettings settings).run requests).registry.Every
      (Session.CarriedThrough settings) := by
  obtain ⟨w, served, same, -⟩ := reachable_run settings requests
  rw [← same]
  exact ⟨Reachable.carriedThrough ⟨events, rfl⟩ bound, served.carriedThrough bound⟩

/-- While nobody works on any session, the snapshots show them as they are. -/
theorem Reachable.snapshot?_eq {settings : Settings} {w : World} (reachable : Reachable settings w)
    (idle : w.service.Idle) (id : String) : w.registry.snapshot? id = w.registry.live? id := by
  cases live : w.registry.live? id with
  | none =>
    by_contra shown
    have known := reachable.traced.shown id (Option.isSome_iff_ne_none.mpr shown)
    rw [live] at known
    cases known
  | some s =>
    obtain ⟨held, found⟩ := Registry.live?_eq_some_iff.mp live
    obtain rfl : held = false := idle id _ found
    rw [(reachable.orderly.settled id s found).snapshot, live]

end World

end OralExam
