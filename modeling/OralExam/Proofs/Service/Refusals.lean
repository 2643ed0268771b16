import OralExam.Proofs.Service.Work
import OralExam.Service.Channel
import OralExam.Service.Http.Basic

/-! Failures leave no trace.

Whoever is told of a failure finds sessions, snapshots, slots, rubrics and alerts as they were. Of a
call that fails no step changes more than a lock, and a lock is only there while a call has it.
-/

set_option autoImplicit false

namespace OralExam

/-- Why the call failed, if it did. -/
def Receipt.failure? : Receipt → Option Failure
  | started (.error e) | published (.error e) => some e
  | worked report => report.failure?
  | started (.ok _) | published (.ok _) | swept _ => none

theorem Report.failure?_eq_none {report : Report} (done : report.isRefusal = false) :
    report.failure? = none := by
  by_contra failed
  obtain ⟨e, failed⟩ := Option.ne_none_iff_exists'.mp failed
  rw [isRefusal_of_failure? failed] at done
  cases done

/-! ## Requests served one after another -/

namespace Service

/-- Requests that fail leave the service as it was. -/
def KeptByFailures (v : Service) : Prop :=
  ∀ now request e, (v.perform now request).1.failure? = some e → (v.perform now request).2 = v

/-- Who is told of a failure, whichever way the request came, finds the service as it was; so does who
asks in vain for a list. -/
structure FailsCleanly (v : Service) : Prop where
  requests : v.KeptByFailures
  http : ∀ request now, 400 ≤ (Http.respond v request now).1.status →
    (Http.respond v request now).2 = v
  channel : ∀ text now members, (Channel.reply v text now).1 = Channel.tagged "error" members →
    (Channel.reply v text now).2 = v

variable {v : Service} {now : Instant}

theorem startWith_of_error {assignment : Assignment} {studentId : String} {e : Failure}
    (failed : (v.startWith assignment studentId now).1 = .error e) :
    (v.startWith assignment studentId now).2 = v := by
  unfold startWith at failed ⊢
  split
  · rfl
  · rename_i rubric admitted
    rw [admitted] at failed
    rcases v.openSession_cases assignment studentId rubric now with
      ⟨e', -, refused⟩ | ⟨chosen, pending, c, q, -, -, -, opened⟩
    · rw [refused]
    · simp only [opened] at failed
      cases failed

theorem publish_of_error {r : Rubric} {e : Failure} (failed : (v.publish r).1 = .error e) :
    (v.publish r).2 = v := by
  unfold publish at failed ⊢
  split
  · rename_i published
    simp only [published] at failed
    cases failed
  · rfl

theorem carryOut_of_failure? {settings : Settings} (same : v.settings = settings)
    (reached : v.registry.Every (Session.Reached settings)) {id : String} {task : Task}
    {e : Failure} (failed : (v.carryOut now id task).1.failure? = some e) :
    (v.carryOut now id task).2 = v := by
  rcases v.carryOut_cases now id task with ⟨-, kept⟩ | ⟨s, s', alert, report, free, body, carried⟩
  · exact kept
  · -- The one failure after which a session is replaced does not come up.
    have live := Registry.live?_of_find? free
    rw [same] at body
    have done := Session.not_isRefusal_of_replace (reached id s (.inl live)) body
    rw [carried, Report.failure?_eq_none done] at failed
    cases failed

theorem perform_of_failure? {settings : Settings} (same : v.settings = settings)
    (reached : v.registry.Every (Session.Reached settings)) {request : Request} {e : Failure}
    (failed : (v.perform now request).1.failure? = some e) : (v.perform now request).2 = v := by
  cases job : request.job? with
  | some found =>
    obtain ⟨id, task⟩ := found
    rw [perform_of_job job] at failed ⊢
    exact carryOut_of_failure? same reached failed
  | none =>
  have started {assignment : Assignment} {studentId : String}
      (failed : (Receipt.started (v.startWith assignment studentId now).1).failure? = some e) :
      (v.startWith assignment studentId now).2 = v := by
    cases result : (v.startWith assignment studentId now).1 with
    | error e => exact startWith_of_error result
    | ok opening =>
      rw [result] at failed
      cases failed
  cases request with
  | answer | endSession | review => cases job
  | start assignmentId studentId => exact started failed
  | startWith assignment studentId => exact started failed
  | publish r =>
    change (Receipt.published (v.publish r).1).failure? = some e at failed
    cases result : (v.publish r).1 with
    | error e => exact publish_of_error result
    | ok published =>
      rw [result] at failed
      cases failed
  | sweep =>
    rw [perform] at failed
    cases swept : v.sweep now with
    | none =>
      rw [swept] at failed
      cases failed
    | some out =>
      rw [swept] at failed
      cases failed

end Service

/-! ## Requests as they come in -/

section

variable {v : Service} {now : Instant}

theorem Command.run_of_error (kept : v.KeptByFailures) {c : Command} {e : Failure}
    (failed : (c.run v now).1 = .error e) : (c.run v now).2 = v := by
  have unmapped {β : Type} {reply : β → Reply} {result : Except Failure β}
      (failed : result.map reply = .error e) : result = .error e := by
    cases result with
    | error => simpa [Except.map] using failed
    | ok => cases failed
  cases c with
  | start assignmentId studentId =>
    refine kept now (.start assignmentId studentId) e ?_
    change (Receipt.started _).failure? = some e
    rw [unmapped failed]
    rfl
  | answer sessionId transcript similarity =>
    refine kept now (.answer sessionId transcript similarity) e ?_
    change (Receipt.worked (.answered _)).failure? = some e
    rw [unmapped failed]
    rfl
  | endSession sessionId reason abandoned =>
    refine kept now (.endSession sessionId reason abandoned) e ?_
    change (Receipt.worked (.ended _)).failure? = some e
    rw [unmapped failed]
    rfl
  | session sessionId => rfl

namespace Http

theorem runCommand_of_failed (kept : v.KeptByFailures) (c : Command)
    (failed : 400 ≤ (runCommand v now c).1.status) : (runCommand v now c).2 = v := by
  have error (e : Failure) : (c.run v now).1 = .error e → (c.run v now).2 = v := c.run_of_error kept
  unfold runCommand at failed ⊢
  split
  · rename_i reply v' done
    rw [done] at failed
    -- A reply is never sent under the status of a failure.
    cases reply <;> simp [Response.ofReply] at failed
  · rename_i e v' done
    rw [done] at error
    exact error e rfl

theorem ofResult_failed {β : Type} {status : Nat} {encode : β → Document} {result : Except Failure β}
    (fine : status < 400) (failed : 400 ≤ (Response.ofResult status encode result).status) :
    ∃ e, result = .error e := by
  cases result with
  | error e => exact ⟨e, rfl⟩
  | ok b => exact absurd failed (by simpa [Response.ofResult] using fine)

theorem serve_of_failed (kept : v.KeptByFailures) (request : Request)
    (query : List (String × String)) (id : String) (resource : Resource)
    (failed : 400 ≤ (resource.serve v now request query id).1.status) :
    (resource.serve v now request query id).2 = v := by
  cases resource with
  | channel | health | assignment => rfl
  | session => exact runCommand_of_failed kept _ failed
  | sessions | responses | ending =>
    simp only [Resource.serve] at failed ⊢
    split
    · rename_i read
      rw [read] at failed
      exact runCommand_of_failed kept _ failed
    · rfl
  | assignmentSessions | dashboard =>
    simp only [Resource.serve]
    split <;> rfl
  | review =>
    simp only [Resource.serve] at failed ⊢
    split
    · rename_i body read
      rw [read] at failed
      obtain ⟨e, error⟩ := ofResult_failed (by decide) failed
      refine kept now (.review id body.reviewer body.scoreOverride body.reason) e ?_
      change (Receipt.worked (.reviewed (v.review id body.reviewer body.scoreOverride body.reason
        now).1)).failure? = some e
      rw [error]
      rfl
    · rfl
  | rubrics =>
    simp only [Resource.serve] at failed ⊢
    split
    · rename_i r read
      rw [read] at failed
      obtain ⟨e, error⟩ := ofResult_failed (by decide) failed
      exact Service.publish_of_error error
    · rfl

theorem respond_of_failed (kept : v.KeptByFailures) (request : Request)
    (failed : 400 ≤ (respond v request now).1.status) : (respond v request now).2 = v := by
  simp only [respond] at failed ⊢
  split
  · rfl
  · rename_i asked
    rw [if_neg asked] at failed
    split
    · rfl
    · rename_i resource parameter found
      simp only [found] at failed
      split
      · rfl
      · rename_i allowed
        rw [if_neg allowed] at failed
        split
        · rfl
        · rename_i id text
          simp only [text] at failed
          refine serve_of_failed kept request _ id resource ?_
          split at failed <;> exact failed

end Http

theorem Channel.reply_of_error (kept : v.KeptByFailures) {text : String}
    {members : List (String × Document)}
    (failed : (reply v text now).1 = tagged "error" members) : (reply v text now).2 = v := by
  unfold reply at failed ⊢
  split
  · rfl
  · rfl
  · rename_i c read
    rw [read] at failed
    have error (e : Failure) : (c.run v now).1 = .error e → (c.run v now).2 = v :=
      c.run_of_error kept
    simp only at failed
    split
    · rename_i r v' done
      rw [done] at failed
      -- What succeeds is replied to under a name of its own.
      cases r <;> simp [replied, tagged] at failed
    · rename_i e v' done
      rw [done] at error
      exact error e rfl

end

/-! ## Calls under way -/

/-- Everything but the locks. -/
def Registry.unlocked (r : Registry) : Registry :=
  { r with cells := r.cells.map fun cell => { cell with held := false } }

def Service.unlocked (v : Service) : Service := { v with registry := v.registry.unlocked }

theorem Registry.unlocked_setCell {r : Registry} {id : String} {s : Session} {held : Bool}
    (found : r.cells.find? id = some ⟨s, held⟩) (held' : Bool) :
    (r.setCell id ⟨s, held'⟩).unlocked = r.unlocked := by
  have there : (r.cells.map fun cell => { cell with held := false }).find? id =
      some ⟨s, false⟩ := by
    rw [Keyed.find?_map, found, Option.map_some]
  simp only [unlocked, setCell, Keyed.map_put, Keyed.put_of_find? there]

theorem Service.unlocked_free (v : Service) (id : String) : (v.free id).unlocked = v.unlocked := by
  simp only [unlocked, free]
  cases found : v.registry.cells.find? id with
  | none => rw [Registry.unlock, found]
  | some cell => rw [Registry.unlock_of_find? found, Registry.unlocked_setCell found]

namespace Call

/-- The call does not fail any more: it has succeeded in its work, or it is a sweep, which goes on
after sessions that it does not get. -/
inductive Unfailing : Call → Prop where
  | listing : Unfailing .listing
  | sweeping {id : String} {task : Task} {sweep : Sweep} {phase : Phase} :
      Unfailing (.working id task (some sweep) phase)
  | successful {id : String} {task : Task} {phase : Phase} {report : Report}
      (told : (working id task none phase).report? = some report) (fine : report.failure? = none) :
      Unfailing (.working id task none phase)
  | done {receipt : Receipt} (fine : receipt.failure? = none) : Unfailing (.done receipt)

namespace Unfailing

theorem of_report? {id : String} {task : Task} {sweep : Option Sweep} {phase : Phase}
    {report : Report} (told : (working id task sweep phase).report? = some report)
    (fine : report.failure? = none) : (working id task sweep phase).Unfailing := by
  cases sweep with
  | none => exact .successful told fine
  | some sweep => exact .sweeping

theorem sweepOn (cutoff : Instant) (count : Nat) (ids : List String) :
    (Call.sweepOn cutoff count ids).Unfailing := by
  cases ids with
  | nil => exact .done rfl
  | cons id rest => exact .sweeping

theorem step {c : Call} (unfailing : c.Unfailing) (v : Service) (now : Instant) :
    (c.step v now).call.Unfailing := by
  cases unfailing with
  | listing =>
    simp only [Call.step]
    cases Service.idleCutoff v.settings.exam now with
    | none => exact .done rfl
    | some cutoff => exact sweepOn _ _ _
  | @sweeping id task sweep phase =>
    -- Whatever comes of one session, the sweep goes on with the next.
    rcases workStep_call_cases v now id task (some sweep) phase with
      ⟨report, next⟩ | ⟨phase', stays, -⟩
    · rw [Call.step, next]
      exact sweepOn _ _ _
    · rw [Call.step, stays]
      exact .sweeping
  | @successful id task phase report told fine =>
    cases phase with
    | waiting | locked => cases told
    | changed alert report | written alert report =>
      cases told
      simp only [Call.step, workStep]
      split <;> exact .successful rfl fine
    | settled alert report =>
      cases told
      exact .successful rfl fine
    | leaving report =>
      cases told
      exact .done fine
  | done fine => exact .done fine

end Unfailing

/-- Work that has changed a session has not failed. -/
def Sure : Call → Prop
  | .working _ _ _ (.changed _ report) | .working _ _ _ (.written _ report)
  | .working _ _ _ (.settled _ report) => report.failure? = none
  | _ => True

theorem Plain.sure {c : Call} (plain : c.Plain) : c.Sure := by
  cases c with
  | working id task sweep phase =>
    cases plain
    trivial
  | _ => trivial

variable {settings : Settings} {now : Instant} {v : Service} {c : Call} {progress : Progress}

theorem Sure.move (sure : c.Sure) (same : v.settings = settings)
    (reached : v.registry.Every (Session.Reached settings)) (move : Move now v c progress) :
    progress.call.Sure := by
  cases move with
  | stayed | written | released => exact sure
  | turned free plain => exact plain.sure
  | chosen | opened | published | locked | left | alerted => trivial
  | changed live body =>
    rw [same] at body
    exact Report.failure?_eq_none (Session.not_isRefusal_of_replace (reached _ _ (.inl live)) body)
  | unlocked after =>
    rcases after with rfl | plain
    · trivial
    · exact plain.sure

/-- A step that changes more than a lock is taken by a call that does not fail any more. -/
theorem Move.unlocked_eq_or_unfailing (move : Move now v c progress) (sure : c.Sure)
    (same : v.settings = settings) (reached : v.registry.Every (Session.Reached settings)) :
    progress.service.unlocked = v.unlocked ∨ progress.call.Unfailing := by
  have after := sure.move same reached move
  cases move with
  | stayed | turned | chosen | left => exact .inl rfl
  | @opened assignment studentId rubric =>
    cases result : v.openSession assignment studentId rubric now with
    | mk outcome v' =>
    rcases v.openSession_cases assignment studentId rubric now with
      ⟨e, -, refused⟩ | ⟨chosen, pending, c, q, -, -, -, opened⟩
    · rw [result] at refused
      cases refused
      exact .inl rfl
    · rw [result] at opened
      cases opened
      exact .inr (.done rfl)
  | @published r =>
    cases result : (v.publish r).1 with
    | error e => exact .inl (by rw [Service.publish_of_error result])
    | ok published => exact .inr (.done rfl)
  | @locked id task sweep s free =>
    exact .inl (congrArg (fun registry => { v with registry }) (Registry.unlocked_setCell free true))
  | changed | written | released => exact .inr (.of_report? rfl after)
  | alerted => exact .inr (.of_report? rfl sure)
  | @unlocked id task sweep report c after => exact .inl (v.unlocked_free id)

end Call

namespace World

/-- A call that fails takes no step that changes more than a lock. -/
def FailsCleanly (w : World) : Prop :=
  ∀ (number : Nat) (now : Instant) (later : List Event) (receipt : Receipt) (e : Failure),
    ((w.step (.step number now)).run later).calls[number]? = some (.done receipt) →
    receipt.failure? = some e →
    (w.step (.step number now)).service.unlocked = w.service.unlocked

variable {settings : Settings} {w : World}

theorem Reachable.sure (reachable : Reachable settings w) : ∀ c ∈ w.calls, c.Sure :=
  reachable.forall_calls (fun request settings => (request.plain_call settings).sure)
    fun w c now before sure => sure.move before.supplied.settings before.traced.reached
      (c.step_move w.service now)

theorem Reachable.failsCleanly (reachable : Reachable settings w) : w.FailsCleanly := by
  intro number now later receipt e done failed
  cases selected : w.calls[number]? with
  | none => simp only [step, selected]
  | some c =>
    have stepped := step_of_selected selected now
    rcases (c.step_move w.service now).unlocked_eq_or_unfailing
      (reachable.sure c (List.mem_of_getElem? selected)) reachable.supplied.settings
      reachable.traced.reached with same | unfailing
    · rw [stepped, same]
    · -- From here on the call cannot come to a failure.
      have next : (w.step (.step number now)).calls[number]? = some (c.step w.service now).call := by
        rw [stepped]
        exact List.getElem?_set_self (List.getElem?_eq_some_iff.mp selected).1
      obtain ⟨c', selected', unfailing'⟩ := (reachable.run [.step number now]).calls_run
        (P := fun _ c => c.Unfailing) next unfailing (fun _ _ _ _ holds => holds)
        (fun w c now _ _ holds => holds.step w.service now) later
      rw [show w.run [.step number now] = w.step (.step number now) from rfl, done] at selected'
      cases selected'
      cases unfailing' with
      | done fine => simp [fine] at failed

end World

theorem Service.failsCleanly {settings : Settings} {v : Service} (same : v.settings = settings)
    (reached : v.registry.Every (Session.Reached settings)) : v.FailsCleanly := by
  have kept : v.KeptByFailures := fun now request e failed => perform_of_failure? same reached failed
  exact ⟨kept, fun request now failed => Http.respond_of_failed kept request failed,
    fun text now members failed => Channel.reply_of_error kept failed⟩

/-- Failures change nothing, however the steps of the calls come among each other; and no lock is left
behind. -/
theorem World.failures_leave_no_trace (settings : Settings) (events : List Event)
    (requests : List (Request × Instant)) :
    let w := (begin settings).run events
    let v := (Service.ofSettings settings).run requests
    (w.FailsCleanly ∧ w.Attended ∧ w.service.FailsCleanly) ∧ v.Idle ∧ v.FailsCleanly := by
  have reachable : Reachable settings ((begin settings).run events) := ⟨events, rfl⟩
  refine ⟨⟨reachable.failsCleanly, reachable.attended,
    Service.failsCleanly reachable.supplied.settings reachable.traced.reached⟩, ?_⟩
  obtain ⟨w, served, same, idle, -⟩ := reachable_run settings requests
  rw [← same]
  exact ⟨idle, Service.failsCleanly served.supplied.settings served.traced.reached⟩

end OralExam
