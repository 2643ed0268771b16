import OralExam.Proofs.Service.Endings
import OralExam.Proofs.Service.Sweeping
import OralExam.Proofs.Session.Flagging

/-! Who is told of flagged sessions.

A call that ends a session has its alert with it until it hands it over. Counting those, there is at
every moment one alert about each session that has ended and is flagged, and none about the others.
-/

set_option autoImplicit false

namespace OralExam

/-! ## Lists in which one member is replaced -/

section

variable {α β : Type} {l : List α} {n : Nat} {a a' : α} {f : α → List β}

theorem flatMap_set_of_eq (selected : l[n]? = some a) (same : f a' = f a) :
    (l.set n a').flatMap f = l.flatMap f := by
  obtain ⟨inside, here⟩ := List.getElem?_eq_some_iff.mp selected
  have kept : (l.map f).set n (f a') = l.map f := by
    rw [same, ← here, ← List.getElem_map f (h := by simpa using inside), List.set_getElem_self]
  rw [List.flatMap_def, List.flatMap_def, List.map_set, kept]

/-- Where one member alone adds something, the whole is what it adds. -/
theorem flatMap_eq_of_alone (selected : l[n]? = some a)
    (alone : ∀ (i : Nat) b, i ≠ n → l[i]? = some b → f b = []) : l.flatMap f = f a := by
  induction l generalizing n with
  | nil => cases selected
  | cons b rest ih =>
    rw [List.flatMap_cons]
    cases n with
    | zero =>
      cases selected
      have others : rest.flatMap f = [] := by
        rw [List.flatMap_eq_nil_iff]
        intro c member
        obtain ⟨i, there⟩ := List.mem_iff_getElem?.mp member
        exact alone (i + 1) c (Nat.succ_ne_zero i) there
      rw [others, List.append_nil]
    | succ n =>
      rw [alone 0 b (Nat.zero_ne_add_one n) rfl, List.nil_append]
      exact ih selected fun i c apart there =>
        alone (i + 1) c (fun same => apart (Nat.succ.inj same)) there

end

theorem Service.alerts_publish (v : Service) (r : Rubric) : (v.publish r).2.alerts = v.alerts := by
  unfold publish
  split <;> rfl

theorem Service.alerts_openSession (v : Service) (assignment : Assignment) (studentId : String)
    (rubric : Rubric) (now : Instant) :
    (v.openSession assignment studentId rubric now).2.alerts = v.alerts := by
  rcases v.openSession_cases assignment studentId rubric now with
    ⟨e, -, refused⟩ | ⟨chosen, pending, c, q, -, -, -, opened⟩
  · rw [refused]
  · rw [opened]

/-! ## Alerts under way -/

namespace Call

/-- The alert that a call has with it if it has ended the session. -/
def carries (id : String) : Call → List Alert
  | .working own _ _ (.changed alert _) | .working own _ _ (.written alert _)
  | .working own _ _ (.settled alert _) => if own = id then alert.toList else []
  | _ => []

theorem carries_of_holds? {id : String} {c : Call} (away : c.holds? ≠ some id) :
    c.carries id = [] := by
  unfold carries
  split
  · exact if_neg fun own => away (congrArg some own)
  · exact if_neg fun own => away (congrArg some own)
  · exact if_neg fun own => away (congrArg some own)
  · rfl

theorem Plain.carries {c : Call} (plain : c.Plain) (id : String) : c.carries id = [] :=
  carries_of_holds? (by simp [plain.holds?_eq])

/-- A step hands over no alert, or the one that the call has with it. -/
theorem Move.alerts_cases {now : Instant} {v : Service} {c : Call} {progress : Progress}
    (move : Move now v c progress) : progress.service.alerts = v.alerts ∨
      ∃ id task sweep a report, c = .working id task sweep (.settled (some a) report) ∧
        progress.service.alerts = v.alerts ++ [a] := by
  cases move with
  | stayed | turned | chosen | locked | left | changed | written | released | unlocked =>
    exact .inl rfl
  | published => exact .inl (v.alerts_publish _)
  | opened => exact .inl (v.alerts_openSession _ _ _ _)
  | @alerted id task sweep alert report =>
    cases alert with
    | none => exact .inl (List.append_nil _)
    | some a => exact .inr ⟨id, task, sweep, a, report, rfl, rfl⟩

end Call

namespace World

/-- The alerts about a session: those handed over, and the one under way. -/
def alertsAbout (w : World) (id : String) : List Alert :=
  w.service.alerts.filter (·.sessionId = id) ++ w.calls.flatMap (·.carries id)

/-- The alert that is due about a session. -/
def due (w : World) (id : String) : List Alert :=
  ((w.registry.live? id).bind Session.alert?).toList

/-- What is due is there or under way, and nothing else. -/
def Alerted (w : World) : Prop := ∀ id, w.alertsAbout id = w.due id

namespace Alerted

variable {settings : Settings} {w : World} {number : Nat} {c c' : Call} {id : String}
  {v' : Service} {history : List (String × Deed)}

/-- A step that has nothing to do with alerts. -/
theorem turn (alerted : w.Alerted) (selected : w.calls[number]? = some c)
    (alerts : v'.alerts = w.service.alerts)
    (live : ∀ id, (v'.registry.live? id).bind Session.alert? =
      (w.registry.live? id).bind Session.alert?)
    (carried : ∀ id, c'.carries id = c.carries id) :
    Alerted ⟨v', w.calls.set number c', history⟩ := by
  intro id
  have before := alerted id
  simp only [alertsAbout, due, registry] at before ⊢
  rw [alerts, live, flatMap_set_of_eq selected (carried id), before]

/-- Nobody else has an alert about a session that a call holds. -/
theorem carried_eq (orderly : w.Orderly) (selected : w.calls[number]? = some c)
    (holds : c.holds? = some id) (c' : Call) :
    w.calls.flatMap (·.carries id) = c.carries id ∧
      (w.calls.set number c').flatMap (·.carries id) = c'.carries id := by
  have alone (i : Nat) (d : Call) (apart : i ≠ number) (there : w.calls[i]? = some d) :
      d.carries id = [] :=
    Call.carries_of_holds? fun held => apart (orderly.alone i number d c id there selected held holds)
  have inside : number < w.calls.length := (List.getElem?_eq_some_iff.mp selected).1
  refine ⟨flatMap_eq_of_alone selected alone,
    flatMap_eq_of_alone (List.getElem?_set_self inside) ?_⟩
  intro i d apart there
  rw [List.getElem?_set_ne (Ne.symm apart)] at there
  exact alone i d apart there

/-- A step of a call at work on one session. -/
theorem work (alerted : w.Alerted) (id : String) (selected : w.calls[number]? = some c)
    (others : ∀ other, other ≠ id → v'.alerts.filter (·.sessionId = other) =
        w.service.alerts.filter (·.sessionId = other) ∧
      v'.registry.live? other = w.registry.live? other ∧ c'.carries other = c.carries other)
    (own : v'.alerts.filter (·.sessionId = id) ++
        (w.calls.set number c').flatMap (·.carries id) =
      ((v'.registry.live? id).bind Session.alert?).toList) :
    Alerted ⟨v', w.calls.set number c', history⟩ := by
  intro other
  by_cases here : other = id
  · subst here
    exact own
  · obtain ⟨alerts, live, carried⟩ := others other here
    have before := alerted other
    simp only [alertsAbout, due, registry] at before ⊢
    rw [alerts, live, flatMap_set_of_eq selected carried, before]

theorem move (alerted : w.Alerted) (orderly : w.Orderly) (supplied : w.Supplied settings)
    (reached : w.registry.Every (Session.Reached settings)) (selected : w.calls[number]? = some c)
    {now : Instant} {progress : Progress} (move : Call.Move now w.service c progress) :
    Alerted ⟨progress.service, w.calls.set number progress.call, history⟩ := by
  cases move with
  | stayed => exact alerted.turn selected rfl (fun _ => rfl) fun _ => rfl
  | turned free plain =>
    refine alerted.turn selected rfl (fun _ => rfl) fun id => ?_
    rw [plain.carries id, Call.carries_of_holds? (by simp [free])]
  | chosen => exact alerted.turn selected rfl (fun _ => rfl) fun _ => rfl
  | published =>
    refine alerted.turn selected (w.service.alerts_publish _) (fun id => ?_) fun _ => rfl
    rw [Service.registry_publish]
  | @opened assignment studentId rubric =>
    rcases w.service.openSession_cases assignment studentId rubric now with
      ⟨e, -, refused⟩ | ⟨chosen, pending, c, q, -, -, -, opened⟩
    · rw [refused]
      exact alerted.turn selected rfl (fun _ => rfl) fun _ => rfl
    · rw [opened]
      refine alerted.turn selected rfl (fun id => ?_) fun _ => rfl
      rw [Registry.live?_enter]
      split
      · -- The session has only just begun.
        rename_i here
        have fresh : w.registry.live? id = none := by
          rw [here]
          exact Registry.live?_of_fresh orderly.numbered.fresh
        rw [fresh]
        rfl
      · rfl
  | @locked id task sweep s free =>
    exact alerted.turn selected rfl
      (fun other => by rw [Registry.live?_setCell_of_find? free]) fun _ => rfl
  | left | written => exact alerted.turn selected rfl (fun _ => rfl) fun _ => rfl
  | released =>
    exact alerted.turn selected rfl (fun id => by rw [Registry.live?_releaseSlot]) fun _ => rfl
  | @unlocked id task sweep report c after =>
    obtain ⟨t, found, -⟩ := orderly.found selected (by simp)
    refine alerted.turn selected rfl (fun other => ?_) fun other => ?_
    · rw [Service.free, Registry.unlock_of_find? found, Registry.live?_setCell_of_find? found]
    · rcases after with rfl | plain
      · rfl
      · exact plain.carries other
  | @changed id task sweep s s' alert report live body =>
    have found := orderly.taken selected (by simp) live
    rw [Registry.update_of_find? found]
    refine alerted.work id selected (fun other apart => ⟨rfl, ?_, ?_⟩) ?_
    · rw [Registry.live?_setCell, if_neg apart]
    · exact if_neg (Ne.symm apart)
    · obtain ⟨before, after⟩ := carried_eq orderly selected rfl
        (.working id task sweep (.changed alert report))
      have due := alerted id
      simp only [alertsAbout, World.due, before, live, Option.bind_some] at due
      rw [after, Registry.live?_setCell, if_pos rfl, Option.bind_some]
      rw [supplied.settings] at body
      rw [← Session.alerts_of_replace (reached id s (.inl live)) body, ← due]
      simp [Call.carries]
  | @alerted id task sweep alert report =>
    obtain ⟨t, -, live, named, -⟩ := orderly.found selected (by simp)
    obtain ⟨before, after⟩ := carried_eq orderly selected rfl
      (.working id task sweep (.leaving report))
    have due := alerted id
    simp only [alertsAbout, World.due, before, live, Option.bind_some] at due
    -- The alert that the call has with it is about its session.
    have about : ∀ a ∈ alert.toList, a.sessionId = id := by
      intro a member
      have owed : a ∈ t.alert?.toList := by
        rw [← due]
        exact List.mem_append_right _ (by simpa [Call.carries] using member)
      rw [← named]
      exact Session.sessionId_of_alert? (by simpa using owed)
    refine alerted.work id selected (fun other apart => ⟨?_, rfl, ?_⟩) ?_
    · rw [List.filter_append, List.append_right_eq_self, List.filter_eq_nil_iff]
      intro a member
      simpa [about a member] using Ne.symm apart
    · exact (if_neg (Ne.symm apart)).symm
    · rw [after, live, Option.bind_some, ← due, List.filter_append]
      simpa [Call.carries] using about

end Alerted

section

variable {settings : Settings} {w : World}

theorem Reachable.alerted (reachable : Reachable settings w) : w.Alerted := by
  refine reachable.induction ?_ ?_ ?_
  · intro id
    rfl
  · intro w c _ alerted plain id
    have before := alerted id
    simp only [alertsAbout, due, registry] at before ⊢
    rw [List.flatMap_append, ← before]
    simp [plain.carries id]
  · intro w number c now progress before alerted selected move
    exact alerted.move before.orderly before.supplied before.traced.reached selected move

/-- While nobody works on a session, no alert about it is under way. -/
theorem Orderly.carries_of_free (orderly : w.Orderly) {id : String} {s : Session}
    (free : w.registry.cells.find? id = some ⟨s, false⟩) : w.calls.flatMap (·.carries id) = [] := by
  rw [List.flatMap_eq_nil_iff]
  intro c member
  obtain ⟨number, selected⟩ := List.mem_iff_getElem?.mp member
  refine Call.carries_of_holds? fun holds => ?_
  obtain ⟨t, taken⟩ := (orderly.sound number c selected).find? holds
  rw [free] at taken
  cases taken

/-! ## Where alerts come from -/

/-- In an earlier step the call ended the session that the alert is about, which calls for it. -/
def EndedBy (settings : Settings) (events : List Event) (number : Nat) (a : Alert) : Prop :=
  ∃ before now later s s' deed,
    events = before ++ .step number now :: later ∧
    ((begin settings).run before).registry.live? a.sessionId = some s ∧ s.status = .inProgress ∧
    ((begin settings).run (before ++ [.step number now])).registry.live? a.sessionId = some s' ∧
    s'.status.isTerminal ∧ s'.alert? = some a ∧
    ((begin settings).run (before ++ [.step number now])).history =
      ((begin settings).run before).history ++ [(a.sessionId, deed)] ∧ deed.report.ends

theorem EndedBy.append {events : List Event} {number : Nat} {a : Alert}
    (endedBy : EndedBy settings events number a) (later : List Event) :
    EndedBy settings (events ++ later) number a := by
  obtain ⟨before, now, rest, s, s', deed, split, found⟩ := endedBy
  refine ⟨before, now, rest ++ later, s, s', deed, ?_, found⟩
  rw [split, List.append_assoc, List.cons_append]

/-- An alert that a call has with it was with it before, or is about the session that it has just
ended. -/
theorem carries_of_step (settings : Settings) (events : List Event) {number : Nat} {c : Call}
    {now : Instant} {progress : Progress}
    (selected : ((begin settings).run events).calls[number]? = some c)
    (step : c.step ((begin settings).run events).service now = progress)
    (move : Call.Move now ((begin settings).run events).service c progress) {id : String}
    {a : Alert} (carried : a ∈ progress.call.carries id) :
    a ∈ c.carries id ∨ EndedBy settings (events ++ [.step number now]) number a := by
  have reachable : Reachable settings ((begin settings).run events) := ⟨events, rfl⟩
  have after : (begin settings).run (events ++ [.step number now]) = _ :=
    (run_append _ _ _).trans (step_of_selected selected now)
  rw [step] at after
  cases move with
  | stayed | written | released => exact .inl carried
  | turned free plain =>
    rw [plain.carries] at carried
    cases carried
  | chosen | opened | published | locked | left | alerted => cases carried
  | unlocked ended =>
    rcases ended with rfl | plain
    · cases carried
    · rw [plain.carries] at carried
      cases carried
  | @changed own task sweep s s' alert report live body =>
    simp only [Call.carries] at carried
    split at carried
    case isFalse => cases carried
    case isTrue here =>
    subst here
    rw [Option.mem_toList] at carried
    subst carried
    rw [reachable.supplied.settings] at body
    obtain ⟨ends, going, ended, due⟩ :=
      Session.ends_of_alert (reachable.traced.reached own s (.inl live)) body
    have about : a.sessionId = own := by
      rw [Session.sessionId_of_alert? due, (Session.step_of_replace body).id_eq,
        reachable.orderly.numbered.named own s live]
    have found := reachable.orderly.taken selected nofun live
    refine .inr ⟨events, now, [], s, s', ⟨task, now, report⟩, rfl, about.symm ▸ live, going, ?_,
      ended, due, ?_, ends⟩
    · rw [after, about]
      simp only [registry, Registry.update_of_find? found]
      rw [Registry.live?_setCell, if_pos rfl]
    · rw [after, about]

theorem endedBy_of_carries (settings : Settings) (events : List Event) {number : Nat} {c : Call}
    (selected : ((begin settings).run events).calls[number]? = some c) {id : String} {a : Alert}
    (carried : a ∈ c.carries id) : EndedBy settings events number a := by
  induction events using List.reverseRecOn generalizing c with
  | nil => cases selected
  | append_singleton events event ih =>
    rw [run_append] at selected
    change (((begin settings).run events).step event).calls[number]? = some c at selected
    by_cases own : ∃ now, event = .step number now
    · obtain ⟨now, rfl⟩ := own
      obtain ⟨d, before, step⟩ := calls_of_step selected
      subst step
      rcases carries_of_step settings events before rfl (d.step_move _ now) carried with old | new
      · exact (ih before old).append _
      · exact new
    · -- The call has taken no step, so it has had the alert with it before.
      have holds : c.holds? = some id := by
        by_contra away
        rw [Call.carries_of_holds? away] at carried
        cases carried
      exact (ih (calls_of_holds (not_exists.mp own) selected holds) carried).append _

/-- Alerts are handed over one at a time, each by the call that has ended the session. -/
theorem alerts_step (settings : Settings) (events : List Event) (event : Event) :
    let w := (begin settings).run events
    (w.step event).service.alerts = w.service.alerts ∨
      ∃ number now a, event = .step number now ∧
        (w.step event).service.alerts = w.service.alerts ++ [a] ∧
        EndedBy settings events number a := by
  intro w
  cases event with
  | call request => exact .inl rfl
  | step number now =>
    cases selected : w.calls[number]? with
    | none =>
      refine .inl ?_
      simp only [step, selected]
    | some c =>
      rw [step_of_selected selected]
      rcases (c.step_move w.service now).alerts_cases with
        kept | ⟨id, task, sweep, a, report, rfl, sent⟩
      · exact .inl kept
      · refine .inr ⟨number, now, a, rfl, sent, ?_⟩
        have carried : a ∈ (Call.working id task sweep (.settled (some a) report)).carries id := by
          simp [Call.carries]
        exact endedBy_of_carries settings events selected carried

theorem alerts_prefix_run (w : World) (later : List Event) :
    w.service.alerts <+: (w.run later).service.alerts := by
  refine List.foldlRecOn later step (motive := fun w' => w.service.alerts <+: w'.service.alerts)
    List.prefix_rfl fun w' grown event _ => grown.trans ?_
  cases event with
  | call request => exact List.prefix_rfl
  | step number now =>
    cases selected : w'.calls[number]? with
    | none =>
      simp only [step, selected]
      exact List.prefix_rfl
    | some c =>
      rw [step_of_selected selected]
      rcases (c.step_move w'.service now).alerts_cases with kept | ⟨_, _, _, a, _, -, sent⟩
      · exact kept ▸ List.prefix_rfl
      · exact sent ▸ List.prefix_append _ _

end

end World

/-! ## Requests served one after another -/

/-- The request may have ended sessions: it was an answer after which the session is finished, an end
that was accepted, or a sweep. -/
def Receipt.ends : Receipt → Bool
  | worked report => report.ends
  | swept _ => true
  | started _ | published _ => false

namespace Service

variable {settings : Settings} {v : Service} {now : Instant} {id : String}

theorem alerts_perform_of_not_ends (same : v.settings = settings)
    (reached : v.registry.Every (Session.Reached settings)) {request : Request}
    (goesOn : (v.perform now request).1.ends = false) :
    (v.perform now request).2.alerts = v.alerts := by
  cases job : request.job? with
  | some found =>
    obtain ⟨subject, task⟩ := found
    rw [perform_of_job job] at goesOn ⊢
    rcases v.carryOut_cases now subject task with
      ⟨-, kept⟩ | ⟨s, s', alert, report, free, body, carried⟩
    · rw [kept]
    · rw [carried] at goesOn ⊢
      cases alert with
      | none => exact List.append_nil _
      | some a =>
        rw [same] at body
        have live := Registry.live?_of_find? free
        have ends := (Session.ends_of_alert (reached subject s (.inl live)) body).1
        change report.ends = false at goesOn
        rw [goesOn] at ends
        cases ends
  | none =>
    have started (assignment : Assignment) (studentId : String) :
        (v.startWith assignment studentId now).2.alerts = v.alerts := by
      unfold startWith
      split
      · rfl
      · exact v.alerts_openSession _ _ _ _
    cases request with
    | answer | endSession | review => cases job
    | start | startWith => exact started _ _
    | publish r => exact v.alerts_publish r
    | sweep =>
      rw [perform] at goesOn
      cases swept : v.sweep now with
      | none =>
        rw [swept] at goesOn
        cases goesOn
      | some out =>
        rw [swept] at goesOn
        cases goesOn

/-- Sessions that were not there before have only just begun. -/
theorem status_perform_of_new (unknown : v.registry.live? id = none) {request : Request}
    {s : Session} (live : (v.perform now request).2.registry.live? id = some s) :
    s.status = .inProgress := by
  cases job : request.job? with
  | some found =>
    obtain ⟨subject, task⟩ := found
    rw [perform_of_job job, live?_carryOut_of_none unknown] at live
    cases live
  | none =>
    have started (assignment : Assignment) (studentId : String)
        (live : (v.startWith assignment studentId now).2.registry.live? id = some s) :
        s.status = .inProgress := by
      unfold startWith at live
      split at live
      · rw [unknown] at live
        cases live
      · rename_i rubric _
        rcases v.openSession_cases assignment studentId rubric now with
          ⟨e, -, refused⟩ | ⟨chosen, pending, c, q, -, -, -, opened⟩
        · rw [refused, unknown] at live
          cases live
        · rw [opened, Registry.live?_enter] at live
          split at live
          · cases live
            rfl
          · rw [unknown] at live
            cases live
    cases request with
    | answer | endSession | review => cases job
    | start | startWith => exact started _ _ live
    | publish r =>
      change (v.publish r).2.registry.live? id = some s at live
      rw [registry_publish, unknown] at live
      cases live
    | sweep =>
      rw [perform, sweep] at live
      cases reach : idleCutoff v.settings.exam now with
      | none =>
        rw [reach] at live
        cases live.symm.trans unknown
      | some cutoff =>
        simp only [reach, Option.map_some, Option.elim_some] at live
        rw [live?_foldl_of_none unknown] at live
        cases live

end Service

/-- A request for something that can only be read leaves the service as it was. -/
theorem Http.respond_of_get (v : Service) {request : Http.Request} (reads : request.method = "GET")
    (now : Instant) : (Http.respond v request now).2 = v := by
  simp only [respond]
  split
  · rfl
  · split
    · rfl
    · rename_i resource parameter _
      split
      · rfl
      · rename_i allowed
        split
        · rfl
        · rename_i id _
          have got : resource.method = "GET" := by
            have known : resource.allows "GET" = true := by simpa [reads] using allowed
            rcases Bool.or_eq_true_iff.mp known with own | bodiless
            · exact (of_decide_eq_true own).symm
            · exact absurd (of_decide_eq_true (Bool.and_eq_true_iff.mp
                (Bool.and_eq_true_iff.mp bodiless).1).1) (by decide)
          cases resource with
          | channel | health | assignment => rfl
          | session =>
            simp only [Resource.serve, runCommand, Command.run]
            cases v.session id <;> rfl
          | assignmentSessions =>
            simp only [Resource.serve]
            split <;> rfl
          | dashboard =>
            simp only [Resource.serve]
            split <;> rfl
          | sessions | responses | ending | review | rubrics => exact absurd got (by decide)

/-! ## Alerts in any run -/

namespace World

/-- The alerts of a world are those about flagged sessions that have ended, one about each. -/
structure AlertsOnce (settings : Settings) (events : List Event) : Prop where
  announced : ∀ id s, ((begin settings).run events).registry.live? id = some s →
    s.Announced (((begin settings).run events).alertsAbout id)
  known : ∀ id, ((begin settings).run events).registry.live? id = none →
    ((begin settings).run events).alertsAbout id = []
  /-- What is under way is in the hands of whoever works on the session. -/
  free : ∀ id s, ((begin settings).run events).registry.cells.find? id = some ⟨s, false⟩ →
    s.Announced (((begin settings).run events).service.alerts.filter (·.sessionId = id))
  /-- Nothing but the call that ended a session hands over an alert, and only the one about it. -/
  sent : ∀ event, (((begin settings).run events).step event).service.alerts =
      ((begin settings).run events).service.alerts ∨
    ∃ number now a, event = .step number now ∧
      (((begin settings).run events).step event).service.alerts =
        ((begin settings).run events).service.alerts ++ [a] ∧
      EndedBy settings events number a

theorem alertsOnce (settings : Settings) (events : List Event) : AlertsOnce settings events := by
  have reachable : Reachable settings ((begin settings).run events) := ⟨events, rfl⟩
  have announced (id : String) (s : Session)
      (live : ((begin settings).run events).registry.live? id = some s) :
      s.Announced (((begin settings).run events).alertsAbout id) := by
    rw [reachable.alerted id, due, live]
    exact (reachable.traced.reached id s (.inl live)).flaggedAtEnd.announced
  refine ⟨announced, ?_, ?_, alerts_step settings events⟩
  · intro id unknown
    rw [reachable.alerted id, due, unknown]
    rfl
  · intro id s free
    have all := announced id s (Registry.live?_of_find? free)
    rwa [alertsAbout, reachable.orderly.carries_of_free free, List.append_nil] at all

/-- While nobody works on anything, what is due has been handed over. -/
theorem Reachable.alerts_eq_due {settings : Settings} {w : World} (reachable : Reachable settings w)
    (idle : w.service.Idle) (id : String) :
    w.service.alerts.filter (·.sessionId = id) = w.due id := by
  have all := reachable.alerted id
  cases live : w.registry.live? id with
  | none =>
    have nothing : w.due id = [] := by
      rw [due, live]
      rfl
    rw [nothing, alertsAbout, List.append_eq_nil_iff] at all
    rw [all.1, nothing]
  | some s =>
    rwa [alertsAbout, reachable.orderly.carries_of_free (idle.find?_of_live? live),
      List.append_nil] at all

end World

namespace Service

/-- What a request adds to the alerts. -/
structure Sends (v : Service) (request : Request) (now : Instant) (sent : List Alert) : Prop where
  alerts : (v.perform now request).2.alerts = v.alerts ++ sent
  /-- Of a session that goes on, it is told if the request ends it and it is flagged. -/
  going : ∀ id s s', v.registry.live? id = some s → s.status = .inProgress →
    (v.perform now request).2.registry.live? id = some s' →
    s'.Announced (sent.filter (·.sessionId = id))
  /-- Of others nothing is told. -/
  others : ∀ id, (∀ s, v.registry.live? id = some s → s.status.isTerminal) →
    sent.filter (·.sessionId = id) = []
  silent : (v.perform now request).1.ends = false → sent = []

theorem sends (settings : Settings) (requests : List (Request × Instant)) (request : Request)
    (now : Instant) : ∃ sent, ((ofSettings settings).run requests).Sends request now sent := by
  obtain ⟨w, reachable, same, idle, -⟩ := World.reachable_run settings requests
  rw [← same]
  obtain ⟨idle', later, after, -⟩ := w.serve idle now request
  have reachable' := reachable.run later
  obtain ⟨sent, grown⟩ := World.alerts_prefix_run w later
  rw [after] at grown
  -- Before and after the request nobody works on any session, so what is due has been sent.
  have before := reachable.alerts_eq_due idle
  have afterwards := reachable'.alerts_eq_due (after ▸ idle')
  rw [after, ← grown] at afterwards
  have split (id : String) : w.due id ++ sent.filter (·.sessionId = id) = (w.run later).due id := by
    rw [← before, ← afterwards, List.filter_append]
  have live? : (w.run later).registry = (w.service.perform now request).2.registry :=
    congrArg Service.registry after
  refine ⟨sent, grown.symm, ?_, ?_, ?_⟩
  · intro id s s' live going live'
    have reached := reachable.traced.reached id s (.inl live)
    have reached' := reachable'.traced.reached id s' (.inl (live? ▸ live'))
    have nothing : w.due id = [] := by
      rw [World.due, live, Option.bind_some, Session.alert?_eq_none reached.flaggedAtEnd
        (by simpa [reached.proper.isTerminal_iff] using going)]
      rfl
    have all := split id
    rw [nothing, List.nil_append, World.due, live?, live', Option.bind_some] at all
    exact all ▸ reached'.flaggedAtEnd.announced
  · intro id closed
    cases live : w.service.registry.live? id with
    | none =>
      -- The session may be new, but then it has only just begun.
      have nothing : (w.run later).due id = [] := by
        cases live' : (w.run later).registry.live? id with
        | none =>
          rw [World.due, live']
          rfl
        | some s' =>
          have going := status_perform_of_new live (live? ▸ live')
          have reached' := reachable'.traced.reached id s' (.inl live')
          rw [World.due, live', Option.bind_some, Session.alert?_eq_none reached'.flaggedAtEnd
            (by simp [going, Status.isTerminal])]
          rfl
      have all := split id
      rw [nothing, List.append_eq_nil_iff] at all
      exact all.2
    | some s =>
      obtain ⟨review, live'⟩ :=
        ((reachable.continues later).keepsEnded id s (closed s live)).1 live
      have same : (w.run later).due id = w.due id := by
        rw [World.due, World.due, live, live']
        rfl
      have all := split id
      rw [same] at all
      exact List.append_right_eq_self.mp all
  · intro goesOn
    have kept := alerts_perform_of_not_ends reachable.supplied.settings reachable.traced.reached
      goesOn
    rw [← grown] at kept
    exact List.append_right_eq_self.mp kept

end Service

/-- In every run there is one alert about each session that has ended and is flagged, and none about
any other; it is handed over by the answer, the end or the sweep that ended the session, and tells
why it is flagged. -/
theorem World.flagged_sessions_alerted_once (settings : Settings) (events : List Event)
    (requests : List (Request × Instant)) :
    let v := (Service.ofSettings settings).run requests
    AlertsOnce settings events ∧
    (∀ id s, v.registry.live? id = some s → s.Announced (v.alerts.filter (·.sessionId = id))) ∧
    (∀ a ∈ v.alerts, ∃ s, v.registry.live? a.sessionId = some s) ∧
    (∀ request now, ∃ sent, v.Sends request now sent) ∧
    ∀ (request : Http.Request) now, request.method = "GET" → (Http.respond v request now).2 = v := by
  intro v
  obtain ⟨w, reachable, same, idle, -⟩ := reachable_run settings requests
  have due := reachable.alerts_eq_due idle
  rw [same] at due
  have registry : w.registry = v.registry := congrArg Service.registry same
  refine ⟨alertsOnce settings events, ?_, ?_, Service.sends settings requests,
    fun request now reads => Http.respond_of_get v reads now⟩
  · intro id s live
    rw [due, World.due, registry, live]
    exact (reachable.traced.reached id s (.inl (registry ▸ live))).flaggedAtEnd.announced
  · intro a member
    have about : a ∈ w.due a.sessionId := by
      rw [← due]
      exact List.mem_filter.mpr ⟨member, by simp⟩
    rw [World.due, registry, Option.mem_toList, Option.bind_eq_some_iff] at about
    obtain ⟨s, live, -⟩ := about
    exact ⟨s, live⟩

end OralExam
