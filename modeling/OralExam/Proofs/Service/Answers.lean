import OralExam.Proofs.Service.Readers
import OralExam.Proofs.Service.Work

/-! Answers given side by side.

An answer that comes while somebody works on its session is turned away and leaves no trace. Every
answer that is taken is scored once: a session has as many answers as calls have given it.
-/

set_option autoImplicit false

namespace OralExam

/-! ## Answers that were taken -/

/-- What came of an answer that was taken. -/
def Report.outcome? : Report → Option Outcome
  | answered (.ok o) => some o
  | answered (.error _) | ended _ | reviewed _ | abandoned _ => none

theorem Report.outcome?_of_isRefusal {report : Report} (refusal : report.isRefusal) :
    report.outcome? = none := by
  cases report with
  | answered result =>
    cases result with
    | error e => rfl
    | ok o => cases refusal
  | ended | reviewed | abandoned => rfl

theorem Report.IsTurnedAway.outcome? {report : Report} (away : report.IsTurnedAway) :
    report.outcome? = none := by
  obtain ⟨task, id, rfl | rfl⟩ := away
  · exact Report.outcome?_of_isRefusal (task.isRefusal_refused _)
  · exact Report.outcome?_of_isRefusal (task.isRefusal_refused _)

/-- A session is given one answer by a deed that is an answer and was taken, and none by others. -/
theorem Session.Step.answers_cases {settings : Settings} {s s' : Session} {deed : Deed}
    (step : Step settings s deed s') :
    (deed.report.outcome? = none ∧ s'.answers = s.answers) ∨
      ∃ o, deed.report.outcome? = some o ∧ o.session = s' ∧
        s'.answers.length = s.answers.length + 1 := by
  cases step with
  | refused refusal => exact .inl ⟨Report.outcome?_of_isRefusal refusal, rfl⟩
  | failed | submitted | abandoned | idled => exact .inl ⟨rfl, rfl⟩
  | asked going waiting scored => exact .inr ⟨_, rfl, rfl, by simp [scored]⟩
  | completed going waiting scored => exact .inr ⟨_, rfl, rfl, by simp [scored]⟩
  | reviewed ended done =>
    subst done
    exact .inl ⟨rfl, rfl⟩

namespace Call

/-- The call has given the session an answer, which was taken. -/
def hasAnswered (id : String) (c : Call) : Bool :=
  (c.report?.bind Report.outcome?).any (·.session.id = id)

variable {c : Call} {id : String}

theorem hasAnswered_of_report? (none : ∀ report, c.report? = some report → report.outcome? = none) :
    c.hasAnswered id = false := by
  unfold hasAnswered
  cases told : c.report? with
  | none => rfl
  | some report => rw [Option.bind_some, none report told, Option.any_none]

theorem Plain.hasAnswered (plain : c.Plain) (id : String) : c.hasAnswered id = false :=
  hasAnswered_of_report? fun _ told => (plain.isTurnedAway told).outcome?

/-- A call that is under way and holds nothing has come to nothing. -/
theorem report?_of_free (free : c.holds? = none) (underway : ∀ receipt, c ≠ .done receipt) :
    c.report? = none := by
  cases c with
  | working id task sweep phase => cases phase <;> first | rfl | cases free
  | done receipt => exact absurd rfl (underway receipt)
  | _ => rfl

/-! ## Sweeps give no answers -/

/-- A call that is part of a sweep abandons sessions, and has answered none. -/
def SweepsOnly : Call → Prop
  | working id task (some sweep) phase => (∃ cutoff, task = .abandonIdle cutoff) ∧
    ∀ report, (working id task (some sweep) phase).report? = some report → report.outcome? = none
  | _ => True

theorem sweepsOnly_sweepOn (cutoff : Instant) (count : Nat) (ids : List String) :
    (sweepOn cutoff count ids).SweepsOnly := by
  cases ids with
  | nil => trivial
  | cons id rest =>
    refine ⟨⟨cutoff, rfl⟩, ?_⟩
    intro report told
    cases told

theorem sweepsOnly_proceed (report : Report) (sweep : Option Sweep) :
    (proceed report sweep).SweepsOnly := by
  cases sweep with
  | none => trivial
  | some sweep => exact sweepsOnly_sweepOn _ _ _

theorem outcome?_of_abandonIdle (cutoff : Instant) (settings : Settings) (now : Instant)
    (s : Session) : ((Task.abandonIdle cutoff).perform settings now s).result.outcome? = none := by
  simp only [Task.perform, Handling.result_map]
  rfl

theorem SweepsOnly.step (only : c.SweepsOnly) (v : Service) (now : Instant) :
    (c.step v now).call.SweepsOnly := by
  cases c with
  | checking | choosing =>
    simp only [Call.step]
    split <;> trivial
  | opening | publishing | done => trivial
  | listing =>
    simp only [Call.step]
    cases Service.idleCutoff v.settings.exam now with
    | none => trivial
    | some cutoff => exact sweepsOnly_sweepOn _ _ _
  | working id task sweep phase =>
    rcases workStep_call_cases v now id task sweep phase with
      ⟨report, next⟩ | ⟨phase', stays, reports⟩
    · rw [Call.step, next]
      exact sweepsOnly_proceed report sweep
    · rw [Call.step, stays]
      cases sweep with
      | none => trivial
      | some sweep =>
        obtain ⟨⟨cutoff, rfl⟩, none⟩ := only
        refine ⟨⟨cutoff, rfl⟩, ?_⟩
        intro report told
        rcases reports report told with before | ⟨s, done⟩
        · exact none report before
        · rw [done, outcome?_of_abandonIdle]

end Call

/-! ## As many answers as calls -/

/-- How many answers the session has. -/
def Registry.answered (r : Registry) (id : String) : Nat :=
  ((r.live? id).map (·.answers.length)).getD 0

theorem Registry.answered_of_live? {r : Registry} {id : String} {s : Session}
    (live : r.live? id = some s) : r.answered id = s.answers.length := by
  rw [answered, live, Option.map_some, Option.getD_some]

theorem Registry.answered_congr {r r' : Registry} {id : String}
    (same : r'.live? id = r.live? id) : r'.answered id = r.answered id := by
  rw [answered, same, answered]

/-- A session that is put in has no answers. -/
theorem Registry.answered_enter {r : Registry} {s : Session} (fresh : s.id ∉ r.cells.keys)
    (blank : s.answers = []) (id : String) : (r.enter s).answered id = r.answered id := by
  by_cases own : id = s.id
  · subst own
    rw [answered, answered, live?_enter, if_pos rfl, live?_of_fresh fresh, Option.map_some, blank]
    rfl
  · apply answered_congr
    rw [live?_enter, if_neg own]

theorem Registry.answered_setCell {r : Registry} {own : String} {s s' : Session} {held : Bool}
    (live : r.live? own = some s) (id : String) :
    (r.setCell own ⟨s', held⟩).answered id + (if id = own then s.answers.length else 0) =
      r.answered id + if id = own then s'.answers.length else 0 := by
  by_cases here : id = own
  · subst here
    have live' := live?_of_find? (find?_setCell_self r id ⟨s', held⟩)
    rw [if_pos rfl, if_pos rfl, answered_of_live? live, answered_of_live? live']
    exact Nat.add_comm _ _
  · rw [if_neg here, if_neg here]
    congr 1
    apply answered_congr
    rw [live?_setCell, if_neg here]

namespace World

/-- What the call adds to the number of those that have answered the session. -/
def share (id : String) (c : Call) : Nat := if c.hasAnswered id then 1 else 0

variable {w : World} {number : Nat} {c : Call}

/-- What a move adds to the answers of a session, it adds to the calls that have answered it. -/
theorem Orderly.answered_of_move (orderly : w.Orderly) (selected : w.calls[number]? = some c)
    {now : Instant} {progress : Progress} (move : Call.Move now w.service c progress)
    (underway : ∀ receipt, c ≠ .done receipt)
    (busy : ∀ id task sweep report, c ≠ .working id task sweep (.leaving report)) (id : String) :
    progress.service.registry.answered id + share id c =
      w.registry.answered id + share id progress.call := by
  have kept {r : Registry} {c' : Call} (answered : r.answered id = w.registry.answered id)
      (same : c'.hasAnswered id = c.hasAnswered id) :
      r.answered id + share id c = w.registry.answered id + share id c' := by
    rw [answered, share, share, same]
  cases move with
  | stayed | chosen | written | alerted => exact kept rfl rfl
  | turned free plain =>
    have none : c.hasAnswered id = false := by
      rw [Call.hasAnswered, Call.report?_of_free free underway]
      rfl
    exact kept rfl (by rw [plain.hasAnswered, none])
  | @opened assignment studentId rubric =>
    refine kept ?_ rfl
    rcases w.service.openSession_cases assignment studentId rubric now with
      ⟨e, -, refused⟩ | ⟨chosen, pending, c, q, -, -, -, opened⟩
    · rw [refused]
    · rw [opened]
      exact Registry.answered_enter orderly.numbered.fresh rfl id
  | published => exact kept (by rw [Service.registry_publish]) rfl
  | locked free =>
    exact kept (Registry.answered_congr (Registry.live?_setCell_of_find? free true id)) rfl
  | left live body =>
    refine kept rfl (Call.hasAnswered_of_report? fun report told => ?_)
    cases told
    exact Report.outcome?_of_isRefusal (Session.isRefusal_of_leave body)
  | @changed own task sweep s s' alert report live body =>
    have found := orderly.taken selected nofun live
    have step := Session.step_of_replace body
    simp only [Registry.update_of_find? found]
    have answered : (w.registry.setCell own ⟨s', true⟩).answered id +
        (if id = own then s.answers.length else 0) =
        w.registry.answered id + if id = own then s'.answers.length else 0 :=
      Registry.answered_setCell live id
    have before : share id (.working own task sweep .locked) = 0 := rfl
    have told : (Call.working own task sweep (.changed alert report)).report? = some report := rfl
    have gained : (if id = own then s'.answers.length else 0) =
        (if id = own then s.answers.length else 0) +
          share id (.working own task sweep (.changed alert report)) := by
      rcases step.answers_cases with ⟨none, same⟩ | ⟨o, taken, outcome, more⟩
      · rw [share, Call.hasAnswered, told, Option.bind_some, none, same]
        rfl
      · have named : o.session.id = own := by
          rw [outcome, step.id_eq, orderly.numbered.named own s live]
        rw [share, Call.hasAnswered, told, Option.bind_some, taken, Option.any_some, named, more]
        by_cases here : id = own <;> simp [here, eq_comm]
    omega
  | released => exact kept (Registry.answered_congr (Registry.live?_releaseSlot _ _ id)) rfl
  | unlocked => exact absurd rfl (busy _ _ _ _)

theorem Orderly.answered_of_step (orderly : w.Orderly) (selected : w.calls[number]? = some c)
    (only : c.SweepsOnly) (now : Instant) (id : String) :
    (c.step w.service now).service.registry.answered id + share id c =
      w.registry.answered id + share id (c.step w.service now).call := by
  by_cases ended : ∃ receipt, c = .done receipt
  · obtain ⟨receipt, rfl⟩ := ended
    rfl
  by_cases leaving : ∃ own task sweep report, c = .working own task sweep (.leaving report)
  · obtain ⟨own, task, sweep, report, rfl⟩ := leaving
    have same : (w.service.free own).registry.answered id = w.registry.answered id :=
      Registry.answered_congr (Registry.live?_unlock _ _ _)
    have told : (Call.proceed report sweep).hasAnswered id =
        (Call.working own task sweep (.leaving report)).hasAnswered id := by
      cases sweep with
      | none => rfl
      | some sweep =>
        have next : (Call.proceed report (some sweep)).hasAnswered id = false :=
          (Call.plain_sweepOn _ _ _).hasAnswered id
        rw [next, Call.hasAnswered_of_report? only.2]
    change (w.service.free own).registry.answered id + _ = _ + share id (Call.proceed report sweep)
    rw [same, share, share, told]
  · exact orderly.answered_of_move selected (c.step_move w.service now)
      (fun receipt done => ended ⟨receipt, done⟩)
      (fun own task sweep report same => leaving ⟨own, task, sweep, report, same⟩) id

variable {settings : Settings}

theorem Reachable.sweepsOnly (reachable : Reachable settings w) : ∀ c ∈ w.calls, c.SweepsOnly := by
  refine reachable.forall_calls ?_ fun w c now _ only => only.step w.service now
  intro request settings
  cases request <;> trivial

/-- A session has as many answers as calls have given it. -/
theorem Reachable.answered_eq (reachable : Reachable settings w) (id : String) :
    w.registry.answered id = w.calls.countP (·.hasAnswered id) := by
  refine reachable.step_induction
    (P := fun w => w.registry.answered id = w.calls.countP (·.hasAnswered id)) rfl ?_ ?_
  · intro w request _ same
    have none := (request.plain_call w.service.settings).hasAnswered id
    rw [List.countP_append, List.countP_singleton, none, ← same]
    rfl
  · intro w number c now before same selected
    obtain ⟨inside, chosen⟩ := List.getElem?_eq_some_iff.mp selected
    have step := before.orderly.answered_of_step selected
      (before.sweepsOnly c (List.mem_of_getElem? selected)) now id
    have counted : (w.calls.set number (c.step w.service now).call).countP (·.hasAnswered id) =
        w.calls.countP (·.hasAnswered id) - share id c + share id (c.step w.service now).call := by
      rw [List.countP_set inside, chosen]
      rfl
    have atMost : share id c ≤ w.calls.countP (·.hasAnswered id) := by
      unfold share
      split
      · rename_i answered
        exact List.countP_pos_iff.mpr ⟨c, List.mem_of_getElem? selected, answered⟩
      · exact Nat.zero_le _
    change (c.step w.service now).service.registry.answered id =
      (w.calls.set number (c.step w.service now).call).countP (·.hasAnswered id)
    rw [counted]
    omega

end World

/-! ## Rivals -/

namespace World

variable {settings : Settings} {w : World}

/-- An answer that finds its session locked is refused for that and does nothing, whether it is a call
among others or served in one go. -/
def TurnsAwayRivals (w : World) : Prop :=
  ∀ id s, w.registry.cells.find? id = some ⟨s, true⟩ →
    ∃ e : Failure, e.kind = .concurrentModification ∧ ∀ transcript similarity now,
      (∀ number : Nat, w.calls[number]? =
          some ((Request.answer id transcript similarity).call w.service.settings) →
        w.step (.step number now) =
          { w with calls := w.calls.set number (.done (.worked (.answered (.error e)))) }) ∧
      w.service.answer id transcript similarity now = (.error e, w.service)

theorem turnsAwayRivals (w : World) : w.TurnsAwayRivals := by
  intro id s taken
  refine ⟨.busy id, rfl, ?_⟩
  intro transcript similarity now
  constructor
  · intro number selected
    rw [step_of_selected selected]
    simp only [Request.call, Call.step, Call.workStep, Registry.lock, taken, if_true, Task.waits,
      Bool.false_eq_true, if_false, List.append_nil]
    rfl
  · exact Service.answer_eq (Service.carryOut_of_held taken now _)

/-- However the steps of the calls come among each other: what nobody works on is shown as it is,
readers are only shown sessions between two operations, of the answers that come at once one is taken,
and each answer that is taken counts once. So it is if abilities can be clamped to their bound: then every
answer that is taken is carried through. -/
theorem concurrent_calls_consistent (settings : Settings) (bound : 0 ≤ settings.exam.thetaBound)
    (events : List Event) :
    let w := (begin settings).run events
    w.registry.Every (Session.CarriedThrough settings) ∧
    (∀ id s, w.registry.cells.find? id = some ⟨s, false⟩ → w.registry.snapshot? id = some s) ∧
    ReadsWhole settings events ∧ w.TurnsAwayRivals ∧
    ∀ id s, w.registry.live? id = some s → s.answers.length = w.calls.countP (·.hasAnswered id) := by
  have reachable : Reachable settings ((begin settings).run events) := ⟨events, rfl⟩
  refine ⟨reachable.carriedThrough bound, ?_, readsWhole settings events, turnsAwayRivals _, ?_⟩
  · intro id s free
    rw [(reachable.orderly.settled id s free).snapshot, Registry.live?_of_find? free]
  · intro id s live
    rw [← reachable.answered_eq id, Registry.answered_of_live? live]

/-- Two answers come at once to a session of one question: one of them is taken and the other one turned
away. -/
theorem rival_answers_consistent :
    let settings : Settings := { exam := { maxQuestions := 1 } }
    let events : List Event :=
      [.call (.start "demo-assignment" "ada"), .step 0 ⟨0⟩, .step 0 ⟨0⟩, .step 0 ⟨0⟩,
        .call (.answer "session-0001" "Ownership moves." none),
        .call (.answer "session-0001" "It is copied." none), .step 1 ⟨1⟩, .step 2 ⟨1⟩,
        .step 1 ⟨2⟩, .step 1 ⟨2⟩, .step 1 ⟨2⟩, .step 1 ⟨2⟩, .step 1 ⟨2⟩]
    let w := (begin settings).run events
    0 ≤ settings.exam.thetaBound ∧
    w.calls.map (·.hasAnswered "session-0001") = [false, true, false] ∧
    (w.registry.live? "session-0001").map (·.answers.length) = some 1 ∧
    w.registry.Every (Session.CarriedThrough settings) ∧
    (∀ id s, w.registry.cells.find? id = some ⟨s, false⟩ → w.registry.snapshot? id = some s) ∧
    ReadsWhole settings events ∧ w.TurnsAwayRivals ∧
    ∀ id s, w.registry.live? id = some s →
      s.answers.length = w.calls.countP (·.hasAnswered id) := by
  intro settings events
  have bound : 0 ≤ settings.exam.thetaBound := by decide +kernel
  exact ⟨bound, by decide +kernel, by decide +kernel,
    concurrent_calls_consistent settings bound events⟩

end World

end OralExam
