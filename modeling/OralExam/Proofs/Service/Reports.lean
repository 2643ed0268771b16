import OralExam.Proofs.Service.Trace

/-! What calls report.

A report of work on a session is found in the history, unless the session could not be had.
-/

set_option autoImplicit false

namespace OralExam

/-- What a call has come to, if that is work on a session. -/
def Call.report? : Call → Option Report
  | .working _ _ _ (.changed _ report) | .working _ _ _ (.written _ report)
  | .working _ _ _ (.settled _ report) | .working _ _ _ (.leaving report)
  | .done (.worked report) => some report
  | _ => none

/-- A worker comes to an end with its session or stays with it; what it reports then, it has reported
before or has just done. -/
theorem Call.workStep_call_cases (v : Service) (now : Instant) (id : String) (task : Task)
    (sweep : Option Sweep) (phase : Phase) :
    (∃ report, (workStep v now id task sweep phase).call = proceed report sweep) ∨
    ∃ phase', (workStep v now id task sweep phase).call = working id task sweep phase' ∧
      ∀ report, (working id task sweep phase').report? = some report →
        (working id task sweep phase).report? = some report ∨
          ∃ s, report = (task.perform v.settings now s).result := by
  have nothing {p : Prop} {report : Report} (told : none = some report) : p := by cases told
  cases phase with
  | waiting =>
    simp only [workStep]
    split
    · exact .inr ⟨_, rfl, fun _ told => nothing told⟩
    · exact .inl ⟨_, rfl⟩
    · split
      · exact .inr ⟨_, rfl, fun _ told => nothing told⟩
      · exact .inl ⟨_, rfl⟩
  | locked =>
    simp only [workStep]
    split
    · exact .inr ⟨_, rfl, fun _ told => nothing told⟩
    · rename_i s live
      split
      · rename_i report body
        refine .inr ⟨_, rfl, fun report' told => .inr ⟨s, ?_⟩⟩
        cases told
        rw [body, Handling.result]
      · rename_i s' alert report body
        refine .inr ⟨_, rfl, fun report' told => .inr ⟨s, ?_⟩⟩
        cases told
        rw [body, Handling.result]
  | changed alert report | written alert report =>
    simp only [workStep]
    split <;> exact .inr ⟨_, rfl, fun report told => .inl told⟩
  | settled alert report => exact .inr ⟨_, rfl, fun report told => .inl told⟩
  | leaving report => exact .inl ⟨report, rfl⟩

namespace World

/-- Reports come from the history, but for sessions that could not be had; and no start lacks a
first question. -/
structure Accounted (w : World) : Prop where
  reports : ∀ c ∈ w.calls, ∀ report, c.report? = some report →
    report.IsTurnedAway ∨ ∃ entry ∈ w.history, entry.2.report = report
  starts : ∀ c ∈ w.calls, c ≠ .done (.started (.error .noFirstQuestion))

end World

namespace Call.Plain

variable {c : Call}

theorem isTurnedAway (plain : c.Plain) {report : Report} (told : c.report? = some report) :
    report.IsTurnedAway := by
  cases c with
  | working id task sweep phase =>
    cases plain
    cases told
  | done receipt =>
    cases receipt with
    | worked result =>
      cases told
      exact plain
    | _ => cases told
  | _ => cases told

theorem ne_started (plain : c.Plain) : c ≠ .done (.started (.error .noFirstQuestion)) := by
  rintro rfl
  obtain ⟨e, same, other⟩ := plain
  cases same
  exact other rfl

end Call.Plain

namespace World.Accounted

variable {w : World} {v' : Service} {number : Nat} {c c' : Call} {log : List (String × Deed)}

theorem replace (accounted : w.Accounted)
    (reports : ∀ report, c'.report? = some report →
      report.IsTurnedAway ∨ ∃ entry ∈ w.history ++ log, entry.2.report = report)
    (starts : c' ≠ .done (.started (.error .noFirstQuestion))) :
    Accounted ⟨v', w.calls.set number c', w.history ++ log⟩ := by
  constructor
  · intro d member report told
    rcases List.mem_or_eq_of_mem_set member with old | rfl
    · rcases accounted.reports d old report told with away | ⟨entry, heard, same⟩
      · exact .inl away
      · exact .inr ⟨entry, List.mem_append_left _ heard, same⟩
    · exact reports report told
  · intro d member
    rcases List.mem_or_eq_of_mem_set member with old | rfl
    · exact accounted.starts d old
    · exact starts

/-- The call keeps the report that it has. -/
theorem keep (accounted : w.Accounted) (selected : w.calls[number]? = some c)
    (same : c'.report? = c.report?) (starts : c' ≠ .done (.started (.error .noFirstQuestion))) :
    Accounted ⟨v', w.calls.set number c', w.history ++ []⟩ := by
  refine accounted.replace ?_ starts
  intro report told
  rw [List.append_nil]
  exact accounted.reports c (List.mem_of_getElem? selected) report (same ▸ told)

theorem move (accounted : w.Accounted) (selected : w.calls[number]? = some c) {now : Instant}
    {progress : Progress} (move : Call.Move now w.service c progress) :
    Accounted ⟨progress.service, w.calls.set number progress.call, w.history ++ progress.log⟩ := by
  have member := List.mem_of_getElem? selected
  cases move with
  | stayed => exact accounted.keep selected rfl (accounted.starts c member)
  | turned free plain =>
    exact accounted.replace (fun report told => .inl (plain.isTurnedAway told)) plain.ne_started
  | chosen | published | locked => exact accounted.replace (by simp [Call.report?]) (by simp)
  | @opened assignment studentId rubric =>
    refine accounted.replace (by simp [Call.report?]) ?_
    rcases w.service.openSession_cases assignment studentId rubric now with
      ⟨e, known, refused⟩ | ⟨chosen, pending, c, q, -, -, -, opened⟩
    · rw [refused]
      rintro ⟨⟩
      exact known rfl
    · rw [opened]
      simp
  | left live body =>
    refine accounted.replace (by simp [Call.report?]) (by simp)
  | changed live body =>
    refine accounted.replace ?_ (by simp)
    intro report told
    cases told
    exact .inr ⟨_, List.mem_append_right _ (List.mem_singleton_self _), rfl⟩
  | written | released | alerted => exact accounted.keep selected rfl (by simp)
  | unlocked after =>
    -- A sweep drops the report and goes on; other calls are done with it.
    rcases after with rfl | plain
    · exact accounted.keep selected rfl (by simp)
    · exact accounted.replace (fun report told => .inl (plain.isTurnedAway told)) plain.ne_started

end World.Accounted

theorem World.Reachable.accounted {settings : Settings} {w : World}
    (reachable : Reachable settings w) : w.Accounted := by
  refine reachable.induction ?_ ?_ ?_
  · constructor
    · intro c member
      cases member
    · intro c member
      cases member
  · intro w c _ accounted plain
    constructor
    · intro d member report told
      rcases List.mem_append.mp member with old | new
      · exact accounted.reports d old report told
      · cases List.mem_singleton.mp new
        exact .inl (plain.isTurnedAway told)
    · intro d member
      rcases List.mem_append.mp member with old | new
      · exact accounted.starts d old
      · cases List.mem_singleton.mp new
        exact plain.ne_started
  · intro w number c now progress _ accounted selected move
    exact accounted.move selected move

end OralExam
