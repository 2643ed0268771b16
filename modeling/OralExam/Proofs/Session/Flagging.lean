import OralExam.Proofs.Service.Work
import OralExam.Proofs.Session.Ending

/-! Which sessions are flagged, and which deeds raise an alert.

A session is flagged when it ends, and never before. The deed that ends it hands over the alert;
answers after which the session goes on, and reviews, hand over none.
-/

set_option autoImplicit false

namespace OralExam

/-- What was reported ended the session. -/
def Report.ends : Report → Bool
  | answered (.ok ⟨_, _, .finished _⟩) | ended (.ok _) | abandoned (.ok true) => true
  | _ => false

theorem Report.ends_of_isRefusal {report : Report} (refusal : report.isRefusal) :
    report.ends = false := by
  cases report with
  | answered result | ended result =>
    cases result with
    | error => rfl
    | ok => cases refusal
  | reviewed => rfl
  | abandoned result =>
    cases result with
    | error => rfl
    | ok done =>
      cases done with
      | false => rfl
      | true => cases refusal

namespace Session

variable {settings : Settings} {s s' : Session} {deed : Deed}

/-! ## Flags -/

@[simp] theorem flagged_ask (s : Session) (c : Concept) (q : Question) (now : Instant) :
    (s.ask c q now).flagged = s.flagged := by rfl

@[simp] theorem flagReason_ask (s : Session) (c : Concept) (q : Question) (now : Instant) :
    (s.ask c q now).flagReason = s.flagReason := by rfl

@[simp] theorem flagged_scored (settings : Settings) (s : Session) (pending : Pending) (c : Concept)
    (q : Question) (transcript : String) (similarity : Option Float) (now : Instant) :
    (s.scored settings pending c q transcript similarity now).flagged = s.flagged := by
  simp only [scored, withAnswer, estimated, withTurn]

@[simp] theorem flagReason_scored (settings : Settings) (s : Session) (pending : Pending)
    (c : Concept) (q : Question) (transcript : String) (similarity : Option Float) (now : Instant) :
    (s.scored settings pending c q transcript similarity now).flagReason = s.flagReason := by
  simp only [scored, withAnswer, estimated, withTurn]

theorem isSome_flagReason_finish (settings : Settings) (s : Session) (status : Status)
    (termination : Termination) (reason : Option String) (now : Instant) :
    (s.finish settings status termination reason now).1.flagReason.isSome =
      (s.finish settings status termination reason now).1.flagged := by
  simp only [finish]
  cases Flag.ofSession settings.flags s <;> rfl

/-- No session is flagged while it goes on, and whichever is flagged has a reason for it. -/
structure FlaggedAtEnd (s : Session) : Prop where
  going : ¬s.status.isTerminal → s.flagged = false
  reason : s.flagReason.isSome = s.flagged

theorem Opens.flaggedAtEnd (opens : Opens settings s) : s.FlaggedAtEnd := by
  cases opens
  exact ⟨fun _ => rfl, rfl⟩

theorem FlaggedAtEnd.finish (settings : Settings) (s : Session) {status : Status}
    (ended : status.isTerminal) (termination : Termination) (reason : Option String)
    (now : Instant) : (s.finish settings status termination reason now).1.FlaggedAtEnd :=
  ⟨fun going => absurd ended going,
    isSome_flagReason_finish settings s status termination reason now⟩

theorem Step.flaggedAtEnd (sound : s.FlaggedAtEnd) (step : Step settings s deed s') :
    s'.FlaggedAtEnd := by
  cases step with
  | refused => exact sound
  | asked going waiting scored rule choice =>
    subst scored
    exact ⟨by simpa using sound.going, by simpa using sound.reason⟩
  | failed | completed | submitted | abandoned | idled => exact .finish settings _ rfl _ _ _
  | reviewed ended done =>
    subst done
    exact ⟨sound.going, sound.reason⟩

theorem Reached.flaggedAtEnd (reached : Reached settings s) : s.FlaggedAtEnd := by
  obtain ⟨s₀, deeds, opens, course⟩ := reached
  induction course with
  | start => exact opens.flaggedAtEnd
  | next before step ih => exact step.flaggedAtEnd ih

/-- There is one alert about the session if it has ended and is flagged, and otherwise none. -/
structure Announced (s : Session) (alerts : List Alert) : Prop where
  flagged : s.status.isTerminal → s.flagged → ∃ reason, s.flagReason = some reason ∧
    alerts = [⟨s.id, s.assignmentId, s.studentId, s.attempt, reason⟩]
  unflagged : ¬(s.status.isTerminal ∧ s.flagged) → alerts = []

theorem alert?_eq_none (sound : s.FlaggedAtEnd) (going : ¬s.status.isTerminal) :
    s.alert? = none := by
  simp [alert?, sound.going going]

theorem sessionId_of_alert? {a : Alert} (due : s.alert? = some a) : a.sessionId = s.id := by
  unfold alert? at due
  split at due
  · obtain ⟨reason, -, rfl⟩ := Option.map_eq_some_iff.mp due
    rfl
  · cases due

theorem FlaggedAtEnd.announced (sound : s.FlaggedAtEnd) : s.Announced s.alert?.toList := by
  constructor
  · intro ended flagged
    obtain ⟨reason, why⟩ := Option.isSome_iff_exists.mp (sound.reason.trans flagged)
    exact ⟨reason, why, by simp [alert?, flagged, why]⟩
  · intro plain
    by_cases ended : s.status.isTerminal
    · have unflagged : s.flagged = false := by simpa [ended] using plain
      simp [alert?, unflagged]
    · rw [alert?_eq_none sound ended]
      rfl

/-! ## Deeds that end a session -/

/-- Of a session that can come up, it is told by the report whether a deed ends it. -/
theorem Step.ends_iff (proper : s.Proper) (step : Step settings s deed s') :
    deed.report.ends ↔ s.status = .inProgress ∧ s'.status.isTerminal := by
  have known := step.report_ne_unavailable proper
  cases step with
  | refused refusal =>
    rw [Report.ends_of_isRefusal refusal]
    simp +contextual [Status.isTerminal]
  | failed => exact absurd rfl (known s.id)
  | asked going waiting scored rule choice =>
    subst scored
    simp [Report.ends, going, Status.isTerminal]
  | completed going | submitted going | abandoned going | idled going =>
    simp [Report.ends, going, Status.isTerminal]
  | reviewed ended done =>
    have closed : s.status ≠ .inProgress := by
      intro going
      rw [going] at ended
      cases ended
    simp [Report.ends, closed]

variable {task : Task} {now : Instant} {alert : Option Alert} {report : Report}

/-- The deed that ends a session, and no other, hands over the alert about it. -/
theorem alert_of_replace (reached : Reached settings s)
    (body : task.perform settings now s = .replace s' alert report) :
    alert = if s.status = .inProgress then s'.alert? else none := by
  have done := not_isRefusal_of_replace reached body
  cases task with
  | answer transcript similarity =>
    simp only [Task.perform, answer] at body
    split at body
    · cases body
    · rename_i going
      split at body
      · cases body
      · split at body
        · -- The session does not fail, for the question that it waits for is there.
          cases body
          cases done
        · cases body
          rw [if_pos (Decidable.not_not.mp going)]
  | endEarly reason abandoned =>
    simp only [Task.perform, endEarly] at body
    split at body
    · cases body
    · rename_i going
      cases body
      rw [if_pos (Decidable.not_not.mp going)]
  | review reviewer scoreOverride reason =>
    have step := step_of_replace body
    simp only [Task.perform, takeReview] at body
    split at body
    · cases body
    · rename_i outcome
      cases body
      have ended := (reviewed_ok outcome).1
      rw [if_neg]
      intro going
      rw [going] at ended
      cases ended
  | abandonIdle cutoff =>
    simp only [Task.perform, abandonIdle] at body
    split at body
    · rename_i idle
      simp only [isIdleSince, Bool.and_eq_true, decide_eq_true_eq] at idle
      cases body
      rw [if_pos idle.1]
    · cases body

/-- What was due before and what is handed over make what is due afterwards. -/
theorem alerts_of_replace (reached : Reached settings s)
    (body : task.perform settings now s = .replace s' alert report) :
    s.alert?.toList ++ alert.toList = s'.alert?.toList := by
  rw [alert_of_replace reached body]
  split
  · rename_i going
    have unended : ¬s.status.isTerminal := by simpa [reached.proper.isTerminal_iff] using going
    rw [alert?_eq_none reached.flaggedAtEnd unended]
    rfl
  · rename_i closed
    rw [(step_of_replace body).eq_of_ended (reached.proper.isTerminal_iff.mpr closed)]
    exact List.append_nil _

/-- Who hands over an alert has ended the session that it is about. -/
theorem ends_of_alert {a : Alert} (reached : Reached settings s)
    (body : task.perform settings now s = .replace s' (some a) report) :
    report.ends ∧ s.status = .inProgress ∧ s'.status.isTerminal ∧ s'.alert? = some a := by
  have due := alert_of_replace reached body
  have step := step_of_replace body
  split at due
  · rename_i going
    have ended : s'.status.isTerminal := by
      by_contra still
      rw [alert?_eq_none (step.flaggedAtEnd reached.flaggedAtEnd) still] at due
      cases due
    exact ⟨(step.ends_iff reached.proper).mpr ⟨going, ended⟩, going, ended, due.symm⟩
  · cases due

end Session

end OralExam
