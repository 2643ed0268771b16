import OralExam.Proofs.Arithmetic.Distance
import OralExam.Proofs.Session.Replay

/-! Answers are carried through to their estimates.

An estimate is clamped to the bound on abilities, and the program breaks off there if the bound is below
zero or no number: the answer is in the log by then, and nothing has been made of it. Here the estimates
are taken with that check, and found to go through for every other bound. So what is said of the course
of sessions is said for bounds that are numbers and not below zero.
-/

set_option autoImplicit false

namespace OralExam.Session

open Ability Double

variable {settings : Settings} {s : Session}

/-- The estimates after the answers as in `estimateAfter`, and nothing if one of them breaks off. -/
def estimateAfter? (settings : Settings) (answers : List Answer) : Option (Estimate Float) :=
  (List.range answers.length).foldlM
    (fun e k => settings.estimator.update? e (itemsOf settings (answers.take (k + 1))))
    settings.estimator.initial

/-- No answer broke off, and what their estimates come to is what the session has. -/
def CarriedThrough (settings : Settings) (s : Session) : Prop :=
  estimateAfter? settings s.answers = some ⟨s.theta, s.standardError⟩

theorem estimateAfter?_eq_some (bound : 0 ≤ settings.exam.thetaBound) (answers : List Answer) :
    estimateAfter? settings answers = some (estimateAfter settings answers) := by
  have ordered : -settings.estimator.bound ≤ settings.estimator.bound := neg_le_iff_nonneg.mpr bound
  simp only [estimateAfter?, Estimator.update?_eq, if_pos ordered]
  exact List.foldlM_pure

/-- With any other bound the first answer breaks off. -/
theorem estimateAfter?_eq_none (bound : ¬0 ≤ settings.exam.thetaBound) (a : Answer)
    (answers : List Answer) : estimateAfter? settings (a :: answers) = none := by
  have unordered : ¬-settings.estimator.bound ≤ settings.estimator.bound :=
    fun ordered => bound (neg_le_iff_nonneg.mp ordered)
  simp only [estimateAfter?, Estimator.update?_eq, if_neg unordered, List.length_cons,
    List.range_succ_eq_map, List.foldlM_cons]
  rfl

theorem Reached.carriedThrough (reached : Reached settings s)
    (bound : 0 ≤ settings.exam.thetaBound) : s.CarriedThrough settings := by
  rw [CarriedThrough, estimateAfter?_eq_some bound, ← reached.replayed.estimate]

end OralExam.Session
