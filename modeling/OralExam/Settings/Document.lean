import OralExam.Document.Toml
import OralExam.Rubric.Document
import OralExam.Settings.Repair

/-! Settings as documents. Every part may be left out, and then is as usual. -/

set_option autoImplicit false

namespace OralExam

open RecordField (required defaulted)

namespace ResponseModel

def names : List (String × ResponseModel) := [("soft", soft), ("dichotomous", dichotomous)]

end ResponseModel

namespace Trigger

def names : List (String × Trigger) :=
  [("manual", manual), ("on_submission", onSubmission), ("on_deadline", onDeadline)]

def name (t : Trigger) : String := nameOf names t

end Trigger

namespace ExamPolicy

def decode : Decoder ExamPolicy :=
  let usual : ExamPolicy := {}
  Fields.decode <| Fields.done ExamPolicy.mk
    |>.and (defaulted "max_questions" .word32 usual.maxQuestions)
    |>.and (defaulted "min_questions" .word32 usual.minQuestions)
    |>.and (defaulted "precision_threshold" .float usual.precisionThreshold)
    |>.and (defaulted "prior_standard_error" .float usual.priorStandardError)
    |>.and (defaulted "theta_bound" .float usual.thetaBound)
    |>.and (defaulted "response_model" (.choice ResponseModel.names) usual.responseModel)
    |>.and (defaulted "inactivity_timeout_mins" .word64 usual.inactivityTimeoutMinutes)
    |>.and (defaulted "sweep_interval_secs" .word64 usual.sweepIntervalSeconds)

end ExamPolicy

namespace ScoringPolicy

def decode : Decoder (ScoringPolicy Float) :=
  let usual := ScoringPolicy.standard
  Fields.decode <| Fields.done ScoringPolicy.mk
    |>.and (defaulted "pass_threshold" .float usual.passThreshold)
    |>.and (defaulted "misconception_penalty" .float usual.misconceptionPenalty)
    |>.and (defaulted "semantic_weight" .float usual.semanticWeight)
    |>.and (defaulted "strength_threshold" .float usual.strengthThreshold)
    |>.and (defaulted "weakness_threshold" .float usual.weaknessThreshold)
    |>.and (defaulted "max_notes" .word64 usual.maxNotes)

end ScoringPolicy

namespace GradingPolicy

def decode : Decoder GradingPolicy :=
  let usual : GradingPolicy := {}
  Fields.decode <| Fields.done GradingPolicy.mk
    |>.and (defaulted "passing_percentage" .float usual.passingPercentage)
    |>.and (defaulted "competency_bands" (.list .float) usual.bands)

end GradingPolicy

namespace FlagPolicy

def decode : Decoder FlagPolicy :=
  let usual : FlagPolicy := {}
  Fields.decode <| Fields.done FlagPolicy.mk
    |>.and (defaulted "low_confidence_se" .float usual.lowConfidenceError)
    |>.and (defaulted "high_severity_limit" .word64 usual.highSeverityLimit)
    |>.and (defaulted "contradiction_delta" .float usual.contradictionDelta)
    |>.and (defaulted "slow_factor" .float usual.slowFactor)
    |>.and (defaulted "fast_factor" .float usual.fastFactor)

end FlagPolicy

namespace Assignment

def decode : Decoder Assignment :=
  Fields.decode <| Fields.done Assignment.mk
    |>.and (required "id" .string)
    |>.and (defaulted "enabled" .bool true)
    |>.and (defaulted "trigger" (.choice Trigger.names) .manual)

def document (a : Assignment) : Document := .object [
  ("id", .string a.id),
  ("enabled", .bool a.enabled),
  ("trigger", .string a.trigger.name)]

/-- The assignment as clients see it. -/
def view (a : Assignment) : Document := .object [
  ("assignmentId", .string a.id),
  ("enabled", .bool a.enabled),
  ("trigger", .string a.trigger.name)]

end Assignment

namespace Settings

def decode : Decoder Settings :=
  Fields.decode <| Fields.done Settings.mk
    |>.and (defaulted "engine" ExamPolicy.decode {})
    |>.and (defaulted "scoring" ScoringPolicy.decode .standard)
    |>.and (defaulted "outcome" GradingPolicy.decode {})
    |>.and (defaulted "review" FlagPolicy.decode {})
    |>.and (defaulted "assignments" (.list Assignment.decode) [])
    |>.and (defaulted "rubrics" (.list Rubric.decode) [])

/-- Settings written in TOML, as they stand there. -/
def readToml (text : String) : Option Settings := do
  let d ← Toml.read text
  (decode .toml d).toOption

/-- Settings written in TOML, repaired. -/
def ofToml? (text : String) : Option Settings := (readToml text).map repaired

end Settings

end OralExam
