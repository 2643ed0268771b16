import OralExam.Rubric.Document
import OralExam.Scoring
import OralExam.Session.Summary

/-! Sessions as documents: what clients see of them. -/

set_option autoImplicit false

namespace OralExam

open Document (ofNat ofOption strings)

def Instant.document (t : Instant) : Document := .string t.text

namespace Speaker

def names : List (String × Speaker) := [("AI", examiner), ("STUDENT", student)]

def name (s : Speaker) : String := nameOf names s

end Speaker

namespace Level

def names : List (String × Level) := [
  ("NOVICE", novice), ("BEGINNER", beginner), ("INTERMEDIATE", intermediate),
  ("ADVANCED", advanced), ("EXPERT", expert)]

def name (l : Level) : String := nameOf names l

def document (l : Level) : Document := .string l.name

end Level

namespace Termination

def names : List (String × Termination) := [
  ("max_questions", maxQuestions), ("precision_reached", precisionReached),
  ("content_covered", contentCovered), ("item_pool_exhausted", itemPoolExhausted),
  ("student_submitted", studentSubmitted), ("abandoned", abandoned), ("error", error)]

def name (t : Termination) : String := nameOf names t

end Termination

def Turn.document (t : Turn) : Document := .object [
  ("turnNumber", ofNat t.number),
  ("speaker", .string t.speaker.name),
  ("text", .string t.text),
  ("templateId", ofOption .string t.questionId),
  ("timestamp", t.timestamp.document)]

def Answer.document (a : Answer) : Document := .object [
  ("turn_number", ofNat a.turnNumber),
  ("template_id", .string a.questionId),
  ("concept_id", .string a.conceptId),
  ("discrimination", .float a.discrimination),
  ("difficulty", .float a.difficulty),
  ("correctness", .float a.correctness),
  ("misconceptions", strings a.misconceptions),
  ("latency_secs", .float a.latencySeconds),
  ("expected_response_secs", ofNat a.expectedSeconds)]

def Standing.document (s : Standing Float) : Document := .object [
  ("conceptId", .string s.conceptId),
  ("mastery", .float s.mastery),
  ("questionsAnswered", ofNat s.questionsAnswered),
  ("correctAnswers", ofNat s.correctAnswers),
  ("misconceptions", strings s.misconceptions),
  ("strengths", strings s.strengths),
  ("weaknesses", strings s.weaknesses)]

/-- The standings in the order of the concepts' identifiers. -/
def Mastery.sorted {α : Type} (m : Mastery α) : List (Standing α) :=
  (Sorting.sort (fun a b => a.1 < b.1) m.entries).map Prod.snd

def Share.document (s : Share) : Document := .object [
  ("conceptId", .string s.conceptId),
  ("conceptName", .string s.conceptName),
  ("weight", ofNat s.weight),
  ("mastery", .float s.mastery),
  ("questionsAnswered", ofNat s.questionsAnswered)]

def Verdict.document (v : Verdict) : Document := .object [
  ("overallScore", .float v.overallScore),
  ("competencyLevel", v.level.document),
  ("passed", .bool v.passed),
  ("theta", .float v.theta),
  ("standardError", .float v.standardError),
  ("confidence", .float v.confidence),
  ("breakdown", .array (v.breakdown.map Share.document)),
  ("strengths", strings v.strengths),
  ("improvements", strings v.improvements),
  ("computedAt", v.computedAt.document)]

def Review.document (r : Review) : Document := .object [
  ("reviewed", .bool r.reviewed),
  ("reviewedBy", ofOption .string r.reviewedBy),
  ("reviewedAt", ofOption Instant.document r.reviewedAt),
  ("scoreOverride", ofOption .float r.scoreOverride),
  ("overrideReason", ofOption .string r.overrideReason)]

def Session.document (s : Session) : Document := .object [
  ("id", .string s.id),
  ("assignmentId", .string s.assignmentId),
  ("studentId", .string s.studentId),
  ("attemptNumber", ofNat s.attempt),
  ("status", .string s.status.name),
  ("rubricId", .string s.rubric.id),
  ("startedAt", s.startedAt.document),
  ("completedAt", ofOption Instant.document s.completedAt),
  ("lastActivityAt", s.lastActivityAt.document),
  ("timeSpentSecs", .integer s.secondsSpent),
  ("theta", .float s.theta),
  ("standardError", .float s.standardError),
  ("questionsAnswered", ofNat s.questionsAnswered),
  ("overallScore", ofOption .float s.overallScore),
  ("competencyLevel", ofOption Level.document s.level),
  ("passed", ofOption .bool s.passed),
  ("flagged", .bool s.flagged),
  ("flagReason", ofOption .string s.flagReason),
  ("terminationReason", ofOption (.string ·.name) s.termination),
  ("endReason", ofOption .string s.endReason),
  ("review", s.review.document),
  ("turns", .array (s.turns.map Turn.document)),
  ("mastery", .array (s.mastery.sorted.map Standing.document)),
  ("assessment", ofOption Verdict.document s.verdict)]

def Summary.document (s : Summary Float) : Document := .object [
  ("id", .string s.id),
  ("assignmentId", .string s.assignmentId),
  ("studentId", .string s.studentId),
  ("attemptNumber", ofNat s.attempt),
  ("status", .string s.status.name),
  ("startedAt", s.startedAt.document),
  ("completedAt", ofOption Instant.document s.completedAt),
  ("lastActivityAt", s.lastActivityAt.document),
  ("questionsAnswered", ofNat s.questionsAnswered),
  ("theta", .float s.theta),
  ("standardError", .float s.standardError),
  ("overallScore", ofOption .float s.overallScore),
  ("competencyLevel", ofOption Level.document s.level),
  ("passed", ofOption .bool s.passed),
  ("flagged", .bool s.flagged),
  ("flagReason", ofOption .string s.flagReason),
  ("reviewed", .bool s.reviewed),
  ("scoreOverride", ofOption .float s.scoreOverride)]

def ShownMisconception.document (m : ShownMisconception) : Document := .object [
  ("id", .string m.id),
  ("severity", .string m.severity.name),
  ("correction", .string m.correction)]

end OralExam
