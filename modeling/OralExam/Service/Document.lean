import OralExam.Dashboard
import OralExam.Session.Conduct
import OralExam.Session.Document
import OralExam.Settings.Document

/-! The service's answers as documents. -/

set_option autoImplicit false

namespace OralExam

open Document (ofNat ofOption strings)

def Failure.document (f : Failure) : Document := .object [
  ("error", .string f.kind.code),
  ("message", .string f.message)]

def AskedQuestion.document (q : AskedQuestion) : Document := .object [
  ("questionNumber", ofNat q.number),
  ("templateId", .string q.questionId),
  ("conceptId", .string q.conceptId),
  ("conceptName", .string q.conceptName),
  ("text", .string q.text),
  ("codeSnippet", ofOption .string q.codeSnippet),
  ("tier", .string q.tier.name)]

def Opening.members (o : Opening) : List (String × Document) := [
  ("session", o.session.document),
  ("question", o.question.document)]

/-- What the student is told about an answer. -/
def Judgement.feedback (j : Judgement Float) : Document := .object [
  ("correctness", .float j.correctness),
  ("matchedKeywords", strings j.matched),
  ("missingKeywords", strings j.missing),
  ("misconceptions", .array (j.misconceptions.map ShownMisconception.document))]

def NextStep.question? : NextStep → Option AskedQuestion
  | .question q => some q
  | .finished _ => none

def NextStep.verdict? : NextStep → Option Verdict
  | .question _ => none
  | .finished v => some v

def Outcome.members (o : Outcome) : List (String × Document) := [
  ("sessionId", .string o.session.id),
  ("status", .string o.session.status.name),
  ("theta", .float o.session.theta),
  ("standardError", .float o.session.standardError),
  ("feedback", o.judgement.feedback),
  ("nextQuestion", ofOption AskedQuestion.document o.next.question?),
  ("assessment", ofOption Verdict.document o.next.verdict?)]

def Listing.Page.document (p : Listing.Page Float) : Document := .object [
  ("items", .array (p.items.map Summary.document)),
  ("page", ofNat p.page),
  ("size", ofNat p.size),
  ("totalElements", ofNat p.totalElements),
  ("totalPages", ofNat p.totalPages)]

def StatusOverview.document (o : StatusOverview) : Document := .object [
  ("totalStudents", ofOption ofNat o.totalStudents),
  ("notStarted", ofOption ofNat o.notStarted),
  ("inProgress", ofNat o.inProgress),
  ("completed", ofNat o.completed),
  ("submitted", ofNat o.submitted),
  ("failed", ofNat o.failed),
  ("abandoned", ofNat o.abandoned),
  ("totalSessions", ofNat o.totalSessions)]

def QuickStats.document (q : QuickStats Float) : Document := .object [
  ("studentsAttempted", ofNat q.studentsAttempted),
  ("finishedSessions", ofNat q.finishedSessions),
  ("averageScore", ofOption .float q.averageScore),
  ("passRate", ofOption .float q.passRate),
  ("averageTheta", ofOption .float q.averageTheta),
  ("flagged", ofNat q.flagged),
  ("pendingReview", ofNat q.pendingReview),
  ("participationRate", ofOption .float q.participationRate)]

def ConfigurationStatus.document (c : ConfigurationStatus) : Document := .object [
  ("enabled", .bool c.enabled),
  ("trigger", .string c.trigger.name),
  ("activeRubricId", ofOption .string c.activeRubricId),
  ("activeRubricName", ofOption .string c.activeRubricName),
  ("conceptCount", ofNat c.conceptCount),
  ("questionCount", ofNat c.questionCount)]

def Activity.document (a : Activity Float) : Document := .object [
  ("sessionId", .string a.sessionId),
  ("studentId", .string a.studentId),
  ("attemptNumber", ofNat a.attempt),
  ("status", .string a.status.name),
  ("at", a.timestamp.document),
  ("overallScore", ofOption .float a.overallScore),
  ("flagged", .bool a.flagged)]

def Dashboard.document (d : Dashboard Float) : Document := .object [
  ("assignmentId", .string d.assignmentId),
  ("statusOverview", d.statusOverview.document),
  ("quickStats", d.quickStats.document),
  ("configuration", d.configuration.document),
  ("recentActivity", .array (d.recentActivity.map Activity.document))]

/-- What the author of a rubric is told when it is published. -/
def Rubric.receipt (r : Rubric) : Document := .object [
  ("rubricId", .string r.id),
  ("assignmentId", .string r.assignmentId),
  ("status", .string r.status.name),
  ("selectableQuestions", ofNat r.selectableQuestions.length)]

end OralExam
