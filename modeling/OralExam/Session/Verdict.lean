import OralExam.Session.Basic

/-! The verdict on a session.

Concepts that no question reached do not count in the score; the confidence says how much of the
rubric was reached and how precisely the ability is known.
-/

set_option autoImplicit false

namespace OralExam

open Scalar

/-- The mean mastery of the concepts reached, by weight; zero if there are none. -/
def overallScore {α : Type} [Scalar α] (rubric : Rubric) (mastery : Mastery α) : α :=
  let (weighted, total) := rubric.concepts.foldl (fun (weighted, total) c =>
    match mastery.find? c.id with
    | some standing =>
      if standing.questionsAnswered = 0 then (weighted, total)
      else (weighted + ofNat c.weight * standing.mastery, total + ofNat c.weight)
    | none => (weighted, total)) ((zero, zero) : α × α)
  if zero < total then weighted / total else zero

namespace Level

/-- The levels that have an upper bound. -/
def bounded : List Level := [novice, beginner, intermediate, advanced]

/-- The first level whose bound lies above the ability. -/
def ofTheta (theta : Float) (bands : List Float) : Level :=
  match (bounded.zip bands).find? fun (_, upper) => theta < upper with
  | some (level, _) => level
  | none => expert

end Level

namespace Verdict

/-- The rubric's own bounds if they are valid, else the usual ones. -/
def bandsFor (grading : GradingPolicy) (rubric : Rubric) : List Float :=
  match rubric.bands with
  | some bands => if bandsAreValid bands then bands else grading.bands
  | none => grading.bands

/-- A score, between zero and one, that passes. -/
def passes (grading : GradingPolicy) (score : Float) : Bool :=
  grading.passingPercentage ≤ score * 100.0

/-- The concepts of the rubric that have a standing, in the order shown. -/
def touched (s : Session) : List (Concept × Standing Float) :=
  s.rubric.orderedConcepts.filterMap fun c => (s.mastery.find? c.id).map fun m => (c, m)

def share (c : Concept) (m : Standing Float) : Share :=
  ⟨c.id, c.name, c.weight, m.mastery, m.questionsAnswered⟩

/-- Corrections of the misconceptions that showed, each once and none that is empty. -/
def addCorrections (c : Concept) (m : Standing Float) (known : List String) : List String :=
  m.misconceptions.foldl (fun known id =>
    match c.misconception? id with
    | some mc =>
      if mc.correction.isEmpty || known.contains mc.correction then known
      else known ++ [mc.correction]
    | none => known) known

def isStrength (scoring : ScoringPolicy Float) (m : Standing Float) : Bool :=
  scoring.strengthThreshold ≤ m.mastery

def strongConcepts (scoring : ScoringPolicy Float) (touched : List (Concept × Standing Float)) :
    List String :=
  (touched.filter fun (_, m) => isStrength scoring m).map fun (c, _) => c.name

/-- Concepts below the pass mark, each followed by the corrections that belong to it. -/
def advice (scoring : ScoringPolicy Float) (touched : List (Concept × Standing Float)) :
    List String :=
  touched.foldl (fun known (c, m) =>
    let named :=
      if !isStrength scoring m && m.mastery < scoring.passThreshold then known ++ [c.name]
      else known
    addCorrections c m named) []

/-- The share of the askable concepts that were reached. -/
def coverage (s : Session) : Float :=
  let selectable := s.rubric.selectableConcepts.length
  if selectable = 0 then 0.0
  else atMost 1.0 (ofNat (touched s).length / ofNat selectable)

def ofSession (grading : GradingPolicy) (scoring : ScoringPolicy Float) (s : Session)
    (now : Instant) : Verdict :=
  let overall := OralExam.overallScore s.rubric s.mastery
  let touched := touched s
  { overallScore := overall
    level := Level.ofTheta s.theta (bandsFor grading s.rubric)
    passed := passes grading overall
    theta := s.theta
    standardError := s.standardError
    confidence := coverage s / (1.0 + s.standardError * s.standardError)
    breakdown := touched.map fun (c, m) => share c m
    strengths := strongConcepts scoring touched
    improvements := advice scoring touched
    computedAt := now }

end Verdict

end OralExam
