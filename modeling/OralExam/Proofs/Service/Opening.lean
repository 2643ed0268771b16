import OralExam.Proofs.Service.Interleaving

/-! How a session is put in, and under which identifier.

A start that is refused changes nothing. One that succeeds puts in the next attempt of a pair whose
slot is free, with its first question asked.
-/

set_option autoImplicit false

namespace OralExam

theorem Text.padded_injective (width : Nat) : Function.Injective (Text.padded width) := by
  intro m n same
  have digits (k : Nat) : Nat.ofDigitChars 10 (Text.padded width k).toList 0 = k := by
    simp [Text.padded, Nat.ofDigitChars_append]
  rw [← digits m, same, digits n]

theorem Service.sessionId_injective : Function.Injective Service.sessionId := by
  intro m n same
  have tails := congrArg String.toList same
  simp only [sessionId, String.toList_append, List.append_cancel_left_eq, String.toList_inj] at tails
  exact Text.padded_injective 4 tails

namespace Session

/-- A question of the rubric, once asked, is the one that waits. -/
theorem pendingQuestion?_ask {s : Session} {c : Concept} {q : Question} (now : Instant)
    (concept : c ∈ s.rubric.concepts) (question : q ∈ c.questions) :
    ∃ pending c' q', (s.ask c q now).pendingQuestion? = some (pending, c', q') := by
  have found := Rubric.isSome_question? concept question
  obtain ⟨⟨c', q'⟩, found⟩ := Option.isSome_iff_exists.mp found
  exact ⟨_, c', q', pendingQuestion?_eq_some_iff.mpr ⟨pending_ask s c q now, found⟩⟩

end Session

namespace Service

variable {v : Service} {assignment : Assignment} {studentId : String} {rubric : Rubric}
  {now : Instant}

/-- The session that a start puts in. -/
def firstAsked (v : Service) (assignment : Assignment) (studentId : String) (rubric : Rubric)
    (now : Instant) (chosen : Candidate Float) : Session :=
  (Session.blank v.nextId studentId
    ((v.registry.slot (studentId, assignment.id)).attempts + 1) assignment rubric
    v.settings.estimator.initial now).ask chosen.concept chosen.question now

/-- Publishing does not touch sessions. -/
@[simp] theorem registry_publish (v : Service) (r : Rubric) :
    (v.publish r).2.registry = v.registry := by
  unfold publish
  split <;> rfl

/-- Where the slot of the pair is free and there is a question to ask, the session is put in. -/
theorem openSession_of_choice {chosen : Candidate Float}
    (vacant : (v.registry.slot (studentId, assignment.id)).active = none)
    (choice : rubric.selectNext v.settings.estimator.initial.theta [] = some chosen)
    (now : Instant) :
    ∃ pending c q,
      (v.firstAsked assignment studentId rubric now chosen).pendingQuestion? =
        some (pending, c, q) ∧
      v.openSession assignment studentId rubric now =
        (.ok ⟨v.firstAsked assignment studentId rubric now chosen, .of 1 c q⟩,
          { v with registry :=
              v.registry.enter (v.firstAsked assignment studentId rubric now chosen) }) := by
  obtain ⟨concept, question, -, -⟩ := Rubric.selectNext_spec choice
  obtain ⟨pending, c, q, waiting⟩ := Session.pendingQuestion?_ask
    (s := Session.blank v.nextId studentId
      ((v.registry.slot (studentId, assignment.id)).attempts + 1) assignment rubric
      v.settings.estimator.initial now) now concept question
  refine ⟨pending, c, q, waiting, ?_⟩
  have built (id : String) (attempt : Nat) : (Session.blank id studentId attempt assignment
      rubric v.settings.estimator.initial now).askNext now =
      some ((Session.blank id studentId attempt assignment rubric v.settings.estimator.initial
        now).ask chosen.concept chosen.question now,
        .of 1 chosen.concept chosen.question) := by
    rw [Session.askNext, Option.map_eq_some_iff]
    exact ⟨chosen, choice, rfl⟩
  simp only [openSession]
  rw [Registry.create_of_vacant (s := v.firstAsked assignment studentId rubric now chosen)
    (b := .of 1 chosen.concept chosen.question) _ vacant
    (by simp only [built, firstAsked]) rfl rfl]
  simp only [firstAsked, waiting]
  rfl

/-- A start is refused and changes nothing, or admits the next attempt of a free pair. -/
theorem openSession_cases (v : Service) (assignment : Assignment) (studentId : String)
    (rubric : Rubric) (now : Instant) :
    (∃ e, e ≠ .noFirstQuestion ∧
      v.openSession assignment studentId rubric now = (.error e, v)) ∨
    ∃ chosen pending c q,
      (v.registry.slot (studentId, assignment.id)).active = none ∧
      rubric.selectNext v.settings.estimator.initial.theta [] = some chosen ∧
      (v.firstAsked assignment studentId rubric now chosen).pendingQuestion? =
        some (pending, c, q) ∧
      v.openSession assignment studentId rubric now =
        (.ok ⟨v.firstAsked assignment studentId rubric now chosen, .of 1 c q⟩,
          { v with registry :=
              v.registry.enter (v.firstAsked assignment studentId rubric now chosen) }) := by
  cases vacant : (v.registry.slot (studentId, assignment.id)).active with
  | some active =>
    refine .inl ⟨.alreadyInProgress studentId active assignment.id, nofun, ?_⟩
    simp only [openSession, Registry.create_of_active _ _ vacant]
  | none =>
    cases choice : rubric.selectNext v.settings.estimator.initial.theta [] with
    | none =>
      refine .inl ⟨.nothingToAsk rubric.id, nofun, ?_⟩
      have refused (id : String) (attempt : Nat) : (Session.blank id studentId attempt assignment
          rubric v.settings.estimator.initial now).askNext now = none := by
        rw [Session.askNext, Option.map_eq_none_iff]
        exact choice
      simp only [openSession]
      rw [Registry.create_of_refused (e := .nothingToAsk rubric.id) _ vacant
        (by simp only [refused])]
    | some chosen =>
      obtain ⟨pending, c, q, waiting, opened⟩ := openSession_of_choice vacant choice now
      exact .inr ⟨chosen, pending, c, q, rfl, rfl, waiting, opened⟩

end Service

end OralExam
