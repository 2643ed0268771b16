import OralExam.Proofs.Rubric.Publishing
import OralExam.Proofs.Service.Exclusivity

/-! When a session may start, and what a start puts in.

A start needs a student and an assignment that are named, a pair without a session that goes on, an
assignment that is enabled, and an active rubric of it with a question that can be asked. It is refused for
the first of these that is missing. What it looks at are slots and the rubrics in the bank; that a slot is
taken just while its pair has a session, and that the bank has one active rubric at most for each
assignment, holds in every course of events.
-/

set_option autoImplicit false

namespace OralExam

/-! ## Slots -/

namespace Registry

/-- A slot names a session of its pair. -/
def Placed (r : Registry) : Prop :=
  ∀ pair id, (r.slot pair).active = some id → ∃ s, r.live? id = some s ∧ s.pair = pair

/-- A session of the pair has not ended, or the worker who ended it has yet to free the slot. -/
def Engaged (r : Registry) (pair : String × String) : Prop :=
  ∃ id, r.IsOpen pair id ∨
    (∃ s, r.cells.find? id = some ⟨s, true⟩ ∧ s.pair = pair) ∧ (r.slot pair).active = some id

theorem Placed.change {settings : Settings} {r r' : Registry} {log : List (String × Deed)}
    (placed : r.Placed) (change : Change settings r log r') : r'.Placed := by
  intro pair id named
  cases change with
  | kept | seen | written => exact placed pair id named
  | @entered s opens next fresh vacant attempt =>
    rw [slot_enter] at named
    split at named
    · rename_i own
      cases named
      exact ⟨s, by rw [live?_enter, if_pos rfl], own.symm⟩
    · -- A session that was named before is not the one that comes in.
      obtain ⟨t, live, same⟩ := placed pair id named
      have apart : id ≠ s.id := by
        rintro rfl
        rw [live?_of_fresh fresh] at live
        cases live
      exact ⟨t, by rw [live?_enter, if_neg apart, live], same⟩
  | @held s held found held' =>
    obtain ⟨t, live, same⟩ := placed pair id named
    exact ⟨t, by rw [live?_setCell_of_find? found, live], same⟩
  | @changed s s' held deed found step =>
    obtain ⟨t, live, same⟩ := placed pair id named
    by_cases own : id = s.id
    · subst own
      rw [live?_of_find? found] at live
      cases live
      refine ⟨s', by rw [live?_setCell, if_pos rfl], ?_⟩
      exact (congrArg Session.Origin.pair step.origin_eq).trans same
    · exact ⟨t, by rw [live?_setCell, if_neg own, live], same⟩
  | @released s live written =>
    rw [slot_releaseSlot] at named
    split at named
    · cases named
    · obtain ⟨t, live, same⟩ := placed pair id named
      exact ⟨t, by rw [live?_releaseSlot, live], same⟩

end Registry

namespace World

variable {settings : Settings} {w : World} {pair : String × String}

theorem Reachable.placed (reachable : Reachable settings w) : w.registry.Placed := by
  refine reachable.registry_induction (P := fun r _ => r.Placed) ?_ ?_
  · intro pair id named
    cases named
  · exact fun r history log r' placed change => placed.change change

theorem Reachable.engaged_iff (reachable : Reachable settings w) :
    w.registry.Engaged pair ↔ (w.registry.slot pair).active ≠ none := by
  constructor
  · rintro ⟨id, isOpen | ⟨-, named⟩⟩ vacant
    · rw [reachable.exclusive.named pair id isOpen] at vacant
      cases vacant
    · rw [named] at vacant
      cases vacant
  · intro taken
    obtain ⟨id, named⟩ := Option.ne_none_iff_exists'.mp taken
    obtain ⟨s, live, rfl⟩ := reachable.placed pair id named
    refine ⟨id, ?_⟩
    by_cases ended : s.status.isTerminal
    · -- Nobody keeps the slot of a session that has ended but the worker who ended it.
      obtain ⟨held, found⟩ := Registry.live?_eq_some_iff.mp live
      cases held with
      | false => exact absurd named ((reachable.orderly.settled id s found).slot s live ended)
      | true => exact .inr ⟨⟨s, found, rfl⟩, named⟩
    · exact .inl ⟨s, .inl live, rfl, ended⟩

theorem engaged_iff_of_idle (idle : w.service.Idle) :
    w.registry.Engaged pair ↔ ∃ id, w.registry.IsOpen pair id := by
  constructor
  · rintro ⟨id, isOpen | ⟨⟨s, found, -⟩, -⟩⟩
    · exact ⟨id, isOpen⟩
    · cases idle id _ found
  · rintro ⟨id, isOpen⟩
    exact ⟨id, .inl isOpen⟩

/-- Rubrics come into the bank by publications only. -/
theorem Reachable.bank_sound (reachable : Reachable settings w) : w.service.bank.Sound := by
  refine reachable.induction (P := fun w => w.service.bank.Sound) ?_ ?_ ?_
  · exact RubricBank.ofRubrics_sound settings.rubrics
  · exact fun w c _ sound _ => sound
  · intro w number c now progress _ sound _ move
    cases move with
    | @opened assignment studentId rubric =>
      rcases w.service.openSession_cases assignment studentId rubric now with
        ⟨e, -, refused⟩ | ⟨chosen, pending, c, q, -, -, -, opened⟩
      · rwa [refused]
      · rwa [opened]
    | @published r =>
      simp only [Service.publish]
      cases outcome : w.service.bank.publish r with
      | error e => exact sound
      | ok bank => exact sound.publish outcome
    | _ => exact sound

end World

/-! ## Starts -/

namespace Service

variable {v : Service} {assignment : Assignment} {studentId : String} {rubric : Rubric}
  {now : Instant}

/-- Neither the assignment nor the student is nameless. -/
def AreNamed (assignment : Assignment) (studentId : String) : Prop :=
  ¬Text.isBlank assignment.id ∧ ¬Text.isBlank studentId

/-- The rubric is one from which sessions of the assignment can start. -/
structure Serves (v : Service) (assignment : Assignment) (rubric : Rubric) : Prop where
  known : rubric ∈ v.bank.values
  active : rubric.isActiveFor assignment.id
  askable : ∃ q ∈ rubric.questions, q.isSelectable

def CanHold (v : Service) (assignment : Assignment) : Prop :=
  assignment.enabled ∧ ∃ rubric, v.Serves assignment rubric

theorem serves_iff (sound : v.bank.Sound) : v.Serves assignment rubric ↔
    v.bank.activeFor assignment.id = some rubric ∧ rubric.selectableQuestions.isEmpty = false := by
  have askable : (∃ q ∈ rubric.questions, q.isSelectable) ↔
      rubric.selectableQuestions.isEmpty = false := by
    simp [Rubric.selectableQuestions]
  have active : v.bank.activeFor assignment.id = some rubric ↔
      rubric ∈ v.bank.values ∧ rubric.isActiveFor assignment.id :=
    find?_eq_some_iff_of_unique (sound.active_unique assignment.id)
  rw [active, ← askable]
  constructor
  · exact fun serves => ⟨⟨serves.known, serves.active⟩, serves.askable⟩
  · rintro ⟨⟨known, active⟩, askable⟩
    exact ⟨known, active, askable⟩

/-- The assignment can be held from the rubric that is found for it, or the kind of failure tells that
it cannot. -/
theorem startable_cases (sound : v.bank.Sound) (assignment : Assignment) :
    (∃ rubric, assignment.enabled ∧ v.Serves assignment rubric ∧
      v.startable assignment = .ok rubric) ∨
    ¬v.CanHold assignment ∧ ∃ e, e.kind = .notConfigured ∧ v.startable assignment = .error e := by
  unfold startable
  cases enabled : assignment.enabled with
  | false =>
    refine .inr ⟨fun can => ?_, .disabled assignment.id, rfl, rfl⟩
    rw [CanHold, enabled] at can
    cases can.1
  | true =>
    cases active : v.bank.activeFor assignment.id with
    | none =>
      refine .inr ⟨?_, .noActiveRubric assignment.id, rfl, rfl⟩
      rintro ⟨-, rubric, serves⟩
      have found := ((serves_iff sound).mp serves).1
      rw [active] at found
      cases found
    | some rubric =>
      cases empty : rubric.selectableQuestions.isEmpty with
      | true =>
        refine .inr ⟨?_, .nothingToAsk rubric.id, rfl, by simp [empty]⟩
        -- No other rubric is active for the assignment.
        rintro ⟨-, other, serves⟩
        obtain ⟨found, askable⟩ := (serves_iff sound).mp serves
        rw [active] at found
        cases found
        rw [empty] at askable
        cases askable
      | false =>
        exact .inl ⟨rubric, rfl, (serves_iff sound).mpr ⟨active, empty⟩, by simp [empty]⟩

/-- All that can come of a start. -/
inductive Starts (v : Service) (assignment : Assignment) (studentId : String) (now : Instant) :
    Except Failure Opening × Service → Prop where
  | nameless (nameless : ¬AreNamed assignment studentId) :
    Starts v assignment studentId now (.error .blankStartId, v)
  | taken (named : AreNamed assignment studentId) {id : String}
      (taken : (v.registry.slot (studentId, assignment.id)).active = some id) :
    Starts v assignment studentId now (.error (.alreadyInProgress studentId id assignment.id), v)
  | unfit (named : AreNamed assignment studentId)
      (vacant : (v.registry.slot (studentId, assignment.id)).active = none)
      (unfit : ¬v.CanHold assignment) {e : Failure} (kind : e.kind = .notConfigured) :
    Starts v assignment studentId now (.error e, v)
  | opened (named : AreNamed assignment studentId)
      (vacant : (v.registry.slot (studentId, assignment.id)).active = none)
      (enabled : assignment.enabled) {rubric : Rubric} (serves : v.Serves assignment rubric)
      {chosen : Candidate Float} (choice : rubric.selectNext 0 [] = some chosen)
      {pending : Pending}
      (waiting : (v.firstAsked assignment studentId rubric now chosen).pendingQuestion? =
        some (pending, chosen.concept, chosen.question)) :
    Starts v assignment studentId now
      (.ok ⟨v.firstAsked assignment studentId rubric now chosen,
        .of 1 chosen.concept chosen.question⟩,
        { v with registry :=
            v.registry.enter (v.firstAsked assignment studentId rubric now chosen) })

theorem admission_of_not_named (nameless : ¬AreNamed assignment studentId) :
    v.admission assignment studentId = .error .blankStartId := by
  refine if_pos ?_
  rw [Bool.or_eq_true]
  by_contra named
  exact nameless (not_or.mp named)

theorem admission_of_named (named : AreNamed assignment studentId) :
    v.admission assignment studentId =
      match (v.registry.slot (studentId, assignment.id)).active with
      | some id => .error (.alreadyInProgress studentId id assignment.id)
      | none => v.startable assignment := by
  refine if_neg ?_
  rw [Bool.or_eq_true]
  exact not_or.mpr named

/-- Of a checked rubric that has a question to ask, one is chosen, and found when it waits. -/
theorem exists_waiting (sound : v.bank.Sound) (serves : v.Serves assignment rubric)
    (studentId : String) (now : Instant) :
    ∃ chosen pending, rubric.selectNext 0 [] = some chosen ∧
      (v.firstAsked assignment studentId rubric now chosen).pendingQuestion? =
        some (pending, chosen.concept, chosen.question) := by
  have checked := sound.checked rubric.id rubric (sound.mem_values_iff.mp serves.known)
  cases choice : rubric.selectNext 0 [] with
  | none =>
    obtain ⟨q, member, selectable⟩ := serves.askable
    have asked := Rubric.selectNext_eq_none_iff.mp choice q (List.mem_filter.mpr ⟨member, selectable⟩)
    cases asked
  | some chosen =>
    obtain ⟨concept, question, -, -⟩ := Rubric.selectNext_spec choice
    exact ⟨chosen, _, rfl, Session.pendingQuestion?_eq_some_iff.mpr
      ⟨Session.pending_ask _ chosen.concept chosen.question now,
        checked.question?_eq concept question⟩⟩

theorem startWith_starts (sound : v.bank.Sound) (assignment : Assignment) (studentId : String)
    (now : Instant) : v.Starts assignment studentId now (v.startWith assignment studentId now) := by
  unfold startWith
  by_cases named : AreNamed assignment studentId
  case neg =>
    rw [admission_of_not_named named]
    exact .nameless named
  case pos =>
    rw [admission_of_named named]
    cases taken : (v.registry.slot (studentId, assignment.id)).active with
    | some id => exact .taken named taken
    | none =>
      dsimp only
      rcases startable_cases sound assignment with
        ⟨rubric, enabled, serves, found⟩ | ⟨unfit, e, kind, found⟩
      · rw [found]
        obtain ⟨chosen, pending, choice, waiting⟩ := exists_waiting sound serves studentId now
        obtain ⟨pending', c, q, waiting', opened⟩ := openSession_of_choice taken choice now
        rw [waiting] at waiting'
        cases waiting'
        simp only [opened]
        exact .opened named taken enabled serves choice waiting
      · rw [found]
        exact .unfit named taken unfit kind

/-- One session is put in, which starts from the active rubric of the assignment with the question that
is selected there when nothing is known of the student. -/
structure Admitted (v : Service) (assignment : Assignment) (studentId : String) (now : Instant)
    (opening : Opening) (v' : Service) : Prop where
  fresh : v.registry.live? opening.session.id = none
  pair : opening.session.pair = (studentId, assignment.id)
  configured : opening.session.assignment = assignment
  going : opening.session.status = .inProgress
  startedAt : opening.session.startedAt = now
  serves : v.Serves assignment opening.session.rubric
  question : ∃ chosen, opening.session.rubric.selectNext 0 [] = some chosen ∧
    opening.question = .of 1 chosen.concept chosen.question ∧
    opening.session.pendingQuestion?.map Prod.snd = some (chosen.concept, chosen.question)
  sessions : v'.registry.sessions = v.registry.sessions ++ [opening.session]
  snapshots : v'.registry.snapshots.values = v.registry.snapshots.values ++ [opening.session]
  read : v'.session opening.session.id = .ok opening.session
  others : ∀ id, id ≠ opening.session.id →
    v'.registry.live? id = v.registry.live? id ∧ v'.session id = v.session id
  rest : v' = { v with registry := v'.registry }

/-- A start succeeds just if nothing stands in its way, and else fails by what comes first of a name that
is missing, a session of the pair, and an assignment that cannot be held. -/
structure StartsInOrder (v : Service) (engaged : String × String → Prop) : Prop where
  accepts : ∀ assignment studentId now,
    (∃ opening, (v.startWith assignment studentId now).1 = .ok opening) ↔
      AreNamed assignment studentId ∧ ¬engaged (studentId, assignment.id) ∧ v.CanHold assignment
  refuses : ∀ assignment studentId now e, (v.startWith assignment studentId now).1 = .error e →
    (v.startWith assignment studentId now).2 = v ∧
      (¬AreNamed assignment studentId → e.kind = .validation) ∧
      (AreNamed assignment studentId → engaged (studentId, assignment.id) → e.kind = .conflict) ∧
      (AreNamed assignment studentId → ¬engaged (studentId, assignment.id) →
        e.kind = .notConfigured)
  opens : ∀ assignment studentId now opening,
    (v.startWith assignment studentId now).1 = .ok opening →
      v.Admitted assignment studentId now opening (v.startWith assignment studentId now).2

theorem admitted_enter (numbered : v.registry.Numbered) (serves : v.Serves assignment rubric)
    {chosen : Candidate Float} (choice : rubric.selectNext 0 [] = some chosen) {pending : Pending}
    (waiting : (v.firstAsked assignment studentId rubric now chosen).pendingQuestion? =
      some (pending, chosen.concept, chosen.question)) :
    v.Admitted assignment studentId now
      ⟨v.firstAsked assignment studentId rubric now chosen,
        .of 1 chosen.concept chosen.question⟩
      { v with registry :=
          v.registry.enter (v.firstAsked assignment studentId rubric now chosen) } := by
  have fresh : (v.firstAsked assignment studentId rubric now chosen).id ∉ v.registry.cells.keys :=
    numbered.fresh
  have unseen : (v.firstAsked assignment studentId rubric now chosen).id ∉
      v.registry.snapshots.keys := numbered.snapshots ▸ fresh
  refine ⟨Registry.live?_of_fresh fresh, rfl, rfl, rfl, rfl, serves, ⟨chosen, choice, rfl, ?_⟩,
    Registry.sessions_enter fresh, Keyed.values_put_of_notMem unseen _, ?_,
    fun id other => ⟨?_, ?_⟩, rfl⟩
  · rw [waiting, Option.map_some]
  · rw [session, Registry.snapshot?_enter, if_pos rfl]
  · rw [Registry.live?_enter, if_neg other]
  · rw [session, Registry.snapshot?_enter, if_neg other]
    rfl

theorem startsInOrder (sound : v.bank.Sound) (numbered : v.registry.Numbered)
    {engaged : String × String → Prop}
    (slots : ∀ pair, engaged pair ↔ (v.registry.slot pair).active ≠ none) :
    v.StartsInOrder engaged := by
  constructor
  · intro assignment studentId now
    have starts := startWith_starts sound assignment studentId now
    generalize v.startWith assignment studentId now = out at starts ⊢
    rw [slots]
    cases starts with
    | nameless nameless => simp [nameless]
    | taken named taken => simp [taken]
    | unfit named vacant unfit kind => simp [unfit]
    | opened named vacant enabled serves choice waiting =>
      exact ⟨fun _ => ⟨named, not_not.mpr vacant, enabled, _, serves⟩, fun _ => ⟨_, rfl⟩⟩
  · intro assignment studentId now e failed
    have starts := startWith_starts sound assignment studentId now
    generalize v.startWith assignment studentId now = out at starts failed ⊢
    rw [slots]
    cases starts with
    | nameless nameless =>
      cases failed
      exact ⟨rfl, fun _ => rfl, fun named => absurd named nameless,
        fun named => absurd named nameless⟩
    | taken named taken =>
      cases failed
      refine ⟨rfl, fun nameless => absurd named nameless, fun _ _ => rfl, fun _ free => ?_⟩
      simp [taken] at free
    | unfit named vacant unfit kind =>
      cases failed
      exact ⟨rfl, fun nameless => absurd named nameless, fun _ taken => absurd vacant taken,
        fun _ _ => kind⟩
    | opened => cases failed
  · intro assignment studentId now opening opened
    have starts := startWith_starts sound assignment studentId now
    generalize v.startWith assignment studentId now = out at starts opened ⊢
    cases starts with
    | nameless | taken | unfit => cases opened
    | opened named vacant enabled serves choice waiting =>
      cases opened
      exact admitted_enter numbered serves choice waiting

end Service

namespace World

variable {settings : Settings} {w : World}

theorem Reachable.startsInOrder (reachable : Reachable settings w) :
    w.service.StartsInOrder w.registry.Engaged :=
  Service.startsInOrder reachable.bank_sound reachable.orderly.numbered
    fun _ => reachable.engaged_iff

/-- Whatever has happened, a start succeeds just if student and assignment are named, the pair has no
session that goes on, the assignment is enabled, and it has an active rubric with a question that can
be asked; the kind of failure tells which of these is the first that is missing, and nothing changes.
A start that succeeds puts in one session, which can be read at once. While calls are under way, a pair is
also engaged by a session whose worker has ended it and has yet to free its slot. -/
theorem starts_admitted_in_order (settings : Settings) (events : List Event)
    (requests : List (Request × Instant)) :
    let w := (begin settings).run events
    let v := (Service.ofSettings settings).run requests
    w.service.StartsInOrder w.registry.Engaged ∧
      (w.service.Idle → ∀ pair, w.registry.Engaged pair ↔ ∃ id, w.registry.IsOpen pair id) ∧
      v.StartsInOrder fun pair => ∃ id, v.registry.IsOpen pair id := by
  have reachable : Reachable settings ((begin settings).run events) := ⟨events, rfl⟩
  refine ⟨reachable.startsInOrder, fun idle pair => engaged_iff_of_idle idle, ?_⟩
  obtain ⟨w, served, same, idle, -⟩ := reachable_run settings requests
  rw [← same]
  refine Service.startsInOrder served.bank_sound served.orderly.numbered fun pair => ?_
  rw [← engaged_iff_of_idle idle, served.engaged_iff]

/-- With the usual settings one student has started; another one may, but she may not again. -/
theorem second_student_starts :
    let v := (Service.ofSettings {}).run [(.start "demo-assignment" "ada", ⟨0⟩)]
    let assignment : Assignment := { id := "demo-assignment" }
    (v.startWith assignment "ada" ⟨1⟩).2 = v ∧
      ∃ opening, (v.startWith assignment "bob" ⟨1⟩).1 = .ok opening ∧
        v.Admitted assignment "bob" ⟨1⟩ opening (v.startWith assignment "bob" ⟨1⟩).2 := by
  intro v assignment
  obtain ⟨-, -, ordered⟩ :=
    starts_admitted_in_order {} [] [(.start "demo-assignment" "ada", ⟨0⟩)]
  have refused : (v.startWith assignment "ada" ⟨1⟩).1 =
      .error (.alreadyInProgress "ada" "session-0001" "demo-assignment") := by decide +kernel
  have accepted : (v.startWith assignment "bob" ⟨1⟩).1.isOk := by decide +kernel
  cases opened : (v.startWith assignment "bob" ⟨1⟩).1 with
  | error e =>
    rw [opened] at accepted
    cases accepted
  | ok opening =>
    exact ⟨(ordered.refuses assignment "ada" ⟨1⟩ _ refused).1, opening, rfl,
      ordered.opens assignment "bob" ⟨1⟩ opening opened⟩

end World

end OralExam
