import Mathlib.Data.List.Forall2
import Mathlib.Data.List.Induction
import OralExam.Proofs.Session.Replay

/-! What a student is told of misconceptions, and what is made of it when the session ends.

Of each answer all misconceptions that it shows are told, with their severity and correction. The
session keeps no more than their identifiers: flags and verdicts look the rest up in the rubric, where
they find the first misconception of an identifier. They are true to what was told if it does not
matter which one they find.
-/

set_option autoImplicit false

namespace OralExam

/-! ## Misconceptions by their identifiers -/

namespace Rubric

/-- Misconceptions about one concept that share an identifier agree in all that is told of them. -/
def Unambiguous (r : Rubric) : Prop :=
  ∀ c ∈ r.concepts, ∀ m ∈ c.misconceptions, ∀ m' ∈ c.misconceptions, m.id = m'.id →
    m.severity = m'.severity ∧ m.correction = m'.correction

instance (r : Rubric) : Decidable r.Unambiguous :=
  inferInstanceAs (Decidable (∀ c ∈ r.concepts, ∀ m ∈ c.misconceptions, ∀ m' ∈ c.misconceptions,
    m.id = m'.id → m.severity = m'.severity ∧ m.correction = m'.correction))

/-- What is told of a misconception is what is found by its identifier. -/
theorem Unambiguous.misconception?_eq {r : Rubric} (clear : r.Unambiguous) {c : Concept}
    (concept : c ∈ r.concepts) {transcript : List String} {shown : ShownMisconception}
    (member : shown ∈ Scoring.shown c transcript) : ∃ m, c.misconception? shown.id = some m ∧
      m.severity = shown.severity ∧ m.correction = shown.correction := by
  obtain ⟨own, listed, rfl⟩ := List.mem_map.mp member
  have known := List.mem_of_mem_filter listed
  have found : (c.misconceptions.find? (·.id = own.id)).isSome :=
    List.find?_isSome.mpr ⟨own, known, by simp⟩
  obtain ⟨first, found⟩ := Option.isSome_iff_exists.mp found
  have same : first.id = own.id := by simpa using List.find?_some found
  exact ⟨first, found, clear c concept first (List.mem_of_find?_eq_some found) own known same⟩

end Rubric

/-! ## What was told -/

/-- What was told of an answer, if one was taken. -/
def Deed.judgement? (deed : Deed) : Option (Judgement Float) :=
  match deed.task, deed.report with
  | .answer _ _, .answered (.ok o) => some o.judgement
  | _, _ => none

def judgementsOf (deeds : List Deed) : List (Judgement Float) := deeds.filterMap Deed.judgement?

/-- The misconceptions told of all answers, each as often as it was told. -/
def misconceptionsTold (deeds : List Deed) : List ShownMisconception :=
  (judgementsOf deeds).flatMap Judgement.misconceptions

/-- Something is told exactly of what was submitted. -/
theorem Deed.judgement?_eq_none_iff {deed : Deed} :
    deed.judgement? = none ↔ deed.submission? = none := by
  obtain ⟨task, now, report⟩ := deed
  unfold judgement? submission?
  cases task with
  | answer transcript similarity =>
    cases report with
    | answered result => cases result <;> simp
    | ended | reviewed | abandoned => simp
  | endEarly | review | abandonIdle => simp

@[simp] theorem judgementsOf_append (deeds later : List Deed) :
    judgementsOf (deeds ++ later) = judgementsOf deeds ++ judgementsOf later :=
  List.filterMap_append

theorem judgementsOf_single (deed : Deed) : judgementsOf [deed] = deed.judgement?.toList := by
  cases same : deed.judgement? <;> simp [judgementsOf, same]

/-- The answer has the identifiers of what was told of it, which was found in its concept. -/
def Answer.Notes (r : Rubric) (told : List ShownMisconception) (a : Answer) : Prop :=
  ∃ c q transcript, r.question? a.questionId = some (c, q) ∧ a.conceptId = c.id ∧
    told = Scoring.shown c transcript ∧ a.misconceptions = told.map ShownMisconception.id

namespace Session

variable {settings : Settings} {s s' s₀ : Session} {deed : Deed} {deeds : List Deed}

/-- Each answer notes what was told of it, one by one. -/
def Notes (told : List (Judgement Float)) (s : Session) : Prop :=
  List.Forall₂ (fun j a => a.Notes s.rubric j.misconceptions) told s.answers

/-- What was told was told of an answer. -/
theorem Notes.exists_mem {told : List (Judgement Float)} (notes : s.Notes told)
    {j : Judgement Float} (member : j ∈ told) :
    ∃ a ∈ s.answers, a.Notes s.rubric j.misconceptions := by
  unfold Notes at notes
  -- The induction is on the two lists; the rubric stays that of the session.
  generalize s.answers = answers at notes
  induction notes with
  | nil => cases member
  | cons own rest ih =>
    rcases List.mem_cons.mp member with rfl | member
    · exact ⟨_, List.mem_cons_self, own⟩
    · obtain ⟨a, answered, noted⟩ := ih member
      exact ⟨a, List.mem_cons_of_mem _ answered, noted⟩

theorem Notes.scored {told : List (Judgement Float)} (notes : s.Notes told) (settings : Settings)
    (pending : Pending) {c : Concept} {q : Question} (found : s.rubric.question? q.id = some (c, q))
    (transcript : String) (similarity : Option Float) (now : Instant) :
    (s.scored settings pending c q transcript similarity now).Notes
      (told ++ [Scoring.assess settings.scoring c q transcript similarity]) := by
  rw [Notes, rubric_scored, answers_scored]
  refine List.rel_append notes (.cons ?_ .nil)
  exact ⟨c, q, Text.tokens transcript, found, rfl, rfl, rfl⟩

theorem Step.notes {told : List (Judgement Float)} (notes : s.Notes told)
    (step : Step settings s deed s') : s'.Notes (told ++ deed.judgement?.toList) := by
  cases step with
  | refused refusal =>
    rw [Deed.judgement?_eq_none_iff.mpr (Deed.submission?_of_isRefusal refusal)]
    simpa using notes
  | @asked transcript similarity now pending c q a chosen going waiting scored rule choice =>
    subst scored
    exact notes.scored settings pending (question?_of_pendingQuestion? waiting) _ _ _
  | @completed transcript similarity now pending c q a termination going waiting scored why =>
    subst scored
    exact notes.scored settings pending (question?_of_pendingQuestion? waiting) _ _ _
  | failed | submitted | abandoned | idled => simpa [Deed.judgement?, Notes] using notes
  | reviewed ended done =>
    subst done
    simpa [Deed.judgement?, Notes] using notes

theorem Course.notes (opens : Opens settings s₀) (course : Course settings s₀ deeds s) :
    s.Notes (judgementsOf deeds) := by
  induction course with
  | start =>
    cases opens
    exact .nil
  | next before step ih =>
    rw [judgementsOf_append, judgementsOf_single]
    exact step.notes ih

/-- Once a session has ended, nothing is told any more. -/
theorem Course.judgementsOf_eq_nil (ended : s₀.status.isTerminal)
    (course : Course settings s₀ deeds s) : judgementsOf deeds = [] := by
  induction course with
  | start => rfl
  | next before step ih =>
    rw [judgementsOf_append, ih, List.nil_append, judgementsOf_single]
    have still := before.isTerminal ended
    cases step with
    | refused refusal =>
      rw [Deed.judgement?_eq_none_iff.mpr (Deed.submission?_of_isRefusal refusal)]
      rfl
    | asked going _ _ _ _ | completed going _ _ _ => simp [going, Status.isTerminal] at still
    | failed | submitted | abandoned | idled | reviewed => rfl

end Session

/-! ## Flags -/

namespace Flag

variable {r : Rubric} {policy : FlagPolicy} {s : Session}

/-- The flag counts what has high severity, and is there if that reaches the limit. -/
theorem highSeverityMisconceptions_mem_iff {n : Nat} :
    highSeverityMisconceptions n ∈ ofSession policy s ↔
      n = highSeverityCount s ∧ max policy.highSeverityLimit 1 ≤ n := by
  unfold ofSession
  simp only [List.mem_append, List.mem_ite_nil_right, List.mem_singleton, List.mem_map, reduceCtorEq,
    and_false, exists_false, or_false, false_or, highSeverityMisconceptions.injEq]
  constructor
  · rintro ⟨reached, rfl⟩
    exact ⟨rfl, reached⟩
  · rintro ⟨rfl, reached⟩
    exact ⟨reached, rfl⟩

/-- Among the identifiers that an answer notes, those of high severity are found. -/
theorem length_highSeverity (checked : r.Checked) (clear : r.Unambiguous) {a : Answer}
    {told : List ShownMisconception} (notes : a.Notes r told) :
    (highSeverity r a).length = told.countP (·.severity = .high) := by
  obtain ⟨c, q, transcript, found, about, rfl, ids⟩ := notes
  obtain ⟨concept, -⟩ := Rubric.mem_of_question? found
  rw [highSeverity, ids, about, checked.concept?_eq concept, ← List.countP_eq_length_filter,
    List.countP_map]
  -- Each of them is found in its concept as it was told.
  refine List.countP_congr fun shown member => ?_
  obtain ⟨m, same, severity, -⟩ := clear.misconception?_eq concept member
  simp [same, severity]

theorem highSeverityCount_eq (checked : s.rubric.Checked) (clear : s.rubric.Unambiguous)
    {told : List (Judgement Float)} (notes : s.Notes told) :
    highSeverityCount s =
      (told.flatMap Judgement.misconceptions).countP (·.severity = .high) := by
  unfold highSeverityCount
  unfold Session.Notes at notes
  generalize s.answers = answers at notes
  induction notes with
  | nil => rfl
  | cons own rest ih =>
    rw [List.flatMap_cons, List.flatMap_cons, List.length_append, List.countP_append, ih,
      length_highSeverity checked clear own]

end Flag

/-! ## Corrections -/

/-- What a fold collects, if each round keeps what there is and adds what belongs to its entry. -/
theorem mem_foldl_iff {α β : Type} {add : List β → α → List β} {belongs : α → Prop} {x : β}
    (mem_add : ∀ known entry, x ∈ add known entry ↔ x ∈ known ∨ belongs entry) (entries : List α)
    (known : List β) :
    x ∈ entries.foldl add known ↔ x ∈ known ∨ ∃ entry ∈ entries, belongs entry := by
  induction entries generalizing known with
  | nil => simp
  | cons entry rest ih => rw [List.foldl_cons, ih, mem_add, or_assoc, List.exists_mem_cons_iff]

theorem Standing.mem_addNew_iff {known ids : List String} {id : String} :
    id ∈ addNew known ids ↔ id ∈ known ∨ id ∈ ids := by
  have mem_add (known : List String) (other : String) :
      id ∈ (if known.contains other then known else known ++ [other]) ↔
        id ∈ known ∨ other = id := by
    split
    · rename_i there
      rw [List.contains_iff_mem] at there
      exact ⟨.inl, fun either => either.elim (·) (· ▸ there)⟩
    · rw [List.mem_append, List.mem_singleton, eq_comm]
  unfold addNew
  rw [mem_foldl_iff mem_add]
  simp

namespace Mastery

/-- The standing on the concept has the identifier among its misconceptions. -/
def Recalls (m : Mastery Float) (conceptId id : String) : Prop :=
  ∃ standing, m.find? conceptId = some standing ∧ id ∈ standing.misconceptions

theorem recalls_record_iff {m : Mastery Float} {policy : ScoringPolicy Float}
    {sessionId conceptId other id : String} {q : Question} {correctness : Float}
    {misconceptions : List String} :
    (m.record policy sessionId conceptId q correctness misconceptions).Recalls other id ↔
      m.Recalls other id ∨ other = conceptId ∧ id ∈ misconceptions := by
  unfold Recalls record
  rw [Keyed.find?_put]
  by_cases same : other = conceptId
  · subst same
    -- A standing that is new has no misconceptions.
    cases known : m.find? other <;> simp [Standing.add, Standing.fresh, Standing.mem_addNew_iff]
  · simp [same]

/-- What the answers noted is recalled of the concepts that their questions are about. -/
theorem recalls_masteryAfter_iff {settings : Settings} {sessionId conceptId id : String} {r : Rubric}
    (answers : List Answer) :
    (Session.masteryAfter settings sessionId r answers).Recalls conceptId id ↔
      ∃ a ∈ answers, id ∈ a.misconceptions ∧
        ∃ c q, r.question? a.questionId = some (c, q) ∧ c.id = conceptId := by
  induction answers using List.reverseRecOn with
  | nil => simp [Session.masteryAfter, Recalls, Keyed.find?]
  | append_singleton answers a ih =>
    simp only [List.mem_append, List.mem_singleton, or_and_right, exists_or, exists_eq_left]
    cases found : r.question? a.questionId with
    | none =>
      have same : Session.masteryAfter settings sessionId r (answers ++ [a]) =
          Session.masteryAfter settings sessionId r answers := by
        simp [Session.masteryAfter, found]
      rw [same, ih]
      simp
    | some owner =>
      obtain ⟨c, q⟩ := owner
      rw [Session.masteryAfter_append settings sessionId r answers a found, recalls_record_iff, ih]
      simp [and_comm, eq_comm]

end Mastery

namespace Verdict

variable {scoring : ScoringPolicy Float}

/-- The text, which is not empty, corrects the misconception found by the identifier. -/
def Corrects (c : Concept) (text id : String) : Prop :=
  text ≠ "" ∧ ∃ m, c.misconception? id = some m ∧ m.correction = text

/-- The text is advice on the concept: its name, if it is weak, or a correction. -/
def Advises (scoring : ScoringPolicy Float) (text : String) (entry : Concept × Standing Float) :
    Prop :=
  (isStrength scoring entry.2 = false ∧ entry.2.mastery < scoring.passThreshold ∧
    text = entry.1.name) ∨ ∃ id ∈ entry.2.misconceptions, Corrects entry.1 text id

theorem mem_addCorrections_iff {c : Concept} {m : Standing Float} {known : List String}
    {text : String} : text ∈ addCorrections c m known ↔
      text ∈ known ∨ ∃ id ∈ m.misconceptions, Corrects c text id := by
  unfold addCorrections
  refine mem_foldl_iff (fun known id => ?_) m.misconceptions known
  unfold Corrects
  cases found : c.misconception? id with
  | none => simp
  | some mc => grind [String.isEmpty_iff]

/-- Advice names the weak concepts, and gives the corrections that are not empty. -/
theorem mem_advice_iff {touched : List (Concept × Standing Float)} {text : String} :
    text ∈ advice scoring touched ↔ ∃ entry ∈ touched, Advises scoring text entry := by
  have mem_add (known : List String) (entry : Concept × Standing Float) :
      text ∈ addCorrections entry.1 entry.2
        (if !isStrength scoring entry.2 && entry.2.mastery < scoring.passThreshold then
          known ++ [entry.1.name] else known) ↔ text ∈ known ∨ Advises scoring text entry := by
    rw [mem_addCorrections_iff, Advises, ← or_assoc]
    refine or_congr_left ?_
    split <;> grind
  unfold advice
  rw [mem_foldl_iff mem_add]
  simp

theorem mem_touched_iff {s : Session} {entry : Concept × Standing Float} :
    entry ∈ touched s ↔ entry.1 ∈ s.rubric.concepts ∧ s.mastery.find? entry.1.id = some entry.2 := by
  obtain ⟨c, m⟩ := entry
  simp only [touched, Rubric.orderedConcepts, List.mem_filterMap, Option.map_eq_some_iff,
    (Sorting.sort_perm _ _).mem_iff, Prod.mk.injEq]
  grind

/-- A correction that was told, and is not empty, is in the advice. -/
theorem correction_mem_advice {settings : Settings} {s : Session} (clear : s.rubric.Unambiguous)
    (tallied : s.Tallied settings) {told : List (Judgement Float)} (notes : s.Notes told)
    {shown : ShownMisconception} (member : shown ∈ told.flatMap Judgement.misconceptions)
    (something : shown.correction ≠ "") :
    shown.correction ∈ advice scoring (touched s) := by
  obtain ⟨j, judged, own⟩ := List.mem_flatMap.mp member
  obtain ⟨a, answered, c, q, transcript, found, about, same, ids⟩ := notes.exists_mem judged
  obtain ⟨concept, -⟩ := Rubric.mem_of_question? found
  have noted : shown.id ∈ a.misconceptions := by
    rw [ids]
    exact List.mem_map_of_mem own
  have recalled : s.mastery.Recalls c.id shown.id := by
    rw [tallied.mastery, Mastery.recalls_masteryAfter_iff]
    exact ⟨a, answered, noted, c, q, found, rfl⟩
  obtain ⟨standing, stands, recalled⟩ := recalled
  obtain ⟨m, known, -, correction⟩ := clear.misconception?_eq concept (same ▸ own)
  refine mem_advice_iff.mpr ⟨(c, standing), mem_touched_iff.mpr ⟨concept, stands⟩, .inr ?_⟩
  exact ⟨shown.id, recalled, something, m, known, correction⟩

end Verdict

namespace Session

variable {settings : Settings} {s s₀ : Session} {deeds : List Deed}

/-- The flags of the session count all misconceptions of high severity that were told, and its verdict
has every correction that was. -/
structure TrueTo (settings : Settings) (told : List ShownMisconception) (s : Session) : Prop where
  flagged : s.flagged = !(Flag.ofSession settings.flags s).isEmpty
  reason : s.flagReason = Flag.reason (Flag.ofSession settings.flags s)
  counted : ∀ n, .highSeverityMisconceptions n ∈ Flag.ofSession settings.flags s ↔
    n = told.countP (·.severity = .high) ∧ max settings.flags.highSeverityLimit 1 ≤ n
  corrected : ∃ verdict, s.verdict = some verdict ∧
    ∀ m ∈ told, m.correction ≠ "" → m.correction ∈ verdict.improvements

theorem Course.trueTo (opens : Opens settings s₀) (course : Course settings s₀ deeds s)
    (ended : s.status.isTerminal) (clear : s.rubric.Unambiguous) :
    s.TrueTo settings (misconceptionsTold deeds) := by
  have reached : Reached settings s := ⟨s₀, deeds, opens, course⟩
  have checked := reached.proper.checked
  have replayed := reached.replayed
  have notes := course.notes opens
  obtain ⟨now, -, verdict, -, -, -, flagged, reason⟩ := replayed.decided ended
  refine ⟨flagged, reason, ?_, _, verdict, ?_⟩
  · intro n
    rw [Flag.highSeverityMisconceptions_mem_iff, Flag.highSeverityCount_eq checked clear notes]
    rfl
  · intro m told something
    exact Verdict.correction_mem_advice clear replayed.toTallied notes told something

end Session

end OralExam
