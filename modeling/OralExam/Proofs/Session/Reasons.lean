import OralExam.Proofs.Rubric.Checked
import OralExam.Proofs.Session.Contradictions

/-! What the reason for flagging a session tells of the flags.

The flags are written one after the other with semicolons between them, and the identifiers of concepts
are written as they are. So a reader can tell where a flag ends unless such an identifier looks as if
another flag began in it.
-/

set_option autoImplicit false

namespace OralExam.Flag

/-! ## Marks -/

/-- What a flag begins with that stands after a contradiction. -/
def marks : List (List Char) :=
  [';' :: "contradiction:".toList, ';' :: "timing_outlier:turn=".toList]

/-- No flag seems to begin in the text. -/
def Separable (text : List Char) : Prop := ∀ mark ∈ marks, ¬mark <:+: text

instance (text : List Char) : Decidable (Separable text) :=
  inferInstanceAs (Decidable (∀ mark ∈ marks, _))

/-- Nothing comes, or a flag begins. -/
def Opens (rest : List Char) : Prop := rest = [] ∨ ∃ mark ∈ marks, mark <+: rest

section

variable {x y rest rest' : List Char}

theorem mark_eq {mark : List Char} (member : mark ∈ marks) :
    ∃ body, mark = ';' :: body ∧ ';' ∉ body := by
  simp only [marks, List.mem_cons, List.not_mem_nil, or_false] at member
  rcases member with rfl | rfl <;> exact ⟨_, rfl, by decide⟩

theorem separable_of_notMem (none : ';' ∉ x) : Separable x := by
  intro mark member inside
  obtain ⟨body, rfl, -⟩ := mark_eq member
  exact none (inside.subset List.mem_cons_self)

/-- A text in which no flag seems to begin goes up to where the next flag does begin. -/
theorem eq_nil_of_separable {more : List Char} (separable : Separable (x ++ more))
    (opens : Opens (more ++ rest)) (opens' : Opens rest) : more = [] := by
  cases more with
  | nil => rfl
  | cons c more =>
    obtain ⟨mark, member, after, same⟩ := opens.resolve_left (List.cons_ne_nil _ _)
    exfalso
    rcases List.append_eq_append_iff.mp same with ⟨inside, split, -⟩ | ⟨outside, split, split'⟩
    · exact separable mark member ⟨x, inside, by rw [split, List.append_assoc]⟩
    · cases outside with
      | nil =>
        rw [List.append_nil] at split
        exact separable mark member ⟨x, [], by rw [split, List.append_nil]⟩
      | cons d outside =>
        -- The mark would begin anew in its middle.
        obtain ⟨mark', member', later, same'⟩ := opens'.resolve_left (by simp [split'])
        obtain ⟨body, rfl, none⟩ := mark_eq member
        obtain ⟨body', rfl, -⟩ := mark_eq member'
        rw [split'] at same'
        obtain rfl := (List.cons.inj same').1
        have tail : body = more ++ ';' :: outside := (List.cons.inj split).2
        exact none (by simp [tail])

theorem separable_append_inj (left : Separable x) (right : Separable y) (opens : Opens rest)
    (opens' : Opens rest') (same : x ++ rest = y ++ rest') : x = y ∧ rest = rest' := by
  rcases List.append_eq_append_iff.mp same with ⟨more, rfl, rfl⟩ | ⟨more, rfl, rfl⟩
  · obtain rfl := eq_nil_of_separable right opens opens'
    simp
  · obtain rfl := eq_nil_of_separable left opens' opens
    simp

end

/-! ## Flags one after the other -/

/-- The flags with a semicolon before each. -/
def written (flags : List Flag) : List Char := flags.flatMap fun flag => ';' :: flag.text.toList

theorem written_cons (flag : Flag) (flags : List Flag) :
    written (flag :: flags) = ';' :: (flag.text.toList ++ written flags) := by
  rfl

theorem written_eq_nil_iff {flags : List Flag} : written flags = [] ↔ flags = [] := by
  cases flags <;> simp [written]

theorem toList_intercalate_text (flag : Flag) (flags : List Flag) :
    ';' :: (";".intercalate ((flag :: flags).map text)).toList = written (flag :: flags) := by
  rw [String.toList_intercalate]
  induction flags generalizing flag with
  | nil => simp [written]
  | cons next flags ih =>
    rw [written_cons, ← ih next]
    simp [List.intercalate_cons_cons]

theorem reason_eq_none_iff {flags : List Flag} : reason flags = none ↔ flags = [] := by
  cases flags <;> simp [reason]

theorem reason_cons (flag : Flag) (flags : List Flag) :
    reason (flag :: flags) = some (";".intercalate ((flag :: flags).map text)) := by
  rfl

theorem reason_eq_iff {flags flags' : List Flag} :
    reason flags = reason flags' ↔ written flags = written flags' := by
  cases flags with
  | nil => cases flags' <;> simp [reason, written]
  | cons flag flags =>
    cases flags' with
    | nil => simp [reason, written]
    | cons flag' flags' =>
      rw [← toList_intercalate_text, ← toList_intercalate_text, List.cons_inj_right,
        String.toList_inj, reason_cons, reason_cons, Option.some_inj]

/-- The letter that tells of which sort a flag is. -/
def initial : Flag → Char
  | lowConfidence => 'l'
  | highSeverityMisconceptions _ => 'h'
  | contradiction _ => 'c'
  | timingOutlier _ => 't'

theorem exists_toList_text (flag : Flag) : ∃ rest, flag.text.toList = flag.initial :: rest := by
  cases flag with
  | lowConfidence => exact ⟨_, rfl⟩
  | highSeverityMisconceptions n => exact ⟨_, String.toList_append⟩
  | contradiction concept => exact ⟨_, String.toList_append⟩
  | timingOutlier turn => exact ⟨_, String.toList_append⟩

/-- Behind the first semicolon stands the letter of the first flag. -/
theorem getElem?_written (flags : List Flag) : (written flags)[1]? = flags.head?.map initial := by
  cases flags with
  | nil => rfl
  | cons flag flags =>
    obtain ⟨rest, same⟩ := exists_toList_text flag
    rw [written_cons, same]
    rfl

theorem written_cons_ne {flag : Flag} {flags flags' : List Flag}
    (other : ∀ flag' ∈ flags', flag'.initial ≠ flag.initial) :
    written (flag :: flags) ≠ written flags' := by
  intro same
  have first := getElem?_written flags'
  rw [← same, getElem?_written, List.head?_cons, Option.map_some] at first
  obtain ⟨flag', head, sort⟩ := Option.map_eq_some_iff.mp first.symm
  exact other flag' (List.mem_of_mem_head? head) sort

/-! ## Parts of a flag -/

theorem written_of_text {flag : Flag} {head tail : String} (shown : flag.text = head ++ tail)
    (flags : List Flag) :
    written (flag :: flags) = (';' :: head.toList) ++ (tail.toList ++ written flags) := by
  rw [written_cons, shown, String.toList_append, List.append_assoc, List.cons_append]

theorem written_contradiction (concept : String) (flags : List Flag) :
    written (contradiction concept :: flags) =
      (';' :: "contradiction:".toList) ++ (concept.toList ++ written flags) :=
  written_of_text rfl flags

theorem written_timingOutlier (turn : Nat) (flags : List Flag) :
    written (timingOutlier turn :: flags) =
      (';' :: "timing_outlier:turn=".toList) ++ ((toString turn).toList ++ written flags) :=
  written_of_text rfl flags

theorem written_highSeverityMisconceptions (n : Nat) (flags : List Flag) :
    written (highSeverityMisconceptions n :: flags) =
      (';' :: "high_severity_misconceptions:".toList) ++ ((toString n).toList ++ written flags) :=
  written_of_text rfl flags

theorem semicolon_notMem_digits (n : Nat) : ';' ∉ (toString n).toList := by
  intro member
  change ';' ∈ n.repr.toList at member
  rw [Nat.toList_repr] at member
  exact absurd (Nat.isDigit_of_mem_toDigits (by decide) (by decide) member) (by decide)

/-- A number is read up to the next flag. -/
theorem digits_append_inj {m n : Nat} {rest rest' : List Char} (opens : Opens rest)
    (opens' : Opens rest') (same : (toString m).toList ++ rest = (toString n).toList ++ rest') :
    m = n ∧ rest = rest' := by
  obtain ⟨digits, rests⟩ := separable_append_inj (separable_of_notMem (semicolon_notMem_digits m))
    (separable_of_notMem (semicolon_notMem_digits n)) opens opens' same
  exact ⟨Nat.repr_injective (String.toList_inj.mp digits), rests⟩

theorem opens_outliers (outliers : List Nat) : Opens (written (outliers.map timingOutlier)) := by
  cases outliers with
  | nil => exact .inl rfl
  | cons turn outliers =>
    rw [List.map_cons, written_timingOutlier]
    exact .inr ⟨_, List.mem_cons_of_mem _ (List.mem_singleton_self _), List.prefix_append _ _⟩

theorem outliers_eq {outliers outliers' : List Nat}
    (same : written (outliers.map timingOutlier) = written (outliers'.map timingOutlier)) :
    outliers = outliers' := by
  induction outliers generalizing outliers' with
  | nil =>
    have none := written_eq_nil_iff.mp same.symm
    exact (List.map_eq_nil_iff.mp none).symm
  | cons turn outliers ih =>
    cases outliers' with
    | nil => cases same
    | cons turn' outliers' =>
      rw [List.map_cons, List.map_cons, written_timingOutlier, written_timingOutlier,
        List.append_cancel_left_eq] at same
      obtain ⟨rfl, rest⟩ :=
        digits_append_inj (opens_outliers outliers) (opens_outliers outliers') same
      rw [ih rest]

/-! ## What is found in a session -/

/-- The flags of a session, sorted by what they say. -/
@[ext]
structure Findings where
  unsure : Bool
  severe : Option Nat
  contradicted : List String
  outliers : List Nat

namespace Findings

def ofSession (policy : FlagPolicy) (s : Session) : Findings where
  unsure := policy.lowConfidenceError < s.standardError
  severe := if max policy.highSeverityLimit 1 ≤ highSeverityCount s then some (highSeverityCount s)
    else none
  contradicted := Flag.contradicted policy.contradictionDelta [] [] s.answers
  outliers := (s.answers.filter (isOutlier policy)).map (·.turnNumber)

/-- The contradictions, then the outliers. -/
def ending (f : Findings) : List Flag :=
  f.contradicted.map contradiction ++ f.outliers.map timingOutlier

/-- All flags but the one that the ability may give. -/
def middle (f : Findings) : List Flag :=
  (f.severe.map highSeverityMisconceptions).toList ++ f.ending

def flags (f : Findings) : List Flag :=
  (if f.unsure then [lowConfidence] else []) ++ f.middle

theorem flags_ofSession (policy : FlagPolicy) (s : Session) :
    (ofSession policy s).flags = Flag.ofSession policy s := by
  unfold flags middle ending ofSession Flag.ofSession
  dsimp only
  simp only [decide_eq_true_eq, List.append_assoc, List.map_map]
  congr 2
  split <;> rfl

section

variable {f g : Findings}

/-- No flag seems to begin in a concept that is reported as contradicted. -/
def Readable (f : Findings) : Prop := ∀ concept ∈ f.contradicted, Separable concept.toList

theorem opens_ending (f : Findings) : Opens (written f.ending) := by
  unfold ending
  cases f.contradicted with
  | nil => exact opens_outliers f.outliers
  | cons concept contradicted =>
    rw [List.map_cons, List.cons_append, written_contradiction]
    exact .inr ⟨_, List.mem_cons_self, List.prefix_append _ _⟩

/-- Contradictions are told from outliers, and each concept ends where the next flag begins. -/
theorem ending_eq (readable : f.Readable) (readable' : g.Readable)
    (same : written f.ending = written g.ending) :
    f.contradicted = g.contradicted ∧ f.outliers = g.outliers := by
  obtain ⟨unsure, severe, concepts, outliers⟩ := f
  obtain ⟨unsure', severe', concepts', outliers'⟩ := g
  -- On the concepts; where only one of the lists has one left, the letters differ.
  induction concepts generalizing concepts' with
  | nil =>
    cases concepts' with
    | nil => exact ⟨rfl, outliers_eq same⟩
    | cons concept' concepts' => exact absurd same.symm (written_cons_ne (by simp [ending, initial]))
  | cons concept concepts ih =>
    cases concepts' with
    | nil => exact absurd same (written_cons_ne (by simp [ending, initial]))
    | cons concept' concepts' =>
      simp only [ending, List.map_cons, List.cons_append] at same
      rw [written_contradiction, written_contradiction, List.append_cancel_left_eq] at same
      obtain ⟨head, rest⟩ := separable_append_inj (readable concept List.mem_cons_self)
        (readable' concept' List.mem_cons_self) (opens_ending ⟨unsure, severe, concepts, outliers⟩)
        (opens_ending ⟨unsure', severe', concepts', outliers'⟩) same
      obtain rfl := String.toList_inj.mp head
      obtain ⟨rfl, rfl⟩ := ih (fun c member => readable c (List.mem_cons_of_mem _ member)) concepts'
        (fun c member => readable' c (List.mem_cons_of_mem _ member)) rest
      exact ⟨rfl, rfl⟩

theorem initial_ending_ne (f : Findings) : ∀ flag ∈ f.ending, flag.initial ≠ 'h' := by
  simp [ending, or_imp, forall_and, initial]

theorem initial_middle_ne (f : Findings) : ∀ flag ∈ f.middle, flag.initial ≠ 'l' := by
  cases severe : f.severe <;> simp [middle, ending, severe, or_imp, forall_and, initial]

theorem severe_eq (same : written f.middle = written g.middle) :
    f.severe = g.severe ∧ written f.ending = written g.ending := by
  unfold middle at same
  cases severe : f.severe with
  | none =>
    cases severe' : g.severe with
    | none =>
      rw [severe, severe'] at same
      exact ⟨rfl, same⟩
    | some n =>
      rw [severe, severe'] at same
      exact absurd same.symm (written_cons_ne (initial_ending_ne f))
  | some m =>
    rw [severe] at same
    cases severe' : g.severe with
    | none =>
      rw [severe'] at same
      exact absurd same (written_cons_ne (initial_ending_ne g))
    | some n =>
      rw [severe'] at same
      simp only [Option.map_some, Option.toList_some, List.singleton_append] at same
      rw [written_highSeverityMisconceptions, written_highSeverityMisconceptions,
        List.append_cancel_left_eq] at same
      obtain ⟨rfl, rest⟩ := digits_append_inj (opens_ending f) (opens_ending g) same
      exact ⟨rfl, rest⟩

theorem unsure_eq (same : written f.flags = written g.flags) :
    f.unsure = g.unsure ∧ written f.middle = written g.middle := by
  unfold flags at same
  cases unsure : f.unsure with
  | false =>
    cases unsure' : g.unsure with
    | false =>
      rw [unsure, unsure'] at same
      exact ⟨rfl, same⟩
    | true =>
      rw [unsure, unsure'] at same
      exact absurd same.symm (written_cons_ne (initial_middle_ne f))
  | true =>
    cases unsure' : g.unsure with
    | false =>
      rw [unsure, unsure'] at same
      exact absurd same (written_cons_ne (initial_middle_ne g))
    | true =>
      rw [unsure, unsure'] at same
      simp only [if_true, List.singleton_append, written_cons] at same
      exact ⟨rfl, List.append_cancel_left (List.cons.inj same).2⟩

theorem eq_of_written_eq (readable : f.Readable) (readable' : g.Readable)
    (same : written f.flags = written g.flags) : f = g := by
  obtain ⟨unsure, rest⟩ := unsure_eq same
  obtain ⟨severe, rest⟩ := severe_eq rest
  obtain ⟨contradicted, outliers⟩ := ending_eq readable readable' rest
  exact Findings.ext unsure severe contradicted outliers

theorem lowConfidence_mem_flags : lowConfidence ∈ f.flags ↔ f.unsure := by
  simp [flags, middle, ending]

theorem highSeverityMisconceptions_mem_flags {n : Nat} :
    highSeverityMisconceptions n ∈ f.flags ↔ f.severe = some n := by
  simp [flags, middle, ending]

theorem contradiction_mem_flags {concept : String} :
    contradiction concept ∈ f.flags ↔ concept ∈ f.contradicted := by
  simp [flags, middle, ending]

end

end Findings

/-! ## The reason -/

/-- There is a reason exactly if there is a flag. Whether the ability is known too little and how often
misconceptions of high severity showed can always be read from it; the whole list of flags can be if no
flag seems to begin in a concept that is reported as contradicted. -/
theorem reasons_tell_flags (policy policy' : FlagPolicy) (s s' : Session) :
    (reason (ofSession policy s) = none ↔ ofSession policy s = []) ∧
      (reason (ofSession policy s) = reason (ofSession policy' s') →
        (lowConfidence ∈ ofSession policy s ↔ lowConfidence ∈ ofSession policy' s') ∧
        ∀ n, highSeverityMisconceptions n ∈ ofSession policy s ↔
          highSeverityMisconceptions n ∈ ofSession policy' s') ∧
      ((∀ concept, contradiction concept ∈ ofSession policy s ++ ofSession policy' s' →
          Separable concept.toList) →
        ofSession policy s ≠ ofSession policy' s' →
          reason (ofSession policy s) ≠ reason (ofSession policy' s')) := by
  rw [← Findings.flags_ofSession policy s, ← Findings.flags_ofSession policy' s']
  refine ⟨reason_eq_none_iff, fun same => ?_, fun separable differ same => ?_⟩
  all_goals rw [reason_eq_iff] at same
  · obtain ⟨unsure, rest⟩ := Findings.unsure_eq same
    obtain ⟨severe, -⟩ := Findings.severe_eq rest
    simp only [Findings.lowConfidence_mem_flags, Findings.highSeverityMisconceptions_mem_flags,
      unsure, severe, implies_true, and_self]
  · simp only [List.mem_append, Findings.contradiction_mem_flags, or_imp, forall_and] at separable
    exact differ (congrArg _ (Findings.eq_of_written_eq separable.1 separable.2 same))

/-- A rubric with a question about each of these concepts. -/
def onConcepts (concepts : List String) : Rubric where
  id := "r"
  assignmentId := "a"
  name := "R"
  status := .active
  concepts := concepts.map fun id =>
    { id, name := id, keywords := ["owner"]
      questions := [{ id := "about " ++ id, text := "Who frees it?", discrimination := 1
                      difficulty := 0 }] }

/-- A semicolon in a concept does no harm by itself. -/
theorem semicolon_in_concept_read :
    let policy : FlagPolicy := {}
    let joined := answering (onConcepts ["a;b"]) [("a;b", 1), ("a;b", 0)]
    let parted := answering (onConcepts ["a", "b"]) [("a", 1), ("b", 1), ("a", 0), ("b", 0)]
    ofSession policy joined = [contradiction "a;b"] ∧
      ofSession policy parted = [contradiction "a", contradiction "b"] ∧
      reason (ofSession policy joined) ≠ none ∧
      reason (ofSession policy joined) ≠ reason (ofSession policy parted) := by
  intro policy joined parted
  have flags : ofSession policy joined = [contradiction "a;b"] := by decide +kernel
  have flags' : ofSession policy parted = [contradiction "a", contradiction "b"] := by
    decide +kernel
  obtain ⟨empty, -, told⟩ := reasons_tell_flags policy policy joined parted
  rw [flags, flags'] at told
  rw [flags] at empty
  rw [flags, flags']
  refine ⟨rfl, rfl, mt empty.mp (by decide), told ?_ (by decide)⟩
  simp only [List.mem_append, List.mem_cons, List.not_mem_nil, or_false, contradiction.injEq,
    or_imp, forall_and, forall_eq]
  decide +kernel

/-- A concept of a checked rubric may read as two of another one. -/
theorem joined_concepts_read_as_two :
    let policy : FlagPolicy := {}
    let concept := "a;contradiction:b"
    let joined := answering (onConcepts [concept]) [(concept, 1), (concept, 0)]
    let parted := answering (onConcepts ["a", "b"]) [("a", 1), ("b", 1), ("a", 0), ("b", 0)]
    joined.rubric.Checked ∧ parted.rubric.Checked ∧
      ofSession policy joined ≠ ofSession policy parted ∧
      reason (ofSession policy joined) = some "contradiction:a;contradiction:b" ∧
      reason (ofSession policy parted) = some "contradiction:a;contradiction:b" := by
  intro policy concept joined parted
  exact ⟨(Rubric.isValid_iff _).mp (by decide +kernel), (Rubric.isValid_iff _).mp (by decide +kernel),
    by decide +kernel, by decide +kernel, by decide +kernel⟩

end OralExam.Flag
