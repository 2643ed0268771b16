import OralExam.Proofs.Listing
import OralExam.Proofs.Text.Fields

/-! The sort texts that are understood.

A sort text names a field and may give a direction after a comma, with blanks around both. Such a text is
read as the order that it asks for. What stands after a second comma is not read, so it does not make a
text refused; every other text is.
-/

set_option autoImplicit false

namespace OralExam

/-! ## Letters of either case -/

namespace Text

section

variable {letters word : List Char} {letter c : Char}

/-- The word has these letters, each of them small or as a capital. -/
def InEitherCase (letters word : List Char) : Prop :=
  List.Forall₂ (fun letter c => c = letter ∨ c = letter.toUpper) letters word

theorem toLower_eq_iff (small : letter.isLower) :
    c.toLower = letter ↔ c = letter ∨ c = letter.toUpper := by
  have kept : letter.toLower = letter :=
    Char.toLower_eq_of_not_isUpper (Char.not_isUpper_of_isLower small)
  constructor
  · rintro rfl
    by_cases capital : c.isUpper
    · rw [Char.toUpper_toLower_eq_toUpper,
        Char.toUpper_eq_of_not_isLower (Char.not_isLower_of_isUpper capital)]
      exact .inr rfl
    · exact .inl (Char.toLower_eq_of_not_isUpper capital).symm
  · rintro (rfl | rfl)
    · exact kept
    · rw [Char.toLower_toUpper_eq_toLower, kept]

theorem map_toLower_eq_iff (small : letters.all Char.isLower) :
    word.map Char.toLower = letters ↔ InEitherCase letters word := by
  unfold InEitherCase
  induction letters generalizing word with
  | nil => simp
  | cons letter letters ih =>
    rw [List.all_cons, Bool.and_eq_true] at small
    cases word with
    | nil => simp
    | cons c word =>
      rw [List.map_cons, List.cons.injEq, List.forall₂_cons, toLower_eq_iff small.1, ih small.2]

theorem InEitherCase.all {p : Char → Bool} (cased : InEitherCase letters word)
    (both : letters.all fun letter => p letter && p letter.toUpper) : word.all p := by
  induction cased with
  | nil => rfl
  | cons first _ ih =>
    rw [List.all_cons, Bool.and_eq_true, Bool.and_eq_true] at both
    obtain ⟨⟨small, capital⟩, others⟩ := both
    rw [List.all_cons, ih others, Bool.and_true]
    rcases first with rfl | rfl
    · exact small
    · exact capital

end

end Text

namespace Listing

open Text

/-! ## What is asked for -/

def SortField.name : SortField → String
  | .startedAt => "startedAt"
  | .attemptNumber => "attemptNumber"
  | .overallScore => "overallScore"

def directionWord (descending : Bool) : String := if descending then "desc" else "asc"

def Names (field : SortField) (text : List Char) : Prop := Pads field.name.toList text

def Directs (descending : Bool) (text : List Char) : Prop :=
  ∃ word, InEitherCase (directionWord descending).toList word ∧ Pads word text

/-- What a sort text asks for: newest first if there is none, or a field, ascending if no direction
follows. -/
inductive Asks : Option String → SortOrder → Prop where
  | missing : Asks none ⟨.startedAt, true⟩
  | blank {text : String} (blank : isBlank text) : Asks (some text) ⟨.startedAt, true⟩
  | field {text : String} {field : SortField} (names : Names field text.toList) :
      Asks (some text) ⟨field, false⟩
  | directed {text : String} {first second : List Char} {field : SortField} {descending : Bool}
      (split : text.toList = first ++ ',' :: second) (names : Names field first)
      (directs : Directs descending second) : Asks (some text) ⟨field, descending⟩

/-- The text asks for a field and a direction, and goes on after another comma. -/
inductive AsksAndMore : Option String → SortOrder → Prop where
  | intro {text : String} {first second rest : List Char} {field : SortField} {descending : Bool}
      (split : text.toList = first ++ ',' :: (second ++ ',' :: rest)) (names : Names field first)
      (directs : Directs descending second) : AsksAndMore (some text) ⟨field, descending⟩

/-! ## Fields and directions -/

/-- Neither a comma nor a blank, which are what a sort text is cut at. -/
def isKept (c : Char) : Bool := !isBlankChar c && c != ','

section

variable {text word first second rest : List Char} {field : SortField} {descending : Bool}

theorem trimmed_eq_iff_of_kept (kept : word.all isKept) : trimmed text = word ↔ Pads word text := by
  refine trimmed_eq_iff fun c member => ?_
  have both := List.all_eq_true.mp kept c member
  simp only [isKept, Bool.and_eq_true, Bool.not_eq_true'] at both
  exact both.1

theorem comma_notMem_of_pads (kept : word.all isKept) (pads : Pads word text) : ',' ∉ text := by
  obtain ⟨before, after, rfl, left, right⟩ := pads
  have solid : isBlankChar ',' = false := by decide
  simp only [List.mem_append, not_or]
  refine ⟨⟨fun member => ?_, fun member => ?_⟩, fun member => ?_⟩
  · exact absurd (left _ member) (by simp [solid])
  · exact absurd (List.all_eq_true.mp kept _ member) (by simp [isKept])
  · exact absurd (right _ member) (by simp [solid])

theorem name_kept : field.name.toList.all isKept := by cases field <;> decide +kernel

theorem Names.comma_notMem (names : Names field text) : ',' ∉ text :=
  comma_notMem_of_pads name_kept names

theorem sortField_eq_ok {name : String} : sortField name = .ok field ↔ name = field.name := by
  unfold sortField
  split
  case h_4 => cases field <;> simp_all [SortField.name]
  all_goals cases field <;> simp [SortField.name]

theorem sortField_trimmed :
    sortField (String.ofList (trimmed text)) = .ok field ↔ Names field text := by
  rw [sortField_eq_ok, Names, ← trimmed_eq_iff_of_kept name_kept, ← String.toList_inj,
    String.toList_ofList]

theorem kept_of_inEitherCase (cased : InEitherCase (directionWord descending).toList word) :
    word.all isKept :=
  cased.all (by cases descending <;> decide +kernel)

theorem Directs.comma_notMem (directs : Directs descending text) : ',' ∉ text := by
  obtain ⟨word, cased, pads⟩ := directs
  exact comma_notMem_of_pads (kept_of_inEitherCase cased) pads

theorem sortDirection_eq_ok {word : String} :
    sortDirection word = .ok descending ↔ word = directionWord descending := by
  unfold sortDirection
  split
  case h_3 => cases descending <;> simp_all [directionWord]
  all_goals cases descending <;> simp [directionWord]

theorem sortDirection_trimmed :
    sortDirection (lowerLatin (String.ofList (trimmed text))) = .ok descending ↔
      Directs descending text := by
  rw [sortDirection_eq_ok, lowerLatin, ← String.toList_inj, String.toList_map, String.toList_ofList,
    map_toLower_eq_iff (by cases descending <;> decide)]
  constructor
  · exact fun cased => ⟨_, cased, pads_trimmed text⟩
  · rintro ⟨word, cased, pads⟩
    rwa [(trimmed_eq_iff_of_kept (kept_of_inEitherCase cased)).mpr pads]

end

/-! ## Reading -/

section

variable {text : String} {first second rest : List Char} {name direction : String}
  {others : List String} {order : SortOrder} {asked : Option String}

theorem not_isBlank_of_mem {c : Char} (member : c ∈ text.toList) (solid : isBlankChar c = false) :
    isBlank text = false :=
  Bool.eq_false_iff.mpr fun blank => by simpa [solid] using List.all_eq_true.mp blank c member

theorem sortParts_single (single : ',' ∉ text.toList) :
    sortParts text = [String.ofList (trimmed text.toList)] := by
  rw [sortParts, fields_of_forall]
  · rfl
  · exact fun c member => decide_eq_false fun comma => single (comma ▸ member)

theorem sortParts_comma (split : text.toList = first ++ ',' :: rest) (single : ',' ∉ first) :
    sortParts text = String.ofList (trimmed first) :: sortParts (String.ofList rest) := by
  rw [sortParts, sortParts, split, fields_first, String.toList_ofList]
  · rfl
  · exact fun c member => decide_eq_false fun comma => single (comma ▸ member)
  · rfl

theorem parse_blank (blank : isBlank text) :
    SortOrder.parse (some text) = .ok ⟨.startedAt, true⟩ := by
  simp [SortOrder.parse, Option.filter, blank]

theorem parse_some (solid : isBlank text = false) :
    SortOrder.parse (some text) = (do
      let field ← sortField ((sortParts text).headD "")
      match (sortParts text)[1]? with
      | none => .ok ⟨field, false⟩
      | some direction => .ok ⟨field, ← sortDirection (lowerLatin direction)⟩) := by
  rw [SortOrder.parse, Option.filter, solid]
  rfl

/-- Without a comma the text is the field. -/
theorem parse_single (solid : isBlank text = false) (single : ',' ∉ text.toList) :
    SortOrder.parse (some text) = .ok order ↔
      Names order.field text.toList ∧ order.descending = false := by
  obtain ⟨field, descending⟩ := order
  rw [parse_some solid, sortParts_single single, ← sortField_trimmed]
  cases read : sortField (String.ofList (trimmed text.toList)) <;>
    simp [read, bind, Except.bind, eq_comm]

/-- Of a text with commas the first part is the field and the second one the direction. -/
theorem parse_comma (split : text.toList = first ++ ',' :: rest) (single : ',' ∉ first)
    (next : sortParts (String.ofList rest) = String.ofList (trimmed second) :: others) :
    SortOrder.parse (some text) = .ok order ↔
      Names order.field first ∧ Directs order.descending second := by
  obtain ⟨field, descending⟩ := order
  have solid : isBlank text = false := not_isBlank_of_mem (c := ',') (by simp [split]) (by decide)
  rw [parse_some solid, sortParts_comma split single, next, ← sortField_trimmed,
    ← sortDirection_trimmed]
  cases read : sortField (String.ofList (trimmed first)) <;>
    cases read' : sortDirection (lowerLatin (String.ofList (trimmed second))) <;>
    simp [read, read', bind, Except.bind]

/-- A text without a second comma has one part after the first. -/
theorem parse_pair (split : text.toList = first ++ ',' :: second) (single : ',' ∉ first)
    (single' : ',' ∉ second) :
    SortOrder.parse (some text) = .ok order ↔
      Names order.field first ∧ Directs order.descending second := by
  have last : sortParts (String.ofList second) = [String.ofList (trimmed second)] := by
    rw [sortParts_single (by rwa [String.toList_ofList]), String.toList_ofList]
  exact parse_comma split single last

theorem parse_more (split : text.toList = first ++ ',' :: (second ++ ',' :: rest))
    (single : ',' ∉ first) (single' : ',' ∉ second) :
    SortOrder.parse (some text) = .ok order ↔
      Names order.field first ∧ Directs order.descending second :=
  parse_comma split single (sortParts_comma String.toList_ofList single')

theorem Names.not_isBlank {field : SortField} (names : Names field text.toList) :
    isBlank text = false := by
  obtain ⟨before, after, split, -⟩ := names
  have initial : ∃ c ∈ field.name.toList, isBlankChar c = false := by
    cases field <;> exact ⟨_, List.mem_cons_self, by decide⟩
  obtain ⟨c, member, solid⟩ := initial
  exact not_isBlank_of_mem (by simp [split, member]) solid

theorem Asks.parse_eq (asks : Asks asked order) : SortOrder.parse asked = .ok order := by
  cases asks with
  | missing => rfl
  | blank blank => exact parse_blank blank
  | field names => exact (parse_single names.not_isBlank names.comma_notMem).mpr ⟨names, rfl⟩
  | directed split names directs =>
    exact (parse_pair split names.comma_notMem directs.comma_notMem).mpr ⟨names, directs⟩

theorem AsksAndMore.parse_eq (asks : AsksAndMore asked order) :
    SortOrder.parse asked = .ok order := by
  obtain ⟨split, names, directs⟩ := asks
  exact (parse_more split names.comma_notMem directs.comma_notMem).mpr ⟨names, directs⟩

theorem asks_of_parse (read : SortOrder.parse asked = .ok order) :
    Asks asked order ∨ AsksAndMore asked order := by
  cases asked with
  | none =>
    obtain rfl := Except.ok.inj read
    exact .inl .missing
  | some text =>
    cases blank : isBlank text with
    | true =>
      obtain rfl := Except.ok.inj ((parse_blank blank).symm.trans read)
      exact .inl (.blank blank)
    | false =>
      -- The text is cut at its first comma, and what follows at the next one.
      by_cases comma : ',' ∈ text.toList
      · obtain ⟨first, rest, split, single⟩ := List.eq_append_cons_of_mem comma
        by_cases comma' : ',' ∈ rest
        · obtain ⟨second, rest, rfl, single'⟩ := List.eq_append_cons_of_mem comma'
          obtain ⟨names, directs⟩ := (parse_more split single single').mp read
          exact .inr (.intro split names directs)
        · obtain ⟨names, directs⟩ := (parse_pair split single comma').mp read
          exact .inl (.directed split names directs)
      · obtain ⟨field, descending⟩ := order
        obtain ⟨names, rfl⟩ := (parse_single blank comma).mp read
        exact .inl (.field names)

theorem parse_iff : SortOrder.parse asked = .ok order ↔ Asks asked order ∨ AsksAndMore asked order :=
  ⟨asks_of_parse, fun asks => asks.elim Asks.parse_eq AsksAndMore.parse_eq⟩

/-! ## Commas -/

def commas (asked : Option String) : Nat := (asked.getD "").toList.count ','

theorem Asks.commas_le (asks : Asks asked order) : commas asked ≤ 1 := by
  cases asks with
  | missing => exact zero_le_one
  | @blank text blank =>
    have none : ',' ∉ text.toList := fun comma => by
      rw [not_isBlank_of_mem comma (by decide)] at blank
      cases blank
    exact (List.count_eq_zero_of_not_mem none).le.trans zero_le_one
  | field names => exact (List.count_eq_zero_of_not_mem names.comma_notMem).le.trans zero_le_one
  | directed split names directs =>
    simp [commas, split, List.count_eq_zero_of_not_mem names.comma_notMem,
      List.count_eq_zero_of_not_mem directs.comma_notMem]

theorem AsksAndMore.lt_commas (asks : AsksAndMore asked order) : 1 < commas asked := by
  obtain ⟨split, names, directs⟩ := asks
  simp only [commas, Option.getD_some, split, List.count_append, List.count_cons_self]
  omega

theorem asks_iff : Asks asked order ↔ SortOrder.parse asked = .ok order ∧ commas asked ≤ 1 := by
  constructor
  · exact fun asks => ⟨asks.parse_eq, asks.commas_le⟩
  · rintro ⟨read, few⟩
    exact (asks_of_parse read).resolve_right fun more => more.lt_commas.not_ge few

/-! ## Refusals -/

variable {sessions : List (Summary Float)} {q : Query} {f : Failure}

theorem kind_of_bind {α β : Type} {x : Except Failure α} {next : α → Except Failure β}
    {kind : FailureKind} (first : ∀ f, x = .error f → f.kind = kind)
    (later : ∀ a f, next a = .error f → f.kind = kind) (refused : (x >>= next) = .error f) :
    f.kind = kind := by
  cases x with
  | error g => exact first f (congrArg Except.error (Except.error.inj refused))
  | ok a => exact later a f refused

theorem kind_of_sortField (refused : sortField name = .error f) : f.kind = .validation := by
  unfold sortField at refused
  split at refused <;> cases refused
  rfl

theorem kind_of_sortDirection (refused : sortDirection name = .error f) : f.kind = .validation := by
  unfold sortDirection at refused
  split at refused <;> cases refused
  rfl

theorem kind_of_parse (refused : SortOrder.parse asked = .error f) : f.kind = .validation := by
  unfold SortOrder.parse at refused
  split at refused
  · cases refused
  · refine kind_of_bind (fun _ => kind_of_sortField) (fun field f refused => ?_) refused
    split at refused
    · cases refused
    · exact kind_of_bind (fun _ => kind_of_sortDirection) (fun _ _ shown => by cases shown) refused

theorem kind_of_requestedStatus (refused : requestedStatus asked = .error f) :
    f.kind = .validation := by
  unfold requestedStatus at refused
  split at refused
  · cases refused
  · split at refused <;> cases refused
    rfl

theorem kind_of_page (refused : page sessions q = .error f) : f.kind = .validation := by
  refine kind_of_bind (fun _ => kind_of_requestedStatus) (fun status f refused => ?_) refused
  exact kind_of_bind (fun _ => kind_of_parse) (fun _ _ shown => by cases shown) refused

theorem page_eq_ok_iff : (∃ p, page sessions q = .ok p) ↔
    (∃ status, requestedStatus q.status = .ok status) ∧ ∃ order, SortOrder.parse q.sort = .ok order := by
  constructor
  · rintro ⟨p, shown⟩
    unfold page at shown
    cases asked : requestedStatus q.status with
    | error f => simp [asked, bind, Except.bind] at shown
    | ok status =>
      cases sorted : SortOrder.parse q.sort with
      | error f => simp [asked, sorted, bind, Except.bind] at shown
      | ok order => exact ⟨⟨status, rfl⟩, order, rfl⟩
  · rintro ⟨⟨status, asked⟩, order, sorted⟩
    exact ⟨_, page_eq asked sorted⟩

end

/-- A sort text is read as an order exactly if it asks for that order, or asks for it and goes on after
another comma; so among the texts with at most one comma just those that ask for an order are understood.
A list is shown exactly if the status and the sort text of the query are understood, and every refusal is a
failed validation. -/
theorem sort_texts_understood (sessions : List (Summary Float)) (q : Query) :
    (∀ order, SortOrder.parse q.sort = .ok order ↔ Asks q.sort order ∨ AsksAndMore q.sort order) ∧
      (∀ order, Asks q.sort order ↔ SortOrder.parse q.sort = .ok order ∧ commas q.sort ≤ 1) ∧
      ((∃ p, page sessions q = .ok p) ↔ (∃ status, requestedStatus q.status = .ok status) ∧
        ∃ order, Asks q.sort order ∨ AsksAndMore q.sort order) ∧
      ((∃ f, page sessions q = .error f ∧ f.kind = .validation) ↔
        ¬∃ p, page sessions q = .ok p) := by
  refine ⟨fun order => parse_iff, fun order => asks_iff, ?_, ?_⟩
  · rw [page_eq_ok_iff]
    simp only [parse_iff]
  · constructor
    · rintro ⟨f, refused, -⟩ ⟨p, shown⟩
      rw [refused] at shown
      cases shown
    · intro unshown
      cases result : page sessions q with
      | ok p => exact absurd ⟨p, result⟩ unshown
      | error f => exact ⟨f, rfl, kind_of_page result⟩

/-- What stands after the direction is not read, so that a second field is not refused. -/
theorem third_part_ignored :
    let asked := some "startedAt,desc,attemptNumber"
    SortOrder.parse asked = .ok ⟨.startedAt, true⟩ ∧ (¬∃ order, Asks asked order) ∧
      (page ([] : List (Summary Float)) { sort := asked }).toBool := by
  refine ⟨by decide +kernel, ?_, by decide +kernel⟩
  rintro ⟨order, asks⟩
  exact absurd asks.commas_le (by decide +kernel)

end Listing

end OralExam
