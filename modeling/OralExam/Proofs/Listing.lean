import Mathlib.Algebra.Order.Floor.Div
import OralExam.Listing
import OralExam.Proofs.Arithmetic.Number
import OralExam.Proofs.Session.Measures
import OralExam.Proofs.Sorting

/-! Pages of session lists.

By whatever field and in whichever direction sessions are sorted, they are sorted by a rank: the value
of the field, or its opposite, and then the identifier. Identifiers are different, so there is one
order, and its pages are the pieces of one list.
-/

set_option autoImplicit false

namespace OralExam.Listing

open Double

/-! ## The order -/

/-- By the field, the first session comes below the second. -/
def SortField.Below (field : SortField) (a b : Summary Float) : Prop :=
  match field with
  | .startedAt => a.startedAt < b.startedAt
  | .attemptNumber => a.attempt < b.attempt
  | .overallScore => sortScore a < sortScore b

/-- The first session stands before the second: it is below it by the field, or above it if the order
is descending, or they agree in the field and it has the smaller identifier. -/
def SortOrder.Before (order : SortOrder) (a b : Summary Float) : Prop :=
  (if order.descending then order.field.Below b a else order.field.Below a b) ∨
    ¬order.field.Below a b ∧ ¬order.field.Below b a ∧ a.id < b.id

section

variable {order : SortOrder} {field : SortField} {a b : Summary Float}

theorem compareScores_spec (x y : Float) :
    (compareScores x y = .lt ↔ x < y) ∧ (compareScores x y = .gt ↔ y < x) := by
  unfold compareScores
  split_ifs with less more
  · obtain ⟨small, large⟩ := isNumber_of_lt less
    rw [small.lt_iff large] at less
    simp [large.lt_iff small, small.lt_iff large, less, less.le]
  · simp [less, more]
  · simp [less, more]

theorem SortField.compare_spec (field : SortField) (a b : Summary Float) :
    (field.compare a b = .lt ↔ field.Below a b) ∧ (field.compare a b = .gt ↔ field.Below b a) := by
  cases field with
  | startedAt => exact ⟨compare_lt_iff_lt, compare_gt_iff_gt⟩
  | attemptNumber => exact ⟨compare_lt_iff_lt, compare_gt_iff_gt⟩
  | overallScore => exact compareScores_spec _ _

/-- The comparison that sessions are sorted by. -/
theorem SortOrder.isLT_compare_iff : (order.compare a b).isLT ↔ order.Before a b := by
  obtain ⟨below, above⟩ := order.field.compare_spec a b
  have ids : Ord.compare a.id b.id = .lt ↔ a.id < b.id := compare_lt_iff_lt
  unfold SortOrder.compare SortOrder.Before
  rw [Ordering.isLT_iff_eq_lt, Ordering.then_eq_lt, ids, ← below, ← above]
  cases order.descending <;> cases order.field.compare a b <;> simp

/-! ## Ranks -/

/-- Its score is a number, if it has one. -/
def IsScored (s : Summary Float) : Prop := ∀ x ∈ s.overallScore, x.isNaN = false

instance (s : Summary Float) : Decidable (IsScored s) :=
  inferInstanceAs (Decidable (∀ x ∈ s.overallScore, _))

/-- The value of the field. -/
noncomputable def SortField.key (field : SortField) (s : Summary Float) : EReal :=
  match field with
  | .startedAt => (s.startedAt.nanoseconds : ℝ)
  | .attemptNumber => (s.attempt : ℝ)
  | .overallScore => number (sortScore s)

noncomputable def SortOrder.rank (order : SortOrder) (s : Summary Float) : EReal ×ₗ String :=
  toLex (if order.descending then -order.field.key s else order.field.key s, s.id)

theorem IsScored.isNumber {s : Summary Float} (scored : IsScored s) : IsNumber (sortScore s) := by
  unfold sortScore
  cases own : s.overallScore with
  | none => exact ⟨_, denotes_one.neg⟩
  | some x => exact isNumber_iff.mpr (scored x own)

theorem below_iff (scored : IsScored a) (scored' : IsScored b) :
    field.Below a b ↔ field.key a < field.key b := by
  cases field with
  | startedAt =>
    rw [SortField.key, SortField.key, EReal.coe_lt_coe_iff, Int.cast_lt]
    rfl
  | attemptNumber =>
    rw [SortField.key, SortField.key, EReal.coe_lt_coe_iff, Nat.cast_lt]
    rfl
  | overallScore => exact scored.isNumber.lt_iff scored'.isNumber

theorem before_iff (scored : IsScored a) (scored' : IsScored b) :
    order.Before a b ↔ order.rank a < order.rank b := by
  have agree : order.field.key b ≤ order.field.key a ∧ order.field.key a ≤ order.field.key b ↔
      order.field.key a = order.field.key b := and_comm.trans le_antisymm_iff.symm
  unfold SortOrder.Before SortOrder.rank
  rw [Prod.Lex.toLex_lt_toLex, below_iff scored scored', below_iff scored' scored, not_lt, not_lt,
    ← and_assoc, agree]
  cases order.descending with
  | false => rfl
  | true => simp [EReal.neg_lt_neg_iff]

/-- A missing score comes below all that a session can have. -/
theorem below_of_missing (missing : a.overallScore = none) {x : Float}
    (given : b.overallScore = some x) (share : isShare x) : SortField.overallScore.Below a b := by
  -- A missing score counts as minus one, and a share is not negative.
  obtain ⟨v, denotes, nonneg, -⟩ := between_of_isShare share
  have negative : ((-1 : ℝ) : EReal) < v := EReal.coe_lt_coe_iff.mpr (by linarith)
  simp only [SortField.Below, sortScore, missing, given, Option.getD_none, Option.getD_some]
  exact (denotes_one.neg.lt_iff denotes).mpr negative

/-- Some of these sessions are sorted by their ranks, which are different. -/
theorem ranks_filter (order : SortOrder) {sessions : List (Summary Float)}
    (distinct : (sessions.map Summary.id).Nodup) (scored : ∀ s ∈ sessions, IsScored s)
    (p : Summary Float → Bool) :
    Sorting.Ranks order.rank (fun a b => (order.compare a b).isLT) (sessions.filter p) ∧
      ((sessions.filter p).map order.rank).Nodup := by
  constructor
  · intro a mem b mem'
    rw [SortOrder.isLT_compare_iff, before_iff (scored a (List.mem_of_mem_filter mem))
      (scored b (List.mem_of_mem_filter mem'))]
  · exact Sorting.nodup_ranks _ (distinct.sublist (List.filter_sublist.map Summary.id))

end

/-! ## Lists in order -/

/-- The status is the one asked for, if one is. -/
def HasStatus (status : Option Status) (s : Summary Float) : Prop := ∀ x ∈ status, s.status = x

instance (status : Option Status) (s : Summary Float) : Decidable (HasStatus status s) :=
  inferInstanceAs (Decidable (∀ x ∈ status, _))

section

variable {sessions sessions' : List (Summary Float)} {status : Option Status} {order : SortOrder}

theorem ordered_perm (status : Option Status) (order : SortOrder)
    (sessions : List (Summary Float)) :
    (ordered status order sessions).Perm (sessions.filter fun s => HasStatus status s) := by
  refine (Sorting.sort_perm _ _).trans ?_
  rw [List.filter_congr]
  intro s _
  cases status <;> simp [HasStatus]

theorem mem_ordered {s : Summary Float} (member : s ∈ ordered status order sessions) :
    s ∈ sessions :=
  List.mem_of_mem_filter ((ordered_perm status order sessions).mem_iff.mp member)

theorem pairwise_ordered (distinct : (sessions.map Summary.id).Nodup)
    (scored : ∀ s ∈ sessions, IsScored s) :
    (ordered status order sessions).Pairwise order.Before := by
  obtain ⟨ranks, apart⟩ := ranks_filter order distinct scored fun s => status.all (s.status = ·)
  refine (Sorting.pairwise_sort_lt ranks apart).imp_of_mem ?_
  intro a b mem mem' less
  exact (before_iff (scored a (mem_ordered mem)) (scored b (mem_ordered mem'))).mpr less

theorem ordered_eq_of_perm (distinct : (sessions.map Summary.id).Nodup)
    (scored : ∀ s ∈ sessions, IsScored s) (perm : sessions.Perm sessions') :
    ordered status order sessions = ordered status order sessions' := by
  obtain ⟨ranks, apart⟩ := ranks_filter order distinct scored fun s => status.all (s.status = ·)
  exact Sorting.sort_eq_of_perm ranks apart (perm.filter _)

end

/-! ## Pages -/

/-- The pages show one list piece by piece. -/
structure ShowsPiecewise (listed : List (Summary Float)) (size : Nat)
    (pageAt : Nat → Page Float) : Prop where
  number : ∀ n, (pageAt n).page = n ∧ (pageAt n).size = size
  totalElements : ∀ n, (pageAt n).totalElements = listed.length
  totalPages : ∀ n, (pageAt n).totalPages = listed.length ⌈/⌉ size
  whole : (List.range (listed.length ⌈/⌉ size)).flatMap (fun n => (pageAt n).items) = listed
  full : ∀ n, n + 1 < listed.length ⌈/⌉ size → (pageAt n).items.length = size
  beyond : ∀ n, listed.length ⌈/⌉ size ≤ n → (pageAt n).items = []

theorem flatMap_pieces {α : Type} (xs : List α) (size count : Nat) :
    (List.range count).flatMap (fun n => (xs.drop (n * size)).take size) =
      xs.take (count * size) := by
  induction count with
  | zero => simp
  | succ count ih =>
    rw [List.range_succ, List.flatMap_append, ih, Nat.succ_mul, List.take_add]
    simp

theorem showsPiecewise (listed : List (Summary Float)) {size : Nat} (positive : 0 < size) :
    ShowsPiecewise listed size fun n =>
      { items := (listed.drop (n * size)).take size
        page := n
        size
        totalElements := listed.length
        totalPages := (listed.length + size - 1) / size } := by
  constructor
  case number => exact fun n => ⟨rfl, rfl⟩
  case totalElements => exact fun n => rfl
  case totalPages => exact fun n => (Nat.ceilDiv_eq_add_pred_div _ _).symm
  case whole =>
    have enough : listed.length ≤ size * (listed.length ⌈/⌉ size) :=
      (ceilDiv_le_iff_le_mul positive).mp le_rfl
    rw [flatMap_pieces, List.take_of_length_le (Nat.mul_comm _ _ ▸ enough)]
  case full =>
    intro n later
    have more : size * (n + 1) < listed.length :=
      not_le.mp (mt (ceilDiv_le_iff_le_mul positive).mpr later.not_ge)
    rw [Nat.mul_succ, Nat.mul_comm] at more
    rw [List.length_take, List.length_drop]
    omega
  case beyond =>
    intro n past
    have all := (ceilDiv_le_iff_le_mul positive).mp past
    rw [List.drop_of_length_le (Nat.mul_comm _ _ ▸ all), List.take_nil]

theorem pageSize_bounds (requested : Option Nat) :
    1 ≤ pageSize requested ∧ pageSize requested ≤ 100 := by
  unfold pageSize
  omega

theorem page_eq {sessions : List (Summary Float)} {q : Query} {status : Option Status}
    {order : SortOrder} (asked : requestedStatus q.status = .ok status)
    (sorted : SortOrder.parse q.sort = .ok order) :
    page sessions q = .ok
      { items := ((ordered status order sessions).drop
          (q.page.getD 0 * pageSize q.size)).take (pageSize q.size)
        page := q.page.getD 0
        size := pageSize q.size
        totalElements := (ordered status order sessions).length
        totalPages := ((ordered status order sessions).length + pageSize q.size - 1) /
          pageSize q.size } := by
  rw [page, asked, sorted]
  rfl

/-- For sessions with different identifiers, whose scores are numbers, and a query whose status and
order can be read, there is one list: the sessions of the status asked for, each once, in the order
asked for, where a missing score comes below all that a session can have. The pages of the query, which
hold from 1 to 100 sessions, show this list piece by piece, and nothing beyond its end; and the order in
which the sessions came does not matter. -/
theorem pages_show_all (sessions : List (Summary Float))
    (distinct : (sessions.map Summary.id).Nodup) (scored : ∀ s ∈ sessions, IsScored s) (q : Query)
    (status : Option Status) (asked : requestedStatus q.status = .ok status) (order : SortOrder)
    (sorted : SortOrder.parse q.sort = .ok order) :
    ∃ (listed : List (Summary Float)) (pageAt : Nat → Page Float),
      listed.Perm (sessions.filter fun s => HasStatus status s) ∧ listed.Nodup ∧
      listed.Pairwise order.Before ∧
      (∀ a b, a.overallScore = none → ∀ x, b.overallScore = some x → isShare x →
        SortField.overallScore.Below a b) ∧
      (∀ n, page sessions { q with page := some n } = .ok (pageAt n)) ∧
      page sessions { q with page := none } = .ok (pageAt 0) ∧
      (1 ≤ pageSize q.size ∧ pageSize q.size ≤ 100) ∧
      ShowsPiecewise listed (pageSize q.size) pageAt ∧
      ∀ sessions', sessions.Perm sessions' → page sessions' q = page sessions q := by
  have unrepeated : sessions.Nodup := distinct.of_map _
  refine ⟨ordered status order sessions, _, ordered_perm status order sessions, ?_,
    pairwise_ordered distinct scored, ?_, fun n => page_eq asked sorted, page_eq asked sorted,
    pageSize_bounds q.size, showsPiecewise _ (pageSize_bounds q.size).1, ?_⟩
  · exact (ordered_perm status order sessions).nodup_iff.mpr (unrepeated.filter _)
  · exact fun a b missing x given share => below_of_missing missing given share
  · intro sessions' perm
    rw [page_eq asked sorted, page_eq asked sorted, ordered_eq_of_perm distinct scored perm]

/-- Four completed sessions, one without a score and two with the same one. The best come first, the
equal ones by their identifiers, and the one without a score stands alone on the second page. -/
theorem scores_on_two_pages :
    let session (id : String) (overallScore : Option Float) : Summary Float :=
      { id, assignmentId := "a", studentId := id, attempt := 1, status := .completed
        startedAt := ⟨0⟩, completedAt := some ⟨60⟩, lastActivityAt := ⟨60⟩, questionsAnswered := 3
        theta := 0.0, standardError := 0.5, overallScore, level := none, passed := none
        flagged := false, flagReason := none, reviewed := false, scoreOverride := none }
    let sessions := [session "s1" none, session "s4" (some 0.5), session "s3" (some 0.25),
      session "s2" (some 0.5), { session "s5" (some 0.75) with status := .inProgress }]
    let q : Query := { status := some "COMPLETED", size := some 3, sort := some "overallScore, DESC" }
    (sessions.map Summary.id).Nodup ∧ (∀ s ∈ sessions, IsScored s) ∧
    requestedStatus q.status = .ok (some .completed) ∧
    SortOrder.parse q.sort = .ok ⟨.overallScore, true⟩ ∧
    (page sessions q).map (fun p => p.items.map Summary.id) = .ok ["s2", "s4", "s3"] ∧
    (page sessions { q with page := some 1 }).map (fun p => p.items.map Summary.id) = .ok ["s1"] ∧
    ∀ sessions', sessions.Perm sessions' → page sessions' q = page sessions q := by
  intro session sessions q
  have distinct : (sessions.map Summary.id).Nodup := by decide
  have scored : ∀ s ∈ sessions, IsScored s := by decide +kernel
  have asked : requestedStatus q.status = .ok (some .completed) := by decide +kernel
  have sorted : SortOrder.parse q.sort = .ok ⟨.overallScore, true⟩ := by decide +kernel
  obtain ⟨_, _, -, -, -, -, -, -, -, -, unordered⟩ :=
    pages_show_all sessions distinct scored q _ asked _ sorted
  exact ⟨distinct, scored, asked, sorted, by decide +kernel, by decide +kernel, unordered⟩

end OralExam.Listing
