import OralExam.Proofs.Arithmetic.Bounds
import OralExam.Proofs.Session.Dialogue

/-! The times that a session notes.

A session notes when it started, when each turn was taken, when something last happened in it and
when it ended. If each deed comes no earlier than the latest activity, then the times agree with each
other: turns stand in the order of their times, the latest activity is the last turn and then the end,
and the latency of an answer is what lies between it and its question.
-/

set_option autoImplicit false

namespace OralExam

open Double

namespace Instant

instance : Preorder Instant where
  le_refl t := Int.le_refl t.nanoseconds
  le_trans _ _ _ := Int.le_trans
  lt_iff_le_not_ge _ _ := Int.lt_iff_le_and_not_ge

/-- From the start to the end it is that number of whole units, each of so many nanoseconds. -/
def Spans (unit n : Nat) (start t : Instant) : Prop :=
  start.nanoseconds + n * unit ≤ t.nanoseconds ∧ t.nanoseconds < start.nanoseconds + (n + 1) * unit

theorem spans_tdiv {start t : Instant} (le : start ≤ t) {unit : Nat} (positive : 0 < unit) :
    ∃ n : Nat, (t.nanoseconds - start.nanoseconds).tdiv unit = n ∧ Spans unit n start t := by
  have nonneg : 0 ≤ t.nanoseconds - start.nanoseconds := Int.sub_nonneg.mpr le
  have above : (0 : Int) < unit := by exact_mod_cast positive
  rw [Int.tdiv_eq_ediv_of_nonneg nonneg]
  obtain ⟨n, same⟩ := Int.eq_ofNat_of_zero_le (Int.ediv_nonneg nonneg above.le)
  refine ⟨n, same, ?_⟩
  -- The quotient times the unit, and the rest, which is less than a unit.
  have parts := Int.mul_ediv_add_emod (t.nanoseconds - start.nanoseconds) unit
  have rest := Int.emod_nonneg (t.nanoseconds - start.nanoseconds) above.ne'
  have less := Int.emod_lt_of_pos (t.nanoseconds - start.nanoseconds) above
  rw [same, mul_comm] at parts
  constructor
  · linarith
  · linarith

end Instant

/-- The `k`-th answer was given in the turn after its question, and its latency is the number of whole
milliseconds from one to the other, in seconds. -/
structure Answer.TimedBy (turns : List Turn) (k : Nat) (a : Answer) : Prop where
  exchange : ∃ question reply : Turn,
    turns[2 * k]? = some question ∧ turns[2 * k + 1]? = some reply ∧
    question.speaker = .examiner ∧ reply.speaker = .student ∧ reply.number = a.turnNumber ∧
    ∃ n : Nat, Instant.Spans 1000000 n question.timestamp reply.timestamp ∧
      a.latencySeconds = Float.ofNat n / 1000.0
  nonneg : 0 ≤ a.latencySeconds

theorem Answer.TimedBy.append {turns : List Turn} {k : Nat} {a : Answer} (timed : a.TimedBy turns k)
    (later : List Turn) : a.TimedBy (turns ++ later) k := by
  obtain ⟨question, reply, asked, replied, rest⟩ := timed.exchange
  exact ⟨⟨question, reply, selected_append asked later, selected_append replied later, rest⟩,
    timed.nonneg⟩

theorem latency_nonneg (n : Nat) : 0 ≤ Float.ofNat n / 1000.0 := by
  have thousand : Denotes 1000.0 (1000 : ℝ) := by
    rw [show (1000.0 : Float) = Float.ofNat 1000 by decide +kernel]
    exact_mod_cast denotes_natCast (n := 1000) (by decide)
  have count : 0 ≤ Rounding.rounded n :=
    Rounding.exact_zero.ge.trans (Rounding.rounded_mono (Nat.cast_nonneg n))
  obtain ⟨v, denotes, nonneg⟩ := div_nonneg_of_pos (denotes_ofNat n) count thousand (by norm_num)
  exact (denotes_zero.le_iff denotes).mpr nonneg

namespace Session

variable {settings : Settings} {s s' : Session} {deed : Deed} {now : Instant}

/-! ## Times noted -/

section

variable (s : Session) (c : Concept) (q : Question) (now : Instant)

@[simp] theorem startedAt_ask : (s.ask c q now).startedAt = s.startedAt := by rfl

@[simp] theorem lastActivityAt_ask : (s.ask c q now).lastActivityAt = now := by rfl

@[simp] theorem completedAt_ask : (s.ask c q now).completedAt = s.completedAt := by rfl

variable (settings : Settings) (pending : Pending) (transcript : String) (similarity : Option Float)

@[simp] theorem startedAt_scored :
    (s.scored settings pending c q transcript similarity now).startedAt = s.startedAt := by
  simp only [scored, withAnswer, estimated, withTurn]

@[simp] theorem lastActivityAt_scored :
    (s.scored settings pending c q transcript similarity now).lastActivityAt = now := by
  simp only [scored, withAnswer]

@[simp] theorem completedAt_scored :
    (s.scored settings pending c q transcript similarity now).completedAt = s.completedAt := by
  simp only [scored, withAnswer, estimated, withTurn]

variable (status : Status) (termination : Termination) (reason : Option String)

@[simp] theorem startedAt_finish :
    (s.finish settings status termination reason now).1.startedAt = s.startedAt := by rfl

@[simp] theorem lastActivityAt_finish :
    (s.finish settings status termination reason now).1.lastActivityAt = now := by rfl

@[simp] theorem completedAt_finish :
    (s.finish settings status termination reason now).1.completedAt = some now := by rfl

@[simp] theorem secondsSpent_finish :
    (s.finish settings status termination reason now).1.secondsSpent =
      max (now.secondsSince s.startedAt) 0 := by rfl

end

/-! ## Times that agree -/

/-- The turns stand in the order of their times, after the start and up to the latest activity, and
the answers are timed by them. -/
structure InOrder (s : Session) : Prop where
  started : s.startedAt ≤ s.lastActivityAt
  turns : ∀ turn ∈ s.turns, s.startedAt ≤ turn.timestamp ∧ turn.timestamp ≤ s.lastActivityAt
  ordered : s.turns.Pairwise fun turn later => turn.timestamp ≤ later.timestamp
  answers : ∀ k (a : Answer), s.answers[k]? = some a → a.TimedBy s.turns k

/-- The last turn is a question, asked at that time, that waits for an answer. -/
def WaitsSince (s : Session) (since : Instant) : Prop :=
  ∃ earlier question, s.turns = earlier ++ [question] ∧ earlier.length = 2 * s.answers.length ∧
    question.speaker = .examiner ∧ question.timestamp = since ∧
    ∀ pending, s.pending = some pending → pending.askedAt = since

/-- The times of a session agree with each other. While it goes on, its latest activity is its last
turn, and once it has ended, its end. -/
structure Timely (s : Session) : Prop extends InOrder s where
  going : ¬s.status.isTerminal → s.completedAt = none ∧ s.WaitsSince s.lastActivityAt
  ended : s.status.isTerminal → s.completedAt = some s.lastActivityAt ∧
    ∃ n : Nat, s.secondsSpent = n ∧ Instant.Spans 1000000000 n s.startedAt s.lastActivityAt

/-- One more turn at the time of the latest activity. -/
theorem InOrder.append (inOrder : s.InOrder) {turn : Turn} (start : s'.startedAt = s.startedAt)
    (turns : s'.turns = s.turns ++ [turn]) (latest : turn.timestamp = s'.lastActivityAt)
    (later : s.lastActivityAt ≤ s'.lastActivityAt)
    (answers : ∀ k (a : Answer), s'.answers[k]? = some a → a.TimedBy s'.turns k) : s'.InOrder := by
  have started : s'.startedAt ≤ s'.lastActivityAt := start ▸ inOrder.started.trans later
  refine ⟨started, ?_, ?_, answers⟩
  · intro other member
    rw [turns] at member
    rcases List.mem_append.mp member with old | new
    · obtain ⟨after, before⟩ := inOrder.turns other old
      exact ⟨start ▸ after, before.trans later⟩
    · cases List.mem_singleton.mp new
      rw [latest]
      exact ⟨started, le_rfl⟩
  · rw [turns, List.pairwise_append]
    refine ⟨inOrder.ordered, List.pairwise_singleton _ _, ?_⟩
    intro other old new member
    cases List.mem_singleton.mp member
    rw [latest]
    exact (inOrder.turns other old).2.trans later

theorem InOrder.ask (inOrder : s.InOrder) (c : Concept) (q : Question)
    (later : s.lastActivityAt ≤ now) : (s.ask c q now).InOrder := by
  refine inOrder.append (startedAt_ask s c q now) (turns_ask s c q now) rfl later ?_
  intro k a selected
  rw [turns_ask]
  exact (inOrder.answers k a selected).append _

/-- The answer comes in the turn after the question that waits for it. -/
theorem InOrder.scored (inOrder : s.InOrder) (waits : s.WaitsSince s.lastActivityAt)
    {pending : Pending} (waiting : s.pending = some pending) (settings : Settings) (c : Concept)
    (q : Question) (transcript : String) (similarity : Option Float)
    (later : s.lastActivityAt ≤ now) :
    (s.scored settings pending c q transcript similarity now).InOrder := by
  have turns := turns_scored s c q now settings pending transcript similarity
  refine inOrder.append (startedAt_scored ..) turns (lastActivityAt_scored ..).symm
    (by rwa [lastActivityAt_scored]) ?_
  intro k a selected
  rw [answers_scored] at selected
  rw [turns]
  rcases selected_or_last selected with old | ⟨rfl, rfl⟩
  · exact (inOrder.answers k a old).append _
  · obtain ⟨earlier, question, split, length, speaker, asked, since⟩ := waits
    obtain ⟨n, count, spans⟩ := Instant.spans_tdiv later (show 0 < 1000000 by decide)
    have latency : (s.answerTo settings pending c q transcript similarity now).latencySeconds =
        Float.ofNat n / 1000.0 := by
      simp only [answerTo, since pending waiting, Instant.millisecondsSince]
      rw [show (1000000 : Int) = (1000000 : Nat) from rfl, count]
      rfl
    have nonneg := latency_nonneg n
    rw [← latency] at nonneg
    refine ⟨⟨question, ⟨s.nextTurnNumber, .student, transcript, some q.id, now⟩, ?_, ?_, speaker, rfl,
      rfl, n, ?_, latency⟩, nonneg⟩
    · rw [split, ← length]
      exact selected_append List.getElem?_concat_length _
    · rw [show 2 * s.answers.length + 1 = s.turns.length by rw [split]; simp [length]]
      exact List.getElem?_concat_length
    · rw [asked]
      exact spans

theorem waitsSince_ask (count : s.turns.length = 2 * s.answers.length) (c : Concept) (q : Question)
    (now : Instant) : (s.ask c q now).WaitsSince now := by
  refine ⟨s.turns, _, turns_ask s c q now, count, rfl, rfl, ?_⟩
  intro pending waiting
  rw [pending_ask] at waiting
  cases waiting
  rfl

/-- After the answer the log is even again. -/
theorem WaitsSince.length_scored {since : Instant} (waits : s.WaitsSince since) (settings : Settings)
    (pending : Pending) (c : Concept) (q : Question) (transcript : String)
    (similarity : Option Float) (now : Instant) :
    (s.scored settings pending c q transcript similarity now).turns.length =
      2 * (s.scored settings pending c q transcript similarity now).answers.length := by
  obtain ⟨earlier, question, split, length, -⟩ := waits
  rw [turns_scored, answers_scored, split]
  simp only [List.length_append, List.length_singleton, length]
  omega

theorem Timely.finish (inOrder : s.InOrder) (settings : Settings) {status : Status}
    (ended : status.isTerminal) (termination : Termination) (reason : Option String)
    (later : s.lastActivityAt ≤ now) :
    (s.finish settings status termination reason now).1.Timely := by
  have started := inOrder.started.trans later
  constructor
  · refine ⟨started, ?_, inOrder.ordered, inOrder.answers⟩
    intro turn member
    obtain ⟨after, before⟩ := inOrder.turns turn member
    exact ⟨after, before.trans later⟩
  · intro going
    exact absurd ended going
  · intro _
    obtain ⟨n, count, spans⟩ := Instant.spans_tdiv started (show 0 < 1000000000 by decide)
    refine ⟨rfl, n, ?_, spans⟩
    rw [secondsSpent_finish, Instant.secondsSince,
      show (1000000000 : Int) = (1000000000 : Nat) from rfl, count]
    exact max_eq_left (Int.natCast_nonneg n)

/-- So the times agree when a session opens. -/
theorem timely_opened (id studentId : String) (attempt : Nat) (assignment : Assignment)
    (rubric : Rubric) (prior : Ability.Estimate Float) (now : Instant) (c : Concept) (q : Question) :
    ((blank id studentId attempt assignment rubric prior now).ask c q now).Timely := by
  have blank : (blank id studentId attempt assignment rubric prior now).InOrder := by
    refine ⟨le_rfl, ?_, .nil, ?_⟩
    · intro turn member
      cases member
    · intro k a selected
      cases selected
  refine ⟨blank.ask c q le_rfl, fun _ => ⟨rfl, waitsSince_ask rfl c q now⟩, ?_⟩
  intro ended
  cases ended

/-- A deed that comes no earlier than the latest activity keeps the times in agreement. -/
theorem Step.timely (timely : s.Timely) (step : Step settings s deed s')
    (later : s.lastActivityAt ≤ deed.now) : s'.Timely := by
  have inOrder := timely.toInOrder
  cases step with
  | refused => exact timely
  | failed going missing => exact .finish inOrder settings rfl _ _ later
  | @asked transcript similarity now pending c q a chosen going waiting scored rule choice =>
    subst scored
    have running : ¬s.status.isTerminal := by simp [going, Status.isTerminal]
    obtain ⟨open_, waits⟩ := timely.going running
    have answered := inOrder.scored waits (pendingQuestion?_eq_some_iff.mp waiting).1 settings c q
      transcript similarity later
    have count := waits.length_scored settings pending c q transcript similarity now
    refine ⟨answered.ask _ _ (lastActivityAt_scored ..).le, ?_, ?_⟩
    · intro _
      rw [completedAt_ask, completedAt_scored]
      exact ⟨open_, waitsSince_ask count _ _ now⟩
    · intro ended
      rw [status_ask, status_scored] at ended
      exact absurd ended running
  | @completed transcript similarity now pending c q a termination going waiting scored why =>
    subst scored
    have running : ¬s.status.isTerminal := by simp [going, Status.isTerminal]
    have answered := inOrder.scored (timely.going running).2
      (pendingQuestion?_eq_some_iff.mp waiting).1 settings c q transcript similarity later
    exact .finish answered settings rfl _ _ (lastActivityAt_scored ..).le
  | submitted | abandoned | idled => exact .finish inOrder settings rfl _ _ later
  | reviewed ended done =>
    subst done
    exact ⟨⟨inOrder.started, inOrder.turns, inOrder.ordered, inOrder.answers⟩, timely.going,
      timely.ended⟩

/-- The latest activity is never later than the latest deed. -/
theorem Step.lastActivityAt_le (step : Step settings s deed s')
    (later : s.lastActivityAt ≤ deed.now) : s'.lastActivityAt ≤ deed.now := by
  cases step with
  | refused => exact later
  | failed | asked | completed | submitted | abandoned | idled => exact le_rfl
  | reviewed ended done =>
    subst done
    exact later

end Session

end OralExam
