import AddonCheck.Proofs.Timeline
import Mathlib.Algebra.Order.Floor.Div

/-
This file shows how a wait ends that nobody cancels. The first evaluation that does not leave it
undecided ends it: one that converges or fails for good at any time, and one that finds nothing when
it ends at the deadline or later. With a positive interval the deadline is reached after a number of
evaluations that the interval and the timeout bound.
-/

namespace AddonCheck.Poll.Script

variable {script : Script} {index finish : Nat}

variable (script) in
/-- The wait gets to the evaluation, and ends with it. -/
def IsFirst (index : Nat) : Prop :=
  (∀ earlier < index, script.Undecided earlier) ∧ ¬ script.Undecided index

variable (script) in
/-- One evaluation for each interval that begins before the deadline, and one at the deadline.
Unless the wait starts with an evaluation, there is none at its start. -/
def mostEvaluations : Nat :=
  let intervals := script.wait.timeout.nanos ⌈/⌉ script.wait.interval.nanos
  if script.immediate then intervals + 1 else max 1 intervals

/-- Some evaluation within a bound is the first that decides, or none of them decides. -/
theorem exists_isFirst_or (script : Script) (bound : Nat) :
    (∃ index < bound, script.IsFirst index) ∨ ∀ index < bound, script.Undecided index := by
  induction bound with
  | zero => exact .inr fun index less => absurd less (Nat.not_lt_zero index)
  | succ bound inductionHypothesis =>
      rcases inductionHypothesis with ⟨index, less, first⟩ | undecided
      · exact .inl ⟨index, Nat.lt_succ_of_lt less, first⟩
      · by_cases last : script.Undecided bound
        · refine .inr fun index less => ?_
          rcases Nat.lt_succ_iff_lt_or_eq.mp less with earlier | rfl
          · exact undecided index earlier
          · exact last
        · exact .inl ⟨bound, Nat.lt_succ_self bound, undecided, last⟩

/-! ## The deadline -/

theorem eq_of_deadline? (found : script.deadline? = some finish) :
    finish = script.start + script.wait.timeout.nanos := by
  unfold deadline? deadline at found
  dsimp only at found
  split at found
  · cases found
    rfl
  · cases found

/-- No evaluation begins after the deadline. -/
theorem begins_le (undecided : ∀ earlier < index, script.Undecided earlier)
    (found : script.deadline? = some finish) : script.begins index ≤ finish := by
  cases index with
  | zero =>
      rw [eq_of_deadline? found, begins]
      split <;> omega
  | succ index =>
      have inTime := (inTime_iff found).mp (undecided index (Nat.lt_succ_self index)).2
      rw [begins_succ, rest, found]
      dsimp only
      omega

/-! ## How often a condition is evaluated -/

variable (script) in
/-- The number of intervals before an evaluation, if evaluations take no time. -/
def intervals (index : Nat) : Nat := if script.immediate then index else index + 1

variable (script) in
/-- What has passed of the timeout when so many intervals are over. -/
def passed (index : Nat) : Nat :=
  min (script.wait.interval.nanos * script.intervals index) script.wait.timeout.nanos

theorem intervals_succ (index : Nat) :
    script.intervals (index + 1) = script.intervals index + 1 := by
  unfold intervals
  split <;> rfl

theorem begins_zero : script.begins 0 = script.start + script.passed 0 := by
  unfold begins passed intervals
  split <;> simp

theorem passed_succ (index : Nat) :
    script.passed (index + 1) = min
      (script.wait.interval.nanos * script.intervals index + script.wait.interval.nanos)
      script.wait.timeout.nanos := by
  rw [passed, intervals_succ, Nat.mul_succ]

/-- An evaluation does not begin before its intervals are over, or the timeout is. -/
theorem le_begins (found : script.deadline? = some finish) (index : Nat) :
    script.start + script.passed index ≤ script.begins index := by
  -- An evaluation that takes time only delays the next one, and no pause is cut but by the deadline.
  induction index with
  | zero => rw [begins_zero]
  | succ index inductionHypothesis =>
      have isFinish := eq_of_deadline? found
      rw [passed] at inductionHypothesis
      rw [begins_succ, rest, found, passed_succ, ends]
      dsimp only
      omega

/-- Evaluations that take no time begin when their intervals are over, or the timeout is. -/
theorem begins_eq (found : script.deadline? = some finish)
    (prompt : ∀ index, script.takes index = ⟨0⟩) (index : Nat) :
    script.begins index = script.start + script.passed index := by
  induction index with
  | zero => exact begins_zero
  | succ index inductionHypothesis =>
      have isFinish := eq_of_deadline? found
      have atOnce : (script.takes index).nanos = 0 := congrArg Duration.nanos (prompt index)
      rw [passed] at inductionHypothesis
      rw [begins_succ, rest, found, passed_succ, ends, inductionHypothesis, atOnce]
      dsimp only
      omega

/-- The timeout is over when enough intervals are. -/
theorem passed_lt_iff (positive : 0 < script.wait.interval.nanos) (index : Nat) :
    script.passed index < script.wait.timeout.nanos ↔ index + 1 < script.mostEvaluations := by
  have enough : script.wait.timeout.nanos ⌈/⌉ script.wait.interval.nanos ≤ script.intervals index ↔
      script.wait.timeout.nanos ≤ script.wait.interval.nanos * script.intervals index :=
    ceilDiv_le_iff_le_mul positive
  unfold passed mostEvaluations
  cases immediate : script.immediate with
  | true =>
      have counted : script.intervals index = index := by simp [intervals, immediate]
      rw [counted] at enough ⊢
      simp only [if_true]
      omega
  | false =>
      have counted : script.intervals index = index + 1 := by simp [intervals, immediate]
      rw [counted] at enough ⊢
      simp only [Bool.false_eq_true, if_false]
      omega

variable (script) in
theorem mostEvaluations_pos : 0 < script.mostEvaluations := by
  unfold mostEvaluations
  dsimp only
  split <;> omega

/-- An evaluation in time leaves room for another one. -/
theorem Undecided.lt_mostEvaluations (found : script.deadline? = some finish)
    (positive : 0 < script.wait.interval.nanos) (undecided : script.Undecided index) :
    index + 1 < script.mostEvaluations := by
  have isFinish : finish = script.start + script.wait.timeout.nanos := eq_of_deadline? found
  have inTime : script.ends index < finish := (inTime_iff found).mp undecided.2
  have late : script.start + script.passed index ≤ script.begins index := le_begins found index
  have passes : script.begins index ≤ script.ends index := Nat.le_add_right _ _
  exact (passed_lt_iff positive index).mp (by omega)

theorem exists_isFirst (found : script.deadline? = some finish)
    (positive : 0 < script.wait.interval.nanos) :
    ∃ index < script.mostEvaluations, script.IsFirst index := by
  rcases exists_isFirst_or script script.mostEvaluations with first | undecided
  · exact first
  · have atLeastOne := script.mostEvaluations_pos
    have last := undecided (script.mostEvaluations - 1) (by omega)
    have another := last.lt_mostEvaluations found positive
    omega

/-- Evaluations that find nothing and take no time go on up to the deadline. -/
theorem isFirst_of_prompt (found : script.deadline? = some finish)
    (positive : 0 < script.wait.interval.nanos)
    (prompt : ∀ index, script.probe index = .pending ∧ script.takes index = ⟨0⟩) :
    script.IsFirst (script.mostEvaluations - 1) ∧
      script.ends (script.mostEvaluations - 1) = finish := by
  have isFinish : finish = script.start + script.wait.timeout.nanos := eq_of_deadline? found
  have ends_eq : ∀ index, script.ends index = script.start + script.passed index := by
    intro index
    rw [ends, begins_eq found (fun index => (prompt index).2), (prompt index).2]
    rfl
  have goesOn : ∀ index, script.Undecided index ↔ index + 1 < script.mostEvaluations := by
    intro index
    rw [Undecided, inTime_iff found, ends_eq, ← passed_lt_iff positive]
    simp only [(prompt index).1, true_and]
    omega
  have atLeastOne := script.mostEvaluations_pos
  have isLate : ¬ script.passed (script.mostEvaluations - 1) < script.wait.timeout.nanos := by
    rw [passed_lt_iff positive]
    omega
  refine ⟨⟨fun earlier less => (goesOn earlier).mpr (by omega), ?_⟩, ?_⟩
  · rw [goesOn]
    omega
  · rw [ends_eq, isFinish]
    unfold passed at isLate ⊢
    omega

/-! ## The answer -/

theorem quietBefore_of_calm (calm : script.cancels = none) (index : Nat) :
    script.QuietBefore index := by
  simp [QuietBefore, interruption?, calm]

theorem play_of_undecided (calm : script.cancels = none) {rounds : Nat}
    (undecided : ∀ index < rounds, script.Undecided index) :
    script.play rounds = (none, script.sceneAt rounds) :=
  play_add undecided (quietBefore_of_calm calm rounds) 0

theorem IsFirst.play_eq (first : script.IsFirst index) (calm : script.cancels = none) {rounds : Nat}
    (less : index < rounds) :
    script.play rounds = (some (script.verdict index),
      ⟨script.ends index, false, script.evaluations (index + 1)⟩) := by
  obtain ⟨more, reached⟩ := play_reaches first.1 (quietBefore_of_calm calm index) less
  rw [reached, playFrom_decided first.2, calm]
  rfl

theorem verdict_eq_timeout_iff {after : Duration} :
    script.verdict index = .error (.timeout after) ↔
      script.probe index = .pending ∧ script.wait.timeout = after := by
  unfold verdict
  cases script.probe index <;> simp

/-- A wait whose end the clock cannot show does not time out. -/
theorem IsFirst.verdict_ne_timeout (first : script.IsFirst index)
    (endless : script.deadline? = none) (after : Duration) :
    script.verdict index ≠ .error (.timeout after) := by
  intro timedOut
  refine first.2 ⟨(verdict_eq_timeout_iff.mp timedOut).1, ?_⟩
  simp [InTime, endless]

/-- The first evaluation that decides ends a wait that nobody cancels, and every evaluation up to it
is one of the timeline. With an end that the clock can show and a positive interval there is such an
evaluation, and none begins after that end. -/
theorem play_decided (script : Script) (calm : script.cancels = none) :
    (∀ rounds,
      (∃ index < rounds, script.IsFirst index ∧
        script.play rounds = (some (script.verdict index),
          ⟨script.ends index, false, script.evaluations (index + 1)⟩)) ∨
      ((∀ index < rounds, script.Undecided index) ∧
        script.play rounds = (none, script.sceneAt rounds))) ∧
    (∀ finish ∈ script.deadline?,
      finish = script.start + script.wait.timeout.nanos ∧
      (∀ index, (∀ earlier < index, script.Undecided earlier) → script.begins index ≤ finish) ∧
      (0 < script.wait.interval.nanos →
        (∃ index < script.mostEvaluations, script.IsFirst index) ∧
        ((∀ index, script.probe index = .pending ∧ script.takes index = ⟨0⟩) →
          ∀ rounds ≥ script.mostEvaluations,
            script.play rounds = (some (.error (.timeout script.wait.timeout)),
              ⟨finish, false, script.evaluations script.mostEvaluations⟩)))) ∧
    (script.deadline? = none →
      ∀ rounds after, (script.play rounds).1 ≠ some (.error (.timeout after))) := by
  have answers : ∀ rounds,
      (∃ index < rounds, script.IsFirst index ∧
        script.play rounds = (some (script.verdict index),
          ⟨script.ends index, false, script.evaluations (index + 1)⟩)) ∨
      ((∀ index < rounds, script.Undecided index) ∧
        script.play rounds = (none, script.sceneAt rounds)) := by
    intro rounds
    rcases exists_isFirst_or script rounds with ⟨index, less, first⟩ | undecided
    · exact .inl ⟨index, less, first, first.play_eq calm less⟩
    · exact .inr ⟨undecided, play_of_undecided calm undecided⟩
  refine ⟨answers, ?_, ?_⟩
  · intro finish found
    refine ⟨eq_of_deadline? found, fun index undecided => begins_le undecided found, ?_⟩
    intro positive
    refine ⟨exists_isFirst found positive, ?_⟩
    intro prompt rounds enough
    obtain ⟨first, isFinish⟩ := isFirst_of_prompt found positive prompt
    have atLeastOne := script.mostEvaluations_pos
    have timedOut : script.verdict (script.mostEvaluations - 1) =
        .error (.timeout script.wait.timeout) :=
      verdict_eq_timeout_iff.mpr ⟨(prompt _).1, rfl⟩
    rw [first.play_eq calm (by omega), timedOut, isFinish, Nat.sub_add_cancel atLeastOne]
  · intro endless rounds after
    rcases answers rounds with ⟨index, -, first, played⟩ | ⟨-, played⟩
    · rw [played]
      simpa using first.verdict_ne_timeout endless after
    · rw [played]
      simp

/-- A condition that is never met, looked at every three nanoseconds for ten of them. -/
def unmet : Script where
  wait := { interval := ⟨3⟩, timeout := ⟨10⟩ }
  immediate := false
  start := 0
  probe := fun _ => .pending
  takes := fun _ => ⟨0⟩
  cancels := none

/-- The last pause is cut short, for an evaluation at the deadline. -/
theorem play_decided_unmet :
    unmet.cancels = none ∧ unmet.deadline? = some 10 ∧ unmet.mostEvaluations = 4 ∧
      unmet.play 5 = (some (.error (.timeout ⟨10⟩)), ⟨10, false,
        [⟨3, 3, .pending⟩, ⟨6, 6, .pending⟩, ⟨9, 9, .pending⟩, ⟨10, 10, .pending⟩]⟩) := by
  have found : unmet.deadline? = some 10 := rfl
  have counted : unmet.mostEvaluations = 4 := rfl
  obtain ⟨-, -, bounded⟩ := (play_decided unmet rfl).2.1 10 found
  have played := (bounded (by decide)).2 (fun _ => ⟨rfl, rfl⟩) 5 (by rw [counted]; decide)
  exact ⟨rfl, found, counted, played⟩

end AddonCheck.Poll.Script
