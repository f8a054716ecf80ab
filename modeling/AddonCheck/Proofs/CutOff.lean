import AddonCheck.Proofs.Timeline

/-
This file shows what becomes of a wait that is cancelled while it lasts. No evaluation begins after
the cancellation. It is what the wait reports, unless it comes during an evaluation that ends at the
deadline or later: the deadline is looked at before the cancellation.
-/

namespace AddonCheck.Poll.Script

variable {script : Script} {index count rounds : Nat}

variable (script) in
/-- The run is cancelled while the wait lasts, with so many evaluations begun. -/
inductive CutOff : Nat → Prop
  | start (cancelled : script.cancels = some .start) : CutOff 0
  | pause {next : Nat} {after : Duration} (cancelled : script.cancels = some (.pause next after))
      (pauses : next = 0 → script.immediate = false)
      (undecided : ∀ earlier < next, script.Undecided earlier) : CutOff next
  | evaluation {index : Nat} (cancelled : script.cancels = some (.evaluation index))
      (undecided : ∀ earlier < index, script.Undecided earlier)
      (pending : script.probe index = .pending) : CutOff (index + 1)

variable (script) in
/-- The cancellation comes during an evaluation that does not end before the deadline. -/
def Overdue : Prop := ∃ index, script.cancels = some (.evaluation index) ∧ ¬ script.InTime index

/-! ## What is left of a wait -/

theorem play_of_start (cancelled : script.cancels = some .start) (rounds : Nat) :
    script.play rounds = (some (.error .cancelled), ⟨script.start, true, []⟩) := by
  have opened : script.opening = ⟨script.start, true, []⟩ := by simp [opening, cancelled]
  unfold play run
  rw [opened]
  rfl

/-- The first pause of a wait leads to no evaluation when the run is cancelled in it. -/
theorem play_of_firstPause {after : Duration} (cancelled : script.cancels = some (.pause 0 after))
    (pauses : script.immediate = false) (rounds : Nat) :
    script.play rounds = (some (.error .cancelled),
      ⟨script.start + min after.nanos (firstPause script.wait).nanos, true, []⟩) := by
  have paused : script.pause (firstPause script.wait) ⟨script.start, false, []⟩ =
      ⟨script.start + min after.nanos (firstPause script.wait).nanos, true, []⟩ := by
    simp [pause, interruption?, cancelled]
  rw [play_of_pauses (by simp [cancelled]) pauses, paused]
  rfl

theorem quietBefore_of_pause {next : Nat} {after : Duration}
    (cancelled : script.cancels = some (.pause next after)) (less : index < next) :
    script.QuietBefore index := by
  have other : ∀ earlier ≤ index, script.interruption? earlier = none := by
    intro earlier atMost
    have differ : next ≠ earlier := by omega
    simp [interruption?, cancelled, differ]
  refine ⟨by simp [cancelled], fun _ => other 0 (Nat.zero_le index), ?_⟩
  intro earlier before
  exact ⟨by simp [cancelled], other (earlier + 1) before⟩

theorem quietBefore_of_evaluation (cancelled : script.cancels = some (.evaluation index)) :
    script.QuietBefore index := by
  refine ⟨by simp [cancelled], fun _ => by simp [interruption?, cancelled], ?_⟩
  intro earlier before
  have differ : index ≠ earlier := by omega
  exact ⟨by simp [cancelled, differ], by simp [interruption?, cancelled]⟩

theorem play_of_pause {after : Duration}
    (cancelled : script.cancels = some (.pause (index + 1) after))
    (undecided : ∀ earlier < index + 1, script.Undecided earlier) (less : index < rounds) :
    script.play rounds = (some (.error .cancelled),
      ⟨script.ends index + min after.nanos (script.rest (script.ends index)), true,
        script.evaluations (index + 1)⟩) := by
  have last := undecided index (Nat.lt_succ_self index)
  have broken : script.interruption? (index + 1) = some after := by
    simp [interruption?, cancelled]
  obtain ⟨more, reached⟩ := play_reaches
    (fun earlier before => undecided earlier (Nat.lt_succ_of_lt before))
    (quietBefore_of_pause cancelled (Nat.lt_succ_self index)) less
  rw [reached, playFrom_interrupted last broken]

/-- At the deadline the cancellation is not looked at any more. -/
theorem play_of_evaluation (cancelled : script.cancels = some (.evaluation index))
    (undecided : ∀ earlier < index, script.Undecided earlier)
    (pending : script.probe index = .pending) (less : index < rounds) :
    (script.InTime index ∧ script.play rounds = (some (.error .cancelled),
      ⟨script.ends index, true, script.evaluations (index + 1)⟩)) ∨
    (¬ script.InTime index ∧
      script.play rounds = (some (.error (.timeout script.wait.timeout)),
        ⟨script.ends index, true, script.evaluations (index + 1)⟩)) := by
  obtain ⟨more, reached⟩ := play_reaches undecided (quietBefore_of_evaluation cancelled) less
  rw [reached]
  by_cases inTime : script.InTime index
  · exact .inl ⟨inTime, playFrom_cancelled ⟨pending, inTime⟩ cancelled more⟩
  · have decided : ¬ script.Undecided index := fun undecided => inTime undecided.2
    have verdict : script.verdict index = .error (.timeout script.wait.timeout) := by
      simp [Script.verdict, pending]
    right
    rw [playFrom_decided decided, verdict, cancelled, beq_self_eq_true]
    exact ⟨inTime, rfl⟩

/-- A wait that is cut off evaluates its condition no more. It reports the cancellation, or the
timeout when the cancellation is overdue. -/
theorem CutOff.play_eq (cutOff : script.CutOff count) (enough : count ≤ rounds) :
    ∃ now, (¬ script.Overdue ∧ script.play rounds =
        (some (.error .cancelled), ⟨now, true, script.evaluations count⟩)) ∨
      (script.Overdue ∧ script.play rounds =
        (some (.error (.timeout script.wait.timeout)), ⟨now, true, script.evaluations count⟩)) := by
  cases cutOff with
  | start cancelled =>
      have seen : ¬ script.Overdue := by simp [Overdue, cancelled]
      exact ⟨_, .inl ⟨seen, play_of_start cancelled rounds⟩⟩
  | pause cancelled pauses undecided =>
      have seen : ¬ script.Overdue := by simp [Overdue, cancelled]
      -- Only the first pause follows no evaluation.
      cases count with
      | zero => exact ⟨_, .inl ⟨seen, play_of_firstPause cancelled (pauses rfl) rounds⟩⟩
      | succ index => exact ⟨_, .inl ⟨seen, play_of_pause cancelled undecided enough⟩⟩
  | @evaluation index cancelled undecided pending =>
      have overdue_iff : script.Overdue ↔ ¬ script.InTime index := by
        simp [Overdue, cancelled]
      rw [overdue_iff, Classical.not_not]
      exact ⟨_, play_of_evaluation cancelled undecided pending enough⟩

/-- No evaluation begins once the run is cancelled, and the wait reports the cancellation exactly if
it is not overdue. An overdue one is reported as a timeout. -/
theorem cancellation_reported_iff (cutOff : script.CutOff count) (enough : count ≤ rounds) :
    (script.play rounds).2.past = script.evaluations count ∧
      ((script.play rounds).1 = some (.error .cancelled) ↔ ¬ script.Overdue) ∧
      ((script.play rounds).1 = some (.error (.timeout script.wait.timeout)) ↔ script.Overdue) := by
  obtain ⟨now, ⟨seen, played⟩ | ⟨overdue, played⟩⟩ := cutOff.play_eq enough
  · simp [played, seen]
  · simp [played, overdue]

/-- The last pause goes up to the deadline, and the run is cancelled at its very end. -/
def atTheLast : Script where
  wait := { interval := ⟨3⟩, timeout := ⟨5⟩ }
  immediate := true
  start := 0
  probe := fun _ => .pending
  takes := fun _ => ⟨0⟩
  cancels := some (.pause 2 ⟨2⟩)

theorem cancellation_reported_iff_atTheLast :
    atTheLast.CutOff 2 ∧ ¬ atTheLast.Overdue ∧ atTheLast.deadline? = some 5 ∧
      (atTheLast.play 4).1 = some (.error .cancelled) ∧
      (atTheLast.play 4).2 = ⟨5, true, [⟨0, 0, .pending⟩, ⟨3, 3, .pending⟩]⟩ := by
  have found : atTheLast.deadline? = some 5 := rfl
  have early : ∀ earlier < 2, atTheLast.ends earlier < 5 := by decide
  have undecided : ∀ earlier < 2, atTheLast.Undecided earlier :=
    fun earlier less => ⟨rfl, (inTime_iff found).mpr (early earlier less)⟩
  have cutOff : atTheLast.CutOff 2 := .pause rfl (by decide) undecided
  have seen : ¬ atTheLast.Overdue := by simp [Overdue, atTheLast]
  have enough : 2 ≤ 4 := by decide
  obtain ⟨-, reported, -⟩ := cancellation_reported_iff cutOff enough
  exact ⟨cutOff, seen, found, reported.mpr seen, rfl⟩

/-- The only evaluation of a wait without time, which finds nothing and sees the run cancelled. -/
def noTime : Script where
  wait := { interval := ⟨60 * Duration.nanosPerSecond⟩, timeout := ⟨0⟩ }
  immediate := true
  start := 0
  probe := fun _ => .pending
  takes := fun _ => ⟨0⟩
  cancels := some (.evaluation 0)

/-- A cancellation can be reported as a timeout. -/
theorem cancellation_unreported_noTime :
    noTime.CutOff 1 ∧
      noTime.play 1 = (some (.error (.timeout ⟨0⟩)), ⟨0, true, [⟨0, 0, .pending⟩]⟩) := by
  have cutOff : noTime.CutOff 1 :=
    .evaluation rfl (fun earlier less => absurd less (Nat.not_lt_zero earlier)) rfl
  exact ⟨cutOff, rfl⟩

end AddonCheck.Poll.Script
