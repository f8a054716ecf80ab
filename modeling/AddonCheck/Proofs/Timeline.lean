import AddonCheck.Poll

/-
This file plays waits on a logical clock. A script says what every evaluation finds, how long it
takes, and when the run is cancelled; no other time passes but that of the evaluations and of the
pauses. The timeline of a script says when its evaluations begin and end, as long as none decides.
-/

namespace AddonCheck.Poll

/-- An evaluation, with the times at which it begins and ends. -/
structure Evaluation where
  begins : Nat
  ends : Nat
  probe : Probe
  deriving DecidableEq, Repr

/-- When a run is cancelled that waits. -/
inductive Moment where
  /-- Before the wait starts. -/
  | start
  /-- In the pause that leads to an evaluation, some time after the pause has begun. -/
  | pause (next : Nat) (after : Duration)
  | evaluation (index : Nat)
  deriving DecidableEq, Repr

/-- A wait, and what happens while it lasts. -/
structure Script where
  wait : Wait
  immediate : Bool
  start : Nat
  probe : Nat → Probe
  takes : Nat → Duration
  cancels : Option Moment

/-- The time on the clock, whether the run is cancelled, and the evaluations so far. -/
structure Scene where
  now : Nat
  isCancelled : Bool
  past : List Evaluation
  deriving DecidableEq, Repr

namespace Script

variable (script : Script)

/-! ## How a script is played -/

/-- How long the pause before an evaluation lasts when it is cancelled. -/
def interruption? (next : Nat) : Option Duration :=
  match script.cancels with
  | some (.pause other after) => if other = next then some after else none
  | _ => none

/-- The clock advances by the whole pause, or up to the cancellation. -/
def pause (duration : Duration) (scene : Scene) : Scene :=
  if scene.isCancelled then scene
  else
    match script.interruption? scene.past.length with
    | none => { scene with now := scene.now + duration.nanos }
    | some after =>
        { scene with now := scene.now + min after.nanos duration.nanos, isCancelled := true }

/-- The clock advances by what the evaluation takes. -/
def evaluate (scene : Scene) : Probe × Scene :=
  let index := scene.past.length
  let ends := scene.now + (script.takes index).nanos
  (script.probe index,
    { now := ends
      isCancelled := scene.isCancelled || script.cancels == some (.evaluation index)
      past := scene.past ++ [⟨scene.now, ends, script.probe index⟩] })

def surroundings : Surroundings Scene where
  isCancelled := Scene.isCancelled
  clock := Scene.now
  pause := script.pause
  evaluate := script.evaluate

def opening : Scene := ⟨script.start, script.cancels == some .start, []⟩

/-- The wait of a script, with a bound on the number of evaluations. -/
def play (rounds : Nat) : Answer × Scene :=
  run script.surroundings script.wait script.immediate rounds script.opening

/-! ## When evaluations begin and end -/

def deadline? : Option Nat := deadline script.wait script.start

/-- The pause after an evaluation lasts an interval, or up to the deadline. -/
def rest (ends : Nat) : Nat :=
  match script.deadline? with
  | none => script.wait.interval.nanos
  | some finish => min script.wait.interval.nanos (finish - ends)

/-- When an evaluation begins if none before it decides. -/
def begins : Nat → Nat
  | 0 =>
      if script.immediate then script.start
      else script.start + min script.wait.interval.nanos script.wait.timeout.nanos
  | index + 1 =>
      let ends := begins index + (script.takes index).nanos
      ends + script.rest ends

def ends (index : Nat) : Nat := script.begins index + (script.takes index).nanos

theorem begins_succ (index : Nat) :
    script.begins (index + 1) = script.ends index + script.rest (script.ends index) := rfl

/-- The first evaluations of the timeline. -/
def evaluations (count : Nat) : List Evaluation :=
  (List.range count).map fun index =>
    ⟨script.begins index, script.ends index, script.probe index⟩

@[simp] theorem length_evaluations (count : Nat) : (script.evaluations count).length = count := by
  simp [evaluations]

theorem evaluations_succ (count : Nat) :
    script.evaluations (count + 1) = script.evaluations count ++
      [⟨script.begins count, script.ends count, script.probe count⟩] := by
  simp [evaluations, List.range_succ]

/-- The evaluation ends before the deadline, if there is one. -/
def InTime (index : Nat) : Prop := ∀ finish ∈ script.deadline?, script.ends index < finish

/-- The wait goes on after the evaluation. -/
def Undecided (index : Nat) : Prop := script.probe index = .pending ∧ script.InTime index

/-- The scene in which an evaluation begins while nobody cancels the run. -/
def sceneAt (index : Nat) : Scene := ⟨script.begins index, false, script.evaluations index⟩

/-! ## How a play goes on -/

/-- The wait of a script from an evaluation on. -/
def playFrom (rounds : Nat) (scene : Scene) : Answer × Scene :=
  fromEvaluation script.surroundings script.wait script.deadline? rounds scene

variable {script} {index : Nat}

theorem inTime_iff {finish : Nat} (found : script.deadline? = some finish) :
    script.InTime index ↔ script.ends index < finish := by
  simp [InTime, found]

theorem nextPause_of_inTime (inTime : script.InTime index) :
    nextPause script.wait script.deadline? (script.ends index) =
      some ⟨script.rest (script.ends index)⟩ := by
  unfold nextPause rest
  cases found : script.deadline? with
  | none => rfl
  | some finish =>
      have early : ¬ finish ≤ script.ends index := Nat.not_le.mpr ((inTime_iff found).mp inTime)
      exact if_neg early

theorem nextPause_of_late (late : ¬ script.InTime index) :
    nextPause script.wait script.deadline? (script.ends index) = none := by
  unfold nextPause
  cases found : script.deadline? with
  | none => exact absurd (by simp [InTime, found]) late
  | some finish =>
      rw [inTime_iff found] at late
      exact if_pos (Nat.not_lt.mp late)

theorem evaluate_sceneAt (index : Nat) :
    script.evaluate (script.sceneAt index) =
      (script.probe index,
        ⟨script.ends index, script.cancels == some (.evaluation index),
          script.evaluations (index + 1)⟩) := by
  simp [evaluate, sceneAt, evaluations_succ, ends]

/-- A pause that nobody cancels leads to the next evaluation. -/
theorem pause_sceneAt (unbroken : script.interruption? (index + 1) = none) :
    script.pause ⟨script.rest (script.ends index)⟩
        ⟨script.ends index, false, script.evaluations (index + 1)⟩ =
      script.sceneAt (index + 1) := by
  simp [pause, unbroken, sceneAt, begins_succ]

/-- The pause in which the run is cancelled is the last thing that happens. -/
theorem pause_interrupted {after : Duration}
    (broken : script.interruption? (index + 1) = some after) :
    script.pause ⟨script.rest (script.ends index)⟩
        ⟨script.ends index, false, script.evaluations (index + 1)⟩ =
      ⟨script.ends index + min after.nanos (script.rest (script.ends index)), true,
        script.evaluations (index + 1)⟩ := by
  simp [pause, broken]

/-- What an undecided evaluation leads to: a timeout at the deadline, and a pause before it. -/
theorem playFrom_pending {scene reached : Scene} {rounds : Nat}
    (found : script.evaluate scene = (.pending, reached)) :
    script.playFrom (rounds + 1) scene =
      match nextPause script.wait script.deadline? reached.now with
      | none => (some (.error (.timeout script.wait.timeout)), reached)
      | some pause =>
          let scene := script.pause pause reached
          if scene.isCancelled then (some (.error .cancelled), scene)
          else script.playFrom rounds scene := by
  have evaluated : script.surroundings.evaluate scene = (.pending, reached) := found
  rw [playFrom, fromEvaluation, evaluated]
  rfl

/-- An evaluation in time that finds nothing is followed by the next one. -/
theorem playFrom_succ (undecided : script.Undecided index)
    (quiet : script.cancels ≠ some (.evaluation index))
    (unbroken : script.interruption? (index + 1) = none) (rounds : Nat) :
    script.playFrom (rounds + 1) (script.sceneAt index) =
      script.playFrom rounds (script.sceneAt (index + 1)) := by
  have evaluated := script.evaluate_sceneAt index
  rw [undecided.1, beq_eq_false_iff_ne.mpr quiet] at evaluated
  rw [playFrom_pending evaluated, nextPause_of_inTime undecided.2]
  simp only [pause_sceneAt unbroken]
  rfl

variable (script) in
/-- Nobody cancels the run before an evaluation of the wait begins. -/
def QuietBefore (index : Nat) : Prop :=
  script.cancels ≠ some .start ∧ (script.immediate = false → script.interruption? 0 = none) ∧
    ∀ earlier < index, script.cancels ≠ some (.evaluation earlier) ∧
      script.interruption? (earlier + 1) = none

theorem opening_eq (notStart : script.cancels ≠ some .start) :
    script.opening = ⟨script.start, false, []⟩ := by
  rw [opening, beq_eq_false_iff_ne.mpr notStart]

/-- A wait that does not start with an evaluation starts with a pause. -/
theorem play_of_pauses (notStart : script.cancels ≠ some .start)
    (pauses : script.immediate = false) (rounds : Nat) :
    script.play rounds =
      let scene := script.pause (firstPause script.wait) ⟨script.start, false, []⟩
      if scene.isCancelled then (some (.error .cancelled), scene)
      else script.playFrom rounds scene := by
  unfold play run
  rw [opening_eq notStart, pauses]
  rfl

/-- A wait that nobody cancels begins with the first evaluation of the timeline. -/
theorem play_eq (quiet : script.QuietBefore 0) (rounds : Nat) :
    script.play rounds = script.playFrom rounds (script.sceneAt 0) := by
  obtain ⟨notStart, notPause, -⟩ := quiet
  cases immediate : script.immediate with
  | true =>
      have first : script.sceneAt 0 = ⟨script.start, false, []⟩ := by
        simp [sceneAt, begins, immediate, evaluations]
      unfold play run
      rw [opening_eq notStart, immediate, first]
      rfl
  | false =>
      have paused : script.pause (firstPause script.wait) ⟨script.start, false, []⟩ =
          script.sceneAt 0 := by
        simp [pause, notPause immediate, sceneAt, begins, immediate, evaluations, firstPause]
      rw [play_of_pauses notStart immediate, paused]
      rfl

/-- A wait goes through its timeline as long as no evaluation decides and nobody cancels the run. -/
theorem play_add (undecided : ∀ earlier < index, script.Undecided earlier)
    (quiet : script.QuietBefore index) (rounds : Nat) :
    script.play (index + rounds) = script.playFrom rounds (script.sceneAt index) := by
  -- Each step spends one of the rounds, so the induction is over any number of those that are left.
  induction index generalizing rounds with
  | zero =>
      rw [Nat.zero_add]
      exact play_eq quiet rounds
  | succ index inductionHypothesis =>
      obtain ⟨notStart, notPause, notEarlier⟩ := quiet
      have before : script.QuietBefore index :=
        ⟨notStart, notPause, fun earlier less => notEarlier earlier (Nat.lt_succ_of_lt less)⟩
      have reached := inductionHypothesis
        (fun earlier less => undecided earlier (Nat.lt_succ_of_lt less)) before (rounds + 1)
      obtain ⟨silent, unbroken⟩ := notEarlier index (Nat.lt_succ_self index)
      rw [Nat.add_assoc, Nat.add_comm 1 rounds, reached,
        playFrom_succ (undecided index (Nat.lt_succ_self index)) silent unbroken]

/-- A wait gets to an evaluation that its rounds allow. -/
theorem play_reaches (undecided : ∀ earlier < index, script.Undecided earlier)
    (quiet : script.QuietBefore index) {rounds : Nat} (less : index < rounds) :
    ∃ more, script.play rounds = script.playFrom (more + 1) (script.sceneAt index) := by
  have counted : rounds = index + (rounds - index - 1 + 1) := by omega
  refine ⟨rounds - index - 1, ?_⟩
  rw [← play_add undecided quiet, ← counted]

/-! ## How a play ends -/

variable (script) in
/-- What an evaluation leads to when the wait does not go on after it. -/
def verdict (index : Nat) : Except Error Unit :=
  match script.probe index with
  | .converged => .ok ()
  | .fatal reason => .error (.fatal reason)
  | .pending => .error (.timeout script.wait.timeout)

theorem playFrom_decided (decided : ¬ script.Undecided index) (rounds : Nat) :
    script.playFrom (rounds + 1) (script.sceneAt index) =
      (some (script.verdict index),
        ⟨script.ends index, script.cancels == some (.evaluation index),
          script.evaluations (index + 1)⟩) := by
  have evaluated := script.evaluate_sceneAt index
  have around : script.surroundings.evaluate (script.sceneAt index) = _ := evaluated
  unfold verdict
  cases found : script.probe index with
  | converged =>
      rw [found] at around
      rw [playFrom, fromEvaluation, around]
  | fatal reason =>
      rw [found] at around
      rw [playFrom, fromEvaluation, around]
  | pending =>
      have late : ¬ script.InTime index := fun inTime => decided ⟨found, inTime⟩
      rw [found] at evaluated
      rw [playFrom_pending evaluated, nextPause_of_late late]

/-- A cancellation that comes during an evaluation is seen before the pause after it. -/
theorem playFrom_cancelled (undecided : script.Undecided index)
    (cancelled : script.cancels = some (.evaluation index)) (rounds : Nat) :
    script.playFrom (rounds + 1) (script.sceneAt index) =
      (some (.error .cancelled),
        ⟨script.ends index, true, script.evaluations (index + 1)⟩) := by
  have evaluated := script.evaluate_sceneAt index
  rw [undecided.1, cancelled, beq_self_eq_true] at evaluated
  rw [playFrom_pending evaluated, nextPause_of_inTime undecided.2]
  rfl

theorem playFrom_interrupted {after : Duration} (undecided : script.Undecided index)
    (broken : script.interruption? (index + 1) = some after) (rounds : Nat) :
    script.playFrom (rounds + 1) (script.sceneAt index) =
      (some (.error .cancelled),
        ⟨script.ends index + min after.nanos (script.rest (script.ends index)), true,
          script.evaluations (index + 1)⟩) := by
  have evaluated := script.evaluate_sceneAt index
  have quiet : script.cancels ≠ some (.evaluation index) := by
    intro cancelled
    simp [interruption?, cancelled] at broken
  rw [undecided.1, beq_eq_false_iff_ne.mpr quiet] at evaluated
  rw [playFrom_pending evaluated, nextPause_of_inTime undecided.2]
  simp only [pause_interrupted broken]
  rfl

end Script

end AddonCheck.Poll
