import AddonCheck.Proofs.Transcript

/-
This file holds executions that nobody interrupts. As long as the outside does not cancel the run,
its watcher sleeps, and the process goes on to its end.
-/

namespace AddonCheck

/-- The outside never cancels a run. -/
def Outside.IsSteady {σ : Type} (outside : Outside σ) : Prop :=
  ∀ request state, (outside.reply request state).1.cancels = false

/-- The action neither cancels the run nor ends its process. -/
def Action.IsCalm : Action → Prop
  | .cancel => False
  | .exit => False
  | _ => True

namespace Session

variable {σ α : Type} {outside : Outside σ} {reaction : Reaction σ} {rounds : Nat}
  {session : Session σ}

/-- The run has not been cancelled, and nobody has ended its process. -/
structure Calm (session : Session σ) : Prop where
  uncancelled : session.isCancelled = false
  running : session.exited = false

theorem Calm.pause (calm : session.Calm) (duration : Duration) :
    (session.pause duration).Calm := by
  unfold Session.pause
  split
  · exact calm
  · exact ⟨calm.uncancelled, calm.running⟩

theorem Calm.ask (calm : session.Calm) (steady : outside.IsSteady) (request : Request) :
    (session.ask outside reaction request).2.Calm := by
  have quiet := steady request session.outside
  simp only [Session.ask, quiet]
  exact ⟨calm.uncancelled, calm.running⟩

theorem Calm.evaluate (calm : session.Calm) (steady : outside.IsSteady) (condition : Condition) :
    (session.evaluate outside reaction condition).2.Calm := by
  have announced : (session.addLog condition.announcement).Calm :=
    ⟨calm.uncancelled, calm.running⟩
  have asked : ((session.addLog condition.announcement).ask outside reaction
      condition.request).2.Calm := announced.ask steady condition.request
  exact ⟨asked.uncancelled, asked.running⟩

/-- A steady outside leaves a calm session calm. -/
theorem Calm.step (calm : session.Calm) (steady : outside.IsSteady) {action : Action}
    (isCalm : action.IsCalm) : (session.step outside reaction rounds action).2.Calm := by
  cases action with
  | cancel => exact isCalm.elim
  | exit => exact isCalm.elim
  | pause duration => exact calm.pause duration
  | ask request => exact calm.ask steady request
  | await condition =>
      have alike : Poll.Alike Calm (surroundings outside reaction condition)
          (surroundings outside reaction condition) :=
        ⟨rfl, rfl, rfl, fun _ _ => rfl, fun duration _ calm => calm.pause duration,
          fun _ calm => calm.evaluate steady condition⟩
      exact (alike.run condition.wait condition.immediate rounds calm).2
  | watch watcher =>
      have unwatched : session.watch reaction watcher = { session with watcher := some watcher } :=
        if_neg (by simp [calm.uncancelled])
      change (session.watch reaction watcher).Calm
      rw [unwatched]
      exact ⟨calm.uncancelled, calm.running⟩
  | _ => exact ⟨calm.uncancelled, calm.running⟩

theorem Calm.execute (calm : session.Calm) (steady : outside.IsSteady) {program : Program α}
    (uses : program.Uses Action.IsCalm) :
    (Session.execute outside reaction rounds program session).2.Calm := by
  induction program generalizing session with
  | done value => exact calm
  | crash => exact calm
  | perform action next inductionHypothesis =>
      have stepped : (session.step outside reaction rounds action).2.Calm :=
        calm.step steady uses.1
      unfold Session.execute
      split
      · next answer middle found =>
          rw [found] at stepped
          exact inductionHypothesis answer stepped (uses.2 answer)
      · next middle found =>
          rw [found] at stepped
          exact stepped

/-- The value of a sequence is that of its rest, which goes on from the value of its first part. -/
theorem execute_bind_eq_finished {β : Type} {program : Program α} {next : α → Program β} {value : β}
    {after : Session σ}
    (executed : Session.execute outside reaction rounds (program.bind next) session =
      (.finished value, after)) :
    ∃ first middle, Session.execute outside reaction rounds program session =
        (.finished first, middle) ∧
      Session.execute outside reaction rounds (next first) middle = (.finished value, after) := by
  rw [execute_bind] at executed
  rcases found : Session.execute outside reaction rounds program session with
    ⟨first | _ | _, middle⟩
  · rw [found] at executed
    exact ⟨first, middle, rfl, executed⟩
  · rw [found] at executed
    cases executed
  · rw [found] at executed
    cases executed

/-- Between two sessions something may have been told, and a watcher may have been started. -/
def OnlyTold (before after : Session σ) : Prop :=
  after = { before with log := after.log, gathered := after.gathered, watcher := after.watcher }

theorem OnlyTold.trans {middle after : Session σ} (first : session.OnlyTold middle)
    (rest : middle.OnlyTold after) : session.OnlyTold after := by
  rw [OnlyTold, rest, first]

end Session

/-- An execution of a program that does not end unexpectedly comes to a fit value, unless one of its
waits goes on for more than the rounds. -/
theorem Program.Ends.execute {σ α : Type} {kind : Action → Prop} {fit : α → Prop}
    {program : Program α} (ends : program.Ends kind fit) (outside : Outside σ)
    (reaction : Session.Reaction σ) (rounds : Nat) (session : Session σ) :
    (Session.execute outside reaction rounds program session).1 = .unsettled ∨
      ∃ value, (Session.execute outside reaction rounds program session).1 = .finished value ∧
        fit value := by
  induction program generalizing session with
  | done value => exact .inr ⟨value, rfl, ends⟩
  | crash => exact ends.elim
  | perform action next inductionHypothesis =>
      unfold Session.execute
      split
      · next answer middle _ => exact inductionHypothesis answer (ends.2 answer) middle
      · exact .inl rfl

end AddonCheck
