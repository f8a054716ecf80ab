import AddonCheck.Proofs.Execution

/-
This file holds the transcripts of executions. A transcript lists the actions of an execution that
ends with a value, each with its answer. The transcript of a sequence is that of its parts, one
after another.
-/

namespace AddonCheck

/-- An action and its answer. -/
abbrev Answered := (action : Action) × action.Answer

namespace Session

variable {σ α β : Type} {outside : Outside σ} {reaction : Reaction σ} {rounds : Nat}

/-- The execution of a program ends with a value, and the transcript lists its actions. -/
inductive Finishes (outside : Outside σ) (reaction : Reaction σ) (rounds : Nat) :
    Program α → Session σ → List Answered → α → Session σ → Prop where
  | done (value : α) (session : Session σ) :
      Finishes outside reaction rounds (.done value) session [] value session
  | perform {action : Action} {next : action.Answer → Program α} {session middle after : Session σ}
      {answer : action.Answer} {transcript : List Answered} {value : α}
      (stepped : session.step outside reaction rounds action = (some answer, middle))
      (rest : Finishes outside reaction rounds (next answer) middle transcript value after) :
      Finishes outside reaction rounds (.perform action next) session
        (⟨action, answer⟩ :: transcript) value after

namespace Finishes

variable {program : Program α} {session middle after : Session σ}
  {transcript later : List Answered} {value : α}

theorem execute
    (finishes : Finishes outside reaction rounds program session transcript value after) :
    Session.execute outside reaction rounds program session = (.finished value, after) := by
  induction finishes with
  | done value session => rfl
  | perform stepped _ inductionHypothesis =>
      simp only [Session.execute, stepped]
      exact inductionHypothesis

/-- Every execution that ends with a value has a transcript. -/
theorem of_execute
    (executed : Session.execute outside reaction rounds program session =
      (.finished value, after)) :
    ∃ transcript, Finishes outside reaction rounds program session transcript value after := by
  induction program generalizing session with
  | done found =>
      cases executed
      exact ⟨[], .done _ _⟩
  | crash => cases executed
  | perform action next inductionHypothesis =>
      rcases stepped : session.step outside reaction rounds action with ⟨_ | answer, middle⟩
      · simp only [Session.execute, stepped] at executed
        cases executed
      · simp only [Session.execute, stepped] at executed
        obtain ⟨transcript, rest⟩ := inductionHypothesis answer executed
        exact ⟨_, .perform stepped rest⟩

theorem bind {next : α → Program β} {found : β}
    (first : Finishes outside reaction rounds program session transcript value middle)
    (rest : Finishes outside reaction rounds (next value) middle later found after) :
    Finishes outside reaction rounds (program.bind next) session (transcript ++ later) found
      after := by
  induction first with
  | done value session => exact rest
  | perform stepped _ inductionHypothesis => exact .perform stepped (inductionHypothesis rest)

/-- What is made of the value takes no further action. -/
theorem map (change : α → β)
    (finishes : Finishes outside reaction rounds program session transcript value after) :
    Finishes outside reaction rounds (program.bind fun value => .done (change value)) session
      transcript (change value) after := by
  rw [← List.append_nil transcript]
  exact finishes.bind (.done (change value) after)

/-- What ends with a value needs nothing to be cleaned up. -/
theorem onCrash (cleanup : Program Unit)
    (finishes : Finishes outside reaction rounds program session transcript value after) :
    Finishes outside reaction rounds (program.onCrash cleanup) session transcript value after := by
  induction finishes with
  | done value session => exact .done value session
  | perform stepped _ inductionHypothesis => exact .perform stepped inductionHypothesis

theorem uses {kind : Action → Prop} (uses : program.Uses kind)
    (finishes : Finishes outside reaction rounds program session transcript value after) :
    ∀ answered ∈ transcript, kind answered.1 := by
  induction finishes with
  | done value session => exact fun _ none => absurd none List.not_mem_nil
  | perform stepped _ inductionHypothesis =>
      intro answered member
      rcases List.mem_cons.mp member with rfl | later
      · exact uses.1
      · exact inductionHypothesis (uses.2 _) answered later

end Finishes

/-- Every action but a wait is answered. -/
theorem step_answers {action : Action} (single : action.IsAwait = false) (session : Session σ) :
    ∃ answer after, session.step outside reaction rounds action = (some answer, after) := by
  cases action with
  | await condition => cases single
  | _ => exact ⟨_, _, rfl⟩

end Session

/-! ## Programs that always end with a value -/

namespace Program

variable {α β : Type} {kind : Action → Prop}

/-- A program that always ends with a value and never waits is executed to its end. -/
theorem Ends.finishes {σ : Type} {program : Program α} {fit : α → Prop}
    (ends : program.Ends kind fit) (prompt : ∀ action, kind action → action.IsAwait = false)
    (outside : Outside σ) (reaction : Session.Reaction σ) (rounds : Nat) (session : Session σ) :
    ∃ transcript value after,
      Session.Finishes outside reaction rounds program session transcript value after ∧
        fit value ∧ ∀ answered ∈ transcript, kind answered.1 := by
  induction program generalizing session with
  | done value =>
      exact ⟨[], value, session, .done value session, ends,
        fun _ none => absurd none List.not_mem_nil⟩
  | crash => exact ends.elim
  | perform action next inductionHypothesis =>
      obtain ⟨answer, middle, stepped⟩ :=
        Session.step_answers (prompt action ends.1) session
      obtain ⟨transcript, value, after, rest, fits, kinds⟩ :=
        inductionHypothesis answer (ends.2 answer) middle
      refine ⟨_, value, after, .perform stepped rest, fits, ?_⟩
      intro answered member
      rcases List.mem_cons.mp member with rfl | later
      · exact ends.1
      · exact kinds answered later

end Program

/-! ## Outsides that differ in some answers alone -/

/-- Two outsides deal alike with every request of a kind. -/
def Outside.Agree {σ : Type} (kind : Request → Prop) (outside other : Outside σ) : Prop :=
  ∀ request, kind request → ∀ state, other.reply request state = outside.reply request state

/-- The requests of the action are of a kind. -/
def Action.AsksOnly (kind : Request → Prop) : Action → Prop
  | .ask request => kind request
  | .await condition => kind condition.request
  | _ => True

namespace Poll

variable {σ : Type}

/-- Two surroundings are alike in the states of a kind, and a wait does not leave the kind. -/
structure Alike (holds : σ → Prop) (around other : Surroundings σ) : Prop where
  isCancelled : other.isCancelled = around.isCancelled
  clock : other.clock = around.clock
  pause : other.pause = around.pause
  evaluate : ∀ state, holds state → other.evaluate state = around.evaluate state
  pauses : ∀ duration state, holds state → holds (around.pause duration state)
  evaluates : ∀ state, holds state → holds (around.evaluate state).2

variable {holds : σ → Prop} {around other : Surroundings σ}

theorem Alike.fromEvaluation (alike : Alike holds around other) (wait : Wait)
    (deadline : Option Nat) (rounds : Nat) {state : σ} (held : holds state) :
    Poll.fromEvaluation other wait deadline rounds state =
        Poll.fromEvaluation around wait deadline rounds state ∧
      holds (Poll.fromEvaluation around wait deadline rounds state).2 := by
  induction rounds generalizing state with
  | zero => exact ⟨rfl, held⟩
  | succ rounds inductionHypothesis =>
      have evaluated := alike.evaluates state held
      unfold Poll.fromEvaluation
      rw [alike.evaluate state held, alike.clock, alike.pause, alike.isCancelled]
      rcases found : around.evaluate state with ⟨probe, reached⟩
      rw [found] at evaluated
      cases probe with
      | converged => exact ⟨rfl, evaluated⟩
      | fatal reason => exact ⟨rfl, evaluated⟩
      | pending =>
          dsimp only
          split
          · exact ⟨rfl, evaluated⟩
          · next pause _ =>
              have paused := alike.pauses pause reached evaluated
              split
              · exact ⟨rfl, paused⟩
              · exact inductionHypothesis paused

theorem Alike.run (alike : Alike holds around other) (wait : Wait) (immediate : Bool)
    (rounds : Nat) {state : σ} (held : holds state) :
    Poll.run other wait immediate rounds state = Poll.run around wait immediate rounds state ∧
      holds (Poll.run around wait immediate rounds state).2 := by
  have paused := alike.pauses (firstPause wait) state held
  unfold Poll.run
  rw [alike.clock, alike.pause, alike.isCancelled]
  dsimp only
  split
  · exact ⟨rfl, held⟩
  · split
    · exact alike.fromEvaluation wait _ rounds held
    · split
      · exact ⟨rfl, paused⟩
      · exact alike.fromEvaluation wait _ rounds paused

end Poll

namespace Session

variable {σ α : Type} {kind : Request → Prop} {outside other : Outside σ}
  {reaction reactionToo : Reaction σ} {rounds : Nat}

theorem ask_agree (agree : outside.Agree kind other) {session : Session σ} {request : Request}
    (known : kind request) (unwatched : session.watcher = none) :
    session.ask other reactionToo request = session.ask outside reaction request :=
  calc session.ask other reactionToo request
    _ = session.ask other still request := ask_unwatched unwatched request
    _ = session.ask outside still request := by
      unfold ask
      rw [agree request known]
    _ = session.ask outside reaction request := (ask_unwatched unwatched request).symm

/-- Without a watcher, an action is dealt with alike by outsides that agree on its requests. -/
theorem step_agree (agree : outside.Agree kind other) {session : Session σ} {action : Action}
    (asks : action.AsksOnly kind) (unwatched : session.watcher = none)
    (unwatching : ∀ watcher, action ≠ .watch watcher) :
    session.step other reactionToo rounds action = session.step outside reaction rounds action ∧
      (session.step outside reaction rounds action).2.watcher = none := by
  cases action with
  | await condition =>
      have alike : Poll.Alike (fun session : Session σ => session.watcher = none)
          (surroundings outside reaction condition)
          (surroundings other reactionToo condition) := by
        refine ⟨rfl, rfl, rfl, fun session quiet => ?_, fun duration session quiet => ?_,
          fun session quiet => ?_⟩
        · change session.evaluate other reactionToo condition =
            session.evaluate outside reaction condition
          have announced : (session.addLog condition.announcement).watcher = none := quiet
          unfold evaluate
          rw [ask_agree agree asks announced]
        · exact (pause_rests duration session).1.watcher.trans quiet
        · exact (session.evaluate_rests outside reaction condition (.inl quiet)).1.watcher.trans
            quiet
      exact alike.run condition.wait condition.immediate rounds unwatched
  | watch watcher => exact absurd rfl (unwatching watcher)
  | ask request =>
      constructor
      · exact congrArg (fun asked => (some asked.1, asked.2)) (ask_agree agree asks unwatched)
      · change (session.ask outside reaction request).2.watcher = none
        rw [ask_of_quiet (.inl unwatched)]
        exact unwatched
  | cancel =>
      constructor
      · change (some (), session.cancel reactionToo) = (some (), session.cancel reaction)
        rw [cancel_of_quiet (.inl unwatched), cancel_of_quiet (.inl unwatched)]
      · change (session.cancel reaction).watcher = none
        rw [cancel_of_quiet (.inl unwatched)]
        exact unwatched
  | pause duration => exact ⟨rfl, (pause_rests duration session).1.watcher.trans unwatched⟩
  | _ => exact ⟨rfl, unwatched⟩

/-- Without a watcher, a program has the same transcript with outsides that agree on its
requests. -/
theorem Finishes.agree (agree : outside.Agree kind other) {program : Program α}
    {session after : Session σ} {transcript : List Answered} {value : α}
    (finishes : Finishes outside reaction rounds program session transcript value after)
    (uses : program.Uses fun action =>
      action.AsksOnly kind ∧ ∀ watcher, action ≠ .watch watcher)
    (unwatched : session.watcher = none) :
    Finishes other reactionToo rounds program session transcript value after ∧
      after.watcher = none := by
  induction finishes with
  | done value session => exact ⟨.done value session, unwatched⟩
  | @perform action next session middle after answer transcript value stepped _
      inductionHypothesis =>
      obtain ⟨same, quiet⟩ := step_agree agree uses.1.1 unwatched uses.1.2
      rw [stepped] at same quiet
      obtain ⟨rest, last⟩ := inductionHypothesis (uses.2 answer) quiet
      exact ⟨.perform same rest, last⟩

end Session

end AddonCheck
