import AddonCheck.Proofs.Interleaving

/-
This file shows that the execution of a program without a watcher is a run of a crew of one thread.
A wait is taken apart into its evaluations, the pauses between them, and its end.
-/

namespace AddonCheck

namespace Program

variable {α φ : Type}

/-- A program that keeps a discipline performs only what is allowed in some state. -/
theorem Keeps.uses {discipline : Discipline φ} {program : Program α} {state : φ}
    {fit : Option α → φ → Prop} (kept : program.Keeps discipline state fit) :
    program.Uses fun action => ∃ state, discipline.allows state action := by
  induction program generalizing state with
  | done value => trivial
  | crash => trivial
  | perform action next inductionHypothesis =>
      exact ⟨⟨state, kept.1⟩, fun answer => inductionHypothesis answer (kept.2 answer)⟩

end Program

/-- Whether every wait of the execution has been settled. -/
def Outcome.isSettled {α : Type} : Outcome α → Bool
  | .unsettled => false
  | _ => true

namespace Session

variable {σ α : Type} {outside : Outside σ} {reaction : Reaction σ} {rounds : Nat}

/-- The actions that an execution performs. -/
def performed (outside : Outside σ) (reaction : Reaction σ) (rounds : Nat) :
    Program α → Session σ → List Action
  | .done _, _ => []
  | .crash, _ => []
  | .perform action next, session =>
      match session.step outside reaction rounds action with
      | (some answer, session) => action :: performed outside reaction rounds (next answer) session
      | (none, _) => [action]

/-- Without a watcher it makes no difference how one would react. -/
theorem ask_unwatched {session : Session σ} (unwatched : session.watcher = none)
    (request : Request) :
    session.ask outside reaction request = session.ask outside still request :=
  (ask_of_quiet (.inl unwatched) request).trans (ask_of_quiet (.inr rfl) request).symm

theorem evaluate_unwatched {session : Session σ} (unwatched : session.watcher = none)
    (condition : Condition) :
    session.evaluate outside reaction condition = session.evaluate outside still condition := by
  have quiet : (session.addLog condition.announcement).watcher = none := unwatched
  unfold evaluate
  rw [ask_unwatched quiet condition.request]

theorem step_unwatched {session : Session σ} {action : Action} (unwatched : session.watcher = none)
    (single : action.IsAwait = false) (unwatching : ∀ watcher, action ≠ .watch watcher) :
    session.step outside reaction rounds action = session.step outside still 0 action := by
  cases action with
  | await condition => cases single
  | watch watcher => exact absurd rfl (unwatching watcher)
  | cancel =>
      change (some (), session.cancel reaction) = (some (), session.cancel still)
      rw [cancel_of_quiet (.inl unwatched), cancel_of_quiet (.inl unwatched)]
  | ask request =>
      exact congrArg (fun asked => (some asked.1, asked.2)) (ask_unwatched unwatched request)
  | _ => rfl

end Session

namespace Crew

variable {ι σ : Type} [DecidableEq ι] {outside : Outside σ}

theorem plays_append {crew middle : Crew ι σ} {first : List (Turn ι)}
    (played : crew.plays outside first = some middle) (later : List (Turn ι)) :
    crew.plays outside (first ++ later) = middle.plays outside later := by
  induction first generalizing crew with
  | nil =>
      cases played
      rfl
  | cons turn rest inductionHypothesis =>
      obtain ⟨after, one, others⟩ := Option.bind_eq_some_iff.mp played
      change (crew.play outside turn).bind _ = _
      rw [one]
      exact inductionHypothesis others

/-- The evaluations and pauses of a wait are turns of the thread that waits. -/
theorem fromEvaluation_plays (crew : Crew ι σ) {thread : ι} {condition : Condition}
    {next : Except Poll.Error Unit → Program Unit} {reaction : Session.Reaction σ}
    {deadline : Option Nat} {rounds : Nat} {answer : Except Poll.Error Unit} {after : Session σ}
    (found : crew.programs thread = .perform (.await condition) next)
    (unwatched : crew.session.watcher = none) (alone : crew.watcher? = none)
    (polled : Poll.fromEvaluation (Session.surroundings outside reaction condition) condition.wait
      deadline rounds crew.session = (some answer, after)) :
    (∃ turns, crew.plays outside turns = some { crew with session := after }) ∧
      after.watcher = none ∧ (answer = .error .cancelled → after.isCancelled = true) := by
  induction rounds generalizing crew with
  | zero => cases polled
  | succ rounds inductionHypothesis =>
      rcases evaluated : crew.session.evaluate outside reaction condition with ⟨probe, session⟩
      have played : crew.play outside (.evaluate thread) =
          some { crew with session := session } := by
        rw [Session.evaluate_unwatched unwatched] at evaluated
        simp [play, evaluate, found, isAwake, alone, evaluated]
      have quiet : session.watcher = none := by
        have rests := (crew.session.evaluate_rests outside reaction condition (.inl unwatched)).1
        rw [evaluated] at rests
        exact rests.watcher.trans unwatched
      simp only [Poll.fromEvaluation, Session.surroundings, evaluated] at polled
      cases probe with
      | converged =>
          cases polled
          exact ⟨⟨[.evaluate thread], by simp [plays, played]⟩, quiet, by simp⟩
      | fatal reason =>
          cases polled
          exact ⟨⟨[.evaluate thread], by simp [plays, played]⟩, quiet, by simp⟩
      | pending =>
          dsimp only at polled
          split at polled
          · cases polled
            exact ⟨⟨[.evaluate thread], by simp [plays, played]⟩, quiet, by simp⟩
          · next pause _ =>
              have paused : plays outside crew [.evaluate thread, .pass pause] =
                  some { crew with session := session.pause pause } := by
                rw [plays, played]
                rfl
              have quieter : (session.pause pause).watcher = none :=
                (Session.pause_rests pause session).1.watcher.trans quiet
              by_cases cancelled : (session.pause pause).isCancelled = true
              · simp only [cancelled, ↓reduceIte] at polled
                cases polled
                exact ⟨⟨_, paused⟩, quieter, fun _ => cancelled⟩
              · simp only [cancelled] at polled
                obtain ⟨⟨turns, later⟩, facts⟩ := inductionHypothesis
                  { crew with session := session.pause pause } found quieter alone polled
                exact ⟨⟨_, (plays_append paused turns).trans later⟩, facts⟩

/-- A wait that is settled is a run of turns of the thread that waits. -/
theorem poll_plays (crew : Crew ι σ) {thread : ι} {condition : Condition}
    {next : Except Poll.Error Unit → Program Unit} {reaction : Session.Reaction σ} {rounds : Nat}
    {answer : Except Poll.Error Unit} {after : Session σ}
    (found : crew.programs thread = .perform (.await condition) next)
    (unwatched : crew.session.watcher = none) (alone : crew.watcher? = none)
    (polled : Poll.run (Session.surroundings outside reaction condition) condition.wait
      condition.immediate rounds crew.session = (some answer, after)) :
    (∃ turns, crew.plays outside turns = some { crew with session := after }) ∧
      after.watcher = none ∧ (answer = .error .cancelled → after.isCancelled = true) := by
  unfold Poll.run at polled
  dsimp only at polled
  split at polled
  · next cancelled =>
      cases polled
      exact ⟨⟨[], rfl⟩, unwatched, fun _ => cancelled⟩
  · split at polled
    · exact fromEvaluation_plays crew found unwatched alone polled
    · have quiet := (Session.pause_rests (Poll.firstPause condition.wait) crew.session).1.watcher
      split at polled
      · next cancelled =>
          cases polled
          exact ⟨⟨[.pass (Poll.firstPause condition.wait)], rfl⟩, quiet.trans unwatched,
            fun _ => cancelled⟩
      · obtain ⟨⟨turns, later⟩, facts⟩ := fromEvaluation_plays
          { crew with session := crew.session.pause (Poll.firstPause condition.wait) }
          found (quiet.trans unwatched) alone polled
        exact ⟨⟨.pass (Poll.firstPause condition.wait) :: turns, later⟩, facts⟩

/-- A wait that is settled is a deed of the thread that waits. -/
theorem await_plays (crew : Crew ι σ) {thread : ι} {condition : Condition}
    {next : Except Poll.Error Unit → Program Unit} {reaction : Session.Reaction σ} {rounds : Nat}
    {answer : Except Poll.Error Unit} {after : Session σ}
    (found : crew.programs thread = .perform (.await condition) next)
    (unwatched : crew.session.watcher = none) (alone : crew.watcher? = none)
    (stepped : crew.session.step outside reaction rounds (.await condition) =
      (some answer, after)) :
    (∃ turns, crew.plays outside turns = some
      (crew.did ⟨thread, .await condition, answer, after.outside⟩ after (next answer))) ∧
      after.watcher = none := by
  obtain ⟨⟨turns, waited⟩, quiet, cancelled⟩ := poll_plays crew found unwatched alone stepped
  have settles : maySettle { crew with session := after } answer = true := by
    unfold maySettle
    split
    · exact cancelled rfl
    · rfl
  have awake : isAwake { crew with session := after } thread = true := by
    simp [isAwake, alone]
  have ended : plays outside { crew with session := after } [.settle thread answer] = some
      (crew.did ⟨thread, .await condition, answer, after.outside⟩ after (next answer)) := by
    simp [plays, play, settle, found, awake, settles, did]
  exact ⟨⟨_, (plays_append waited _).trans ended⟩, quiet⟩

/-- Any other action is a turn of its own. -/
theorem act_plays (crew : Crew ι σ) {thread : ι} {action : Action} {answer : action.Answer}
    {next : action.Answer → Program Unit} {reaction : Session.Reaction σ} {rounds : Nat}
    {after : Session σ} (found : crew.programs thread = .perform action next)
    (unwatched : crew.session.watcher = none) (alone : crew.watcher? = none)
    (single : action.IsAwait = false) (unwatching : ∀ watcher, action ≠ .watch watcher)
    (stepped : crew.session.step outside reaction rounds action = (some answer, after)) :
    (∃ turns, crew.plays outside turns = some
      (crew.did ⟨thread, action, answer, after.outside⟩ after (next answer))) ∧
      after.watcher = none := by
  have effect := Session.step_effect (.inl unwatched) (.inl unwatching) single stepped
  rw [Session.step_unwatched unwatched single unwatching] at stepped
  have ready : crew.isReady action = true := by
    unfold isReady
    split
    · rw [alone]
      rfl
    · rfl
  have quiet : action.watcherAfter crew.session.watcher = none := by
    cases action with
    | watch watcher => exact absurd rfl (unwatching watcher)
    | _ => exact unwatched
  refine ⟨⟨[.act thread], ?_⟩, effect.watcher.trans quiet⟩
  simp [plays, play, act, found, isAwake, alone, single, ready, stepped]

/-- The program that a settled execution leaves to its thread. -/
def rest {α : Type} (next : α → Program Unit) : Outcome α → Program Unit
  | .finished value => next value
  | .crashed => .crash
  | .unsettled => .crash

/-- A settled execution without a watcher is a run of a crew, whose deeds are the actions that it
performs. -/
theorem execute_plays {α : Type} {program : Program α} (crew : Crew ι σ) {thread : ι}
    {next : α → Program Unit} {reaction : Session.Reaction σ} {rounds : Nat} {outcome : Outcome α}
    {after : Session σ} (left : crew.programs thread = program.bind next)
    (unwatched : crew.session.watcher = none) (alone : crew.watcher? = none)
    (unwatching : program.Uses fun action => ∀ watcher, action ≠ .watch watcher)
    (executed : Session.execute outside reaction rounds program crew.session = (outcome, after))
    (settled : outcome.isSettled = true) :
    ∃ turns later, crew.plays outside turns = some later ∧ later.session = after ∧
      later.programs thread = rest next outcome ∧
      later.history.map (fun deed => (deed.thread, deed.action)) =
        crew.history.map (fun deed => (deed.thread, deed.action)) ++
          (Session.performed outside reaction rounds program crew.session).map (thread, ·) := by
  induction program generalizing crew with
  | done value =>
      cases executed
      exact ⟨[], crew, rfl, rfl, left, (List.append_nil _).symm⟩
  | crash =>
      cases executed
      exact ⟨[], crew, rfl, rfl, left, (List.append_nil _).symm⟩
  | perform action following inductionHypothesis =>
      rcases stepped : crew.session.step outside reaction rounds action with ⟨_ | answer, session⟩
      · simp only [Session.execute, stepped] at executed
        cases executed
        cases settled
      · simp only [Session.execute, stepped] at executed
        have first : (∃ turns, crew.plays outside turns = some
            (crew.did ⟨thread, action, answer, session.outside⟩ session
              ((following answer).bind next))) ∧ session.watcher = none := by
          cases action with
          | await condition => exact await_plays crew left unwatched alone stepped
          | _ => exact act_plays crew left unwatched alone rfl unwatching.1 stepped
        obtain ⟨⟨turns, played⟩, quiet⟩ := first
        obtain ⟨more, later, replayed, same, program, deeds⟩ := inductionHypothesis answer
          (crew.did ⟨thread, action, answer, session.outside⟩ session
            ((following answer).bind next))
          (Function.update_self ..) quiet alone (unwatching.2 answer) executed
        refine ⟨turns ++ more, later, (plays_append played more).trans replayed, same, program, ?_⟩
        rw [deeds]
        simp [did, Session.performed, stepped]

end Crew

end AddonCheck
