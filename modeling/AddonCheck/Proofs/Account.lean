import AddonCheck.Proofs.Transcript

/-
This file holds the accounts of executions. An account lists the actions of an execution with their
answers, however the execution ends; a wait that is not settled is the last of them. Without a
watcher the account tells what becomes of the registry.
-/

namespace AddonCheck

/-- An action and its answer, if it has one. -/
abbrev Undertaken := (action : Action) × Option action.Answer

namespace Session

variable {σ α β : Type} {outside : Outside σ} {reaction : Reaction σ} {rounds : Nat}
  {session : Session σ}

/-- What an execution performs, up to its end or to a wait that is not settled. -/
def account (outside : Outside σ) (reaction : Reaction σ) (rounds : Nat) :
    Program α → Session σ → List Undertaken
  | .done _, _ => []
  | .crash, _ => []
  | .perform action next, session =>
      match session.step outside reaction rounds action with
      | (some answer, session) =>
          ⟨action, some answer⟩ :: account outside reaction rounds (next answer) session
      | (none, _) => [⟨action, none⟩]

/-- How an execution ends, and its account. -/
structure Amounts (outside : Outside σ) (reaction : Reaction σ) (rounds : Nat)
    (program : Program α) (session : Session σ) (outcome : Outcome α) (account : List Undertaken)
    (after : Session σ) : Prop where
  executed : execute outside reaction rounds program session = (outcome, after)
  accounted : Session.account outside reaction rounds program session = account

namespace Amounts

variable {after middle : Session σ} {outcome : Outcome α} {account later : List Undertaken}

theorem done (value : α) (session : Session σ) :
    Amounts outside reaction rounds (.done value) session (.finished value) [] session :=
  ⟨rfl, rfl⟩

theorem perform {action : Action} {answer : action.Answer} {next : action.Answer → Program α}
    (stepped : session.step outside reaction rounds action = (some answer, middle))
    (rest : Amounts outside reaction rounds (next answer) middle outcome account after) :
    Amounts outside reaction rounds (.perform action next) session outcome
      (⟨action, some answer⟩ :: account) after := by
  constructor
  · simp only [execute, stepped, rest.executed]
  · simp only [Session.account, stepped, rest.accounted]

theorem unsettled {action : Action} {next : action.Answer → Program α}
    (stepped : session.step outside reaction rounds action = (none, after)) :
    Amounts outside reaction rounds (.perform action next) session .unsettled
      [⟨action, none⟩] after := by
  constructor
  · simp only [execute, stepped]
  · simp only [Session.account, stepped]

/-- A sequence goes on if its first part ends with a value. -/
theorem bind {program : Program α} {next : α → Program β} {value : α} {outcome : Outcome β}
    (first : Amounts outside reaction rounds program session (.finished value) account middle)
    (rest : Amounts outside reaction rounds (next value) middle outcome later after) :
    Amounts outside reaction rounds (program.bind next) session outcome (account ++ later)
      after := by
  induction program generalizing session account with
  | done found =>
      obtain ⟨executed, rfl⟩ := first
      cases executed
      exact rest
  | crash => cases first.executed
  | perform action following inductionHypothesis =>
      obtain ⟨executed, rfl⟩ := first
      rcases stepped : session.step outside reaction rounds action with ⟨_ | answer, reached⟩
      · simp only [execute, stepped] at executed
        cases executed
      · simp only [execute, stepped] at executed
        simp only [Session.account, stepped]
        exact .perform stepped (inductionHypothesis answer ⟨executed, rfl⟩)

/-- What is left unsettled is left so with whatever follows. -/
theorem bind_unsettled {program : Program α} {next : α → Program β}
    (first : Amounts outside reaction rounds program session .unsettled account after) :
    Amounts outside reaction rounds (program.bind next) session .unsettled account after := by
  induction program generalizing session account with
  | done found => cases first.executed
  | crash => cases first.executed
  | perform action following inductionHypothesis =>
      obtain ⟨executed, rfl⟩ := first
      rcases stepped : session.step outside reaction rounds action with ⟨_ | answer, reached⟩
      · simp only [execute, stepped] at executed
        cases executed
        simp only [Session.account, stepped]
        exact .unsettled stepped
      · simp only [execute, stepped] at executed
        simp only [Session.account, stepped]
        exact .perform stepped (inductionHypothesis answer ⟨executed, rfl⟩)

end Amounts

/-- Without a watcher, a wait leaves the registry as it is. -/
theorem await_registry (condition : Condition) (unwatched : session.watcher = none) :
    (session.step outside reaction rounds (.await condition)).2.registry = session.registry ∧
      (session.step outside reaction rounds (.await condition)).2.watcher = none := by
  let around := surroundings outside reaction condition
  have alike : Poll.Alike
      (fun later : Session σ => later.registry = session.registry ∧ later.watcher = none)
      around around := by
    refine ⟨rfl, rfl, rfl, fun _ _ => rfl, ?_, ?_⟩
    · intro duration later held
      have rests := (pause_rests duration later).1
      exact ⟨rests.registry.trans held.1, rests.watcher.trans held.2⟩
    · intro later held
      have rests := (later.evaluate_rests outside reaction condition (.inl held.2)).1
      exact ⟨rests.registry.trans held.1, rests.watcher.trans held.2⟩
  exact (alike.run condition.wait condition.immediate rounds ⟨rfl, unwatched⟩).2

/-- Without a watcher, the registry changes by the action alone. -/
theorem step_registry {action : Action} (unwatched : session.watcher = none)
    (unwatching : ∀ watcher, action ≠ .watch watcher) :
    (session.step outside reaction rounds action).2.registry =
        action.registryAfter session.registry ∧
      (session.step outside reaction rounds action).2.watcher = none := by
  cases single : action.IsAwait with
  | true =>
      cases action with
      | await condition => exact await_registry condition unwatched
      | _ => cases single
  | false =>
      obtain ⟨answer, after, stepped⟩ := step_answers single session
      have effect := step_effect (.inl unwatched) (.inl unwatching) single stepped
      have unwatchedAfter : action.watcherAfter session.watcher = none := by
        cases action with
        | watch watcher => exact absurd rfl (unwatching watcher)
        | _ => exact unwatched
      rw [stepped]
      exact ⟨effect.registry, effect.watcher.trans unwatchedAfter⟩

end Session

/-- The registry after the actions of an account. -/
def Registry.after (registry : Registry) (account : List Undertaken) : Registry :=
  account.foldl (fun registry undertaken => undertaken.1.registryAfter registry) registry

namespace Session

variable {σ α : Type} {outside : Outside σ} {reaction : Reaction σ} {rounds : Nat}

/-- Without a watcher, the registry is what the account makes of it. -/
theorem execute_registry {program : Program α} {session : Session σ}
    (unwatched : session.watcher = none)
    (uses : program.Uses fun action => ∀ watcher, action ≠ .watch watcher) :
    (execute outside reaction rounds program session).2.registry =
      session.registry.after (account outside reaction rounds program session) := by
  induction program generalizing session with
  | done value => rfl
  | crash => rfl
  | perform action next inductionHypothesis =>
      have changed : (session.step outside reaction rounds action).2.registry =
            action.registryAfter session.registry ∧
          (session.step outside reaction rounds action).2.watcher = none :=
        step_registry unwatched uses.1
      unfold execute account
      rcases stepped : session.step outside reaction rounds action with ⟨_ | answer, after⟩
      · rw [stepped] at changed
        exact changed.1
      · rw [stepped] at changed
        have rest := inductionHypothesis answer changed.2 (uses.2 answer)
        rw [changed.1] at rest
        exact rest

end Session

end AddonCheck
