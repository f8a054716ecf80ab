import AddonCheck.Proofs.Deed
import AddonCheck.Proofs.Discipline
import Mathlib.Logic.Function.Basic

/-
This file interleaves the threads of a run. A list of turns says who is next, how long a wait goes
on, and when the run is cancelled; every order of turns is possible.
-/

namespace AddonCheck

/-- What happens next in a run of several threads. -/
inductive Turn (ι : Type) where
  /-- The run is cancelled from outside its threads. -/
  | cancel
  | pass (duration : Duration)
  /-- The thread performs its next action, which is no wait. -/
  | act (thread : ι)
  /-- The thread evaluates the condition that it waits for. -/
  | evaluate (thread : ι)
  /-- The wait of the thread ends. -/
  | settle (thread : ι) (answer : Except Poll.Error Unit)

/-- Whether the program has nothing left to do. -/
def Program.isOver {α : Type} : Program α → Bool
  | done _ => true
  | crash => true
  | perform _ _ => false

/-- An element of a list with a new last element is that element, or it was there before. -/
theorem snoc_split {β : Type} {items before after : List β} {last item : β}
    (parts : items ++ [last] = before ++ item :: after) :
    (before = items ∧ item = last ∧ after = []) ∨
      ∃ earlier, after = earlier ++ [last] ∧ items = before ++ item :: earlier := by
  rcases List.eq_nil_or_concat after with rfl | ⟨earlier, final, rfl⟩
  · obtain ⟨rfl, same⟩ := List.append_inj' parts rfl
    exact .inl ⟨rfl, (List.cons.inj same).1.symm, rfl⟩
  · rw [List.concat_eq_append, ← List.cons_append, ← List.append_assoc] at parts
    obtain ⟨former, same⟩ := List.append_inj' parts rfl
    exact .inr ⟨earlier, by rw [List.concat_eq_append, same], former⟩

/-- The threads of a run and their deeds, the latest last. -/
structure Crew (ι σ : Type) where
  session : Session σ
  /-- What is left to each thread. -/
  programs : ι → Program Unit
  /-- The thread that sleeps until it has been started and the run is cancelled. -/
  watcher? : Option ι := none
  history : List (Deed ι σ) := []

namespace Crew

variable {ι σ φ : Type}

/-- Whoever joins the watcher waits for its end. -/
def isReady (crew : Crew ι σ) : Action → Bool
  | .joinWatcher => crew.watcher?.all fun watcher => (crew.programs watcher).isOver
  | _ => true

/-- A wait ends as cancelled only in a cancelled run. -/
def maySettle (crew : Crew ι σ) : Except Poll.Error Unit → Bool
  | .error .cancelled => crew.session.isCancelled
  | _ => true

/-- Every thread keeps the discipline from its state on. -/
def Keeps (discipline : Discipline φ) (fit : ι → Option Unit → φ → Prop) (states : ι → φ)
    (crew : Crew ι σ) : Prop :=
  ∀ thread, (crew.programs thread).Keeps discipline (states thread) (fit thread)

/-- A thread that is over is in a state that is fit for its end. -/
theorem Keeps.fits {discipline : Discipline φ} {fit : ι → Option Unit → φ → Prop}
    {states : ι → φ} {crew : Crew ι σ} {thread : ι} (kept : crew.Keeps discipline fit states)
    (isOver : (crew.programs thread).isOver = true) :
    ∃ result, fit thread result (states thread) := by
  have ended := kept thread
  cases program : crew.programs thread with
  | done value =>
      rw [program] at ended
      exact ⟨_, ended⟩
  | crash =>
      rw [program] at ended
      exact ⟨_, ended⟩
  | perform action next => simp [program, Program.isOver] at isOver

variable [DecidableEq ι]

/-- The watcher gets on only in a cancelled run that has started it. -/
def isAwake (crew : Crew ι σ) (thread : ι) : Bool :=
  crew.watcher? ≠ some thread || (crew.session.watcher.isSome && crew.session.isCancelled)

/-- The crew after a thread has done its next deed. -/
def did (crew : Crew ι σ) (deed : Deed ι σ) (session : Session σ) (rest : Program Unit) :
    Crew ι σ :=
  { crew with
    session := session
    programs := Function.update crew.programs deed.thread rest
    history := crew.history ++ [deed] }

/-- A deed is the last one that was done, or it was there before. -/
theorem did_history {crew : Crew ι σ} {last deed : Deed ι σ} {session : Session σ}
    {rest : Program Unit} {before after : List (Deed ι σ)}
    (history : (crew.did last session rest).history = before ++ deed :: after) :
    (before = crew.history ∧ deed = last ∧ after = []) ∨
      ∃ earlier, after = earlier ++ [last] ∧ crew.history = before ++ deed :: earlier :=
  snoc_split history

/-- A thread performs its next action. -/
def act (outside : Outside σ) (crew : Crew ι σ) (thread : ι) : Option (Crew ι σ) :=
  match crew.programs thread with
  | .perform action next =>
      if !action.IsAwait && crew.isAwake thread && crew.isReady action then
        match crew.session.step outside Session.still 0 action with
        | (some answer, session) => some
            (crew.did ⟨thread, action, answer, session.outside⟩ session (next answer))
        | (none, _) => none
      else none
  | _ => none

/-- A thread evaluates the condition that it waits for. -/
def evaluate (outside : Outside σ) (crew : Crew ι σ) (thread : ι) : Option (Crew ι σ) :=
  match crew.programs thread with
  | .perform (.await condition) _ =>
      if crew.isAwake thread then some
        { crew with session := (crew.session.evaluate outside Session.still condition).2 }
      else none
  | _ => none

/-- A thread ends its wait. -/
def settle (crew : Crew ι σ) (thread : ι) (answer : Except Poll.Error Unit) :
    Option (Crew ι σ) :=
  match crew.programs thread with
  | .perform (.await condition) next =>
      if crew.isAwake thread && crew.maySettle answer then
        some (crew.did ⟨thread, .await condition, answer, crew.session.outside⟩ crew.session
          (next answer))
      else none
  | _ => none

/-- One turn of a crew; a turn that cannot be taken has no outcome. -/
def play (outside : Outside σ) (crew : Crew ι σ) : Turn ι → Option (Crew ι σ)
  | .cancel => some { crew with session := crew.session.cancel Session.still }
  | .pass duration => some { crew with session := crew.session.pause duration }
  | .act thread => crew.act outside thread
  | .evaluate thread => crew.evaluate outside thread
  | .settle thread answer => crew.settle thread answer

/-- The turns of a crew, one after another. -/
def plays (outside : Outside σ) : Crew ι σ → List (Turn ι) → Option (Crew ι σ)
  | crew, [] => some crew
  | crew, turn :: rest => (crew.play outside turn).bind fun crew => crew.plays outside rest

/-- What a turn does to a crew: no thread gets on with its program, a thread evaluates what it
waits for, or a thread does a deed. -/
inductive Moves (outside : Outside σ) (crew : Crew ι σ) : Crew ι σ → Prop where
  | rest {session : Session σ} (rests : crew.session.Rests session)
      (same : session.outside = crew.session.outside) :
      Moves outside crew { crew with session := session }
  | evaluation {session : Session σ} {thread : ι} {condition : Condition}
      {next : Except Poll.Error Unit → Program Unit}
      (found : crew.programs thread = .perform (.await condition) next)
      (rests : crew.session.Rests session)
      (asked : session.outside = (outside.reply condition.request crew.session.outside).2) :
      Moves outside crew { crew with session := session }
  | deed {session : Session σ} {thread : ι} {action : Action} {answer : action.Answer}
      {next : action.Answer → Program Unit}
      (found : crew.programs thread = .perform action next)
      (awake : crew.isAwake thread = true)
      (effect : Session.Effect outside action answer crew.session session) :
      Moves outside crew
        (crew.did ⟨thread, action, answer, session.outside⟩ session (next answer))

/-- What it takes that a thread performs its next action. -/
theorem act_eq_some {outside : Outside σ} {crew after : Crew ι σ} {thread : ι}
    (played : crew.act outside thread = some after) :
    ∃ (action : Action) (next : action.Answer → Program Unit) (answer : action.Answer)
      (session : Session σ), crew.programs thread = .perform action next ∧
      action.IsAwait = false ∧ crew.isAwake thread = true ∧
      crew.session.step outside Session.still 0 action = (some answer, session) ∧
      after = crew.did ⟨thread, action, answer, session.outside⟩ session (next answer) := by
  unfold act at played
  split at played
  · next action next found =>
      split at played
      · next may =>
          obtain ⟨⟨single, awake⟩, -⟩ : (action.IsAwait = false ∧ crew.isAwake thread = true) ∧
              crew.isReady action = true := by simpa using may
          split at played
          · next answer session stepped =>
              cases played
              exact ⟨action, next, answer, session, found, single, awake, stepped, rfl⟩
          · cases played
      · cases played
  · cases played

theorem evaluate_eq_some {outside : Outside σ} {crew after : Crew ι σ} {thread : ι}
    (played : crew.evaluate outside thread = some after) :
    ∃ (condition : Condition) (next : Except Poll.Error Unit → Program Unit),
      crew.programs thread = .perform (.await condition) next ∧ crew.isAwake thread = true ∧
      after =
        { crew with session := (crew.session.evaluate outside Session.still condition).2 } := by
  unfold evaluate at played
  split at played
  · next condition next found =>
      split at played
      · next awake =>
          cases played
          exact ⟨condition, next, found, awake, rfl⟩
      · cases played
  · cases played

theorem settle_eq_some {crew after : Crew ι σ} {thread : ι} {answer : Except Poll.Error Unit}
    (played : crew.settle thread answer = some after) :
    ∃ (condition : Condition) (next : Except Poll.Error Unit → Program Unit),
      crew.programs thread = .perform (.await condition) next ∧ crew.isAwake thread = true ∧
      crew.maySettle answer = true ∧
      after = crew.did ⟨thread, .await condition, answer, crew.session.outside⟩ crew.session
        (next answer) := by
  unfold settle at played
  split at played
  · next condition next found =>
      split at played
      · next may =>
          obtain ⟨awake, settles⟩ : crew.isAwake thread = true ∧
              crew.maySettle answer = true := by simpa using may
          cases played
          exact ⟨condition, next, found, awake, settles, rfl⟩
      · cases played
  · cases played

theorem act_moves {outside : Outside σ} {crew after : Crew ι σ} {thread : ι}
    (played : crew.act outside thread = some after) : crew.Moves outside after := by
  obtain ⟨action, next, answer, session, found, single, awake, stepped, rfl⟩ := act_eq_some played
  exact .deed found awake (Session.step_effect (.inr rfl) (.inr rfl) single stepped)

theorem evaluate_moves {outside : Outside σ} {crew after : Crew ι σ} {thread : ι}
    (played : crew.evaluate outside thread = some after) : crew.Moves outside after := by
  obtain ⟨condition, next, found, -, rfl⟩ := evaluate_eq_some played
  obtain ⟨rests, asked⟩ := crew.session.evaluate_rests outside Session.still condition (.inr rfl)
  exact .evaluation found rests asked

theorem settle_moves {outside : Outside σ} {crew after : Crew ι σ} {thread : ι}
    {answer : Except Poll.Error Unit} (played : crew.settle thread answer = some after) :
    crew.Moves outside after := by
  obtain ⟨condition, next, found, awake, settles, rfl⟩ := settle_eq_some played
  refine .deed found awake ⟨rfl, rfl, rfl, rfl, ?_, id⟩
  rintro rfl
  exact settles

/-- Every turn moves the crew in one of the three ways. -/
theorem play_moves {outside : Outside σ} {crew after : Crew ι σ} {turn : Turn ι}
    (played : crew.play outside turn = some after) : crew.Moves outside after := by
  cases turn with
  | cancel =>
      cases played
      refine .rest ?_ ?_ <;> rw [Session.cancel_of_quiet (.inr rfl)]
      exact ⟨rfl, rfl, rfl, fun _ => rfl⟩
  | pass duration =>
      cases played
      obtain ⟨rests, same⟩ := Session.pause_rests duration crew.session
      exact .rest rests same
  | act thread => exact act_moves played
  | evaluate thread => exact evaluate_moves played
  | settle thread answer => exact settle_moves played

/-- What holds of a crew and of the states of its threads. -/
abbrev Assertion (ι σ φ : Type) := (ι → φ) → Crew ι σ → Prop

/-- The assertion survives every move of a crew whose threads keep the discipline. -/
structure Stable (outside : Outside σ) (discipline : Discipline φ)
    (assertion : Assertion ι σ φ) : Prop where
  rest {states : ι → φ} {crew : Crew ι σ} {session : Session σ} :
    assertion states crew → crew.session.Rests session →
      session.outside = crew.session.outside → assertion states { crew with session := session }
  evaluation {states : ι → φ} {crew : Crew ι σ} {session : Session σ} {thread : ι}
      {condition : Condition} :
    assertion states crew → discipline.allows (states thread) (.await condition) →
      crew.session.Rests session →
      session.outside = (outside.reply condition.request crew.session.outside).2 →
      assertion states { crew with session := session }
  deed {states : ι → φ} {crew : Crew ι σ} {session : Session σ} {rest : Program Unit}
      (thread : ι) (action : Action) (answer : action.Answer) :
    assertion states crew → discipline.allows (states thread) action →
      crew.isAwake thread = true →
      Session.Effect outside action answer crew.session session →
      assertion (Function.update states thread (discipline.next (states thread) action answer))
        (crew.did ⟨thread, action, answer, session.outside⟩ session rest)

/-- Two stable assertions hold together. -/
theorem Stable.and {outside : Outside σ} {discipline : Discipline φ}
    {first second : Assertion ι σ φ} (one : Stable outside discipline first)
    (other : Stable outside discipline second) :
    Stable outside discipline fun states crew => first states crew ∧ second states crew where
  rest holds rests same := ⟨one.rest holds.1 rests same, other.rest holds.2 rests same⟩
  evaluation holds allowed rests asked :=
    ⟨one.evaluation holds.1 allowed rests asked, other.evaluation holds.2 allowed rests asked⟩
  deed thread action answer holds allowed awake effect :=
    ⟨one.deed thread action answer holds.1 allowed awake effect,
      other.deed thread action answer holds.2 allowed awake effect⟩

theorem Stable.congr {outside : Outside σ} {discipline : Discipline φ}
    {assertion other : Assertion ι σ φ} (stable : Stable outside discipline assertion)
    (same : ∀ states crew, assertion states crew ↔ other states crew) :
    Stable outside discipline other :=
  (funext fun states => funext fun crew => propext (same states crew) : assertion = other) ▸ stable

/-- A move leaves the threads in states from which they keep the discipline, and in which the
assertion holds. -/
theorem Moves.keeps {outside : Outside σ} {discipline : Discipline φ}
    {assertion : Assertion ι σ φ} {fit : ι → Option Unit → φ → Prop} {states : ι → φ}
    {crew after : Crew ι σ} (moves : crew.Moves outside after)
    (stable : Stable outside discipline assertion) (kept : crew.Keeps discipline fit states)
    (holds : assertion states crew) :
    ∃ states, after.Keeps discipline fit states ∧ assertion states after := by
  cases moves with
  | rest rests same => exact ⟨states, kept, stable.rest holds rests same⟩
  | evaluation found rests asked =>
      rename_i thread condition next
      have allowed := kept thread
      rw [found] at allowed
      exact ⟨states, kept, stable.evaluation holds allowed.1 rests asked⟩
  | deed found awake effect =>
      rename_i session thread action answer next
      have allowed := kept thread
      rw [found] at allowed
      refine ⟨_, fun other => ?_, stable.deed thread action answer holds allowed.1 awake effect⟩
      by_cases same : other = thread
      · subst same
        simpa [did] using allowed.2 answer
      · simpa [did, same] using kept other

/-- What is stable and holds at first holds of every crew that is reached. -/
theorem plays_keeps {outside : Outside σ} {discipline : Discipline φ}
    {assertion : Assertion ι σ φ} {fit : ι → Option Unit → φ → Prop} {states : ι → φ}
    {crew after : Crew ι σ} {turns : List (Turn ι)}
    (stable : Stable outside discipline assertion) (kept : crew.Keeps discipline fit states)
    (holds : assertion states crew) (played : crew.plays outside turns = some after) :
    ∃ states, after.Keeps discipline fit states ∧ assertion states after := by
  induction turns generalizing crew states with
  | nil =>
      cases played
      exact ⟨states, kept, holds⟩
  | cons turn rest inductionHypothesis =>
      obtain ⟨middle, first, later⟩ := Option.bind_eq_some_iff.mp played
      obtain ⟨states, kept, holds⟩ := (play_moves first).keeps stable kept holds
      exact inductionHypothesis kept holds later

end Crew

end AddonCheck
