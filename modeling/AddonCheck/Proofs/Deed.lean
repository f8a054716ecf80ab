import AddonCheck.Proofs.Discipline
import AddonCheck.Session

/-
This file holds the deeds of threads, and what an action does to a session in which no watcher
reacts at once. A wait is no single deed of a session: what it does is left to its evaluations.
-/

namespace AddonCheck

/-- What a thread has done: an action, its answer, and the state in which it left the outside. -/
structure Deed (ι σ : Type) where
  thread : ι
  action : Action
  answer : action.Answer
  left : σ

namespace Action

def registryAfter : Action → Registry → Registry
  | .registerWorkspace resource, registry => registry.registerWorkspace resource
  | .register resource, registry => registry.register resource
  | .drain, _ => {}
  | _, registry => registry

def gatheredAfter : Action → String → String
  | .addLine text, gathered => gathered ++ Notification.line text
  | .takeLines, _ => ""
  | _, gathered => gathered

def watcherAfter : Action → Option Watcher → Option Watcher
  | .watch watcher, _ => some watcher
  | _, watcher => watcher

def outsideAfter {σ : Type} (outside : Outside σ) : Action → σ → σ
  | .ask request, state => (outside.reply request state).2
  | _, state => state

/-- An action that looks at the session is answered with what is there. -/
def AnsweredIn {σ : Type} (session : Session σ) : (action : Action) → action.Answer → Prop
  | .isCancelled, answer => answer = session.isCancelled
  | .await _, answer => answer = .error .cancelled → session.isCancelled = true
  | .drain, answer => answer = session.registry.deletionOrder
  | .takeLines, answer => answer = session.gathered
  | _, _ => True

def IsAwait : Action → Bool
  | .await _ => true
  | _ => false

end Action

namespace Session

variable {σ : Type}

/-- A session in which nobody reacts to a cancellation. -/
def still : Reaction σ := fun _ session => session

/-- What an action does to a session, and what it is answered with. -/
structure Effect (outside : Outside σ) (action : Action) (answer : action.Answer)
    (before after : Session σ) : Prop where
  registry : after.registry = action.registryAfter before.registry
  gathered : after.gathered = action.gatheredAfter before.gathered
  watcher : after.watcher = action.watcherAfter before.watcher
  outside : after.outside = action.outsideAfter outside before.outside
  answered : action.AnsweredIn before answer
  cancelled : before.isCancelled = true → after.isCancelled = true

/-- What stays as it is in a session while no thread gets on with its program. -/
structure Rests (before after : Session σ) : Prop where
  registry : after.registry = before.registry
  gathered : after.gathered = before.gathered
  watcher : after.watcher = before.watcher
  cancelled : before.isCancelled = true → after.isCancelled = true

/-- A cancellation to which nobody reacts is only noted. -/
theorem cancel_of_quiet {reaction : Reaction σ} {session : Session σ}
    (quiet : session.watcher = none ∨ reaction = still) :
    session.cancel reaction = { session with isCancelled := true } := by
  unfold cancel
  by_cases cancelled : session.isCancelled = true
  · rw [if_pos cancelled, ← cancelled]
  · rw [if_neg cancelled]
    rcases quiet with unwatched | rfl
    · rw [unwatched]
    · cases session.watcher <;> rfl

/-- A request changes the state of the outside, the time, and whether the run is cancelled. -/
theorem ask_of_quiet {outside : Outside σ} {reaction : Reaction σ} {session : Session σ}
    (quiet : session.watcher = none ∨ reaction = still) (request : Request) :
    let reply := outside.reply request session.outside
    session.ask outside reaction request =
      (reply.1.answer,
        { session with
          outside := reply.2
          elapsed := session.elapsed + reply.1.takes.nanos
          isCancelled := session.isCancelled || reply.1.cancels }) := by
  intro reply
  have asked : session.ask outside reaction request =
      (reply.1.answer,
        if reply.1.cancels = true then
          cancel reaction { session with
            outside := reply.2, elapsed := session.elapsed + reply.1.takes.nanos }
        else { session with
          outside := reply.2, elapsed := session.elapsed + reply.1.takes.nanos }) := rfl
  rw [asked]
  cases reply.1.cancels with
  | true =>
      rw [if_pos rfl, Bool.or_true]
      exact congrArg (Prod.mk _) (cancel_of_quiet quiet)
  | false => rw [if_neg Bool.false_ne_true, Bool.or_false]

theorem pause_rests (duration : Duration) (session : Session σ) :
    session.Rests (session.pause duration) ∧
      (session.pause duration).outside = session.outside := by
  unfold pause
  split <;> exact ⟨⟨rfl, rfl, rfl, id⟩, rfl⟩

/-- An evaluation asks its request and does nothing else to the objects and lines of a run. -/
theorem evaluate_rests (session : Session σ) (outside : Outside σ) (reaction : Reaction σ)
    (condition : Condition) (quiet : session.watcher = none ∨ reaction = still) :
    session.Rests (session.evaluate outside reaction condition).2 ∧
      (session.evaluate outside reaction condition).2.outside =
        (outside.reply condition.request session.outside).2 := by
  have quieter : (session.addLog condition.announcement).watcher = none ∨ reaction = still := quiet
  have evaluated : (session.evaluate outside reaction condition).2 =
      let asked := (session.addLog condition.announcement).ask outside reaction condition.request
      asked.2.addLog (condition.judge asked.1).log := rfl
  rw [evaluated, ask_of_quiet quieter]
  exact ⟨⟨rfl, rfl, rfl, fun cancelled => by simp [addLog, cancelled]⟩, rfl⟩

/-- The effect of every action but a wait. -/
theorem step_effect {outside : Outside σ} {reaction : Reaction σ} {rounds : Nat}
    {session after : Session σ} {action : Action} {answer : action.Answer}
    (quiet : session.watcher = none ∨ reaction = still)
    (unwatching : (∀ watcher, action ≠ .watch watcher) ∨ reaction = still)
    (single : action.IsAwait = false)
    (stepped : session.step outside reaction rounds action = (some answer, after)) :
    Effect outside action answer session after := by
  cases action with
  | await condition => cases single
  | cancel =>
      have cancelled := congrArg Prod.snd stepped
      change session.cancel reaction = after at cancelled
      rw [cancel_of_quiet quiet] at cancelled
      subst cancelled
      exact ⟨rfl, rfl, rfl, rfl, trivial, fun _ => rfl⟩
  | pause duration =>
      have paused := congrArg Prod.snd stepped
      change session.pause duration = after at paused
      subst paused
      unfold pause
      split <;> exact ⟨rfl, rfl, rfl, rfl, trivial, id⟩
  | ask request =>
      have asked := congrArg Prod.snd stepped
      change (session.ask outside reaction request).2 = after at asked
      rw [ask_of_quiet quiet] at asked
      subst asked
      exact ⟨rfl, rfl, rfl, rfl, trivial, fun cancelled => by simp [cancelled]⟩
  | watch watcher =>
      have watched := congrArg Prod.snd stepped
      change session.watch reaction watcher = after at watched
      obtain other | rfl := unwatching
      · exact absurd rfl (other watcher)
      · subst watched
        unfold watch
        split <;> exact ⟨rfl, rfl, rfl, rfl, trivial, id⟩
  | isCancelled | drain | takeLines =>
      cases stepped
      exact ⟨rfl, rfl, rfl, rfl, rfl, id⟩
  | _ =>
      cases stepped
      exact ⟨rfl, rfl, rfl, rfl, trivial, id⟩

end Session

end AddonCheck
