import AddonCheck.Proofs.Transcript

/-
This file shows how a relation between two sessions outlasts an execution. It is enough that the
relation is transitive, and that it holds across each single thing that can happen to a session: an
answer arrives, the registry changes, time passes, a watcher reacts.
-/

namespace AddonCheck.Session

variable {σ α : Type} {outside : Outside σ} {reaction : Reaction σ} {allowed : Action → Prop}
  {relation : Session σ → Session σ → Prop}

/-- The session in which a request has been answered, before anything that its cancellation sets
off. -/
def replied (outside : Outside σ) (request : Request) (session : Session σ) : Session σ :=
  let reply := outside.reply request session.outside
  { session with outside := reply.2, elapsed := session.elapsed + reply.1.takes.nanos }

/-- What holds across all that can happen to a session while only allowed actions are done. -/
structure Lasting (outside : Outside σ) (reaction : Reaction σ) (allowed : Action → Prop)
    (relation : Session σ → Session σ → Prop) : Prop where
  trans : ∀ {session middle after}, relation session middle → relation middle after →
    relation session after
  /-- Telling something is nothing, and neither is a pause. -/
  rests : ∀ {session after : Session σ}, after.outside = session.outside →
    after.registry = session.registry → session.elapsed ≤ after.elapsed →
    (session.isCancelled = true → after.isCancelled = true) → relation session after
  updates : ∀ {action}, allowed action → ∀ session,
    relation session { session with registry := action.registryAfter session.registry }
  asks : ∀ {request}, allowed (.ask request) → ∀ session,
    relation session (session.replied outside request)
  awaits : ∀ {condition}, allowed (.await condition) → ∀ session,
    relation session (session.replied outside condition.request)
  reacts : ∀ watcher session, relation session (reaction watcher session)

namespace Lasting

variable (lasting : Lasting outside reaction allowed relation)

include lasting

theorem cancel (session : Session σ) : relation session (session.cancel reaction) := by
  let noted := { session with isCancelled := true }
  have told : relation session noted := lasting.rests rfl rfl (Nat.le_refl _) fun _ => rfl
  unfold Session.cancel
  split
  · exact lasting.rests rfl rfl (Nat.le_refl _) id
  · split
    · exact told
    · exact lasting.trans told (lasting.reacts _ noted)

theorem watch (watcher : Watcher) (session : Session σ) :
    relation session (session.watch reaction watcher) := by
  let watched := { session with watcher := some watcher }
  have told : relation session watched := lasting.rests rfl rfl (Nat.le_refl _) id
  unfold Session.watch
  split
  · exact lasting.trans told (lasting.reacts _ watched)
  · exact told

theorem pause (duration : Duration) (session : Session σ) :
    relation session (session.pause duration) := by
  unfold Session.pause
  split
  · exact lasting.rests rfl rfl (Nat.le_refl _) id
  · exact lasting.rests rfl rfl (Nat.le_add_right _ _) id

/-- What follows an answer. -/
theorem ask (request : Request) (session : Session σ) :
    relation (session.replied outside request) (session.ask outside reaction request).2 := by
  change relation _ (if (outside.reply request session.outside).1.cancels then
    (session.replied outside request).cancel reaction else session.replied outside request)
  split
  · exact lasting.cancel _
  · exact lasting.rests rfl rfl (Nat.le_refl _) id

theorem evaluate {condition : Condition} (isAllowed : allowed (.await condition))
    (session : Session σ) :
    relation session (session.evaluate outside reaction condition).2 := by
  let announced := session.addLog condition.announcement
  have told : relation session announced := lasting.rests rfl rfl (Nat.le_refl _) id
  have answered := lasting.trans (lasting.awaits isAllowed announced)
    (lasting.ask condition.request announced)
  exact lasting.trans told (lasting.trans answered (lasting.rests rfl rfl (Nat.le_refl _) id))

theorem step {action : Action} (isAllowed : allowed action) (rounds : Nat) (session : Session σ) :
    relation session (session.step outside reaction rounds action).2 := by
  cases action with
  | await condition =>
      have alike : Poll.Alike (relation session) (surroundings outside reaction condition)
          (surroundings outside reaction condition) :=
        ⟨rfl, rfl, rfl, fun _ _ => rfl,
          fun duration state held => lasting.trans held (lasting.pause duration state),
          fun state held => lasting.trans held (lasting.evaluate isAllowed state)⟩
      have begun : relation session session := lasting.rests rfl rfl (Nat.le_refl _) id
      exact (alike.run condition.wait condition.immediate rounds begun).2
  | ask request => exact lasting.trans (lasting.asks isAllowed session) (lasting.ask _ session)
  | cancel => exact lasting.cancel session
  | watch watcher => exact lasting.watch watcher session
  | pause duration => exact lasting.pause duration session
  | registerWorkspace resource => exact lasting.updates isAllowed session
  | register resource => exact lasting.updates isAllowed session
  | drain => exact lasting.updates isAllowed session
  | _ => exact lasting.rests rfl rfl (Nat.le_refl _) id

/-- The relation holds between the beginning and the end of an execution. -/
theorem execute {program : Program α} (uses : program.Uses allowed) (rounds : Nat)
    (session : Session σ) :
    relation session (Session.execute outside reaction rounds program session).2 := by
  induction program generalizing session with
  | done value => exact lasting.rests rfl rfl (Nat.le_refl _) id
  | crash => exact lasting.rests rfl rfl (Nat.le_refl _) id
  | perform action next inductionHypothesis =>
      have first := lasting.step uses.1 rounds session
      unfold Session.execute
      rcases stepped : session.step outside reaction rounds action with ⟨_ | answer, middle⟩
      · rw [stepped] at first
        exact first
      · rw [stepped] at first
        exact lasting.trans first (inductionHypothesis answer (uses.2 answer) middle)

end Lasting

end AddonCheck.Session
