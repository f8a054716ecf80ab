import AddonCheck.Proofs.Notified
import AddonCheck.Proofs.Speech

/-
This file shows that a run without a watcher hands over one text: what had been gathered before, the
start of the check, the lines of the check itself, what is to be said of the teardown, and the
verdict. The transport only comes after everything else.
-/

namespace AddonCheck

open Workspace (DeletionFailure TeardownError)

namespace Run

variable {σ κ : Type} {checker : Checker κ} {context : Context} {workspace : Workspace}

/-- Both phases of the check only add to the notification. -/
structure Checker.OnlyAdds (checker : Checker κ) (context : Context) (workspace : Workspace) :
    Prop where
  create : (checker.create context workspace).run.Uses Action.OnlyAdds
  converge : ∀ created, (checker.converge context workspace created).run.Uses Action.OnlyAdds

/-! ## What a run tells -/

/-- What a run tells about its teardown. A debug run deletes nothing. -/
def notices (debug : Bool) (registry : Registry) (failures : List DeletionFailure) : List String :=
  if debug then if registry.isEmpty then [] else ["Skip Delete Resources"]
  else if failures.isEmpty then []
  else [s!"Error Delete Resources: {(TeardownError.mk failures).message}"]

/-- The line that tells the verdict. -/
def verdictLine (name : String) : Except Error Unit → String
  | .ok _ => s!"{name} check finished"
  | .error error => s!"{name} check failed: {error.message}"

/-- Everything that a run tells, in its order. -/
def told (name : String) (debug : Bool) (registry : Registry) (doings teardown : List Answered)
    (result : Except Error Unit) : List String :=
  s!"{name} check start" ::
    (messages doings ++ notices debug registry (deletionFailures teardown) ++
      [verdictLine name result])

/-- The requests that hand over a text. Without a transport there are none. -/
def deliveriesTo (channel : Notification.Channel) (text : String) : List Request :=
  match channel with
  | .logOnly => []
  | .transport => [.deliver text]

section

variable (outside : Outside σ) (reaction : Session.Reaction σ) (rounds : Nat)

end

section

variable (outside : Outside σ) (reaction : Session.Reaction (σ × List Exchange)) (rounds : Nat)
  {session : Session (σ × List Exchange)}

/-- The line that is logged in place of a delivery. -/
def undelivered (text : String) : Log.Line :=
  Log.info s!"Notification not sent, no transport configured:\n{text}"

/-- What is gathered is taken in one text, which goes to the transport if there is one and to the log
otherwise. -/
theorem flush_finishes (channel : Notification.Channel) (unwatched : session.watcher = none)
    (told : session.gathered ≠ "") :
    ∃ transcript after exchanges,
      Session.Finishes outside.recording reaction rounds (Notification.flush channel) session
        transcript () after ∧
      takings transcript = [session.gathered] ∧ session.Records exchanges after ∧
      exchanges.map (·.1) = deliveriesTo channel session.gathered ∧ after.gathered = "" ∧
      (channel = .logOnly → undelivered session.gathered ∈ after.log) := by
  let text := session.gathered
  let taken := { session with gathered := "" }
  have takes : session.step outside.recording reaction rounds .takeLines = (some text, taken) := rfl
  have nonempty : text ≠ "" := told
  cases channel with
  | logOnly =>
      rw [Notification.flush_eq]
      have logged : Session.Finishes outside.recording reaction rounds
          (if text = "" then .done () else .perform (.log (undelivered text)) fun _ => .done ())
          taken [⟨.log (undelivered text), ()⟩] () (taken.addLog [undelivered text]) := by
        rw [if_neg nonempty]
        exact .perform rfl (.done _ _)
      refine ⟨_, _, [], .perform takes logged, rfl, .nothing rfl, rfl, rfl, fun _ => ?_⟩
      simp [Session.addLog, text]
  | transport =>
      let asked := taken.ask outside.recording reaction (.deliver text)
      have asks : taken.step outside.recording reaction rounds (.ask (.deliver text)) =
          (some asked.1, asked.2) := rfl
      have recorded : session.Records [⟨.deliver text, asked.1⟩] asked.2 ∧
          asked.2.gathered = "" := by
        have quiet : taken.watcher = none := unwatched
        change Session.Records session [⟨.deliver text, (taken.ask _ _ _).1⟩] (taken.ask _ _ _).2 ∧
          (taken.ask _ _ _).2.gathered = ""
        rw [Session.ask_of_quiet (.inl quiet)]
        exact ⟨rfl, rfl⟩
      have flushed : ∃ line, Session.Finishes outside.recording reaction rounds
          (Notification.flush .transport) session
          [⟨.takeLines, text⟩, ⟨.ask (.deliver text), asked.1⟩, ⟨.log line, ()⟩] ()
          (asked.2.addLog [line]) := by
        rw [Notification.flush_eq]
        cases answered : asked.1 with
        | ok _ =>
            rw [answered] at asks
            refine ⟨Log.info "Notification sent", .perform takes ?_⟩
            rw [if_neg nonempty]
            exact .perform asks (.perform rfl (.done _ _))
        | error error =>
            rw [answered] at asks
            refine ⟨Log.error s!"Error sending notification: {error.message}", .perform takes ?_⟩
            rw [if_neg nonempty]
            exact .perform asks (.perform rfl (.done _ _))
      obtain ⟨line, flushed⟩ := flushed
      refine ⟨_, _, _, flushed, rfl, recorded.1, rfl, recorded.2, fun logsOnly => ?_⟩
      cases logsOnly

end

end Run

end AddonCheck
