import AddonCheck.Program

/-
This file executes programs one after another. The outside answers every request from a state of its
own, and a cancellation is dealt with at once.
-/

namespace AddonCheck

/-- What comes back from the outside: the answer, the time that it took, and whether the run was
cancelled before it arrived. -/
structure Reply (α : Type) where
  answer : α
  takes : Duration := ⟨0⟩
  cancels : Bool := false

/-- The outside answers requests from its state. -/
structure Outside (σ : Type) where
  reply : (request : Request) → σ → Reply request.Answer × σ

/-- The state of a run and of the outside. -/
structure Session (σ : Type) where
  isCancelled : Bool := false
  start : Instant
  /-- The nanoseconds since the start. -/
  elapsed : Nat := 0
  registry : Registry := {}
  /-- The notification that has been gathered and not yet taken. -/
  gathered : String := ""
  log : List Log.Line := []
  watcher : Option Watcher := none
  exited : Bool := false
  outside : σ

/-- How an execution ends. A wait that needs more evaluations than the bound allows leaves it
unsettled. -/
inductive Outcome (α : Type) where
  | finished (value : α)
  | crashed
  | unsettled
  deriving DecidableEq, Inhabited, Repr

namespace Session

variable {σ α : Type}

/-- What a watcher does when the run is cancelled. -/
abbrev Reaction (σ : Type) := Watcher → Session σ → Session σ

/-- Only the first cancellation has an effect. -/
def cancel (reaction : Reaction σ) (session : Session σ) : Session σ :=
  if session.isCancelled then session
  else
    match session.watcher with
    | none => { session with isCancelled := true }
    | some watcher => reaction watcher { session with isCancelled := true }

/-- A watcher that is started after the cancellation does its work at once. -/
def watch (reaction : Reaction σ) (watcher : Watcher) (session : Session σ) : Session σ :=
  if session.isCancelled then reaction watcher { session with watcher := some watcher }
  else { session with watcher := some watcher }

/-- A pause ends at once when the run is cancelled. -/
def pause (duration : Duration) (session : Session σ) : Session σ :=
  if session.isCancelled then session
  else { session with elapsed := session.elapsed + duration.nanos }

def addLog (lines : List Log.Line) (session : Session σ) : Session σ :=
  { session with log := session.log ++ lines }

/-- The answer to a request. -/
def ask (outside : Outside σ) (reaction : Reaction σ) (request : Request) (session : Session σ) :
    request.Answer × Session σ :=
  let (reply, state) := outside.reply request session.outside
  let session :=
    { session with outside := state, elapsed := session.elapsed + reply.takes.nanos }
  (reply.answer, if reply.cancels then session.cancel reaction else session)

/-- One evaluation of a condition. -/
def evaluate (outside : Outside σ) (reaction : Reaction σ) (condition : Condition)
    (session : Session σ) : Probe × Session σ :=
  let (answer, session) :=
    (session.addLog condition.announcement).ask outside reaction condition.request
  let finding := condition.judge answer
  (finding.probe, session.addLog finding.log)

/-- What a wait sees and does in a session. -/
def surroundings (outside : Outside σ) (reaction : Reaction σ) (condition : Condition) :
    Poll.Surroundings (Session σ) where
  isCancelled := isCancelled
  clock := elapsed
  pause := pause
  evaluate := evaluate outside reaction condition

/-- The execution of an action; a wait that is not settled within the rounds has no answer. -/
def step (outside : Outside σ) (reaction : Reaction σ) (rounds : Nat) :
    (action : Action) → Session σ → Option action.Answer × Session σ
  | .log line, session => (some (), session.addLog [line])
  | .clock, session => (some (session.start.after session.elapsed), session)
  | .isCancelled, session => (some session.isCancelled, session)
  | .cancel, session => (some (), session.cancel reaction)
  | .pause duration, session =>
      let session := session.pause duration
      (some session.isCancelled, session)
  | .await condition, session =>
      Poll.run (surroundings outside reaction condition) condition.wait condition.immediate rounds
        session
  | .ask request, session =>
      let (answer, session) := session.ask outside reaction request
      (some answer, session)
  | .registerWorkspace resource, session =>
      (some (), { session with registry := session.registry.registerWorkspace resource })
  | .register resource, session =>
      (some (), { session with registry := session.registry.register resource })
  | .isRegistryEmpty, session => (some session.registry.isEmpty, session)
  | .drain, session =>
      (some session.registry.deletionOrder, { session with registry := {} })
  | .addLine text, session =>
      (some (), { session with gathered := session.gathered ++ Notification.line text })
  | .takeLines, session => (some session.gathered, { session with gathered := "" })
  | .watch watcher, session => (some (), session.watch reaction watcher)
  | .joinWatcher, session => (some (), session)
  | .exit, session => (some (), { session with exited := true })

/-- The execution of a program. -/
def execute (outside : Outside σ) (reaction : Reaction σ) (rounds : Nat) :
    Program α → Session σ → Outcome α × Session σ
  | .done value, session => (.finished value, session)
  | .crash, session => (.crashed, session)
  | .perform action next, session =>
      match session.step outside reaction rounds action with
      | (some answer, session) => execute outside reaction rounds (next answer) session
      | (none, session) => (.unsettled, session)

/-- A value that is found without an unexpected end is the value of the rest of the program. -/
theorem execute_bind {β : Type} (outside : Outside σ) (reaction : Reaction σ) (rounds : Nat)
    (program : Program α) (next : α → Program β) (session : Session σ) :
    execute outside reaction rounds (program.bind next) session =
      match execute outside reaction rounds program session with
      | (.finished value, session) => execute outside reaction rounds (next value) session
      | (.crashed, session) => (.crashed, session)
      | (.unsettled, session) => (.unsettled, session) := by
  induction program generalizing session with
  | done value => rfl
  | crash => rfl
  | perform action rest inductionHypothesis =>
      simp only [Program.bind, execute]
      split
      · exact inductionHypothesis _ _
      · rfl

end Session

end AddonCheck
