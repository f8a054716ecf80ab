import AddonCheck.Registry
import AddonCheck.Request
import AddonCheck.Workspace

/-
This file holds programs: what a thread of a run does, as a tree of actions and of all their
answers. A program says nothing of how its actions interleave with those of another thread.
-/

namespace AddonCheck

/-- A watcher cleans up a workspace and delivers the notification once the run is cancelled. -/
structure Watcher where
  workspace : Workspace
  channel : Notification.Channel
  deriving DecidableEq, Repr, Inhabited

/-- A step of a thread that no other thread can divide. A wait is the exception: it is one action
here, and it consists of evaluations and pauses. -/
inductive Action where
  | log (line : Log.Line)
  | clock
  | isCancelled
  | cancel
  | pause (duration : Duration)
  | await (condition : Condition)
  | ask (request : Request)
  | registerWorkspace (resource : Cluster.Resource)
  | register (resource : Cluster.Resource)
  | isRegistryEmpty
  /-- Empties the registry and gives what it held, in the order of deletion. -/
  | drain
  | addLine (text : String)
  /-- Empties the gathered lines and gives what they were. -/
  | takeLines
  /-- Starts a thread that waits for the cancellation of the run. -/
  | watch (watcher : Watcher)
  /-- Waits until the watcher has ended. -/
  | joinWatcher
  /-- Tells that the interrupted process is to end. -/
  | exit

/-- The type of the answer to an action. A pause tells whether the run was cancelled. -/
def Action.Answer : Action → Type
  | log _ => Unit
  | clock => Instant
  | isCancelled => Bool
  | cancel => Unit
  | pause _ => Bool
  | await _ => Except Poll.Error Unit
  | ask request => request.Answer
  | registerWorkspace _ => Unit
  | register _ => Unit
  | isRegistryEmpty => Bool
  | drain => List Cluster.Resource
  | addLine _ => Unit
  | takeLines => String
  | watch _ => Unit
  | joinWatcher => Unit
  | exit => Unit

/-- A program ends with a value, ends unexpectedly, or performs an action and goes on with its
answer. -/
inductive Program (α : Type) where
  | done (value : α)
  | crash
  | perform (action : Action) (next : action.Answer → Program α)

namespace Program

variable {α β γ : Type}

def bind : Program α → (α → Program β) → Program β
  | done value, next => next value
  | crash, _ => crash
  | perform action rest, next => perform action fun answer => (rest answer).bind next

instance : Monad Program where
  pure := done
  bind := bind

theorem bind_done (program : Program α) : program.bind done = program := by
  induction program with
  | done value => rfl
  | crash => rfl
  | perform action rest inductionHypothesis => simp only [bind, inductionHypothesis]

theorem bind_assoc (program : Program α) (first : α → Program β) (second : β → Program γ) :
    (program.bind first).bind second =
      program.bind fun value => (first value).bind second := by
  induction program with
  | done value => rfl
  | crash => rfl
  | perform action rest inductionHypothesis => simp only [bind, inductionHypothesis]

instance : LawfulMonad Program :=
  LawfulMonad.mk' Program bind_done (fun _ _ => rfl) bind_assoc

/-- The program of one action. -/
def act (action : Action) : Program action.Answer := perform action done

/-- A program whose unexpected end is preceded by another program. -/
def onCrash : Program α → Program Unit → Program α
  | done value, _ => done value
  | crash, cleanup => cleanup.bind fun _ => crash
  | perform action rest, cleanup =>
      perform action fun answer => (rest answer).onCrash cleanup

def log (line : Log.Line) : Program Unit := act (.log line)

def clock : Program Instant := act .clock

def isCancelled : Program Bool := act .isCancelled

def cancel : Program Unit := act .cancel

def pause (duration : Duration) : Program Bool := act (.pause duration)

def await (condition : Condition) : Program (Except Poll.Error Unit) := act (.await condition)

def ask (request : Request) : Program request.Answer := act (.ask request)

def registerWorkspace (resource : Cluster.Resource) : Program Unit :=
  act (.registerWorkspace resource)

def register (resource : Cluster.Resource) : Program Unit := act (.register resource)

def isRegistryEmpty : Program Bool := act .isRegistryEmpty

def drain : Program (List Cluster.Resource) := act .drain

def addLine (text : String) : Program Unit := act (.addLine text)

def takeLines : Program String := act .takeLines

def watch (watcher : Watcher) : Program Unit := act (.watch watcher)

def joinWatcher : Program Unit := act .joinWatcher

def exit : Program Unit := act .exit

/-- Logs a text and adds it to the notification. -/
def announce (text : String) : Program Unit := do
  log (Log.info text)
  addLine text

end Program

end AddonCheck
