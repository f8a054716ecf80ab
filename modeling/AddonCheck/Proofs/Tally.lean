import AddonCheck.Proofs.Custody
import AddonCheck.Proofs.Ledger

/-
This file counts what the threads of a run take from the registry and what they delete. A thread
tears down at most once, and it deletes what it has taken in the order in which it has taken it.
-/

namespace AddonCheck

open Cluster (Resource)

namespace Action

/-- The handles that the action takes from the registry. -/
def taken : Entry Resource
  | .drain, answer => answer
  | _, _ => []

/-- The handle whose object the action deletes. -/
def deleted : Entry Resource := fun action _ => action.deletes?.toList

def isDrain : Action → Bool
  | .drain => true
  | _ => false

/-- The action empties the registry. -/
def emptied : Entry Unit := fun action _ => if action.isDrain then [()] else []

end Action

def Duty.isClearing : Duty → Bool
  | .clearing _ => true
  | _ => false

/-- Whether the registry has been emptied. -/
def Duty.begun (duty : Duty) : List Unit := if duty.isClearing then [()] else []

variable {ι σ : Type} [DecidableEq ι]

/-- The handles that the thread has taken from the registry. -/
def taken (history : List (Deed ι σ)) (thread : ι) : List Resource :=
  entries Action.taken history thread

/-- The handles whose deletions the thread has sent, and which have been answered. -/
def deleted (history : List (Deed ι σ)) (thread : ι) : List Resource :=
  entries Action.deleted history thread

/-- How often the thread has emptied the registry. -/
def teardowns (history : List (Deed ι σ)) (thread : ι) : Nat :=
  (entries Action.emptied history thread).length

/-- What a thread has taken it has deleted, or it is about to. -/
structure Tally (states : ι → Duty) (crew : Crew ι σ) : Prop where
  balance : Balanced Action.taken Action.deleted Duty.pending states crew
  single : Balanced Action.emptied (fun _ _ => []) Duty.begun states crew

/-- A thread has torn down just when it is clearing. -/
theorem Tally.teardowns {states : ι → Duty} {crew : Crew ι σ} (tally : Tally states crew)
    (thread : ι) :
    teardowns crew.history thread = if (states thread).isClearing then 1 else 0 := by
  have single := congrArg List.length (tally.single thread)
  have nothing : entries (fun _ _ => []) crew.history thread = ([] : List Unit) := by
    simp [entries]
  rw [nothing, List.nil_append] at single
  apply single.trans
  unfold Duty.begun
  split <;> rfl

/-- What an allowed action takes it leaves to be deleted, and it takes only once. -/
theorem Duty.next_balance {workspace : Workspace} {handles : Set Resource} {watched : Bool}
    {duty : Duty} {action : Action} (answer : action.Answer)
    (allowed : duty.allows workspace handles watched action) :
    duty.pending ++ action.taken answer =
        action.deleted answer ++ (duty.next action answer).pending ∧
      duty.begun ++ action.emptied answer = (duty.next action answer).begun := by
  cases action with
  | drain =>
      rcases allowed with rfl | rfl
      · exact ⟨rfl, rfl⟩
      · exact ⟨rfl, rfl⟩
  | registerWorkspace resource =>
      obtain ⟨rfl, -⟩ := allowed
      exact ⟨rfl, rfl⟩
  | register resource =>
      obtain ⟨rfl, -⟩ := allowed
      exact ⟨rfl, rfl⟩
  | ask request =>
      cases request with
      | create object =>
          obtain ⟨resource, rfl, -⟩ := allowed
          exact ⟨rfl, rfl⟩
      | delete resource =>
          obtain ⟨rest, rfl⟩ := allowed
          exact ⟨List.append_nil _, rfl⟩
      | _ => exact ⟨List.append_nil _, List.append_nil _⟩
  | _ => exact ⟨List.append_nil _, List.append_nil _⟩

/-- Every thread keeps its tally, whatever the order of the turns is. -/
theorem tally_stable {outside : Outside σ} {workspace : Workspace} {handles : Set Resource}
    {watched : Bool} :
    Crew.Stable outside (Duty.discipline workspace handles watched)
      (Tally : Crew.Assertion ι σ Duty) := by
  have balance : Crew.Stable outside (Duty.discipline workspace handles watched)
      (Balanced Action.taken Action.deleted Duty.pending : Crew.Assertion ι σ Duty) :=
    balanced_stable fun _ _ answer allowed => (Duty.next_balance answer allowed).1
  have single : Crew.Stable outside (Duty.discipline workspace handles watched)
      (Balanced Action.emptied (fun _ _ => []) Duty.begun : Crew.Assertion ι σ Duty) :=
    balanced_stable fun _ _ answer allowed => (Duty.next_balance answer allowed).2
  apply (balance.and single).congr
  intro states crew
  exact ⟨fun both => ⟨both.1, both.2⟩, fun tally => ⟨tally.balance, tally.single⟩⟩

/-- No thread has done anything at first. -/
theorem tally_start {states : ι → Duty} {crew : Crew ι σ} (fresh : crew.history = [])
    (begun : ∀ thread, states thread = .idle ∨ states thread = .creating) :
    Tally states crew := by
  constructor
  all_goals
    intro thread
    rw [fresh]
    rcases begun thread with state | state <;> rw [state] <;> rfl

end AddonCheck
