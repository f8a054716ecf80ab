import AddonCheck.Proofs.Execution
import AddonCheck.Proofs.Shelf
import AddonCheck.Proofs.Tally
import AddonCheck.Run.Interruption

/-
This file shows that a run leaves the cluster as it has found it.
-/

namespace AddonCheck

open Cluster (Resource)

/-- The teardowns of a single thread are those of all deeds. -/
theorem teardowns_single {σ : Type} (history : List (Deed Unit σ)) :
    teardowns history () =
      (history.map fun deed => (deed.thread, deed.action)).countP fun entry => entry.2.isDrain := by
  induction history with
  | nil => rfl
  | cons deed rest inductionHypothesis =>
      simp only [teardowns, entries, decide_true, List.filter_cons_of_pos, List.flatMap_cons,
        List.length_append] at inductionHypothesis ⊢
      rw [inductionHypothesis, List.map_cons, List.countP_cons, Nat.add_comm]
      unfold Action.emptied
      split <;> rfl

namespace Run

/-- A run without a watcher leaves every object that it has not created, and none that it has,
whatever its creations are answered and however the check ends. It tears down once. -/
theorem run_restores_content {σ κ : Type} {peers : Peers σ} (store : peers.Store)
    {checker : Checker κ} {context : Context} {workspace : Workspace} {handles : Set Resource}
    (creates : checker.CreatesIn context workspace handles) (deletes : workspace.debug = false)
    {session : Session σ} (unregistered : session.registry = {})
    (unwatched : session.watcher = none)
    (absent : ∀ resource ∈ handles, ∀ address ∈ store.content session.outside,
      store.address? resource ≠ some address)
    (rounds : Nat)
    (settled : (execute peers.outside rounds
      (run checker context workspace false) session).1.isSettled = true) :
    store.content
        (execute peers.outside rounds (run checker context workspace false) session).2.outside =
      store.content session.outside ∧
    (Session.performed peers.outside (reaction peers.outside rounds) rounds
      (run checker context workspace false) session).countP Action.isDrain = 1 := by
  have ran : (run checker context workspace false).Keeps
      (Duty.discipline workspace handles false) .creating fun _ duty => duty = .clearing [] :=
    run_keeps creates deletes
  have unwatching : (run checker context workspace false).Uses
      fun action => ∀ watcher, action ≠ .watch watcher := by
    apply ran.uses.mono
    rintro _ ⟨duty, allowed⟩ watcher rfl
    cases allowed
  let crew : Crew Unit σ :=
    { session := session, programs := fun _ => (run checker context workspace false).bind
        fun _ => .done () }
  let fit : Unit → Option Unit → Duty → Prop := fun _ _ duty => duty = .clearing []
  have kept : crew.Keeps (Duty.discipline workspace handles false) fit fun _ => .creating :=
    fun _ => ran.bind (fun _ _ ended => ended) fun _ ended => ended
  have custody : store.outside.Custody workspace handles (store.content session.outside)
      (fun _ => .creating) crew :=
    store.outside.custody_start crew unregistered fun _ => .inr rfl
  have tally : Tally (fun _ => .creating) crew := tally_start rfl fun _ => .inr rfl
  rcases executed : execute peers.outside rounds (run checker context workspace false) session
    with ⟨outcome, after⟩
  rw [executed] at settled
  obtain ⟨turns, later, played, rfl, left, deeds⟩ := crew.execute_plays rfl unwatched rfl
    unwatching executed settled
  obtain ⟨states, kept, custody, tally⟩ := Crew.plays_keeps
    ((store.outside.custody_stable absent).and tally_stable) kept ⟨custody, tally⟩ played
  have isOver : (later.programs ()).isOver = true := by
    rw [left]
    cases outcome <;> rfl
  obtain ⟨_, ended⟩ := kept.fits isOver
  constructor
  · refine Set.Subset.antisymm (fun address member => ?_) custody.kept
    refine (custody.ended (fun _ => .inr ended) member).resolve_right ?_
    rintro ⟨_, deed, _, _, _, _, _, _, ⟨other, _, different, _⟩, _⟩
    exact different rfl
  · have single := tally.teardowns ()
    rw [teardowns_single, deeds, ended] at single
    simpa [crew, List.countP_map, Function.comp_def, Duty.isClearing] using single

/-- A check that creates its namespace and asks for a spare one three times, and that ends
unexpectedly when it converges. -/
def clumsy : Checker Unit where
  name := "clumsy"
  create _ workspace := do
    creating workspace.createNamespace
    creating (workspace.create spare)
    creating (workspace.createAll [spare, spare])
  converge _ _ _ := ExceptT.mk .crash
where
  spare : Workspace.Spec :=
    { object :=
        { kind := some .namespaceKind, metadata := { name := some "spare" }, data := .object [] } }

def clumsyWorkspace : Workspace := ⟨"clumsy", false⟩

def clumsyHandles : Set Resource :=
  {⟨.namespaceKind, "clumsy", ""⟩, ⟨.namespaceKind, "spare", "clumsy"⟩}

theorem clumsy_createsIn (context : Context) :
    clumsy.CreatesIn context clumsyWorkspace clumsyHandles where
  create := by
    have known : ∀ resource, clumsy.spare.resource clumsyWorkspace = .ok resource →
        resource ∈ clumsyHandles := by
      rintro _ ⟨⟩
      exact .inr rfl
    apply (Program.createsIn_createNamespace (.inl rfl)).creating.andThen
    intro _
    apply (Program.createsIn_create known).creating.andThen
    intro _
    refine (Program.createsIn_createAll fun spec member => ?_).creating
    obtain rfl : spec = clumsy.spare := by simpa using member
    exact known
  converge _ := .crash

/-- The cluster holds the default namespace, before the run and after it. -/
theorem run_restores_content_clumsy :
    let session : Session (List String) :=
      { start := default, outside := ["/api/v1/namespaces/default"] }
    let outcome := execute Shelf.peers.outside 0
      (run clumsy default clumsyWorkspace false) session
    Shelf.store.content outcome.2.outside = {path | path ∈ ["/api/v1/namespaces/default"]} ∧
      (Session.performed Shelf.peers.outside (reaction Shelf.peers.outside 0) 0
        (run clumsy default clumsyWorkspace false) session).countP Action.isDrain = 1 := by
  refine run_restores_content Shelf.store (clumsy_createsIn default) rfl rfl rfl ?_ 0 ?_
  · rintro _ (rfl | rfl) _ present
    · rw [List.mem_singleton.mp present]
      decide +kernel
    · rw [List.mem_singleton.mp present]
      decide +kernel
  · decide +kernel

end Run

end AddonCheck
