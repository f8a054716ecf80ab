import AddonCheck.Proofs.Actions
import AddonCheck.Proofs.Agenda
import AddonCheck.Proofs.Sights

/-
This file shows how the steps of a check pursue an agenda. A step that succeeds has met the
milestones that are its own, and a step that fails leaves a milestone that is never met.
-/

namespace AddonCheck

namespace Agenda

variable {ε α β : Type} {agenda : Agenda} {start : Progress} {goal : α → Progress → Prop}

/-- A success is at its goal, and an error is not at the end of the plan. -/
def Fits (goal : α → Progress → Prop) : Option (Except ε α) → Progress → Prop
  | some (.ok value), progress => goal value progress
  | some (.error _), progress => progress ≠ .towards []
  | none, _ => False

/-- From its start, the program keeps to the agenda up to its goal. -/
def Pursues (agenda : Agenda) (start : Progress) (program : Program (Except ε α))
    (goal : α → Progress → Prop) : Prop :=
  program.Keeps agenda.discipline start (Fits goal)

/-- The milestones of the program are met when it succeeds, and the rest remains. -/
def Meets (agenda : Agenda) (milestones rest : List Milestone) (program : Program (Except ε α)) :
    Prop :=
  agenda.Pursues (.towards (milestones ++ rest)) program fun _ progress => progress = .towards rest

/-! ## Steps in sequence -/

/-- The steps follow one another up to the first one that fails. -/
theorem Pursues.bind {first : ExceptT ε Program α} {next : α → ExceptT ε Program β}
    {goal : β → Progress → Prop} {middle : α → Progress → Prop}
    (leads : agenda.Pursues start first.run middle)
    (rest : ∀ value progress, middle value progress →
      agenda.Pursues progress (next value).run goal) :
    agenda.Pursues start (first >>= next).run goal := by
  apply Program.Keeps.bind leads
  · intro result progress fits
    cases result with
    | ok value => exact rest value progress fits
    | error error => exact fits
  · exact fun _ crashed => crashed

/-- A step meets the first milestones of a plan, and the next steps pursue what is left of it. -/
theorem Meets.andThen {plan milestones rest : List Milestone} {first : ExceptT ε Program α}
    {next : α → ExceptT ε Program β} {goal : β → Progress → Prop}
    (meets : agenda.Meets milestones rest first.run) (parts : plan = milestones ++ rest)
    (following : ∀ value, agenda.Pursues (.towards rest) (next value).run goal) :
    agenda.Pursues (.towards plan) (first >>= next).run goal := by
  subst parts
  apply Pursues.bind meets
  intro value _ left
  subst left
  exact following value

/-- A step of the creation is a step of a check. -/
theorem Pursues.creating {program : Workspace.Creating α}
    (pursues : agenda.Pursues start program.run goal) :
    agenda.Pursues start (Run.creating program).run goal := by
  apply Program.Keeps.bind pursues
  · intro result progress fits
    cases result with
    | ok value => exact fits
    | error error => exact fits
  · exact fun _ crashed => crashed

theorem Meets.creating {milestones rest : List Milestone} {program : Workspace.Creating α}
    (meets : agenda.Meets milestones rest program.run) :
    agenda.Meets milestones rest (Run.creating program).run := Pursues.creating meets

/-- What is done aside is no progress, and the rest goes on from where it was. -/
theorem keeps_aside {program : Program α} {next : α → Program β}
    {fit : Option β → Progress → Prop} (aside : program.Ends Action.IsAside fun _ => True)
    (following : ∀ value, (next value).Keeps agenda.discipline start fit) :
    (program.bind next).Keeps agenda.discipline start fit := by
  induction program with
  | done value => exact following value
  | crash => exact aside.elim
  | perform action rest inductionHypothesis =>
      obtain ⟨allowed, unchanged⟩ := agenda.steady_of_isAside start aside.1
      refine ⟨allowed, fun answer => ?_⟩
      have same : agenda.discipline.next start action answer = start := unchanged answer
      rw [same]
      exact inductionHypothesis answer (aside.2 answer)

theorem announce_isAside (text : String) :
    (Program.announce text).Ends Action.IsAside fun _ => True :=
  Run.announce_ends (fun _ => trivial) (fun _ => trivial) text

theorem pursues_announce (text : String) (start : Progress) :
    agenda.Pursues start (ExceptT.lift (Program.announce text) : ExceptT ε Program Unit).run
      fun _ progress => progress = start :=
  keeps_aside (announce_isAside text) fun _ => rfl

/-- What a check announces between its steps is no progress. -/
theorem Pursues.announce {text : String} {next : ExceptT ε Program α}
    (following : agenda.Pursues start next.run goal) :
    agenda.Pursues start (liftM (Program.announce text) >>= fun _ => next).run goal := by
  apply Pursues.bind (pursues_announce text start)
  intro _ _ left
  subst left
  exact following

/-- An object that can be read is no progress yet. -/
theorem Pursues.typed {value : Json} {spec : Workspace.Spec}
    {next : Workspace.Spec → Run.Checking α} (typed : Workspace.Spec.ofTyped value = .ok spec)
    (following : agenda.Pursues start (next spec).run goal) :
    agenda.Pursues start
      (Run.creating (liftExcept (Workspace.Spec.ofTyped value)) >>= next).run goal := by
  rw [typed]
  exact following

/-- The number of the nodes decides on the plan. -/
theorem Pursues.list {selector : String}
    {next : Except Cluster.Error (List String) → ExceptT ε Program α}
    (lists : agenda.selector? = some selector)
    (listed : ∀ names : List String,
      agenda.Pursues (.towards (agenda.milestones names.length)) (next (.ok names)).run goal)
    (refused : ∀ error, ∃ reason, (next (.error error)).run = .done (.error reason)) :
    agenda.Pursues .unlisted (liftM (Program.ask (.nodes selector)) >>= next).run goal := by
  refine ⟨⟨rfl, lists⟩, fun (answer : Except Cluster.Error (List String)) => ?_⟩
  cases answer with
  | ok names => exact listed names
  | error error =>
      obtain ⟨reason, ended⟩ := refused error
      change (next (.error error)).run.Keeps agenda.discipline .failed (Fits goal)
      rw [ended]
      exact Progress.noConfusion

/-! ## Waits and creations -/

/-- A wait that ends well has seen what is pending, and a wait that is given up has not. -/
theorem pursues_await {sight : Sight} {condition : Condition} {rest : List Milestone}
    {next : Except Poll.Error Unit → Program (Except ε α)} (decides : sight.Decides condition)
    (settled : agenda.Pursues (.towards rest) (next (.ok ())) goal)
    (givenUp : ∀ error, ∃ reason, next (.error error) = .done (.error reason)) :
    agenda.Pursues (.towards (.seen sight :: rest)) (.perform (.await condition) next) goal := by
  refine ⟨⟨sight, rest, rfl, decides⟩, fun (answer : Except Poll.Error Unit) => ?_⟩
  cases answer with
  | ok _ => exact settled
  | error error =>
      obtain ⟨reason, ended⟩ := givenUp error
      rw [ended]
      exact Progress.noConfusion

theorem meets_awaiting {sight : Sight} {condition : Condition} (decides : sight.Decides condition)
    (context : String) (rest : List Milestone) :
    agenda.Meets [.seen sight] rest (Run.awaiting context condition).run :=
  pursues_await decides rfl fun _ => ⟨_, rfl⟩

theorem meets_awaitReadiness (resource : Cluster.Resource) (readiness : Workspace.Readiness)
    (rest : List Milestone) :
    agenda.Meets (readiness.milestones resource) rest
      (Workspace.awaitReadiness resource readiness).run := by
  rw [Workspace.awaitReadiness_run]
  cases found : readiness.condition? resource with
  | none =>
      rw [Workspace.Readiness.milestones_of_none found]
      rfl
  | some condition =>
      obtain ⟨sight, milestones, decides⟩ := Workspace.Readiness.milestones_of_some found
      rw [milestones]
      exact pursues_await decides rfl fun _ => ⟨_, rfl⟩

theorem meets_send (resource : Cluster.Resource) (object : Cluster.Object)
    (rest : List Milestone) :
    agenda.Meets [.created object] rest (Workspace.send resource object).run := by
  rw [Workspace.send_run]
  refine ⟨⟨rest, rfl⟩, fun (answer : Except Cluster.Error Cluster.Creation) => ?_⟩
  rcases answer with error | (_ | _)
  · exact Progress.noConfusion
  · exact ⟨trivial, fun _ => rfl⟩
  · exact ⟨trivial, fun _ => rfl⟩

theorem meets_createNamespace (workspace : Workspace) (rest : List Milestone) :
    agenda.Meets [.created workspace.object] rest workspace.createNamespace.run := by
  rw [Workspace.createNamespace_run]
  refine ⟨trivial, fun (cancelled : Bool) => ?_⟩
  cases cancelled with
  | true => exact fun ended => nomatch ended
  | false => exact ⟨trivial, fun _ => ⟨trivial, fun _ => meets_send _ _ rest⟩⟩

/-- An object is created and then awaited. -/
theorem meets_create {workspace : Workspace} {spec : Workspace.Spec} {resource : Cluster.Resource}
    (found : spec.resource workspace = .ok resource) (rest : List Milestone) :
    agenda.Meets (.created (spec.placed workspace) :: spec.readiness.milestones resource) rest
      (workspace.create spec).run := by
  rw [Workspace.create_run, found]
  refine ⟨trivial, fun (cancelled : Bool) => ?_⟩
  cases cancelled with
  | true => exact fun ended => nomatch ended
  | false =>
      let awaited := spec.readiness.milestones resource ++ rest
      have sent : agenda.Meets [.created (spec.placed workspace)] awaited
          (Workspace.send resource (spec.placed workspace)).run := meets_send _ _ _
      refine ⟨trivial, fun _ => ⟨trivial, fun _ => ?_⟩⟩
      refine Program.Keeps.bind sent ?_ fun _ crashed => crashed
      intro result progress fits
      cases result with
      | error error => exact fits
      | ok _ =>
          obtain rfl : progress = .towards awaited := fits
          exact meets_awaitReadiness resource spec.readiness rest

/-! ## The steps of a check -/

section

variable {workspace : Workspace} {spec : Workspace.Spec} {resource : Cluster.Resource}
  {plan rest : List Milestone} {next : Run.Checking α}

theorem Pursues.createNamespace (following : agenda.Pursues (.towards rest) next.run goal) :
    agenda.Pursues (.towards (.created workspace.object :: rest))
      (Run.creating workspace.createNamespace >>= fun _ => next).run goal :=
  (Meets.creating (meets_createNamespace workspace rest)).andThen rfl fun _ => following

theorem Pursues.create (found : spec.resource workspace = .ok resource)
    (parts : plan =
      .created (spec.placed workspace) :: spec.readiness.milestones resource ++ rest)
    (following : agenda.Pursues (.towards rest) next.run goal) :
    agenda.Pursues (.towards plan)
      (Run.creating (workspace.create spec) >>= fun _ => next).run goal :=
  (Meets.creating (meets_create found rest)).andThen parts fun _ => following

/-- The last step of a phase leaves the rest of the plan to the next phase. -/
theorem pursues_create (found : spec.resource workspace = .ok resource)
    (parts : plan =
      .created (spec.placed workspace) :: spec.readiness.milestones resource ++ rest) :
    agenda.Pursues (.towards plan) (Run.creating (workspace.create spec)).run
      fun _ progress => progress = .towards rest := by
  rw [parts]
  exact Meets.creating (meets_create found rest)

theorem Pursues.await {sight : Sight} {condition : Condition} {context : String}
    (decides : sight.Decides condition)
    (following : agenda.Pursues (.towards rest) next.run goal) :
    agenda.Pursues (.towards (.seen sight :: rest))
      (Run.awaiting context condition >>= fun _ => next).run goal :=
  (meets_awaiting decides context rest).andThen rfl fun _ => following

end

end Agenda

end AddonCheck
