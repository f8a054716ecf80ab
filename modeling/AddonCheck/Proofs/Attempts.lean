import AddonCheck.Proofs.Account
import AddonCheck.Proofs.Cancelled

/-
This file shows what is done for each object of a list that is created in order. The attempts to
create them follow one another up to the first that does not succeed, and whatever the cluster
answers, the registry gains exactly the objects whose creation was sent.
-/

namespace AddonCheck

open Cluster (Resource)

namespace Workspace

/-- Whether the creation was sent before it failed. -/
def CreationError.isSent : CreationError → Bool
  | invalidObject _ => false
  | cancelled _ => false
  | refused _ _ => true
  | notReady _ _ => true

/-- Whether the creation was sent when it came to the outcome. -/
def wasSent : Outcome (Except CreationError Unit) → Bool
  | .finished (.error error) => error.isSent
  | _ => true

namespace Spec

/-! ## One object -/

/-- What is logged about an object that the cluster has. -/
def acceptance : Cluster.Creation → Log.Line
  | .created => Log.info "Created resource"
  | .alreadyExists => Log.warn "Resource already exists, reusing it"

/-- The token is tested, the object is registered, and its creation is sent. -/
def asked (workspace : Workspace) (spec : Spec) (resource : Resource)
    (answer : Except Cluster.Error Cluster.Creation) : List Undertaken :=
  [⟨.isCancelled, some false⟩, ⟨.register resource, some ()⟩,
    ⟨.log (Log.info "Creating resource"), some ()⟩,
    ⟨.ask (.create (spec.placed workspace)), some answer⟩]

/-- The cluster has the object, whether it is new or not. -/
def accepted (workspace : Workspace) (spec : Spec) (resource : Resource)
    (creation : Cluster.Creation) : List Undertaken :=
  spec.asked workspace resource (.ok creation) ++ [⟨.log (acceptance creation), some ()⟩]

/-- How the creation of an object ends, and what is done for it. -/
inductive Attempt (workspace : Workspace) (spec : Spec) :
    Outcome (Except CreationError Unit) → List Undertaken → Prop where
  | invalid {error : Cluster.Error}
      (nameless : spec.resource workspace = .error (.invalidObject error)) :
      Attempt workspace spec (.finished (.error (.invalidObject error))) []
  | cancelled {resource : Resource} (named : spec.resource workspace = .ok resource) :
      Attempt workspace spec (.finished (.error (.cancelled resource))) [⟨.isCancelled, some true⟩]
  | refused {resource : Resource} (named : spec.resource workspace = .ok resource)
      (error : Cluster.Error) :
      Attempt workspace spec (.finished (.error (.refused resource error)))
        (spec.asked workspace resource (.error error))
  | created {resource : Resource} (named : spec.resource workspace = .ok resource)
      (creation : Cluster.Creation) (instant : spec.readiness.condition? resource = none) :
      Attempt workspace spec (.finished (.ok ())) (spec.accepted workspace resource creation)
  | ready {resource : Resource} {condition : Condition}
      (named : spec.resource workspace = .ok resource) (creation : Cluster.Creation)
      (awaited : spec.readiness.condition? resource = some condition) :
      Attempt workspace spec (.finished (.ok ()))
        (spec.accepted workspace resource creation ++ [⟨.await condition, some (.ok ())⟩])
  | notReady {resource : Resource} {condition : Condition}
      (named : spec.resource workspace = .ok resource) (creation : Cluster.Creation)
      (awaited : spec.readiness.condition? resource = some condition) (error : Poll.Error) :
      Attempt workspace spec (.finished (.error (.notReady resource error)))
        (spec.accepted workspace resource creation ++ [⟨.await condition, some (.error error)⟩])
  /-- The wait takes more evaluations than it is given. -/
  | unsettled {resource : Resource} {condition : Condition}
      (named : spec.resource workspace = .ok resource) (creation : Cluster.Creation)
      (awaited : spec.readiness.condition? resource = some condition) :
      Attempt workspace spec .unsettled
        (spec.accepted workspace resource creation ++ [⟨.await condition, none⟩])

/-- An object without a handle is invalid. -/
theorem resource_error {workspace : Workspace} {spec : Spec} {error : CreationError}
    (nameless : spec.resource workspace = .error error) :
    ∃ reason, error = .invalidObject reason := by
  unfold resource at nameless
  split at nameless <;> cases nameless
  · exact ⟨_, rfl⟩
  · exact ⟨_, rfl⟩

end Spec

section

variable {σ : Type} (outside : Outside σ) (reaction : Session.Reaction σ) (rounds : Nat)

theorem send_amounts (resource : Resource) (object : Cluster.Object) (session : Session σ) :
    (∃ error after, session.Amounts outside reaction rounds (send resource object).run
      (.finished (.error (.refused resource error)))
      [⟨.ask (.create object), some (.error error)⟩] after) ∨
    ∃ creation after, session.Amounts outside reaction rounds (send resource object).run
      (.finished (.ok ()))
      [⟨.ask (.create object), some (.ok creation)⟩,
        ⟨.log (Spec.acceptance creation), some ()⟩] after := by
  rw [send_run]
  rcases asked : session.step outside reaction rounds (.ask (.create object)) with
    ⟨_ | answer, after⟩
  · cases asked
  · rcases answer with error | (_ | _)
    · exact .inl ⟨error, after, .perform asked (.done _ after)⟩
    · exact .inr ⟨.created, _, .perform asked (.perform rfl (.done _ _))⟩
    · exact .inr ⟨.alreadyExists, _, .perform asked (.perform rfl (.done _ _))⟩

/-- An object that the cluster has is ready at once, or what it waits for decides on it. -/
theorem awaitReadiness_attempt {workspace : Workspace} {spec : Spec} {resource : Resource}
    (named : spec.resource workspace = .ok resource) (creation : Cluster.Creation)
    (session : Session σ) :
    ∃ outcome account after,
      session.Amounts outside reaction rounds (awaitReadiness resource spec.readiness).run outcome
        account after ∧
      spec.Attempt workspace outcome (spec.accepted workspace resource creation ++ account) ∧
      wasSent outcome = true := by
  rw [awaitReadiness_run]
  cases awaited : spec.readiness.condition? resource with
  | none =>
      refine ⟨_, _, _, .done _ session, ?_⟩
      rw [List.append_nil]
      exact ⟨.created named creation awaited, rfl⟩
  | some condition =>
      rcases stepped : session.step outside reaction rounds (.await condition) with
        ⟨_ | error | _, after⟩
      · exact ⟨_, _, _, .unsettled stepped, .unsettled named creation awaited, rfl⟩
      · exact ⟨_, _, _, .perform stepped (.done _ after),
          .notReady named creation awaited error, rfl⟩
      · exact ⟨_, _, _, .perform stepped (.done _ after), .ready named creation awaited, rfl⟩

/-- Every creation ends in one of the ways, and one that is not sent leaves everything as it was. -/
theorem create_attempt (workspace : Workspace) (spec : Spec) (session : Session σ) :
    ∃ outcome account after,
      session.Amounts outside reaction rounds (workspace.create spec).run outcome account after ∧
        spec.Attempt workspace outcome account ∧ (wasSent outcome = false → after = session) := by
  rw [create_run]
  cases named : spec.resource workspace with
  | error error =>
      obtain ⟨reason, rfl⟩ := Spec.resource_error named
      exact ⟨_, _, _, .done _ session, .invalid named, fun _ => rfl⟩
  | ok resource =>
      have tested : session.step outside reaction rounds .isCancelled =
          (some session.isCancelled, session) := rfl
      cases cancelled : session.isCancelled with
      | true =>
          rw [cancelled] at tested
          exact ⟨_, _, _, .perform tested (.done _ session), .cancelled named, fun _ => rfl⟩
      | false =>
          rw [cancelled] at tested
          -- Whatever the answers are from here on, the object stays registered.
          let announced : Session σ :=
            { session with registry := session.registry.register resource }.addLog
              [Log.info "Creating resource"]
          obtain ⟨error, after, refused⟩ | ⟨creation, middle, accepted⟩ :=
            send_amounts outside reaction rounds resource (spec.placed workspace) announced
          · exact ⟨_, _, _,
              .perform tested (.perform rfl (.perform rfl (refused.bind (.done _ after)))),
              .refused named error, nofun⟩
          · obtain ⟨outcome, account, after, awaited, attempt, sent⟩ :=
              awaitReadiness_attempt outside reaction rounds named creation middle
            refine ⟨_, _, _,
              .perform tested (.perform rfl (.perform rfl (accepted.bind awaited))), attempt, ?_⟩
            intro unsent
            rw [sent] at unsent
            cases unsent

theorem createNamespace_amounts (workspace : Workspace) (session : Session σ) :
    ∃ outcome account after,
      session.Amounts outside reaction rounds workspace.createNamespace.run outcome account after ∧
        (wasSent outcome = false → after = session) := by
  rw [createNamespace_run]
  have tested : session.step outside reaction rounds .isCancelled =
      (some session.isCancelled, session) := rfl
  cases cancelled : session.isCancelled with
  | true =>
      rw [cancelled] at tested
      exact ⟨_, _, _, .perform tested (.done _ session), fun _ => rfl⟩
  | false =>
      rw [cancelled] at tested
      -- Here the namespace is in the registry, and nobody has been asked for it.
      let announced : Session σ :=
        { session with registry := session.registry.registerWorkspace workspace.resource }.addLog
          [Log.info "Creating Namespace"]
      obtain ⟨error, after, refused⟩ | ⟨creation, after, accepted⟩ :=
        send_amounts outside reaction rounds workspace.resource workspace.object announced
      · exact ⟨_, _, _, .perform tested (.perform rfl (.perform rfl refused)), nofun⟩
      · exact ⟨_, _, _, .perform tested (.perform rfl (.perform rfl accepted)), nofun⟩

end

namespace Spec

/-! ## What an attempt does about its object -/

/-- The object is registered, and then its creation is sent. -/
def marks (workspace : Workspace) (spec : Spec) : List Mark :=
  match spec.resource workspace with
  | .error _ => []
  | .ok resource => [.registered resource, .requested (spec.placed workspace)]

variable {workspace : Workspace} {spec : Spec} {outcome : Outcome (Except CreationError Unit)}
  {account : List Undertaken}

theorem Attempt.of_sent (attempt : spec.Attempt workspace outcome account)
    (sent : wasSent outcome = true) :
    ∃ resource, spec.resource workspace = .ok resource ∧
      account.flatMap (fun undertaken => undertaken.1.marks) = spec.marks workspace ∧
      ∀ registry : Registry, registry.after account = registry.register resource := by
  cases attempt with
  | invalid nameless => cases sent
  | cancelled named => cases sent
  -- The five ways that come after the request differ in its answer and in the wait, which leave no
  -- marks and no registration.
  | refused named | created named | ready named | notReady named | unsettled named =>
      exact ⟨_, named, by simp [marks, named, asked, accepted, Action.marks], fun _ => rfl⟩

theorem Attempt.of_unsent (attempt : spec.Attempt workspace outcome account)
    (unsent : wasSent outcome = false) :
    account.flatMap (fun undertaken => undertaken.1.marks) = [] ∧
      ∀ registry : Registry, registry.after account = registry := by
  cases attempt with
  | invalid nameless => exact ⟨rfl, fun _ => rfl⟩
  | cancelled named => exact ⟨rfl, fun _ => rfl⟩
  | _ => cases unsent

end Spec

/-! ## Objects in order -/

/-- Objects are created in order up to the first that does not succeed: how this ends, what is done,
and the objects whose creation is sent. -/
inductive Batch (workspace : Workspace) :
    List Spec → Outcome (Except CreationError Unit) → List Undertaken → List Spec → Prop where
  | complete : Batch workspace [] (.finished (.ok ())) [] []
  | goesOn {spec : Spec} {specs : List Spec} {outcome : Outcome (Except CreationError Unit)}
      {first account : List Undertaken} {sent : List Spec}
      (attempt : spec.Attempt workspace (.finished (.ok ())) first)
      (rest : Batch workspace specs outcome account sent) :
      Batch workspace (spec :: specs) outcome (first ++ account) (spec :: sent)
  | stops {spec : Spec} {outcome : Outcome (Except CreationError Unit)}
      {account : List Undertaken} (attempt : spec.Attempt workspace outcome account)
      (failed : outcome ≠ .finished (.ok ())) (later : List Spec) :
      Batch workspace (spec :: later) outcome account (if wasSent outcome then [spec] else [])

namespace Batch

variable {workspace : Workspace} {specs sent : List Spec}
  {outcome : Outcome (Except CreationError Unit)} {account : List Undertaken}

/-- Every object whose creation is sent is registered before, and no other object is. -/
theorem registers (batch : Batch workspace specs outcome account sent) :
    ∃ handles, sent.map (Spec.resource workspace) = handles.map .ok ∧
      account.flatMap (fun undertaken => undertaken.1.marks) =
        sent.flatMap (Spec.marks workspace) ∧
      ∀ registry : Registry, registry.after account =
        { registry with resources := registry.resources ++ handles } := by
  induction batch with
  | complete => exact ⟨[], rfl, rfl, fun registry => by rw [List.append_nil]; rfl⟩
  | @goesOn spec specs outcome first account sent attempt rest inductionHypothesis =>
      obtain ⟨resource, named, marked, registered⟩ := attempt.of_sent rfl
      obtain ⟨handles, known, others, gained⟩ := inductionHypothesis
      refine ⟨resource :: handles, by simp [named, known], by simp [marked, others], ?_⟩
      intro registry
      have split : registry.after (first ++ account) = (registry.after first).after account :=
        List.foldl_append
      rw [split, registered, gained]
      simp [Registry.register]
  | @stops spec outcome account attempt failed later =>
      cases sent : wasSent outcome with
      | true =>
          obtain ⟨resource, named, marked, registered⟩ := attempt.of_sent sent
          exact ⟨[resource], by simp [named], by simp [marked], registered⟩
      | false =>
          obtain ⟨unmarked, same⟩ := attempt.of_unsent sent
          exact ⟨[], rfl, by simp [unmarked], fun registry => by simp [same]⟩

end Batch

/-- An object is sent with the namespace of its handle. -/
theorem Spec.placed_namespaceName {workspace : Workspace} {spec : Spec} {resource : Resource}
    (named : spec.resource workspace = .ok resource) :
    (spec.placed workspace).metadata.namespaceName = some resource.namespaceName := by
  unfold Spec.resource at named
  split at named <;> cases named
  rfl

section

variable {σ : Type} (outside : Outside σ) (reaction : Session.Reaction σ) (rounds : Nat)
  (workspace : Workspace)

theorem createAll_batch (specs : List Spec) (session : Session σ) :
    ∃ outcome account after sent,
      session.Amounts outside reaction rounds (workspace.createAll specs).run outcome account
        after ∧
      Batch workspace specs outcome account sent := by
  induction specs generalizing session with
  | nil => exact ⟨_, _, _, _, .done _ session, .complete⟩
  | cons spec specs inductionHypothesis =>
      rw [createAll_run]
      obtain ⟨outcome, account, middle, amounts, attempt, -⟩ :=
        create_attempt outside reaction rounds workspace spec session
      rcases outcome with (error | _) | _ | _
      · -- A failure ends the rest of the program at once, which adds nothing to the account.
        have stopped := Batch.stops attempt nofun specs
        rw [← List.append_nil account] at stopped
        exact ⟨_, _, _, _, amounts.bind (.done _ middle), stopped⟩
      · obtain ⟨outcome, later, after, sent, rest, batch⟩ := inductionHypothesis middle
        exact ⟨_, _, _, _, amounts.bind rest, .goesOn attempt batch⟩
      · cases attempt
      · exact ⟨_, _, _, _, amounts.bind_unsettled, .stops attempt nofun specs⟩

theorem createAll_unwatching (specs : List Spec) :
    (workspace.createAll specs).run.Uses fun action => ∀ watcher, action ≠ .watch watcher := by
  induction specs with
  | nil => trivial
  | cons spec specs inductionHypothesis =>
      have first : (workspace.create spec).run.Ends
          (fun action => ∀ watcher, action ≠ .watch watcher) fun _ => True :=
        create_ends (fun _ => nofun) nofun (fun _ _ => nofun) (fun _ _ => nofun)
          fun _ _ _ _ => nofun
      rw [createAll_run]
      apply first.uses.bind
      intro result
      cases result with
      | error error => trivial
      | ok _ => exact inductionHypothesis

/-- Objects are created in order up to the first that does not succeed. The registry gains the
handles of the objects whose creation was sent, each before it was sent. A creation that is not sent
leaves everything as it was, and what is sent lies in the namespace of its handle. -/
theorem createAll_stops (specs : List Spec) {session : Session σ}
    (unwatched : session.watcher = none) :
    (∃ sent handles,
      Batch workspace specs
        (session.execute outside reaction rounds (workspace.createAll specs).run).1
        (session.account outside reaction rounds (workspace.createAll specs).run) sent ∧
      sent.map (Spec.resource workspace) = handles.map .ok ∧
      (session.account outside reaction rounds (workspace.createAll specs).run).flatMap
          (fun undertaken => undertaken.1.marks) = sent.flatMap (Spec.marks workspace) ∧
      (session.execute outside reaction rounds (workspace.createAll specs).run).2.registry =
        { session.registry with resources := session.registry.resources ++ handles }) ∧
    (∀ spec, wasSent (session.execute outside reaction rounds (workspace.create spec).run).1 =
        false →
      (session.execute outside reaction rounds (workspace.create spec).run).2 = session) ∧
    (wasSent (session.execute outside reaction rounds workspace.createNamespace.run).1 = false →
      (session.execute outside reaction rounds workspace.createNamespace.run).2 = session) ∧
    ∀ spec resource, Spec.resource workspace spec = .ok resource →
      (spec.placed workspace).resource? = some resource ∧
      (spec.placed workspace).metadata.namespaceName = some resource.namespaceName ∧
      ∀ condition ∈ spec.readiness.condition? resource, condition.request.IsReading := by
  refine ⟨?_, ?_, ?_, ?_⟩
  · obtain ⟨outcome, account, after, sent, amounts, batch⟩ :=
      createAll_batch outside reaction rounds workspace specs session
    obtain ⟨handles, named, marked, gained⟩ := batch.registers
    have registry :
        (session.execute outside reaction rounds (workspace.createAll specs).run).2.registry =
          session.registry.after
            (session.account outside reaction rounds (workspace.createAll specs).run) :=
      Session.execute_registry unwatched (createAll_unwatching workspace specs)
    rw [amounts.accounted, gained] at registry
    rw [amounts.accounted]
    refine ⟨sent, handles, ?_, named, marked, registry⟩
    rw [amounts.executed]
    exact batch
  · intro spec unsent
    obtain ⟨outcome, account, after, amounts, -, same⟩ :=
      create_attempt outside reaction rounds workspace spec session
    rw [amounts.executed] at unsent ⊢
    exact same unsent
  · intro unsent
    obtain ⟨outcome, account, after, amounts, same⟩ :=
      createNamespace_amounts outside reaction rounds workspace session
    rw [amounts.executed] at unsent ⊢
    exact same unsent
  · intro spec resource named
    refine ⟨Spec.placed_resource? named, ?_, fun condition awaited =>
      Readiness.condition?_isReading awaited⟩
    exact Spec.placed_namespaceName named

end

/-- An outside that refuses an object of one name, and grants everything else. -/
def refusingOutside (name : String) : Outside Unit where
  reply
    | .create object, state =>
        if object.metadata.name = some name then
          ({ answer := .error (.refused 403 "forbidden") }, state)
        else ({ answer := .ok .created }, state)
    | request, state => (grantingOutside (.ok .deleted)).reply request state

/-- A secret that is awaited at once. -/
def secretSpec (name : String) : Spec :=
  { object := Cluster.Object.named ⟨"v1", "Secret"⟩ name "elsewhere" (.object [])
    readiness := .secret name ⟨⟨1⟩, ⟨10⟩⟩ }

/-- The second of three objects is refused: it stays registered, and the third is not. -/
theorem createAll_stops_refused :
    let resource (name : String) : Resource := ⟨⟨"v1", "Secret"⟩, name, "elsewhere"⟩
    let session : Session Unit :=
      { start := default, registry := { resources := [resource "old"] }, outside := () }
    let specs := [secretSpec "first", secretSpec "second", secretSpec "third"]
    let creation := (createAll ⟨"ws", false⟩ specs).run
    let executed := session.execute (refusingOutside "second") Session.still 1 creation
    let account := session.account (refusingOutside "second") Session.still 1 creation
    session.watcher = none ∧
      executed.1 = .finished (.error (.refused (resource "second") (.refused 403 "forbidden"))) ∧
      executed.2.registry.resources = [resource "old", resource "first", resource "second"] ∧
      ∃ sent, Batch ⟨"ws", false⟩ specs executed.1 account sent ∧
        sent.map (Spec.resource ⟨"ws", false⟩) =
          [.ok (resource "first"), .ok (resource "second")] := by
  intro resource session specs creation executed account
  have unwatched : session.watcher = none := rfl
  have registered : executed.2.registry.resources =
      [resource "old", resource "first", resource "second"] := rfl
  obtain ⟨⟨sent, handles, batch, named, -, registry⟩, -⟩ :=
    createAll_stops (refusingOutside "second") Session.still 1 ⟨"ws", false⟩ specs unwatched
  have gained : executed.2.registry.resources = [resource "old"] ++ handles :=
    congrArg Registry.resources registry
  rw [registered] at gained
  obtain rfl : [resource "first", resource "second"] = handles := List.cons.inj gained |>.2
  exact ⟨unwatched, rfl, registered, sent, batch, named⟩

end Workspace

end AddonCheck
