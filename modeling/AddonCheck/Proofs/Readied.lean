import AddonCheck.Proofs.Hearing
import AddonCheck.Proofs.Inspected
import AddonCheck.Proofs.Shelf
import AddonCheck.Proofs.Sights

/-
This file shows what decides on a creation that is accepted. The object is looked at again and
again, until one look shows that it is ready or that looking is not allowed. What a look shows is
read off the responses of the cluster.
-/

namespace AddonCheck

open Cluster (Resource)

/-- The answers to a question are read off the responses to a look at an object. An object without a
name is not looked at. -/
structure Question.Reads (question : Question) (inspection : Cluster.Inspection) :
    Prop where
  shows : ∀ {τ : Type} (peers : Peers τ) (state : τ),
    question.shows (peers.outside.reply question.request state).1.answer ↔
      inspection.name ≠ "" ∧ inspection.IsMetBy (inspection.response? peers.cluster state)
  refuses : ∀ {τ : Type} (peers : Peers τ) (state : τ) (reason : String),
    question.refuses (peers.outside.reply question.request state).1.answer reason ↔
      inspection.name ≠ "" ∧
        Cluster.Inspection.IsDeniedBy (inspection.response? peers.cluster state) reason

/-- A question reads what a look brings when it is put as the look. -/
theorem Question.Reads.of_get {α : Type} {question : Question} {collection : Cluster.Collection}
    {read : Json → Option α} {fits : α → Prop} {isMet : Json → Prop}
    {name namespaceName path : String}
    (meets : ∀ value, (∃ found, read value = some found ∧ fits found) ↔ isMet value)
    (leads : s!"{collection.path namespaceName}/{name}" = path)
    (shows : ∀ {τ : Type} (peers : Peers τ) (state : τ),
      question.shows (peers.outside.reply question.request state).1.answer ↔
        ∃ found, ((Cluster.Api.get peers.cluster collection read name namespaceName).run state).1 =
          .ok (some found) ∧ fits found)
    (refuses : ∀ {τ : Type} (peers : Peers τ) (state : τ) (reason : String),
      question.refuses (peers.outside.reply question.request state).1.answer reason ↔
        Cluster.Denies
          ((Cluster.Api.get peers.cluster collection read name namespaceName).run state).1 reason) :
    question.Reads ⟨name, path, isMet⟩ := by
  subst leads
  refine ⟨fun peers state => (shows peers state).trans ?_,
    fun peers state reason => (refuses peers state reason).trans ?_⟩
  · exact Cluster.Api.get_found_iff peers.cluster collection name namespaceName state meets
  · exact Cluster.Api.get_denied_iff peers.cluster collection name namespaceName state isMet reason

namespace Workspace

theorem judgeError_fatal {α : Type} (error : Cluster.Error) (reason : String) :
    (judgeError error).probe = .fatal reason ↔
      Cluster.Denies (.error error : Except Cluster.Error α) reason := by
  have unauthorized : error.isUnauthorized = true ↔ IsForbidden error.status? := by
    simp [Cluster.Error.isUnauthorized, IsForbidden]
  rw [Cluster.denies_error_iff, ← unauthorized]
  unfold judgeError
  split
  · next denied => simp [denied, eq_comm]
  · next allowed => simp [allowed]

theorem judgeRollout_fatal (answer : Except Cluster.Error (Option Cluster.Rollout))
    (reason : String) :
    (judgeRollout answer).probe = .fatal reason ↔ Cluster.Denies answer reason := by
  rcases answer with error | (_ | rollout)
  · exact judgeError_fatal error reason
  · simp [judgeRollout, Cluster.Denies]
  · simp only [judgeRollout]
    split <;> simp [Cluster.Denies]

theorem judgeHostnames_fatal (answer : Except Cluster.Error (Option (List (Option String))))
    (reason : String) :
    (judgeHostnames answer).probe = .fatal reason ↔ Cluster.Denies answer reason := by
  cases answer with
  | error error => exact judgeError_fatal error reason
  | ok hostnames =>
      simp only [judgeHostnames]
      split <;> simp [Cluster.Denies]

theorem judgeSecret_fatal (name : String) (answer : Except Cluster.Error Bool) (reason : String) :
    (judgeSecret name answer).probe = .fatal reason ↔ Cluster.Denies answer reason := by
  rcases answer with error | (_ | _)
  · exact judgeError_fatal error reason
  · simp [judgeSecret, Cluster.Denies]
  · simp [judgeSecret, Cluster.Denies]

/-- What is asked about an object after its creation. Pods that are not counted yet are none, and a
deployment that does not say how many it needs asks for one. -/
def Readiness.question? (readiness : Readiness) (resource : Resource) : Option Question :=
  match readiness with
  | created => none
  | deployment wait => some
      { wait := wait
        immediate := false
        request := .deployment resource.name resource.namespaceName
        shows := fun (answer : Except Cluster.Error (Option Cluster.Rollout)) =>
          ∃ rollout, answer = .ok (some rollout) ∧ rollout.ready.getD 0 = rollout.desired.getD 1
        refuses := fun (answer : Except Cluster.Error (Option Cluster.Rollout)) =>
          Cluster.Denies answer }
  | loadBalancer wait => some
      { wait := wait
        immediate := false
        request := .ingress resource.name resource.namespaceName
        shows := fun (answer : Except Cluster.Error (Option (List (Option String)))) =>
          ∃ hostnames text, answer = .ok (some hostnames) ∧ some text ∈ hostnames ∧ text ≠ ""
        refuses := fun (answer : Except Cluster.Error (Option (List (Option String)))) =>
          Cluster.Denies answer }
  | secret name wait => some
      { wait := wait
        immediate := true
        request := .secret name resource.namespaceName
        shows := fun (answer : Except Cluster.Error Bool) => answer = .ok true
        refuses := fun (answer : Except Cluster.Error Bool) => Cluster.Denies answer }

/-- The conditions of objects read their answers by these questions. -/
theorem Readiness.condition?_question (readiness : Readiness) (resource : Resource) :
    (readiness.condition? resource).map Condition.question = readiness.question? resource := by
  cases readiness with
  | created => rfl
  | deployment wait =>
      have shows := funext fun answer => propext (judgeRollout_converged answer)
      have refuses := funext fun answer => funext fun reason =>
        propext (judgeRollout_fatal answer reason)
      exact congrArg some (congrArg₂ (Question.mk wait false (.deployment _ _)) shows refuses)
  | loadBalancer wait =>
      have shows := funext fun answer => propext (judgeHostnames_converged answer)
      have refuses := funext fun answer => funext fun reason =>
        propext (judgeHostnames_fatal answer reason)
      exact congrArg some (congrArg₂ (Question.mk wait false (.ingress _ _)) shows refuses)
  | secret name wait =>
      have shows := funext fun answer => propext (judgeSecret_converged name answer)
      have refuses := funext fun answer => funext fun reason =>
        propext (judgeSecret_fatal name answer reason)
      exact congrArg some (congrArg₂ (Question.mk wait true (.secret _ _)) shows refuses)

theorem Readiness.condition?_essential {readiness : Readiness} {resource : Resource}
    {condition : Condition} (found : readiness.condition? resource = some condition) :
    condition.request.isAside = false := by
  cases readiness <;> cases found <;> rfl

/-! ## What the answers say of an object -/

/-- Where an object is looked at after its creation, and what it has to show. -/
def Readiness.inspection? (readiness : Readiness) (resource : Resource) :
    Option Cluster.Inspection :=
  let place := resource.namespaceName
  match readiness with
  | created => none
  | deployment _ => some
      ⟨resource.name, s!"/apis/apps/v1/namespaces/{place}/deployments/{resource.name}",
        Cluster.IsRolledOut⟩
  | loadBalancer _ => some
      ⟨resource.name, s!"/apis/networking.k8s.io/v1/namespaces/{place}/ingresses/{resource.name}",
        Cluster.IsPublished⟩
  | secret name _ => some
      ⟨name, s!"/api/v1/namespaces/{place}/secrets/{name}", Cluster.IsObjectOf ⟨"v1", "Secret"⟩⟩

/-- The questions about objects are answered by what the cluster says of them. -/
theorem Readiness.question?_reads {readiness : Readiness} {resource : Resource}
    {question : Question} (awaits : readiness.question? resource = some question) :
    ∃ inspection, readiness.inspection? resource = some inspection ∧ question.Reads inspection := by
  cases readiness with
  | created => cases awaits
  | deployment wait =>
      cases awaits
      refine ⟨_, rfl, .of_get Cluster.Answer.rollout?_isRolledOut
        (@Cluster.Collection.path_eq .deployments _ _ _ _ rfl (by decide) (by decide)) ?_ ?_⟩
      · exact fun peers state => Iff.rfl
      · exact fun peers state reason => Iff.rfl
  | loadBalancer wait =>
      cases awaits
      refine ⟨_, rfl, .of_get Cluster.Answer.hostnames?_isPublished
        (@Cluster.Collection.path_eq .ingresses _ _ _ _ rfl (by decide) (by decide)) ?_ ?_⟩
      · intro τ peers state
        simp only [exists_and_left]
        exact Iff.rfl
      · exact fun peers state reason => Iff.rfl
  | secret name wait =>
      cases awaits
      refine ⟨_, rfl, .of_get Cluster.Answer.secret?_isObjectOf
        (@Cluster.Collection.path_eq .secrets _ _ _ _ rfl (by decide) (by decide)) ?_ ?_⟩
      · intro τ peers state
        let looked := ((Cluster.Api.get peers.cluster Cluster.Collection.secrets
          Cluster.Answer.secret? name resource.namespaceName).run state).1
        change looked.map Option.isSome = .ok true ↔ ∃ found, looked = .ok (some found) ∧ True
        rcases looked with error | (_ | found) <;> simp [Except.map]
      · intro τ peers state reason
        let looked := ((Cluster.Api.get peers.cluster Cluster.Collection.secrets
          Cluster.Answer.secret? name resource.namespaceName).run state).1
        change Cluster.Denies (looked.map Option.isSome) reason ↔ Cluster.Denies looked reason
        cases looked <;> simp [Except.map, Cluster.Denies]

/-! ## A creation that is accepted -/

section

variable {σ : Type} {outside : Outside σ} {rounds : Nat}

/-- An object that is awaited is asked about. -/
theorem awaitReadiness_settles {readiness : Readiness} {resource : Resource} {question : Question}
    {opening : Opening σ} (awaits : readiness.question? resource = some question)
    {session : Session (σ × List Exchange)} (opens : session.Opens opening) :
    Run.Settles rounds (awaitReadiness resource readiness).run session []
      ⟨question, outside, opening⟩ (CreationError.notReady resource) := by
  rw [← readiness.condition?_question, Option.map_eq_some_iff] at awaits
  obtain ⟨condition, found, rfl⟩ := awaits
  rw [awaitReadiness_run, found]
  apply Run.Settles.await (Readiness.condition?_essential found)
  · intro first second same
    cases same
    rfl
  · exact opens
  · exact fun session => ⟨session, rfl, rfl⟩
  · exact fun _ => rfl

/-- Once its creation is accepted, an object is asked about until an answer decides, the time is up
or the run is cancelled. The answers are what the cluster says of the object. -/
theorem create_settles (outside : Outside σ) (rounds : Nat) {workspace : Workspace} {spec : Spec}
    {resource : Resource} {question : Question} {creation : Cluster.Creation}
    {session : Session (σ × List Exchange)}
    (named : spec.resource workspace = .ok resource)
    (awaits : spec.readiness.question? resource = some question)
    (active : session.isCancelled = false)
    (accepted : (outside.reply (.create (spec.placed workspace)) session.outside.1).1.answer =
      .ok creation) :
    let reply := outside.reply (.create (spec.placed workspace)) session.outside.1
    let opening : Opening σ :=
      ⟨session.elapsed + reply.1.takes.nanos, reply.1.cancels, reply.2⟩
    Run.Settles rounds (workspace.create spec).run session
      [⟨.create (spec.placed workspace), .ok creation⟩] ⟨question, outside, opening⟩
      (CreationError.notReady resource) ∧
    ∃ inspection, spec.readiness.inspection? resource = some inspection ∧
      question.Reads inspection := by
  intro reply opening
  refine ⟨?_, Readiness.question?_reads awaits⟩
  let reaction := Run.reaction outside.recording rounds
  let request : Request := .create (spec.placed workspace)
  let registered := { session with registry := session.registry.register resource }
  let logged := registered.addLog [Log.info "Creating resource"]
  let answered := logged.ask outside.recording reaction request
  have tested : session.step outside.recording reaction rounds .isCancelled =
      (some false, session) := congrArg (fun cancelled => (some cancelled, session)) active
  have answers : answered.1 = .ok creation := accepted
  have stepped : logged.step outside.recording reaction rounds (.ask request) =
      (some (.ok creation : Except Cluster.Error Cluster.Creation), answered.2) :=
    congrArg (fun answer => (some answer, answered.2)) accepted
  have sent : logged.Exchanges [⟨request, answered.1⟩] answered.2 :=
    Session.ask_exchanges outside (Run.reaction_exchanges outside rounds) request logged
  have still : logged.isCancelled = false := active
  have opens : answered.2.Opens opening :=
    Session.ask_opens outside (Run.reaction_exchanges outside rounds) request still
  rw [answers] at sent
  rw [create_run, named]
  dsimp only
  rw [send_run]
  refine .aside trivial tested (.aside trivial rfl (.aside trivial rfl ?_))
  refine .perform stepped sent ?_
  cases creation with
  | created => exact .aside trivial rfl (awaitReadiness_settles awaits opens)
  | alreadyExists => exact .aside trivial rfl (awaitReadiness_settles awaits opens)

end

/-- The cluster is asked for the creation of an object. -/
theorem create_answer {σ : Type} (peers : Peers σ) (object : Cluster.Object) (state : σ) :
    (peers.outside.reply (.create object) state).1.answer =
      ((Cluster.Api.create peers.cluster object).run state).1 := rfl

/-- Peers whose cluster gives one response after another, whatever it is asked. -/
def respondingPeers : Peers (List (Option Http.Response)) where
  cluster _ responses := (responses.head?.join, responses.tail)
  lookup _ state := ({ answer := .error (.io "no answer") }, state)
  listing bucket keyStart state :=
    ({ answer := .error (.listing bucket keyStart none "no answer") }, state)
  metrics _ _ _ state := ({ answer := .error (.transport "no answer") }, state)
  deliver _ state := ({ answer := .error (.send "no answer") }, state)
  evaluate _ state := ({ answer := .fatal "no answer" }, state)

def webSpec : Spec :=
  { object := Cluster.Object.named ⟨"apps/v1", "Deployment"⟩ "web" "ws" (.object [])
    readiness := .deployment ⟨⟨5⟩, ⟨60⟩⟩ }

/-- What the cluster responds before it is asked about the deployment. -/
def acceptance : List (Option Http.Response) :=
  let kinds := "\x7b\"resources\":[\x7b\"name\":\"deployments\",\"kind\":\"Deployment\"\x7d]\x7d"
  [some ⟨200, kinds⟩, some ⟨201, "\x7b\x7d"⟩]

/-- A session in which the cluster accepts the deployment, and then responds to looks at it. -/
def acceptedSession (looks : List (Option Http.Response)) :
    Session (List (Option Http.Response) × List Exchange) :=
  { start := default, outside := (acceptance ++ looks, []) }

/-- A refusal that may pass, no response, a deployment that is missing and ones without counts
decide nothing. A deployment that asks for one pod and has it is ready, and a refusal that does not
allow to look is final. -/
theorem create_settles_responses :
    let workspace : Workspace := ⟨"ws", false⟩
    let resource : Resource := ⟨⟨"apps/v1", "Deployment"⟩, "web", "ws"⟩
    let looks (last : Http.Response) : List (Option Http.Response) :=
      [some ⟨500, "overloaded"⟩, none,
        some ⟨404, "\x7b\"code\":404,\"reason\":\"NotFound\"\x7d"⟩, some ⟨200, "\x7b\x7d"⟩,
        some ⟨200, "\x7b\"status\":null,\"spec\":\x7b\"replicas\":2\x7d\x7d"⟩, some last, none]
    let ready : Http.Response := ⟨200, "\x7b\"status\":\x7b\"readyReplicas\":1\x7d\x7d"⟩
    let forbidden : Http.Response := ⟨403, "\x7b\"code\":403,\"message\":\"no\"\x7d"⟩
    let session := acceptedSession (looks ready)
    let executed (last : Http.Response) := Run.execute respondingPeers.outside.recording 9
      (workspace.create webSpec).run (acceptedSession (looks last))
    session.isCancelled = false ∧ webSpec.resource workspace = .ok resource ∧
      (∃ question, webSpec.readiness.question? resource = some question ∧
        let reply := respondingPeers.outside.reply (.create (webSpec.placed workspace))
          session.outside.1
        let opening : Opening (List (Option Http.Response)) :=
          ⟨session.elapsed + reply.1.takes.nanos, reply.1.cancels, reply.2⟩
        Run.Settles 9 (workspace.create webSpec).run session
            [⟨.create (webSpec.placed workspace), .ok .created⟩]
            ⟨question, respondingPeers.outside, opening⟩ (CreationError.notReady resource) ∧
          ∃ inspection, webSpec.readiness.inspection? resource = some inspection ∧
            question.Reads inspection) ∧
      (executed ready).1 = .finished (.ok ()) ∧ (executed ready).2.elapsed = 30 ∧
      (executed ready).2.outside.1 = [none] ∧
      (executed forbidden).1 = .finished (.error (.notReady resource
        (.fatal "the api-server answered with status 403: `no`"))) ∧
      (executed forbidden).2.outside.1 = [none] := by
  intro workspace resource looks ready forbidden session executed
  have active : session.isCancelled = false := rfl
  have named : webSpec.resource workspace = .ok resource := rfl
  have created : ((Cluster.Api.create respondingPeers.cluster (webSpec.placed workspace)).run
      session.outside.1).1 = .ok .created := by
    decide +kernel
  have accepted : (respondingPeers.outside.reply (.create (webSpec.placed workspace))
      session.outside.1).1.answer = .ok .created :=
    (create_answer respondingPeers _ _).trans created
  have awaits : ∃ question, webSpec.readiness.question? resource = some question := ⟨_, rfl⟩
  obtain ⟨question, awaits⟩ := awaits
  have settles := create_settles respondingPeers.outside 9 named awaits active accepted
  refine ⟨active, named, ⟨question, awaits, settles⟩, ?_⟩
  decide +kernel

end Workspace

end AddonCheck
