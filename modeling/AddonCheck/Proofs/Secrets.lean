import AddonCheck.Proofs.References

/-
This file shows that the run of every check resolves the references of its objects, whatever it is
answered. A check of certificates looks for no secret but the one that its latest certificate
writes.
-/

namespace AddonCheck

open Cluster Run Workspace

/-! ## References are resolved -/

/-- The secret has been seen in an answer. -/
def Appeared (exchanges : List Exchange) (secret namespaceName : String) : Prop :=
  (⟨.secret secret namespaceName, .ok true⟩ : Exchange) ∈ exchanges

theorem Resolves.mono {requested : List Object} {appeared later : String → String → Prop}
    {object : Object} (resolves : Resolves requested appeared object)
    (implies : ∀ secret namespaceName, appeared secret namespaceName → later secret namespaceName) :
    Resolves requested later object := by
  cases resolves with
  | space kind => exact .space kind
  | deployment isIn finds => exact .deployment isIn finds
  | service isIn member deploys finds reaches => exact .service isIn member deploys finds reaches
  | ingress isIn leads nonempty publishes resolves =>
      exact .ingress isIn leads nonempty publishes resolves
  | authority isIn isAuthority issued => exact .authority isIn isAuthority issued
  | issuer isIn member isAuthority writes signs seen =>
      exact .issuer isIn member isAuthority writes signs (implies _ _ seen)
  | certificate isIn member issues named issued => exact .certificate isIn member issues named issued

/-- Each milestone of a plan that has been met is shown by an exchange. -/
theorem Met.exists_shown {milestones : List Milestone} {exchanges : List Exchange}
    (met : Met milestones exchanges) {milestone : Milestone} (member : milestone ∈ milestones) :
    ∃ exchange ∈ exchanges, milestone.IsShownBy exchange := by
  obtain ⟨shown, inside, shows⟩ := met
  suffices found : ∃ exchange ∈ shown, milestone.IsShownBy exchange by
    obtain ⟨exchange, isIn, isShown⟩ := found
    exact ⟨exchange, inside.subset isIn, isShown⟩
  clear inside
  induction shows with
  | nil => cases member
  | cons isShown _ inductionHypothesis =>
      rcases List.mem_cons.mp member with rfl | later
      · exact ⟨_, List.mem_cons_self, isShown⟩
      · obtain ⟨exchange, isIn, isShown⟩ := inductionHypothesis later
        exact ⟨exchange, List.mem_cons_of_mem _ isIn, isShown⟩

/-- A secret that a plan awaits has appeared when the plan has been met. -/
theorem Met.appeared {milestones : List Milestone} {exchanges : List Exchange}
    (met : Met milestones exchanges) {secret namespaceName : String}
    (awaits : Awaits milestones secret namespaceName) :
    Appeared exchanges secret namespaceName := by
  obtain ⟨exchange, member, rfl⟩ := met.exists_shown awaits
  exact member

/-- What an agenda says of the objects along its plan holds of the exchanges that follow it. -/
theorem Agenda.Follows.resolves {agenda : Agenda} {nodes : Nat} {exchanges : List Exchange}
    (follows : agenda.Follows nodes exchanges)
    (planned : ResolvesFrom [] (agenda.milestones nodes)) {before after : List Exchange}
    {object : Object} {answer : Except Cluster.Error Cluster.Creation}
    (parts : exchanges = before ++ ⟨.create object, answer⟩ :: after) :
    Resolves (AddonCheck.creations before) (Appeared before) object := by
  obtain ⟨done, rest, plan, created, met⟩ := follows.order before object answer after parts
  rw [plan] at planned
  have resolves : Resolves (objects done) (Awaits done) object := planned.resolves
  rw [created]
  exact resolves.mono fun _ _ awaits => met.appeared awaits

/-! ## Only the latest certificate is waited for -/

/-- The secret for which the request asks. -/
def Request.secret? : Request → Option (String × String)
  | .secret name namespaceName => some (name, namespaceName)
  | _ => none

/-- An action that waits for nothing and asks for no secret. -/
def Action.AsksNoSecret : Action → Prop
  | .ask request => request.secret? = none
  | .await _ => False
  | _ => True

/-- The object is a certificate that writes the secret. -/
def WritesLast (latest : Option Object) (secret : Option (String × String)) : Prop :=
  ∀ name namespaceName, secret = some (name, namespaceName) →
    ∃ certificate ∈ latest, certificate.Writes name namespaceName

/-- A secret is asked for only while the object that was requested last writes it. No wait creates
an object. -/
def heeding : Discipline (Option Object) where
  allows
    | latest, .ask request => WritesLast latest request.secret?
    | latest, .await condition =>
        condition.request.isAwaited = true ∧ WritesLast latest condition.request.secret?
    | _, _ => True
  next
    | _, .ask (.create object), _ => some object
    | latest, _, _ => latest

/-- Whatever was requested before it, the program asks only for secrets that are written. -/
def Program.Heeds {α : Type} (program : Program α) : Prop :=
  ∀ latest, program.Keeps heeding latest fun _ _ => True

section

variable {α β : Type} {program : Program α}

/-- A program that waits for nothing and asks for no secret. -/
theorem Program.Uses.heeds (uses : program.Uses Action.AsksNoSecret) : program.Heeds := by
  induction program with
  | done value => exact fun _ => trivial
  | crash => exact fun _ => trivial
  | perform action next inductionHypothesis =>
      refine fun latest => ⟨?_, fun answer => inductionHypothesis answer (uses.2 answer) _⟩
      cases action with
      | ask request =>
          have none : request.secret? = none := uses.1
          intro name namespaceName asks
          rw [none] at asks
          cases asks
      | await condition => exact uses.1.elim
      | _ => trivial

theorem Program.Heeds.bind {next : α → Program β} (first : program.Heeds)
    (rest : ∀ value, (next value).Heeds) : (program.bind next).Heeds := fun latest =>
  Program.Keeps.bind (first latest) (fun value _ _ => rest value _) fun _ _ => trivial

theorem Program.Heeds.onCrash {cleanup : Program Unit} (first : program.Heeds)
    (recovers : cleanup.Heeds) : (program.onCrash cleanup).Heeds := fun latest =>
  Program.Keeps.onCrash (first latest) (fun _ _ _ => trivial) fun _ _ => recovers _

theorem Program.Heeds.creating {program : Workspace.Creating α} (heeds : program.run.Heeds) :
    (Run.creating program).run.Heeds := by
  apply heeds.bind
  intro result
  cases result <;> exact fun _ => trivial

end

namespace Workspace

variable {workspace : Workspace} {spec : Spec}

/-- The object whose creation is sent is the one that was requested last. -/
theorem send_keeps_heeding (resource : Resource) (object : Object) (latest : Option Object) :
    (send resource object).run.Keeps heeding latest fun _ after => after = some object := by
  rw [send_run]
  refine ⟨nofun, fun (answer : Except Cluster.Error Cluster.Creation) => ?_⟩
  rcases answer with error | (_ | _)
  · rfl
  · exact ⟨trivial, fun _ => rfl⟩
  · exact ⟨trivial, fun _ => rfl⟩

theorem awaitReadiness_keeps_heeding {resource : Resource} {readiness : Readiness}
    {latest : Option Object}
    (writes : ∀ name wait, readiness = .secret name wait →
      WritesLast latest (some (name, resource.namespaceName))) :
    (awaitReadiness resource readiness).run.Keeps heeding latest fun _ _ => True := by
  rw [awaitReadiness_run]
  cases readiness with
  | created => trivial
  | secret name wait =>
      refine ⟨⟨rfl, writes name wait rfl⟩, fun (answer : Except Poll.Error Unit) => ?_⟩
      cases answer <;> trivial
  | _ =>
      refine ⟨⟨rfl, nofun⟩, fun (answer : Except Poll.Error Unit) => ?_⟩
      cases answer <;> trivial

theorem createNamespace_heeds : workspace.createNamespace.run.Heeds := by
  intro latest
  rw [createNamespace_run]
  refine ⟨trivial, fun (cancelled : Bool) => ?_⟩
  cases cancelled with
  | true => trivial
  | false =>
      refine ⟨trivial, fun _ => ⟨trivial, fun _ => ?_⟩⟩
      exact (send_keeps_heeding _ _ _).mono fun _ _ _ => trivial

/-- An object is created, and only the secret that it writes is waited for. -/
theorem create_heeds {resource : Resource} (found : spec.resource workspace = .ok resource)
    (writes : ∀ name wait, spec.readiness = .secret name wait →
      (spec.placed workspace).Writes name resource.namespaceName) :
    (workspace.create spec).run.Heeds := by
  intro latest
  rw [create_run, found]
  refine ⟨trivial, fun (cancelled : Bool) => ?_⟩
  cases cancelled with
  | true => trivial
  | false =>
      refine ⟨trivial, fun _ => ⟨trivial, fun _ => ?_⟩⟩
      apply (send_keeps_heeding resource (spec.placed workspace) _).bind
      · rintro result _ rfl
        cases result with
        | error error => trivial
        | ok _ =>
            apply awaitReadiness_keeps_heeding
            intro name wait isSecret _ _ same
            cases same
            exact ⟨_, rfl, writes name wait isSecret⟩
      · exact fun _ _ => trivial

end Workspace

/-- The run of a check asks only for secrets that are written when both of its phases do. -/
theorem Run.run_heeds {κ : Type} {checker : Checker κ} {context : Context} {workspace : Workspace}
    (creates : (checker.create context workspace).run.Heeds)
    (converges : ∀ created, (checker.converge context workspace created).run.Heeds)
    (watched : Bool) : (run checker context workspace watched).Heeds := by
  have logs (line : Log.Line) : (Action.log line).AsksNoSecret := trivial
  have adds (text : String) : (Action.addLine text).AsksNoSecret := trivial
  have phases : (phases checker context workspace History.start).Heeds := by
    rw [phases_eq]
    apply creates.bind
    intro result
    cases result with
    | error error => exact fun _ => trivial
    | ok created => exact (converges created).bind fun _ _ => trivial
  have tearsDown := deleteAll_ends logs (fun _ => rfl) trivial workspace
  have begins : (if watched then Program.watch ⟨workspace, context.channel⟩
      else .done ()).Ends Action.AsksNoSecret fun _ => True := beginning_ends fun _ => trivial
  rw [run_eq]
  apply begins.uses.heeds.bind
  intro _
  apply (announce_ends logs adds _).uses.heeds.bind
  intro _
  apply (phases.onCrash (recover_ends logs tearsDown).uses.heeds).bind
  intro found
  have cleans := cleanUp_ends logs adds tearsDown trivial context
  exact (ending_ends logs adds cleans trivial (fun _ => rfl) trivial trivial checker.name watched
    found).uses.heeds

section

variable {α β : Type} {first : Checking α} {next : α → Checking β}

/-- The steps of a check follow one another up to the first one that fails. -/
theorem Program.Heeds.step (heeds : first.run.Heeds) (rest : ∀ value, (next value).run.Heeds) :
    (first >>= next).run.Heeds := by
  apply heeds.bind
  intro result
  cases result with
  | error error => exact fun _ => trivial
  | ok value => exact rest value

theorem Run.announce_heeds (text : String) :
    (liftM (Program.announce text) : Checking Unit).run.Heeds :=
  fun _ => ⟨trivial, fun _ => ⟨trivial, fun _ => trivial⟩⟩

end

/-! ## What the exchanges show -/

/-- Each secret for which exchanges ask is written by the certificate that was requested last. -/
def AsksForWritten (exchanges : List Exchange) : Prop :=
  ∀ before exchange after, exchanges = before ++ exchange :: after →
    WritesLast (creations before).getLast? exchange.1.secret?

theorem AsksForWritten.snoc {exchanges : List Exchange} {exchange : Exchange}
    (asks : AsksForWritten exchanges)
    (writes : WritesLast (creations exchanges).getLast? exchange.1.secret?) :
    AsksForWritten (exchanges ++ [exchange]) := by
  intro before other after parts
  rcases snoc_split parts with ⟨rfl, rfl, -⟩ | ⟨earlier, -, former⟩
  · exact writes
  · exact asks before other earlier former

/-- The exchanges say which object was requested last. -/
structure Heeded (latest : Option Object) (exchanges : List Exchange) : Prop where
  latest : (creations exchanges).getLast? = latest
  asks : AsksForWritten exchanges

theorem Heeded.create {latest : Option Object} {exchanges : List Exchange} {object : Object}
    (heeded : Heeded latest exchanges) (answer : Except Cluster.Error Cluster.Creation) :
    Heeded (some object) (exchanges ++ [⟨.create object, answer⟩]) where
  asks := heeded.asks.snoc nofun
  latest := by rw [creations_snoc_create, List.getLast?_concat]

/-- An exchange that creates nothing leaves the latest object as it is. -/
theorem Heeded.meanwhile {latest : Option Object} {exchanges : List Exchange} {exchange : Exchange}
    (heeded : Heeded latest exchanges) (writes : WritesLast latest exchange.1.secret?)
    (creates : exchange.creation? = none) : Heeded latest (exchanges ++ [exchange]) where
  asks := heeded.asks.snoc (heeded.latest ▸ writes)
  latest := by rw [creations_snoc_of_none creates, heeded.latest]

theorem Exchange.creation?_of_isAwaited {exchange : Exchange}
    (awaited : exchange.1.isAwaited = true) : exchange.creation? = none := by
  obtain ⟨request, answer⟩ := exchange
  cases request with
  | create object => cases awaited
  | _ => rfl

theorem heeded_stable : Program.Stable heeding Heeded where
  meanwhile request answer heeded aside := by
    cases request with
    | delete resource => exact heeded.meanwhile nofun rfl
    | deliver message => exact heeded.meanwhile nofun rfl
    | _ => cases aside
  act action answer heeded allowed silent := by
    cases action with
    | ask request => exact silent.elim
    | await condition => exact silent.elim
    | _ => exact heeded
  ask request answer heeded allowed := by
    cases request with
    | create object => exact heeded.create answer
    | _ => exact heeded.meanwhile allowed rfl
  unshown condition answer heeded allowed _ :=
    heeded.meanwhile allowed.2 (Exchange.creation?_of_isAwaited allowed.1)
  shown condition answer heeded allowed _ :=
    heeded.meanwhile allowed.2 (Exchange.creation?_of_isAwaited allowed.1)
  givenUp condition error heeded allowed := heeded

namespace Addon.CertManager

theorem run_heeds (settings : Settings) (context : Context) (workspace : Workspace)
    (watched : Bool) : (run (checker settings) context workspace watched).Heeds := by
  have authorityHeeds : (workspace.create (authority settings context.workspaceName)).run.Heeds :=
    create_heeds rfl fun _ _ same => by
      cases same
      exact ⟨⟨rfl, rfl⟩, rfl⟩
  have issuerHeeds : (workspace.create (issuer settings context.workspaceName)).run.Heeds :=
    create_heeds rfl nofun
  have leafHeeds : (workspace.create (leaf settings context.workspaceName)).run.Heeds :=
    create_heeds rfl fun _ _ same => by
      cases same
      exact ⟨⟨rfl, rfl⟩, rfl⟩
  apply Run.run_heeds
  · apply createNamespace_heeds.creating.step
    intro _
    apply (announce_heeds _).step
    intro _
    apply authorityHeeds.creating.step
    intro _
    apply (announce_heeds _).step
    exact fun _ => issuerHeeds.creating
  · intro _
    apply (announce_heeds _).step
    intro _
    apply leafHeeds.creating.step
    exact fun _ => announce_heeds _

end Addon.CertManager

/-- The certificates that exchanges ask to create. -/
def certificates (exchanges : List Exchange) : List Object :=
  (creations exchanges).filter fun object => object.kind = some Kind.certificate

/-- What holds of the certificates and secrets in exchanges. -/
structure Attends (exchanges : List Exchange) : Prop where
  /-- Each secret that is asked for is written by the certificate that was requested last. -/
  asks : AsksForWritten exchanges
  names : ((certificates exchanges).map fun certificate => certificate.metadata.name).Nodup
  secrets :
    ((certificates exchanges).map fun certificate =>
      certificate.text? ["spec", "secretName"]).Nodup

namespace Addon.CertManager

variable {settings : Settings} {context : Context} {workspace : Workspace} {watched : Bool}
  {exchanges : List Exchange}

theorem authorityName_ne_leafName (settings : Settings) :
    settings.authorityName ≠ settings.leafName := by
  simp [Settings.authorityName, Settings.leafName, toString]

theorem authoritySecret_ne_leafName (settings : Settings) :
    settings.authoritySecret ≠ settings.leafName := by
  simp [Settings.authoritySecret, Settings.leafName, toString]

/-- At most two certificates are requested, that of the authority first. -/
theorem certificates_sublist {nodes : Nat}
    (follows : (agenda settings context workspace).Follows nodes exchanges) :
    (certificates exchanges).Sublist
      [(authority settings context.workspaceName).object,
        (leaf settings context.workspaceName).object] :=
  follows.creations.sublist.filter _

theorem attends {nodes : Nat} {last : Program Report}
    (follows : (agenda settings context workspace).Follows nodes exchanges)
    (course : (run (checker settings) context workspace watched).Course exchanges last) :
    Attends exchanges := by
  have atFirst : Heeded none [] := ⟨rfl, fun _ _ _ parts => by simp at parts⟩
  obtain ⟨_, -, heeded⟩ :=
    course.keeps heeded_stable (run_heeds settings context workspace watched none) atFirst
  have inside := certificates_sublist follows
  refine ⟨heeded.asks, (inside.map _).nodup ?_, (inside.map _).nodup ?_⟩
  · change [some settings.authorityName, some settings.leafName].Nodup
    simpa using authorityName_ne_leafName settings
  · change [some settings.authoritySecret, some settings.leafName].Nodup
    simpa using authoritySecret_ne_leafName settings

end Addon.CertManager

namespace CommandLine.CheckSettings

end CommandLine.CheckSettings

end AddonCheck
