import AddonCheck.Proofs.Planned
import AddonCheck.Proofs.Typed

/-
This file reads off the objects of a plan what they refer to. Each reference is to an object that is
requested before it, and a secret has been seen before an issuer signs with it.
-/

namespace AddonCheck

open Cluster

/-- The value at the end of a path of names. -/
def Json.at? (value : Json) (path : List String) : Option Json := path.foldlM Json.field? value

/-! ## What is written in an object -/

namespace Cluster

/-- An ingress leads a host to a port of a service. -/
structure Route where
  host : String
  serviceName : String
  port : Int
  deriving DecidableEq, Repr

/-- The port of a service, and the port of the pods to which it leads. -/
structure Target where
  port : Int
  podPort : Int
  deriving DecidableEq, Repr

def Route.ofPath? (host : String) (path : Json) : Option Route := do
  return {
    host := host
    serviceName := ← (path.at? ["backend", "service", "name"]).bind Json.string?
    port := ← (path.at? ["backend", "service", "port", "number"]).bind Json.integer? }

/-- The routes of one rule of an ingress. -/
def Route.ofRule? (rule : Json) : Option (List Route) := do
  let host ← (rule.at? ["host"]).bind Json.string?
  let paths ← (rule.at? ["http", "paths"]).bind Json.array?
  paths.mapM (ofPath? host)

def Target.ofJson? (port : Json) : Option Target := do
  return {
    port := ← (port.at? ["port"]).bind Json.integer?
    podPort := ← (port.at? ["targetPort"]).bind Json.integer? }

/-- The ports that a container listens on. -/
def Container.ports? (container : Json) : Option (List Int) :=
  match container.at? ["ports"] with
  | none => some []
  | some ports =>
      ports.array?.bind fun ports =>
        ports.mapM fun port => (port.at? ["containerPort"]).bind Json.integer?

namespace Object

variable (object : Object)

def text? (path : List String) : Option String := (object.data.at? path).bind Json.string?

def pairs? (path : List String) : Option (List (String × String)) :=
  (object.data.at? path).bind Metadata.texts?

def items? (path : List String) : Option (List Json) := (object.data.at? path).bind Json.array?

/-- The routes of an ingress. -/
def routes? : Option (List Route) := do
  let rules ← object.items? ["spec", "rules"]
  return (← rules.mapM Route.ofRule?).flatten

/-- The ports of a service. -/
def targets? : Option (List Target) := do
  (← object.items? ["spec", "ports"]).mapM Target.ofJson?

/-- The labels of the pods of a deployment. -/
def podLabels? : Option (List (String × String)) :=
  object.pairs? ["spec", "template", "metadata", "labels"]

/-- The ports that the containers of a deployment listen on. -/
def podPorts? : Option (List Int) := do
  let containers ← object.items? ["spec", "template", "spec", "containers"]
  return (← containers.mapM Container.ports?).flatten

/-- The host name that an ingress publishes. -/
def publishedHost? : Option String :=
  object.metadata.annotations.bind fun pairs =>
    (pairs.find? fun pair => pair.1 = Ingress.hostnameKey).map (·.2)

/-! ## What an object refers to -/

/-- The object is of a kind, in a namespace. -/
structure IsIn (kind : Kind) (namespaceName : String) : Prop where
  kind : object.kind = some kind
  place : object.metadata.namespaceName = some namespaceName

/-- The certificate is written to a secret. -/
structure Writes (secret namespaceName : String) : Prop where
  isIn : object.IsIn Kind.certificate namespaceName
  secret : object.text? ["spec", "secretName"] = some secret

/-- The certificate is one of an authority. -/
def IsAuthority : Prop := (object.data.at? ["spec", "isCA"]).bind Json.bool? = some true

/-- The certificate is to be signed by an issuer of a kind. -/
structure IssuedBy (kind name : String) : Prop where
  kind : object.text? ["spec", "issuerRef", "kind"] = some kind
  name : object.text? ["spec", "issuerRef", "name"] = some name

/-- The labels for which the object looks are found on the pods of a deployment. -/
def FindsPods (path : List String) (deployment : Object) : Prop :=
  ∃ selector labels, object.pairs? path = some selector ∧ selector ≠ [] ∧
    deployment.podLabels? = some labels ∧ selector ⊆ labels

/-- The service leads to ports on which the pods of a deployment listen. -/
def ReachesPods (deployment : Object) : Prop :=
  ∃ targets ports, object.targets? = some targets ∧ targets ≠ [] ∧
    deployment.podPorts? = some ports ∧ ∀ target ∈ targets, target.podPort ∈ ports

/-- The service has the name and the port to which a route leads. -/
def Takes (route : Route) : Prop :=
  object.metadata.name = some route.serviceName ∧
    ∃ targets, object.targets? = some targets ∧ ∃ target ∈ targets, target.port = route.port

end Object

end Cluster

section

variable (requested : List Object) (appeared : String → String → Prop)

/-- What the object refers to has been requested before it. Only a certificate authority is signed
by an issuer that belongs to the cluster. -/
inductive Resolves : Object → Prop where
  | space {object : Object} (kind : object.kind = some Kind.namespaceKind) : Resolves object
  | deployment {object : Object} {namespaceName : String}
      (isIn : object.IsIn Kind.deployment namespaceName)
      (finds : object.FindsPods ["spec", "selector", "matchLabels"] object) : Resolves object
  | service {object deployment : Object} {namespaceName : String}
      (isIn : object.IsIn Kind.service namespaceName) (member : deployment ∈ requested)
      (deploys : deployment.IsIn Kind.deployment namespaceName)
      (finds : object.FindsPods ["spec", "selector"] deployment)
      (reaches : object.ReachesPods deployment) : Resolves object
  | ingress {object : Object} {namespaceName : String} {routes : List Route}
      (isIn : object.IsIn Kind.ingress namespaceName) (leads : object.routes? = some routes)
      (nonempty : routes ≠ [])
      (publishes : ∀ route ∈ routes, object.publishedHost? = some route.host)
      (resolves : ∀ route ∈ routes, ∃ service ∈ requested,
        service.IsIn Kind.service namespaceName ∧ service.Takes route) : Resolves object
  | authority {object : Object} {namespaceName : String}
      (isIn : object.IsIn Kind.certificate namespaceName) (isAuthority : object.IsAuthority)
      (issued : object.IssuedBy "ClusterIssuer" Addon.CertManager.clusterIssuer) : Resolves object
  | issuer {object authority : Object} {secret namespaceName : String}
      (isIn : object.IsIn Kind.issuer namespaceName) (member : authority ∈ requested)
      (isAuthority : authority.IsAuthority) (writes : authority.Writes secret namespaceName)
      (signs : object.text? ["spec", "ca", "secretName"] = some secret)
      (seen : appeared secret namespaceName) : Resolves object
  | certificate {object issuer : Object} {name namespaceName : String}
      (isIn : object.IsIn Kind.certificate namespaceName) (member : issuer ∈ requested)
      (issues : issuer.IsIn Kind.issuer namespaceName) (named : issuer.metadata.name = some name)
      (issued : object.IssuedBy "Issuer" name) : Resolves object

end

/-! ## Along a plan -/

/-- The secret is among what has been seen. -/
def Awaits (milestones : List Milestone) (secret namespaceName : String) : Prop :=
  .seen (.secret secret namespaceName) ∈ milestones

/-- All references of the objects of a plan are resolved, when a part of it has been done. -/
def ResolvesFrom : List Milestone → List Milestone → Prop
  | _, [] => True
  | done, milestone :: rest =>
      (∀ object ∈ milestone.object?, Resolves (objects done) (Awaits done) object) ∧
        ResolvesFrom (done ++ [milestone]) rest

/-- The references of an object of the plan are resolved by what comes before it. -/
theorem ResolvesFrom.resolves {done before rest : List Milestone} {object : Object}
    (resolves : ResolvesFrom done (before ++ .created object :: rest)) :
    Resolves (objects (done ++ before)) (Awaits (done ++ before)) object := by
  induction before generalizing done with
  | nil => simpa using resolves.1 object rfl
  | cons milestone before inductionHypothesis =>
      simpa using inductionHypothesis resolves.2

section

variable {requested : List Object} {appeared : String → String → Prop}

end

namespace Addon

end Addon

end AddonCheck
