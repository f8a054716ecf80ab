import AddonCheck.Cluster.Answer

/-
This file asks a cluster over exchanges of requests and responses. Where objects of a kind are kept
is found out first, from the list of kinds that the cluster itself gives.
-/

namespace AddonCheck.Cluster

/-- Where the objects of a kind are kept. -/
structure Collection where
  /-- The path of the version of the interface. -/
  interface : String
  name : String
  /-- Whether the objects lie in namespaces. -/
  namespaced : Bool
  deriving DecidableEq, Repr, Inhabited

namespace Collection

/-- The path of a version. A version without a group belongs to the core. -/
def interfacePath (apiVersion : String) : String :=
  if apiVersion.toList.contains '/' then "/apis/" ++ apiVersion else "/api/" ++ apiVersion

/-- The collection that an entry of a list of kinds describes, when it is of a given kind. -/
def ofListed? (kind : Kind) (entry : Json) : Option Collection := do
  let name ← (← entry.field? "name").string?
  let entryKind ← (← entry.field? "kind").string?
  let namespaced := ((entry.field? "namespaced").bind Json.bool?).getD false
  if entryKind == kind.kind && !name.toList.contains '/' then
    some ⟨interfacePath kind.apiVersion, name, namespaced⟩
  else none

/-- The collection of a kind in a list of kinds. -/
def find? (kind : Kind) : Answer → Option Collection
  | .found value => do
      let entries ← (← value.field? "resources").array?
      entries.findSome? (ofListed? kind)
  | _ => none

/-- The path of the objects of a namespace; a collection without namespaces has one path. -/
def path (collection : Collection) (namespaceName : String) : String :=
  if collection.namespaced then
    s!"{collection.interface}/namespaces/{namespaceName}/{collection.name}"
  else s!"{collection.interface}/{collection.name}"

def deployments : Collection := ⟨"/apis/apps/v1", "deployments", true⟩

def ingresses : Collection := ⟨"/apis/networking.k8s.io/v1", "ingresses", true⟩

def secrets : Collection := ⟨"/api/v1", "secrets", true⟩

def nodes : Collection := ⟨"/api/v1", "nodes", false⟩

end Collection

namespace Api

variable {σ : Type}

/-- Sends a request and reads what comes back. -/
def send (exchange : Http.Exchange σ) (request : Http.Request) : StateM σ Answer := do
  return Answer.ofResponse (← exchange request)

/-- Finds out where the objects of a kind are kept. -/
def discover (exchange : Http.Exchange σ) (kind : Kind) : StateM σ (Option Collection) := do
  let answer ← send exchange
    { method := .get, path := Collection.interfacePath kind.apiVersion }
  return Collection.find? kind answer

/-- Asks for the creation of an object. -/
def create (exchange : Http.Exchange σ) (object : Object) : StateM σ (Except Error Creation) := do
  match object.kind with
  | none => return .error .missingKind
  | some kind =>
      match ← discover exchange kind with
      | none => return .error (.unknownKind kind.apiVersion kind.kind)
      | some collection =>
          let answer ← send exchange
            { method := .post
              path := collection.path (object.metadata.namespaceName.getD "")
              body := .json object.toJson }
          return answer.creation

/-- A deletion waits for the objects that the object owns. -/
def deletionBody : Json := .object [("propagationPolicy", .string "Foreground")]

/-- An empty name is not sent. -/
def emptyName : Error := .client "a name is required"

/-- Asks for the deletion of an object. -/
def delete (exchange : Http.Exchange σ) (resource : Resource) :
    StateM σ (Except Error Deletion) := do
  match ← discover exchange resource.kind with
  | none => return .error (.unknownKind resource.kind.apiVersion resource.kind.kind)
  | some collection =>
      if resource.name.isEmpty then return .error emptyName
      else
        let path := collection.path resource.namespaceName
        let answer ← send exchange
          { method := .delete
            path := s!"{path}/{resource.name}"
            body := .json deletionBody }
        return answer.deletion

/-- Reads one object of a namespace. -/
def get {α : Type} (exchange : Http.Exchange σ) (collection : Collection) (read : Json → Option α)
    (name namespaceName : String) : StateM σ (Except Error (Option α)) := do
  if name.isEmpty then return .error emptyName
  else
    let answer ← send exchange
      { method := .get, path := s!"{collection.path namespaceName}/{name}" }
    return answer.reading read

def deployment (exchange : Http.Exchange σ) (name namespaceName : String) :
    StateM σ (Except Error (Option Rollout)) :=
  get exchange Collection.deployments Answer.rollout? name namespaceName

def ingress (exchange : Http.Exchange σ) (name namespaceName : String) :
    StateM σ (Except Error (Option (List (Option String)))) :=
  get exchange Collection.ingresses Answer.hostnames? name namespaceName

def secret (exchange : Http.Exchange σ) (name namespaceName : String) :
    StateM σ (Except Error Bool) := do
  return (← get exchange Collection.secrets Answer.secret? name namespaceName).map Option.isSome

/-- Reads the names of the nodes that a selector finds. -/
def nodes (exchange : Http.Exchange σ) (selector : String) :
    StateM σ (Except Error (List String)) := do
  let query := if selector.isEmpty then "" else Http.form [("labelSelector", selector)]
  let answer ← send exchange
    { method := .get, path := Collection.nodes.path "", query := query }
  return answer.listing Answer.nodes?

end Api

end AddonCheck.Cluster
