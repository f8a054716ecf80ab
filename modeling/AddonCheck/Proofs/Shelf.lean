import AddonCheck.Proofs.Store

/-
This file holds two small outsides. The one is a cluster that keeps its objects: it remembers the
paths of its objects, and the only kind that it knows is that of namespaces. The other one grants
whatever it is asked for.
-/

namespace AddonCheck

namespace Cluster

/-- The name that is written in an object. -/
def writtenName? (value : Json) : Option String := do
  (← (← value.field? "metadata").field? "name").string?

theorem writtenName?_toJson {object : Object} {name : String}
    (named : object.metadata.name = some name) : writtenName? object.toJson = some name := by
  obtain ⟨kind, metadata, data⟩ := object
  have found : Json.field? metadata.toJson "name" = some (.string name) := by
    obtain ⟨_, namespaceName, labels, annotations, others⟩ := metadata
    cases named
    cases labels <;> cases annotations <;> rfl
  have written : Json.field? (Object.toJson ⟨kind, metadata, data⟩) "metadata" =
      some metadata.toJson := by
    cases kind <;> rfl
  simp [writtenName?, written, found, Json.string?]

end Cluster

namespace Shelf

/-- The list of the kinds of the core interface. -/
def kinds : String :=
  "\x7b\"resources\":[\x7b\"name\":\"namespaces\",\"kind\":\"Namespace\"\x7d]\x7d"

/-- An answer without a readable body is described by its status alone. -/
def refusal (status : Nat) : Http.Response := ⟨status, ""⟩

def get (request : Http.Request) : Http.Response :=
  if request.path = "/api/v1" then ⟨200, kinds⟩ else refusal 404

/-- An object with a name is kept at its path, unless there is one already. -/
def post (request : Http.Request) (paths : List String) : Http.Response × List String :=
  match request.body with
  | .json value =>
      match Cluster.writtenName? value with
      | some name =>
          let path := s!"{request.path}/{name}"
          if name = "" then (refusal 422, paths)
          else if path ∈ paths then (refusal 409, paths)
          else (⟨201, "\x7b\x7d"⟩, path :: paths)
      | none => (refusal 422, paths)
  | _ => (refusal 422, paths)

def delete (request : Http.Request) (paths : List String) : Http.Response × List String :=
  if request.path ∈ paths then
    (⟨200, "\x7b\"kind\":\"Status\"\x7d"⟩, paths.filter fun path => request.path ≠ path)
  else (refusal 404, paths)

/-- Every request is answered. -/
def exchange : Http.Exchange (List String) := fun request paths =>
  match request.method with
  | .get => (some (get request), paths)
  | .post => let (response, paths) := post request paths; (some response, paths)
  | .delete => let (response, paths) := delete request paths; (some response, paths)

/-- Beside the cluster there is a chat room that takes every message. -/
def peers : Peers (List String) where
  cluster := exchange
  lookup _ paths := ({ answer := .error (.io "no answer") }, paths)
  listing bucket keyStart paths :=
    ({ answer := .error (.listing bucket keyStart none "no answer") }, paths)
  metrics _ _ _ paths := ({ answer := .error (.transport "no answer") }, paths)
  deliver _ paths := ({ answer := .ok () }, paths)
  evaluate _ paths := ({ answer := .fatal "no answer" }, paths)

theorem post_content {object : Cluster.Object} {name path : String}
    (named : object.metadata.name = some name) (paths : List String) :
    let after := (post { method := .post, path := path, body := .json object.toJson } paths).2
    {stored | stored ∈ after} = {stored | stored ∈ paths} ∨
      name ≠ "" ∧
        {stored | stored ∈ after} = insert s!"{path}/{name}" {stored | stored ∈ paths} := by
  simp only [post, Cluster.writtenName?_toJson named]
  split
  · exact .inl rfl
  · next nonempty =>
      split
      · exact .inl rfl
      · refine .inr ⟨nonempty, Set.ext fun stored => ?_⟩
        simp

theorem delete_content (path : String) (body : Http.Body) (paths : List String) :
    let after := (delete { method := .delete, path := path, body := body } paths).2
    {stored | stored ∈ after} = {stored ∈ {stored | stored ∈ paths} | path ≠ stored} := by
  apply Set.ext
  intro stored
  unfold delete
  split
  · simp
  · next absent =>
      constructor
      · intro present
        refine ⟨present, ?_⟩
        rintro rfl
        exact absent present
      · exact fun kept => kept.1

/-- The cluster keeps its objects. -/
def store : peers.Store where
  content paths := {path | path ∈ paths}
  collection? kind := ((Cluster.Api.discover exchange kind).run []).1
  listed _ _ := rfl
  read request paths reads := by
    have kept : ((exchange request).run paths).2 = paths := by
      change (exchange request paths).2 = paths
      unfold exchange
      rw [reads]
    rw [show peers.cluster = exchange from rfl, kept]
  posted _ _ _ paths named := post_content named paths
  erased path paths := delete_content path _ paths
  lookup _ _ := rfl
  listing _ _ _ := rfl
  metrics _ _ _ _ := rfl
  deliver _ _ := rfl
  evaluate _ _ := rfl

end Shelf

/-- Whatever is asked for is granted at once, and every deletion is answered alike. -/
def grantingOutside (deletion : Except Cluster.Error Cluster.Deletion) : Outside Unit where
  reply request state := ({ answer := grant request }, state)
where
  grant : (request : Request) → request.Answer
    | .create _ => .ok .created
    | .delete _ => deletion
    | .nodes _ => .ok []
    | .deployment _ _ => .ok none
    | .ingress _ _ => .ok none
    | .secret _ _ => .ok true
    | .lookup _ => .ok []
    | .listing _ _ => .ok []
    | .metrics _ _ _ => .error (.transport "no answer")
    | .deliver _ => .ok ()
    | .evaluate _ => .converged

end AddonCheck
