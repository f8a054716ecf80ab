import AddonCheck.Cluster.Resource
import AddonCheck.Http
import AddonCheck.Json.Written
import AddonCheck.Word

/-
This file reads what a cluster answers. From status 400 on the answer is a refusal, which describes
itself when it can be read; below it is what was asked for.
-/

namespace AddonCheck.Cluster

open Json (Written)

mutual

/-- The value that a written value stands for. Of a name that is repeated, the last value counts. -/
def plainValue? : Written → Option Json
  | .null => some .null
  | .bool value => some (.bool value)
  | .number value => value
  | .text value => value.map .string
  | .array items => (plainItems? items).map .array
  | .object fields => (plainFields? fields).map .object

/-- The values of the items of an array. -/
def plainItems? : List Written → Option (List Json)
  | [] => some []
  | item :: rest => do return (← plainValue? item) :: (← plainItems? rest)

/-- The values of the fields of an object. -/
def plainFields? : List (Option String × Written) → Option (List (String × Json))
  | [] => some []
  | (name, value) :: rest => do
      let name ← name
      let value ← plainValue? value
      let rest ← plainFields? rest
      return if rest.any fun field => field.1 == name then rest else (name, value) :: rest

end

/-- The value that a body writes. -/
def bodyValue? (body : String) : Option Json := do plainValue? (← Written.read? body)

/-- What a cluster says about a request that it refuses. -/
structure Refusal where
  code : Nat
  message : String
  reason : String
  deriving DecidableEq, Repr, Inhabited

namespace Refusal

/-- A text that may be missing. -/
def textOr (fields : List (String × Json)) (name : String) : Option String :=
  (Metadata.optionalField Json.string? fields name).map fun text => text.getD ""

/-- A status is a number of 16 bits. -/
def status? : Json → Option Nat
  | .integer value => if 0 ≤ value ∧ value < Word.bound16 then some value.toNat else none
  | _ => none

/-- The refusal that a value describes; every part of it may be missing. -/
def ofJson? (value : Json) : Option Refusal := do
  let fields ← value.fields?
  return {
    code := (← Metadata.optionalField status? fields "code").getD 0
    message := ← textOr fields "message"
    reason := ← textOr fields "reason" }

/-- The refusal of a response. A body that describes none is itself the message. -/
def ofResponse (response : Http.Response) : Refusal :=
  match (bodyValue? response.body).bind ofJson? with
  | some refusal => refusal
  | none => ⟨response.status, response.body, "Failed to parse error data"⟩

def error (refusal : Refusal) : Error := .refused refusal.code refusal.message

end Refusal

/-- What a response brings: a refusal, or a value that can be read. -/
inductive Answer where
  | refused (answer : Refusal)
  | found (answer : Json)
  | unreadable

/-- No response and a body that cannot be read are the same to who asked. -/
def Answer.ofResponse : Option Http.Response → Answer
  | none => unreadable
  | some response =>
      if 400 ≤ response.status then .refused (Refusal.ofResponse response)
      else
        match bodyValue? response.body with
        | some value => .found value
        | none => unreadable

/-- The error of an answer that cannot be read. -/
def Answer.unreadableError : Error := .client "no readable answer"

namespace Answer

/-- An answer to a creation. -/
def creation : Answer → Except Error Creation
  | refused answer =>
      if answer.code = 409 then .ok .alreadyExists else .error answer.error
  | found answer =>
      if (Object.ofJson? answer).isSome then .ok .created else .error unreadableError
  | unreadable => .error unreadableError

/-- A deletion is answered with its outcome or with the object. -/
def describesDeletion (value : Json) : Bool :=
  if (value.field? "kind").bind Json.string? == some "Status" then
    (Refusal.ofJson? value).isSome
  else (value.field? "metadata").isSome && (Object.ofJson? value).isSome

/-- An answer to a deletion. -/
def deletion : Answer → Except Error Deletion
  | refused answer => if answer.code = 404 then .ok .notFound else .error answer.error
  | found answer => if describesDeletion answer then .ok .deleted else .error unreadableError
  | unreadable => .error unreadableError

/-- Whether a value may be an object of a kind: what it says of its kind is right. -/
def isOfKind (kind : Kind) (fields : List (String × Json)) : Bool :=
  let agrees (name expected : String) : Bool :=
    match Json.lookup fields name with
    | some value => value.string? == some expected
    | none => true
  agrees "apiVersion" kind.apiVersion && agrees "kind" kind.kind

/-- The object that a value describes, read by a reader of its fields. -/
def objectOf? {α : Type} (kind : Kind) (read : List (String × Json) → Option α)
    (value : Json) : Option α := do
  let fields ← value.fields?
  let _ ← Object.metadataOf? fields
  if isOfKind kind fields then read fields else none

/-- An answer to a reading; an object that is not there is no error. -/
def reading {α : Type} (read : Json → Option α) : Answer → Except Error (Option α)
  | refused answer =>
      if answer.reason = "NotFound" then .ok none else .error answer.error
  | found answer =>
      match read answer with
      | some value => .ok (some value)
      | none => .error unreadableError
  | unreadable => .error unreadableError

/-- An integer of 32 bits. -/
def count? : Json → Option Int
  | .integer value =>
      if Word.holds Word.signedBound32 value then some value else none
  | _ => none

/-- The fields of a part that may be missing. -/
def part? (fields : List (String × Json)) (name : String) : Option (List (String × Json)) :=
  (Metadata.optionalField Json.fields? fields name).map fun part => part.getD []

def rollout? (value : Json) : Option Rollout :=
  objectOf? Kind.deployment
    (fun fields => do
      let spec ← part? fields "spec"
      let status ← part? fields "status"
      return {
        desired := ← Metadata.optionalField count? spec "replicas"
        ready := ← Metadata.optionalField count? status "readyReplicas" })
    value

/-- The host names of the entries of a load balancer. -/
def hostnames? (value : Json) : Option (List (Option String)) :=
  objectOf? Kind.ingress
    (fun fields => do
      let status ← part? fields "status"
      let balancer ← part? status "loadBalancer"
      let entries := (← Metadata.optionalField Json.array? balancer "ingress").getD []
      entries.mapM fun entry => do
        Metadata.optionalField Json.string? (← entry.fields?) "hostname")
    value

def secret? (value : Json) : Option Unit :=
  objectOf? ⟨"v1", "Secret"⟩ (fun _ => some ()) value

/-- The names of the nodes of a list; a node without a name has an empty one. -/
def nodes? (value : Json) : Option (List String) := do
  let items ← (← value.field? "items").array?
  items.mapM fun item => do
    let metadata ← Object.metadataOf? (← item.fields?)
    return metadata.name.getD ""

/-- An answer to a listing. -/
def listing {α : Type} (read : Json → Option α) : Answer → Except Error α
  | refused answer => .error answer.error
  | found answer =>
      match read answer with
      | some value => .ok value
      | none => .error unreadableError
  | unreadable => .error unreadableError

end Answer

end AddonCheck.Cluster
