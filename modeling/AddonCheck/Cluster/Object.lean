import AddonCheck.Cluster.Error
import AddonCheck.Cluster.Kind
import AddonCheck.Cluster.Metadata

/-
This file holds objects of any kind: their kind, their metadata and their remaining fields.
-/

namespace AddonCheck.Cluster

/-- An object of any kind. -/
structure Object where
  kind : Option Kind
  metadata : Metadata
  /-- The fields beside the kind and the metadata. -/
  data : Json
  deriving Inhabited, Repr

namespace Object

/-- An object of a kind with a name in a namespace. -/
def named (kind : Kind) (name namespaceName : String) (data : Json) : Object :=
  { kind := some kind
    metadata := { name := some name, namespaceName := some namespaceName }
    data := data }

/-- The kind of an object needs both of its texts. -/
def kindOf? (fields : List (String × Json)) : Option Kind :=
  match Json.lookup fields "apiVersion", Json.lookup fields "kind" with
  | some (.string apiVersion), some (.string kind) => some ⟨apiVersion, kind⟩
  | _, _ => none

def reservedFields : List String := ["apiVersion", "kind", "metadata"]

/-- The fields that describe neither the kind nor the metadata. -/
def remaining (fields : List (String × Json)) : List (String × Json) :=
  fields.filter fun field => !reservedFields.contains field.1

/-- Metadata that is left out is empty; null is no metadata. -/
def metadataOf? (fields : List (String × Json)) : Option Metadata :=
  match Json.lookup fields "metadata" with
  | none => some {}
  | some value => Metadata.ofJson? value

/-- The object that a value describes. -/
def ofJson? : Json → Option Object
  | .object fields =>
      (metadataOf? fields).map fun metadata =>
        { kind := kindOf? fields, metadata := metadata, data := .object (remaining fields) }
  | _ => none

/-- The object that a value describes, which must have a kind and a name. -/
def ofTyped (value : Json) : Except Error Object :=
  match ofJson? value with
  | none => .error (.conversion "the object cannot be read")
  | some object =>
      if object.kind.isNone then .error .missingKind
      else if object.metadata.name.isNone then .error .missingName
      else .ok object

/-- The fields of a kind. -/
def kindFields : Option Kind → List (String × Json)
  | some kind => [("apiVersion", .string kind.apiVersion), ("kind", .string kind.kind)]
  | none => []

/-- The written form of an object. -/
def toJson (object : Object) : Json :=
  .object (kindFields object.kind ++ ("metadata", object.metadata.toJson)
    :: object.data.fields?.getD [])

end Object

end AddonCheck.Cluster
