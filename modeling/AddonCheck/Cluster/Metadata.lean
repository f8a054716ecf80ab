import AddonCheck.Calendar.Timestamp
import AddonCheck.Json
import AddonCheck.Word

/-
This file holds the metadata of objects. A field that is unknown or null is not kept, and a field
of the wrong type makes the metadata unreadable.
-/

namespace AddonCheck.Cluster

open Calendar

/-- The metadata of an object. The fields beside the four that the checks set are kept in their
written form. -/
structure Metadata where
  name : Option String := none
  namespaceName : Option String := none
  labels : Option (List (String × String)) := none
  annotations : Option (List (String × String)) := none
  others : List (String × Json) := []
  deriving Inhabited, Repr

namespace Metadata

/-- A field type reads a value that is not null and gives its written form. -/
abbrev FieldType := Json → Option Json

def text : FieldType
  | .string value => some (.string value)
  | _ => none

def truth : FieldType
  | .bool value => some (.bool value)
  | _ => none

/-- An integer of 64 bits. -/
def integer : FieldType
  | .integer value =>
      if Word.holds Word.signedBound64 value then some (.integer value) else none
  | _ => none

def timestamp : FieldType
  | .string value => (Timestamp.read? value).map fun instant => .string (Timestamp.text instant)
  | _ => none

def any : FieldType := some

/-- A list whose members all have one type. -/
def listOf (member : FieldType) : FieldType
  | .array items => (items.mapM member).map .array
  | _ => none

/-- The fields of a record that are known and not null. -/
def knownFields (types : List (String × FieldType)) (fields : List (String × Json)) :
    Option (List (String × Json)) :=
  types.foldr
    (fun fieldType read => do
      let rest ← read
      match Json.present fields fieldType.1 with
      | none => some rest
      | some value => return (fieldType.1, ← fieldType.2 value) :: rest)
    (some [])

/-- A record keeps its known fields. -/
def record (types : List (String × FieldType)) : FieldType
  | .object fields => (knownFields types fields).map .object
  | _ => none

/-- A record that is written with an empty text for each required text that it lacks. -/
def recordWith (required : List String) (types : List (String × FieldType)) : FieldType
  | .object fields =>
      (knownFields (required.map (·, text) ++ types) fields).map fun known =>
        let missing := required.filter fun name => (Json.lookup known name).isNone
        .object (known ++ missing.map (·, .string ""))
  | _ => none

def ownerReference : FieldType :=
  recordWith ["apiVersion", "kind", "name", "uid"]
    [("blockOwnerDeletion", truth), ("controller", truth)]

def managedFieldsEntry : FieldType :=
  record
    [("apiVersion", text), ("fieldsType", text), ("fieldsV1", any), ("manager", text),
     ("operation", text), ("subresource", text), ("time", timestamp)]

/-- The types of the fields that the checks do not set. -/
def otherTypes : List (String × FieldType) :=
  [("creationTimestamp", timestamp), ("deletionGracePeriodSeconds", integer),
   ("deletionTimestamp", timestamp), ("finalizers", listOf text), ("generateName", text),
   ("generation", integer), ("managedFields", listOf managedFieldsEntry),
   ("ownerReferences", listOf ownerReference), ("resourceVersion", text), ("selfLink", text),
   ("uid", text)]

/-- A field that may be missing or null, and that is read otherwise. -/
def optionalField {α : Type} (read : Json → Option α) (fields : List (String × Json))
    (name : String) : Option (Option α) :=
  match Json.present fields name with
  | none => some none
  | some value => (read value).map some

/-- The pairs of an object whose values are texts. -/
def texts? : Json → Option (List (String × String))
  | .object fields =>
      fields.mapM fun field => field.2.string?.map fun value => (field.1, value)
  | _ => none

/-- The metadata that a value describes. -/
def ofJson? : Json → Option Metadata
  | .object fields => do
      return {
        name := ← optionalField Json.string? fields "name"
        namespaceName := ← optionalField Json.string? fields "namespace"
        labels := ← optionalField texts? fields "labels"
        annotations := ← optionalField texts? fields "annotations"
        others := ← knownFields otherTypes fields }
  | _ => none

/-- The fields that are set. -/
def toFields (metadata : Metadata) : List (String × Json) :=
  Json.optional "annotations" (metadata.annotations.map Json.ofTexts)
    ++ Json.optional "labels" (metadata.labels.map Json.ofTexts)
    ++ Json.optional "name" (metadata.name.map .string)
    ++ Json.optional "namespace" (metadata.namespaceName.map .string)
    ++ metadata.others

def toJson (metadata : Metadata) : Json := .object metadata.toFields

end Metadata

end AddonCheck.Cluster
