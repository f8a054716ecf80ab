import AddonCheck.Cluster.Service
import Mathlib.Data.List.Nodup

/-
This file shows that an object of any kind keeps everything that a typed object is written with. The
kind, the metadata and the remaining fields are all the fields that there are, and an object without
a kind or without a name is told apart.
-/

namespace AddonCheck

namespace Json

variable {fields : List (String × Json)} {name : String} {value : Json}

theorem lookup_append (first rest : List (String × Json)) (name : String) :
    lookup (first ++ rest) name = (lookup first name).or (lookup rest name) := by
  simp only [lookup, List.find?_append]
  cases first.find? fun field => field.1 == name <;> rfl

theorem lookup_optional (key : String) (value : Option Json) (name : String) :
    lookup (optional key value) name = if key = name then value else none := by
  cases value <;> by_cases same : key = name <;> simp [lookup, optional, same]

theorem fst_of_mem_optional {key : String} {value : Option Json} {field : String × Json}
    (member : field ∈ optional key value) : field.1 = key := by
  cases value with
  | none => cases member
  | some value => rw [List.mem_singleton.mp member]

theorem lookup_eq_none (absent : name ∉ fields.map Prod.fst) : lookup fields name = none := by
  refine Option.map_eq_none_iff.mpr (List.find?_eq_none.mpr fun field member same => ?_)
  exact absent (List.mem_map.mpr ⟨field, member, by simpa using same⟩)

theorem present_eq_some_iff :
    present fields name = some value ↔ lookup fields name = some value ∧ value.isNull = false := by
  simp [present, Option.filter_eq_some_iff]

theorem mem_of_lookup (found : lookup fields name = some value) : (name, value) ∈ fields := by
  obtain ⟨⟨key, other⟩, first, rfl⟩ := Option.map_eq_some_iff.mp found
  have same : key = name := by simpa using List.find?_some first
  exact same ▸ List.mem_of_find?_eq_some first

/-- An object in which each name occurs once is one of its fields and all those of another name. -/
theorem perm_cons_filter (distinct : (fields.map Prod.fst).Nodup) (member : (name, value) ∈ fields) :
    fields.Perm ((name, value) :: fields.filter fun field => field.1 != name) := by
  induction fields with
  | nil => cases member
  | cons head rest inductionHypothesis =>
      obtain ⟨fresh, distinct⟩ := List.nodup_cons.mp distinct
      rcases List.mem_cons.mp member with rfl | later
      · have others : (rest.filter fun field => field.1 != name) = rest := by
          rw [List.filter_eq_self]
          intro field member
          have other : field.1 ≠ name := fun same => fresh (List.mem_map.mpr ⟨field, member, same⟩)
          simpa using other
        simp [others]
      · have other : head.1 ≠ name := fun same =>
          fresh (List.mem_map.mpr ⟨(name, value), later, same.symm⟩)
        rw [List.filter_cons_of_pos (by simpa using other)]
        exact ((inductionHypothesis distinct later).cons head).trans (.swap _ _ _)

end Json

namespace Cluster

namespace Metadata

theorem texts?_ofTexts (pairs : List (String × String)) :
    texts? (Json.ofTexts pairs) = some pairs := by
  change (pairs.map fun pair => (pair.1, Json.string pair.2)).mapM
    (fun field => field.2.string?.map fun value => (field.1, value)) = _
  induction pairs with
  | nil => rfl
  | cons pair rest inductionHypothesis =>
      rw [List.map_cons, List.mapM_cons, inductionHypothesis]
      rfl

/-- Of fields that are all unknown none is kept. -/
theorem knownFields_eq_nil {types : List (String × FieldType)} {fields : List (String × Json)}
    (unknown : ∀ fieldType ∈ types, fieldType.1 ∉ fields.map Prod.fst) :
    knownFields types fields = some [] := by
  induction types with
  | nil => rfl
  | cons fieldType rest inductionHypothesis =>
      have later := inductionHypothesis fun other member => unknown other (.tail _ member)
      have absent := Json.lookup_eq_none (unknown fieldType (.head _))
      unfold knownFields at later ⊢
      rw [List.foldr_cons, later]
      simp [Json.present, absent]

/-- A field that is left out when it has no value is read as it is written. -/
theorem optionalField_of_written {α : Type} {read : Json → Option α} (write : α → Json)
    {fields : List (String × Json)} {name : String} {value : Option α}
    (found : Json.lookup fields name = value.map write)
    (reads : ∀ value, read (write value) = some value)
    (nonnull : ∀ value, (write value).isNull = false) :
    optionalField read fields name = some value := by
  have present : Json.present fields name = value.map write := by
    cases value <;> simp [Json.present, found, nonnull]
  rw [optionalField, present]
  cases value with
  | none => rfl
  | some value => simp [reads]

theorem optionalField_string {fields : List (String × Json)} {name : String}
    {value : Option String} (found : Json.lookup fields name = value.map .string) :
    optionalField Json.string? fields name = some value :=
  optionalField_of_written .string found (fun _ => rfl) fun _ => rfl

theorem optionalField_texts {fields : List (String × Json)} {name : String}
    {value : Option (List (String × String))}
    (found : Json.lookup fields name = value.map Json.ofTexts) :
    optionalField texts? fields name = some value :=
  optionalField_of_written Json.ofTexts found texts?_ofTexts fun _ => rfl

/-- None of the four fields that the checks set is taken for another one. -/
theorem unknown_toFields (name namespaceName : Option String)
    (labels annotations : Option (List (String × String))) :
    knownFields otherTypes (toFields ⟨name, namespaceName, labels, annotations, []⟩) =
      some [] := by
  apply knownFields_eq_nil
  have apart : ∀ other ∈ otherTypes.map Prod.fst,
      other ∉ ["annotations", "labels", "name", "namespace"] := by decide
  intro fieldType member present
  obtain ⟨field, written, same⟩ := List.mem_map.mp present
  apply apart _ (List.mem_map_of_mem member)
  rw [← same]
  simp only [toFields, List.append_nil, List.mem_append] at written
  rcases written with ((found | found) | found) | found <;> simp [Json.fst_of_mem_optional found]

/-- Metadata with the fields that the checks set is read as it is written. -/
theorem ofJson?_toJson {metadata : Metadata} (plain : metadata.others = []) :
    ofJson? metadata.toJson = some metadata := by
  obtain ⟨name, namespaceName, labels, annotations, others⟩ := metadata
  obtain rfl : others = [] := plain
  let fields := toFields ⟨name, namespaceName, labels, annotations, []⟩
  have hasName : optionalField Json.string? fields "name" = some name :=
    optionalField_string (by simp [fields, toFields, Json.lookup_append, Json.lookup_optional])
  have hasNamespace : optionalField Json.string? fields "namespace" = some namespaceName :=
    optionalField_string (by simp [fields, toFields, Json.lookup_append, Json.lookup_optional])
  have hasLabels : optionalField texts? fields "labels" = some labels :=
    optionalField_texts (by simp [fields, toFields, Json.lookup_append, Json.lookup_optional])
  have hasAnnotations : optionalField texts? fields "annotations" = some annotations :=
    optionalField_texts (by simp [fields, toFields, Json.lookup_append, Json.lookup_optional])
  change (do
    return (⟨← optionalField Json.string? fields "name",
      ← optionalField Json.string? fields "namespace", ← optionalField texts? fields "labels",
      ← optionalField texts? fields "annotations", ← knownFields otherTypes fields⟩ : Metadata)) =
    _
  rw [hasName, hasNamespace, hasLabels, hasAnnotations, unknown_toFields]
  rfl

/-- An optional field that can be read has a value just when it is present and not null. -/
theorem isSome_of_optionalField {α : Type} {read : Json → Option α}
    {fields : List (String × Json)} {name : String} {result : Option α}
    (found : optionalField read fields name = some result) :
    result.isSome = (Json.present fields name).isSome := by
  unfold optionalField at found
  cases present : Json.present fields name with
  | none =>
      rw [present] at found
      exact congrArg Option.isSome (Option.some.inj found).symm
  | some value =>
      rw [present] at found
      obtain ⟨_, -, rfl⟩ := Option.map_eq_some_iff.mp found
      rfl

/-- Metadata that can be read has a name just when its name is neither missing nor null. -/
theorem name_isSome_iff {fields : List (String × Json)} {metadata : Metadata}
    (read : ofJson? (.object fields) = some metadata) :
    metadata.name.isSome = true ↔
      ∃ value, Json.lookup fields "name" = some value ∧ value.isNull = false := by
  obtain ⟨name, hasName, others⟩ := Option.bind_eq_some_iff.mp read
  obtain ⟨_, -, others⟩ := Option.bind_eq_some_iff.mp others
  obtain ⟨_, -, others⟩ := Option.bind_eq_some_iff.mp others
  obtain ⟨_, -, others⟩ := Option.bind_eq_some_iff.mp others
  obtain ⟨_, -, whole⟩ := Option.bind_eq_some_iff.mp others
  obtain rfl := Option.some.inj whole
  change name.isSome = true ↔ _
  rw [isSome_of_optionalField hasName, Option.isSome_iff_exists]
  simp only [Json.present_eq_some_iff]

end Metadata

namespace Object

/-- Both texts of a kind are there. -/
def HasKind (fields : List (String × Json)) : Prop :=
  ∃ apiVersion kind, Json.lookup fields "apiVersion" = some (.string apiVersion) ∧
    Json.lookup fields "kind" = some (.string kind)

/-- There is metadata with a name. A name that is null is none. -/
def HasName (fields : List (String × Json)) : Prop :=
  ∃ inner value, Json.lookup fields "metadata" = some (.object inner) ∧
    Json.lookup inner "name" = some value ∧ value.isNull = false

/-- The fields are those of the kind, the metadata, and the remaining fields of the object. -/
def Splits (fields : List (String × Json)) (object : Object) : Prop :=
  ∃ apiVersion kind value rest, object.kind = some ⟨apiVersion, kind⟩ ∧
    Metadata.ofJson? value = some object.metadata ∧ object.data = .object rest ∧
    fields.Perm (("apiVersion", .string apiVersion) :: ("kind", .string kind) ::
      ("metadata", value) :: rest)

/-- A value is kept when the object that it describes is written as this value. -/
def Kept (value : Json) : Prop := ∃ object, ofTyped value = .ok object ∧ object.toJson = value

theorem kindOf?_isSome_iff (fields : List (String × Json)) :
    (kindOf? fields).isSome = true ↔ HasKind fields := by
  unfold kindOf? HasKind
  split <;> simp_all

/-- What is written with a kind and a name is read again. -/
theorem kept_of_plain (kind : Kind) {metadata : Metadata} {rest : List (String × Json)}
    (plain : metadata.others = []) (named : metadata.name.isSome = true)
    (free : ∀ field ∈ rest, field.1 ∉ reservedFields) :
    Kept (toJson ⟨some kind, metadata, .object rest⟩) := by
  let fields := ("apiVersion", Json.string kind.apiVersion) :: ("kind", Json.string kind.kind) ::
    ("metadata", metadata.toJson) :: rest
  have hasMetadata : metadataOf? fields = some metadata := Metadata.ofJson?_toJson plain
  have others : remaining fields = rest := by
    have kept : remaining rest = rest := by
      rw [remaining, List.filter_eq_self]
      intro field member
      simpa using free field member
    exact kept
  have read : ofJson? (.object fields) = some ⟨some kind, metadata, .object rest⟩ := by
    change (metadataOf? fields).map _ = _
    rw [hasMetadata, others]
    rfl
  refine ⟨⟨some kind, metadata, .object rest⟩, ?_, rfl⟩
  change ofTyped (.object fields) = _
  simp [ofTyped, read, Option.isSome_iff_ne_none.mp named]

theorem metadata_name_isSome_iff {fields : List (String × Json)} {metadata : Metadata}
    (read : metadataOf? fields = some metadata) :
    metadata.name.isSome = true ↔ HasName fields := by
  unfold metadataOf? at read
  cases found : Json.lookup fields "metadata" with
  | none =>
      rw [found] at read
      obtain rfl := Option.some.inj read
      simp [HasName, found]
  | some value =>
      rw [found] at read
      cases value with
      | object inner => simp [Metadata.name_isSome_iff read, HasName, found]
      | _ => cases read

/-- The three kinds of fields are all that there are. -/
theorem perm_remaining {fields : List (String × Json)} (distinct : (fields.map Prod.fst).Nodup)
    {apiVersion kind metadata : Json}
    (hasVersion : Json.lookup fields "apiVersion" = some apiVersion)
    (hasKind : Json.lookup fields "kind" = some kind)
    (hasMetadata : Json.lookup fields "metadata" = some metadata) :
    fields.Perm (("apiVersion", apiVersion) :: ("kind", kind) :: ("metadata", metadata) ::
      remaining fields) := by
  have without (name : String) {fields : List (String × Json)}
      (distinct : (fields.map Prod.fst).Nodup) :
      ((fields.filter fun field => field.1 != name).map Prod.fst).Nodup :=
    distinct.sublist (List.filter_sublist.map _)
  have first := Json.perm_cons_filter distinct (Json.mem_of_lookup hasVersion)
  have second := Json.perm_cons_filter (without "apiVersion" distinct)
    (List.mem_filter.mpr ⟨Json.mem_of_lookup hasKind, by simp⟩)
  have third := Json.perm_cons_filter (without "kind" (without "apiVersion" distinct))
    (List.mem_filter.mpr ⟨List.mem_filter.mpr ⟨Json.mem_of_lookup hasMetadata, by simp⟩,
      by simp⟩)
  have rest : ((fields.filter fun field => field.1 != "apiVersion").filter fun field =>
      field.1 != "kind").filter (fun field => field.1 != "metadata") = remaining fields := by
    rw [List.filter_filter, List.filter_filter]
    apply List.filter_congr
    intro field _
    rw [Bool.eq_iff_iff]
    simp [reservedFields]
    tauto
  rw [rest] at third
  exact first.trans ((second.trans (third.cons _)).cons _)

/-- What becomes of an object with metadata that can be read. -/
structure Reads (fields : List (String × Json)) (metadata : Metadata) : Prop where
  kindless : ofTyped (.object fields) = .error .missingKind ↔ ¬ HasKind fields
  nameless : ofTyped (.object fields) = .error .missingName ↔ HasKind fields ∧ ¬ HasName fields
  whole : HasKind fields → HasName fields →
    ∃ object, ofTyped (.object fields) = .ok object ∧ object.metadata = metadata ∧
      Splits fields object

/-- The kind is looked at before the name. -/
theorem ofTyped_of_read {fields : List (String × Json)} {metadata : Metadata}
    (read : metadataOf? fields = some metadata) :
    ofTyped (.object fields) =
      if (kindOf? fields).isNone then .error .missingKind
      else if metadata.name.isNone then .error .missingName
      else .ok ⟨kindOf? fields, metadata, .object (remaining fields)⟩ := by
  simp [ofTyped, ofJson?, read]

theorem reads {fields : List (String × Json)} {metadata : Metadata}
    (distinct : (fields.map Prod.fst).Nodup) (read : metadataOf? fields = some metadata) :
    Reads fields metadata := by
  have typed := ofTyped_of_read read
  have hasKind := kindOf?_isSome_iff fields
  have hasName := metadata_name_isSome_iff read
  refine ⟨?_, ?_, fun ⟨apiVersion, kind, version, kinds⟩ named => ?_⟩
  · rw [typed, ← hasKind]
    cases kindOf? fields <;> cases metadata.name <;> simp
  · rw [typed, ← hasKind, ← hasName]
    cases kindOf? fields <;> cases metadata.name <;> simp
  · have kindFound : kindOf? fields = some ⟨apiVersion, kind⟩ := by simp [kindOf?, version, kinds]
    have nameFound : metadata.name.isNone = false := by
      simpa using hasName.mpr named
    obtain ⟨inner, value, found, -⟩ := named
    have described : Metadata.ofJson? (.object inner) = some metadata := by
      rw [metadataOf?, found] at read
      exact read
    refine ⟨⟨some ⟨apiVersion, kind⟩, metadata, .object (remaining fields)⟩, ?_, rfl,
      apiVersion, kind, .object inner, remaining fields, rfl, described, rfl,
      perm_remaining distinct version kinds found⟩
    rw [typed, kindFound, nameFound]
    rfl

end Object

/-! ## The typed objects of the checks -/

/-- The written form of a deployment whose containers are written in any way. -/
def Deployment.written (name : String) (replicas : Int) (containers : List Json) : Json :=
  .object
    (Object.kindFields Kind.deployment
      ++ [("metadata", (Metadata.labelled name).toJson),
          ("spec", .object
            [("replicas", .integer replicas),
             ("selector", .object [("matchLabels", .ofTexts (appLabels name))]),
             ("template", .object
              [("metadata", .object [("labels", .ofTexts (appLabels name))]),
               ("spec", .object [("containers", .array containers)])])])])

/-- The deployments that the checks build are among these. -/
theorem Deployment.ofContainers_toJson (name : String) (replicas : Int)
    (containers : List Container) :
    (ofContainers name replicas containers).toJson =
      written name replicas (containers.map Container.toJson) := rfl

namespace Object

/-- An object of which only a specification remains is kept. -/
theorem kept_of_spec (kind : Kind) (metadata : Metadata) (spec : Json)
    (plain : metadata.others = []) (named : metadata.name.isSome = true) :
    Kept (toJson ⟨some kind, metadata, .object [("spec", spec)]⟩) := by
  refine kept_of_plain kind plain named fun field member => ?_
  rw [List.mem_singleton.mp member]
  simp [reservedFields]

theorem kept_namespace (name : String) : Kept (namespaceJson name) :=
  kept_of_plain Kind.namespaceKind rfl rfl fun _ none => absurd none List.not_mem_nil

/-- Whatever the checks build is sent as it was built, and of every object with metadata that can be
read nothing is lost unless its kind or its name is missing. -/
theorem ofTyped_keeps :
    (∀ name, Kept (namespaceJson name)) ∧
      (∀ deployment : Deployment, Kept deployment.toJson) ∧
      (∀ name replicas containers, Kept (Deployment.written name replicas containers)) ∧
      (∀ service : Service, Kept service.toJson) ∧
      (∀ ingress : Ingress, Kept ingress.toJson) ∧
      ∀ fields metadata, (fields.map Prod.fst).Nodup → metadataOf? fields = some metadata →
        Reads fields metadata := by
  refine ⟨kept_namespace, fun deployment => ?_, fun name replicas containers => ?_,
    fun service => ?_, fun ingress => ?_, fun _ _ distinct read => reads distinct read⟩
  · exact kept_of_spec Kind.deployment (.labelled deployment.name) _ rfl rfl
  · exact kept_of_spec Kind.deployment (.labelled name) _ rfl rfl
  · exact kept_of_spec Kind.service (.labelled service.name) _ rfl rfl
  · exact kept_of_spec Kind.ingress ingress.metadata _ rfl rfl

/-- A deployment with a name, a namespace, a label and a status. -/
def sampleFields : List (String × Json) :=
  [("status", .object []), ("apiVersion", .string "apps/v1"), ("metadata", .object
    [("labels", .object [("app", .string "sample")]), ("name", .string "sample"),
     ("namespace", .string "ns"), ("uid", .null)]), ("kind", .string "Deployment")]

def sampleMetadata : Metadata :=
  { name := some "sample", namespaceName := some "ns", labels := some [("app", "sample")] }

/-- Its fields are read in whatever order they come. -/
theorem ofTyped_keeps_sample :
    (sampleFields.map Prod.fst).Nodup ∧ metadataOf? sampleFields = some sampleMetadata ∧
      Reads sampleFields sampleMetadata ∧ HasKind sampleFields ∧ HasName sampleFields :=
  ⟨by decide, rfl, ofTyped_keeps.2.2.2.2.2 sampleFields sampleMetadata (by decide) rfl,
    ⟨_, _, rfl, rfl⟩, _, _, rfl, rfl, rfl⟩

example : ofTyped (.object [("kind", "Deployment"), ("metadata", .object [])]) =
    .error .missingKind := rfl

end Object

end Cluster

end AddonCheck
