import AddonCheck.Peers
import AddonCheck.Proofs.Inquiry

/-
This file says what can be read off the objects that a cluster shows. The fields are those of the
JSON of the object, as the cluster sends it: a field that is missing or null counts for nothing, and
an object with a field of the wrong type cannot be read at all.
-/

namespace AddonCheck

namespace Json

/-- What stands at the end of a path of names, if anything does. Only an object has fields. -/
def Leads : Json → List String → Option Json → Prop
  | value, [], found => found = some value
  | value, name :: rest, found => ∃ fields, value = .object fields ∧
      match present fields name with
      | none => found = none
      | some part => part.Leads rest found

/-- A whole number of 32 bits stands at the end of a path, or nothing does and it is the usual
one. -/
def Counts (value : Json) (path : List String) (usual count : Int) : Prop :=
  (value.Leads path none ∧ count = usual) ∨
    (value.Leads path (some (.integer count)) ∧ -2147483648 ≤ count ∧ count < 2147483648)

end Json

namespace Cluster

/-! ## Objects that are ready -/

/-- A value can be an object of a kind: its metadata can be read, and what it says of its kind is
right. -/
structure IsObjectOf (kind : Kind) (value : Json) : Prop where
  metadata : ∃ fields, value = .object fields ∧ (Object.metadataOf? fields).isSome = true
  apiVersion : ∀ found ∈ value.field? "apiVersion", found = .string kind.apiVersion
  kind : ∀ found ∈ value.field? "kind", found = .string kind.kind

/-- As many pods of a deployment are ready as it asks for. Pods that are not counted are none, and a
deployment that does not say how many it needs asks for one. -/
def IsRolledOut (value : Json) : Prop :=
  IsObjectOf ⟨"apps/v1", "Deployment"⟩ value ∧
    ∃ count, value.Counts ["status", "readyReplicas"] 0 count ∧
      value.Counts ["spec", "replicas"] 1 count

/-- Some entry of the load balancer of an ingress has a host name, and all of them can be read. -/
def IsPublished (value : Json) : Prop :=
  IsObjectOf ⟨"networking.k8s.io/v1", "Ingress"⟩ value ∧
    ∃ entries, value.Leads ["status", "loadBalancer", "ingress"] (some (.array entries)) ∧
      (∀ entry ∈ entries, ∃ name : Option String,
        entry.Leads ["hostname"] (name.map Json.string)) ∧
      ∃ entry ∈ entries, ∃ name, entry.Leads ["hostname"] (some (.string name)) ∧ name ≠ ""

/-! ## Refusals -/

/-- A value describes a refusal. A number that is missing is zero, and a text that is missing is
empty. -/
structure Refusal.IsIn (refusal : Refusal) (value : Json) : Prop where
  code : (value.Leads ["code"] none ∧ refusal.code = 0) ∨
    (value.Leads ["code"] (some (.integer refusal.code)) ∧ refusal.code < 65536)
  message : (value.Leads ["message"] none ∧ refusal.message = "") ∨
    value.Leads ["message"] (some (.string refusal.message))
  reason : (value.Leads ["reason"] none ∧ refusal.reason = "") ∨
    value.Leads ["reason"] (some (.string refusal.reason))

/-- A response refuses a request. Its body describes the refusal, or else it is the message. -/
def Refusal.IsAnsweredBy (refusal : Refusal) (response : Http.Response) : Prop :=
  400 ≤ response.status ∧
    ((∃ value ∈ bodyValue? response.body, refusal.IsIn value) ∨
      ((∀ value ∈ bodyValue? response.body, ∀ other : Refusal, ¬ other.IsIn value) ∧
        refusal = ⟨response.status, response.body, "Failed to parse error data"⟩))

/-- An answer that does not allow the request, and its text. -/
def Denies {α : Type} (answer : Except Error α) (reason : String) : Prop :=
  ∃ error, answer = .error error ∧ IsForbidden error.status? ∧ reason = error.message

theorem denies_error_iff {α : Type} {error : Error} {reason : String} :
    Denies (.error error : Except Error α) reason ↔
      IsForbidden error.status? ∧ reason = error.message := by
  simp [Denies]

/-! ## Looks at objects -/

/-- Where an object is looked at, and what it has to show. -/
structure Inspection where
  name : String
  path : String
  isMet : Json → Prop

namespace Inspection

variable {τ : Type} (inspection : Inspection)

/-- What the cluster responds to a look. -/
def response? (cluster : Http.Exchange τ) (state : τ) : Option Http.Response :=
  ((cluster { method := .get, path := inspection.path }).run state).1

/-- The response brings an object that shows what it has to. -/
def IsMetBy (response? : Option Http.Response) : Prop :=
  ∃ response ∈ response?, response.status < 400 ∧
    ∃ value ∈ bodyValue? response.body, inspection.isMet value

/-- The response does not allow the look, for a reason. An object that is not there is no error. -/
def IsDeniedBy (response? : Option Http.Response) (reason : String) : Prop :=
  ∃ response ∈ response?, ∃ refusal : Refusal, refusal.IsAnsweredBy response ∧
    refusal.reason ≠ "NotFound" ∧ (refusal.code = 401 ∨ refusal.code = 403) ∧
    reason = s!"the api-server answered with status {refusal.code}: `{refusal.message}`"

end Inspection

/-! ## How fields are read -/

namespace Answer

variable {α : Type} {read : Json → Option α} {fields : List (String × Json)} {name : String}

theorem leads_cons {rest : List String} {found : Option Json} :
    (Json.object fields).Leads (name :: rest) found ↔
      match Json.present fields name with
      | none => found = none
      | some part => part.Leads rest found := by
  simp [Json.Leads]

/-- The last name of a path names a field. -/
theorem leads_single {found : Option Json} :
    (Json.object fields).Leads [name] found ↔ found = Json.present fields name := by
  rw [leads_cons]
  cases Json.present fields name <;> simp [Json.Leads]

/-- A part that is missing has no fields, and every other part must be an object. -/
theorem leads_part_iff {inner : String} {rest : List String} {found : Option Json} :
    (Json.object fields).Leads (name :: inner :: rest) found ↔
      ∃ part, part? fields name = some part ∧ (Json.object part).Leads (inner :: rest) found := by
  have empty : Json.present [] inner = none := rfl
  rw [leads_cons]
  unfold part? Metadata.optionalField
  cases Json.present fields name with
  | none => simp [leads_cons, empty]
  | some value =>
      cases value <;> simp [Json.Leads, Json.fields?]

theorem optionalField_eq_some_iff {found : Option α} :
    Metadata.optionalField read fields name = some found ↔
      (Json.present fields name = none ∧ found = none) ∨
        ∃ value result, Json.present fields name = some value ∧ read value = some result ∧
          found = some result := by
  unfold Metadata.optionalField
  cases Json.present fields name with
  | none => simp [eq_comm]
  | some value => simp [eq_comm]

/-- A field counts as its value, or as the usual one when it is missing. -/
theorem usual_iff {usual result : α} :
    (Metadata.optionalField read fields name).map (·.getD usual) = some result ↔
      ((Json.object fields).Leads [name] none ∧ result = usual) ∨
        ∃ value, (Json.object fields).Leads [name] (some value) ∧ read value = some result := by
  simp only [Option.map_eq_some_iff, optionalField_eq_some_iff, leads_single]
  constructor
  · intro reads
    obtain ⟨found, ⟨missing, rfl⟩ | ⟨value, _, present, reads, rfl⟩, rfl⟩ := reads
    · exact .inl ⟨missing.symm, rfl⟩
    · exact .inr ⟨value, present.symm, reads⟩
  · intro leads
    rcases leads with ⟨missing, rfl⟩ | ⟨value, present, reads⟩
    · exact ⟨none, .inl ⟨missing.symm, rfl⟩, rfl⟩
    · exact ⟨some result, .inr ⟨value, result, present.symm, reads, rfl⟩, rfl⟩

theorem string?_eq_some_iff {value : Json} {text : String} :
    value.string? = some text ↔ value = .string text := by
  cases value <;> simp [Json.string?]

theorem count?_eq_some_iff {value : Json} {count : Int} :
    count? value = some count ↔
      value = .integer count ∧ -2147483648 ≤ count ∧ count < 2147483648 := by
  cases value with
  | integer found =>
      have fits : Word.holds Word.signedBound32 found = true ↔
          -2147483648 ≤ found ∧ found < 2147483648 :=
        Bool.and_eq_true_iff.trans (and_congr decide_eq_true_iff decide_eq_true_iff)
      simp only [count?, Option.ite_none_right_eq_some, fits, Option.some.injEq,
        Json.integer.injEq]
      constructor
      · intro reads
        obtain ⟨bounds, rfl⟩ := reads
        exact ⟨rfl, bounds⟩
      · intro reads
        obtain ⟨rfl, bounds⟩ := reads
        exact ⟨bounds, rfl⟩
  | _ => simp [count?]

/-- What an object of a kind says of its kind is the kind. -/
theorem isOfKind_iff {kind : Kind} :
    isOfKind kind fields = true ↔
      (∀ found ∈ (Json.object fields).field? "apiVersion", found = .string kind.apiVersion) ∧
        ∀ found ∈ (Json.object fields).field? "kind", found = .string kind.kind := by
  simp only [isOfKind, Bool.and_eq_true]
  change _ ↔ (∀ found ∈ Json.lookup fields "apiVersion", found = .string kind.apiVersion) ∧
    ∀ found ∈ Json.lookup fields "kind", found = .string kind.kind
  apply and_congr
  · cases Json.lookup fields "apiVersion" with
    | none => simp
    | some value => simp [string?_eq_some_iff]
  · cases Json.lookup fields "kind" with
    | none => simp
    | some value => simp [string?_eq_some_iff]

theorem objectOf?_eq_some_iff {kind : Kind} {read : List (String × Json) → Option α} {value : Json}
    {found : α} :
    objectOf? kind read value = some found ↔
      IsObjectOf kind value ∧ ∃ fields, value = .object fields ∧ read fields = some found := by
  have described : ∀ fields, value = .object fields →
      (IsObjectOf kind value ↔
        (Object.metadataOf? fields).isSome = true ∧ isOfKind kind fields = true) := by
    intro fields isObject
    subst isObject
    rw [isOfKind_iff]
    constructor
    · intro object
      obtain ⟨_, same, readable⟩ := object.metadata
      cases same
      exact ⟨readable, object.apiVersion, object.kind⟩
    · intro object
      exact ⟨⟨fields, rfl, object.1⟩, object.2.1, object.2.2⟩
  constructor
  · intro reads
    simp only [objectOf?, bind, Option.bind_eq_some_iff] at reads
    obtain ⟨fields, isObject, metadata, readable, reads⟩ := reads
    split at reads
    · next agrees =>
        have same : value = .object fields := by
          cases value <;> cases isObject
          rfl
        have isSome : (Object.metadataOf? fields).isSome = true := by simp [readable]
        exact ⟨(described fields same).mpr ⟨isSome, agrees⟩, fields, same, reads⟩
    · cases reads
  · intro object
    obtain ⟨object, fields, rfl, reads⟩ := object
    obtain ⟨readable, agrees⟩ := (described fields rfl).mp object
    obtain ⟨metadata, found⟩ := Option.isSome_iff_exists.mp readable
    simp [objectOf?, Json.fields?, found, agrees, reads]

/-- A number of a part is read as it counts. -/
theorem counts_iff {inner : String} {usual count : Int} :
    (Json.object fields).Counts [name, inner] usual count ↔
      ∃ part found, part? fields name = some part ∧
        Metadata.optionalField count? part inner = some found ∧ found.getD usual = count := by
  have reads : ∀ part, (∃ found, Metadata.optionalField count? part inner = some found ∧
      found.getD usual = count) ↔ (Json.object part).Counts [inner] usual count := by
    intro part
    rw [← Option.map_eq_some_iff, usual_iff]
    simp only [count?_eq_some_iff, Json.Counts]
    simp
  simp only [exists_and_left, reads, Json.Counts, leads_part_iff]
  constructor
  · intro counts
    rcases counts with ⟨⟨part, isPart, leads⟩, isUsual⟩ | ⟨⟨part, isPart, leads⟩, fits⟩
    · exact ⟨part, isPart, .inl ⟨leads, isUsual⟩⟩
    · exact ⟨part, isPart, .inr ⟨leads, fits⟩⟩
  · intro counts
    obtain ⟨part, isPart, ⟨leads, isUsual⟩ | ⟨leads, fits⟩⟩ := counts
    · exact .inl ⟨⟨part, isPart, leads⟩, isUsual⟩
    · exact .inr ⟨⟨part, isPart, leads⟩, fits⟩

/-- Whether a deployment is ready can be read off its counts. -/
theorem rollout?_isRolledOut (value : Json) :
    (∃ rollout, rollout? value = some rollout ∧ rollout.ready.getD 0 = rollout.desired.getD 1) ↔
      IsRolledOut value := by
  unfold rollout? IsRolledOut
  simp only [objectOf?_eq_some_iff, bind, pure, Option.bind_eq_some_iff, Option.some.injEq]
  constructor
  · intro rolledOut
    obtain ⟨rollout, ⟨object, fields, rfl, spec, isSpec, status, isStatus, desired, readsDesired,
      ready, readsReady, rfl⟩, equal⟩ := rolledOut
    refine ⟨object, _, counts_iff.mpr ⟨status, ready, isStatus, readsReady, rfl⟩, ?_⟩
    exact counts_iff.mpr ⟨spec, desired, isSpec, readsDesired, equal.symm⟩
  · intro rolledOut
    obtain ⟨object, count, counted, wanted⟩ := rolledOut
    obtain ⟨fields, rfl, -⟩ := object.metadata
    obtain ⟨status, ready, isStatus, readsReady, isReady⟩ := counts_iff.mp counted
    obtain ⟨spec, desired, isSpec, readsDesired, isDesired⟩ := counts_iff.mp wanted
    refine ⟨⟨desired, ready⟩, ⟨object, fields, rfl, spec, isSpec, status, isStatus, desired,
      readsDesired, ready, readsReady, rfl⟩, isReady.trans isDesired.symm⟩

/-- A row is read when each of its members is. -/
theorem mapM_eq_some_iff {β : Type} {read : β → Option α} {items : List β} {found : List α} :
    items.mapM read = some found ↔
      (∀ item ∈ items, ∃ result, read item = some result) ∧ found = items.filterMap read := by
  induction items generalizing found with
  | nil => simp [eq_comm]
  | cons item rest inductionHypothesis =>
      rw [List.mapM_cons]
      simp only [bind, pure, Option.bind_eq_some_iff, inductionHypothesis, Option.some.injEq,
        List.forall_mem_cons]
      constructor
      · intro reads
        obtain ⟨result, readsItem, _, ⟨readsRest, rfl⟩, rfl⟩ := reads
        exact ⟨⟨⟨result, readsItem⟩, readsRest⟩, (List.filterMap_cons_some readsItem).symm⟩
      · intro reads
        obtain ⟨⟨⟨result, readsItem⟩, readsRest⟩, rfl⟩ := reads
        exact ⟨result, readsItem, _, ⟨readsRest, rfl⟩, (List.filterMap_cons_some readsItem).symm⟩

/-- The host name of an entry of a load balancer. -/
def hostname? (entry : Json) : Option (Option String) := do
  Metadata.optionalField Json.string? (← entry.fields?) "hostname"

theorem hostname?_eq_some_iff {entry : Json} {name : Option String} :
    hostname? entry = some name ↔ entry.Leads ["hostname"] (name.map Json.string) := by
  cases entry with
  | object fields =>
      have reads : hostname? (.object fields) =
          Metadata.optionalField Json.string? fields "hostname" := rfl
      rw [reads, leads_single, optionalField_eq_some_iff]
      simp only [string?_eq_some_iff]
      cases name with
      | none => simp [eq_comm]
      | some text => simp [eq_comm]
  | _ => simp [hostname?, Json.fields?, Json.Leads]

/-- The entries of a load balancer, when the status lists them. -/
theorem leads_entries_iff {entries : List Json} :
    (Json.object fields).Leads ["status", "loadBalancer", "ingress"] (some (.array entries)) ↔
      ∃ status, part? fields "status" = some status ∧
        ∃ balancer, part? status "loadBalancer" = some balancer ∧
          Metadata.optionalField Json.array? balancer "ingress" = some (some entries) := by
  simp only [leads_part_iff, leads_single, optionalField_eq_some_iff]
  constructor
  · intro leads
    obtain ⟨status, isStatus, balancer, isBalancer, found⟩ := leads
    exact ⟨status, isStatus, balancer, isBalancer, .inr ⟨_, entries, found.symm, rfl, rfl⟩⟩
  · intro reads
    obtain ⟨status, isStatus, balancer, isBalancer, reads⟩ := reads
    rcases reads with ⟨_, none⟩ | ⟨value, items, found, isArray, same⟩
    · cases none
    · cases same
      cases value <;> cases isArray
      exact ⟨status, isStatus, balancer, isBalancer, found.symm⟩

/-- Whether an ingress has a host name can be read off the host names of its entries. -/
theorem hostnames?_isPublished (value : Json) :
    (∃ hostnames, hostnames? value = some hostnames ∧ ∃ text, some text ∈ hostnames ∧ text ≠ "") ↔
      IsPublished value := by
  unfold hostnames? IsPublished
  simp only [objectOf?_eq_some_iff, bind, Option.bind_eq_some_iff]
  constructor
  · intro published
    obtain ⟨hostnames, ⟨object, fields, rfl, status, isStatus, balancer, isBalancer, entries?,
      readsEntries, reads⟩, text, member, nonempty⟩ := published
    change (entries?.getD []).mapM hostname? = some hostnames at reads
    obtain ⟨all, rfl⟩ := mapM_eq_some_iff.mp reads
    obtain ⟨entry, memberEntry, named⟩ := List.mem_filterMap.mp member
    cases entries? with
    | none => cases memberEntry
    | some entries =>
        refine ⟨object, entries, ?_, ?_, entry, memberEntry, text, ?_, nonempty⟩
        · exact leads_entries_iff.mpr ⟨status, isStatus, balancer, isBalancer, readsEntries⟩
        · intro other memberOther
          obtain ⟨name, readsOther⟩ := all other memberOther
          exact ⟨name, hostname?_eq_some_iff.mp readsOther⟩
        · exact hostname?_eq_some_iff.mp named
  · intro published
    obtain ⟨object, entries, leads, all, entry, memberEntry, text, named, nonempty⟩ := published
    obtain ⟨fields, rfl, -⟩ := object.metadata
    obtain ⟨status, isStatus, balancer, isBalancer, readsEntries⟩ := leads_entries_iff.mp leads
    have reads : entries.mapM hostname? = some (entries.filterMap hostname?) := by
      refine mapM_eq_some_iff.mpr ⟨fun other memberOther => ?_, rfl⟩
      obtain ⟨name, leadsOther⟩ := all other memberOther
      exact ⟨name, hostname?_eq_some_iff.mpr leadsOther⟩
    have readsEntry : hostname? entry = some (some text) := hostname?_eq_some_iff.mpr named
    exact ⟨_, ⟨object, fields, rfl, status, isStatus, balancer, isBalancer, some entries,
      readsEntries, reads⟩, text, List.mem_filterMap.mpr ⟨entry, memberEntry, readsEntry⟩, nonempty⟩

/-! ## How refusals are read -/

theorem textOr_eq_some_iff {text : String} :
    Refusal.textOr fields name = some text ↔
      ((Json.object fields).Leads [name] none ∧ text = "") ∨
        (Json.object fields).Leads [name] (some (.string text)) := by
  unfold Refusal.textOr
  rw [usual_iff]
  simp [string?_eq_some_iff]

theorem status?_eq_some_iff {value : Json} {code : Nat} :
    Refusal.status? value = some code ↔ value = .integer code ∧ code < 65536 := by
  cases value with
  | integer found =>
      change (if 0 ≤ found ∧ found < 65536 then some found.toNat else none) = some code ↔ _
      rw [Option.ite_none_right_eq_some, Option.some.injEq, Json.integer.injEq]
      omega
  | _ => simp [Refusal.status?]

/-- A value describes a refusal when the refusal is read from it. -/
theorem ofJson?_eq_some_iff {value : Json} {refusal : Refusal} :
    Refusal.ofJson? value = some refusal ↔ refusal.IsIn value := by
  cases value with
  | object fields =>
      have code : (Metadata.optionalField Refusal.status? fields "code").map (·.getD 0) =
          some refusal.code ↔ ((Json.object fields).Leads ["code"] none ∧ refusal.code = 0) ∨
            ((Json.object fields).Leads ["code"] (some (.integer refusal.code)) ∧
              refusal.code < 65536) := by
        rw [usual_iff]
        simp [status?_eq_some_iff]
      rw [Option.map_eq_some_iff] at code
      constructor
      · intro reads
        simp only [Refusal.ofJson?, Json.fields?, bind, pure, Option.bind_eq_some_iff,
          Option.some.injEq] at reads
        obtain ⟨_, rfl, number, readsCode, message, readsMessage, reason, readsReason, rfl⟩ := reads
        exact ⟨code.mp ⟨number, readsCode, rfl⟩, textOr_eq_some_iff.mp readsMessage,
          textOr_eq_some_iff.mp readsReason⟩
      · intro isIn
        obtain ⟨number, readsCode, same⟩ := code.mpr isIn.code
        have readsMessage := textOr_eq_some_iff.mpr isIn.message
        have readsReason := textOr_eq_some_iff.mpr isIn.reason
        simp [Refusal.ofJson?, Json.fields?, readsCode, readsMessage, readsReason, same]
  | _ =>
      constructor
      · intro reads
        cases reads
      · intro isIn
        rcases isIn.message with ⟨⟨_, same, _⟩, _⟩ | ⟨_, same, _⟩ <;> cases same

/-- The refusal of a response is the one that it describes. -/
theorem refusal_eq_iff {response : Http.Response} {refusal : Refusal} :
    400 ≤ response.status ∧ Refusal.ofResponse response = refusal ↔
      refusal.IsAnsweredBy response := by
  apply and_congr_right
  intro _
  unfold Refusal.ofResponse
  cases found : (bodyValue? response.body).bind Refusal.ofJson? with
  | some described =>
      obtain ⟨value, reads, describes⟩ := Option.bind_eq_some_iff.mp found
      have isIn := ofJson?_eq_some_iff.mp describes
      simp only [reads, Option.mem_some_iff, exists_eq_left', forall_eq']
      constructor
      · intro same
        subst same
        exact .inl isIn
      · intro answered
        rcases answered with isIn | ⟨none, -⟩
        · exact Option.some.inj (describes.symm.trans (ofJson?_eq_some_iff.mpr isIn))
        · exact absurd isIn (none described)
  | none =>
      have nothing : ∀ value ∈ bodyValue? response.body, ∀ other : Refusal, ¬ other.IsIn value := by
        intro value reads other isIn
        have describes := ofJson?_eq_some_iff.mpr isIn
        rw [Option.mem_def.mp reads] at found
        exact Option.some_ne_none _ (describes.symm.trans found)
      constructor
      · intro same
        exact .inr ⟨nothing, same.symm⟩
      · intro answered
        rcases answered with ⟨value, reads, isIn⟩ | ⟨-, same⟩
        · exact absurd isIn (nothing value reads refusal)
        · exact same.symm

/-! ## How looks are answered -/

/-- What a look finds is what is read off a response below status 400. -/
theorem reading_eq_found_iff {response? : Option Http.Response} {found : α} :
    (ofResponse response?).reading read = .ok (some found) ↔
      ∃ response ∈ response?, response.status < 400 ∧
        ∃ value ∈ bodyValue? response.body, read value = some found := by
  cases response? with
  | none => simp [ofResponse, reading]
  | some response =>
      by_cases refused : 400 ≤ response.status
      · have answer : ofResponse (some response) = .refused (Refusal.ofResponse response) :=
          if_pos refused
        have late : ¬ response.status < 400 := Nat.not_lt.mpr refused
        rw [answer]
        simp only [reading]
        split <;> simp [late]
      · have early : response.status < 400 := Nat.not_le.mp refused
        cases body : bodyValue? response.body with
        | none => simp [ofResponse, refused, body, reading]
        | some value =>
            simp only [ofResponse, refused, body, reading]
            cases reads : read value <;> simp [early, body, reads]

theorem ofResponse_eq_refused_iff {response? : Option Http.Response} {refusal : Refusal} :
    ofResponse response? = .refused refusal ↔
      ∃ response ∈ response?, refusal.IsAnsweredBy response := by
  cases response? with
  | none => simp [ofResponse]
  | some response =>
      simp only [Option.mem_some_iff, exists_eq_left', ← refusal_eq_iff, ofResponse]
      split
      · next refused => simp [refused]
      · next answered =>
          simp only [answered, false_and, iff_false]
          split <;> simp

/-- A refusal denies a look unless it says that the object is not there. -/
theorem denies_refused_iff {refusal : Refusal} {reason : String} :
    Denies ((refused refusal).reading read) reason ↔ refusal.reason ≠ "NotFound" ∧
      (refusal.code = 401 ∨ refusal.code = 403) ∧
      reason = s!"the api-server answered with status {refusal.code}: `{refusal.message}`" := by
  by_cases missing : refusal.reason = "NotFound"
  · have found : (refused refusal).reading read = .ok none := if_pos missing
    simp [found, missing, Denies]
  · have denied : (refused refusal).reading read = .error refusal.error := if_neg missing
    have status : IsForbidden refusal.error.status? ↔ refusal.code = 401 ∨ refusal.code = 403 := by
      simp [IsForbidden, Refusal.error, Error.status?]
    rw [denied, denies_error_iff, status]
    exact (and_iff_right missing).symm

/-- A look is denied by what a response says of a refusal. -/
theorem reading_denies_iff {response? : Option Http.Response} {reason : String} :
    Denies ((ofResponse response?).reading read) reason ↔
      ∃ response ∈ response?, ∃ refusal : Refusal, refusal.IsAnsweredBy response ∧
        refusal.reason ≠ "NotFound" ∧ (refusal.code = 401 ∨ refusal.code = 403) ∧
        reason = s!"the api-server answered with status {refusal.code}: `{refusal.message}`" := by
  have readable : ∀ answer : Answer, Denies (answer.reading read) reason →
      ∃ refusal, answer = refused refusal := by
    intro answer denied
    have unreadable : ¬ Denies (.error unreadableError : Except Error (Option α)) reason := by
      rw [denies_error_iff]
      simp [IsForbidden, unreadableError, Error.status?]
    cases answer with
    | refused refusal => exact ⟨refusal, rfl⟩
    | unreadable => exact absurd denied unreadable
    | found value =>
        cases reads : read value with
        | none =>
            simp only [reading, reads] at denied
            exact absurd denied unreadable
        | some found =>
            simp only [reading, reads] at denied
            obtain ⟨_, same, -⟩ := denied
            cases same
  constructor
  · intro denied
    obtain ⟨refusal, answer⟩ := readable _ denied
    obtain ⟨response, responds, answered⟩ := ofResponse_eq_refused_iff.mp answer
    rw [answer, denies_refused_iff] at denied
    exact ⟨response, responds, refusal, answered, denied⟩
  · intro denied
    obtain ⟨response, responds, refusal, answered, denied⟩ := denied
    rw [ofResponse_eq_refused_iff.mpr ⟨response, responds, answered⟩, denies_refused_iff]
    exact denied

end Answer

namespace Api

variable {τ α : Type}

theorem get_answer (cluster : Http.Exchange τ) (collection : Collection) (read : Json → Option α)
    (name namespaceName : String) (state : τ) :
    ((get cluster collection read name namespaceName).run state).1 =
      if name = "" then .error emptyName
      else (Answer.ofResponse ((cluster
        { method := .get, path := s!"{collection.path namespaceName}/{name}" }).run
          state).1).reading read := by
  unfold get
  by_cases empty : name = ""
  · subst empty
    rfl
  · have nonempty : name.isEmpty = false := by simpa using empty
    rw [if_neg empty]
    simp only [nonempty, Bool.false_eq_true, if_false]
    rfl

section

variable (cluster : Http.Exchange τ) (collection : Collection) {read : Json → Option α}
  (name namespaceName : String) (state : τ)

/-- A look finds what can be read off the response. -/
theorem get_found_iff {fits : α → Prop} {isMet : Json → Prop}
    (meets : ∀ value, (∃ found, read value = some found ∧ fits found) ↔ isMet value) :
    let inspection : Inspection := ⟨name, s!"{collection.path namespaceName}/{name}", isMet⟩
    (∃ found, ((get cluster collection read name namespaceName).run state).1 = .ok (some found) ∧
      fits found) ↔ name ≠ "" ∧ inspection.IsMetBy (inspection.response? cluster state) := by
  intro inspection
  rw [get_answer]
  by_cases empty : name = ""
  · simp [empty]
  · rw [if_neg empty]
    simp only [Answer.reading_eq_found_iff, empty, ne_eq, not_false_eq_true, true_and]
    constructor
    · intro found
      obtain ⟨found, ⟨response, responds, early, value, reads, same⟩, fits⟩ := found
      exact ⟨response, responds, early, value, reads, (meets value).mp ⟨found, same, fits⟩⟩
    · intro met
      obtain ⟨response, responds, early, value, reads, isMet⟩ := met
      obtain ⟨found, same, fits⟩ := (meets value).mpr isMet
      exact ⟨found, ⟨response, responds, early, value, reads, same⟩, fits⟩

/-- A look is denied by the response. -/
theorem get_denied_iff (isMet : Json → Prop) (reason : String) :
    let inspection : Inspection := ⟨name, s!"{collection.path namespaceName}/{name}", isMet⟩
    Denies ((get cluster collection read name namespaceName).run state).1 reason ↔
      name ≠ "" ∧ Inspection.IsDeniedBy (inspection.response? cluster state) reason := by
  intro inspection
  rw [get_answer]
  by_cases empty : name = ""
  · rw [if_pos empty, denies_error_iff]
    simp [empty, IsForbidden, emptyName, Error.status?]
  · rw [if_neg empty, Answer.reading_denies_iff]
    exact (and_iff_right empty).symm

end

end Api

theorem Answer.secret?_isObjectOf (value : Json) :
    (∃ found, secret? value = some found ∧ True) ↔ IsObjectOf ⟨"v1", "Secret"⟩ value := by
  constructor
  · intro reads
    obtain ⟨found, reads, -⟩ := reads
    exact (objectOf?_eq_some_iff.mp reads).1
  · intro object
    obtain ⟨fields, same, -⟩ := object.metadata
    exact ⟨(), objectOf?_eq_some_iff.mpr ⟨object, fields, same, rfl⟩, trivial⟩

/-- Where an object of a namespace is looked at. -/
theorem Collection.path_eq {collection : Collection} {start middle : String}
    (namespaceName name : String) (namespaced : collection.namespaced = true)
    (starts : collection.interface ++ "/namespaces/" = start)
    (leads : "/" ++ collection.name ++ "/" = middle) :
    s!"{collection.path namespaceName}/{name}" = start ++ namespaceName ++ middle ++ name := by
  subst starts leads
  rw [path, if_pos namespaced]
  change collection.interface ++ "/namespaces/" ++ namespaceName ++ "/" ++ collection.name ++ "/" ++
    name = _
  simp only [String.append_assoc]

end Cluster

end AddonCheck
