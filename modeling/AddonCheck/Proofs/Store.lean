import AddonCheck.Peers
import AddonCheck.Proofs.Creating
import Mathlib.Data.Set.Insert

/-
This file holds the laws of a cluster that keeps objects. Every object lies at an address. A
creation puts an object at its address or leaves the cluster as it is, whatever it is answered, and
a deletion leaves nothing at an address.
-/

namespace AddonCheck

open Cluster (Resource)

/-- What an outside keeps between requests, and where the object of a handle lies in it. An object
that the cluster never keeps has no address. -/
structure Outside.Store {σ : Type} (outside : Outside σ) (A : Type) where
  content : σ → Set A
  address? : Resource → Option A
  reading : ∀ request state, request.IsReading →
    content (outside.reply request state).2 = content state
  delivery : ∀ message state, content (outside.reply (.deliver message) state).2 = content state
  creation : ∀ object resource state, object.resource? = some resource →
    content (outside.reply (.create object) state).2 = content state ∨
      ∃ address, address? resource = some address ∧
        content (outside.reply (.create object) state).2 = insert address (content state)
  deletion : ∀ resource state, content (outside.reply (.delete resource) state).2 =
    {address ∈ content state | address? resource ≠ some address}

/-- A cluster that keeps its objects at the paths of its interface. It always gives the same list of
kinds, and it keeps no object without a name. -/
structure Peers.Store {σ : Type} (peers : Peers σ) where
  content : σ → Set String
  collection? : Cluster.Kind → Option Cluster.Collection
  listed : ∀ kind state,
    ((Cluster.Api.discover peers.cluster kind).run state).1 = collection? kind
  read : ∀ request state, request.method = .get →
    content ((peers.cluster request).run state).2 = content state
  posted : ∀ (object : Cluster.Object) name path state, object.metadata.name = some name →
    let after := ((peers.cluster
      { method := .post, path := path, body := .json object.toJson }).run state).2
    content after = content state ∨
      name ≠ "" ∧ content after = insert s!"{path}/{name}" (content state)
  erased : ∀ path state,
    content ((peers.cluster
      { method := .delete, path := path, body := .json Cluster.Api.deletionBody }).run state).2 =
      {address ∈ content state | path ≠ address}
  lookup : ∀ host state, content (peers.lookup host state).2 = content state
  listing : ∀ bucket keyStart state, content (peers.listing bucket keyStart state).2 = content state
  metrics : ∀ start finish query state,
    content (peers.metrics start finish query state).2 = content state
  deliver : ∀ message state, content (peers.deliver message state).2 = content state
  evaluate : ∀ condition state, content (peers.evaluate condition state).2 = content state

namespace Peers.Store

variable {σ : Type} {peers : Peers σ} (store : peers.Store)

/-- Where the object of a handle lies. -/
def address? (resource : Resource) : Option String :=
  (store.collection? resource.kind).bind fun collection =>
    if resource.name.isEmpty then none
    else some s!"{collection.path resource.namespaceName}/{resource.name}"

theorem discover_content (kind : Cluster.Kind) (state : σ) :
    store.content ((Cluster.Api.discover peers.cluster kind).run state).2 = store.content state :=
  store.read _ state rfl

theorem get_content {α : Type} (collection : Cluster.Collection) (read : Json → Option α)
    (name namespaceName : String) (state : σ) :
    store.content ((Cluster.Api.get peers.cluster collection read name namespaceName).run state).2 =
      store.content state := by
  unfold Cluster.Api.get
  split
  · rfl
  · exact store.read _ state rfl

/-- A creation finds out where the object lies, and posts it there. -/
theorem create_content {object : Cluster.Object} {resource : Resource}
    (named : object.resource? = some resource) (state : σ) :
    let after := ((Cluster.Api.create peers.cluster object).run state).2
    store.content after = store.content state ∨
      ∃ address, store.address? resource = some address ∧
        store.content after = insert address (store.content state) := by
  obtain ⟨kind, name, hasKind, hasName, rfl⟩ := Cluster.Object.resource?_eq_some named
  have listed := store.listed kind state
  have content := store.discover_content kind state
  rcases found : (Cluster.Api.discover peers.cluster kind).run state with ⟨collection?, middle⟩
  rw [found] at listed content
  cases collection? with
  | none =>
      have ran : ((Cluster.Api.create peers.cluster object).run state).2 = middle := by
        simp only [Cluster.Api.create, hasKind]
        rw [StateT.run_bind, found]
        rfl
      rw [ran]
      exact .inl content
  | some collection =>
      have posted := store.posted object name
        (collection.path (object.metadata.namespaceName.getD "")) middle hasName
      have ran : ((Cluster.Api.create peers.cluster object).run state).2 = ((peers.cluster
          { method := .post
            path := collection.path (object.metadata.namespaceName.getD "")
            body := .json object.toJson }).run middle).2 := by
        simp only [Cluster.Api.create, hasKind]
        rw [StateT.run_bind, found]
        rfl
      dsimp only at posted
      rw [ran, ← content]
      apply posted.imp_right
      rintro ⟨nonempty, inserted⟩
      refine ⟨_, ?_, inserted⟩
      unfold address?
      rw [← listed]
      exact if_neg (by simpa using nonempty)

/-- A deletion finds out where the object lies, and erases what lies there. -/
theorem delete_content (resource : Resource) (state : σ) :
    store.content ((Cluster.Api.delete peers.cluster resource).run state).2 =
      {address ∈ store.content state | store.address? resource ≠ some address} := by
  have listed := store.listed resource.kind state
  have content := store.discover_content resource.kind state
  rcases found : (Cluster.Api.discover peers.cluster resource.kind).run state with
    ⟨collection?, middle⟩
  rw [found] at listed content
  unfold address?
  rw [← listed]
  cases collection? with
  | none =>
      have ran : ((Cluster.Api.delete peers.cluster resource).run state).2 = middle := by
        unfold Cluster.Api.delete
        rw [StateT.run_bind, found]
        rfl
      rw [ran, content]
      simp
  | some collection =>
      have ran : ((Cluster.Api.delete peers.cluster resource).run state).2 =
          if resource.name.isEmpty then middle else ((peers.cluster
            { method := .delete
              path := s!"{collection.path resource.namespaceName}/{resource.name}"
              body := .json Cluster.Api.deletionBody }).run middle).2 := by
        unfold Cluster.Api.delete
        rw [StateT.run_bind, found]
        cases empty : resource.name.isEmpty with
        | true => rfl
        | false => rfl
      rw [ran]
      cases empty : resource.name.isEmpty with
      | true => simp [content]
      | false =>
          rw [if_neg Bool.false_ne_true, store.erased, content]
          simp

/-- A cluster that keeps its objects keeps them for the run that asks it. -/
def outside : peers.outside.Store String where
  content := store.content
  address? := store.address?
  reading request state reads := by
    cases request with
    | create object => exact reads.elim
    | delete resource => exact reads.elim
    | deliver message => exact reads.elim
    | nodes selector => exact store.read _ state rfl
    | deployment name namespaceName => exact store.get_content _ _ name namespaceName state
    | ingress name namespaceName => exact store.get_content _ _ name namespaceName state
    | secret name namespaceName => exact store.get_content _ _ name namespaceName state
    | lookup host => exact store.lookup host state
    | listing bucket keyStart => exact store.listing bucket keyStart state
    | metrics start finish query => exact store.metrics start finish query state
    | evaluate condition => exact store.evaluate condition state
  delivery := store.deliver
  creation _ _ state named := store.create_content named state
  deletion resource state := store.delete_content resource state

end Peers.Store

end AddonCheck
