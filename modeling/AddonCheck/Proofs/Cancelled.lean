import AddonCheck.Proofs.Caution
import AddonCheck.Proofs.Execution
import AddonCheck.Proofs.Shelf

/-
This file shows what a thread that creates objects still does after the cancellation of its run. It
may register and create the one object whose token test was passed before, and every operation that
begins later ends at once.
-/

namespace AddonCheck

open Cluster (Resource)

/-! ## The objects that are still under way -/

/-- What a thread does about an object. -/
inductive Mark where
  | registered (resource : Resource)
  | requested (object : Cluster.Object)

namespace Mark

def isRegistered : Mark → Bool
  | registered _ => true
  | requested _ => false

def isRequested : Mark → Bool
  | registered _ => false
  | requested _ => true

end Mark

/-- What the action does about an object. -/
def Action.marks : Action → List Mark
  | .registerWorkspace resource => [.registered resource]
  | .register resource => [.registered resource]
  | .ask (.create object) => [.requested object]
  | _ => []

/-- What a cautious thread may still do about objects when every further test of the token tells
that the run is cancelled. -/
inductive Caution.Leaves : Caution → List Mark → Prop where
  | nothing (caution : Caution) : Leaves caution []
  | registered {resource : Resource} {marks : List Mark}
      (rest : Leaves (announced resource) marks) : Leaves cleared (.registered resource :: marks)
  | requested {resource : Resource} {object : Cluster.Object}
      (named : object.resource? = some resource) :
      Leaves (announced resource) [.requested object]

namespace Caution

/-- At most one object is registered, and at most one is created. -/
theorem Leaves.single {caution : Caution} {marks : List Mark} (leaves : caution.Leaves marks) :
    marks.countP Mark.isRegistered ≤ 1 ∧ marks.countP Mark.isRequested ≤ 1 := by
  cases leaves with
  | nothing => exact ⟨Nat.zero_le _, Nat.zero_le _⟩
  | requested named => exact ⟨Nat.zero_le _, Nat.le_refl _⟩
  | registered rest =>
      cases rest with
      | nothing => exact ⟨Nat.le_refl _, Nat.zero_le _⟩
      | requested named => exact ⟨Nat.le_refl _, Nat.le_refl _⟩

/-- What may still be done after an allowed action could be done after that action before, unless
a test of the token is passed. -/
theorem Leaves.of_next {caution : Caution} {action : Action} {answer : action.Answer}
    {marks : List Mark} (allowed : caution.allows action)
    (refused : caution.next action answer ≠ cleared)
    (leaves : (caution.next action answer).Leaves marks) :
    caution.Leaves (action.marks ++ marks) := by
  cases action with
  | registerWorkspace resource =>
      obtain rfl : caution = cleared := allowed
      exact .registered leaves
  | register resource =>
      obtain rfl : caution = cleared := allowed
      exact .registered leaves
  | isCancelled =>
      cases answer with
      | false => exact (refused rfl).elim
      | true =>
          cases leaves
          exact .nothing caution
  | log line =>
      cases caution with
      | announced resource => exact leaves
      | _ =>
          cases leaves
          exact .nothing _
  | ask request =>
      cases request with
      | create object =>
          obtain ⟨resource, rfl, named⟩ := allowed
          cases leaves
          exact .requested named
      | _ =>
          cases leaves
          exact .nothing caution
  | _ =>
      cases leaves
      exact .nothing caution

end Caution

variable {ι σ : Type} [DecidableEq ι] {outside : Outside σ}

/-- The deeds of one thread. -/
def deedsOf (thread : ι) (history : List (Deed ι σ)) : List (Deed ι σ) :=
  history.filter fun deed => deed.thread = thread

/-- How far the deeds of a thread have brought it with its next object. -/
def caution (history : List (Deed ι σ)) (thread : ι) : Caution :=
  (deedsOf thread history).foldl (fun caution deed => caution.next deed.action deed.answer)
    .unchecked

/-- What the deeds of a thread have done about objects. -/
def marks (history : List (Deed ι σ)) (thread : ι) : List Mark :=
  (deedsOf thread history).flatMap fun deed => deed.action.marks

section

variable {history : List (Deed ι σ)} {deed : Deed ι σ} {thread : ι}

theorem caution_append : caution (history ++ [deed]) deed.thread =
    (caution history deed.thread).next deed.action deed.answer := by
  simp [caution, deedsOf]

theorem caution_append_of_ne (other : deed.thread ≠ thread) :
    caution (history ++ [deed]) thread = caution history thread := by
  simp [caution, deedsOf, other]

theorem marks_append (later : List (Deed ι σ)) :
    marks (history ++ later) thread = marks history thread ++ marks later thread := by
  simp [marks, deedsOf]

theorem marks_single : marks [deed] deed.thread = deed.action.marks := by
  simp [marks, deedsOf]

theorem marks_single_of_ne (other : deed.thread ≠ thread) : marks [deed] thread = [] := by
  simp [marks, deedsOf, other]

end

/-- One thread has done nothing yet, and all others are free from caution. -/
def Caution.onlyOf (runner : ι) : ι → Option Caution :=
  Function.update (fun _ => none) runner (some .unchecked)

/-- Only the one thread has to be cautious. -/
theorem Crew.keeps_of_cautious (crew : Crew ι σ) {runner : ι}
    {fit : Option Unit → Caution → Prop}
    (cautious : (crew.programs runner).Keeps Caution.discipline .unchecked fit) :
    crew.Keeps Caution.discipline.optional (fun _ _ _ => True) (Caution.onlyOf runner) := by
  intro thread
  unfold Caution.onlyOf
  by_cases own : thread = runner
  · subst own
    rw [Function.update_self]
    exact cautious.optional
  · rw [Function.update_of_ne own]
    exact Program.keeps_optional_none _

/-- The thread is as far as its deeds since the base have brought it. -/
def Followed (runner : ι) (base : List (Deed ι σ)) (states : ι → Option Caution)
    (crew : Crew ι σ) : Prop :=
  ∃ earlier, crew.history = base ++ earlier ∧ states runner = some (caution earlier runner)

theorem followed_stable (runner : ι) (base : List (Deed ι σ)) :
    Crew.Stable outside Caution.discipline.optional (Followed runner base) where
  rest followed _ _ := followed
  evaluation followed _ _ _ := followed
  deed := by
    intro states crew session rest thread action answer followed _ _ _
    obtain ⟨earlier, history, state⟩ := followed
    let deed : Deed ι σ := ⟨thread, action, answer, session.outside⟩
    refine ⟨earlier ++ [deed], ?_, ?_⟩
    · rw [← List.append_assoc, ← history]
      rfl
    · by_cases own : thread = runner
      · subst own
        have moved : caution (earlier ++ [deed]) deed.thread =
            (caution earlier deed.thread).next deed.action deed.answer := caution_append
        rw [Function.update_self, state]
        exact congrArg some moved.symm
      · rw [Function.update_of_ne (Ne.symm own), state]
        exact congrArg some (caution_append_of_ne own).symm

/-- In a cancelled run, the thread has done what it could do at the base, and can do only the rest
of it. -/
structure Halting (runner : ι) (base : List (Deed ι σ)) (start : Caution)
    (states : ι → Option Caution) (crew : Crew ι σ) : Prop where
  cancelled : crew.session.isCancelled = true
  leaves : ∃ later, crew.history = base ++ later ∧ ∃ current, states runner = some current ∧
    ∀ more, current.Leaves more → start.Leaves (marks later runner ++ more)

/-- A test of the token in a cancelled run is not passed. -/
theorem Caution.next_ne_cleared {session after : Session σ} {action : Action}
    {answer : action.Answer} (cancelled : session.isCancelled = true)
    (effect : Session.Effect outside action answer session after) (caution : Caution) :
    caution.next action answer ≠ cleared := by
  cases action with
  | isCancelled =>
      have told : answer = true := effect.answered.trans cancelled
      rw [told]
      exact Caution.noConfusion
  | log line => cases caution <;> exact Caution.noConfusion
  | _ => exact Caution.noConfusion

theorem halting_stable (runner : ι) (base : List (Deed ι σ)) (start : Caution) :
    Crew.Stable outside Caution.discipline.optional (Halting runner base start) where
  rest halting rests _ := ⟨rests.cancelled halting.cancelled, halting.leaves⟩
  evaluation halting _ rests _ := ⟨rests.cancelled halting.cancelled, halting.leaves⟩
  deed := by
    intro states crew session rest thread action answer halting allowed _ effect
    refine ⟨effect.cancelled halting.cancelled, ?_⟩
    obtain ⟨later, history, current, state, leaves⟩ := halting.leaves
    let deed : Deed ι σ := ⟨thread, action, answer, session.outside⟩
    refine ⟨later ++ [deed], ?_, ?_⟩
    · rw [← List.append_assoc, ← history]
      rfl
    · rw [marks_append]
      by_cases own : thread = runner
      · subst own
        refine ⟨current.next action answer, by rw [Function.update_self, state]; rfl, ?_⟩
        intro more left
        rw [show marks [deed] thread = action.marks from marks_single, List.append_assoc]
        refine leaves _ (left.of_next (allowed current state) ?_)
        exact Caution.next_ne_cleared halting.cancelled effect current
      · rw [marks_single_of_ne own, List.append_nil, Function.update_of_ne (Ne.symm own)]
        exact ⟨current, state, leaves⟩

/-! ## The operations that begin in a cancelled run -/

namespace Workspace

/-- What a check does to the objects of its workspace. -/
inductive Operation where
  | createNamespace
  | create (spec : Spec)
  | createAll (specs : List Spec)

namespace Operation

def program (workspace : Workspace) : Operation → Creating Unit
  | createNamespace => workspace.createNamespace
  | create spec => workspace.create spec
  | createAll specs => workspace.createAll specs

/-- The object with which the operation begins has a kind and a name. -/
def IsWellFormed (workspace : Workspace) : Operation → Prop
  | createNamespace => True
  | create spec => ∃ resource, spec.resource workspace = .ok resource
  | createAll specs => ∃ spec ∈ specs.head?, ∃ resource, spec.resource workspace = .ok resource

/-- The operation ends with the result after nothing but a test of the token that tells that the run
is cancelled. -/
def EndsAtOnce (workspace : Workspace) (operation : Operation)
    (result : Except CreationError Unit) : Prop :=
  (operation.program workspace).run = .done result ∨
    ∃ rest : Bool → Program (Except CreationError Unit),
      (operation.program workspace).run = .perform .isCancelled rest ∧ rest true = .done result

/-- Creating one object ends at once: a malformed object is refused, and any other is cancelled. -/
theorem create_endsAtOnce (workspace : Workspace) (spec : Spec) :
    ∃ error, (create spec).EndsAtOnce workspace (.error error) ∧
      ((create spec).IsWellFormed workspace → error.isCancelled = true) := by
  cases found : spec.resource workspace with
  | error error =>
      refine ⟨error, .inl ?_, ?_⟩
      · change (workspace.create spec).run = _
        rw [create_run, found]
      · rintro ⟨resource, other⟩
        cases found.symm.trans other
  | ok resource =>
      refine ⟨.cancelled resource, .inr ?_, fun _ => rfl⟩
      change ∃ rest, (workspace.create spec).run = .perform .isCancelled rest ∧ _
      rw [create_run, found]
      exact ⟨_, rfl, rfl⟩

/-- Every operation ends at once in a cancelled run, and it is cancelled unless it has no object or
a malformed one. -/
theorem endsAtOnce (workspace : Workspace) (operation : Operation) :
    ∃ result, operation.EndsAtOnce workspace result ∧
      (operation.IsWellFormed workspace →
        ∃ error, result = .error error ∧ error.isCancelled = true) := by
  cases operation with
  | createNamespace =>
      refine ⟨.error (.cancelled workspace.resource), .inr ⟨_, createNamespace_run workspace, rfl⟩,
        fun _ => ⟨_, rfl, rfl⟩⟩
  | create spec =>
      obtain ⟨error, ends, cancelled⟩ := create_endsAtOnce workspace spec
      exact ⟨.error error, ends, fun wellFormed => ⟨error, rfl, cancelled wellFormed⟩⟩
  | createAll specs =>
      cases specs with
      | nil =>
          refine ⟨.ok (), .inl rfl, ?_⟩
          rintro ⟨_, none, _⟩
          cases none
      | cons spec rest =>
          obtain ⟨error, ends, cancelled⟩ := create_endsAtOnce workspace spec
          refine ⟨.error error, ?_, ?_⟩
          · rcases ends with ended | ⟨tested, first, last⟩
            · refine .inl ?_
              change (workspace.createAll (spec :: rest)).run = _
              change (workspace.create spec).run = _ at ended
              rw [createAll_run, ended]
              rfl
            · refine .inr ?_
              change (workspace.create spec).run = _ at first
              change ∃ rest, (workspace.createAll (spec :: _)).run = .perform .isCancelled rest ∧ _
              rw [createAll_run, first]
              refine ⟨_, rfl, ?_⟩
              rw [last]
              rfl
          · rintro ⟨_, isHead, wellFormed⟩
            cases isHead
            exact ⟨error, rfl, cancelled wellFormed⟩

end Operation

end Workspace

namespace Crew

/-- The thread gets the result at once: it is there, or it is there after the next turn of the
thread, which is a test of the token and leaves the session as it is. -/
def Returns {β : Type} (outside : Outside σ) (crew : Crew ι σ) (thread : ι)
    (next : β → Program Unit) (result : β) : Prop :=
  crew.programs thread = next result ∨
    crew.play outside (.act thread) = some
      (crew.did ⟨thread, .isCancelled, true, crew.session.outside⟩ crew.session (next result))

/-- No turn makes another thread the watcher. -/
theorem plays_watcher {crew after : Crew ι σ} {turns : List (Turn ι)}
    (played : crew.plays outside turns = some after) : after.watcher? = crew.watcher? := by
  induction turns generalizing crew with
  | nil =>
      cases played
      rfl
  | cons turn rest inductionHypothesis =>
      obtain ⟨middle, first, later⟩ := Option.bind_eq_some_iff.mp played
      refine (inductionHypothesis later).trans ?_
      cases play_moves first <;> rfl

/-- In a cancelled run, a thread that is awake gets the result of its next operation at once. -/
theorem returns_of_cancelled {crew : Crew ι σ} {thread : ι} {workspace : Workspace}
    {operation : Workspace.Operation} {result : Except Workspace.CreationError Unit}
    {next : Except Workspace.CreationError Unit → Program Unit}
    (cancelled : crew.session.isCancelled = true) (awake : crew.watcher? ≠ some thread)
    (begins : crew.programs thread = (operation.program workspace).run.bind next)
    (ends : operation.EndsAtOnce workspace result) : crew.Returns outside thread next result := by
  rcases ends with ended | ⟨rest, first, last⟩
  · rw [ended] at begins
    exact .inl begins
  · rw [first] at begins
    have begun : crew.programs thread =
        .perform .isCancelled fun answer => (rest answer).bind next := begins
    have returned : (rest true).bind next = next result := by
      rw [last]
      rfl
    refine .inr ?_
    have stepped : crew.session.step outside Session.still 0 .isCancelled =
        (some true, crew.session) := by
      rw [← cancelled]
      rfl
    simp [play, act, begun, Action.IsAwait, isAwake, awake, isReady, stepped, returned]

end Crew

/-! ## After the cancellation -/

/-- After the cancellation of its run, a thread that creates objects registers at most one object
more and creates at most one more. It is the same object, and the test of its token was passed
before. Every operation that begins later leaves the registry as it is, and it is cancelled unless
it has no object or a malformed one. Nothing is registered or created in a run that is cancelled
from the start. -/
theorem cancellation_ends_creations {workspace : Workspace} {handles : Set Resource}
    {crew middle after : Crew ι σ} {runner : ι} {turns later : List (Turn ι)}
    (creates : (crew.programs runner).CreatesIn workspace handles)
    (awake : crew.watcher? ≠ some runner)
    (begun : crew.plays outside turns = some middle)
    (cancelled : middle.session.isCancelled = true)
    (continued : middle.plays outside later = some after) :
    ∃ before since, middle.history = crew.history ++ before ∧
      after.history = middle.history ++ since ∧
      (caution before runner).Leaves (marks since runner) ∧
      (marks since runner).countP Mark.isRegistered ≤ 1 ∧
      (marks since runner).countP Mark.isRequested ≤ 1 ∧
      (crew.session.isCancelled = true → marks (before ++ since) runner = []) ∧
      ∀ (operation : Workspace.Operation)
        (next : Except Workspace.CreationError Unit → Program Unit),
        after.programs runner = (operation.program workspace).run.bind next →
          ∃ result, after.Returns outside runner next result ∧
            (operation.IsWellFormed workspace →
              ∃ error, result = .error error ∧ error.isCancelled = true) := by
  have kept := crew.keeps_of_cautious (creates.cautious fun _ => Caution.noConfusion)
  have started : Followed runner crew.history (Caution.onlyOf runner) crew :=
    ⟨[], (List.append_nil _).symm, Function.update_self ..⟩
  obtain ⟨middleStates, middleKept, before, earlier, state⟩ :=
    Crew.plays_keeps (followed_stable runner crew.history) kept started begun
  have halting : Halting runner middle.history (caution before runner) middleStates middle :=
    ⟨cancelled, [], (List.append_nil _).symm, _, state, fun _ left => left⟩
  obtain ⟨_, -, halted, since, last, current, -, leaves⟩ :=
    Crew.plays_keeps (halting_stable runner middle.history _) middleKept halting continued
  have left : (caution before runner).Leaves (marks since runner) := by
    have done := leaves [] (.nothing current)
    rwa [List.append_nil] at done
  refine ⟨before, since, earlier, last, left, left.single.1, left.single.2, ?_, ?_⟩
  · -- A run that is cancelled from the start is a case of the same bound, with nothing before it.
    intro first
    have never : Halting runner crew.history .unchecked (Caution.onlyOf runner) crew :=
      ⟨first, [], (List.append_nil _).symm, _, Function.update_self .., fun _ left => left⟩
    obtain ⟨_, -, -, whole, all, current, -, leaves⟩ :=
      Crew.plays_keeps (halting_stable runner crew.history _) kept never
        ((Crew.plays_append begun later).trans continued)
    have nothing := leaves [] (.nothing current)
    have same : whole = before ++ since := by
      rw [last, earlier, List.append_assoc] at all
      exact (List.append_cancel_left all).symm
    rw [List.append_nil, same] at nothing
    cases none : marks (before ++ since) runner with
    | nil => rfl
    | cons mark rest =>
        rw [none] at nothing
        cases nothing
  · intro operation next begins
    obtain ⟨result, ends, refused⟩ := operation.endsAtOnce workspace
    have stillAwake : after.watcher? ≠ some runner := by
      rw [Crew.plays_watcher continued, Crew.plays_watcher begun]
      exact awake
    exact ⟨result, Crew.returns_of_cancelled halted stillAwake begins ends, refused⟩

def lateWorkspace : Workspace := ⟨"late", false⟩

def lateSpec : Workspace.Spec :=
  { object :=
      { kind := some .namespaceKind, metadata := { name := some "extra" }, data := .object [] } }

/-- One thread creates the namespace and one object, and the other thread cancels the run. -/
def lateCrew : Crew Bool Unit where
  session := { start := default, outside := () }
  programs thread :=
    if thread then .perform .cancel fun _ => .done ()
    else
      lateWorkspace.createNamespace.run.bind fun _ =>
        (lateWorkspace.createAll [lateSpec]).run.bind fun _ => .done ()

theorem lateCrew_createsIn :
    (lateCrew.programs false).CreatesIn lateWorkspace Set.univ :=
  .createNamespace (Set.mem_univ _) fun _ =>
    .createAll (fun _ _ _ _ => Set.mem_univ _) fun _ => .done ()

/-- The run is cancelled when the namespace is registered and not yet created. The creation is sent,
and the object is not created any more. -/
theorem cancellation_ends_creations_late :
    let middle := (lateCrew.plays (grantingOutside (.ok .deleted))
      [.act false, .act false, .act true]).get (by decide +kernel)
    let after := (middle.plays (grantingOutside (.ok .deleted))
      (List.replicate 3 (.act false))).get (by decide +kernel)
    (∃ since, after.history = middle.history ++ since ∧
      (caution middle.history false).Leaves (marks since false)) ∧
    ∃ result : Except Workspace.CreationError Unit,
      after.Returns (grantingOutside (.ok .deleted)) false (fun _ => .done ()) result ∧
      ∃ error, result = .error error ∧ error.isCancelled = true := by
  intro middle after
  have begun : lateCrew.plays (grantingOutside (.ok .deleted)) [.act false, .act false, .act true] =
      some middle := (Option.some_get _).symm
  have cancelled : middle.session.isCancelled = true := by decide +kernel
  have continued : middle.plays (grantingOutside (.ok .deleted)) (List.replicate 3 (.act false)) =
      some after := (Option.some_get _).symm
  have awake : lateCrew.watcher? ≠ some false := nofun
  obtain ⟨before, since, earlier, last, leaves, -, -, -, returns⟩ :=
    cancellation_ends_creations lateCrew_createsIn awake begun cancelled continued
  have same : middle.history = before := earlier
  refine ⟨⟨since, last, same ▸ leaves⟩, ?_⟩
  obtain ⟨result, returned, refused⟩ := returns (.createAll [lateSpec]) (fun _ => .done ()) rfl
  exact ⟨result, returned, refused ⟨lateSpec, rfl, _, rfl⟩⟩

end AddonCheck
