import AddonCheck.Proofs.Interleaving
import AddonCheck.Proofs.Milestones

/-
This file follows a program through its plan. Its agenda says which nodes it lists first, if it
lists any, and which milestones it works towards once their number is known. Whatever the answers
are, the exchanges of such a program follow the plan.
-/

namespace AddonCheck

/-- The object that an exchange asks to create. -/
def Exchange.creation? : Exchange → Option Cluster.Object
  | ⟨.create object, _⟩ => some object
  | _ => none

/-- The objects that exchanges ask to create, whatever the answers are. -/
def creations (exchanges : List Exchange) : List Cluster.Object :=
  exchanges.filterMap Exchange.creation?

theorem creations_append (first rest : List Exchange) :
    creations (first ++ rest) = creations first ++ creations rest := List.filterMap_append

theorem creations_snoc_of_none {exchanges : List Exchange} {exchange : Exchange}
    (none : exchange.creation? = none) :
    creations (exchanges ++ [exchange]) = creations exchanges := by
  simp [creations, none]

theorem creations_snoc_create (exchanges : List Exchange) (object : Cluster.Object)
    (answer : Except Cluster.Error Cluster.Creation) :
    creations (exchanges ++ [⟨.create object, answer⟩]) = creations exchanges ++ [object] :=
  creations_append exchanges [⟨.create object, answer⟩]

/-- The objects that a plan creates. -/
def objects (milestones : List Milestone) : List Cluster.Object :=
  milestones.filterMap Milestone.object?

theorem objects_append (first rest : List Milestone) :
    objects (first ++ rest) = objects first ++ objects rest := List.filterMap_append

/-- A request on which a plan depends. -/
def Request.isPlanning : Request → Bool
  | .create _ => true
  | .nodes _ => true
  | _ => false

theorem Request.isPlanning_of_isAside {request : Request} (aside : request.isAside = true) :
    request.isPlanning = false := by
  cases request with
  | delete resource => rfl
  | deliver message => rfl
  | _ => cases aside

theorem Request.isPlanning_of_isAwaited {request : Request} (awaited : request.isAwaited = true) :
    request.isPlanning = false := by
  cases request with
  | create object => cases awaited
  | nodes selector => cases awaited
  | _ => rfl

theorem Request.ne_nodes {request : Request} (unplanned : request.isPlanning = false)
    (selector : String) : request ≠ .nodes selector := by
  intro same
  rw [same] at unplanned
  cases unplanned

/-- What a program is going to do. -/
structure Agenda where
  /-- The selector of the nodes that are listed first. -/
  selector? : Option String
  /-- The plan, for a number of nodes. -/
  milestones : Nat → List Milestone
  milestones_ne_nil : ∀ nodes, milestones nodes ≠ []

/-- How far a program is with its agenda. -/
inductive Progress where
  | unlisted
  | towards (pending : List Milestone)
  | failed

namespace Progress

def onward : Progress → Progress
  | towards (_ :: rest) => towards rest
  | progress => progress

/-- A success leads on, and an error is the end of it. -/
def after {ε α : Type} (progress : Progress) : Except ε α → Progress
  | .ok _ => progress.onward
  | .error _ => failed

end Progress

namespace Agenda

variable {agenda : Agenda}

/-- Nodes are listed first, with the selector of the agenda. An object is created only when it is
the next milestone, and a wait is for the next milestone too. -/
def allows (agenda : Agenda) (progress : Progress) : Action → Prop
  | .ask (.nodes selector) => progress = .unlisted ∧ agenda.selector? = some selector
  | .ask (.create object) => ∃ rest, progress = .towards (.created object :: rest)
  | .ask request => request.isAside = true
  | .await condition => ∃ sight rest, progress = .towards (.seen sight :: rest) ∧
      sight.Decides condition
  | _ => True

def next (agenda : Agenda) (progress : Progress) : (action : Action) → action.Answer → Progress
  | .ask (.nodes _), (answer : Except Cluster.Error (List String)) =>
      match answer with
      | .ok nodes => .towards (agenda.milestones nodes.length)
      | .error _ => .failed
  | .ask (.create _), (answer : Except Cluster.Error Cluster.Creation) => progress.after answer
  | .await _, (answer : Except Poll.Error Unit) => progress.after answer
  | _, _ => progress

def discipline (agenda : Agenda) : Discipline Progress where
  allows := agenda.allows
  next := agenda.next

/-- An action aside is always allowed, and it is no progress. -/
theorem steady_of_isAside (agenda : Agenda) (progress : Progress) {action : Action}
    (aside : action.IsAside) :
    agenda.allows progress action ∧ ∀ answer, agenda.next progress action answer = progress := by
  cases action with
  | await condition => exact aside.elim
  | ask request =>
      cases request with
      | delete resource => exact ⟨aside, fun _ => rfl⟩
      | deliver message => exact ⟨aside, fun _ => rfl⟩
      | _ => cases aside
  | _ => exact ⟨trivial, fun _ => rfl⟩

/-- At the end of a plan, nothing but asides is allowed. -/
theorem isAside_of_allows {action : Action} (allowed : agenda.allows (.towards []) action) :
    action.IsAside := by
  cases action with
  | await condition =>
      obtain ⟨_, _, same, _⟩ := allowed
      cases same
  | ask request =>
      cases request with
      | nodes selector => cases allowed.1
      | create object =>
          obtain ⟨_, same⟩ := allowed
          cases same
      | _ => exact allowed
  | _ => trivial

/-- A program at the end of its plan ends, and nothing but asides is left of it. -/
theorem ends_of_keeps {α : Type} {program : Program α} {fit : Option α → Progress → Prop}
    (kept : program.Keeps agenda.discipline (.towards []) fit)
    (sound : ¬ fit none (.towards [])) :
    program.Ends Action.IsAside fun value => fit (some value) (.towards []) := by
  induction program with
  | done value => exact kept
  | crash => exact sound kept
  | perform action rest inductionHypothesis =>
      have aside : action.IsAside := isAside_of_allows kept.1
      refine ⟨aside, fun answer => inductionHypothesis answer ?_⟩
      have same : agenda.discipline.next (.towards []) action answer = .towards [] :=
        (agenda.steady_of_isAside (.towards []) aside).2 answer
      rw [← same]
      exact kept.2 answer

/-! ## The exchanges follow the plan -/

/-- The number of nodes is known before anything is created. -/
def Listed (agenda : Agenda) (nodes : Nat) (exchanges : List Exchange) : Prop :=
  ∀ selector ∈ agenda.selector?, creations exchanges = [] ∨
    ∃ listed, ⟨.nodes selector, .ok listed⟩ ∈ exchanges ∧ listed.length = nodes

/-- The nodes have been listed, if the agenda lists them. -/
structure Counted (agenda : Agenda) (nodes : Nat) (exchanges : List Exchange) : Prop where
  known : ∀ selector ∈ agenda.selector?,
    ∃ listed, ⟨.nodes selector, .ok listed⟩ ∈ exchanges ∧ listed.length = nodes
  unrefused : ∀ selector error, ⟨.nodes selector, .error error⟩ ∉ exchanges

/-- The exchanges create what is planned for the number of nodes, each object after all milestones
before it have been met, and nothing when the nodes cannot be listed. -/
structure Follows (agenda : Agenda) (nodes : Nat) (exchanges : List Exchange) : Prop where
  listed : agenda.Listed nodes exchanges
  creations : creations exchanges <+: objects (agenda.milestones nodes)
  order : ∀ before object answer after, exchanges = before ++ ⟨.create object, answer⟩ :: after →
    ∃ done rest, agenda.milestones nodes = done ++ .created object :: rest ∧
      AddonCheck.creations before = objects done ∧ Met done before
  refused : ∀ selector error, ⟨.nodes selector, .error error⟩ ∈ exchanges →
    AddonCheck.creations exchanges = []

variable {nodes : Nat} {exchanges : List Exchange} {exchange : Exchange}

theorem creations_snoc (unplanned : exchange.1.isPlanning = false) :
    AddonCheck.creations (exchanges ++ [exchange]) = AddonCheck.creations exchanges := by
  have none : exchange.creation? = none := by
    obtain ⟨request, answer⟩ := exchange
    cases request with
    | create object => cases unplanned
    | _ => rfl
  exact creations_snoc_of_none none

theorem Counted.snoc (counted : agenda.Counted nodes exchanges)
    (other : ∀ selector, exchange.1 ≠ .nodes selector) :
    agenda.Counted nodes (exchanges ++ [exchange]) where
  known selector lists := by
    obtain ⟨listed, member, length⟩ := counted.known selector lists
    exact ⟨listed, List.mem_append_left _ member, length⟩
  unrefused selector error member := by
    rcases List.mem_append.mp member with inside | last
    · exact counted.unrefused selector error inside
    · rw [← List.mem_singleton.mp last] at other
      exact other selector rfl

/-- As long as nothing is created, every plan is followed. -/
theorem follows_of_uncreated (uncreated : AddonCheck.creations exchanges = []) (nodes : Nat) :
    agenda.Follows nodes exchanges where
  listed _ _ := .inl uncreated
  creations := uncreated ▸ List.nil_prefix
  order before object answer after parts := by
    rw [parts, creations_append] at uncreated
    cases (List.append_eq_nil_iff.mp uncreated).2
  refused _ _ _ := uncreated

/-- An exchange on which no plan depends is no step of a plan. -/
theorem Follows.snoc (follows : agenda.Follows nodes exchanges)
    (unplanned : exchange.1.isPlanning = false) :
    agenda.Follows nodes (exchanges ++ [exchange]) where
  listed selector lists := by
    rw [creations_snoc unplanned]
    apply (follows.listed selector lists).imp_right
    intro found
    obtain ⟨listed, member, length⟩ := found
    exact ⟨listed, List.mem_append_left _ member, length⟩
  creations := by
    rw [creations_snoc unplanned]
    exact follows.creations
  order before object answer after parts := by
    rcases snoc_split parts with ⟨-, rfl, -⟩ | ⟨earlier, -, former⟩
    · cases unplanned
    · exact follows.order before object answer earlier former
  refused selector error member := by
    rw [creations_snoc unplanned]
    rcases List.mem_append.mp member with inside | last
    · exact follows.refused selector error inside
    · rw [← List.mem_singleton.mp last] at unplanned
      cases unplanned

/-- The next object of a plan may be created when the milestones before it have been met. -/
theorem Follows.create (follows : agenda.Follows nodes exchanges) {object : Cluster.Object}
    (answer : Except Cluster.Error Cluster.Creation) {done rest : List Milestone}
    (plan : agenda.milestones nodes = done ++ .created object :: rest) (met : Met done exchanges)
    (created : AddonCheck.creations exchanges = objects done)
    (counted : agenda.Counted nodes exchanges) :
    agenda.Follows nodes (exchanges ++ [⟨.create object, answer⟩]) where
  listed selector lists := by
    obtain ⟨listed, member, length⟩ := counted.known selector lists
    exact .inr ⟨listed, List.mem_append_left _ member, length⟩
  creations := by
    have planned : objects (agenda.milestones nodes) = objects done ++ object :: objects rest := by
      rw [plan, objects_append]
      rfl
    rw [creations_append, created, planned]
    exact (List.prefix_append_right_inj _).mpr ⟨objects rest, rfl⟩
  order before other otherAnswer after parts := by
    rcases snoc_split parts with ⟨rfl, same, -⟩ | ⟨earlier, -, former⟩
    · cases same
      exact ⟨done, rest, plan, created, met⟩
    · exact follows.order before other otherAnswer earlier former
  refused selector error member := by
    rcases List.mem_append.mp member with inside | last
    · exact (counted.unrefused selector error inside).elim
    · cases List.mem_singleton.mp last

/-- A program that has not listed its nodes has done nothing of its plan. -/
def Unlisted (exchanges : List Exchange) : Prop :=
  ∀ exchange ∈ exchanges, exchange.1.isAside = true

/-- A program on its way has met the milestones before those that are pending. -/
structure Underway (agenda : Agenda) (pending : List Milestone) (nodes : Nat)
    (exchanges : List Exchange) : Prop where
  counted : agenda.Counted nodes exchanges
  follows : agenda.Follows nodes exchanges
  remaining : remaining (agenda.milestones nodes) exchanges = pending
  created : ∃ done, agenda.milestones nodes = done ++ pending ∧
    AddonCheck.creations exchanges = objects done

/-- A program that has failed has not met its plan. -/
structure Short (agenda : Agenda) (nodes : Nat) (exchanges : List Exchange) : Prop where
  follows : agenda.Follows nodes exchanges
  unmet : AddonCheck.remaining (agenda.milestones nodes) exchanges ≠ []

/-- What the progress of a program says about its exchanges. -/
def Tracks (agenda : Agenda) : Progress → List Exchange → Prop
  | .unlisted, exchanges => Unlisted exchanges
  | .towards pending, exchanges => ∃ nodes, agenda.Underway pending nodes exchanges
  | .failed, exchanges => ∃ nodes, agenda.Short nodes exchanges

/-- A program begins with the list of its nodes, if it has one, and else with its plan. -/
def start (agenda : Agenda) : Progress :=
  match agenda.selector? with
  | some _ => .unlisted
  | none => .towards (agenda.milestones 0)

theorem tracks_start (agenda : Agenda) : agenda.Tracks agenda.start [] := by
  unfold start
  cases lists : agenda.selector? with
  | some selector => exact fun _ member => nomatch member
  | none =>
      have counted : agenda.Counted 0 [] := by
        constructor
        · intro selector listsToo
          rw [lists] at listsToo
          exact (Option.not_mem_none selector listsToo).elim
        · exact fun _ _ member => nomatch member
      exact ⟨0, counted, follows_of_uncreated rfl 0, rfl, [], rfl, rfl⟩

/-! A program that has not listed its nodes lists them. -/

theorem Unlisted.creations (unlisted : Unlisted exchanges) :
    AddonCheck.creations exchanges = [] := by
  apply List.filterMap_eq_nil_iff.mpr
  intro exchange member
  have aside := unlisted exchange member
  obtain ⟨request, answer⟩ := exchange
  cases request with
  | create object => cases aside
  | _ => rfl

theorem Unlisted.remaining (unlisted : Unlisted exchanges) (milestones : List Milestone) :
    AddonCheck.remaining milestones exchanges = milestones := by
  induction exchanges using List.reverseRecOn with
  | nil => rfl
  | append_singleton exchanges exchange inductionHypothesis =>
      rw [remaining_snoc, inductionHypothesis fun other member =>
        unlisted other (List.mem_append_left _ member)]
      have aside := unlisted exchange (List.mem_append_right _ List.mem_cons_self)
      exact reached_of_not fun milestone _ => milestone.not_isShownBy_of_isAside aside

theorem Unlisted.creations_nodes (unlisted : Unlisted exchanges) (selector : String)
    (answer : Except Cluster.Error (List String)) :
    AddonCheck.creations (exchanges ++ [⟨.nodes selector, answer⟩]) = [] := by
  rw [creations_append, unlisted.creations]
  rfl

theorem Unlisted.remaining_nodes (unlisted : Unlisted exchanges) (selector : String)
    (answer : Except Cluster.Error (List String)) (milestones : List Milestone) :
    AddonCheck.remaining milestones (exchanges ++ [⟨.nodes selector, answer⟩]) = milestones := by
  rw [remaining_snoc, unlisted.remaining]
  exact reached_of_not fun milestone _ => milestone.not_isShownBy_nodes selector answer

theorem Unlisted.underway (unlisted : Unlisted exchanges) {selector : String}
    (lists : agenda.selector? = some selector) (listed : List String) :
    agenda.Underway (agenda.milestones listed.length) listed.length
      (exchanges ++ [⟨.nodes selector, .ok listed⟩]) where
  follows := follows_of_uncreated (unlisted.creations_nodes selector _) _
  remaining := unlisted.remaining_nodes selector _ _
  created := ⟨[], rfl, unlisted.creations_nodes selector _⟩
  counted := by
    constructor
    · intro other listsToo
      obtain rfl : selector = other := Option.some.inj (lists.symm.trans listsToo)
      exact ⟨listed, List.mem_append_right _ List.mem_cons_self, rfl⟩
    · intro other error member
      rcases List.mem_append.mp member with inside | last
      · cases unlisted _ inside
      · cases List.mem_singleton.mp last

theorem Unlisted.short (unlisted : Unlisted exchanges) (selector : String)
    (error : Cluster.Error) :
    agenda.Short 0 (exchanges ++ [⟨.nodes selector, .error error⟩]) where
  follows := follows_of_uncreated (unlisted.creations_nodes selector _) _
  unmet := by
    rw [unlisted.remaining_nodes]
    exact agenda.milestones_ne_nil 0

/-! A program on its way reaches its next milestone, or it fails. -/

variable {pending rest : List Milestone}

theorem Underway.snoc (underway : agenda.Underway pending nodes exchanges)
    (unplanned : exchange.1.isPlanning = false)
    (unshown : ∀ milestone ∈ pending.head?, ¬ milestone.IsShownBy exchange) :
    agenda.Underway pending nodes (exchanges ++ [exchange]) where
  counted := underway.counted.snoc (Request.ne_nodes unplanned)
  follows := underway.follows.snoc unplanned
  remaining := by
    rw [remaining_snoc, underway.remaining]
    exact reached_of_not unshown
  created := by
    rw [creations_snoc unplanned]
    exact underway.created

/-- An exchange that shows the next milestone leads on to those after it. -/
theorem Underway.onward {milestone : Milestone}
    (underway : agenda.Underway (milestone :: rest) nodes exchanges)
    (counted : agenda.Counted nodes (exchanges ++ [exchange]))
    (follows : agenda.Follows nodes (exchanges ++ [exchange]))
    (shown : milestone.IsShownBy exchange)
    (creates : AddonCheck.creations [exchange] = objects [milestone]) :
    agenda.Underway rest nodes (exchanges ++ [exchange]) := by
  obtain ⟨done, plan, created⟩ := underway.created
  have further : agenda.milestones nodes = done ++ [milestone] ++ rest := by
    rw [plan, List.append_assoc]
    rfl
  have createdToo : AddonCheck.creations (exchanges ++ [exchange]) =
      objects (done ++ [milestone]) := by
    rw [creations_append, objects_append, created, creates]
  have left : AddonCheck.remaining (agenda.milestones nodes) (exchanges ++ [exchange]) = rest := by
    rw [remaining_snoc, underway.remaining]
    exact reached_of_isShownBy shown
  exact ⟨counted, follows, left, done ++ [milestone], further, createdToo⟩

theorem Underway.see {sight : Sight}
    (underway : agenda.Underway (.seen sight :: rest) nodes exchanges)
    (seen : sight.isSeenIn exchange) : agenda.Underway rest nodes (exchanges ++ [exchange]) := by
  have unplanned := Request.isPlanning_of_isAwaited (sight.isAwaited exchange seen)
  have counted := underway.counted.snoc (Request.ne_nodes unplanned)
  have nothing : AddonCheck.creations ([] ++ [exchange]) = [] := creations_snoc unplanned
  exact underway.onward counted (underway.follows.snoc unplanned) seen nothing

theorem Underway.follows_create {object : Cluster.Object}
    (underway : agenda.Underway (.created object :: rest) nodes exchanges)
    (answer : Except Cluster.Error Cluster.Creation) :
    agenda.Follows nodes (exchanges ++ [⟨.create object, answer⟩]) := by
  obtain ⟨done, plan, created⟩ := underway.created
  have met : Met done exchanges := by
    apply met_of_remaining
    rw [← plan]
    exact underway.remaining
  exact underway.follows.create answer plan met created underway.counted

theorem Underway.create {object : Cluster.Object}
    (underway : agenda.Underway (.created object :: rest) nodes exchanges)
    (creation : Cluster.Creation) :
    agenda.Underway rest nodes (exchanges ++ [⟨.create object, .ok creation⟩]) := by
  have counted : agenda.Counted nodes (exchanges ++ [⟨.create object, .ok creation⟩]) :=
    underway.counted.snoc fun _ => Request.noConfusion
  exact underway.onward counted (underway.follows_create (.ok creation)) ⟨creation, rfl⟩ rfl

theorem Underway.refuse {object : Cluster.Object}
    (underway : agenda.Underway (.created object :: rest) nodes exchanges) (error : Cluster.Error) :
    agenda.Short nodes (exchanges ++ [⟨.create object, .error error⟩]) := by
  have unshown : ∀ milestone ∈ (Milestone.created object :: rest).head?,
      ¬ milestone.IsShownBy ⟨.create object, .error error⟩ := by
    intro milestone isHead shown
    cases isHead
    obtain ⟨creation, same⟩ := shown
    cases same
  have unmet : AddonCheck.remaining (agenda.milestones nodes)
      (exchanges ++ [⟨.create object, .error error⟩]) ≠ [] := by
    rw [remaining_snoc, underway.remaining, reached_of_not unshown]
    exact List.cons_ne_nil _ _
  exact ⟨underway.follows_create (.error error), unmet⟩

theorem Underway.giveUp (underway : agenda.Underway pending nodes exchanges)
    (left : pending ≠ []) : agenda.Short nodes exchanges :=
  ⟨underway.follows, underway.remaining ▸ left⟩

/-- Nothing makes up for a failure. -/
theorem Short.snoc (short : agenda.Short nodes exchanges)
    (aside : exchange.1.isAside = true) : agenda.Short nodes (exchanges ++ [exchange]) := by
  have unmet : AddonCheck.remaining (agenda.milestones nodes) (exchanges ++ [exchange]) ≠ [] := by
    rw [remaining_snoc, reached_of_not fun milestone _ => milestone.not_isShownBy_of_isAside aside]
    exact short.unmet
  exact ⟨short.follows.snoc (Request.isPlanning_of_isAside aside), unmet⟩

/-- A request aside is no progress. -/
theorem Tracks.aside {progress : Progress} (tracks : agenda.Tracks progress exchanges)
    (aside : exchange.1.isAside = true) : agenda.Tracks progress (exchanges ++ [exchange]) := by
  cases progress with
  | unlisted =>
      intro other member
      rcases List.mem_append.mp member with inside | last
      · exact tracks other inside
      · rw [List.mem_singleton.mp last]
        exact aside
  | towards pending =>
      obtain ⟨nodes, underway⟩ := tracks
      exact ⟨nodes, underway.snoc (Request.isPlanning_of_isAside aside)
        fun milestone _ => milestone.not_isShownBy_of_isAside aside⟩
  | failed =>
      obtain ⟨nodes, short⟩ := tracks
      exact ⟨nodes, short.snoc aside⟩

/-- Tracked exchanges follow the plan, and they meet it just at the end of the progress. -/
theorem Tracks.follows {progress : Progress} (tracks : agenda.Tracks progress exchanges) :
    ∃ nodes, agenda.Follows nodes exchanges ∧
      (progress = .towards [] ↔ Met (agenda.milestones nodes) exchanges) := by
  simp only [← remaining_eq_nil_iff]
  cases progress with
  | unlisted =>
      refine ⟨0, follows_of_uncreated (Unlisted.creations tracks) 0, ?_⟩
      rw [Unlisted.remaining tracks]
      exact iff_of_false nofun (agenda.milestones_ne_nil 0)
  | towards pending =>
      obtain ⟨nodes, underway⟩ := tracks
      refine ⟨nodes, underway.follows, ?_⟩
      rw [underway.remaining, Progress.towards.injEq]
  | failed =>
      obtain ⟨nodes, short⟩ := tracks
      exact ⟨nodes, short.follows, iff_of_false nofun short.unmet⟩

/-- The exchanges of a program are tracked by its progress. -/
theorem tracks_stable (agenda : Agenda) : Program.Stable agenda.discipline agenda.Tracks where
  meanwhile request answer tracks aside := tracks.aside aside
  act action answer tracks allowed silent := by
    cases action with
    | ask request => exact silent.elim
    | await condition => exact silent.elim
    | _ => exact tracks
  ask request answer tracks allowed := by
    cases request with
    | nodes selector =>
        obtain ⟨rfl, lists⟩ := allowed
        rcases answer with error | listed
        · exact ⟨0, Unlisted.short tracks selector error⟩
        · exact ⟨listed.length, Unlisted.underway tracks lists listed⟩
    | create object =>
        obtain ⟨rest, rfl⟩ := allowed
        obtain ⟨nodes, underway⟩ := tracks
        rcases answer with error | creation
        · exact ⟨nodes, underway.refuse error⟩
        · exact ⟨nodes, underway.create creation⟩
    | _ => exact tracks.aside allowed
  unshown condition answer tracks allowed undecided := by
    obtain ⟨sight, rest, rfl, decides⟩ := allowed
    obtain ⟨nodes, underway⟩ := tracks
    have unseen : ∀ milestone ∈ (Milestone.seen sight :: rest).head?,
        ¬ milestone.IsShownBy ⟨condition.request, answer⟩ := by
      intro milestone isHead seen
      cases isHead
      exact undecided ((decides.isSeenIn_iff answer).mp seen)
    exact ⟨nodes, underway.snoc (Request.isPlanning_of_isAwaited decides.isAwaited) unseen⟩
  shown condition answer tracks allowed decided := by
    obtain ⟨sight, rest, rfl, decides⟩ := allowed
    obtain ⟨nodes, underway⟩ := tracks
    exact ⟨nodes, underway.see ((decides.isSeenIn_iff answer).mpr decided)⟩
  givenUp condition error tracks allowed := by
    obtain ⟨sight, rest, rfl, -⟩ := allowed
    obtain ⟨nodes, underway⟩ := tracks
    exact ⟨nodes, underway.giveUp (List.cons_ne_nil _ _)⟩

end Agenda

end AddonCheck
