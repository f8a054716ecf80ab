import AddonCheck.Proofs.Discipline

/-
This file holds the courses of programs: what a program asks and what it is answered, whatever the
outside, the clock and the token of the run do. A wait asks its request again and again, until an
answer settles it or it is given up.
-/

namespace AddonCheck

/-- A request and its answer. -/
abbrev Exchange := (request : Request) × request.Answer

/-- An action that asks nothing of the outside. -/
def Action.IsSilent : Action → Prop
  | .ask _ => False
  | .await _ => False
  | _ => True

/-- A request of a teardown or of a notification. -/
def Request.isAside : Request → Bool
  | .delete _ => true
  | .deliver _ => true
  | _ => false

/-- An action that asks for nothing but a deletion or a delivery. -/
def Action.IsAside : Action → Prop
  | .ask request => request.isAside = true
  | .await _ => False
  | _ => True

namespace Program

variable {α φ : Type}

/-- A course leads from a program to what is left of it, and it lists the exchanges in between. -/
inductive Course : Program α → List Exchange → Program α → Prop where
  | here (program : Program α) : Course program [] program
  /-- A watcher may tear down and notify at any time. -/
  | meanwhile {program last : Program α} {exchanges : List Exchange} {request : Request}
      (aside : request.isAside = true) (answer : request.Answer)
      (rest : Course program exchanges last) :
      Course program (⟨request, answer⟩ :: exchanges) last
  | act {action : Action} {next : action.Answer → Program α} {exchanges : List Exchange}
      {last : Program α} (silent : action.IsSilent) (answer : action.Answer)
      (rest : Course (next answer) exchanges last) : Course (.perform action next) exchanges last
  | ask {request : Request} {next : request.Answer → Program α} {exchanges : List Exchange}
      {last : Program α} (answer : request.Answer) (rest : Course (next answer) exchanges last) :
      Course (.perform (.ask request) next) (⟨request, answer⟩ :: exchanges) last
  /-- The wait goes on after an answer that decides nothing. -/
  | pending {condition : Condition} {next : Except Poll.Error Unit → Program α}
      {exchanges : List Exchange} {last : Program α} {answer : condition.request.Answer}
      (undecided : (condition.judge answer).probe = .pending)
      (rest : Course (.perform (.await condition) next) exchanges last) :
      Course (.perform (.await condition) next) (⟨condition.request, answer⟩ :: exchanges) last
  | converged {condition : Condition} {next : Except Poll.Error Unit → Program α}
      {exchanges : List Exchange} {last : Program α} {answer : condition.request.Answer}
      (shown : (condition.judge answer).probe = .converged)
      (rest : Course (next (.ok ())) exchanges last) :
      Course (.perform (.await condition) next) (⟨condition.request, answer⟩ :: exchanges) last
  | fatal {condition : Condition} {next : Except Poll.Error Unit → Program α}
      {exchanges : List Exchange} {last : Program α} {answer : condition.request.Answer}
      {reason : String} (refused : (condition.judge answer).probe = .fatal reason)
      (rest : Course (next (.error (.fatal reason))) exchanges last) :
      Course (.perform (.await condition) next) (⟨condition.request, answer⟩ :: exchanges) last
  /-- A wait may be given up at any time, because its time is over or the run is cancelled. -/
  | givenUp {condition : Condition} {next : Except Poll.Error Unit → Program α}
      {exchanges : List Exchange} {last : Program α} (error : Poll.Error)
      (rest : Course (next (.error error)) exchanges last) :
      Course (.perform (.await condition) next) exchanges last

/-- What holds of the state of a program and of its exchanges, and is kept by every step of a course
of a program that keeps the discipline. -/
structure Stable (discipline : Discipline φ) (assertion : φ → List Exchange → Prop) : Prop where
  meanwhile {state : φ} {before : List Exchange} (request : Request) (answer : request.Answer) :
    assertion state before → request.isAside = true →
      assertion state (before ++ [⟨request, answer⟩])
  act {state : φ} {before : List Exchange} (action : Action) (answer : action.Answer) :
    assertion state before → discipline.allows state action → action.IsSilent →
      assertion (discipline.next state action answer) before
  ask {state : φ} {before : List Exchange} (request : Request) (answer : request.Answer) :
    assertion state before → discipline.allows state (.ask request) →
      assertion (discipline.next state (.ask request) answer) (before ++ [⟨request, answer⟩])
  unshown {state : φ} {before : List Exchange} (condition : Condition)
      (answer : condition.request.Answer) :
    assertion state before → discipline.allows state (.await condition) →
      (condition.judge answer).probe ≠ .converged →
      assertion state (before ++ [⟨condition.request, answer⟩])
  shown {state : φ} {before : List Exchange} (condition : Condition)
      (answer : condition.request.Answer) :
    assertion state before → discipline.allows state (.await condition) →
      (condition.judge answer).probe = .converged →
      assertion (discipline.next state (.await condition) (.ok ()))
        (before ++ [⟨condition.request, answer⟩])
  givenUp {state : φ} {before : List Exchange} (condition : Condition) (error : Poll.Error) :
    assertion state before → discipline.allows state (.await condition) →
      assertion (discipline.next state (.await condition) (.error error)) before

/-- What is stable and holds at first holds wherever a course leads. -/
theorem Course.keeps {discipline : Discipline φ} {assertion : φ → List Exchange → Prop}
    {fit : Option α → φ → Prop} {program last : Program α} {before exchanges : List Exchange}
    {state : φ} (stable : Stable discipline assertion) (course : program.Course exchanges last)
    (kept : program.Keeps discipline state fit) (holds : assertion state before) :
    ∃ state, last.Keeps discipline state fit ∧ assertion state (before ++ exchanges) := by
  induction course generalizing state before with
  | here program => exact ⟨state, kept, (List.append_nil before).symm ▸ holds⟩
  | @meanwhile program last exchanges request aside answer rest inductionHypothesis =>
      rw [List.append_cons]
      exact inductionHypothesis kept (stable.meanwhile request answer holds aside)
  | @act action next exchanges last silent answer rest inductionHypothesis =>
      exact inductionHypothesis (kept.2 answer) (stable.act action answer holds kept.1 silent)
  | @ask request next exchanges last answer rest inductionHypothesis =>
      rw [List.append_cons]
      exact inductionHypothesis (kept.2 answer) (stable.ask request answer holds kept.1)
  | @pending condition next exchanges last answer undecided rest inductionHypothesis =>
      have unshown : (condition.judge answer).probe ≠ .converged := by
        rw [undecided]
        exact Probe.noConfusion
      rw [List.append_cons]
      exact inductionHypothesis kept (stable.unshown condition answer holds kept.1 unshown)
  | @converged condition next exchanges last answer shown rest inductionHypothesis =>
      rw [List.append_cons]
      exact inductionHypothesis (kept.2 (.ok ())) (stable.shown condition answer holds kept.1 shown)
  | @fatal condition next exchanges last answer reason refused rest inductionHypothesis =>
      have unshown : (condition.judge answer).probe ≠ .converged := by
        rw [refused]
        exact Probe.noConfusion
      have asked := stable.unshown condition answer holds kept.1 unshown
      rw [List.append_cons]
      exact inductionHypothesis (kept.2 (.error (.fatal reason)))
        (stable.givenUp condition (.fatal reason) asked kept.1)
  | @givenUp condition next exchanges last error rest inductionHypothesis =>
      exact inductionHypothesis (kept.2 (.error error))
        (stable.givenUp condition error holds kept.1)

/-- A course goes on with every course of what is left. -/
theorem Course.append {program middle last : Program α} {exchanges later : List Exchange}
    (course : program.Course exchanges middle) (rest : middle.Course later last) :
    program.Course (exchanges ++ later) last := by
  induction course with
  | here program => exact rest
  | meanwhile aside answer _ inductionHypothesis =>
      exact .meanwhile aside answer (inductionHypothesis rest)
  | act silent answer _ inductionHypothesis => exact .act silent answer (inductionHypothesis rest)
  | ask answer _ inductionHypothesis => exact .ask answer (inductionHypothesis rest)
  | pending undecided _ inductionHypothesis => exact .pending undecided (inductionHypothesis rest)
  | converged shown _ inductionHypothesis => exact .converged shown (inductionHypothesis rest)
  | fatal refused _ inductionHypothesis => exact .fatal refused (inductionHypothesis rest)
  | givenUp error _ inductionHypothesis => exact .givenUp error (inductionHypothesis rest)

theorem Course.meanwhiles {program last : Program α} {asides exchanges : List Exchange}
    (aside : ∀ exchange ∈ asides, exchange.1.isAside = true)
    (rest : program.Course exchanges last) : program.Course (asides ++ exchanges) last := by
  induction asides with
  | nil => exact rest
  | cons exchange asides inductionHypothesis =>
      have others := inductionHypothesis fun other member =>
        aside other (List.mem_cons_of_mem _ member)
      exact .meanwhile (aside exchange List.mem_cons_self) exchange.2 others

/-- A program that asks for nothing but asides has no other exchanges. -/
theorem Course.asides {program last : Program α} {exchanges : List Exchange}
    (course : program.Course exchanges last) (uses : program.Uses Action.IsAside) :
    ∀ exchange ∈ exchanges, exchange.1.isAside = true := by
  induction course with
  | here program => exact fun _ member => nomatch member
  | meanwhile aside answer _ inductionHypothesis =>
      exact List.forall_mem_cons.mpr ⟨aside, inductionHypothesis uses⟩
  | act silent answer _ inductionHypothesis => exact inductionHypothesis (uses.2 answer)
  | ask answer _ inductionHypothesis =>
      exact List.forall_mem_cons.mpr ⟨uses.1, inductionHypothesis (uses.2 answer)⟩
  | pending _ _ _ => exact uses.1.elim
  | converged _ _ _ => exact uses.1.elim
  | fatal _ _ _ => exact uses.1.elim
  | givenUp _ _ _ => exact uses.1.elim

end Program

end AddonCheck
