import AddonCheck.Program

/-
This file holds disciplines of threads. A discipline follows what a thread does with a state of its
own, and says in each state what the thread may do next. A program that keeps a discipline keeps it
whatever its actions are answered.
-/

namespace AddonCheck

/-- What a thread may do in a state, and the state that it is in afterwards. -/
structure Discipline (φ : Type) where
  allows : φ → Action → Prop
  next : φ → (action : Action) → action.Answer → φ

/-- The same discipline, from which a thread may also be free. -/
def Discipline.optional {φ : Type} (discipline : Discipline φ) : Discipline (Option φ) where
  allows state? action := ∀ state ∈ state?, discipline.allows state action
  next state? action answer := state?.map fun state => discipline.next state action answer

/-- The same discipline, in which only actions of a kind are allowed. -/
def Discipline.also {φ : Type} (discipline : Discipline φ) (kind : Action → Prop) :
    Discipline φ where
  allows state action := discipline.allows state action ∧ kind action
  next := discipline.next

/-- The same discipline, beside which threads without a state perform actions of a kind alone. -/
def Discipline.beside {φ : Type} (discipline : Discipline φ) (kind : Action → Prop) :
    Discipline (Option φ) where
  allows
    | none, action => kind action
    | some state, action => discipline.allows state action
  next state? action answer := state?.map fun state => discipline.next state action answer

namespace Program

variable {α β φ : Type} {discipline : Discipline φ}

/-- From a state on, the program does only what is allowed, and it ends in a state that is fit for
its end. An unexpected end has no value. -/
def Keeps (discipline : Discipline φ) : Program α → φ → (Option α → φ → Prop) → Prop
  | done value, state, fit => fit (some value) state
  | crash, state, fit => fit none state
  | perform action rest, state, fit =>
      discipline.allows state action ∧
        ∀ answer, (rest answer).Keeps discipline (discipline.next state action answer) fit

/-- What is fit for an end is fit for it under every weaker condition. -/
theorem Keeps.mono {program : Program α} {state : φ} {fit weaker : Option α → φ → Prop}
    (kept : program.Keeps discipline state fit)
    (implies : ∀ result state, fit result state → weaker result state) :
    program.Keeps discipline state weaker := by
  induction program generalizing state with
  | done value => exact implies _ _ kept
  | crash => exact implies _ _ kept
  | perform action rest inductionHypothesis =>
      exact ⟨kept.1, fun answer => inductionHypothesis answer (kept.2 answer)⟩

/-- A program that keeps a discipline keeps every discipline that allows as much from related
states. -/
theorem Keeps.simulate {ψ : Type} {other : Discipline ψ} {relation : φ → ψ → Prop}
    {program : Program α} {state : φ} {image : ψ} {fit : Option α → φ → Prop}
    (kept : program.Keeps discipline state fit) (related : relation state image)
    (steps : ∀ state image action, relation state image → discipline.allows state action →
      other.allows image action ∧
        ∀ answer, relation (discipline.next state action answer) (other.next image action answer)) :
    program.Keeps other image fun result image =>
      ∃ state, relation state image ∧ fit result state := by
  induction program generalizing state image with
  | done value => exact ⟨state, related, kept⟩
  | crash => exact ⟨state, related, kept⟩
  | perform action rest inductionHypothesis =>
      obtain ⟨allowed, onward⟩ := steps state image action related kept.1
      exact ⟨allowed, fun answer => inductionHypothesis answer (kept.2 answer) (onward answer)⟩

/-- A program that keeps a discipline keeps it when others are free from it. -/
theorem Keeps.optional {program : Program α} {state : φ} {fit : Option α → φ → Prop}
    (kept : program.Keeps discipline state fit) :
    program.Keeps discipline.optional (some state) fun _ _ => True := by
  induction program generalizing state with
  | done value => trivial
  | crash => trivial
  | perform action rest inductionHypothesis =>
      refine ⟨fun _ same => ?_, fun answer => inductionHypothesis answer (kept.2 answer)⟩
      cases same
      exact kept.1

/-- Whoever is free from a discipline may do anything. -/
theorem keeps_optional_none (program : Program α) :
    program.Keeps discipline.optional none fun _ _ => True := by
  induction program with
  | done value => trivial
  | crash => trivial
  | perform action rest inductionHypothesis =>
      exact ⟨fun _ none => (Option.not_mem_none _ none).elim, inductionHypothesis⟩

/-- A sequence keeps a discipline when its first part keeps it up to a state from which the rest
keeps it. -/
theorem Keeps.bind {program : Program α} {next : α → Program β} {state : φ}
    {middle : Option α → φ → Prop} {fit : Option β → φ → Prop}
    (first : program.Keeps discipline state middle)
    (rest : ∀ value state, middle (some value) state → (next value).Keeps discipline state fit)
    (crashed : ∀ state, middle none state → fit none state) :
    (program.bind next).Keeps discipline state fit := by
  induction program generalizing state with
  | done value => exact rest value state first
  | crash => exact crashed state first
  | perform action following inductionHypothesis =>
      exact ⟨first.1, fun answer => inductionHypothesis answer (first.2 answer)⟩

/-- A sequence whose first part ends in one state goes on from there. -/
theorem Keeps.bind_at {program : Program α} {next : α → Program β} {state middle : φ}
    {fit : Option β → φ → Prop}
    (first : program.Keeps discipline state fun _ after => after = middle)
    (crashed : fit none middle) (rest : ∀ value, (next value).Keeps discipline middle fit) :
    (program.bind next).Keeps discipline state fit := by
  apply first.bind
  · intro value after same
    rw [same]
    exact rest value
  · intro after same
    rw [same]
    exact crashed

/-- An unexpected end leaves its state to the program that cleans up after it. -/
theorem Keeps.onCrash {program : Program α} {cleanup : Program Unit} {state : φ}
    {middle fit : Option α → φ → Prop} (first : program.Keeps discipline state middle)
    (ended : ∀ value state, middle (some value) state → fit (some value) state)
    (crashed : ∀ state, middle none state →
      cleanup.Keeps discipline state fun _ state => fit none state) :
    (program.onCrash cleanup).Keeps discipline state fit := by
  induction program generalizing state with
  | done value => exact ended value state first
  | crash => exact (crashed state first).bind (fun _ _ fits => fits) fun _ fits => fits
  | perform action following inductionHypothesis =>
      exact ⟨first.1, fun answer => inductionHypothesis answer (first.2 answer)⟩

/-- Every action of the program is of a kind, whatever the answers are. -/
def Uses (kind : Action → Prop) : Program α → Prop
  | done _ => True
  | crash => True
  | perform action rest => kind action ∧ ∀ answer, (rest answer).Uses kind

theorem Uses.mono {kind wider : Action → Prop} {program : Program α} (uses : program.Uses kind)
    (implies : ∀ action, kind action → wider action) : program.Uses wider := by
  induction program with
  | done value => trivial
  | crash => trivial
  | perform action following inductionHypothesis =>
      exact ⟨implies action uses.1, fun answer => inductionHypothesis answer (uses.2 answer)⟩

theorem Uses.bind {kind : Action → Prop} {program : Program α} {next : α → Program β}
    (first : program.Uses kind) (rest : ∀ value, (next value).Uses kind) :
    (program.bind next).Uses kind := by
  induction program with
  | done value => exact rest value
  | crash => trivial
  | perform action following inductionHypothesis =>
      exact ⟨first.1, fun answer => inductionHypothesis answer (first.2 answer)⟩

theorem Uses.onCrash {kind : Action → Prop} {program : Program α} {cleanup : Program Unit}
    (first : program.Uses kind) (cleans : cleanup.Uses kind) :
    (program.onCrash cleanup).Uses kind := by
  induction program with
  | done value => trivial
  | crash => exact cleans.bind fun _ => trivial
  | perform action following inductionHypothesis =>
      exact ⟨first.1, fun answer => inductionHypothesis answer (first.2 answer)⟩

/-- The program performs only actions of a kind, and it ends with a value that is fit. -/
def Ends (kind : Action → Prop) (fit : α → Prop) : Program α → Prop
  | done value => fit value
  | crash => False
  | perform action rest => kind action ∧ ∀ answer, (rest answer).Ends kind fit

theorem Ends.bind {program : Program α} {next : α → Program β} {middle : α → Prop}
    {fit : β → Prop} (first : program.Ends kind middle)
    (rest : ∀ value, middle value → (next value).Ends kind fit) :
    (program.bind next).Ends kind fit := by
  induction program with
  | done value => exact rest value first
  | crash => exact first.elim
  | perform action following inductionHypothesis =>
      exact ⟨first.1, fun answer => inductionHypothesis answer (first.2 answer)⟩

theorem Ends.mono {kind : Action → Prop} {fit weaker : α → Prop} {program : Program α}
    (ends : program.Ends kind fit) (implies : ∀ value, fit value → weaker value) :
    program.Ends kind weaker := by
  induction program with
  | done value => exact implies value ends
  | crash => exact ends.elim
  | perform action following inductionHypothesis =>
      exact ⟨ends.1, fun answer => inductionHypothesis answer (ends.2 answer)⟩

theorem Ends.wider {kind wider : Action → Prop} {fit : α → Prop} {program : Program α}
    (ends : program.Ends kind fit) (implies : ∀ action, kind action → wider action) :
    program.Ends wider fit := by
  induction program with
  | done value => exact ends
  | crash => exact ends.elim
  | perform action following inductionHypothesis =>
      exact ⟨implies action ends.1, fun answer => inductionHypothesis answer (ends.2 answer)⟩

/-- What does not end unexpectedly leaves nothing to be cleaned up. -/
theorem Ends.onCrash_eq {kind : Action → Prop} {fit : α → Prop} {program : Program α}
    (ends : program.Ends kind fit) (cleanup : Program Unit) :
    program.onCrash cleanup = program := by
  induction program with
  | done value => rfl
  | crash => exact ends.elim
  | perform action following inductionHypothesis =>
      exact congrArg (perform action) (funext fun answer =>
        inductionHypothesis answer (ends.2 answer))

theorem Ends.uses {kind : Action → Prop} {fit : α → Prop} {program : Program α}
    (ends : program.Ends kind fit) : program.Uses kind := by
  induction program with
  | done value => trivial
  | crash => trivial
  | perform action following inductionHypothesis =>
      exact ⟨ends.1, fun answer => inductionHypothesis answer (ends.2 answer)⟩

/-- Actions that are allowed in a state and leave it as it is can be performed in any number. -/
theorem Uses.keeps {kind : Action → Prop} {program : Program α} {state : φ}
    (uses : program.Uses kind)
    (steady : ∀ action, kind action →
      discipline.allows state action ∧ ∀ answer, discipline.next state action answer = state) :
    program.Keeps discipline state fun _ after => after = state := by
  induction program with
  | done value => rfl
  | crash => rfl
  | perform action rest inductionHypothesis =>
      obtain ⟨allowed, unchanged⟩ := steady action uses.1
      refine ⟨allowed, fun answer => ?_⟩
      rw [unchanged answer]
      exact inductionHypothesis answer (uses.2 answer)

/-- A program that keeps a discipline with actions of a kind keeps it when only these are allowed. -/
theorem Keeps.also {kind : Action → Prop} {program : Program α} {state : φ}
    {fit : Option α → φ → Prop} (kept : program.Keeps discipline state fit)
    (uses : program.Uses kind) : program.Keeps (discipline.also kind) state fit := by
  induction program generalizing state with
  | done value => exact kept
  | crash => exact kept
  | perform action rest inductionHypothesis =>
      exact ⟨⟨kept.1, uses.1⟩, fun answer => inductionHypothesis answer (kept.2 answer)
        (uses.2 answer)⟩

theorem Keeps.beside {program : Program α} {state : φ} {fit : Option α → φ → Prop}
    (kept : program.Keeps discipline state fit) (kind : Action → Prop) :
    program.Keeps (discipline.beside kind) (some state) fun result state? =>
      ∃ state, state? = some state ∧ fit result state := by
  induction program generalizing state with
  | done value => exact ⟨state, rfl, kept⟩
  | crash => exact ⟨state, rfl, kept⟩
  | perform action rest inductionHypothesis =>
      exact ⟨kept.1, fun answer => inductionHypothesis answer (kept.2 answer)⟩

/-- Actions of the kind are all that a thread without a state needs. -/
theorem Uses.keeps_beside {kind : Action → Prop} {program : Program α}
    (uses : program.Uses kind) :
    program.Keeps (discipline.beside kind) none fun _ state? => state? = none :=
  uses.keeps fun _ isKind => ⟨isKind, fun _ => rfl⟩

end Program

end AddonCheck
