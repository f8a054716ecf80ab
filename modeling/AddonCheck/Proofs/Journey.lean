import AddonCheck.Proofs.Interleaving
import AddonCheck.Proofs.Recording

/-
This file follows one thread of a crew through its program. Its journey lists everything that the
thread meets: its actions with their answers, and each look at what it waits for.
-/

namespace AddonCheck

/-- What a thread meets: an action with its answer, or one look at what it waits for. -/
inductive Encounter where
  | did (action : Action) (answer : action.Answer)
  | looked (condition : Condition) (answer : condition.request.Answer)

namespace Encounter

/-- The action that the thread is about when it meets something. -/
def action : Encounter → Action
  | did action _ => action
  | looked condition _ => .await condition

def exchange? : Encounter → Option Exchange
  | did (.ask request) answer => some ⟨request, answer⟩
  | did _ _ => none
  | looked condition answer => some ⟨condition.request, answer⟩

end Encounter

/-- What is asked beside deletions and deliveries. -/
def asked (exchanges : List Exchange) : List Exchange :=
  exchanges.filter fun exchange => !exchange.1.isAside

theorem asked_append (first rest : List Exchange) :
    asked (first ++ rest) = asked first ++ asked rest := List.filter_append ..

namespace Program

variable {α β φ : Type}

/-- A journey leads from a program to what is left of it, and it lists what is met in between. -/
inductive Journey : Program α → List Encounter → Program α → Prop where
  | here (program : Program α) : Journey program [] program
  | act {action : Action} {next : action.Answer → Program α} {encounters : List Encounter}
      {last : Program α} (answer : action.Answer) (rest : Journey (next answer) encounters last) :
      Journey (.perform action next) (.did action answer :: encounters) last
  /-- The thread goes on waiting after it has looked. -/
  | look {condition : Condition} {next : Except Poll.Error Unit → Program α}
      {encounters : List Encounter} {last : Program α} (answer : condition.request.Answer)
      (rest : Journey (.perform (.await condition) next) encounters last) :
      Journey (.perform (.await condition) next) (.looked condition answer :: encounters) last

namespace Journey

theorem append {program middle last : Program α} {encounters later : List Encounter}
    (journey : program.Journey encounters middle) (rest : middle.Journey later last) :
    program.Journey (encounters ++ later) last := by
  induction journey with
  | here program => exact rest
  | act answer _ inductionHypothesis => exact .act answer (inductionHypothesis rest)
  | look answer _ inductionHypothesis => exact .look answer (inductionHypothesis rest)

/-- What is left on a journey performs only actions of the same kind and ends with a fit value. -/
theorem ends {kind : Action → Prop} {fit : α → Prop} {program last : Program α}
    {encounters : List Encounter} (journey : program.Journey encounters last)
    (ends : program.Ends kind fit) : last.Ends kind fit := by
  induction journey with
  | here program => exact ends
  | act answer _ inductionHypothesis => exact inductionHypothesis (ends.2 answer)
  | look answer _ inductionHypothesis => exact inductionHypothesis ends

/-- What is made of the value in the end meets nothing. -/
theorem of_map {program : Program α} {change : α → β} {last : Program β}
    {encounters : List Encounter}
    (journey : (program.bind fun value => .done (change value)).Journey encounters last) :
    ∃ left, program.Journey encounters left ∧
      last = left.bind fun value => .done (change value) := by
  generalize whole : program.bind (fun value => .done (change value)) = mapped at journey
  induction journey generalizing program with
  | here mapped => exact ⟨program, .here program, whole.symm⟩
  | act answer _ inductionHypothesis =>
      cases program with
      | done value => cases whole
      | crash => cases whole
      | perform action next =>
          cases whole
          obtain ⟨left, rest, same⟩ := inductionHypothesis rfl
          exact ⟨left, .act answer rest, same⟩
  | look answer _ inductionHypothesis =>
      cases program with
      | done value => cases whole
      | crash => cases whole
      | perform action next =>
          cases whole
          have again : (perform _ next).bind (fun value => .done (change value)) =
              perform _ fun answer => (next answer).bind fun value => .done (change value) := rfl
          obtain ⟨left, rest, same⟩ := inductionHypothesis again
          exact ⟨left, .look answer rest, same⟩

end Journey

end Program

namespace Crew

variable {ι σ : Type} [DecidableEq ι]

/-- What a thread meets in a turn, if the turn is its own. -/
def encounter? (outside : Outside σ) (thread : ι) (crew : Crew ι σ) : Turn ι → Option Encounter
  | .act other =>
      if other = thread then
        match crew.programs thread with
        | .perform action _ =>
            (crew.session.step outside Session.still 0 action).1.map (Encounter.did action)
        | _ => none
      else none
  | .evaluate other =>
      if other = thread then
        match crew.programs thread with
        | .perform (.await condition) _ =>
            some (.looked condition
              (outside.reply condition.request crew.session.outside).1.answer)
        | _ => none
      else none
  | .settle other answer =>
      if other = thread then
        match crew.programs thread with
        | .perform (.await condition) _ => some (.did (.await condition) answer)
        | _ => none
      else none
  | _ => none

/-- What a thread meets in the turns of its crew. -/
def encounters (outside : Outside σ) (thread : ι) : Crew ι σ → List (Turn ι) → List Encounter
  | _, [] => []
  | crew, turn :: rest =>
      (crew.encounter? outside thread turn).toList ++
        ((crew.play outside turn).elim [] fun after => encounters outside thread after rest)

variable {outside : Outside σ} {crew after : Crew ι σ} {thread : ι}

theorem play_journey {turn : Turn ι} (played : crew.play outside turn = some after) :
    (crew.programs thread).Journey (crew.encounter? outside thread turn).toList
      (after.programs thread) := by
  cases turn with
  | cancel =>
      cases played
      exact .here _
  | pass duration =>
      cases played
      exact .here _
  | act other =>
      obtain ⟨action, next, answer, session, found, -, -, stepped, rfl⟩ := act_eq_some played
      by_cases own : other = thread
      · subst own
        simp only [encounter?, if_pos, found, stepped, did, Function.update_self]
        exact .act answer (.here _)
      · simp only [encounter?, if_neg own, did, Function.update_of_ne (Ne.symm own)]
        exact .here _
  | evaluate other =>
      obtain ⟨condition, next, found, -, rfl⟩ := evaluate_eq_some played
      by_cases own : other = thread
      · subst own
        simp only [encounter?, if_pos, found]
        exact .look _ (.here _)
      · simp only [encounter?, if_neg own]
        exact .here _
  | settle other answer =>
      obtain ⟨condition, next, found, -, -, rfl⟩ := settle_eq_some played
      by_cases own : other = thread
      · subst own
        have settled : (Program.perform (.await condition) next).Journey
            [.did (.await condition) answer] (next answer) := by
          apply Program.Journey.act
          exact .here _
        simp only [encounter?, if_pos, found, did, Function.update_self]
        exact settled
      · simp only [encounter?, if_neg own, did, Function.update_of_ne (Ne.symm own)]
        exact .here _

/-- Whatever the other threads do, a thread is on a journey through its program. -/
theorem plays_journey {turns : List (Turn ι)} (played : crew.plays outside turns = some after) :
    (crew.programs thread).Journey (crew.encounters outside thread turns)
      (after.programs thread) := by
  induction turns generalizing crew with
  | nil =>
      cases played
      exact .here _
  | cons turn rest inductionHypothesis =>
      obtain ⟨middle, first, later⟩ := Option.bind_eq_some_iff.mp played
      simp only [encounters, first]
      exact (play_journey first).append (inductionHypothesis later)

/-- What an action asks is recorded with its answer. -/
theorem recorded_of_step {outside : Outside σ} {session after : Session (σ × List Exchange)}
    {action : Action} {answer : action.Answer} (single : action.IsAwait = false)
    (stepped : session.step outside.recording Session.still 0 action = (some answer, after)) :
    after.outside.2 =
      session.outside.2 ++ (Encounter.did action answer).exchange?.toList := by
  have effect := Session.step_effect (.inr rfl) (.inr rfl) single stepped
  rw [effect.outside]
  cases action with
  | ask request =>
      have answered := congrArg Prod.fst stepped
      change some (session.ask outside.recording Session.still request).1 = some answer at answered
      rw [Session.ask_of_quiet (.inr rfl)] at answered
      cases answered
      rfl
  | _ => exact (List.append_nil _).symm

/-- A thread of asides asks for nothing else. -/
theorem asked_did_of_isAside {action : Action} (aside : action.IsAside) (answer : action.Answer) :
    asked (Encounter.did action answer).exchange?.toList = [] := by
  cases action with
  | ask request =>
      have isAside : request.isAside = true := aside
      simp [Encounter.exchange?, asked, isAside]
  | _ => rfl

section

variable {outside : Outside σ} {crew after : Crew ι (σ × List Exchange)} {thread : ι}

/-- A deed leaves it to one thread to do more than asides. -/
theorem asides_did {deed : Deed ι (σ × List Exchange)} {session : Session (σ × List Exchange)}
    {rest : Program Unit}
    (asides : ∀ other, other ≠ thread → (crew.programs other).Uses Action.IsAside)
    (goesOn : deed.thread ≠ thread → rest.Uses Action.IsAside) (other : ι)
    (different : other ≠ thread) :
    ((crew.did deed session rest).programs other).Uses Action.IsAside := by
  by_cases same : other = deed.thread
  · subst same
    simp only [did, Function.update_self]
    exact goesOn different
  · simp only [did, Function.update_of_ne same]
    exact asides other different

/-- No aside is waited for. -/
theorem eq_of_await {actor : ι} {condition : Condition}
    {next : Except Poll.Error Unit → Program Unit}
    (asides : ∀ other, other ≠ thread → (crew.programs other).Uses Action.IsAside)
    (found : crew.programs actor = .perform (.await condition) next) : actor = thread := by
  by_contra different
  have uses := asides actor different
  rw [found] at uses
  exact uses.1

/-- What is asked in a turn is asked by the one thread that does not only tear down and notify. -/
theorem play_asked {turn : Turn ι}
    (asides : ∀ other, other ≠ thread → (crew.programs other).Uses Action.IsAside)
    (played : crew.play outside.recording turn = some after) :
    (∀ other, other ≠ thread → (after.programs other).Uses Action.IsAside) ∧
      asked after.session.outside.2 = asked crew.session.outside.2 ++
        asked (crew.encounter? outside.recording thread turn |>.bind Encounter.exchange?).toList := by
  cases turn with
  | cancel =>
      cases played
      refine ⟨asides, ?_⟩
      rw [Session.cancel_of_quiet (.inr rfl)]
      exact (List.append_nil _).symm
  | pass duration =>
      cases played
      refine ⟨asides, ?_⟩
      rw [(Session.pause_rests duration crew.session).2]
      exact (List.append_nil _).symm
  | act actor =>
      obtain ⟨action, next, answer, session, found, single, -, stepped, rfl⟩ :=
        act_eq_some played
      have recorded := recorded_of_step single stepped
      change _ ∧ asked session.outside.2 = _
      rw [recorded, asked_append]
      by_cases own : actor = thread
      · subst own
        refine ⟨asides_did asides fun different => absurd rfl different, ?_⟩
        simp only [encounter?, if_pos, found, stepped]
        rfl
      · have uses := asides actor own
        rw [found] at uses
        refine ⟨asides_did asides fun _ => uses.2 answer, ?_⟩
        rw [asked_did_of_isAside uses.1]
        simp only [encounter?, if_neg own]
        rfl
  | evaluate actor =>
      obtain ⟨condition, next, found, -, rfl⟩ := evaluate_eq_some played
      obtain rfl := eq_of_await asides found
      refine ⟨asides, ?_⟩
      have evaluated := (crew.session.evaluate_rests outside.recording Session.still condition
        (.inr rfl)).2
      rw [evaluated]
      simp only [encounter?, if_pos, found]
      exact asked_append _ _
  | settle actor answer =>
      obtain ⟨condition, next, found, -, -, rfl⟩ := settle_eq_some played
      obtain rfl := eq_of_await asides found
      refine ⟨asides_did asides fun different => absurd rfl different, ?_⟩
      simp only [encounter?, if_pos, found]
      exact (List.append_nil _).symm

/-- What is asked in all is what one thread has met. -/
theorem plays_asked {turns : List (Turn ι)}
    (asides : ∀ other, other ≠ thread → (crew.programs other).Uses Action.IsAside)
    (played : crew.plays outside.recording turns = some after) :
    asked after.session.outside.2 = asked crew.session.outside.2 ++
      asked ((crew.encounters outside.recording thread turns).filterMap Encounter.exchange?) := by
  induction turns generalizing crew with
  | nil =>
      cases played
      exact (List.append_nil _).symm
  | cons turn rest inductionHypothesis =>
      obtain ⟨middle, first, later⟩ := Option.bind_eq_some_iff.mp played
      obtain ⟨asidesLater, askedFirst⟩ := play_asked asides first
      have whole := inductionHypothesis asidesLater later
      rw [askedFirst] at whole
      rw [whole, List.append_assoc]
      simp only [encounters, first, Option.elim_some, List.filterMap_append, asked_append]
      cases crew.encounter? outside.recording thread turn with
      | none => rfl
      | some encounter => cases encounter.exchange? <;> rfl

end

end Crew

end AddonCheck
