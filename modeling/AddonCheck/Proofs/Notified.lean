import AddonCheck.Proofs.Gathering
import AddonCheck.Proofs.Watched

/-
This file finds out which runs tell everything in one notification. Whoever takes the lines first
delivers them, and a line that is added later is not among them.
-/

namespace AddonCheck

variable {ι σ : Type}

/-- One notification has been delivered, it holds every text that was added, and nothing is left. -/
def ToldOnce (crew : Crew ι σ) : Prop :=
  ∃ note, deliveries crew.history = [note] ∧
    (∀ text ∈ added crew.history, text.toList <:+: note.toList) ∧ crew.session.gathered = ""

/-- The lines have been taken, and nothing has been added after they were taken first. -/
def TakenLast (history : List (Deed ι σ)) : Prop :=
  ∃ before deed after, history = before ++ deed :: after ∧ deed.action.takesLines = true ∧
    (∀ other ∈ before, other.action.takesLines = false) ∧ added after = []

/-- What is gathered after the lines have been taken was added later. -/
theorem gathered_of_takesLines {initial : String} {before later : List (Deed ι σ)}
    {deed : Deed ι σ} (takes : deed.action.takesLines = true) :
    gathered initial (before ++ deed :: later) = gathered "" later := by
  rw [gathered_append]
  exact congrArg (gathered · later) (gatheredAfter_of_takesLines takes _)

section

variable {initial : String} {states : ι → Voice} {crew : Crew ι σ}
  {before after : List (Deed ι σ)} {deed : Deed ι σ}

/-- What is taken first is not empty. -/
theorem Spoken.first_lifted (spoken : Spoken initial states crew)
    (history : crew.history = before ++ deed :: after) (takes : deed.action.takesLines = true)
    (keep : ∀ other ∈ before, other.action.takesLines = false) :
    lifts crew.history = gathered initial before :: lifts after := by
  obtain ⟨lifted, told⟩ := spoken.takes before deed after history takes
  have nonempty : gathered initial before ≠ "" := by
    refine gathered_ne_empty (fun first other later split takes => ?_) told
    have keeps := keep other (by simp [split])
    simp [keeps] at takes
  rw [history]
  simp only [lifts, List.flatMap_append, List.flatMap_cons]
  rw [lifted]
  change lifts before ++ (Action.lifted .takeLines (gathered initial before) ++ lifts after) = _
  rw [lifts_of_not_takesLines keep, List.nil_append]
  exact congrArg (· ++ lifts after) (if_neg nonempty)

/-- What is taken later was added after the lines had been taken first. -/
theorem Spoken.later_lifted (spoken : Spoken initial states crew)
    (history : crew.history = before ++ deed :: after) (takes : deed.action.takesLines = true)
    {first later : List (Deed ι σ)} {other : Deed ι σ} (split : after = first ++ other :: later)
    (takesToo : other.action.takesLines = true) :
    other.action.lifted other.answer = Action.lifted .takeLines (gathered "" first) := by
  have whole : crew.history = (before ++ deed :: first) ++ other :: later := by
    rw [history, split]
    simp
  rw [(spoken.takes _ other later whole takesToo).1, gathered_of_takesLines takes]

/-- Nothing is taken later when nothing is added later. -/
theorem Spoken.lifts_later (spoken : Spoken initial states crew)
    (history : crew.history = before ++ deed :: after) (takes : deed.action.takesLines = true) :
    lifts after = [] ∧ gathered "" after = "" ↔ added after = [] := by
  constructor
  · rintro ⟨nothing, empty⟩
    by_contra told
    refine gathered_ne_empty (fun first other later split takesToo => ?_) told empty
    have lifted := spoken.later_lifted history takes split takesToo
    have none : other.action.lifted other.answer = [] :=
      List.flatMap_eq_nil_iff.mp nothing other (by simp [split])
    rw [none] at lifted
    by_contra nonempty
    rw [Action.lifted, if_neg nonempty] at lifted
    cases lifted
  · intro untold
    refine ⟨List.flatMap_eq_nil_iff.mpr fun other member => ?_, gathered_of_untold untold⟩
    cases takesToo : other.action.takesLines with
    | false => exact lifted_of_not_takesLines takesToo other.answer
    | true =>
        obtain ⟨first, later, split⟩ := List.append_of_mem member
        have none : added first = [] := by
          rw [split, added_append, List.append_eq_nil_iff] at untold
          exact untold.1
        rw [spoken.later_lifted history takes split takesToo, gathered_of_untold none]
        rfl

/-- The deed with which the lines are taken first. -/
theorem exists_first_take {history : List (Deed ι σ)} (lifted : lifts history ≠ []) :
    ∃ before deed after, history = before ++ deed :: after ∧ deed.action.takesLines = true ∧
      ∀ other ∈ before, other.action.takesLines = false := by
  cases found : history.find? fun deed => deed.action.takesLines with
  | none =>
      rw [List.find?_eq_none] at found
      exact absurd (lifts_of_not_takesLines fun deed member => by simpa using found deed member)
        lifted
  | some deed =>
      obtain ⟨takes, before, after, history, keep⟩ := List.find?_eq_some_iff_append.mp found
      exact ⟨before, deed, after, history, takes, fun other member => by
        simpa using keep other member⟩

/-- Everything is told at once just when nothing is added after the lines were taken first. -/
theorem Spoken.toldOnce_iff (spoken : Spoken initial states crew)
    (delivered : (deliveries crew.history).Perm (lifts crew.history)) :
    ToldOnce crew ↔ TakenLast crew.history := by
  constructor
  · rintro ⟨note, single, -, empty⟩
    rw [single] at delivered
    have lifted := List.perm_singleton.mp delivered.symm
    obtain ⟨before, deed, after, history, takes, keep⟩ :=
      exists_first_take (lifted ▸ List.cons_ne_nil note [])
    refine ⟨before, deed, after, history, takes, keep,
      (spoken.lifts_later history takes).mp ⟨?_, ?_⟩⟩
    · rw [spoken.first_lifted history takes keep] at lifted
      exact (List.cons.inj lifted).2
    · rw [spoken.gathers, history, gathered_of_takesLines takes] at empty
      exact empty
  · rintro ⟨before, deed, after, history, takes, keep, untold⟩
    obtain ⟨nothing, empty⟩ := (spoken.lifts_later history takes).mpr untold
    refine ⟨gathered initial before, ?_, fun text told => isInfix_gathered keep ?_, ?_⟩
    · rw [spoken.first_lifted history takes keep, nothing] at delivered
      exact List.perm_singleton.mp delivered
    · have silent : added [deed] = [] := by
        cases action : deed.action with
        | takeLines => simp [added, action, Action.added?]
        | _ => simp [action, Action.takesLines] at takes
      rw [history, added_append, ← List.singleton_append, added_append, silent, untold] at told
      simpa using told
    · rw [spoken.gathers, history, gathered_of_takesLines takes, empty]

end

/-- What a thread has taken it holds. -/
theorem Voice.held_of_takeLines (text : String) :
    Action.lifted .takeLines text = (telling.next .takeLines text).held := by
  change (if text = "" then [] else [text]) = (if text = "" then telling else holding text).held
  split <;> rfl

/-- What a thread takes it holds until it delivers it. -/
theorem Voice.next_balance {voice : Voice} {action : Action} (answer : action.Answer)
    (allowed : voice.allows action) :
    voice.held ++ action.lifted answer =
      action.delivered answer ++ (voice.next action answer).held := by
  cases action with
  | addLine text => exact congrArg (· ++ []) (show voice.held = [] from allowed)
  | takeLines =>
      obtain rfl := allowed
      exact held_of_takeLines answer
  | ask request =>
      cases request with
      | deliver message =>
          obtain rfl := allowed
          rfl
      | _ => exact List.append_nil _
  | _ => exact List.append_nil _

/-- The entries of the run and of its watcher are all that there are. -/
theorem entries_perm {β : Type} (entry : Entry β) (history : List (Deed Role σ)) :
    (history.flatMap fun deed => entry deed.action deed.answer).Perm
      (entries entry history .runner ++ entries entry history .watcher) := by
  have watching : (history.filter fun deed => !decide (deed.thread = .runner)) =
      history.filter fun deed => deed.thread = .watcher := by
    apply List.filter_congr
    intro deed _
    cases deed.thread <;> rfl
  have parted := List.filter_append_perm (fun deed => decide (deed.thread = .runner)) history
  rw [watching] at parted
  unfold entries
  rw [← List.flatMap_append]
  exact parted.symm.flatMap_right _

namespace Run

variable {κ : Type} {checker : Checker κ} {context : Context} {workspace : Workspace}
  {watched : Bool} {session : Session σ} {outside : Outside σ}

/-- Both threads keep the discipline of voices. -/
theorem crew_keeps_voice (quiet : checker.IsQuiet context workspace)
    (delivers : context.channel = .transport) :
    (crew checker context workspace watched session).Keeps Voice.discipline
      (fun _ _ voice => voice = .silent ∨ voice = .telling) fun _ => .silent := by
  rintro (_ | _)
  · exact (run_keeps_voice quiet delivers).bind (fun _ _ ended => ended) fun _ ended => ended
  · exact interruption_keeps_voice ⟨workspace, context.channel⟩ delivers

/-- A run, and its watcher when it was woken, tell everything in one notification just when nothing
is added after the lines were taken first. -/
theorem toldOnce_iff_takenLast (quiet : checker.IsQuiet context workspace)
    (delivers : context.channel = .transport) {turns : List (Turn Role)} {after : Crew Role σ}
    (played : (crew checker context workspace watched session).plays outside turns = some after)
    (runIsOver : (after.programs .runner).isOver = true)
    (watcherIsOver : (after.programs .watcher).isOver = true ∨ after.isAwake .watcher = false) :
    ToldOnce after ↔ TakenLast after.history := by
  have balances : Crew.Stable outside Voice.discipline
      (Balanced Action.lifted Action.delivered Voice.held : Crew.Assertion Role σ Voice) :=
    balanced_stable fun _ _ answer allowed => Voice.next_balance answer allowed
  have spoken : Spoken session.gathered (fun _ => .silent)
      (crew checker context workspace watched session) := by
    refine ⟨rfl, fun _ spoke => absurd rfl spoke, fun before deed later none => ?_⟩
    simp [crew] at none
  have asleep : Crew.Asleep Role.watcher Voice.silent (fun _ => .silent)
      (crew checker context workspace watched session) := ⟨rfl, .inr rfl⟩
  obtain ⟨states, kept, spoken, balanced, asleep⟩ := Crew.plays_keeps
    (spoken_stable.and (balances.and (Crew.asleep_stable Role.watcher Voice.silent)))
    (crew_keeps_voice quiet delivers) ⟨spoken, fun _ => rfl, asleep⟩ played
  have empty (thread : Role) : (states thread).held = [] := by
    have ended : states thread = .silent ∨ states thread = .telling := by
      cases thread with
      | runner => exact (kept.fits runIsOver).choose_spec
      | watcher =>
          rcases watcherIsOver with isOver | unwoken
          · exact (kept.fits isOver).choose_spec
          · exact .inl (asleep.still.resolve_left (by simp [unwoken]))
    rcases ended with state | state <;> rw [state] <;> rfl
  have same (thread : Role) : entries Action.lifted after.history thread =
      entries Action.delivered after.history thread := by
    rw [balanced thread, empty thread, List.append_nil]
  refine spoken.toldOnce_iff ((entries_perm Action.delivered after.history).trans ?_)
  rw [← same, ← same]
  exact (entries_perm Action.lifted after.history).symm

def tellingContext : Context := { (default : Context) with channel := .transport }

/-- The check and its watcher, with a transport for the notification. -/
def tellingCrew : Crew Role (List String) :=
  crew plain tellingContext plainWorkspace true { start := default, outside := [] }

/-- The run is cancelled when it has told its start, and the watcher is done before it goes on. -/
def interruptedTurns : List (Turn Role) :=
  List.replicate 3 (.act .runner) ++ .cancel :: List.replicate 7 (.act .watcher) ++
    List.replicate 6 (.act .runner)

/-- The failure of the cancelled run stays behind when the run and its watcher are over. -/
theorem toldOnce_fails_interrupted : ∃ after,
    tellingCrew.plays Shelf.peers.outside interruptedTurns = some after ∧
      (after.programs .runner).isOver = true ∧ (after.programs .watcher).isOver = true ∧
      ¬ ToldOnce after := by
  have ended : (tellingCrew.plays Shelf.peers.outside interruptedTurns).any (fun after =>
      (after.programs .runner).isOver && (after.programs .watcher).isOver &&
        after.session.gathered ≠ "") = true := by decide +kernel
  obtain ⟨after, played, facts⟩ := (Option.any_eq_true _ _).mp ended
  simp only [Bool.and_eq_true, decide_eq_true_eq] at facts
  obtain ⟨⟨runIsOver, watcherIsOver⟩, left⟩ := facts
  exact ⟨after, played, runIsOver, watcherIsOver, fun ⟨_, _, _, empty⟩ => left empty⟩

/-- The same run and its watcher fulfil the conditions of the general statement. -/
theorem toldOnce_iff_takenLast_interrupted :
    let after := (tellingCrew.plays Shelf.peers.outside interruptedTurns).get (by decide +kernel)
    ToldOnce after ↔ TakenLast after.history :=
  toldOnce_iff_takenLast (plain_createsIn tellingContext).isQuiet rfl (Option.some_get _).symm
    (by decide +kernel) (.inl (by decide +kernel))

end Run

end AddonCheck
