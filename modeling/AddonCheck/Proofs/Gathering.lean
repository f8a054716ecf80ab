import AddonCheck.Proofs.Ledger
import AddonCheck.Proofs.Voice
import Mathlib.Data.List.Induction

/-
This file follows the notification that the threads of a run gather. What is gathered is read off
the deeds that have been done, and so is every text that has been taken.
-/

namespace AddonCheck

namespace Notification

/-- A line break is only added to a text that does not end in one. -/
theorem line_eq (text : String) :
    line text = text ++ if text.toList.getLast? = some '\n' then "" else "\n" := by
  unfold line
  split <;> simp

theorem line_ne_empty (text : String) : line text ≠ "" := by
  intro empty
  unfold line at empty
  split at empty
  · next last => simp [empty] at last
  · simp [String.append_eq_empty_iff] at empty

/-- A text is the start of its line. -/
theorem isPrefix_line (text : String) : text.toList <+: (line text).toList := by
  unfold line
  split
  · exact List.prefix_rfl
  · rw [String.toList_append]
    exact List.prefix_append _ _

end Notification

namespace Action

/-- The text that the action adds to the notification. -/
def added? : Action → Option String
  | .addLine text => some text
  | _ => none

def takesLines : Action → Bool
  | .takeLines => true
  | _ => false

/-- The text that the action takes; an empty notification is no text. -/
def lifted : Entry String
  | .takeLines, (text : String) => if text = "" then [] else [text]
  | _, _ => []

/-- The text that the action hands to the transport. -/
def delivered : Entry String
  | .ask (.deliver message), _ => [message]
  | _, _ => []

end Action

variable {ι σ : Type}

/-- The texts that have been added to the notification. -/
def added (history : List (Deed ι σ)) : List String :=
  history.filterMap fun deed => deed.action.added?

/-- The texts that have been taken, when they were not empty. -/
def lifts (history : List (Deed ι σ)) : List String :=
  history.flatMap fun deed => deed.action.lifted deed.answer

/-- The notifications that have been handed to the transport. -/
def deliveries (history : List (Deed ι σ)) : List String :=
  history.flatMap fun deed => deed.action.delivered deed.answer

/-- What is gathered after deeds. -/
def gathered (initial : String) (history : List (Deed ι σ)) : String :=
  history.foldl (fun lines deed => deed.action.gatheredAfter lines) initial

section

variable {initial : String} {history : List (Deed ι σ)} {deed : Deed ι σ}

theorem gathered_append (later : List (Deed ι σ)) :
    gathered initial (history ++ later) = gathered (gathered initial history) later :=
  List.foldl_append

theorem gathered_snoc : gathered initial (history ++ [deed]) =
    deed.action.gatheredAfter (gathered initial history) := gathered_append [deed]

theorem gatheredAfter_of_takesLines {action : Action} (takes : action.takesLines = true)
    (lines : String) : action.gatheredAfter lines = "" := by
  cases action <;> cases takes
  rfl

theorem lifted_of_not_takesLines {action : Action} (keeps : action.takesLines = false)
    (answer : action.Answer) : action.lifted answer = [] := by
  cases action with
  | takeLines => cases keeps
  | _ => rfl

theorem lifts_of_not_takesLines (keep : ∀ deed ∈ history, deed.action.takesLines = false) :
    lifts history = [] := by
  apply List.flatMap_eq_nil_iff.mpr
  intro deed member
  exact lifted_of_not_takesLines (keep deed member) deed.answer

theorem added_append (later : List (Deed ι σ)) :
    added (history ++ later) = added history ++ added later := List.filterMap_append

/-- An action that adds a line appends it; one that takes no lines leaves all that is gathered. -/
theorem gatheredAfter_of_added {action : Action} {text : String}
    (adds : action.added? = some text) (lines : String) :
    action.gatheredAfter lines = lines ++ Notification.line text := by
  cases action <;> cases adds
  rfl

theorem gatheredAfter_of_quiet {action : Action} (adds : action.added? = none)
    (keeps : action.takesLines = false) (lines : String) :
    action.gatheredAfter lines = lines := by
  cases action with
  | addLine text => cases adds
  | takeLines => cases keeps
  | _ => rfl

/-- Nothing is gathered from deeds that add nothing. -/
theorem gathered_of_untold (untold : added history = []) : gathered "" history = "" := by
  induction history using List.reverseRecOn with
  | nil => rfl
  | append_singleton before deed inductionHypothesis =>
      rw [added_append, List.append_eq_nil_iff] at untold
      have adds : deed.action.added? = none := by simpa [added] using untold.2
      rw [gathered_snoc, inductionHypothesis untold.1]
      cases takes : deed.action.takesLines with
      | true => exact gatheredAfter_of_takesLines takes ""
      | false => exact gatheredAfter_of_quiet adds takes ""

/-- What has been added is gathered as long as nobody takes any of it. -/
theorem gathered_ne_empty
    (idle : ∀ before deed after, history = before ++ deed :: after →
      deed.action.takesLines = true → gathered initial before = "")
    (told : added history ≠ []) : gathered initial history ≠ "" := by
  induction history using List.reverseRecOn with
  | nil => exact absurd rfl told
  | append_singleton before deed inductionHypothesis =>
      have earlier := inductionHypothesis fun first other later split =>
        idle first other (later ++ [deed]) (by simp [split])
      rw [gathered_snoc]
      cases adds : deed.action.added? with
      | some text =>
          rw [gatheredAfter_of_added adds]
          intro empty
          exact Notification.line_ne_empty text (String.append_eq_empty_iff.mp empty).2
      | none =>
          have before : added before ≠ [] := by
            simpa [added_append, added, adds] using told
          cases takes : deed.action.takesLines with
          | true => exact absurd (idle _ deed [] rfl takes) (earlier before)
          | false =>
              rw [gatheredAfter_of_quiet adds takes]
              exact earlier before

/-- Every text that has been added is found in what is gathered, when nobody has taken it. -/
theorem isInfix_gathered (keep : ∀ deed ∈ history, deed.action.takesLines = false)
    {text : String} (told : text ∈ added history) :
    text.toList <:+: (gathered initial history).toList := by
  induction history using List.reverseRecOn with
  | nil => exact absurd told List.not_mem_nil
  | append_singleton before deed inductionHypothesis =>
      have earlier := inductionHypothesis fun other member =>
        keep other (List.mem_append_left _ member)
      have keeps := keep deed (List.mem_append_right _ List.mem_cons_self)
      rw [added_append, List.mem_append] at told
      rw [gathered_snoc]
      cases adds : deed.action.added? with
      | some line =>
          rw [gatheredAfter_of_added adds, String.toList_append]
          rcases told with before | last
          · exact (earlier before).trans (List.prefix_append _ _).isInfix
          · obtain rfl : text = line := by simpa [added, adds] using last
            exact (Notification.isPrefix_line text).isInfix.trans (List.suffix_append _ _).isInfix
      | none =>
          rw [gatheredAfter_of_quiet adds keeps]
          exact earlier (told.resolve_right (by simp [added, adds]))

end

/-- What is gathered comes from the deeds. A thread that is not silent has added a line, and what is
taken is all that is gathered. -/
structure Spoken (initial : String) (states : ι → Voice) (crew : Crew ι σ) : Prop where
  gathers : crew.session.gathered = gathered initial crew.history
  told : ∀ thread, states thread ≠ .silent → added crew.history ≠ []
  takes : ∀ before deed after, crew.history = before ++ deed :: after →
    deed.action.takesLines = true →
      deed.action.lifted deed.answer = Action.lifted .takeLines (gathered initial before) ∧
        added before ≠ []

variable [DecidableEq ι]

/-- A thread that has spoken after a deed had spoken before, or it has added a line. -/
theorem Voice.next_silent {voice : Voice} {action : Action} {answer : action.Answer}
    (allowed : voice.allows action) (spoke : voice.next action answer ≠ .silent) :
    voice ≠ .silent ∨ action.added? ≠ none := by
  cases action with
  | addLine text => exact .inr (Option.some_ne_none text)
  | takeLines =>
      obtain rfl := allowed
      exact .inl (by simp)
  | ask request =>
      cases request with
      | deliver message =>
          obtain rfl := allowed
          exact .inl (by simp)
      | _ => exact .inl spoke
  | _ => exact .inl spoke

/-- The notification is gathered in this way, whatever the order of the turns is. -/
theorem spoken_stable {outside : Outside σ} {initial : String} :
    Crew.Stable outside Voice.discipline
      (Spoken initial : Crew.Assertion ι σ Voice) where
  rest spoken rests _ := ⟨rests.gathered.trans spoken.gathers, spoken.told, spoken.takes⟩
  evaluation spoken _ rests _ := ⟨rests.gathered.trans spoken.gathers, spoken.told, spoken.takes⟩
  deed := by
    intro states crew session rest thread action answer spoken allowed _ effect
    refine ⟨?_, ?_, ?_⟩
    · change session.gathered = gathered initial (crew.history ++ [_])
      rw [gathered_snoc, effect.gathered, spoken.gathers]
    · intro other spoke
      change added (crew.history ++ [_]) ≠ []
      rw [added_append]
      by_cases own : other = thread
      · subst own
        rw [Function.update_self] at spoke
        rcases Voice.next_silent allowed spoke with before | adds
        · exact List.append_ne_nil_of_left_ne_nil (spoken.told other before) _
        · obtain ⟨text, adds⟩ := Option.ne_none_iff_exists'.mp adds
          simp [added, adds]
      · rw [Function.update_of_ne own] at spoke
        exact List.append_ne_nil_of_left_ne_nil (spoken.told other spoke) _
    · intro before deed after history takes
      rcases Crew.did_history history with ⟨rfl, rfl, -⟩ | ⟨earlier, -, former⟩
      · cases action with
        | takeLines =>
            have speaks : states thread = .telling := allowed
            refine ⟨?_, spoken.told thread (by simp [speaks])⟩
            rw [← spoken.gathers]
            exact congrArg (Action.lifted .takeLines) effect.answered
        | _ => cases takes
      · exact spoken.takes before deed earlier former takes

end AddonCheck
