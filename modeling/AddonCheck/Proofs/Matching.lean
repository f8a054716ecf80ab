import AddonCheck.Proofs.Journey

/-
This file compares programs that do the same up to actions on which nothing depends. Wherever two
such programs are asked and answered alike they meet the same, and they end with related values.
-/

namespace AddonCheck

/-- An action on whose answer the course of a run may depend: a question to the outside, to the
clock or to the token. Deletions and deliveries are none of them. -/
def Action.isEssential : Action → Bool
  | .clock => true
  | .isCancelled => true
  | .cancel => true
  | .pause _ => true
  | .await _ => true
  | .ask request => !request.isAside
  | _ => false

/-- What is essential among encounters. -/
def essentials (encounters : List Encounter) : List Encounter :=
  encounters.filter fun encounter => encounter.action.isEssential

/-- Where two lists of encounters part, they part with different questions: the same question after
the same encounters has been answered alike. -/
def AnsweredAlike (first second : List Encounter) : Prop :=
  ∀ common one other rest restToo, first = common ++ one :: rest →
    second = common ++ other :: restToo → one.action = other.action → one = other

namespace AnsweredAlike

variable {one other : Encounter} {first second : List Encounter}

theorem refl (encounters : List Encounter) : AnsweredAlike encounters encounters := by
  intro common one other rest restToo parts partsToo _
  rw [parts] at partsToo
  exact (List.cons.inj (List.append_cancel_left partsToo)).1

theorem head (alike : AnsweredAlike (one :: first) (other :: second))
    (same : one.action = other.action) : one = other :=
  alike [] one other first second rfl rfl same

theorem tail (alike : AnsweredAlike (one :: first) (one :: second)) :
    AnsweredAlike first second := by
  intro common left right rest restToo parts partsToo same
  apply alike (one :: common) left right rest restToo _ _ same
  · rw [parts]
    rfl
  · rw [partsToo]
    rfl

end AnsweredAlike

theorem essentials_cons_of_essential {encounter : Encounter} (encounters : List Encounter)
    (essential : encounter.action.isEssential = true) :
    essentials (encounter :: encounters) = encounter :: essentials encounters :=
  List.filter_cons_of_pos essential

theorem essentials_cons_of_idle {encounter : Encounter} (encounters : List Encounter)
    (idle : encounter.action.isEssential = false) :
    essentials (encounter :: encounters) = essentials encounters := by
  apply List.filter_cons_of_neg
  rw [idle]
  exact Bool.false_ne_true

/-- What is asked is essential. -/
theorem asked_essentials (encounters : List Encounter) :
    asked ((essentials encounters).filterMap Encounter.exchange?) =
      asked (encounters.filterMap Encounter.exchange?) := by
  induction encounters with
  | nil => rfl
  | cons encounter rest inductionHypothesis =>
      cases essential : encounter.action.isEssential with
      | true =>
          rw [essentials_cons_of_essential rest essential]
          cases found : encounter.exchange? with
          | none => simpa [found] using inductionHypothesis
          | some exchange =>
              have later : asked ([exchange] ++ (essentials rest).filterMap Encounter.exchange?) =
                  asked ([exchange] ++ rest.filterMap Encounter.exchange?) := by
                rw [asked_append, asked_append, inductionHypothesis]
              simpa [found] using later
      | false =>
          rw [essentials_cons_of_idle rest essential, inductionHypothesis]
          cases encounter with
          | looked condition answer => cases essential
          | did action answer =>
              cases action with
              | ask request =>
                  have aside : request.isAside = true := by
                    simpa [Encounter.action, Action.isEssential] using essential
                  simp [Encounter.exchange?, asked, aside]
              | _ => rfl

namespace Program

variable {α β γ δ : Type} {related : α → β → Prop}

/-- Two programs match when they perform the same essential actions, go on alike after each answer,
and end with related values. -/
inductive Matches (related : α → β → Prop) : Program α → Program β → Prop where
  | done {value : α} {other : β} (isRelated : related value other) :
      Matches related (.done value) (.done other)
  | left {action : Action} {next : action.Answer → Program α} {other : Program β}
      (idle : action.isEssential = false) (rest : ∀ answer, Matches related (next answer) other) :
      Matches related (.perform action next) other
  | right {action : Action} {program : Program α} {next : action.Answer → Program β}
      (idle : action.isEssential = false)
      (rest : ∀ answer, Matches related program (next answer)) :
      Matches related program (.perform action next)
  | both {action : Action} {next : action.Answer → Program α} {nextToo : action.Answer → Program β}
      (essential : action.isEssential = true)
      (rest : ∀ answer, Matches related (next answer) (nextToo answer)) :
      Matches related (.perform action next) (.perform action nextToo)

namespace Matches

theorem bind {program : Program α} {other : Program β} {next : α → Program γ}
    {nextToo : β → Program δ} {relatedToo : γ → δ → Prop} (first : program.Matches related other)
    (rest : ∀ value otherValue, related value otherValue →
      (next value).Matches relatedToo (nextToo otherValue)) :
    (program.bind next).Matches relatedToo (other.bind nextToo) := by
  induction first with
  | done isRelated => exact rest _ _ isRelated
  | left idle _ inductionHypothesis => exact .left idle inductionHypothesis
  | right idle _ inductionHypothesis => exact .right idle inductionHypothesis
  | both essential _ inductionHypothesis => exact .both essential inductionHypothesis

/-- Two journeys agree: the one has met no more than the other up to where it is, and the values at
their ends are related. -/
def Agree (related : α → β → Prop) (first : List Encounter) (last : Program α)
    (second : List Encounter) (lastToo : Program β) : Prop :=
  (essentials first <+: essentials second ∨ essentials second <+: essentials first) ∧
    ∀ value other, last = .done value → lastToo = .done other →
      essentials first = essentials second ∧ related value other

section

variable {last : Program α} {lastToo : Program β} {first second : List Encounter}
  {encounter : Encounter}

theorem Agree.cons (agree : Agree related first last second lastToo)
    (essential : encounter.action.isEssential = true) :
    Agree related (encounter :: first) last (encounter :: second) lastToo := by
  unfold Agree
  rw [essentials_cons_of_essential _ essential, essentials_cons_of_essential _ essential,
    List.prefix_cons_inj, List.prefix_cons_inj]
  refine ⟨agree.1, fun value other isLast isLastToo => ?_⟩
  obtain ⟨same, isRelated⟩ := agree.2 value other isLast isLastToo
  exact ⟨congrArg (encounter :: ·) same, isRelated⟩

/-- A journey that has not begun agrees with every other one. -/
theorem agree_left {action : Action} (next : action.Answer → Program α) :
    Agree related [] (.perform action next) second lastToo :=
  ⟨.inl List.nil_prefix, fun _ _ isLast => by cases isLast⟩

theorem agree_right {action : Action} (next : action.Answer → Program β) :
    Agree related first last [] (.perform action next) :=
  ⟨.inr List.nil_prefix, fun _ _ _ isLast => by cases isLast⟩

/-- Programs that perform the same essential action agree when what follows it does. -/
theorem agree_both {action : Action} {next : action.Answer → Program α}
    {nextToo : action.Answer → Program β} (essential : action.isEssential = true)
    (following : ∀ answer first last second lastToo, (next answer).Journey first last →
      (nextToo answer).Journey second lastToo →
      AnsweredAlike (essentials first) (essentials second) →
      Agree related first last second lastToo)
    (one : (Program.perform action next).Journey first last)
    (other : (Program.perform action nextToo).Journey second lastToo)
    (alike : AnsweredAlike (essentials first) (essentials second)) :
    Agree related first last second lastToo := by
  induction first generalizing second with
  | nil =>
      cases one
      exact agree_left next
  | cons encounter first inductionHypothesis =>
      cases second with
      | nil =>
          cases other
          exact agree_right nextToo
      | cons encounterToo second =>
          have about : encounter.action = action := by cases one <;> rfl
          have aboutToo : encounterToo.action = action := by cases other <;> rfl
          rw [essentials_cons_of_essential _ (about ▸ essential),
            essentials_cons_of_essential _ (aboutToo ▸ essential)] at alike
          obtain rfl := alike.head (about.trans aboutToo.symm)
          apply Agree.cons _ (about ▸ essential)
          cases one with
          | act answer rest =>
              cases other with
              | act _ restToo => exact following answer _ _ _ _ rest restToo alike.tail
          | look answer rest =>
              cases other with
              | look _ restToo => exact inductionHypothesis rest restToo alike.tail

/-- Matching programs that are asked and answered alike meet the same. -/
theorem agree {program : Program α} {other : Program β} (both : program.Matches related other)
    (one : program.Journey first last) (two : other.Journey second lastToo)
    (alike : AnsweredAlike (essentials first) (essentials second)) :
    Agree related first last second lastToo := by
  induction both generalizing first last second lastToo with
  | done isRelated =>
      cases one
      cases two
      refine ⟨.inl List.nil_prefix, fun _ _ isLast isLastToo => ?_⟩
      cases isLast
      cases isLastToo
      exact ⟨rfl, isRelated⟩
  | @left action next other idle _ inductionHypothesis =>
      cases one with
      | here => exact agree_left _
      | @act _ _ first _ answer rest =>
          have idleToo : (Encounter.did action answer).action.isEssential = false := idle
          have same := essentials_cons_of_idle first idleToo
          rw [same] at alike
          have later := inductionHypothesis answer rest two alike
          unfold Agree
          rw [same]
          exact later
      | look answer rest => cases idle
  | @right action program next idle _ inductionHypothesis =>
      cases two with
      | here => exact agree_right _
      | @act _ _ second _ answer rest =>
          have idleToo : (Encounter.did action answer).action.isEssential = false := idle
          have same := essentials_cons_of_idle second idleToo
          rw [same] at alike
          have later := inductionHypothesis answer one rest alike
          unfold Agree
          rw [same]
          exact later
      | look answer rest => cases idle
  | both essential _ inductionHypothesis =>
      exact agree_both essential (fun answer _ _ _ _ => inductionHypothesis answer) one two alike

end

end Matches

/-- Programs on whose actions nothing depends match however they go on. -/
theorem Ends.matches {program : Program α} {other : Program β} {fit : α → Prop} {fitToo : β → Prop}
    (first : program.Ends (fun action => action.isEssential = false) fit)
    (second : other.Ends (fun action => action.isEssential = false) fitToo)
    (fits : ∀ value otherValue, fit value → fitToo otherValue → related value otherValue) :
    program.Matches related other := by
  induction program with
  | done value =>
      induction other with
      | done otherValue => exact .done (fits _ _ first second)
      | crash => exact second.elim
      | perform action next inductionHypothesis =>
          exact .right second.1 fun answer => inductionHypothesis answer (second.2 answer)
  | crash => exact first.elim
  | perform action next inductionHypothesis =>
      exact .left first.1 fun answer => inductionHypothesis answer (first.2 answer)

/-- A program whose idle actions have one answer alone matches itself. -/
theorem Ends.matches_self {kind : Action → Prop} {program : Program α} {fit : α → Prop}
    (ends : program.Ends kind fit)
    (plain : ∀ action, kind action → action.isEssential = false → Subsingleton action.Answer) :
    program.Matches Eq program := by
  induction program with
  | done value => exact .done rfl
  | crash => exact ends.elim
  | perform action next inductionHypothesis =>
      cases essential : action.isEssential with
      | true => exact .both essential fun answer => inductionHypothesis answer (ends.2 answer)
      | false =>
          have single := plain action ends.1 essential
          apply Matches.left essential
          intro answer
          apply Matches.right essential
          intro answerToo
          rw [single.elim answerToo answer]
          exact inductionHypothesis answer (ends.2 answer)

end Program

end AddonCheck
