import AddonCheck.Proofs.Interleaving

/-
This file keeps the ledgers of threads. What the deeds of a thread have brought in is what they have
given away and what the thread still has to give.
-/

namespace AddonCheck

/-- What an action brings in or gives away with its answer. -/
abbrev Entry (β : Type) := (action : Action) → action.Answer → List β

variable {ι σ φ β : Type} [DecidableEq ι]

/-- The entries of a thread, in the order of its deeds. -/
def entries (entry : Entry β) (history : List (Deed ι σ)) (thread : ι) : List β :=
  (history.filter fun deed => deed.thread = thread).flatMap fun deed =>
    entry deed.action deed.answer

section

variable (entry : Entry β) {history : List (Deed ι σ)} {deed : Deed ι σ} {thread : ι}

theorem entries_append : entries entry (history ++ [deed]) deed.thread =
    entries entry history deed.thread ++ entry deed.action deed.answer := by
  simp [entries]

theorem entries_append_of_ne (other : deed.thread ≠ thread) :
    entries entry (history ++ [deed]) thread = entries entry history thread := by
  simp [entries, other]

end

/-- What has come in has been given away, or it is still owed. -/
def Balanced (gain loss : Entry β) (owed : φ → List β) (states : ι → φ) (crew : Crew ι σ) : Prop :=
  ∀ thread, entries gain crew.history thread =
    entries loss crew.history thread ++ owed (states thread)

/-- Ledgers that every allowed action balances stay balanced. -/
theorem balanced_stable {outside : Outside σ} {discipline : Discipline φ} {gain loss : Entry β}
    {owed : φ → List β}
    (balances : ∀ state action answer, discipline.allows state action →
      owed state ++ gain action answer =
        loss action answer ++ owed (discipline.next state action answer)) :
    Crew.Stable outside discipline (Balanced gain loss owed : Crew.Assertion ι σ φ) where
  rest balanced _ _ := balanced
  evaluation balanced _ _ _ := balanced
  deed := by
    intro states crew session rest thread action answer balanced allowed _ _ other
    let deed : Deed ι σ := ⟨thread, action, answer, session.outside⟩
    change entries gain (crew.history ++ [deed]) other =
      entries loss (crew.history ++ [deed]) other ++ _
    by_cases own : thread = other
    · subst own
      have before := balanced thread
      rw [entries_append gain, entries_append loss, Function.update_self, before,
        List.append_assoc, List.append_assoc, balances (states thread) action answer allowed]
    · rw [entries_append_of_ne gain own, entries_append_of_ne loss own,
        Function.update_of_ne (Ne.symm own)]
      exact balanced other

end AddonCheck
