import AddonCheck.Proofs.Actions
import Mathlib.Data.List.Chain
import Mathlib.Data.List.Nodup

/-
This file shows how the phases of a check follow one another, whatever transitions are requested.
Every allowed transition comes closer to the end. So no phase comes back, and a verdict, which comes
right after the cleanup, is the last phase.
-/

namespace AddonCheck.Run

namespace Phase

variable {source target : Phase}

/-- How far a phase is from the start. -/
def rank : Phase → Nat
  | initialized => 0
  | resourcesCreating => 1
  | converging => 2
  | cleaningUp => 3
  | succeeded => 4
  | failed => 4

theorem rank_lt_of_allows (allowed : source.allows target = true) : source.rank < target.rank := by
  revert allowed
  cases source <;> cases target <;> decide

theorem eq_of_allows_converging (allowed : source.allows converging = true) :
    source = resourcesCreating := by
  revert allowed
  cases source <;> decide

theorem eq_of_allows_terminal (terminal : target.isTerminal = true)
    (allowed : source.allows target = true) : source = cleaningUp := by
  revert terminal allowed
  cases source <;> cases target <;> decide

theorem not_allows_of_isTerminal (terminal : source.isTerminal = true) (target : Phase) :
    source.allows target = false := by
  revert terminal
  cases source <;> cases target <;> decide

end Phase

namespace History

variable {history : History} {target : Phase} {requests : List Phase}

/-- The response to a request of a transition, and the history that it leaves. -/
def request (history : History) (target : Phase) : Except InvalidTransition Unit × History :=
  match history.advance target with
  | .ok next => (.ok (), next)
  | .error rejection => (.error rejection, history)

/-- The history of a check of which transitions have been requested, one after another. -/
def after (requests : List Phase) : History :=
  requests.foldl (fun history target => (history.request target).2) start

theorem request_of_allows (allowed : history.current.allows target = true) :
    history.request target = (.ok (), ⟨history.phases ++ [target]⟩) := by
  simp [request, advance, allowed]

theorem request_of_not_allows (rejected : history.current.allows target = false) :
    history.request target = (.error ⟨history.current, target⟩, history) := by
  simp [request, advance, rejected]

/-- A run goes on with the history that its request leaves, and only logs a rejection. -/
theorem advance_ends_request (history : History) (target : Phase) :
    (Run.advance history target).Ends (fun action => ∃ line, action = .log line) fun found =>
      found = (history.request target).2 := by
  unfold Run.advance request
  cases history.advance target with
  | ok next => rfl
  | error rejection => exact ⟨⟨_, rfl⟩, fun _ => rfl⟩

theorem after_append (requests later : List Phase) :
    after (requests ++ later) =
      later.foldl (fun history target => (history.request target).2) (after requests) :=
  List.foldl_append

/-- A history begins where every check begins, and each later phase is allowed after the one before
it. -/
structure InOrder (history : History) : Prop where
  begins : history.phases.head? = some .initialized
  follows : history.phases.IsChain fun source target => source.allows target = true

namespace InOrder

theorem start : History.start.InOrder := ⟨rfl, .singleton _⟩

/-- The last phase of a history in order is the current one. -/
theorem getLast? (inOrder : history.InOrder) : history.phases.getLast? = some history.current := by
  cases last : history.phases.getLast? with
  | none =>
      have begins := inOrder.begins
      rw [List.getLast?_eq_none_iff.mp last] at begins
      simp at begins
  | some phase => simp [current, last]

/-- A request keeps the order, whether it is accepted or rejected. -/
theorem request (inOrder : history.InOrder) (target : Phase) :
    (history.request target).2.InOrder := by
  cases allowed : history.current.allows target with
  | false =>
      rw [request_of_not_allows allowed]
      exact inOrder
  | true =>
      rw [request_of_allows allowed]
      constructor
      · simp [List.head?_append, inOrder.begins]
      · rw [List.isChain_append]
        refine ⟨inOrder.follows, .singleton _, ?_⟩
        simp [inOrder.getLast?, allowed]

/-- Whatever is requested, the history stays in order. -/
theorem after (requests : List Phase) : (History.after requests).InOrder := by
  induction requests using List.reverseRecOn with
  | nil => exact start
  | append_singleton requests target inductionHypothesis =>
      rw [after_append]
      exact inductionHypothesis.request target

/-- No phase comes back, since the ranks increase. -/
theorem nodup (inOrder : history.InOrder) : history.phases.Nodup := by
  have increasing : history.phases.IsChain fun source target => source.rank < target.rank :=
    inOrder.follows.imp fun _ _ => Phase.rank_lt_of_allows
  have ranks : (history.phases.map Phase.rank).Pairwise (· < ·) :=
    List.isChain_iff_pairwise.mp ((List.isChain_map Phase.rank).mpr increasing)
  exact List.Nodup.of_map Phase.rank (ranks.imp Nat.ne_of_lt)

/-- Every phase but the first one follows from the phase before it. -/
theorem preceded {before rest : List Phase} (inOrder : history.InOrder)
    (split : history.phases = before ++ target :: rest) (later : target ≠ .initialized) :
    ∃ source, before.getLast? = some source ∧ source.allows target = true := by
  have follows := inOrder.follows
  rw [split, List.isChain_append] at follows
  cases last : before.getLast? with
  | some source => exact ⟨source, rfl, follows.2.2 source last target rfl⟩
  | none =>
      have begins := inOrder.begins
      rw [split, List.getLast?_eq_none_iff.mp last] at begins
      simp only [List.nil_append, List.head?_cons, Option.some.injEq] at begins
      exact absurd begins later

/-- Nothing follows a verdict. -/
theorem rest_eq_nil {before rest : List Phase} (inOrder : history.InOrder)
    (split : history.phases = before ++ target :: rest) (terminal : target.isTerminal = true) :
    rest = [] := by
  have follows := inOrder.follows
  rw [split, List.isChain_append] at follows
  cases rest with
  | nil => rfl
  | cons next others =>
      have allowed := (List.isChain_cons_cons.mp follows.2.1).1
      rw [Phase.not_allows_of_isTerminal terminal] at allowed
      cases allowed

/-- A verdict of the history is its current phase. -/
theorem current_eq (inOrder : history.InOrder) (terminal : target.isTerminal = true)
    (member : target ∈ history.phases) : history.current = target := by
  obtain ⟨before, rest, split⟩ := List.append_of_mem member
  rw [inOrder.rest_eq_nil split terminal] at split
  simp [current, split]

end InOrder

/-- After a verdict every request is rejected. -/
theorem after_append_of_isTerminal (terminal : (after requests).current.isTerminal = true)
    (later : List Phase) : after (requests ++ later) = after requests := by
  induction later using List.reverseRecOn with
  | nil => rw [List.append_nil]
  | append_singleton later target inductionHypothesis =>
      rw [← List.append_assoc, after_append, inductionHypothesis]
      exact congrArg Prod.snd
        (request_of_not_allows (Phase.not_allows_of_isTerminal terminal target))

/-- Whatever transitions are requested of a check, in whatever order, its phases begin with the
first one, follow one another as is allowed, and never come back. Each phase is entered from where
it belongs, and a verdict is the last phase. A request is accepted just when it is allowed, and adds
its phase; otherwise it is told from where to where it would lead, and changes nothing. So is every
request after a verdict. A run of a check goes on with the history that its requests leave. -/
theorem phases_follow_in_order (requests : List Phase) :
    (after requests).phases.head? = some .initialized ∧
    ((after requests).phases.IsChain fun source target => source.allows target = true) ∧
    (after requests).phases.Nodup ∧
    (∀ before rest, (after requests).phases = before ++ .converging :: rest →
      before.getLast? = some .resourcesCreating) ∧
    ¬ (.succeeded ∈ (after requests).phases ∧ .failed ∈ (after requests).phases) ∧
    (∀ verdict before rest, verdict.isTerminal = true →
      (after requests).phases = before ++ verdict :: rest →
        before.getLast? = some .cleaningUp ∧ rest = []) ∧
    (∀ target, (after requests).request target =
      if (after requests).current.allows target then
        (.ok (), ⟨(after requests).phases ++ [target]⟩)
      else (.error ⟨(after requests).current, target⟩, after requests)) ∧
    ((after requests).current.isTerminal = true → ∀ later target,
      (after (requests ++ later)).request target =
        (.error ⟨(after requests).current, target⟩, after requests)) ∧
    ∀ target, (Run.advance (after requests) target).Ends (fun action => ∃ line, action = .log line)
      fun history => history = after (requests ++ [target]) := by
  have inOrder : (after requests).InOrder := .after requests
  refine ⟨inOrder.begins, inOrder.follows, inOrder.nodup, ?converging, ?verdicts, ?verdict,
    ?response, ?settled, ?running⟩
  case converging =>
    intro before rest split
    obtain ⟨source, last, allowed⟩ := inOrder.preceded split (by decide)
    rw [last, Phase.eq_of_allows_converging allowed]
  case verdicts =>
    rintro ⟨succeeded, failed⟩
    have := (inOrder.current_eq rfl succeeded).symm.trans (inOrder.current_eq rfl failed)
    cases this
  case verdict =>
    intro verdict before rest terminal split
    have later : verdict ≠ .initialized := by
      rintro rfl
      cases terminal
    obtain ⟨source, last, allowed⟩ := inOrder.preceded split later
    rw [last, Phase.eq_of_allows_terminal terminal allowed]
    exact ⟨rfl, inOrder.rest_eq_nil split terminal⟩
  case response =>
    intro target
    cases allowed : (after requests).current.allows target with
    | true => simp [request_of_allows allowed]
    | false => simp [request_of_not_allows allowed]
  case settled =>
    intro terminal later target
    rw [after_append_of_isTerminal terminal]
    exact request_of_not_allows (Phase.not_allows_of_isTerminal terminal target)
  case running =>
    intro target
    rw [after_append]
    exact advance_ends_request (after requests) target

/-- A check fails before it converges. Two requests are rejected on the way, and one afterwards. -/
theorem phases_follow_in_order_failed :
    (after [.resourcesCreating, .succeeded, .cleaningUp, .converging, .failed]).phases =
      [.initialized, .resourcesCreating, .cleaningUp, .failed] ∧
    (after [.resourcesCreating, .succeeded, .cleaningUp, .converging, .failed,
        .initialized]).request .succeeded =
      (.error ⟨.failed, .succeeded⟩, ⟨[.initialized, .resourcesCreating, .cleaningUp, .failed]⟩) ∧
    [Phase.initialized, .resourcesCreating, .cleaningUp].getLast? = some .cleaningUp := by
  obtain ⟨-, -, -, -, -, verdict, -, settled, -⟩ :=
    phases_follow_in_order [.resourcesCreating, .succeeded, .cleaningUp, .converging, .failed]
  exact ⟨rfl, settled rfl [.initialized] .succeeded,
    (verdict .failed [.initialized, .resourcesCreating, .cleaningUp] [] rfl rfl).1⟩

end History

end AddonCheck.Run
