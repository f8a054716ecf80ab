import AddonCheck.Proofs.Course
import Mathlib.Data.List.Forall2
import Mathlib.Data.List.Induction

/-
This file holds the plans of checks. A plan is a list of milestones: objects that are created one
after another, and what has to be seen in an answer in between. A program that works towards its
milestones creates only the object of its next milestone.
-/

namespace AddonCheck

/-- A request that only waits make. -/
def Request.isAwaited : Request → Bool
  | .deployment _ _ => true
  | .ingress _ _ => true
  | .secret _ _ => true
  | .lookup _ => true
  | .listing _ _ => true
  | .metrics _ _ _ => true
  | .evaluate _ => true
  | _ => false

/-- What can be seen in the answer to a request of a wait. -/
structure Sight where
  isSeenIn : Exchange → Prop
  isAwaited : ∀ exchange, isSeenIn exchange → exchange.1.isAwaited = true

/-- A wait for the condition ends well just when the sight is seen in an answer. -/
structure Sight.Decides (sight : Sight) (condition : Condition) : Prop where
  isAwaited : condition.request.isAwaited = true
  isSeenIn_iff : ∀ answer, sight.isSeenIn ⟨condition.request, answer⟩ ↔
    (condition.judge answer).probe = .converged

/-- A step of a plan. -/
inductive Milestone where
  | created (object : Cluster.Object)
  | seen (sight : Sight)

namespace Milestone

/-- An object is created when its creation is accepted, also when it was there already. -/
def IsShownBy : Milestone → Exchange → Prop
  | created object, exchange => ∃ creation, exchange = ⟨.create object, .ok creation⟩
  | seen sight, exchange => sight.isSeenIn exchange

def object? : Milestone → Option Cluster.Object
  | created object => some object
  | seen _ => none

theorem not_isShownBy_of_isAside (milestone : Milestone) {exchange : Exchange}
    (aside : exchange.1.isAside = true) : ¬ milestone.IsShownBy exchange := by
  intro shown
  cases milestone with
  | created object =>
      obtain ⟨creation, rfl⟩ := shown
      cases aside
  | seen sight =>
      have awaited := sight.isAwaited exchange shown
      obtain ⟨request, answer⟩ := exchange
      cases request with
      | delete resource => cases awaited
      | deliver message => cases awaited
      | _ => cases aside

theorem not_isShownBy_nodes (milestone : Milestone) (selector : String)
    (answer : Except Cluster.Error (List String)) :
    ¬ milestone.IsShownBy ⟨.nodes selector, answer⟩ := by
  intro shown
  cases milestone with
  | created object =>
      obtain ⟨creation, same⟩ := shown
      cases same
  | seen sight => cases sight.isAwaited _ shown

end Milestone

/-- The milestones are shown by exchanges in their order. -/
def Met (milestones : List Milestone) (exchanges : List Exchange) : Prop :=
  ∃ shown, shown.Sublist exchanges ∧ List.Forall₂ Milestone.IsShownBy milestones shown

/-! ## What remains of a plan -/

open Classical in
/-- An exchange that shows the next milestone reaches it. -/
noncomputable def reached (milestones : List Milestone) (exchange : Exchange) : List Milestone :=
  match milestones with
  | [] => []
  | milestone :: rest => if milestone.IsShownBy exchange then rest else milestones

/-- The milestones that exchanges have not reached. -/
noncomputable def remaining (milestones : List Milestone) (exchanges : List Exchange) :
    List Milestone := exchanges.foldl reached milestones

section

variable {milestones pending : List Milestone} {exchanges : List Exchange}

theorem remaining_snoc (exchange : Exchange) :
    remaining milestones (exchanges ++ [exchange]) =
      reached (remaining milestones exchanges) exchange :=
  List.foldl_append

theorem reached_of_isShownBy {milestone : Milestone} {rest : List Milestone}
    {exchange : Exchange} (shown : milestone.IsShownBy exchange) :
    reached (milestone :: rest) exchange = rest := if_pos shown

theorem reached_of_not {exchange : Exchange}
    (unshown : ∀ milestone ∈ milestones.head?, ¬ milestone.IsShownBy exchange) :
    reached milestones exchange = milestones := by
  cases milestones with
  | nil => rfl
  | cons milestone rest => exact if_neg (unshown milestone rfl)

theorem Met.append (met : Met milestones exchanges) (later : List Exchange) :
    Met milestones (exchanges ++ later) := by
  obtain ⟨shown, inside, shows⟩ := met
  exact ⟨shown, inside.trans (List.sublist_append_left _ _), shows⟩

theorem Met.snoc (met : Met milestones exchanges) {milestone : Milestone} {exchange : Exchange}
    (isShown : milestone.IsShownBy exchange) :
    Met (milestones ++ [milestone]) (exchanges ++ [exchange]) := by
  obtain ⟨shown, inside, shows⟩ := met
  have last : List.Forall₂ Milestone.IsShownBy [milestone] [exchange] := .cons isShown .nil
  exact ⟨shown ++ [exchange], inside.append (List.Sublist.refl _), List.rel_append shows last⟩

/-- What does not remain has been met. -/
theorem exists_met (milestones : List Milestone) (exchanges : List Exchange) :
    ∃ met, milestones = met ++ remaining milestones exchanges ∧ Met met exchanges := by
  induction exchanges using List.reverseRecOn with
  | nil => exact ⟨[], rfl, [], List.Sublist.refl _, .nil⟩
  | append_singleton exchanges exchange inductionHypothesis =>
      obtain ⟨met, parts, isMet⟩ := inductionHypothesis
      rw [remaining_snoc]
      cases left : remaining milestones exchanges with
      | nil =>
          rw [left] at parts
          exact ⟨met, parts, isMet.append [exchange]⟩
      | cons milestone rest =>
          rw [left] at parts
          by_cases isShown : milestone.IsShownBy exchange
          · rw [reached_of_isShownBy isShown]
            have onward : milestones = met ++ [milestone] ++ rest := by
              rw [List.append_assoc]
              exact parts
            exact ⟨met ++ [milestone], onward, isMet.snoc isShown⟩
          · rw [reached_of_not fun other isHead => by cases isHead; exact isShown]
            exact ⟨met, parts, isMet.append [exchange]⟩

/-- The milestones before those that remain have been met. -/
theorem met_of_remaining {done : List Milestone}
    (left : remaining (done ++ pending) exchanges = pending) : Met done exchanges := by
  obtain ⟨met, parts, isMet⟩ := exists_met (done ++ pending) exchanges
  rw [left] at parts
  rw [List.append_cancel_right parts]
  exact isMet

/-- Nothing remains just when all milestones have been met. -/
theorem remaining_eq_nil_iff : remaining milestones exchanges = [] ↔ Met milestones exchanges := by
  constructor
  · intro nothing
    obtain ⟨met, parts, isMet⟩ := exists_met milestones exchanges
    rw [nothing, List.append_nil] at parts
    rw [parts]
    exact isMet
  · intro met
    obtain ⟨shown, inside, shows⟩ := met
    induction exchanges generalizing milestones shown with
    | nil =>
        rw [List.eq_nil_of_sublist_nil inside] at shows
        cases shows
        rfl
    | cons exchange exchanges inductionHypothesis =>
        change remaining (reached milestones exchange) exchanges = []
        cases shows with
        | nil => exact inductionHypothesis [] (List.nil_sublist _) .nil
        | @cons milestone first rest others isShown showsRest =>
            by_cases reaches : milestone.IsShownBy exchange
            · rw [reached_of_isShownBy reaches]
              exact inductionHypothesis others inside.of_cons_cons showsRest
            · rw [reached_of_not fun other isHead => by cases isHead; exact reaches]
              refine inductionHypothesis (first :: others) ?_ (.cons isShown showsRest)
              rcases List.sublist_cons_iff.mp inside with later | ⟨_, same, _⟩
              · exact later
              · cases same
                exact (reaches isShown).elim

end

end AddonCheck
