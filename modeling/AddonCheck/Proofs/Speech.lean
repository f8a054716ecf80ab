import AddonCheck.Proofs.Gathering
import AddonCheck.Proofs.Recording
import AddonCheck.Proofs.Verdict

/-
This file follows what is told in an execution without a watcher. As long as nobody takes the
gathered lines, each action appends its own text, and the texts of a sequence follow one another.
-/

namespace AddonCheck

namespace Notification

/-- Texts as lines, one after another. -/
def lines : List String → String
  | [] => ""
  | text :: rest => line text ++ lines rest

theorem lines_append (first rest : List String) :
    lines (first ++ rest) = lines first ++ lines rest := by
  induction first with
  | nil => simp [lines]
  | cons text first inductionHypothesis => simp [lines, inductionHypothesis, String.append_assoc]

end Notification

/-- The texts that are added in a transcript. -/
def messages (transcript : List Answered) : List String :=
  transcript.filterMap fun answered => answered.1.added?

/-- The text that is taken, when the gathered lines are. -/
def Answered.taken? : Answered → Option String
  | ⟨.takeLines, (text : String)⟩ => some text
  | _ => none

/-- The texts that are taken in a transcript. -/
def takings (transcript : List Answered) : List String := transcript.filterMap Answered.taken?

theorem takings_append (first rest : List Answered) :
    takings (first ++ rest) = takings first ++ takings rest := List.filterMap_append

/-- Whether a request hands something to the transport. -/
def Request.delivers : Request → Bool
  | .deliver _ => true
  | _ => false

/-- The action leaves the notification to others, although it may add to it. It starts no watcher. -/
def Action.OnlyAdds (action : Action) : Prop :=
  action.AsksOnly (fun request => request.delivers = false) ∧
    (∀ watcher, action ≠ .watch watcher) ∧ action.takesLines = false

namespace Session

variable {σ α : Type} {outside : Outside σ} {reaction : Reaction (σ × List Exchange)}
  {rounds : Nat} {session middle after : Session (σ × List Exchange)}

/-- Between two sessions texts are added to the notification, and nothing is delivered. No watcher
is about. -/
structure Speaks (texts : List String) (before after : Session (σ × List Exchange)) : Prop where
  gathered : after.gathered = before.gathered ++ Notification.lines texts
  unwatched : after.watcher = none
  records : ∃ exchanges, before.Records exchanges after ∧
    ∀ exchange ∈ exchanges, exchange.1.delivers = false

theorem Speaks.nothing (unwatched : session.watcher = none) : session.Speaks [] session :=
  ⟨String.append_empty.symm, unwatched, [], .nothing rfl, fun _ none => absurd none List.not_mem_nil⟩

/-- What is told later is added after what has been told before. -/
theorem Speaks.trans {texts later : List String} (first : session.Speaks texts middle)
    (rest : middle.Speaks later after) : session.Speaks (texts ++ later) after := by
  obtain ⟨exchanges, recorded, spared⟩ := first.records
  obtain ⟨others, recordedToo, sparedToo⟩ := rest.records
  refine ⟨?_, rest.unwatched, exchanges ++ others, recorded.trans recordedToo, ?_⟩
  · rw [rest.gathered, first.gathered, Notification.lines_append, String.append_assoc]
  · intro exchange member
    rcases List.mem_append.mp member with before | last
    · exact spared exchange before
    · exact sparedToo exchange last

/-- A wait for something else than a delivery tells nothing. -/
theorem await_speaks {condition : Condition} (spares : condition.request.delivers = false)
    (unwatched : session.watcher = none) :
    session.Speaks [] (Poll.run (surroundings outside.recording reaction condition) condition.wait
      condition.immediate rounds session).2 := by
  have alike : Poll.Alike (session.Speaks []) (surroundings outside.recording reaction condition)
      (surroundings outside.recording reaction condition) := by
    refine ⟨rfl, rfl, rfl, fun _ _ => rfl, fun duration state told => ?_, fun state told => ?_⟩
    · obtain ⟨rests, same⟩ := pause_rests duration state
      have later : state.Speaks [] (state.pause duration) :=
        ⟨rests.gathered.trans String.append_empty.symm, rests.watcher.trans told.unwatched, [],
          .nothing same, fun _ none => absurd none List.not_mem_nil⟩
      exact told.trans later
    · obtain ⟨rests, asked⟩ :=
        state.evaluate_rests outside.recording reaction condition (.inl told.unwatched)
      have recorded : state.Records [⟨condition.request, _⟩]
          (state.evaluate outside.recording reaction condition).2 := congrArg Prod.snd asked
      have later : state.Speaks [] (state.evaluate outside.recording reaction condition).2 := by
        refine ⟨rests.gathered.trans String.append_empty.symm,
          rests.watcher.trans told.unwatched, _, recorded, ?_⟩
        intro exchange member
        rw [List.mem_singleton.mp member]
        exact spares
      exact told.trans later
  exact (alike.run condition.wait condition.immediate rounds (.nothing unwatched)).2

/-- An action tells the text that it adds. -/
theorem step_speaks {action : Action} {answer : action.Answer} (only : action.OnlyAdds)
    (unwatched : session.watcher = none)
    (stepped : session.step outside.recording reaction rounds action = (some answer, after)) :
    session.Speaks action.added?.toList after := by
  obtain ⟨spares, unwatching, keeps⟩ := only
  cases single : action.IsAwait with
  | true =>
      cases action with
      | await condition =>
          have told : session.Speaks []
              (session.step outside.recording reaction rounds (.await condition)).2 :=
            await_speaks spares unwatched
          rw [stepped] at told
          exact told
      | _ => cases single
  | false =>
      have effect := step_effect (.inl unwatched) (.inl unwatching) single stepped
      have watcher : after.watcher = none := by
        rw [effect.watcher]
        cases action with
        | watch watcher => exact absurd rfl (unwatching watcher)
        | _ => exact unwatched
      have gathered : after.gathered =
          session.gathered ++ Notification.lines action.added?.toList := by
        rw [effect.gathered]
        cases adds : action.added? with
        | none => simp [gatheredAfter_of_quiet adds keeps, Notification.lines]
        | some text => simp [gatheredAfter_of_added adds, Notification.lines]
      have recorded := congrArg Prod.snd effect.outside
      cases action with
      | ask request =>
          refine ⟨gathered, watcher, [⟨request, _⟩], recorded, ?_⟩
          intro exchange member
          rw [List.mem_singleton.mp member]
          exact spares
      | await condition => cases single
      | _ =>
          exact ⟨gathered, watcher, [], .nothing effect.outside,
            fun _ none => absurd none List.not_mem_nil⟩

/-- An execution tells the texts of its transcript. -/
theorem Finishes.speaks {program : Program α} {transcript : List Answered} {value : α}
    (finishes : Finishes outside.recording reaction rounds program session transcript value after)
    (only : program.Uses Action.OnlyAdds) (unwatched : session.watcher = none) :
    session.Speaks (messages transcript) after := by
  induction finishes with
  | done value session => exact .nothing unwatched
  | @perform action next session middle after answer transcript value stepped _
      inductionHypothesis =>
      have first := step_speaks only.1 unwatched stepped
      have rest := inductionHypothesis (only.2 answer) first.unwatched
      have texts : messages (⟨action, answer⟩ :: transcript) =
          action.added?.toList ++ messages transcript := by
        cases adds : action.added? <;> simp [messages, adds]
      rw [texts]
      exact first.trans rest

end Session

end AddonCheck
