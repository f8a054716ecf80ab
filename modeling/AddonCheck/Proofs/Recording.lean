import AddonCheck.Proofs.Actions
import AddonCheck.Proofs.Course
import AddonCheck.Proofs.Lasting

/-
This file records executions. Whatever the outside answers and whenever it cancels the run, what is
recorded of an execution is a course of its program.
-/

namespace AddonCheck

namespace Program

/-- What is left of a program after a step; a wait that is not settled is left as it is. -/
def left (action : Action) (next : action.Answer → Program α) : Option action.Answer → Program α
  | some answer => next answer
  | none => .perform action next

end Program

/-- The outside that keeps its exchanges beside its state. -/
def Outside.recording {σ : Type} (outside : Outside σ) : Outside (σ × List Exchange) where
  reply request state :=
    let (reply, inner) := outside.reply request state.1
    (reply, inner, state.2 ++ [⟨request, reply.answer⟩])

namespace Session

variable {σ α : Type} {outside : Outside σ} {reaction : Reaction (σ × List Exchange)}
  {rounds : Nat} {session after : Session (σ × List Exchange)}

/-- What is recorded between two sessions. -/
def Records (session : Session (σ × List Exchange)) (exchanges : List Exchange)
    (after : Session (σ × List Exchange)) : Prop :=
  after.outside.2 = session.outside.2 ++ exchanges

/-- Only asides are recorded between two sessions. -/
def Drifts (session after : Session (σ × List Exchange)) : Prop :=
  ∃ asides, session.Records asides after ∧ ∀ exchange ∈ asides, exchange.1.isAside = true

theorem Records.trans {middle : Session (σ × List Exchange)} {exchanges later : List Exchange}
    (first : session.Records exchanges middle) (rest : middle.Records later after) :
    session.Records (exchanges ++ later) after := by
  rw [Records, rest, first, List.append_assoc]

theorem Records.nothing (unchanged : after.outside = session.outside) :
    session.Records [] after := (congrArg Prod.snd unchanged).trans (List.append_nil _).symm

theorem Drifts.same (unchanged : after.outside = session.outside) : session.Drifts after :=
  ⟨[], .nothing unchanged, fun _ member => nomatch member⟩

theorem Drifts.trans {middle : Session (σ × List Exchange)} (first : session.Drifts middle)
    (rest : middle.Drifts after) : session.Drifts after := by
  obtain ⟨asides, recorded, aside⟩ := first
  obtain ⟨others, recordedToo, asideToo⟩ := rest
  exact ⟨asides ++ others, recorded.trans recordedToo,
    List.forall_mem_append.mpr ⟨aside, asideToo⟩⟩

theorem pause_outside (duration : Duration) (session : Session (σ × List Exchange)) :
    (session.pause duration).outside = session.outside := by
  unfold pause
  split <;> rfl

section

variable (drifts : ∀ watcher session, Drifts session (reaction watcher session))

include drifts

variable (outside) in
/-- Asides and what a watcher does are all that is recorded beside other requests. -/
theorem drifts_lasting : Lasting outside.recording reaction Action.IsAside Drifts where
  trans first rest := first.trans rest
  rests unchanged _ _ _ := .same unchanged
  updates _ _ := .same rfl
  asks aside _ := ⟨[_], rfl, List.forall_mem_singleton.mpr aside⟩
  awaits aside := aside.elim
  reacts := drifts

/-- A request is recorded with its answer, and what a cancellation sets off is recorded after it. -/
theorem ask_records (request : Request) (session : Session (σ × List Exchange)) :
    let asked := session.ask outside.recording reaction request
    ∃ asides, session.Records (⟨request, asked.1⟩ :: asides) asked.2 ∧
      ∀ exchange ∈ asides, exchange.1.isAside = true := by
  let reply := (outside.reply request session.outside.1).1
  have recorded : session.Records [⟨request, reply.answer⟩]
      (session.replied outside.recording request) := rfl
  obtain ⟨asides, rest, aside⟩ := (drifts_lasting outside drifts).ask request session
  exact ⟨asides, recorded.trans rest, aside⟩

/-- A wait from an evaluation on is a course. -/
theorem fromEvaluation_course {condition : Condition} {next : Except Poll.Error Unit → Program α}
    {deadline : Option Nat} {answer? : Poll.Answer}
    (polled : Poll.fromEvaluation (surroundings outside.recording reaction condition)
      condition.wait deadline rounds session = (answer?, after)) :
    ∃ exchanges, session.Records exchanges after ∧
      (Program.perform (.await condition) next).Course exchanges
        (Program.left (.await condition) next answer?) := by
  induction rounds generalizing session with
  | zero =>
      cases polled
      exact ⟨[], .nothing rfl, .here _⟩
  | succ rounds inductionHypothesis =>
      let around := surroundings outside.recording reaction condition
      let asked :=
        (session.addLog condition.announcement).ask outside.recording reaction condition.request
      let finding := condition.judge asked.1
      have evaluated : around.evaluate session = (finding.probe, asked.2.addLog finding.log) := rfl
      obtain ⟨asides, recorded, aside⟩ :=
        ask_records drifts condition.request (session.addLog condition.announcement)
      have known : session.Records (⟨condition.request, asked.1⟩ :: asides)
          (asked.2.addLog finding.log) := recorded
      unfold Poll.fromEvaluation at polled
      rw [evaluated] at polled
      cases probe : finding.probe with
      | converged =>
          rw [probe] at polled
          cases polled
          exact ⟨_, known.trans (.nothing rfl), .converged probe (.meanwhiles aside (.here _))⟩
      | fatal reason =>
          rw [probe] at polled
          cases polled
          exact ⟨_, known.trans (.nothing rfl), .fatal probe (.meanwhiles aside (.here _))⟩
      | pending =>
          rw [probe] at polled
          dsimp only at polled
          split at polled
          · cases polled
            exact ⟨_, known.trans (.nothing rfl),
              .pending probe (.meanwhiles aside (.givenUp _ (.here _)))⟩
          · next pause _ =>
              have paused := known.trans (.nothing (pause_outside pause _))
              split at polled
              · cases polled
                exact ⟨_, paused, .pending probe (.meanwhiles aside (.givenUp _ (.here _)))⟩
              · obtain ⟨exchanges, later, course⟩ := inductionHypothesis polled
                rw [List.append_nil] at paused
                exact ⟨_, paused.trans later, .pending probe (.meanwhiles aside course)⟩

theorem await_course {condition : Condition} {next : Except Poll.Error Unit → Program α}
    {answer? : Poll.Answer}
    (polled : Poll.run (surroundings outside.recording reaction condition) condition.wait
      condition.immediate rounds session = (answer?, after)) :
    ∃ exchanges, session.Records exchanges after ∧
      (Program.perform (.await condition) next).Course exchanges
        (Program.left (.await condition) next answer?) := by
  unfold Poll.run at polled
  dsimp only at polled
  split at polled
  · cases polled
    exact ⟨[], .nothing rfl, .givenUp _ (.here _)⟩
  · split at polled
    · exact fromEvaluation_course drifts polled
    · have paused := Records.nothing (pause_outside (Poll.firstPause condition.wait) session)
      split at polled
      · cases polled
        exact ⟨[], paused, .givenUp _ (.here _)⟩
      · obtain ⟨exchanges, later, course⟩ := fromEvaluation_course drifts polled
        exact ⟨exchanges, paused.trans later, course⟩

/-- A step of an execution is a course. -/
theorem step_course {action : Action} {next : action.Answer → Program α}
    {answer? : Option action.Answer}
    (stepped : session.step outside.recording reaction rounds action = (answer?, after)) :
    ∃ exchanges, session.Records exchanges after ∧
      (Program.perform action next).Course exchanges (Program.left action next answer?) := by
  cases action with
  | await condition => exact await_course drifts stepped
  | ask request =>
      cases stepped
      obtain ⟨asides, recorded, aside⟩ := ask_records drifts request session
      exact ⟨_, recorded.trans (.nothing rfl), .ask _ (.meanwhiles aside (.here _))⟩
  | cancel =>
      cases stepped
      obtain ⟨asides, recorded, aside⟩ :=
        (drifts_lasting outside drifts).cancel session
      exact ⟨_, recorded.trans (.nothing rfl), .act trivial () (.meanwhiles aside (.here _))⟩
  | watch watcher =>
      cases stepped
      obtain ⟨asides, recorded, aside⟩ :=
        (drifts_lasting outside drifts).watch watcher session
      exact ⟨_, recorded.trans (.nothing rfl), .act trivial () (.meanwhiles aside (.here _))⟩
  | pause duration =>
      cases stepped
      exact ⟨[], .nothing (pause_outside duration session), .act trivial _ (.here _)⟩
  | _ =>
      cases stepped
      exact ⟨[], .nothing rfl, .act trivial _ (.here _)⟩

/-- What an execution records is a course of its program, and a value is the end of the course. -/
theorem execute_course {program : Program α} {outcome : Outcome α}
    (executed : execute outside.recording reaction rounds program session = (outcome, after)) :
    ∃ exchanges last, session.Records exchanges after ∧ program.Course exchanges last ∧
      ∀ value, outcome = .finished value → last = .done value := by
  induction program generalizing session with
  | done value =>
      cases executed
      refine ⟨[], _, .nothing rfl, .here _, ?_⟩
      intro found finished
      cases finished
      rfl
  | crash =>
      cases executed
      refine ⟨[], _, .nothing rfl, .here _, ?_⟩
      intro value finished
      cases finished
  | perform action next inductionHypothesis =>
      unfold execute at executed
      cases stepped : session.step outside.recording reaction rounds action with
      | mk answer? middle =>
          obtain ⟨exchanges, recorded, course⟩ := step_course drifts stepped
          rw [stepped] at executed
          cases answer? with
          | none =>
              cases executed
              refine ⟨exchanges, _, recorded, course, ?_⟩
              intro value finished
              cases finished
          | some answer =>
              obtain ⟨later, last, recordedLater, rest, ended⟩ :=
                inductionHypothesis answer executed
              exact ⟨_, last, recorded.trans recordedLater, course.append rest, ended⟩

end

end Session

/-! ## What is done beside a check -/

theorem Workspace.deleteAll_isAside (workspace : Workspace) :
    workspace.deleteAll.Ends Action.IsAside fun _ => True :=
  deleteAll_ends (fun _ => trivial) (fun _ => rfl) trivial workspace

namespace Run

theorem interruption_isAside (watcher : Watcher) :
    (interruption watcher).Ends Action.IsAside fun _ => True := by
  have clears := watcher.workspace.deleteAll_isAside
  exact interruption_ends (fun _ => trivial) (fun _ => trivial) clears trivial (fun _ => rfl) trivial
    watcher.channel

variable {σ α : Type} {outside : Outside σ} {rounds : Nat}
  {session after : Session (σ × List Exchange)}

/-- A watcher asks for nothing but asides. -/
theorem reaction_drifts (outside : Outside σ) (rounds : Nat) (watcher : Watcher)
    (session : Session (σ × List Exchange)) :
    session.Drifts (reaction outside.recording rounds watcher session) := by
  obtain ⟨exchanges, _, recorded, course, -⟩ :=
    Session.execute_course (fun _ _ => .same rfl) rfl
  exact ⟨exchanges, recorded, course.asides (interruption_isAside watcher).uses⟩

/-- What the execution of a program and of its watcher records is a course of the program. -/
theorem execute_course {program : Program α} {outcome : Outcome α}
    (executed : execute outside.recording rounds program session = (outcome, after)) :
    ∃ exchanges last, session.Records exchanges after ∧ program.Course exchanges last ∧
      ∀ value, outcome = .finished value → last = .done value :=
  Session.execute_course (reaction_drifts outside rounds) executed

end Run

end AddonCheck
