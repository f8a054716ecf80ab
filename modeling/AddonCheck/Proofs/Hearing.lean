import AddonCheck.Proofs.Calm
import AddonCheck.Proofs.Inquiry
import AddonCheck.Proofs.Journey
import AddonCheck.Proofs.Lasting

/-
This file shows that a program that waits asks what its inquiry asks, and that it is settled by the
answers. The watcher of the run may delete and deliver beside it.
-/

namespace AddonCheck

/-! ## The exchanges between two sessions -/

theorem asked_eq_nil {exchanges : List Exchange}
    (asides : ∀ exchange ∈ exchanges, exchange.1.isAside = true) : asked exchanges = [] := by
  apply List.filter_eq_nil_iff.mpr
  intro exchange member
  simp [asides exchange member]

theorem asked_singleton {request : Request} (essential : request.isAside = false)
    (answer : request.Answer) : asked [⟨request, answer⟩] = [⟨request, answer⟩] := by
  simp [asked, essential]

namespace Session

variable {σ α : Type} {outside : Outside σ} {reaction : Reaction (σ × List Exchange)}
  {rounds : Nat} {session middle after : Session (σ × List Exchange)}

theorem execute_answered {outside : Outside σ} {reaction : Reaction σ} {session middle : Session σ}
    {action : Action} {answer : action.Answer} {next : action.Answer → Program α}
    (stepped : session.step outside reaction rounds action = (some answer, middle)) :
    execute outside reaction rounds (.perform action next) session =
      execute outside reaction rounds (next answer) middle := by
  simp only [execute, stepped]

theorem execute_unsettled {outside : Outside σ} {reaction : Reaction σ} {session after : Session σ}
    {action : Action} {next : action.Answer → Program α}
    (stepped : session.step outside reaction rounds action = (none, after)) :
    execute outside reaction rounds (.perform action next) session = (.unsettled, after) := by
  simp only [execute, stepped]

/-- Between two sessions these are the exchanges beside deletions and deliveries. Time passes, and a
cancellation lasts. -/
structure Exchanges (before : Session (σ × List Exchange)) (exchanges : List Exchange)
    (after : Session (σ × List Exchange)) : Prop where
  records : ∃ recorded, before.Records recorded after ∧ asked recorded = exchanges
  elapsed : before.elapsed ≤ after.elapsed
  isCancelled : before.isCancelled = true → after.isCancelled = true

namespace Exchanges

theorem same (unchanged : after.outside = session.outside)
    (passes : session.elapsed ≤ after.elapsed)
    (lasts : session.isCancelled = true → after.isCancelled = true) :
    session.Exchanges [] after :=
  ⟨⟨[], .nothing unchanged, rfl⟩, passes, lasts⟩

theorem trans {exchanges later : List Exchange} (first : session.Exchanges exchanges middle)
    (rest : middle.Exchanges later after) : session.Exchanges (exchanges ++ later) after := by
  obtain ⟨recorded, records, rfl⟩ := first.records
  obtain ⟨recordedToo, recordsToo, rfl⟩ := rest.records
  exact ⟨⟨_, records.trans recordsToo, asked_append recorded recordedToo⟩,
    Nat.le_trans first.elapsed rest.elapsed, rest.isCancelled ∘ first.isCancelled⟩

/-- What asks for nothing may come last. -/
theorem trans_nil {exchanges : List Exchange} (first : session.Exchanges exchanges middle)
    (rest : middle.Exchanges [] after) : session.Exchanges exchanges after := by
  rw [← List.append_nil exchanges]
  exact first.trans rest

end Exchanges

/-- A request is exchanged for its answer, unless it is an aside. -/
theorem replied_exchanges (outside : Outside σ) (request : Request)
    (session : Session (σ × List Exchange)) :
    session.Exchanges (asked [⟨request, (outside.reply request session.outside.1).1.answer⟩])
      (session.replied outside.recording request) :=
  ⟨⟨_, rfl, rfl⟩, Nat.le_add_right _ _, id⟩

section

variable (outside : Outside σ)
  (reacts : ∀ watcher session, Exchanges session [] (reaction watcher session))

include reacts

/-- Asides exchange nothing else. -/
theorem exchanges_lasting :
    Lasting outside.recording reaction Action.IsAside fun session after =>
      session.Exchanges [] after where
  trans first rest := first.trans rest
  rests unchanged _ passes lasts := .same unchanged passes lasts
  updates _ _ := .same rfl (Nat.le_refl _) id
  asks {request} aside session := by
    have nothing : ∀ answer, asked [⟨request, answer⟩] = [] :=
      fun answer => asked_eq_nil (List.forall_mem_singleton.mpr aside)
    rw [← nothing]
    exact replied_exchanges outside request session
  awaits aside := aside.elim
  reacts := reacts

theorem ask_exchanges (request : Request) (session : Session (σ × List Exchange)) :
    let answered := session.ask outside.recording reaction request
    session.Exchanges (asked [⟨request, answered.1⟩]) answered.2 :=
  (replied_exchanges outside request session).trans_nil
    ((exchanges_lasting outside reacts).ask request session)

theorem cancel_isCancelled (session : Session (σ × List Exchange)) :
    (session.cancel reaction).isCancelled = true := by
  unfold cancel
  split
  · assumption
  · split
    · rfl
    · exact (reacts _ _).isCancelled rfl

end

/-! ## The wait -/

/-- Where a wait begins that begins in a session. -/
def opening (session : Session (σ × List Exchange)) : Opening σ :=
  ⟨session.elapsed, session.isCancelled, session.outside.1⟩

/-- A wait begins as at an opening. Once the run is cancelled, nothing else matters. -/
def Opens (session : Session (σ × List Exchange)) (opening : Opening σ) : Prop :=
  session.opening = opening ∨ session.isCancelled = true ∧ opening.isCancelled = true

/-- The wait is about to make a request. So far it has heard nothing that ends it. -/
structure Underway (inquiry : Inquiry σ) (begun : Session (σ × List Exchange)) (index : Nat)
    (session : Session (σ × List Exchange)) : Prop where
  exchanges : begun.Exchanges (inquiry.exchanges index) session
  goesOn : ∀ earlier < index, inquiry.GoesOn earlier
  active : session.isCancelled = false
  elapsed : session.elapsed = inquiry.timeline.begins index
  state : session.outside.1 = inquiry.stateAfter index

/-- The reply of a wait has been heard, and what it sets off has been dealt with. -/
structure Replied (inquiry : Inquiry σ) (begun : Session (σ × List Exchange)) (index : Nat)
    (session : Session (σ × List Exchange)) : Prop where
  exchanges : begun.Exchanges (inquiry.exchanges (index + 1)) session
  elapsed : inquiry.timeline.ends index ≤ session.elapsed
  /-- Nothing is set off unless the run is cancelled. -/
  quiet : (inquiry.reply index).cancels = false →
    session.isCancelled = false ∧ session.elapsed = inquiry.timeline.ends index ∧
      session.outside.1 = inquiry.stateAfter (index + 1)
  cancelled : (inquiry.reply index).cancels = true → session.isCancelled = true

section

variable {condition : Condition} {opening : Opening σ} {begun : Session (σ × List Exchange)}
  {index : Nat}

/-- The wait does not go on when its time is up. -/
theorem Replied.not_goesOn {inquiry : Inquiry σ} (replied : Replied inquiry begun index session)
    (passed : ∃ finish ∈ inquiry.timeline.deadline?, finish ≤ session.elapsed) :
    ¬ inquiry.GoesOn index := by
  intro goesOn
  obtain ⟨finish, found, passed⟩ := passed
  have inTime := goesOn.2.1 finish found
  rw [(replied.quiet goesOn.2.2).2.1] at passed
  exact absurd passed (Nat.not_le.mpr inTime)

/-- A wait starts with a request, or with a pause before it. -/
theorem Underway.starts (outside : Outside σ) (active : session.isCancelled = false) :
    Underway (condition.inquiry outside session.opening) session 0
      (if condition.immediate then session
        else session.pause (Poll.firstPause condition.wait)) := by
  have none : ∀ earlier < 0, (condition.inquiry outside session.opening).GoesOn earlier :=
    fun _ less => absurd less (Nat.not_lt_zero _)
  cases immediate : condition.immediate with
  | true =>
      have begins : (condition.inquiry outside session.opening).timeline.begins 0 =
          session.elapsed := if_pos immediate
      exact ⟨.same rfl (Nat.le_refl _) id, none, active, begins.symm, rfl⟩
  | false =>
      let pause := Poll.firstPause condition.wait
      have begins : (condition.inquiry outside session.opening).timeline.begins 0 =
          session.elapsed + min condition.wait.interval.nanos condition.wait.timeout.nanos :=
        if_neg (Bool.eq_false_iff.mp immediate)
      have paused : session.pause pause =
          { session with elapsed := session.elapsed + pause.nanos } :=
        if_neg (Bool.eq_false_iff.mp active)
      change Underway _ session 0 (session.pause pause)
      rw [paused]
      exact ⟨.same rfl (Nat.le_add_right _ _) id, none, active, begins.symm, rfl⟩

variable (outside : Outside σ)
  (reacts : ∀ watcher session, Exchanges session [] (reaction watcher session))

include reacts

/-- An evaluation makes the next request of the inquiry. -/
theorem Underway.evaluate (essential : condition.request.isAside = false)
    (underway : Underway (condition.inquiry outside opening) begun index session) :
    let evaluated := session.evaluate outside.recording reaction condition
    let reply : Reply condition.request.Answer := (condition.inquiry outside opening).reply index
    evaluated.1 = (condition.judge reply.answer).probe ∧
      Replied (condition.inquiry outside opening) begun index evaluated.2 := by
  intro evaluated reply
  let inquiry := condition.inquiry outside opening
  let announced := session.addLog condition.announcement
  let replied := announced.replied outside.recording condition.request
  let answered := announced.ask outside.recording reaction condition.request
  have told : begun.Exchanges (inquiry.exchanges index) announced :=
    underway.exchanges.trans_nil (.same rfl (Nat.le_refl _) id)
  have next : outside.reply condition.request announced.outside.1 =
      (reply, inquiry.stateAfter (index + 1)) := by
    change outside.reply condition.request session.outside.1 = _
    rw [underway.state]
    rfl
  have answer : answered.1 = reply.answer := congrArg (fun next => next.1.answer) next
  have ends : replied.elapsed = inquiry.timeline.ends index := by
    have takes := congrArg (fun next => session.elapsed + next.1.takes.nanos) next
    exact takes.trans (congrArg (· + reply.takes.nanos) underway.elapsed)
  have asks : announced.Exchanges [⟨condition.request, reply.answer⟩] answered.2 := by
    have exchanged : announced.Exchanges (asked [⟨condition.request, answered.1⟩]) answered.2 :=
      ask_exchanges outside reacts condition.request announced
    rwa [asked_singleton essential, answer] at exchanged
  have follows : answered.2 = if reply.cancels then replied.cancel reaction else replied :=
    congrArg (fun next => if next.1.cancels then replied.cancel reaction else replied) next
  have logged : answered.2.Exchanges [] evaluated.2 := .same rfl (Nat.le_refl _) id
  refine ⟨congrArg (fun answer => (condition.judge answer).probe) answer, ?_, ?_, ?_, ?_⟩
  · rw [Inquiry.exchanges_succ]
    exact (told.trans asks).trans_nil logged
  · rw [← ends]
    exact ((exchanges_lasting outside reacts).ask condition.request announced).elapsed
  · intro quiet
    have same : answered.2 = replied := by rw [follows, quiet]; rfl
    change answered.2.isCancelled = false ∧ answered.2.elapsed = _ ∧ answered.2.outside.1 = _
    rw [same]
    exact ⟨underway.active, ends, congrArg Prod.snd next⟩
  · intro cancels
    have same : answered.2 = replied.cancel reaction := by rw [follows, cancels]; rfl
    change answered.2.isCancelled = true
    rw [same]
    exact cancel_isCancelled reacts replied

/-- After an answer that decides nothing, and a pause, the wait makes its next request. -/
theorem Replied.pause {inquiry : Inquiry σ} (replied : Replied inquiry begun index session)
    (goesOn : inquiry.GoesOn index) (before : ∀ earlier < index, inquiry.GoesOn earlier)
    {pause : Duration}
    (pauses : Poll.nextPause inquiry.timeline.wait inquiry.timeline.deadline? session.elapsed =
      some pause) :
    Underway inquiry begun (index + 1) (session.pause pause) := by
  obtain ⟨active, elapsed, state⟩ := replied.quiet goesOn.2.2
  rw [elapsed, Poll.Script.nextPause_of_inTime goesOn.2.1] at pauses
  cases pauses
  let rest : Duration := ⟨inquiry.timeline.rest (inquiry.timeline.ends index)⟩
  have paused : session.pause rest = { session with elapsed := session.elapsed + rest.nanos } :=
    if_neg (Bool.eq_false_iff.mp active)
  have rests := (exchanges_lasting inquiry.outside reacts).pause rest session
  have follows := replied.exchanges.trans_nil rests
  have still : ∀ earlier < index + 1, inquiry.GoesOn earlier := by
    intro earlier less
    rcases Nat.lt_succ_iff_lt_or_eq.mp less with before' | rfl
    · exact before earlier before'
    · exact goesOn
  change Underway inquiry begun (index + 1) (session.pause rest)
  rw [paused] at follows ⊢
  exact ⟨follows, still, active, congrArg (· + rest.nanos) elapsed, state⟩

/-- With a request a wait ends, or it goes on. -/
theorem Underway.turns (essential : condition.request.isAside = false) {found : Poll.Answer}
    (underway : Underway (condition.inquiry outside opening) begun index session)
    (polled : Poll.fromEvaluation (surroundings outside.recording reaction condition)
      condition.wait (Poll.deadline condition.wait opening.elapsed) (rounds + 1) session =
        (found, after)) :
    let inquiry := condition.inquiry outside opening
    (∃ ending, found = some ending ∧ Replied inquiry begun index after ∧
      inquiry.Closes index after.elapsed ending) ∨
    ∃ middle, Underway inquiry begun (index + 1) middle ∧
      Poll.fromEvaluation (surroundings outside.recording reaction condition)
        condition.wait (Poll.deadline condition.wait opening.elapsed) rounds middle =
          (found, after) := by
  intro inquiry
  let evaluated := session.evaluate outside.recording reaction condition
  let reply : Reply condition.request.Answer := inquiry.reply index
  obtain ⟨probe, replied⟩ := underway.evaluate outside reacts essential
  have evaluates : (surroundings outside.recording reaction condition).evaluate session =
      ((condition.judge reply.answer).probe, evaluated.2) := Prod.ext probe rfl
  unfold Poll.fromEvaluation at polled
  rw [evaluates] at polled
  cases judged : (condition.judge reply.answer).probe with
  | converged =>
      rw [judged] at polled
      cases polled
      exact .inl ⟨_, rfl, replied, .shown judged⟩
  | fatal reason =>
      rw [judged] at polled
      cases polled
      exact .inl ⟨_, rfl, replied, .refused judged⟩
  | pending =>
      have undecided : ¬ inquiry.IsDecisive index :=
        (condition.not_isDecisive_iff reply.answer).mpr judged
      rw [judged] at polled
      dsimp only at polled
      split at polled
      · next none =>
          cases polled
          have passed := Poll.nextPause_eq_none_iff.mp none
          exact .inl ⟨_, rfl, replied, .late ⟨undecided, replied.not_goesOn passed, passed⟩⟩
      · next pause pauses =>
          have inTime := Poll.lt_of_nextPause pauses
          change (if (evaluated.2.pause pause).isCancelled then
              (some (.error .cancelled), evaluated.2.pause pause)
            else Poll.fromEvaluation _ _ _ rounds (evaluated.2.pause pause)) = _ at polled
          cases cancels : reply.cancels with
          | true =>
              -- The pause is over at once, so the time is that of the answer and its consequences.
              have told := replied.cancelled cancels
              have stays : evaluated.2.pause pause = evaluated.2 := if_pos told
              rw [stays, if_pos told] at polled
              cases polled
              exact .inl ⟨_, rfl, replied, .cancelled ⟨undecided, cancels, inTime⟩⟩
          | false =>
              have answered := (replied.quiet cancels).2.1
              have early : inquiry.timeline.InTime index := by
                intro finish found
                exact answered ▸ inTime finish found
              have next := replied.pause reacts ⟨undecided, early, cancels⟩ underway.goesOn pauses
              rw [if_neg (Bool.eq_false_iff.mp next.active)] at polled
              exact .inr ⟨_, next, polled⟩

/-- From a request on, a wait hears what its inquiry says. -/
theorem Underway.hears (essential : condition.request.isAside = false)
    (active : opening.isCancelled = false) {found : Poll.Answer}
    (underway : Underway (condition.inquiry outside opening) begun index session)
    (polled : Poll.fromEvaluation (surroundings outside.recording reaction condition)
      condition.wait (Poll.deadline condition.wait opening.elapsed) rounds session =
        (found, after)) :
    let inquiry := condition.inquiry outside opening
    ∃ count, begun.Exchanges (inquiry.exchanges count) after ∧
      inquiry.Heard (index + rounds) after.elapsed count found := by
  intro inquiry
  -- The rounds that are left and the requests that have been made add up to the same number.
  induction rounds generalizing session index with
  | zero =>
      cases polled
      exact ⟨index, underway.exchanges, .exhausted active underway.goesOn underway.elapsed⟩
  | succ rounds inductionHypothesis =>
      rcases underway.turns outside reacts essential polled with
        ⟨ending, rfl, replied, closes⟩ | ⟨middle, next, rest⟩
      · refine ⟨index + 1, replied.exchanges, ?_⟩
        exact .closed active (by omega) underway.goesOn replied.elapsed
          (fun quiet => (replied.quiet quiet).2.1) closes
      · have heard := inductionHypothesis next rest
        rwa [Nat.add_assoc, Nat.add_comm 1] at heard

/-- A wait after a request begins when the request is answered. -/
theorem ask_opens (request : Request) (active : session.isCancelled = false) :
    let reply := outside.reply request session.outside.1
    (session.ask outside.recording reaction request).2.Opens
      ⟨session.elapsed + reply.1.takes.nanos, reply.1.cancels, reply.2⟩ := by
  intro reply
  let replied := session.replied outside.recording request
  change Opens (if reply.1.cancels then replied.cancel reaction else replied) _
  cases cancels : reply.1.cancels with
  | true => exact .inr ⟨cancel_isCancelled reacts replied, rfl⟩
  | false =>
      refine .inl ?_
      change replied.opening = _
      rw [← active]
      rfl

/-- A wait hears what its inquiry says. -/
theorem await_hears (essential : condition.request.isAside = false)
    (opens : session.Opens opening) {found : Poll.Answer}
    (awaited : session.step outside.recording reaction rounds (.await condition) =
      (found, after)) :
    let inquiry := condition.inquiry outside opening
    ∃ count, session.Exchanges (inquiry.exchanges count) after ∧
      inquiry.Heard rounds after.elapsed count found := by
  intro inquiry
  change Poll.run (surroundings outside.recording reaction condition) _ _ _ _ = _ at awaited
  unfold Poll.run at awaited
  dsimp only at awaited
  cases cancelled : session.isCancelled with
  | true =>
      have told : opening.isCancelled = true := by
        rcases opens with rfl | ⟨-, told⟩
        · exact cancelled
        · exact told
      change (if session.isCancelled then _ else _) = _ at awaited
      rw [if_pos cancelled] at awaited
      cases awaited
      exact ⟨0, .same rfl (Nat.le_refl _) id, .nothing told⟩
  | false =>
      obtain rfl : session.opening = opening := opens.resolve_right (by simp [cancelled])
      change (if session.isCancelled then _ else _) = _ at awaited
      rw [if_neg (Bool.eq_false_iff.mp cancelled)] at awaited
      have starts : Underway inquiry session 0 _ := Underway.starts outside cancelled
      cases immediate : condition.immediate with
      | true =>
          rw [immediate] at starts awaited
          have heard := starts.hears outside reacts essential cancelled awaited
          rwa [Nat.zero_add] at heard
      | false =>
          rw [immediate] at starts awaited
          change Underway _ _ 0 (session.pause (Poll.firstPause condition.wait)) at starts
          change (if (session.pause (Poll.firstPause condition.wait)).isCancelled then _ else _) =
            _ at awaited
          rw [if_neg (Bool.eq_false_iff.mp starts.active)] at awaited
          have heard := starts.hears outside reacts essential cancelled awaited
          rwa [Nat.zero_add] at heard

end

end Session

/-! ## What becomes of a program that waits -/

namespace Run

variable {σ ε : Type} {outside : Outside σ} {rounds : Nat}
  {session middle : Session (σ × List Exchange)}

theorem reaction_exchanges (outside : Outside σ) (rounds : Nat) (watcher : Watcher)
    (session : Session (σ × List Exchange)) :
    session.Exchanges [] (reaction outside.recording rounds watcher session) :=
  (Session.exchanges_lasting outside fun _ _ => .same rfl (Nat.le_refl _) id).execute
    (interruption_isAside watcher).uses rounds session

/-- After some exchanges the execution of a program makes an inquiry. Its requests are all that is
asked from then on, and their answers settle the program. -/
def Settles (rounds : Nat) (program : Program (Except ε Unit))
    (session : Session (σ × List Exchange)) (before : List Exchange) (inquiry : Inquiry σ)
    (fail : Poll.Error → ε) : Prop :=
  ∃ outcome count after,
    execute inquiry.outside.recording rounds program session = (outcome, after) ∧
    session.Exchanges (before ++ inquiry.exchanges count) after ∧
    inquiry.Settled fail rounds count outcome after.elapsed

namespace Settles

variable {condition : Condition} {opening : Opening σ} {inquiry : Inquiry σ}
  {fail : Poll.Error → ε} {before later : List Exchange}

/-- An answered action may come before the wait. -/
theorem perform {action : Action} {answer : action.Answer}
    {next : action.Answer → Program (Except ε Unit)}
    (stepped : session.step inquiry.outside.recording
      (reaction inquiry.outside.recording rounds) rounds action = (some answer, middle))
    (exchanged : session.Exchanges before middle)
    (rest : Settles rounds (next answer) middle later inquiry fail) :
    Settles rounds (.perform action next) session (before ++ later) inquiry fail := by
  obtain ⟨outcome, count, after, executed, exchanges, settled⟩ := rest
  refine ⟨outcome, count, after, (Session.execute_answered stepped).trans executed, ?_, settled⟩
  rw [List.append_assoc]
  exact exchanged.trans exchanges

theorem aside {action : Action} {answer : action.Answer}
    {next : action.Answer → Program (Except ε Unit)} (aside : action.IsAside)
    (stepped : session.step inquiry.outside.recording
      (reaction inquiry.outside.recording rounds) rounds action = (some answer, middle))
    (rest : Settles rounds (next answer) middle before inquiry fail) :
    Settles rounds (.perform action next) session before inquiry fail := by
  have exchanged : session.Exchanges [] _ :=
    (Session.exchanges_lasting inquiry.outside
      (reaction_exchanges inquiry.outside rounds)).step aside rounds session
  rw [stepped] at exchanged
  exact .perform stepped exchanged rest

/-- Once the run is cancelled, the wait may be left out. -/
theorem cancelled (told : opening.isCancelled = true) (distinct : Function.Injective fail) :
    Settles rounds (.done (.error (fail .cancelled))) session []
      (condition.inquiry outside opening) fail := by
  let inquiry := condition.inquiry outside opening
  have heard : inquiry.Heard rounds session.elapsed 0 (some (.error .cancelled)) := .nothing told
  exact ⟨_, 0, session, rfl, .same rfl (Nat.le_refl _) id,
    heard.settled condition.question_isClear distinct⟩

/-- The wait itself, after which a success is only told. -/
theorem await {next : Except Poll.Error Unit → Program (Except ε Unit)}
    (essential : condition.request.isAside = false) (distinct : Function.Injective fail)
    (opens : session.Opens opening)
    (succeeds : ∀ session, ∃ after,
      execute outside.recording rounds (next (.ok ())) session = (.finished (.ok ()), after) ∧
        session.OnlyTold after)
    (fails : ∀ error, next (.error error) = .done (.error (fail error))) :
    Settles rounds (.perform (.await condition) next) session []
      (condition.inquiry outside opening) fail := by
  have reacts := reaction_exchanges outside rounds
  let reaction := reaction outside.recording rounds
  rcases stepped : session.step outside.recording reaction rounds (.await condition) with
    ⟨found, middle⟩
  obtain ⟨count, exchanged, heard⟩ := Session.await_hears outside reacts essential opens stepped
  have settled := heard.settled condition.question_isClear distinct
  rcases found with _ | (error | _)
  · exact ⟨_, count, middle, Session.execute_unsettled stepped, exchanged, settled⟩
  · refine ⟨_, count, middle, (Session.execute_answered stepped).trans ?_, exchanged, settled⟩
    rw [fails]
    rfl
  · obtain ⟨after, executed, told⟩ := succeeds middle
    have same : middle.Exchanges [] after := by
      rw [told]
      exact .same rfl (Nat.le_refl _) id
    have elapsed : after.elapsed = middle.elapsed := by rw [told]
    refine ⟨_, count, after, (Session.execute_answered stepped).trans executed,
      exchanged.trans_nil same, ?_⟩
    rw [elapsed]
    exact settled

end Settles

end Run

end AddonCheck
