import AddonCheck.Proofs.Course
import AddonCheck.Proofs.Decided
import AddonCheck.Session

/-
This file says what becomes of a wait that puts a question to the outside again and again. The first
answer that decides ends the wait. After every other answer the wait goes on, until its time is up
or the run is cancelled. How often and when the question is put follows the timeline of the wait.
-/

namespace AddonCheck

open Poll (Script)

/-- The statuses of answers to requests that are not allowed. -/
def IsForbidden (status? : Option Nat) : Prop := status? = some 401 ∨ status? = some 403

/-- What a wait asks and for how long, and which answers decide it. -/
structure Question where
  wait : Wait
  /-- The wait starts with a request, and not with a pause. -/
  immediate : Bool
  request : Request
  /-- The answer ends the wait well. -/
  shows : request.Answer → Prop
  /-- The answer makes it pointless to ask again, for a reason. -/
  refuses : request.Answer → String → Prop

namespace Question

def IsDecisive (question : Question) (answer : question.request.Answer) : Prop :=
  question.shows answer ∨ ∃ reason, question.refuses answer reason

/-- No answer decides in two ways. -/
def IsClear (question : Question) : Prop :=
  ∀ answer reason, question.refuses answer reason →
    ¬ question.shows answer ∧ ∀ other, question.refuses answer other → other = reason

end Question

/-- The question that a condition reads its answers by. -/
def Condition.question (condition : Condition) : Question where
  wait := condition.wait
  immediate := condition.immediate
  request := condition.request
  shows answer := (condition.judge answer).probe = .converged
  refuses answer reason := (condition.judge answer).probe = .fatal reason

theorem Condition.question_isClear (condition : Condition) : condition.question.IsClear := by
  intro answer reason refused
  have found : (condition.judge answer).probe = .fatal reason := refused
  simp [Condition.question, found, eq_comm]

theorem Condition.not_isDecisive_iff (condition : Condition) (answer : condition.request.Answer) :
    ¬ condition.question.IsDecisive answer ↔ (condition.judge answer).probe = .pending := by
  change ¬ ((condition.judge answer).probe = .converged ∨
    ∃ reason, (condition.judge answer).probe = .fatal reason) ↔ _
  cases (condition.judge answer).probe <;> simp

/-- Where a wait begins: the time, whether the run is cancelled by then, and the state of the
outside. -/
structure Opening (σ : Type) where
  elapsed : Nat
  isCancelled : Bool
  state : σ

/-- A question that is put to an outside, from an opening on. -/
structure Inquiry (σ : Type) where
  question : Question
  outside : Outside σ
  opening : Opening σ

/-- The inquiry that a condition makes. -/
def Condition.inquiry {σ : Type} (condition : Condition) (outside : Outside σ)
    (opening : Opening σ) : Inquiry σ := ⟨condition.question, outside, opening⟩

/-- There is no further pause once the time is up. -/
theorem Poll.nextPause_eq_none_iff {wait : Wait} {deadline : Option Nat} {now : Nat} :
    nextPause wait deadline now = none ↔ ∃ finish ∈ deadline, finish ≤ now := by
  unfold nextPause
  cases deadline with
  | none => simp
  | some finish => simp

theorem Poll.lt_of_nextPause {wait : Wait} {deadline : Option Nat} {now : Nat} {pause : Duration}
    (pauses : nextPause wait deadline now = some pause) : ∀ finish ∈ deadline, now < finish := by
  intro finish found
  by_contra late
  have ended : nextPause wait deadline now = none :=
    nextPause_eq_none_iff.mpr ⟨finish, found, Nat.not_lt.mp late⟩
  rw [pauses] at ended
  cases ended

namespace Inquiry

variable {σ ε : Type} (inquiry : Inquiry σ)

/-- The state of the outside after so many requests. -/
def stateAfter : Nat → σ
  | 0 => inquiry.opening.state
  | count + 1 => (inquiry.outside.reply inquiry.question.request (stateAfter count)).2

/-- The reply to one of the requests, which are counted from zero. -/
def reply (index : Nat) : Reply inquiry.question.request.Answer :=
  (inquiry.outside.reply inquiry.question.request (inquiry.stateAfter index)).1

/-- The first requests with their answers. -/
def exchanges (count : Nat) : List Exchange :=
  (List.range count).map fun index => ⟨inquiry.question.request, (inquiry.reply index).answer⟩

theorem exchanges_succ (count : Nat) :
    inquiry.exchanges (count + 1) = inquiry.exchanges count ++
      [⟨inquiry.question.request, (inquiry.reply count).answer⟩] := by
  simp [exchanges, List.range_succ]

/-- When the requests are made and answered, as long as no answer decides and nobody cancels the
run. -/
def timeline : Script where
  wait := inquiry.question.wait
  immediate := inquiry.question.immediate
  start := inquiry.opening.elapsed
  probe _ := .pending
  takes index := (inquiry.reply index).takes
  cancels := none

def IsDecisive (index : Nat) : Prop := inquiry.question.IsDecisive (inquiry.reply index).answer

/-- The answer decides nothing, and it arrives in time and before a cancellation. -/
def GoesOn (index : Nat) : Prop :=
  ¬ inquiry.IsDecisive index ∧ inquiry.timeline.InTime index ∧
    (inquiry.reply index).cancels = false

/-- The time is up after an answer that decides nothing. -/
def Expires (last ended : Nat) : Prop :=
  ¬ inquiry.IsDecisive last ∧ ¬ inquiry.GoesOn last ∧
    ∃ finish ∈ inquiry.timeline.deadline?, finish ≤ ended

/-- There is time left after an answer that decides nothing, but the run is cancelled. -/
def BreaksOff (last ended : Nat) : Prop :=
  ¬ inquiry.IsDecisive last ∧ (inquiry.reply last).cancels = true ∧
    ∀ finish ∈ inquiry.timeline.deadline?, ended < finish

/-- How a wait ends with an answer, at some time. -/
inductive Closes (last ended : Nat) : Except Poll.Error Unit → Prop
  | shown (shows : inquiry.question.shows (inquiry.reply last).answer) : Closes last ended (.ok ())
  | refused {reason : String}
      (refuses : inquiry.question.refuses (inquiry.reply last).answer reason) :
      Closes last ended (.error (.fatal reason))
  | late (expires : inquiry.Expires last ended) :
      Closes last ended (.error (.timeout inquiry.question.wait.timeout))
  | cancelled (breaksOff : inquiry.BreaksOff last ended) : Closes last ended (.error .cancelled)

/-- How many answers a wait hears in at most so many rounds, and how it ends. -/
inductive Heard (rounds ended : Nat) : Nat → Poll.Answer → Prop
  | nothing (told : inquiry.opening.isCancelled = true) :
      Heard rounds ended 0 (some (.error .cancelled))
  | closed {last : Nat} {ending : Except Poll.Error Unit}
      (active : inquiry.opening.isCancelled = false) (less : last < rounds)
      (goesOn : ∀ earlier < last, inquiry.GoesOn earlier)
      (answered : inquiry.timeline.ends last ≤ ended)
      (prompt : (inquiry.reply last).cancels = false → ended = inquiry.timeline.ends last)
      (closes : inquiry.Closes last ended ending) : Heard rounds ended (last + 1) (some ending)
  | exhausted (active : inquiry.opening.isCancelled = false)
      (goesOn : ∀ earlier < rounds, inquiry.GoesOn earlier)
      (reached : ended = inquiry.timeline.begins rounds) : Heard rounds ended rounds none

/-- A program whose failures are those of its wait is decided by the first answer that decides. -/
structure Settled (fail : Poll.Error → ε) (rounds count : Nat) (outcome : Outcome (Except ε Unit))
    (ended : Nat) : Prop where
  /-- Something is asked unless the run is cancelled before. -/
  asks : 0 < count ↔ inquiry.opening.isCancelled = false ∧ 0 < rounds
  /-- After an answer that decides nothing the request is repeated, if there is time and the run is
  not cancelled. After every other answer nothing is asked. -/
  repeats : ∀ index < count, inquiry.GoesOn index ↔ index + 1 < count ∨ outcome = .unsettled
  converges : outcome = .finished (.ok ()) ↔
    ∃ index < count, inquiry.question.shows (inquiry.reply index).answer
  fails : ∀ reason, outcome = .finished (.error (fail (.fatal reason))) ↔
    ∃ index < count, inquiry.question.refuses (inquiry.reply index).answer reason
  timesOut : outcome = .finished (.error (fail (.timeout inquiry.question.wait.timeout))) ↔
    ∃ last, count = last + 1 ∧ inquiry.Expires last ended
  isCancelled : outcome = .finished (.error (fail .cancelled)) ↔
    inquiry.opening.isCancelled = true ∨
      ∃ last, count = last + 1 ∧ inquiry.BreaksOff last ended
  /-- Only the rounds can keep a wait from being settled. -/
  unsettled : outcome = .unsettled ↔ inquiry.opening.isCancelled = false ∧ count = rounds ∧
    ∀ index < count, inquiry.GoesOn index
  /-- The last answer ends the wait at once, unless a cancellation is dealt with first. -/
  closes : outcome ≠ .unsettled → ∀ last, count = last + 1 →
    inquiry.timeline.ends last ≤ ended ∧
      ((inquiry.reply last).cancels = false → ended = inquiry.timeline.ends last)
  /-- The interval and the timeout bound the number of requests. -/
  bounded : 0 < inquiry.question.wait.interval.nanos → inquiry.timeline.deadline? ≠ none →
    count ≤ inquiry.timeline.mostEvaluations ∧
      (inquiry.timeline.mostEvaluations ≤ rounds → outcome ≠ .unsettled)

variable {inquiry} {rounds ended count last : Nat} {found : Poll.Answer}
  {ending : Except Poll.Error Unit}

theorem GoesOn.lt_mostEvaluations {index : Nat} (goesOn : inquiry.GoesOn index)
    (positive : 0 < inquiry.question.wait.interval.nanos)
    (ends : inquiry.timeline.deadline? ≠ none) :
    index + 1 < inquiry.timeline.mostEvaluations := by
  obtain ⟨finish, found⟩ := Option.ne_none_iff_exists'.mp ends
  have undecided : inquiry.timeline.Undecided index := ⟨rfl, goesOn.2.1⟩
  exact undecided.lt_mostEvaluations found positive

/-- A wait that ends with an answer does not go on after it. -/
theorem Closes.not_goesOn (closes : inquiry.Closes last ended ending) :
    ¬ inquiry.GoesOn last := by
  cases closes with
  | shown shows => exact fun goesOn => goesOn.1 (.inl shows)
  | refused refuses => exact fun goesOn => goesOn.1 (.inr ⟨_, refuses⟩)
  | late expires => exact expires.2.1
  | cancelled breaksOff =>
      intro goesOn
      have told := breaksOff.2.1
      simp [goesOn.2.2] at told

/-- What excludes going on is true of the last answer alone. -/
theorem exists_lt_succ_iff {holds : Nat → Prop} (goesOn : ∀ earlier < last, inquiry.GoesOn earlier)
    (stops : ∀ index, holds index → ¬ inquiry.GoesOn index) :
    (∃ index < last + 1, holds index) ↔ holds last := by
  constructor
  · intro some
    obtain ⟨index, less, held⟩ := some
    rcases Nat.lt_succ_iff_lt_or_eq.mp less with earlier | rfl
    · exact absurd (goesOn index earlier) (stops index held)
    · exact held
  · intro held
    exact ⟨last, Nat.lt_succ_self last, held⟩

/-- The last answer is the one before so many are heard. -/
theorem exists_eq_last_iff {holds : Nat → Prop} :
    (∃ index, last + 1 = index + 1 ∧ holds index) ↔ holds last := by simp

/-- A wait that has time left is not over its time. -/
theorem BreaksOff.not_expires (breaksOff : inquiry.BreaksOff last ended) :
    ¬ inquiry.Expires last ended := by
  intro expires
  obtain ⟨finish, found, passed⟩ := expires.2.2
  exact absurd passed (Nat.not_le.mpr (breaksOff.2.2 finish found))

theorem shows_stops (index : Nat)
    (shows : inquiry.question.shows (inquiry.reply index).answer) : ¬ inquiry.GoesOn index :=
  fun goesOn => goesOn.1 (.inl shows)

theorem refuses_stops {reason : String} (index : Nat)
    (refuses : inquiry.question.refuses (inquiry.reply index).answer reason) :
    ¬ inquiry.GoesOn index :=
  fun goesOn => goesOn.1 (.inr ⟨reason, refuses⟩)

namespace Heard

variable (heard : inquiry.Heard rounds ended count found)

include heard

theorem asks : 0 < count ↔ inquiry.opening.isCancelled = false ∧ 0 < rounds := by
  cases heard with
  | nothing told => simp [told]
  | closed active less goesOn answered prompt closes =>
      simp only [active, Nat.succ_pos, true_and, true_iff]
      omega
  | exhausted active goesOn reached => simp [active]

theorem goesOn_iff : ∀ index < count, inquiry.GoesOn index ↔ index + 1 < count ∨ found = none := by
  cases heard with
  | nothing told => simp
  | @closed last ending active less goesOn answered prompt closes =>
      intro index less
      rcases Nat.lt_succ_iff_lt_or_eq.mp less with earlier | rfl
      · simp [goesOn index earlier, earlier]
      · simp [closes.not_goesOn]
  | exhausted active goesOn reached =>
      intro index less
      simp [goesOn index less]

theorem unsettled_iff : found = none ↔ inquiry.opening.isCancelled = false ∧ count = rounds ∧
    ∀ index < count, inquiry.GoesOn index := by
  cases heard with
  | nothing told => simp [told]
  | @closed last ending active less goesOn answered prompt closes =>
      simp only [reduceCtorEq, false_iff, not_and]
      intro _ _ all
      exact closes.not_goesOn (all last (Nat.lt_succ_self last))
  | exhausted active goesOn reached => simpa [active] using goesOn

theorem converged_iff (clear : inquiry.question.IsClear) : found = some (.ok ()) ↔
    ∃ index < count, inquiry.question.shows (inquiry.reply index).answer := by
  cases heard with
  | nothing told => simp
  | closed active less goesOn answered prompt closes =>
      rw [exists_lt_succ_iff goesOn shows_stops]
      cases closes with
      | shown shows => simp [shows]
      | refused refuses => simp [(clear _ _ refuses).1]
      | late expires => simpa using fun shows => expires.1 (.inl shows)
      | cancelled breaksOff => simpa using fun shows => breaksOff.1 (.inl shows)
  | exhausted active goesOn reached =>
      simpa using fun index less shows => shows_stops index shows (goesOn index less)

theorem fatal_iff (clear : inquiry.question.IsClear) (reason : String) :
    found = some (.error (.fatal reason)) ↔
      ∃ index < count, inquiry.question.refuses (inquiry.reply index).answer reason := by
  cases heard with
  | nothing told => simp
  | closed active less goesOn answered prompt closes =>
      rw [exists_lt_succ_iff goesOn refuses_stops]
      cases closes with
      | shown shows => simpa using fun refuses => (clear _ _ refuses).1 shows
      | @refused found refuses =>
          simp only [Option.some.injEq, Except.error.injEq, Poll.Error.fatal.injEq]
          constructor
          · intro same
            exact same ▸ refuses
          · intro refusesToo
            exact (clear _ _ refusesToo).2 _ refuses
      | late expires => simpa using fun refuses => expires.1 (.inr ⟨reason, refuses⟩)
      | cancelled breaksOff => simpa using fun refuses => breaksOff.1 (.inr ⟨reason, refuses⟩)
  | exhausted active goesOn reached =>
      simpa using fun index less refuses => refuses_stops index refuses (goesOn index less)

theorem timeout_iff : found = some (.error (.timeout inquiry.question.wait.timeout)) ↔
    ∃ last, count = last + 1 ∧ inquiry.Expires last ended := by
  cases heard with
  | nothing told => simp
  | closed active less goesOn answered prompt closes =>
      rw [exists_eq_last_iff]
      cases closes with
      | shown shows => simpa using fun expires => expires.1 (.inl shows)
      | refused refuses => simpa using fun expires => expires.1 (.inr ⟨_, refuses⟩)
      | late expires => simp [expires]
      | cancelled breaksOff => simpa using breaksOff.not_expires
  | exhausted active goesOn reached =>
      simp only [reduceCtorEq, false_iff, not_exists, not_and]
      intro last isLast expires
      exact expires.2.1 (goesOn last (by omega))

theorem cancelled_iff : found = some (.error .cancelled) ↔
    inquiry.opening.isCancelled = true ∨
      ∃ last, count = last + 1 ∧ inquiry.BreaksOff last ended := by
  cases heard with
  | nothing told => simp [told]
  | closed active less goesOn answered prompt closes =>
      rw [exists_eq_last_iff]
      cases closes with
      | shown shows => simpa [active] using fun breaksOff => breaksOff.1 (.inl shows)
      | refused refuses => simpa [active] using fun breaksOff => breaksOff.1 (.inr ⟨_, refuses⟩)
      | late expires => simpa [active] using fun breaksOff => breaksOff.not_expires expires
      | cancelled breaksOff => simp [breaksOff]
  | exhausted active goesOn reached =>
      simp only [reduceCtorEq, active, Bool.false_eq_true, false_or, false_iff, not_exists, not_and]
      intro last isLast breaksOff
      exact (Closes.cancelled breaksOff).not_goesOn (goesOn last (by omega))

theorem closes_at : found ≠ none → ∀ last, count = last + 1 →
    inquiry.timeline.ends last ≤ ended ∧
      ((inquiry.reply last).cancels = false → ended = inquiry.timeline.ends last) := by
  cases heard with
  | nothing told => exact fun _ _ none => nomatch none
  | closed active less goesOn answered prompt closes =>
      intro _ last isLast
      cases isLast
      exact ⟨answered, prompt⟩
  | exhausted active goesOn reached => exact fun some => absurd rfl some

/-- After each answer but the last one there is room for another request. -/
theorem bounded (positive : 0 < inquiry.question.wait.interval.nanos)
    (ends : inquiry.timeline.deadline? ≠ none) :
    count ≤ inquiry.timeline.mostEvaluations ∧
      (inquiry.timeline.mostEvaluations ≤ rounds → found ≠ none) := by
  have atLeastOne := inquiry.timeline.mostEvaluations_pos
  have room : ∀ index, inquiry.GoesOn index → index + 1 < inquiry.timeline.mostEvaluations :=
    fun index goesOn => goesOn.lt_mostEvaluations positive ends
  cases heard with
  | nothing told => simp
  | @closed last ending active less goesOn answered prompt closes =>
      cases last with
      | zero => exact ⟨atLeastOne, fun _ none => nomatch none⟩
      | succ last =>
          have another := room last (goesOn last (Nat.lt_succ_self last))
          exact ⟨another, fun _ none => nomatch none⟩
  | exhausted active goesOn reached =>
      cases rounds with
      | zero => simpa using atLeastOne.ne'
      | succ rounds =>
          have another := room rounds (goesOn rounds (Nat.lt_succ_self rounds))
          exact ⟨another.le, fun enough => absurd another (Nat.not_lt.mpr enough)⟩

end Heard

end Inquiry

/-- How a program ends whose failures are those of its wait. -/
def Outcome.ofWait {ε : Type} (fail : Poll.Error → ε) : Poll.Answer → Outcome (Except ε Unit)
  | none => .unsettled
  | some (.ok ()) => .finished (.ok ())
  | some (.error error) => .finished (.error (fail error))

theorem Outcome.ofWait_injective {ε : Type} {fail : Poll.Error → ε}
    (distinct : Function.Injective fail) : Function.Injective (Outcome.ofWait fail) := by
  intro first second same
  rcases first with _ | (error | _) <;> rcases second with _ | (other | _) <;>
    simp_all [Outcome.ofWait, distinct.eq_iff]

/-- What is heard settles a program that passes on how its wait ends. -/
theorem Inquiry.Heard.settled {σ ε : Type} {inquiry : Inquiry σ} {fail : Poll.Error → ε}
    {rounds ended count : Nat} {found : Poll.Answer}
    (heard : inquiry.Heard rounds ended count found) (clear : inquiry.question.IsClear)
    (distinct : Function.Injective fail) :
    inquiry.Settled fail rounds count (.ofWait fail found) ended := by
  have same : ∀ other, Outcome.ofWait fail found = .ofWait fail other ↔ found = other :=
    fun other => (Outcome.ofWait_injective distinct).eq_iff
  have unsettled : Outcome.ofWait fail found = .unsettled ↔ found = none := same none
  exact
    { asks := heard.asks
      repeats := by
        rw [unsettled]
        exact heard.goesOn_iff
      converges := (same (some (.ok ()))).trans (heard.converged_iff clear)
      fails := fun reason =>
        (same (some (.error (.fatal reason)))).trans (heard.fatal_iff clear reason)
      timesOut := (same (some (.error (.timeout _)))).trans heard.timeout_iff
      isCancelled := (same (some (.error .cancelled))).trans heard.cancelled_iff
      unsettled := unsettled.trans heard.unsettled_iff
      closes := fun settled => heard.closes_at (unsettled.not.mp settled)
      bounded := fun positive ends =>
        (heard.bounded positive ends).imp_right fun some enough => unsettled.not.mpr (some enough) }

end AddonCheck
