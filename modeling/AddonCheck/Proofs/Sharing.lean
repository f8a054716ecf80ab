import AddonCheck.Proofs.Notified
import AddonCheck.Proofs.Speech

/-
This file shows that a notification that threads share loses nothing and repeats nothing. Whatever
the order of their turns is, and whatever the transport answers, the texts that have been taken and
what is still gathered are together the lines that have been added, and what has been taken is
handed over once by the thread that has taken it.
-/

namespace AddonCheck

namespace Notification

/-- What a thread does with a notification. -/
inductive Use where
  | add (text : String)
  | send
  deriving DecidableEq, Repr

namespace Use

def program (channel : Channel) : Use → Program Unit
  | add text => Program.addLine text
  | send => flush channel

def text? : Use → Option String
  | add text => some text
  | send => none

end Use

/-- The texts that uses add, in their order. -/
def texts (uses : List Use) : List String := uses.filterMap Use.text?

/-- A thread that does nothing but use its notification. -/
def exercise (channel : Channel) : List Use → Program Unit
  | [] => .done ()
  | use :: rest => (use.program channel).bind fun _ => exercise channel rest

/-- Threads that share the notification of a session. -/
def sharing {ι σ : Type} (channel : Channel) (uses : ι → List Use) (session : Session σ) :
    Crew ι σ where
  session := session
  programs thread := exercise channel (uses thread)

/-- Texts are added in the order of a list, of which the state is what is left. Without a transport
nothing is delivered. -/
def reciting (channel : Channel) : Discipline (List String) where
  allows left action := (∀ text ∈ action.added?, left.head? = some text) ∧
    (channel = .logOnly → ∀ answer, action.delivered answer = [])
  next left action _ := left.drop action.added?.toList.length

/-- The flush of a notification adds no text. -/
theorem flush_recites (channel : Channel) (left : List String) :
    (flush channel).Keeps (reciting channel) left
      fun result after => result = some () ∧ after = left := by
  have silent {action : Action} (adds : action.added? = none)
      (delivers : channel = .logOnly → ∀ answer, action.delivered answer = []) :
      (reciting channel).allows left action ∧
        ∀ answer, (reciting channel).next left action answer = left := by
    simpa [reciting, adds] using delivers
  rw [flush_eq]
  refine ⟨(silent rfl fun _ _ => rfl).1, fun (message : String) => ?_⟩
  dsimp only
  split
  · exact ⟨rfl, rfl⟩
  · cases channel with
    | logOnly => exact ⟨(silent rfl fun _ _ => rfl).1, fun _ => ⟨rfl, rfl⟩⟩
    | transport =>
        refine ⟨(silent rfl nofun).1, fun answer => ?_⟩
        cases answer <;> exact ⟨(silent rfl nofun).1, fun _ => ⟨rfl, rfl⟩⟩

/-- A thread that uses a notification adds the texts of its uses. -/
theorem exercise_recites (channel : Channel) (uses : List Use) :
    (exercise channel uses).Keeps (reciting channel) (texts uses) fun _ left => left = [] := by
  induction uses with
  | nil => rfl
  | cons use rest inductionHypothesis =>
      cases use with
      | add text =>
          refine ⟨⟨fun other same => ?_, fun _ _ => rfl⟩, fun _ => inductionHypothesis⟩
          cases same
          rfl
      | send =>
          apply (flush_recites channel (texts rest)).bind
          · rintro _ _ ⟨-, rfl⟩
            exact inductionHypothesis
          · rintro _ ⟨crashed, -⟩
            cases crashed

/-- A thread that uses a notification delivers what it takes. -/
theorem exercise_keeps_voice (uses : List Use) :
    (exercise .transport uses).Keeps Voice.discipline .telling
      fun _ voice => voice = .telling := by
  induction uses with
  | nil => rfl
  | cons use rest inductionHypothesis =>
      cases use with
      | add text => exact ⟨rfl, fun _ => inductionHypothesis⟩
      | send => exact flush_keeps.bind_at rfl fun _ => inductionHypothesis

end Notification

/-- Who takes lines neither adds nor delivers any. -/
theorem Action.added?_of_takesLines {action : Action} (takes : action.takesLines = true) :
    action.added? = none := by
  cases action with
  | takeLines => rfl
  | _ => cases takes

theorem Action.delivered_of_takesLines {action : Action} (takes : action.takesLines = true)
    (answer : action.Answer) : action.delivered answer = [] := by
  cases action with
  | takeLines => rfl
  | _ => cases takes

variable {ι σ φ : Type}

/-- What has been taken and what is gathered are all that has been added, in this order. -/
def Conserved (initial : String) (crew : Crew ι σ) : Prop :=
  String.join (lifts crew.history) ++ crew.session.gathered =
    initial ++ Notification.lines (added crew.history)

/-- A deed takes from what is gathered only what it has taken. -/
theorem conserved_deed {initial gathered after : String} {history : List (Deed ι σ)}
    {deed : Deed ι σ}
    (conserved : String.join (lifts history) ++ gathered =
      initial ++ Notification.lines (added history))
    (gathers : after = deed.action.gatheredAfter gathered)
    (takes : deed.action.takesLines = true →
      deed.action.lifted deed.answer = Action.lifted .takeLines gathered) :
    String.join (lifts (history ++ [deed])) ++ after =
      initial ++ Notification.lines (added (history ++ [deed])) := by
  have lifted : lifts (history ++ [deed]) = lifts history ++ deed.action.lifted deed.answer := by
    simp [lifts]
  have told : added (history ++ [deed]) = added history ++ deed.action.added?.toList := by
    cases adds : deed.action.added? <;> simp [added, adds]
  rw [lifted, told, Notification.lines_append, ← String.append_assoc, ← conserved, gathers]
  cases taking : deed.action.takesLines with
  | true =>
      rw [takes taking, Action.added?_of_takesLines taking, gatheredAfter_of_takesLines taking]
      by_cases empty : gathered = "" <;>
        simp [Action.lifted, empty, Notification.lines, String.join_append]
  | false =>
      rw [lifted_of_not_takesLines taking]
      cases adds : deed.action.added? with
      | none => simp [gatheredAfter_of_quiet adds taking, Notification.lines]
      | some text =>
          simp [gatheredAfter_of_added adds, Notification.lines, String.append_assoc]

variable [DecidableEq ι]

/-- Whatever threads do, nothing that has been added is lost. -/
theorem conserved_stable {outside : Outside σ} {discipline : Discipline φ} (initial : String) :
    Crew.Stable outside discipline
      (fun _ crew => Conserved initial crew : Crew.Assertion ι σ φ) where
  rest conserved rests _ := by
    unfold Conserved
    rw [rests.gathered]
    exact conserved
  evaluation conserved _ rests _ := by
    unfold Conserved
    rw [rests.gathered]
    exact conserved
  deed thread action answer conserved _ _ effect := by
    refine conserved_deed conserved effect.gathered fun takes => ?_
    cases action with
    | takeLines => exact congrArg (Action.lifted .takeLines) effect.answered
    | _ => cases takes

/-- The text that the action adds to the notification, as an entry. -/
def Action.recited : Entry String := fun action _ => action.added?.toList

/-- What each thread has to add is what it has added and what it has left. -/
def Recited (whole : ι → List String) (states : ι → List String) (crew : Crew ι σ) : Prop :=
  ∀ thread, whole thread = entries Action.recited crew.history thread ++ states thread

/-- Threads add the texts that they are to add, in their order. -/
theorem recited_stable {outside : Outside σ} {channel : Notification.Channel}
    (whole : ι → List String) :
    Crew.Stable outside (Notification.reciting channel)
      (Recited whole : Crew.Assertion ι σ (List String)) where
  rest recited _ _ := recited
  evaluation recited _ _ _ := recited
  deed := by
    intro states crew session rest thread action answer recited allowed _ _ other
    let deed : Deed ι σ := ⟨thread, action, answer, session.outside⟩
    change whole other = entries _ (crew.history ++ [deed]) other ++ _
    by_cases own : thread = other
    · subst own
      rw [entries_append, Function.update_self, List.append_assoc, recited thread]
      congr 1
      change states thread = action.added?.toList ++
        (states thread).drop action.added?.toList.length
      cases adds : action.added? with
      | none => rfl
      | some text =>
          obtain ⟨rest, left⟩ := List.head?_eq_some_iff.mp (allowed.1 text adds)
          rw [left]
          rfl
    · rw [entries_append_of_ne _ own, Function.update_of_ne (Ne.symm own)]
      exact recited other

/-- Without a transport nothing is delivered. -/
theorem undelivered_stable {outside : Outside σ} {channel : Notification.Channel}
    (quiet : channel = .logOnly) :
    Crew.Stable outside (Notification.reciting channel)
      (fun _ crew => deliveries crew.history = [] : Crew.Assertion ι σ (List String)) where
  rest none _ _ := none
  evaluation none _ _ _ := none
  deed thread action answer none allowed _ _ := by
    have silent : action.delivered answer = [] := allowed.2 quiet answer
    simpa [deliveries, Crew.did, silent] using none

/-- The ledgers are balanced, and each deed was allowed when they were balanced before it. -/
structure Audited (discipline : Discipline φ) {β : Type} (gain loss : Entry β) (owed : φ → List β)
    (states : ι → φ) (crew : Crew ι σ) : Prop where
  balanced : Balanced gain loss owed states crew
  allowed : ∀ before deed after, crew.history = before ++ deed :: after →
    ∃ state, discipline.allows state deed.action ∧
      entries gain before deed.thread = entries loss before deed.thread ++ owed state

theorem audited_stable {outside : Outside σ} {discipline : Discipline φ} {β : Type}
    {gain loss : Entry β} {owed : φ → List β}
    (balances : ∀ state action answer, discipline.allows state action →
      owed state ++ gain action answer =
        loss action answer ++ owed (discipline.next state action answer)) :
    Crew.Stable outside discipline
      (Audited discipline gain loss owed : Crew.Assertion ι σ φ) where
  rest audited _ _ := ⟨audited.balanced, audited.allowed⟩
  evaluation audited _ _ _ := ⟨audited.balanced, audited.allowed⟩
  deed thread action answer audited allowed awake effect := by
    refine ⟨(balanced_stable balances).deed thread action answer audited.balanced allowed awake
      effect, fun before deed after history => ?_⟩
    rcases Crew.did_history history with ⟨rfl, rfl, -⟩ | ⟨earlier, -, former⟩
    · exact ⟨_, allowed, audited.balanced thread⟩
    · exact audited.allowed before deed earlier former

/-- What a thread has entered does not change while others do their deeds. -/
theorem entries_between {β : Type} (entry : Entry β) {before middle : List (Deed ι σ)}
    {deed : Deed ι σ} (others : ∀ other ∈ middle, other.thread ≠ deed.thread) :
    entries entry (before ++ deed :: middle) deed.thread =
      entries entry before deed.thread ++ entry deed.action deed.answer := by
  have none : (middle.filter fun other => other.thread = deed.thread) = [] := by
    simpa using others
  simp [entries, none]

/-- The deed is a taking that finds nothing, and the other one is the next deed of its thread. -/
structure FollowsEmpty (history : List (Deed ι σ)) (deed other : Deed ι σ) : Prop where
  takes : deed.action.takesLines = true
  empty : deed.action.lifted deed.answer = []
  same : other.thread = deed.thread
  next : ∃ before middle after, history = before ++ deed :: (middle ++ other :: after) ∧
    ∀ between ∈ middle, between.thread ≠ deed.thread

/-- The notification of threads that use it is shared without loss. -/
structure Shared (channel : Notification.Channel) (uses : ι → List Notification.Use)
    (initial : String) (crew : Crew ι σ) : Prop where
  conserved : Conserved initial crew
  /-- Each thread adds the texts of its uses, in their order. -/
  recites : ∀ thread, entries Action.recited crew.history thread <+:
    Notification.texts (uses thread)
  recited : ∀ thread, (crew.programs thread).isOver = true →
    entries Action.recited crew.history thread = Notification.texts (uses thread)
  /-- What a thread has taken it has handed over, in this order, or it is about to do so. -/
  hands : channel = .transport → ∀ thread, ∃ held : List String, held.length ≤ 1 ∧
    entries Action.lifted crew.history thread =
      entries Action.delivered crew.history thread ++ held ∧
    ((crew.programs thread).isOver = true → held = [])
  /-- Each text that is handed over is what its thread has taken last. -/
  handed : ∀ before deed after message, crew.history = before ++ deed :: after →
    message ∈ deed.action.delivered deed.answer →
      entries Action.lifted before deed.thread =
        entries Action.delivered before deed.thread ++ [message]
  unhanded : channel = .logOnly → deliveries crew.history = []
  nonempty : ∀ message ∈ deliveries crew.history, message ≠ ""
  /-- Whoever finds nothing hands over nothing. -/
  silent : ∀ deed other, FollowsEmpty crew.history deed other →
    other.action.delivered other.answer = []

section

variable {states : ι → Voice} {crew : Crew ι σ}

/-- Who delivers a message holds it. -/
theorem Voice.held_of_delivered {voice : Voice} {action : Action} {answer : action.Answer}
    {message : String} (allowed : voice.allows action)
    (delivers : message ∈ action.delivered answer) : voice.held = [message] := by
  cases action with
  | ask request =>
      cases request with
      | deliver text =>
          obtain rfl := List.mem_singleton.mp delivers
          obtain rfl := allowed
          rfl
      | _ => exact absurd delivers List.not_mem_nil
  | _ => exact absurd delivers List.not_mem_nil

theorem Voice.held_of_takesLines {voice : Voice} {action : Action}
    (allowed : voice.allows action) (takes : action.takesLines = true) : voice.held = [] := by
  cases action with
  | takeLines =>
      obtain rfl := allowed
      rfl
  | _ => cases takes

/-- What has been taken is not empty. -/
theorem ne_empty_of_mem_lifted {action : Action} {answer : action.Answer} {text : String}
    (lifted : text ∈ action.lifted answer) : text ≠ "" := by
  rintro rfl
  cases action with
  | takeLines =>
      simp only [Action.lifted] at lifted
      split at lifted
      · cases lifted
      · next nonempty =>
          exact nonempty (List.mem_singleton.mp lifted).symm
  | _ => cases lifted

abbrev VoiceAudited (states : ι → Voice) (crew : Crew ι σ) : Prop :=
  Audited Voice.discipline Action.lifted Action.delivered Voice.held states crew

theorem VoiceAudited.handed (audited : VoiceAudited states crew)
    {before after : List (Deed ι σ)} {deed : Deed ι σ} {message : String}
    (history : crew.history = before ++ deed :: after)
    (delivers : message ∈ deed.action.delivered deed.answer) :
    entries Action.lifted before deed.thread =
      entries Action.delivered before deed.thread ++ [message] := by
  obtain ⟨voice, allowed, balanced⟩ := audited.allowed before deed after history
  rw [balanced, Voice.held_of_delivered allowed delivers]

/-- A message that is delivered has been taken, and so it is not empty. -/
theorem VoiceAudited.nonempty (audited : VoiceAudited states crew) {message : String}
    (delivered : message ∈ deliveries crew.history) : message ≠ "" := by
  obtain ⟨deed, member, delivers⟩ := List.mem_flatMap.mp delivered
  obtain ⟨before, after, history⟩ := List.append_of_mem member
  have taken : message ∈ entries Action.lifted before deed.thread := by
    simp [audited.handed history delivers]
  obtain ⟨_, _, lifted⟩ := List.mem_flatMap.mp taken
  exact ne_empty_of_mem_lifted lifted

theorem VoiceAudited.silent (audited : VoiceAudited states crew) {deed other : Deed ι σ}
    (follows : FollowsEmpty crew.history deed other) :
    other.action.delivered other.answer = [] := by
  obtain ⟨before, middle, after, history, others⟩ := follows.next
  by_contra delivers
  obtain ⟨message, delivers⟩ := List.exists_mem_of_ne_nil _ delivers
  have whole : crew.history = (before ++ deed :: middle) ++ other :: after := by
    simpa using history
  -- Before the delivery one text is outstanding, although nothing has been since the empty taking.
  have outstanding := audited.handed whole delivers
  obtain ⟨voice, allowed, balanced⟩ := audited.allowed before deed _ history
  rw [Voice.held_of_takesLines allowed follows.takes, List.append_nil] at balanced
  rw [follows.same, entries_between _ others, entries_between _ others, follows.empty,
    Action.delivered_of_takesLines follows.takes, balanced] at outstanding
  simp at outstanding

end

namespace Notification

variable {channel : Channel} {uses : ι → List Use} {session : Session σ} {outside : Outside σ}
  {turns : List (Turn ι)} {after : Crew ι σ}

/-- What threads that share a notification add is what they are to add, and nothing of it is
lost. -/
theorem sharing_recites
    (played : (sharing channel uses session).plays outside turns = some after) :
    Conserved session.gathered after ∧
      (∀ thread, entries Action.recited after.history thread <+:
        texts (uses thread)) ∧
      (∀ thread, (after.programs thread).isOver = true →
        entries Action.recited after.history thread =
          texts (uses thread)) := by
  have conserved : Conserved session.gathered (sharing channel uses session) :=
    (String.empty_append).trans String.append_empty.symm
  obtain ⟨states, kept, conserved, recited⟩ := Crew.plays_keeps
    ((conserved_stable session.gathered).and (recited_stable fun thread => texts (uses thread)))
    (fun thread => exercise_recites channel (uses thread)) ⟨conserved, fun _ => rfl⟩ played
  refine ⟨conserved, fun thread => ⟨states thread, (recited thread).symm⟩, fun thread isOver => ?_⟩
  obtain ⟨_, nothing⟩ := kept.fits isOver
  have whole : texts (uses thread) =
      entries Action.recited after.history thread ++ states thread := recited thread
  rw [whole, nothing, List.append_nil]

theorem sharing_undelivered
    (played : (sharing .logOnly uses session).plays outside turns = some after) :
    deliveries after.history = [] := by
  obtain ⟨_, -, none⟩ := Crew.plays_keeps (undelivered_stable rfl)
    (fun thread => exercise_recites .logOnly (uses thread)) (by rfl) played
  exact none

/-- With a transport what a thread holds is all that it has taken and not yet handed over. -/
theorem sharing_audited
    (played : (sharing .transport uses session).plays outside turns = some after) :
    ∃ states, VoiceAudited states after ∧
      ∀ thread, (after.programs thread).isOver = true → states thread = .telling := by
  have audits : Crew.Stable outside Voice.discipline
      (Audited Voice.discipline Action.lifted Action.delivered Voice.held :
        Crew.Assertion ι σ Voice) :=
    audited_stable fun _ _ answer allowed => Voice.next_balance answer allowed
  have atFirst : VoiceAudited (fun _ => .telling) (sharing .transport uses session) :=
    ⟨fun _ => rfl, fun before deed later none => by simp [sharing] at none⟩
  obtain ⟨states, kept, audited⟩ := Crew.plays_keeps audits
    (fun thread => exercise_keeps_voice (uses thread)) atFirst played
  exact ⟨states, audited, fun thread isOver => (kept.fits isOver).choose_spec⟩

/-- Threads that share a notification lose nothing of what is added to it, and each text that is
taken is handed over once. -/
theorem sharing_shares
    (played : (sharing channel uses session).plays outside turns = some after) :
    Shared channel uses session.gathered after := by
  obtain ⟨conserved, recites, recited⟩ := sharing_recites played
  cases channel with
  | logOnly =>
      have nothing := sharing_undelivered played
      have undelivered : ∀ deed ∈ after.history, deed.action.delivered deed.answer = [] :=
        List.flatMap_eq_nil_iff.mp nothing
      refine ⟨conserved, recites, recited, nofun, ?_, fun _ => nothing, ?_, ?_⟩
      · intro before deed later message history delivers
        rw [undelivered deed (by simp [history])] at delivers
        cases delivers
      · intro message delivered
        rw [nothing] at delivered
        cases delivered
      · intro deed other follows
        obtain ⟨before, middle, later, history, -⟩ := follows.next
        exact undelivered other (by simp [history])
  | transport =>
      obtain ⟨states, audited, ended⟩ := sharing_audited played
      refine ⟨conserved, recites, recited, fun _ thread => ⟨(states thread).held, ?_, ?_, ?_⟩,
        fun _ _ _ _ history delivers => audited.handed history delivers, nofun,
        fun _ delivered => audited.nonempty delivered, fun _ _ follows => audited.silent follows⟩
      · cases states thread <;> simp [Voice.held]
      · exact audited.balanced thread
      · intro isOver
        rw [ended thread isOver]
        rfl

/-- A thread adds its last line after it has sent, and the other one sends twice in a row. -/
def crossingUses : Bool → List Use
  | true => [.add "first", .send, .add "last"]
  | false => [.add "second\n", .add "third", .send, .send]

/-- Between the taking of a text and its delivery the other thread adds a line and takes it. -/
def crossingTurns : List (Turn Bool) :=
  [.act true, .act false, .act true, .act false, .act false, .act false, .act true, .act false,
    .act false, .act true, .act true]

/-- Two threads whose messages cannot be delivered. -/
def crossingCrew : Crew Bool Unit :=
  sharing .transport crossingUses { start := default, outside := () }

/-- Their takings cross, and what comes too late for both stays gathered. -/
theorem sharing_shares_crossing :
    let after := (crossingCrew.plays Peers.unreachable.outside crossingTurns).get
      (by decide +kernel)
    Shared .transport crossingUses "" after ∧
      lifts after.history = ["first\nsecond\n", "third\n"] ∧
      deliveries after.history = ["third\n", "first\nsecond\n"] ∧
      after.session.gathered = "last\n" := by
  intro after
  have played : crossingCrew.plays Peers.unreachable.outside crossingTurns = some after :=
    (Option.some_get _).symm
  unfold crossingCrew at played
  exact ⟨sharing_shares played, by decide +kernel⟩

end Notification

end AddonCheck
