import AddonCheck.Cancellation
import AddonCheck.Proofs.Interleaving
import Mathlib.Data.List.Induction
import Mathlib.Logic.Relation

/-
This file shows what can be observed of a token. Tokens that are connected by cloning are one
family. A token is seen cancelled just when a token of its family has been cancelled, and a wait sees
this also when it happens until its deadline.
-/

namespace AddonCheck.Cancellation

/-- What is done with tokens, one operation after another. A wait during which others go on is
started, and joined later. Time may also pass between two operations. -/
inductive Operation where
  | create
  | clone (token : Nat)
  | cancel (token : Nat)
  | isCancelled (token : Nat)
  | waitTimeout (token : Nat) (timeout : Duration)
  | spawnWait (token : Nat) (timeout : Duration)
  | join
  | elapse (time : Duration)
  deriving DecidableEq

namespace Operation

def makesToken : Operation → Bool
  | create => true
  | clone _ => true
  | _ => false

/-- The token that an operation is about. -/
def token? : Operation → Option Nat
  | clone token => some token
  | cancel token => some token
  | isCancelled token => some token
  | waitTimeout token _ => some token
  | spawnWait token _ => some token
  | _ => none

end Operation

/-- The number of tokens that have been made. The next one gets this number. -/
def tokenCount (history : List Operation) : Nat := history.countP Operation.makesToken

/-- Every operation is about a token that has been made before. -/
inductive Happened : List Operation → Prop where
  | nothing : Happened []
  | snoc {history : List Operation} {operation : Operation} (earlier : Happened history)
      (made : ∀ token ∈ operation.token?, token < tokenCount history) :
      Happened (history ++ [operation])

/-- One token was made as a clone of another one. -/
def CloneOf (history : List Operation) (original copy : Nat) : Prop :=
  ∃ before after, history = before ++ .clone original :: after ∧ copy = tokenCount before

/-- Two tokens are connected by cloning, in whatever direction. -/
def Related (history : List Operation) : Nat → Nat → Prop := Relation.EqvGen (CloneOf history)

variable {history : List Operation} {token other : Nat}

theorem Happened.token_lt (happened : Happened history) :
    ∀ {before operation rest}, history = before ++ operation :: rest →
      ∀ token ∈ operation.token?, token < tokenCount before := by
  induction happened with
  | nothing => simp
  | snoc _ made ih =>
      intro before operation rest parts
      rcases snoc_split parts with ⟨rfl, rfl, -⟩ | ⟨earlier, -, rfl⟩
      · exact made
      · exact ih rfl

theorem tokenCount_le_append (history later : List Operation) :
    tokenCount history ≤ tokenCount (history ++ later) := by
  simp [tokenCount]

theorem Happened.known {before rest : List Operation} {operation : Operation}
    (happened : Happened history) (parts : history = before ++ operation :: rest) :
    ∀ token ∈ operation.token?, token < tokenCount history := by
  intro token about
  have known := happened.token_lt parts token about
  rw [parts]
  exact Nat.lt_of_lt_of_le known (tokenCount_le_append before _)

theorem lt_tokenCount_snoc {operation : Operation} :
    token < tokenCount (history ++ [operation]) ↔
      token < tokenCount history ∨ token = tokenCount history ∧ operation.makesToken = true := by
  cases made : operation.makesToken <;> simp [tokenCount, made]
  omega

theorem Related.append (related : Related history token other) (later : List Operation) :
    Related (history ++ later) token other :=
  related.mono fun _ _ ⟨before, rest, parts, named⟩ =>
    ⟨before, rest ++ later, by simp [parts], named⟩

namespace Tokens

/-- What an operation observes, and the tokens after it. -/
def perform (tokens : Tokens) : Operation → Option Bool × Tokens
  | .create => (none, tokens.create)
  | .clone token => (none, tokens.clone token)
  | .cancel token => (none, tokens.cancel token)
  | .isCancelled token => (some (tokens.isCancelled token), tokens)
  | .waitTimeout token timeout => (tokens.waitTimeout token timeout).map some id
  | .spawnWait token timeout => (none, tokens.spawnWait token timeout)
  | .join => tokens.join.map some id
  | .elapse time => (none, { tokens with now := tokens.now + time.nanos })

/-- The tokens after a row of operations. -/
def after (history : List Operation) : Tokens :=
  history.foldl (fun tokens operation => (tokens.perform operation).2) {}

variable {tokens : Tokens} {operation : Operation}

theorem after_snoc (history : List Operation) (operation : Operation) :
    after (history ++ [operation]) = ((after history).perform operation).2 := by
  simp [after]

/-! ## What an operation changes -/

/-- The families of the tokens that an operation makes. -/
def made (tokens : Tokens) : Operation → List Nat
  | .create => [tokens.count]
  | .clone token => [tokens.family token]
  | _ => []

/-- The family that an operation cancels, and when. -/
def recorded (tokens : Tokens) : Operation → List (Nat × Nat)
  | .cancel token =>
      if tokens.isCancelled token then [] else [(tokens.family token, tokens.now)]
  | _ => []

/-- The threads that are left over by an operation. -/
def waiting (tokens : Tokens) : Operation → List Waiter
  | .spawnWait token timeout =>
      tokens.waiters ++ [⟨tokens.family token, tokens.now + timeout.nanos⟩]
  | .join => tokens.waiters.tail
  | _ => tokens.waiters

/-- An operation only adds to the families and to what was cancelled, and time never runs back. -/
theorem perform_eq (tokens : Tokens) (operation : Operation) :
    ∃ time, (tokens.perform operation).2 =
      { now := tokens.now + time
        families := tokens.families ++ tokens.made operation
        count := tokens.count + if operation = .create then 1 else 0
        cancelled := tokens.cancelled ++ tokens.recorded operation
        waiters := tokens.waiting operation } := by
  cases operation with
  | create => exact ⟨0, by simp [perform, create, made, recorded, waiting]⟩
  | clone token => exact ⟨0, by simp [perform, clone, made, recorded, waiting]⟩
  | isCancelled token => exact ⟨0, by simp [perform, made, recorded, waiting]⟩
  | spawnWait token timeout => exact ⟨0, by simp [perform, spawnWait, made, recorded, waiting]⟩
  | elapse time => exact ⟨time.nanos, by simp [perform, made, recorded, waiting]⟩
  | cancel token =>
      exact ⟨0, by by_cases already : tokens.isCancelled token <;>
        simp [perform, cancel, made, recorded, waiting, already]⟩
  | waitTimeout token timeout =>
      by_cases already : tokens.isCancelled token
      · exact ⟨0, by simp [perform, waitTimeout, made, recorded, waiting, already]⟩
      · exact ⟨timeout.nanos, by simp [perform, waitTimeout, made, recorded, waiting, already]⟩
  | join =>
      obtain ⟨now, families, count, cancelled, waiters⟩ := tokens
      cases waiters with
      | nil => exact ⟨0, by simp [perform, join, made, recorded, waiting]⟩
      | cons waiter rest =>
          cases seen : (cancelled.find? fun entry => entry.1 == waiter.family) with
          | none =>
              -- The thread ends at its deadline, which may be over.
              refine ⟨waiter.deadline - now, ?_⟩
              simp [perform, join, made, recorded, waiting, cancelledAt?, seen]
              omega
          | some entry =>
              exact ⟨0, by simp [perform, join, made, recorded, waiting, cancelledAt?, seen]⟩

theorem now_le_perform (tokens : Tokens) (operation : Operation) :
    tokens.now ≤ (tokens.perform operation).2.now := by
  obtain ⟨time, same⟩ := tokens.perform_eq operation
  simp [same]

theorem family_perform {token : Nat} (known : token < tokens.families.length) :
    (tokens.perform operation).2.family token = tokens.family token := by
  obtain ⟨time, same⟩ := tokens.perform_eq operation
  simp [same, family, List.getElem?_append_left known, known]

/-! ## Tokens keep their family -/

theorem length_families_after (history : List Operation) :
    (after history).families.length = tokenCount history := by
  induction history using List.reverseRecOn with
  | nil => rfl
  | append_singleton history operation ih =>
      obtain ⟨time, same⟩ := (after history).perform_eq operation
      cases operation <;>
        simp [after_snoc, same, made, tokenCount, Operation.makesToken, ih]

theorem family_after_append {token : Nat} (known : token < tokenCount history)
    (later : List Operation) :
    (after (history ++ later)).family token = (after history).family token := by
  induction later using List.reverseRecOn with
  | nil => simp
  | append_singleton later operation ih =>
      have still : token < (after (history ++ later)).families.length := by
        rw [length_families_after]
        exact Nat.lt_of_lt_of_le known (tokenCount_le_append history later)
      rw [← List.append_assoc, after_snoc, family_perform still, ih]

theorem now_le_after_append (history later : List Operation) :
    (after history).now ≤ (after (history ++ later)).now := by
  induction later using List.reverseRecOn with
  | nil => simp
  | append_singleton later operation ih =>
      rw [← List.append_assoc, after_snoc]
      exact Nat.le_trans ih (now_le_perform _ operation)

/-! ## Families are the connected tokens -/

theorem family_create (history : List Operation) :
    (after (history ++ [.create])).family (tokenCount history) = (after history).count := by
  simp [after_snoc, perform, create, family, ← length_families_after]

theorem family_clone (history : List Operation) (original : Nat) :
    (after (history ++ [.clone original])).family (tokenCount history) =
      (after history).family original := by
  simp [after_snoc, perform, clone, family, ← length_families_after]

theorem family_lt_count (happened : Happened history) :
    ∀ token < tokenCount history, (after history).family token < (after history).count := by
  induction happened with
  | nothing => simp [tokenCount]
  | @snoc history operation _ made ih =>
      intro token known
      obtain ⟨_, same⟩ := (after history).perform_eq operation
      have grown : (after history).count ≤ (after (history ++ [operation])).count := by
        simp [after_snoc, same]
      rcases lt_tokenCount_snoc.mp known with old | ⟨rfl, makes⟩
      · rw [family_after_append old]
        exact Nat.lt_of_lt_of_le (ih token old) grown
      · cases operation with
        | create =>
            rw [family_create]
            simp [after_snoc, perform, create]
        | clone original =>
            rw [family_clone]
            exact Nat.lt_of_lt_of_le (ih original (made original rfl)) grown
        | _ => simp [Operation.makesToken] at makes

theorem family_eq_of_related (happened : Happened history)
    (related : Related history token other) :
    (after history).family token = (after history).family other := by
  induction related with
  | rel original copy cloned =>
      obtain ⟨before, rest, rfl, rfl⟩ := cloned
      have known := happened.token_lt rfl original rfl
      have fresh : tokenCount before < tokenCount (before ++ [.clone original]) := by
        simp [tokenCount, Operation.makesToken]
      rw [family_after_append known, List.append_cons, family_after_append fresh, family_clone]
  | refl => rfl
  | symm _ _ _ ih => exact ih.symm
  | trans _ _ _ _ _ first second => exact first.trans second

theorem related_of_family_eq (happened : Happened history) :
    ∀ token < tokenCount history, ∀ other < tokenCount history,
      (after history).family token = (after history).family other →
        Related history token other := by
  induction happened with
  | nothing => simp [tokenCount]
  | @snoc history operation earlier made ih =>
      -- A token that is made is of a new family, or of that of the token it is a clone of.
      have added (makes : operation.makesToken = true) (token : Nat)
          (old : token < tokenCount history)
          (same : (after (history ++ [operation])).family token =
            (after (history ++ [operation])).family (tokenCount history)) :
          Related (history ++ [operation]) token (tokenCount history) := by
        rw [family_after_append old] at same
        cases operation with
        | create =>
            rw [family_create] at same
            exact absurd same (Nat.ne_of_lt (family_lt_count earlier token old))
        | clone original =>
            rw [family_clone] at same
            have kin := ih token old original (made original rfl) same
            exact (kin.append _).trans _ _ _ (.rel _ _ ⟨history, [], rfl, rfl⟩)
        | _ => simp [Operation.makesToken] at makes
      intro token known other present same
      rcases lt_tokenCount_snoc.mp known with old | ⟨rfl, makes⟩ <;>
        rcases lt_tokenCount_snoc.mp present with former | ⟨rfl, makesOther⟩
      · rw [family_after_append old, family_after_append former] at same
        exact (ih token old other former same).append _
      · exact added makesOther token old same
      · exact (added makes other former same.symm).symm
      · exact .refl _

theorem family_eq_iff_related (happened : Happened history) (known : token < tokenCount history)
    (present : other < tokenCount history) :
    (after history).family token = (after history).family other ↔ Related history token other :=
  ⟨related_of_family_eq happened token known other present, family_eq_of_related happened⟩

/-! ## What was cancelled until a time -/

/-- Whether a family was cancelled, at the latest at a time. -/
def cancelledBy (tokens : Tokens) (family time : Nat) : Bool :=
  (tokens.cancelledAt? family).any (· ≤ time)

theorem cancelled_le_now (history : List Operation) :
    ∀ entry ∈ (after history).cancelled, entry.2 ≤ (after history).now := by
  induction history using List.reverseRecOn with
  | nil => simp [after]
  | append_singleton history operation ih =>
      intro entry member
      obtain ⟨time, same⟩ := (after history).perform_eq operation
      rw [after_snoc, same] at member ⊢
      rcases List.mem_append.mp member with old | new
      · exact Nat.le_add_right_of_le (ih entry old)
      · cases operation with
        | cancel token =>
            simp only [recorded] at new
            split at new <;> simp_all
        | _ => simp [recorded] at new

theorem cancelledAt?_le_now {family time : Nat}
    (first : (after history).cancelledAt? family = some time) : time ≤ (after history).now := by
  simp only [cancelledAt?, Option.map_eq_some_iff] at first
  obtain ⟨entry, found, rfl⟩ := first
  exact cancelled_le_now history entry (List.mem_of_find?_eq_some found)

/-- A token that is cancelled again is cancelled since the first time. -/
theorem cancelledAt?_cancel (tokens : Tokens) (token family : Nat) :
    (tokens.perform (.cancel token)).2.cancelledAt? family =
      (tokens.cancelledAt? family).or
        (if tokens.family token = family then some tokens.now else none) := by
  by_cases own : tokens.family token = family
  · subst own
    cases first : tokens.cancelled.find? fun entry => entry.1 == tokens.family token <;>
      simp [perform, cancel, isCancelled, cancelledAt?, first]
  · by_cases was : tokens.isCancelled token <;>
      simp [perform, cancel, cancelledAt?, was, own]

theorem cancelledBy_snoc {family time : Nat} :
    (after (history ++ [operation])).cancelledBy family time = true ↔
      (after history).cancelledBy family time = true ∨
        ∃ token, operation = .cancel token ∧ (after history).family token = family ∧
          (after history).now ≤ time := by
  obtain ⟨_, same⟩ := (after history).perform_eq operation
  cases operation with
  | cancel token =>
      by_cases own : (after history).family token = family
      · cases first : (after history).cancelledAt? family with
        | none => simp [after_snoc, cancelledBy, cancelledAt?_cancel, first, own]
        | some moment =>
            have past := cancelledAt?_le_now first
            simp [after_snoc, cancelledBy, cancelledAt?_cancel, first]
            omega
      · simp [after_snoc, cancelledBy, cancelledAt?_cancel, own]
  | _ => simp [after_snoc, same, cancelledBy, cancelledAt?, recorded]

theorem cancelledBy_after {family time : Nat} (history : List Operation) :
    (after history).cancelledBy family time = true ↔
      ∃ before token rest, history = before ++ .cancel token :: rest ∧
        (after before).family token = family ∧ (after before).now ≤ time := by
  induction history using List.reverseRecOn with
  | nil => simp [after, cancelledBy, cancelledAt?]
  | append_singleton history operation ih =>
      rw [cancelledBy_snoc, ih]
      constructor
      · rintro (⟨before, token, rest, rfl, of, early⟩ | ⟨token, rfl, of, early⟩)
        · exact ⟨before, token, rest ++ [operation], by simp, of, early⟩
        · exact ⟨history, token, [], rfl, of, early⟩
      · rintro ⟨before, token, rest, parts, of, early⟩
        rcases snoc_split parts with ⟨rfl, rfl, -⟩ | ⟨earlier, -, rfl⟩
        · exact .inr ⟨token, rfl, of, early⟩
        · exact .inl ⟨before, token, earlier, rfl, of, early⟩

/-! ## What is observed -/

theorem isCancelled_after (history : List Operation) (token : Nat) :
    (after history).isCancelled token =
      (after history).cancelledBy ((after history).family token) (after history).now := by
  cases first : (after history).cancelledAt? ((after history).family token) with
  | none => simp [isCancelled, cancelledBy, first]
  | some time => simp [isCancelled, cancelledBy, first, cancelledAt?_le_now first]

theorem waitTimeout_eq (tokens : Tokens) (token : Nat) (timeout : Duration) :
    (tokens.waitTimeout token timeout).1 = tokens.isCancelled token := by
  simp only [waitTimeout]
  split <;> simp_all

theorem join_eq {waiter : Waiter} {rest : List Waiter} (oldest : tokens.waiters = waiter :: rest) :
    tokens.join.1 = tokens.cancelledBy waiter.family waiter.deadline := by
  cases found : tokens.cancelled.find? fun entry => entry.1 == waiter.family <;>
    simp [join, oldest, cancelledBy, cancelledAt?, found]

/-- The threads that have been started before another one are joined before it. -/
theorem waiters_after_append {before : List Operation} {waiter : Waiter}
    {older younger : List Waiter} (at_first : (after before).waiters = older ++ waiter :: younger)
    (later : List Operation) (few : later.count .join ≤ older.length) :
    ∃ youngest, (after (before ++ later)).waiters =
      older.drop (later.count .join) ++ waiter :: youngest := by
  induction later using List.reverseRecOn with
  | nil => exact ⟨younger, by simpa using at_first⟩
  | append_singleton later operation ih =>
      obtain ⟨_, same⟩ := (after (before ++ later)).perform_eq operation
      rw [List.count_append] at few
      obtain ⟨youngest, threads⟩ := ih (by omega)
      rw [← List.append_assoc, after_snoc, same]
      cases operation with
      | spawnWait token timeout =>
          let started : Waiter :=
            ⟨(after (before ++ later)).family token, (after (before ++ later)).now + timeout.nanos⟩
          exact ⟨youngest ++ [started], by simp [waiting, threads, started]⟩
      | join =>
          have more : older.drop (later.count .join) ≠ [] := by
            simp only [List.count_cons_self, List.count_nil] at few
            simp only [ne_eq, List.drop_eq_nil_iff]
            omega
          exact ⟨youngest, by simp [waiting, threads, List.tail_append_of_ne_nil more]⟩
      | _ => exact ⟨youngest, by simp [waiting, threads]⟩

theorem cancelledBy_iff (happened : Happened history) (known : token < tokenCount history)
    (time : Nat) :
    (after history).cancelledBy ((after history).family token) time = true ↔
      ∃ before other rest, history = before ++ .cancel other :: rest ∧
        Related history token other ∧ (after before).now ≤ time := by
  rw [cancelledBy_after]
  -- A token that is cancelled has been made before, and keeps its family.
  have same {before rest : List Operation} {other : Nat}
      (parts : history = before ++ .cancel other :: rest) :
      (after before).family other = (after history).family token ↔
        Related history token other := by
    rw [← family_eq_iff_related happened known (happened.known parts other rfl), eq_comm, parts,
      family_after_append (happened.token_lt parts other rfl)]
  constructor
  · rintro ⟨before, other, rest, parts, kin, early⟩
    exact ⟨before, other, rest, parts, (same parts).mp kin, early⟩
  · rintro ⟨before, other, rest, parts, kin, early⟩
    exact ⟨before, other, rest, parts, (same parts).mpr kin, early⟩

theorem isCancelled_iff (happened : Happened history) (known : token < tokenCount history) :
    (after history).isCancelled token = true ↔
      ∃ other, Related history token other ∧ .cancel other ∈ history := by
  rw [isCancelled_after, cancelledBy_iff happened known]
  constructor
  · rintro ⟨before, other, rest, parts, kin, -⟩
    exact ⟨other, kin, by simp [parts]⟩
  · rintro ⟨other, kin, member⟩
    obtain ⟨before, rest, parts⟩ := List.append_of_mem member
    refine ⟨before, other, rest, parts, kin, ?_⟩
    rw [parts]
    exact now_le_after_append before _

end Tokens

/-- The oldest thread that has not been joined waits for a token. It was started right after the
history before it. -/
def OldestWait (before history : List Operation) (token : Nat) (timeout : Duration) : Prop :=
  ∃ later, history = before ++ .spawnWait token timeout :: later ∧
    later.count .join = (Tokens.after before).waiters.length

theorem OldestWait.cancel {before : List Operation} {timeout : Duration}
    (oldest : OldestWait before history token timeout) (other : Nat) :
    OldestWait before (history ++ [.cancel other]) token timeout := by
  obtain ⟨later, rfl, joined⟩ := oldest
  exact ⟨later ++ [.cancel other], by simp, by simp [joined]⟩

namespace Tokens

theorem waiters_of_oldestWait {before : List Operation} {timeout : Duration}
    (oldest : OldestWait before history token timeout) :
    ∃ rest, (after history).waiters =
      ⟨(after before).family token, (after before).now + timeout.nanos⟩ :: rest := by
  obtain ⟨later, rfl, joined⟩ := oldest
  have threads : (after (before ++ [.spawnWait token timeout])).waiters =
      (after before).waiters ++
        ⟨(after before).family token, (after before).now + timeout.nanos⟩ :: [] := by
    simp [after_snoc, perform, spawnWait]
  obtain ⟨rest, left⟩ := waiters_after_append threads later (Nat.le_of_eq joined)
  exact ⟨rest, by rw [List.append_cons, left, joined]; simp⟩

theorem join_after_iff {before : List Operation} {timeout : Duration} (happened : Happened history)
    (oldest : OldestWait before history token timeout) :
    (after history).join.1 = true ↔
      ∃ earlier other rest, history = earlier ++ .cancel other :: rest ∧
        Related history token other ∧
        (after earlier).now ≤ (after before).now + timeout.nanos := by
  obtain ⟨rest, threads⟩ := waiters_of_oldestWait oldest
  obtain ⟨later, parts, -⟩ := oldest
  rw [join_eq threads, ← cancelledBy_iff happened (happened.known parts token rfl), parts,
    family_after_append (happened.token_lt parts token rfl)]

theorem cancelledAt?_unrelated (happened : Happened history) (known : token < tokenCount history)
    (present : other < tokenCount history) (unrelated : ¬ Related history token other) :
    (after (history ++ [.cancel other])).cancelledAt? ((after history).family token) =
      (after history).cancelledAt? ((after history).family token) := by
  rw [← family_eq_iff_related happened known present, eq_comm] at unrelated
  simp [after_snoc, cancelledAt?_cancel, unrelated]

theorem isCancelled_unrelated (happened : Happened history) (known : token < tokenCount history)
    (present : other < tokenCount history) (unrelated : ¬ Related history token other) :
    (after (history ++ [.cancel other])).isCancelled token =
      (after history).isCancelled token := by
  simp only [isCancelled, family_after_append known,
    cancelledAt?_unrelated happened known present unrelated]

theorem join_unrelated {before : List Operation} {timeout : Duration} (happened : Happened history)
    (oldest : OldestWait before history token timeout)
    (present : other < tokenCount history) (unrelated : ¬ Related history token other) :
    (after (history ++ [.cancel other])).join.1 = (after history).join.1 := by
  obtain ⟨rest, threads⟩ := waiters_of_oldestWait oldest
  obtain ⟨younger, others⟩ := waiters_of_oldestWait (oldest.cancel other)
  obtain ⟨later, parts, -⟩ := oldest
  have same : (after before).family token = (after history).family token := by
    rw [parts, family_after_append (happened.token_lt parts token rfl)]
  rw [join_eq threads, join_eq others, cancelledBy, cancelledBy, same,
    cancelledAt?_unrelated happened (happened.known parts token rfl) present unrelated]

theorem cancelledAt?_append {family time : Nat}
    (cancelled : (after history).cancelledAt? family = some time) (later : List Operation) :
    (after (history ++ later)).cancelledAt? family = some time := by
  induction later using List.reverseRecOn with
  | nil => simpa using cancelled
  | append_singleton later operation ih =>
      obtain ⟨_, same⟩ := (after (history ++ later)).perform_eq operation
      simp only [cancelledAt?, Option.map_eq_some_iff] at ih
      obtain ⟨entry, found, rfl⟩ := ih
      rw [← List.append_assoc, after_snoc, same]
      simp [cancelledAt?, found]

theorem isCancelled_append (known : token < tokenCount history)
    (cancelled : (after history).isCancelled token = true) (later : List Operation) :
    (after (history ++ later)).isCancelled token = true := by
  obtain ⟨time, first⟩ := Option.isSome_iff_exists.mp cancelled
  simp [isCancelled, family_after_append known, cancelledAt?_append first]

/-- What the next operation observes. -/
def seen (history : List Operation) (operation : Operation) : Option Bool :=
  ((after history).perform operation).1

theorem seen_isCancelled_iff :
    seen history (.isCancelled token) = some true ↔ (after history).isCancelled token = true := by
  simp [seen, perform]

theorem seen_waitTimeout_iff {timeout : Duration} :
    seen history (.waitTimeout token timeout) = some true ↔
      (after history).isCancelled token = true := by
  simp [seen, perform, waitTimeout_eq]

theorem seen_join_iff : seen history .join = some true ↔ (after history).join.1 = true := by
  simp [seen, perform]

/-- A token is seen cancelled if and only if a token of its family has been cancelled. A wait that
was started sees whether this happened until its deadline. What is seen of tokens of other families
is as before, and a cancelled token stays so. -/
theorem seen_iff_family_cancelled (happened : Happened history)
    (known : token < tokenCount history) :
    (seen history (.isCancelled token) = some true ↔
        ∃ other, Related history token other ∧ .cancel other ∈ history) ∧
      (∀ timeout, seen history (.waitTimeout token timeout) = some true ↔
        ∃ other, Related history token other ∧ .cancel other ∈ history) ∧
      (∀ before timeout, OldestWait before history token timeout →
        (seen history .join = some true ↔
          ∃ earlier other rest, history = earlier ++ .cancel other :: rest ∧
            Related history token other ∧
            (after earlier).now ≤ (after before).now + timeout.nanos)) ∧
      (∀ other < tokenCount history, ¬ Related history token other →
        (∀ operation, operation.token? = some token →
          seen (history ++ [.cancel other]) operation = seen history operation) ∧
        ∀ before timeout, OldestWait before history token timeout →
          seen (history ++ [.cancel other]) .join = seen history .join) ∧
      (seen history (.isCancelled token) = some true → ∀ later,
        seen (history ++ later) (.isCancelled token) = some true ∧
          ∀ timeout, seen (history ++ later) (.waitTimeout token timeout) = some true) := by
  simp only [seen_isCancelled_iff, seen_waitTimeout_iff]
  refine ⟨isCancelled_iff happened known, fun _ => isCancelled_iff happened known,
    fun before timeout oldest => seen_join_iff.trans (join_after_iff happened oldest),
    fun other present unrelated => ⟨?_, ?_⟩, fun cancelled later => ?_⟩
  · have same := isCancelled_unrelated happened known present unrelated
    intro operation about
    cases operation with
    | isCancelled token => obtain rfl := Option.some.inj about; simp [seen, perform, same]
    | waitTimeout token timeout =>
        obtain rfl := Option.some.inj about
        simp [seen, perform, waitTimeout_eq, same]
    | join => exact absurd about (by simp [Operation.token?])
    | _ => rfl
  · intro before timeout oldest
    simp [seen, perform, join_unrelated happened oldest present unrelated]
  · have still := isCancelled_append known cancelled later
    exact ⟨still, fun _ => still⟩

/-- A clone waits while the token that it was cloned from is cancelled. A token of another family
does not see this. -/
theorem seen_iff_family_cancelled_clone :
    Happened [.create, .clone 0, .create, .spawnWait 1 ⟨5⟩, .elapse ⟨1⟩, .cancel 0] ∧
      1 < tokenCount [.create, .clone 0, .create, .spawnWait 1 ⟨5⟩, .elapse ⟨1⟩, .cancel 0] ∧
      seen [.create, .clone 0, .create, .spawnWait 1 ⟨5⟩, .elapse ⟨1⟩, .cancel 0]
        (.isCancelled 1) = some true ∧
      seen [.create, .clone 0, .create, .spawnWait 1 ⟨5⟩, .elapse ⟨1⟩, .cancel 0] .join =
        some true ∧
      seen [.create, .clone 0, .create, .spawnWait 1 ⟨5⟩, .elapse ⟨1⟩, .cancel 0]
        (.isCancelled 2) = some false := by
  have started : Happened ([] ++ [.create] ++ [.clone 0] ++ [.create] ++ [.spawnWait 1 ⟨5⟩] ++
      [.elapse ⟨1⟩]) :=
    .snoc (.snoc (.snoc (.snoc (.snoc .nothing (by decide)) (by decide)) (by decide)) (by decide))
      (by decide)
  have happened := started.snoc (show ∀ token ∈ (Operation.cancel 0).token?, token < 3 by decide)
  have kin : Related [.create, .clone 0, .create, .spawnWait 1 ⟨5⟩, .elapse ⟨1⟩, .cancel 0] 1 0 :=
    .symm _ _ (.rel _ _ ⟨[.create], [.create, .spawnWait 1 ⟨5⟩, .elapse ⟨1⟩, .cancel 0], rfl, rfl⟩)
  have strange : ¬ Related [.create, .clone 0, .create, .spawnWait 1 ⟨5⟩, .elapse ⟨1⟩] 2 0 :=
    fun related => absurd (family_eq_of_related started related) (by decide)
  obtain ⟨atOnce, -, waited, -, -⟩ := seen_iff_family_cancelled happened (by decide : 1 < 3)
  obtain ⟨-, -, -, others, -⟩ := seen_iff_family_cancelled started (by decide : 2 < 3)
  refine ⟨happened, by decide, atOnce.mpr ⟨0, kin, by decide⟩, ?_, ?_⟩
  · exact (waited [.create, .clone 0, .create] ⟨5⟩ ⟨[.elapse ⟨1⟩, .cancel 0], rfl, rfl⟩).mpr
      ⟨[.create, .clone 0, .create, .spawnWait 1 ⟨5⟩, .elapse ⟨1⟩], 0, [], rfl, kin, by decide⟩
  · exact (others 0 (by decide) strange).1 (.isCancelled 2) rfl

end Tokens

end AddonCheck.Cancellation
