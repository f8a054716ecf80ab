import AddonCheck.Bucket.Listing
import Mathlib.Data.List.Range

/-
This file shows what the listing of a bucket asks for and what it makes of the answers. It follows
the tokens from page to page up to the first answer that leads nowhere, and the pages before it are
put together in their order.
-/

namespace AddonCheck.Bucket

/-! ## Answers in a row -/

/-- An answer leads on with a token when it is a page that is truncated and names the token. -/
def LeadsOn (answer : Except Failure Page) (token : String) : Prop :=
  ∃ page, answer = .ok page ∧ page.truncated = some true ∧ page.next = some token

/-- The objects that an answer lists, one for each entry. -/
def listed : Except Failure Page → List StoredObject
  | .ok page => page.entries.map StoredObject.ofEntry
  | .error _ => []

/-- The token that an answer names. -/
def named : Except Failure Page → Option String
  | .ok page => page.next
  | .error _ => none

/-- The bucket answers request after request from a row of answers, whatever the tokens are. Its
state is the list of the tokens that it has been sent. -/
def inTurn (answers : Nat → Except Failure Page) :
    Option String → List (Option String) → Except Failure Page × List (Option String) :=
  fun token sent => (answers sent.length, sent ++ [token])

/-- The first request carries no token, and each later one the token of the answer before it. -/
def tokenAt (answers : Nat → Except Failure Page) : Nat → Option String
  | 0 => none
  | request + 1 => named (answers request)

/-- What becomes of a listing whose answers end with a given one. -/
def outcome (last : Except Failure Page) (objects : List StoredObject) :
    Except Failure (List StoredObject) := last.map fun _ => objects

theorem following_eq_some_iff (page : Page) (token : String) :
    page.following = some token ↔ LeadsOn (.ok page) token := by
  obtain ⟨entries, truncated, next⟩ := page
  rcases truncated with _ | (_ | _) <;> simp [Page.following, LeadsOn]

section

variable {answers : Nat → Except Failure Page} {token : Option String}
  {objects : List StoredObject} {sent : List (Option String)} {bound : Nat}

/-- An answer that leads on is kept, and the next request carries its token. -/
theorem collect_of_leadsOn {next : String} (leads : LeadsOn (answers sent.length) next) :
    collect (inTurn answers) (bound + 1) token objects sent =
      collect (inTurn answers) bound (named (answers sent.length))
        (objects ++ listed (answers sent.length)) (sent ++ [token]) := by
  obtain ⟨page, answered, truncated, follows⟩ := leads
  have following : page.following = some next :=
    (following_eq_some_iff page next).mpr ⟨page, rfl, truncated, follows⟩
  simp [collect, inTurn, answered, following, named, listed, follows]

/-- An answer that leads nowhere is the last one. -/
theorem collect_of_not_leadsOn (ends : ∀ next, ¬ LeadsOn (answers sent.length) next) :
    collect (inTurn answers) (bound + 1) token objects sent =
      (some (outcome (answers sent.length) (objects ++ listed (answers sent.length))),
        sent ++ [token]) := by
  cases answered : answers sent.length with
  | error failure => simp [collect, inTurn, answered, outcome, Except.map]
  | ok page =>
      have following : page.following = none := by
        cases found : page.following with
        | none => rfl
        | some next =>
            rw [answered] at ends
            exact absurd ((following_eq_some_iff page next).mp found) (ends next)
      simp [collect, inTurn, answered, following, outcome, listed, Except.map]

/-- As long as every answer leads on, the listing goes on. -/
theorem collect_leadsOn (carried : token = tokenAt answers sent.length)
    (lead : ∀ index < bound, ∃ next, LeadsOn (answers (sent.length + index)) next) :
    collect (inTurn answers) bound token objects sent =
      (none, sent ++ (List.range' sent.length bound).map (tokenAt answers)) := by
  induction bound generalizing token objects sent with
  | zero => simp [collect]
  | succ bound inductionHypothesis =>
      obtain ⟨next, leads⟩ := lead 0 (by omega)
      have length : (sent ++ [token]).length = sent.length + 1 := by simp
      rw [collect_of_leadsOn leads, inductionHypothesis]
      · simp [List.range'_succ, carried]
      · rw [length]
        rfl
      · intro index inside
        rw [length, Nat.add_assoc, Nat.add_comm 1 index]
        exact lead (index + 1) (by omega)

/-- The listing ends with the first answer that leads nowhere. -/
theorem collect_ends {count : Nat} (carried : token = tokenAt answers sent.length)
    (lead : ∀ index < count, ∃ next, LeadsOn (answers (sent.length + index)) next)
    (ends : ∀ next, ¬ LeadsOn (answers (sent.length + count)) next) (within : count < bound) :
    collect (inTurn answers) bound token objects sent =
      (some (outcome (answers (sent.length + count))
          (objects ++ (List.range' sent.length (count + 1)).flatMap fun request =>
            listed (answers request))),
        sent ++ (List.range' sent.length (count + 1)).map (tokenAt answers)) := by
  obtain ⟨rest, rfl⟩ : ∃ rest, bound = rest + 1 := ⟨bound - 1, by omega⟩
  induction count generalizing token objects sent rest with
  | zero =>
      rw [collect_of_not_leadsOn ends]
      simp [carried]
  | succ count inductionHypothesis =>
      obtain ⟨next, leads⟩ := lead 0 (by omega)
      obtain ⟨others, rfl⟩ : ∃ others, rest = others + 1 := ⟨rest - 1, by omega⟩
      have length : (sent ++ [token]).length = sent.length + 1 := by simp
      have later : (sent ++ [token]).length + count = sent.length + (count + 1) := by omega
      rw [collect_of_leadsOn leads, inductionHypothesis]
      · have requests : List.range' sent.length (count + 1 + 1) =
            sent.length :: List.range' (sent.length + 1) (count + 1) := List.range'_succ
        rw [later, length, requests]
        simp [carried]
      · rw [length]
        rfl
      · intro index inside
        rw [length, Nat.add_assoc, Nat.add_comm 1 index]
        exact lead (index + 1) (by omega)
      · rw [later]
        exact ends
      · omega

end

/-! ## A list in pages -/

/-- Entries that are served in pages. The page from a position on holds at least one entry, and it
names a token from which the next position can be read. -/
structure Book where
  entries : List Entry
  /-- The number of entries of the page that starts at a position. -/
  size : Nat → Nat
  size_pos : ∀ start, 0 < size start
  /-- The token of a position, and the position of a token. -/
  token : Nat → String
  position? : String → Option Nat
  position?_token : ∀ start, position? (token start) = some start

namespace Book

variable {book : Book} {start : Nat}

/-- The page from a position on is truncated when entries are left after it. -/
def page (book : Book) (start : Nat) : Page :=
  let next := start + book.size start
  let isLeft := decide (next < book.entries.length)
  { entries := (book.entries.drop start).take (book.size start)
    truncated := some isLeft
    next := if isLeft then some (book.token next) else none }

/-- A request without a token is answered with the first page, and a token that nobody has named is
refused. -/
def fetch (book : Book) : Option String → Unit → Except Failure Page × Unit
  | none, _ => (.ok (book.page 0), ())
  | some token, _ =>
      match book.position? token with
      | some start => (.ok (book.page start), ())
      | none => (.error ⟨some 400, "the token is not known"⟩, ())

/-- The token with which a position is asked for. -/
def tokenOf (book : Book) : Nat → Option String
  | 0 => none
  | start + 1 => some (book.token (start + 1))

theorem fetch_tokenOf (book : Book) (start : Nat) :
    book.fetch (book.tokenOf start) () = (.ok (book.page start), ()) := by
  cases start with
  | zero => rfl
  | succ start => simp [tokenOf, fetch, book.position?_token]

theorem following_page_of_lt (left : start + book.size start < book.entries.length) :
    (book.page start).following = book.tokenOf (start + book.size start) := by
  obtain ⟨before, next⟩ : ∃ before, start + book.size start = before + 1 :=
    ⟨start + book.size start - 1, by have := book.size_pos start; omega⟩
  rw [next] at left
  simp [page, Page.following, tokenOf, next, left]

theorem following_page_of_le (done : book.entries.length ≤ start + book.size start) :
    (book.page start).following = none := by
  simp [page, Page.following, Nat.not_lt.mpr done]

/-- From a position on, a listing finds the entries that are left, whatever the pages are. -/
theorem collect_fetch {bound : Nat} (objects : List StoredObject)
    (within : book.entries.length - start ≤ bound) (asks : 0 < bound) :
    collect book.fetch bound (book.tokenOf start) objects () =
      (some (.ok (objects ++ (book.entries.drop start).map StoredObject.ofEntry)), ()) := by
  induction bound generalizing start objects with
  | zero => omega
  | succ bound inductionHypothesis =>
      have positive := book.size_pos start
      have parts : (book.page start).entries ++ book.entries.drop (start + book.size start) =
          book.entries.drop start := by
        rw [← List.drop_drop]
        exact List.take_append_drop _ _
      simp only [collect, fetch_tokenOf]
      by_cases left : start + book.size start < book.entries.length
      · obtain ⟨next, isNext⟩ : ∃ next, book.tokenOf (start + book.size start) = some next := by
          cases sum : start + book.size start with
          | zero => omega
          | succ before => exact ⟨_, rfl⟩
        rw [following_page_of_lt left, isNext]
        simp only
        rw [← isNext, inductionHypothesis _ (by omega) (by omega), List.append_assoc,
          ← List.map_append, parts]
      · have nothing : book.entries.drop (start + book.size start) = [] :=
          List.drop_eq_nil_of_le (by omega)
        rw [nothing, List.append_nil] at parts
        rw [following_page_of_le (by omega), parts]

end Book

/-- A listing asks for pages up to the first answer that leads nowhere, each time with the token of
the page before. It gives all objects of all pages in their order, or the failure of the last
answer. Over a list that is served in pages it gives the whole list once, whatever the pages are. -/
theorem listing_follows_tokens (bucket keyStart : String) :
    (∀ (answers : Nat → Except Failure Page) (count bound : Nat),
      (∀ request < count, ∃ next, LeadsOn (answers request) next) →
      (∀ next, ¬ LeadsOn (answers count) next) → count < bound →
        list (inTurn answers) bucket keyStart bound [] =
          (some (match answers count with
            | .ok _ => .ok ((List.range (count + 1)).flatMap fun request =>
                listed (answers request))
            | .error failure => .error (.listing bucket keyStart failure.status failure.reason)),
          (List.range (count + 1)).map (tokenAt answers))) ∧
    (∀ (answers : Nat → Except Failure Page) (bound : Nat),
      (∀ request < bound, ∃ next, LeadsOn (answers request) next) →
        list (inTurn answers) bucket keyStart bound [] =
          (none, (List.range bound).map (tokenAt answers))) ∧
    ∀ (book : Book) (bound : Nat), max 1 book.entries.length ≤ bound →
      list book.fetch bucket keyStart bound () =
        (some (.ok (book.entries.map StoredObject.ofEntry)), ()) := by
  refine ⟨?_, ?_, ?_⟩
  · intro answers count bound lead ends within
    have ended : collect (inTurn answers) bound none [] [] = _ :=
      collect_ends rfl (by simpa using lead) (by simpa using ends) within
    rw [List.length_nil, Nat.zero_add] at ended
    cases last : answers count <;>
      simp [list, ended, last, outcome, Except.map, Except.mapError, List.range_eq_range']
  · intro answers bound lead
    have going : collect (inTurn answers) bound none [] [] = _ :=
      collect_leadsOn rfl (by simpa using lead)
    simp [list, going, List.range_eq_range']
  · intro book bound within
    have ended : collect book.fetch bound (book.tokenOf 0) [] () = _ :=
      book.collect_fetch [] (by omega) (by omega)
    rw [Book.tokenOf] at ended
    simp [list, ended, Except.mapError]

/-- Pages of one width. The token of a position has as many characters. -/
def Book.even (entries : List Entry) (width : Nat) (wide : 0 < width) : Book where
  entries := entries
  size _ := width
  size_pos _ := wide
  token start := String.ofList (List.replicate start '.')
  position? token := some token.length
  position?_token start := by simp

/-- One page leads on, and the next request is refused. -/
def refusedAnswers : Nat → Except Failure Page
  | 0 => .ok ⟨[⟨some "first", none, some 1⟩], some true, some "more"⟩
  | _ => .error ⟨some 403, "denied"⟩

/-- A refusal ends a listing with its status, and three entries are found on pages of two. -/
theorem listing_follows_tokens_refused :
    list (inTurn refusedAnswers) "logs" "day" 5 [] =
        (some (.error (.listing "logs" "day" (some 403) "denied")), [none, some "more"]) ∧
      list (Book.even [⟨some "a", none, none⟩, ⟨some "b", none, none⟩, ⟨none, none, some 7⟩] 2
          (by decide)).fetch "logs" "day" 3 () =
        (some (.ok [⟨"a", none, 0⟩, ⟨"b", none, 0⟩, ⟨"", none, 7⟩]), ()) := by
  obtain ⟨ended, -, served⟩ := listing_follows_tokens "logs" "day"
  have lead : ∀ request < 1, ∃ next, LeadsOn (refusedAnswers request) next := by
    intro request before
    obtain rfl : request = 0 := by omega
    exact ⟨"more", _, rfl, rfl, rfl⟩
  have ends : ∀ next, ¬ LeadsOn (refusedAnswers 1) next := by
    rintro next ⟨page, answered, -⟩
    cases answered
  exact ⟨ended refusedAnswers 1 5 lead ends (by decide), served _ 3 (by decide)⟩

end AddonCheck.Bucket
