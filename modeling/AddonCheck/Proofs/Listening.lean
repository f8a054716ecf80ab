import AddonCheck.Dns.Lookup
import Mathlib.Data.List.Forall2

/-
This file shows whom a lookup listens to. Its result is what the first datagram of the server says,
if the lookup still waits for it. Datagrams of other senders say nothing; all that they can do is to
keep the lookup waiting for a datagram that comes after the timeout.
-/

namespace AddonCheck.Dns

/-! ## What a datagram of the server says -/

def Record.isAddress : Record → Bool
  | .address _ => true
  | .other _ _ => false

/-- What the bytes of a datagram answer to the question with a number. The addresses are those of
the answers that hold one, in their order, however the server fared. -/
inductive Codec.Answers (codec : Codec) (id : UInt16) (bytes : Bytes) :
    Except Error (List Address) → Prop where
  | unreadable {reason : String} (fails : codec.readMessage bytes = .error reason) :
      Answers codec id bytes (.error (.malformed reason))
  | misdirected {message : Message} (reads : codec.readMessage bytes = .ok message)
      (differs : message.id ≠ id) :
      Answers codec id bytes
        (.error (.malformed s!"response id {message.id} does not match query id {id}"))
  | addresses {responseCode : Nat} {answers : List Record} {found : List Address}
      (reads : codec.readMessage bytes = .ok ⟨id, responseCode, answers⟩)
      (holds : found.map Record.address = answers.filter Record.isAddress) :
      Answers codec id bytes (.ok found)

theorem filter_isAddress (answers : List Record) :
    answers.filter Record.isAddress = (answers.filterMap Record.address?).map Record.address := by
  induction answers with
  | nil => rfl
  | cons record answers ih =>
      cases record <;>
        simp [List.filter_cons, List.filterMap_cons, Record.isAddress, Record.address?, ih]

theorem map_address_eq_iff (message : Message) (found : List Address) :
    found.map Record.address = message.answers.filter Record.isAddress ↔
      found = message.addresses := by
  rw [filter_isAddress]
  exact (List.map_injective_iff.mpr fun _ _ => Record.address.inj).eq_iff

namespace Codec

variable {codec : Codec} {id : UInt16} {bytes : Bytes}

theorem judge_of_error {reason : String} (fails : codec.readMessage bytes = .error reason) :
    codec.judge id bytes = .error (.malformed reason) := by
  simp [judge, fails, Except.mapError, bind, Except.bind]

theorem judge_of_ok {message : Message} (reads : codec.readMessage bytes = .ok message) :
    codec.judge id bytes =
      if message.id = id then .ok message.addresses
      else .error (.malformed s!"response id {message.id} does not match query id {id}") := by
  simp [judge, reads, Except.mapError, bind, Except.bind]

/-- A datagram has just one answer, and the lookup finds it. -/
theorem judge_eq_iff (result : Except Error (List Address)) :
    codec.judge id bytes = result ↔ codec.Answers id bytes result := by
  constructor
  · rintro rfl
    cases reads : codec.readMessage bytes with
    | error reason =>
        rw [judge_of_error reads]
        exact .unreadable reads
    | ok message =>
        rw [judge_of_ok reads]
        by_cases same : message.id = id
        · obtain ⟨number, responseCode, answers⟩ := message
          obtain rfl : number = id := same
          rw [if_pos rfl]
          exact .addresses reads ((map_address_eq_iff _ _).mpr rfl)
        · rw [if_neg same]
          exact .misdirected reads same
  · intro answers
    cases answers with
    | unreadable fails => exact judge_of_error fails
    | misdirected reads differs => rw [judge_of_ok reads, if_neg differs]
    | @addresses responseCode answers found reads holds =>
        rw [judge_of_ok reads, if_pos rfl]
        exact congrArg Except.ok ((map_address_eq_iff ⟨id, responseCode, answers⟩ _).mp holds).symm

end Codec

/-! ## Which datagram is received -/

namespace Resolver

/-- Among the datagrams that arrive, the first one of the server comes after some of others. -/
structure First (resolver : Resolver) (arriving before : List Datagram) (datagram : Datagram) :
    Prop where
  arrives : ∃ after, arriving = before ++ datagram :: after
  preceded : ∀ other ∈ before, other.sender ≠ resolver.server
  sent : datagram.sender = resolver.server

/-- No wait up to a datagram is longer than the timeout. -/
def Awaits (resolver : Resolver) (before : List Datagram) (datagram : Datagram) : Prop :=
  ∀ other ∈ before ++ [datagram], other.delay.nanos ≤ resolver.timeout.nanos

instance (resolver : Resolver) (before : List Datagram) (datagram : Datagram) :
    Decidable (resolver.Awaits before datagram) :=
  inferInstanceAs (Decidable (∀ other ∈ before ++ [datagram], _ ≤ _))

/-- When the first datagram of the server arrives, and its bytes. -/
def firstGenuine (resolver : Resolver) : Nat → List Datagram → Option (Nat × Bytes)
  | _, [] => none
  | now, datagram :: rest =>
      let arrival := now + datagram.delay.nanos
      if datagram.sender = resolver.server then some (arrival, datagram.bytes)
      else resolver.firstGenuine arrival rest

/-- Two datagrams that differ at most in what other senders write. -/
def Alike (resolver : Resolver) (one other : Datagram) : Prop :=
  one = other ∨ one.delay = other.delay ∧ one.sender ≠ resolver.server ∧
    other.sender ≠ resolver.server

variable {resolver : Resolver} {silence : String} {arriving others before : List Datagram}
  {datagram : Datagram}

theorem awaits_nil :
    resolver.Awaits [] datagram ↔ datagram.delay.nanos ≤ resolver.timeout.nanos := by
  simp [Awaits]

theorem awaits_cons {other : Datagram} :
    resolver.Awaits (other :: before) datagram ↔
      other.delay.nanos ≤ resolver.timeout.nanos ∧ resolver.Awaits before datagram := by
  simp [Awaits]

/-- A datagram of another sender is passed over, when it does not come too late. -/
theorem receive_cons_of_ne (foreign : datagram.sender ≠ resolver.server) :
    resolver.receive silence (datagram :: arriving) =
      if resolver.timeout.nanos < datagram.delay.nanos then .error silence
      else resolver.receive silence arriving := by
  rw [receive, if_neg foreign]

theorem receive_eq_of_foreign (foreign : ∀ other ∈ arriving, other.sender ≠ resolver.server) :
    resolver.receive silence arriving = .error silence := by
  induction arriving with
  | nil => rfl
  | cons datagram arriving ih =>
      have rest := ih fun other inside => foreign other (List.mem_cons_of_mem _ inside)
      rw [receive_cons_of_ne (foreign datagram List.mem_cons_self), rest, ite_self]

theorem receive_eq_of_first (first : resolver.First arriving before datagram) :
    resolver.receive silence arriving =
      if resolver.Awaits before datagram then .ok (received datagram.bytes)
      else .error silence := by
  obtain ⟨⟨after, rfl⟩, preceded, sent⟩ := first
  induction before with
  | nil =>
      simp only [List.nil_append, receive, if_pos sent, awaits_nil]
      by_cases late : resolver.timeout.nanos < datagram.delay.nanos
      · rw [if_pos late, if_neg (Nat.not_le.mpr late)]
      · rw [if_neg late, if_pos (Nat.not_lt.mp late)]
  | cons other before ih =>
      -- The wait for the rest starts anew, so that only this one wait is added.
      have rest := ih fun other inside => preceded other (List.mem_cons_of_mem _ inside)
      rw [List.cons_append, receive_cons_of_ne (preceded other List.mem_cons_self), rest]
      simp only [awaits_cons]
      by_cases late : resolver.timeout.nanos < other.delay.nanos
      · simp only [if_pos late, Nat.not_le.mpr late, false_and, if_false]
      · simp only [if_neg late, Nat.not_lt.mp late, true_and]

/-! ## Datagrams of other senders -/

/-- What other senders write is not looked at. -/
theorem receive_alike (alike : List.Forall₂ resolver.Alike others arriving) :
    resolver.receive silence others = resolver.receive silence arriving := by
  induction alike with
  | nil => rfl
  | cons same _ ih =>
      obtain rfl | ⟨delay, one, other⟩ := same
      · simp only [receive, ih]
      · rw [receive_cons_of_ne one, receive_cons_of_ne other, delay, ih]

theorem le_of_mem_firstGenuine {now : Nat} {answer : Nat × Bytes}
    (first : answer ∈ resolver.firstGenuine now arriving) : now ≤ answer.1 := by
  induction arriving generalizing now with
  | nil => simp [firstGenuine] at first
  | cons datagram arriving ih =>
      have waited : now ≤ now + datagram.delay.nanos := Nat.le_add_right _ _
      by_cases sent : datagram.sender = resolver.server
      · simp only [firstGenuine, if_pos sent, Option.mem_some] at first
        obtain rfl := first
        exact waited
      · simp only [firstGenuine, if_neg sent] at first
        exact Nat.le_trans waited (ih first)

/-- What is received is the first datagram of the server, if anything is received. -/
theorem receive_eq_or (resolver : Resolver) (silence : String) (arriving : List Datagram)
    (now : Nat) :
    resolver.receive silence arriving = .error silence ∨
      ∃ answer ∈ resolver.firstGenuine now arriving,
        resolver.receive silence arriving = .ok (received answer.2) := by
  induction arriving generalizing now with
  | nil => exact .inl rfl
  | cons datagram arriving ih =>
      by_cases late : resolver.timeout.nanos < datagram.delay.nanos
      · exact .inl (by rw [receive, if_pos late])
      · by_cases sent : datagram.sender = resolver.server
        · right
          exact ⟨(now + datagram.delay.nanos, datagram.bytes), by simp [firstGenuine, sent],
            by simp [receive, late, sent]⟩
        · simpa [receive, firstGenuine, late, sent] using ih (now + datagram.delay.nanos)

theorem receive_of_firstGenuine_eq_none {now : Nat}
    (nothing : resolver.firstGenuine now arriving = none) :
    resolver.receive silence arriving = .error silence := by
  obtain silent | ⟨answer, first, -⟩ := resolver.receive_eq_or silence arriving now
  · exact silent
  · simp [nothing] at first

/-- A datagram of the server that arrives within the timeout is received, whatever arrives before
it. -/
theorem receive_of_prompt {now : Nat} {answer : Nat × Bytes}
    (first : resolver.firstGenuine now arriving = some answer)
    (prompt : answer.1 ≤ now + resolver.timeout.nanos) :
    resolver.receive silence arriving = .ok (received answer.2) := by
  induction arriving generalizing now with
  | nil => simp [firstGenuine] at first
  | cons datagram arriving ih =>
      by_cases sent : datagram.sender = resolver.server
      · simp only [firstGenuine, if_pos sent, Option.some.injEq] at first
        obtain rfl := first
        have inTime : datagram.delay.nanos ≤ resolver.timeout.nanos :=
          Nat.le_of_add_le_add_left prompt
        rw [receive, if_neg (Nat.not_lt.mpr inTime), if_pos sent]
      · simp only [firstGenuine, if_neg sent] at first
        -- What arrives before the datagram of the server is in time as well.
        have earlier := le_of_mem_firstGenuine first
        rw [receive_cons_of_ne sent, if_neg (by omega)]
        exact ih first (by omega)

section

variable (same : resolver.firstGenuine 0 others = resolver.firstGenuine 0 arriving)

include same

theorem receive_eq_of_firstGenuine
    (prompt : ∀ answer ∈ resolver.firstGenuine 0 arriving,
      answer.1 ≤ resolver.timeout.nanos) :
    resolver.receive silence others = resolver.receive silence arriving := by
  cases first : resolver.firstGenuine 0 arriving with
  | none =>
      rw [receive_of_firstGenuine_eq_none first, receive_of_firstGenuine_eq_none (same.trans first)]
  | some answer =>
      have inTime : answer.1 ≤ 0 + resolver.timeout.nanos := by
        rw [Nat.zero_add]
        exact prompt answer first
      rw [receive_of_prompt first inTime, receive_of_prompt (same.trans first) inTime]

/-- Two rows with the same first datagram of the server differ at most in whether it is received. -/
theorem receive_eq_or_of_firstGenuine :
    resolver.receive silence others = resolver.receive silence arriving ∨
      resolver.receive silence others = .error silence ∨
      resolver.receive silence arriving = .error silence := by
  obtain silent | ⟨one, firstOne, heard⟩ := resolver.receive_eq_or silence others 0
  · exact .inr (.inl silent)
  obtain silent | ⟨other, firstOther, heardToo⟩ := resolver.receive_eq_or silence arriving 0
  · exact .inr (.inr silent)
  rw [same] at firstOne
  obtain rfl := Option.mem_unique firstOne firstOther
  exact .inl (heard.trans heardToo.symm)

end

end Resolver

/-! ## What a lookup finds -/

section

variable {codec : Codec} {resolver : Resolver} {socket : Socket} {host : String} {id : UInt16}
  {arriving others : List Datagram} {message : Bytes}

theorem Codec.lookup_of_unreadable {reason : String}
    (invalid : codec.readName host = .error reason) :
    codec.lookup resolver socket host id arriving =
      ⟨none, .error (.invalidName host reason)⟩ := by
  simp [lookup, query, invalid, Except.mapError, bind, Except.bind]

theorem Codec.lookup_of_unasked {reason : String} (asks : codec.query host id = .ok message)
    (fails : resolver.ask socket message = .error reason) :
    codec.lookup resolver socket host id arriving = ⟨none, .error (.io reason)⟩ := by
  simp [lookup, asks, fails]

theorem Codec.lookup_of_asked (asks : codec.query host id = .ok message)
    (asked : resolver.ask socket message = .ok ()) :
    codec.lookup resolver socket host id arriving =
      ⟨some (message, resolver.server),
        ((resolver.receive socket.silence arriving).mapError .io).bind (codec.judge id)⟩ := by
  simp only [lookup, asks, asked]
  rfl

theorem Codec.lookup_congr
    (same : resolver.receive socket.silence others = resolver.receive socket.silence arriving) :
    codec.lookup resolver socket host id others =
      codec.lookup resolver socket host id arriving := by
  simp only [lookup, same]

theorem Codec.result_of_silent (asks : codec.query host id = .ok message)
    (asked : resolver.ask socket message = .ok ())
    (silent : resolver.receive socket.silence arriving = .error socket.silence) :
    (codec.lookup resolver socket host id arriving).result = .error (.io socket.silence) := by
  rw [lookup_of_asked asks asked, silent]
  rfl

theorem Codec.result_of_first {before : List Datagram} {datagram : Datagram}
    (asks : codec.query host id = .ok message) (asked : resolver.ask socket message = .ok ())
    (first : resolver.First arriving before datagram) (awaits : resolver.Awaits before datagram) :
    (codec.lookup resolver socket host id arriving).result =
      codec.judge id (received datagram.bytes) := by
  rw [lookup_of_asked asks asked, Resolver.receive_eq_of_first first, if_pos awaits]
  rfl

theorem Codec.result_of_late {before : List Datagram} {datagram : Datagram}
    (asks : codec.query host id = .ok message) (asked : resolver.ask socket message = .ok ())
    (first : resolver.First arriving before datagram) (late : ¬ resolver.Awaits before datagram) :
    (codec.lookup resolver socket host id arriving).result = .error (.io socket.silence) :=
  result_of_silent asks asked (by rw [Resolver.receive_eq_of_first first, if_neg late])

end

/-- A lookup fails before anything is sent for a host that is no name, and when the socket cannot
ask. Otherwise it asks the server, and its result is what the first datagram of the server answers;
it fails when a wait up to that datagram is longer than the timeout, and when there is none. What
other senders write never matters. When and how often they write does not matter either if the first
datagram of the server arrives within the timeout or not at all; else it decides at most whether
that datagram is still received. -/
theorem lookup_follows_first_answer (codec : Codec) (resolver : Resolver) (socket : Socket)
    (host : String) (id : UInt16) (arriving : List Datagram) :
    let finds := codec.lookup resolver socket host id
    let silent := Except.error (.io socket.silence)
    (∀ reason, codec.readName host = .error reason →
      finds arriving = ⟨none, .error (.invalidName host reason)⟩) ∧
    (∀ message reason, codec.query host id = .ok message →
      resolver.ask socket message = .error reason →
        finds arriving = ⟨none, .error (.io reason)⟩) ∧
    (∀ others, List.Forall₂ resolver.Alike others arriving → finds others = finds arriving) ∧
    ∀ message, codec.query host id = .ok message → resolver.ask socket message = .ok () →
      (finds arriving).sent = some (message, resolver.server) ∧
      (∀ before datagram, resolver.First arriving before datagram →
        (resolver.Awaits before datagram → ∀ result,
          (finds arriving).result = result ↔ codec.Answers id (received datagram.bytes) result) ∧
        (¬ resolver.Awaits before datagram → (finds arriving).result = silent)) ∧
      ((∀ datagram ∈ arriving, datagram.sender ≠ resolver.server) →
        (finds arriving).result = silent) ∧
      ∀ others, resolver.firstGenuine 0 others = resolver.firstGenuine 0 arriving →
        ((∀ answer ∈ resolver.firstGenuine 0 arriving, answer.1 ≤ resolver.timeout.nanos) →
          finds others = finds arriving) ∧
        (finds others = finds arriving ∨ (finds others).result = silent ∨
          (finds arriving).result = silent) := by
  intro finds silent
  refine ⟨fun reason invalid => Codec.lookup_of_unreadable invalid,
    fun message reason asks fails => Codec.lookup_of_unasked asks fails,
    fun others alike => Codec.lookup_congr (Resolver.receive_alike alike), ?_⟩
  intro message asks asked
  have unheard {row : List Datagram} :
      resolver.receive socket.silence row = .error socket.silence → (finds row).result = silent :=
    Codec.result_of_silent asks asked
  refine ⟨?_, ?_, fun foreign => unheard (Resolver.receive_eq_of_foreign foreign), ?_⟩
  · exact congrArg Lookup.sent (Codec.lookup_of_asked asks asked)
  · intro before datagram first
    refine ⟨fun awaits result => ?_, Codec.result_of_late asks asked first⟩
    rw [Codec.result_of_first asks asked first awaits]
    exact Codec.judge_eq_iff result
  · intro others same
    constructor
    · intro prompt
      -- In time, or never: both rows are received alike.
      exact Codec.lookup_congr (Resolver.receive_eq_of_firstGenuine same prompt)
    · exact (Resolver.receive_eq_or_of_firstGenuine same).imp Codec.lookup_congr
        (Or.imp unheard unheard)

/-! ## Answers on the network -/

/-- The head of a record for the name of the question. -/
def recordHead (kind : Nat) : Bytes :=
  [192, 12] ++ wordBytes kind ++ wordBytes networkClass ++ [0, 0, 0, 60]

def addressRecord (address : Address) : Bytes :=
  recordHead addressType ++ wordBytes 4 ++
    [address.first, address.second, address.third, address.fourth]

/-- A record of so many texts, all of them empty. -/
def textRecord (count : Nat) : Bytes := recordHead 16 ++ wordBytes count ++ List.replicate count 0

def sampleHost : String := "sample.example.com"

def sampleName : Name :=
  ⟨[['s', 'a', 'm', 'p', 'l', 'e'], ['e', 'x', 'a', 'm', 'p', 'l', 'e'], ['c', 'o', 'm']]⟩

/-- A message that answers the question for the sample with records. -/
def reply (id : UInt16) (flags : Nat) (records : List Bytes) : Bytes :=
  wordBytes id.toNat ++ wordBytes flags ++ wordBytes 1 ++ wordBytes records.length ++
    wordBytes 0 ++ wordBytes 0 ++ nameBytes sampleName ++ wordBytes addressType ++
    wordBytes networkClass ++ records.flatten

theorem network_query_sampleHost (id : UInt16) :
    Codec.network.query sampleHost id = .ok (question id sampleName) := by
  have reads : Name.read? sampleHost = some sampleName := by decide +kernel
  simp [Codec.query, Codec.network, reads, Except.mapError, bind, Except.bind]

theorem network_readMessage_eq {bytes : Bytes} {message : Message}
    (reads : Message.decode? bytes = some message) :
    Codec.network.readMessage bytes = .ok message := by
  simp [Codec.network, reads]

theorem network_readMessage_eq_error {bytes : Bytes} (fails : Message.decode? bytes = none) :
    Codec.network.readMessage bytes = .error "the message cannot be read" := by
  simp [Codec.network, fails]

/-- A server that is reached over the longer addresses. -/
def distantResolver : Resolver := ⟨.v6 0x20010db8000000000000000000000001 53 0 0, .ofSeconds 5⟩

/-- A forged answer from another end of the same address and port. -/
def forged : Datagram :=
  ⟨.v6 0x20010db8000000000000000000000001 53 0 1, reply 7 0x8180 [addressRecord ⟨6, 6, 6, 6⟩],
    .ofSeconds 3⟩

/-- The server tells that the name does not exist, and lists two addresses after a text. -/
def listing (delay : Duration) : Datagram :=
  ⟨distantResolver.server, reply 7 0x8183
    [textRecord 2, addressRecord ⟨192, 0, 2, 10⟩, addressRecord ⟨192, 0, 2, 11⟩], delay⟩

/-- The answer of the server is read to its end, and a forged one before it says nothing. After six
seconds it would be too late. A host with an empty label is not asked for, and neither is one for
which nobody would wait. -/
theorem lookup_follows_first_answer_forged :
    distantResolver.First [forged, listing (.ofSeconds 2)] [forged] (listing (.ofSeconds 2)) ∧
      distantResolver.Awaits [forged] (listing (.ofSeconds 2)) ∧
      (lookup distantResolver sampleHost 7 [forged, listing (.ofSeconds 2)]).sent =
        some (question 7 sampleName, distantResolver.server) ∧
      (lookup distantResolver sampleHost 7 [forged, listing (.ofSeconds 2)]).result =
        .ok [⟨192, 0, 2, 10⟩, ⟨192, 0, 2, 11⟩] ∧
      lookup distantResolver sampleHost 7 [{ forged with bytes := [] }, listing (.ofSeconds 2)] =
        lookup distantResolver sampleHost 7 [forged, listing (.ofSeconds 2)] ∧
      lookup distantResolver sampleHost 7 [listing (.ofSeconds 5)] =
        lookup distantResolver sampleHost 7 [forged, listing (.ofSeconds 2)] ∧
      (lookup distantResolver sampleHost 7 [listing (.ofSeconds 6)]).result =
        .error (.io "no answer") ∧
      (lookup distantResolver sampleHost 7 [forged]).result = .error (.io "no answer") ∧
      lookup distantResolver "bad..name" 7 [listing (.ofSeconds 2)] =
        ⟨none, .error (.invalidName "bad..name" "the name cannot be read")⟩ ∧
      lookup { distantResolver with timeout := ⟨0⟩ } sampleHost 7 [listing ⟨0⟩] =
        ⟨none, .error (.io "cannot set a 0 duration timeout")⟩ := by
  have first : distantResolver.First [forged, listing (.ofSeconds 2)] [forged]
      (listing (.ofSeconds 2)) := ⟨⟨[], rfl⟩, by decide, rfl⟩
  have awaits : distantResolver.Awaits [forged] (listing (.ofSeconds 2)) := by decide
  have only : distantResolver.First [listing (.ofSeconds 6)] [] (listing (.ofSeconds 6)) :=
    ⟨⟨[], rfl⟩, by simp, rfl⟩
  have rewritten : List.Forall₂ distantResolver.Alike
      [{ forged with bytes := [] }, listing (.ofSeconds 2)] [forged, listing (.ofSeconds 2)] :=
    .cons (.inr ⟨rfl, by decide, by decide⟩) (.cons (.inl rfl) .nil)
  have asks := network_query_sampleHost 7
  have asked : distantResolver.ask .working (question 7 sampleName) = .ok () := rfl
  have reads : Codec.network.readMessage (received (listing (.ofSeconds 2)).bytes) =
      .ok ⟨7, 3, [.other 16 [0, 0], .address ⟨192, 0, 2, 10⟩, .address ⟨192, 0, 2, 11⟩]⟩ :=
    network_readMessage_eq (by decide +kernel)
  have unreadable : Codec.network.readName "bad..name" = .error "the name cannot be read" := by
    have fails : Name.read? "bad..name" = none := by decide +kernel
    simp [Codec.network, fails]
  obtain ⟨-, -, alike, heard⟩ := lookup_follows_first_answer .network distantResolver .working
    sampleHost 7 [forged, listing (.ofSeconds 2)]
  obtain ⟨sent, answered, -, unmoved⟩ := heard _ asks asked
  obtain ⟨-, -, -, late⟩ := lookup_follows_first_answer .network distantResolver .working
    sampleHost 7 [listing (.ofSeconds 6)]
  obtain ⟨-, -, -, alone⟩ := lookup_follows_first_answer .network distantResolver .working
    sampleHost 7 [forged]
  obtain ⟨invalid, -⟩ := lookup_follows_first_answer .network distantResolver .working
    "bad..name" 7 [listing (.ofSeconds 2)]
  obtain ⟨-, unasked, -⟩ := lookup_follows_first_answer .network
    { distantResolver with timeout := ⟨0⟩ } .working sampleHost 7 [listing ⟨0⟩]
  refine ⟨first, awaits, sent, ?_, alike _ rewritten, (unmoved _ (by decide)).1 (by decide), ?_,
    ?_, invalid _ unreadable, unasked _ _ asks rfl⟩
  · exact ((answered _ _ first).1 awaits _).mpr (.addresses reads rfl)
  · exact ((late _ asks asked).2.1 _ _ only).2 (by decide)
  · exact (alone _ asks asked).2.2.1 (by decide)

/-- An address, and so many empty texts that they do not fit into what is received. -/
def oversized : Bytes := reply 7 0x8180 [addressRecord ⟨192, 0, 2, 10⟩, textRecord 4200]

/-- The answer of the server after a time. -/
def answerAfter (delay : Duration) : Datagram :=
  ⟨publicResolver.server, reply 7 0x8180 [addressRecord ⟨192, 0, 2, 10⟩], delay⟩

/-- A datagram without any bytes, from a sender that was not asked. -/
def stray : Datagram := ⟨.v4 ⟨192, 0, 2, 53⟩ 53, [], .ofSeconds 3⟩

/-- A message of the server that can be read is lost when it is too long. An answer after six
seconds comes too late for a timeout of five, but not when a stray datagram comes in between. -/
theorem answer_cut_and_wait_prolonged :
    (∃ message, Codec.network.readMessage oversized = .ok message ∧ message.id = 7 ∧
      message.addresses = [⟨192, 0, 2, 10⟩] ∧
      (lookup publicResolver sampleHost 7 [⟨publicResolver.server, oversized, ⟨0⟩⟩]).result =
        .error (.malformed "the message cannot be read")) ∧
    publicResolver.firstGenuine 0 [stray, answerAfter (.ofSeconds 3)] =
      publicResolver.firstGenuine 0 [answerAfter (.ofSeconds 6)] ∧
    (lookup publicResolver sampleHost 7 [answerAfter (.ofSeconds 6)]).result =
      .error (.io "no answer") ∧
    (lookup publicResolver sampleHost 7 [stray, answerAfter (.ofSeconds 3)]).result =
      .ok [⟨192, 0, 2, 10⟩] := by
  have asks := network_query_sampleHost 7
  have asked : publicResolver.ask .working (question 7 sampleName) = .ok () := rfl
  refine ⟨?_, by decide, ?_, ?_⟩
  · have decoded : (Message.decode? oversized).map (fun message =>
        (message.id, message.addresses)) = some (7, [⟨192, 0, 2, 10⟩]) := by decide +kernel
    obtain ⟨message, whole, parts⟩ := Option.map_eq_some_iff.mp decoded
    obtain ⟨number, listed⟩ := Prod.mk.inj parts
    have cut : Codec.network.readMessage (received oversized) =
        .error "the message cannot be read" := network_readMessage_eq_error (by decide +kernel)
    have first : publicResolver.First [⟨publicResolver.server, oversized, ⟨0⟩⟩] []
        ⟨publicResolver.server, oversized, ⟨0⟩⟩ := ⟨⟨[], rfl⟩, by simp, rfl⟩
    refine ⟨message, network_readMessage_eq whole, number, listed, ?_⟩
    exact (Codec.result_of_first asks asked first (by decide)).trans (Codec.judge_of_error cut)
  · have first : publicResolver.First [answerAfter (.ofSeconds 6)] []
        (answerAfter (.ofSeconds 6)) := ⟨⟨[], rfl⟩, by simp, rfl⟩
    exact Codec.result_of_late asks asked first (by decide)
  · have first : publicResolver.First [stray, answerAfter (.ofSeconds 3)] [stray]
        (answerAfter (.ofSeconds 3)) := ⟨⟨[], rfl⟩, by decide, rfl⟩
    have reads : Codec.network.readMessage (received (answerAfter (.ofSeconds 3)).bytes) =
        .ok ⟨7, 0, [.address ⟨192, 0, 2, 10⟩]⟩ := network_readMessage_eq (by decide +kernel)
    exact (Codec.result_of_first asks asked first (by decide)).trans (Codec.judge_of_ok reads)

end AddonCheck.Dns
