import AddonCheck.Dns.Name

/-
This file writes the question of a lookup and reads the records of an answer. A name in an answer
may end in a pointer to an earlier place.
-/

namespace AddonCheck.Dns

abbrev Bytes := List UInt8

/-- The two bytes of a number below 2 to the 16. -/
def wordBytes (n : Nat) : Bytes := [UInt8.ofNat (n / 256), UInt8.ofNat n]

/-- The number of two bytes. -/
def wordOf (high low : UInt8) : Nat := high.toNat * 256 + low.toNat

/-- A label is sent after its length. -/
def labelBytes (label : List Char) : Bytes :=
  UInt8.ofNat label.length :: label.map fun c => UInt8.ofNat c.toNat

def nameBytes (name : Name) : Bytes := name.labels.flatMap labelBytes ++ [0]

/-- The type of records that hold an address of four bytes. -/
def addressType : Nat := 1

/-- The class of the records of the network. -/
def networkClass : Nat := 1

/-- The flags of a question that asks the server to find the answer elsewhere. -/
def questionFlags : Nat := 0x0100

/-- The message that asks for the addresses of a name. -/
def question (id : UInt16) (name : Name) : Bytes :=
  wordBytes id.toNat ++ wordBytes questionFlags ++ wordBytes 1 ++ wordBytes 0 ++ wordBytes 0
    ++ wordBytes 0 ++ nameBytes name ++ wordBytes addressType ++ wordBytes networkClass

/-- A record holds an address, or it is of another type and its data is not looked into. -/
inductive Record where
  | address (address : Address)
  | other (kind : Nat) (data : Bytes)
  deriving DecidableEq, Repr, Inhabited

def Record.address? : Record → Option Address
  | .address found => some found
  | .other _ _ => none

/-- A message that has been read: its number, how the server fared, and the records that answer. -/
structure Message where
  id : UInt16
  responseCode : Nat
  answers : List Record
  deriving DecidableEq, Repr, Inhabited

namespace Message

/-- The addresses among the answers. -/
def addresses (message : Message) : List Address := message.answers.filterMap Record.address?

/-- A place in a message, as the bytes from it on. -/
abbrev Reader (α : Type) := StateT Bytes Option α

def byte : Reader UInt8 := do
  match ← get with
  | [] => failure
  | first :: rest =>
      set rest
      return first

def word : Reader Nat := do
  let high ← byte
  let low ← byte
  return wordOf high low

/-- Reads a given number of bytes. -/
def block (length : Nat) : Reader Bytes := do
  let bytes ← get
  if bytes.length < length then failure
  else
    set (bytes.drop length)
    return bytes.take length

/-- Whether a name stands at a place of a message. A pointer leads to an earlier place. -/
def isName (message : Bytes) : Nat → Nat → Nat → Nat → Bool
  | 0, _, _, _ => false
  | steps + 1, start, place, length =>
      match message.drop place with
      | [] => false
      | first :: rest =>
          if first == 0 then true
          else if first < 64 then
            let size := first.toNat
            size ≤ rest.length && length + size + 1 < Name.maximumLength
              && isName message steps start (place + size + 1) (length + size + 1)
          else if 192 ≤ first then
            match rest with
            | [] => false
            | low :: _ =>
                let target := (first.toNat - 192) * 256 + low.toNat
                target < start && isName message steps target target length
          else false

/-- The length of a name up to its end or to its pointer. -/
def nameLength : Nat → Bytes → Option Nat
  | 0, _ => none
  | _, [] => none
  | steps + 1, first :: rest =>
      if first == 0 then some 1
      else if 192 ≤ first then some 2
      else (nameLength steps (rest.drop first.toNat)).map (· + first.toNat + 1)

/-- Reads a name. -/
def name (message : Bytes) : Reader Unit := do
  let bytes ← get
  let place := message.length - bytes.length
  let steps := message.length + Name.maximumLength
  if isName message steps place place 0 then
    match nameLength steps bytes with
    | some length => discard (block length)
    | none => failure
  else failure

/-- Reads a question, of which nothing is kept. -/
def questionEntry (message : Bytes) : Reader Unit := do
  name message
  discard (block 4)

/-- Reads a record. One without data holds no address, whatever its type is. -/
def record (message : Bytes) : Reader Record := do
  name message
  let kind ← word
  discard (block 6)
  let data ← block (← word)
  if kind = addressType then
    match data with
    | [] => return .other kind data
    | [first, second, third, fourth] => return .address ⟨first, second, third, fourth⟩
    | _ => failure
  else return .other kind data

/-- Repeats a reader. -/
def many {α : Type} (reader : Reader α) : Nat → Reader (List α)
  | 0 => return []
  | count + 1 => do
      let first ← reader
      return first :: (← many reader count)

/-- The last four bits of the flags tell how the server fared. -/
def responseCodes : Nat := 16

/-- Reads a whole message. -/
def whole (message : Bytes) : Reader Message := do
  let id ← word
  let flags ← word
  let questions ← word
  let answers ← word
  let authorities ← word
  let additions ← word
  discard (many (questionEntry message) questions)
  let found ← many (record message) answers
  discard (many (record message) (authorities + additions))
  return ⟨UInt16.ofNat id, flags % responseCodes, found⟩

def decode? (message : Bytes) : Option Message := ((whole message).run message).map (·.1)

end Message

end AddonCheck.Dns
