import AddonCheck.Text.Digits

/-
This file splits the text of a JSON value into tokens. Each step reads one character, so that the
tokens are found in one pass.
-/

namespace AddonCheck.Json

/-- A token of JSON text. A text has no value when an escape in it names half of a character. -/
inductive Token where
  | openArray
  | closeArray
  | openObject
  | closeObject
  | comma
  | colon
  | text (value : Option String)
  /-- The characters of a number or of a literal. -/
  | word (characters : List Char)
  deriving DecidableEq, Repr, Inhabited

namespace Token

def isBlank (c : Char) : Bool := c == ' ' || c == '\t' || c == '\n' || c == '\r'

def isWordCharacter (c : Char) : Bool := c.isAlphanum || c == '-' || c == '+' || c == '.'

/-- The token of a character that stands alone. -/
def mark? : Char → Option Token
  | '[' => some openArray
  | ']' => some closeArray
  | '{' => some openObject
  | '}' => some closeObject
  | ',' => some comma
  | ':' => some colon
  | _ => none

/-- A part of a text: a character, or a unit of 16 bits that an escape names. -/
inductive Piece where
  | character (c : Char)
  | codeUnit (value : Nat)
  deriving DecidableEq, Repr, Inhabited

/-- The character that an escape of one letter names. -/
def escaped? : Char → Option Char
  | '"' => some '"'
  | '\\' => some '\\'
  | '/' => some '/'
  | 'b' => some '\x08'
  | 'f' => some '\x0c'
  | 'n' => some '\n'
  | 'r' => some '\r'
  | 't' => some '\t'
  | _ => none

def hexDigit? (c : Char) : Option Nat :=
  if '0' ≤ c ∧ c ≤ '9' then some (c.toNat - '0'.toNat)
  else if 'a' ≤ c ∧ c ≤ 'f' then some (c.toNat - 'a'.toNat + 10)
  else if 'A' ≤ c ∧ c ≤ 'F' then some (c.toNat - 'A'.toNat + 10)
  else none

def isLeading (value : Nat) : Bool := 0xD800 ≤ value && value < 0xDC00

def isTrailing (value : Nat) : Bool := 0xDC00 ≤ value && value < 0xE000

/-- The characters of a row of pieces. Two units that belong together make one character, and half
of such a pair makes none. -/
def assemble : List Piece → Option (List Char)
  | [] => some []
  | .character c :: rest => (assemble rest).map (c :: ·)
  | .codeUnit first :: .codeUnit second :: rest =>
      if isLeading first then
        if isTrailing second then
          (assemble rest).map
            (Char.ofNat (0x10000 + (first - 0xD800) * 0x400 + (second - 0xDC00)) :: ·)
        else none
      else if isTrailing first then none
      else (assemble (.codeUnit second :: rest)).map (Char.ofNat first :: ·)
  | .codeUnit value :: rest =>
      if isLeading value || isTrailing value then none
      else (assemble rest).map (Char.ofNat value :: ·)

/-- The text of a row of pieces, the latest first. -/
def ofPieces (pieces : List Piece) : Token := text ((assemble pieces.reverse).map String.ofList)

/-- Where the next character stands. Characters and pieces are kept with the latest first. -/
inductive Mode where
  | between
  | inWord (characters : List Char)
  | inText (pieces : List Piece)
  | afterBackslash (pieces : List Piece)
  | inUnit (pieces : List Piece) (digits value : Nat)
  deriving Inhabited

/-- A character that starts no text and continues no word. -/
def stepBetween (c : Char) : Option (List Token × Mode) :=
  if isBlank c then some ([], .between)
  else if c == '"' then some ([], .inText [])
  else if isWordCharacter c then some ([], .inWord [c])
  else (mark? c).map fun token => ([token], .between)

/-- The tokens that a character completes, and where the next one stands. -/
def step (mode : Mode) (c : Char) : Option (List Token × Mode) :=
  match mode with
  | .between => stepBetween c
  | .inWord characters =>
      if isWordCharacter c then some ([], .inWord (c :: characters))
      else (stepBetween c).map fun next => (word characters.reverse :: next.1, next.2)
  | .inText pieces =>
      if c == '"' then some ([ofPieces pieces], .between)
      else if c == '\\' then some ([], .afterBackslash pieces)
      else if c.toNat < 0x20 then none
      else some ([], .inText (.character c :: pieces))
  | .afterBackslash pieces =>
      if c == 'u' then some ([], .inUnit pieces 0 0)
      else (escaped? c).map fun character => ([], .inText (.character character :: pieces))
  | .inUnit pieces digits value =>
      (hexDigit? c).map fun digit =>
        let value := value * 16 + digit
        if digits == 3 then ([], .inText (.codeUnit value :: pieces))
        else ([], .inUnit pieces (digits + 1) value)

/-- The tokens from a place in the text on. -/
def scan : Mode → List Char → Option (List Token)
  | .between, [] => some []
  | .inWord characters, [] => some [word characters.reverse]
  | _, [] => none
  | mode, c :: rest => do
      let (found, mode) ← step mode c
      return found ++ (← scan mode rest)

end Token

end AddonCheck.Json
