import AddonCheck.Json.Number
import AddonCheck.Json.Token

/-
This file reads JSON text. A number that is too large and a text with half of a character are read
as values that are missing: they only matter to a reader who looks at them.
-/

namespace AddonCheck.Json

/-- A value as it is written. The fields of an object may repeat a name. -/
inductive Written where
  | null
  | bool (value : Bool)
  | number (value : Option Json)
  | text (value : Option String)
  | array (items : List Written)
  | object (fields : List (Option String × Written))
  deriving Inhabited

namespace Written

/-- The value of a word: a literal or a number. -/
def ofWord? (characters : List Char) : Option Written :=
  if characters == "null".toList then some null
  else if characters == "true".toList then some (bool true)
  else if characters == "false".toList then some (bool false)
  else (Number.parts? characters).map fun parts => number (Number.value? parts)

/-- What is open around the next token. Items and fields are kept with the latest first. -/
inductive Frame where
  | array (items : List Written)
  | object (fields : List (Option String × Written)) (name : Option String)

/-- What the next token may be. -/
inductive Expectation where
  | value
  /-- A value, or the end of an array that has just been opened. -/
  | valueOrClose
  | name
  /-- A name, or the end of an object that has just been opened. -/
  | nameOrClose
  | colon (name : Option String)
  | separator
  /-- The end of the text, after the outermost value. -/
  | finished (value : Written)

/-- The frames that are open, the innermost first, and what may come next. -/
structure Reading where
  frames : List Frame
  expectation : Expectation

/-- A value is complete: it joins the innermost frame, or it is the outermost value. -/
def complete (frames : List Frame) (value : Written) : Reading :=
  match frames with
  | [] => ⟨[], .finished value⟩
  | .array items :: rest => ⟨.array (value :: items) :: rest, .separator⟩
  | .object fields name :: rest => ⟨.object ((name, value) :: fields) none :: rest, .separator⟩

/-- A token where a value is expected. -/
def beginValue (frames : List Frame) : Token → Option Reading
  | .openArray => some ⟨.array [] :: frames, .valueOrClose⟩
  | .openObject => some ⟨.object [] none :: frames, .nameOrClose⟩
  | .text value => some (complete frames (text value))
  | .word characters => (ofWord? characters).map (complete frames)
  | _ => none

/-- A token where the name of a field is expected. -/
def beginField (frames : List Frame) : Token → Option Reading
  | .text name => some ⟨frames, .colon name⟩
  | _ => none

/-- A token after an item or a field. -/
def separate (frames : List Frame) (token : Token) : Option Reading :=
  match frames, token with
  | .array _ :: _, .comma => some ⟨frames, .value⟩
  | .array items :: rest, .closeArray => some (complete rest (array items.reverse))
  | .object _ _ :: _, .comma => some ⟨frames, .name⟩
  | .object fields _ :: rest, .closeObject => some (complete rest (object fields.reverse))
  | _, _ => none

/-- Takes one token. -/
def take (reading : Reading) (token : Token) : Option Reading :=
  match reading.expectation with
  | .value => beginValue reading.frames token
  | .valueOrClose =>
      if token = .closeArray then separate reading.frames token
      else beginValue reading.frames token
  | .name => beginField reading.frames token
  | .nameOrClose =>
      if token = .closeObject then separate reading.frames token
      else beginField reading.frames token
  | .colon name =>
      match token, reading.frames with
      | .colon, .object fields _ :: rest => some ⟨.object fields name :: rest, .value⟩
      | _, _ => none
  | .separator => separate reading.frames token
  | .finished _ => none

/-- The value that a row of tokens writes. -/
def ofTokens? (tokens : List Token) : Option Written := do
  let reading ← tokens.foldlM take ⟨[], .value⟩
  match reading.expectation with
  | .finished value => some value
  | _ => none

/-- The value that a text writes. -/
def read? (source : String) : Option Written := do
  ofTokens? (← Token.scan .between source.toList)

end Written

end AddonCheck.Json
