import AddonCheck.Calendar.Timestamp.Offset

/-
This file reads what may follow the offset of a time stamp: texts in brackets, of which the first
may name a time zone. The others are remarks, each a key and a value.
-/

namespace AddonCheck.Calendar.Timestamp

/-- The contents of the brackets that a text is made of. The flag tells whether a bracket is open,
and the rest of its content is then the first of the contents. -/
def brackets? : Bool → List Char → Option (List (List Char))
  | false, [] => some []
  | true, [] => none
  | false, c :: rest => if c == '[' then brackets? true rest else none
  | true, c :: rest =>
      if c == ']' then (brackets? false rest).map ([] :: ·)
      else
        match brackets? true rest with
        | some (content :: contents) => some ((c :: content) :: contents)
        | _ => none

/-- Words have a character that starts them and further ones, and a mark between each two. -/
structure WordForm where
  starts : Char → Bool
  continues : Char → Bool
  mark : Option Char

namespace WordForm

/-- Whether a text goes on in the form of words; the flag tells whether a word is to start. -/
def accepts (form : WordForm) : Bool → List Char → Bool
  | starting, [] => !starting
  | true, c :: rest => form.starts c && form.accepts false rest
  | false, c :: rest =>
      if form.continues c then form.accepts false rest
      else form.mark == some c && form.accepts true rest

/-- Whether a text consists of one word or more. -/
def isText (form : WordForm) (text : List Char) : Bool := form.accepts true text

end WordForm

def isLetter (c : Char) : Bool := c.isAlpha || c == '_' || c == '.'

/-- The name of a time zone, such as a region and a city. -/
def zoneName : WordForm where
  starts := isLetter
  continues c := isLetter c || c.isDigit || c == '-' || c == '+'
  mark := some '/'

def remarkKey : WordForm where
  starts c := c.isLower || c == '_'
  continues c := c.isLower || c == '_' || c.isDigit || c == '-'
  mark := none

def remarkValue : WordForm where
  starts := Char.isAlphanum
  continues := Char.isAlphanum
  mark := some '-'

/-- A zone is an offset or a name, and an exclamation mark may stand before it. -/
def isZone (content : List Char) : Bool :=
  let zone := match content with
    | '!' :: rest => rest
    | other => other
  isShortOffset zone || zoneName.isText zone

/-- A remark that has to be understood starts with an exclamation mark, and none is. -/
def isRemark (content : List Char) : Bool :=
  match content.dropWhile (· != '=') with
  | _ :: value => remarkKey.isText (content.takeWhile (· != '=')) && remarkValue.isText value
  | [] => false

/-- Whether a text may follow an offset. -/
def isSuffix (text : List Char) : Bool :=
  match brackets? false text with
  | none => false
  | some [] => true
  | some (first :: others) => (isZone first || isRemark first) && others.all isRemark

end AddonCheck.Calendar.Timestamp
