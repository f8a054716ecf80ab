import AddonCheck.CommandLine.Invocation
import AddonCheck.Dns.Name
import AddonCheck.Workspace.Name
import Mathlib.Algebra.Group.Nat.Defs

/-
This file shows that the names of the disposable namespaces are labels of host names, and that a
name tells what it is made of. The date and the random part have fixed widths, so that they are found
again at the end of the name, whatever the name starts with.
-/

namespace AddonCheck

namespace Digits

theorem isDigit_digit (n : Nat) : (digit n).isDigit = true := by
  have digits : ∀ value < 10, (Nat.digitChar value).isDigit = true := by decide
  exact digits (n % 10) (Nat.mod_lt n (by decide))

theorem digit_inj {n m : Nat} (same : digit n = digit m) : n % 10 = m % 10 := by
  have apart : ∀ value < 10, ∀ other < 10,
      Nat.digitChar value = Nat.digitChar other → value = other := by decide
  exact apart _ (Nat.mod_lt n (by decide)) _ (Nat.mod_lt m (by decide)) same

theorem isDigit_of_mem_fixed {width n : Nat} {c : Char} (member : c ∈ fixed width n) :
    c.isDigit = true := by
  induction width generalizing n with
  | zero => simp [fixed] at member
  | succ width inductionHypothesis =>
      rcases List.mem_append.mp member with before | last
      · exact inductionHypothesis before
      · rw [List.mem_singleton.mp last]
        exact isDigit_digit n

/-- As many digits as there are tell a number below their power of ten. -/
theorem fixed_inj {width n m : Nat} (same : fixed width n = fixed width m) :
    n % 10 ^ width = m % 10 ^ width := by
  induction width generalizing n m with
  | zero => simp [Nat.mod_one]
  | succ width inductionHypothesis =>
      obtain ⟨before, last⟩ := List.append_inj' same rfl
      have tens := inductionHypothesis before
      have ones := digit_inj (List.singleton_inj.mp last)
      rw [pow_succ', Nat.mod_mul, Nat.mod_mul, ones, tens]

end Digits

namespace Calendar

theorem month_le (day : Int) : (dateOfDay day).month ≤ 12 := by
  have inCycle : ((day + marchYearOffset).fmod daysPerCycle).toNat < 146097 := by
    rw [Int.fmod_eq_emod_of_nonneg _ (by decide)]
    simp only [daysPerCycle]
    omega
  simp only [dateOfDay]
  generalize ((day + marchYearOffset).fmod daysPerCycle).toNat = dayOfCycle at inCycle
  split <;> omega

theorem day_le (day : Int) : (dateOfDay day).day ≤ 31 := by
  simp only [dateOfDay]
  omega

namespace Date

/-- The year of the date is written with four digits and no sign. -/
def HasPlainYear (date : Date) : Prop := 0 ≤ date.year ∧ date.year ≤ 9999

instance (date : Date) : Decidable date.HasPlainYear := inferInstanceAs (Decidable (_ ∧ _))

variable {date other : Date}

theorem compact_eq (plain : date.HasPlainYear) :
    date.compact = Digits.fixed 4 date.year.toNat ++ Digits.fixed 2 date.month ++
      Digits.fixed 2 date.day := by
  rw [compact, yearText, if_pos (show 0 ≤ date.year ∧ date.year ≤ 9999 from plain)]

theorem length_compact (plain : date.HasPlainYear) : date.compact.length = 8 := by
  simp [compact_eq plain, Digits.length_fixed]

theorem isDigit_of_mem_compact (plain : date.HasPlainYear) {c : Char}
    (member : c ∈ date.compact) : c.isDigit = true := by
  rw [compact_eq plain, List.mem_append, List.mem_append] at member
  rcases member with (year | month) | day
  · exact Digits.isDigit_of_mem_fixed year
  · exact Digits.isDigit_of_mem_fixed month
  · exact Digits.isDigit_of_mem_fixed day

end Date

/-- Two days with the same digits have the same date. -/
theorem dateOfDay_eq_of_compact {day other : Int} (plain : (dateOfDay day).HasPlainYear)
    (otherPlain : (dateOfDay other).HasPlainYear)
    (same : (dateOfDay day).compact = (dateOfDay other).compact) :
    dateOfDay day = dateOfDay other := by
  rw [Date.compact_eq plain, Date.compact_eq otherPlain] at same
  obtain ⟨yearsAndMonths, days⟩ := List.append_inj' same (by simp [Digits.length_fixed])
  obtain ⟨years, months⟩ := List.append_inj' yearsAndMonths (by simp [Digits.length_fixed])
  have sameYear : (dateOfDay day).year = (dateOfDay other).year := by
    have := Digits.fixed_inj years
    obtain ⟨nonneg, small⟩ := plain
    obtain ⟨otherNonneg, otherSmall⟩ := otherPlain
    omega
  have sameMonth : (dateOfDay day).month = (dateOfDay other).month := by
    have := Digits.fixed_inj months
    have := month_le day
    have := month_le other
    omega
  have sameDay : (dateOfDay day).day = (dateOfDay other).day := by
    have := Digits.fixed_inj days
    have := day_le day
    have := day_le other
    omega
  calc dateOfDay day
    _ = ⟨(dateOfDay day).year, (dateOfDay day).month, (dateOfDay day).day⟩ := rfl
    _ = ⟨(dateOfDay other).year, (dateOfDay other).month, (dateOfDay other).day⟩ := by
      rw [sameYear, sameMonth, sameDay]
    _ = dateOfDay other := rfl

end Calendar

namespace Workspace

open CommandLine

/-! ## Labels -/

/-- A lower case letter or a digit. -/
def isLabelCharacter (c : Char) : Bool := c.isLower || c.isDigit

/-- A label of a host name holds lower case letters, digits and hyphens. It is short, and neither of
its ends is a hyphen. -/
structure IsLabel (text : String) : Prop where
  short : text.length ≤ Dns.Name.maximumLabelLength
  written : text.toList.all (fun c => isLabelCharacter c || c == '-') = true
  begins : text.toList.head?.any isLabelCharacter = true
  ends : text.toList.getLast?.any isLabelCharacter = true

theorem isLabel_iff (text : String) :
    IsLabel text ↔ text.length ≤ Dns.Name.maximumLabelLength ∧
      text.toList.all (fun c => isLabelCharacter c || c == '-') = true ∧
      text.toList.head?.any isLabelCharacter = true ∧
      text.toList.getLast?.any isLabelCharacter = true :=
  ⟨fun label => ⟨label.short, label.written, label.begins, label.ends⟩,
    fun ⟨short, written, begins, ends⟩ => ⟨short, written, begins, ends⟩⟩

instance (text : String) : Decidable (IsLabel text) := decidable_of_iff' _ (isLabel_iff text)

theorem isLabelCharacter_of_isDigit {c : Char} (digit : c.isDigit = true) :
    isLabelCharacter c = true := by
  simp [isLabelCharacter, digit]

theorem isLabelCharacter_suffixCharacter (choice : Nat) :
    isLabelCharacter (suffixCharacter choice) = true := by
  have alphabet : suffixAlphabet.all isLabelCharacter = true := by decide
  have inside : choice % suffixAlphabet.length < suffixAlphabet.length :=
    Nat.mod_lt choice (by decide)
  rw [suffixCharacter, List.getD_eq_getElem?_getD, List.getElem?_eq_getElem inside]
  exact List.all_eq_true.mp alphabet _ (List.getElem_mem inside)

theorem isLabelCharacter_of_mem_suffix {choices : List Nat} {c : Char}
    (member : c ∈ suffix choices) : isLabelCharacter c = true := by
  obtain ⟨choice, -, rfl⟩ := List.mem_map.mp member
  exact isLabelCharacter_suffixCharacter choice

/-! ## Names and their parts -/

/-- What a name is made of: how it starts, an instant of a year of four digits, and as many random
choices as the random part is long. -/
structure NameParts where
  start : String
  now : Instant
  choices : List Nat
  hasPlainYear : (now.dateAt 0).HasPlainYear
  length_choices : choices.length = suffixLength

namespace NameParts

variable {parts other : NameParts}

def name (parts : NameParts) : String := nameAt parts.start parts.now parts.choices

/-- The date in UTC. -/
def date (parts : NameParts) : Calendar.Date := parts.now.dateAt 0

/-- What follows the start of the name. -/
def tail (parts : NameParts) : List Char :=
  '-' :: (parts.date.compact ++ '-' :: suffix parts.choices)

theorem toList_name (parts : NameParts) : parts.name.toList = parts.start.toList ++ parts.tail := by
  simp [name, nameAt, tail, date, Instant.day, toString]

theorem length_tail (parts : NameParts) : parts.tail.length = 15 := by
  have digits : parts.date.compact.length = 8 := Calendar.Date.length_compact parts.hasPlainYear
  simp [tail, digits, suffix, parts.length_choices, suffixLength]

theorem written_tail (parts : NameParts) :
    parts.tail.all (fun c => isLabelCharacter c || c == '-') = true := by
  rw [List.all_eq_true]
  intro c member
  simp only [tail, List.mem_cons, List.mem_append] at member
  rcases member with rfl | digit | rfl | random
  · rfl
  · rw [isLabelCharacter_of_isDigit
      (Calendar.Date.isDigit_of_mem_compact parts.hasPlainYear digit), Bool.true_or]
  · rfl
  · rw [isLabelCharacter_of_mem_suffix random, Bool.true_or]

/-- A name ends with a random character. -/
theorem getLast?_tail (parts : NameParts) :
    ∃ c, parts.tail.getLast? = some c ∧ isLabelCharacter c = true := by
  cases last : (suffix parts.choices).getLast? with
  | none =>
      have length := parts.length_choices
      rw [List.getLast?_eq_none_iff, suffix, List.map_eq_nil_iff] at last
      rw [last] at length
      cases length
  | some c =>
      refine ⟨c, ?_, isLabelCharacter_of_mem_suffix (List.mem_of_getLast? last)⟩
      simp [tail, List.getLast?_cons, List.getLast?_append, last]

/-- The name of a namespace is a label when it starts with one that leaves room for the rest. -/
theorem isLabel_name (label : IsLabel parts.start) (short : parts.start.length ≤ 48) :
    IsLabel parts.name := by
  obtain ⟨c, last, character⟩ := parts.getLast?_tail
  constructor
  · rw [← String.length_toList] at short ⊢
    rw [toList_name, List.length_append, length_tail, Dns.Name.maximumLabelLength]
    omega
  · rw [toList_name, List.all_append, label.written, written_tail, Bool.and_self]
  · have begins := label.begins
    rw [toList_name, List.head?_append]
    cases first : parts.start.toList.head? with
    | none => simp [first] at begins
    | some c => simpa [first] using begins
  · simp [toList_name, List.getLast?_append, last, character]

/-- Two names are equal just when they start alike and have equal dates and random parts. -/
theorem name_inj : parts.name = other.name ↔
    parts.start = other.start ∧ parts.date = other.date ∧
      suffix parts.choices = suffix other.choices := by
  constructor
  · intro same
    have texts : parts.start.toList ++ parts.tail = other.start.toList ++ other.tail := by
      rw [← toList_name, same, toList_name]
    obtain ⟨starts, tails⟩ := List.append_inj' texts (by rw [length_tail, length_tail])
    obtain ⟨digits, randoms⟩ := List.append_inj (List.cons.inj tails).2 (by
      rw [date, Calendar.Date.length_compact parts.hasPlainYear, date,
        Calendar.Date.length_compact other.hasPlainYear])
    exact ⟨String.toList_inj.mp starts,
      Calendar.dateOfDay_eq_of_compact parts.hasPlainYear other.hasPlainYear digits,
      (List.cons.inj randoms).2⟩
  · rintro ⟨starts, dates, randoms⟩
    apply String.toList_inj.mp
    rw [toList_name, toList_name, tail, tail, starts, dates, randoms]

end NameParts

theorem isLabel_namespaceStart (check : Check) :
    IsLabel check.namespaceStart ∧ check.namespaceStart.length ≤ 48 := by
  cases check <;> simp only [Check.namespaceStart] <;> decide

theorem namespaceStart_eq (check : Check) : check.namespaceStart = check.name ++ "-test" := by
  cases check <;> rfl

/-- The namespaces of different checks start differently. -/
theorem name_eq_of_namespaceStart {check other : Check}
    (same : check.namespaceStart = other.namespaceStart) : check.name = other.name := by
  rw [namespaceStart_eq, namespaceStart_eq] at same
  exact (String.append_left_inj _).mp same

/-- A name that starts with a label of at most 48 characters is a label. Whatever names start with,
two of them are equal just when they start alike and have the same date and the same random part. So
each check names its namespaces with labels, and no two of its runs, nor runs of different checks,
share a namespace but on the same day and with the same random part. -/
theorem names_tell_parts :
    (∀ parts : NameParts, IsLabel parts.start → parts.start.length ≤ 48 → IsLabel parts.name) ∧
    (∀ parts other : NameParts, parts.name = other.name ↔
      parts.start = other.start ∧ parts.date = other.date ∧
        suffix parts.choices = suffix other.choices) ∧
    ∀ (check otherCheck : Check) (parts other : NameParts),
      parts.start = check.namespaceStart → other.start = otherCheck.namespaceStart →
        IsLabel parts.name ∧
          (parts.name = other.name → check.name = otherCheck.name ∧ parts.date = other.date ∧
            suffix parts.choices = suffix other.choices) := by
  refine ⟨fun parts label short => parts.isLabel_name label short,
    fun parts other => NameParts.name_inj, ?_⟩
  intro check otherCheck parts other starts otherStarts
  obtain ⟨label, short⟩ := isLabel_namespaceStart check
  rw [← starts] at label short
  refine ⟨parts.isLabel_name label short, fun same => ?_⟩
  obtain ⟨sameStart, sameDate, sameRandom⟩ := NameParts.name_inj.mp same
  rw [starts, otherStarts] at sameStart
  exact ⟨name_eq_of_namespaceStart sameStart, sameDate, sameRandom⟩

/-- The parts of a name of the log shipper's check at the last second of the year 999. -/
def lateParts : NameParts where
  start := "fluent-test"
  now := ⟨-30610224001, 0⟩
  choices := [0, 35, 36, 1, 26]
  hasPlainYear := by decide
  length_choices := rfl

/-- The parts of a name that starts with another name. -/
def nestedParts : NameParts where
  start := "fluent-test-09991231-a9ab0"
  now := ⟨0, 0⟩
  choices := [0, 0, 0, 0, 0]
  hasPlainYear := by decide
  length_choices := rfl

/-- The names of both are labels, and they differ although one starts with the other. -/
theorem names_tell_parts_nested :
    lateParts.name = "fluent-test-09991231-a9ab0" ∧ IsLabel lateParts.name ∧
      nestedParts.name = "fluent-test-09991231-a9ab0-19700101-aaaaa" ∧
      IsLabel nestedParts.name ∧ nestedParts.name ≠ lateParts.name := by
  obtain ⟨labels, parts, checks⟩ := names_tell_parts
  refine ⟨rfl, (checks .logShipper .logShipper lateParts lateParts rfl rfl).1, rfl,
    labels nestedParts (by decide) (by decide), ?_⟩
  rw [ne_eq, parts]
  decide

end Workspace

end AddonCheck
