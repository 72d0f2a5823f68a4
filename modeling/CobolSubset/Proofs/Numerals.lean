import CobolSubset.Proofs.Embedding
import CobolSubset.Proofs.Refusal

/-!
# Numbers in generated code

The number of a `MOVE` is taken over into the code as it is written, digit for digit. Whether it
stays the same number depends on how the language of the code reads it. `decimalValue` is the number
that is meant, `Java.readNumber?` and `Rust.readNumber?` find the number that the code is read to
hold, if it is read at all. A fraction is taken before it is rounded to what the machine can hold.

Rust reads all digits as decimal ones, and an integer has to stay below 2^128. Java is different. An
integer with a zero before its other digits is octal: it is refused if it has a digit that octal
numbers lack or does not fit into 32 bits, and the first of the bits is a sign. Any other integer has
to stay below 2^31, and a fraction may be rounded neither to infinity nor, unless it is zero, to
zero. `Java.Kept` and `Java.Refused` say what this means for the numerals of a source:
`RuleSet.move_numbers` has it for every `MOVE`, and `RuleSet.move_octal` is one whose number Java
code gets wrong.
-/

namespace CobolSubset

/-! ### Digits -/

def digitValue (c : Char) : Nat := c.toNat - '0'.toNat

/-- The number that digits stand for in a base, the last one being worth itself. -/
def digitsValue (base : Nat) (digits : Text) : Nat :=
  Nat.ofDigits base (digits.map digitValue).reverse

/-- Digits in front are worth more by a power of the base. -/
theorem digitsValue_append (base : Nat) (front back : Text) :
    digitsValue base (front ++ back) =
      digitsValue base front * base ^ back.length + digitsValue base back := by
  rw [digitsValue, List.map_append, List.reverse_append, Nat.ofDigits_append, List.length_reverse,
    List.length_map]
  simp only [digitsValue]
  ring

/-- In a smaller base the same digits are worth less or the same. -/
theorem digitsValue_le {base base' : Nat} (h : base ≤ base') (digits : Text) :
    digitsValue base digits ≤ digitsValue base' digits :=
  Nat.ofDigits_monotone _ h

theorem digitsValue_singleton (base : Nat) (c : Char) : digitsValue base [c] = digitValue c := by
  simp [digitsValue]

/-- No digit stands for more than all of them do. -/
theorem digitValue_le_of_mem {base : Nat} (hbase : 0 < base) {digits : Text} {c : Char}
    (h : c ∈ digits) : digitValue c ≤ digitsValue base digits := by
  obtain ⟨front, back, rfl⟩ := List.append_of_mem h
  have hscale : 0 < base ^ back.length := Nat.pow_pos hbase
  calc digitValue c
      ≤ digitsValue base front * base ^ [c].length + digitsValue base [c] := by
        rw [digitsValue_singleton]
        exact Nat.le_add_left _ _
    _ = digitsValue base (front ++ [c]) := (digitsValue_append _ _ _).symm
    _ ≤ digitsValue base (front ++ [c]) * base ^ back.length := Nat.le_mul_of_pos_right _ hscale
    _ ≤ digitsValue base (front ++ [c] ++ back) := by
        rw [digitsValue_append base (front ++ [c])]
        exact Nat.le_add_right _ _
    _ = digitsValue base (front ++ c :: back) := by rw [List.append_assoc, List.singleton_append]

/-- Read as octal, digits stand for another number unless only the last of them counts. -/
theorem octal_eq_decimal_iff {digits : Text} (h : ∀ c ∈ digits, digitValue c < 8) :
    digitsValue 8 digits = digitsValue 10 digits ↔ digitsValue 10 digits < 8 := by
  rcases List.eq_nil_or_concat digits with rfl | ⟨front, last, rfl⟩
  · simp [digitsValue]
  · have hlast : digitValue last < 8 := h last (by simp)
    have hfront : digitsValue 8 front ≤ digitsValue 10 front := digitsValue_le (by decide) front
    -- The last digit is worth the same in both bases; the others differ unless they are all zero.
    rw [List.concat_eq_append, digitsValue_append, digitsValue_append]
    simp only [digitsValue_singleton, List.length_singleton, pow_one]
    omega

/-! ### Numerals -/

namespace Text

variable {p : Char → Bool}

theorem cutAt_of_not {text : Text} (h : ∀ c ∈ text, p c = false) : cutAt p text = (text, none) := by
  induction text with
  | nil => rfl
  | cons c text ih =>
      rw [List.forall_mem_cons] at h
      simp [cutAt, h.1, ih h.2]

theorem cutAt_append_cons {front back : Text} {c : Char} (h : ∀ d ∈ front, p d = false)
    (hc : p c = true) : cutAt p (front ++ c :: back) = (front, some back) := by
  induction front with
  | nil => simp [cutAt, hc]
  | cons d front ih =>
      rw [List.forall_mem_cons] at h
      simp [cutAt, h.1, ih h.2]

end Text

/-- The number that a numeral stands for: its digits in decimal, with as many of them behind the
point as there are. -/
def decimalValue (numeral : Text) : ℚ :=
  match numeral.cutAt (· == '.') with
  | (whole, none) => digitsValue 10 whole
  | (whole, some places) => digitsValue 10 (whole ++ places) / 10 ^ places.length

/-- How a language reads numbers: what the digits of an integer stand for, if they are one, and
which fractions there are. -/
structure NumberRules where
  integer? : Text → Option Int
  hasFraction : ℚ → Bool

/-- What a number in code stands for. A fraction is what stands before its point and, in decimal
places, what stands behind it; it is not rounded. -/
def numberValue? (rules : NumberRules) (number : Text) : Option ℚ :=
  match number.cutAt (· == '.') with
  | (whole, none) => if whole = [] then none else (rules.integer? whole).map Int.cast
  | (whole, some places) =>
    if whole = [] ∨ places = [] ∨ '.' ∈ places then none
    else
      let value : ℚ := digitsValue 10 whole + digitsValue 10 places / 10 ^ places.length
      if rules.hasFraction value then some value else none

/-- The characters that a number in code is made of. -/
def isNumberPart (c : Char) : Bool := c.isDigit || c == '.'

/-- Finds the number at the start of a text: what it stands for, and what follows it. Numbers that go
on with a letter or low line, as those with an exponent or a mark of their type, are not read. -/
def readNumberWith? (rules : NumberRules) (text : Text) : Option (ℚ × Text) :=
  let rest := text.dropWhile isNumberPart
  if Text.stops isWordChar rest then
    (numberValue? rules (text.takeWhile isNumberPart)).map fun number => (number, rest)
  else none

section Reading

variable {rules : NumberRules} {digits decimals value : Text}

theorem point_not_mem (h : digits.all Char.isDigit = true) : '.' ∉ digits := by
  intro hmem
  have hdigit : Char.isDigit '.' = true := List.all_eq_true.1 h '.' hmem
  cases hdigit

theorem ne_point_of_digits (h : digits.all Char.isDigit = true) :
    ∀ c ∈ digits, (c == '.') = false := by
  intro c hc
  rw [beq_eq_false_iff_ne]
  rintro rfl
  exact point_not_mem h hc

theorem decimalValue_integer (h : digits.all Char.isDigit = true) :
    decimalValue digits = digitsValue 10 digits := by
  rw [decimalValue, Text.cutAt_of_not (ne_point_of_digits h)]

/-- An integer is read as the language does, and stands for its digits in decimal. -/
theorem numberValue?_integer (h : IsNumeral value) (hpoint : '.' ∉ value) :
    numberValue? rules value = (rules.integer? value).map Int.cast ∧
      decimalValue value = digitsValue 10 value := by
  cases h with
  | integer hne hall =>
      refine ⟨?_, decimalValue_integer hall⟩
      rw [numberValue?, Text.cutAt_of_not (ne_point_of_digits hall)]
      exact if_neg hne
  | decimal => exact absurd (by simp) hpoint

/-- A fraction is read the same way in every language that has it. -/
theorem numberValue?_fraction (h : IsNumeral value) (hpoint : '.' ∈ value) :
    numberValue? rules value =
      if rules.hasFraction (decimalValue value) then some (decimalValue value) else none := by
  cases h with
  | integer _ hall => exact absurd hpoint (point_not_mem hall)
  | @decimal digits decimals hne hall hdecimals hplaces =>
      have hscale : (10 : ℚ) ^ decimals.length ≠ 0 := by positivity
      have hvalue : (digitsValue 10 digits + digitsValue 10 decimals / 10 ^ decimals.length : ℚ) =
          decimalValue (digits ++ '.' :: decimals) := by
        rw [decimalValue, Text.cutAt_append_cons (ne_point_of_digits hall) rfl]
        simp only [digitsValue_append]
        push_cast
        rw [add_div, mul_div_cancel_right₀ _ hscale]
      rw [← hvalue, numberValue?, Text.cutAt_append_cons (ne_point_of_digits hall) rfl]
      simp only [hne, hdecimals, point_not_mem hplaces, or_self, if_false]

/-- Behind the number of an assignment stands a semicolon, so just this number is read. -/
theorem readNumberWith?_numeral (rules : NumberRules) (h : IsNumeral value) (rest : Text) :
    readNumberWith? rules (value ++ ';' :: rest) =
      (numberValue? rules value).map fun number => (number, ';' :: rest) := by
  have hparts : ∀ c ∈ value, isNumberPart c = true := by
    intro c hc
    by_contra hpart
    simp only [isNumberPart, Bool.or_eq_true, beq_iff_eq, not_or, Bool.not_eq_true] at hpart
    exact h.not_mem hpart.1 hpart.2 hc
  have hstops : Text.stops isNumberPart (';' :: rest) = true := by simp [isNumberPart]
  have hword : Text.stops isWordChar (';' :: rest) = true := by
    rw [Text.stops_cons]
    decide
  simp only [readNumberWith?, Text.takeWhile_append_of_stops hparts hstops,
    Text.dropWhile_append_of_stops hparts hstops, hword, if_true]

end Reading

/-! ### Java -/

namespace Java

def isOctalDigit (c : Char) : Bool := digitValue c < 8

/-- The numerals that Java takes to be octal: integers with a zero before their other digits. -/
def IsOctal (numeral : Text) : Prop :=
  '.' ∉ numeral ∧ numeral.head? = some '0' ∧ numeral ≠ ['0']

/-- The integer that 32 bits stand for, the first of them being the sign. -/
def signed (bits : Nat) : Int := if bits < 2 ^ 31 then bits else bits - 2 ^ 32

/-- What the digits of an integer stand for in Java, if they are an integer there. -/
def integerValue? (digits : Text) : Option Int :=
  if digits.head? = some '0' ∧ digits ≠ ['0'] then
    if digits.all isOctalDigit ∧ digitsValue 8 digits < 2 ^ 32 then
      some (signed (digitsValue 8 digits))
    else none
  else if digitsValue 10 digits < 2 ^ 31 then some (digitsValue 10 digits)
  else none

/-- The fractions that are rounded to a number, and to zero only if they are zero. From half a step
above the greatest number on, and up to half of the least one, they are not. -/
def IsDouble (value : ℚ) : Prop :=
  value = 0 ∨ 1 / 2 ^ 1075 < value ∧ value < 2 ^ 1024 - 2 ^ 970

instance : DecidablePred IsDouble := fun value =>
  inferInstanceAs (Decidable (value = 0 ∨ 1 / 2 ^ 1075 < value ∧ value < 2 ^ 1024 - 2 ^ 970))

def numberRules : NumberRules where
  integer? := integerValue?
  hasFraction value := decide (IsDouble value)

def readNumber? (text : Text) : Option (ℚ × Text) := readNumberWith? numberRules text

/-- The numerals that Java reads as the number they stand for. -/
inductive Kept (value : Text) : Prop
  | fraction : '.' ∈ value → IsDouble (decimalValue value) → Kept value
  | decimal : '.' ∉ value → ¬ IsOctal value → decimalValue value < 2 ^ 31 → Kept value
  | octal : IsOctal value → decimalValue value < 8 → Kept value

/-- The numerals that Java does not read at all. -/
inductive Refused (value : Text) : Prop
  | fraction : '.' ∈ value → ¬ IsDouble (decimalValue value) → Refused value
  | decimal : '.' ∉ value → ¬ IsOctal value → 2 ^ 31 ≤ decimalValue value → Refused value
  | digit : IsOctal value → value.all isOctalDigit = false → Refused value
  | octal : IsOctal value → 2 ^ 32 ≤ digitsValue 8 value → Refused value

section

variable {value : Text}

theorem all_isOctalDigit_iff : value.all isOctalDigit = true ↔ ∀ c ∈ value, digitValue c < 8 := by
  simp [isOctalDigit]

/-- A pattern of bits is its own number as long as the first of them is not set. -/
theorem signed_eq_iff {bits n : Nat} (h : bits < 2 ^ 32) :
    signed bits = n ↔ bits = n ∧ bits < 2 ^ 31 := by
  unfold signed
  split <;> omega

theorem signed_le (bits : Nat) : signed bits ≤ bits := by
  unfold signed
  split <;> omega

/-- A fraction is always read in decimal, and only its size can be wrong. -/
theorem numberValue?_of_fraction (h : IsNumeral value) (hpoint : '.' ∈ value) :
    numberValue? numberRules value =
      if IsDouble (decimalValue value) then some (decimalValue value) else none := by
  rw [numberValue?_fraction h hpoint]
  simp [numberRules]

/-- An integer that is not octal is read as the number that it stands for, if that is not too great.
-/
theorem numberValue?_of_decimal (h : IsNumeral value) (hpoint : '.' ∉ value)
    (hoctal : ¬ IsOctal value) :
    numberValue? numberRules value =
      if decimalValue value < 2 ^ 31 then some (decimalValue value) else none := by
  obtain ⟨hread, hvalue⟩ := @numberValue?_integer numberRules value h hpoint
  have hinteger : integerValue? value =
      if digitsValue 10 value < 2 ^ 31 then some (digitsValue 10 value : Int) else none :=
    if_neg fun hzero => hoctal ⟨hpoint, hzero⟩
  have hbound : decimalValue value < 2 ^ 31 ↔ digitsValue 10 value < 2 ^ 31 := by
    rw [hvalue]
    norm_cast
  rw [hread]
  show (integerValue? value).map Int.cast = _
  rw [hinteger]
  by_cases hless : digitsValue 10 value < 2 ^ 31
  · rw [if_pos hless, if_pos (hbound.2 hless), hvalue]
    simp
  · rw [if_neg hless, if_neg (mt hbound.1 hless)]
    rfl

/-- An octal integer is read by its digits, in base eight, if they and 32 bits allow it. -/
theorem numberValue?_of_isOctal (h : IsNumeral value) (hoctal : IsOctal value) :
    numberValue? numberRules value =
      if value.all isOctalDigit ∧ digitsValue 8 value < 2 ^ 32 then
        some (signed (digitsValue 8 value) : ℚ)
      else none := by
  obtain ⟨hread, -⟩ := @numberValue?_integer numberRules value h hoctal.1
  have hinteger : integerValue? value =
      if value.all isOctalDigit ∧ digitsValue 8 value < 2 ^ 32 then
        some (signed (digitsValue 8 value))
      else none := if_pos hoctal.2
  rw [hread]
  show (integerValue? value).map Int.cast = _
  rw [hinteger]
  split <;> rfl

/-- Of the octal integers Java keeps those with one digit that counts. -/
theorem numberValue?_octal_eq_iff (h : IsNumeral value) (hoctal : IsOctal value) :
    numberValue? numberRules value = some (decimalValue value) ↔ decimalValue value < 8 := by
  obtain ⟨-, hvalue⟩ := @numberValue?_integer numberRules value h hoctal.1
  have hbound : decimalValue value < 8 ↔ digitsValue 10 value < 8 := by
    rw [hvalue]
    norm_cast
  rw [numberValue?_of_isOctal h hoctal, hbound, hvalue]
  constructor
  · intro hread
    split at hread
    · next hfits =>
        have hsigned : signed (digitsValue 8 value) = digitsValue 10 value := by
          exact_mod_cast Option.some.inj hread
        have heq := ((signed_eq_iff hfits.2).1 hsigned).1
        exact (octal_eq_decimal_iff (all_isOctalDigit_iff.1 hfits.1)).1 heq
    · cases hread
  · intro hless
    -- A digit that octal numbers lack would alone make the number too great.
    have hdigits : ∀ c ∈ value, digitValue c < 8 := fun c hc =>
      (digitValue_le_of_mem (by decide) hc).trans_lt hless
    have heq := (octal_eq_decimal_iff hdigits).2 hless
    have hsigned : signed (digitsValue 8 value) = digitsValue 10 value :=
      (signed_eq_iff (by omega)).2 ⟨heq, by omega⟩
    rw [if_pos ⟨all_isOctalDigit_iff.2 hdigits, by omega⟩, hsigned]
    rfl

/-- **The numbers that Java keeps.** -/
theorem numberValue?_eq_iff (h : IsNumeral value) :
    numberValue? numberRules value = some (decimalValue value) ↔ Kept value := by
  constructor
  · intro hread
    by_cases hpoint : '.' ∈ value
    · rw [numberValue?_of_fraction h hpoint] at hread
      split at hread
      · next hdouble => exact .fraction hpoint hdouble
      · cases hread
    · by_cases hoctal : IsOctal value
      · exact .octal hoctal ((numberValue?_octal_eq_iff h hoctal).1 hread)
      · rw [numberValue?_of_decimal h hpoint hoctal] at hread
        split at hread
        · next hless => exact .decimal hpoint hoctal hless
        · cases hread
  · intro hkept
    cases hkept with
    | fraction hpoint hdouble => rw [numberValue?_of_fraction h hpoint, if_pos hdouble]
    | decimal hpoint hoctal hless => rw [numberValue?_of_decimal h hpoint hoctal, if_pos hless]
    | octal hoctal hless => exact (numberValue?_octal_eq_iff h hoctal).2 hless

/-- **The numbers that Java refuses.** -/
theorem numberValue?_eq_none_iff (h : IsNumeral value) :
    numberValue? numberRules value = none ↔ Refused value := by
  constructor
  · intro hread
    by_cases hpoint : '.' ∈ value
    · rw [numberValue?_of_fraction h hpoint] at hread
      split at hread
      · cases hread
      · next hdouble => exact .fraction hpoint hdouble
    · by_cases hoctal : IsOctal value
      · rw [numberValue?_of_isOctal h hoctal] at hread
        split at hread
        · cases hread
        · next hfits =>
            rcases not_and_or.1 hfits with hdigits | hgreat
            · exact .digit hoctal (by simpa using hdigits)
            · exact .octal hoctal (not_lt.1 hgreat)
      · rw [numberValue?_of_decimal h hpoint hoctal] at hread
        split at hread
        · cases hread
        · next hgreat => exact .decimal hpoint hoctal (not_lt.1 hgreat)
  · intro hrefused
    cases hrefused with
    | fraction hpoint hdouble => rw [numberValue?_of_fraction h hpoint, if_neg hdouble]
    | decimal hpoint hoctal hgreat =>
        rw [numberValue?_of_decimal h hpoint hoctal, if_neg (not_lt.2 hgreat)]
    | digit hoctal hdigits =>
        rw [numberValue?_of_isOctal h hoctal, if_neg]
        simp [hdigits]
    | octal hoctal hgreat =>
        rw [numberValue?_of_isOctal h hoctal, if_neg fun hfits => not_lt.2 hgreat hfits.2]

/-- What Java makes of a numeral is never more than what it stands for. -/
theorem numberValue?_le (h : IsNumeral value) {number : ℚ}
    (hread : numberValue? numberRules value = some number) : number ≤ decimalValue value := by
  by_cases hpoint : '.' ∈ value
  · rw [numberValue?_of_fraction h hpoint] at hread
    split at hread
    · exact (Option.some.inj hread).ge
    · cases hread
  · by_cases hoctal : IsOctal value
    · rw [numberValue?_of_isOctal h hoctal] at hread
      split at hread
      · cases hread
        rw [(@numberValue?_integer numberRules value h hpoint).2]
        have hbases : digitsValue 8 value ≤ digitsValue 10 value := digitsValue_le (by decide) value
        have hsigned := signed_le (digitsValue 8 value)
        have hle : signed (digitsValue 8 value) ≤ digitsValue 10 value := by omega
        exact_mod_cast hle
      · cases hread
    · rw [numberValue?_of_decimal h hpoint hoctal] at hread
      split at hread
      · exact (Option.some.inj hread).ge
      · cases hread

theorem readNumber?_eq_iff (h : IsNumeral value) (rest : Text) :
    readNumber? (value ++ ';' :: rest) = some (decimalValue value, ';' :: rest) ↔ Kept value := by
  rw [readNumber?, readNumberWith?_numeral _ h, ← numberValue?_eq_iff h]
  simp

theorem readNumber?_eq_none_iff (h : IsNumeral value) (rest : Text) :
    readNumber? (value ++ ';' :: rest) = none ↔ Refused value := by
  rw [readNumber?, readNumberWith?_numeral _ h, Option.map_eq_none_iff, numberValue?_eq_none_iff h]

theorem readNumber?_of_isOctal (h : IsNumeral value) (hoctal : IsOctal value)
    (hrefused : ¬ Refused value) (rest : Text) :
    readNumber? (value ++ ';' :: rest) =
      some ((signed (digitsValue 8 value) : ℚ), ';' :: rest) := by
  have hdigits : value.all isOctalDigit = true := by
    by_contra hdigits
    exact hrefused (.digit hoctal (by simpa using hdigits))
  have hfits : digitsValue 8 value < 2 ^ 32 := by
    by_contra hgreat
    exact hrefused (.octal hoctal (not_lt.1 hgreat))
  rw [readNumber?, readNumberWith?_numeral _ h, numberValue?_of_isOctal h hoctal,
    if_pos ⟨hdigits, hfits⟩]
  rfl

theorem readNumber?_le (h : IsNumeral value) {rest rest' : Text} {number : ℚ}
    (hread : readNumber? (value ++ ';' :: rest) = some (number, rest')) :
    number ≤ decimalValue value := by
  rw [readNumber?, readNumberWith?_numeral _ h] at hread
  obtain ⟨_, hvalue, hpair⟩ := Option.map_eq_some_iff.1 hread
  cases hpair
  exact numberValue?_le h hvalue

end

end Java

/-! ### Rust -/

namespace Rust

/-- What the digits of an integer stand for in Rust, where zeros before them are nothing special. The
types of integers have at most 128 bits. -/
def integerValue? (digits : Text) : Option Int :=
  if digitsValue 10 digits < 2 ^ 128 then some (digitsValue 10 digits) else none

/-- Every fraction is taken, and rounded as the type of the variable wants it. -/
def numberRules : NumberRules where
  integer? := integerValue?
  hasFraction _ := true

def readNumber? (text : Text) : Option (ℚ × Text) := readNumberWith? numberRules text

/-- Rust keeps all numbers but the integers that no type has room for, and refuses these. -/
theorem numberValue?_eq {value : Text} (h : IsNumeral value) :
    numberValue? numberRules value =
      if '.' ∈ value ∨ decimalValue value < 2 ^ 128 then some (decimalValue value) else none := by
  by_cases hpoint : '.' ∈ value
  · rw [numberValue?_fraction h hpoint]
    simp [numberRules, hpoint]
  · obtain ⟨hread, hvalue⟩ := @numberValue?_integer numberRules value h hpoint
    have hbound : decimalValue value < 2 ^ 128 ↔ digitsValue 10 value < 2 ^ 128 := by
      rw [hvalue]
      norm_cast
    rw [hread]
    show (integerValue? value).map Int.cast = _
    simp only [integerValue?, hpoint, false_or, hbound]
    split
    · rw [hvalue]
      simp
    · rfl

/-- Rust reads every number in decimal, and refuses only integers that are too large. -/
theorem readNumber?_eq {value : Text} (h : IsNumeral value) (rest : Text) :
    readNumber? (value ++ ';' :: rest) =
      if '.' ∈ value ∨ decimalValue value < 2 ^ 128 then some (decimalValue value, ';' :: rest)
      else none := by
  rw [readNumber?, readNumberWith?_numeral _ h, numberValue?_eq h]
  split <;> rfl

/-! A file is cut at a statement. Its first lines depend on all statements, since one that uses the
database needs a line there. -/

def linesText (lines : List Text) : Text := lines.flatMap (· ++ ['\n'])

def Program.openingLines (program : Program) : List Text :=
  (if program.header then ["//! Transpiled from COBOL by transcob".toList] else [])
    ++ (if program.usesDatabase then ["use mysql::prelude::Queryable;".toList] else [])
    ++ ["fn main() -> Result<(), Box<dyn std::error::Error>> \x7b".toList]

def closingLines : List Text := [indented 1 "Ok(())".toList, "\x7d".toList]

/-- The text of a file, with the lines of its statements in the middle. -/
theorem Program.text_eq (program : Program) :
    program.text = linesText program.openingLines ++
      linesText (program.statements.flatMap Statement.lines) ++ linesText closingLines := by
  simp only [linesText, ← List.flatMap_append]
  rfl

theorem map_ofNode_children {options : Options} {root : Node} {program : Program}
    (h : Program.ofNode options root = .ok program) :
    root.children.map (Statement.ofNode options) = program.statements.map .ok := by
  obtain ⟨nodes, hnodes, h⟩ := bind_eq_ok_iff.1 h
  obtain ⟨statements, hstatements, hprogram⟩ := bind_eq_ok_iff.1 h
  rw [Node.eq_children_of_statements hnodes] at hstatements
  rw [← Except.ok.inj hprogram]
  exact mapM_eq_ok_iff.1 hstatements

/-- The code of a program is its first lines, the lines of the statements before one of them, the
lines of that one, and those of the statements behind it. -/
theorem exists_first_last {options : Options} {root child : Node} {before after : List Node}
    {code : Text} (h : generate options root = .ok code)
    (hchildren : root.children = before ++ child :: after) :
    ∃ program first statement last, Program.ofNode options root = .ok program ∧
      before.mapM (Statement.ofNode options) = .ok first ∧
      Statement.ofNode options child = .ok statement ∧
      after.mapM (Statement.ofNode options) = .ok last ∧
      code = linesText (program.openingLines ++ first.flatMap Statement.lines) ++
        linesText statement.lines ++ linesText (last.flatMap Statement.lines ++ closingLines) := by
  rw [generate_eq_map] at h
  obtain ⟨program, hprogram, rfl⟩ := map_eq_ok_iff.1 h
  have hread := map_ofNode_children hprogram
  rw [hchildren] at hread
  obtain ⟨first, statement, last, hsplit, hfirst, hstatement, hlast⟩ :=
    exists_of_map_append_cons hread
  refine ⟨program, first, statement, last, hprogram, mapM_eq_ok_iff.2 hfirst, hstatement,
    mapM_eq_ok_iff.2 hlast, ?_⟩
  rw [Program.text_eq, hsplit]
  simp only [linesText, List.flatMap_append, List.flatMap_cons, List.append_assoc]

/-- There is Rust code for every `MOVE` of a source, with its number as it is written. -/
theorem ofStatement_move (options : Options) {value name : Text} (hvalue : IsNumeral value)
    (hname : IsName name) :
    ∃ variableName, identifier name = .ok variableName ∧
      Statement.ofStatement options (.move value name) = .ok (.assign variableName ⟨false, value⟩) := by
  obtain ⟨variableName, hvariable⟩ := exists_identifier_iff.2 (nameable_of_isName hname)
  refine ⟨variableName, hvariable, ?_⟩
  rw [Statement.ofStatement, ofText?_of_isNumeral hvalue]
  exact bind_eq_ok_iff.2 ⟨_, hvariable, rfl⟩

end Rust

/-! ### Every number of a source -/

namespace RuleSet

/-- The children of a tree that was read are statements with well spelled operands. -/
theorem exists_move_of_parse {source : Text} {node child : Node}
    (h : standard.parse source = .ok node) (hchild : child ∈ node.children)
    (hkind : child.kind = .moveStatement) :
    ∃ value name, child = (Statement.move value name).toNode ∧ IsNumeral value ∧ IsName name := by
  obtain ⟨statements, rfl, hspelled⟩ := exists_spelled_of_parse h
  obtain ⟨statement, hstatement, rfl⟩ := List.mem_map.1 hchild
  cases statement with
  | move value name => exact ⟨value, name, rfl, hspelled _ hstatement⟩
  | display | stopRun | call | execSql => cases hkind

/-- **The numbers of a source**: there is Java code for every `MOVE`. It is read as the number that
the `MOVE` has if Java keeps that number, which is not so for the octal ones from eight on; it is not
read at all if Java refuses the number; and it never holds a greater one. Rust code keeps every
number but the integers from 2^128 on, and these are refused. -/
theorem move_numbers {source : Text} {node child : Node} {before after : List Node}
    (h : standard.parse source = .ok node) (hchildren : node.children = before ++ child :: after)
    (hkind : child.kind = .moveStatement) (options : Options) (symbols : SymbolTable) :
    ∃ value name, child = Node.move value name ∧
      (∃ front back shown,
        Java.generate options symbols { node with children := before } =
          .ok (front ++ Java.closing) ∧
        Java.generate options symbols { node with children := after } =
          .ok (Java.preamble options.className ++ back) ∧
        Java.generate options symbols node =
          .ok (front ++ Java.indent ++ name ++ " = ".toList ++ shown) ∧
        (Java.readNumber? shown = some (decimalValue value,
            ';' :: (Java.typeRemark symbols name ++ '\n' :: back)) ↔ Java.Kept value) ∧
        (Java.readNumber? shown = none ↔ Java.Refused value) ∧
        (Java.IsOctal value → ¬ Java.Refused value →
          Java.readNumber? shown = some ((Java.signed (digitsValue 8 value) : ℚ),
            ';' :: (Java.typeRemark symbols name ++ '\n' :: back))) ∧
        ∀ number rest, Java.readNumber? shown = some (number, rest) →
          number ≤ decimalValue value) ∧
      ∃ variableName, Rust.identifier name = .ok variableName ∧
        Rust.Statement.ofNode options child = .ok (.assign variableName ⟨false, value⟩) ∧
        ∀ code, Rust.generate options node = .ok code →
          ∃ program first last shown, Rust.Program.ofNode options node = .ok program ∧
            before.mapM (Rust.Statement.ofNode options) = .ok first ∧
            after.mapM (Rust.Statement.ofNode options) = .ok last ∧
            code = Rust.linesText (program.openingLines ++ first.flatMap Rust.Statement.lines) ++
              Rust.indented 1 (variableName ++ " = ".toList) ++ shown ∧
            Rust.readNumber? shown =
              if '.' ∈ value ∨ decimalValue value < 2 ^ 128 then
                some (decimalValue value, ';' :: '\n' ::
                  Rust.linesText (last.flatMap Rust.Statement.lines ++ Rust.closingLines))
              else none := by
  obtain ⟨value, name, rfl, hvalue, hname⟩ :=
    exists_move_of_parse h (by rw [hchildren]; simp) hkind
  refine ⟨value, name, rfl, ?_, ?_⟩
  · obtain ⟨code, hcode⟩ : ∃ code, Java.generate options symbols node = .ok code := by
      obtain ⟨statements, rfl, -⟩ := exists_spelled_of_parse h
      exact ⟨_, Java.generate_ofStatements options symbols statements⟩
    obtain ⟨front, statement, back, hstatement, hfront, hback, rfl⟩ :=
      Java.exists_front_back hcode hchildren
    rw [Statement.ofNode_toNode] at hstatement
    obtain rfl := Except.ok.inj hstatement
    refine ⟨front, back, value ++ ';' :: (Java.typeRemark symbols name ++ '\n' :: back), hfront, hback,
      ?_, Java.readNumber?_eq_iff hvalue _, Java.readNumber?_eq_none_iff hvalue _,
      fun hoctal hrefused => Java.readNumber?_of_isOctal hvalue hoctal hrefused _,
      fun _ _ hread => Java.readNumber?_le hvalue hread⟩
    rw [hcode]
    simp [Java.statementText, Java.bodyLine]
  · obtain ⟨variableName, hvariable, hassign⟩ := Rust.ofStatement_move options hvalue hname
    have hstatement := (Rust.ofNode_toNode options (.move value name)).trans hassign
    refine ⟨variableName, hvariable, hstatement, ?_⟩
    -- Other statements may still be refused, so Rust code is only there to be read if none is.
    intro code hcode
    obtain ⟨program, first, statement, last, hprogram, hfirst, hfound, hlast, rfl⟩ :=
      Rust.exists_first_last hcode hchildren
    obtain rfl := Except.ok.inj (hstatement.symm.trans hfound)
    refine ⟨program, first, last, _, hprogram, hfirst, hlast, ?_, Rust.readNumber?_eq hvalue _⟩
    simp [Rust.Statement.lines, Rust.linesText, Rust.Literal.inline, Rust.indented]

/-- The zero before a fraction changes nothing. -/
theorem move_numbers_fraction :
    ∃ source node front shown rest, standard.parse source = .ok node ∧
      node.children = [Node.move "010".toList "A".toList, Node.move "010.50".toList "B".toList] ∧
      Java.generate {} {} node = .ok (front ++ shown) ∧
      Java.readNumber? shown = some (21 / 2, rest) := by
  have hparse : standard.parse "MOVE 010 TO A. MOVE 010.50 TO B.".toList =
      .ok (.ofStatements [.move "010".toList "A".toList, .move "010.50".toList "B".toList]) := by
    rw [standard_eq_spelled, String.toList_ofList]
    decide +kernel
  have hchildren : (Node.ofStatements [.move "010".toList "A".toList,
      .move "010.50".toList "B".toList]).children =
        [Node.move "010".toList "A".toList] ++ Node.move "010.50".toList "B".toList :: [] := rfl
  obtain ⟨value, name, hchild, ⟨front, back, shown, -, -, hcode, hread, -⟩, -⟩ :=
    move_numbers hparse hchildren rfl {} {}
  obtain ⟨rfl, rfl⟩ := Statement.move.inj (Statement.toNode_injective hchild)
  have hnumber : decimalValue "010.50".toList = 21 / 2 := by decide +kernel
  rw [hnumber] at hread
  have hdouble : Java.IsDouble (21 / 2) := by decide +kernel
  exact ⟨_, _, _, shown, _, hparse, hchildren, hcode,
    hread.2 (.fraction (by decide) (hnumber ▸ hdouble))⟩

/-- Java code for a `MOVE` of ten assigns eight. -/
theorem move_octal :
    ∃ source node code front shown rest, standard.parse source = .ok node ∧
      node.children = [Node.move "010".toList "A".toList] ∧ decimalValue "010".toList = 10 ∧
      standard.convert {} {} source = .ok code ∧ code = front ++ "A = ".toList ++ shown ∧
      Java.readNumber? shown = some (8, rest) := by
  have hparse : standard.parse "MOVE 010 TO A.".toList =
      .ok (.ofStatements [.move "010".toList "A".toList]) := by
    rw [standard_eq_spelled, String.toList_ofList]
    decide +kernel
  have hcode : standard.convert {} {} "MOVE 010 TO A.".toList =
      .ok (Java.classText {} {} [.move "010".toList "A".toList]) := by
    rw [convert_of_parse hparse]
    exact congrArg _ (Java.generate_ofStatements {} {} _)
  have hvalue : IsNumeral "010".toList := .integer (by decide) (by decide)
  have hoctal : Java.IsOctal "010".toList := ⟨by decide, by decide, by decide⟩
  have hten : digitsValue 10 "010".toList = 10 := by decide
  have height : digitsValue 8 "010".toList = 8 := by decide
  refine ⟨_, _, _, Java.preamble "Program".toList ++ Java.indent,
    "010".toList ++ ';' :: '\n' :: Java.closing, ';' :: '\n' :: Java.closing, hparse, rfl, ?_, hcode,
    rfl, ?_⟩
  · rw [decimalValue_integer (by decide), hten]
    rfl
  · rw [Java.readNumber?, readNumberWith?_numeral _ hvalue, Java.numberValue?_of_isOctal hvalue hoctal,
      if_pos ⟨by decide, by decide⟩, height]
    rfl

end RuleSet

end CobolSubset
