import FormulaScan.Decimal

/-!
# Signed decimal numerals

Texts of the form `-?[0-9]*(.[0-9]*)?` with at least one digit, and the numbers they write. The
main statement, `readMagnitude?_positional`, says that the positional text of a decimal is read
back as it was.
-/

namespace FormulaScan

/-- Cuts one leading minus sign off a text; the first part tells whether there was one. -/
def splitSign : List Char → Bool × List Char
  | '-' :: rest => (true, rest)
  | text => (false, text)

/-- The number that a row of ASCII digits writes in base ten. -/
def digitsValue (digits : List Char) : Nat := Nat.ofDigitChars 10 digits 0

/-- The text of a whole number in base ten. -/
def wholeText (n : Int) : List Char :=
  (if n < 0 then ['-'] else []) ++ Nat.toDigits 10 n.natAbs

/-- A text that does not begin with a minus sign has no sign. -/
theorem splitSign_eq_self {text : List Char} (unsigned : text.head? ≠ some '-') :
    splitSign text = (false, text) := by
  cases text with
  | nil => rfl
  | cons c rest =>
    have first : c ≠ '-' := by simpa using unsigned
    simp [splitSign, first]

/-- The sign and the digits of the text of a whole number. -/
theorem splitSign_wholeText (n : Int) :
    splitSign (wholeText n) = (decide (n < 0), Nat.toDigits 10 n.natAbs) := by
  by_cases negative : n < 0
  · simp [wholeText, negative, splitSign]
  · simp only [wholeText, negative, if_false, List.nil_append, decide_false]
    apply splitSign_eq_self
    intro first
    have digit : ('-' : Char).isDigit = true :=
      Nat.isDigit_of_mem_toDigits (by decide) (by decide) (List.mem_of_mem_head? first)
    exact absurd digit (by decide)

/-- A decimal with a sign; a negative zero is a numeral of its own. -/
structure Numeral where
  negative : Bool
  magnitude : Decimal
  deriving DecidableEq, Repr

namespace Numeral

/-- Reads digits with an optional point among, before or after them. -/
def readMagnitude? (text : List Char) : Option Decimal :=
  let whole := text.takeWhile Char.isDigit
  match text.dropWhile Char.isDigit with
  | [] => if whole.isEmpty then none else some ⟨digitsValue whole, 0⟩
  | point :: fraction =>
    if point = '.' ∧ fraction.all Char.isDigit ∧ ¬ (whole ++ fraction).isEmpty then
      some ⟨digitsValue (whole ++ fraction), fraction.length⟩
    else none

/-- Reads an optional minus sign and a magnitude. -/
def read? (text : List Char) : Option Numeral :=
  (readMagnitude? (splitSign text).2).map fun magnitude => ⟨(splitSign text).1, magnitude⟩

/-- The digits of a padded number are read back as the number. -/
theorem digitsValue_padded (width n : Nat) : digitsValue (Decimal.padded width n) = n := by
  simp [digitsValue, Decimal.padded, Nat.ofDigitChars_append, Nat.ofDigitChars_ten_toDigits]

/-- A row of digits is a magnitude without places. -/
theorem readMagnitude?_digits {digits : List Char} (nonempty : digits ≠ [])
    (all : digits.all Char.isDigit = true) :
    readMagnitude? digits = some ⟨digitsValue digits, 0⟩ := by
  have all' : ∀ c ∈ digits, c.isDigit = true := List.all_eq_true.mp all
  have front : (digits ++ []).takeWhile Char.isDigit = digits ++ [].takeWhile Char.isDigit :=
    List.takeWhile_append_of_pos all'
  have rest : (digits ++ []).dropWhile Char.isDigit = [].dropWhile Char.isDigit :=
    List.dropWhile_append_of_pos all'
  simp only [List.append_nil, List.takeWhile_nil, List.dropWhile_nil] at front rest
  simp [readMagnitude?, front, rest, nonempty]

/-- Digits around a point are a magnitude with as many places as digits follow the point. -/
theorem readMagnitude?_point {whole fraction : List Char} (nonempty : whole ++ fraction ≠ [])
    (whole_digits : whole.all Char.isDigit = true)
    (fraction_digits : fraction.all Char.isDigit = true) :
    readMagnitude? (whole ++ '.' :: fraction) =
      some ⟨digitsValue (whole ++ fraction), fraction.length⟩ := by
  have whole_digits' : ∀ c ∈ whole, c.isDigit = true := List.all_eq_true.mp whole_digits
  have nonempty' : ¬ (whole = [] ∧ fraction = []) := by simpa using nonempty
  have point : ('.' : Char).isDigit = false := by decide
  simp [readMagnitude?, List.takeWhile_append_of_pos whole_digits',
    List.dropWhile_append_of_pos whole_digits', point, fraction_digits, nonempty']

/-- The positional text of a decimal is read back as the decimal. -/
theorem readMagnitude?_positional (d : Decimal) : readMagnitude? d.positional = some d := by
  have width := Decimal.le_length_padded (d.places + 1) d.digits
  have digits := Decimal.all_isDigit_padded (d.places + 1) d.digits
  have value := digitsValue_padded (d.places + 1) d.digits
  generalize row_eq : Decimal.padded (d.places + 1) d.digits = row at width digits value
  have nonempty : row ≠ [] := by
    rintro rfl
    simp at width
  by_cases places : d.places = 0
  · have whole : d.positional = row := by
      simp [Decimal.positional, places, ← row_eq]
    rw [whole, readMagnitude?_digits nonempty digits, value, ← places]
  · have split : d.positional =
        row.take (row.length - d.places) ++ '.' :: row.drop (row.length - d.places) := by
      simp [Decimal.positional, places, row_eq]
    have count : (row.drop (row.length - d.places)).length = d.places := by
      simp only [List.length_drop]
      omega
    have parts := List.take_append_drop (row.length - d.places) row
    have both : (row.take (row.length - d.places)).all Char.isDigit = true ∧
        (row.drop (row.length - d.places)).all Char.isDigit = true := by
      rw [← parts, List.all_append, Bool.and_eq_true] at digits
      exact digits
    rw [split, readMagnitude?_point (by rw [parts]; exact nonempty) both.1 both.2, parts, value,
      count]

/-- A positional text has no sign. -/
theorem splitSign_positional (d : Decimal) :
    splitSign d.positional = (false, d.positional) := by
  apply splitSign_eq_self
  intro first
  have read := readMagnitude?_positional d
  cases text : d.positional with
  | nil => simp [text] at first
  | cons c rest =>
    rw [text] at first read
    obtain rfl : c = '-' := by simpa using first
    simp [readMagnitude?] at read

/-- Whole numbers, leading and trailing points, and texts that are no numerals. -/
example :
    read? "-12.50".toList = some ⟨true, 1250, 2⟩ ∧ read? ".5".toList = some ⟨false, 5, 1⟩ ∧
      read? "7.".toList = some ⟨false, 7, 0⟩ ∧ read? "-0".toList = some ⟨true, 0, 0⟩ ∧
      read? ".".toList = none ∧ read? "1.2.3".toList = none ∧ read? "--1".toList = none := by
  decide +kernel

end Numeral

end FormulaScan
