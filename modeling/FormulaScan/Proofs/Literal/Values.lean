import FormulaScan.Binary64.Reader
import FormulaScan.Proofs.Literal.Grammar

/-!
# The numbers that literals write

`Literal.Writes` lists the texts of number literals together with the numerals that they write. The
readers of literals accept these texts and no others, and what they read is the number that is
written: the numeral rounded to the nearest floating-point number, which is also what a reader of
all floating-point texts makes of the text with a point for the separator, or the whole number
itself if there is no separator and the number fits 64 bits with sign.

A minus sign in front of a text without one changes nothing but the sign, with one exception: the
least integer has no positive counterpart (`readings_of_literals`).
-/

namespace FormulaScan.Literal

/-- The texts that write numbers, and the numerals that they write: a minus sign or none, and then
digits with at most one separator among, before or after them. -/
inductive Writes (separator : Char) : List Char → Numeral → Prop where
  | whole (negative : Bool) {digits : List Char} (nonempty : digits ≠ [])
      (all : digits.all Char.isDigit = true) :
      Writes separator (signText negative ++ digits) ⟨negative, digitsValue digits, 0⟩
  | divided (negative : Bool) {whole fraction : List Char} (nonempty : whole ++ fraction ≠ [])
      (wholeDigits : whole.all Char.isDigit = true)
      (fractionDigits : fraction.all Char.isDigit = true) :
      Writes separator (signText negative ++ (whole ++ separator :: fraction))
        ⟨negative, digitsValue (whole ++ fraction), fraction.length⟩

/-- A text of digits with a minus sign or none writes a whole number, of any size. -/
def WritesWhole (text : List Char) (n : Int) : Prop :=
  ∃ negative digits, text = signText negative ++ digits ∧ digits ≠ [] ∧
    (∀ c ∈ digits, c.isDigit = true) ∧
    n = if negative then -(digitsValue digits : Int) else digitsValue digits

/-- What the readers of literals make of a text. -/
structure Readings (separator : Char) (text : List Char) : Prop where
  /-- The texts of floating-point numbers are those that write a numeral. -/
  floatingPoint_isSome : (floatingPoint? separator text).isSome = true ↔
    ∃ numeral, Writes separator text numeral
  /-- The number is the numeral, rounded. -/
  floatingPoint_eq : ∀ numeral, Writes separator text numeral →
    floatingPoint? separator text = some (.ofNumeral numeral)
  /-- The number is what the text with a point for the separator stands for, and it always stands
  for a number. -/
  point : ∀ numeral, Writes separator text numeral →
    ∃ x, Binary64.read? (withPoint separator text) = some x ∧
      floatingPoint? separator text = some x
  /-- The integers are the whole numbers that fit 64 bits with sign. -/
  integer : ∀ n : Int, (integer? text).map Int64.toInt = some n ↔
    WritesWhole text n ∧ -0x8000000000000000 ≤ n ∧ n ≤ 0x7FFFFFFFFFFFFFFF
  eq_none : ofText? separator text = none ↔ ¬ ∃ numeral, Writes separator text numeral
  eq_integer : ∀ n, ofText? separator text = some (.integer n) ↔ integer? text = some n
  eq_floatingPoint : ∀ x, ofText? separator text = some (.floatingPoint x) ↔
    integer? text = none ∧ floatingPoint? separator text = some x

/-- Digits whose value is the magnitude of the least integer. -/
def IsLeastMagnitude (body : List Char) : Prop :=
  body.all Char.isDigit = true ∧ digitsValue body = 0x8000000000000000

/-- What a minus sign changes in front of a text. -/
structure SignedReadings (separator : Char) (body : List Char) : Prop where
  isSome : (ofText? separator ('-' :: body)).isSome = true ↔
    (ofText? separator body).isSome = true
  integer : ∀ n, ofText? separator body = some (.integer n) →
    ∃ m, ofText? separator ('-' :: body) = some (.integer m) ∧ m.toInt = -n.toInt
  floatingPoint : ∀ x, ofText? separator body = some (.floatingPoint x) →
    ¬ IsLeastMagnitude body → ∃ y, ofText? separator ('-' :: body) = some (.floatingPoint y)
  least : IsLeastMagnitude body →
    ofText? separator ('-' :: body) = some (.integer Int64.minValue) ∧
      ∃ x, ofText? separator body = some (.floatingPoint x)

/-! ## The texts that write numbers -/

section Texts

variable {separator : Char} (noDigit : separator.isDigit = false)

include noDigit

/-- Two rows of digits around a separator are well-formed if one of them is not empty. -/
theorem wellFormedBody_divided {whole fraction : List Char} (nonempty : whole ++ fraction ≠ [])
    (wholeDigits : whole.all Char.isDigit = true)
    (fractionDigits : fraction.all Char.isDigit = true) :
    wellFormedBody separator (whole ++ separator :: fraction) = true := by
  have digits : ∀ c ∈ whole ++ fraction, c.isDigit = true := by
    rw [← List.all_eq_true, List.all_append, wholeDigits, fractionDigits]
    rfl
  obtain ⟨d, inRows⟩ := List.exists_mem_of_ne_nil _ nonempty
  -- Each character is the separator or belongs to one of the rows, and so does the digit above.
  have split (c : Char) :
      c ∈ whole ++ separator :: fraction ↔ c = separator ∨ c ∈ whole ++ fraction := by
    simp only [List.mem_append, List.mem_cons]
    exact or_left_comm
  have count : (whole ++ separator :: fraction).count separator = 1 := by
    rw [List.count_append, List.count_cons_self,
      List.count_eq_zero.mpr (separator_notMem noDigit wholeDigits),
      List.count_eq_zero.mpr (separator_notMem noDigit fractionDigits)]
  rw [wellFormedBody_iff noDigit]
  refine ⟨fun c member => ?_, ⟨d, (split d).mpr (.inr inRows), digits d inRows⟩, Nat.le_of_eq count⟩
  exact ((split c).mp member).symm.imp_left (digits c)

variable (noSign : separator ≠ '-') {text : List Char}

include noSign

/-- A text writes a number exactly when it is well-formed without its sign. -/
theorem exists_writes_iff :
    (∃ numeral, Writes separator text numeral) ↔
      wellFormedBody separator (splitSign text).2 = true := by
  constructor
  · rintro ⟨numeral, writes⟩
    cases writes with
    | whole negative nonempty all =>
      have all := List.all_eq_true.mp all
      rw [splitSign_append negative (head?_ne_minus all)]
      exact wellFormedBody_of_digits nonempty all
    | divided negative nonempty wholeDigits fractionDigits =>
      have form := wellFormedBody_divided noDigit nonempty wholeDigits fractionDigits
      rw [splitSign_append negative (head?_ne_minus_of_wellFormedBody noSign form)]
      exact form
  · intro form
    rw [← signText_append_splitSign text]
    rcases exists_rows_of_wellFormedBody noDigit form with
      ⟨nonempty, all⟩ | ⟨whole, fraction, body, nonempty, wholeDigits, fractionDigits⟩
    · exact ⟨_, .whole _ nonempty all⟩
    · rw [body]
      exact ⟨_, .divided _ nonempty wholeDigits fractionDigits⟩

/-- With a point for the separator, a text is a signed decimal numeral, and it is the one that the
text writes. -/
theorem read?_withPoint_of_writes {numeral : Numeral} (writes : Writes separator text numeral) :
    Numeral.read? (withPoint separator text) = some numeral := by
  cases writes with
  | whole negative nonempty all =>
    have unsigned := head?_ne_minus (List.all_eq_true.mp all)
    rw [Numeral.read?, splitSign_withPoint noSign negative unsigned,
      withPoint_eq_self (separator_notMem noDigit all), Numeral.readMagnitude?_digits nonempty all]
    rfl
  | divided negative nonempty wholeDigits fractionDigits =>
    have form := wellFormedBody_divided noDigit nonempty wholeDigits fractionDigits
    have unsigned := head?_ne_minus_of_wellFormedBody noSign form
    rw [Numeral.read?, splitSign_withPoint noSign negative unsigned,
      withPoint_divided noDigit wholeDigits fractionDigits,
      Numeral.readMagnitude?_point nonempty wholeDigits fractionDigits]
    rfl

/-- What a text writes is read from it, rounded. -/
theorem floatingPoint?_of_writes {numeral : Numeral} (writes : Writes separator text numeral) :
    floatingPoint? separator text = some (.ofNumeral numeral) := by
  have form := (exists_writes_iff noDigit noSign).mp ⟨numeral, writes⟩
  rw [floatingPoint?, if_pos form, read?_withPoint_of_writes noDigit noSign writes]
  rfl

/-- No number is read from a text that writes none. -/
theorem isSome_floatingPoint?_iff :
    (floatingPoint? separator text).isSome = true ↔ ∃ numeral, Writes separator text numeral := by
  constructor
  · intro read
    obtain ⟨x, value⟩ := Option.isSome_iff_exists.mp read
    rw [floatingPoint?] at value
    rw [exists_writes_iff noDigit noSign]
    exact (Option.ite_none_right_eq_some.mp value).1
  · rintro ⟨numeral, writes⟩
    rw [floatingPoint?_of_writes noDigit noSign writes]
    rfl

end Texts

/-! ## Whole numbers -/

/-- The integers are the whole numbers within the bounds. -/
theorem map_toInt_integer? (text : List Char) (n : Int) :
    (integer? text).map Int64.toInt = some n ↔
      wholeNumber? text = some n ∧ -0x8000000000000000 ≤ n ∧ n ≤ 0x7FFFFFFFFFFFFFFF := by
  unfold integer?
  cases wholeNumber? text with
  | none => simp
  | some m =>
    by_cases bounds : Int64.minValue.toInt ≤ m ∧ m ≤ Int64.maxValue.toInt
    · simp only [dif_pos bounds, Option.map_some, Int64.toInt_ofIntLE, Option.some.injEq]
      refine ⟨?_, And.left⟩
      rintro rfl
      exact ⟨rfl, bounds⟩
    · simp only [dif_neg bounds, Option.map_none, Option.some.injEq]
      refine iff_of_false (by simp) ?_
      rintro ⟨rfl, bounds'⟩
      exact bounds bounds'

section Unsigned

variable {body : List Char} (unsigned : body.head? ≠ some '-')

include unsigned

/-- A text without a minus sign writes no negative number. -/
theorem wholeNumber?_unsigned {n : Int} (read : wholeNumber? body = some n) :
    0 ≤ n ∧ body.all Char.isDigit = true ∧ (digitsValue body : Int) = n := by
  simp only [wholeNumber?, splitSign_eq_self unsigned, Option.ite_none_right_eq_some,
    Option.some.injEq] at read
  obtain ⟨⟨-, all⟩, rfl⟩ := read
  exact ⟨Int.natCast_nonneg _, all, rfl⟩

/-- A minus sign makes the opposite of a whole number. -/
theorem wholeNumber?_minus : wholeNumber? ('-' :: body) = (wholeNumber? body).map Int.neg := by
  have sign : splitSign ('-' :: body) = (true, body) := rfl
  simp only [wholeNumber?, sign, splitSign_eq_self unsigned]
  by_cases digits : body ≠ [] ∧ body.all Char.isDigit = true
  · rw [if_pos digits, if_pos digits]
    rfl
  · rw [if_neg digits, if_neg digits]
    rfl

end Unsigned

/-! ## The three readers -/

/-- What the readers of literals make of a text is what the text writes. -/
theorem readings {separator : Char} (noDigit : separator.isDigit = false)
    (noSign : separator ≠ '-') (text : List Char) : Readings separator text := by
  have isLiteral := isSome_ofText?_iff noDigit noSign text
  constructor
  case floatingPoint_isSome => exact isSome_floatingPoint?_iff noDigit noSign
  case floatingPoint_eq =>
    intro numeral writes
    exact floatingPoint?_of_writes noDigit noSign writes
  case point =>
    intro numeral writes
    have read := read?_withPoint_of_writes noDigit noSign writes
    exact ⟨_, Binary64.read?_of_numeral read, floatingPoint?_of_writes noDigit noSign writes⟩
  case integer =>
    intro n
    rw [map_toInt_integer?, wholeNumber?_eq_some_iff]
    exact Iff.rfl
  case eq_none =>
    rw [exists_writes_iff noDigit noSign, ← isLiteral, Bool.not_eq_true,
      Option.isSome_eq_false_iff, Option.isNone_iff_eq_none]
  case eq_integer =>
    intro n
    rw [ofText?_eq_some_iff]
    simp
  case eq_floatingPoint =>
    intro x
    rw [ofText?_eq_some_iff]
    simp

section Unsigned

variable {separator : Char} {body : List Char} (unsigned : body.head? ≠ some '-')

include unsigned

/-- A minus sign makes the opposite of an integer. -/
theorem exists_integer?_minus {n : Int64} (read : integer? body = some n) :
    ∃ m, integer? ('-' :: body) = some m ∧ m.toInt = -n.toInt := by
  have value : (integer? body).map Int64.toInt = some n.toInt := by rw [read, Option.map_some]
  obtain ⟨whole, lower, upper⟩ := (map_toInt_integer? body n.toInt).mp value
  have positive := (wholeNumber?_unsigned unsigned whole).1
  have opposite : wholeNumber? ('-' :: body) = some (-n.toInt) := by
    rw [wholeNumber?_minus unsigned, whole]
    rfl
  exact Option.map_eq_some_iff.mp
    ((map_toInt_integer? ('-' :: body) (-n.toInt)).mpr ⟨opposite, by omega, by omega⟩)

/-- The magnitude of the least integer is no integer, and with a minus sign it is the least one. -/
theorem integer?_of_isLeastMagnitude (least : IsLeastMagnitude body) :
    integer? body = none ∧ integer? ('-' :: body) = some Int64.minValue := by
  obtain ⟨all, value⟩ := least
  have nonempty : body ≠ [] := by
    rintro rfl
    cases value
  have whole : wholeNumber? body = some 0x8000000000000000 := by
    rw [wholeNumber?_eq_some_iff]
    refine ⟨false, body, rfl, nonempty, List.all_eq_true.mp all, ?_⟩
    rw [value]
    rfl
  constructor
  · rw [Option.eq_none_iff_forall_ne_some]
    intro n read
    rw [integer?_eq_some_iff, whole, Option.some.injEq] at read
    have upper : n.toInt ≤ Int64.maxValue.toInt := n.toInt_le
    rw [← read] at upper
    exact absurd upper (by decide)
  · rw [integer?_eq_some_iff, wholeNumber?_minus unsigned, whole]
    rfl

/-- If a text becomes an integer with a minus sign only, it is the magnitude of the least
integer. -/
theorem isLeastMagnitude_of_integer?_minus (noInteger : integer? body = none) {m : Int64}
    (read : integer? ('-' :: body) = some m) : IsLeastMagnitude body := by
  rw [integer?_eq_some_iff, wholeNumber?_minus unsigned, Option.map_eq_some_iff] at read
  obtain ⟨n, whole, opposite⟩ := read
  obtain ⟨positive, all, value⟩ := wholeNumber?_unsigned unsigned whole
  have lower : -0x8000000000000000 ≤ m.toInt := m.minValue_le_toInt
  have opposite : -n = m.toInt := opposite
  -- The number itself does not fit, so it lies above all integers.
  have beyond : ¬ n ≤ 0x7FFFFFFFFFFFFFFF := by
    intro upper
    have fits := (map_toInt_integer? body n).mpr ⟨whole, by omega, upper⟩
    rw [noInteger] at fits
    cases fits
  exact ⟨all, by omega⟩

variable (noDigit : separator.isDigit = false) (noSign : separator ≠ '-')

include noDigit noSign

/-- A minus sign never changes whether a text is a literal. -/
theorem isSome_ofText?_minus :
    (ofText? separator ('-' :: body)).isSome = true ↔ (ofText? separator body).isSome = true := by
  have sign : splitSign ('-' :: body) = (true, body) := rfl
  rw [isSome_ofText?_iff noDigit noSign, isSome_ofText?_iff noDigit noSign, sign,
    splitSign_eq_self unsigned]

/-- What a minus sign changes in front of a text without one. -/
theorem signedReadings : SignedReadings separator body := by
  have isSome := isSome_ofText?_minus unsigned noDigit noSign
  constructor
  case isSome => exact isSome
  case integer =>
    intro n read
    have whole := ((readings noDigit noSign body).eq_integer n).mp read
    obtain ⟨m, read', opposite⟩ := exists_integer?_minus unsigned whole
    exact ⟨m, ((readings noDigit noSign _).eq_integer m).mpr read', opposite⟩
  case floatingPoint =>
    intro x read notLeast
    have noInteger := (((readings noDigit noSign body).eq_floatingPoint x).mp read).1
    rw [read] at isSome
    obtain ⟨literal, read'⟩ := Option.isSome_iff_exists.mp (isSome.mpr rfl)
    cases literal with
    | floatingPoint y => exact ⟨y, read'⟩
    | integer m =>
      have whole := ((readings noDigit noSign _).eq_integer m).mp read'
      exact absurd (isLeastMagnitude_of_integer?_minus unsigned noInteger whole) notLeast
  case least =>
    intro least
    obtain ⟨noInteger, minimum⟩ := integer?_of_isLeastMagnitude unsigned least
    have read := ((readings noDigit noSign ('-' :: body)).eq_integer _).mpr minimum
    refine ⟨read, ?_⟩
    -- The text is a literal, because it is one with the sign, and it is no integer.
    rw [read] at isSome
    obtain ⟨literal, read'⟩ := Option.isSome_iff_exists.mp (isSome.mp rfl)
    cases literal with
    | floatingPoint x => exact ⟨x, read'⟩
    | integer n =>
      have whole := ((readings noDigit noSign body).eq_integer n).mp read'
      rw [noInteger] at whole
      cases whole

end Unsigned

/-- Literals are read as what they write, and a minus sign in front of a text without one makes the
opposite of it. The separator may be any character but a digit and the minus sign. -/
theorem readings_of_literals {separator : Char} (noDigit : separator.isDigit = false)
    (noSign : separator ≠ '-') :
    (∀ text, Readings separator text) ∧
      ∀ body : List Char, body.head? ≠ some '-' → SignedReadings separator body :=
  ⟨readings noDigit noSign, fun _ unsigned => signedReadings unsigned noDigit noSign⟩

/-- A letter that writes exponents elsewhere is the separator, and the body is the one that becomes
an integer with a minus sign only. -/
theorem readings_of_literals_letter :
    (('e' : Char).isDigit = false ∧ 'e' ≠ '-' ∧
        "9223372036854775808".toList.head? ≠ some '-' ∧
        IsLeastMagnitude "9223372036854775808".toList) ∧
      Readings 'e' "-1e50".toList ∧ SignedReadings 'e' "9223372036854775808".toList := by
  have laws := @readings_of_literals 'e' (by decide) (by decide)
  exact ⟨⟨by decide, by decide, by decide, by decide, by decide⟩, laws.1 _,
    laws.2 _ (by decide)⟩

end FormulaScan.Literal
