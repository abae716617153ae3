import FormulaScan.Binary64.Rounding
import FormulaScan.Text.Blank

/-!
# Reading binary64 numbers

All texts that stand for a binary64 number, which are many more than a formula can hold: a sign of
either kind or none, and then infinity or not-a-number by name, in letters of either case, or digits
with an optional point and an optional exponent.

The main statement, `read?_of_numeral`, says that signed decimal numerals are among these texts and
are read as what they are rounded to.
-/

namespace FormulaScan

-- Powers of naturals are those of the core library here, whatever other instances are known.
attribute [local instance (high)] instPowNat

/-- The number `digits / 10 ^ places * 10 ^ exponent`. -/
def Decimal.scaled (d : Decimal) (exponent : Int) : Decimal :=
  ⟨d.digits * 10 ^ (exponent - d.places).toNat, (d.places - exponent).toNat⟩

namespace Binary64

/-- Cuts one plus or minus sign off a text; the first part tells whether there was a minus sign. -/
def cutSign : List Char → Bool × List Char
  | '+' :: rest => (false, rest)
  | text => splitSign text

/-- Reads the letter of an exponent and the exponent; nothing stands for zero. -/
def readExponent? : List Char → Option Int
  | [] => some 0
  | mark :: rest =>
    let digits := (cutSign rest).2
    if mark.toLower = 'e' ∧ digits ≠ [] ∧ digits.all Char.isDigit = true then
      some (if (cutSign rest).1 then -(digitsValue digits : Int) else digitsValue digits)
    else none

/-- Tells whether a character belongs to the digits and the point in front of an exponent. -/
def isMantissa (c : Char) : Bool := c.isDigit || c == '.'

/-- Reads digits with an optional point, and an optional exponent. -/
def readDecimal? (text : List Char) : Option Decimal := do
  let mantissa ← Numeral.readMagnitude? (text.takeWhile isMantissa)
  let exponent ← readExponent? (text.dropWhile isMantissa)
  return mantissa.scaled exponent

/-- Reads a sign and the name of a number or a decimal. -/
def read? (text : List Char) : Option Binary64 :=
  let negative := (cutSign text).1
  let body := (cutSign text).2
  let name := body.map Char.toLower
  if name = ['i', 'n', 'f'] ∨ name = ['i', 'n', 'f', 'i', 'n', 'i', 't', 'y'] then
    some (.infinite negative)
  else if name = ['n', 'a', 'n'] then some .nan
  else (readDecimal? body).map fun magnitude => ofNumeral ⟨negative, magnitude⟩

/-! ## Numerals -/

/-- Without an exponent the number stays the same. -/
theorem scaled_zero (d : Decimal) : d.scaled 0 = d := by
  simp [Decimal.scaled]

/-- Digits and points have no other case. -/
theorem toLower_of_isMantissa {c : Char} (mantissa : isMantissa c = true) : c.toLower = c := by
  rw [isMantissa, Bool.or_eq_true, beq_iff_eq] at mantissa
  rcases mantissa with digit | rfl
  · have upper : c.toNat ≤ 57 := (Char.isDigit_iff_toNat.mp digit).2
    apply Text.toLower_eq_self
    rw [Bool.eq_false_iff, ne_eq, Text.isUpper_iff_toNat]
    omega
  · rfl

/-- A magnitude consists of digits and a point. -/
theorem isMantissa_of_readMagnitude? {text : List Char} {d : Decimal}
    (read : Numeral.readMagnitude? text = some d) : ∀ c ∈ text, isMantissa c = true := by
  intro c member
  rw [← List.takeWhile_append_dropWhile (p := Char.isDigit) (l := text), List.mem_append] at member
  rcases member with whole | behind
  · simp [isMantissa, List.all_eq_true.mp List.all_takeWhile c whole]
  · unfold Numeral.readMagnitude? at read
    cases left : text.dropWhile Char.isDigit with
    | nil =>
      rw [left] at behind
      cases behind
    | cons point fraction =>
      -- Behind the first digits stands the point, and then digits again.
      simp only [left, Option.ite_none_right_eq_some] at read
      rw [left] at behind
      rcases List.mem_cons.mp behind with rfl | inFraction
      · simp [isMantissa, read.1.1]
      · simp [isMantissa, List.all_eq_true.mp read.1.2.1 c inFraction]

/-- A magnitude is not empty. -/
theorem ne_nil_of_readMagnitude? {text : List Char} {d : Decimal}
    (read : Numeral.readMagnitude? text = some d) : text ≠ [] := by
  rintro rfl
  cases read

/-- A magnitude is a decimal without an exponent. -/
theorem readDecimal?_of_readMagnitude? {text : List Char} {d : Decimal}
    (read : Numeral.readMagnitude? text = some d) : readDecimal? text = some d := by
  have all := isMantissa_of_readMagnitude? read
  have front : (text ++ []).takeWhile isMantissa = text ++ [].takeWhile isMantissa :=
    List.takeWhile_append_of_pos all
  have rest : (text ++ []).dropWhile isMantissa = [].dropWhile isMantissa :=
    List.dropWhile_append_of_pos all
  simp only [List.append_nil, List.takeWhile_nil, List.dropWhile_nil] at front rest
  simp [readDecimal?, front, rest, read, readExponent?, scaled_zero]

/-- Without a plus sign there is a minus sign or none. -/
theorem cutSign_eq_splitSign {text : List Char} (noPlus : text.head? ≠ some '+') :
    cutSign text = splitSign text := by
  unfold cutSign
  split
  · exact absurd rfl noPlus
  · rfl

/-- A numeral is read as the number that it is rounded to. -/
theorem read?_of_numeral {text : List Char} {numeral : Numeral}
    (read : Numeral.read? text = some numeral) : read? text = some (ofNumeral numeral) := by
  obtain ⟨d, magnitude, rfl⟩ := Option.map_eq_some_iff.mp read
  obtain ⟨c, rest, body⟩ := List.exists_cons_of_ne_nil (ne_nil_of_readMagnitude? magnitude)
  have all := isMantissa_of_readMagnitude? magnitude
  have first : isMantissa c = true := all c (by rw [body]; exact List.mem_cons_self ..)
  have noPlus : text.head? ≠ some '+' := by
    intro plus
    obtain ⟨more, rfl⟩ := List.head?_eq_some_iff.mp plus
    obtain ⟨rfl, -⟩ := List.cons.inj body
    exact absurd first (by decide)
  -- No name of a number begins with a digit or a point.
  have noName {d : Char} (letter : isMantissa d = false) (more : List Char) :
      (splitSign text).2.map Char.toLower ≠ d :: more := by
    rw [body, List.map_cons, toLower_of_isMantissa first]
    intro same
    obtain ⟨rfl, -⟩ := List.cons.inj same
    rw [first] at letter
    cases letter
  simp [read?, cutSign_eq_splitSign noPlus, noName (d := 'i') (by decide),
    noName (d := 'n') (by decide), readDecimal?_of_readMagnitude? magnitude]

/-- Either sign, an exponent, and names in letters of either case. -/
example :
    read? "+1.25e2".toList = read? "125".toList ∧ read? "-5E-1".toList = read? "-.5".toList ∧
      read? "-Inf".toList = some (.infinite true) ∧ read? "nan".toList = some .nan ∧
      read? "1e".toList = none ∧ read? "e1".toList = none ∧ read? "".toList = none := by
  decide +kernel

end Binary64

end FormulaScan
