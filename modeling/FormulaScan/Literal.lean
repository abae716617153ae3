import FormulaScan.Binary64.Rounding

/-!
# Number literals

The texts that write a number in a formula: an optional minus sign, then digits with at most one
decimal separator among, before or after them. A text of digits alone whose number fits 64 bits with
sign is an integer; every other literal is a floating-point number.
-/

namespace FormulaScan

/-- The number that a literal writes. -/
inductive Literal where
  | integer (value : Int64)
  | floatingPoint (value : Binary64)
  deriving DecidableEq, Repr

namespace Literal

/-- The whole number that a text of ASCII digits with an optional minus sign writes, of any size. -/
def wholeNumber? (text : List Char) : Option Int :=
  let body := (splitSign text).2
  if body ≠ [] ∧ body.all Char.isDigit = true then
    some (if (splitSign text).1 then -(digitsValue body : Int) else digitsValue body)
  else none

/-- The signed 64-bit integer that a text writes. -/
def integer? (text : List Char) : Option Int64 :=
  match wholeNumber? text with
  | some n =>
    if h : Int64.minValue.toInt ≤ n ∧ n ≤ Int64.maxValue.toInt then
      some (Int64.ofIntLE n h.1 h.2)
    else none
  | none => none

/-- Tells whether a text without its sign consists of digits and separators, with at least one digit
and at most one separator. A digit counts as a digit even where it is the separator. -/
def wellFormedBody (separator : Char) (body : List Char) : Bool :=
  body.all (fun c => c.isDigit || c == separator) && body.any Char.isDigit &&
    decide (body.countP (fun c => !c.isDigit && c == separator) ≤ 1)

/-- The text with a point in the place of every separator. -/
def withPoint (separator : Char) (text : List Char) : List Char :=
  text.map fun c => if c = separator then '.' else c

/-- The floating-point number that a text writes. -/
def floatingPoint? (separator : Char) (text : List Char) : Option Binary64 :=
  if wellFormedBody separator (splitSign text).2 then
    (Numeral.read? (withPoint separator text)).map Binary64.ofNumeral
  else none

/-- The number that a text writes: an integer if it can be one. -/
def ofText? (separator : Char) (text : List Char) : Option Literal :=
  match integer? text with
  | some n => some (.integer n)
  | none => (floatingPoint? separator text).map .floatingPoint

/-- The text of a whole number is read as the number. -/
theorem wholeNumber?_wholeText (n : Int) : wholeNumber? (wholeText n) = some n := by
  have digits : (Nat.toDigits 10 n.natAbs).all Char.isDigit = true := by
    rw [List.all_eq_true]
    intro c member
    exact Nat.isDigit_of_mem_toDigits (by decide) (by decide) member
  have value : digitsValue (Nat.toDigits 10 n.natAbs) = n.natAbs := Nat.ofDigitChars_ten_toDigits
  simp only [wholeNumber?, splitSign_wholeText, digits, value, ne_eq, Nat.toDigits_ne_nil,
    not_false_eq_true, and_self, if_true, decide_eq_true_eq, Option.some.injEq]
  split <;> omega

/-- The text of a 64-bit integer is read as the integer. -/
theorem integer?_wholeText (n : Int64) : integer? (wholeText n.toInt) = some n := by
  have bounds : Int64.minValue.toInt ≤ n.toInt ∧ n.toInt ≤ Int64.maxValue.toInt :=
    ⟨n.minValue_le_toInt, n.toInt_le⟩
  simp only [integer?, wholeNumber?_wholeText, bounds, and_self, dif_pos, Int64.ofIntLE_toInt]

/-- The least 64-bit integer is a literal; without its sign the number no longer fits. -/
example :
    ofText? '.' "-9223372036854775808".toList = some (.integer Int64.minValue) ∧
      integer? "9223372036854775808".toList = none ∧
      integer? "-00000000000000000000000007".toList = some (-7) ∧
      ofText? '.' ".".toList = none ∧ ofText? '.' "1.2.3".toList = none ∧
      ofText? ',' "1,5".toList = some (.floatingPoint (.ofWord 0x3FF8000000000000)) := by
  decide +kernel

end Literal

end FormulaScan
