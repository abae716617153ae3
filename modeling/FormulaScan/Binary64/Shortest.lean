import FormulaScan.Binary64.Rounding

/-!
# The shortest decimal of a binary64 number

The text of a number is the decimal with the fewest digits that reads back as the number, written
positionally. Of two such decimals the nearer one is taken, and of two equally near ones the
greater.

The decimals with `n` digits form a grid, and only the two neighbours of the magnitude on it can be
the answer. The grids for one to seventeen digits are tried in turn, and a decimal is accepted when
rounding it gives the code back. Seventeen digits are always enough; the exact expansion stands
behind them, so that the result reads back in any case (`roundCode_shortest`). Hence no two numbers
have the same text (`text_injective`).
-/

namespace FormulaScan.Binary64

-- Powers of naturals are those of the core library here, whatever other instances are known.
attribute [local instance (high)] instPowNat

/-- Tells whether a decimal is read as the magnitude with the given code. -/
def readsBack (code : Nat) (d : Decimal) : Bool :=
  roundCode d.digits (10 ^ d.places) = code

/-- The number of digits before the point; for a magnitude below one tenth, less than zero by the
number of zeros behind the point. The factor `10 ^ 324` makes every positive magnitude exceed 1. -/
def wholeDigits (code : Nat) : Int :=
  (Nat.toDigits 10 (units code * 10 ^ (324 : Nat) / scale)).length - 324

/-- The multiple `n * 10 ^ step`. -/
def gridPoint (step : Int) (n : Nat) : Decimal :=
  Decimal.trimmed (n * 10 ^ step.toNat) (-step).toNat

/-- The better of the two neighbours of a magnitude among the multiples of `10 ^ step`, of those
that read back. -/
def neighbour? (code : Nat) (step : Int) : Option Decimal :=
  let magnitude := units code * 10 ^ (-step).toNat
  let width := scale * 10 ^ step.toNat
  let below := magnitude / width
  let lower := gridPoint step below
  let upper := gridPoint step (below + 1)
  let lowerIsNearer := decide (2 * magnitude < (2 * below + 1) * width)
  if readsBack code lower && (lowerIsNearer || !readsBack code upper) then some lower
  else if readsBack code upper then some upper
  else none

/-- All digits of a magnitude. -/
def exactDecimal (code : Nat) : Decimal :=
  Decimal.trimmed (units code * 5 ^ scaleExponent) scaleExponent

/-- The decimal with the fewest digits that reads back as the magnitude with the given code. -/
def shortest (code : Nat) : Decimal :=
  if code = 0 then ⟨0, 0⟩
  else
    let whole := wholeDigits code
    match (List.range 17).findSome? fun n => neighbour? code (whole - (n + 1 : Nat)) with
    | some d => d
    | none => exactDecimal code

/-- The text of a number. -/
def text : Binary64 → List Char
  | .finite negative code =>
    (if negative then ['-'] else []) ++ (shortest code).positional
  | .infinite negative => (if negative then ['-'] else []) ++ ['i', 'n', 'f']
  | .nan => ['N', 'a', 'N']

/-! ## Reading the text back -/

/-- A neighbour is taken only if it reads back. -/
theorem readsBack_of_neighbour? {code : Nat} {step : Int} {d : Decimal}
    (found : neighbour? code step = some d) : readsBack code d = true := by
  unfold neighbour? at found
  extract_lets magnitude width below lower upper lowerIsNearer at found
  by_cases lowerTaken : (readsBack code lower && (lowerIsNearer || !readsBack code upper)) = true
  · rw [if_pos lowerTaken] at found
    rw [← Option.some.inj found]
    exact (Bool.and_eq_true_iff.mp lowerTaken).1
  · rw [if_neg lowerTaken] at found
    by_cases upperTaken : readsBack code upper = true
    · rw [if_pos upperTaken] at found
      rw [← Option.some.inj found]
      exact upperTaken
    · rw [if_neg upperTaken] at found
      exact absurd found (by simp)

/-- The exact expansion of a magnitude reads back. -/
theorem readsBack_exactDecimal (code : Nat) : readsBack code (exactDecimal code) = true := by
  have value := Decimal.trimmed_value (units code * 5 ^ scaleExponent) scaleExponent
  have ten : 10 ^ scaleExponent = scale * 5 ^ scaleExponent := Nat.mul_pow 2 5 scaleExponent
  have same : roundCode (exactDecimal code).digits (10 ^ (exactDecimal code).places) =
      roundCode (units code * 5 ^ scaleExponent) (10 ^ scaleExponent) :=
    roundCode_congr (Nat.pow_pos (by decide)) (Nat.pow_pos (by decide)) value
  rw [ten, roundCode_scale _ _ (Nat.pow_pos (by decide)), roundCode_units] at same
  simpa only [readsBack, decide_eq_true_eq] using same

/-- The decimal that is written for a magnitude is read as the magnitude. -/
theorem roundCode_shortest (code : Nat) :
    roundCode (shortest code).digits (10 ^ (shortest code).places) = code := by
  suffices accepted : readsBack code (shortest code) = true by
    simpa only [readsBack, decide_eq_true_eq] using accepted
  simp only [shortest]
  split
  · next zero =>
    subst zero
    decide +kernel
  · split
    · next found =>
      obtain ⟨_, _, found⟩ := List.exists_of_findSome?_eq_some found
      exact readsBack_of_neighbour? found
    · exact readsBack_exactDecimal code

/-- The text of a finite number is a numeral that is rounded to the number. -/
theorem read?_text_finite (negative : Bool) (code : Fin infinityCode) :
    (Numeral.read? (Binary64.finite negative code).text).map ofNumeral =
      some (.finite negative code) := by
  have sign : splitSign (Binary64.finite negative code).text =
      (negative, (shortest code).positional) := by
    cases negative with
    | true => rfl
    | false => exact Numeral.splitSign_positional _
  have back := roundCode_shortest code
  simp [Numeral.read?, sign, Numeral.readMagnitude?_positional, ofNumeral, back, code.isLt]

/-- The text of an infinity is no numeral. -/
theorem read?_text_infinite (negative : Bool) :
    Numeral.read? (Binary64.infinite negative).text = none := by
  cases negative <;> decide

/-- Two numbers with the same text are the same. -/
theorem text_injective {x y : Binary64} (same : x.text = y.text) : x = y := by
  have read : (Numeral.read? x.text).map ofNumeral = (Numeral.read? y.text).map ofNumeral := by
    rw [same]
  have not_a_number : Numeral.read? Binary64.nan.text = none := by decide
  cases x with
  | finite negative code =>
    cases y with
    | finite negative' code' =>
      rw [read?_text_finite, read?_text_finite] at read
      exact Option.some.inj read
    | infinite negative' =>
      rw [read?_text_finite, read?_text_infinite] at read
      cases read
    | nan =>
      rw [read?_text_finite, not_a_number] at read
      cases read
  | infinite negative =>
    cases y with
    | finite negative' code' =>
      rw [read?_text_finite, read?_text_infinite] at read
      cases read
    | infinite negative' =>
      have sign : ∀ p q : Bool,
          (Binary64.infinite p).text = (Binary64.infinite q).text → p = q := by
        decide
      rw [sign negative negative' same]
    | nan => cases negative <;> exact absurd same (by decide)
  | nan =>
    cases y with
    | finite negative' code' =>
      rw [read?_text_finite, not_a_number] at read
      cases read
    | infinite negative' => cases negative' <;> exact absurd same (by decide)
    | nan => rfl

/-- One tenth, a power of ten beyond `10 ^ 16`, minus zero, a tie of two decimals with seventeen
digits (the greater is taken), and the smallest magnitude. -/
example :
    (ofWord 0x3FB999999999999A).text = "0.1".toList ∧
      (ofWord 0x4415AF1D78B58C40).text = "100000000000000000000".toList ∧
      (ofWord 0x8000000000000000).text = "-0".toList ∧
      (ofWord 0x3E60000000000000).text = "0.000000029802322387695313".toList ∧
      shortest 1 = ⟨5, 324⟩ := by
  decide +kernel

end FormulaScan.Binary64
