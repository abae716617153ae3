/-!
# Decimal fractions

A non-negative number with finitely many decimal places, and its positional text: all digits before
the point, and a point only where a digit other than zero follows it. `trimmed` gives the form with
the fewest places; `trimmed_value` says that it is the same number.
-/

namespace FormulaScan

-- Powers of naturals are those of the core library here, whatever other instances are known.
attribute [local instance (high)] instPowNat

/-- The number `digits / 10 ^ places`. -/
structure Decimal where
  digits : Nat
  places : Nat
  deriving DecidableEq, Repr

namespace Decimal

/-- The number `digits / 10 ^ places` in the form with the fewest places. -/
def trimmed (digits : Nat) : Nat → Decimal
  | 0 => ⟨digits, 0⟩
  | places + 1 =>
    if digits % 10 = 0 then trimmed (digits / 10) places else ⟨digits, places + 1⟩

/-- The digits of a number in base ten, with zeros before them up to a given width. -/
def padded (width n : Nat) : List Char :=
  List.replicate (width - (Nat.toDigits 10 n).length) '0' ++ Nat.toDigits 10 n

/-- At least one digit before the point, all places after it, and no point without places. -/
def positional (d : Decimal) : List Char :=
  let row := padded (d.places + 1) d.digits
  let whole := row.take (row.length - d.places)
  if d.places = 0 then whole else whole ++ '.' :: row.drop (row.length - d.places)

/-- Padding writes ASCII digits only. -/
theorem all_isDigit_padded (width n : Nat) : (padded width n).all Char.isDigit = true := by
  rw [List.all_eq_true]
  intro c hc
  rcases List.mem_append.mp hc with hz | hd
  · rw [List.eq_of_mem_replicate hz]
    rfl
  · exact Nat.isDigit_of_mem_toDigits (by decide) (by decide) hd

/-- Padding reaches the width that was asked for. -/
theorem le_length_padded (width n : Nat) : width ≤ (padded width n).length := by
  simp only [padded, List.length_append, List.length_replicate]
  omega

/-- Trimming keeps the number. -/
theorem trimmed_value (digits places : Nat) :
    (trimmed digits places).digits * 10 ^ places =
      digits * 10 ^ (trimmed digits places).places := by
  induction places generalizing digits with
  | zero => rfl
  | succ places ih =>
    by_cases h : digits % 10 = 0
    · have hd : digits = digits / 10 * 10 := by omega
      have step := ih (digits / 10)
      simp only [trimmed, h, if_true]
      calc (trimmed (digits / 10) places).digits * 10 ^ (places + 1)
          = (trimmed (digits / 10) places).digits * 10 ^ places * 10 := by
            rw [Nat.pow_succ, Nat.mul_assoc]
        _ = digits / 10 * 10 ^ (trimmed (digits / 10) places).places * 10 := by rw [step]
        _ = digits / 10 * 10 * 10 ^ (trimmed (digits / 10) places).places := by
            rw [Nat.mul_right_comm]
        _ = digits * 10 ^ (trimmed (digits / 10) places).places := by rw [← hd]
    · simp only [trimmed, h, if_false]

/-- A trimmed number has no places or a last digit other than zero. -/
theorem trimmed_places (digits places : Nat) :
    (trimmed digits places).places = 0 ∨ (trimmed digits places).digits % 10 ≠ 0 := by
  induction places generalizing digits with
  | zero => exact .inl rfl
  | succ places ih =>
    by_cases h : digits % 10 = 0
    · simpa only [trimmed, h, if_true] using ih (digits / 10)
    · simp [trimmed, h]

/-- A whole number has no point, and a fraction below one has a zero before it. -/
example :
    positional ⟨120, 0⟩ = "120".toList ∧ positional ⟨125, 2⟩ = "1.25".toList ∧
      positional ⟨5, 3⟩ = "0.005".toList ∧ trimmed 1500 3 = ⟨15, 1⟩ := by
  decide +kernel

end Decimal

end FormulaScan
