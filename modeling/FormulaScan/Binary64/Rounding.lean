import FormulaScan.Binary64.Basic
import FormulaScan.Numeral

/-!
# Rounding to binary64

The code of the magnitude nearest to a fraction, a tie going to the even code, and the number that a
numeral writes. A fraction beyond the greatest finite magnitude by half a step or more becomes an
infinity, one below half of the smallest magnitude becomes a zero; a sign stays.

The fraction is first brought to the scale of the smallest magnitude. Where its whole part has more
than 53 binary digits, `excess` of them are cut off; the codes run on from one exponent to the next,
so a quotient that rounds up to a power of two needs no case of its own. The main statements are
`roundCode_scale` (only the value of the fraction counts) and `roundCode_units` (a magnitude is its
own rounding).
-/

namespace FormulaScan.Binary64

-- Powers of naturals are those of the core library here, whatever other instances are known.
attribute [local instance (high)] instPowNat

/-- The whole number nearest to `numerator / denominator`; a tie goes to the even one. -/
def roundEven (numerator denominator : Nat) : Nat :=
  let quotient := numerator / denominator
  let rest := 2 * (numerator % denominator)
  if rest < denominator then quotient
  else if denominator < rest then quotient + 1
  else quotient + quotient % 2

/-- The number of binary digits beyond 53. -/
def excess (n : Nat) : Nat := n.log2 - 52

/-- The code of the magnitude nearest to `numerator / denominator`, infinity's or more if there is
none. -/
def roundCode (numerator denominator : Nat) : Nat :=
  let cut := excess (numerator * scale / denominator)
  cut * binade + roundEven (numerator * scale) (denominator * 2 ^ cut)

/-- The number with a given sign whose magnitude is nearest to a decimal. -/
def ofNumeral (numeral : Numeral) : Binary64 :=
  let code := roundCode numeral.magnitude.digits (10 ^ numeral.magnitude.places)
  if h : code < infinityCode then .finite numeral.negative ⟨code, h⟩
  else .infinite numeral.negative

/-! ## Laws of rounding -/

/-- Rounding a quotient depends on the value of the quotient alone. -/
theorem roundEven_scale (numerator denominator : Nat) {factor : Nat} (positive : 0 < factor) :
    roundEven (numerator * factor) (denominator * factor) = roundEven numerator denominator := by
  have lt_iff (a b : Nat) : a * factor < b * factor ↔ a < b := Nat.mul_lt_mul_right positive
  simp only [roundEven, Nat.mul_div_mul_right _ _ positive, Nat.mul_mod_mul_right,
    ← Nat.mul_assoc, lt_iff]

/-- The rounding of an exact quotient is the quotient. -/
theorem roundEven_mul (quotient : Nat) {denominator : Nat} (positive : 0 < denominator) :
    roundEven (quotient * denominator) denominator = quotient := by
  simp [roundEven, Nat.mul_div_cancel _ positive, positive]

/-- The rounding is nowhere more than half a unit away. -/
theorem roundEven_near (numerator : Nat) {denominator : Nat} (positive : 0 < denominator) :
    2 * numerator ≤ (2 * roundEven numerator denominator + 1) * denominator ∧
      2 * roundEven numerator denominator * denominator ≤ 2 * numerator + denominator := by
  have parts := Nat.div_add_mod numerator denominator
  have bound := Nat.mod_lt numerator positive
  have lower : 2 * (numerator / denominator) * denominator =
      2 * (denominator * (numerator / denominator)) := by
    rw [Nat.mul_assoc, Nat.mul_comm (numerator / denominator)]
  simp only [roundEven]
  split
  · simp only [Nat.add_mul, lower]
    omega
  · split
    · simp only [Nat.add_mul, Nat.mul_add, lower]
      omega
    · rcases Nat.mod_two_eq_zero_or_one (numerator / denominator) with even | odd
      · simp only [even, Nat.add_zero, Nat.add_mul, lower]
        omega
      · simp only [odd, Nat.add_mul, Nat.mul_add, lower]
        omega

/-- Halfway between two whole numbers the even one is taken. -/
theorem roundEven_tie {numerator denominator : Nat}
    (tie : 2 * (numerator % denominator) = denominator) :
    roundEven numerator denominator % 2 = 0 := by
  simp only [roundEven, tie, Nat.lt_irrefl, if_false]
  omega

/-- The code of a fraction depends on the value of the fraction alone. -/
theorem roundCode_scale (numerator denominator : Nat) {factor : Nat} (positive : 0 < factor) :
    roundCode (numerator * factor) (denominator * factor) = roundCode numerator denominator := by
  simp only [roundCode, Nat.mul_right_comm _ factor, Nat.mul_div_mul_right _ _ positive,
    roundEven_scale _ _ positive]

/-- Equal fractions have the same code. -/
theorem roundCode_congr {numerator denominator numerator' denominator' : Nat}
    (positive : 0 < denominator) (positive' : 0 < denominator')
    (equal : numerator * denominator' = numerator' * denominator) :
    roundCode numerator denominator = roundCode numerator' denominator' := by
  calc roundCode numerator denominator
      = roundCode (numerator * denominator') (denominator * denominator') :=
        (roundCode_scale _ _ positive').symm
    _ = roundCode (numerator' * denominator) (denominator' * denominator) := by
        rw [equal, Nat.mul_comm denominator]
    _ = roundCode numerator' denominator' := roundCode_scale _ _ positive

/-- Every finite magnitude is its own rounding. -/
theorem roundCode_units (code : Nat) : roundCode (units code) scale = code := by
  have scale_pos : 0 < scale := by decide +kernel
  by_cases small : code < binade
  · have none_cut : excess code = 0 := by
      have : code.log2 < 52 + 1 := by
        rcases Nat.eq_zero_or_pos code with rfl | positive
        · decide
        · exact (Nat.log2_lt (by omega)).mpr (Nat.lt_trans small (by decide))
      simp only [excess]
      omega
    simp [roundCode, units, small, Nat.mul_div_cancel _ scale_pos, none_cut,
      roundEven_mul _ scale_pos]
  · obtain ⟨exponent, fraction, bound, rfl⟩ :
        ∃ exponent fraction, fraction < binade ∧ code = (exponent + 1) * binade + fraction := by
      have positive : 0 < binade := by decide
      have large : 0 < code / binade := Nat.div_pos (Nat.le_of_not_lt small) positive
      refine ⟨code / binade - 1, code % binade, Nat.mod_lt _ positive, ?_⟩
      rw [Nat.sub_add_cancel large, Nat.mul_comm, Nat.div_add_mod]
    have leading : 0 < binade := by decide
    have nonzero : (binade + fraction) * 2 ^ exponent ≠ 0 :=
      Nat.mul_ne_zero (by omega) (Nat.ne_of_gt (Nat.two_pow_pos exponent))
    have cut : excess ((binade + fraction) * 2 ^ exponent) = exponent := by
      have lower : 52 + exponent ≤ ((binade + fraction) * 2 ^ exponent).log2 := by
        rw [Nat.le_log2 nonzero, Nat.pow_add]
        exact Nat.mul_le_mul_right _ (Nat.le_add_right _ _)
      have upper : ((binade + fraction) * 2 ^ exponent).log2 < 53 + exponent := by
        rw [Nat.log2_lt nonzero, Nat.pow_add]
        refine Nat.mul_lt_mul_of_pos_right ?_ (Nat.two_pow_pos exponent)
        have : binade + binade = 2 ^ 53 := by decide
        omega
      simp only [excess]
      omega
    have exact : (binade + fraction) * 2 ^ exponent * scale =
        (binade + fraction) * (scale * 2 ^ exponent) := by
      rw [Nat.mul_assoc, Nat.mul_comm (2 ^ exponent)]
    rw [roundCode, units_normal bound, Nat.mul_div_cancel _ scale_pos, cut, exact,
      roundEven_mul _ (Nat.mul_pos scale_pos (Nat.two_pow_pos exponent)), Nat.add_mul, Nat.one_mul,
      Nat.add_assoc]

end FormulaScan.Binary64
