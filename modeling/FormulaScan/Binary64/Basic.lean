/-!
# Binary64 numbers

The floating-point numbers of the IEEE 754 format binary64, without the run-time floats: a sign
and a *code* for the finite magnitudes, the two infinities, and one not-a-number.

The code of a magnitude is what its exponent and fraction fields read as one number. Codes are in
the order of the magnitudes, and the magnitude with code `k` is `units k / 2 ^ 1074`, a whole
multiple of the smallest positive one. The main statements of this file are about the words that
store a number, `ofWord_toWord?`, and about the magnitudes from `2 ^ 52` units on, `units_normal`.
-/

namespace FormulaScan

-- Powers of naturals are those of the core library here, whatever other instances are known.
attribute [local instance (high)] instPowNat

namespace Binary64

/-- The code of infinity; the finite magnitudes have the codes below it. -/
def infinityCode : Nat := 0x7FF0000000000000

/-- The number of magnitudes with the same exponent. -/
def binade : Nat := 2 ^ (52 : Nat)

/-- The number of binary places of the smallest positive magnitude. -/
@[irreducible] def scaleExponent : Nat := 1074

/-- The scale on which every finite magnitude is a whole number. -/
def scale : Nat := 2 ^ scaleExponent

end Binary64

/-- A binary64 number; a zero has a sign, and all not-a-numbers are one. -/
inductive Binary64 where
  | finite (negative : Bool) (code : Fin Binary64.infinityCode)
  | infinite (negative : Bool)
  | nan
  deriving DecidableEq, Repr, Hashable

namespace Binary64

/-- The zero without a minus sign. -/
def zero : Binary64 := .finite false ⟨0, by decide⟩

/-- The magnitude with a given code, as a multiple of the smallest positive one. -/
def units (code : Nat) : Nat :=
  if code < binade then code else (binade + code % binade) * 2 ^ (code / binade - 1)

/-- The number that a 64-bit word stores. -/
def ofWord (word : UInt64) : Binary64 :=
  let negative := decide (2 ^ (63 : Nat) ≤ word.toNat)
  let code := word.toNat % 2 ^ (63 : Nat)
  if h : code < infinityCode then .finite negative ⟨code, h⟩
  else if code = infinityCode then .infinite negative
  else .nan

/-- The part of a word that stands for the sign. -/
def signWord (negative : Bool) : Nat := if negative then 2 ^ (63 : Nat) else 0

/-- The word that stores a number; not-a-numbers have many. -/
def toWord? : Binary64 → Option UInt64
  | .finite negative code => some (.ofNat (signWord negative + code))
  | .infinite negative => some (.ofNat (signWord negative + infinityCode))
  | .nan => none

/-- The same number without the sign of zero: what equal numbers have in common. -/
def unsignedZero (x : Binary64) : Binary64 :=
  if x = .finite true ⟨0, by decide⟩ then zero else x

/-- The word of a number stores the number. -/
theorem ofWord_toWord? {x : Binary64} {word : UInt64} (h : x.toWord? = some word) :
    ofWord word = x := by
  cases x with
  | nan => simp [toWord?] at h
  | infinite negative =>
    simp only [toWord?, Option.some.injEq] at h
    subst h
    cases negative <;> decide
  | finite negative code =>
    simp only [toWord?, Option.some.injEq] at h
    subst h
    have bound : code.val < 0x7FF0000000000000 := code.isLt
    cases negative with
    | false =>
      have value : (UInt64.ofNat (signWord false + code)).toNat = code := by
        simp only [signWord, UInt64.toNat_ofNat']
        simp
        omega
      have small : code.val % 2 ^ 63 = code := Nat.mod_eq_of_lt (by omega)
      simp only [ofWord, value, small, code.isLt, dif_pos]
      congr 1
      simp
      omega
    | true =>
      have value : (UInt64.ofNat (signWord true + code)).toNat = 2 ^ 63 + code := by
        simp only [signWord, UInt64.toNat_ofNat']
        simp
        omega
      have small : (2 ^ 63 + code.val) % 2 ^ 63 = code := by omega
      simp only [ofWord, value, small, code.isLt, dif_pos]
      congr 1
      simp

/-- The codes of normal magnitudes, written as a binade and a place in it. -/
theorem units_normal {exponent fraction : Nat} (h : fraction < binade) :
    units ((exponent + 1) * binade + fraction) = (binade + fraction) * 2 ^ exponent := by
  have positive : 0 < binade := by decide
  have large : ¬ (exponent + 1) * binade + fraction < binade := by
    have : binade ≤ (exponent + 1) * binade := Nat.le_mul_of_pos_left binade (by omega)
    omega
  have place : ((exponent + 1) * binade + fraction) % binade = fraction := by
    rw [Nat.mul_comm, Nat.mul_add_mod, Nat.mod_eq_of_lt h]
  have part : ((exponent + 1) * binade + fraction) / binade = exponent + 1 := by
    rw [Nat.mul_comm, Nat.mul_add_div positive, Nat.div_eq_of_lt h, Nat.add_zero]
  simp only [units, large, if_false, place, part, Nat.add_sub_cancel]

/-- The magnitudes of one, of the smallest normal number and of the smallest number. -/
example :
    units 0x3FF0000000000000 = scale ∧ units binade = 2 ^ 52 ∧ units 1 = 1 := by
  decide +kernel

end Binary64

end FormulaScan
