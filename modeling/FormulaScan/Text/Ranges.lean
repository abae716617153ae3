/-!
# Sets of characters given by ranges

A property of characters is written down as a list of closed ranges of code points. The main
statement, `contains_iff`, reads membership off the list.
-/

namespace FormulaScan.Text

/-- A set of characters, as closed ranges of code points. -/
abbrev Ranges := List (Nat × Nat)

namespace Ranges

/-- Tells whether one of the ranges holds the character's code point. -/
def contains (ranges : Ranges) (c : Char) : Bool :=
  ranges.any fun range => range.1 ≤ c.toNat && c.toNat ≤ range.2

/-- A character is in the set exactly when its code point lies between the ends of a range. -/
theorem contains_iff {ranges : Ranges} {c : Char} :
    ranges.contains c = true ↔ ∃ range ∈ ranges, range.1 ≤ c.toNat ∧ c.toNat ≤ range.2 := by
  simp [contains]

end Ranges

end FormulaScan.Text
