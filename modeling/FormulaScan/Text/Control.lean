import FormulaScan.Text.Unprintable

/-!
# Control characters

The characters of the general category Cc. None of them has a visible form.
-/

namespace FormulaScan.Text

/-- The code points of the general category Cc. -/
def controlRanges : Ranges := [(0x0, 0x1F), (0x7F, 0x9F)]

/-- Tells whether a character is a control character. -/
def isControl (c : Char) : Bool := controlRanges.contains c

/-- A control character has no visible form. -/
theorem isUnprintable_of_isControl {c : Char} (h : isControl c = true) :
    isUnprintable c = true := by
  obtain ⟨range, member, bounds⟩ := Ranges.contains_iff.mp h
  refine Ranges.contains_iff.mpr ?_
  simp only [controlRanges, List.mem_cons, List.not_mem_nil, or_false] at member
  rcases member with rfl | rfl
  · exact ⟨(0x0, 0x1F), by decide +kernel, bounds⟩
  · exact ⟨(0x7F, 0xA0), by decide +kernel, bounds.1, Nat.le_trans bounds.2 (by decide)⟩

end FormulaScan.Text
