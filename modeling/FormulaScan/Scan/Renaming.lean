import FormulaScan.Grammar.Segment
import FormulaScan.Scan.Part

/-!
# Renaming separators and unknown characters

A scan knows letters, digits, blanks and symbols, and the separator of its settings. A `Renaming`
keeps the characters that every scan knows, takes the separator of one scan to that of another, and
takes the other unknown characters to unknown ones in whatever way.
-/

namespace FormulaScan

/-- Tells whether a character has a meaning whatever the separator. -/
def isKnown (c : Char) : Bool := c.isAlphanum || Text.isBlank c || Segment.isSymbol c

/-- A map on characters that keeps those that every scan knows and takes one separator to another. -/
structure Renaming (separator separator' : Char) where
  map : Char → Char
  map_eq_self : ∀ c, isKnown c = true → map c = c
  isKnown_map : ∀ c, isKnown c = false → isKnown (map c) = false
  map_eq_separator_iff : ∀ c, map c = separator' ↔ c = separator

/-- The same fault with its text or character renamed. -/
def Fault.rename (map : Char → Char) : Fault → Fault
  | .malformedNumber text position => .malformedNumber (text.map map) position
  | .unexpectedCharacter character position => .unexpectedCharacter (map character) position

/-- The same finding with the text or character of a fault renamed. -/
def Finding.rename (map : Char → Char) : Finding → Finding
  | .fault f => .fault (f.rename map)
  | .token t => .token t
  | .blank start length => .blank start length

theorem isKnown_of_isSeparator {s : Char} (h : isSeparator s = true) : isKnown s = false := by
  simp_all [isSeparator, isKnown, Segment.isSymbol]

/-- The renaming that exchanges two separators. -/
def Renaming.exchange {s t : Char} (isSeparator_s : isSeparator s = true)
    (isSeparator_t : isSeparator t = true) : Renaming s t where
  map c := if c = s then t else if c = t then s else c
  map_eq_self c known := by
    have noS : c ≠ s := by
      rintro rfl
      simp [isKnown_of_isSeparator isSeparator_s] at known
    have noT : c ≠ t := by
      rintro rfl
      simp [isKnown_of_isSeparator isSeparator_t] at known
    rw [if_neg noS, if_neg noT]
  isKnown_map c unknown := by
    split
    · exact isKnown_of_isSeparator isSeparator_t
    · split
      · exact isKnown_of_isSeparator isSeparator_s
      · exact unknown
  map_eq_separator_iff c := by
    split
    · rename_i isS
      exact iff_of_true rfl isS
    · rename_i noS
      split
      · rename_i isT
        exact iff_of_false (fun same => noS (isT.trans same.symm)) noS
      · rename_i noT
        exact iff_of_false noT noS

/-- A formula with points and commas exchanged. -/
example :
    "2.5 + x, -1.".toList.map
        (Renaming.exchange (s := '.') (t := ',') (by decide) (by decide)).map =
      "2,5 + x. -1,".toList := by
  decide +kernel

end FormulaScan
