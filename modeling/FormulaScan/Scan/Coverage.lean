import FormulaScan.Token
import FormulaScan.Text.Blank

/-!
# Characters that tokens cover

A token covers the characters that it was read from. What a list of tokens does not cover is
blank, or it is *lost*: it was left out although it is not white space.
-/

namespace FormulaScan

/-- Tells whether a token was read from the character at a position, among others. -/
def Token.covers (t : Token) (position : Nat) : Bool :=
  t.start ≤ position && position < t.stop

/-- A token covers the positions from its start up to its stop. -/
theorem Token.covers_iff {t : Token} {position : Nat} :
    t.covers position = true ↔ t.start ≤ position ∧ position < t.start + t.length := by
  simp only [Token.covers, Bool.and_eq_true, decide_eq_true_eq]
  exact Iff.rfl

/-- The positions of a formula that no token covers. -/
def uncovered (formula : List Char) (tokens : List Token) : List Nat :=
  (List.range formula.length).filter fun position => !tokens.any (·.covers position)

/-- The positions of a formula that no token covers and that hold no blank. -/
def lost (formula : List Char) (tokens : List Token) : List Nat :=
  (uncovered formula tokens).filter fun position => !(formula[position]?).any Text.isBlank

/-- A position is uncovered when it lies in the formula and in no token. -/
theorem mem_uncovered_iff {formula : List Char} {tokens : List Token} {position : Nat} :
    position ∈ uncovered formula tokens ↔
      position < formula.length ∧ ∀ t ∈ tokens, t.covers position = false := by
  simp [uncovered]

/-- A position is lost when it is uncovered and its character is no blank. -/
theorem mem_lost_iff {formula : List Char} {tokens : List Token} {position : Nat} :
    position ∈ lost formula tokens ↔
      (∀ t ∈ tokens, t.covers position = false) ∧
        ∃ c, formula[position]? = some c ∧ Text.isBlank c = false := by
  simp only [lost, List.mem_filter, mem_uncovered_iff]
  constructor
  · rintro ⟨⟨bound, free⟩, visible⟩
    refine ⟨free, formula[position], List.getElem?_eq_getElem bound, ?_⟩
    simpa [List.getElem?_eq_getElem bound] using visible
  · rintro ⟨free, c, place, visible⟩
    have bound : position < formula.length := (List.getElem?_eq_some_iff.mp place).1
    exact ⟨⟨bound, free⟩, by simp [place, visible]⟩

end FormulaScan
