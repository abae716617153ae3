import FormulaScan.Operator
import FormulaScan.Text.Blank

/-!
# The lexical grammar of formulas

Which formulas have a meaning throughout, said without a scan. A formula is cut from left to right
into segments, each as long as possible: white space, a single operator or bracket, a word, or a
row of digits and separators; a character that begins none of these is foreign. The formula is in
the grammar if it is not empty, no segment is foreign, every row of digits and separators has at
least one digit and at most one separator, and no word is directly followed by a separator.
Whether a minus sign is a sign or an operator does not matter.
-/

namespace FormulaScan

/-- What the characters of a segment have in common. -/
inductive Segment.Kind where
  | blank
  | symbol
  | word
  | number
  | foreign
  deriving DecidableEq, Repr

/-- A stretch of a formula as the lexical grammar cuts it. -/
structure Segment where
  kind : Segment.Kind
  text : List Char
  deriving DecidableEq, Repr

namespace Segment

/-- Tells whether a character is an operator or a bracket. -/
def isSymbol (c : Char) : Bool := c == '(' || c == ')' || (Operator.ofSymbol? c).isSome

/-- The kind of the segment that begins with a character. -/
def Kind.ofFirst (separator c : Char) : Kind :=
  if Text.isBlank c then .blank
  else if isSymbol c then .symbol
  else if c.isAlpha then .word
  else if c.isDigit || c == separator then .number
  else .foreign

/-- The characters that a segment of a kind takes in after its first one. -/
def Kind.continues (separator : Char) : Kind → Char → Bool
  | .blank, c => Text.isBlank c
  | .word, c => c.isAlphanum
  | .number, c => c.isDigit || c == separator
  | .symbol, _ | .foreign, _ => false

/-- The segments of a text. -/
def list (separator : Char) : List Char → List Segment
  | [] => []
  | c :: rest =>
    let kind := Kind.ofFirst separator c
    ⟨kind, c :: rest.takeWhile (kind.continues separator)⟩ ::
      list separator (rest.dropWhile (kind.continues separator))
termination_by text => text.length
decreasing_by
  exact Nat.lt_succ_of_le (List.dropWhile_sublist _).length_le

/-- Tells whether a segment has a meaning by itself. -/
def isMeaningful (separator : Char) (segment : Segment) : Bool :=
  match segment.kind with
  | .blank | .symbol | .word => true
  | .number =>
    segment.text.any Char.isDigit && decide (segment.text.countP (· == separator) ≤ 1)
  | .foreign => false

/-- Tells whether a word is directly followed by a segment that begins with the separator. -/
def hasSeparatorBehindWord (separator : Char) : List Segment → Bool
  | word :: next :: rest =>
    (word.kind == .word && next.text.head? == some separator) ||
      hasSeparatorBehindWord separator (next :: rest)
  | _ => false

/-- Tells whether a formula is in the lexical grammar. -/
def isGrammatical (separator : Char) (formula : List Char) : Bool :=
  !formula.isEmpty && (list separator formula).all (isMeaningful separator) &&
    !hasSeparatorBehindWord separator (list separator formula)

@[simp] theorem list_nil (separator : Char) : list separator [] = [] := by
  rw [list]

/-- The segments make up the whole text. -/
theorem flatMap_text_list (separator : Char) (text : List Char) :
    (list separator text).flatMap Segment.text = text := by
  fun_induction list separator text with
  | case1 => rfl
  | case2 c rest kind ih =>
    rw [List.flatMap_cons, ih]
    simp

/-- A number may begin with a point, but a point behind a word is not in the grammar. -/
example :
    isGrammatical '.' "-(x1+.5) 2a".toList = true ∧ isGrammatical '.' "x.5".toList = false ∧
      isGrammatical '.' "1.2.3".toList = false ∧ isGrammatical '.' "1 . 2".toList = false ∧
      isGrammatical '.' "".toList = false := by
  decide +kernel

end Segment

end FormulaScan
