import FormulaScan.Scan.Reading

/-!
# Writing formulas

The other direction of a scan: lexical items, their texts, and formulas that consist of items with
white space between them. A literal is written without or with a minus sign; a signed literal is
*in place* at the beginning and right behind an operator or an opening bracket, where an operand
is expected.
-/

namespace FormulaScan

/-- A lexical item of a formula, as it is written. -/
inductive Item where
  | name (text : List Char)
  | operator (op : Operator)
  | leftBracket
  | rightBracket
  | literal (body : List Char)
  | signedLiteral (body : List Char)
  deriving DecidableEq, Repr

namespace Item

/-- The text of an item. -/
def text : Item → List Char
  | .name text => text
  | .operator op => [op.symbol]
  | .leftBracket => ['(']
  | .rightBracket => [')']
  | .literal body => body
  | .signedLiteral body => '-' :: body

/-- Tells whether a text is an ASCII letter followed by ASCII letters and digits. -/
def isName : List Char → Bool
  | c :: rest => c.isAlpha && rest.all Char.isAlphanum
  | [] => false

/-- Tells whether a text consists of digits and separators, at least one of the former and at most
one of the latter. -/
def isBody (separator : Char) (body : List Char) : Bool :=
  body.all (fun c => c.isDigit || c == separator) && decide (1 ≤ body.countP Char.isDigit) &&
    decide (body.count separator ≤ 1)

/-- Tells whether the text of an item is of the form that its sort asks for. -/
def isWellFormed (separator : Char) : Item → Bool
  | .name text => isName text
  | .literal body | .signedLiteral body => isBody separator body
  | .operator _ | .leftBracket | .rightBracket => true

/-- The value that an item stands for; a literal stands for the number that its text writes. -/
def value? (separator : Char) : Item → Option Token.Value
  | .name text => some (.identifier (String.ofList text))
  | .operator op => some (.operator op)
  | .leftBracket => some .leftBracket
  | .rightBracket => some .rightBracket
  | .literal body => (Literal.ofText? separator body).map Literal.tokenValue
  | .signedLiteral body => (Literal.ofText? separator ('-' :: body)).map Literal.tokenValue

/-- What is expected behind an item. -/
def expectsBehind : Item → Expectation
  | .operator _ | .leftBracket => .operand
  | .name _ | .rightBracket | .literal _ | .signedLiteral _ => .operator

/-- Tells whether every signed literal stands where an operand is expected. -/
def signsInPlace : Expectation → List Item → Bool
  | _, [] => true
  | expects, item :: rest =>
    (match item with
      | .signedLiteral _ => expects == .operand
      | _ => true) &&
      signsInPlace item.expectsBehind rest

/-- Tells whether items can make up a formula: each is of the form that its sort asks for, and the
signed literals are in place. -/
def isArranged (separator : Char) (items : List Item) : Bool :=
  items.all (isWellFormed separator) && signsInPlace .operand items

/-- What stands behind each item is white space, which only the last one may lack. -/
structure IsSpaced (items : List (Item × List Char)) : Prop where
  blank : ∀ item ∈ items, item.2.all Text.isBlank = true
  apart : ∀ item ∈ items.dropLast, item.2 ≠ []

/-- The formula in which each item is followed by its own white space. -/
def layout (items : List (Item × List Char)) : List Char :=
  items.flatMap fun item => item.1.text ++ item.2

/-- The tokens that stand for items with white space between them, from a given position on. -/
def tokensFrom (separator : Char) (start : Nat) : List (Item × List Char) → List Token
  | [] => []
  | (item, gap) :: rest =>
    ((item.value? separator).map fun value => ⟨value, start, item.text.length⟩).toList ++
      tokensFrom separator (start + item.text.length + gap.length) rest

/-- Items of a formula, its layout, and its tokens. -/
example :
    layout [(.signedLiteral ['3'], [' ']), (.operator .multiply, []), (.name ['x'], [])] =
        "-3 *x".toList ∧
      tokensFrom '.' 0 [(.signedLiteral ['3'], [' ']), (.operator .multiply, [])] =
        [⟨.integer (-3), 0, 2⟩, ⟨.operator .multiply, 3, 1⟩] ∧
      signsInPlace .operand [.name ['x'], .signedLiteral ['3']] = false := by
  decide +kernel

end Item

end FormulaScan
