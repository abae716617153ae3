import FormulaScan.Scan

/-!
# Parts of a formula

A formula can be cut at a *divider*: an operator other than the minus sign, a bracket, or white
space. `scanPart` scans what stands on one side of a divider by itself. Of the part in front of a
divider it need not know more than the text; of the part behind, only what is expected there,
because a minus sign at its beginning may be a sign or an operator.
-/

namespace FormulaScan

/-! ## Changing positions -/

/-- The same token at another place. -/
def Token.relocate (place : Nat → Nat) (t : Token) : Token := { t with start := place t.start }

/-- The same fault at another place. -/
def Fault.relocate (place : Nat → Nat) : Fault → Fault
  | .malformedNumber text position => .malformedNumber text (place position)
  | .unexpectedCharacter character position => .unexpectedCharacter character (place position)

/-- The same finding at another place. -/
def Finding.relocate (place : Nat → Nat) : Finding → Finding
  | .token t => .token (t.relocate place)
  | .blank start length => .blank (place start) length
  | .fault f => .fault (f.relocate place)

/-- The same error with another fault. -/
def ScanError.mapFault (onFault : Fault → Fault) : ScanError → ScanError
  | .emptyFormula => .emptyFormula
  | .fault f => .fault (onFault f)

/-- The answer to a scan with other tokens and another fault. -/
def mapAnswer (onToken : Token → Token) (onFault : Fault → Fault)
    (answer : Except ScanError (List Token)) : Except ScanError (List Token) :=
  (answer.map (List.map onToken)).mapError (ScanError.mapFault onFault)

/-- The same answer with all positions changed. -/
def relocate (place : Nat → Nat) : Except ScanError (List Token) → Except ScanError (List Token) :=
  mapAnswer (Token.relocate place) (Fault.relocate place)

/-! ## Dividers -/

/-- What cuts a formula into parts that can be scanned by themselves. -/
inductive Divider where
  | operator (op : Operator) (noSign : op ≠ .subtract)
  | leftBracket
  | rightBracket
  | blanks (row : List Char) (nonempty : row ≠ []) (blank : row.all Text.isBlank = true)

namespace Divider

/-- The text of a divider. -/
def text : Divider → String
  | .operator op _ => String.singleton op.symbol
  | .leftBracket => "("
  | .rightBracket => ")"
  | .blanks row _ _ => String.ofList row

/-- The tokens that a divider at a position becomes: one, or none if it is white space. -/
def tokens (position : Nat) : Divider → List Token
  | .operator op _ => [⟨.operator op, position, 1⟩]
  | .leftBracket => [⟨.leftBracket, position, 1⟩]
  | .rightBracket => [⟨.rightBracket, position, 1⟩]
  | .blanks _ _ _ => []

/-- What is expected behind a divider, given the tokens in front of it. White space leaves it to the
sort of the last of them; without one, an operand is expected. -/
def expectsBehind (before : List Token) : Divider → Expectation
  | .operator _ _ | .leftBracket => .operand
  | .rightBracket => .operator
  | .blanks _ _ _ =>
    match before.getLast?.map Token.kind with
    | none | some .operator | some .leftBracket => .operand
    | some .integer | some .floatingPoint | some .identifier | some .rightBracket => .operator

end Divider

/-- Scans a part of a formula by itself. Where an operand is expected, this is a scan of the part, and
an empty part has no tokens. Where an operator is expected, the part is scanned behind a number and
a space, which are then taken away again. -/
def scanPart (settings : Settings) (part : String) : Expectation → Except ScanError (List Token)
  | .operand => if part = "" then .ok [] else scan settings part
  | .operator => relocate (· - 2) ((scan settings ("0 " ++ part)).map List.tail)

/-- The same part where an operand and where an operator is expected. -/
example :
    (scanPart .default "-3" .operand).toOption = some [⟨.integer (-3), 0, 2⟩] ∧
      (scanPart .default "-3" .operator).toOption =
        some [⟨.operator .subtract, 0, 1⟩, ⟨.integer 3, 1, 1⟩] := by
  decide +kernel

end FormulaScan
