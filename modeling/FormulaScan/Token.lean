import FormulaScan.Operator
import FormulaScan.Binary64.Shortest

/-!
# Tokens

A token is a value together with the place of the text that it was read from. Two tokens are
*alike* when they stand at the same place and have values that are equal as numbers or texts: a
zero equals a negative zero, and a not-a-number equals itself. Alike tokens have the same hash
(`hashCode_eq_of_alike`).
-/

namespace FormulaScan

namespace Token

/-- What a token says. -/
inductive Value where
  | integer (value : Int64)
  | floatingPoint (value : Binary64)
  | identifier (name : String)
  | operator (op : Operator)
  | leftBracket
  | rightBracket
  deriving DecidableEq, Repr, Hashable

/-- The sort of a token, without what is particular to it. -/
inductive Kind where
  | integer
  | floatingPoint
  | identifier
  | operator
  | leftBracket
  | rightBracket
  deriving DecidableEq, Repr

end Token

/-- A value and the stretch of the formula that it was read from, counted in characters. -/
structure Token where
  value : Token.Value
  start : Nat
  length : Nat
  deriving DecidableEq, Repr, Hashable

namespace Token

/-! ## Kinds -/

/-- The sort of a value. -/
def Value.kind : Value → Kind
  | .integer _ => .integer
  | .floatingPoint _ => .floatingPoint
  | .identifier _ => .identifier
  | .operator _ => .operator
  | .leftBracket => .leftBracket
  | .rightBracket => .rightBracket

/-- The sort of a token. -/
def kind (t : Token) : Kind := t.value.kind

/-- Tells whether tokens of a sort stand for a value in a formula. -/
def Kind.isOperand : Kind → Bool
  | .integer | .floatingPoint | .identifier => true
  | .operator | .leftBracket | .rightBracket => false

/-- The name of a sort. -/
def Kind.name : Kind → String
  | .integer => "Integer"
  | .floatingPoint => "FloatingPoint"
  | .identifier => "Identifier"
  | .operator => "Operator"
  | .leftBracket => "LeftBracket"
  | .rightBracket => "RightBracket"

/-! ## Text -/

/-- The character that writes a value, for the values that one character writes. -/
def Value.symbol? : Value → Option Char
  | .operator op => some op.symbol
  | .leftBracket => some '('
  | .rightBracket => some ')'
  | .integer _ | .floatingPoint _ | .identifier _ => none

/-- Operators and brackets are the values that one character writes. -/
theorem Value.symbol?_eq_some_iff {value : Value} {c : Char} :
    value.symbol? = some c ↔
      (∃ op, value = .operator op ∧ c = op.symbol) ∨ (value = .leftBracket ∧ c = '(') ∨
        (value = .rightBracket ∧ c = ')') := by
  cases value <;> simp [symbol?, eq_comm]

/-- The text of a value. -/
def Value.text : Value → String
  | .integer n => String.ofList (wholeText n.toInt)
  | .floatingPoint x => String.ofList x.text
  | .identifier name => name
  | .operator op => String.singleton op.symbol
  | .leftBracket => "("
  | .rightBracket => ")"

/-- The position behind a token's last character. -/
def stop (t : Token) : Nat := t.start + t.length

/-- The text of a token: sort, value and place. -/
def text (t : Token) : String :=
  t.kind.name ++ "(" ++ t.value.text ++ ") @ " ++ toString t.start ++ ".." ++ toString t.stop

/-! ## Likeness -/

/-- The same value without the sign of zero. -/
def Value.unsignedZero : Value → Value
  | .floatingPoint x => .floatingPoint x.unsignedZero
  | value => value

/-- The same token without the sign of zero. -/
def unsignedZero (t : Token) : Token := { t with value := t.value.unsignedZero }

/-- Tells whether two tokens stand at the same place and have equal values. -/
def alike (a b : Token) : Bool := a.unsignedZero = b.unsignedZero

/-- A number that alike tokens share. -/
def hashCode (t : Token) : UInt64 := hash t.unsignedZero

/-- Alike tokens have the same hash. -/
theorem hashCode_eq_of_alike {a b : Token} (h : a.alike b = true) : a.hashCode = b.hashCode := by
  have same : a.unsignedZero = b.unsignedZero := by simpa [alike] using h
  simp only [hashCode, same]

/-- A token is alike to itself, also where it is not a number. -/
theorem alike_refl (t : Token) : t.alike t = true := by
  simp [alike]

/-- A bracket, a negative number, and two zeros that are alike. -/
example :
    text ⟨.rightBracket, 10, 1⟩ = "RightBracket()) @ 10..11" ∧
      text ⟨.integer (-3), 0, 2⟩ = "Integer(-3) @ 0..2" ∧
      alike ⟨.floatingPoint (.ofWord 0x8000000000000000), 0, 1⟩
        ⟨.floatingPoint (.ofWord 0), 0, 1⟩ = true := by
  decide +kernel

end Token

end FormulaScan
