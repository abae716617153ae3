/-!
# Operators

The six operators of a formula and the characters that write them. The main statements say that
`ofSymbol?` reads exactly what `symbol` writes.
-/

namespace FormulaScan

/-- An arithmetic operator. -/
inductive Operator where
  | add
  | subtract
  | multiply
  | divide
  | power
  | modulo
  deriving DecidableEq, Repr, Hashable

namespace Operator

/-- All operators, in the order in which they are numbered. -/
def all : List Operator := [add, subtract, multiply, divide, power, modulo]

/-- The character that writes an operator. -/
def symbol : Operator → Char
  | add => '+'
  | subtract => '-'
  | multiply => '*'
  | divide => '/'
  | power => '^'
  | modulo => '%'

/-- The operator that a character writes. -/
def ofSymbol? (c : Char) : Option Operator :=
  all.find? fun op => op.symbol = c

/-- The place of an operator in `all`. -/
def index (op : Operator) : Nat := all.idxOf op

/-- Every operator stands in `all` at its index. -/
theorem all_getElem?_index (op : Operator) : all[op.index]? = some op := by
  cases op <;> rfl

/-- Reading the symbol of an operator gives the operator back. -/
@[simp] theorem ofSymbol?_symbol (op : Operator) : ofSymbol? op.symbol = some op := by
  cases op <;> rfl

/-- A character is read as an operator exactly when it is the operator's symbol. -/
theorem ofSymbol?_eq_some_iff {c : Char} {op : Operator} :
    ofSymbol? c = some op ↔ c = op.symbol := by
  constructor
  · intro h
    have := List.find?_some h
    simpa [eq_comm] using this
  · rintro rfl
    exact ofSymbol?_symbol op

/-- Different operators have different symbols. -/
theorem symbol_injective {op op' : Operator} (same : op.symbol = op'.symbol) : op = op' := by
  have read := ofSymbol?_symbol op
  rw [same, ofSymbol?_symbol] at read
  exact (Option.some.inj read).symm

end Operator

end FormulaScan
