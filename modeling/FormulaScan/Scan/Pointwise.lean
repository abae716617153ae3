import FormulaScan.Scan

/-!
# Scanning character by character

The rules of a scan without runs. At each position a character is offered to the readers from the
stage of the state on: a number takes in the digits and separators that follow, a name takes in
the ASCII letters and digits that follow, and a symbol is a single character. Whatever stopped a
number is offered to the name reader next, and whatever stopped a name to the symbol reader only.

Behind a number, a name and a right bracket an operator is expected, and an operand behind an
operator and a left bracket; blanks and text without a meaning change nothing.

`Pointwise.scan` follows these rules and nothing else, so it says what `FormulaScan.scan` is to
compute.
-/

namespace FormulaScan.Pointwise

/-- Tells whether a character goes on a number. -/
def continuesNumber (separator c : Char) : Bool := c.isDigit || c == separator

/-- Tells whether a character begins a number: a digit, the separator, or a minus sign in the
place of an operand. -/
def startsNumber (separator : Char) (expects : Expectation) (c : Char) : Bool :=
  continuesNumber separator c || (c == '-' && expects == .operand)

/-- The reader that takes a character. -/
def reader (separator : Char) (state : ScanState) (c : Char) : Stage :=
  if state.stage = .number ∧ startsNumber separator state.expects c then .number
  else if state.stage ≠ .symbol ∧ c.isAlpha then .name
  else .symbol

/-- What a reader makes of its characters, and what is expected behind them. -/
structure Outcome where
  finding : Finding
  expects : Expectation
  deriving DecidableEq, Repr

/-- Reads the characters of a number. They are an integer if they can be one, or else a
floating-point number; a lone minus sign is an operator, and anything else is malformed. -/
def readNumber (separator : Char) (expects : Expectation) (position : Nat) (text : List Char) :
    Outcome :=
  match Literal.integer? text, Literal.floatingPoint? separator text with
  | some n, _ => ⟨.token ⟨.integer n, position, text.length⟩, .operator⟩
  | none, some x => ⟨.token ⟨.floatingPoint x, position, text.length⟩, .operator⟩
  | none, none =>
    if text = ['-'] then ⟨.token ⟨.operator .subtract, position, 1⟩, .operand⟩
    else ⟨.fault (.malformedNumber (String.ofList text) position), expects⟩

/-- Reads the characters of a name. -/
def readName (position : Nat) (text : List Char) : Outcome :=
  ⟨.token ⟨.identifier (String.ofList text), position, text.length⟩, .operator⟩

/-- Reads a character that stands alone. -/
def readSymbol (expects : Expectation) (position : Nat) (c : Char) : Outcome :=
  if Text.isBlank c then ⟨.blank position 1, expects⟩
  else if c = '(' then ⟨.token ⟨.leftBracket, position, 1⟩, .operand⟩
  else if c = ')' then ⟨.token ⟨.rightBracket, position, 1⟩, .operator⟩
  else
    match Operator.ofSymbol? c with
    | some op => ⟨.token ⟨.operator op, position, 1⟩, .operand⟩
    | none => ⟨.fault (.unexpectedCharacter c position), expects⟩

/-- What is read from a text whose first character has a given position. -/
def findingsFrom (separator : Char) (state : ScanState) (position : Nat) :
    List Char → List Finding
  | [] => []
  | c :: rest =>
    match reader separator state c with
    | .number =>
      let more := rest.takeWhile (continuesNumber separator)
      let outcome := readNumber separator state.expects position (c :: more)
      outcome.finding ::
        findingsFrom separator ⟨outcome.expects, .name⟩ (position + 1 + more.length)
          (rest.dropWhile (continuesNumber separator))
    | .name =>
      let more := rest.takeWhile Char.isAlphanum
      let outcome := readName position (c :: more)
      outcome.finding ::
        findingsFrom separator ⟨outcome.expects, .symbol⟩ (position + 1 + more.length)
          (rest.dropWhile Char.isAlphanum)
    | .symbol =>
      let outcome := readSymbol state.expects position c
      outcome.finding :: findingsFrom separator ⟨outcome.expects, .number⟩ (position + 1) rest
termination_by text => text.length
decreasing_by
  · exact Nat.lt_succ_of_le (List.dropWhile_sublist _).length_le
  · exact Nat.lt_succ_of_le (List.dropWhile_sublist _).length_le
  · exact Nat.lt_succ_self _

/-- What a formula consists of. -/
def findings (separator : Char) (formula : List Char) : List Finding :=
  findingsFrom separator .initial 0 formula

/-- Scans a formula. -/
def scan (settings : Settings) (formula : String) : Except ScanError (List Token) :=
  if formula.toList = [] then .error .emptyFormula
  else
    let found := findings settings.separator formula.toList
    match settings.mode, found.findSome? Finding.fault? with
    | .strict, some f => .error (.fault f)
    | _, _ => .ok (found.filterMap Finding.token?)

@[simp] theorem findingsFrom_nil (separator : Char) (state : ScanState) (position : Nat) :
    findingsFrom separator state position [] = [] := by
  rw [findingsFrom]

/-- Of three minus signs before a digit the first two are operators and the third is a sign. -/
example :
    (findings '.' "---3".toList).filterMap Finding.token? =
      [⟨.operator .subtract, 0, 1⟩, ⟨.operator .subtract, 1, 1⟩, ⟨.integer (-3), 2, 2⟩] := by
  decide +kernel

end FormulaScan.Pointwise
