import FormulaScan.Literal
import FormulaScan.Run
import FormulaScan.Scan.Finding

/-!
# Reading runs

A scan goes over the runs of a formula and keeps two things in mind. It knows whether an operand
or an operator is expected, because a minus sign belongs to the number behind it only where an
operand is expected. And it knows the *stage* from which the next run is read: a run is offered to
the number reader, then to the name reader, then to the symbol reader, but right behind a number
it skips the first, and right behind a name it skips the first two. So a separator right behind a
name starts no number, and a minus sign right behind a number or another lone minus sign is never
a sign.
-/

namespace FormulaScan

/-- What the grammar of formulas expects next. -/
inductive Expectation where
  | operand
  | operator
  deriving DecidableEq, Repr

/-- The first reader that is offered the next run. -/
inductive Stage where
  | number
  | name
  | symbol
  deriving DecidableEq, Repr

/-- What a scan knows between two runs. -/
structure ScanState where
  expects : Expectation
  stage : Stage
  deriving DecidableEq, Repr

/-- What is expected behind a value: an operand behind an operator or an opening bracket. -/
def Expectation.behind : Token.Value → Expectation
  | .operator _ | .leftBracket => .operand
  | .integer _ | .floatingPoint _ | .identifier _ | .rightBracket => .operator

namespace ScanState

/-- Before the first run an operand is expected, and all readers are offered the run. -/
def initial : ScanState := ⟨.operand, .number⟩

/-- The state behind a finding: only a token changes the expectation. -/
def next (state : ScanState) (finding : Finding) (stage : Stage) : ScanState :=
  match finding with
  | .token t => ⟨.behind t.value, stage⟩
  | .blank _ _ | .fault _ => ⟨state.expects, stage⟩

end ScanState

/-- The value of a token that a literal becomes. -/
def Literal.tokenValue : Literal → Token.Value
  | .integer n => .integer n
  | .floatingPoint x => .floatingPoint x

/-! ## The three readers -/

/-- Reads the text of a number. A minus sign that no digits follow is an operator; another text that
is no literal is a fault. -/
def numberFinding (separator : Char) (start : Nat) (text : List Char) : Finding :=
  match Literal.ofText? separator text with
  | some literal => .token ⟨literal.tokenValue, start, text.length⟩
  | none =>
    if text = ['-'] then .token ⟨.operator .subtract, start, 1⟩
    else .fault (.malformedNumber (String.ofList text) start)

/-- Reads the text of a name. -/
def nameFinding (start : Nat) (text : List Char) : Finding :=
  .token ⟨.identifier (String.ofList text), start, text.length⟩

namespace Run

/-- Tells whether a run goes on a number: digits or the separator. -/
def continuesNumber (separator : Char) (run : Run) : Bool :=
  match run.kind with
  | .digits => true
  | .other c => c == separator
  | _ => false

/-- Tells whether a run begins a number: digits, the separator, or a minus sign in the place of an
operand. -/
def startsNumber (separator : Char) (expects : Expectation) (run : Run) : Bool :=
  match run.kind with
  | .operator .subtract => expects == .operand
  | _ => run.continuesNumber separator

/-- The reader that takes a run. -/
def reader (separator : Char) (state : ScanState) (run : Run) : Stage :=
  if state.stage = .number ∧ run.startsNumber separator state.expects then .number
  else if state.stage ≠ .symbol ∧ run.kind = .word then .name
  else .symbol

end Run

/-- What one step of a scan gives: a finding, the stage of the next run, and the runs left. -/
structure ScanStep where
  finding : Finding
  stage : Stage
  rest : List Run

namespace ScanStep

/-- A number takes in all digits and separators that follow; the run behind it is read from the name
stage on. -/
def number (separator : Char) (run : Run) (rest : List Run) : ScanStep :=
  let more := rest.takeWhile (·.continuesNumber separator)
  { finding := numberFinding separator run.start (run.text ++ more.flatMap Run.text)
    stage := .name
    rest := rest.dropWhile (·.continuesNumber separator) }

/-- A name is a run of its own; the run behind it is read as a symbol. -/
def name (run : Run) (rest : List Run) : ScanStep :=
  { finding := nameFinding run.start run.text, stage := .symbol, rest }

/-- A symbol is a run of its own, and the next run is offered to all readers. Digits and words do
not stand right behind a word, so the symbol reader meets none; it would leave them to their
readers. -/
def symbol (separator : Char) (run : Run) (rest : List Run) : ScanStep :=
  match run.kind with
  | .digits => number separator run rest
  | .word => name run rest
  | .blank => ⟨.blank run.start run.length, .number, rest⟩
  | .operator op => ⟨.token ⟨.operator op, run.start, 1⟩, .number, rest⟩
  | .leftBracket => ⟨.token ⟨.leftBracket, run.start, 1⟩, .number, rest⟩
  | .rightBracket => ⟨.token ⟨.rightBracket, run.start, 1⟩, .number, rest⟩
  | .other c => ⟨.fault (.unexpectedCharacter c run.start), .number, rest⟩

/-- Reads the next run of a formula. -/
def ofRun (separator : Char) (state : ScanState) (run : Run) (rest : List Run) : ScanStep :=
  match run.reader separator state with
  | .number => number separator run rest
  | .name => name run rest
  | .symbol => symbol separator run rest

/-- The runs that a step leaves are the last ones of those that stood behind the one it read. -/
theorem rest_ofRun_suffix (separator : Char) (state : ScanState) (run : Run) (rest : List Run) :
    (ofRun separator state run rest).rest <:+ rest := by
  have dropped : (number separator run rest).rest <:+ rest := List.dropWhile_suffix _
  unfold ofRun
  split
  · exact dropped
  · exact List.suffix_rfl
  · unfold symbol
    split
    · exact dropped
    all_goals exact List.suffix_rfl

/-- A step leaves no more runs than stood behind the one it read. -/
theorem length_rest_ofRun_le (separator : Char) (state : ScanState) (run : Run)
    (rest : List Run) : (ofRun separator state run rest).rest.length ≤ rest.length :=
  (rest_ofRun_suffix separator state run rest).length_le

end ScanStep

end FormulaScan
