import FormulaScan.Run

/-!
# Maximal partitions

What makes a list of runs the runs of a text, said without cutting: the texts of the runs make up
the text, the positions count its characters, each run is of its kind, and no run could take in
the first character of the next.
-/

namespace FormulaScan.Run

/-- Tells whether a text is of the form that a kind of run asks for. -/
def Kind.admits (kind : Kind) (text : List Char) : Bool :=
  match kind with
  | .digits => !text.isEmpty && text.all Char.isDigit
  | .word =>
    match text with
    | c :: rest => c.isAlpha && rest.all Char.isAlphanum
    | [] => false
  | .blank => !text.isEmpty && text.all Text.isBlank
  | .operator op => text == [op.symbol]
  | .leftBracket => text == ['(']
  | .rightBracket => text == [')']
  | .other c =>
    text == [c] && !c.isAlphanum && !Text.isBlank c && (Operator.ofSymbol? c).isNone &&
      c != '(' && c != ')'

/-- Tells whether a run of one kind may be directly followed by a run of another: digits not by
digits, blanks not by blanks, and a word neither by a word nor by digits. -/
def Kind.mayPrecede : Kind → Kind → Bool
  | .digits, .digits | .blank, .blank | .word, .word | .word, .digits => false
  | _, _ => true

/-- The runs are a maximal partition of a text whose first character has a given position. -/
inductive Partition : Nat → List Char → List Run → Prop where
  | nil {start : Nat} : Partition start [] []
  | cons {start : Nat} {run : Run} {rest : List Char} {runs : List Run}
      (start_eq : run.start = start)
      (form : run.kind.admits run.text = true)
      (maximal : ∀ next ∈ runs.head?, run.kind.mayPrecede next.kind = true)
      (tail : Partition (start + run.length) rest runs) :
      Partition start (run.text ++ rest) (run :: runs)

/-- The runs are a maximal partition of a text, said property by property: the runs make up the
text, none is empty, each has the form of its kind, each starts behind the characters of those in
front of it, and none could take in the first character of the next. -/
structure IsMaximalPartition (start : Nat) (text : List Char) (runs : List Run) : Prop where
  flatMap_text : runs.flatMap Run.text = text
  nonempty : ∀ run ∈ runs, run.text ≠ []
  form : ∀ run ∈ runs, run.kind.admits run.text = true
  start_eq : ∀ front run behind, runs = front ++ run :: behind →
    run.start = start + (front.flatMap Run.text).length
  maximal : ∀ front run next behind, runs = front ++ run :: next :: behind →
    run.kind.mayPrecede next.kind = true

namespace Partition

/-- The texts of the runs of a partition make up the text. -/
theorem flatMap_text {start : Nat} {text : List Char} {runs : List Run}
    (partition : Partition start text runs) : runs.flatMap Run.text = text := by
  induction partition with
  | nil => rfl
  | cons _ _ _ _ ih => rw [List.flatMap_cons, ih]

end Partition

end FormulaScan.Run
