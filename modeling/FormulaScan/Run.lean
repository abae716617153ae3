import FormulaScan.Operator
import FormulaScan.Text.Blank

/-!
# Runs of a formula

A formula is cut into *runs* from left to right, each as long as its kind allows: ASCII digits, a
word (an ASCII letter and the letters and digits after it), blanks, a single operator or bracket, or
any other single character. A run has no meaning of its own; what it is read as depends on its
neighbours. The main statement, `flatMap_text_list`, says that the runs make up the whole formula.
-/

namespace FormulaScan

/-- What the characters of a run have in common. -/
inductive Run.Kind where
  | digits
  | word
  | blank
  | operator (op : Operator)
  | leftBracket
  | rightBracket
  | other (c : Char)
  deriving DecidableEq, Repr

/-- A stretch of a formula of one kind, with the position of its first character. -/
structure Run where
  kind : Run.Kind
  text : List Char
  start : Nat
  deriving DecidableEq, Repr

namespace Run

/-- The kind of the run that begins with a character. -/
def Kind.ofFirst (c : Char) : Kind :=
  if c.isDigit then .digits
  else if c.isAlpha then .word
  else if Text.isBlank c then .blank
  else if c = '(' then .leftBracket
  else if c = ')' then .rightBracket
  else
    match Operator.ofSymbol? c with
    | some op => .operator op
    | none => .other c

/-- The characters that a run of a kind takes in after its first one. -/
def Kind.continues : Kind → Char → Bool
  | .digits, c => c.isDigit
  | .word, c => c.isAlphanum
  | .blank, c => Text.isBlank c
  | _, _ => false

/-- The number of characters of a run. -/
def length (run : Run) : Nat := run.text.length

/-- The position behind the last character of a run. -/
def stop (run : Run) : Nat := run.start + run.length

/-- The runs of a text whose first character has a given position. -/
def listFrom (start : Nat) : List Char → List Run
  | [] => []
  | c :: rest =>
    let kind := Kind.ofFirst c
    let more := rest.takeWhile kind.continues
    ⟨kind, c :: more, start⟩ :: listFrom (start + 1 + more.length) (rest.dropWhile kind.continues)
termination_by text => text.length
decreasing_by
  exact Nat.lt_succ_of_le (List.dropWhile_sublist _).length_le

/-- The runs of a formula. -/
def list (formula : List Char) : List Run := listFrom 0 formula

@[simp] theorem listFrom_nil (start : Nat) : listFrom start [] = [] := by
  rw [listFrom]

/-- The first run and the runs behind it. -/
theorem listFrom_cons (start : Nat) (c : Char) (rest : List Char) :
    listFrom start (c :: rest) =
      ⟨Kind.ofFirst c, c :: rest.takeWhile (Kind.ofFirst c).continues, start⟩ ::
        listFrom (start + 1 + (rest.takeWhile (Kind.ofFirst c).continues).length)
          (rest.dropWhile (Kind.ofFirst c).continues) := by
  rw [listFrom]

/-- The texts of the runs, one after the other, are the text that was cut. -/
theorem flatMap_text_listFrom (start : Nat) (text : List Char) :
    (listFrom start text).flatMap Run.text = text := by
  fun_induction listFrom start text with
  | case1 => rfl
  | case2 start c rest kind more ih =>
    rw [List.flatMap_cons, ih]
    simp [more]

/-- The texts of the runs of a formula make up the formula. -/
theorem flatMap_text_list (formula : List Char) : (list formula).flatMap Run.text = formula :=
  flatMap_text_listFrom 0 formula

/-- No run is empty. -/
theorem text_ne_nil {start : Nat} {text : List Char} {run : Run}
    (h : run ∈ listFrom start text) : run.text ≠ [] := by
  fun_induction listFrom start text with
  | case1 => simp at h
  | case2 start c rest kind more ih =>
    rcases List.mem_cons.mp h with rfl | h
    · simp
    · exact ih h

/-- A word takes digits in, digits take no letters in, and an operator stands alone. -/
example :
    list "x1 +2a".toList =
      [⟨.word, ['x', '1'], 0⟩, ⟨.blank, [' '], 2⟩, ⟨.operator .add, ['+'], 3⟩,
        ⟨.digits, ['2'], 4⟩, ⟨.word, ['a'], 5⟩] := by
  decide +kernel

end Run

end FormulaScan
