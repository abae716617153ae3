import FormulaScan.Grammar.Segment
import FormulaScan.Run.Partition
import FormulaScan.Settings
import Mathlib.Tactic.SplitIfs

/-!
# Kinds of runs

The kinds of runs are exclusive and exhaustive: the first character of a run settles its kind
(`Kind.admits_ofFirst`, `Kind.ofFirst_eq_of_admits`). An admissible separator is a run of its own
(`Kind.ofFirst_separator`).
-/

namespace FormulaScan

/-! ## Classes of characters -/

theorem isAlphanum_eq {c : Char} : c.isAlphanum = (c.isAlpha || c.isDigit) := rfl

theorem isAlphanum_of_isAlpha {c : Char} (letter : c.isAlpha = true) : c.isAlphanum = true := by
  rw [isAlphanum_eq, letter, Bool.true_or]

theorem isAlphanum_of_isDigit {c : Char} (digit : c.isDigit = true) : c.isAlphanum = true := by
  rw [isAlphanum_eq, digit, Bool.or_true]

theorem isDigit_eq_false_of_isAlpha {c : Char} (h : c.isAlpha = true) : c.isDigit = false := by
  rw [Text.isAlpha_iff_toNat] at h
  rw [Bool.eq_false_iff, ne_eq, Text.isDigit_iff_toNat]
  omega

/-- What makes a character an admissible separator. -/
theorem isSeparator_iff {s : Char} :
    isSeparator s = true ↔
      s.isAlphanum = false ∧ Text.isBlank s = false ∧ Text.isControl s = false ∧ s ≠ '(' ∧
        s ≠ ')' ∧ Operator.ofSymbol? s = none := by
  simp only [isSeparator, Bool.not_eq_true', Bool.or_eq_false_iff, beq_eq_false_iff_ne,
    Option.isSome_eq_false_iff, Option.isNone_iff_eq_none, ne_eq, and_assoc]

theorem ne_minus_of_isSeparator {s : Char} (h : isSeparator s = true) : s ≠ '-' := by
  rintro rfl
  exact absurd h (by decide)

theorem isDigit_of_isSeparator {s : Char} (h : isSeparator s = true) : s.isDigit = false := by
  have plain := (isSeparator_iff.mp h).1
  rw [isAlphanum_eq, Bool.or_eq_false_iff] at plain
  exact plain.2

/-! ## Rows of a class of characters -/

/-- The first element that is left is none of the class. -/
theorem takes_head_dropWhile {α : Type} {p : α → Bool} {text : List α} {c : α}
    (first : c ∈ (text.dropWhile p).head?) : p c = false := by
  have stopped := List.head?_dropWhile_not p text
  rw [Option.mem_def] at first
  simpa [first] using stopped

/-- Characters of a class that a text behind them does not go on are taken from the front only. -/
theorem takeWhile_append_of_head {p : Char → Bool} {behind : List Char}
    (stops : ∀ c ∈ behind.head?, p c = false) (text : List Char) :
    (text ++ behind).takeWhile p = text.takeWhile p ∧
      (text ++ behind).dropWhile p = text.dropWhile p ++ behind := by
  induction text with
  | nil =>
    cases behind with
    | nil => exact ⟨rfl, rfl⟩
    | cons c rest => simp [stops c rfl]
  | cons c rest ih => by_cases taken : p c = true <;> simp [taken, ih.1, ih.2]

/-- Characters of a class with a text behind them that does not go on are all that is taken. -/
theorem span_of_head {p : Char → Bool} {row behind : List Char}
    (goOn : ∀ c ∈ row, p c = true) (stops : ∀ c ∈ behind.head?, p c = false) :
    (row ++ behind).takeWhile p = row ∧ (row ++ behind).dropWhile p = behind := by
  have cut := takeWhile_append_of_head stops []
  rw [List.takeWhile_append_of_pos goOn, List.dropWhile_append_of_pos goOn]
  simpa using cut

/-- At least as many characters are taken as there are of the class at the front. -/
theorem length_le_takeWhile {p : Char → Bool} {text : List Char} {n : Nat} (bound : n ≤ text.length)
    (goOn : ∀ c ∈ text.take n, p c = true) : n ≤ (text.takeWhile p).length := by
  have taken : (text.take n ++ text.drop n).takeWhile p =
      text.take n ++ (text.drop n).takeWhile p := List.takeWhile_append_of_pos goOn
  rw [List.take_append_drop] at taken
  rw [taken, List.length_append, List.length_take]
  omega

namespace Segment

/-- The symbols are the brackets and the characters of the operators. -/
theorem isSymbol_iff {c : Char} :
    isSymbol c = true ↔ c = '(' ∨ c = ')' ∨ ∃ op : Operator, c = op.symbol := by
  simp only [isSymbol, Bool.or_eq_true, beq_iff_eq, Option.isSome_iff_exists,
    Operator.ofSymbol?_eq_some_iff, or_assoc]

/-- A symbol is no letter, no digit and no blank. -/
theorem plain_of_isSymbol {c : Char} (h : isSymbol c = true) :
    c.isAlphanum = false ∧ Text.isBlank c = false := by
  rcases isSymbol_iff.mp h with rfl | rfl | ⟨op, rfl⟩
  · decide
  · decide
  · cases op <;> decide

theorem isSymbol_of_isSeparator {s : Char} (h : isSeparator s = true) : isSymbol s = false := by
  obtain ⟨-, -, -, left, right, op⟩ := isSeparator_iff.mp h
  simp [isSymbol, left, right, op]

end Segment

namespace Run.Kind

/-! ## The kind of a first character -/

/-- A single character is of the form that its kind asks for. -/
theorem admits_ofFirst (c : Char) : (ofFirst c).admits [c] = true := by
  unfold ofFirst
  split_ifs with digit letter blank left right
  · simp [admits, digit]
  · simp [admits, letter]
  · simp [admits, blank]
  · simp [admits, left]
  · simp [admits, right]
  · cases op : Operator.ofSymbol? c with
    | some op => simp [admits, Operator.ofSymbol?_eq_some_iff.mp op]
    | none => simp [admits, isAlphanum_eq, digit, letter, blank, left, right, op]

/-- The first character of a text settles which kind of run the text can be. -/
theorem ofFirst_eq_of_admits {kind : Kind} {c : Char} {rest : List Char}
    (h : kind.admits (c :: rest) = true) : ofFirst c = kind := by
  cases kind with
  -- Every character of a row has the form of the row, the first one included.
  | digits =>
    have digit : c.isDigit = true := by simp_all [admits]
    simp [ofFirst, digit]
  | word =>
    have letter : c.isAlpha = true := by simp_all [admits]
    simp [ofFirst, letter, isDigit_eq_false_of_isAlpha letter]
  | blank =>
    have blank : Text.isBlank c = true := by simp_all [admits]
    have plain := Text.isAlphanum_eq_false_of_isBlank blank
    rw [isAlphanum_eq, Bool.or_eq_false_iff] at plain
    simp [ofFirst, blank, plain.1, plain.2]
  -- The other kinds are single characters.
  | operator op =>
    obtain ⟨rfl, rfl⟩ : c = op.symbol ∧ rest = [] := by simpa [admits] using h
    cases op <;> decide
  | leftBracket =>
    obtain ⟨rfl, rfl⟩ : c = '(' ∧ rest = [] := by simpa [admits] using h
    decide
  | rightBracket =>
    obtain ⟨rfl, rfl⟩ : c = ')' ∧ rest = [] := by simpa [admits] using h
    decide
  | other d =>
    simp only [admits, Bool.and_eq_true, beq_iff_eq, List.cons.injEq, Bool.not_eq_true',
      isAlphanum_eq, bne_iff_ne, ne_eq, Option.isNone_iff_eq_none, Bool.or_eq_false_iff] at h
    obtain ⟨⟨⟨⟨⟨⟨rfl, rfl⟩, letter, digit⟩, blank⟩, op⟩, left⟩, right⟩ := h
    simp [ofFirst, digit, letter, blank, left, right, op]

/-- The kind of a first character is the one whose form the character has. -/
theorem ofFirst_eq_iff {c : Char} {kind : Kind} :
    ofFirst c = kind ↔ kind.admits [c] = true := by
  constructor
  · rintro rfl
    exact admits_ofFirst c
  · exact ofFirst_eq_of_admits

theorem ofFirst_eq_digits_iff {c : Char} : ofFirst c = .digits ↔ c.isDigit = true := by
  simp [ofFirst_eq_iff, admits]

theorem ofFirst_eq_word_iff {c : Char} : ofFirst c = .word ↔ c.isAlpha = true := by
  simp [ofFirst_eq_iff, admits]

theorem ofFirst_eq_blank_iff {c : Char} : ofFirst c = .blank ↔ Text.isBlank c = true := by
  simp [ofFirst_eq_iff, admits]

theorem ofFirst_eq_operator_iff {c : Char} {op : Operator} :
    ofFirst c = .operator op ↔ c = op.symbol := by
  simp [ofFirst_eq_iff, admits]

/-- A run of another kind carries its character. -/
theorem eq_of_ofFirst_eq_other {c d : Char} (h : ofFirst c = .other d) : c = d := by
  simp only [ofFirst_eq_iff, admits, Bool.and_eq_true, beq_iff_eq, List.cons.injEq,
    and_true] at h
  exact h.1.1.1.1.1

/-- An admissible separator begins a run of another kind than digits, words, blanks, operators
and brackets. -/
theorem ofFirst_separator {s : Char} (h : isSeparator s = true) : ofFirst s = .other s := by
  obtain ⟨plain, blank, -, left, right, op⟩ := isSeparator_iff.mp h
  simp [ofFirst_eq_iff, admits, plain, blank, left, right, op]

/-- A character that is no letter, no digit and no blank begins no row of such characters. -/
theorem ofFirst_ne_of_plain {c : Char} (plain : c.isAlphanum = false)
    (visible : Text.isBlank c = false) :
    ofFirst c ≠ .digits ∧ ofFirst c ≠ .word ∧ ofFirst c ≠ .blank := by
  rw [isAlphanum_eq, Bool.or_eq_false_iff] at plain
  simp [ofFirst_eq_digits_iff, ofFirst_eq_word_iff, ofFirst_eq_blank_iff, plain, visible]

/-- A run that begins with no letter, no digit and no blank is a single character. -/
theorem continues_ofFirst {c : Char} (plain : c.isAlphanum = false)
    (visible : Text.isBlank c = false) (d : Char) : (ofFirst c).continues d = false := by
  obtain ⟨noDigits, noWord, noBlank⟩ := ofFirst_ne_of_plain plain visible
  cases kind : ofFirst c with
  | digits => exact absurd kind noDigits
  | word => exact absurd kind noWord
  | blank => exact absurd kind noBlank
  | operator op => rfl
  | leftBracket => rfl
  | rightBracket => rfl
  | other d => rfl

end Run.Kind

end FormulaScan
