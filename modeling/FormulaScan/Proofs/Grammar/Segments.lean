import FormulaScan.Proofs.Literal.Grammar
import FormulaScan.Proofs.Scan.Readers

/-!
# Reading segments one after the other

A formula is in the lexical grammar if it is not empty and *readable*: all its segments have a
meaning, and no word is directly followed by a separator. The lemmas here say how readability
depends on the first character of a text, kind by kind. White space and symbols in front of a text
never matter, and neither does a minus sign (`isReadable_sign_append`); a row of digits and
separators has to be well-formed (`isReadable_iff_row`), and a word has to be followed by something
else than a separator (`isReadable_of_isAlpha`).
-/

namespace FormulaScan.Segment

/-- The first segment and the segments behind it. -/
theorem list_cons (separator c : Char) (rest : List Char) :
    list separator (c :: rest) =
      ⟨.ofFirst separator c,
          c :: rest.takeWhile ((Kind.ofFirst separator c).continues separator)⟩ ::
        list separator (rest.dropWhile ((Kind.ofFirst separator c).continues separator)) := by
  rw [list]

/-- Tells whether all segments of a text have a meaning and no word is directly followed by a
separator. -/
def isReadable (separator : Char) (text : List Char) : Bool :=
  (list separator text).all (isMeaningful separator) &&
    !hasSeparatorBehindWord separator (list separator text)

@[simp] theorem isReadable_nil (separator : Char) : isReadable separator [] = true := by
  simp [isReadable, hasSeparatorBehindWord]

/-- The formulas in the grammar are the readable ones with at least one character. -/
theorem isGrammatical_iff {separator : Char} {formula : List Char} :
    isGrammatical separator formula = true ↔
      formula ≠ [] ∧ isReadable separator formula = true := by
  simp only [isGrammatical, isReadable, Bool.and_assoc, Bool.and_eq_true, Bool.not_eq_true',
    List.isEmpty_eq_false_iff]

/-- A segment is directly followed by the separator if the text behind it begins with one. -/
theorem hasSeparatorBehindWord_cons (separator : Char) (segment : Segment) (text : List Char) :
    hasSeparatorBehindWord separator (segment :: list separator text) =
      (segment.kind == .word && text.head? == some separator ||
        hasSeparatorBehindWord separator (list separator text)) := by
  cases text with
  | nil => simp [hasSeparatorBehindWord]
  | cons c rest => simp [list_cons, hasSeparatorBehindWord]

/-- A text is readable if its first segment has a meaning, is no word with the separator behind it,
and leaves a readable text. -/
theorem isReadable_cons (separator c : Char) (rest : List Char) :
    isReadable separator (c :: rest) =
      (isMeaningful separator ⟨.ofFirst separator c,
          c :: rest.takeWhile ((Kind.ofFirst separator c).continues separator)⟩ &&
        !(Kind.ofFirst separator c == .word &&
          (rest.dropWhile ((Kind.ofFirst separator c).continues separator)).head? ==
            some separator) &&
        isReadable separator
          (rest.dropWhile ((Kind.ofFirst separator c).continues separator))) := by
  simp only [isReadable, list_cons, List.all_cons, hasSeparatorBehindWord_cons, Bool.not_or]
  ac_rfl

/-! ## The kind of a first character -/

section Kinds

variable {separator c : Char}

theorem ofFirst_of_isBlank (blank : Text.isBlank c = true) :
    Kind.ofFirst separator c = .blank := by
  simp [Kind.ofFirst, blank]

theorem ofFirst_of_isSymbol (symbol : isSymbol c = true) :
    Kind.ofFirst separator c = .symbol := by
  simp [Kind.ofFirst, symbol, (plain_of_isSymbol symbol).2]

theorem visible_of_isAlphanum (alphanum : c.isAlphanum = true) :
    Text.isBlank c = false ∧ isSymbol c = false := by
  constructor
  · apply Bool.eq_false_iff.mpr
    intro blank
    rw [Text.isAlphanum_eq_false_of_isBlank blank] at alphanum
    cases alphanum
  · apply Bool.eq_false_iff.mpr
    intro symbol
    rw [(plain_of_isSymbol symbol).1] at alphanum
    cases alphanum

theorem ofFirst_of_isAlpha (letter : c.isAlpha = true) : Kind.ofFirst separator c = .word := by
  obtain ⟨visible, noSymbol⟩ := visible_of_isAlphanum (c := c) (by simp [isAlphanum_eq, letter])
  simp [Kind.ofFirst, visible, noSymbol, letter]

theorem ofFirst_of_continuesNumber (admissible : isSeparator separator = true)
    (goesOn : Pointwise.continuesNumber separator c = true) :
    Kind.ofFirst separator c = .number := by
  have visible := Pointwise.isBlank_of_continuesNumber admissible goesOn
  simp only [Pointwise.continuesNumber, Bool.or_eq_true, beq_iff_eq] at goesOn
  rcases goesOn with digit | rfl
  · have noSymbol := (visible_of_isAlphanum (c := c) (by simp [isAlphanum_eq, digit])).2
    have noLetter : c.isAlpha = false := by
      apply Bool.eq_false_iff.mpr
      intro letter
      rw [isDigit_eq_false_of_isAlpha letter] at digit
      cases digit
    simp [Kind.ofFirst, visible, noSymbol, noLetter, digit]
  · have plain := (isSeparator_iff.mp admissible).1
    rw [isAlphanum_eq, Bool.or_eq_false_iff] at plain
    simp [Kind.ofFirst, visible, isSymbol_of_isSeparator admissible, plain.1]

/-- What is no letter, no digit, no blank and no symbol has no meaning, unless it is the separator. -/
theorem ofFirst_of_plain (plain : c.isAlphanum = false) (visible : Text.isBlank c = false)
    (noSymbol : isSymbol c = false) (noSeparator : c ≠ separator) :
    Kind.ofFirst separator c = .foreign := by
  rw [isAlphanum_eq, Bool.or_eq_false_iff] at plain
  simp [Kind.ofFirst, visible, noSymbol, plain, noSeparator]

end Kinds

/-! ## Readable texts by their first character -/

section Readable

variable {separator c : Char}

/-- White space in front of a text does not matter. -/
theorem isReadable_dropWhile_isBlank (text : List Char) :
    isReadable separator (text.dropWhile Text.isBlank) = isReadable separator text := by
  cases text with
  | nil => rfl
  | cons c rest =>
    by_cases blank : Text.isBlank c = true
    · rw [isReadable_cons, ofFirst_of_isBlank blank, List.dropWhile_cons_of_pos blank]
      simp [isMeaningful]
      rfl
    · rw [List.dropWhile_cons_of_neg blank]

theorem isReadable_of_isBlank (blank : Text.isBlank c = true) (rest : List Char) :
    isReadable separator (c :: rest) = isReadable separator rest := by
  rw [← isReadable_dropWhile_isBlank, List.dropWhile_cons_of_pos blank,
    isReadable_dropWhile_isBlank]

/-- A symbol in front of a text does not matter. -/
theorem isReadable_of_isSymbol (symbol : isSymbol c = true) (rest : List Char) :
    isReadable separator (c :: rest) = isReadable separator rest := by
  have alone : rest.dropWhile (Kind.symbol.continues separator) = rest := by
    cases rest <;> rfl
  rw [isReadable_cons, ofFirst_of_isSymbol symbol, alone]
  simp [isMeaningful]

/-- A minus sign in front of a text does not matter. -/
theorem isReadable_sign_append (negative : Bool) (text : List Char) :
    isReadable separator (signText negative ++ text) = isReadable separator text := by
  cases negative with
  | false => rfl
  | true => exact isReadable_of_isSymbol (by decide) text

/-- A word in front of a text must not have the separator behind it. -/
theorem isReadable_of_isAlpha (letter : c.isAlpha = true) (rest : List Char) :
    isReadable separator (c :: rest) = true ↔
      (rest.dropWhile Char.isAlphanum).head? ≠ some separator ∧
        isReadable separator (rest.dropWhile Char.isAlphanum) = true := by
  have more : Kind.word.continues separator = Char.isAlphanum := rfl
  rw [isReadable_cons, ofFirst_of_isAlpha letter, more]
  simp [isMeaningful]

/-- A row of digits and separators has a meaning when it is the body of a literal. -/
theorem isMeaningful_number_iff (noDigit : separator.isDigit = false) {row : List Char}
    (goOn : ∀ d ∈ row, Pointwise.continuesNumber separator d = true) :
    isMeaningful separator ⟨.number, row⟩ = true ↔
      Literal.wellFormedBody separator row = true := by
  have form : ∀ d ∈ row, d.isDigit = true ∨ d = separator := by
    intro d member
    simpa [Pointwise.continuesNumber] using goOn d member
  rw [Literal.wellFormedBody_iff noDigit, and_iff_right form, isMeaningful, Bool.and_eq_true,
    List.any_eq_true, decide_eq_true_eq, List.count]

/-- A row of digits and separators in front of a text has to be well-formed, if there is one. -/
theorem isReadable_iff_row (admissible : isSeparator separator = true) (text : List Char) :
    isReadable separator text = true ↔
      (text.takeWhile (Pointwise.continuesNumber separator) = [] ∨
          Literal.wellFormedBody separator
            (text.takeWhile (Pointwise.continuesNumber separator)) = true) ∧
        isReadable separator (text.dropWhile (Pointwise.continuesNumber separator)) = true := by
  cases text with
  | nil => simp
  | cons c rest =>
    by_cases goesOn : Pointwise.continuesNumber separator c = true
    · have more : Kind.number.continues separator = Pointwise.continuesNumber separator := rfl
      have goOn : ∀ d ∈ c :: rest.takeWhile (Pointwise.continuesNumber separator),
          Pointwise.continuesNumber separator d = true := by
        rw [← List.takeWhile_cons_of_pos goesOn]
        exact List.all_eq_true.mp List.all_takeWhile
      have meaning := isMeaningful_number_iff (isDigit_of_isSeparator admissible) goOn
      rw [isReadable_cons, ofFirst_of_continuesNumber admissible goesOn, more,
        List.takeWhile_cons_of_pos goesOn, List.dropWhile_cons_of_pos goesOn, ← meaning]
      simp
    · rw [List.takeWhile_cons_of_neg goesOn, List.dropWhile_cons_of_neg goesOn]
      simp

/-- A text that begins with something without a meaning is not readable. -/
theorem not_isReadable_of_plain (plain : c.isAlphanum = false) (visible : Text.isBlank c = false)
    (noSymbol : isSymbol c = false) (noSeparator : c ≠ separator) (rest : List Char) :
    isReadable separator (c :: rest) = false := by
  rw [isReadable_cons, ofFirst_of_plain plain visible noSymbol noSeparator]
  rfl

end Readable

end FormulaScan.Segment
