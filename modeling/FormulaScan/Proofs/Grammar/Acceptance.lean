import FormulaScan.Proofs.Grammar.Segments
import FormulaScan.Proofs.Scan.Answer
import FormulaScan.Proofs.Scan.Tiling

/-!
# What a strict scan accepts

A strict scan accepts the formulas of the lexical grammar and no others (`isOk_strict_scan_iff`). The
grammar takes no notice of what is expected at a minus sign, although the scan does: a sign that is
joined with a number is in front of a text that is well-formed with or without it, and a sign that is
not joined is an operator.

Along the readings of a scan, a text has no fault exactly when it is readable and, behind a name,
does not begin with the separator (`faultless_iff_isReadable`).
-/

namespace FormulaScan

namespace Pointwise

variable {separator : Char}

/-! ## When a reader finds a fault -/

/-- The text that the number reader takes is a row of digits and separators, with or without a minus
sign in front of it. -/
theorem exists_sign_of_startsNumber {expects : Expectation} {c : Char}
    (begins : startsNumber separator expects c = true) (rest : List Char) :
    ∃ negative tail, c :: rest = signText negative ++ tail ∧
      c :: rest.takeWhile (continuesNumber separator) =
        signText negative ++ tail.takeWhile (continuesNumber separator) ∧
      rest.dropWhile (continuesNumber separator) =
        tail.dropWhile (continuesNumber separator) := by
  by_cases goesOn : continuesNumber separator c = true
  · refine ⟨false, c :: rest, rfl, ?_, ?_⟩
    · rw [List.takeWhile_cons_of_pos goesOn]
      rfl
    · rw [List.dropWhile_cons_of_pos goesOn]
  · simp only [startsNumber, goesOn, Bool.false_or, Bool.and_eq_true, beq_iff_eq] at begins
    obtain ⟨rfl, -⟩ := begins
    exact ⟨true, rest, rfl, rfl, rfl⟩

/-- A row of digits and separators has no sign. -/
theorem head?_ne_minus_of_continuesNumber (admissible : isSeparator separator = true)
    {row : List Char} (goOn : ∀ c ∈ row, continuesNumber separator c = true) :
    row.head? ≠ some '-' := by
  intro first
  have goesOn := goOn '-' (List.mem_of_mem_head? first)
  simp [continuesNumber, (ne_minus_of_isSeparator admissible).symm] at goesOn

/-- A row of digits and separators with or without a sign is a literal exactly when the row is
well-formed. -/
theorem isSome_ofText?_iff_row (admissible : isSeparator separator = true) (negative : Bool)
    {row : List Char} (goOn : ∀ c ∈ row, continuesNumber separator c = true) :
    (Literal.ofText? separator (signText negative ++ row)).isSome = true ↔
      Literal.wellFormedBody separator row = true := by
  rw [Literal.isSome_ofText?_iff (isDigit_of_isSeparator admissible)
      (ne_minus_of_isSeparator admissible),
    splitSign_append negative (head?_ne_minus_of_continuesNumber admissible goOn)]

/-- The number reader finds no fault in a lone sign and in a well-formed row, with or without a
sign. -/
theorem numberFinding_fault?_eq_none_iff (admissible : isSeparator separator = true)
    (position : Nat) {negative : Bool} {row : List Char}
    (goOn : ∀ c ∈ row, continuesNumber separator c = true)
    (nonempty : signText negative ++ row ≠ []) :
    (numberFinding separator position (signText negative ++ row)).fault? = none ↔
      row = [] ∨ Literal.wellFormedBody separator row = true := by
  have unsigned := head?_ne_minus_of_continuesNumber admissible goOn
  have isLiteral := isSome_ofText?_iff_row admissible negative goOn
  -- Only a sign can stand there without a row behind it.
  have lone : signText negative ++ row = ['-'] ↔ row = [] := by
    constructor
    · intro same
      cases negative with
      | true => simpa using same
      | false => exact absurd (congrArg List.head? same) unsigned
    · rintro rfl
      cases negative with
      | true => rfl
      | false => exact absurd rfl nonempty
  obtain ⟨literal, value, found⟩ | ⟨isLone, found⟩ | ⟨noLiteral, notLone, found⟩ :=
    numberFinding_cases separator (signText negative ++ row)
  · rw [value] at isLiteral
    rw [found]
    exact iff_of_true rfl (.inr (isLiteral.mp rfl))
  · rw [found]
    exact iff_of_true rfl (.inl (lone.mp isLone))
  · have notWellFormed : ¬ Literal.wellFormedBody separator row = true := by
      rw [← isLiteral, noLiteral]
      decide
    rw [found]
    exact iff_of_false (by simp [Finding.fault?])
      (not_or.mpr ⟨mt lone.mpr notLone, notWellFormed⟩)

/-- The symbol reader finds no fault in blanks and symbols. -/
theorem symbolFinding_fault?_eq_none_iff (position : Nat) {c : Char} :
    (symbolFinding position c).fault? = none ↔
      Text.isBlank c = true ∨ Segment.isSymbol c = true := by
  obtain ⟨blank, found⟩ | ⟨value, symbol, found⟩ | ⟨visible, noSymbol, found⟩ :=
    symbolFinding_cases c
  · rw [found]
    exact iff_of_true rfl (.inl blank)
  · rw [found]
    exact iff_of_true rfl (.inr (isSymbol_of_symbol? value symbol))
  · rw [found]
    exact iff_of_false (by simp [Finding.fault?]) (by simp [visible, noSymbol])

/-- The separator is left to the symbol reader only behind a name. -/
theorem stage_of_reader_separator {state : ScanState} {rest : List Char}
    (fits : Fits separator state.stage (separator :: rest))
    (taker : reader separator state separator = .symbol) : state.stage = .symbol := by
  have goesOn : continuesNumber separator separator = true := by simp [continuesNumber]
  cases stage : state.stage with
  | symbol => rfl
  -- The number reader would have taken it, or did not stop at it.
  | number => simp [reader, stage, startsNumber, goesOn] at taker
  | name =>
    rw [stage] at fits
    have stopped := fits .number rfl separator rfl
    rw [takes, goesOn] at stopped
    cases stopped

/-- Behind a name everything is left to the symbol reader. -/
theorem stage_ne_symbol_of_reader {state : ScanState} {c : Char}
    (taker : reader separator state c ≠ .symbol) : state.stage ≠ .symbol := by
  intro stage
  simp [reader, stage] at taker

/-! ## Texts without a fault -/

/-- A scan finds no fault in a text exactly when the text is readable and, behind a name, does not
begin with the separator. What is expected in front of the text does not matter. -/
theorem faultless_iff_isReadable (admissible : isSeparator separator = true) (state : ScanState)
    (position : Nat) (text : List Char) (fits : Fits separator state.stage text) :
    (findingsFrom separator state position text).findSome? Finding.fault? = none ↔
      Segment.isReadable separator text = true ∧
        (state.stage = .symbol → text.head? ≠ some separator) := by
  induction state, position, text using reading_induction separator with
  | nil state position => simp
  | cons state position c rest ih =>
    have behind := ih (fits_step separator state position c rest)
    rw [findingsFrom_cons, List.findSome?_eq_none_iff, List.forall_mem_cons,
      ← List.findSome?_eq_none_iff, behind]
    cases taker : reader separator state c with
    | number =>
      have stage := stage_ne_symbol_of_reader (by rw [taker]; decide)
      have more : takes separator .number = continuesNumber separator := rfl
      obtain ⟨negative, tail, text, taken, left⟩ :=
        exists_sign_of_startsNumber (startsNumber_of_reader taker) rest
      have goOn : ∀ d ∈ tail.takeWhile (continuesNumber separator),
          continuesNumber separator d = true := List.all_eq_true.mp List.all_takeWhile
      -- The sign does not matter, and the row behind it has to be well-formed.
      simp only [step, taker, findingOf, more, ScanState.stage_next, Stage.behind]
      rw [taken, left, text, Segment.isReadable_sign_append,
        Segment.isReadable_iff_row admissible tail,
        numberFinding_fault?_eq_none_iff admissible position goOn (by rw [← taken]; simp)]
      simp [stage]
    | name =>
      have stage := stage_ne_symbol_of_reader (by rw [taker]; decide)
      have more : takes separator .name = Char.isAlphanum := rfl
      simp only [step, taker, findingOf, more, ScanState.stage_next, Stage.behind]
      rw [Segment.isReadable_of_isAlpha (isAlpha_of_reader taker)]
      simp [nameFinding, Finding.fault?, stage, and_comm]
    | symbol =>
      have plain := isAlphanum_of_reader_symbol fits taker
      simp only [step, taker, findingOf, takeWhile_takes_symbol, dropWhile_takes_symbol,
        ScanState.stage_next, Stage.behind]
      rw [symbolFinding_fault?_eq_none_iff]
      by_cases meaning : Text.isBlank c = true ∨ Segment.isSymbol c = true
      · have same : Segment.isReadable separator (c :: rest) =
            Segment.isReadable separator rest :=
          meaning.elim (Segment.isReadable_of_isBlank · rest) (Segment.isReadable_of_isSymbol · rest)
        -- The separator is neither a blank nor a symbol.
        have noSeparator : c ≠ separator := by
          rintro rfl
          rw [(isSeparator_iff.mp admissible).2.1,
            Segment.isSymbol_of_isSeparator admissible] at meaning
          exact absurd meaning (by decide)
        simp [meaning, same, noSeparator]
      · apply iff_of_false (fun both => meaning both.1)
        obtain ⟨visible, noSymbol⟩ := not_or.mp meaning
        by_cases same : c = separator
        · -- The separator behind a name is a fault of its own.
          intro both
          rw [same] at fits taker both
          exact both.2 (stage_of_reader_separator fits taker) rfl
        · have foreign := Segment.not_isReadable_of_plain plain (Bool.of_not_eq_true visible)
            (Bool.of_not_eq_true noSymbol) same rest
          simp [foreign]

end Pointwise

/-! ## The accepted formulas -/

/-- A strict scan of a formula succeeds exactly when the formula is in the lexical grammar. Whether an
operand or an operator is expected in front of the formula does not matter. -/
theorem isOk_strict_scan_iff (settings : Settings) (formula : String) :
    ((scan (settings.withMode .strict) formula).isOk = true ↔
        Segment.isGrammatical settings.separator formula.toList = true) ∧
      ∀ expects, (scanFrom (settings.withMode .strict) ⟨expects, .number⟩
          (Run.list formula.toList)).isOk = true ↔
        formula = "" ∨ Segment.isGrammatical settings.separator formula.toList = true := by
  have accepts (expects : Expectation) :
      (scanFrom (settings.withMode .strict) ⟨expects, .number⟩
          (Run.list formula.toList)).isOk = true ↔
        Segment.isReadable settings.separator formula.toList = true := by
    have fits := Pointwise.fits_number settings.separator formula.toList
    rw [Run.list, scanFrom_eq_answer (settings.withMode .strict) ⟨expects, .number⟩ 0 fits,
      Settings.mode_withMode, isOk_answer_strict_iff, Settings.separator_withMode,
      Pointwise.faultless_iff_isReadable settings.isSeparator_separator ⟨expects, .number⟩ 0 _
        fits]
    simp
  have empty : formula.toList = [] ↔ formula = "" := by simp
  rw [Segment.isGrammatical_iff]
  constructor
  · by_cases nonempty : formula.toList = []
    · simp [scan, nonempty, Except.isOk, Except.toBool]
    · rw [scan, if_neg nonempty, ScanState.initial, accepts, ne_eq]
      simp [nonempty]
  · intro expects
    rw [accepts, ← empty]
    by_cases nonempty : formula.toList = []
    · simp [nonempty]
    · simp [nonempty]

end FormulaScan
