import FormulaScan.Proofs.Scan.Answer
import FormulaScan.Proofs.Scan.Boundary

/-!
# Scanning the parts of a formula

A divider ends every number and every name, and all readers are offered what stands behind it. So a
scan of a formula that has a divider in it is a scan of the part in front of the divider, the token
of the divider, and a scan of the part behind it, where only what is expected behind the divider is
passed on (`scan_append_divider`).

The scan of a part does not depend on the place of the part: `findingsFrom_relocate` says that a scan
which begins at another position finds the same things, moved by as much.
-/

namespace FormulaScan

/-! ## The place of a text -/

namespace Pointwise

variable {separator : Char}

theorem numberFinding_relocate (position n : Nat) (text : List Char) :
    numberFinding separator (position + n) text =
      (numberFinding separator position text).relocate (· + n) := by
  obtain ⟨literal, -, found⟩ | ⟨-, found⟩ | ⟨-, -, found⟩ := numberFinding_cases separator text
  all_goals
    rw [found, found]
    rfl

theorem symbolFinding_relocate (position n : Nat) (c : Char) :
    symbolFinding (position + n) c = (symbolFinding position c).relocate (· + n) := by
  obtain ⟨-, found⟩ | ⟨value, -, found⟩ | ⟨-, -, found⟩ := symbolFinding_cases c
  all_goals
    rw [found, found]
    rfl

theorem findingOf_relocate (position n : Nat) (c : Char) (more : List Char) (taker : Stage) :
    findingOf separator (position + n) c more taker =
      (findingOf separator position c more taker).relocate (· + n) := by
  cases taker with
  | number => exact numberFinding_relocate position n (c :: more)
  | name => rfl
  | symbol => exact symbolFinding_relocate position n c

theorem next_relocate (state : ScanState) (finding : Finding) (place : Nat → Nat)
    (stage : Stage) : state.next (finding.relocate place) stage = state.next finding stage := by
  cases finding <;> rfl

/-- A reading at another place is the same but for the position. -/
theorem step_relocate (state : ScanState) (position n : Nat) (c : Char) (rest : List Char) :
    step separator state (position + n) c rest =
      { step separator state position c rest with
        finding := (step separator state position c rest).finding.relocate (· + n) } := by
  simp only [step, findingOf_relocate, next_relocate]

/-- A scan of a text at another place finds the same things, moved. -/
theorem findingsFrom_relocate (separator : Char) (state : ScanState) (position n : Nat)
    (text : List Char) :
    findingsFrom separator state (position + n) text =
      (findingsFrom separator state position text).map (Finding.relocate (· + n)) := by
  induction state, position, text using reading_induction separator with
  | nil state position => simp
  | cons state position c rest ih =>
    rw [findingsFrom_cons, findingsFrom_cons, step_relocate, List.map_cons, ← ih,
      Nat.add_right_comm]

end Pointwise

theorem answer_relocate (mode : Mode) (n : Nat) (found : List Finding) :
    answer mode (found.map (Finding.relocate (· + n))) = relocate (· + n) (answer mode found) := by
  apply answer_map
  · intro f
    cases f <;> rfl
  · intro f
    cases f <;> rfl

/-- Moving an answer back undoes moving it. -/
theorem relocate_sub_relocate_add (n : Nat) (read : Except ScanError (List Token)) :
    relocate (· - n) (relocate (· + n) read) = read := by
  cases read with
  | ok tokens =>
    have back : (Token.relocate (· - n)) ∘ (Token.relocate (· + n)) = id := by
      funext t
      simp [Token.relocate]
    simp [relocate, mapAnswer, Except.map, Except.mapError, back]
  | error e =>
    cases e with
    | emptyFormula => rfl
    | fault f => cases f <;> simp [relocate, mapAnswer, Except.map, Except.mapError,
        ScanError.mapFault, Fault.relocate]

/-! ## A part by itself -/

/-- Behind a number and a space an operator is expected, and all readers are offered what comes. -/
theorem findings_behind_operand {separator : Char} (admissible : isSeparator separator = true)
    (text : List Char) :
    Pointwise.findings separator ('0' :: ' ' :: text) =
      .token ⟨.integer 0, 0, 1⟩ :: .blank 1 1 ::
        Pointwise.findingsFrom separator ⟨.operator, .number⟩ 2 text := by
  have blank : Text.isBlank ' ' = true := by decide
  have taker : Pointwise.reader separator .initial '0' = .number := by
    simp [Pointwise.reader, Pointwise.startsNumber, Pointwise.continuesNumber, ScanState.initial]
  have stops : ¬ Pointwise.continuesNumber separator ' ' = true := by
    intro goesOn
    have visible := Pointwise.isBlank_of_continuesNumber admissible goesOn
    rw [blank] at visible
    cases visible
  rw [Pointwise.findings, Pointwise.findingsFrom_of_reader_number taker]
  simp only [List.takeWhile_cons_of_neg stops, List.dropWhile_cons_of_neg stops]
  rw [Pointwise.findingsFrom_blank admissible _ blank]
  rfl

/-- A scan of a part gives the answer to what is found in it from the number stage on. -/
theorem scanPart_eq_answer (settings : Settings) (part : String) (expects : Expectation) :
    scanPart settings part expects =
      answer settings.mode
        (Pointwise.findingsFrom settings.separator ⟨expects, .number⟩ 0 part.toList) := by
  have admissible := settings.isSeparator_separator
  cases expects with
  | operand =>
    by_cases empty : part = ""
    · subst empty
      simp [scanPart, answer]
    · rw [scanPart, if_neg empty, scan_eq_answer settings (by simpa using empty)]
      rfl
  | operator =>
    have text : ("0 " ++ part).toList = '0' :: ' ' :: part.toList := by simp
    have found := findings_behind_operand admissible part.toList
    have moved := Pointwise.findingsFrom_relocate settings.separator
      ⟨.operator, .number⟩ 0 2 part.toList
    rw [Nat.zero_add] at moved
    rw [scanPart, scan_eq_answer settings (by simp [text]), text, found, moved,
      answer_token_cons, answer_blank_cons, answer_relocate]
    -- The first token is taken away, and the others are moved back.
    have first (read : Except ScanError (List Token)) :
        (read.map (⟨.integer 0, 0, 1⟩ :: ·)).map List.tail = read := by
      cases read <;> rfl
    rw [first, relocate_sub_relocate_add]

/-! ## Dividers -/

/-- From a symbol on, the answer is its token and the answer to what is found behind it. -/
theorem answer_findingsFrom_symbol {separator : Char} (admissible : isSeparator separator = true)
    (mode : Mode) (state : ScanState) (value : Token.Value) {c : Char}
    (symbol : value.symbol? = some c) (noSign : c ≠ '-') (position : Nat) (text : List Char) :
    answer mode (Pointwise.findingsFrom separator state position (c :: text)) =
      (answer mode (Pointwise.findingsFrom separator ⟨.behind value, .number⟩ (position + 1)
        text)).map ([⟨value, position, 1⟩] ++ ·) := by
  rw [Pointwise.findingsFrom_symbol admissible state value symbol noSign, answer_token_cons]
  rfl

/-- From a row of blanks on, the answer is that to what is found behind it. -/
theorem answer_findingsFrom_row {separator : Char} (admissible : isSeparator separator = true)
    (mode : Mode) (state : ScanState) (position : Nat) {row : List Char} (nonempty : row ≠ [])
    (blank : ∀ c ∈ row, Text.isBlank c = true) (text : List Char) :
    answer mode (Pointwise.findingsFrom separator state position (row ++ text)) =
      answer mode (Pointwise.findingsFrom separator ⟨state.expects, .number⟩
        (position + row.length) text) :=
  answer_congr_of_told mode
    (told_findingsFrom_row admissible state position nonempty blank text)

namespace Divider

variable {separator : Char}

theorem text_ne_nil (divider : Divider) : divider.text.toList ≠ [] := by
  cases divider with
  | operator op noSign => simp [Divider.text]
  | leftBracket => decide
  | rightBracket => decide
  | blanks row nonempty blank => simpa [Divider.text] using nonempty

/-- No reader takes in what a divider begins with. -/
theorem boundary (admissible : isSeparator separator = true) (divider : Divider)
    (text : List Char) : Pointwise.Boundary separator (divider.text.toList ++ text) := by
  cases divider with
  | operator op noSign =>
    have symbol := Pointwise.isSymbol_of_symbol? (.operator op) rfl
    simpa [Divider.text] using Pointwise.boundary_of_isSymbol admissible symbol text
  | leftBracket => exact Pointwise.boundary_of_isSymbol admissible (by decide) text
  | rightBracket => exact Pointwise.boundary_of_isSymbol admissible (by decide) text
  | blanks row nonempty blank =>
    have isBlank := List.all_eq_true.mp blank
    simpa [Divider.text] using Pointwise.boundary_of_row admissible nonempty isBlank text

/-- Behind white space the value of the last token settles what is expected. -/
theorem expectsBehind_blanks (before : List Token) {row : List Char} (nonempty : row ≠ [])
    (blank : row.all Text.isBlank = true) :
    (Divider.blanks row nonempty blank).expectsBehind before =
      (before.getLast?.map fun t => Expectation.behind t.value).getD .operand := by
  rw [Divider.expectsBehind]
  cases before.getLast? with
  | none => rfl
  | some t =>
    obtain ⟨value, start, length⟩ := t
    cases value <;> rfl

/-- From a divider on, the answer is its token, if it has one, and the answer to what is found behind
it. -/
theorem answer_findingsFrom (admissible : isSeparator separator = true) (mode : Mode)
    (divider : Divider) {state : ScanState} {before : List Token}
    (expects : state.expects =
      (before.getLast?.map fun t => Expectation.behind t.value).getD .operand)
    (position : Nat) (text : List Char) :
    answer mode
        (Pointwise.findingsFrom separator state position (divider.text.toList ++ text)) =
      (answer mode (Pointwise.findingsFrom separator ⟨divider.expectsBehind before, .number⟩
        (position + divider.text.length) text)).map (divider.tokens position ++ ·) := by
  cases divider with
  | operator op noSign =>
    have minus : op.symbol ≠ '-' := fun same => noSign (Operator.symbol_injective same)
    have found := answer_findingsFrom_symbol admissible mode state (.operator op) rfl
      minus position text
    have chars : (Divider.operator op noSign).text.toList = [op.symbol] := by simp [Divider.text]
    have size : (Divider.operator op noSign).text.length = 1 := by simp [Divider.text]
    rw [chars, size]
    exact found
  | leftBracket =>
    exact answer_findingsFrom_symbol admissible mode state .leftBracket rfl
      (by decide) position text
  | rightBracket =>
    exact answer_findingsFrom_symbol admissible mode state .rightBracket rfl
      (by decide) position text
  | blanks row nonempty blank =>
    have found := answer_findingsFrom_row admissible mode state position nonempty
      (List.all_eq_true.mp blank) text
    have none (read : Except ScanError (List Token)) : read.map ([] ++ ·) = read := by
      cases read <;> rfl
    rw [expectsBehind_blanks before nonempty blank, ← expects, Divider.tokens, none]
    simpa [Divider.text] using found

end Divider

/-! ## Composition -/

/-- A formula with a divider in it is scanned in parts: the part in front of the divider, the divider,
and the part behind it, to which nothing but the expectation is passed on. -/
theorem scan_append_divider (settings : Settings) (front behind : String) (divider : Divider) :
    scan settings (front ++ divider.text ++ behind) = (do
      let before ← scanPart settings front .operand
      let after ← relocate (· + (front.length + divider.text.length))
        (scanPart settings behind (divider.expectsBehind before))
      return before ++ divider.tokens front.length ++ after) := by
  have admissible := settings.isSeparator_separator
  have text : (front ++ divider.text ++ behind).toList =
      front.toList ++ (divider.text.toList ++ behind.toList) := by
    simp
  have nonempty : (front ++ divider.text ++ behind).toList ≠ [] := by
    rw [text]
    simp [divider.text_ne_nil]
  have inFront : answer settings.mode (Pointwise.findings settings.separator front.toList) =
      scanPart settings front .operand := (scanPart_eq_answer settings front .operand).symm
  rw [scan_eq_answer settings nonempty, text,
    Pointwise.findings_append (divider.boundary admissible behind.toList), answer_append, inFront]
  cases found : scanPart settings front .operand with
  | error e => rfl
  | ok before =>
    rw [found] at inFront
    -- The tokens in front of the divider settle what is expected behind white space.
    have expects : (Pointwise.stateBehind settings.separator .initial 0 front.toList).expects =
        (before.getLast?.map fun t => Expectation.behind t.value).getD .operand := by
      rw [eq_of_answer_eq_ok inFront]
      exact Pointwise.expects_stateBehind ScanState.initial 0 front.toList
    have moved := Pointwise.findingsFrom_relocate settings.separator
      ⟨divider.expectsBehind before, .number⟩ 0 (front.length + divider.text.length)
      behind.toList
    rw [Nat.zero_add] at moved
    rw [String.length_toList, divider.answer_findingsFrom admissible settings.mode expects, moved,
      answer_relocate, ← scanPart_eq_answer]
    -- The token of the divider goes between those of the parts.
    have goOn (read : Except ScanError (List Token)) :
        (do
          let after ← read.map (divider.tokens front.length ++ ·)
          return before ++ after) =
        (do
          let after ← read
          return before ++ divider.tokens front.length ++ after) := by
      cases read with
      | error e => rfl
      | ok after => exact congrArg Except.ok (List.append_assoc ..).symm
    exact goOn _

end FormulaScan
