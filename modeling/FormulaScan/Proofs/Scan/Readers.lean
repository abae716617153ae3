import FormulaScan.Proofs.Run.Kinds
import FormulaScan.Scan.Pointwise
import Mathlib.Tactic.ByContra

/-!
# One reading at a time

The readers of a pointwise scan make the same of their characters as those of a scan of runs
(`Pointwise.readNumber_eq`, `Pointwise.readSymbol_eq`). They differ in the characters that they take
in and in what they find, and otherwise work alike. `Pointwise.step` is one reading, whichever reader
does it; `Pointwise.findingsFrom_cons` says that a scan is one reading after the other, and
`Pointwise.reading_induction` is the induction over the readings of a text.

What stopped a reader is not offered to it again. `Fits` is the invariant that follows: no digit
and no separator stands right behind a number, and no letter and no digit right behind a name.
-/

namespace FormulaScan

/-- The stage behind the text that the reader of a stage took. -/
def Stage.behind : Stage → Stage
  | .number => .name
  | .name => .symbol
  | .symbol => .number

/-- The stage behind a reader tells which reader it was. -/
theorem Stage.behind_injective {taker taker' : Stage} (same : taker.behind = taker'.behind) :
    taker = taker' := by
  cases taker <;> cases taker' <;> simp_all [Stage.behind]

@[simp] theorem ScanState.stage_next (state : ScanState) (finding : Finding) (stage : Stage) :
    (state.next finding stage).stage = stage := by
  cases finding <;> rfl

/-- Only the token of a finding changes what is expected. -/
theorem ScanState.expects_next (state : ScanState) (finding : Finding) (stage : Stage) :
    (state.next finding stage).expects =
      (finding.token?.map fun t => Expectation.behind t.value).getD state.expects := by
  cases finding <;> rfl

/-- An operand is expected behind operators and left brackets. -/
theorem behind_eq_operand_iff {value : Token.Value} :
    Expectation.behind value = .operand ↔ value.kind = .operator ∨ value.kind = .leftBracket := by
  cases value <;> simp [Expectation.behind, Token.Value.kind]

namespace Pointwise

/-! ## The readers of both scans -/

/-- What the symbol reader makes of a character. -/
def symbolFinding (position : Nat) (c : Char) : Finding :=
  if Text.isBlank c then .blank position 1
  else if c = '(' then .token ⟨.leftBracket, position, 1⟩
  else if c = ')' then .token ⟨.rightBracket, position, 1⟩
  else
    match Operator.ofSymbol? c with
    | some op => .token ⟨.operator op, position, 1⟩
    | none => .fault (.unexpectedCharacter c position)

/-- Both scans make the same of the text of a number, and expect the same behind it. -/
theorem readNumber_eq (separator : Char) (state : ScanState) (position : Nat) (text : List Char)
    (stage : Stage) :
    let outcome := readNumber separator state.expects position text
    outcome.finding = numberFinding separator position text ∧
      ⟨outcome.expects, stage⟩ = state.next (numberFinding separator position text) stage := by
  unfold readNumber numberFinding Literal.ofText?
  cases Literal.integer? text with
  | some n => exact ⟨rfl, rfl⟩
  | none =>
    cases Literal.floatingPoint? separator text with
    | some x => exact ⟨rfl, rfl⟩
    | none =>
      by_cases lone : text = ['-']
      · subst lone
        exact ⟨rfl, rfl⟩
      · simp [lone, ScanState.next]

/-- Both scans make the same of a single character, and expect the same behind it. -/
theorem readSymbol_eq (state : ScanState) (position : Nat) (c : Char) (stage : Stage) :
    let outcome := readSymbol state.expects position c
    outcome.finding = symbolFinding position c ∧
      ⟨outcome.expects, stage⟩ = state.next (symbolFinding position c) stage := by
  unfold readSymbol symbolFinding
  split
  · exact ⟨rfl, rfl⟩
  · split
    · exact ⟨rfl, rfl⟩
    · split
      · exact ⟨rfl, rfl⟩
      · cases Operator.ofSymbol? c with
        | some op => exact ⟨rfl, rfl⟩
        | none => exact ⟨rfl, rfl⟩

section Readers

variable {separator : Char} {state : ScanState} {c : Char}

/-- A number is read with all digits and separators that follow. -/
theorem findingsFrom_of_reader_number (taker : reader separator state c = .number)
    (position : Nat) (rest : List Char) :
    let more := rest.takeWhile (continuesNumber separator)
    let finding := numberFinding separator position (c :: more)
    findingsFrom separator state position (c :: rest) =
      finding :: findingsFrom separator (state.next finding .name) (position + 1 + more.length)
        (rest.dropWhile (continuesNumber separator)) := by
  obtain ⟨same, behind⟩ := readNumber_eq separator state position
    (c :: rest.takeWhile (continuesNumber separator)) .name
  rw [findingsFrom, taker]
  simp only [same, behind]

/-- A name is read with all letters and digits that follow. -/
theorem findingsFrom_of_reader_name (taker : reader separator state c = .name)
    (position : Nat) (rest : List Char) :
    let more := rest.takeWhile Char.isAlphanum
    let finding := nameFinding position (c :: more)
    findingsFrom separator state position (c :: rest) =
      finding :: findingsFrom separator (state.next finding .symbol) (position + 1 + more.length)
        (rest.dropWhile Char.isAlphanum) := by
  rw [findingsFrom, taker]
  rfl

/-- A character that is left to the symbol reader is read by itself, and the next one is offered to
all readers. -/
theorem findingsFrom_of_reader_symbol (taker : reader separator state c = .symbol)
    (position : Nat) (rest : List Char) :
    findingsFrom separator state position (c :: rest) =
      symbolFinding position c ::
        findingsFrom separator (state.next (symbolFinding position c) .number) (position + 1)
          rest := by
  obtain ⟨same, behind⟩ := readSymbol_eq state position c .number
  rw [findingsFrom, taker]
  simp only [same, behind]

end Readers

/-! ## A single reading -/

/-- The characters that a reader takes in after its first one. -/
def takes (separator : Char) : Stage → Char → Bool
  | .number, c => continuesNumber separator c
  | .name, c => c.isAlphanum
  | .symbol, _ => false

@[simp] theorem takeWhile_takes_symbol (separator : Char) (text : List Char) :
    text.takeWhile (takes separator .symbol) = [] := by
  cases text <;> rfl

@[simp] theorem dropWhile_takes_symbol (separator : Char) (text : List Char) :
    text.dropWhile (takes separator .symbol) = text := by
  cases text <;> rfl

/-- What a reader makes of the character that it begins with and the characters that it takes in. -/
def findingOf (separator : Char) (position : Nat) (c : Char) (more : List Char) : Stage → Finding
  | .number => numberFinding separator position (c :: more)
  | .name => nameFinding position (c :: more)
  | .symbol => symbolFinding position c

/-- One reading: the characters taken, what they are, and with which state the text behind them is
read. -/
structure Step where
  text : List Char
  finding : Finding
  state : ScanState
  rest : List Char

/-- The reading that begins with a given character. -/
def step (separator : Char) (state : ScanState) (position : Nat) (c : Char) (rest : List Char) :
    Step :=
  let taker := reader separator state c
  let more := rest.takeWhile (takes separator taker)
  let finding := findingOf separator position c more taker
  { text := c :: more
    finding
    state := state.next finding taker.behind
    rest := rest.dropWhile (takes separator taker) }

section Step

variable (separator : Char) (state : ScanState) (position : Nat) (c : Char) (rest : List Char)

/-- A reading finds what its reader makes of the characters. -/
theorem finding_step :
    (step separator state position c rest).finding =
      findingOf separator position c
        (rest.takeWhile (takes separator (reader separator state c)))
        (reader separator state c) := rfl

/-- The state behind a reading depends on its finding and its reader. -/
theorem state_step :
    (step separator state position c rest).state =
      state.next (step separator state position c rest).finding
        (reader separator state c).behind := rfl

/-- Only a token changes what is expected behind a reading. -/
theorem expects_step :
    (step separator state position c rest).state.expects =
      ((step separator state position c rest).finding.token?.map
        fun t => Expectation.behind t.value).getD state.expects :=
  ScanState.expects_next ..

/-- The first reading and the readings behind it. -/
theorem findingsFrom_cons :
    findingsFrom separator state position (c :: rest) =
      (step separator state position c rest).finding ::
        findingsFrom separator (step separator state position c rest).state
          (position + (step separator state position c rest).text.length)
          (step separator state position c rest).rest := by
  -- The branches of a scan are the readers, with the position added up in another order.
  cases taker : reader separator state c with
  | number =>
    rw [findingsFrom_of_reader_number taker]
    simp only [step, taker, findingOf, Stage.behind, List.length_cons, Nat.add_assoc,
      Nat.add_comm 1]
    rfl
  | name =>
    rw [findingsFrom_of_reader_name taker]
    simp only [step, taker, findingOf, Stage.behind, List.length_cons, Nat.add_assoc,
      Nat.add_comm 1]
    rfl
  | symbol =>
    rw [findingsFrom_of_reader_symbol taker]
    simp [step, taker, findingOf, Stage.behind]

/-- A reading takes the characters from its first one on. -/
theorem text_append_rest_step :
    (step separator state position c rest).text ++ (step separator state position c rest).rest =
      c :: rest := by
  simp [step]

theorem length_rest_step :
    (step separator state position c rest).rest.length < (c :: rest).length :=
  Nat.lt_succ_of_le (List.dropWhile_sublist _).length_le

end Step

/-- Induction over the readings of a text: what holds of the empty text, and of a text whenever it
holds of what its first reading leaves, holds of every text. -/
theorem reading_induction (separator : Char) {motive : ScanState → Nat → List Char → Prop}
    (nil : ∀ state position, motive state position [])
    (cons : ∀ state position c rest,
      motive (step separator state position c rest).state
          (position + (step separator state position c rest).text.length)
          (step separator state position c rest).rest →
        motive state position (c :: rest))
    (state : ScanState) (position : Nat) (text : List Char) : motive state position text := by
  induction size : text.length using Nat.strongRecOn generalizing state position text with
  | ind size ih =>
    cases text with
    | nil => exact nil state position
    | cons c rest =>
      apply cons
      -- What the first reading leaves is shorter, though not by one character only.
      refine ih _ ?_ _ _ _ rfl
      rw [← size]
      exact length_rest_step separator state position c rest

theorem isBlank_of_continuesNumber {separator c : Char} (admissible : isSeparator separator = true)
    (goesOn : continuesNumber separator c = true) : Text.isBlank c = false := by
  rw [continuesNumber, Bool.or_eq_true, beq_iff_eq] at goesOn
  rcases goesOn with digit | rfl
  · by_contra blank
    have plain := Text.isAlphanum_eq_false_of_isBlank (eq_true_of_ne_false blank)
    simp [isAlphanum_eq, digit] at plain
  · exact (isSeparator_iff.mp admissible).2.1

/-! ## What stopped a reader -/

/-- The first character of a text is none that the reader in front of the text would have taken. -/
def Fits (separator : Char) (stage : Stage) (text : List Char) : Prop :=
  ∀ taker : Stage, taker.behind = stage → ∀ c ∈ text.head?, takes separator taker c = false

/-- Every text can stand at the beginning. -/
theorem fits_number (separator : Char) (text : List Char) : Fits separator .number text := by
  intro taker behind c _
  cases taker with
  | symbol => rfl
  | number => cases behind
  | name => cases behind

/-- A reading leaves a text that fits behind it. -/
theorem fits_step (separator : Char) (state : ScanState) (position : Nat) (c : Char)
    (rest : List Char) :
    Fits separator (step separator state position c rest).state.stage
      (step separator state position c rest).rest := by
  intro taker behind d first
  simp only [step, ScanState.stage_next] at behind first
  -- The stage tells which reader has stopped here.
  rw [Stage.behind_injective behind]
  exact takes_head_dropWhile first

/-- What the number reader can make of a text, whatever its place: a literal, the operator if the text
is a lone sign, or a malformed number. -/
theorem numberFinding_cases (separator : Char) (text : List Char) :
    (∃ literal, Literal.ofText? separator text = some literal ∧ ∀ position,
        numberFinding separator position text =
          .token ⟨literal.tokenValue, position, text.length⟩) ∨
      (text = ['-'] ∧ ∀ position,
        numberFinding separator position text = .token ⟨.operator .subtract, position, 1⟩) ∨
      (Literal.ofText? separator text = none ∧ text ≠ ['-'] ∧ ∀ position,
        numberFinding separator position text =
          .fault (.malformedNumber (String.ofList text) position)) := by
  cases value : Literal.ofText? separator text with
  | some literal => exact .inl ⟨literal, rfl, fun position => by simp [numberFinding, value]⟩
  | none =>
    by_cases lone : text = ['-']
    · exact .inr (.inl ⟨lone, fun position => by rw [numberFinding, value, if_pos lone]⟩)
    · exact .inr (.inr ⟨rfl, lone, fun position => by simp [numberFinding, value, lone]⟩)

theorem startsNumber_of_reader {separator : Char} {state : ScanState} {c : Char}
    (taker : reader separator state c = .number) :
    startsNumber separator state.expects c = true := by
  unfold reader at taker
  split at taker
  · rename_i begins
    exact begins.2
  · split at taker <;> cases taker

theorem isAlpha_of_reader {separator : Char} {state : ScanState} {c : Char}
    (taker : reader separator state c = .name) : c.isAlpha = true := by
  unfold reader at taker
  split at taker
  · cases taker
  · split at taker
    · rename_i letter
      exact letter.2
    · cases taker

/-- A character that begins no number and no name is left to the symbol reader. -/
theorem reader_eq_symbol {separator : Char} (state : ScanState) {c : Char}
    (noNumber : startsNumber separator state.expects c = false) (noName : c.isAlpha = false) :
    reader separator state c = .symbol := by
  simp [reader, noNumber, noName]

/-- A letter begins a name where the name reader is offered it. -/
theorem reader_of_isAlpha {separator : Char} (admissible : isSeparator separator = true)
    (state : ScanState) (offered : state.stage ≠ .symbol) {c : Char} (letter : c.isAlpha = true) :
    reader separator state c = .name := by
  have noSeparator : c ≠ separator := by
    rintro rfl
    have plain := (isSeparator_iff.mp admissible).1
    simp [isAlphanum_eq, letter] at plain
  have noSign : c ≠ '-' := by
    rintro rfl
    exact absurd letter (by decide)
  simp [reader, startsNumber, continuesNumber, isDigit_eq_false_of_isAlpha letter, noSeparator,
    noSign, offered, letter]

theorem reader_of_isBlank {separator : Char} (admissible : isSeparator separator = true)
    (state : ScanState) {c : Char} (blank : Text.isBlank c = true) :
    reader separator state c = .symbol := by
  have plain := Text.isAlphanum_eq_false_of_isBlank blank
  rw [isAlphanum_eq, Bool.or_eq_false_iff] at plain
  have noSeparator : c ≠ separator := by
    rintro rfl
    simp [(isSeparator_iff.mp admissible).2.1] at blank
  have noSign : c ≠ '-' := by
    rintro rfl
    exact absurd blank (by decide)
  apply reader_eq_symbol state _ plain.1
  simp [startsNumber, continuesNumber, plain.2, noSeparator, noSign]

/-- A blank leaves the expectation as it is. -/
theorem findingsFrom_blank {separator : Char} (admissible : isSeparator separator = true)
    (state : ScanState) {c : Char} (blank : Text.isBlank c = true) (position : Nat)
    (rest : List Char) :
    findingsFrom separator state position (c :: rest) =
      .blank position 1 ::
        findingsFrom separator ⟨state.expects, .number⟩ (position + 1) rest := by
  have finding : symbolFinding position c = .blank position 1 := by simp [symbolFinding, blank]
  rw [findingsFrom_of_reader_symbol (reader_of_isBlank admissible state blank), finding]
  rfl

/-- A symbol other than the minus sign begins no number and no name. -/
theorem reader_of_isSymbol {separator : Char} (admissible : isSeparator separator = true)
    (state : ScanState) {c : Char} (symbol : Segment.isSymbol c = true) (noSign : c ≠ '-') :
    reader separator state c = .symbol := by
  have plain := (Segment.plain_of_isSymbol symbol).1
  rw [isAlphanum_eq, Bool.or_eq_false_iff] at plain
  have noSeparator : c ≠ separator := by
    rintro rfl
    rw [Segment.isSymbol_of_isSeparator admissible] at symbol
    cases symbol
  apply reader_eq_symbol state _ plain.1
  simp [startsNumber, continuesNumber, plain.2, noSeparator, noSign]

theorem symbolFinding_of_symbol? (position : Nat) {value : Token.Value} {c : Char}
    (symbol : value.symbol? = some c) :
    symbolFinding position c = .token ⟨value, position, 1⟩ := by
  obtain ⟨op, rfl, rfl⟩ | ⟨rfl, rfl⟩ | ⟨rfl, rfl⟩ := Token.Value.symbol?_eq_some_iff.mp symbol
  · cases op <;> rfl
  · rfl
  · rfl

theorem isSymbol_of_symbol? (value : Token.Value) {c : Char} (symbol : value.symbol? = some c) :
    Segment.isSymbol c = true := by
  rw [Segment.isSymbol_iff]
  obtain ⟨op, -, same⟩ | ⟨-, same⟩ | ⟨-, same⟩ := Token.Value.symbol?_eq_some_iff.mp symbol
  · exact .inr (.inr ⟨op, same⟩)
  · exact .inl same
  · exact .inr (.inl same)

/-- What a character that stands alone can be, whatever its place: a blank, the symbol of a value, or
neither. -/
theorem symbolFinding_cases (c : Char) :
    (Text.isBlank c = true ∧ ∀ position, symbolFinding position c = .blank position 1) ∨
      (∃ value : Token.Value, value.symbol? = some c ∧
        ∀ position, symbolFinding position c = .token ⟨value, position, 1⟩) ∨
      (Text.isBlank c = false ∧ Segment.isSymbol c = false ∧
        ∀ position, symbolFinding position c = .fault (.unexpectedCharacter c position)) := by
  by_cases blank : Text.isBlank c = true
  · exact .inl ⟨blank, fun position => by simp [symbolFinding, blank]⟩
  · by_cases symbol : Segment.isSymbol c = true
    · right; left
      obtain ⟨value, isValue⟩ : ∃ value : Token.Value, value.symbol? = some c := by
        rcases Segment.isSymbol_iff.mp symbol with rfl | rfl | ⟨op, rfl⟩
        · exact ⟨.leftBracket, rfl⟩
        · exact ⟨.rightBracket, rfl⟩
        · exact ⟨.operator op, rfl⟩
      exact ⟨value, isValue, fun position => symbolFinding_of_symbol? position isValue⟩
    · right; right
      refine ⟨Bool.of_not_eq_true blank, Bool.of_not_eq_true symbol, fun position => ?_⟩
      simp only [Segment.isSymbol, Bool.or_eq_true, beq_iff_eq, not_or, Bool.not_eq_true,
        Option.isSome_eq_false_iff, Option.isNone_iff_eq_none] at symbol
      simp [symbolFinding, blank, symbol]

/-- A symbol other than the minus sign is a token of its own in every state, and it alone settles
what is expected behind it. -/
theorem findingsFrom_symbol {separator : Char} (admissible : isSeparator separator = true)
    (state : ScanState) (value : Token.Value) {c : Char} (symbol : value.symbol? = some c)
    (noSign : c ≠ '-') (position : Nat) (rest : List Char) :
    findingsFrom separator state position (c :: rest) =
      .token ⟨value, position, 1⟩ ::
        findingsFrom separator ⟨.behind value, .number⟩ (position + 1) rest := by
  have taker := reader_of_isSymbol admissible state (isSymbol_of_symbol? value symbol) noSign
  rw [findingsFrom_of_reader_symbol taker, symbolFinding_of_symbol? position symbol]
  rfl

/-- What is left to the symbol reader is no letter and no digit. -/
theorem isAlphanum_of_reader_symbol {separator : Char} {state : ScanState} {c : Char}
    {rest : List Char} (fits : Fits separator state.stage (c :: rest))
    (taker : reader separator state c = .symbol) : c.isAlphanum = false := by
  obtain ⟨expects, stage⟩ := state
  cases stage with
  -- The number reader and the name reader have refused the character.
  | number =>
    simp only [reader, true_and] at taker
    split at taker
    · cases taker
    · rename_i plain
      simp_all [startsNumber, continuesNumber, isAlphanum_eq]
  -- The number reader has stopped at the character, and the name reader has refused it.
  | name =>
    have stopped := fits .number rfl c rfl
    simp_all [reader, takes, continuesNumber, isAlphanum_eq]
  -- The name reader has stopped at the character.
  | symbol => exact fits .name rfl c rfl

end Pointwise

end FormulaScan
