import FormulaScan.Grammar.Stretch
import FormulaScan.Proofs.Grammar.Acceptance

/-!
# Findings among words and rows

What a scan finds is settled by the words and the rows of digits and separators of the formula:
names are the words, numbers are the rows that are not bad, with or without a minus sign in front of
them, malformed numbers are the bad ones, and the separator is an unexpected character only directly
behind a word. `Finding.Placed` says so of one finding, and `placed_of_mem_findings` of all findings
of a formula.

The proof goes along the readings of a scan. `Standing` is the invariant: no word reaches across the
place where a reading begins, a word stops there exactly when the name reader was the last one, and
no row stops there where all readers are offered the next character.
-/

namespace FormulaScan

/-- A number text begins where its row begins, or at a minus sign directly in front of it. -/
def BeginsRow (formula : List Char) (row : Stretch) (start : Nat) : Prop :=
  start = row.start ∨ start + 1 = row.start ∧ formula[start]? = some '-'

/-- What a finding is among the words and rows of a formula. -/
inductive Finding.Placed (separator : Char) (formula : List Char) : Finding → Prop where
  | number {row : Stretch} {start length : Nat} (isRow : IsRow separator formula row)
      (good : ¬ IsBadRow separator formula row) (begins : BeginsRow formula row start)
      (stop : start + length = row.stop) (literal : Literal) :
      Placed separator formula (.token ⟨literal.tokenValue, start, length⟩)
  | malformed {row : Stretch} {text : String} {start : Nat}
      (bad : IsBadRow separator formula row) (begins : BeginsRow formula row start)
      (stop : start + text.length = row.stop) :
      Placed separator formula (.fault (.malformedNumber text start))
  | name {word : Stretch} {length : Nat} (isWord : word ∈ words formula)
      (stop : word.start + length = word.stop)
      (alphanum : ∀ place ∈ word, ∃ c, formula[place]? = some c ∧ c.isAlphanum = true)
      (name : String) :
      Placed separator formula (.token ⟨.identifier name, word.start, length⟩)
  | symbol {value : Token.Value} {c : Char} {start : Nat} (symbol : value.symbol? = some c)
      (here : formula[start]? = some c) : Placed separator formula (.token ⟨value, start, 1⟩)
  | blank {c : Char} {start : Nat} (blank : Text.isBlank c = true)
      (here : formula[start]? = some c) : Placed separator formula (.blank start 1)
  | unexpected {c : Char} {start : Nat} (plain : c.isAlphanum = false)
      (visible : Text.isBlank c = false) (noSymbol : Segment.isSymbol c = false)
      (here : formula[start]? = some c) (behind : c = separator → BehindWord formula start) :
      Placed separator formula (.fault (.unexpectedCharacter c start))

/-! ## Characters by position -/

section Positions

variable {formula part rest : List Char} {position place : Nat}

/-- The characters at the positions of a part of a formula are those of the part. -/
theorem exists_mem_of_drop_eq (text : formula.drop position = part ++ rest)
    (lower : position ≤ place) (upper : place < position + part.length) :
    ∃ c ∈ part, formula[place]? = some c := by
  have bound : place - position < part.length := by omega
  have here : (formula.drop position)[place - position]? = part[place - position]? := by
    rw [text, List.getElem?_append_left bound]
  rw [List.getElem?_drop, Nat.add_sub_cancel' lower, List.getElem?_eq_getElem bound] at here
  exact ⟨_, List.getElem_mem bound, here⟩

/-- The first character of what is left of a formula from a position on stands there. -/
theorem getElem?_of_drop_eq_cons {c : Char} (text : formula.drop position = c :: rest) :
    formula[position]? = some c := by
  rw [← List.head?_drop, text, List.head?_cons]

/-- The character behind a part of a formula is the first one of the rest. -/
theorem getElem?_behind_of_drop_eq (text : formula.drop position = part ++ rest) :
    formula[position + part.length]? = rest.head? := by
  rw [← List.getElem?_drop, text, List.getElem?_append_right (Nat.le_refl _), Nat.sub_self,
    List.head?_eq_getElem?]

/-- What is left behind a part of a formula is the rest. -/
theorem drop_behind_of_drop_eq (text : formula.drop position = part ++ rest) :
    formula.drop (position + part.length) = rest := by
  rw [← List.drop_drop, text, List.drop_left]

end Positions

section Letters

variable {separator c : Char}

/-- No letter goes on a number. -/
theorem isAlpha_of_continuesNumber (admissible : isSeparator separator = true)
    (goesOn : Pointwise.continuesNumber separator c = true) : c.isAlpha = false := by
  rw [Pointwise.continuesNumber, Bool.or_eq_true, beq_iff_eq] at goesOn
  cases goesOn with
  | inl digit =>
    apply Bool.eq_false_iff.mpr
    intro letter
    rw [isDigit_eq_false_of_isAlpha letter] at digit
    cases digit
  | inr same =>
    have plain := (isSeparator_iff.mp admissible).1
    rw [isAlphanum_eq, Bool.or_eq_false_iff, ← same] at plain
    exact plain.1

/-- The word that a letter begins consists of letters and digits. -/
theorem exists_alphanum_of_drop_eq {formula rest : List Char} {position place : Nat}
    (letter : c.isAlpha = true) (text : formula.drop position = c :: rest)
    (member : place ∈
      (⟨position, position + 1 + (rest.takeWhile Char.isAlphanum).length⟩ : Stretch)) :
    ∃ d, formula[place]? = some d ∧ d.isAlphanum = true := by
  have parts : formula.drop position = (c :: rest.takeWhile Char.isAlphanum) ++
      rest.dropWhile Char.isAlphanum := by
    rw [text]
    simp
  have upper : place < position + (c :: rest.takeWhile Char.isAlphanum).length := by
    have stop : place < position + 1 + (rest.takeWhile Char.isAlphanum).length := member.2
    rw [List.length_cons]
    omega
  obtain ⟨d, inWord, here⟩ := exists_mem_of_drop_eq parts member.1 upper
  refine ⟨d, here, ?_⟩
  -- The first character is the letter, and the others are taken as letters and digits.
  rcases List.mem_cons.mp inWord with rfl | inMore
  · exact isAlphanum_of_isAlpha letter
  · exact List.all_eq_true.mp List.all_takeWhile d inMore

theorem inRow_char {formula : List Char} {place : Nat} (here : formula[place]? = some c)
    (inRow : InRow separator formula place) : Pointwise.continuesNumber separator c = true := by
  obtain ⟨⟨d, there, form⟩, -⟩ := inRow
  obtain rfl : c = d := Option.some.inj (here.symm.trans there)
  simpa [Pointwise.continuesNumber] using form

end Letters

/-! ## The invariant -/

/-- How a reading that is about to begin stands among the words and rows of the formula. -/
structure Standing (separator : Char) (formula : List Char) (state : ScanState) (position : Nat)
    (text : List Char) : Prop where
  text_eq : formula.drop position = text
  fits : Pointwise.Fits separator state.stage text
  /-- Each word stops in front of the text or is one of the text. -/
  apart : ∀ word ∈ words formula, word.stop ≤ position ∨ word ∈ wordsFrom position text
  ahead : ∀ word ∈ wordsFrom position text, word ∈ words formula
  behind : state.stage = .symbol ↔ BehindWord formula position
  /-- Where all readers are offered the next character, no row goes on from the one before. -/
  edge : state.stage = .number → ∀ place, place + 1 = position → ¬ InRow separator formula place

namespace Standing

variable {separator : Char} {formula : List Char} {state state' : ScanState} {position : Nat}
  {part rest : List Char}

/-- The first reading of a formula stands in front of all words. -/
theorem initial (separator : Char) (formula : List Char) :
    Standing separator formula .initial 0 formula where
  text_eq := rfl
  fits := Pointwise.fits_number separator formula
  apart word isWord := .inr isWord
  ahead word isWord := isWord
  behind := by
    apply iff_of_false (by decide)
    intro behind
    obtain ⟨word, isWord, stop⟩ := behind
    have bounds := bounds_of_mem_wordsFrom isWord
    omega
  edge _ place behind := absurd behind (Nat.succ_ne_zero place)

section NoLetter

variable (standing : Standing separator formula state position (part ++ rest))
  (noLetter : ∀ c ∈ part, c.isAlpha = false)

include standing noLetter

/-- A word stops in front of characters that are no letters, or begins behind them. -/
theorem apart_of_noLetter {word : Stretch} (isWord : word ∈ words formula) :
    word.stop ≤ position ∨
      word ∈ wordsFrom (position + part.length) rest ∧ position + part.length ≤ word.start ∧
        word.start < word.stop := by
  cases standing.apart word isWord with
  | inl before => exact .inl before
  | inr later =>
    rw [wordsFrom_append position noLetter] at later
    exact .inr ⟨later, bounds_of_mem_wordsFrom later⟩

theorem not_inWord_of_noLetter {place : Nat} (lower : position ≤ place)
    (upper : place < position + part.length) : ¬ InWord formula place := by
  intro inWord
  obtain ⟨word, isWord, member⟩ := inWord
  rw [Stretch.mem_iff] at member
  cases standing.apart_of_noLetter noLetter isWord with
  | inl before => omega
  | inr later => omega

theorem not_behindWord_of_noLetter {place : Nat} (lower : position < place)
    (upper : place ≤ position + part.length) : ¬ BehindWord formula place := by
  intro behind
  obtain ⟨word, isWord, stop⟩ := behind
  cases standing.apart_of_noLetter noLetter isWord with
  | inl before => omega
  | inr later => omega

/-- The reading behind characters that are no letters. -/
theorem next_of_noLetter (nonempty : part ≠ []) (fits : Pointwise.Fits separator state'.stage rest)
    (stage : state'.stage ≠ .symbol)
    (edge : state'.stage = .number → ∀ place, place + 1 = position + part.length →
      ¬ InRow separator formula place) :
    Standing separator formula state' (position + part.length) rest where
  text_eq := drop_behind_of_drop_eq standing.text_eq
  fits := fits
  apart word isWord := by
    cases standing.apart_of_noLetter noLetter isWord with
    | inl before => exact .inl (Nat.le_trans before (Nat.le_add_right ..))
    | inr later => exact .inr later.1
  ahead word later := by
    apply standing.ahead
    rw [wordsFrom_append position noLetter]
    exact later
  behind := by
    have size := List.length_pos_iff.mpr nonempty
    exact iff_of_false stage
      (standing.not_behindWord_of_noLetter noLetter (by omega) (Nat.le_refl _))
  edge := edge

end NoLetter

/-! ## Names -/

section Name

variable {c : Char} (letter : c.isAlpha = true)
  (standing : Standing separator formula state position (c :: rest))

include letter standing

/-- The word that a letter begins. -/
theorem mem_words_of_isAlpha :
    ⟨position, position + 1 + (rest.takeWhile Char.isAlphanum).length⟩ ∈ words formula := by
  apply standing.ahead
  rw [wordsFrom_of_isAlpha position letter]
  exact List.mem_cons_self ..

/-- What the name reader finds is placed. -/
theorem placed_name :
    (nameFinding position (c :: rest.takeWhile Char.isAlphanum)).Placed separator formula := by
  have isWord := mem_words_of_isAlpha letter standing
  have size : position + (c :: rest.takeWhile Char.isAlphanum).length =
      position + 1 + (rest.takeWhile Char.isAlphanum).length := by
    rw [List.length_cons]
    omega
  refine .name isWord size ?_ _
  intro place member
  exact exists_alphanum_of_drop_eq letter standing.text_eq member

/-- The reading behind a name. -/
theorem next_of_name (stage : state'.stage = .symbol) :
    Standing separator formula state'
      (position + (c :: rest.takeWhile Char.isAlphanum).length)
      (rest.dropWhile Char.isAlphanum) := by
  have size : position + (c :: rest.takeWhile Char.isAlphanum).length =
      position + 1 + (rest.takeWhile Char.isAlphanum).length := by
    rw [List.length_cons]
    omega
  have isWord := mem_words_of_isAlpha letter standing
  have first := wordsFrom_of_isAlpha position letter rest
  constructor
  case text_eq =>
    apply drop_behind_of_drop_eq
    rw [standing.text_eq]
    simp
  case fits =>
    intro taker behind d isNext
    rw [stage] at behind
    cases taker with
    | name => exact takes_head_dropWhile isNext
    | number => cases behind
    | symbol => cases behind
  case apart =>
    intro word member
    cases standing.apart word member with
    | inl before => exact .inl (by omega)
    | inr later =>
      rw [first] at later
      rcases List.mem_cons.mp later with same | behind
      · left
        rw [same]
        exact Nat.le_of_eq size.symm
      · right
        rw [size]
        exact behind
  case ahead =>
    intro word later
    apply standing.ahead
    rw [first]
    rw [size] at later
    exact List.mem_cons_of_mem _ later
  case behind => exact iff_of_true stage ⟨_, isWord, size.symm⟩
  case edge =>
    intro number
    rw [stage] at number
    cases number

end Name

/-! ## Numbers -/

section Number

variable {negative : Bool} {tail : List Char}

theorem noLetter_of_number (admissible : isSeparator separator = true) :
    ∀ c ∈ signText negative ++ tail.takeWhile (Pointwise.continuesNumber separator),
      c.isAlpha = false := by
  intro c member
  rcases List.mem_append.mp member with sign | inRow
  · rw [eq_minus_of_mem_signText sign]
    decide
  · exact isAlpha_of_continuesNumber admissible (List.all_eq_true.mp List.all_takeWhile c inRow)

/-- The row that a number text consists of but for its sign. -/
def rowBehind (separator : Char) (position : Nat) (negative : Bool) (tail : List Char) : Stretch :=
  ⟨position + (signText negative).length, position + (signText negative).length +
    (tail.takeWhile (Pointwise.continuesNumber separator)).length⟩

variable (standing : Standing separator formula state position (signText negative ++ tail))

include standing

theorem drop_rowBehind : formula.drop (rowBehind separator position negative tail).start =
    tail.takeWhile (Pointwise.continuesNumber separator) ++
      tail.dropWhile (Pointwise.continuesNumber separator) := by
  rw [List.takeWhile_append_dropWhile]
  exact drop_behind_of_drop_eq standing.text_eq

theorem text_rowBehind : (rowBehind separator position negative tail).text formula =
    tail.takeWhile (Pointwise.continuesNumber separator) := by
  rw [Stretch.text, standing.drop_rowBehind]
  apply List.take_left'
  simp [rowBehind]

theorem beginsRow_rowBehind :
    BeginsRow formula (rowBehind separator position negative tail) position := by
  cases negative with
  | false => exact .inl rfl
  | true => exact .inr ⟨rfl, getElem?_of_drop_eq_cons standing.text_eq⟩

/-- The same reading, with the text cut where the number reader stops. -/
theorem cut_behind_number : Standing separator formula state position
    ((signText negative ++ tail.takeWhile (Pointwise.continuesNumber separator)) ++
      tail.dropWhile (Pointwise.continuesNumber separator)) := by
  rw [List.append_assoc, List.takeWhile_append_dropWhile]
  exact standing

/-- What the number reader takes behind the sign can belong to a row. -/
theorem inRow_of_mem_rowBehind (admissible : isSeparator separator = true)
    (stage : state.stage = .number) {place : Nat}
    (member : place ∈ rowBehind separator position negative tail) :
    InRow separator formula place := by
  have whole := standing.cut_behind_number
  have noLetter := @noLetter_of_number separator negative tail admissible
  obtain ⟨lower, upper⟩ := member
  obtain ⟨c, inRow, here⟩ := exists_mem_of_drop_eq standing.drop_rowBehind lower upper
  have goesOn := List.all_eq_true.mp List.all_takeWhile c inRow
  simp only [rowBehind] at lower upper
  refine ⟨⟨c, here, by simpa [Pointwise.continuesNumber] using goesOn⟩, ?_, ?_⟩
  · apply whole.not_inWord_of_noLetter noLetter
    · omega
    · rw [List.length_append]
      omega
  · intro both
    by_cases first : place = position
    · -- No word stops in front of a number.
      have behind := standing.behind.mpr (first ▸ both.2)
      rw [stage] at behind
      cases behind
    · refine whole.not_behindWord_of_noLetter noLetter ?_ ?_ both.2
      · omega
      · rw [List.length_append]
        omega

/-- What the number reader takes is a row, if it is more than a sign. -/
theorem isRow_rowBehind (admissible : isSeparator separator = true)
    (stage : state.stage = .number)
    (nonempty : tail.takeWhile (Pointwise.continuesNumber separator) ≠ []) :
    IsRow separator formula (rowBehind separator position negative tail) := by
  constructor
  case nonempty =>
    have size := List.length_pos_iff.mpr nonempty
    simp only [rowBehind]
    omega
  case inside =>
    intro place member
    exact standing.inRow_of_mem_rowBehind admissible stage member
  case left =>
    intro place behind inRow
    cases negative with
    | false => exact standing.edge stage place behind inRow
    | true =>
      obtain rfl : place = position := Nat.succ.inj behind
      have goesOn := inRow_char (getElem?_of_drop_eq_cons standing.text_eq) inRow
      rw [Pointwise.continuesNumber,
        beq_eq_false_iff_ne.mpr (ne_minus_of_isSeparator admissible).symm] at goesOn
      cases goesOn
  case right =>
    intro inRow
    obtain ⟨c, here, -⟩ := inRow.1
    have isNext : c ∈ (tail.dropWhile (Pointwise.continuesNumber separator)).head? := by
      rw [← getElem?_behind_of_drop_eq standing.drop_rowBehind]
      exact here
    have stopped := takes_head_dropWhile isNext
    rw [inRow_char here inRow] at stopped
    cases stopped

/-- A row is bad exactly when it is not well-formed as the body of a literal. -/
theorem isBadRow_rowBehind_iff (admissible : isSeparator separator = true)
    (stage : state.stage = .number)
    (nonempty : tail.takeWhile (Pointwise.continuesNumber separator) ≠ []) :
    IsBadRow separator formula (rowBehind separator position negative tail) ↔
      ¬ Literal.wellFormedBody separator
        (tail.takeWhile (Pointwise.continuesNumber separator)) = true := by
  have form : ∀ c ∈ tail.takeWhile (Pointwise.continuesNumber separator),
      c.isDigit = true ∨ c = separator := by
    intro c inRow
    have goesOn := List.all_eq_true.mp List.all_takeWhile c inRow
    simpa [Pointwise.continuesNumber] using goesOn
  rw [IsBadRow, and_iff_right (isRow_rowBehind standing admissible stage nonempty),
    text_rowBehind standing, Literal.wellFormedBody_iff (isDigit_of_isSeparator admissible),
    and_iff_right form, not_and_or, Nat.not_le]
  simp

/-- What the number reader finds is placed. -/
theorem placed_number (admissible : isSeparator separator = true)
    (stage : state.stage = .number)
    (nonempty : signText negative ++ tail.takeWhile (Pointwise.continuesNumber separator) ≠ []) :
    (numberFinding separator position
      (signText negative ++ tail.takeWhile (Pointwise.continuesNumber separator))).Placed
        separator formula := by
  have begins := beginsRow_rowBehind standing
  have goOn : ∀ c ∈ tail.takeWhile (Pointwise.continuesNumber separator),
      Pointwise.continuesNumber separator c = true := List.all_eq_true.mp List.all_takeWhile
  have unsigned := Pointwise.head?_ne_minus_of_continuesNumber admissible goOn
  have isLiteral := Pointwise.isSome_ofText?_iff_row admissible negative goOn
  have stop : position +
      (signText negative ++ tail.takeWhile (Pointwise.continuesNumber separator)).length =
        (rowBehind separator position negative tail).stop := by
    rw [List.length_append, ← Nat.add_assoc]
    rfl
  by_cases alone : tail.takeWhile (Pointwise.continuesNumber separator) = []
  · -- There is a sign only, which is an operator.
    rw [alone, List.append_nil] at nonempty ⊢
    cases negative with
    | false => exact absurd rfl nonempty
    | true =>
      have symbol : (Token.Value.operator .subtract).symbol? = some '-' := rfl
      simp only [signText_true, numberFinding, Literal.ofText?_minus]
      exact .symbol symbol (getElem?_of_drop_eq_cons standing.text_eq)
  · have bad := isBadRow_rowBehind_iff standing admissible stage alone
    have isRow := isRow_rowBehind standing admissible stage alone
    obtain ⟨literal, value, found⟩ | ⟨lone, -⟩ | ⟨noLiteral, -, found⟩ :=
      Pointwise.numberFinding_cases separator
        (signText negative ++ tail.takeWhile (Pointwise.continuesNumber separator))
    · rw [value] at isLiteral
      rw [found]
      exact .number isRow (fun isBad => bad.mp isBad (isLiteral.mp rfl)) begins stop literal
    · -- A row is none of the characters of a sign.
      cases negative with
      | false =>
        rw [signText_false, List.nil_append] at lone
        rw [lone] at unsigned
        exact absurd rfl unsigned
      | true => exact absurd (List.cons.inj lone).2 alone
    · rw [noLiteral] at isLiteral
      have notWellFormed : ¬ Literal.wellFormedBody separator
          (tail.takeWhile (Pointwise.continuesNumber separator)) = true :=
        fun form => absurd (isLiteral.mpr form) (by decide)
      rw [found]
      refine .malformed (bad.mpr notWellFormed) begins ?_
      rw [String.length_ofList]
      exact stop

/-- The reading behind a number. -/
theorem next_of_number (admissible : isSeparator separator = true)
    (nonempty : signText negative ++ tail.takeWhile (Pointwise.continuesNumber separator) ≠ [])
    (stage : state'.stage = .name)
    (fits : Pointwise.Fits separator .name
      (tail.dropWhile (Pointwise.continuesNumber separator))) :
    Standing separator formula state'
      (position +
        (signText negative ++ tail.takeWhile (Pointwise.continuesNumber separator)).length)
      (tail.dropWhile (Pointwise.continuesNumber separator)) := by
  apply standing.cut_behind_number.next_of_noLetter (noLetter_of_number admissible) nonempty
  · rw [stage]
    exact fits
  · rw [stage]
    decide
  · intro number
    rw [stage] at number
    cases number

end Number

/-! ## Symbols -/

section Symbol

variable {c : Char} (standing : Standing separator formula state position (c :: rest))
  (taker : Pointwise.reader separator state c = .symbol)

include standing taker

/-- The separator is left to the symbol reader only behind a word. -/
theorem behindWord_of_separator (same : c = separator) : BehindWord formula position := by
  have fits := standing.fits
  rw [same] at fits taker
  exact standing.behind.mp (Pointwise.stage_of_reader_separator fits taker)

/-- What the symbol reader finds is placed. -/
theorem placed_symbol : (Pointwise.symbolFinding position c).Placed separator formula := by
  have plain := Pointwise.isAlphanum_of_reader_symbol standing.fits taker
  have here := getElem?_of_drop_eq_cons standing.text_eq
  obtain ⟨blank, found⟩ | ⟨value, symbol, found⟩ | ⟨visible, noSymbol, found⟩ :=
    Pointwise.symbolFinding_cases c
  · rw [found]
    exact .blank blank here
  · rw [found]
    exact .symbol symbol here
  · rw [found]
    exact .unexpected plain visible noSymbol here (standing.behindWord_of_separator taker)

/-- The reading behind a symbol. -/
theorem next_of_symbol (stage : state'.stage = .number) :
    Standing separator formula state' (position + 1) rest := by
  have plain := Pointwise.isAlphanum_of_reader_symbol standing.fits taker
  rw [isAlphanum_eq, Bool.or_eq_false_iff] at plain
  have noLetter : ∀ d ∈ [c], d.isAlpha = false := by
    intro d member
    rw [List.mem_singleton.mp member]
    exact plain.1
  apply @next_of_noLetter _ _ _ _ _ [c] _ standing noLetter (List.cons_ne_nil c [])
  · rw [stage]
    exact Pointwise.fits_number separator rest
  · rw [stage]
    decide
  · -- The character is no digit, and a separator only directly behind a word.
    intro _ place behind inRow
    obtain rfl : place = position := Nat.succ.inj behind
    have here := getElem?_of_drop_eq_cons standing.text_eq
    have goesOn := inRow_char here inRow
    rw [Pointwise.continuesNumber, plain.2, Bool.false_or, beq_iff_eq] at goesOn
    have behindWord := standing.behindWord_of_separator taker goesOn
    rw [goesOn] at here
    exact inRow.2.2 ⟨here, behindWord⟩

end Symbol

/-! ## One reading, and all of them -/

/-- The number reader is offered the characters at the number stage only. -/
theorem stage_of_reader_number {c : Char}
    (taker : Pointwise.reader separator state c = .number) : state.stage = .number := by
  unfold Pointwise.reader at taker
  split at taker
  · rename_i begins
    exact begins.1
  · split at taker <;> cases taker

section Step

variable {c : Char} (admissible : isSeparator separator = true)
  (standing : Standing separator formula state position (c :: rest))

include admissible standing

/-- What a reading finds is placed. -/
theorem placed_step :
    (Pointwise.step separator state position c rest).finding.Placed separator formula := by
  cases taker : Pointwise.reader separator state c with
  | number =>
    have stage := stage_of_reader_number taker
    have more : Pointwise.takes separator .number = Pointwise.continuesNumber separator := rfl
    obtain ⟨negative, tail, text, taken, -⟩ :=
      Pointwise.exists_sign_of_startsNumber (Pointwise.startsNumber_of_reader taker) rest
    simp only [Pointwise.step, taker, Pointwise.findingOf, more]
    rw [text] at standing
    rw [taken]
    exact placed_number standing admissible stage (by rw [← taken]; simp)
  | name =>
    have more : Pointwise.takes separator .name = Char.isAlphanum := rfl
    simp only [Pointwise.step, taker, Pointwise.findingOf, more]
    exact placed_name (Pointwise.isAlpha_of_reader taker) standing
  | symbol =>
    simp only [Pointwise.step, taker, Pointwise.findingOf]
    exact standing.placed_symbol taker

/-- The reading behind a reading stands in the same way. -/
theorem step :
    Standing separator formula (Pointwise.step separator state position c rest).state
      (position + (Pointwise.step separator state position c rest).text.length)
      (Pointwise.step separator state position c rest).rest := by
  have fits := Pointwise.fits_step separator state position c rest
  cases taker : Pointwise.reader separator state c with
  | number =>
    have more : Pointwise.takes separator .number = Pointwise.continuesNumber separator := rfl
    obtain ⟨negative, tail, text, taken, left⟩ :=
      Pointwise.exists_sign_of_startsNumber (Pointwise.startsNumber_of_reader taker) rest
    simp only [Pointwise.step, taker, ScanState.stage_next, more] at fits ⊢
    rw [text] at standing
    rw [left] at fits ⊢
    rw [taken]
    apply standing.next_of_number admissible
    · rw [← taken]
      exact List.cons_ne_nil _ _
    · exact ScanState.stage_next ..
    · exact fits
  | name =>
    have more : Pointwise.takes separator .name = Char.isAlphanum := rfl
    simp only [Pointwise.step, taker, more]
    exact next_of_name (Pointwise.isAlpha_of_reader taker) standing (ScanState.stage_next ..)
  | symbol =>
    simp only [Pointwise.step, taker, Pointwise.takeWhile_takes_symbol,
      Pointwise.dropWhile_takes_symbol]
    exact standing.next_of_symbol taker (ScanState.stage_next ..)

end Step

/-- What a scan finds from a place on is placed. -/
theorem placed_of_mem_findingsFrom (admissible : isSeparator separator = true)
    {text : List Char} (standing : Standing separator formula state position text) :
    ∀ f ∈ Pointwise.findingsFrom separator state position text, f.Placed separator formula := by
  induction state, position, text using Pointwise.reading_induction separator with
  | nil state position =>
    intro f member
    rw [Pointwise.findingsFrom_nil] at member
    cases member
  | cons state position c rest ih =>
    intro f member
    rw [Pointwise.findingsFrom_cons] at member
    rcases List.mem_cons.mp member with same | later
    · rw [same]
      exact placed_step admissible standing
    · exact ih (standing.step admissible) f later

end Standing

/-- What a scan finds in a formula is placed. -/
theorem placed_of_mem_findings {separator : Char} (admissible : isSeparator separator = true)
    (formula : List Char) :
    ∀ f ∈ Pointwise.findings separator formula, f.Placed separator formula :=
  (Standing.initial separator formula).placed_of_mem_findingsFrom admissible

end FormulaScan
