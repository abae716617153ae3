import FormulaScan.Proofs.Literal.Grammar
import FormulaScan.Proofs.Scan.Answer
import FormulaScan.Scan.Renaming

/-!
# A scan does not depend on the choice of the separator

Two scans with different separators give the same answer to formulas that differ by a renaming, with
the text or character of a fault renamed (`scan_rename`). All that a reader asks of a character is
whether it is of some known class or the separator, and a renaming keeps that (`apply_map`,
`continuesNumber_map`). The value of a number does not depend on the separator either, because it is
read with a point in the place of the separator (`ofText?_map`).
-/

namespace FormulaScan

namespace Renaming

variable {s t : Char} (φ : Renaming s t)

/-! ## Classes of characters -/

/-- A renaming keeps every class of known characters. -/
theorem apply_map {p : Char → Bool} (known : ∀ c, p c = true → isKnown c = true) (c : Char) :
    p (φ.map c) = p c := by
  by_cases here : isKnown c = true
  · rw [φ.map_eq_self c here]
  · -- Neither the character nor its image is of the class.
    have there := φ.isKnown_map c (Bool.of_not_eq_true here)
    have noImage : p (φ.map c) = false := by
      apply Bool.eq_false_iff.mpr
      intro image
      rw [known _ image] at there
      cases there
    have noOrigin : p c = false := by
      apply Bool.eq_false_iff.mpr
      intro origin
      exact here (known c origin)
    rw [noImage, noOrigin]

/-- A renaming takes nothing else to a known character. -/
theorem map_eq_iff {d : Char} (known : isKnown d = true) (c : Char) :
    φ.map c = d ↔ c = d := by
  have same := φ.apply_map (p := (· == d)) (by simp [known]) c
  rw [← beq_iff_eq, ← beq_iff_eq (a := c), same]

theorem isAlphanum_map (c : Char) : (φ.map c).isAlphanum = c.isAlphanum :=
  φ.apply_map (p := Char.isAlphanum) (by simp +contextual [isKnown]) c

theorem isAlpha_map (c : Char) : (φ.map c).isAlpha = c.isAlpha :=
  φ.apply_map (p := Char.isAlpha) (by simp +contextual [isKnown, isAlphanum_eq]) c

theorem isDigit_map (c : Char) : (φ.map c).isDigit = c.isDigit :=
  φ.apply_map (p := Char.isDigit) (by simp +contextual [isKnown, isAlphanum_eq]) c

theorem isBlank_map (c : Char) : Text.isBlank (φ.map c) = Text.isBlank c :=
  φ.apply_map (p := Text.isBlank) (by simp +contextual [isKnown]) c

theorem map_eq_self_of_isDigit {c : Char} (digit : c.isDigit = true) : φ.map c = c :=
  φ.map_eq_self c (by simp [isKnown, isAlphanum_eq, digit])

theorem beq_separator_map (c : Char) : (φ.map c == t) = (c == s) := by
  rw [Bool.eq_iff_iff, beq_iff_eq, beq_iff_eq, φ.map_eq_separator_iff]

theorem ofSymbol?_map (c : Char) :
    Operator.ofSymbol? (φ.map c) = Operator.ofSymbol? c := by
  apply Option.ext
  intro op
  have known : isKnown op.symbol = true := by cases op <;> decide
  rw [Operator.ofSymbol?_eq_some_iff, Operator.ofSymbol?_eq_some_iff,
    φ.map_eq_iff known]

/-! ## Numbers -/

theorem splitSign_map (text : List Char) :
    splitSign (text.map φ.map) =
      ((splitSign text).1, (splitSign text).2.map φ.map) := by
  have minus (c : Char) : φ.map c = '-' ↔ c = '-' := φ.map_eq_iff (by decide) c
  cases text with
  | nil => rfl
  | cons c rest =>
    by_cases sign : c = '-'
    · simp [splitSign, sign, (minus '-').mpr rfl]
    · simp [splitSign, sign, minus]

theorem map_eq_self_of_digits {row : List Char} (digits : row.all Char.isDigit = true) :
    row.map φ.map = row := by
  have same : ∀ c ∈ row, φ.map c = id c := by
    intro c member
    exact φ.map_eq_self_of_isDigit (List.all_eq_true.mp digits c member)
  rw [List.map_congr_left same, List.map_id]

theorem wholeNumber?_map (text : List Char) :
    Literal.wholeNumber? (text.map φ.map) = Literal.wholeNumber? text := by
  have digits : ((splitSign text).2.map φ.map).all Char.isDigit =
      (splitSign text).2.all Char.isDigit := by
    rw [List.all_map]
    exact congrArg _ (funext φ.isDigit_map)
  simp only [Literal.wholeNumber?, splitSign_map, digits, ne_eq, List.map_eq_nil_iff]
  by_cases all : (splitSign text).2.all Char.isDigit = true
  · rw [φ.map_eq_self_of_digits all]
  · simp [all]

theorem integer?_map (text : List Char) :
    Literal.integer? (text.map φ.map) = Literal.integer? text := by
  simp only [Literal.integer?, wholeNumber?_map]

theorem wellFormedBody_map (body : List Char) :
    Literal.wellFormedBody t (body.map φ.map) = Literal.wellFormedBody s body := by
  simp only [Literal.wellFormedBody, List.all_map, List.any_map, List.countP_map,
    Function.comp_def, isDigit_map, beq_separator_map]

/-- With a point for its separator, a renamed number is the number with a point for its own. -/
theorem withPoint_map {text : List Char}
    (form : Literal.wellFormedBody s (splitSign text).2 = true) :
    Literal.withPoint t (text.map φ.map) = Literal.withPoint s text := by
  -- The separator is the only character of a number that a renaming moves.
  have all : ∀ c ∈ text, isKnown c = true ∨ c = s := by
    intro c member
    rw [← signText_append_splitSign text, List.mem_append] at member
    rcases member with sign | inBody
    · left
      rw [eq_minus_of_mem_signText sign]
      decide
    · simp only [Literal.wellFormedBody, Bool.and_eq_true, List.all_eq_true, Bool.or_eq_true,
        beq_iff_eq] at form
      refine (form.1.1 c inBody).imp_left fun digit => ?_
      simp [isKnown, isAlphanum_eq, digit]
  rw [Literal.withPoint, List.map_map]
  apply List.map_congr_left
  intro c member
  rw [Function.comp_apply]
  by_cases same : c = s
  · rw [if_pos same, if_pos ((φ.map_eq_separator_iff c).mpr same)]
  · have known := (all c member).resolve_right same
    rw [if_neg same, if_neg (mt (φ.map_eq_separator_iff c).mp same), φ.map_eq_self c known]

theorem floatingPoint?_map (text : List Char) :
    Literal.floatingPoint? t (text.map φ.map) = Literal.floatingPoint? s text := by
  simp only [Literal.floatingPoint?, splitSign_map, wellFormedBody_map]
  by_cases form : Literal.wellFormedBody s (splitSign text).2 = true
  · rw [if_pos form, if_pos form, φ.withPoint_map form]
  · rw [if_neg form, if_neg form]

/-- A renamed text writes the same number. -/
theorem ofText?_map (text : List Char) :
    Literal.ofText? t (text.map φ.map) = Literal.ofText? s text := by
  simp only [Literal.ofText?, integer?_map, floatingPoint?_map]

end Renaming

/-! ## Readings -/

namespace Pointwise

variable {s t : Char} (φ : Renaming s t)

theorem continuesNumber_map (c : Char) :
    continuesNumber t (φ.map c) = continuesNumber s c := by
  rw [continuesNumber, continuesNumber, φ.isDigit_map, φ.beq_separator_map]

theorem takes_map (taker : Stage) (c : Char) : takes t taker (φ.map c) = takes s taker c := by
  cases taker with
  | number => exact continuesNumber_map φ c
  | name => exact φ.isAlphanum_map c
  | symbol => rfl

theorem startsNumber_map (expects : Expectation) (c : Char) :
    startsNumber t expects (φ.map c) = startsNumber s expects c := by
  have minus : (φ.map c == '-') = (c == '-') := by
    rw [Bool.eq_iff_iff, beq_iff_eq, beq_iff_eq]
    exact φ.map_eq_iff (by decide) c
  rw [startsNumber, startsNumber, continuesNumber_map, minus]

theorem reader_map (state : ScanState) (c : Char) :
    reader t state (φ.map c) = reader s state c := by
  simp only [reader, startsNumber_map, φ.isAlpha_map]

theorem numberFinding_map (position : Nat) (text : List Char) :
    numberFinding t position (text.map φ.map) =
      (numberFinding s position text).rename φ.map := by
  have sign : text.map φ.map = ['-'] ↔ text = ['-'] := by
    have minus (c : Char) : φ.map c = '-' ↔ c = '-' := φ.map_eq_iff (by decide) c
    simp [List.map_eq_singleton_iff, minus]
  rw [numberFinding, numberFinding, φ.ofText?_map, List.length_map]
  cases Literal.ofText? s text with
  | some literal => rfl
  | none =>
    by_cases lone : text = ['-']
    · rw [if_pos lone, if_pos (sign.mpr lone)]
      rfl
    · rw [if_neg lone, if_neg (mt sign.mp lone)]
      have text_map : String.ofList (text.map φ.map) = (String.ofList text).map φ.map := by
        rw [← String.toList_inj]
        simp
      rw [text_map]
      rfl

theorem nameFinding_map (position : Nat) (text : List Char)
    (name : ∀ c ∈ text, c.isAlphanum = true) :
    nameFinding position (text.map φ.map) =
      (nameFinding position text).rename φ.map := by
  have same : text.map φ.map = text := by
    have keeps : ∀ c ∈ text, φ.map c = id c := by
      intro c member
      exact φ.map_eq_self c (by simp [isKnown, name c member])
    rw [List.map_congr_left keeps, List.map_id]
  rw [same]
  rfl

theorem symbolFinding_map (position : Nat) (c : Char) :
    symbolFinding position (φ.map c) =
      (symbolFinding position c).rename φ.map := by
  have left := φ.map_eq_iff (d := '(') (by decide) c
  have right := φ.map_eq_iff (d := ')') (by decide) c
  simp only [symbolFinding, φ.isBlank_map, left, right, φ.ofSymbol?_map]
  split
  · rfl
  · split
    · rfl
    · split
      · rfl
      · split <;> rfl

theorem next_rename (state : ScanState) (finding : Finding) (map : Char → Char) (stage : Stage) :
    state.next (finding.rename map) stage = state.next finding stage := by
  cases finding <;> rfl

/-- What the reader of a character finds in a renamed text. -/
theorem findingOf_map (position : Nat) (rest : List Char) (state : ScanState) (c : Char) :
    findingOf t position (φ.map c)
        ((rest.takeWhile (takes s (reader s state c))).map φ.map) (reader s state c) =
      (findingOf s position c (rest.takeWhile (takes s (reader s state c)))
        (reader s state c)).rename φ.map := by
  cases taker : reader s state c with
  | number => exact numberFinding_map φ position (c :: rest.takeWhile (takes s .number))
  | name =>
    -- A renaming keeps the letters and digits of a name.
    apply nameFinding_map φ position (c :: rest.takeWhile (takes s .name))
    intro d member
    rcases List.mem_cons.mp member with rfl | inMore
    · rw [isAlphanum_eq, isAlpha_of_reader taker, Bool.true_or]
    · exact List.all_eq_true.mp List.all_takeWhile d inMore
  | symbol => exact symbolFinding_map φ position c

/-- A reading of a renamed text takes the same characters and finds the same, renamed. -/
theorem step_map (state : ScanState) (position : Nat) (c : Char) (rest : List Char) :
    step t state position (φ.map c) (rest.map φ.map) =
      { text := (step s state position c rest).text.map φ.map
        finding := (step s state position c rest).finding.rename φ.map
        state := (step s state position c rest).state
        rest := (step s state position c rest).rest.map φ.map } := by
  have taken : takes t (reader s state c) ∘ φ.map = takes s (reader s state c) :=
    funext (takes_map φ (reader s state c))
  simp only [step, reader_map, List.takeWhile_map, List.dropWhile_map, taken,
    findingOf_map φ position rest, next_rename, List.map_cons]

/-- What is found in a renamed text is what is found in the text, renamed. -/
theorem findingsFrom_map (state : ScanState) (position : Nat) (text : List Char) :
    findingsFrom t state position (text.map φ.map) =
      (findingsFrom s state position text).map (Finding.rename φ.map) := by
  induction state, position, text using reading_induction s with
  | nil state position => simp
  | cons state position c rest ih =>
    rw [List.map_cons, findingsFrom_cons, findingsFrom_cons, step_map, List.map_cons, ← ih,
      List.length_map]

end Pointwise

/-- A scan of a renamed formula with the other separator gives the same tokens, or the same error
renamed. -/
theorem scan_rename (settings settings' : Settings) (mode : Mode)
    (φ : Renaming settings.separator settings'.separator) (formula : String) :
    scan (settings'.withMode mode) (formula.map φ.map) =
      mapAnswer id (Fault.rename φ.map) (scan (settings.withMode mode) formula) := by
  by_cases empty : formula.toList = []
  · simp [scan, empty, mapAnswer, Except.map, Except.mapError, ScanError.mapFault]
  · have nonempty : (formula.map φ.map).toList ≠ [] := by simpa using empty
    rw [scan_eq_answer _ nonempty, scan_eq_answer _ empty, String.toList_map,
      Settings.separator_withMode, Settings.separator_withMode, Pointwise.findings,
      Pointwise.findingsFrom_map]
    apply answer_map
    · intro f
      cases f <;> rfl
    · intro f
      cases f <;> rfl

end FormulaScan
