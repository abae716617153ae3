import FormulaScan.Proofs.Scan.Readers

/-!
# Scanning a text in two parts

A character that no reader takes in ends every number and every name. So a text can be scanned in
two parts, with the cut in front of such a character, if the second scan begins in the state that
the first one leaves (`findingsFrom_append`).

What a scan leaves is settled by what it found last: the expectation by the last token
(`expects_stateBehind`), and the stage by the reader that was the last to take something
(`exists_last_reading`).
-/

namespace FormulaScan.Pointwise

/-- The state in which a scan leaves a text. -/
def stateBehind (separator : Char) (state : ScanState) (position : Nat) :
    List Char → ScanState
  | [] => state
  | c :: rest =>
    let reading := step separator state position c rest
    stateBehind separator reading.state (position + reading.text.length) reading.rest
termination_by text => text.length
decreasing_by
  exact length_rest_step separator state position c rest

/-- The text begins with no character that a reader takes in. -/
def Boundary (separator : Char) (text : List Char) : Prop :=
  ∀ c ∈ text.head?, c.isAlphanum = false ∧ c ≠ separator

section

variable {separator : Char}

@[simp] theorem stateBehind_nil (state : ScanState) (position : Nat) :
    stateBehind separator state position [] = state := by
  rw [stateBehind]

/-- The state behind a text is the state behind what the first reading leaves. -/
theorem stateBehind_cons (state : ScanState) (position : Nat) (c : Char) (rest : List Char) :
    stateBehind separator state position (c :: rest) =
      stateBehind separator (step separator state position c rest).state
        (position + (step separator state position c rest).text.length)
        (step separator state position c rest).rest := by
  rw [stateBehind]

/-! ## Cutting a text in two -/

/-- No reader takes in what stands at a boundary. -/
theorem Boundary.takes_eq_false {text : List Char} (boundary : Boundary separator text)
    (taker : Stage) : ∀ c ∈ text.head?, takes separator taker c = false := by
  intro c first
  obtain ⟨plain, noSeparator⟩ := boundary c first
  cases taker with
  | number =>
    have noDigit : c.isDigit = false := (Bool.or_eq_false_iff.mp plain).2
    simp [takes, continuesNumber, noDigit, noSeparator]
  | name => exact plain
  | symbol => rfl

/-- A text that begins with a boundary fits behind every stage. -/
theorem Boundary.fits {text : List Char} (boundary : Boundary separator text) (stage : Stage) :
    Fits separator stage text :=
  fun taker _ => boundary.takes_eq_false taker

/-- A symbol stands at a boundary. -/
theorem boundary_of_isSymbol (admissible : isSeparator separator = true) {c : Char}
    (symbol : Segment.isSymbol c = true) (text : List Char) : Boundary separator (c :: text) := by
  intro d first
  obtain rfl : c = d := Option.some.inj first
  refine ⟨(Segment.plain_of_isSymbol symbol).1, ?_⟩
  rintro rfl
  rw [Segment.isSymbol_of_isSeparator admissible] at symbol
  cases symbol

/-- A blank stands at a boundary. -/
theorem boundary_of_isBlank (admissible : isSeparator separator = true) {c : Char}
    (blank : Text.isBlank c = true) (text : List Char) : Boundary separator (c :: text) := by
  intro d first
  obtain rfl : c = d := Option.some.inj first
  refine ⟨Text.isAlphanum_eq_false_of_isBlank blank, ?_⟩
  rintro rfl
  rw [(isSeparator_iff.mp admissible).2.1] at blank
  cases blank

/-- A row of blanks begins with a boundary. -/
theorem boundary_of_row (admissible : isSeparator separator = true) {row : List Char}
    (nonempty : row ≠ []) (blank : ∀ c ∈ row, Text.isBlank c = true) (text : List Char) :
    Boundary separator (row ++ text) := by
  obtain ⟨c, more, rfl⟩ := List.exists_cons_of_ne_nil nonempty
  exact boundary_of_isBlank admissible (blank c (List.mem_cons_self ..)) (more ++ text)

/-- A reading in front of a boundary is the same whatever stands behind the boundary. -/
theorem step_append {behind : List Char} (boundary : Boundary separator behind)
    (state : ScanState) (position : Nat) (c : Char) (rest : List Char) :
    step separator state position c (rest ++ behind) =
      { step separator state position c rest with
        rest := (step separator state position c rest).rest ++ behind } := by
  have cut := takeWhile_append_of_head
    (boundary.takes_eq_false (reader separator state c)) rest
  simp only [step, cut.1, cut.2]

/-- A reader takes a text up to where it stops if the text goes on as the reader asks. -/
theorem findingsFrom_taken_of_stops {behind : List Char} {taker : Stage}
    (stops : ∀ d ∈ behind.head?, takes separator taker d = false) {state : ScanState} {c : Char}
    (reads : reader separator state c = taker) {more : List Char}
    (goOn : ∀ d ∈ more, takes separator taker d = true) (position : Nat) :
    findingsFrom separator state position (c :: more ++ behind) =
      findingOf separator position c more taker ::
        findingsFrom separator
          (state.next (findingOf separator position c more taker) taker.behind)
          (position + (c :: more).length) behind := by
  obtain ⟨taken, left⟩ := span_of_head goOn stops
  rw [List.cons_append, findingsFrom_cons]
  simp only [step, reads, taken, left]

/-- Every reader stops at a boundary. -/
theorem findingsFrom_taken {behind : List Char} (boundary : Boundary separator behind)
    {state : ScanState} {taker : Stage} {c : Char} (reads : reader separator state c = taker)
    {more : List Char} (goOn : ∀ d ∈ more, takes separator taker d = true) (position : Nat) :
    findingsFrom separator state position (c :: more ++ behind) =
      findingOf separator position c more taker ::
        findingsFrom separator
          (state.next (findingOf separator position c more taker) taker.behind)
          (position + (c :: more).length) behind :=
  findingsFrom_taken_of_stops (boundary.takes_eq_false taker) reads goOn position

/-- A text is scanned in two parts if the second one begins with a boundary. -/
theorem findingsFrom_append {behind : List Char} (boundary : Boundary separator behind)
    (state : ScanState) (position : Nat) (text : List Char) :
    findingsFrom separator state position (text ++ behind) =
      findingsFrom separator state position text ++
        findingsFrom separator (stateBehind separator state position text)
          (position + text.length) behind := by
  induction state, position, text using reading_induction separator with
  | nil state position => simp
  | cons state position c rest ih =>
    have parts := congrArg List.length
      (text_append_rest_step separator state position c rest)
    rw [List.length_append] at parts
    -- The first reading stops in front of the boundary, so it is the same in the longer text.
    rw [List.cons_append, findingsFrom_cons, findingsFrom_cons, step_append boundary, ih,
      stateBehind_cons, ← parts, List.cons_append, Nat.add_assoc]

/-- The findings of a formula that is cut at a boundary. -/
theorem findings_append {behind : List Char} (boundary : Boundary separator behind)
    (front : List Char) :
    findings separator (front ++ behind) =
      findings separator front ++
        findingsFrom separator (stateBehind separator .initial 0 front) front.length behind := by
  have cut := findingsFrom_append boundary .initial 0 front
  rw [Nat.zero_add] at cut
  exact cut

/-! ## What the last reading settles -/

/-- The expectation behind a text is that behind its last token, if it has one. -/
theorem expects_stateBehind (state : ScanState) (position : Nat) (text : List Char) :
    (stateBehind separator state position text).expects =
      ((((findingsFrom separator state position text).filterMap Finding.token?).getLast?).map
        fun t => Expectation.behind t.value).getD state.expects := by
  induction state, position, text using reading_induction separator with
  | nil state position => simp
  | cons state position c rest ih =>
    -- If there is a later token, it is the last one, and otherwise the first reading's is.
    rw [stateBehind_cons, ih, findingsFrom_cons, List.filterMap_cons, expects_step]
    cases (step separator state position c rest).finding.token? with
    | none => rfl
    | some t =>
      rw [List.getLast?_cons]
      cases (List.filterMap Finding.token? _).getLast? <;> rfl

/-- If the last finding is a token, what is expected is what is expected behind it. -/
theorem expects_of_getLast? {state : ScanState} {position : Nat} {text : List Char} {t : Token}
    (last : (findingsFrom separator state position text).getLast? = some (.token t)) :
    (stateBehind separator state position text).expects = Expectation.behind t.value := by
  obtain ⟨front, found⟩ := List.getLast?_eq_some_iff.mp last
  rw [expects_stateBehind, found, List.filterMap_append]
  simp [Finding.token?]

variable (separator) in
/-- The last reading of a text that is not empty. -/
theorem exists_last_reading (state : ScanState) (position : Nat) {text : List Char}
    (nonempty : text ≠ []) :
    ∃ front state' position' c more, text = front ++ c :: more ∧
      (findingsFrom separator state position text).getLast? =
        some (findingOf separator position' c more (reader separator state' c)) ∧
      (stateBehind separator state position text).stage = (reader separator state' c).behind := by
  induction state, position, text using reading_induction separator with
  | nil state position => exact absurd rfl nonempty
  | cons state position c rest ih =>
    have parts := text_append_rest_step separator state position c rest
    rw [findingsFrom_cons, stateBehind_cons, ← parts]
    -- The first reading is the last one if it leaves nothing.
    cases left : (step separator state position c rest).rest with
    | nil =>
      refine ⟨[], state, position, c, rest.takeWhile (takes separator (reader separator state c)),
        by simp [step], ?_, ?_⟩
      · rw [findingsFrom_nil]
        rfl
      · rw [stateBehind_nil]
        exact ScanState.stage_next ..
    | cons d rest' =>
      obtain ⟨front, state', position', c', more, text, last, stage⟩ := ih (by simp [left])
      rw [left] at text last stage
      refine ⟨(step separator state position c rest).text ++ front, state', position', c', more,
        by simp [text], ?_, stage⟩
      rw [List.getLast?_cons, last]
      rfl

end

end FormulaScan.Pointwise
