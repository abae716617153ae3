import FormulaScan.Proofs.Grammar.RoundTrip
import FormulaScan.Proofs.Scan.Blanking
import FormulaScan.Proofs.Scan.Composition

/-!
# White space between tokens

White space may be put in between two tokens that touch each other: the tokens stay what they are,
and those behind the white space move by its length (`scan_insertAt`). Only two minus signs must
stay together, because the second one can become the sign of a number when it stands apart.

Behind white space all readers are offered the next character, while behind a token some may be
skipped. `readsAlike_between_tokens` says that this makes no difference where another token follows:
nothing that goes on a number stands behind a number, a separator behind a name is no token, and a
minus sign is skipped only behind an operand, where it is an operator anyway, or behind another
minus sign.
-/

namespace FormulaScan

/-- A formula with some characters put in at a place. -/
def insertAt (formula : String) (place : Nat) (row : List Char) : String :=
  String.ofList (formula.toList.take place ++ (row ++ formula.toList.drop place))

namespace Pointwise

variable {separator : Char}

/-! ## Behind a token -/

/-- Where an operator is expected, a minus sign is an operator whichever reader comes first. -/
theorem reader_minus_of_operator (admissible : isSeparator separator = true) (stage : Stage) :
    reader separator ⟨.operator, stage⟩ '-' = .symbol := by
  have noSign : ¬ ScanState.takesSign ⟨.operator, stage⟩ := fun takes => nomatch takes.1
  rw [reader_minus admissible, if_neg noSign]

/-- A symbol is read as a symbol wherever an operator is expected. -/
theorem reader_symbol_of_operator (admissible : isSeparator separator = true) (stage : Stage)
    {d : Char} (symbol : Segment.isSymbol d = true) :
    reader separator ⟨.operator, stage⟩ d = .symbol := by
  by_cases minus : d = '-'
  · rw [minus]
    exact reader_minus_of_operator admissible stage
  · exact reader_of_isSymbol admissible ⟨.operator, stage⟩ symbol minus

/-- Behind a number, or behind a minus sign that is an operator, all readers may be offered the
character of the next token, unless both tokens are minus signs. -/
theorem reader_behind_number_token (admissible : isSeparator separator = true)
    {position : Nat} {text : List Char} {a b : Token}
    (isA : numberFinding separator position text = .token a) {next : Nat} {d : Char}
    {rest : List Char} (stops : continuesNumber separator d = false)
    (isB : (step separator ⟨.behind a.value, .name⟩ next d rest).finding = .token b)
    (noSigns : ¬ (a.value = .operator .subtract ∧ b.value = .operator .subtract)) :
    reader separator ⟨.behind a.value, .number⟩ d =
      reader separator ⟨.behind a.value, .name⟩ d := by
  by_cases minus : d = '-'
  · subst minus
    obtain ⟨literal, -, found⟩ | ⟨-, found⟩ | ⟨-, -, found⟩ := numberFinding_cases separator text
    · -- A number has been read, and behind it the minus sign is an operator.
      obtain rfl := Finding.token.inj (isA.symm.trans (found position))
      have operator : Expectation.behind literal.tokenValue = .operator :=
        Item.behind_tokenValue literal
      simp only [operator, reader_minus_of_operator admissible]
    · -- A minus sign has been read, and the symbol reader makes an operator of the next one too.
      obtain rfl := Finding.token.inj (isA.symm.trans (found position))
      have symbol : reader separator ⟨.operand, .name⟩ '-' = .symbol := by
        rw [reader_minus admissible, if_neg fun takes => nomatch takes.2]
      have second : (step separator ⟨.operand, .name⟩ next '-' rest).finding =
          .token (minusAt next) := by
        simp only [step, symbol]
        rfl
      obtain rfl := Finding.token.inj (isB.symm.trans second)
      exact absurd ⟨rfl, rfl⟩ noSigns
    · rw [found] at isA
      cases isA
  · exact reader_behind_number _ stops minus

/-- Between two tokens that are not both minus signs, the second one is read alike when all readers
are offered its first character. -/
theorem readsAlike_between_tokens (admissible : isSeparator separator = true)
    {state : ScanState} {position : Nat} {c : Char} {rest : List Char} {a b : Token}
    {behind : List Finding} (isA : (step separator state position c rest).finding = .token a)
    (isB : findingsFrom separator (step separator state position c rest).state
      (position + (step separator state position c rest).text.length)
      (step separator state position c rest).rest = .token b :: behind)
    (noSigns : ¬ (a.value = .operator .subtract ∧ b.value = .operator .subtract)) :
    ReadsAlike separator (step separator state position c rest).state
      ⟨(step separator state position c rest).state.expects, .number⟩
      (step separator state position c rest).rest := by
  refine ⟨rfl, ?_⟩
  intro d first
  obtain ⟨rest', left⟩ : ∃ rest', (step separator state position c rest).rest = d :: rest' :=
    List.head?_eq_some_iff.mp first
  have fits := fits_step separator state position c rest
  have behindA : (step separator state position c rest).state =
      ⟨.behind a.value, (reader separator state c).behind⟩ := by
    rw [state_step, isA]
    rfl
  have found := finding_step separator state position c rest
  rw [left, findingsFrom_cons, behindA] at isB
  rw [left, behindA] at fits
  rw [behindA]
  rw [isA] at found
  have isB := (List.cons.inj isB).1
  cases taker : reader separator state c with
  | number =>
    rw [taker] at found fits isB
    exact reader_behind_number_token admissible found.symm (fits .number rfl d rfl) isB noSigns
  | name =>
    rw [taker] at found isB
    have operator : Expectation.behind a.value = .operator := by
      rw [Finding.token.inj found]
      rfl
    -- The symbol reader has found a token, so that its character is a symbol.
    have symbol : Segment.isSymbol d = true := by
      rw [operator] at isB
      exact isSymbol_of_symbol? b.value (symbol?_of_symbolFinding isB)
    rw [operator, reader_symbol_of_operator admissible .number symbol]
    rfl
  | symbol => rfl

/-- States that read a text alike find the same things in it. -/
theorem findingsFrom_congr_of_readsAlike {state state' : ScanState} {text : List Char}
    (alike : ReadsAlike separator state state' text) (position : Nat) :
    findingsFrom separator state' position text = findingsFrom separator state position text := by
  cases text with
  | nil => rw [findingsFrom_nil, findingsFrom_nil]
  | cons c rest =>
    have stops : ∀ d ∈ (step separator state position c rest).rest.head?,
        takes separator (reader separator state c) d = false :=
      fun d first => takes_head_dropWhile first
    have same := findingsFrom_of_readsAlike alike stops position
    rw [text_append_rest_step] at same
    rw [same, findingsFrom_cons]

/-! ## White space put in -/

/-- Where two tokens follow one another in a text, the text can be cut between them, and white space
put in at the cut only moves what is found behind it. -/
theorem exists_cut_between_tokens (admissible : isSeparator separator = true) (state : ScanState)
    (position : Nat) (text : List Char) (fits : Fits separator state.stage text)
    {front behind : List Finding} {a b : Token}
    (found : findingsFrom separator state position text = front ++ .token a :: .token b :: behind)
    (noSigns : ¬ (a.value = .operator .subtract ∧ b.value = .operator .subtract)) :
    ∃ first left right, text = first :: left ++ right ∧
      position + (first :: left).length = a.stop ∧
      ∀ row, row ≠ [] → (∀ c ∈ row, Text.isBlank c = true) →
        told (findingsFrom separator state position (first :: left ++ (row ++ right))) =
          told (front ++ .token a ::
            (.token b :: behind).map (Finding.relocate (· + row.length))) := by
  induction state, position, text using reading_induction separator generalizing front with
  | nil state position =>
    rw [findingsFrom_nil] at found
    cases front <;> cases found
  | cons state position c rest ih =>
    have text := text_append_rest_step separator state position c rest
    rw [findingsFrom_cons] at found
    cases front with
    | nil =>
      -- The first reading is that of the first token, and the cut is where it stops.
      obtain ⟨isA, isB⟩ := List.cons.inj found
      have alike := readsAlike_between_tokens admissible isA isB noSigns
      have reads := reads_step position fits
      rw [isA] at reads
      refine ⟨c, _, _, text.symm, ?_, ?_⟩
      · show _ = a.start + a.length
        rw [show a.start = position from reads.start_eq, show a.length = _ from reads.length_eq]
        rfl
      · intro row nonempty blank
        have boundary := boundary_of_row admissible nonempty blank
          (step separator state position c rest).rest
        have taken := findingsFrom_of_readsAlike (ReadsAlike.refl state (c :: rest))
          (boundary.takes_eq_false _) position
        rw [isA] at taken
        show told (findingsFrom separator state position
          ((step separator state position c rest).text ++
            (row ++ (step separator state position c rest).rest))) = _
        rw [taken]
        apply told_cons_congr
        rw [told_findingsFrom_row admissible _ _ nonempty blank, findingsFrom_relocate,
          findingsFrom_congr_of_readsAlike alike, isB]
    | cons f front =>
      -- The first reading is in front of the cut, and it stops at the same character as before.
      obtain ⟨isF, later⟩ := List.cons.inj found
      obtain ⟨first, left, right, parts, place, cut⟩ :=
        ih (fits_step separator state position c rest) later
      refine ⟨c, rest.takeWhile (takes separator (reader separator state c)) ++ first :: left,
        right, ?_, ?_, ?_⟩
      · rw [← text, parts]
        simp [step]
      · rw [← place, Nat.add_assoc, ← List.length_append]
        rfl
      · intro row nonempty blank
        have stops : ∀ d ∈ (first :: left ++ (row ++ right)).head?,
            takes separator (reader separator state c) d = false := by
          intro d isFirst
          have left : d ∈ (step separator state position c rest).rest.head? := by
            rw [parts]
            exact isFirst
          exact takes_head_dropWhile left
        have taken := findingsFrom_of_readsAlike (ReadsAlike.refl state (c :: rest)) stops position
        rw [isF] at taken
        show told (findingsFrom separator state position
          ((step separator state position c rest).text ++ first :: left ++ (row ++ right))) = _
        rw [List.append_assoc, taken]
        apply told_cons_congr
        exact cut row nonempty blank

end Pointwise

/-! ## Tokens that touch -/

/-- Tokens that touch are found directly one after the other. -/
theorem exists_findings_of_touching {separator : Char} {position : Nat} {text : List Char}
    {found : List Finding} (tiling : Tiling separator position text found)
    {before after : List Token} {a b : Token}
    (tokens : found.filterMap Finding.token? = before ++ a :: b :: after)
    (touching : b.start = a.stop) :
    ∃ front behind, found = front ++ .token a :: .token b :: behind ∧
      front.filterMap Finding.token? = before ∧ behind.filterMap Finding.token? = after := by
  obtain ⟨front, fromA, rfl, isBefore, tokensA⟩ := List.filterMap_eq_append_iff.mp tokens
  obtain ⟨skipped, f, fromB, rfl, noTokens, isA, tokensB⟩ := List.filterMap_eq_cons_iff.mp tokensA
  obtain ⟨between, g, behind, rfl, noTokens', isB, isAfter⟩ := List.filterMap_eq_cons_iff.mp tokensB
  obtain rfl := Finding.token?_eq_some_iff.mp isA
  obtain rfl := Finding.token?_eq_some_iff.mp isB
  -- A finding between the two tokens would have no room.
  have order := (List.pairwise_append.mp (List.pairwise_append.mp tiling.pairwise).2.1).2.1
  have nothing : between = [] := by
    apply List.eq_nil_iff_forall_not_mem.mpr
    intro h member
    have inside := tiling.bounds (f := h) (by simp [member])
    have behindA := (List.pairwise_cons.mp order).1 h (List.mem_append_left _ member)
    have beforeB := (List.pairwise_append.mp (List.pairwise_cons.mp order).2).2.2 h member
      (.token b) (List.mem_cons_self ..)
    have room : h.stop ≤ h.start := calc
      h.stop ≤ b.start := beforeB
      _ = a.stop := touching
      _ ≤ h.start := behindA
    exact absurd inside.2.1 (Nat.not_lt_of_le room)
  rw [nothing]
  refine ⟨front ++ skipped, behind, by simp, ?_, isAfter⟩
  have none : skipped.filterMap Finding.token? = [] := List.filterMap_eq_nil_iff.mpr noTokens
  rw [List.filterMap_append, isBefore, none, List.append_nil]

/-- If an answer gives tokens, so does each part of the findings. -/
theorem answer_append_eq_ok {mode : Mode} {front behind : List Finding} {read : List Token}
    (ok : answer mode (front ++ behind) = .ok read) :
    answer mode front = .ok (front.filterMap Finding.token?) ∧
      answer mode behind = .ok (behind.filterMap Finding.token?) := by
  rw [answer_append] at ok
  cases inFront : answer mode front with
  | error e =>
    rw [inFront] at ok
    cases ok
  | ok before =>
    cases inBehind : answer mode behind with
    | error e =>
      rw [inFront, inBehind] at ok
      cases ok
    | ok after =>
      rw [eq_of_answer_eq_ok inFront, eq_of_answer_eq_ok inBehind]
      exact ⟨rfl, rfl⟩

/-- White space that is put in between two tokens that touch, and are not both minus signs, moves the
tokens behind it and changes nothing else. -/
theorem scan_insertAt (settings : Settings) {formula : String} {before after : List Token}
    {a b : Token} (ok : scan settings formula = .ok (before ++ a :: b :: after))
    (touching : b.start = a.stop)
    (noSigns : ¬ (a.value = .operator .subtract ∧ b.value = .operator .subtract))
    {row : List Char} (nonempty : row ≠ []) (blank : ∀ c ∈ row, Text.isBlank c = true) :
    scan settings (insertAt formula a.stop row) =
      .ok (before ++ a :: (b :: after).map (Token.relocate (· + row.length))) := by
  have admissible := settings.isSeparator_separator
  have tokens := (eq_pointwise_of_scan ok).symm
  obtain ⟨front, behind, found, isBefore, isAfter⟩ :=
    exists_findings_of_touching (tiling_findings settings.separator formula.toList) tokens touching
  obtain ⟨first, left, right, parts, place, cut⟩ :=
    Pointwise.exists_cut_between_tokens admissible .initial 0 formula.toList
      (Pointwise.fits_number settings.separator _) found noSigns
  rw [Nat.zero_add] at place
  have filled : formula.toList ≠ [] := by
    rw [parts]
    exact List.cons_ne_nil _ _
  have text : (insertAt formula a.stop row).toList = first :: left ++ (row ++ right) := by
    rw [insertAt, String.toList_ofList, parts, ← place, List.take_left, List.drop_left]
  have filled' : (insertAt formula a.stop row).toList ≠ [] := by
    rw [text]
    exact List.cons_ne_nil _ _
  have tokensFront : (front ++ [Finding.token a]).filterMap Finding.token? = before ++ [a] := by
    rw [List.filterMap_append, isBefore]
    rfl
  have tokensBehind : (Finding.token b :: behind).filterMap Finding.token? = b :: after :=
    congrArg (b :: ·) isAfter
  rw [scan_eq_answer settings filled, found, List.append_cons] at ok
  obtain ⟨okFront, okBehind⟩ := answer_append_eq_ok ok
  rw [tokensFront] at okFront
  rw [tokensBehind] at okBehind
  -- What is put in tells nothing, and behind it the answer is moved.
  rw [scan_eq_answer settings filled', text, Pointwise.findings,
    answer_congr_of_told settings.mode (cut row nonempty blank), List.append_cons, answer_append,
    answer_relocate, okFront, okBehind]
  show Except.ok (before ++ [a] ++ _) = _
  rw [List.append_assoc]
  rfl

/-- A tab between a minus sign that is an operator and a negative number. -/
theorem scan_insertAt_tab :
    (scan .default "1--3" =
        .ok [⟨.integer 1, 0, 1⟩, ⟨.operator .subtract, 1, 1⟩, ⟨.integer (-3), 2, 2⟩] ∧
      ∀ c ∈ ['\t'], Text.isBlank c = true) ∧
    scan .default "1-\t-3" =
      .ok [⟨.integer 1, 0, 1⟩, ⟨.operator .subtract, 1, 1⟩, ⟨.integer (-3), 3, 2⟩] := by
  have ok : scan .default "1--3" =
      .ok [⟨.integer 1, 0, 1⟩, ⟨.operator .subtract, 1, 1⟩, ⟨.integer (-3), 2, 2⟩] := by
    rw [scan_lenient rfl (by decide)]
    exact congrArg Except.ok (by decide +kernel)
  have blank : ∀ c ∈ ['\t'], Text.isBlank c = true := List.all_eq_true.mp (by decide)
  have spaced := @scan_insertAt .default "1--3" [⟨.integer 1, 0, 1⟩] [] _ _ ok rfl (by decide)
    ['\t'] (by decide) blank
  exact ⟨⟨ok, blank⟩, spaced⟩

/-- Between two minus signs white space counts, because the second one becomes the sign of a
number. -/
example :
    tokens '.' "--3".toList =
        [⟨.operator .subtract, 0, 1⟩, ⟨.operator .subtract, 1, 1⟩, ⟨.integer 3, 2, 1⟩] ∧
      tokens '.' (insertAt "--3" 1 [' ']).toList =
        [⟨.operator .subtract, 0, 1⟩, ⟨.integer (-3), 2, 2⟩] := by
  decide +kernel

end FormulaScan
