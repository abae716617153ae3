import FormulaScan.Proofs.Scan.Readers

/-!
# A scan over runs is a scan over characters

`findings` reads a formula run by run and `Pointwise.findings` character by character. Both find the
same tokens and the same faults in the same order; they differ in blanks only, which the first finds
in rows and the second one by one (`told_findings`). So both scans give the same answer
(`scan_eq_pointwise`).

The proof is a simulation: the pointwise scan stands where a run begins, both scans are in the same
state, and the text fits behind its stage. The fit is what keeps the symbol reader from meeting
digits and words.
-/

namespace FormulaScan

/-! ## Findings that tell something -/

/-- Tells whether a finding is no more than blanks. -/
def Finding.isBlank : Finding → Bool
  | .blank _ _ => true
  | .token _ | .fault _ => false

/-- The findings that are no blanks. -/
def told (found : List Finding) : List Finding := found.filter fun f => !f.isBlank

@[simp] theorem told_blank_cons (start length : Nat) (found : List Finding) :
    told (.blank start length :: found) = told found := rfl

theorem mem_told_iff {found : List Finding} {f : Finding} :
    f ∈ told found ↔ f ∈ found ∧ f.isBlank = false := by
  simp [told]

/-- Scans that go on alike behind the same finding are alike. -/
theorem told_cons_congr (f : Finding) {found found' : List Finding}
    (same : told found = told found') : told (f :: found) = told (f :: found') := by
  simp only [told, List.filter_cons] at same ⊢
  rw [same]

/-- What is drawn from findings, but not from blanks, is drawn from those that tell something. -/
theorem filterMap_told {α : Type} {draw : Finding → Option α}
    (noBlank : ∀ start length, draw (.blank start length) = none) (found : List Finding) :
    (told found).filterMap draw = found.filterMap draw := by
  induction found with
  | nil => rfl
  | cons f found ih =>
    cases f with
    | blank start length =>
      rw [told_blank_cons, ih, List.filterMap_cons_none (noBlank start length)]
    | token t =>
      have kept : told (.token t :: found) = .token t :: told found := rfl
      rw [kept, List.filterMap_cons, List.filterMap_cons, ih]
    | fault fault =>
      have kept : told (.fault fault :: found) = .fault fault :: told found := rfl
      rw [kept, List.filterMap_cons, List.filterMap_cons, ih]

theorem filterMap_token?_told (found : List Finding) :
    (told found).filterMap Finding.token? = found.filterMap Finding.token? :=
  filterMap_told (fun _ _ => rfl) found

theorem filterMap_fault?_told (found : List Finding) :
    (told found).filterMap Finding.fault? = found.filterMap Finding.fault? :=
  filterMap_told (fun _ _ => rfl) found

/-- The first fault is the first of the faults. -/
theorem findSome?_fault?_told (found : List Finding) :
    (told found).findSome? Finding.fault? = found.findSome? Finding.fault? := by
  rw [← List.head?_filterMap, ← List.head?_filterMap, filterMap_fault?_told]

/-! ## Runs that go on a number -/

/-- The characters of a weaker class, taken in two goes. -/
theorem takeWhile_eq_append_of_imp {p q : Char → Bool} (imp : ∀ d, q d = true → p d = true)
    (text : List Char) :
    text.takeWhile p = text.takeWhile q ++ (text.dropWhile q).takeWhile p := by
  have inside : ∀ d ∈ text.takeWhile q, p d = true := by
    intro d member
    exact imp d (List.all_eq_true.mp List.all_takeWhile d member)
  rw [← List.takeWhile_append_of_pos inside, List.takeWhile_append_dropWhile]

/-- What is left behind the characters of a weaker class, dropped in two goes. -/
theorem dropWhile_dropWhile_of_imp {p q : Char → Bool} (imp : ∀ d, q d = true → p d = true)
    (text : List Char) : (text.dropWhile q).dropWhile p = text.dropWhile p := by
  have inside : ∀ d ∈ text.takeWhile q, p d = true := by
    intro d member
    exact imp d (List.all_eq_true.mp List.all_takeWhile d member)
  rw [← List.dropWhile_append_of_pos inside, List.takeWhile_append_dropWhile]

section Numbers

variable {separator : Char} (admissible : isSeparator separator = true)

include admissible

/-- A run goes on a number exactly when its first character does. -/
theorem continuesNumber_run (c : Char) (more : List Char) (start : Nat) :
    Run.continuesNumber separator ⟨.ofFirst c, c :: more, start⟩ =
      Pointwise.continuesNumber separator c := by
  by_cases digit : c.isDigit = true
  · simp [Run.continuesNumber, Pointwise.continuesNumber, digit,
      Run.Kind.ofFirst_eq_digits_iff.mpr digit]
  · have noDigits : Run.Kind.ofFirst c ≠ .digits := mt Run.Kind.ofFirst_eq_digits_iff.mp digit
    -- A run of another kind goes on a number if its one character is the separator.
    by_cases same : c = separator
    · simp [Run.continuesNumber, Pointwise.continuesNumber, same,
        Run.Kind.ofFirst_separator admissible]
    · have other : (c == separator) = false := beq_eq_false_iff_ne.mpr same
      simp only [Run.continuesNumber, Pointwise.continuesNumber, digit, other, Bool.false_or]
      split
      · exact absurd ‹_› noDigits
      · rename_i d kind
        rw [← Run.Kind.eq_of_ofFirst_eq_other kind]
        exact other
      · rfl

/-- A run of a kind that goes on a number, or of a minus sign, takes in no more than the number
does. -/
theorem continuesNumber_of_continues {c : Char}
    (begins : Pointwise.continuesNumber separator c = true ∨ c = '-') (d : Char)
    (inRun : (Run.Kind.ofFirst c).continues d = true) :
    Pointwise.continuesNumber separator d = true := by
  simp only [Pointwise.continuesNumber, Bool.or_eq_true, beq_iff_eq] at begins ⊢
  rcases begins with (digit | rfl) | rfl
  · rw [Run.Kind.ofFirst_eq_digits_iff.mpr digit] at inRun
    exact .inl inRun
  · rw [Run.Kind.ofFirst_separator admissible] at inRun
    cases inRun
  · have sign : Run.Kind.ofFirst '-' = .operator .subtract := by decide
    rw [sign] at inRun
    cases inRun

/-- Taken together, the runs that go on a number are the characters that go on the number. -/
theorem flatMap_text_takeWhile_listFrom (start : Nat) (text : List Char) :
    ((Run.listFrom start text).takeWhile (·.continuesNumber separator)).flatMap Run.text =
      text.takeWhile (Pointwise.continuesNumber separator) := by
  fun_induction Run.listFrom start text with
  | case1 => rfl
  | case2 start c rest kind more ih =>
    rw [List.takeWhile_cons, List.takeWhile_cons, continuesNumber_run admissible]
    by_cases goesOn : Pointwise.continuesNumber separator c = true
    · have inside := continuesNumber_of_continues admissible (.inl goesOn)
      simp only [goesOn, if_true, List.flatMap_cons, ih, List.cons_append]
      rw [takeWhile_eq_append_of_imp inside rest]
    · simp [goesOn]

/-- The runs behind those that go on a number are the runs of the text behind the number. -/
theorem dropWhile_listFrom (start : Nat) (text : List Char) :
    (Run.listFrom start text).dropWhile (·.continuesNumber separator) =
      Run.listFrom
        (start + (text.takeWhile (Pointwise.continuesNumber separator)).length)
        (text.dropWhile (Pointwise.continuesNumber separator)) := by
  fun_induction Run.listFrom start text with
  | case1 => simp
  | case2 start c rest kind more ih =>
    rw [List.dropWhile_cons, List.takeWhile_cons, List.dropWhile_cons,
      continuesNumber_run admissible]
    by_cases goesOn : Pointwise.continuesNumber separator c = true
    · have inside := continuesNumber_of_continues admissible (.inl goesOn)
      simp only [goesOn, if_true, ih, more, kind, dropWhile_dropWhile_of_imp inside]
      congr 1
      rw [takeWhile_eq_append_of_imp inside rest, List.length_cons, List.length_append]
      omega
    · simp only [goesOn, if_false, Bool.false_eq_true, List.length_nil, Nat.add_zero]
      rw [Run.listFrom_cons]

/-- The number reader takes the same characters from runs as from characters. -/
theorem number_run {c : Char} {expects : Expectation}
    (begins : Pointwise.startsNumber separator expects c = true) (position : Nat)
    (rest : List Char) :
    let run : Run := ⟨.ofFirst c, c :: rest.takeWhile (Run.Kind.ofFirst c).continues, position⟩
    let behind := Run.listFrom
      (position + 1 + (rest.takeWhile (Run.Kind.ofFirst c).continues).length)
      (rest.dropWhile (Run.Kind.ofFirst c).continues)
    let more := rest.takeWhile (Pointwise.continuesNumber separator)
    ScanStep.number separator run behind =
      { finding := numberFinding separator position (c :: more)
        stage := .name
        rest := Run.listFrom (position + 1 + more.length)
          (rest.dropWhile (Pointwise.continuesNumber separator)) } := by
  intro run behind more
  -- The first run takes in no more than the number, so the number is this run and those behind it.
  have inside := continuesNumber_of_continues admissible (c := c) (by
    simp only [Pointwise.startsNumber, Bool.or_eq_true, Bool.and_eq_true, beq_iff_eq] at begins
    exact begins.imp_right And.left)
  have taken : run.text ++ (behind.takeWhile (·.continuesNumber separator)).flatMap Run.text =
      c :: more := by
    rw [flatMap_text_takeWhile_listFrom admissible, List.cons_append,
      ← takeWhile_eq_append_of_imp inside]
  have left : behind.dropWhile (·.continuesNumber separator) =
      Run.listFrom (position + 1 + more.length)
        (rest.dropWhile (Pointwise.continuesNumber separator)) := by
    rw [dropWhile_listFrom admissible, dropWhile_dropWhile_of_imp inside]
    congr 1
    simp only [more, takeWhile_eq_append_of_imp inside rest, List.length_append]
    omega
  simp only [ScanStep.number, taken, left]
  rfl

/-- A run begins a number exactly when its first character does. -/
theorem startsNumber_run (expects : Expectation) (c : Char) (more : List Char) (start : Nat) :
    Run.startsNumber separator expects ⟨.ofFirst c, c :: more, start⟩ =
      Pointwise.startsNumber separator expects c := by
  by_cases sign : c = '-'
  · subst sign
    have plain : Pointwise.continuesNumber separator '-' = false := by
      simp [Pointwise.continuesNumber, (ne_minus_of_isSeparator admissible).symm]
    have kind : Run.Kind.ofFirst '-' = .operator .subtract := by decide
    simp [Run.startsNumber, Pointwise.startsNumber, plain, kind]
  · have kind : Run.Kind.ofFirst c ≠ .operator .subtract :=
      mt Run.Kind.ofFirst_eq_operator_iff.mp sign
    simp only [Run.startsNumber, Pointwise.startsNumber, beq_eq_false_iff_ne.mpr sign,
      Bool.false_and, Bool.or_false]
    exact continuesNumber_run admissible c more start

/-- A run is read by the reader of its first character. -/
theorem reader_run (state : ScanState) (c : Char) (more : List Char) (start : Nat) :
    Run.reader separator state ⟨.ofFirst c, c :: more, start⟩ =
      Pointwise.reader separator state c := by
  simp only [Run.reader, Pointwise.reader, startsNumber_run admissible,
    Run.Kind.ofFirst_eq_word_iff]

end Numbers

/-! ## Symbols and blanks -/

/-- A character that is no letter, no digit and no blank means the same as a run of its own. -/
theorem symbol_run (separator : Char) {c : Char} (plain : c.isAlphanum = false)
    (visible : Text.isBlank c = false) (position : Nat) (text : List Char) (rest : List Run) :
    ScanStep.symbol separator ⟨.ofFirst c, text, position⟩ rest =
      { finding := Pointwise.symbolFinding position c, stage := .number, rest } := by
  have form := Run.Kind.admits_ofFirst c
  obtain ⟨noDigits, noWord, noBlank⟩ := Run.Kind.ofFirst_ne_of_plain plain visible
  cases kind : Run.Kind.ofFirst c with
  | digits => exact absurd kind noDigits
  | word => exact absurd kind noWord
  | blank => exact absurd kind noBlank
  | operator op =>
    obtain rfl : c = op.symbol := Run.Kind.ofFirst_eq_operator_iff.mp kind
    cases op <;> rfl
  | leftBracket =>
    obtain rfl : c = '(' := by simpa [kind, Run.Kind.admits] using form
    rfl
  | rightBracket =>
    obtain rfl : c = ')' := by simpa [kind, Run.Kind.admits] using form
    rfl
  | other d =>
    obtain rfl := Run.Kind.eq_of_ofFirst_eq_other kind
    simp_all [Run.Kind.admits, ScanStep.symbol, Pointwise.symbolFinding]

/-- A row of blanks tells nothing and offers the character behind it to all readers. -/
theorem told_findingsFrom_row {separator : Char} (admissible : isSeparator separator = true)
    (state : ScanState) (position : Nat) {row : List Char} (nonempty : row ≠ [])
    (blank : ∀ c ∈ row, Text.isBlank c = true) (text : List Char) :
    told (Pointwise.findingsFrom separator state position (row ++ text)) =
      told (Pointwise.findingsFrom separator ⟨state.expects, .number⟩ (position + row.length)
        text) := by
  induction row generalizing state position with
  | nil => exact absurd rfl nonempty
  | cons c row ih =>
    have first := Pointwise.findingsFrom_blank admissible state
      (blank c (List.mem_cons_self ..)) position (row ++ text)
    rw [List.cons_append, first, told_blank_cons, List.length_cons]
    -- Behind the first blank all readers are offered the next character already.
    by_cases last : row = []
    · rw [last]
      rfl
    · have behind := ih ⟨state.expects, .number⟩ (position + 1) last
        (fun d member => blank d (List.mem_cons_of_mem c member))
      rw [behind, Nat.add_assoc, Nat.add_comm 1]

/-- The blanks in front of a text tell nothing, where all readers are offered the first of them. -/
theorem told_findingsFrom_blanks {separator : Char} (admissible : isSeparator separator = true)
    (expects : Expectation) (position : Nat) (text : List Char) :
    told (Pointwise.findingsFrom separator ⟨expects, .number⟩ position text) =
      told (Pointwise.findingsFrom separator ⟨expects, .number⟩
        (position + (text.takeWhile Text.isBlank).length) (text.dropWhile Text.isBlank)) := by
  have parts := List.takeWhile_append_dropWhile (p := Text.isBlank) (l := text)
  by_cases none : text.takeWhile Text.isBlank = []
  · rw [none, List.nil_append] at parts
    rw [none, parts]
    rfl
  · conv_lhs => rw [← parts]
    exact told_findingsFrom_row admissible ⟨expects, .number⟩ position none
      (List.all_eq_true.mp List.all_takeWhile) _

/-! ## The simulation -/

/-- Where a run begins, both scans tell the same if they are in the same state and the text fits
behind it. -/
theorem told_findingsFrom_listFrom {separator : Char} (admissible : isSeparator separator = true)
    (state : ScanState) (position : Nat) (text : List Char)
    (fits : Pointwise.Fits separator state.stage text) :
    told (findingsFrom separator state (Run.listFrom position text)) =
      told (Pointwise.findingsFrom separator state position text) := by
  -- The induction is on the length of the text: a reading takes any number of its characters, and
  -- not the same number in both scans where it takes blanks.
  induction size : text.length using Nat.strongRecOn generalizing state position text with
  | ind size ih =>
    subst size
    cases text with
    | nil => simp
    | cons c rest =>
      have shorter (p : Char → Bool) : (rest.dropWhile p).length < (c :: rest).length :=
        Nat.lt_succ_of_le (List.dropWhile_sublist p).length_le
      have fits' := Pointwise.fits_step separator state position c rest
      rw [Run.listFrom_cons, findingsFrom_cons, ScanStep.ofRun, reader_run admissible]
      cases taker : Pointwise.reader separator state c with
      | number =>
        have begins := Pointwise.startsNumber_of_reader taker
        simp only [Pointwise.step, taker, ScanState.stage_next] at fits'
        -- Both scans take the same number, and stand at the same character behind it.
        simp only [number_run admissible begins]
        rw [Pointwise.findingsFrom_of_reader_number taker]
        apply told_cons_congr
        exact ih _ (shorter _) _ _ _ (by rw [ScanState.stage_next]; exact fits') rfl
      | name =>
        -- A word is one run, and what it takes in is what the name reader takes in.
        have kind := Run.Kind.ofFirst_eq_word_iff.mpr (Pointwise.isAlpha_of_reader taker)
        simp only [Pointwise.step, taker, ScanState.stage_next] at fits'
        simp only [ScanStep.name, kind]
        rw [Pointwise.findingsFrom_of_reader_name taker]
        apply told_cons_congr
        exact ih _ (shorter _) _ _ _ (by rw [ScanState.stage_next]; exact fits') rfl
      | symbol =>
        have plain := Pointwise.isAlphanum_of_reader_symbol fits taker
        rw [Pointwise.findingsFrom_of_reader_symbol taker]
        by_cases blank : Text.isBlank c = true
        · have kind := Run.Kind.ofFirst_eq_blank_iff.mpr blank
          simp only [ScanStep.symbol, kind, Pointwise.symbolFinding, blank, if_true,
            told_blank_cons]
          -- The run scan is now behind the whole row, the pointwise scan behind its first blank.
          rw [ScanState.next, ScanState.next, told_findingsFrom_blanks admissible]
          exact ih _ (shorter _) _ _ _ (Pointwise.fits_number separator _) rfl
        · have visible : Text.isBlank c = false := by simpa using blank
          -- The run is this one character.
          have alone (d : Char) := Run.Kind.continues_ofFirst plain visible d
          have nothing : rest.takeWhile (Run.Kind.ofFirst c).continues = [] := by
            cases rest <;> simp [alone]
          have all : rest.dropWhile (Run.Kind.ofFirst c).continues = rest := by
            cases rest <;> simp [alone]
          simp only [symbol_run separator plain visible, nothing, all]
          apply told_cons_congr
          refine ih _ (Nat.lt_succ_self _) _ _ _ ?_ rfl
          rw [ScanState.stage_next]
          exact Pointwise.fits_number separator rest

/-- A scan of a formula and the pointwise scan tell the same. -/
theorem told_findings {separator : Char} (admissible : isSeparator separator = true)
    (formula : List Char) :
    told (findings separator formula) = told (Pointwise.findings separator formula) :=
  told_findingsFrom_listFrom admissible .initial 0 formula (Pointwise.fits_number separator _)

/-- The tokens of a formula are those that a pointwise scan finds. -/
theorem tokens_eq_pointwise {separator : Char} (admissible : isSeparator separator = true)
    (formula : List Char) :
    tokens separator formula =
      (Pointwise.findings separator formula).filterMap Finding.token? := by
  rw [tokens, ← filterMap_token?_told, told_findings admissible, filterMap_token?_told]

/-- The first fault of a formula is the first one that a pointwise scan finds. -/
theorem fault?_eq_pointwise {separator : Char} (admissible : isSeparator separator = true)
    (formula : List Char) :
    fault? separator formula =
      (Pointwise.findings separator formula).findSome? Finding.fault? := by
  rw [fault?, ← findSome?_fault?_told, told_findings admissible, findSome?_fault?_told]

/-- The faults of a formula are those that a pointwise scan finds. -/
theorem fault_mem_findings_iff {separator : Char} (admissible : isSeparator separator = true)
    {formula : List Char} {fault : Fault} :
    .fault fault ∈ findings separator formula ↔
      .fault fault ∈ Pointwise.findings separator formula := by
  have toldOf (found : List Finding) : .fault fault ∈ found ↔ .fault fault ∈ told found := by
    simp [mem_told_iff, Finding.isBlank]
  rw [toldOf, told_findings admissible, ← toldOf]

/-- Whatever the mode, a scan that succeeds gives the tokens that a pointwise scan finds. -/
theorem eq_pointwise_of_scan {settings : Settings} {formula : String} {read : List Token}
    (ok : scan settings formula = .ok read) :
    read =
      (Pointwise.findings settings.separator formula.toList).filterMap Finding.token? := by
  rw [← tokens_eq_pointwise settings.isSeparator_separator]
  -- The empty formula is refused.
  have nonempty : formula.toList ≠ [] := by
    intro empty
    simp [scan, empty] at ok
  cases mode : settings.mode with
  | lenient =>
    rw [scan_lenient mode nonempty] at ok
    exact (Except.ok.inj ok).symm
  | strict =>
    rw [scan_strict mode nonempty] at ok
    split at ok
    · cases ok
    · exact (Except.ok.inj ok).symm

/-- Going over the runs of a formula gives what going over its characters gives: the same tokens, or
the same error, for every formula and all settings. -/
theorem scan_eq_pointwise (settings : Settings) (formula : String) :
    scan settings formula = Pointwise.scan settings formula := by
  have admissible := settings.isSeparator_separator
  by_cases empty : formula.toList = []
  · simp [scan, Pointwise.scan, empty]
  · have sameTokens := tokens_eq_pointwise admissible formula.toList
    have sameFault := fault?_eq_pointwise admissible formula.toList
    cases mode : settings.mode with
    | lenient => simp [scan_lenient mode empty, Pointwise.scan, empty, mode, sameTokens]
    | strict =>
      rw [scan_strict mode empty, sameTokens, sameFault]
      cases fault :
          (Pointwise.findings settings.separator formula.toList).findSome? Finding.fault? with
      | none => simp only [Pointwise.scan, empty, mode, fault, if_false]
      | some f => simp only [Pointwise.scan, empty, mode, fault, if_false]

end FormulaScan
