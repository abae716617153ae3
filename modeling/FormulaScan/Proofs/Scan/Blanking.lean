import FormulaScan.Proofs.Scan.Answer
import FormulaScan.Proofs.Scan.Boundary
import FormulaScan.Proofs.Scan.Modes
import FormulaScan.Proofs.Scan.Places
import FormulaScan.Scan.Blanking

/-!
# Faults are no more than blanks

Where a lenient scan leaves something out, it goes on as if spaces stood there: a formula with
spaces in the place of its faults has the tokens of the formula, each in its place, and a strict
scan gives them (`strict_scan_withoutFaults`).

Behind a malformed number the two scans are in different states. The scan of the formula has just
left the number reader, while that of the spaces offers the next character to all readers. Only a
minus sign can tell the two states apart (`reader_behind_number`), so the statement leaves out the
formulas in which one stands there.
-/

namespace FormulaScan

/-- The faults of a formula are those that a pointwise scan finds. -/
theorem faults_eq_pointwise {separator : Char} (admissible : isSeparator separator = true)
    (formula : List Char) :
    faults separator formula =
      (Pointwise.findings separator formula).filterMap Finding.fault? := by
  rw [faults, ← filterMap_fault?_told, told_findings admissible, filterMap_fault?_told]

/-- A finding that is no fault adds its token to the answer, if it has one. -/
theorem answer_cons_of_ok {mode : Mode} {f : Finding} {found found' : List Finding}
    (noFault : f.fault? = none)
    (ok : answer mode found' = .ok (found.filterMap Finding.token?)) :
    answer mode (f :: found') = .ok ((f :: found).filterMap Finding.token?) := by
  cases f with
  | token t =>
    rw [answer_token_cons, ok]
    rfl
  | blank start length =>
    rw [answer_blank_cons, ok]
    rfl
  | fault fault => cases noFault

/-! ## The text of one finding -/

section Parts

variable {separator : Char} {position : Nat} {part rest : List Char} {f : Finding}
  {found : List Finding}

/-- No fault of a text takes in a character in front of the text. -/
theorem Tiling.any_covers_eq_false (tiling : Tiling separator position rest found) {place : Nat}
    (before : place < position) :
    (found.filterMap Finding.fault?).any (·.covers place) = false := by
  rw [List.any_eq_false]
  intro fault member covered
  have lower := (tiling.bounds (Finding.mem_filterMap_fault?.mp member)).1
  exact absurd (Fault.covers_iff.mp covered).1
    (Nat.not_le_of_lt (Nat.lt_of_lt_of_le before lower))

/-- The text of a finding that is no fault stays as it is. -/
theorem Tiling.blankOut_part_of_fault?_eq_none
    (tail : Tiling separator (position + part.length) rest found) (noFault : f.fault? = none) :
    blankOut ((f :: found).filterMap Finding.fault?) position part = part := by
  apply blankOut_eq_self
  intro i bound
  rw [List.filterMap_cons_none noFault]
  exact tail.any_covers_eq_false (Nat.add_lt_add_left bound position)

/-- The text of a fault becomes spaces. -/
theorem blankOut_part_of_fault {fault : Fault}
    (reads : (Finding.fault fault).Reads separator position part rest) :
    blankOut ((.fault fault :: found).filterMap Finding.fault?) position part =
      List.replicate part.length ' ' := by
  apply blankOut_eq_replicate
  intro i bound
  have start : fault.position = position := reads.start_eq
  have length : fault.length = part.length := reads.length_eq
  have covered : fault.covers (position + i) = true := by
    rw [Fault.covers_iff, start, length]
    exact ⟨Nat.le_add_right .., Nat.add_lt_add_left bound position⟩
  have first : (Finding.fault fault :: found).filterMap Finding.fault? =
      fault :: found.filterMap Finding.fault? := rfl
  rw [first, List.any_cons, covered, Bool.true_or]

/-- What becomes of the text behind a finding is settled by the findings there. -/
theorem blankOut_rest (reads : f.Reads separator position part rest) :
    blankOut ((f :: found).filterMap Finding.fault?) (position + part.length) rest =
      blankOut (found.filterMap Finding.fault?) (position + part.length) rest := by
  cases isFault : f.fault? with
  | none => rw [List.filterMap_cons_none isFault]
  | some fault =>
    obtain rfl := Finding.fault?_eq_some_iff.mp isFault
    have start : fault.position = position := reads.start_eq
    have length : fault.length = part.length := reads.length_eq
    apply blankOut_congr
    intro i bound
    -- The fault stops where the text behind it begins.
    have uncovered : fault.covers (position + part.length + i) = false := by
      rw [Bool.eq_false_iff, Ne, Fault.covers_iff, start, length]
      exact fun inside => absurd inside.2 (Nat.not_lt_of_le (Nat.le_add_right ..))
    have first : (Finding.fault fault :: found).filterMap Finding.fault? =
        fault :: found.filterMap Finding.fault? := rfl
    rw [first, List.any_cons, uncovered, Bool.false_or]

end Parts

namespace Pointwise

variable {separator : Char}

/-! ## States that read alike -/

/-- Two states expect the same, and the same reader takes the first character of a text in both. -/
structure ReadsAlike (separator : Char) (state state' : ScanState) (text : List Char) : Prop where
  expects : state'.expects = state.expects
  reader : ∀ c ∈ text.head?, reader separator state' c = reader separator state c

theorem ReadsAlike.refl (state : ScanState) (text : List Char) :
    ReadsAlike separator state state text :=
  ⟨rfl, fun _ _ => rfl⟩

/-- A character that goes on no number and is no minus sign is read behind a number as it is read
where all readers are offered it. -/
theorem reader_behind_number (expects : Expectation) {c : Char}
    (stops : continuesNumber separator c = false) (noMinus : c ≠ '-') :
    reader separator ⟨expects, .number⟩ c = reader separator ⟨expects, .name⟩ c := by
  have noNumber : startsNumber separator expects c = false := by
    simp [startsNumber, stops, noMinus]
  simp [reader, noNumber]

/-- Behind a fault the scan goes on as it does behind a space, unless the fault is a malformed
number with a minus sign behind it. -/
theorem readsAlike_behind_fault {state : ScanState} {position : Nat} {c : Char}
    {rest : List Char} {fault : Fault}
    (isFault : (step separator state position c rest).finding = .fault fault)
    (noMinus : ∀ number start, fault = .malformedNumber number start →
      (step separator state position c rest).rest.head? ≠ some '-') :
    ReadsAlike separator (step separator state position c rest).state ⟨state.expects, .number⟩
      (step separator state position c rest).rest := by
  have fits := fits_step separator state position c rest
  have behind : (step separator state position c rest).state =
      ⟨state.expects, (reader separator state c).behind⟩ := by
    rw [state_step, isFault]
    rfl
  rw [behind] at fits ⊢
  refine ⟨rfl, fun d first => ?_⟩
  have found := finding_step separator state position c rest
  cases taker : reader separator state c with
  | number =>
    rw [taker] at fits found
    have stops : continuesNumber separator d = false := fits .number rfl d first
    refine reader_behind_number state.expects stops ?_
    rintro rfl
    -- The fault of a number reader is a malformed number.
    rw [isFault, findingOf] at found
    obtain ⟨literal, -, isToken⟩ | ⟨-, isToken⟩ | ⟨-, -, isMalformed⟩ :=
      numberFinding_cases separator (c :: rest.takeWhile (takes separator .number))
    · rw [isToken] at found
      cases found
    · rw [isToken] at found
      cases found
    · rw [isMalformed] at found
      exact noMinus _ _ (Finding.fault.inj found) first
  | name =>
    rw [isFault, taker] at found
    cases found
  | symbol => rfl

/-! ## Scanning spaces in the place of faults -/

/-- A space stops every reader. -/
theorem takes_space (admissible : isSeparator separator = true) (taker : Stage) :
    takes separator taker ' ' = false :=
  (boundary_of_isBlank admissible (by decide : Text.isBlank ' ' = true) []).takes_eq_false taker
    ' ' rfl

/-- A row of spaces adds nothing to the answer and offers the character behind it to all readers. -/
theorem answer_spaces (mode : Mode) (admissible : isSeparator separator = true)
    (state : ScanState) (position : Nat) {length : Nat} (nonempty : length ≠ 0)
    (text : List Char) :
    answer mode (findingsFrom separator state position (List.replicate length ' ' ++ text)) =
      answer mode (findingsFrom separator ⟨state.expects, .number⟩ (position + length) text) := by
  have blank : ∀ c ∈ List.replicate length ' ', Text.isBlank c = true := by
    intro c member
    rw [List.eq_of_mem_replicate member]
    decide
  have row := told_findingsFrom_row admissible state position
    (mt (List.replicate_eq_nil_iff _).mp nonempty) blank text
  rw [List.length_replicate] at row
  exact answer_congr_of_told mode row

/-- Where the text of a reading stands again, and behind it nothing that the reader takes in, the
reading is the same in all states that read alike. -/
theorem findingsFrom_of_readsAlike {state state' : ScanState} {c : Char} {rest behind : List Char}
    (alike : ReadsAlike separator state state' (c :: rest))
    (stops : ∀ d ∈ behind.head?, takes separator (reader separator state c) d = false)
    (position : Nat) :
    findingsFrom separator state' position
        ((step separator state position c rest).text ++ behind) =
      (step separator state position c rest).finding ::
        findingsFrom separator (step separator state position c rest).state
          (position + (step separator state position c rest).text.length) behind := by
  have goOn : ∀ d ∈ rest.takeWhile (takes separator (reader separator state c)),
      takes separator (reader separator state c) d = true :=
    List.all_eq_true.mp List.all_takeWhile
  have same : ∀ f, state'.next f (reader separator state c).behind =
      state.next f (reader separator state c).behind := by
    intro f
    simp only [ScanState.next, alike.expects]
  have taken := findingsFrom_taken_of_stops stops (alike.reader c rfl) goOn position
  rw [same] at taken
  exact taken

/-- A scan of a text with spaces in the place of its faults gives the tokens of the text, in both
modes and in all states that read the text alike. -/
theorem answer_blankOut (mode : Mode) (admissible : isSeparator separator = true)
    (state : ScanState) (position : Nat) (text : List Char) {state' : ScanState}
    (fits : Fits separator state.stage text) (alike : ReadsAlike separator state state' text)
    {formula : List Char} (parts : formula.drop position = text)
    (noMinus : ∀ number start, .fault (.malformedNumber number start) ∈
      findingsFrom separator state position text → formula[start + number.length]? ≠ some '-') :
    let found := findingsFrom separator state position text
    answer mode (findingsFrom separator state' position
        (blankOut (found.filterMap Finding.fault?) position text)) =
      .ok (found.filterMap Finding.token?) := by
  intro found
  induction state, position, text using reading_induction separator generalizing state' with
  | nil state position =>
    simp only [found, findingsFrom_nil, blankOut_nil]
    cases mode <;> rfl
  | cons state position c rest ih =>
    have fits' := fits_step separator state position c rest
    have reads := reads_step position fits
    have tail := tiling_findingsFrom (step separator state position c rest).state
      (position + (step separator state position c rest).text.length) _ fits'
    have text := text_append_rest_step separator state position c rest
    rw [← text] at parts
    simp only [found]
    rw [findingsFrom_cons] at noMinus ⊢
    have later {next : ScanState} (alike' : ReadsAlike separator _ next _) :=
      ih fits' alike' (drop_behind_of_drop_eq parts)
        fun number start member => noMinus number start (List.mem_cons_of_mem _ member)
    cases isFault : (step separator state position c rest).finding.fault? with
    | none =>
      -- The text of the reading still stands there, with its rest or a space behind it.
      rw [← text, blankOut_append, tail.blankOut_part_of_fault?_eq_none isFault,
        blankOut_rest reads, findingsFrom_of_readsAlike alike]
      · exact answer_cons_of_ok isFault (later (ReadsAlike.refl ..))
      · intro d first
        rcases head?_blankOut first with rfl | first
        · exact takes_space admissible _
        · exact takes_head_dropWhile first
    | some fault =>
      -- A row of spaces stands there now, and the states behind it read the rest alike.
      have isFault := Finding.fault?_eq_some_iff.mp isFault
      rw [isFault] at reads noMinus ⊢
      have nonempty := mt List.length_eq_zero_iff.mp reads.text_ne_nil
      rw [← text, blankOut_append, blankOut_part_of_fault reads, blankOut_rest reads,
        answer_spaces mode admissible state' position nonempty, alike.expects]
      refine later (readsAlike_behind_fault isFault ?_)
      rintro number start rfl behind
      apply noMinus number start (List.mem_cons_self ..)
      have start_eq : start = position := reads.start_eq
      have length : number.length = _ := reads.length_eq
      rw [start_eq, length, getElem?_behind_of_drop_eq parts, behind]

end Pointwise

/-! ## The formula without its faults -/

/-- The characters of the faults are those that are lost in the tokens. -/
theorem any_covers_iff_mem_lost {separator : Char} (admissible : isSeparator separator = true)
    (formula : List Char) (place : Nat) :
    (faults separator formula).any (·.covers place) = true ↔
      place ∈ lost formula (tokens separator formula) := by
  rw [faults_eq_pointwise admissible, tokens_eq_pointwise admissible,
    (tiling_findings separator formula).mem_lost_iff_fault admissible]
  simp only [List.any_eq_true, Finding.mem_filterMap_fault?, Fault.covers_iff]

theorem toList_withoutFaults (separator : Char) (formula : String) :
    (withoutFaults separator formula).toList =
      blankOut (faults separator formula.toList) 0 formula.toList :=
  String.toList_ofList

/-- Unless a malformed number has a minus sign directly behind it, a formula with spaces in the
place of its faults has no fault, and its tokens are those that a lenient scan of the formula gives.
The spaces stand where characters other than white space belong to none of these tokens. -/
theorem strict_scan_withoutFaults (settings : Settings) {formula : String}
    (nonempty : formula ≠ "")
    (noMinus : ∀ number start,
      .malformedNumber number start ∈ faults settings.separator formula.toList →
        formula.toList[start + number.length]? ≠ some '-') :
    (withoutFaults settings.separator formula).length = formula.length ∧
      ∃ read, scan (settings.withMode .lenient) formula = .ok read ∧
        (∀ place c, formula.toList[place]? = some c →
          (withoutFaults settings.separator formula).toList[place]? =
            some (if place ∈ lost formula.toList read then ' ' else c)) ∧
        scan (settings.withMode .strict) (withoutFaults settings.separator formula) = .ok read := by
  have admissible := settings.isSeparator_separator
  have filled : formula.toList ≠ [] := by simpa using nonempty
  have text := toList_withoutFaults settings.separator formula
  have length : (withoutFaults settings.separator formula).length = formula.length := by
    rw [← String.length_toList, ← String.length_toList, text, length_blankOut]
  have lenient := scan_lenient (Settings.mode_withMode settings .lenient) filled
  rw [Settings.separator_withMode] at lenient
  refine ⟨length, _, lenient, ?_, ?_⟩
  · intro place c here
    rw [text, getElem?_blankOut, here, Option.map_some, Nat.zero_add,
      if_congr (any_covers_iff_mem_lost admissible formula.toList place) rfl rfl]
  · have filled' : (withoutFaults settings.separator formula).toList ≠ [] := by
      rw [← List.length_pos_iff, text, length_blankOut]
      exact List.length_pos_iff.mpr filled
    rw [scan_eq_answer _ filled', Settings.mode_withMode, Settings.separator_withMode, text,
      faults_eq_pointwise admissible, tokens_eq_pointwise admissible]
    apply Pointwise.answer_blankOut .strict admissible .initial 0 formula.toList
      (Pointwise.fits_number settings.separator _) (Pointwise.ReadsAlike.refl ..) rfl
    intro number start member
    apply noMinus number start
    rw [faults_eq_pointwise admissible]
    exact Finding.mem_filterMap_fault?.mpr member

/-- A separator behind a name, a malformed number with its sign and an unknown character give way to
spaces. -/
theorem strict_scan_withoutFaults_spaces :
    ("x.5 + -1.2.3 @ 4" ≠ "" ∧
        ∀ number start, .malformedNumber number start ∈ faults '.' "x.5 + -1.2.3 @ 4".toList →
          "x.5 + -1.2.3 @ 4".toList[start + number.length]? ≠ some '-') ∧
      withoutFaults '.' "x.5 + -1.2.3 @ 4" = "x 5 +          4" ∧
      ∃ read, scan (Settings.default.withMode .lenient) "x.5 + -1.2.3 @ 4" = .ok read ∧
        scan (Settings.default.withMode .strict) "x 5 +          4" = .ok read := by
  have nonempty : "x.5 + -1.2.3 @ 4" ≠ "" := by decide
  have text : withoutFaults '.' "x.5 + -1.2.3 @ 4" = "x 5 +          4" := by decide +kernel
  have found : faults '.' "x.5 + -1.2.3 @ 4".toList =
      [.unexpectedCharacter '.' 1, .malformedNumber "-1.2.3" 6, .unexpectedCharacter '@' 13] := by
    decide +kernel
  have noMinus : ∀ number start,
      .malformedNumber number start ∈ faults '.' "x.5 + -1.2.3 @ 4".toList →
        "x.5 + -1.2.3 @ 4".toList[start + number.length]? ≠ some '-' := by
    intro number start member
    rw [found] at member
    have same : number = "-1.2.3" ∧ start = 6 := by simpa using member
    rw [same.1, same.2]
    decide
  obtain ⟨-, read, lenient, -, strict⟩ :=
    strict_scan_withoutFaults .default nonempty noMinus
  have separator : Settings.default.separator = '.' := rfl
  rw [separator, text] at strict
  exact ⟨⟨nonempty, noMinus⟩, text, read, lenient, strict⟩

/-- A minus sign directly behind a malformed number is an operator, and behind spaces it is the sign
of the number that follows. -/
example :
    tokens '.' "1..2-3".toList = [⟨.operator .subtract, 4, 1⟩, ⟨.integer 3, 5, 1⟩] ∧
      tokens '.' (withoutFaults '.' "1..2-3").toList = [⟨.integer (-3), 4, 2⟩] := by
  decide +kernel

end FormulaScan
