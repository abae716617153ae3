import FormulaScan.CommandLine.Outcome
import FormulaScan.Proofs.Run.Kinds
import FormulaScan.Proofs.Scan.Messages

/-!
# The stages of an invocation

An invocation goes through three stages: the settings are made, the text is taken from the argument
or from a file, and the text without the line breaks at its end is scanned. If all three succeed,
the tokens of the scan are written, one in each line; otherwise nothing is left but the message of
the first stage that fails (`outcome_all_or_nothing`).

The stages are relations here (`Invocation.Succeeds`, `Invocation.FailsFirst`), said without the
order in which a program tries them. What the program finds is one of them, and no other
(`tokens_eq_ok_iff`, `tokens_eq_error_iff`).
-/

namespace FormulaScan.CommandLine

open Text (InOneLine)

/-! ## What the stages are -/

/-- The text that an invocation names: its contents, or what the file so named holds in UTF-8. -/
inductive Invocation.IsText (invocation : Invocation) (files : Files) : String → Prop where
  | contents (given : invocation.fromFile = false) : IsText invocation files invocation.contents
  | file {text : String} (named : invocation.fromFile = true)
      (bytes : files invocation.contents = some text.toUTF8) : IsText invocation files text

/-- A formula is what is left of a text without the carriage returns and line feeds at its end. -/
structure IsTrimmed (text formula : String) : Prop where
  behind : ∃ row, text.toList = formula.toList ++ row ∧ ∀ c ∈ row, c = '\r' ∨ c = '\n'
  last : ∀ c ∈ formula.toList.getLast?, c ≠ '\r' ∧ c ≠ '\n'

/-- All stages of an invocation succeed, and the last one gives these tokens. -/
def Invocation.Succeeds (invocation : Invocation) (files : Files) (read : List Token) : Prop :=
  ∃ settings text formula, invocation.settings = .ok settings ∧ invocation.IsText files text ∧
    IsTrimmed text formula ∧ scan settings formula = .ok read

/-- The first stage of an invocation that fails. -/
inductive Invocation.FailsFirst (invocation : Invocation) (files : Files) : Failure → Prop where
  | settings {e : SettingsError} (failed : invocation.settings = .error e) :
      FailsFirst invocation files (.settings e)
  | unreadable {settings : Settings} (made : invocation.settings = .ok settings)
      (noText : ∀ text, ¬ invocation.IsText files text) :
      FailsFirst invocation files (.unreadable invocation.contents)
  | scan {settings : Settings} {text formula : String} {e : ScanError}
      (made : invocation.settings = .ok settings) (isText : invocation.IsText files text)
      (trimmed : IsTrimmed text formula) (failed : scan settings formula = .error e) :
      FailsFirst invocation files (.scan e)

/-- What an invocation leaves behind: the tokens in one line each, if all stages succeed, and the
message of the first stage that fails otherwise. -/
structure AllOrNothing (invocation : Invocation) (files : Files) (outcome : Outcome) : Prop where
  code_eq_zero_iff : outcome.code = 0 ↔ ∃ read, invocation.Succeeds files read
  /-- The two texts are all that is written. -/
  noNotice : outcome.notice = none
  success : ∀ read, invocation.Succeeds files read →
    outcome.stderr = "" ∧
      outcome.stdout.toList.splitOn '\n' = read.map (·.text.toList) ++ [[]] ∧
      ∀ t ∈ read, InOneLine t.text.toList
  failure : ∀ failure, invocation.FailsFirst files failure →
    outcome.code = 1 ∧ outcome.stdout = "" ∧ outcome.stderr = failure.message ++ "\n"
  decided : (∃ read, invocation.Succeeds files read) ∨
    ∃ failure, invocation.FailsFirst files failure
  /-- Without the strict flag the scan refuses only a text of line breaks. -/
  lenient : invocation.strict = false → ∀ e, invocation.FailsFirst files (.scan e) →
    e = .emptyFormula ∧
      ∀ text, invocation.IsText files text → ∀ c ∈ text.toList, c = '\r' ∨ c = '\n'
  message : ∀ e, invocation.FailsFirst files (.scan e) → InOneLine e.message.toList

/-! ## The text of an invocation -/

/-- Bytes are decoded to a text exactly when they are its UTF-8 form. -/
theorem fromUTF8?_eq_some_iff {bytes : ByteArray} {text : String} :
    String.fromUTF8? bytes = some text ↔ bytes = text.toUTF8 := by
  constructor
  · intro decoded
    unfold String.fromUTF8? at decoded
    split at decoded
    · rw [← Option.some.inj decoded]
      rfl
    · cases decoded
  · intro same
    rw [same]
    exact dif_pos text.isValidUTF8

/-- An invocation takes the text that it names. -/
theorem Invocation.text?_eq_some_iff {invocation : Invocation} {files : Files} {text : String} :
    invocation.text? files = some text ↔ invocation.IsText files text := by
  cases named : invocation.fromFile with
  | false =>
    simp only [text?, named, Bool.false_eq_true, if_false, Option.some.injEq]
    constructor
    · intro same
      rw [← same]
      exact .contents named
    · intro isText
      -- The two ways to name a text exclude each other.
      cases isText with
      | contents => rfl
      | file named' => cases named.symm.trans named'
  | true =>
    simp only [text?, named, if_true]
    constructor
    · intro decoded
      split at decoded
      · next bytes stored =>
        apply IsText.file named
        rw [stored, fromUTF8?_eq_some_iff.mp decoded]
      · cases decoded
    · intro isText
      cases isText with
      | contents given => cases named.symm.trans given
      | file named' stored =>
        rw [stored]
        exact fromUTF8?_eq_some_iff.mpr rfl

/-- An invocation names at most one text. -/
theorem Invocation.IsText.eq {invocation : Invocation} {files : Files} {text text' : String}
    (isText : invocation.IsText files text) (isText' : invocation.IsText files text') :
    text = text' := by
  rw [← text?_eq_some_iff] at isText isText'
  exact Option.some.inj (isText.symm.trans isText')

/-! ## Line breaks at the end -/

theorem toList_trimLineBreaks (text : String) :
    (trimLineBreaks text).toList =
      (text.toList.reverse.dropWhile fun c => c == '\r' || c == '\n').reverse := by
  rw [trimLineBreaks, String.toList_ofList]

/-- A text is trimmed of the line breaks at its end, and of nothing else. -/
theorem trimLineBreaks_eq_iff {text formula : String} :
    trimLineBreaks text = formula ↔ IsTrimmed text formula := by
  constructor
  · intro same
    rw [← same]
    constructor
    case behind =>
      refine ⟨(text.toList.reverse.takeWhile fun c => c == '\r' || c == '\n').reverse, ?_, ?_⟩
      · rw [toList_trimLineBreaks, ← List.reverse_append, List.takeWhile_append_dropWhile,
          List.reverse_reverse]
      · intro c member
        have taken := List.all_eq_true.mp List.all_takeWhile c (List.mem_reverse.mp member)
        simpa using taken
    case last =>
      intro c isLast
      rw [toList_trimLineBreaks, List.getLast?_reverse] at isLast
      have stopped := takes_head_dropWhile isLast
      simpa using stopped
  · intro trimmed
    -- Read backwards, the line breaks stand in front, and no other one follows them.
    obtain ⟨row, parts, breaks⟩ := trimmed.behind
    have reversed : text.toList.reverse = row.reverse ++ formula.toList.reverse := by
      rw [parts, List.reverse_append]
    have goOn : ∀ c ∈ row.reverse, (c == '\r' || c == '\n') = true := by
      intro c member
      simpa using breaks c (List.mem_reverse.mp member)
    have stops : ∀ c ∈ formula.toList.reverse.head?, (c == '\r' || c == '\n') = false := by
      intro c isLast
      rw [List.head?_reverse] at isLast
      simpa using trimmed.last c isLast
    rw [← String.toList_inj, toList_trimLineBreaks, reversed, (span_of_head goOn stops).2,
      List.reverse_reverse]

/-- Nothing is left only of a text of line breaks. -/
theorem IsTrimmed.breaks_of_empty {text formula : String} (trimmed : IsTrimmed text formula)
    (empty : formula.toList = []) : ∀ c ∈ text.toList, c = '\r' ∨ c = '\n' := by
  obtain ⟨row, parts, breaks⟩ := trimmed.behind
  rw [empty, List.nil_append] at parts
  rw [parts]
  exact breaks

/-! ## What the program finds -/

namespace Invocation

variable {invocation : Invocation} {files : Files}

/-- The settings of an invocation have the mode that its strict flag asks for. -/
theorem mode_of_settings {settings : Settings} (made : invocation.settings = .ok settings) :
    settings.mode = if invocation.strict then .strict else .lenient := by
  unfold Invocation.settings at made
  extract_lets chosen at made
  cases choice : chosen with
  | error e =>
    rw [choice] at made
    cases made
  | ok base =>
    rw [choice] at made
    rw [← Except.ok.inj made, Settings.mode_withMode]

/-- An invocation finds tokens exactly when all stages succeed with them. -/
theorem tokens_eq_ok_iff {read : List Token} :
    invocation.tokens files = .ok read ↔ invocation.Succeeds files read := by
  unfold tokens
  constructor
  · -- Each stage that succeeds leads on to the next one.
    intro found
    split at found
    · cases found
    · next settings made =>
      split at found
      · cases found
      · next text isText =>
        split at found
        · cases found
        · next read' scanned =>
          rw [← Except.ok.inj found]
          exact ⟨settings, text, _, made, text?_eq_some_iff.mp isText,
            trimLineBreaks_eq_iff.mp rfl, scanned⟩
  · intro succeeds
    obtain ⟨settings, text, formula, made, isText, trimmed, scanned⟩ := succeeds
    simp only [made, text?_eq_some_iff.mpr isText, trimLineBreaks_eq_iff.mpr trimmed, scanned]

/-- An invocation gives up exactly at the first stage that fails. -/
theorem tokens_eq_error_iff {failure : Failure} :
    invocation.tokens files = .error failure ↔ invocation.FailsFirst files failure := by
  unfold tokens
  constructor
  · -- A stage is reached only when those before it have succeeded.
    intro gaveUp
    split at gaveUp
    · next e failed =>
      rw [← Except.error.inj gaveUp]
      exact .settings failed
    · next settings made =>
      split at gaveUp
      · next noText =>
        rw [← Except.error.inj gaveUp]
        refine .unreadable made ?_
        intro text isText
        rw [text?_eq_some_iff.mpr isText] at noText
        cases noText
      · next text isText =>
        split at gaveUp
        · next e failed =>
          rw [← Except.error.inj gaveUp]
          exact .scan made (text?_eq_some_iff.mp isText) (trimLineBreaks_eq_iff.mp rfl) failed
        · cases gaveUp
  · intro fails
    cases fails with
    | settings failed => simp only [failed]
    | unreadable made noText =>
      have none : invocation.text? files = none := by
        rw [Option.eq_none_iff_forall_ne_some]
        intro text isText
        exact noText text (text?_eq_some_iff.mp isText)
      simp only [made, none]
    | scan made isText trimmed failed =>
      simp only [made, text?_eq_some_iff.mpr isText, trimLineBreaks_eq_iff.mpr trimmed, failed]

/-- All stages of an invocation succeed, or there is a first one that fails. -/
theorem succeeds_or_failsFirst (invocation : Invocation) (files : Files) :
    (∃ read, invocation.Succeeds files read) ∨
      ∃ failure, invocation.FailsFirst files failure := by
  cases found : invocation.tokens files with
  | ok read => exact .inl ⟨read, tokens_eq_ok_iff.mp found⟩
  | error failure => exact .inr ⟨failure, tokens_eq_error_iff.mp found⟩

/-- What an invocation leaves behind with tokens. -/
theorem outcome_of_succeeds {read : List Token} (succeeds : invocation.Succeeds files read) :
    invocation.outcome files =
      ⟨0, String.join (read.map fun t => t.text ++ "\n"), "", none⟩ := by
  rw [outcome, tokens_eq_ok_iff.mpr succeeds]

/-- What an invocation leaves behind with a failure. -/
theorem outcome_of_failsFirst {failure : Failure} (fails : invocation.FailsFirst files failure) :
    invocation.outcome files = ⟨1, "", failure.message ++ "\n", none⟩ := by
  rw [outcome, tokens_eq_error_iff.mpr fails]

/-- An invocation writes no notice. -/
@[simp] theorem notice_outcome : (invocation.outcome files).notice = none := by
  unfold outcome
  cases invocation.tokens files <;> rfl

/-- The exit code is zero exactly when all stages succeed. -/
theorem code_outcome_eq_zero_iff :
    (invocation.outcome files).code = 0 ↔ ∃ read, invocation.Succeeds files read := by
  constructor
  · intro zero
    cases succeeds_or_failsFirst invocation files with
    | inl succeeds => exact succeeds
    | inr fails =>
      obtain ⟨failure, fails⟩ := fails
      rw [outcome_of_failsFirst fails] at zero
      cases zero
  · intro succeeds
    obtain ⟨read, succeeds⟩ := succeeds
    rw [outcome_of_succeeds succeeds]

/-- Without the strict flag the scan fails only for a text of line breaks. -/
theorem breaks_of_failsFirst_scan (noFlag : invocation.strict = false) {e : ScanError}
    (fails : invocation.FailsFirst files (.scan e)) :
    e = .emptyFormula ∧
      ∀ text, invocation.IsText files text → ∀ c ∈ text.toList, c = '\r' ∨ c = '\n' := by
  cases fails with
  | scan made isText trimmed failed =>
    have lenient := mode_of_settings made
    rw [noFlag] at lenient
    -- Faults are for strict scans, so the formula is empty.
    obtain ⟨same, empty⟩ | ⟨strict, -⟩ := empty_or_fault_of_scan failed
    · refine ⟨same, ?_⟩
      intro text' isText'
      rw [← isText.eq isText']
      exact trimmed.breaks_of_empty empty
    · rw [lenient] at strict
      cases strict

end Invocation

/-! ## Lines -/

/-- A text in one line has no line feed. -/
theorem not_mem_of_inOneLine {text : List Char} (line : InOneLine text) : '\n' ∉ text := by
  intro member
  exact absurd (line '\n' member) (by decide)

/-- Cutting the output at the line feeds gives the texts of the tokens. -/
theorem splitOn_join_text {read : List Token} (lines : ∀ t ∈ read, InOneLine t.text.toList) :
    (String.join (read.map fun t => t.text ++ "\n")).toList.splitOn '\n' =
      read.map (·.text.toList) ++ [[]] := by
  induction read with
  | nil => simp
  | cons t read ih =>
    have first := not_mem_of_inOneLine (lines t (List.mem_cons_self ..))
    have rest := ih fun other member => lines other (List.mem_cons_of_mem t member)
    have text : (String.join ((t :: read).map fun t => t.text ++ "\n")).toList =
        t.text.toList ++ '\n' :: (String.join (read.map fun t => t.text ++ "\n")).toList := by
      simp [String.join_cons]
    -- The first line feed is the one behind the first text, which has none itself.
    rw [text, List.splitOn_append_cons_self_of_not_mem first, rest]
    rfl

/-! ## All or nothing -/

/-- An invocation leaves the tokens behind, or else the message of the first stage that fails. -/
theorem allOrNothing_outcome (invocation : Invocation) (files : Files) :
    AllOrNothing invocation files (invocation.outcome files) := by
  constructor
  case code_eq_zero_iff => exact Invocation.code_outcome_eq_zero_iff
  case noNotice => exact Invocation.notice_outcome
  case success =>
    intro read succeeds
    rw [Invocation.outcome_of_succeeds succeeds]
    obtain ⟨settings, text, formula, -, -, -, scanned⟩ := succeeds
    have lines := inOneLine_text_of_scan scanned
    exact ⟨rfl, splitOn_join_text lines, lines⟩
  case failure =>
    intro failure fails
    rw [Invocation.outcome_of_failsFirst fails]
    exact ⟨rfl, rfl, rfl⟩
  case decided => exact Invocation.succeeds_or_failsFirst invocation files
  case lenient =>
    intro noFlag e fails
    exact Invocation.breaks_of_failsFirst_scan noFlag fails
  case message =>
    intro e fails
    cases fails with
    | scan made isText trimmed failed => exact inOneLine_message_of_scan failed

/-- An invocation leaves the tokens behind, one in each line, or else the message of the first stage
that fails. If the settings fail, it does not matter what the files hold. -/
theorem outcome_all_or_nothing (invocation : Invocation) :
    (∀ files, AllOrNothing invocation files (invocation.outcome files)) ∧
      (∀ e, invocation.settings = .error e → ∀ files files',
        invocation.outcome files = invocation.outcome files') ∧
      ∀ arguments, Invocation.ofArguments arguments = .ok invocation → ∀ files,
        outcome arguments files = invocation.outcome files := by
  refine ⟨allOrNothing_outcome invocation, ?_, ?_⟩
  · intro e failed files files'
    rw [Invocation.outcome_of_failsFirst (.settings failed),
      Invocation.outcome_of_failsFirst (.settings failed)]
  · intro arguments accepted files
    rw [outcome, accepted]

/-- A file whose bytes are no text, behind settings that fail and behind settings that do not. -/
example :
    outcome ["-f", "-d", "+", "f"] (fun _ => some ⟨#[0xff]⟩) =
        ⟨1, "", "Error: '+' cannot be used as a decimal separator.\n", none⟩ ∧
      outcome ["-f", "f"] (fun _ => some ⟨#[0xff]⟩) =
        ⟨1, "", "Failed to read the input file 'f'. Perhaps this file does not exist?\n", none⟩ := by
  decide +kernel

end FormulaScan.CommandLine
