import FormulaScan.Proofs.CommandLine.Stages
import FormulaScan.Proofs.Scan.Composition

/-!
# Where the formula comes from

The program takes the formula from an argument or from a file, and it does not matter which: the same
text, with or without line breaks at its end, has the same outcome (`Invocation.outcome_of_text`).
White space at the end of a formula adds nothing to its answer (`scan_append_row`), so that a scan of
the text with its line breaks gives this outcome too, unless there is nothing else in the text.

The arguments in front of the formula may be any that do not ask for a file (`outcome_of_sources`).
They are taken one after the other, and what they leave behind settles how those behind them are taken
(`takeArguments_eq_foldlM`, `ofArguments_behind_options`).
-/

namespace FormulaScan

/-! ## White space at the end -/

/-- White space at the end of a formula adds nothing to its answer. -/
theorem scan_append_row (settings : Settings) {formula : String} (filled : formula.toList ≠ [])
    {row : List Char} (blank : ∀ c ∈ row, Text.isBlank c = true) :
    scan settings (formula ++ String.ofList row) = scan settings formula := by
  have admissible := settings.isSeparator_separator
  by_cases nothing : row = []
  · rw [nothing]
    simp
  · have text : (formula ++ String.ofList row).toList = formula.toList ++ (row ++ []) := by simp
    have filled' : (formula ++ String.ofList row).toList ≠ [] := by
      rw [text]
      exact List.append_ne_nil_of_left_ne_nil filled _
    have last := answer_findingsFrom_row admissible settings.mode
      (Pointwise.stateBehind settings.separator .initial 0 formula.toList) formula.toList.length
      nothing blank []
    have none : answer settings.mode [] = .ok [] := by cases settings.mode <;> rfl
    rw [Pointwise.findingsFrom_nil, none] at last
    rw [scan_eq_answer settings filled', text,
      Pointwise.findings_append (Pointwise.boundary_of_row admissible nothing blank []),
      answer_append, last, scan_eq_answer settings filled]
    cases answer settings.mode (Pointwise.findings settings.separator formula.toList) with
    | error e => rfl
    | ok read => exact congrArg Except.ok (List.append_nil read)

namespace CommandLine

/-! ## Texts with the same formula -/

/-- More line breaks at the end of a text leave the same formula. -/
theorem IsTrimmed.append_breaks {text breaks formula : String} (trimmed : IsTrimmed text formula)
    (onlyBreaks : ∀ c ∈ breaks.toList, c = '\r' ∨ c = '\n') :
    IsTrimmed (text ++ breaks) formula := by
  obtain ⟨⟨row, parts, isBreak⟩, last⟩ := trimmed
  refine ⟨⟨row ++ breaks.toList, ?_, ?_⟩, last⟩
  · rw [String.toList_append, parts, List.append_assoc]
  · exact List.forall_mem_append.mpr ⟨isBreak, onlyBreaks⟩

/-- A text of which a formula is left is scanned like the formula: the line breaks at its end are
white space. -/
theorem scan_of_isTrimmed (settings : Settings) {text formula : String}
    (trimmed : IsTrimmed text formula) (nonempty : formula ≠ "") :
    scan settings text = scan settings formula := by
  obtain ⟨⟨row, parts, isBreak⟩, -⟩ := trimmed
  have filled : formula.toList ≠ [] := by simpa using nonempty
  have blank : ∀ c ∈ row, Text.isBlank c = true := by
    intro c member
    obtain rfl | rfl := isBreak c member
    · decide
    · decide
  have whole : text = formula ++ String.ofList row := by
    rw [← String.toList_inj, String.toList_append, String.toList_ofList, parts]
  rw [whole, scan_append_row settings filled blank]

/-- What the answer to a scan looks like: one line for each token, or else the message. -/
def Outcome.ofAnswer : Except ScanError (List Token) → Outcome
  | .ok read => ⟨0, String.join (read.map fun t => t.text ++ "\n"), "", none⟩
  | .error e => ⟨1, "", e.message ++ "\n", none⟩

namespace Invocation

variable {invocation : Invocation} {files : Files} {text formula : String}

/-- The outcome of an invocation shows the answer to a scan of its formula. -/
theorem outcome_eq_ofAnswer {settings : Settings} (made : invocation.settings = .ok settings)
    (isText : invocation.IsText files text) (trimmed : IsTrimmed text formula) :
    invocation.outcome files = Outcome.ofAnswer (scan settings formula) := by
  simp only [outcome, tokens, made, text?_eq_some_iff.mpr isText,
    trimLineBreaks_eq_iff.mpr trimmed]
  cases scan settings formula <;> rfl

/-- Invocations with the same settings and the same formula have the same outcome. -/
theorem outcome_congr {invocation' : Invocation} {text' : String}
    (same : invocation.settings = invocation'.settings) (isText : invocation.IsText files text)
    (isText' : invocation'.IsText files text') (trimmed : IsTrimmed text formula)
    (trimmed' : IsTrimmed text' formula) :
    invocation.outcome files = invocation'.outcome files := by
  cases made : invocation'.settings with
  | error e =>
    rw [outcome_of_failsFirst (.settings (same.trans made)), outcome_of_failsFirst (.settings made)]
  | ok settings =>
    rw [outcome_eq_ofAnswer (same.trans made) isText trimmed,
      outcome_eq_ofAnswer made isText' trimmed']

/-- Whatever mode and separator are chosen, a text as contents, the same text with line breaks at its
end, and a file that holds the text with the line breaks have the same outcome. If something is left
of the text without the line breaks at its end, and settings are made, this outcome shows the answer
to a scan of the text with its line breaks, which is the answer to a scan of what is left. -/
theorem outcome_of_text (strict : Bool) (choice : SeparatorChoice) (text : String)
    {breaks : String} (onlyBreaks : ∀ c ∈ breaks.toList, c = '\r' ∨ c = '\n')
    {name : String} (stored : files name = some (text ++ breaks).toUTF8) :
    let ofText : Invocation := ⟨text, false, strict, choice⟩
    outcome ⟨text ++ breaks, false, strict, choice⟩ files = ofText.outcome files ∧
      outcome ⟨name, true, strict, choice⟩ files = ofText.outcome files ∧
      ∀ formula, IsTrimmed text formula → formula ≠ "" → ∀ settings,
        ofText.settings = .ok settings →
          ofText.outcome files = Outcome.ofAnswer (scan settings (text ++ breaks)) ∧
            scan settings (text ++ breaks) = scan settings formula := by
  intro ofText
  -- The invocations differ in their text only, and the same formula is left of each text.
  have trimmed : IsTrimmed text (trimLineBreaks text) := trimLineBreaks_eq_iff.mp rfl
  refine ⟨?_, ?_, ?_⟩
  · exact outcome_congr rfl (.contents rfl) (.contents rfl)
      (trimmed.append_breaks onlyBreaks) trimmed
  · exact outcome_congr rfl (.file rfl stored) (.contents rfl)
      (trimmed.append_breaks onlyBreaks) trimmed
  · intro formula trimmed nonempty settings made
    have same := scan_of_isTrimmed settings (trimmed.append_breaks onlyBreaks) nonempty
    rw [outcome_eq_ofAnswer made (.contents rfl) trimmed, same]
    exact ⟨rfl, rfl⟩

end Invocation

/-! ## Arguments one after the other -/

/-- How far the arguments have been taken: the next one may be an option, or the options have ended
and it is contents. -/
inductive Progress where
  | options (given : Given) (pending : Pending)
  | contents (given : Given)

namespace Progress

/-- Takes the next argument. -/
def take : Progress → String → Except Halt Progress
  | .contents given, argument => (given.takeContents argument).map .contents
  | .options given (.value setting), argument =>
    match Shape.ofArgument argument.toList with
    | .contents => (given.takeValue argument.toList setting).map (.options · .nothing)
    | _ => .error .usage
  | .options given .nothing, argument =>
    match Shape.ofArgument argument.toList with
    | .endOfOptions => .ok (.contents given)
    | .contents => (given.takeContents argument).map (.options · .nothing)
    | .long name value => (takeLong given name value).map fun taken => .options taken.1 taken.2
    | .letters letters => (takeLetters given letters).map fun taken => .options taken.1 taken.2

/-- What has been given when there are no more arguments. -/
def finish : Progress → Except Halt Given
  | .contents given | .options given .nothing => .ok given
  | .options _ (.value _) => .error .usage

end Progress

/-- The arguments behind the end of the options are taken one after the other. -/
theorem takeRest_eq_foldlM (given : Given) (arguments : List String) :
    takeRest given arguments =
      arguments.foldlM Progress.take (.contents given) >>= Progress.finish := by
  induction arguments generalizing given with
  | nil => rfl
  | cons argument rest ih =>
    rw [takeRest, List.foldlM_cons, Progress.take]
    cases given.takeContents argument with
    | error halt => rfl
    | ok given => exact ih given

/-- Arguments are taken one after the other. -/
theorem takeArguments_eq_foldlM (given : Given) (pending : Pending) (arguments : List String) :
    takeArguments given pending arguments =
      arguments.foldlM Progress.take (.options given pending) >>= Progress.finish := by
  induction arguments generalizing given pending with
  | nil => cases pending <;> rfl
  | cons argument rest ih =>
    rw [List.foldlM_cons]
    cases pending with
    | value setting =>
      rw [takeArguments, Progress.take]
      cases Shape.ofArgument argument.toList with
      | contents =>
        cases given.takeValue argument.toList setting with
        | error halt => rfl
        | ok given => exact ih given .nothing
      | endOfOptions => rfl
      | long name value => rfl
      | letters letters => rfl
    | nothing =>
      rw [takeArguments, Progress.take]
      cases Shape.ofArgument argument.toList with
      | contents =>
        cases given.takeContents argument with
        | error halt => rfl
        | ok given => exact ih given .nothing
      | endOfOptions => exact takeRest_eq_foldlM given rest
      | long name value =>
        cases taken : takeLong given name value with
        | error halt => simp [taken]; rfl
        | ok next => simp [taken]; exact ih next.1 next.2
      | letters letters =>
        cases taken : takeLetters given letters with
        | error halt => simp [taken]; rfl
        | ok next => simp [taken]; exact ih next.1 next.2

/-- Complete arguments are read as the invocation that they make. -/
theorem ofArguments_eq_bind (arguments : List String) :
    Invocation.ofArguments arguments =
      takeArguments {} .nothing arguments >>= Given.invocation := by
  rw [Invocation.ofArguments]
  cases takeArguments {} .nothing arguments <;> rfl

/-- What some arguments leave behind settles how those behind them are read. -/
theorem ofArguments_append (options behind : List String) :
    Invocation.ofArguments (options ++ behind) =
      options.foldlM Progress.take (.options {} .nothing) >>= fun taken =>
        behind.foldlM Progress.take taken >>= Progress.finish >>= Given.invocation := by
  rw [ofArguments_eq_bind, takeArguments_eq_foldlM, List.foldlM_append]
  cases options.foldlM Progress.take (.options {} .nothing) <;> rfl

/-- Whether complete arguments make an invocation depends neither on the contents nor on whether
these are the name of a file. -/
theorem Given.invocation_cases (given : Given) :
    (∀ contents fromFile,
        { given with contents := some contents, fromFile }.invocation = .error .usage) ∨
      ∃ separator, ∀ contents fromFile,
        { given with contents := some contents, fromFile }.invocation =
          .ok ⟨contents, fromFile, given.strict, separator⟩ := by
  obtain ⟨-, strict, locale, separator, -⟩ := given
  cases locale with
  | none =>
    cases separator with
    | none => exact .inr ⟨.standard, fun _ _ => rfl⟩
    | some c => exact .inr ⟨.character c, fun _ _ => rfl⟩
  | some tag =>
    cases separator with
    | none => exact .inr ⟨.locale tag, fun _ _ => rfl⟩
    | some c => exact .inl fun _ _ => rfl

/-- Arguments that do not ask for a file are read alike in front of a formula and in front of the
name of a file: either they are refused, or they choose the mode and the separator. -/
theorem ofArguments_behind_options {options : List String}
    (noFile : ∀ given, takeArguments {} .nothing options = .ok given → given.fromFile = false) :
    (∃ halt, ∀ text name,
        Invocation.ofArguments (options ++ ["--", text]) = .error halt ∧
          Invocation.ofArguments (options ++ ["--file", "--", name]) = .error halt) ∨
      ∃ strict separator, ∀ text name,
        Invocation.ofArguments (options ++ ["--", text]) =
            .ok ⟨text, false, strict, separator⟩ ∧
          Invocation.ofArguments (options ++ ["--file", "--", name]) =
            .ok ⟨name, true, strict, separator⟩ := by
  simp only [ofArguments_append]
  rw [takeArguments_eq_foldlM] at noFile
  cases taken : options.foldlM Progress.take (.options {} .nothing) with
  | error halt => exact .inl ⟨halt, fun _ _ => ⟨rfl, rfl⟩⟩
  | ok progress =>
    rw [taken] at noFile
    cases progress with
    | contents given =>
      -- The options have ended, so that there are contents twice.
      obtain ⟨fromFile, strict, locale, separator, contents⟩ := given
      cases contents with
      | none => exact .inl ⟨.usage, fun _ _ => ⟨rfl, rfl⟩⟩
      | some contents => exact .inl ⟨.usage, fun _ _ => ⟨rfl, rfl⟩⟩
    | options given pending =>
      cases pending with
      | value setting => exact .inl ⟨.usage, fun _ _ => ⟨rfl, rfl⟩⟩
      | nothing =>
        have noFile : given.fromFile = false := noFile given rfl
        have made := given.invocation_cases
        obtain ⟨fromFile, strict, locale, separator, contents⟩ := given
        obtain rfl : fromFile = false := noFile
        cases contents with
        | some contents => exact .inl ⟨.usage, fun _ _ => ⟨rfl, rfl⟩⟩
        | none =>
          obtain refused | ⟨choice, makes⟩ := made
          · exact .inl ⟨.usage, fun text name => ⟨refused text false, refused name true⟩⟩
          · exact .inr ⟨strict, choice, fun text name => ⟨makes text false, makes name true⟩⟩

/-! ## The outcome behind arguments -/

theorem outcome_of_ofArguments_eq_ok {arguments : List String} {invocation : Invocation}
    (accepted : Invocation.ofArguments arguments = .ok invocation) (files : Files) :
    outcome arguments files = invocation.outcome files := by
  rw [outcome, accepted]

/-- Behind arguments that do not ask for a file, a text as contents, the same text with line breaks at
its end, and a file that holds the text with the line breaks have the same outcome. If something is
left of the text without the line breaks at its end, and settings are made, this outcome shows the
answer to a scan of the text with its line breaks, which is the answer to a scan of what is left. -/
theorem outcome_of_sources {options : List String}
    (noFile : ∀ given, takeArguments {} .nothing options = .ok given → given.fromFile = false)
    (text : String) {breaks : String} (onlyBreaks : ∀ c ∈ breaks.toList, c = '\r' ∨ c = '\n')
    {files : Files} {name : String} (stored : files name = some (text ++ breaks).toUTF8) :
    outcome (options ++ ["--", text ++ breaks]) files = outcome (options ++ ["--", text]) files ∧
      outcome (options ++ ["--file", "--", name]) files =
        outcome (options ++ ["--", text]) files ∧
      ∀ formula, IsTrimmed text formula → formula ≠ "" → ∀ invocation settings,
        Invocation.ofArguments (options ++ ["--", text]) = .ok invocation →
        invocation.settings = .ok settings →
          outcome (options ++ ["--", text]) files =
              Outcome.ofAnswer (scan settings (text ++ breaks)) ∧
            scan settings (text ++ breaks) = scan settings formula := by
  obtain ⟨halt, refused⟩ | ⟨strict, choice, accepted⟩ := ofArguments_behind_options noFile
  · -- The arguments are refused whatever the contents are.
    have halts {arguments : List String}
        (isRefused : Invocation.ofArguments arguments = .error halt) :
        outcome arguments files = halt.outcome := by
      rw [outcome, isRefused]
    have (contents : String) := halts (refused contents name).1
    refine ⟨by rw [this, this], by rw [this, halts (refused text name).2], ?_⟩
    intro formula _ _ invocation settings isAccepted
    cases (refused text name).1.symm.trans isAccepted
  · -- The arguments choose the mode and the separator, and the rest is for the invocations.
    have ofText (contents : String) :=
      outcome_of_ofArguments_eq_ok (accepted contents name).1 files
    have ofFile := outcome_of_ofArguments_eq_ok (accepted text name).2 files
    obtain ⟨broken, fromFile, scanned⟩ :=
      Invocation.outcome_of_text strict choice text onlyBreaks stored
    rw [ofText, ofText, ofFile]
    refine ⟨broken, fromFile, ?_⟩
    intro formula trimmed nonempty invocation settings isAccepted made
    cases (accepted text name).1.symm.trans isAccepted
    exact scanned formula trimmed nonempty settings made

/-- A strict scan of a file that ends in a line break, behind joined letters. -/
theorem outcome_of_sources_file :
    let files : Files := fun _ => some "1,5*x\r\n".toUTF8
    outcome ["-sd,", "--", "1,5*x\r\n"] files = outcome ["-sd,", "--", "1,5*x"] files ∧
      outcome ["-sd,", "--file", "--", "f"] files = outcome ["-sd,", "--", "1,5*x"] files ∧
      ∃ settings, Settings.default.withSeparator ',' = .ok settings ∧
        outcome ["-sd,", "--", "1,5*x"] files =
          Outcome.ofAnswer (scan (settings.withMode .strict) "1,5*x\r\n") := by
  intro files
  have noFile : ∀ given, takeArguments {} .nothing ["-sd,"] = .ok given →
      given.fromFile = false := by
    have taken : takeArguments {} .nothing ["-sd,"] = .ok ⟨false, true, none, some ',', none⟩ := by
      cbv
    intro given isTaken
    cases taken.symm.trans isTaken
    rfl
  have onlyBreaks : ∀ c ∈ "\r\n".toList, c = '\r' ∨ c = '\n' := by simp
  have stored : files "f" = some ("1,5*x" ++ "\r\n").toUTF8 := rfl
  obtain ⟨broken, fromFile, scanned⟩ := outcome_of_sources noFile "1,5*x" onlyBreaks stored
  obtain ⟨settings, made⟩ : ∃ settings, Settings.default.withSeparator ',' = .ok settings :=
    ⟨_, rfl⟩
  have accepted : Invocation.ofArguments ["-sd,", "--", "1,5*x"] =
      .ok ⟨"1,5*x", false, true, .character ','⟩ := by cbv
  have chosen : Invocation.settings ⟨"1,5*x", false, true, .character ','⟩ =
      .ok (settings.withMode .strict) := by
    rw [Invocation.settings]
    simp only [made]
    rfl
  have trimmed : IsTrimmed "1,5*x" "1,5*x" := trimLineBreaks_eq_iff.mp (by decide)
  have shown := scanned _ trimmed (by decide) _ _ accepted chosen
  exact ⟨broken, fromFile, settings, made, shown.1⟩

/-- Of a text of line breaks nothing is left to scan, while a scan of the text itself finds no
tokens in it. -/
example :
    outcome ["-s", "--", "\n"] (fun _ => none) =
        ⟨1, "", ScanError.emptyFormula.message ++ "\n", none⟩ ∧
      scan (Settings.default.withMode .strict) "\n" = .ok [] := by
  constructor
  · decide +kernel
  · cbv

end CommandLine
end FormulaScan
