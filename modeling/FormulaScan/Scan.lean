import FormulaScan.Scan.Reading
import FormulaScan.Settings

/-!
# Scanning a formula

`scan` goes once over the runs of a formula and collects the tokens. A lenient scan leaves out the
text that is no token; a strict scan ends at the first fault and reports it. The empty formula is
refused in both modes.

`findings` says what each stretch of a formula is, whatever the mode. The main statements,
`scan_lenient` and `scan_strict`, say that a lenient scan answers with the tokens among the findings,
and a strict scan with the first fault, or with the tokens if there is no fault.
-/

namespace FormulaScan

/-- What is read from runs, beginning in a given state. -/
def findingsFrom (separator : Char) (state : ScanState) : List Run → List Finding
  | [] => []
  | run :: rest =>
    let step := ScanStep.ofRun separator state run rest
    step.finding :: findingsFrom separator (state.next step.finding step.stage) step.rest
termination_by runs => runs.length
decreasing_by
  exact Nat.lt_succ_of_le (ScanStep.length_rest_ofRun_le separator state run rest)

/-- What a formula consists of. -/
def findings (separator : Char) (formula : List Char) : List Finding :=
  findingsFrom separator .initial (Run.list formula)

/-- The tokens of a formula. -/
def tokens (separator : Char) (formula : List Char) : List Token :=
  (findings separator formula).filterMap Finding.token?

/-- The first fault of a formula. -/
def fault? (separator : Char) (formula : List Char) : Option Fault :=
  (findings separator formula).findSome? Finding.fault?

/-- Why a formula was not scanned. -/
inductive ScanError where
  | emptyFormula
  | fault (fault : Fault)
  deriving DecidableEq, Repr

namespace ScanError

/-- The position of the text that an error is about. -/
def position? : ScanError → Option Nat
  | .emptyFormula => none
  | .fault f => some f.position

/-- The message that reports an error. -/
def message : ScanError → String
  | .emptyFormula => "Error: The formula is empty."
  | .fault f => f.message

end ScanError

/-- Reads runs one after the other, beginning in a given state. A fault ends a strict scan and is left
out by a lenient one. -/
def scanFrom (settings : Settings) (state : ScanState) : List Run → Except ScanError (List Token)
  | [] => .ok []
  | run :: rest =>
    let step := ScanStep.ofRun settings.separator state run rest
    match settings.mode, step.finding.fault? with
    | .strict, some f => .error (.fault f)
    | _, _ =>
      (scanFrom settings (state.next step.finding step.stage) step.rest).map
        (step.finding.token?.toList ++ ·)
termination_by runs => runs.length
decreasing_by
  exact Nat.lt_succ_of_le (ScanStep.length_rest_ofRun_le settings.separator state run rest)

/-- Scans a formula. -/
def scan (settings : Settings) (formula : String) : Except ScanError (List Token) :=
  if formula.toList = [] then .error .emptyFormula
  else scanFrom settings .initial (Run.list formula.toList)

/-- Scans a formula that may be missing; a missing formula is an empty one. -/
def scanIfGiven (settings : Settings) (formula : Option String) : Except ScanError (List Token) :=
  scan settings (formula.getD "")

/-! ## The two modes -/

@[simp] theorem findingsFrom_nil (separator : Char) (state : ScanState) :
    findingsFrom separator state [] = [] := by
  rw [findingsFrom]

/-- The first finding and the findings behind it. -/
theorem findingsFrom_cons (separator : Char) (state : ScanState) (run : Run) (rest : List Run) :
    findingsFrom separator state (run :: rest) =
      (ScanStep.ofRun separator state run rest).finding ::
        findingsFrom separator
          (state.next (ScanStep.ofRun separator state run rest).finding
            (ScanStep.ofRun separator state run rest).stage)
          (ScanStep.ofRun separator state run rest).rest := by
  rw [findingsFrom]

/-- A lenient scan of runs gives the tokens that are read from them. -/
theorem scanFrom_lenient {settings : Settings} (lenient : settings.mode = .lenient)
    (state : ScanState) (runs : List Run) :
    scanFrom settings state runs =
      .ok ((findingsFrom settings.separator state runs).filterMap Finding.token?) := by
  fun_induction scanFrom settings state runs with
  | case1 => simp
  | case2 state run rest step f fault strict => cases lenient.symm.trans strict
  | case3 state run rest step goesOn ih =>
    have first : findingsFrom settings.separator state (run :: rest) = step.finding ::
        findingsFrom settings.separator (state.next step.finding step.stage) step.rest :=
      findingsFrom_cons ..
    rw [ih, first, List.filterMap_cons]
    cases step.finding.token? <;> rfl

/-- A strict scan of runs gives the first fault that is read from them, or their tokens. -/
theorem scanFrom_strict {settings : Settings} (strict : settings.mode = .strict)
    (state : ScanState) (runs : List Run) :
    scanFrom settings state runs =
      match (findingsFrom settings.separator state runs).findSome? Finding.fault? with
      | some f => .error (.fault f)
      | none => .ok ((findingsFrom settings.separator state runs).filterMap Finding.token?) := by
  fun_induction scanFrom settings state runs with
  | case1 => simp
  | case2 state run rest step f fault _ =>
    rw [findingsFrom_cons, List.findSome?_cons, fault]
  | case3 state run rest step goesOn ih =>
    have first : findingsFrom settings.separator state (run :: rest) = step.finding ::
        findingsFrom settings.separator (state.next step.finding step.stage) step.rest :=
      findingsFrom_cons ..
    have noFault : step.finding.fault? = none :=
      Option.eq_none_iff_forall_ne_some.mpr fun f fault => goesOn f strict fault
    rw [ih, first, List.findSome?_cons, noFault, List.filterMap_cons]
    cases (findingsFrom settings.separator (state.next step.finding step.stage)
      step.rest).findSome? Finding.fault? with
    | some f => rfl
    | none => cases step.finding.token? <;> rfl

/-- A lenient scan of a formula with at least one character gives its tokens. -/
theorem scan_lenient {settings : Settings} (lenient : settings.mode = .lenient) {formula : String}
    (nonempty : formula.toList ≠ []) :
    scan settings formula = .ok (tokens settings.separator formula.toList) := by
  rw [scan, if_neg nonempty, scanFrom_lenient lenient]
  rfl

/-- A strict scan of a formula with at least one character gives its first fault, or its tokens if
it has none. -/
theorem scan_strict {settings : Settings} (strict : settings.mode = .strict) {formula : String}
    (nonempty : formula.toList ≠ []) :
    scan settings formula =
      match fault? settings.separator formula.toList with
      | some f => .error (.fault f)
      | none => .ok (tokens settings.separator formula.toList) := by
  rw [scan, if_neg nonempty, scanFrom_strict strict]
  rfl

end FormulaScan
