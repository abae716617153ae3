import FormulaScan.Proofs.Scan.Agreement
import FormulaScan.Scan.Part

/-!
# Answers

What a scan answers is settled by what it finds and by the mode: `answer` is the first fault, in
strict mode, and otherwise the tokens. `scanFrom_eq_answer` and `scan_eq_answer` say so of a scan
over runs, with what a pointwise scan finds.

Answers compose: the answer to findings in two parts is the answer to the first part, and behind it
the answer to the second (`answer_append`). A change of tokens and faults one by one changes the
answer alike (`answer_map`).
-/

namespace FormulaScan

/-- The answer of a mode to what a scan has found. -/
def answer (mode : Mode) (found : List Finding) : Except ScanError (List Token) :=
  match mode, found.findSome? Finding.fault? with
  | .strict, some fault => .error (.fault fault)
  | _, _ => .ok (found.filterMap Finding.token?)

/-- Only what tells something counts. -/
theorem answer_congr_of_told (mode : Mode) {found found' : List Finding}
    (same : told found = told found') : answer mode found = answer mode found' := by
  have faults : found.findSome? Finding.fault? = found'.findSome? Finding.fault? := by
    rw [← findSome?_fault?_told, same, findSome?_fault?_told]
  have tokens : found.filterMap Finding.token? = found'.filterMap Finding.token? := by
    rw [← filterMap_token?_told, same, filterMap_token?_told]
  simp only [answer, faults, tokens]

/-- A strict scan succeeds exactly when there is no fault. -/
theorem isOk_answer_strict_iff {found : List Finding} :
    (answer .strict found).isOk = true ↔ found.findSome? Finding.fault? = none := by
  unfold answer
  cases found.findSome? Finding.fault? <;> simp [Except.isOk, Except.toBool]

theorem answer_token_cons (mode : Mode) (t : Token) (found : List Finding) :
    answer mode (.token t :: found) = (answer mode found).map (t :: ·) := by
  have none : (Finding.token t).fault? = none := rfl
  simp only [answer, List.findSome?_cons, List.filterMap_cons, none, Finding.token?]
  cases mode with
  | lenient => rfl
  | strict => cases found.findSome? Finding.fault? <;> rfl

theorem answer_blank_cons (mode : Mode) (start length : Nat) (found : List Finding) :
    answer mode (.blank start length :: found) = answer mode found :=
  answer_congr_of_told mode (told_blank_cons start length found)

/-- Where all findings that tell something are tokens, the answer is these tokens. -/
theorem answer_eq_ok_of_told (mode : Mode) {found : List Finding} {read : List Token}
    (tokens : told found = read.map .token) : answer mode found = .ok read := by
  have told_tokens : told (read.map .token) = read.map .token := by
    rw [told, List.filter_eq_self]
    intro f member
    obtain ⟨t, -, rfl⟩ := List.mem_map.mp member
    rfl
  rw [answer_congr_of_told mode (tokens.trans told_tokens.symm)]
  clear tokens told_tokens
  induction read with
  | nil => cases mode <;> rfl
  | cons t read ih =>
    rw [List.map_cons, answer_token_cons, ih]
    rfl

/-- The answer to findings in two parts. -/
theorem answer_append (mode : Mode) (front behind : List Finding) :
    answer mode (front ++ behind) = (do
      let before ← answer mode front
      let after ← answer mode behind
      return before ++ after) := by
  simp only [answer, List.findSome?_append, List.filterMap_append]
  cases mode with
  | lenient => rfl
  | strict =>
    cases front.findSome? Finding.fault? with
    | some fault => rfl
    | none => cases behind.findSome? Finding.fault? <;> rfl

/-- The tokens that an answer gives are those among the findings. -/
theorem eq_of_answer_eq_ok {mode : Mode} {found : List Finding} {read : List Token}
    (ok : answer mode found = .ok read) : read = found.filterMap Finding.token? := by
  unfold answer at ok
  split at ok
  · cases ok
  · exact (Except.ok.inj ok).symm

/-- The answer to findings whose tokens and faults have been changed. -/
theorem answer_map (mode : Mode) {change : Finding → Finding} {onToken : Token → Token}
    {onFault : Fault → Fault} (token : ∀ f, (change f).token? = f.token?.map onToken)
    (fault : ∀ f, (change f).fault? = f.fault?.map onFault) (found : List Finding) :
    answer mode (found.map change) = mapAnswer onToken onFault (answer mode found) := by
  have tokens : (found.map change).filterMap Finding.token? =
      (found.filterMap Finding.token?).map onToken := by
    rw [List.filterMap_map, List.map_filterMap]
    exact congrArg (List.filterMap · found) (funext token)
  have faults : (found.map change).findSome? Finding.fault? =
      (found.findSome? Finding.fault?).map onFault := by
    rw [List.findSome?_map, List.map_findSome?]
    exact congrArg (List.findSome? · found) (funext fault)
  simp only [answer, tokens, faults]
  cases mode with
  | lenient => rfl
  | strict => cases found.findSome? Finding.fault? <;> rfl

/-- A scan of runs gives the answer to what a pointwise scan finds in their text. -/
theorem scanFrom_eq_answer (settings : Settings) (state : ScanState) (position : Nat)
    {text : List Char} (fits : Pointwise.Fits settings.separator state.stage text) :
    scanFrom settings state (Run.listFrom position text) =
      answer settings.mode
        (Pointwise.findingsFrom settings.separator state position text) := by
  rw [← answer_congr_of_told settings.mode
    (told_findingsFrom_listFrom settings.isSeparator_separator state position text fits)]
  cases mode : settings.mode with
  | lenient =>
    rw [scanFrom_lenient mode]
    rfl
  | strict =>
    rw [scanFrom_strict mode]
    unfold answer
    cases (findingsFrom settings.separator state (Run.listFrom position text)).findSome?
      Finding.fault? <;> rfl

/-- A scan of a formula with at least one character gives the answer to what a pointwise scan finds
in it. -/
theorem scan_eq_answer (settings : Settings) {formula : String} (nonempty : formula.toList ≠ []) :
    scan settings formula =
      answer settings.mode (Pointwise.findings settings.separator formula.toList) := by
  rw [scan, if_neg nonempty]
  exact scanFrom_eq_answer settings .initial 0 (Pointwise.fits_number settings.separator _)

end FormulaScan
