import FormulaScan.Scan

/-!
# Moments of a scan

What a scan has at hand each time it is about to read a run: the tokens read so far, what it keeps
in mind, and the runs still to be read. A strict scan has no moment behind a fault.

The moments are those of `scan`: it succeeds exactly with the tokens of a moment at which no run is
left (`scan_eq_ok_iff_reached`), and it fails exactly at a moment whose next run is a fault
(`scan_eq_error_iff_reached`).
-/

namespace FormulaScan

/-- What a scan has at hand between two runs. -/
structure Moment where
  emitted : List Token
  state : ScanState
  rest : List Run
  deriving DecidableEq, Repr

namespace Moment

/-- The moment before the first run of a formula. -/
def first (formula : List Char) : Moment := ⟨[], .initial, Run.list formula⟩

/-- The moment behind a step that reads the first of the runs. -/
def next (moment : Moment) (step : ScanStep) : Moment :=
  ⟨moment.emitted ++ step.finding.token?.toList, moment.state.next step.finding step.stage,
    step.rest⟩

/-- The moments of a scan of a formula. -/
inductive Reached (settings : Settings) (formula : List Char) : Moment → Prop where
  | first : Reached settings formula (Moment.first formula)
  | next {emitted : List Token} {state : ScanState} {run : Run} {rest : List Run}
      (reached : Reached settings formula ⟨emitted, state, run :: rest⟩)
      (goesOn : settings.mode = .strict →
        (ScanStep.ofRun settings.separator state run rest).finding.fault? = none) :
      Reached settings formula
        (Moment.next ⟨emitted, state, run :: rest⟩
          (ScanStep.ofRun settings.separator state run rest))

variable {settings : Settings} {formula : List Char}

section Step

variable {state : ScanState} {run : Run} {rest : List Run}

/-- A strict scan ends at a fault. -/
theorem scanFrom_of_fault (strict : settings.mode = .strict) {fault : Fault}
    (found : (ScanStep.ofRun settings.separator state run rest).finding = .fault fault) :
    scanFrom settings state (run :: rest) = .error (.fault fault) := by
  rw [scanFrom]
  simp only [strict, Finding.fault?_eq_some_iff.mpr found]

/-- A scan that does not end at the first of the runs goes on with those that are left. -/
theorem scanFrom_of_goesOn
    (goesOn : settings.mode = .strict →
      (ScanStep.ofRun settings.separator state run rest).finding.fault? = none) :
    scanFrom settings state (run :: rest) =
      (scanFrom settings
        (state.next (ScanStep.ofRun settings.separator state run rest).finding
          (ScanStep.ofRun settings.separator state run rest).stage)
        (ScanStep.ofRun settings.separator state run rest).rest).map
          ((ScanStep.ofRun settings.separator state run rest).finding.token?.toList ++ ·) := by
  rw [scanFrom]
  split
  · rename_i f strict fault
    rw [goesOn strict] at fault
    cases fault
  · rfl

end Step

/-- Whatever moment a scan has reached, its answer is the tokens read so far and the answer to the
runs still to be read. -/
theorem scanFrom_of_reached {moment : Moment} (reached : Reached settings formula moment) :
    scanFrom settings .initial (Run.list formula) =
      (scanFrom settings moment.state moment.rest).map (moment.emitted ++ ·) := by
  induction reached with
  | first =>
    show _ = (scanFrom settings .initial (Run.list formula)).map ([] ++ ·)
    cases scanFrom settings .initial (Run.list formula) <;> rfl
  | @next emitted state run rest _ goesOn ih =>
    rw [ih]
    show (scanFrom settings state (run :: rest)).map (emitted ++ ·) = _
    rw [scanFrom_of_goesOn goesOn]
    simp only [Moment.next]
    cases scanFrom settings _ (ScanStep.ofRun settings.separator state run rest).rest with
    | error e => rfl
    | ok read => simp [Except.map]

/-- From every moment on a scan reaches its end: a moment at which no run is left, or, if it is strict,
one at which the next run is a fault. -/
theorem exists_reached_end {moment : Moment} (reached : Reached settings formula moment) :
    (∃ read last, Reached settings formula ⟨read, last, []⟩) ∨
      settings.mode = .strict ∧ ∃ emitted state run rest fault,
        Reached settings formula ⟨emitted, state, run :: rest⟩ ∧
          (ScanStep.ofRun settings.separator state run rest).finding = .fault fault := by
  induction size : moment.rest.length using Nat.strongRecOn generalizing moment with
  | ind size ih =>
    obtain ⟨emitted, state, runs⟩ := moment
    cases runs with
    | nil => exact .inl ⟨emitted, state, reached⟩
    | cons run rest =>
      by_cases goesOn : settings.mode = .strict →
        (ScanStep.ofRun settings.separator state run rest).finding.fault? = none
      · -- The step leaves fewer runs, and the end is the one that follows from there.
        refine ih _ ?_ (.next reached goesOn) rfl
        rw [← size]
        exact Nat.lt_succ_of_le (ScanStep.length_rest_ofRun_le settings.separator state run rest)
      · obtain ⟨strict, isFault⟩ := Classical.not_imp.mp goesOn
        obtain ⟨fault, found⟩ := Option.ne_none_iff_exists'.mp isFault
        exact .inr ⟨strict, emitted, state, run, rest, fault, reached,
          Finding.fault?_eq_some_iff.mp found⟩

section Answer

variable {formula : String} (nonempty : formula.toList ≠ [])

include nonempty

/-- A scan that reaches a moment at which no run is left succeeds with the tokens read until then. -/
theorem scan_of_reached_nil {read : List Token} {last : ScanState}
    (reached : Reached settings formula.toList ⟨read, last, []⟩) :
    scan settings formula = .ok read := by
  rw [scan, if_neg nonempty, scanFrom_of_reached reached, scanFrom]
  show Except.ok (read ++ []) = .ok read
  rw [List.append_nil]

/-- A strict scan that reaches a moment at which the next run is a fault reports it. -/
theorem scan_of_reached_fault (strict : settings.mode = .strict) {emitted : List Token}
    {state : ScanState} {run : Run} {rest : List Run} {fault : Fault}
    (reached : Reached settings formula.toList ⟨emitted, state, run :: rest⟩)
    (found : (ScanStep.ofRun settings.separator state run rest).finding = .fault fault) :
    scan settings formula = .error (.fault fault) := by
  rw [scan, if_neg nonempty, scanFrom_of_reached reached]
  show (scanFrom settings state (run :: rest)).map _ = _
  rw [scanFrom_of_fault strict found]
  rfl

/-- A scan of a formula with at least one character succeeds exactly when it reaches a moment at which
no run is left, and gives the tokens read until then. -/
theorem scan_eq_ok_iff_reached {read : List Token} :
    scan settings formula = .ok read ↔
      ∃ last, Reached settings formula.toList ⟨read, last, []⟩ := by
  constructor
  · intro ok
    have start : Reached settings formula.toList (first formula.toList) := .first
    rcases exists_reached_end start with
      ⟨read', last, ended⟩ | ⟨strict, _, _, _, _, fault, reached, found⟩
    · obtain rfl : read' = read :=
        Except.ok.inj ((scan_of_reached_nil nonempty ended).symm.trans ok)
      exact ⟨last, ended⟩
    · cases (scan_of_reached_fault nonempty strict reached found).symm.trans ok
  · rintro ⟨last, reached⟩
    exact scan_of_reached_nil nonempty reached

/-- A scan of a formula with at least one character reports a fault exactly when it is strict and
reaches a moment at which the next run is this fault. -/
theorem scan_eq_error_iff_reached {fault : Fault} :
    scan settings formula = .error (.fault fault) ↔
      settings.mode = .strict ∧ ∃ emitted state run rest,
        Reached settings formula.toList ⟨emitted, state, run :: rest⟩ ∧
          (ScanStep.ofRun settings.separator state run rest).finding = .fault fault := by
  constructor
  · intro failed
    have start : Reached settings formula.toList (first formula.toList) := .first
    rcases exists_reached_end start with
      ⟨read, last, ended⟩ | ⟨strict, emitted, state, run, rest, fault', reached, found⟩
    · cases (scan_of_reached_nil nonempty ended).symm.trans failed
    · obtain rfl : fault' = fault := ScanError.fault.inj (Except.error.inj
        ((scan_of_reached_fault nonempty strict reached found).symm.trans failed))
      exact ⟨strict, emitted, state, run, rest, reached, found⟩
  · rintro ⟨strict, emitted, state, run, rest, reached, found⟩
    exact scan_of_reached_fault nonempty strict reached found

end Answer

end Moment

end FormulaScan
