import FormulaScan.Proofs.Run.MaximalPartition

/-!
# Settings after some changes

Whatever changes the default settings have gone through, and whether these succeeded or failed, the
separator is a run of its own wherever it stands in a text, and the mode is the one that the last
successful change of the mode has set (`mode_after`). `after_default_unambiguous` gathers this.
-/

namespace FormulaScan.Settings

/-- Tells whether a change sets the mode: all do but that of the separator. -/
def Change.setsMode : Change → Bool
  | .reset | .locale _ | .mode _ => true
  | .separator _ => false

/-- The mode that a change sets, if it sets one: only a change of the mode itself can make it
strict. -/
def Change.modeGiven : Change → Mode
  | .mode given => given
  | .reset | .locale _ | .separator _ => .lenient

/-- The changes that set the mode and succeed, among some changes in a row. -/
def modeChanges (settings : Settings) : List Change → List Change
  | [] => []
  | step :: steps =>
    if step.setsMode && (settings.change step).isOk then
      step :: (settings.attempt step).modeChanges steps
    else (settings.attempt step).modeChanges steps

/-- Both separators that locales ask for are admissible. -/
theorem isSeparator_of_separator? {tag : String} {separator : Char}
    (known : Locale.separator? tag = some separator) : isSeparator separator = true := by
  unfold Locale.separator? Locale.languageSeparator? at known
  split at known
  · rw [← Option.some.inj known]
    decide
  · split at known
    · rw [← Option.some.inj known]
      decide
    · cases known

/-- The settings of a locale are made exactly when its separator is known. -/
theorem ofLocale_eq (tag : String) :
    (∃ settings, ofLocale tag = .ok settings ∧ settings.mode = .lenient ∧
        Locale.separator? tag = some settings.separator) ∨
      (ofLocale tag = .error (.unknownLocale tag) ∧ Locale.separator? tag = none) := by
  unfold ofLocale
  cases known : Locale.separator? tag with
  | none => exact .inr ⟨rfl, rfl⟩
  | some separator =>
    refine .inl ⟨_, dif_pos (isSeparator_of_separator? known), rfl, rfl⟩

/-- A change that succeeds sets the mode that it gives, or leaves the mode as it is. -/
theorem mode_of_change {settings changed : Settings} {step : Change}
    (ok : settings.change step = .ok changed) :
    changed.mode = if step.setsMode then step.modeGiven else settings.mode := by
  cases step with
  | reset =>
    cases ok
    rfl
  | locale tag =>
    obtain ⟨made, isMade, lenient, -⟩ | ⟨failed, -⟩ := ofLocale_eq tag
    · have same : made = changed := Except.ok.inj (isMade.symm.trans ok)
      rw [← same]
      exact lenient
    · cases failed.symm.trans ok
  | separator separator => exact mode_withSeparator ok
  | mode mode =>
    cases ok
    rfl

/-- A change that is attempted sets the mode if it succeeds and is meant to. -/
theorem mode_attempt (settings : Settings) (step : Change) :
    (settings.attempt step).mode =
      if step.setsMode && (settings.change step).isOk then step.modeGiven else settings.mode := by
  unfold attempt
  cases outcome : settings.change step with
  | ok changed => simp [mode_of_change outcome, Except.isOk, Except.toBool]
  | error e => simp [Except.isOk, Except.toBool]

/-- The mode after some changes is the one that the last successful change of the mode has set. -/
theorem mode_after (settings : Settings) (steps : List Change) :
    (settings.after steps).mode =
      ((settings.modeChanges steps).getLast?.map Change.modeGiven).getD settings.mode := by
  induction steps generalizing settings with
  | nil => rfl
  | cons step steps ih =>
    show ((settings.attempt step).after steps).mode = _
    rw [ih, mode_attempt, modeChanges]
    -- A later change that sets the mode counts, whatever this one does.
    split
    · rw [List.getLast?_cons]
      cases ((settings.attempt step).modeChanges steps).getLast? <;> rfl
    · rfl

/-- Only the change that sets the strict mode gives it. -/
theorem modeGiven_eq_strict_iff {step : Change} :
    step.modeGiven = .strict ↔ step = .mode .strict := by
  cases step <;> simp [Change.modeGiven]

/-- A character that is no control character is an admissible separator exactly when it is a run of
another kind by itself. -/
theorem isSeparator_iff_list {c : Char} (visible : Text.isControl c = false) :
    isSeparator c = true ↔ Run.list [c] = [⟨.other c, [c], 0⟩] := by
  have alone : Run.list [c] = [⟨.ofFirst c, [c], 0⟩] := by
    rw [Run.list, Run.listFrom_cons]
    simp
  rw [alone, isSeparator_iff]
  constructor
  · intro admissible
    rw [Run.Kind.ofFirst_separator (isSeparator_iff.mpr admissible)]
  · intro same
    have kind : Run.Kind.ofFirst c = .other c := by simpa using same
    rw [Run.Kind.ofFirst_eq_iff] at kind
    simp_all [Run.Kind.admits]

/-- After any changes of the default settings, those that fail being ignored, every place where the
separator stands in a text is a run of its own, and no other run has the separator in it. A new
separator is taken exactly when it is a run of another kind by itself, and control characters are
refused. The mode is strict exactly when the last successful change of the mode made it so; no
change of the separator touches it. The settings of a locale fail only because the locale is
unknown. -/
theorem after_default_unambiguous (steps : List Change) :
    let reached := Settings.default.after steps
    (∀ front behind, ⟨.other reached.separator, [reached.separator], front.length⟩ ∈
        Run.list (front ++ reached.separator :: behind)) ∧
      (∀ text, ∀ run ∈ Run.list text, reached.separator ∈ run.text →
        run.kind = .other reached.separator ∧ run.text = [reached.separator]) ∧
      (∀ c, Text.isControl c = false →
        ((reached.withSeparator c).isOk = true ↔ Run.list [c] = [⟨.other c, [c], 0⟩])) ∧
      (∀ c, Text.isControl c = true →
        reached.withSeparator c = .error (.inadmissibleSeparator c)) ∧
      (reached.mode = .strict ↔
        (Settings.default.modeChanges steps).getLast? = some (.mode .strict)) ∧
      (∀ c, (reached.attempt (.separator c)).mode = reached.mode) ∧
      ∀ tag e, ofLocale tag = .error e → e = .unknownLocale tag := by
  intro reached
  refine ⟨?_, ?_, ?_, ?_, ?_, ?_, ?_⟩
  · intro front behind
    exact Run.mem_list_separator reached.isSeparator_separator front behind
  · intro text run member inside
    exact Run.Kind.eq_of_admits_separator reached.isSeparator_separator
      (Run.admits_of_mem_list member) inside
  · intro c visible
    rw [withSeparator_isOk_iff, isSeparator_iff_list visible]
  · intro c control
    have inadmissible : ¬ isSeparator c = true := by
      rw [isSeparator_iff]
      simp [control]
    exact dif_neg inadmissible
  · show (Settings.default.after steps).mode = .strict ↔ _
    rw [mode_after]
    cases last : (Settings.default.modeChanges steps).getLast? with
    | none => exact iff_of_false (by decide) (by simp)
    | some step =>
      rw [Option.map_some, Option.getD_some, modeGiven_eq_strict_iff, Option.some.injEq]
  · intro c
    exact mode_attempt reached (.separator c)
  · intro tag e failed
    obtain ⟨made, isMade, -⟩ | ⟨unknown, -⟩ := ofLocale_eq tag
    · cases isMade.symm.trans failed
    · exact Except.error.inj (failed.symm.trans unknown)

end FormulaScan.Settings
