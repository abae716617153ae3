import FormulaScan.Locale
import FormulaScan.Operator
import FormulaScan.Text.Blank
import FormulaScan.Text.Control
import FormulaScan.Text.Quoted

/-!
# Settings of a scan

The decimal separator and what to do with text that has no meaning. A separator must not be a
character that already means something in a formula, so the settings carry the proof that theirs is
admissible. Settings are changed in steps; a step that fails leaves them as they were.
-/

namespace FormulaScan

/-- What a scan does with text that has no meaning: leave it out, or report it. -/
inductive Mode where
  | lenient
  | strict
  deriving DecidableEq, Repr

/-- Tells whether a character can be the decimal separator: it is no ASCII letter or digit, no
blank, no control character, no bracket and no operator. -/
def isSeparator (c : Char) : Bool :=
  !(c.isAlphanum || Text.isBlank c || Text.isControl c || c == '(' || c == ')' ||
    (Operator.ofSymbol? c).isSome)

/-- The settings of a scan; by default a point is the separator and faults are left out. -/
structure Settings where
  separator : Char := '.'
  mode : Mode := .lenient
  isSeparator_separator : isSeparator separator = true := by decide
  deriving DecidableEq, Repr

/-- Why settings could not be made. -/
inductive SettingsError where
  | inadmissibleSeparator (separator : Char)
  | unknownLocale (tag : String)
  deriving DecidableEq, Repr

/-- The message that reports why settings could not be made. -/
def SettingsError.message : SettingsError → String
  | .inadmissibleSeparator separator =>
    "Error: " ++ Text.quoted separator ++ " cannot be used as a decimal separator."
  | .unknownLocale tag =>
    "Error: No decimal separator is known for locale '" ++ tag ++ "'."

namespace Settings

/-- The settings to begin with. -/
def default : Settings := {}

instance : Inhabited Settings := ⟨default⟩

/-- The same settings with another separator. -/
def withSeparator (settings : Settings) (separator : Char) : Except SettingsError Settings :=
  if h : isSeparator separator = true then
    .ok { settings with separator, isSeparator_separator := h }
  else .error (.inadmissibleSeparator separator)

/-- The same settings with another mode. -/
def withMode (settings : Settings) (mode : Mode) : Settings := { settings with mode }

@[simp] theorem mode_withMode (settings : Settings) (mode : Mode) :
    (settings.withMode mode).mode = mode := rfl

@[simp] theorem separator_withMode (settings : Settings) (mode : Mode) :
    (settings.withMode mode).separator = settings.separator := rfl

/-- The lenient settings of a locale. -/
def ofLocale (tag : String) : Except SettingsError Settings :=
  match Locale.separator? tag with
  | some separator => default.withSeparator separator
  | none => .error (.unknownLocale tag)

/-! ## Changes -/

/-- One step of changing settings. -/
inductive Change where
  | reset
  | locale (tag : String)
  | separator (separator : Char)
  | mode (mode : Mode)
  deriving DecidableEq, Repr

/-- The settings after a change: a locale replaces them as a whole, mode included. -/
def change (settings : Settings) : Change → Except SettingsError Settings
  | .reset => .ok default
  | .locale tag => ofLocale tag
  | .separator separator => settings.withSeparator separator
  | .mode mode => .ok (settings.withMode mode)

/-- The settings after a change that is ignored if it fails. -/
def attempt (settings : Settings) (step : Change) : Settings :=
  match settings.change step with
  | .ok changed => changed
  | .error _ => settings

/-- The settings after some changes, those that fail being ignored. -/
def after (settings : Settings) (steps : List Change) : Settings := steps.foldl attempt settings

/-- Admissible separators are taken and the others are refused. -/
theorem withSeparator_isOk_iff {settings : Settings} {separator : Char} :
    (settings.withSeparator separator).isOk = true ↔ isSeparator separator = true := by
  unfold withSeparator
  split <;> simp_all [Except.isOk, Except.toBool]

/-- A new separator leaves the mode as it is. -/
theorem mode_withSeparator {settings changed : Settings} {separator : Char}
    (h : settings.withSeparator separator = .ok changed) : changed.mode = settings.mode := by
  unfold withSeparator at h
  split at h
  · cases h
    rfl
  · cases h

end Settings

end FormulaScan
