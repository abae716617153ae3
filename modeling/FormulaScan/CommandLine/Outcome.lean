import FormulaScan.CommandLine.Arguments
import FormulaScan.Scan

/-!
# Outcome of an invocation

What the program writes and how it ends. The settings are made first, then the text is taken from
the argument or from the file that it names, and then the text without the line breaks at its end
is scanned; the first of these stages that fails is reported on the error stream, in one line. The
output has one line for each token.

Arguments that make no invocation are answered by the reader of arguments. An outcome tells which
notice it writes then (`Notice`); the wording of the notices is its own.
-/

namespace FormulaScan.CommandLine

/-- What the reader of arguments writes by itself: why it refuses the arguments, on the error
stream, or what the options do, on the output stream. -/
inductive Notice where
  | usage
  | help
  deriving DecidableEq, Repr

/-- What the program leaves behind: its exit code, the text on its two output streams, and the
notice that is written besides this text. -/
structure Outcome where
  code : Nat
  stdout : String
  stderr : String
  notice : Option Notice
  deriving DecidableEq, Repr

/-- The bytes of the files that exist, by name. -/
abbrev Files := String → Option ByteArray

/-- Why an invocation fails. -/
inductive Failure where
  | settings (error : SettingsError)
  | unreadable (name : String)
  | scan (error : ScanError)
  deriving DecidableEq, Repr

/-- The message that reports a failure. -/
def Failure.message : Failure → String
  | .settings error => error.message
  | .unreadable name =>
    "Failed to read the input file '" ++ name ++ "'. Perhaps this file does not exist?"
  | .scan error => error.message

/-- A text without the carriage returns and line feeds at its end. -/
def trimLineBreaks (text : String) : String :=
  String.ofList (text.toList.reverse.dropWhile fun c => c == '\r' || c == '\n').reverse

namespace Invocation

/-- The settings that an invocation asks for. -/
def settings (invocation : Invocation) : Except SettingsError Settings :=
  let chosen : Except SettingsError Settings :=
    match invocation.separator with
    | .standard => .ok Settings.default
    | .locale tag => Settings.ofLocale tag
    | .character separator => Settings.default.withSeparator separator
  chosen.map (·.withMode (if invocation.strict then .strict else .lenient))

/-- The text that an invocation names: its contents, or the file with that name if it exists and
holds valid UTF-8. -/
def text? (invocation : Invocation) (files : Files) : Option String :=
  if invocation.fromFile then
    match files invocation.contents with
    | some bytes => String.fromUTF8? bytes
    | none => none
  else some invocation.contents

/-- The tokens that an invocation finds. -/
def tokens (invocation : Invocation) (files : Files) : Except Failure (List Token) :=
  match invocation.settings with
  | .error error => .error (.settings error)
  | .ok settings =>
    match invocation.text? files with
    | none => .error (.unreadable invocation.contents)
    | some text =>
      match scan settings (trimLineBreaks text) with
      | .error error => .error (.scan error)
      | .ok tokens => .ok tokens

/-- What an invocation leaves behind. -/
def outcome (invocation : Invocation) (files : Files) : Outcome :=
  match invocation.tokens files with
  | .ok tokens => ⟨0, String.join (tokens.map fun token => token.text ++ "\n"), "", none⟩
  | .error failure => ⟨1, "", failure.message ++ "\n", none⟩

end Invocation

/-- The name and the version of the program, in one line. -/
def versionText : String := "formulex 0.1.0\n"

/-- What the program leaves behind when its arguments make no invocation. -/
def Halt.outcome : Halt → Outcome
  | .usage => ⟨2, "", "", some .usage⟩
  | .version => ⟨0, versionText, "", none⟩
  | .help => ⟨0, "", "", some .help⟩

/-- What the program leaves behind for given arguments. -/
def outcome (arguments : List String) (files : Files) : Outcome :=
  match Invocation.ofArguments arguments with
  | .error halt => halt.outcome
  | .ok invocation => invocation.outcome files

end FormulaScan.CommandLine
