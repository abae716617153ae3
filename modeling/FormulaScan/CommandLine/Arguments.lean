/-!
# Command line arguments

How a list of arguments is read. An argument is an option, the end of the options, or the
contents. Options have a long name, `--name`, and a letter; letters can be joined behind one dash.
The value of an option is attached to it (`--name=value`, `-nvalue`, `-n=value`) or is the next
argument, if that does not look like an option. Each option is given at most once, and there is
one contents argument.

A request for the version or for help is answered when it is met, so only the mistakes before it
count.
-/

namespace FormulaScan.CommandLine

/-- An option without a value. -/
inductive Flag where
  | file
  | strict
  | version
  | help
  deriving DecidableEq, Repr

/-- An option with a value. -/
inductive Setting where
  | locale
  | separator
  deriving DecidableEq, Repr

/-- An option of either sort. -/
inductive Switch where
  | flag (flag : Flag)
  | setting (setting : Setting)
  deriving DecidableEq, Repr

/-- Why reading arguments ends without an invocation. -/
inductive Halt where
  | usage
  | version
  | help
  deriving DecidableEq, Repr

/-- The option with a given long name. -/
def Switch.ofName? (name : List Char) : Option Switch :=
  if name = "file".toList then some (.flag .file)
  else if name = "strict".toList then some (.flag .strict)
  else if name = "locale".toList then some (.setting .locale)
  else if name = "decimal-separator".toList then some (.setting .separator)
  else if name = "version".toList then some (.flag .version)
  else if name = "help".toList then some (.flag .help)
  else none

/-- The option with a given letter. -/
def Switch.ofLetter? : Char → Option Switch
  | 'f' => some (.flag .file)
  | 's' => some (.flag .strict)
  | 'l' => some (.setting .locale)
  | 'd' => some (.setting .separator)
  | 'V' => some (.flag .version)
  | 'h' => some (.flag .help)
  | _ => none

/-! ## What has been given -/

/-- What the arguments read so far have given. -/
structure Given where
  fromFile : Bool := false
  strict : Bool := false
  locale : Option String := none
  separator : Option Char := none
  contents : Option String := none
  deriving DecidableEq, Repr

namespace Given

/-- Takes a flag; giving it twice is a mistake. -/
def takeFlag (given : Given) : Flag → Except Halt Given
  | .file => if given.fromFile then .error .usage else .ok { given with fromFile := true }
  | .strict => if given.strict then .error .usage else .ok { given with strict := true }
  | .version => .error .version
  | .help => .error .help

/-- Takes the value of an option; a separator is a single character. -/
def takeValue (given : Given) (value : List Char) : Setting → Except Halt Given
  | .locale =>
    match given.locale with
    | none => .ok { given with locale := some (String.ofList value) }
    | some _ => .error .usage
  | .separator =>
    match given.separator, value with
    | none, [c] => .ok { given with separator := some c }
    | _, _ => .error .usage

/-- Takes the contents; a second one is a mistake. -/
def takeContents (given : Given) (contents : String) : Except Halt Given :=
  match given.contents with
  | none => .ok { given with contents := some contents }
  | some _ => .error .usage

end Given

/-! ## Single arguments -/

/-- What an argument looks like. -/
inductive Shape where
  | contents
  | endOfOptions
  | long (name : List Char) (value : Option (List Char))
  | letters (letters : List Char)
  deriving DecidableEq, Repr

/-- The shape of an argument; a single dash is no option. -/
def Shape.ofArgument : List Char → Shape
  | ['-', '-'] => .endOfOptions
  | '-' :: '-' :: option =>
    match option.dropWhile (· != '=') with
    | [] => .long option none
    | _ :: value => .long (option.takeWhile (· != '=')) (some value)
  | '-' :: first :: more => .letters (first :: more)
  | _ => .contents

/-- What is left to do after an argument: nothing, or finding the value of an option. -/
inductive Pending where
  | nothing
  | value (setting : Setting)
  deriving DecidableEq, Repr

/-- Takes the letters behind one dash. A letter whose option has a value takes in the letters behind
it, less an equality sign at their front; if there are none, the value is still to come. -/
def takeLetters (given : Given) : List Char → Except Halt (Given × Pending)
  | [] => .ok (given, .nothing)
  | letter :: letters =>
    match Switch.ofLetter? letter with
    | none => .error .usage
    | some (.flag flag) =>
      match given.takeFlag flag with
      | .error halt => .error halt
      | .ok given => takeLetters given letters
    | some (.setting setting) =>
      match letters with
      | [] => .ok (given, .value setting)
      | c :: value =>
        (given.takeValue (if c = '=' then value else c :: value) setting).map (·, .nothing)

/-- Takes a long option with the value that is attached to it. -/
def takeLong (given : Given) (name : List Char) (value : Option (List Char)) :
    Except Halt (Given × Pending) :=
  match Switch.ofName? name, value with
  | some (.flag flag), none => (given.takeFlag flag).map (·, .nothing)
  | some (.setting setting), some value => (given.takeValue value setting).map (·, .nothing)
  | some (.setting setting), none => .ok (given, .value setting)
  | some (.flag _), some _ => .error .usage
  | none, _ => .error .usage

/-! ## All arguments -/

/-- Takes the arguments behind the end of the options, which are contents whatever they look like.
-/
def takeRest (given : Given) : List String → Except Halt Given
  | [] => .ok given
  | argument :: rest =>
    match given.takeContents argument with
    | .error halt => .error halt
    | .ok given => takeRest given rest

/-- Takes arguments one after the other. -/
def takeArguments (given : Given) : Pending → List String → Except Halt Given
  | .nothing, [] => .ok given
  | .value _, [] => .error .usage
  | .value setting, argument :: rest =>
    match Shape.ofArgument argument.toList with
    | .contents =>
      match given.takeValue argument.toList setting with
      | .error halt => .error halt
      | .ok given => takeArguments given .nothing rest
    | _ => .error .usage
  | .nothing, argument :: rest =>
    match Shape.ofArgument argument.toList with
    | .endOfOptions => takeRest given rest
    | .contents =>
      match given.takeContents argument with
      | .error halt => .error halt
      | .ok given => takeArguments given .nothing rest
    | .long name value =>
      match takeLong given name value with
      | .error halt => .error halt
      | .ok (given, pending) => takeArguments given pending rest
    | .letters letters =>
      match takeLetters given letters with
      | .error halt => .error halt
      | .ok (given, pending) => takeArguments given pending rest

/-- How the decimal separator was chosen. -/
inductive SeparatorChoice where
  | standard
  | locale (tag : String)
  | character (separator : Char)
  deriving DecidableEq, Repr

/-- What the program is asked to do. -/
structure Invocation where
  contents : String
  fromFile : Bool
  strict : Bool
  separator : SeparatorChoice
  deriving DecidableEq, Repr

/-- The invocation that complete arguments make: there are contents, and the separator is not chosen
twice. -/
def Given.invocation (given : Given) : Except Halt Invocation :=
  match given.contents, given.locale, given.separator with
  | none, _, _ => .error .usage
  | some _, some _, some _ => .error .usage
  | some contents, some tag, none =>
    .ok ⟨contents, given.fromFile, given.strict, .locale tag⟩
  | some contents, none, some c =>
    .ok ⟨contents, given.fromFile, given.strict, .character c⟩
  | some contents, none, none =>
    .ok ⟨contents, given.fromFile, given.strict, .standard⟩

/-- Reads the arguments of the program. -/
def Invocation.ofArguments (arguments : List String) : Except Halt Invocation :=
  match takeArguments {} .nothing arguments with
  | .error halt => .error halt
  | .ok given => given.invocation

/-- Joined letters with an attached value, a negative formula behind the end of the options, the
same formula without it, and a request for the version after which nothing matters. -/
example :
    Invocation.ofArguments ["-sd=,", "1,5"] = .ok ⟨"1,5", false, true, .character ','⟩ ∧
      Invocation.ofArguments ["--", "-3"] = .ok ⟨"-3", false, false, .standard⟩ ∧
      Invocation.ofArguments ["-3"] = .error .usage ∧
      Invocation.ofArguments ["1", "-V", "2"] = .error .version := by
  refine ⟨?_, ?_, ?_, ?_⟩ <;> cbv

end FormulaScan.CommandLine
