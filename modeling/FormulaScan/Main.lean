import FormulaScan.CommandLine.Outcome

/-!
# The program

Reads the file that the arguments name, if they name one, and writes what
`FormulaScan.CommandLine.outcome` leaves behind. The wording of a notice may depend on the arguments
that it answers.
-/

namespace FormulaScan.CommandLine

/-- The bytes of a file, if it can be read. -/
def readFile? (name : String) : IO (Option ByteArray) := do
  try
    return some (← IO.FS.readBinFile name)
  catch _ =>
    return none

/-- Runs the program, with the words in which a notice answers the arguments, and returns its exit
code. -/
def run (wording : Notice → List String → String) (arguments : List String) : IO UInt32 := do
  let bytes ←
    match Invocation.ofArguments arguments with
    | .ok invocation =>
      if invocation.fromFile then readFile? invocation.contents else pure none
    | .error _ => pure none
  let result := outcome arguments fun _ => bytes
  IO.print result.stdout
  IO.eprint result.stderr
  match result.notice with
  | some .usage => IO.eprint (wording .usage arguments)
  | some .help => IO.print (wording .help arguments)
  | none => pure ()
  return UInt32.ofNat result.code

end FormulaScan.CommandLine
