import BlockScript.CommandLine.Execution

/-!
# The program

Carries out on the disk what `CommandLine.Invocation.outcome` says of the files that it reads.
-/

set_option autoImplicit false

namespace BlockScript.CommandLine

/-- The number by which the operating system knows a failure, which may come with its sign
changed. -/
def ioNumber? : IO.Error → Option Nat
  | .noFileOrDirectory _ code _ | .inappropriateType _ code _ | .invalidArgument _ code _ =>
    some (min code.toNat (-code).toNat)
  | _ => none

/-- The wording of a failure to read or write a file. A failure that the operating system does not
know is that the content is no text. -/
def ioReason (error : IO.Error) : String :=
  match error with
  | .userError _ => "stream did not contain valid UTF-8"
  | error =>
    match (ioNumber? error).bind FileError.ofNumber? with
    | some reason => reason.message
    | none => toString error

/-- The content of a file, or why there is none. -/
def readInput (path : String) : IO (String × Except String String) := do
  try return (path, .ok (← IO.FS.readFile path))
  catch error => return (path, .error (ioReason error))

/-- Carries out a compilation on the disk, and gives the exit code. -/
def Invocation.execute (invocation : Invocation) : IO UInt32 := do
  let inputs ← invocation.inputs.mapM readInput
  let outcome := invocation.outcome fun path =>
    (inputs.lookup path).getD (.error FileError.notFound.message)
  IO.eprint outcome.notes
  match outcome.result with
  | .error failure =>
    IO.eprint failure.report
    return 1
  | .ok delivery =>
    match delivery.target? with
    | none =>
      IO.print delivery.code
      return 0
    | some path =>
      try
        IO.FS.writeFile path delivery.code
        IO.eprint (delivery.notice path)
        return 0
      catch error =>
        IO.eprint (Failure.outputFile path (ioReason error)).report
        return 1

end BlockScript.CommandLine

/-- The program: reads its arguments and does what they ask for. -/
def main (arguments : List String) : IO UInt32 := do
  match BlockScript.CommandLine.read arguments with
  | .version =>
    IO.print BlockScript.CommandLine.versionText
    return 0
  | .help =>
    IO.print BlockScript.CommandLine.helpText
    return 0
  | .misuse =>
    IO.eprint BlockScript.CommandLine.misuseText
    return 2
  | .compile invocation => invocation.execute
