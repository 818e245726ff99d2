import BlockScript.CommandLine.FileSystem
import BlockScript.CommandLine.Run

/-!
# Runs

A whole run of the program as a function: from the files and a list of arguments to what is shown,
the exit code and the files afterwards.
-/

set_option autoImplicit false

namespace BlockScript.CommandLine

variable {State : Type}

/-- What a run comes to. -/
structure Result (State : Type) where
  /-- The exit code. -/
  exitCode : Nat
  /-- The text on standard output. -/
  stdout : String
  /-- The text on standard error. -/
  stderr : String
  /-- The files after the run. -/
  files : State

variable [FileSystem State]

/-- Carries out a compilation. -/
def Invocation.run (invocation : Invocation) (files : State) : Result State :=
  let outcome := invocation.outcome (FileSystem.read files)
  match outcome.result with
  | .error failure => ⟨1, "", outcome.notes ++ failure.report, files⟩
  | .ok delivery =>
    match delivery.target? with
    | none => ⟨0, delivery.code, outcome.notes, files⟩
    | some path =>
      match FileSystem.write files path delivery.code with
      | .error reason =>
        ⟨1, "", outcome.notes ++ (Failure.outputFile path reason).report, files⟩
      | .ok files => ⟨0, "", outcome.notes ++ delivery.notice path, files⟩

/-- Runs the program. -/
def run (arguments : List String) (files : State) : Result State :=
  match read arguments with
  | .version => ⟨0, versionText, "", files⟩
  | .help => ⟨0, helpText, "", files⟩
  | .misuse => ⟨2, "", misuseText, files⟩
  | .compile invocation => invocation.run files

end BlockScript.CommandLine
