import BlockScript.CommandLine.Arguments
import BlockScript.Compile.Options
import BlockScript.Script.Outline
import BlockScript.Script.Reader

/-!
# A run of the program

What a compilation that is asked for comes to, given the files that it reads: either a failure, or
a script and the place where it goes. Nothing is delivered before everything else has succeeded, so
a run that fails has written nothing.
-/

set_option autoImplicit false

namespace BlockScript.CommandLine

open Script (Program ReadError)

/-! ## Failures -/

/-- The reasons for which a run fails. -/
inductive Failure where
  /-- The options file cannot be read from the disk. -/
  | configFile (path reason : String)
  /-- The options file holds no options. -/
  | configText (path : String) (fault : Json.Fault)
  /-- The options cannot be used. -/
  | configuration (error : Compile.Error)
  /-- The workspace file cannot be read from the disk. -/
  | workspaceFile (path reason : String)
  /-- The workspace file holds no workspace. -/
  | workspaceText (error : Compile.Error)
  /-- The workspace cannot be compiled. -/
  | compilation (error : Compile.Error)
  /-- The script cannot be read back. -/
  | unreadable (error : ReadError)
  /-- The script reads back as another program. -/
  | different
  /-- The script cannot be written to the disk. -/
  | outputFile (path reason : String)
  deriving DecidableEq, Repr

/-- The wording of a failure. -/
def Failure.message : Failure → String
  | configFile path reason => s!"Failed to read config '{path}': {reason}"
  | configText path fault => s!"Failed to parse config '{path}': {fault.message}"
  | configuration error => s!"Invalid configuration: {error.message}"
  | workspaceFile path reason => s!"Failed to read workspace '{path}': {reason}"
  | workspaceText error => s!"Failed to load workspace: {error.message}"
  | compilation error => s!"Compilation failed: {error.message}"
  | unreadable error => s!"Generated text does not parse: {error.message}"
  | different => "Generated text does not read back as the compiled program"
  | outputFile path reason => s!"Failed to write '{path}': {reason}"

/-- A failure as it is reported. -/
def Failure.report (failure : Failure) : String := s!"\nError: {failure.message}\n"

/-! ## Options and workspace -/

/-- The content of a file, or why there is none. -/
abbrev Files := String → Except String String

namespace Invocation

/-- The options of the options file, or the standard ones where none is named. -/
def readOptions (invocation : Invocation) (files : Files) : Except Failure Options :=
  match invocation.configPath? with
  | none => .ok .standard
  | some path =>
    match files path with
    | .error reason => .error (.configFile path reason)
    | .ok text => (Options.ofJson text).mapError (.configText path)

/-- The options with what the arguments say in place of what the file says. -/
def override (invocation : Invocation) (options : Options) : Options :=
  { options with
    defaultActionName := invocation.actionName?.getD options.defaultActionName
    defaultTrigger := invocation.every?.getD options.defaultTrigger
    indentWidth := invocation.indent?.getD options.indentWidth }

/-- The compiler that is asked for. -/
def compiler (invocation : Invocation) (files : Files) : Except Failure Compiler := do
  let options ← invocation.readOptions files
  (Compiler.ofOptions (invocation.override options)).mapError .configuration

/-- The workspace that is asked for. -/
def workspace (invocation : Invocation) (files : Files) : Except Failure Workspace :=
  match files invocation.workspacePath with
  | .error reason => .error (.workspaceFile invocation.workspacePath reason)
  | .ok text => (Workspace.load invocation.format text).mapError .workspaceText

end Invocation

/-! ## The run -/

/-- A script that is ready to be delivered. -/
structure Delivery where
  /-- The script. -/
  code : String
  /-- The number of actions in the script. -/
  actionCount : Nat
  /-- The file for the script; it goes to standard output where none is named. -/
  target? : Option String
  deriving DecidableEq

/-- Reads a script back and compares it with its program. -/
def verified (width : Nat) (code : String) (program : Program) : Except Failure Unit :=
  match Program.parse width code with
  | .error error => .error (.unreadable error)
  | .ok reread => if reread = program then .ok () else .error .different

/-- What has been shown when a run ends, and what it comes to. -/
structure Outcome where
  /-- What has been shown. -/
  notes : String
  /-- The script, or why there is none. -/
  result : Except Failure Delivery

/-- The files that a compilation reads. -/
def Invocation.inputs (invocation : Invocation) : List String :=
  invocation.configPath?.toList ++ [invocation.workspacePath]

/-- What a compilation comes to. -/
def Invocation.outcome (invocation : Invocation) (files : Files) : Outcome :=
  let prepared : Except Failure (Compiler × Program) := do
    let compiler ← invocation.compiler files
    let workspace ← invocation.workspace files
    let program ← (compiler.lower workspace).mapError .compilation
    return (compiler, program)
  match prepared with
  | .error failure => ⟨"", .error failure⟩
  | .ok (compiler, program) =>
    let code := compiler.render program
    let notes := if invocation.tree then program.outline else ""
    let check :=
      if invocation.verify then verified compiler.indent.spaces code program else .ok ()
    ⟨notes, check.map fun _ => ⟨code, program.actions.length, invocation.outputPath?⟩⟩

/-- What is shown when a script has been written to a file. -/
def Delivery.notice (delivery : Delivery) (path : String) : String :=
  s!"Wrote {delivery.actionCount} action(s), {delivery.code.utf8ByteSize} bytes to '{path}'\n"

/-- The version of the program. -/
def versionText : String := "lotflux 0.1.0\n"

/-- The explanation of the arguments. -/
def helpText : String :=
  String.intercalate "\n" [
    "Compiles saved block workspaces to scripts of timed actions.",
    "",
    "Usage: [OPTIONS] <WORKSPACE>",
    "",
    "Options:",
    "  -o, --output <FILE>       write the script to a file",
    "  -f, --format <FORMAT>     blockly (the default) or canonical",
    "  -c, --config <FILE>       read options from a file",
    "      --action-name <NAME>  name of the default action",
    "      --every <INTERVAL>    trigger of the default action",
    "      --indent <SPACES>     spaces for a level of nesting",
    "      --tree                show the outline of the program",
    "      --verify              read the script back before it is written",
    "  -h, --help                explain the arguments",
    "  -V, --version             show the version",
    ""]

/-- What is shown when the arguments are wrong. -/
def misuseText : String := "error: the arguments are wrong; --help explains them\n"

end BlockScript.CommandLine
