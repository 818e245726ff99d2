import BlockScript.Blockly.Conversion
import BlockScript.Duration

/-!
# Arguments of the command line

The program takes the path of a workspace and some options, in any order. An option with a value
has it in the same argument (`--indent=4`, `-oscript`) or in the next one, which then must not look
like an option itself. After `--` every argument is a path. No option may come twice, and the
arguments are read from left to right: a request for the version or for help takes effect where it
stands, if nothing before it was wrong.
-/

set_option autoImplicit false

namespace BlockScript.CommandLine

/-! ## What is asked for -/

/-- A compilation that is asked for. -/
structure Invocation where
  /-- The file that holds the workspace. -/
  workspacePath : String
  /-- The file for the script; it goes to standard output where none is named. -/
  outputPath? : Option String
  /-- The format of the workspace. -/
  format : Workspace.Format
  /-- The file that holds options. -/
  configPath? : Option String
  /-- The name of the default action, in place of the one in the options. -/
  actionName? : Option String
  /-- The trigger of the default action, in place of the one in the options. -/
  every? : Option Duration
  /-- The indent width, in place of the one in the options. -/
  indent? : Option Nat
  /-- The outline of the program is shown. -/
  tree : Bool
  /-- The script is read back before it is written. -/
  verify : Bool
  deriving DecidableEq

/-- What a list of arguments asks for. -/
inductive Request where
  /-- A compilation. -/
  | compile (invocation : Invocation)
  /-- The version of the program. -/
  | version
  /-- An explanation of the arguments. -/
  | help
  /-- Nothing; the arguments are wrong. -/
  | misuse
  deriving DecidableEq

/-! ## Options -/

/-- An option with a value. -/
inductive Setting where
  | output
  | format
  | config
  | actionName
  | every
  | indent
  deriving DecidableEq, Repr

/-- An option without a value. -/
inductive Switch where
  | tree
  | verify
  | version
  | help
  deriving DecidableEq, Repr

/-- An option. -/
inductive Opt where
  | setting (setting : Setting)
  | switch (switch : Switch)
  deriving DecidableEq, Repr

/-- The option with a long name. -/
def Opt.ofLongName? (name : String) : Option Opt :=
  match name with
  | "output" => some (.setting .output)
  | "format" => some (.setting .format)
  | "config" => some (.setting .config)
  | "action-name" => some (.setting .actionName)
  | "every" => some (.setting .every)
  | "indent" => some (.setting .indent)
  | "tree" => some (.switch .tree)
  | "verify" => some (.switch .verify)
  | "version" => some (.switch .version)
  | "help" => some (.switch .help)
  | _ => none

/-- The option with a name of one letter. -/
def Opt.ofLetter? (letter : Char) : Option Opt :=
  match letter with
  | 'o' => some (.setting .output)
  | 'f' => some (.setting .format)
  | 'c' => some (.setting .config)
  | 'V' => some (.switch .version)
  | 'h' => some (.switch .help)
  | _ => none

/-! ## Values -/

/-- A path; it cannot be empty. -/
def path? (value : String) : Option String := if value.isEmpty then none else some value

/-- The format with a name. -/
def format? (value : String) : Option Workspace.Format :=
  match value with
  | "blockly" => some .blockly
  | "canonical" => some .canonical
  | _ => none

/-- A natural number of 64 bits in decimal digits, with or without a plus. -/
def width? (value : String) : Option Nat :=
  let digits := match value.toList with
    | '+' :: rest => rest
    | cs => cs
  if digits.isEmpty || ! digits.all Char.isDigit then none
  else
    let number := Nat.ofDigitChars 10 digits 0
    if number < UInt64.size then some number else none

/-- What has been asked for so far. -/
structure Draft where
  /-- The file that holds the workspace. -/
  workspacePath? : Option String := none
  /-- The file for the script. -/
  outputPath? : Option String := none
  /-- The format of the workspace. -/
  format? : Option Workspace.Format := none
  /-- The file that holds options. -/
  configPath? : Option String := none
  /-- The name of the default action. -/
  actionName? : Option String := none
  /-- The trigger of the default action. -/
  every? : Option Duration := none
  /-- The indent width. -/
  indent? : Option Nat := none
  /-- The outline of the program is shown. -/
  tree : Bool := false
  /-- The script is read back before it is written. -/
  verify : Bool := false

namespace Draft

/-- Takes a value for something that has none yet. -/
def once {α : Type} (old new : Option α) : Option α := if old.isSome then none else new

/-- Sets an option with a value; `none` where that is wrong. -/
def set? (draft : Draft) (setting : Setting) (value : String) : Option Draft :=
  match setting with
  | .output => do return { draft with outputPath? := ← once draft.outputPath? (path? value) }
  | .format =>
    do return { draft with format? := ← once draft.format? (CommandLine.format? value) }
  | .config => do return { draft with configPath? := ← once draft.configPath? (path? value) }
  | .actionName => do return { draft with actionName? := ← once draft.actionName? (some value) }
  | .every => do return { draft with every? := ← once draft.every? (Duration.parse value).toOption }
  | .indent => do return { draft with indent? := ← once draft.indent? (width? value) }

/-- Sets the file that holds the workspace; `none` where that is wrong. -/
def setPath? (draft : Draft) (value : String) : Option Draft :=
  do return { draft with workspacePath? := ← once draft.workspacePath? (path? value) }

/-- What is asked for, when no argument is left. -/
def finish (draft : Draft) : Request :=
  match draft.workspacePath? with
  | none => .misuse
  | some path => .compile {
      workspacePath := path
      outputPath? := draft.outputPath?
      format := draft.format?.getD .standard
      configPath? := draft.configPath?
      actionName? := draft.actionName?
      every? := draft.every?
      indent? := draft.indent?
      tree := draft.tree
      verify := draft.verify }

end Draft

/-! ## Reading -/

/-- What an argument looks like. -/
inductive Shape where
  /-- The end of the options. -/
  | endOfOptions
  /-- An option by its long name, with a value after an equals sign where there is one. -/
  | long (name : String) (value? : Option String)
  /-- An option by its letter, with the text after it. -/
  | short (letter : Char) (rest : List Char)
  /-- A value. -/
  | value
  deriving DecidableEq, Repr

/-- What an argument looks like. A single dash is a value. -/
def Shape.of (argument : String) : Shape :=
  match argument.toList with
  | ['-', '-'] => .endOfOptions
  | '-' :: '-' :: cs =>
    let name := String.ofList (cs.takeWhile (· != '='))
    match cs.dropWhile (· != '=') with
    | [] => .long name none
    | _ :: text => .long name (some (String.ofList text))
  | '-' :: letter :: rest => .short letter rest
  | _ => .value

/-- The value in the same argument as the letter of its option. -/
def attached? (rest : List Char) : Option String :=
  match rest with
  | [] => none
  | '=' :: value => some (String.ofList value)
  | _ => some (String.ofList rest)

/-- Reads arguments after the end of the options. -/
def readPaths (draft : Draft) : List String → Request
  | [] => draft.finish
  | argument :: rest =>
    match draft.setPath? argument with
    | none => .misuse
    | some draft => readPaths draft rest

/-- What an argument does to what has been asked for. -/
inductive Effect where
  /-- It settles what is asked for. -/
  | settled (request : Request)
  /-- It says something more. -/
  | more (draft : Draft)
  /-- It is an option whose value is the next argument. -/
  | wants (setting : Setting)
  /-- It ends the options. -/
  | pathsOnly

/-- What an option with a value in the same argument does, or one whose value must still come. -/
def Draft.give (draft : Draft) (setting : Setting) (value? : Option String) : Effect :=
  match value? with
  | none => .wants setting
  | some value =>
    match draft.set? setting value with
    | some draft => .more draft
    | none => .settled .misuse

/-- What an option without a value does. -/
def Draft.turnOn (draft : Draft) (switch : Switch) : Effect :=
  match switch with
  | .tree => if draft.tree then .settled .misuse else .more { draft with tree := true }
  | .verify => if draft.verify then .settled .misuse else .more { draft with verify := true }
  | .version => .settled .version
  | .help => .settled .help

/-- What an argument does. No option without a value can be followed by others in one argument, as
the only such ones with a letter settle what is asked for. -/
def Draft.effect (draft : Draft) (argument : String) : Effect :=
  match Shape.of argument with
  | .endOfOptions => .pathsOnly
  | .long name value? =>
    match Opt.ofLongName? name with
    | none => .settled .misuse
    | some (.setting setting) => draft.give setting value?
    | some (.switch switch) =>
      if value?.isSome then .settled .misuse else draft.turnOn switch
  | .short letter rest =>
    match Opt.ofLetter? letter with
    | none => .settled .misuse
    | some (.setting setting) => draft.give setting (attached? rest)
    | some (.switch switch) => draft.turnOn switch
  | .value =>
    match draft.setPath? argument with
    | some draft => .more draft
    | none => .settled .misuse

/-- Reads arguments after those that asked for `draft`. -/
def readFrom (draft : Draft) : List String → Request
  | [] => draft.finish
  | argument :: rest =>
    match draft.effect argument with
    | .settled request => request
    | .more draft => readFrom draft rest
    | .pathsOnly => readPaths draft rest
    | .wants setting =>
      match rest with
      | [] => .misuse
      | value :: rest =>
        match Shape.of value with
        | .value =>
          match draft.set? setting value with
          | some draft => readFrom draft rest
          | none => .misuse
        | _ => .misuse

/-- What a list of arguments asks for. -/
def read (arguments : List String) : Request := readFrom {} arguments

end BlockScript.CommandLine
