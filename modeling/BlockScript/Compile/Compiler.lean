import BlockScript.Compile.Lowering
import BlockScript.Script.Printer

/-!
# Compilers

A compiler is a configuration: which block types it understands, what becomes of statements outside
every action, and how scripts are indented. `Compiler.lower` makes a program of a workspace and
`Compiler.compile` a script. A program is complete before any of its script is written, so a
compilation gives all of the script or none of it.
-/

set_option autoImplicit false

namespace BlockScript

open Script (IndentWidth Program)

/-- The name and the trigger of the action for statements outside every action. -/
structure DefaultAction where
  /-- The name. -/
  name : String
  /-- How often the action runs. -/
  every : Duration
  deriving DecidableEq

/-- What becomes of statements outside every action where nothing else is asked for. -/
def DefaultAction.standard : DefaultAction := ⟨"MyAction", .standard⟩

/-- The configuration of a compilation. -/
structure Compiler where
  /-- The block types that are understood. -/
  vocabulary : Vocabulary
  /-- What becomes of statements outside every action. -/
  defaultAction : DefaultAction
  /-- How scripts are indented. -/
  indent : IndentWidth
  deriving DecidableEq

namespace Compiler

/-- The compiler for which nothing else is asked. -/
def standard : Compiler := ⟨.standard, .standard, .standard⟩

/-! ## Configuration -/

/-- The compiler with another default action. -/
def withDefaultAction (compiler : Compiler) (name : String) (every : Duration) : Compiler :=
  { compiler with defaultAction := ⟨name, every⟩ }

/-- The compiler with a further name for a kind of blocks. -/
def withAlias (compiler : Compiler) (name kindName : String) : Compiler :=
  { compiler with vocabulary := compiler.vocabulary.addAlias name kindName }

/-- The compiler with the permitted indent width nearest to a number. -/
def withIndent (compiler : Compiler) (spaces : Nat) : Compiler :=
  { compiler with indent := .clamp spaces }

/-! ## Compilation -/

/-- The program for which a workspace stands. -/
def lower (compiler : Compiler) (workspace : Workspace) : Except Compile.Error Program :=
  Lowering.program compiler.vocabulary compiler.defaultAction.name compiler.defaultAction.every
    workspace

/-- The script of a program. -/
def render (compiler : Compiler) (program : Program) : String := program.render compiler.indent

/-- The script of a workspace. -/
def compile (compiler : Compiler) (workspace : Workspace) : Except Compile.Error String :=
  (compiler.lower workspace).map compiler.render

end Compiler

end BlockScript
