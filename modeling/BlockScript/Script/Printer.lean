import BlockScript.Script.Keyword
import BlockScript.Script.Line
import BlockScript.Script.Literal
import BlockScript.Script.Program

/-!
# Writing scripts

A program is written as lines (`Action.lines`, `Statement.lines`), and the lines are laid out.
The header of an action and its statements lie at depth zero; the branches of a conditional lie
one level below its `IF` and `ELSE`. One empty line separates two actions.
-/

set_option autoImplicit false

namespace BlockScript.Script

/-! ## Lines -/

/-- The line that opens an action. -/
def Action.header (action : Action) : List Char :=
  "DEFINE ACTION ".toList ++ action.name.toList ++ " ON EVERY ".toList ++
    action.every.text.toList ++ " DO".toList

/-- The line that opens a conditional. -/
def ifLine (condition : String) : List Char :=
  "IF ".toList ++ condition.toList ++ " THEN".toList

/-- The line of a publishing statement. -/
def publishLine (topic payload : String) : List Char :=
  "PUBLISH TOPIC ".toList ++ quoteChars topic.toList ++ ' ' :: quoteChars payload.toList

mutual
/-- The lines of a statement at a depth. -/
def Statement.lines (depth : Nat) : Statement → List Line
  | .publish topic payload => [⟨depth, publishLine topic payload⟩]
  | .conditional condition thenBranch elseBranch =>
    ⟨depth, ifLine condition⟩ :: Statement.linesAll (depth + 1) thenBranch ++
      if elseBranch.isEmpty then []
      else ⟨depth, Keyword.ELSE.chars⟩ :: Statement.linesAll (depth + 1) elseBranch

/-- The lines of a list of statements at a depth. -/
def Statement.linesAll (depth : Nat) : List Statement → List Line
  | [] => []
  | statement :: rest => statement.lines depth ++ Statement.linesAll depth rest
end

/-- The lines of an action. -/
def Action.lines (action : Action) : List Line :=
  ⟨0, action.header⟩ :: Statement.linesAll 0 action.body

/-! ## Layout -/

/-- An action laid out. -/
def Action.write (width : Nat) (action : Action) : List Char :=
  action.lines.flatMap (·.write width)

/-- The characters of a program's script: its actions, an empty line between any two. -/
def Program.write (width : Nat) (program : Program) : List Char :=
  List.intercalate ['\n'] (program.actions.map (·.write width))

/-- The script of a program. -/
def Program.render (width : IndentWidth) (program : Program) : String :=
  String.ofList (program.write width.spaces)

end BlockScript.Script
