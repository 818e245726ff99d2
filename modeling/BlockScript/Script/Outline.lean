import BlockScript.Script.Literal
import BlockScript.Script.Program

/-!
# Outlines

An outline shows a program as a drawn tree, one line for every action, statement and branch.
It is made in two steps: `Program.outline` names the nodes of the tree, and `Outline.draw` draws
a tree of labels, whatever they say.
-/

set_option autoImplicit false

namespace BlockScript.Script

/-- A tree of labels. -/
inductive Outline where
  /-- A label, with what stands below it. -/
  | node (label : List Char) (below : List Outline)

namespace Outline

/-! ## Drawing -/

/-- The mark before the label of a node. -/
def marker (isLast : Bool) : List Char := if isLast then "└── ".toList else "├── ".toList

/-- The mark before everything that stands below a node. -/
def margin (isLast : Bool) : List Char := if isLast then "    ".toList else "│   ".toList

mutual
/-- The lines that draw a tree, which may be the last of its siblings. -/
def lines (isLast : Bool) : Outline → List (List Char)
  | node label below =>
    (marker isLast ++ label) :: (linesAll below).map (margin isLast ++ ·)

/-- The lines that draw sibling trees. -/
def linesAll : List Outline → List (List Char)
  | [] => []
  | tree :: rest => lines rest.isEmpty tree ++ linesAll rest
end

end Outline

/-! ## The tree of a program -/

/-- What an outline says of an action. -/
def Action.label (action : Action) : List Char :=
  "Action ".toList ++ action.name.toList ++ " (every ".toList ++ action.every.text.toList ++ [')']

mutual
/-- The tree of a statement. -/
def Statement.outline : Statement → Outline
  | .publish topic payload =>
    .node ("Publish ".toList ++ quoteChars topic.toList ++ ' ' :: quoteChars payload.toList) []
  | .conditional condition thenBranch elseBranch =>
    .node ("If ".toList ++ condition.toList)
      (.node "Then".toList (Statement.outlineAll thenBranch) ::
        if elseBranch.isEmpty then []
        else [.node "Else".toList (Statement.outlineAll elseBranch)])

/-- The trees of a list of statements. -/
def Statement.outlineAll : List Statement → List Outline
  | [] => []
  | statement :: rest => statement.outline :: Statement.outlineAll rest
end

/-- The tree of an action. -/
def Action.outline (action : Action) : Outline :=
  .node action.label (Statement.outlineAll action.body)

/-- The first line of a program's outline. -/
def Program.title (program : Program) : List Char :=
  "Program (".toList ++ program.actions.length.repr.toList ++ " actions)".toList

/-- The outline of a program: its title and the trees of its actions, each line ended. -/
def Program.outline (program : Program) : String :=
  String.ofList ((program.title :: Outline.linesAll (program.actions.map Action.outline)).flatMap
    (· ++ ['\n']))

end BlockScript.Script
