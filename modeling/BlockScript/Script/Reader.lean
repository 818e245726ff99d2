import BlockScript.Script.Program
import BlockScript.Script.Sentence

/-!
# Reading scripts

Scripts have no words that close a block: indentation alone says where one ends. The body of an
action lies at depth zero, each branch of a conditional one level below its `IF`. The reader goes
through the lines once. What it carries along is the action being read, with the conditionals
around the current place (`OpenIf`), innermost first, and the statements of the innermost block;
`OpenAction.place` says what one further line does to it.

A line ends every block that lies deeper than itself. An `ELSE` ends them too, and goes on with
the conditional whose first branch it stops at its own depth; where there is none it ends the
action, like the header of the next one.
-/

set_option autoImplicit false

namespace BlockScript.Script

/-! ## What is open -/

/-- A conditional of which one branch is being read. -/
structure OpenIf where
  /-- The number of the line that opened the branch. -/
  line : Nat
  /-- The statements before the conditional in its block, last first. -/
  before : List Statement
  /-- The condition. -/
  condition : String
  /-- The first branch, once the second one is being read. -/
  thenBranch? : Option (List Statement)

/-- The word that opened the branch being read. -/
def OpenIf.opener (conditional : OpenIf) : Keyword :=
  if conditional.thenBranch?.isNone then .THEN else .ELSE

/-- Ends the branch being read, whose statements are `block`, last first, and with it the
conditional: the statements of the block around it up to there, last first. -/
def OpenIf.close (conditional : OpenIf) (block : List Statement) :
    Except ReadError (List Statement) :=
  if block.isEmpty then .error ⟨conditional.line, .emptyBlock conditional.opener⟩
  else match conditional.thenBranch? with
    | none => .ok (.conditional conditional.condition block.reverse [] :: conditional.before)
    | some thenBranch =>
      .ok (.conditional conditional.condition thenBranch block.reverse :: conditional.before)

/-- An action that is being read. -/
structure OpenAction where
  /-- The number of the line that opened the action. -/
  line : Nat
  /-- What that line says. -/
  header : Header
  /-- The conditionals around the current place, innermost first. -/
  ifs : List OpenIf
  /-- The statements of the innermost block up to the current place, last first. -/
  block : List Statement

namespace OpenAction

/-- The action at its header. -/
def start (line : Nat) (header : Header) : OpenAction := ⟨line, header, [], []⟩

/-- Ends the action, whose statements are `block`, last first. -/
def closeBody (action : OpenAction) (block : List Statement) : Except ReadError Action :=
  if block.isEmpty then .error ⟨action.line, .emptyBlock .DO⟩
  else .ok ⟨action.header.name, action.header.every, block.reverse⟩

/-- Ends everything that is open. -/
def close (action : OpenAction) : Except ReadError Action := do
  let block ← action.ifs.foldlM (fun block conditional => conditional.close block) action.block
  action.closeBody block

/-- Adds a line to the innermost of the blocks that are open. -/
def say (action : OpenAction) (line : NumberedLine) (ifs : List OpenIf)
    (block : List Statement) : Except ReadError OpenAction :=
  match Sentence.read line.text with
  | .error fault => .error ⟨line.number, fault⟩
  | .ok (.publish topic payload) =>
    .ok { action with ifs := ifs, block := .publish topic payload :: block }
  | .ok (.condition text) =>
    .ok { action with ifs := ⟨line.number, block, text, none⟩ :: ifs, block := [] }

end OpenAction

/-! ## One line -/

/-- Where a line belongs. -/
inductive Placed where
  /-- To the action being read, which it takes this far. -/
  | inside (action : OpenAction)
  /-- After that action, which it ends. -/
  | after (action : Action)

/-- The line of the second branch of a conditional. -/
def isElse (line : NumberedLine) : Bool := line.text == Keyword.ELSE.chars

/-- The first line of a further action, as the body of an action is concerned. -/
def startsHeader (line : NumberedLine) : Bool := "DEFINE ".toList.isPrefixOf line.text

/-- What a line does to an action when `ifs` are still open around the statements `block`. -/
def OpenAction.placeFrom (action : OpenAction) (line : NumberedLine) :
    List OpenIf → List Statement → Except ReadError Placed
  | [], block =>
    if isElse line then (action.closeBody block).map .after
    else if 0 < line.depth then .error ⟨line.number, .tooDeep 0⟩
    else if startsHeader line then (action.closeBody block).map .after
    else (action.say line [] block).map .inside
  | conditional :: ifs, block =>
    if line.depth ≤ ifs.length || isElse line then do
      let around ← conditional.close block
      if conditional.thenBranch?.isNone && isElse line && line.depth == ifs.length then
        return .inside { action with
          ifs := { conditional with line := line.number, thenBranch? := some block.reverse } :: ifs
          block := [] }
      action.placeFrom line ifs around
    else if ifs.length + 1 < line.depth then .error ⟨line.number, .tooDeep (ifs.length + 1)⟩
    else (action.say line (conditional :: ifs) block).map .inside

/-- What a line does to an action that is being read. -/
def OpenAction.place (action : OpenAction) (line : NumberedLine) : Except ReadError Placed :=
  action.placeFrom line action.ifs action.block

/-! ## Whole scripts -/

/-- How far a script has been read. -/
structure Progress where
  /-- The actions that are complete, last first. -/
  finished : List Action
  /-- The action being read. -/
  current? : Option OpenAction

namespace Progress

/-- Nothing is read. -/
def start : Progress := ⟨[], none⟩

/-- Reads the header of an action after the actions `finished`. -/
def openAction (finished : List Action) (line : NumberedLine) : Except ReadError Progress :=
  if line.depth ≠ 0 then .error ⟨line.number, .indentedHeader⟩
  else match Header.read line.text with
    | .error fault => .error ⟨line.number, fault⟩
    | .ok header => .ok ⟨finished, some (.start line.number header)⟩

/-- Reads one further line. -/
def step (progress : Progress) (line : NumberedLine) : Except ReadError Progress :=
  match progress.current? with
  | none => openAction progress.finished line
  | some action =>
    match action.place line with
    | .error error => .error error
    | .ok (.inside action) => .ok { progress with current? := some action }
    | .ok (.after action) => openAction (action :: progress.finished) line

/-- The program, when no line is left. -/
def finish (progress : Progress) : Except ReadError Program :=
  match progress.current? with
  | none => .ok ⟨progress.finished.reverse⟩
  | some action => action.close.map fun action => ⟨(action :: progress.finished).reverse⟩

end Progress

/-- The program that lines denote. -/
def Program.ofLines (lines : List NumberedLine) : Except ReadError Program := do
  let progress ← lines.foldlM Progress.step .start
  progress.finish

/-- The program that a script denotes when a level of nesting is `width` spaces wide; no width is
below one. -/
def Program.parse (width : Nat) (source : String) : Except ReadError Program :=
  match Line.scanAll (max 1 width) source.toList with
  | .error (number, fault) => .error ⟨number, .indent fault⟩
  | .ok lines => Program.ofLines lines

end BlockScript.Script
