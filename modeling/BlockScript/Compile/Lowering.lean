import BlockScript.Compile.Error
import BlockScript.Compile.Vocabulary
import BlockScript.Script.Literal
import BlockScript.Script.Program

/-!
# From blocks to programs

A workspace is lowered to a program block by block. Every block is checked against its kind before
anything inside it is looked at (`Block.Kind.violations`), and the first problem met on the way is
reported with the path of its block.

The statements of a block are found by recursion through its slots (`Lowering.statements`): what
the slots contribute is given to the rule of the block's kind (`Block.Kind.statements`), which asks
for them in the order in which problems are to be reported.

Statements that lie outside every action are gathered into one default action, at the place of the
first block that is no action (`Lowering.assemble`).
-/

set_option autoImplicit false

namespace BlockScript

open Script (Statement Program isIdentifier)

/-! ## Blocks of a kind -/

namespace Block.Kind

/-- What is wrong with the fields and slots of a block, most pressing first: those that its kind
does not have, then those that it lacks. -/
def violations (kind : Block.Kind) (block : Block) : List BlockFault :=
  let schema := kind.schema
  let unknown (members : List Member) (name : String) := ! members.any (·.name == name)
  ((block.fields.map (·.1)).filter (unknown schema.fields)).map (.unknownField block.type) ++
  ((block.slots.map (·.1)).filter (unknown schema.slots)).map (.unknownSlot block.type) ++
  ((schema.fields.filter fun member =>
      member.required && (block.field? member.name).isNone).map
    fun member => .missingField block.type member.name) ++
  ((schema.slots.filter fun member =>
      member.required && ((block.slot? member.name).getD []).isEmpty).map
    fun member => .missingSlot block.type member.name)

/-- Checks the fields and slots of a block. -/
def check (kind : Block.Kind) (block : Block) : Except BlockFault Unit :=
  match (kind.violations block).head? with
  | some fault => .error fault
  | none => .ok ()

end Block.Kind

/-! ## Fields -/

namespace Lowering

/-- The text of a field that the block must have. -/
def requiredField (block : Block) (name : String) : Except BlockFault String :=
  match block.field? name with
  | some value => .ok value
  | none => .error (.missingField block.type name)

/-- The name of an action: an identifier, between any blanks. -/
def actionName (value : String) : Except BlockFault String :=
  let name := Text.trimmed value
  if isIdentifier name then .ok name else .error (.invalidField "name" (.notIdentifier name))

/-- The trigger interval of an action. -/
def trigger (value : String) : Except BlockFault Duration :=
  (Duration.parse value).mapError fun fault => .invalidField "every" (.duration fault)

/-- A condition: text on one line, between any blanks. -/
def condition (value : String) : Except BlockFault String :=
  let text := Text.trimmed value
  if text.isEmpty then .error (.invalidField "condition" .emptyCondition)
  else if text.toList.any fun c => c == '\n' || c == '\r' then
    .error (.invalidField "condition" .brokenCondition)
  else .ok text

/-- A topic: text with something in it beside blanks. -/
def topic (value : String) : Except BlockFault String :=
  if Text.isAllBlank value.toList then .error (.invalidField "topic" .emptyTopic) else .ok value

/-- An error about the block at a path. -/
def atBlock {α : Type} (path : Block.Path) (result : Except BlockFault α) :
    Except Compile.Error α :=
  result.mapError (.block path)

/-! ## Statements -/

/-- What the slots of a block contribute, by their names. -/
abbrev Contributions := String → Except Compile.Error (List Statement)

/-- The statements in a slot that must not be without one. -/
def requiredSlot (block : Block) (path : Block.Path) (slots : Contributions) (name : String) :
    Except Compile.Error (List Statement) := do
  let statements ← slots name
  if statements.isEmpty then throw (.block path (.missingSlot block.type name))
  return statements

end Lowering

/-- The statements for which a block of a kind stands, where its slots contribute `slots`. -/
def Block.Kind.statements (kind : Block.Kind) (block : Block) (path : Block.Path)
    (slots : Lowering.Contributions) : Except Compile.Error (List Statement) :=
  match kind with
  | .action => .error (.block path (.misplaced block.type))
  | .conditional => do
    let condition ← Lowering.atBlock path do
      Lowering.condition (← Lowering.requiredField block "condition")
    let thenBranch ← Lowering.requiredSlot block path slots "then"
    let elseBranch ← slots "else"
    return [.conditional condition thenBranch elseBranch]
  | .publish => Lowering.atBlock path do
    let topic ← Lowering.topic (← Lowering.requiredField block "topic")
    let payload ← Lowering.requiredField block "payload"
    return [.publish topic payload]
  | .sequence => slots "statements"

namespace Lowering

/-- The kind of a block, which is checked against it. -/
def checkedKind (vocabulary : Vocabulary) (path : Block.Path) (block : Block) :
    Except Compile.Error Block.Kind :=
  atBlock path <|
    match vocabulary.kind? block.type with
    | none => .error (.unknownType block.type)
    | some kind => (kind.check block).map fun _ => kind

/-- The contributions in a table; a slot that is not there contributes nothing. -/
def contributionsOf (table : List (String × Except Compile.Error (List Statement))) :
    Contributions :=
  fun name => (table.lookup name).getD (.ok [])

mutual
/-- The statements for which the block at a path stands. -/
def statements (vocabulary : Vocabulary) (path : Block.Path) :
    Block → Except Compile.Error (List Statement)
  | block@⟨_, _, _, slots⟩ => do
    let kind ← checkedKind vocabulary path block
    kind.statements block path (contributionsOf (slotStatements vocabulary path slots))

/-- What each slot of the block at a path contributes. -/
def slotStatements (vocabulary : Vocabulary) (path : Block.Path) :
    List (String × List Block) → List (String × Except Compile.Error (List Statement))
  | [] => []
  | (name, blocks) :: rest =>
    (name, listStatements vocabulary path name 0 blocks) :: slotStatements vocabulary path rest

/-- The statements for which blocks in a slot stand, the first of them at place `index`. -/
def listStatements (vocabulary : Vocabulary) (path : Block.Path) (slot : String) (index : Nat) :
    List Block → Except Compile.Error (List Statement)
  | [] => .ok []
  | block :: rest => do
    let first ← statements vocabulary (path.child slot index) block
    let others ← listStatements vocabulary path slot (index + 1) rest
    return first ++ others
end

/-! ## Actions -/

/-- What the slots of the block at a path contribute. -/
def contributions (vocabulary : Vocabulary) (path : Block.Path) (block : Block) : Contributions :=
  contributionsOf (slotStatements vocabulary path block.slots)

/-- The action for which a block of that kind stands. -/
def action (vocabulary : Vocabulary) (path : Block.Path) (block : Block) :
    Except Compile.Error Script.Action := do
  let name ← atBlock path do actionName (← requiredField block "name")
  let every ← atBlock path do trigger (← requiredField block "every")
  let body ← requiredSlot block path (contributions vocabulary path block) "do"
  return ⟨name, every, body⟩

/-! ## Workspaces -/

/-- What a block of the workspace contributes to the program. -/
inductive Piece where
  /-- An action, and the path of its block. -/
  | action (path : Block.Path) (action : Script.Action)
  /-- Statements outside every action. -/
  | loose (statements : List Statement)

/-- What the block at a path of the workspace contributes. -/
def piece (vocabulary : Vocabulary) (path : Block.Path) (block : Block) :
    Except Compile.Error Piece := do
  let kind ← checkedKind vocabulary path block
  if kind.isStatement then
    return .loose (← kind.statements block path (contributions vocabulary path block))
  else return .action path (← action vocabulary path block)

/-- The path at which an action is declared. -/
def declaredAt? (name : String) (pieces : List Piece) : Option Block.Path :=
  pieces.findSome? fun
    | .action path action => if action.name = name then some path else none
    | .loose _ => none

/-- Refuses the name of an action that is declared elsewhere. -/
def duplicate (path : Block.Path) (name : String) (declaration : Declaration) : Compile.Error :=
  .block path (.invalidField "name" (.duplicateAction name declaration))

/-- Adds what a block contributes to what the blocks before it do, of which the last comes
first. -/
def addPiece (earlier : List Piece) (piece : Piece) : Except Compile.Error (List Piece) :=
  match piece with
  | .loose _ => .ok (piece :: earlier)
  | .action path action =>
    match declaredAt? action.name earlier with
    | some first => .error (duplicate path action.name (.action first))
    | none => .ok (piece :: earlier)

/-- What blocks of the workspace contribute, the first of them at place `index`, after what the
blocks before it do; all with the last first. -/
def pieces (vocabulary : Vocabulary) (earlier : List Piece) (index : Nat) :
    List Block → Except Compile.Error (List Piece)
  | [] => .ok earlier
  | block :: rest => do
    let next ← piece vocabulary (.topLevel index) block
    let earlier ← addPiece earlier next
    pieces vocabulary earlier (index + 1) rest

/-- The statements outside every action. -/
def looseStatements (pieces : List Piece) : List Statement :=
  pieces.flatMap fun
    | .loose statements => statements
    | .action .. => []

/-- The actions of a program, with the default action at the place of the first piece that is no
action. -/
def assemble (defaultAction? : Option Script.Action) : List Piece → List Script.Action
  | [] => []
  | .action _ action :: rest => action :: assemble defaultAction? rest
  | .loose _ :: rest => defaultAction?.toList ++ assemble none rest

/-- The default action with the given body, which must not share its name with another one. -/
def defaultAction (name : String) (every : Duration) (pieces : List Piece)
    (body : List Statement) : Except Compile.Error Script.Action :=
  if isIdentifier name then
    match declaredAt? name pieces with
    | some path => .error (duplicate path name .default)
    | none => .ok ⟨name, every, body⟩
  else .error (.misconfigured (.defaultName name))

/-- The program for which a workspace stands, where statements outside every action make up an
action with the given name and trigger. -/
def program (vocabulary : Vocabulary) (name : String) (every : Duration) (workspace : Workspace) :
    Except Compile.Error Program := do
  let reversed ← pieces vocabulary [] 0 workspace.blocks
  let pieces := reversed.reverse
  let loose := looseStatements pieces
  if loose.isEmpty then return ⟨assemble none pieces⟩
  let action ← defaultAction name every pieces loose
  return ⟨assemble (some action) pieces⟩

end Lowering

end BlockScript
