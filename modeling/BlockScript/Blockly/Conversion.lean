import BlockScript.Block.Canonical
import BlockScript.Blockly.Json
import BlockScript.Compile.Error
import BlockScript.Text.LetterCase

/-!
# From saved documents to workspaces

The chains of a saved document become sequences of blocks: the workspace itself is the sequence of
all its chains, and a slot holds the chain that is plugged into the input of that name. Names of
fields and inputs are written in lower case, whatever the editor made of them, and every scalar
value becomes text. A document has no workspace when that would lose something: a value that is no
scalar, or two names that lower case makes one.
-/

set_option autoImplicit false

namespace BlockScript.Blockly

/-- The text of a scalar. -/
def FieldValue.text? : FieldValue → Option String
  | string text => some text
  | number value => some value.text
  | boolean value => some (toString value)
  | null | list | object => none

/-- The fields of a block of the given type, after those in `table`. -/
def fieldTexts (blockType : String) (table : List (String × String)) :
    List (String × FieldValue) → Except Malformed (List (String × String))
  | [] => .ok table
  | (rawName, value) :: rest =>
    match value.text? with
    | none => .error (.notScalar rawName blockType)
    | some text =>
      let name := Text.lowercase rawName
      if (table.lookup name).isSome then .error (.collision .field rawName blockType)
      else fieldTexts blockType (Table.insert name text table) rest

mutual
/-- The blocks of the chain that starts with a saved block. -/
def SavedBlock.chain : SavedBlock → Except Malformed (List Block)
  | .mk type id? fields inputs next? => do
    let fields ← fieldTexts type [] fields
    let slots ← Connection.slots type [] inputs
    let rest ← Connection.optionalChain next?
    return ⟨type, id?, fields, slots⟩ :: rest

/-- The blocks at a connection that need not be there. -/
def Connection.optionalChain : Option Connection → Except Malformed (List Block)
  | none => .ok []
  | some connection => (connection.chain?).getD (.ok [])

/-- The blocks at a connection, if any are there. -/
def Connection.chain? : Connection → Option (Except Malformed (List Block))
  | .mk (some block) _ => some block.chain
  | .mk none (some shadow) => some shadow.chain
  | .mk none none => none

/-- The slots of a block of the given type, after those in `table`: one for each input into which
something is plugged. -/
def Connection.slots (blockType : String) (table : List (String × List Block)) :
    List (String × Connection) → Except Malformed (List (String × List Block))
  | [] => .ok table
  | (rawName, connection) :: rest =>
    match connection.chain? with
    | none => Connection.slots blockType table rest
    | some chain => do
      let blocks ← chain
      let name := Text.lowercase rawName
      if (table.lookup name).isSome then throw (.collision .input rawName blockType)
      Connection.slots blockType (Table.insert name blocks table) rest
end

/-- The blocks of several chains. -/
def chains : List SavedBlock → Except Malformed (List Block)
  | [] => .ok []
  | first :: rest => do
    let blocks ← first.chain
    let others ← chains rest
    return blocks ++ others

/-- The workspace of a document. -/
def SavedDocument.workspace (document : SavedDocument) : Except Malformed Workspace :=
  match document.blocks? with
  | none => .ok .empty
  | some list => (chains list.chains).map Workspace.mk

end BlockScript.Blockly

namespace BlockScript

/-! ## Formats of workspaces -/

/-- The formats in which workspaces are saved. -/
inductive Workspace.Format where
  /-- Documents of a Blockly editor. -/
  | blockly
  /-- The canonical text. -/
  | canonical
  deriving DecidableEq, Repr

/-- The format of workspaces of which none is named. -/
def Workspace.Format.standard : Workspace.Format := .blockly

/-- The workspace of a text. -/
def Workspace.load (format : Workspace.Format) (text : String) : Except Compile.Error Workspace :=
  match format with
  | .canonical => (Workspace.ofJson text).mapError fun fault => .malformed (.unreadable fault)
  | .blockly =>
    match Blockly.SavedDocument.ofJson text with
    | .error fault => .error (.malformed (.unreadable fault))
    | .ok document => document.workspace.mapError .malformed

end BlockScript
