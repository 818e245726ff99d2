import BlockScript.Block.Basic
import BlockScript.Json.Decode
import BlockScript.Json.Form

/-!
# The canonical text of a workspace

A workspace as JSON: an object with its `blocks`, each an object with its `type` and, where there
is something to say, its `id`, `fields` and `slots`. `Workspace.toJson` writes this form and
`Workspace.ofJson` reads it. Lists and objects may be nested to a limited depth where they are
read, but not where they are written.
-/

set_option autoImplicit false

namespace BlockScript

open Json (Fault Form ListEnd Node ObjectEnd Quoted Record Room)

/-! ## Writing -/

mutual
/-- A block as JSON. -/
def Block.form : Block → Form
  | ⟨type, id?, fields, slots⟩ => .table <|
    ("type", .string type) ::
    (id?.toList.map fun id => ("id", .string id)) ++
    (if fields.isEmpty then []
      else [("fields", .table (fields.map fun (name, value) => (name, .string value)))]) ++
    (if slots.isEmpty then [] else [("slots", .table (Block.formSlots slots))])

/-- Slots as members of an object. -/
def Block.formSlots : List (String × List Block) → List (String × Form)
  | [] => []
  | (name, blocks) :: rest => (name, .list (Block.formList blocks)) :: Block.formSlots rest

/-- Blocks as items of a list. -/
def Block.formList : List Block → List Form
  | [] => []
  | block :: rest => block.form :: Block.formList rest
end

/-- A workspace as JSON. -/
def Workspace.form (workspace : Workspace) : Form :=
  .table [("blocks", .list (Block.formList workspace.blocks))]

/-- The canonical text of a workspace. -/
def Workspace.toJson (workspace : Workspace) : String := workspace.form.pretty

/-! ## Reading -/

/-- The keys of a block. -/
inductive BlockKey where
  | type
  | id
  | fields
  | slots
  deriving DecidableEq, Repr

/-- A block of which some keys have been read. -/
structure BlockDraft where
  /-- The type. -/
  type? : Option String := none
  /-- The id, which may have been given as null. -/
  id? : Option (Option String) := none
  /-- The fields. -/
  fields? : Option (List (String × String)) := none
  /-- The slots. -/
  slots? : Option (List (String × List Block)) := none

/-- The name of a key. -/
def BlockKey.name : BlockKey → String
  | type => "type"
  | id => "id"
  | fields => "fields"
  | slots => "slots"

/-- How a block is read: only its type is required. -/
def Block.record : Record BlockKey BlockDraft Block where
  name := "Block"
  keys := [.type, .id, .fields, .slots]
  names key := [key.name]
  blank := {}
  has draft key :=
    match key with
    | .type => draft.type?.isSome
    | .id => draft.id?.isSome
    | .fields => draft.fields?.isSome
    | .slots => draft.slots?.isSome
  complete draft :=
    match draft.type? with
    | none => .error .type
    | some type =>
      .ok ⟨type, draft.id?.getD none, draft.fields?.getD [], draft.slots?.getD []⟩

/-- Adds the value of a key to a draft. The slots are blocks again, and `slots` reads them. -/
def Block.setKey (room : Room) (draft : BlockDraft) (key : BlockKey) (value : Node)
    (slots : Unit → Except Fault (List (String × List Block))) : Except Fault BlockDraft :=
  match key with
  | .type => value.readString.map fun type => { draft with type? := some type }
  | .id => (value.readOptional Node.readString).map fun id => { draft with id? := some id }
  | .fields =>
    (value.readTable room fun _ => Node.readString).map fun fields =>
      { draft with fields? := some fields.entries }
  | .slots => (slots ()).map fun slots => { draft with slots? := some slots }

mutual
/-- Reads a block. -/
def Block.ofNode (room : Room) : Node → Except Fault Block
  | .object members ending => do
    let room ← room.enter
    Block.ofMembers room ending Block.record.blank members
  | .list items ending => do
    let room ← room.enter
    Block.ofItems room ending Block.record.blank Block.record.keys items
  | node => .error (node.mismatch (.record Block.record.name))

/-- Reads the members of a block. -/
def Block.ofMembers (room : Room) (ending : ObjectEnd) (draft : BlockDraft) :
    List (Quoted × Node) → Except Fault Block
  | [] => do
    ending.read
    Block.record.fromObject draft
  | (key, value) :: rest => do
    match ← Block.record.freshKey? draft (← key.value) with
    | none =>
      value.skim
      Block.ofMembers room ending draft rest
    | some key =>
      let draft ← Block.setKey room draft key value fun _ => Block.slotsOfNode room value
      Block.ofMembers room ending draft rest

/-- Reads the values of a block's keys out of a list. -/
def Block.ofItems (room : Room) (ending : ListEnd) (draft : BlockDraft) :
    List BlockKey → List Node → Except Fault Block
  | keys, [] => Block.record.fromListEnd draft keys ending
  | [], _ :: _ => .error .trailingCharacters
  | key :: keys, item :: rest => do
    let draft ← Block.setKey room draft key item fun _ => Block.slotsOfNode room item
    Block.ofItems room ending draft keys rest

/-- Reads the slots of a block. -/
def Block.slotsOfNode (room : Room) : Node → Except Fault (List (String × List Block))
  | .object members ending => do
    let room ← room.enter
    Block.slotsOfMembers room ending [] members
  | node => .error (node.mismatch .map)

/-- Reads slots after those in `table`. -/
def Block.slotsOfMembers (room : Room) (ending : ObjectEnd)
    (table : List (String × List Block)) :
    List (Quoted × Node) → Except Fault (List (String × List Block))
  | [] => ending.read.map fun _ => table
  | (key, value) :: rest => do
    let key ← key.value
    let blocks ← Block.listOfNode room value
    Block.slotsOfMembers room ending (Table.insert key blocks table) rest

/-- Reads a sequence of blocks. -/
def Block.listOfNode (room : Room) : Node → Except Fault (List Block)
  | .list items ending => do
    let room ← room.enter
    Block.listOfItems room ending items
  | node => .error (node.mismatch .sequence)

/-- Reads the blocks of a sequence. -/
def Block.listOfItems (room : Room) (ending : ListEnd) : List Node → Except Fault (List Block)
  | [] => ending.read.map fun _ => []
  | item :: rest => do
    let block ← Block.ofNode room item
    let blocks ← Block.listOfItems room ending rest
    return block :: blocks
end

/-- How a workspace is read: its one key may be missing. -/
def Workspace.record : Record Unit (Option (List Block)) Workspace where
  name := "Workspace"
  keys := [()]
  names _ := ["blocks"]
  blank := none
  has draft _ := draft.isSome
  complete draft := .ok ⟨draft.getD []⟩

/-- Reads a workspace. -/
def Workspace.ofNode : Node → Except Fault Workspace :=
  Workspace.record.read .standard fun room _ _ value => (Block.listOfNode room value).map some

/-- The workspace of a canonical text. -/
def Workspace.ofJson (text : String) : Except Fault Workspace :=
  Json.Document.read Workspace.ofNode text

end BlockScript
