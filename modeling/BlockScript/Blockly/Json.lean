import BlockScript.Blockly.Document
import BlockScript.Json.Decode

/-!
# Reading saved documents

A saved document is JSON, of which this library reads the blocks and passes over everything else.
A block that follows another is nested in it, so there is no limit on the nesting.
-/

set_option autoImplicit false

namespace BlockScript.Blockly

open Json (Fault ListEnd Node ObjectEnd Quoted Record Room)

/-! ## Fields -/

mutual
/-- Reads the whole of a value, of which nothing is kept. -/
def exhaust : Node → Except Fault Unit
  | .list items ending => do
    exhaustItems items
    ending.read
  | .object members ending => do
    exhaustMembers members
    ending.read
  | .number literal => literal.value.map fun _ => ()
  | .string quoted => quoted.value.map fun _ => ()
  | .cutNumber => .error (.unfinished .value)
  | .fault cause => .error cause
  | .null => .ok ()
  | .boolean _ => .ok ()

/-- Reads the items of a list, of which nothing is kept. -/
def exhaustItems : List Node → Except Fault Unit
  | [] => .ok ()
  | item :: rest => do
    exhaust item
    exhaustItems rest

/-- Reads the members of an object, of which nothing is kept. -/
def exhaustMembers : List (Quoted × Node) → Except Fault Unit
  | [] => .ok ()
  | (key, value) :: rest => do
    let _ ← key.value
    exhaust value
    exhaustMembers rest
end

/-- Reads the value of a field. -/
def FieldValue.ofNode (node : Node) : Except Fault FieldValue := do
  exhaust node
  match node with
  | .null => return .null
  | .boolean value => return .boolean value
  | .number literal => return .number (← literal.value)
  | .string quoted => return .string (← quoted.value)
  | .object .. => return .object
  | _ => return .list

/-! ## Blocks and connections -/

/-- The keys of a saved block. -/
inductive BlockKey where
  | type
  | id
  | fields
  | inputs
  | next
  deriving DecidableEq, Repr

/-- The name of a key. -/
def BlockKey.name : BlockKey → String
  | type => "type"
  | id => "id"
  | fields => "fields"
  | inputs => "inputs"
  | next => "next"

/-- A saved block of which some keys have been read. -/
structure BlockDraft where
  /-- The type. -/
  type? : Option String := none
  /-- The id, which may have been given as null. -/
  id? : Option (Option String) := none
  /-- The fields. -/
  fields? : Option (List (String × FieldValue)) := none
  /-- The inputs. -/
  inputs? : Option (List (String × Connection)) := none
  /-- What follows, which may have been given as null. -/
  next? : Option (Option Connection) := none

/-- How a saved block is read: only its type is required. -/
def SavedBlock.record : Record BlockKey BlockDraft SavedBlock where
  name := "BlocklyBlock"
  keys := [.type, .id, .fields, .inputs, .next]
  names key := [key.name]
  blank := {}
  has draft key :=
    match key with
    | .type => draft.type?.isSome
    | .id => draft.id?.isSome
    | .fields => draft.fields?.isSome
    | .inputs => draft.inputs?.isSome
    | .next => draft.next?.isSome
  complete draft :=
    match draft.type? with
    | none => .error .type
    | some type =>
      .ok (.mk type (draft.id?.getD none) (draft.fields?.getD []) (draft.inputs?.getD [])
        (draft.next?.getD none))

/-- The keys of a connection. -/
inductive ConnectionKey where
  | block
  | shadow
  deriving DecidableEq, Repr

/-- The name of a key. -/
def ConnectionKey.name : ConnectionKey → String
  | block => "block"
  | shadow => "shadow"

/-- A connection of which some keys have been read. -/
structure ConnectionDraft where
  /-- The block, which may have been given as null. -/
  block? : Option (Option SavedBlock) := none
  /-- The shadow, which may have been given as null. -/
  shadow? : Option (Option SavedBlock) := none

/-- How a connection is read: nothing is required. -/
def Connection.record : Record ConnectionKey ConnectionDraft Connection where
  name := "BlocklyConnection"
  keys := [.block, .shadow]
  names key := [key.name]
  blank := {}
  has draft key :=
    match key with
    | .block => draft.block?.isSome
    | .shadow => draft.shadow?.isSome
  complete draft := .ok (.mk (draft.block?.getD none) (draft.shadow?.getD none))

/-- Adds the value of a key to a draft of a block. Inputs and what follows the block hold blocks
again, which `inputs` and `next` read. -/
def SavedBlock.setKey (draft : BlockDraft) (key : BlockKey) (value : Node)
    (inputs : Unit → Except Fault (List (String × Connection)))
    (next : Unit → Except Fault Connection) : Except Fault BlockDraft :=
  match key with
  | .type => value.readString.map fun type => { draft with type? := some type }
  | .id => (value.readOptional Node.readString).map fun id => { draft with id? := some id }
  | .fields =>
    (value.readTable none fun _ => FieldValue.ofNode).map fun fields =>
      { draft with fields? := some fields.entries }
  | .inputs => (inputs ()).map fun inputs => { draft with inputs? := some inputs }
  | .next => (value.orNull next).map fun next => { draft with next? := some next }

/-- Adds the value of a key to a draft of a connection. It is a block, which `block` reads. -/
def Connection.setKey (draft : ConnectionDraft) (key : ConnectionKey) (value : Node)
    (block : Unit → Except Fault SavedBlock) : Except Fault ConnectionDraft :=
  match key with
  | .block => (value.orNull block).map fun block => { draft with block? := some block }
  | .shadow => (value.orNull block).map fun shadow => { draft with shadow? := some shadow }

mutual
/-- Reads a saved block. -/
def SavedBlock.ofNode : Node → Except Fault SavedBlock
  | .object members ending => SavedBlock.ofMembers ending SavedBlock.record.blank members
  | .list items ending =>
    SavedBlock.ofItems ending SavedBlock.record.blank SavedBlock.record.keys items
  | node => .error (node.mismatch (.record SavedBlock.record.name))

/-- Reads the members of a saved block. -/
def SavedBlock.ofMembers (ending : ObjectEnd) (draft : BlockDraft) :
    List (Quoted × Node) → Except Fault SavedBlock
  | [] => do
    ending.read
    SavedBlock.record.fromObject draft
  | (key, value) :: rest => do
    match ← SavedBlock.record.freshKey? draft (← key.value) with
    | none =>
      value.skim
      SavedBlock.ofMembers ending draft rest
    | some key =>
      let draft ← SavedBlock.setKey draft key value (fun _ => Connection.tableOfNode value)
        fun _ => Connection.ofNode value
      SavedBlock.ofMembers ending draft rest

/-- Reads the values of a saved block's keys out of a list. -/
def SavedBlock.ofItems (ending : ListEnd) (draft : BlockDraft) :
    List BlockKey → List Node → Except Fault SavedBlock
  | keys, [] => SavedBlock.record.fromListEnd draft keys ending
  | [], _ :: _ => .error .trailingCharacters
  | key :: keys, item :: rest => do
    let draft ← SavedBlock.setKey draft key item (fun _ => Connection.tableOfNode item)
      fun _ => Connection.ofNode item
    SavedBlock.ofItems ending draft keys rest

/-- Reads a table of connections. -/
def Connection.tableOfNode : Node → Except Fault (List (String × Connection))
  | .object members ending => Connection.tableOfMembers ending [] members
  | node => .error (node.mismatch .map)

/-- Reads connections after those in `table`. -/
def Connection.tableOfMembers (ending : ObjectEnd) (table : List (String × Connection)) :
    List (Quoted × Node) → Except Fault (List (String × Connection))
  | [] => ending.read.map fun _ => table
  | (key, value) :: rest => do
    let key ← key.value
    let connection ← Connection.ofNode value
    Connection.tableOfMembers ending (Table.insert key connection table) rest

/-- Reads a connection. -/
def Connection.ofNode : Node → Except Fault Connection
  | .object members ending => Connection.ofMembers ending Connection.record.blank members
  | .list items ending =>
    Connection.ofItems ending Connection.record.blank Connection.record.keys items
  | node => .error (node.mismatch (.record Connection.record.name))

/-- Reads the members of a connection. -/
def Connection.ofMembers (ending : ObjectEnd) (draft : ConnectionDraft) :
    List (Quoted × Node) → Except Fault Connection
  | [] => do
    ending.read
    Connection.record.fromObject draft
  | (key, value) :: rest => do
    match ← Connection.record.freshKey? draft (← key.value) with
    | none =>
      value.skim
      Connection.ofMembers ending draft rest
    | some key =>
      let draft ← Connection.setKey draft key value fun _ => SavedBlock.ofNode value
      Connection.ofMembers ending draft rest

/-- Reads the values of a connection's keys out of a list. -/
def Connection.ofItems (ending : ListEnd) (draft : ConnectionDraft) :
    List ConnectionKey → List Node → Except Fault Connection
  | keys, [] => Connection.record.fromListEnd draft keys ending
  | [], _ :: _ => .error .trailingCharacters
  | key :: keys, item :: rest => do
    let draft ← Connection.setKey draft key item fun _ => SavedBlock.ofNode item
    Connection.ofItems ending draft keys rest

end

/-! ## Documents -/

/-- The keys of the section of blocks. -/
inductive ListKey where
  | languageVersion
  | blocks
  deriving DecidableEq, Repr

/-- A section of blocks of which some keys have been read. -/
structure ListDraft where
  /-- The version. -/
  version? : Option Nat := none
  /-- The first blocks of the chains. -/
  chains? : Option (List SavedBlock) := none

/-- How the section of blocks is read: nothing is required, and the version has two names. -/
def BlockList.record : Record ListKey ListDraft BlockList where
  name := "BlocklyBlockList"
  keys := [.languageVersion, .blocks]
  names key :=
    match key with
    | .languageVersion => ["language_version", "languageVersion"]
    | .blocks => ["blocks"]
  blank := {}
  has draft key :=
    match key with
    | .languageVersion => draft.version?.isSome
    | .blocks => draft.chains?.isSome
  complete draft := .ok ⟨draft.version?.getD 0, draft.chains?.getD []⟩

/-- Reads the value of a key of the section of blocks. -/
def BlockList.setKey (room : Room) (draft : ListDraft) (key : ListKey) (value : Node) :
    Except Fault ListDraft :=
  match key with
  | .languageVersion =>
    (value.readNatural "u32" UInt32.size).map fun version =>
      { draft with version? := some version }
  | .blocks =>
    (value.readList room fun _ => SavedBlock.ofNode).map fun chains =>
      { draft with chains? := some chains }

/-- Reads the section of blocks. -/
def BlockList.ofNode : Node → Except Fault BlockList := BlockList.record.read none BlockList.setKey

/-- How a document is read: nothing is required, and its section may be null. -/
def SavedDocument.record : Record Unit (Option (Option BlockList)) SavedDocument where
  name := "BlocklyDocument"
  keys := [()]
  names _ := ["blocks"]
  blank := none
  has draft _ := draft.isSome
  complete draft := .ok ⟨draft.getD none⟩

/-- Reads a document. -/
def SavedDocument.ofNode : Node → Except Fault SavedDocument :=
  SavedDocument.record.read none fun _ _ _ value =>
    (value.readOptional BlockList.ofNode).map some

/-- The document of a text. -/
def SavedDocument.ofJson (text : String) : Except Fault SavedDocument :=
  Json.Document.read SavedDocument.ofNode text

end BlockScript.Blockly
