import BlockScript.Json.Scan
import BlockScript.Table
import BlockScript.Text.Shown

/-!
# Reading values out of trees

What is common to all readers of JSON trees. Each reader goes through a tree in the order of its
text and stops at the first thing that it cannot use; a value of another type than the one looked
for is named in full (`Node.mismatch`), except that lists and objects are named by their first
character alone.

A record is an object with fixed keys: other keys are passed over, no key may come twice, and the
values may also be given as a list in the order of the keys. `Record.read` reads a record whose
values hold no record of the same kind again.
-/

set_option autoImplicit false

namespace BlockScript.Json

/-! ## Single values -/

/-- Why a tree is not what is looked for. -/
def Node.mismatch (wanted : Wanted) : Node → Fault
  | .null => .wrongType .null wanted
  | .boolean value => .wrongType (.boolean value) wanted
  | .number literal =>
    match literal.value with
    | .ok denoted => .wrongType denoted.found wanted
    | .error cause => cause
  | .cutNumber => .unfinished .value
  | .string quoted =>
    match quoted.value with
    | .ok value => .wrongType (.string (Text.shown value)) wanted
    | .error cause => cause
  | .list .. => .wrongType .sequence wanted
  | .object .. => .wrongType .map wanted
  | .fault cause => cause

/-- Reads a string. -/
def Node.readString : Node → Except Fault String
  | .string quoted => quoted.value
  | node => .error (node.mismatch .string)

/-- Reads a value that may be null instead; `read` reads it when it is not. -/
def Node.orNull {α : Type} (node : Node) (read : Unit → Except Fault α) :
    Except Fault (Option α) :=
  match node with
  | .null => .ok none
  | _ => (read ()).map some

/-- Reads a value that may be null instead. -/
def Node.readOptional {α : Type} (read : Node → Except Fault α) (node : Node) :
    Except Fault (Option α) :=
  node.orNull fun _ => read node

/-- Reads a natural number below a limit, of a type with the given name. -/
def Node.readNatural (type : String) (limit : Nat) (node : Node) : Except Fault Nat :=
  match node with
  | .number literal => do
    match ← literal.value with
    | .natural value =>
      if value < limit then return value else throw (.wrongInteger value (.integer type))
    | .negative value => throw (.wrongInteger value (.integer type))
    | denoted@(.float ..) => throw (.wrongType denoted.found (.integer type))
  | node => .error (node.mismatch (.integer type))

/-! ## Ends of lists and objects -/

/-- Reading on for a further item. -/
def ListEnd.read : ListEnd → Except Fault Unit
  | .closed => .ok ()
  | .cutOff => .error (.unfinished .list)
  | .comma => .error .trailingComma
  | .other => .error .expectedCommaOrBracket

/-- Looking for the end after all values of a record given as a list. -/
def ListEnd.readRecordEnd : ListEnd → Except Fault Unit
  | .closed => .ok ()
  | .cutOff => .error (.unfinished .list)
  | .comma => .error .trailingComma
  | .other => .error .trailingCharacters

/-- Passing over the end. -/
def ListEnd.skim : ListEnd → Except Fault Unit
  | .closed => .ok ()
  | .cutOff => .error (.unfinished .list)
  | .comma => .error .expectedValue
  | .other => .error .expectedCommaOrBracket

/-- Reading on for a further member. -/
def ObjectEnd.read : ObjectEnd → Except Fault Unit
  | .closed => .ok ()
  | .cutOff => .error (.unfinished .object)
  | .commaCutOff => .error (.unfinished .value)
  | .comma => .error .trailingComma
  | .other => .error .expectedCommaOrBrace
  | .noKey => .error .keyNotString
  | .brokenKey key => key.value.map fun _ => ()

/-- Passing over the end. -/
def ObjectEnd.skim : ObjectEnd → Except Fault Unit
  | .closed => .ok ()
  | .cutOff => .error (.unfinished .object)
  | .commaCutOff => .error (.unfinished .object)
  | .comma => .error .keyNotString
  | .other => .error .expectedCommaOrBrace
  | .noKey => .error .keyNotString
  | .brokenKey key =>
    match key.broken? with
    | some fault => .error fault
    | none => .ok ()

/-! ## Values that are passed over -/

/-- Passes over a string. -/
def Quoted.skim (quoted : Quoted) : Except Fault Unit :=
  match quoted.broken? with
  | some fault => .error fault
  | none => .ok ()

mutual
/-- Passes over a value of which nothing is wanted: only its form is looked at. -/
def Node.skim : Node → Except Fault Unit
  | .null => .ok ()
  | .boolean _ => .ok ()
  | .number _ => .ok ()
  | .cutNumber => .error .invalidNumber
  | .string quoted => quoted.skim
  | .list items ending => do
    Node.skimItems items
    ending.skim
  | .object members ending => do
    Node.skimMembers members
    ending.skim
  | .fault cause => .error cause

/-- Passes over the items of a list. -/
def Node.skimItems : List Node → Except Fault Unit
  | [] => .ok ()
  | item :: rest => do
    item.skim
    Node.skimItems rest

/-- Passes over the members of an object. -/
def Node.skimMembers : List (Quoted × Node) → Except Fault Unit
  | [] => .ok ()
  | (key, value) :: rest => do
    key.skim
    value.skim
    Node.skimMembers rest
end

/-! ## Lists and tables -/

/-- How many lists and objects may still be opened; `none` where there is no limit. -/
abbrev Room := Option Nat

/-- Opens a list or an object. -/
def Room.enter : Room → Except Fault Room
  | none => .ok none
  | some 0 => .error .tooDeep
  | some (room + 1) => .ok (some room)

/-- The number of lists and objects that may be open at a time, where that is limited. -/
def Room.standard : Room := some 127

/-- Reads the items of a list. -/
def readItems {α : Type} (read : Node → Except Fault α) (ending : ListEnd) :
    List Node → Except Fault (List α)
  | [] => ending.read.map fun _ => []
  | item :: rest => do
    let value ← read item
    let values ← readItems read ending rest
    return value :: values

/-- Reads a list. -/
def Node.readList {α : Type} (room : Room) (read : Room → Node → Except Fault α) :
    Node → Except Fault (List α)
  | .list items ending => do
    let room ← room.enter
    readItems (read room) ending items
  | node => .error (node.mismatch .sequence)

/-- Reads the members of a table after those in `table`; of two members with one key the later one
counts. -/
def readMembers {α : Type} (read : Node → Except Fault α) (ending : ObjectEnd)
    (table : Table α) : List (Quoted × Node) → Except Fault (Table α)
  | [] => ending.read.map fun _ => table
  | (key, value) :: rest => do
    let key ← key.value
    let value ← read value
    readMembers read ending (table.put key value) rest

/-- Reads an object with arbitrary keys. -/
def Node.readTable {α : Type} (room : Room) (read : Room → Node → Except Fault α) :
    Node → Except Fault (Table α)
  | .object members ending => do
    let room ← room.enter
    readMembers (read room) ending .empty members
  | node => .error (node.mismatch .map)

/-! ## Records -/

/-- How records of one kind are read. A record is built up in drafts, one key at a time. -/
structure Record (Key Draft α : Type) where
  /-- The name of the kind. -/
  name : String
  /-- The keys, in the order in which a list gives their values. -/
  keys : List Key
  /-- The names of a key, of which the first is used in refusals. -/
  names : Key → List String
  /-- A record of which nothing is known. -/
  blank : Draft
  /-- Holds when a draft has a value for a key. -/
  has : Draft → Key → Bool
  /-- The record of a draft, or a key that is missing. -/
  complete : Draft → Except Key α

namespace Record

variable {Key Draft α : Type} (record : Record Key Draft α)

/-- The name of a key in refusals. -/
def keyName (key : Key) : String := (record.names key).headD ""

/-- The key with a name. -/
def key? (name : String) : Option Key :=
  record.keys.find? fun key => (record.names key).contains name

/-- The key with a name, which no draft may have a value for already. -/
def freshKey? (draft : Draft) (name : String) : Except Fault (Option Key) :=
  match record.key? name with
  | none => .ok none
  | some key =>
    if record.has draft key then .error (.duplicateField (record.keyName key)) else .ok (some key)

/-- The record of a draft whose object has ended. -/
def fromObject (draft : Draft) : Except Fault α :=
  match record.complete draft with
  | .ok value => .ok value
  | .error key => .error (.missingField (record.keyName key))

/-- The record of a draft whose list has ended after `read` values. -/
def fromList (draft : Draft) (read : Nat) : Except Fault α :=
  match record.complete draft with
  | .ok value => .ok value
  | .error _ => .error (.tooShort read record.name record.keys.length)

/-- The record of a draft whose list has no items left, where values for `keys` are missing. -/
def fromListEnd (draft : Draft) (keys : List Key) (ending : ListEnd) : Except Fault α := do
  if keys.isEmpty then
    let value ← record.fromList draft record.keys.length
    ending.readRecordEnd
    return value
  else
    ending.read
    record.fromList draft (record.keys.length - keys.length)

variable (set : Draft → Key → Node → Except Fault Draft)

/-- Reads the members of an object. -/
def readMembers (ending : ObjectEnd) (draft : Draft) : List (Quoted × Node) → Except Fault α
  | [] => do
    ending.read
    record.fromObject draft
  | (key, value) :: rest => do
    match ← record.freshKey? draft (← key.value) with
    | none =>
      value.skim
      readMembers ending draft rest
    | some key =>
      let draft ← set draft key value
      readMembers ending draft rest

/-- Reads the items of a list that gives the values of `keys`. -/
def readItems (ending : ListEnd) (draft : Draft) : List Key → List Node → Except Fault α
  | keys, [] => record.fromListEnd draft keys ending
  | [], _ :: _ => .error .trailingCharacters
  | key :: keys, item :: rest => do
    let draft ← set draft key item
    readItems ending draft keys rest

/-- Reads a record, whose values are read with `set`. -/
def read (room : Room) (set : Room → Draft → Key → Node → Except Fault Draft) :
    Node → Except Fault α
  | .object members ending => do
    let room ← room.enter
    record.readMembers (set room) ending record.blank members
  | .list items ending => do
    let room ← room.enter
    record.readItems (set room) ending record.blank record.keys items
  | node => .error (node.mismatch (.record record.name))

end Record

/-! ## Documents -/

/-- Reads a whole text, after which nothing but blanks may come. -/
def Document.read {α : Type} (read : Node → Except Fault α) (text : String) : Except Fault α := do
  let document := Document.ofText text
  let value ← read document.root
  if document.overrun then throw .trailingCharacters
  return value

end BlockScript.Json
