import BlockScript.Table

/-!
# Blocks and workspaces

A block graph as an editor assembles it: a workspace is a sequence of blocks, and a block has a
type, named texts (its fields) and named sequences of further blocks (its slots). A block owns the
blocks in its slots, so the graph is a forest.

Fields and slots are tables, as in `Table`; `Block.Ordered` says so of a block and everything in
it.
-/

set_option autoImplicit false

namespace BlockScript

/-- A visual block. -/
structure Block where
  /-- The type, by a name that is the editor's own. -/
  type : String
  /-- The name by which the editor knows the block. -/
  id? : Option String
  /-- The named texts of the block, a table. -/
  fields : List (String × String)
  /-- The named sequences of blocks inside the block, a table. -/
  slots : List (String × List Block)

/-- The blocks of an editor, in order. -/
structure Workspace where
  /-- The blocks that lie in no other block. -/
  blocks : List Block

/-! ## Equality -/

mutual
/-- Equality of blocks is decided slot by slot. -/
def Block.decEq : (a b : Block) → Decidable (a = b)
  | ⟨type, id?, fields, slots⟩, ⟨type', id?', fields', slots'⟩ =>
    if same : type = type' ∧ id? = id?' ∧ fields = fields' then
      match Block.decEqSlots slots slots' with
      | isTrue sameSlots => isTrue (by simp [same, sameSlots])
      | isFalse differ => isFalse (by simp [differ])
    else isFalse fun equal => by cases equal; exact same ⟨rfl, rfl, rfl⟩

/-- Equality of tables of slots. -/
def Block.decEqSlots : (a b : List (String × List Block)) → Decidable (a = b)
  | [], [] => isTrue rfl
  | [], _ :: _ => isFalse nofun
  | _ :: _, [] => isFalse nofun
  | (name, blocks) :: a, (name', blocks') :: b =>
    if same : name = name' then
      match Block.decEqList blocks blocks' with
      | isFalse differ => isFalse (by simp [differ])
      | isTrue sameBlocks =>
        match Block.decEqSlots a b with
        | isFalse differ => isFalse (by simp [differ])
        | isTrue sameRest => isTrue (by simp [same, sameBlocks, sameRest])
    else isFalse (by simp [same])

/-- Equality of sequences of blocks. -/
def Block.decEqList : (a b : List Block) → Decidable (a = b)
  | [], [] => isTrue rfl
  | [], _ :: _ => isFalse nofun
  | _ :: _, [] => isFalse nofun
  | x :: a, y :: b =>
    match Block.decEq x y with
    | isFalse differ => isFalse (by simp [differ])
    | isTrue sameHead =>
      match Block.decEqList a b with
      | isFalse differ => isFalse (by simp [differ])
      | isTrue sameRest => isTrue (by simp [sameHead, sameRest])
end

instance : DecidableEq Block := Block.decEq

deriving instance DecidableEq for Workspace

/-! ## Building and looking -/

namespace Block

/-- A block of the given type with nothing in it. -/
def ofType (type : String) : Block := ⟨type, none, [], []⟩

/-- The block with a name for the editor. -/
def withId (block : Block) (id : String) : Block := { block with id? := some id }

/-- The block with a text for a field. -/
def withField (block : Block) (name value : String) : Block :=
  { block with fields := Table.insert name value block.fields }

/-- The block without a field. -/
def withoutField (block : Block) (name : String) : Block :=
  { block with fields := Table.erase name block.fields }

/-- The block with a sequence of blocks in a slot. -/
def withSlot (block : Block) (name : String) (blocks : List Block) : Block :=
  { block with slots := Table.insert name blocks block.slots }

/-- The text of a field. -/
def field? (block : Block) (name : String) : Option String := block.fields.lookup name

/-- The blocks in a slot. -/
def slot? (block : Block) (name : String) : Option (List Block) := block.slots.lookup name

end Block

/-! ## Tables throughout -/

mutual
/-- The fields and slots of a block, and of every block in it, are tables. -/
def Block.Ordered : Block → Prop
  | ⟨_, _, fields, slots⟩ => Table.Ordered fields ∧ Table.Ordered slots ∧ Block.OrderedSlots slots

/-- Every block in a table of slots is ordered. -/
def Block.OrderedSlots : List (String × List Block) → Prop
  | [] => True
  | (_, blocks) :: rest => Block.OrderedList blocks ∧ Block.OrderedSlots rest

/-- Every block of a sequence is ordered. -/
def Block.OrderedList : List Block → Prop
  | [] => True
  | block :: rest => block.Ordered ∧ Block.OrderedList rest
end

namespace Workspace

/-- The workspace without blocks. -/
def empty : Workspace := ⟨[]⟩

/-- Holds of the workspace without blocks. -/
def isEmpty (workspace : Workspace) : Bool := workspace.blocks.isEmpty

/-- Every block of the workspace is ordered. -/
def Ordered (workspace : Workspace) : Prop := Block.OrderedList workspace.blocks

/-! ## Editing -/

/-- The workspace with a further block at its end. -/
def add (workspace : Workspace) (block : Block) : Workspace := ⟨workspace.blocks ++ [block]⟩

/-- The workspace with a block at a place replaced; `none` where no block is there. -/
def modify? (workspace : Workspace) (index : Nat) (edit : Block → Block) : Option Workspace :=
  if index < workspace.blocks.length then some ⟨workspace.blocks.modify index edit⟩ else none

/-- The workspace without the block at a place; `none` where no block is there. -/
def remove? (workspace : Workspace) (index : Nat) : Option Workspace :=
  if index < workspace.blocks.length then some ⟨workspace.blocks.eraseIdx index⟩ else none

/-- The workspace with the block at a place and the first one exchanged; `none` where no block is
there. -/
def swapWithFirst? (workspace : Workspace) (index : Nat) : Option Workspace :=
  match workspace.blocks, workspace.blocks[index]? with
  | first :: _, some block => some ⟨(workspace.blocks.set index first).set 0 block⟩
  | _, _ => none

end Workspace

end BlockScript
