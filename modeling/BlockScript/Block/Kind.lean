import BlockScript.Block.Basic

/-!
# Kinds of blocks

The four kinds of blocks that can be compiled, and what a block of each kind has: its fields and
its slots, of which some are required. A required slot must hold at least one block.
-/

set_option autoImplicit false

namespace BlockScript

/-- A kind of blocks that can be compiled. -/
inductive Block.Kind where
  /-- A named action with a trigger interval and a body. -/
  | action
  /-- A conditional with one or two branches. -/
  | conditional
  /-- A publishing statement. -/
  | publish
  /-- A group of statements, which stands for the statements in it. -/
  | sequence
  deriving DecidableEq, Repr

/-- A field or a slot of a kind. -/
structure Member where
  /-- The name of the field or slot. -/
  name : String
  /-- A block must have it. -/
  required : Bool
  deriving DecidableEq, Repr

/-- What the blocks of a kind have. -/
structure Schema where
  /-- The fields. -/
  fields : List Member
  /-- The slots. -/
  slots : List Member
  deriving DecidableEq, Repr

namespace Schema

/-- The field with a name. -/
def field? (schema : Schema) (name : String) : Option Member :=
  schema.fields.find? (·.name == name)

/-- The slot with a name. -/
def slot? (schema : Schema) (name : String) : Option Member :=
  schema.slots.find? (·.name == name)

end Schema

namespace Block.Kind

/-- Every kind. -/
def all : List Block.Kind := [action, conditional, publish, sequence]

/-- The type name that stands for a kind without further ado. -/
def typeName : Block.Kind → String
  | action => "action"
  | conditional => "if"
  | publish => "publish"
  | sequence => "statementSequence"

/-- The kind for which a type name stands without further ado. -/
def ofTypeName? (name : String) : Option Block.Kind := all.find? (·.typeName == name)

/-- A kind is named by its own type name, so no two kinds share one. -/
theorem ofTypeName?_typeName (kind : Block.Kind) : ofTypeName? kind.typeName = some kind := by
  cases kind <;> decide

/-- What the blocks of a kind have. -/
def schema : Block.Kind → Schema
  | action => ⟨[⟨"name", true⟩, ⟨"every", true⟩], [⟨"do", true⟩]⟩
  | conditional => ⟨[⟨"condition", true⟩], [⟨"then", true⟩, ⟨"else", false⟩]⟩
  | publish => ⟨[⟨"topic", true⟩, ⟨"payload", true⟩], []⟩
  | sequence => ⟨[], [⟨"statements", false⟩]⟩

/-- Holds of the kinds whose blocks may lie in a slot. -/
def isStatement (kind : Block.Kind) : Bool := kind != action

end Block.Kind

end BlockScript
