import BlockScript.Json.Number

/-!
# Saved editor documents

What a Blockly editor saves: chains of blocks. A saved block has fields of several types, inputs
into which further chains are plugged, and the block that follows it in its chain. Where a chain
goes on, there may be a block, a shadow that the editor shows in place of one, or both; the block
counts before the shadow.
-/

set_option autoImplicit false

namespace BlockScript.Blockly

/-- The value of a field. Only scalars have a meaning, so nothing else is kept of the others. -/
inductive FieldValue where
  | null
  | boolean (value : Bool)
  | number (value : Json.Number)
  | string (text : String)
  | list
  | object
  deriving DecidableEq, Repr

mutual
/-- A saved block. -/
inductive SavedBlock where
  /-- A block with its type, its id, its fields and inputs, which are tables, and what follows
  it. -/
  | mk (type : String) (id? : Option String) (fields : List (String × FieldValue))
      (inputs : List (String × Connection)) (next? : Option Connection)

/-- A place at which a chain of blocks goes on. -/
inductive Connection where
  /-- A connection with its block and its shadow. -/
  | mk (block? shadow? : Option SavedBlock)
end

/-- The block at which a chain goes on. -/
def Connection.block? : Connection → Option SavedBlock
  | .mk block? shadow? => block?.or shadow?

/-- The blocks of a document. -/
structure BlockList where
  /-- The version of the editor's format, which makes no difference. -/
  languageVersion : Nat
  /-- The first block of each chain. -/
  chains : List SavedBlock

/-- A saved document. -/
structure SavedDocument where
  /-- The blocks, where the document has a section for them. -/
  blocks? : Option BlockList

end BlockScript.Blockly
