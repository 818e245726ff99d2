import BlockScript.Block.Basic

/-!
# Paths

Where a block lies in a workspace: the way from the workspace to the block, one step for every
sequence of blocks on it. Errors name the block that they are about by the text of its path, such
as `workspace[0].then[1]`.
-/

set_option autoImplicit false

namespace BlockScript

/-- One step of a path, into a sequence of blocks. -/
structure Block.Path.Step where
  /-- The slot that holds the sequence; none for the blocks of the workspace itself. -/
  slot? : Option String
  /-- The place of the block in the sequence, from zero on. -/
  index : Nat
  deriving DecidableEq, Repr

/-- The way from a workspace to a block. -/
structure Block.Path where
  /-- The steps, outermost first. -/
  steps : List Block.Path.Step
  deriving DecidableEq, Repr

namespace Block.Path

/-- The workspace itself. -/
def root : Block.Path := ⟨[]⟩

/-- A block of the workspace. -/
def topLevel (index : Nat) : Block.Path := ⟨[⟨none, index⟩]⟩

/-- A block in a slot of the block at a path. -/
def child (path : Block.Path) (slot : String) (index : Nat) : Block.Path :=
  ⟨path.steps ++ [⟨some slot, index⟩]⟩

/-- The number of steps. -/
def depth (path : Block.Path) : Nat := path.steps.length

/-- The text of a step. -/
def stepText (step : Block.Path.Step) : String :=
  match step.slot? with
  | some slot => "." ++ slot ++ "[" ++ step.index.repr ++ "]"
  | none => "[" ++ step.index.repr ++ "]"

/-- The text of a path. -/
def text (path : Block.Path) : String :=
  "workspace" ++ String.join (path.steps.map stepText)

end Block.Path

end BlockScript
