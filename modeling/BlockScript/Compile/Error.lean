import BlockScript.Block.Path
import BlockScript.Duration
import BlockScript.Json.Fault

/-!
# Why a workspace cannot be compiled

An error is about the text of a workspace, about the configuration of the compiler, or about one
block, which it names by its path. `Compile.Error.message` words it.
-/

set_option autoImplicit false

namespace BlockScript

/-! ## Errors about a text -/

/-- A field of a block, or an input, which holds further blocks. -/
inductive RawMember where
  | field
  | input
  deriving DecidableEq, Repr

/-- The word for a field or an input. -/
def RawMember.describe : RawMember → String
  | field => "field"
  | input => "input"

/-- The reasons for which a text denotes no workspace. -/
inductive Malformed where
  /-- It cannot be read. -/
  | unreadable (fault : Json.Fault)
  /-- A field holds something else than a string, a number or a truth value. -/
  | notScalar (field blockType : String)
  /-- Two names differ in letter case only. -/
  | collision (member : RawMember) (name blockType : String)
  deriving DecidableEq, Repr

/-- The wording of a reason. -/
def Malformed.message : Malformed → String
  | unreadable fault => fault.message
  | notScalar field blockType => s!"field '{field}' of block '{blockType}' holds a non-scalar value"
  | collision member name blockType =>
    s!"{member.describe} '{name}' of block '{blockType}' collides with another " ++
      s!"{member.describe} when names are lower-cased"

/-! ## Errors about the configuration -/

/-- The reasons for which a configuration cannot be used. -/
inductive Misconfigured where
  /-- The name of the default action is no identifier. -/
  | defaultName (name : String)
  /-- The indent width is not a permitted one. -/
  | indentWidth (spaces : Nat)
  deriving DecidableEq, Repr

/-- The wording of a reason. -/
def Misconfigured.message : Misconfigured → String
  | defaultName name => s!"default action name '{name}' is not a valid identifier"
  | indentWidth spaces => s!"indent_width must be between 1 and 16, got {spaces}"

/-! ## Errors about a block -/

/-- What else declares the name of an action. -/
inductive Declaration where
  /-- An earlier action. -/
  | action (path : Block.Path)
  /-- The action that is made for the statements outside every action. -/
  | default
  deriving DecidableEq, Repr

/-- The reasons for which the text of a field is refused. -/
inductive FieldFault where
  /-- The name of an action is no identifier. -/
  | notIdentifier (name : String)
  /-- The trigger interval of an action cannot be read. -/
  | duration (fault : Duration.ReadError)
  | emptyCondition
  /-- A condition has a line end in it. -/
  | brokenCondition
  | emptyTopic
  /-- The name of an action is the name of another one. -/
  | duplicateAction (name : String) (declaration : Declaration)
  deriving DecidableEq, Repr

/-- The wording of what declares a name. -/
def Declaration.describe : Declaration → String
  | action path => s!"an action at {path.text}"
  | default => "the default action wrapping loose top-level blocks"

/-- The wording of a reason. -/
def FieldFault.message : FieldFault → String
  | notIdentifier name => s!"'{name}' is not a valid action identifier"
  | duration fault => fault.message
  | emptyCondition => "condition must not be empty"
  | brokenCondition => "condition must fit on a single line"
  | emptyTopic => "topic must not be empty"
  | duplicateAction name declaration =>
    s!"action '{name}' is already declared by {declaration.describe}"

/-- The reasons for which a block cannot be compiled. -/
inductive BlockFault where
  /-- No kind has the type of the block. -/
  | unknownType (type : String)
  /-- The block lacks a field that its kind requires. -/
  | missingField (type field : String)
  /-- The block lacks a slot that its kind requires, or has no statement there. -/
  | missingSlot (type slot : String)
  /-- The block has a field that its kind does not have. -/
  | unknownField (type field : String)
  /-- The block has a slot that its kind does not have. -/
  | unknownSlot (type slot : String)
  /-- The text of a field is refused. -/
  | invalidField (field : String) (fault : FieldFault)
  /-- The block is an action and lies in a slot. -/
  | misplaced (type : String)
  deriving DecidableEq, Repr

/-- The wording of a reason, for the block at a path. -/
def BlockFault.message (path : Block.Path) : BlockFault → String
  | unknownType type => s!"Block at {path.text} has an unknown block type: '{type}'"
  | missingField type field =>
    s!"Block '{type}' at {path.text} is missing required field '{field}'"
  | missingSlot type slot =>
    s!"Block '{type}' at {path.text} is missing required slot '{slot}' (or it is empty)"
  | unknownField type field =>
    s!"Block '{type}' at {path.text} has a field '{field}' that its type does not declare"
  | unknownSlot type slot =>
    s!"Block '{type}' at {path.text} has a slot '{slot}' that its type does not declare"
  | invalidField field fault =>
    s!"Field '{field}' of block at {path.text} is invalid: {fault.message}"
  | misplaced type =>
    s!"Block '{type}' at {path.text} is not allowed here: " ++
      "actions may only appear at the top level of the workspace"

/-! ## All errors -/

/-- The reasons for which a workspace cannot be compiled. -/
inductive Compile.Error where
  /-- The text of the workspace denotes none. -/
  | malformed (reason : Malformed)
  /-- The configuration of the compiler cannot be used. -/
  | misconfigured (reason : Misconfigured)
  /-- The block at a path cannot be compiled. -/
  | block (path : Block.Path) (fault : BlockFault)
  deriving DecidableEq, Repr

namespace Compile.Error

/-- The path of the block that an error is about. -/
def path? : Compile.Error → Option Block.Path
  | block path _ => some path
  | malformed _ | misconfigured _ => none

/-- The wording of an error. -/
def message : Compile.Error → String
  | malformed reason => s!"Malformed block graph: {reason.message}"
  | misconfigured reason => s!"Invalid compiler configuration: {reason.message}"
  | block path fault => fault.message path

end Compile.Error

end BlockScript
