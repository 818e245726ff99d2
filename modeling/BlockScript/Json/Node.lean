import BlockScript.Json.Number
import BlockScript.Json.Quoted

/-!
# JSON texts as trees

A text is refused at the first place that does not fit, and what fits depends on what is being
read: a list ends one way when its items are read, another when it stands for a record, a third
when it is merely passed over. A tree therefore keeps the place where a text stops being JSON, and
says what stands there instead of why it is wrong: `Node.fault` where no value could be found,
`ListEnd` and `ObjectEnd` where a list or an object does not go on as it should. Nothing after
such a place is kept.

A tree is read in the order of its text, so the first complaint of a reader is about the first
place at which the text does not fit.
-/

set_option autoImplicit false

namespace BlockScript.Json

/-- What stands after the last item of a list. -/
inductive ListEnd where
  /-- The closing bracket. -/
  | closed
  /-- Nothing; the text ends. -/
  | cutOff
  /-- A comma and then the closing bracket. -/
  | comma
  /-- Something else. -/
  | other
  deriving DecidableEq, Repr

/-- What stands after the last member of an object. -/
inductive ObjectEnd where
  /-- The closing brace. -/
  | closed
  /-- Nothing; the text ends. -/
  | cutOff
  /-- A comma, after which the text ends. -/
  | commaCutOff
  /-- A comma and then the closing brace. -/
  | comma
  /-- Something else than a comma, after a member. -/
  | other
  /-- Something else than a string, where a key belongs. -/
  | noKey
  /-- A key that breaks off. -/
  | brokenKey (key : Quoted)

/-- A JSON text up to the first place where it is none. -/
inductive Node where
  | null
  | boolean (value : Bool)
  | number (literal : NumberLiteral)
  /-- A number in the middle of which the text ends. -/
  | cutNumber
  | string (quoted : Quoted)
  | list (items : List Node) (ending : ListEnd)
  | object (members : List (Quoted × Node)) (ending : ObjectEnd)
  /-- No value; nothing after this place is kept. -/
  | fault (fault : Fault)

/-- A whole text: its value, and whether anything but blanks follows it. -/
structure Document where
  /-- The value. -/
  root : Node
  /-- Something follows the value. -/
  overrun : Bool

end BlockScript.Json
