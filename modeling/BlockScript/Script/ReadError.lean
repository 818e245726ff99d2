import BlockScript.Script.Keyword
import BlockScript.Script.Line
import BlockScript.Script.Literal

/-!
# Why a script cannot be read

The reader of scripts refuses a text at one line, for one of the reasons in `ReadFault`;
`ReadError.message` words the refusal.
-/

set_option autoImplicit false

namespace BlockScript.Script

/-- What the reader looks for where it finds something else. -/
inductive Expected where
  /-- A fixed word. -/
  | word (keyword : Keyword)
  | actionName
  | duration
  | endOfLine
  /-- The start of a statement. -/
  | statement
  /-- The `THEN` that ends the line of an `IF`. -/
  | thenAtEnd
  | condition
  | spaceBeforeTopic
  | spaceBeforePayload
  deriving DecidableEq, Repr

/-- The wording of what is looked for. -/
def Expected.describe : Expected → String
  | word keyword => keyword.text
  | actionName => "action name"
  | duration => "duration"
  | endOfLine => "end of line"
  | statement => "IF or PUBLISH TOPIC"
  | thenAtEnd => "THEN at end of line"
  | condition => "condition"
  | spaceBeforeTopic => "space before topic"
  | spaceBeforePayload => "space before payload"

/-- The reasons for which a line cannot be read. -/
inductive ReadFault where
  /-- Something else stands where the reader looks for a thing. -/
  | unexpected (expected : Expected) (found : String)
  /-- The indentation is no whole number of levels. -/
  | indent (fault : IndentError)
  /-- A line outside every action is indented. -/
  | indentedHeader
  /-- A line lies deeper than the block that it stands in. -/
  | tooDeep (depth : Nat)
  /-- A string literal cannot be read. -/
  | literal (fault : LiteralError)
  /-- A trigger interval cannot be read. -/
  | duration (text : String)
  /-- A block, opened by the given word, has no statement. -/
  | emptyBlock (opener : Keyword)
  deriving DecidableEq, Repr

/-- The wording of a reason. -/
def ReadFault.message : ReadFault → String
  | unexpected expected found => s!"expected {expected.describe}, found {found}"
  | indent fault => fault.message
  | indentedHeader => "an action header must not be indented"
  | tooDeep depth => s!"unexpected indentation (expected depth {depth})"
  | literal fault => s!"invalid string literal: {fault.message}"
  | duration text => s!"invalid duration '{text}'"
  | emptyBlock opener => s!"'{opener.text}' must be followed by at least one statement"

/-- A refusal: the line that cannot be read, counted from one, and the reason. -/
structure ReadError where
  /-- The number of the line. -/
  line : Nat
  /-- The reason. -/
  fault : ReadFault
  deriving DecidableEq, Repr

/-- The wording of a refusal. -/
def ReadError.message (error : ReadError) : String :=
  s!"line {error.line}: {error.fault.message}"

end BlockScript.Script
