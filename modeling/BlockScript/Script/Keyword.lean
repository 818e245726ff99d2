/-!
# Keywords of scripts

The fixed words of the script language. Each constructor is spelled as the word itself.
-/

set_option autoImplicit false

namespace BlockScript.Script

/-- A fixed word of the script language. -/
inductive Keyword where
  | DEFINE
  | ACTION
  | ON
  | EVERY
  | DO
  | IF
  | THEN
  | ELSE
  | PUBLISH
  | TOPIC
  deriving DecidableEq, Repr

/-- The word as it stands in a script. -/
def Keyword.text : Keyword → String
  | DEFINE => "DEFINE"
  | ACTION => "ACTION"
  | ON => "ON"
  | EVERY => "EVERY"
  | DO => "DO"
  | IF => "IF"
  | THEN => "THEN"
  | ELSE => "ELSE"
  | PUBLISH => "PUBLISH"
  | TOPIC => "TOPIC"

/-- The characters of the word. -/
def Keyword.chars (keyword : Keyword) : List Char := keyword.text.toList

end BlockScript.Script
