/-!
# Writing JSON

The values that this library writes hold strings, lists and tables only (`Form`). `Form.pretty`
lays one out with every item and every member on a line of its own, two spaces deeper than what
it lies in; empty lists and tables take no line. In a string, quotes, backslashes and control
characters are escaped, the usual ones by their short forms, and everything else stands for
itself.
-/

set_option autoImplicit false

namespace BlockScript.Json

/-- A value to be written. -/
inductive Form where
  | string (value : String)
  | list (items : List Form)
  | table (members : List (String × Form))

/-- A character inside a written string. -/
def escapeChar (c : Char) : List Char :=
  match c with
  | '"' => ['\\', '"']
  | '\\' => ['\\', '\\']
  | '\x08' => ['\\', 'b']
  | '\x0c' => ['\\', 'f']
  | '\n' => ['\\', 'n']
  | '\r' => ['\\', 'r']
  | '\t' => ['\\', 't']
  | c =>
    if c.toNat < 0x20 then
      ['\\', 'u', '0', '0', Nat.digitChar (c.toNat / 16), Nat.digitChar (c.toNat % 16)]
    else [c]

/-- A written string. -/
def stringChars (value : String) : List Char := '"' :: value.toList.flatMap escapeChar ++ ['"']

namespace Form

/-- The start of a line at a depth. -/
def newline (depth : Nat) : List Char := '\n' :: List.replicate (2 * depth) ' '

mutual
/-- The written form of a value at a depth. -/
def prettyAt (depth : Nat) : Form → List Char
  | .string value => stringChars value
  | .list [] => ['[', ']']
  | .list (item :: rest) =>
    '[' :: newline (depth + 1) ++ prettyAt (depth + 1) item ++ prettyItems depth rest
  | .table [] => ['\x7b', '\x7d']
  | .table ((key, value) :: rest) =>
    '\x7b' :: newline (depth + 1) ++ stringChars key ++ ':' :: ' ' :: prettyAt (depth + 1) value ++
      prettyMembers depth rest

/-- The written form of the further items of a list at a depth, up to its end. -/
def prettyItems (depth : Nat) : List Form → List Char
  | [] => newline depth ++ [']']
  | item :: rest =>
    ',' :: newline (depth + 1) ++ prettyAt (depth + 1) item ++ prettyItems depth rest

/-- The written form of the further members of a table at a depth, up to its end. -/
def prettyMembers (depth : Nat) : List (String × Form) → List Char
  | [] => newline depth ++ ['\x7d']
  | (key, value) :: rest =>
    ',' :: newline (depth + 1) ++ stringChars key ++ ':' :: ' ' :: prettyAt (depth + 1) value ++
      prettyMembers depth rest
end

/-- The text of a value. -/
def pretty (form : Form) : String := String.ofList (prettyAt 0 form)

end Form

end BlockScript.Json
