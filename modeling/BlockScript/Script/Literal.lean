/-!
# String literals and identifiers of scripts

A topic or a payload stands in a script between double quotes, on one line. `quote` writes such a
literal: five characters, those that would end the literal or its line, are written as a backslash
and a letter or mark. `unquote` reads one literal at the start of a text and hands back the text
after it; a literal may also hold raw tabs and line ends, which `quote` never writes.
-/

set_option autoImplicit false

namespace BlockScript.Script

/-! ## Writing -/

/-- A character inside a literal. -/
def escapeChar (c : Char) : List Char :=
  match c with
  | '"' => ['\\', '"']
  | '\\' => ['\\', '\\']
  | '\n' => ['\\', 'n']
  | '\r' => ['\\', 'r']
  | '\t' => ['\\', 't']
  | c => [c]

/-- The characters of the literal that stands for a text. -/
def quoteChars (cs : List Char) : List Char := '"' :: cs.flatMap escapeChar ++ ['"']

/-- The literal that stands for a text. -/
def quote (value : String) : String := String.ofList (quoteChars value.toList)

/-! ## Reading -/

/-- The ways in which a text does not start with a literal. -/
inductive LiteralError where
  /-- Another character stands where the opening quote belongs. -/
  | noQuote (found : Char)
  /-- The text ends where the opening quote belongs. -/
  | noText
  /-- A backslash stands before a character that it cannot stand before. -/
  | unknownEscape (c : Char)
  /-- The closing quote is missing. -/
  | unterminated
  deriving DecidableEq, Repr

/-- The wording of a refusal. -/
def LiteralError.message : LiteralError → String
  | noQuote found => s!"expected '\"', found '{found}'"
  | noText => "expected '\"', found end of line"
  | unknownEscape c => s!"unknown escape sequence '\\{c}'"
  | unterminated => "unterminated string literal"

/-- The character for which a backslash and `c` stand. -/
def unescape? (c : Char) : Option Char :=
  match c with
  | '"' => some '"'
  | '\\' => some '\\'
  | 'n' => some '\n'
  | 'r' => some '\r'
  | 't' => some '\t'
  | _ => none

/-- Reads on inside a literal whose value so far is `value`, last character first: the whole value
and the text after the closing quote. -/
def unquoteAfter (value : List Char) : List Char → Except LiteralError (List Char × List Char)
  | [] => .error .unterminated
  | '"' :: rest => .ok (value.reverse, rest)
  | ['\\'] => .error .unterminated
  | '\\' :: c :: rest =>
    match unescape? c with
    | some decoded => unquoteAfter (decoded :: value) rest
    | none => .error (.unknownEscape c)
  | c :: rest => unquoteAfter (c :: value) rest

/-- Reads the literal at the start of a text: its value and the text after it. -/
def unquoteChars : List Char → Except LiteralError (List Char × List Char)
  | [] => .error .noText
  | '"' :: rest => unquoteAfter [] rest
  | c :: _ => .error (.noQuote c)

/-- Reads the literal at the start of a text: its value and the text after it. -/
def unquote (text : String) : Except LiteralError (String × String) :=
  (unquoteChars text.toList).map fun (value, rest) => (String.ofList value, String.ofList rest)

/-! ## Identifiers -/

/-- The characters with which an identifier starts: ASCII letters and the underscore. -/
def startsIdentifier (c : Char) : Bool := c.isAlpha || c == '_'

/-- The characters with which an identifier goes on: those and the ASCII digits. -/
def continuesIdentifier (c : Char) : Bool := c.isAlphanum || c == '_'

/-- Holds of the texts that can name an action. -/
def isIdentifierChars : List Char → Bool
  | [] => false
  | c :: cs => startsIdentifier c && cs.all continuesIdentifier

/-- Holds of the texts that can name an action. -/
def isIdentifier (name : String) : Bool := isIdentifierChars name.toList

end BlockScript.Script
