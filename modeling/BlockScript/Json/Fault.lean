/-!
# Why a JSON text is refused

A JSON text is refused for one of three kinds of reason (`Category`): it ends too early, it is not
JSON, or it is JSON of the wrong kind for what is to be read. `Fault.message` words each reason.
-/

set_option autoImplicit false

namespace BlockScript.Json

/-- What a text is in the middle of when it ends too early. -/
inductive Unfinished where
  | list
  | object
  | string
  | value
  deriving DecidableEq, Repr

/-- A value, as a refusal names it. -/
inductive Found where
  | null
  | boolean (value : Bool)
  | integer (value : Int)
  /-- A number that is no integer, with its written form. -/
  | float (text : String)
  /-- A string, as messages show it. -/
  | string (shown : String)
  | sequence
  | map
  deriving DecidableEq, Repr

/-- What a refusal says was looked for. -/
inductive Wanted where
  | string
  | map
  | sequence
  /-- An integer of a type with the given name. -/
  | integer (type : String)
  /-- An object with fixed keys, by its name. -/
  | record (name : String)
  deriving DecidableEq, Repr

/-- The reasons for which a JSON text is refused. -/
inductive Fault where
  /-- The text ends too early. -/
  | unfinished (what : Unfinished)
  | expectedValue
  /-- A word that starts like `true`, `false` or `null` goes on differently. -/
  | expectedWord
  | expectedColon
  /-- A list goes on with neither a comma nor its end. -/
  | expectedCommaOrBracket
  /-- An object goes on with neither a comma nor its end. -/
  | expectedCommaOrBrace
  | keyNotString
  | trailingComma
  /-- Something stands after the end of the document, or of a record given as a list. -/
  | trailingCharacters
  | invalidNumber
  /-- A number is too large for 64-bit floating point. -/
  | numberOutOfRange
  | invalidEscape
  | controlCharacter
  /-- An escaped surrogate stands without the leading surrogate that belongs before it. -/
  | loneSurrogate
  /-- An escaped leading surrogate is not followed by another escape. -/
  | unpairedSurrogate
  /-- Too many lists and objects are open. -/
  | tooDeep
  /-- A value of another type stands where one is looked for. -/
  | wrongType (found : Found) (wanted : Wanted)
  /-- An integer lies outside the type that is looked for. -/
  | wrongInteger (value : Int) (wanted : Wanted)
  /-- An object lacks a key that it must have. -/
  | missingField (name : String)
  /-- An object has a key twice. -/
  | duplicateField (name : String)
  /-- A record given as a list of `read` values lacks one that it must have. -/
  | tooShort (read : Nat) (record : String) (size : Nat)
  /-- A string is no value of the type that is looked for, for a reason of that type's own. -/
  | rejected (reason : String)
  deriving DecidableEq, Repr

/-- The kinds of reason. -/
inductive Category where
  /-- The text ends too early. -/
  | truncated
  /-- The text is not JSON. -/
  | illFormed
  /-- The text is JSON of the wrong kind. -/
  | unsuitable
  deriving DecidableEq, Repr

/-- How a text goes on, in the wording of a refusal. -/
def Unfinished.describe : Unfinished → String
  | list => "a list"
  | object => "an object"
  | string => "a string"
  | value => "a value"

/-- The wording of what was found. -/
def Found.describe : Found → String
  | null => "null"
  | boolean value => s!"boolean `{value}`"
  | integer value => s!"integer `{value}`"
  | float text => s!"floating point `{text}`"
  | string shown => s!"string {shown}"
  | sequence => "sequence"
  | map => "map"

/-- The wording of what was looked for. -/
def Wanted.describe : Wanted → String
  | string => "a string"
  | map => "a map"
  | sequence => "a sequence"
  | integer type => type
  | record name => s!"struct {name}"

namespace Fault

/-- The kind of a reason. -/
def category : Fault → Category
  | unfinished _ => .truncated
  | wrongType .. | wrongInteger .. | missingField _ | duplicateField _ | tooShort .. | rejected _ =>
    .unsuitable
  | _ => .illFormed

/-- The wording of a reason. -/
def message : Fault → String
  | unfinished what => s!"EOF while parsing {what.describe}"
  | expectedValue => "expected value"
  | expectedWord => "expected ident"
  | expectedColon => "expected `:`"
  | expectedCommaOrBracket => "expected `,` or `]`"
  | expectedCommaOrBrace => "expected `,` or `\x7d`"
  | keyNotString => "key must be a string"
  | trailingComma => "trailing comma"
  | trailingCharacters => "trailing characters"
  | invalidNumber => "invalid number"
  | numberOutOfRange => "number out of range"
  | invalidEscape => "invalid escape"
  | controlCharacter => "control character (\\u0000-\\u001F) found while parsing a string"
  | loneSurrogate => "lone leading surrogate in hex escape"
  | unpairedSurrogate => "unexpected end of hex escape"
  | tooDeep => "recursion limit exceeded"
  | wrongType found wanted => s!"invalid type: {found.describe}, expected {wanted.describe}"
  | wrongInteger value wanted =>
    s!"invalid value: integer `{value}`, expected {wanted.describe}"
  | missingField name => s!"missing field `{name}`"
  | duplicateField name => s!"duplicate field `{name}`"
  | tooShort read record size =>
    s!"invalid length {read}, expected struct {record} with {size} elements"
  | rejected reason => reason

end Fault

end BlockScript.Json
