import BlockScript.Json.Fault

/-!
# JSON strings

A string may be read for its value or merely passed over. Both look at every character: escapes
must be known ones, four hexadecimal digits must follow `\u`, and control characters are refused.
Reading asks in addition that escaped surrogates come in pairs, so a string can be passed over that
cannot be read. `QuotedScan` goes through a string one character at a time for both at once, and
`Quoted` is what is known of it in the end.
-/

set_option autoImplicit false

namespace BlockScript.Json

/-- A string of a JSON text, or as much of it as there is. -/
structure Quoted where
  /-- The value of the string, or why it cannot be read. -/
  value : Except Fault String
  /-- Why the string cannot even be passed over, where that is so. -/
  broken? : Option Fault

/-- What the next character of a string belongs to. -/
inductive QuotedMode where
  /-- The string itself. -/
  | plain
  /-- An escape, after its backslash. -/
  | escape
  /-- The four bytes after `\u`, of which `bytes` have been read. They make up `code` while they
  are hexadecimal digits. -/
  | hex (bytes : Nat) (code : Option Nat)
  deriving DecidableEq, Repr

/-- A string up to some character. -/
structure QuotedScan where
  /-- The value so far, last character first, or why it cannot be read. -/
  value : Except Fault (List Char)
  /-- An escaped leading surrogate directly before, which waits for the other half of its pair. -/
  leading? : Option Nat
  /-- What the next character belongs to. -/
  mode : QuotedMode

/-- What a further character does to a string. -/
inductive QuotedStep where
  /-- It goes on with the string. -/
  | more (scan : QuotedScan)
  /-- It ends the string. -/
  | done (quoted : Quoted)

/-- The character for which a backslash and `c` stand. -/
def unescape? (c : Char) : Option Char :=
  match c with
  | '"' => some '"'
  | '\\' => some '\\'
  | '/' => some '/'
  | 'b' => some '\x08'
  | 'f' => some '\x0c'
  | 'n' => some '\n'
  | 'r' => some '\r'
  | 't' => some '\t'
  | _ => none

/-- The value of a hexadecimal digit. -/
def hexDigit? (c : Char) : Option Nat :=
  if c.isDigit then some (c.toNat - '0'.toNat)
  else if 'a' ≤ c ∧ c ≤ 'f' then some (c.toNat - 'a'.toNat + 10)
  else if 'A' ≤ c ∧ c ≤ 'F' then some (c.toNat - 'A'.toNat + 10)
  else none

/-- Holds of the code units that start a surrogate pair. -/
def isLeading (code : Nat) : Bool := decide (0xD800 ≤ code) && decide (code ≤ 0xDBFF)

/-- Holds of the code units that end a surrogate pair. -/
def isTrailing (code : Nat) : Bool := decide (0xDC00 ≤ code) && decide (code ≤ 0xDFFF)

/-- The character that a surrogate pair stands for. -/
def pairedChar (leading trailing : Nat) : Char :=
  Char.ofNat ((leading - 0xD800) * 0x400 + (trailing - 0xDC00) + 0x10000)

namespace QuotedScan

/-- A string at its opening quote. -/
def start : QuotedScan := ⟨.ok [], none, .plain⟩

/-- Notes why the string cannot be read, unless that is known already. -/
def spoil (scan : QuotedScan) (fault : Fault) : QuotedScan :=
  match scan.value with
  | .ok _ => { scan with value := .error fault, leading? := none }
  | .error _ => { scan with leading? := none }

/-- Adds a character to the value. -/
def push (scan : QuotedScan) (c : Char) : QuotedScan :=
  { value := scan.value.map (c :: ·), leading? := none, mode := .plain }

/-- A string that ends here. -/
def finish (scan : QuotedScan) : Quoted :=
  ⟨scan.value.map fun chars => String.ofList chars.reverse, none⟩

/-- A string that cannot go on, for a reason that holds also when it is passed over. -/
def breakOff (scan : QuotedScan) (fault : Fault) : Quoted :=
  ⟨(scan.spoil fault).value.map fun chars => String.ofList chars.reverse, some fault⟩

/-- Adds a code unit given by an escape. -/
def pushCode (scan : QuotedScan) (code : Nat) : QuotedScan :=
  let scan := { scan with mode := .plain }
  match scan.leading? with
  | some leading =>
    if isTrailing code then scan.push (pairedChar leading code) else scan.spoil .loneSurrogate
  | none =>
    if isTrailing code then scan.spoil .loneSurrogate
    else if isLeading code then { scan with leading? := some code }
    else scan.push (Char.ofNat code)

/-- Gives up a leading surrogate, where there is one, as no escape of a code unit follows it. -/
def unpaired (scan : QuotedScan) : QuotedScan :=
  if scan.leading?.isSome then scan.spoil .unpairedSurrogate else scan

/-- One further character. -/
def step (scan : QuotedScan) (c : Char) : QuotedStep :=
  match scan.mode with
  | .plain =>
    if c = '\\' then .more { scan with mode := .escape }
    else
      let scan := scan.unpaired
      if c = '"' then .done scan.finish
      else if c.toNat < 0x20 then .done (scan.breakOff .controlCharacter)
      else .more (scan.push c)
  | .escape =>
    if c = 'u' then .more { scan with mode := .hex 0 (some 0) }
    else
      let scan := scan.unpaired
      match unescape? c with
      | some decoded => .more (scan.push decoded)
      | none => .done (scan.breakOff .invalidEscape)
  | .hex bytes code =>
    let bytes := bytes + c.utf8Size
    let code := do return (← code) * 16 + (← hexDigit? c)
    if bytes < 4 then .more { scan with mode := .hex bytes code }
    else match code with
      | some code => .more (scan.pushCode code)
      | none => .done (scan.breakOff .invalidEscape)

/-- A string in which the text ends. -/
def cutOff (scan : QuotedScan) : Quoted := scan.breakOff (.unfinished .string)

end QuotedScan

end BlockScript.Json
