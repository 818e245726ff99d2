import BlockScript.Json.Node

/-!
# From text to tree

`Document.ofText` makes a tree of a text by a single pass over its characters. The state of the
pass (`Scan`) is the list of what is open around the current place, innermost first, and what may
come next there. Each character takes a state to a state; at the end of the text, and where the
text cannot go on, what is open is closed around what there is.
-/

set_option autoImplicit false

namespace BlockScript.Json

/-- What is open around a value that is still to come. -/
inductive Frame where
  /-- A list, with its items so far, last first. -/
  | list (items : List Node)
  /-- An object, with its members so far, last first, and the key of the value to come. -/
  | object (members : List (Quoted × Node)) (key : Quoted)

/-- How far a text has been read. -/
inductive Scan where
  /-- A value may come, or the end of a list that has no items yet. -/
  | value (stack : List Frame)
  /-- A comma or the end of a list may come. -/
  | afterItem (items : List Node) (stack : List Frame)
  /-- A key may come, or the end of an object that has no members yet. -/
  | key (members : List (Quoted × Node)) (stack : List Frame)
  /-- A colon may come, after a key. -/
  | colon (members : List (Quoted × Node)) (key : Quoted) (stack : List Frame)
  /-- A comma or the end of an object may come. -/
  | afterMember (members : List (Quoted × Node)) (stack : List Frame)
  /-- Inside a word that stands for a node: the next letter, and the letters after it. -/
  | word (next : Char) (rest : List Char) (node : Node) (stack : List Frame)
  /-- Inside a number. -/
  | number (scan : NumberScan) (stack : List Frame)
  /-- Inside a string. -/
  | string (scan : QuotedScan) (stack : List Frame)
  /-- Inside a key. -/
  | keyString (scan : QuotedScan) (members : List (Quoted × Node)) (stack : List Frame)
  /-- After the value of the document, where only blanks may come. -/
  | ended (root : Node)
  /-- After something else has come there. -/
  | overrun (root : Node)
  /-- After a place where the text cannot go on. -/
  | stopped (root : Node)

namespace Scan

/-- The white space of JSON. -/
def isSpace (c : Char) : Bool := c == ' ' || c == '\t' || c == '\n' || c == '\r'

/-- A text before its first character. -/
def start : Scan := .value []

/-- Goes on after a complete value. -/
def deliver (node : Node) : List Frame → Scan
  | [] => .ended node
  | .list items :: stack => .afterItem (node :: items) stack
  | .object members name :: stack => .afterMember ((name, node) :: members) stack

/-- Closes everything around a value after which nothing is kept. -/
def plug (node : Node) : List Frame → Node
  | [] => node
  | .list items :: stack => plug (.list (node :: items).reverse .cutOff) stack
  | .object members name :: stack => plug (.object ((name, node) :: members).reverse .cutOff) stack

/-- Stops at a value after which nothing is kept. -/
def stop (node : Node) (stack : List Frame) : Scan := .stopped (plug node stack)

/-- Starts a value with its first character. -/
def startValue (c : Char) (stack : List Frame) : Scan :=
  if c = '"' then .string .start stack
  else if c = '[' then .value (.list [] :: stack)
  else if c = '{' then .key [] stack
  else if c = 't' then .word 'r' ['u', 'e'] (.boolean true) stack
  else if c = 'f' then .word 'a' ['l', 's', 'e'] (.boolean false) stack
  else if c = 'n' then .word 'u' ['l', 'l'] .null stack
  else if c = '-' ∨ c.isDigit then .number (.start c) stack
  else if c = ']' then
    match stack with
    | .list [] :: stack => deliver (.list [] .closed) stack
    | .list items :: stack => stop (.list items.reverse .comma) stack
    | stack => stop (.fault .expectedValue) stack
  else stop (.fault .expectedValue) stack

/-- A character that belongs to no number, word or string. -/
def between (scan : Scan) (c : Char) : Scan :=
  if isSpace c then scan
  else match scan with
    | .value stack => startValue c stack
    | .afterItem items stack =>
      if c = ',' then .value (.list items :: stack)
      else if c = ']' then deliver (.list items.reverse .closed) stack
      else stop (.list items.reverse .other) stack
    | .key members stack =>
      if c = '"' then .keyString .start members stack
      else if c = '}' then
        if members.isEmpty then deliver (.object [] .closed) stack
        else stop (.object members.reverse .comma) stack
      else stop (.object members.reverse .noKey) stack
    | .colon members name stack =>
      if c = ':' then .value (.object members name :: stack)
      else stop (.fault .expectedColon) (.object members name :: stack)
    | .afterMember members stack =>
      if c = ',' then .key members stack
      else if c = '}' then deliver (.object members.reverse .closed) stack
      else stop (.object members.reverse .other) stack
    | .ended root => .overrun root
    | scan => scan

/-- One further character. -/
def step (scan : Scan) (c : Char) : Scan :=
  match scan with
  | .word next rest node stack =>
    if c = next then
      match rest with
      | [] => deliver node stack
      | next :: rest => .word next rest node stack
    else stop (.fault .expectedWord) stack
  | .number numeral stack =>
    match numeral.step c with
    | .more numeral => .number numeral stack
    | .done => between (deliver (.number numeral.literal) stack) c
    | .bad => stop (.fault .invalidNumber) stack
  | .string text stack =>
    match text.step c with
    | .more text => .string text stack
    | .done quoted =>
      if quoted.broken?.isSome then stop (.string quoted) stack else deliver (.string quoted) stack
  | .keyString text members stack =>
    match text.step c with
    | .more text => .keyString text members stack
    | .done quoted =>
      if quoted.broken?.isSome then stop (.object members.reverse (.brokenKey quoted)) stack
      else .colon members quoted stack
  | scan => between scan c

/-- The tree of a text that ends here. -/
def finish : Scan → Document
  | .value stack =>
    match stack with
    | .list [] :: stack => ⟨plug (.list [] .cutOff) stack, false⟩
    | stack => ⟨plug (.fault (.unfinished .value)) stack, false⟩
  | .afterItem items stack => ⟨plug (.list items.reverse .cutOff) stack, false⟩
  | .key members stack =>
    ⟨plug (.object members.reverse (if members.isEmpty then .cutOff else .commaCutOff)) stack,
      false⟩
  | .colon members name stack =>
    ⟨plug (.fault (.unfinished .object)) (.object members name :: stack), false⟩
  | .afterMember members stack => ⟨plug (.object members.reverse .cutOff) stack, false⟩
  | .word _ _ _ stack => ⟨plug (.fault (.unfinished .value)) stack, false⟩
  | .number numeral stack =>
    ⟨plug (if numeral.isComplete then .number numeral.literal else .cutNumber) stack, false⟩
  | .string text stack => ⟨plug (.string text.cutOff) stack, false⟩
  | .keyString text members stack =>
    ⟨plug (.object members.reverse (.brokenKey text.cutOff)) stack, false⟩
  | .ended root => ⟨root, false⟩
  | .overrun root => ⟨root, true⟩
  | .stopped root => ⟨root, false⟩

end Scan

/-- The tree of a text. -/
def Document.ofText (text : String) : Document :=
  (text.toList.foldl Scan.step .start).finish

end BlockScript.Json
