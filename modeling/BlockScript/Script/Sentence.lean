import BlockScript.Duration
import BlockScript.Script.ReadError

/-!
# What one line says

The lines of a script are read one at a time. `Header.read` reads the line that opens an action,
word by word; `Sentence.read` reads a line inside an action, which publishes something or opens a
conditional. `ELSE` lines say nothing of their own and are left to the reader of whole scripts.
-/

set_option autoImplicit false

namespace BlockScript.Script

/-! ## Headers -/

/-- The first of the remaining words of a line, or what stands for it in a refusal. -/
def foundWord : List (List Char) → String
  | [] => "end of line"
  | word :: _ => String.ofList word

/-- Reads a fixed word, and hands back the words after it. -/
def readWord (keyword : Keyword) (words : List (List Char)) :
    Except ReadFault (List (List Char)) :=
  match words with
  | word :: rest =>
    if word = keyword.chars then .ok rest
    else .error (.unexpected (.word keyword) (foundWord words))
  | [] => .error (.unexpected (.word keyword) (foundWord words))

/-- Reads the name of an action, and hands back the words after it. -/
def readName (words : List (List Char)) : Except ReadFault (String × List (List Char)) :=
  match words with
  | word :: rest =>
    if isIdentifierChars word then .ok (String.ofList word, rest)
    else .error (.unexpected .actionName (foundWord words))
  | [] => .error (.unexpected .actionName (foundWord words))

/-- Reads a trigger interval, and hands back the words after it. -/
def readDuration (words : List (List Char)) :
    Except ReadFault (Duration × List (List Char)) :=
  match words with
  | word :: rest =>
    match Duration.parse (String.ofList word) with
    | .ok every => .ok (every, rest)
    | .error _ => .error (.duration (String.ofList word))
  | [] => .error (.unexpected .duration (foundWord words))

/-- What the line that opens an action says. -/
structure Header where
  /-- The name of the action. -/
  name : String
  /-- How often it runs. -/
  every : Duration
  deriving DecidableEq

/-- Reads the words of the line that opens an action. -/
def Header.ofWords (words : List (List Char)) : Except ReadFault Header := do
  let words ← readWord .DEFINE words
  let words ← readWord .ACTION words
  let (name, words) ← readName words
  let words ← readWord .ON words
  let words ← readWord .EVERY words
  let (every, words) ← readDuration words
  let words ← readWord .DO words
  if words.isEmpty then return ⟨name, every⟩
  else throw (.unexpected .endOfLine (foundWord words))

/-- Reads the line that opens an action. -/
def Header.read (text : List Char) : Except ReadFault Header := Header.ofWords (Text.words text)

/-! ## Lines inside an action -/

/-- What a line inside an action says. -/
inductive Sentence where
  /-- A payload is sent under a topic. -/
  | publish (topic payload : String)
  /-- A conditional opens. -/
  | condition (text : String)
  deriving DecidableEq, Repr

/-- Reads what follows `IF ` on the line `text`: a condition and, after a blank, `THEN`. -/
def Sentence.readCondition (text rest : List Char) : Except ReadFault Sentence :=
  match Keyword.THEN.chars.isSuffixOf? rest with
  | some raw =>
    if raw.getLast?.all Text.isBlank then
      let condition := Text.trim raw
      if condition.isEmpty then .error (.unexpected .condition Keyword.THEN.text)
      else .ok (.condition (String.ofList condition))
    else .error (.unexpected .thenAtEnd (String.ofList text))
  | none => .error (.unexpected .thenAtEnd (String.ofList text))

/-- Reads the blanks before an operand, of which there is at least one. -/
def readGap (expected : Expected) (rest : List Char) : Except ReadFault (List Char) :=
  match rest with
  | [] => .error (.unexpected expected "end of line")
  | c :: _ =>
    if Text.isBlank c then .ok (Text.trimStart rest)
    else .error (.unexpected expected (String.ofList rest))

/-- Reads the literal at the start of a text. -/
def readLiteral (rest : List Char) : Except ReadFault (String × List Char) :=
  match unquoteChars rest with
  | .ok (value, rest) => .ok (String.ofList value, rest)
  | .error fault => .error (.literal fault)

/-- Reads what follows `PUBLISH TOPIC`: two literals, each after a blank. -/
def Sentence.readOperands (rest : List Char) : Except ReadFault Sentence := do
  let rest ← readGap .spaceBeforeTopic rest
  let (topic, rest) ← readLiteral rest
  let rest ← readGap .spaceBeforePayload rest
  let (payload, rest) ← readLiteral rest
  let rest := Text.trim rest
  if rest.isEmpty then return .publish topic payload
  else throw (.unexpected .endOfLine (String.ofList rest))

/-- Reads a line inside an action. -/
def Sentence.read (text : List Char) : Except ReadFault Sentence :=
  match "IF ".toList.isPrefixOf? text with
  | some rest => readCondition text rest
  | none =>
    match "PUBLISH TOPIC".toList.isPrefixOf? text with
    | some rest => readOperands rest
    | none => .error (.unexpected .statement (String.ofList ((Text.words text).headD [])))

end BlockScript.Script
