import BlockScript.Compile.Compiler
import BlockScript.Json.Decode

/-!
# Options

The configuration of a compiler as a file holds it: a JSON object whose keys may all be missing.
An indent width that is not permitted is refused here, rather than adjusted.
-/

set_option autoImplicit false

namespace BlockScript

open Json (Fault Node Record Room)

/-- The configuration of a compiler, as a file holds it. -/
structure Options where
  /-- The name of the default action. -/
  defaultActionName : String := DefaultAction.standard.name
  /-- The trigger of the default action. -/
  defaultTrigger : Duration := DefaultAction.standard.every
  /-- The number of spaces for a level of nesting. -/
  indentWidth : Nat := Script.IndentWidth.standard.spaces
  /-- Further names for block types. -/
  typeMappings : Table String := .empty
  deriving DecidableEq

namespace Options

/-- The options of the standard compiler. -/
def standard : Options := {}

/-! ## Reading -/

/-- The keys of options. -/
inductive Key where
  | defaultActionName
  | defaultTrigger
  | indentWidth
  | typeMappings
  deriving DecidableEq, Repr

/-- The name of a key. -/
def Key.name : Key → String
  | defaultActionName => "default_action_name"
  | defaultTrigger => "default_trigger"
  | indentWidth => "indent_width"
  | typeMappings => "type_mappings"

/-- Options of which some keys, namely `seen`, have been read. -/
structure Draft where
  /-- The options, with standard values for the other keys. -/
  options : Options
  /-- The keys that have been read. -/
  seen : List Key

/-- How options are read. -/
def record : Record Key Draft Options where
  name := "CompilerOptions"
  keys := [.defaultActionName, .defaultTrigger, .indentWidth, .typeMappings]
  names key := [key.name]
  blank := ⟨.standard, []⟩
  has draft key := draft.seen.contains key
  complete draft := .ok draft.options

/-- Reads a trigger interval. -/
def readTrigger (node : Node) : Except Fault Duration := do
  let text ← node.readString
  (Duration.parse text).mapError fun fault => .rejected fault.message

/-- Reads the value of a key. -/
def setKey (room : Room) (draft : Draft) (key : Key) (value : Node) : Except Fault Draft := do
  let options ← match key with
    | .defaultActionName =>
      value.readString.map fun name => { draft.options with defaultActionName := name }
    | .defaultTrigger =>
      (readTrigger value).map fun every => { draft.options with defaultTrigger := every }
    | .indentWidth =>
      (value.readNatural "usize" UInt64.size).map fun width =>
        { draft.options with indentWidth := width }
    | .typeMappings =>
      (value.readTable room fun _ => Node.readString).map fun mappings =>
        { draft.options with typeMappings := mappings }
  return ⟨options, key :: draft.seen⟩

/-- Reads options. -/
def ofNode : Node → Except Fault Options := record.read .standard setKey

/-- The options of a file. -/
def ofJson (text : String) : Except Fault Options := Json.Document.read ofNode text

end Options

/-! ## Use -/

/-- The compiler of options. -/
def Compiler.ofOptions (options : Options) : Except Compile.Error Compiler :=
  match Script.IndentWidth.ofNat? options.indentWidth with
  | none => .error (.misconfigured (.indentWidth options.indentWidth))
  | some indent =>
    let vocabulary := options.typeMappings.entries.foldl
      (fun vocabulary (name, kindName) => vocabulary.addAlias name kindName) .standard
    .ok ⟨vocabulary, ⟨options.defaultActionName, options.defaultTrigger⟩, indent⟩

/-- The trigger interval in a JSON text. -/
def Duration.ofJson (text : String) : Except Fault Duration :=
  Json.Document.read Options.readTrigger text

/-- A trigger interval as JSON. -/
def Duration.toJson (duration : Duration) : String :=
  String.ofList ('"' :: duration.text.toList ++ ['"'])

end BlockScript
