import BlockScript.Text.Blank

/-!
# Trigger intervals

How often an action runs: a positive whole number of milliseconds, seconds, minutes or hours, kept
in the unit in which it was written. `Duration.text` writes an interval and `Duration.parse` reads
one; reading also takes a bare number, which counts seconds. The four ways in which reading fails
are the constructors of `Duration.ReadError`, listed in the order in which they are looked for.
-/

set_option autoImplicit false

namespace BlockScript

/-! ## Units -/

/-- The unit of a trigger interval. -/
inductive Duration.Unit where
  | milliseconds
  | seconds
  | minutes
  | hours
  deriving DecidableEq, Repr

namespace Duration.Unit

/-- The suffix that names the unit. -/
def suffix : Duration.Unit → String
  | milliseconds => "ms"
  | seconds => "s"
  | minutes => "m"
  | hours => "h"

/-- The unit that a suffix names. -/
def ofSuffix? (text : String) : Option Duration.Unit :=
  [milliseconds, seconds, minutes, hours].find? (·.suffix == text)

/-- A unit is named by its own suffix, so no two units share one. -/
theorem ofSuffix?_suffix (unit : Duration.Unit) : ofSuffix? unit.suffix = some unit := by
  cases unit <;> decide

/-- The length of the unit in milliseconds. -/
def inMilliseconds : Duration.Unit → Nat
  | milliseconds => 1
  | seconds => 1000
  | minutes => 60000
  | hours => 3600000

end Duration.Unit

/-! ## Intervals -/

/-- The first amount that is too large for an interval. -/
def Duration.limit : Nat := UInt64.size

/-- A trigger interval. -/
structure Duration where
  /-- How many units. -/
  amount : Nat
  /-- The unit in which the interval was written. -/
  unit : Duration.Unit
  /-- An interval is never empty. -/
  amount_pos : 0 < amount
  /-- An amount fits into 64 bits. -/
  amount_lt : amount < Duration.limit
  deriving DecidableEq

/-- The ways in which a text is no trigger interval. -/
inductive Duration.ReadError where
  /-- No digit stands at the start. -/
  | missingAmount (text : String)
  /-- The amount does not fit into 64 bits. -/
  | outOfRange (text : String)
  /-- The amount is followed by something that names no unit. -/
  | unknownUnit (suffix : String)
  /-- The amount is zero. -/
  | zero
  deriving DecidableEq, Repr

/-- The wording of a refusal. -/
def Duration.ReadError.message : Duration.ReadError → String
  | missingAmount text => s!"'{text}' does not start with a whole number"
  | outOfRange text => s!"'{text}' is out of range"
  | unknownUnit suffix => s!"unknown time unit '{suffix}' (expected ms, s, m or h)"
  | zero => "a trigger interval must be greater than zero"

namespace Duration

/-- The interval of a positive amount that fits. -/
def new? (amount : Nat) (unit : Duration.Unit) : Option Duration :=
  if h : 0 < amount ∧ amount < limit then some ⟨amount, unit, h.1, h.2⟩ else none

/-- The interval of an action that says nothing else: fifteen seconds. -/
def standard : Duration := ⟨15, .seconds, by decide, by decide⟩

/-- The length in milliseconds, at most the largest 64-bit number. -/
def milliseconds (d : Duration) : Nat := min (d.amount * d.unit.inMilliseconds) (limit - 1)

/-- The written form: the amount in decimal digits, then the unit's suffix. -/
def text (d : Duration) : String := d.amount.repr ++ d.unit.suffix

/-- The unit that the text after the amount names; no text stands for seconds. -/
def unitAfterAmount (suffix : String) : Except Duration.ReadError Duration.Unit :=
  if suffix.isEmpty then .ok .seconds
  else match Duration.Unit.ofSuffix? suffix with
    | some unit => .ok unit
    | none => .error (.unknownUnit suffix)

/-- The interval that a text without blanks at its ends denotes. -/
def parseTrimmed (cs : List Char) : Except Duration.ReadError Duration := do
  let digits := cs.takeWhile Char.isDigit
  if digits.isEmpty then throw (.missingAmount (String.ofList cs))
  let amount := Nat.ofDigitChars 10 digits 0
  if amount ≥ limit then throw (.outOfRange (String.ofList cs))
  let unit ← unitAfterAmount (String.ofList (cs.dropWhile Char.isDigit))
  match new? amount unit with
  | some duration => return duration
  | none => throw .zero

/-- The interval that a text denotes; blanks around it do not matter. -/
def parse (text : String) : Except Duration.ReadError Duration :=
  parseTrimmed (Text.trim text.toList)

end Duration

end BlockScript
