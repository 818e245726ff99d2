import BlockScript.Json.Fault
import BlockScript.Number.Shortest

/-!
# JSON numbers

`NumberScan` recognises a number one character at a time, and `NumberLiteral` is a number that has
been recognised. `NumberLiteral.value` says what it denotes: an integer where it is written as one
and fits into 64 bits, with or without a sign, and a floating point number otherwise.

The floating point number of a literal is found in the steps of floating point arithmetic: as many
digits as fit into 64 bits are collected, and their number is scaled by a rounded power of ten.
For long literals this may miss the nearest number by a unit in the last place.
-/

set_option autoImplicit false

namespace BlockScript.Json

/-! ## Recognising a number -/

/-- A number as it is written. -/
structure NumberLiteral where
  /-- A minus stands before it. -/
  negative : Bool
  /-- The digits before the point. -/
  whole : List Char
  /-- The digits after the point; none where there is no point. -/
  fraction : List Char
  /-- The sign and the digits of the exponent, where there is one. -/
  exponent? : Option (Bool × List Char)
  deriving DecidableEq, Repr

/-- The part of a number that has been read last. -/
inductive NumberStage where
  | minus
  | zero
  | whole
  | point
  | fraction
  | mark
  | markSign
  | exponent
  deriving DecidableEq, Repr

/-- A number up to some character, its digits last first. -/
structure NumberScan where
  /-- The part that has been read last. -/
  stage : NumberStage
  /-- A minus stands before it. -/
  negative : Bool
  /-- The digits before the point. -/
  whole : List Char
  /-- The digits after the point. -/
  fraction : List Char
  /-- The exponent has a minus. -/
  exponentNegative : Bool
  /-- The digits of the exponent. -/
  exponent : List Char
  deriving DecidableEq, Repr

/-- What a further character does to a number. -/
inductive NumberStep where
  /-- It goes on with the number. -/
  | more (scan : NumberScan)
  /-- It stands after the number. -/
  | done
  /-- It cannot stand there. -/
  | bad
  deriving DecidableEq, Repr

namespace NumberScan

/-- A number that starts with the given character, which is a minus or a digit. -/
def start (c : Char) : NumberScan :=
  if c = '-' then ⟨.minus, true, [], [], false, []⟩
  else ⟨if c = '0' then .zero else .whole, false, [c], [], false, []⟩

/-- After the digits before the point: a point, an exponent, or the end. -/
def afterWhole (scan : NumberScan) (c : Char) : NumberStep :=
  if c = '.' then .more { scan with stage := .point }
  else if c = 'e' ∨ c = 'E' then .more { scan with stage := .mark }
  else .done

/-- One further character. -/
def step (scan : NumberScan) (c : Char) : NumberStep :=
  match scan.stage with
  | .minus =>
    if c.isDigit then
      .more { scan with stage := if c = '0' then .zero else .whole, whole := [c] }
    else .bad
  | .zero => if c.isDigit then .bad else scan.afterWhole c
  | .whole => if c.isDigit then .more { scan with whole := c :: scan.whole } else scan.afterWhole c
  | .point => if c.isDigit then .more { scan with stage := .fraction, fraction := [c] } else .bad
  | .fraction =>
    if c.isDigit then .more { scan with fraction := c :: scan.fraction }
    else if c = 'e' ∨ c = 'E' then .more { scan with stage := .mark }
    else .done
  | .mark =>
    if c = '+' ∨ c = '-' then
      .more { scan with stage := .markSign, exponentNegative := c == '-' }
    else if c.isDigit then .more { scan with stage := .exponent, exponent := [c] }
    else .bad
  | .markSign =>
    if c.isDigit then .more { scan with stage := .exponent, exponent := [c] } else .bad
  | .exponent => if c.isDigit then .more { scan with exponent := c :: scan.exponent } else .done

/-- Holds where a number may end. -/
def isComplete (scan : NumberScan) : Bool :=
  match scan.stage with
  | .zero | .whole | .fraction | .exponent => true
  | .minus | .point | .mark | .markSign => false

/-- The number that has been read. -/
def literal (scan : NumberScan) : NumberLiteral where
  negative := scan.negative
  whole := scan.whole.reverse
  fraction := scan.fraction.reverse
  exponent? :=
    if scan.stage = .exponent then some (scan.exponentNegative, scan.exponent.reverse) else none

end NumberScan

/-! ## What a number denotes -/

/-- What a JSON number denotes. -/
inductive Number where
  /-- A natural number below `2 ^ 64`. -/
  | natural (value : Nat)
  /-- A negative integer, not below `-2 ^ 63`. -/
  | negative (value : Int)
  /-- A floating point number, with its sign. -/
  | float (isNegative : Bool) (magnitude : Binary64)
  deriving DecidableEq, Repr

/-- Digits collected into a number that fits into 64 bits, and the power of ten that scales it. -/
structure Collected where
  /-- The number that the digits make up. -/
  significand : Nat
  /-- The decimal exponent that belongs to it. -/
  exponent : Int
  /-- A digit did not fit. -/
  isFull : Bool
  deriving DecidableEq, Repr

namespace Collected

/-- Collects a digit before the point. After one that does not fit, digits only count. -/
def addWhole (acc : Collected) (c : Char) : Collected :=
  let significand := acc.significand * 10 + (c.toNat - '0'.toNat)
  if acc.isFull || decide (UInt64.size ≤ significand) then
    { acc with exponent := acc.exponent + 1, isFull := true }
  else { acc with significand := significand }

/-- Collects a digit after the point. After one that does not fit, digits do not matter. -/
def addFraction (acc : Collected) (c : Char) : Collected :=
  let significand := acc.significand * 10 + (c.toNat - '0'.toNat)
  if acc.isFull || decide (UInt64.size ≤ significand) then { acc with isFull := true }
  else ⟨significand, acc.exponent - 1, false⟩

end Collected

/-- A number of at most 64 bits times a power of ten, in the steps of floating point arithmetic;
`none` where it is too large. -/
def scaleByTen (significand : Nat) (exponent : Int) : Option Binary64 := do
  let start ← Binary64.ofQuotient significand 1
  if start.isZero then return .zero
  if 308 < exponent then none
  else if 0 ≤ exponent then start.mul? (← Binary64.powerOfTen? exponent.toNat)
  else if -308 ≤ exponent then start.div? (← Binary64.powerOfTen? (-exponent).toNat)
  else if -616 ≤ exponent then do
    let scaled ← start.div? (← Binary64.powerOfTen? 308)
    scaled.div? (← Binary64.powerOfTen? (-exponent - 308).toNat)
  else return .zero

namespace NumberLiteral

/-- The digits of a literal, collected. -/
def collect (literal : NumberLiteral) : Collected :=
  let whole := literal.whole.foldl Collected.addWhole ⟨0, 0, false⟩
  literal.fraction.foldl Collected.addFraction { whole with isFull := false }

/-- The exponent that a literal states. -/
def statedExponent (literal : NumberLiteral) : Int :=
  match literal.exponent? with
  | none => 0
  | some (isNegative, digits) =>
    let value : Int := Nat.ofDigitChars 10 digits 0
    if isNegative then -value else value

/-- The floating point number of a literal. -/
def float (literal : NumberLiteral) : Except Fault Number :=
  let collected := literal.collect
  match scaleByTen collected.significand (collected.exponent + literal.statedExponent) with
  | some magnitude => .ok (.float literal.negative magnitude)
  | none => .error .numberOutOfRange

/-- What a literal denotes. -/
def value (literal : NumberLiteral) : Except Fault Number :=
  if literal.fraction.isEmpty && literal.exponent?.isNone then
    let magnitude := Nat.ofDigitChars 10 literal.whole 0
    if literal.negative then
      if 0 < magnitude ∧ magnitude ≤ UInt64.size / 2 then .ok (.negative (-magnitude))
      else literal.float
    else if magnitude < UInt64.size then .ok (.natural magnitude)
    else literal.float
  else literal.float

end NumberLiteral

/-! ## How a number is written -/

/-- Floating point numbers are written positionally from five places after the point up to sixteen
before it. -/
def floatFormat : DecimalFormat := ⟨-5, 15⟩

/-- The written form of a number. -/
def Number.text : Number → String
  | natural value => toString value
  | negative value => toString value
  | float isNegative magnitude =>
    (if isNegative then "-" else "") ++ magnitude.shortest.layout floatFormat

/-- A number, as a refusal names it. -/
def Number.found : Number → Found
  | natural value => .integer value
  | negative value => .integer value
  | number@(float ..) => .float number.text

end BlockScript.Json
