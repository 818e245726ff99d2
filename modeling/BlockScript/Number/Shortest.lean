import BlockScript.Number.Binary64

/-!
# Shortest decimals

The decimal that stands for a binary64 number is the one with the fewest digits among those that
round to it; of several such, the nearest to the exact value, and of two equally near the one with
the even last digit. `Binary64.shortest` finds it by comparing naturals: for one digit, two digits
and so on it looks at the two neighbours of the value on the grid of such decimals.

`Decimal.layout` writes a decimal, positionally while the exponent of its first digit lies within
the given bounds and with an exponent otherwise.
-/

set_option autoImplicit false

namespace BlockScript

/-- The decimal `digits * 10 ^ exponent`. -/
structure Decimal where
  /-- The digits, as a number. -/
  digits : Nat
  /-- The decimal exponent of the last digit. -/
  exponent : Int
  deriving DecidableEq, Repr

/-! ## Which decimal -/

namespace Binary64

/-- Compares a decimal with `n * 2 ^ j`, exactly. -/
def compareDecimal (d : Decimal) (n : Nat) (j : Int) : Ordering :=
  compare (d.digits * Nat.pow 10 d.exponent.toNat * Nat.pow 2 (-j).toNat)
    (n * Nat.pow 2 j.toNat * Nat.pow 10 (-d.exponent).toNat)

/-- Holds of the decimals that round to a positive number: those between the middles of the gaps
to its neighbours, and the middles themselves when the significand is even. The gap below a power
of two is half as wide as the one above. -/
def readsBack (x : Binary64) (d : Decimal) : Bool :=
  let narrow := x.significand == Nat.pow 2 52 && decide (leastExponent < x.exponent)
  let below := 4 * x.significand - (if narrow then 1 else 2)
  let above := 4 * x.significand + 2
  let even := x.significand % 2 == 0
  let low := compareDecimal d below (x.exponent - 2)
  let high := compareDecimal d above (x.exponent - 2)
  (low == .gt || (even && low == .eq)) && (high == .lt || (even && high == .eq))

/-- The least exponent of a power of ten that is greater than a positive number. Three hundred and
forty-two places after the point suffice for a digit of every such number to stand before it. -/
def decimalScale (x : Binary64) : Int :=
  ((x.numerator * Nat.pow 10 342 / x.denominator).repr.length : Int) - 342

/-- The decimal with `n` digits that stands for a positive number, if one does. -/
def withDigits? (x : Binary64) (n : Nat) : Option Decimal :=
  let exponent := x.decimalScale - n
  let num := x.numerator * Nat.pow 10 (-exponent).toNat
  let den := x.denominator * Nat.pow 10 exponent.toNat
  let below : Decimal := ⟨num / den, exponent⟩
  let above : Decimal := ⟨num / den + 1, exponent⟩
  match x.readsBack below, x.readsBack above with
  | false, false => none
  | true, false => some below
  | false, true => some above
  | true, true => some ⟨nearest num den, exponent⟩

/-- A decimal without the zeros at its end, of which `fuel` are looked for. -/
def stripZeros : Nat → Decimal → Decimal
  | 0, d => d
  | fuel + 1, d =>
    if d.digits ≠ 0 ∧ d.digits % 10 = 0 then stripZeros fuel ⟨d.digits / 10, d.exponent + 1⟩ else d

/-- The shortest decimal that stands for a number. Seventeen digits suffice for each. -/
def shortest (x : Binary64) : Decimal :=
  if x.isZero then ⟨0, 0⟩
  else
    match ((List.range 17).map (· + 1)).findSome? x.withDigits? with
    | some d => stripZeros 17 d
    | none => ⟨x.numerator / x.denominator, 0⟩

end Binary64

/-! ## How a decimal is written -/

/-- The choices of a format of decimals. -/
structure DecimalFormat where
  /-- The least exponent of the first digit with which a decimal is written positionally. -/
  leastPositional : Int
  /-- The greatest one. -/
  greatestPositional : Int

namespace Decimal

/-- Digits with a point after the first `n`; a digit stands on both sides of the point. -/
def withPoint (n : Nat) (digits : List Char) : List Char :=
  let padded := digits ++ List.replicate (n + 1 - digits.length) '0'
  padded.take n ++ '.' :: padded.drop n

/-- A decimal as text. -/
def layout (format : DecimalFormat) (d : Decimal) : String :=
  let digits := Nat.toDigits 10 d.digits
  let exponent : Int := d.exponent + (digits.length - 1 : Nat)
  String.ofList <|
    if format.leastPositional ≤ exponent ∧ exponent ≤ format.greatestPositional then
      if exponent < 0 then '0' :: '.' :: List.replicate (-exponent - 1).toNat '0' ++ digits
      else withPoint (exponent + 1).toNat digits
    else
      let mantissa := if digits.length = 1 then digits else withPoint 1 digits
      mantissa ++ 'e' :: (if exponent < 0 then '-' else '+') :: Nat.toDigits 10 exponent.natAbs

end Decimal

end BlockScript
