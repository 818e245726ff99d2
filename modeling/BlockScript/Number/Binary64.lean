/-!
# Binary64 numbers

Non-negative numbers with 53 significant bits, as exact pairs of natural and whole numbers, and
the one rounding that they need: a quotient of naturals goes to the nearest such number, and half
way between two of them to the one with the even significand (`Binary64.ofQuotient`). Product and
quotient of two numbers are the rounded exact ones.
-/

set_option autoImplicit false

namespace BlockScript

/-- The number `significand * 2 ^ exponent`, where the significand is below `2 ^ 53`; it is at
least `2 ^ 52` unless the exponent is the least one, `-1074`. -/
structure Binary64 where
  /-- The significant bits. -/
  significand : Nat
  /-- The binary exponent. -/
  exponent : Int
  deriving DecidableEq, Repr

namespace Binary64

/-- The least binary exponent. -/
def leastExponent : Int := -1074

/-- The greatest binary exponent. -/
def greatestExponent : Int := 971

/-- Zero. -/
def zero : Binary64 := ⟨0, leastExponent⟩

/-- Holds of zero. -/
def isZero (x : Binary64) : Bool := x.significand == 0

/-- The exact value of a number, as a quotient of naturals. -/
def numerator (x : Binary64) : Nat := x.significand * Nat.pow 2 x.exponent.toNat

/-- The power of two under the exact value of a number. -/
def denominator (x : Binary64) : Nat := Nat.pow 2 (-x.exponent).toNat

/-- The natural number nearest to a quotient; half way between two, the even one. -/
def nearest (num den : Nat) : Nat :=
  let quotient := num / den
  let twice := 2 * (num % den)
  if twice < den then quotient
  else if den < twice then quotient + 1
  else quotient + quotient % 2

/-- The greatest exponent of a power of two that is at most a positive quotient. -/
def floorLog2 (num den : Nat) : Int :=
  let guess : Int := num.log2 - den.log2
  if num * Nat.pow 2 (-guess).toNat < den * Nat.pow 2 guess.toNat then guess - 1 else guess

/-- The number nearest to a quotient, with ties to even; `none` where it would be too large. -/
def ofQuotient (num den : Nat) : Option Binary64 :=
  if num = 0 then some zero
  else
    let exponent := max (floorLog2 num den - 52) leastExponent
    let significand := nearest (num * Nat.pow 2 (-exponent).toNat) (den * Nat.pow 2 exponent.toNat)
    let rounded : Binary64 :=
      if significand = Nat.pow 2 53 then ⟨Nat.pow 2 52, exponent + 1⟩ else ⟨significand, exponent⟩
    if greatestExponent < rounded.exponent then none else some rounded

/-- The rounded product. -/
def mul? (x y : Binary64) : Option Binary64 :=
  ofQuotient (x.numerator * y.numerator) (x.denominator * y.denominator)

/-- The rounded quotient. -/
def div? (x y : Binary64) : Option Binary64 :=
  ofQuotient (x.numerator * y.denominator) (x.denominator * y.numerator)

/-- The rounded power of ten. -/
def powerOfTen? (n : Nat) : Option Binary64 := ofQuotient (Nat.pow 10 n) 1

end Binary64

end BlockScript
