/-!
# Double precision numbers

A finite number without its sign, as a significand below `2 ^ 53` times a
power of two. The three operations round the exact quotient or product to
the nearest number, a tie going to the even significand.
-/

namespace CertSteward.Decimal

set_option autoImplicit false

/-- The number `significand * 2 ^ exponent`. -/
structure Binary64 where
  significand : Nat
  exponent : Int
deriving DecidableEq, Repr

namespace Binary64

def leastExponent : Int := -1074

/-- The largest exponent of a significand of full width. -/
def greatestExponent : Int := 971

def zero : Binary64 := ⟨0, leastExponent⟩

def isZero (number : Binary64) : Bool :=
  number.significand == 0

/-- The quotient rounded to a whole number, a half going to the even neighbour. -/
def roundHalfEven (numerator denominator : Nat) : Nat :=
  let quotient := numerator / denominator
  let twice := 2 * (numerator % denominator)
  if twice < denominator then quotient
  else if denominator < twice then quotient + 1
  else quotient + quotient % 2

/-- The quotient `numerator / denominator` in units of `2 ^ exponent`. -/
def scaled (numerator denominator : Nat) (exponent : Int) : Nat × Nat :=
  if exponent < 0 then (numerator * Nat.pow 2 (-exponent).toNat, denominator)
  else (numerator, denominator * Nat.pow 2 exponent.toNat)

/-- The nearest number to a quotient, or none beyond the largest one. -/
def ofRatio (numerator denominator : Nat) : Option Binary64 :=
  if numerator = 0 then some zero
  else
    let width : Int := (Nat.log2 numerator : Int) - (Nat.log2 denominator : Int)
    let low := width - 53
    let (top, bottom) := scaled numerator denominator low
    let fitting := if top / bottom < Nat.pow 2 53 then low else low + 1
    let exponent := max fitting leastExponent
    let (top, bottom) := scaled numerator denominator exponent
    let rounded := roundHalfEven top bottom
    let number : Binary64 :=
      if rounded = Nat.pow 2 53 then ⟨Nat.pow 2 52, exponent + 1⟩ else ⟨rounded, exponent⟩
    if greatestExponent < number.exponent then none else some number

/-- The exact value as a quotient. -/
def toRatio (number : Binary64) : Nat × Nat :=
  if number.exponent < 0 then (number.significand, Nat.pow 2 (-number.exponent).toNat)
  else (number.significand * Nat.pow 2 number.exponent.toNat, 1)

def mul (left right : Binary64) : Option Binary64 :=
  ofRatio (left.toRatio.1 * right.toRatio.1) (left.toRatio.2 * right.toRatio.2)

def div (left right : Binary64) : Option Binary64 :=
  ofRatio (left.toRatio.1 * right.toRatio.2) (left.toRatio.2 * right.toRatio.1)

/-- The nearest number to `digits * 10 ^ exponent`. A leading digit far outside the range
decides the answer without the power being formed. -/
def ofDecimal (digits : Nat) (exponent : Int) : Option Binary64 :=
  let leading := exponent + (Nat.toDigits 10 digits).length
  if digits = 0 ∨ leading < -400 then some zero
  else if 400 < leading then none
  else if exponent < 0 then ofRatio digits (Nat.pow 10 (-exponent).toNat)
  else ofRatio (digits * Nat.pow 10 exponent.toNat) 1

end Binary64

end CertSteward.Decimal
