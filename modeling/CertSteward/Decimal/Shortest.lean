import CertSteward.Decimal.Binary64

/-!
# The fewest digits that read back

Every number stands for the interval of reals that round to it. On the grids
of one, two, … seventeen significant digits the two neighbours of the number
are tried; the first grid with a neighbour inside the interval gives the
digits, and of two such neighbours the nearer one.
-/

namespace CertSteward.Decimal

set_option autoImplicit false

/-- The number `digits * 10 ^ exponent`. -/
structure Scientific where
  digits : Nat
  exponent : Int
deriving DecidableEq, Repr

namespace Scientific

/-- How many decimal digits are written. -/
def width (number : Scientific) : Nat :=
  (Nat.toDigits 10 number.digits).length

/-- The power of ten of the leading digit. -/
def leading (number : Scientific) : Int :=
  number.exponent + number.width - 1

/-- Without trailing zeros in the digits. -/
def strip : Nat → Scientific → Scientific
  | 0, number => number
  | fuel + 1, number =>
      if number.digits ≠ 0 ∧ number.digits % 10 = 0 then
        strip fuel ⟨number.digits / 10, number.exponent + 1⟩
      else number

end Scientific

/-- The reals that round to a number: quarters of its last place between `low` and `high`,
the ends included for an even significand. -/
structure RoundingInterval where
  low : Nat
  high : Nat
  closed : Bool
  exponent : Int

namespace Binary64

def interval (number : Binary64) : RoundingInterval :=
  let middle := 4 * number.significand
  let narrow := number.significand = Nat.pow 2 52 ∧ leastExponent < number.exponent
  { low := if narrow then middle - 1 else middle - 2
    high := middle + 2
    closed := number.significand % 2 == 0
    exponent := number.exponent - 2 }

/-- Both sides of a comparison of `digits * 10 ^ p` with `units * 2 ^ q` as whole numbers. -/
def commonScale (digits : Nat) (p : Int) (units : Nat) (q : Int) : Nat × Nat :=
  (digits * Nat.pow 10 p.toNat * Nat.pow 2 (-q).toNat,
    units * Nat.pow 2 q.toNat * Nat.pow 10 (-p).toNat)

def intervalHolds (range : RoundingInterval) (digits : Nat) (p : Int) : Bool :=
  let (value, low) := commonScale digits p range.low range.exponent
  let (value', high) := commonScale digits p range.high range.exponent
  if range.closed then low ≤ value && value' ≤ high else low < value && value' < high

/-- The power of ten of the leading digit of a positive number. -/
def leadingPower (number : Binary64) : Int :=
  let (top, bottom) := number.toRatio
  if bottom ≤ top then (Nat.toDigits 10 (top / bottom)).length - 1
  else
    let places := (Nat.toDigits 10 (bottom / top)).length
    if bottom ≤ top * Nat.pow 10 (places - 1) then -((places : Int) - 1) else -(places : Int)

/-- The neighbours of a number on the grid of the multiples of `10 ^ p`, and whether the upper
one is the nearer. -/
def neighbours (number : Binary64) (p : Int) : Nat × Bool :=
  let (top, bottom) := number.toRatio
  let (top, bottom) :=
    if p < 0 then (top * Nat.pow 10 (-p).toNat, bottom)
    else (top, bottom * Nat.pow 10 p.toNat)
  (top / bottom, bottom < 2 * (top % bottom))

/-- The search, with `left` grids still to try. -/
def shortestFrom (number : Binary64) : Nat → Int → Scientific
  | 0, p => ⟨(number.neighbours p).1, p⟩
  | left + 1, p =>
      let (below, upper) := number.neighbours p
      let range := number.interval
      match intervalHolds range below p && below ≠ 0, intervalHolds range (below + 1) p with
      | true, true => ⟨if upper then below + 1 else below, p⟩
      | true, false => ⟨below, p⟩
      | false, true => ⟨below + 1, p⟩
      | false, false => shortestFrom number left (p - 1)

/-- The digits of the shortest decimal that reads back as the number. -/
def shortest (number : Binary64) : Scientific :=
  if number.significand = 0 then ⟨0, 0⟩
  else Scientific.strip 400 (number.shortestFrom 17 number.leadingPower)

end Binary64

/-- Digits with the point in its place and at least one digit on either side. -/
def positional (number : Scientific) : String :=
  let digits := Nat.toDigits 10 number.digits
  if 0 ≤ number.exponent then
    String.ofList (digits ++ List.replicate number.exponent.toNat '0') ++ ".0"
  else
    let places := (-number.exponent).toNat
    let padded := List.replicate (places + 1 - digits.length) '0' ++ digits
    String.ofList
      (padded.take (padded.length - places) ++ '.' :: padded.drop (padded.length - places))

end CertSteward.Decimal
