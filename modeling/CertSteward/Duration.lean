/-!
# Lengths of time as shown

A length of time is a number of nanoseconds. It is shown in the largest unit
of which it holds at least one, with the digits behind the point that are
needed and no more.
-/

namespace CertSteward.Duration

set_option autoImplicit false

def withoutTrailingZeros (digits : List Char) : List Char :=
  (digits.reverse.dropWhile (· == '0')).reverse

/-- A number of units of `10 ^ places` nanoseconds. -/
def inUnit (places : Nat) (unit : String) (nanoseconds : Nat) : String :=
  let size := Nat.pow 10 places
  let digits := Nat.toDigits 10 (nanoseconds % size)
  let fraction := withoutTrailingZeros (List.replicate (places - digits.length) '0' ++ digits)
  let point := if fraction.isEmpty then [] else '.' :: fraction
  toString (nanoseconds / size) ++ String.ofList point ++ unit

def shown (nanoseconds : Nat) : String :=
  if Nat.pow 10 9 ≤ nanoseconds then inUnit 9 "s" nanoseconds
  else if Nat.pow 10 6 ≤ nanoseconds then inUnit 6 "ms" nanoseconds
  else if Nat.pow 10 3 ≤ nanoseconds then inUnit 3 "µs" nanoseconds
  else toString nanoseconds ++ "ns"

end CertSteward.Duration
