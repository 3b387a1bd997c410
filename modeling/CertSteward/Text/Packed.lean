/-!
# Tables of numbers

Long tables over the characters are rows of numbers. A row is placed by the gap to the row before
it.
-/

namespace CertSteward.Text.Packed

set_option autoImplicit false

/-- Rows behind their places; the first number of each is the distance to the place before. -/
def placeFrom (start : Nat) : List (List Nat) → List (Nat × List Nat)
  | [] => []
  | [] :: rest => placeFrom start rest
  | (gap :: values) :: rest => (start + gap, values) :: placeFrom (start + gap) rest

def placed (rows : List (List Nat)) : List (Nat × List Nat) :=
  placeFrom 0 rows

/-- A range of numbers with what the table says of them. -/
structure Stretch where
  first : Nat
  last : Nat
  values : List Nat
deriving DecidableEq, Repr

/-- Ranges with their values; each row holds the gap behind the range before, the length and the
values. -/
def stretchFrom (start : Nat) : List (List Nat) → List Stretch
  | (gap :: length :: values) :: rest =>
      ⟨start + gap, start + gap + length - 1, values⟩ :: stretchFrom (start + gap + length) rest
  | _ => []

def stretches (rows : List (List Nat)) : List Stretch :=
  stretchFrom 0 rows

/-- The range that a number lies in. -/
def find? (table : List Stretch) (n : Nat) : Option Stretch :=
  table.find? fun stretch => stretch.first ≤ n && n ≤ stretch.last

end CertSteward.Text.Packed
