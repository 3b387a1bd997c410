/-!
# Sets of characters given by ranges

A character property of the standard is a sorted table of inclusive ranges.
-/

namespace CertSteward.Text

set_option autoImplicit false

/-- Whether some range of the table holds the number. -/
def inRanges (table : List (Nat × Nat)) (n : Nat) : Bool :=
  table.any fun range => range.1 ≤ n && n ≤ range.2

end CertSteward.Text
