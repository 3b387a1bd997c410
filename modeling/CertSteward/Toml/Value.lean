import CertSteward.Decimal.Shortest
import CertSteward.Mapping
import CertSteward.Toml.Fault

/-!
# TOML values

A table remembers how it came to be, since that decides what may still be
added to it. Numbers that fit no type are kept as such, because they are
refused only by one who looks at them.
-/

namespace CertSteward.Toml

set_option autoImplicit false

/-- A number with a fraction or an exponent. -/
inductive Real where
  | finite (negative : Bool) (size : Decimal.Binary64)
  | infinite (negative : Bool)
  | notANumber
deriving DecidableEq, Repr

/-- The digits of a number with the point in place, however large it is. -/
def Real.text : Real → String
  | .finite negative size =>
      (if negative then "-" else "") ++ Decimal.positional size.shortest
  | .infinite negative => if negative then "-inf" else "inf"
  | .notANumber => "NaN"

inductive TableKind where
  /-- Between braces. -/
  | inline
  /-- Opened by a header of its own. -/
  | header
  /-- Known only as a part of a header's path. -/
  | implied
  /-- Known only as a part of a dotted key. -/
  | dotted
deriving DecidableEq, Repr

inductive Value where
  | text (value : String)
  | integer (value : Int)
  | real (value : Real)
  | hugeNumber
  | boolean (value : Bool)
  | datetime (shown : String)
  | array (items : List Value)
  | table (kind : TableKind) (entries : List (String × Value))
  /-- The tables of repeated headers in double brackets. -/
  | tables (elements : List (List (String × Value)))
deriving Repr, Inhabited

abbrev Entries := List (String × Value)

end CertSteward.Toml
