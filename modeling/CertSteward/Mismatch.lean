import CertSteward.Text.Quoted

/-!
# Values of the wrong shape

Why a well-formed document is not a value of the expected type, and the
sentence that says so. The same causes serve every document format; a format
supplies the text of its non-integral numbers itself.
-/

namespace CertSteward

set_option autoImplicit false

/-- What stands in the place of the expected value. -/
inductive Found where
  | null
  | boolean (value : Bool)
  | integer (value : Int)
  /-- An integer beyond sixty-four bits, with the type that it would need. -/
  | wideInteger (value : Int) (type : String)
  | real (shown : String)
  | text (value : String)
  | sequence
  | map
deriving DecidableEq, Repr

def Found.describe : Found → String
  | .null => "null"
  | .boolean value => "boolean `" ++ (if value then "true" else "false") ++ "`"
  | .integer value => "integer `" ++ toString value ++ "`"
  | .wideInteger value type => "integer `" ++ toString value ++ "` as " ++ type
  | .real shown => "floating point `" ++ shown ++ "`"
  | .text value => "string " ++ Text.quoted value
  | .sequence => "sequence"
  | .map => "map"

inductive Mismatch where
  | missingField (name : String)
  | duplicateField (name : String)
  | wrongType (found : Found) (wanted : String)
  | wrongValue (found : Found) (wanted : String)
  | wrongLength (length : Nat) (wanted : String)
  /-- A text of the right type that has no reading, such as a day that does not exist. -/
  | unreadableText
deriving DecidableEq, Repr

/-- The sentence for a mismatch; a star where no wording is fixed. -/
def Mismatch.message : Mismatch → String
  | .missingField name => "missing field `" ++ name ++ "`"
  | .duplicateField name => "duplicate field `" ++ name ++ "`"
  | .wrongType found wanted => "invalid type: " ++ found.describe ++ ", expected " ++ wanted
  | .wrongValue found wanted => "invalid value: " ++ found.describe ++ ", expected " ++ wanted
  | .wrongLength length wanted => "invalid length " ++ toString length ++ ", expected " ++ wanted
  | .unreadableText => "*"

end CertSteward
