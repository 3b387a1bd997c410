import CertSteward.Decimal.Binary64

/-!
# JSON values

Integers keep their value; any other number is a double.
-/

namespace CertSteward.Json

set_option autoImplicit false

inductive Number where
  | int (value : Int)
  | real (negative : Bool) (size : Decimal.Binary64)
deriving DecidableEq, Repr

inductive Value where
  | null
  | bool (value : Bool)
  | number (value : Number)
  | text (value : String)
  | array (items : List Value)
  | object (members : List (String × Value))
deriving Repr, Inhabited

namespace Value

def int (value : Int) : Value :=
  .number (.int value)

def nat (value : Nat) : Value :=
  .int value

def texts (items : List String) : Value :=
  .array (items.map .text)

/-- The last member of a name, or null where there is none. -/
def member (value : Value) (name : String) : Value :=
  match value with
  | .object members =>
      match members.reverse.find? fun entry => entry.1 == name with
      | some entry => entry.2
      | none => .null
  | _ => .null

end Value

/-- A member that is written only where there is a value. -/
def optionalMember {α : Type} (name : String) (encode : α → Value) :
    Option α → List (String × Value)
  | none => []
  | some value => [(name, encode value)]

/-- A list that is written only where it has an entry. -/
def listMember {α : Type} (name : String) (encode : α → Value) (values : List α) :
    List (String × Value) :=
  if values.isEmpty then [] else [(name, .array (values.map encode))]

end CertSteward.Json
