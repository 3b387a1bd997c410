import CertSteward.Toml.Reader

/-!
# Values from TOML

Decoders over TOML values. The entries of a table are looked at in the order
of their names; entries without a meaning are skipped, though not without a
look at their numbers. A record may also be an array of its fields in order.
-/

namespace CertSteward.Toml

set_option autoImplicit false

abbrev Decoder (α : Type) := Value → Except DecodeError α

def mismatch {α : Type} (cause : Mismatch) : Except DecodeError α :=
  .error (.mismatch cause)

def Value.found : Value → Except DecodeError Found
  | .text value => .ok (.text value)
  | .integer value =>
      if -(Int.pow 2 63) ≤ value ∧ value < Int.pow 2 64 then .ok (.integer value)
      else if value < Int.pow 2 127 then .ok (.wideInteger value "i128")
      else .ok (.wideInteger value "u128")
  | .real (.finite negative size) => .ok (.real (Real.text (.finite negative size)))
  | .real value => .ok (.real value.text)
  | .hugeNumber => .error .malformed
  | .boolean value => .ok (.boolean value)
  | .datetime _ => .ok .map
  | .array _ => .ok .sequence
  | .table _ _ => .ok .map
  | .tables _ => .ok .sequence

def refuse {α : Type} (wanted : String) (value : Value) : Except DecodeError α := do
  let found ← value.found
  mismatch (.wrongType found wanted)

mutual

/-- Whether a value can be skipped: every number in it fits some type. -/
def Value.skippable : Value → Bool
  | .hugeNumber => false
  | .array items => skippableItems items
  | .table _ entries => skippableEntries entries
  | .tables elements => skippableElements elements
  | _ => true

def skippableItems : List Value → Bool
  | [] => true
  | item :: rest => item.skippable && skippableItems rest

def skippableEntries : List (String × Value) → Bool
  | [] => true
  | (_, value) :: rest => value.skippable && skippableEntries rest

def skippableElements : List (List (String × Value)) → Bool
  | [] => true
  | entries :: rest => skippableEntries entries && skippableElements rest

end

/-- The entries of a table in the order of their names. -/
def sorted (entries : Entries) : Entries :=
  (Mapping.ofList entries).toList

/-- The name under which a date looks like a table. -/
def datetimeName : String := "datetime"

/-- The entries of a value that counts as a table. -/
def Value.entries? : Value → Option Entries
  | .table _ entries => some (sorted entries)
  | .datetime shown => some [(datetimeName, .text shown)]
  | _ => none

def Value.items? : Value → Option (List Value)
  | .array items => some items
  | .tables elements => some (elements.map (.table .header))
  | _ => none

namespace Decoder

def text : Decoder String
  | .text value => .ok value
  | other => refuse "a string" other

def natural (wanted : String) (greatest : Int) : Decoder Int
  | .integer value =>
      if 0 ≤ value ∧ value ≤ greatest then .ok value
      else if value < 0 ∧ -(Int.pow 2 63) ≤ value then
        mismatch (.wrongValue (.integer value) wanted)
      else refuse wanted (.integer value)
  | other => refuse wanted other

end Decoder

/-- A field of a record and the way its value enters the record. -/
structure Field (Record : Type) where
  name : String
  required : Bool
  enter : Value → Record → Except DecodeError Record

def Field.defaulted {Record α : Type} (name : String) (decoder : Decoder α)
    (put : α → Record → Record) : Field Record :=
  ⟨name, false, fun value record => (decoder value).map fun value => put value record⟩

def Field.needed {Record α : Type} (name : String) (decoder : Decoder α)
    (put : α → Record → Record) : Field Record :=
  ⟨name, true, fun value record => (decoder value).map fun value => put value record⟩

structure Shape (Record : Type) where
  name : String
  blank : Record
  fields : List (Field Record)

namespace Shape

variable {Record : Type}

def title (shape : Shape Record) : String :=
  "struct " ++ shape.name

def enterEntries (shape : Shape Record) : Entries → Record → Except DecodeError Record
  | [], record => .ok record
  | (name, value) :: rest, record =>
      match shape.fields.find? fun field => field.name == name with
      | some field => do
          let record ← field.enter value record
          enterEntries shape rest record
      | none => if value.skippable then enterEntries shape rest record else .error .malformed

def checkGiven (given : List String) : List (Field Record) → Except DecodeError Unit
  | [] => .ok ()
  | field :: rest =>
      if field.required && !given.contains field.name then mismatch (.missingField field.name)
      else checkGiven given rest

def enterItems (shape : Shape Record) (total : Nat) :
    List (Field Record) → List Value → Record → Except DecodeError Record
  | [], _, record => .ok record
  | field :: fields, [], record =>
      if field.required then
        mismatch (.wrongLength total
          (shape.title ++ " with " ++ toString shape.fields.length ++
            (if shape.fields.length = 1 then " element" else " elements")))
      else enterItems shape total fields [] record
  | field :: fields, item :: items, record => do
      let record ← field.enter item record
      enterItems shape total fields items record

def decoder (shape : Shape Record) : Decoder Record := fun value =>
  match value.entries?, value.items? with
  | some entries, _ => do
      let record ← shape.enterEntries entries shape.blank
      checkGiven (entries.map Prod.fst) shape.fields
      return record
  | none, some items => shape.enterItems items.length shape.fields items shape.blank
  | none, none => refuse shape.title value

end Shape

def decodeEntries {α : Type} (decoder : Decoder α) :
    Entries → Except DecodeError (List (String × α))
  | [] => .ok []
  | (name, value) :: rest => do
      let value ← decoder value
      let values ← decodeEntries decoder rest
      return (name, value) :: values

/-- A table whose entries all have one type. -/
def Decoder.mapping {α : Type} (decoder : Decoder α) : Decoder (Mapping α) := fun value =>
  match value.entries? with
  | some entries => (decodeEntries decoder entries).map Mapping.ofList
  | none => refuse "a map" value

/-- The value of a whole text. -/
def Decoder.ofText {α : Type} (decoder : Decoder α) (input : List Char) :
    Except DecodeError α :=
  match read input with
  | some entries => decoder (.table .header entries)
  | none => .error .malformed

end CertSteward.Toml
