import CertSteward.Json.Reader
import CertSteward.Json.Writer
import CertSteward.Mismatch

/-!
# Values from documents

Decoders that take a document apart. A record is described by its shape: the
fields in their order, each with the way it enters the record. Members whose
name is no field are skipped, a field given twice is refused, and a record
may also be an array of its fields in order.
-/

namespace CertSteward.Json

set_option autoImplicit false

inductive DecodeError where
  | malformed
  | truncated
  | mismatch (cause : Mismatch)
deriving DecidableEq, Repr

namespace DecodeError

def ofFault : Fault → DecodeError
  | .malformed => .malformed
  | .truncated => .truncated

def message : DecodeError → String
  | .malformed => "*"
  | .truncated => "*"
  | .mismatch cause => cause.message

end DecodeError

/-- Where a document comes from. A text is read only as far as its reader wants, a value held
in memory is known as a whole. -/
inductive Source where
  | text
  | memory
deriving DecidableEq, Repr

abbrev Decoder (α : Type) := Source → Document → Except DecodeError α

def Number.found : Number → Found
  | .int value => .integer value
  | .real negative size => .real (realText negative size)

/-- What stands in the place of something else, if it can be taken at all. -/
def Document.found : Document → Except DecodeError Found
  | .absent => .error .truncated
  | .unreadable fault => .error (.ofFault fault.taken)
  | .null => .ok .null
  | .bool value => .ok (.boolean value)
  | .number value => .ok value.found
  | .hugeNumber => .error .malformed
  | .text value => .ok (.text value)
  | .garbledText => .error .malformed
  | .brokenText fault => .error (.ofFault fault.taken)
  | .array _ _ => .ok .sequence
  | .object _ _ => .ok .map

def mismatch {α : Type} (cause : Mismatch) : Except DecodeError α :=
  .error (.mismatch cause)

/-- Refuses a document in the place of the thing wanted. -/
def refuse {α : Type} (wanted : String) (document : Document) : Except DecodeError α := do
  let found ← document.found
  mismatch (.wrongType found wanted)

def finish {α : Type} (ending : Ending) (value : α) : Except DecodeError α :=
  match ending.fault? with
  | none => .ok value
  | some fault => .error (.ofFault fault.taken)

namespace Decoder

def text : Decoder String := fun _ document =>
  match document with
  | .text value => .ok value
  | other => refuse "a string" other

def integer (wanted : String) (least greatest : Int) : Decoder Int := fun _ document =>
  match document with
  | .number (.int value) =>
      if least ≤ value ∧ value ≤ greatest then .ok value
      else mismatch (.wrongValue (.integer value) wanted)
  | other => refuse wanted other

def unit : Decoder Unit := fun _ document =>
  match document with
  | .null => .ok ()
  | other => refuse "unit" other

def optional {α : Type} (decoder : Decoder α) : Decoder (Option α) := fun source document =>
  match document with
  | .null => .ok none
  | other => (decoder source other).map some

def sequence {α : Type} (decoder : Decoder α) : Decoder (List α) := fun source document =>
  match document with
  | .array items ending => do
      let values ← items.mapM (decoder source)
      finish ending values
  | other => refuse "a sequence" other

def entries {α : Type} (decoder : Decoder α) (source : Source) :
    List (Option String × Document) → Except DecodeError (List (String × α))
  | [] => .ok []
  | (none, _) :: _ => .error .malformed
  | (some key, item) :: rest => do
      let value ← decoder source item
      let values ← entries decoder source rest
      return (key, value) :: values

def mapping {α : Type} (decoder : Decoder α) : Decoder (Mapping α) := fun source document =>
  match document with
  | .object members ending => do
      let values ← entries decoder source members
      finish ending (Mapping.ofList values)
  | other => refuse "a map" other

end Decoder

/-- A field of a record and the way its value enters the record. -/
structure Field (Record : Type) where
  name : String
  required : Bool
  enter : Source → Document → Record → Except DecodeError Record

/-- A field that keeps what the blank record holds when it is missing. -/
def Field.defaulted {Record α : Type} (name : String) (decoder : Decoder α)
    (put : α → Record → Record) : Field Record :=
  ⟨name, false, fun source document record => (decoder source document).map fun value =>
    put value record⟩

def Field.needed {Record α : Type} (name : String) (decoder : Decoder α)
    (put : α → Record → Record) : Field Record :=
  ⟨name, true, fun source document record => (decoder source document).map fun value =>
    put value record⟩

structure Shape (Record : Type) where
  name : String
  blank : Record
  fields : List (Field Record)

namespace Shape

variable {Record : Type}

def title (shape : Shape Record) : String :=
  "struct " ++ shape.name

def field? (shape : Shape Record) (name : String) : Option (Field Record) :=
  shape.fields.find? fun field => field.name == name

/-- Enters the members one by one, and says which fields were given. -/
def enterMembers (shape : Shape Record) (source : Source) :
    List (Option String × Document) → List String → Record →
      Except DecodeError (List String × Record)
  | [], given, record => .ok (given, record)
  | (none, _) :: _, _, _ => .error .malformed
  | (some key, item) :: rest, given, record =>
      match shape.field? key with
      | none =>
          match item.skipFault? with
          | some fault => .error (.ofFault fault)
          | none => enterMembers shape source rest given record
      | some field =>
          if key ∈ given then mismatch (.duplicateField key)
          else do
            let record ← field.enter source item record
            enterMembers shape source rest (key :: given) record

def checkGiven : List (Field Record) → List String → Except DecodeError Unit
  | [], _ => .ok ()
  | field :: rest, given =>
      if field.required && !given.contains field.name then mismatch (.missingField field.name)
      else checkGiven rest given

/-- How many elements an array of the record has. -/
def countText (count : Nat) : String :=
  toString count ++ (if count = 1 then " element" else " elements")

/-- Enters the items in the order of the fields. -/
def enterItems (shape : Shape Record) (source : Source) (ending : Ending) (total : Nat) :
    List (Field Record) → List Document → Record → Except DecodeError Record
  | [], [], record =>
      match ending with
      | .dangling _ => .error .malformed
      | ending => finish ending record
  | [], _ :: _, _ =>
      match source with
      | .text => .error .malformed
      | .memory => mismatch (.wrongLength total "fewer elements in array")
  | field :: fields, [], record => do
      finish ending ()
      if field.required then
        mismatch (.wrongLength total (shape.title ++ " with " ++ countText shape.fields.length))
      else enterItems shape source ending total fields [] record
  | field :: fields, item :: items, record => do
      let record ← field.enter source item record
      enterItems shape source ending total fields items record

def decoder (shape : Shape Record) : Decoder Record := fun source document =>
  match document with
  | .object members ending => do
      let (given, record) ← shape.enterMembers source members [] shape.blank
      finish ending ()
      checkGiven shape.fields given
      return record
  | .array items ending =>
      shape.enterItems source ending items.length shape.fields items shape.blank
  | other => refuse shape.title other

end Shape

/-- The value of a text that holds one document and nothing behind it. -/
def Decoder.ofCells {α : Type} (decoder : Decoder α) (cells : List Text.Cell) :
    Except DecodeError α := do
  let (document, more) := read cells
  let value ← decoder .text document
  if more then .error .malformed else .ok value

def Decoder.ofText {α : Type} (decoder : Decoder α) (text : String) : Except DecodeError α :=
  decoder.ofCells (Text.cells text)

def Decoder.ofBytes {α : Type} (decoder : Decoder α) (bytes : List UInt8) :
    Except DecodeError α :=
  decoder.ofCells (Text.Utf8.read bytes)

def Decoder.ofValue {α : Type} (decoder : Decoder α) (value : Value) : Except DecodeError α :=
  decoder .memory value.document

end CertSteward.Json
