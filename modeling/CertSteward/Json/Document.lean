import CertSteward.Json.Value
import CertSteward.Mapping
import CertSteward.Text.Utf8

/-!
# JSON documents

What a JSON text says, as far as it can be read. A reader that wants one
thing of a document and skips the rest is stopped only by the faults in its
way, so faults are parts of a document and not of its reading. Some of them
are looked at more closely where a value is taken than where it is skipped;
such a place carries both verdicts.
-/

namespace CertSteward.Json

set_option autoImplicit false

/-- Why a text is no document. -/
inductive Fault where
  /-- Something stands where it must not. -/
  | malformed
  /-- The text ends too early. -/
  | truncated
deriving DecidableEq, Repr

/-- A fault as it shows to one who takes the value and to one who skips it. -/
structure Break where
  taken : Fault
  skipped : Fault
deriving DecidableEq, Repr

def Fault.both (fault : Fault) : Break :=
  ⟨fault, fault⟩

/-- How a list of items or members ends. -/
inductive Ending where
  | closed
  /-- Neither a separator nor the closing bracket follows. -/
  | broken (fault : Break)
  /-- A separator is followed by nothing that could be an entry. -/
  | dangling (fault : Break)
deriving DecidableEq, Repr

/-- The fault in an ending, for one who takes or skips what comes next. -/
def Ending.fault? : Ending → Option Break
  | .closed => none
  | .broken fault => some fault
  | .dangling fault => some fault

inductive Document where
  /-- The text ends before the value. -/
  | absent
  /-- Something other than a value, or a number or word that breaks off. -/
  | unreadable (fault : Break)
  | null
  | bool (value : Bool)
  | number (value : Number)
  /-- A number too large for a double. -/
  | hugeNumber
  | text (value : String)
  /-- A complete string that denotes no text: ill-formed bytes or half a surrogate pair. -/
  | garbledText
  | brokenText (fault : Break)
  | array (items : List Document) (ending : Ending)
  | object (members : List (Option String × Document)) (ending : Ending)
deriving Repr, Inhabited

namespace Document

mutual

/-- The first fault in the way of one who skips the document. -/
def skipFault? : Document → Option Fault
  | .absent => some .truncated
  | .unreadable fault => some fault.skipped
  | .brokenText fault => some fault.skipped
  | .array items ending => skipItems items <|> ending.fault?.map Break.skipped
  | .object members ending => skipMembers members <|> ending.fault?.map Break.skipped
  | _ => none

def skipItems : List Document → Option Fault
  | [] => none
  | item :: rest => item.skipFault? <|> skipItems rest

def skipMembers : List (Option String × Document) → Option Fault
  | [] => none
  | (_, item) :: rest => item.skipFault? <|> skipMembers rest

end

mutual

/-- The value of a document without any fault. -/
def value? : Document → Option Value
  | .null => some .null
  | .bool value => some (.bool value)
  | .number value => some (.number value)
  | .text value => some (.text value)
  | .array items .closed => (valueItems items).map .array
  | .object members .closed => (valueMembers members).map .object
  | _ => none

def valueItems : List Document → Option (List Value)
  | [] => some []
  | item :: rest => do
      let value ← item.value?
      let values ← valueItems rest
      return value :: values

def valueMembers : List (Option String × Document) → Option (List (String × Value))
  | [] => some []
  | (key, item) :: rest => do
      let key ← key
      let value ← item.value?
      let values ← valueMembers rest
      return (key, value) :: values

end

end Document

mutual

/-- A value held in memory as a document: members in the order of their names, the last one
of a name counting. -/
def Value.document : Value → Document
  | .null => .null
  | .bool value => .bool value
  | .number value => .number value
  | .text value => .text value
  | .array items => .array (itemDocuments items) .closed
  | .object members =>
      let settled := Mapping.ofList (memberDocuments members)
      .object (settled.entries.map fun entry => (some entry.1, entry.2)) .closed

def itemDocuments : List Value → List Document
  | [] => []
  | item :: rest => item.document :: itemDocuments rest

def memberDocuments : List (String × Value) → List (String × Document)
  | [] => []
  | (key, value) :: rest => (key, value.document) :: memberDocuments rest

end

end CertSteward.Json
