import CertSteward.Toml.Value

/-!
# Building tables

Assignments and headers put values into a table of tables. A key is given
once; a table between braces is complete as it stands; a table with a header
is not added to by dotted keys, nor one from dotted keys by a header.
-/

namespace CertSteward.Toml

set_option autoImplicit false

/-- A dotted key: the tables on the way and the name in the last of them. -/
structure Key where
  path : List String
  name : String
deriving DecidableEq, Repr

namespace Entries

def find? (entries : Entries) (name : String) : Option Value :=
  entries.lookup name

/-- Puts a value in the place of the one under the name, or at the end. -/
def put (entries : Entries) (name : String) (value : Value) : Entries :=
  match entries with
  | [] => [(name, value)]
  | entry :: rest =>
      if entry.1 = name then (name, value) :: rest else entry :: put rest name value

/-- Changes the table at the end of a path of dotted keys, making the tables on the way. -/
def alongKey (change : Entries → Option Entries) : List String → Entries → Option Entries
  | [], entries => change entries
  | name :: path, entries =>
      match entries.find? name with
      | none => do
          let inner ← alongKey change path []
          return entries.put name (.table .dotted inner)
      | some (.table kind inner) => do
          if kind = .inline ∨ kind = .header then none
          -- What the header of a part implies may be passed through, but the key must not end
          -- there.
          if path.isEmpty ∧ kind ≠ .dotted then none
          let inner ← alongKey change path inner
          return entries.put name (.table kind inner)
      | some (.tables elements) => do
          if path.isEmpty then none
          let last ← elements.getLast?
          let last ← alongKey change path last
          return entries.put name (.tables (elements.dropLast ++ [last]))
      | some _ => none

def addNew (name : String) (value : Value) (entries : Entries) : Option Entries :=
  match entries.find? name with
  | none => some (entries ++ [(name, value)])
  | some _ => none

def assign (entries : Entries) (key : Key) (value : Value) : Option Entries :=
  alongKey (addNew key.name value) key.path entries

def assignAll (entries : Entries) : List (Key × Value) → Option Entries
  | [] => some entries
  | (key, value) :: rest => do
      let entries ← entries.assign key value
      assignAll entries rest

/-- Changes the table at the end of the path of a header, making the tables on the way. A
repeated table stands for its last element. -/
def alongHeader (change : Entries → Option Entries) : List String → Entries → Option Entries
  | [], entries => change entries
  | name :: path, entries =>
      match entries.find? name with
      | none => do
          let inner ← alongHeader change path []
          return entries.put name (.table .implied inner)
      | some (.table kind inner) => do
          if kind = .inline then none
          let inner ← alongHeader change path inner
          return entries.put name (.table kind inner)
      | some (.tables elements) => do
          let last ← elements.getLast?
          let last ← alongHeader change path last
          return entries.put name (.tables (elements.dropLast ++ [last]))
      | some _ => none

/-- Opens a table by its header and fills it. -/
def openTable (name : String) (assignments : List (Key × Value)) (entries : Entries) :
    Option Entries :=
  match entries.find? name with
  | none => do
      let inner ← assignAll [] assignments
      return entries.put name (.table .header inner)
  | some (.table .implied inner) => do
      let inner ← assignAll inner assignments
      return entries.put name (.table .header inner)
  | some _ => none

/-- Adds an element to a repeated table and fills it. -/
def openElement (name : String) (assignments : List (Key × Value)) (entries : Entries) :
    Option Entries := do
  let inner ← assignAll [] assignments
  match entries.find? name with
  | none => return entries.put name (.tables [inner])
  | some (.tables elements) => return entries.put name (.tables (elements ++ [inner]))
  | some _ => none

end Entries

inductive Header where
  | table (key : Key)
  | element (key : Key)
deriving DecidableEq, Repr

/-- A header with the assignments under it. -/
structure Section where
  header : Header
  assignments : List (Key × Value)
deriving Repr

/-- A document: the assignments before the first header, and the sections. -/
structure Outline where
  assignments : List (Key × Value)
  sections : List Section
deriving Repr

namespace Outline

def addSection (entries : Entries) (part : Section) : Option Entries :=
  match part.header with
  | .table key => entries.alongHeader (Entries.openTable key.name part.assignments) key.path
  | .element key => entries.alongHeader (Entries.openElement key.name part.assignments) key.path

def addSections (entries : Entries) : List Section → Option Entries
  | [] => some entries
  | part :: rest => do
      let entries ← addSection entries part
      addSections entries rest

/-- The table that the document stands for. -/
def entries? (outline : Outline) : Option Entries := do
  let root ← Entries.assignAll [] outline.assignments
  addSections root outline.sections

end Outline

end CertSteward.Toml
