import CertSteward.Toml.Scalar
import CertSteward.Toml.Table

/-!
# Reading TOML

A text is a list of lines: blank ones, comments, headers and assignments. It
is first read into an outline and then built into a table; either step can
refuse it.
-/

namespace CertSteward.Toml

set_option autoImplicit false

def skipSpace (input : List Char) : List Char :=
  input.dropWhile isSpace

/-- Skips blanks, line breaks and comments; the flag says that a comment is open. -/
def skipFiller : Bool → List Char → Option (List Char)
  | _, [] => some []
  | _, '\n' :: rest => skipFiller false rest
  | _, '\r' :: '\n' :: rest => skipFiller false rest
  | true, c :: rest => if isPlain c then skipFiller true rest else none
  | false, c :: rest =>
      if isSpace c then skipFiller false rest
      else if c = '#' then skipFiller true rest
      else some (c :: rest)

/-- Skips what may stand behind an assignment or a header, with the line break. -/
def endLine : Bool → List Char → Option (List Char)
  | _, [] => some []
  | _, '\n' :: rest => some rest
  | _, '\r' :: '\n' :: rest => some rest
  | true, c :: rest => if isPlain c then endLine true rest else none
  | false, c :: rest =>
      if isSpace c then endLine false rest
      else if c = '#' then endLine true rest
      else none

def isKeyChar (c : Char) : Bool :=
  c.isAlphanum || c == '_' || c == '-'

def readSimpleKey : Reading String := fun input =>
  match input with
  | '"' :: rest => (readBasic rest).map fun (text, rest) => (String.ofList text, rest)
  | '\'' :: rest => (readLiteral rest).map fun (text, rest) => (String.ofList text, rest)
  | input =>
      match input.takeWhile isKeyChar with
      | [] => none
      | name => some (String.ofList name, input.dropWhile isKeyChar)

/-- The names of a dotted key, at most as many as given, with the blanks around them. -/
def readNames : Nat → Reading (List String)
  | 0, _ => none
  | fuel + 1, input => do
      let (name, rest) ← readSimpleKey (skipSpace input)
      match skipSpace rest with
      | '.' :: rest => push name (readNames fuel rest)
      | rest => return ([name], rest)

def readKey : Reading Key := fun input => do
  let (names, rest) ← readNames (input.length + 1) input
  let name ← names.getLast?
  return (⟨names.dropLast, name⟩, rest)

def readEquals : Reading Unit
  | '=' :: rest => some ((), skipSpace rest)
  | _ => none

/-- How deep arrays and tables between braces may be nested. -/
def deepest : Nat := 80

mutual

/-- A value that is nested in `depth` others. -/
def readValue : Nat → Nat → Reading Value
  | 0, _, _ => none
  | fuel + 1, depth, input =>
      match input with
      | '[' :: rest =>
          if deepest ≤ depth then none
          else (readItems fuel (depth + 1) rest).map fun (items, rest) => (.array items, rest)
      | '\x7b' :: rest =>
          if deepest ≤ depth then none
          else do
            let (assignments, rest) ← readAssignments fuel (depth + 1) rest
            let entries ← Entries.assignAll [] assignments
            return (.table .inline entries, rest)
      | input =>
          match readString input with
          | some (text, rest) => some (.text text, rest)
          | none => readWord input

/-- The items of an array, to its closing bracket. -/
def readItems : Nat → Nat → Reading (List Value)
  | 0, _, _ => none
  | fuel + 1, depth, input => do
      match ← skipFiller false input with
      | ']' :: rest => some ([], rest)
      | rest => do
          let (item, rest) ← readValue fuel depth rest
          match ← skipFiller false rest with
          | ',' :: rest => push item (readItems fuel depth rest)
          | ']' :: rest => some ([item], rest)
          | _ => none

/-- The assignments of a table between braces, to the closing brace. -/
def readAssignments : Nat → Nat → Reading (List (Key × Value))
  | 0, _, _ => none
  | fuel + 1, depth, input => do
      match ← skipFiller false input with
      | '\x7d' :: rest => some ([], rest)
      | rest => do
          let (key, rest) ← readKey rest
          let (_, rest) ← readEquals rest
          let (value, rest) ← readValue fuel depth rest
          match ← skipFiller false rest with
          | ',' :: rest => push (key, value) (readAssignments fuel depth rest)
          | '\x7d' :: rest => some ([(key, value)], rest)
          | _ => none

end

def readAssignment : Reading (Key × Value) := fun input => do
  let (key, rest) ← readKey input
  let (_, rest) ← readEquals rest
  let (value, rest) ← readValue (2 * input.length + 2) 0 rest
  let rest ← endLine false rest
  return ((key, value), rest)

def readHeader : Reading Header
  | '[' :: '[' :: rest => do
      let (key, rest) ← readKey rest
      match rest with
      | ']' :: ']' :: rest => return (.element key, ← endLine false rest)
      | _ => none
  | '[' :: rest => do
      let (key, rest) ← readKey rest
      match rest with
      | ']' :: rest => return (.table key, ← endLine false rest)
      | _ => none
  | _ => none

/-- The outline of a text of at most so many lines. Assignments belong to the header above
them. -/
def readLines : Nat → List Char → Option Outline
  | 0, _ => none
  | fuel + 1, input => do
      match ← skipFiller false input with
      | [] => return ⟨[], []⟩
      | '[' :: rest =>
          let (header, rest) ← readHeader ('[' :: rest)
          let outline ← readLines fuel rest
          return ⟨[], ⟨header, outline.assignments⟩ :: outline.sections⟩
      | rest =>
          let (assignment, rest) ← readAssignment rest
          let outline ← readLines fuel rest
          return ⟨assignment :: outline.assignments, outline.sections⟩

/-- Without a byte order mark in front. -/
def dropMark : List Char → List Char
  | '\uFEFF' :: rest => rest
  | input => input

def readOutline (input : List Char) : Option Outline :=
  readLines (input.length + 1) (dropMark input)

/-- The table that a text stands for. -/
def read (input : List Char) : Option Entries := do
  let outline ← readOutline input
  outline.entries?

end CertSteward.Toml
