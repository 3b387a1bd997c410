/-!
# TOML strings

Four kinds of strings: basic ones with escapes and literal ones without, each
on one line or on several. A multi-line string drops a line break right after
its opening, may hold up to two quotes in a row and up to two more before its
closing ones, and, if basic, joins lines at a backslash.
-/

namespace CertSteward.Toml

set_option autoImplicit false

abbrev Reading (α : Type) := List Char → Option (α × List Char)

def isSpace (c : Char) : Bool :=
  c == ' ' || c == '\t'

/-- A character that may stand for itself: a tab, or anything that is no control. -/
def isPlain (c : Char) : Bool :=
  c == '\t' || (0x20 ≤ c.toNat && c.toNat != 0x7F)

def hexValue? (c : Char) : Option Nat :=
  let n := c.toNat
  if 0x30 ≤ n ∧ n ≤ 0x39 then some (n - 0x30)
  else if 0x41 ≤ n ∧ n ≤ 0x46 then some (n - 0x37)
  else if 0x61 ≤ n ∧ n ≤ 0x66 then some (n - 0x57)
  else none

def hexNumber? (digits : List Char) : Option Nat :=
  digits.foldl
    (fun total digit => do return (← total) * 16 + (← hexValue? digit)) (some 0)

/-- The character with a number given in hexadecimal digits. -/
def scalar? (digits : List Char) : Option Char := do
  let n ← hexNumber? digits
  if n < 0xD800 ∨ (0xDFFF < n ∧ n < 0x110000) then some (Char.ofNat n) else none

def shortEscape? (c : Char) : Option Char :=
  if c = 'b' then some '\x08'
  else if c = 't' then some '\t'
  else if c = 'n' then some '\n'
  else if c = 'f' then some '\x0c'
  else if c = 'r' then some '\r'
  else if c = 'e' then some '\x1b'
  else if c = '"' then some '"'
  else if c = '\\' then some '\\'
  else none

def push {α : Type} (head : α) (read : Option (List α × List Char)) :
    Option (List α × List Char) :=
  read.map fun (items, rest) => (head :: items, rest)

/-- A basic string after its opening quote. -/
def readBasic : Reading (List Char)
  | [] => none
  | '"' :: rest => some ([], rest)
  | '\\' :: 'x' :: a :: b :: rest => do push (← scalar? [a, b]) (readBasic rest)
  | '\\' :: 'u' :: a :: b :: c :: d :: rest => do push (← scalar? [a, b, c, d]) (readBasic rest)
  | '\\' :: 'U' :: a :: b :: c :: d :: e :: f :: g :: h :: rest => do
      push (← scalar? [a, b, c, d, e, f, g, h]) (readBasic rest)
  | '\\' :: c :: rest => do push (← shortEscape? c) (readBasic rest)
  | c :: rest => if isPlain c ∧ c ≠ '\\' then push c (readBasic rest) else none

/-- A literal string after its opening quote. -/
def readLiteral : Reading (List Char)
  | [] => none
  | '\'' :: rest => some ([], rest)
  | c :: rest => if isPlain c then push c (readLiteral rest) else none

/-- What one step through a multi-line basic string yields. -/
inductive Piece where
  | raw (c : Char)
  | escaped (c : Char)
  /-- A backslash before a blank or a line break. -/
  | join
deriving DecidableEq, Repr

/-- The pieces of a multi-line basic string, to its closing quotes. -/
def readPieces : Reading (List Piece)
  | [] => none
  | '"' :: '"' :: '"' :: '"' :: '"' :: rest => some ([.raw '"', .raw '"'], rest)
  | '"' :: '"' :: '"' :: '"' :: rest => some ([.raw '"'], rest)
  | '"' :: '"' :: '"' :: rest => some ([], rest)
  | '\r' :: '\n' :: rest => push (.raw '\r') (push (.raw '\n') (readPieces rest))
  | '\n' :: rest => push (.raw '\n') (readPieces rest)
  | '\\' :: 'x' :: a :: b :: rest => do push (.escaped (← scalar? [a, b])) (readPieces rest)
  | '\\' :: 'u' :: a :: b :: c :: d :: rest => do
      push (.escaped (← scalar? [a, b, c, d])) (readPieces rest)
  | '\\' :: 'U' :: a :: b :: c :: d :: e :: f :: g :: h :: rest => do
      push (.escaped (← scalar? [a, b, c, d, e, f, g, h])) (readPieces rest)
  | '\\' :: '\r' :: '\n' :: rest => push .join (push (.raw '\n') (readPieces rest))
  | '\\' :: c :: rest =>
      if isSpace c || c == '\n' then push .join (push (.raw c) (readPieces rest))
      else do push (.escaped (← shortEscape? c)) (readPieces rest)
  | c :: rest => if isPlain c ∧ c ≠ '\\' then push (.raw c) (readPieces rest) else none

/-- Where the joining of lines stands. -/
inductive Joining where
  | off
  /-- Behind the backslash, before the line break. -/
  | opened
  /-- Behind the line break, where blanks and further breaks are dropped. -/
  | dropping
deriving DecidableEq, Repr

/-- The text of the pieces. -/
def joinPieces : Joining → List Piece → Option (List Char)
  | .opened, [] => none
  | _, [] => some []
  | .off, .join :: rest => joinPieces .opened rest
  | .dropping, .join :: rest => joinPieces .opened rest
  | .opened, .raw c :: rest =>
      if c = '\n' then joinPieces .dropping rest
      else if isSpace c || c == '\r' then joinPieces .opened rest
      else none
  | .opened, _ :: _ => none
  | .off, .raw c :: rest => (joinPieces .off rest).map (c :: ·)
  | .dropping, .raw c :: rest =>
      if isSpace c || c == '\n' || c == '\r' then joinPieces .dropping rest
      else (joinPieces .off rest).map (c :: ·)
  | _, .escaped c :: rest => (joinPieces .off rest).map (c :: ·)

/-- The characters of a multi-line literal string, to its closing quotes. -/
def readLiteralLines : Reading (List Char)
  | [] => none
  | '\'' :: '\'' :: '\'' :: '\'' :: '\'' :: rest => some (['\'', '\''], rest)
  | '\'' :: '\'' :: '\'' :: '\'' :: rest => some (['\''], rest)
  | '\'' :: '\'' :: '\'' :: rest => some ([], rest)
  | '\r' :: '\n' :: rest => push '\r' (push '\n' (readLiteralLines rest))
  | '\n' :: rest => push '\n' (readLiteralLines rest)
  | c :: rest => if isPlain c then push c (readLiteralLines rest) else none

/-- Drops a line break in front. -/
def dropBreak : List Char → List Char
  | '\r' :: '\n' :: rest => rest
  | '\n' :: rest => rest
  | rest => rest

def readBasicLines : Reading (List Char) := fun input => do
  let (pieces, rest) ← readPieces (dropBreak input)
  let text ← joinPieces .off pieces
  return (text, rest)

/-- A string of any kind. -/
def readString : Reading String := fun input => do
  let (text, rest) ←
    match input with
    | '"' :: '"' :: '"' :: rest => readBasicLines rest
    | '"' :: rest => readBasic rest
    | '\'' :: '\'' :: '\'' :: rest => readLiteralLines (dropBreak rest)
    | '\'' :: rest => readLiteral rest
    | _ => none
  return (String.ofList text, rest)

theorem read_basic_plain {c : Char} (plain : isPlain c = true) (slashless : c ≠ '\\')
    (inside : c ≠ '"') (rest : List Char) :
    readBasic (c :: rest) = push c (readBasic rest) := by
  rw [readBasic, if_pos ⟨plain, slashless⟩] <;> simp [slashless, inside]

theorem read_pieces_plain {c : Char} (plain : isPlain c = true) (slashless : c ≠ '\\')
    (inside : c ≠ '"') (rest : List Char) :
    readPieces (c :: rest) = push (.raw c) (readPieces rest) := by
  have sameLine : c ≠ '\n' := by rintro rfl; contradiction
  have noReturn : c ≠ '\r' := by rintro rfl; contradiction
  rw [readPieces, if_pos ⟨plain, slashless⟩] <;> simp [inside, sameLine, noReturn, slashless]

theorem read_literal_lines_plain {c : Char} (plain : isPlain c = true) (inside : c ≠ '\'')
    (rest : List Char) : readLiteralLines (c :: rest) = push c (readLiteralLines rest) := by
  have sameLine : c ≠ '\n' := by rintro rfl; contradiction
  have noReturn : c ≠ '\r' := by rintro rfl; contradiction
  rw [readLiteralLines, if_pos plain] <;> simp [inside, sameLine, noReturn]

end CertSteward.Toml
