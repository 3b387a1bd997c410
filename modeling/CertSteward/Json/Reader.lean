import CertSteward.Json.Document

/-!
# Reading JSON

The reader turns the cells of a text into a document and hands back what
follows it, or nothing when it had to stop inside.
-/

namespace CertSteward.Json

set_option autoImplicit false

open CertSteward.Text (Cell)

def isSpace (cell : Cell) : Bool :=
  cell == some ' ' || cell == some '\n' || cell == some '\t' || cell == some '\r'

def skipSpace (cells : List Cell) : List Cell :=
  cells.dropWhile isSpace

/-- The rest after a word that has to stand here letter by letter. -/
def readWord : List Char → List Cell → Except Fault (List Cell)
  | [], cells => .ok cells
  | _ :: _, [] => .error .truncated
  | letter :: letters, cell :: cells =>
      if cell = some letter then readWord letters cells else .error .malformed

/-- What one step through a string yields. -/
inductive Piece where
  | char (c : Char)
  /-- Ill-formed bytes. -/
  | gap
  /-- A number given by four hexadecimal digits: a character or half a surrogate pair. -/
  | unit (code : Nat)
deriving DecidableEq, Repr

def hexValue? (cell : Cell) : Option Nat :=
  match cell with
  | none => none
  | some c =>
      let n := c.toNat
      if 0x30 ≤ n ∧ n ≤ 0x39 then some (n - 0x30)
      else if 0x41 ≤ n ∧ n ≤ 0x46 then some (n - 0x37)
      else if 0x61 ≤ n ∧ n ≤ 0x66 then some (n - 0x57)
      else none

def hexFour? (a b c d : Cell) : Option Nat := do
  let a ← hexValue? a
  let b ← hexValue? b
  let c ← hexValue? c
  let d ← hexValue? d
  return ((a * 16 + b) * 16 + c) * 16 + d

/-- The character that a backslash and a letter stand for. -/
def shortEscape? (cell : Cell) : Option Char :=
  if cell = some '"' then some '"'
  else if cell = some '\\' then some '\\'
  else if cell = some '/' then some '/'
  else if cell = some 'b' then some '\x08'
  else if cell = some 'f' then some '\x0c'
  else if cell = some 'n' then some '\n'
  else if cell = some 'r' then some '\r'
  else if cell = some 't' then some '\t'
  else none

/-- The pieces of a string after its opening quote, and what follows the closing one. -/
def readPieces : List Cell → List Piece × Except Fault (List Cell)
  | [] => ([], .error .truncated)
  | none :: rest =>
      let (pieces, stop) := readPieces rest
      (.gap :: pieces, stop)
  | some '"' :: rest => ([], .ok rest)
  | [some '\\'] => ([], .error .truncated)
  | some '\\' :: some 'u' :: a :: b :: c :: d :: rest =>
      match hexFour? a b c d with
      | none => ([], .error .malformed)
      | some code =>
          let (pieces, stop) := readPieces rest
          (.unit code :: pieces, stop)
  | some '\\' :: some 'u' :: _ => ([], .error .truncated)
  | some '\\' :: escape :: rest =>
      match shortEscape? escape with
      | none => ([], .error .malformed)
      | some c =>
          let (pieces, stop) := readPieces rest
          (.char c :: pieces, stop)
  | some c :: rest =>
      if c.toNat < 0x20 then ([], .error .malformed)
      else
        let (pieces, stop) := readPieces rest
        (.char c :: pieces, stop)

def isHigh (code : Nat) : Bool :=
  0xD800 ≤ code && code < 0xDC00

def isLow (code : Nat) : Bool :=
  0xDC00 ≤ code && code < 0xE000

/-- The character of a surrogate pair. -/
def joinPair (high low : Nat) : Char :=
  Char.ofNat (0x10000 + (high - 0xD800) * 0x400 + (low - 0xDC00))

/-- The text of complete pieces, if they denote one. -/
def joinPieces : List Piece → Option (List Char)
  | [] => some []
  | .gap :: _ => none
  | .char c :: rest => (joinPieces rest).map (c :: ·)
  | [.unit code] => if isHigh code || isLow code then none else some [Char.ofNat code]
  | .unit code :: .unit next :: rest =>
      if isHigh code then
        if isLow next then (joinPieces rest).map (joinPair code next :: ·) else none
      else if isLow code then none
      else (joinPieces (.unit next :: rest)).map (Char.ofNat code :: ·)
  | .unit code :: next :: rest =>
      if isHigh code || isLow code then none
      else (joinPieces (next :: rest)).map (Char.ofNat code :: ·)

/-- Whether half a surrogate pair is seen to stand alone before the pieces end. -/
def hasStray : List Piece → Bool
  | [] => false
  | [.unit code] => isLow code
  | .unit code :: .unit next :: rest =>
      if isHigh code then !isLow next || hasStray rest
      else isLow code || hasStray (.unit next :: rest)
  | .unit code :: next :: rest => isHigh code || isLow code || hasStray (next :: rest)
  | _ :: rest => hasStray rest

/-- A string after its opening quote. -/
def readString (cells : List Cell) : Except Break (Option String × List Cell) :=
  let (pieces, stop) := readPieces cells
  match stop with
  | .ok rest => .ok ((joinPieces pieces).map String.ofList, rest)
  | .error fault => .error ⟨if hasStray pieces then .malformed else fault, fault⟩

def digitValue? (cell : Cell) : Option Nat :=
  match cell with
  | some c => if c.isDigit then some (c.toNat - 0x30) else none
  | none => none

/-- The digits that stand here, and the rest. -/
def readDigits : List Cell → List Nat × List Cell
  | [] => ([], [])
  | cell :: rest =>
      match digitValue? cell with
      | none => ([], cell :: rest)
      | some digit =>
          let (digits, rest) := readDigits rest
          (digit :: digits, rest)

/-- A number as written: the digits before and after the point, and the exponent. -/
structure Numeral where
  negative : Bool
  whole : List Nat
  fraction : Option (List Nat)
  exponent : Option Int
deriving DecidableEq, Repr

def largestSignificand : Nat := Nat.pow 2 64 - 1

/-- Appends digits to a significand as long as it stays within sixty-four bits. -/
def gather : Nat → List Nat → Nat × List Nat
  | significand, [] => (significand, [])
  | significand, digit :: rest =>
      if largestSignificand < significand * 10 + digit then (significand, digit :: rest)
      else gather (significand * 10 + digit) rest

/-- A double times a power of ten. Powers beyond `10 ^ 308` are taken in steps. -/
def scaleBy : Nat → Decimal.Binary64 → Int → Option Decimal.Binary64
  | steps, size, exponent => do
      if size.isZero then return size
      else if 308 < exponent then none
      else if 0 ≤ exponent then
        size.mul (← Decimal.Binary64.ofRatio (Nat.pow 10 exponent.toNat) 1)
      else if -308 ≤ exponent then
        size.div (← Decimal.Binary64.ofRatio (Nat.pow 10 (-exponent).toNat) 1)
      else
        match steps with
        | 0 => return Decimal.Binary64.zero
        | steps + 1 =>
            scaleBy steps (← size.div (← Decimal.Binary64.ofRatio (Nat.pow 10 308) 1))
              (exponent + 308)

/-- The number that a numeral denotes. An integer outside `-2 ^ 63 … 2 ^ 64 - 1` and minus
zero are doubles; digits that no longer fit the significand count as zeros. -/
def Numeral.number? (numeral : Numeral) : Option Number :=
  let (significand, dropped) := gather 0 numeral.whole
  let integral := numeral.fraction.isNone && numeral.exponent.isNone && dropped.isEmpty
  if integral && !numeral.negative then some (.int significand)
  else if integral && 0 < significand && significand ≤ Nat.pow 2 63 then some (.int (-significand))
  else
    let fraction := numeral.fraction.getD []
    let (significand, unused) := gather significand fraction
    let places : Int := (fraction.length : Int) - unused.length
    let exponent := (dropped.length : Int) - places + numeral.exponent.getD 0
    do
      let size ← Decimal.Binary64.ofRatio significand 1
      let size ← scaleBy 4 size exponent
      return .real numeral.negative size

/-- The place where a digit has to stand. -/
def missingDigit : List Cell → Break
  | [] => ⟨.truncated, .malformed⟩
  | _ :: _ => Fault.malformed.both

def readExponent (cells : List Cell) : Except Break (Option Int × List Cell) :=
  match cells with
  | some 'e' :: rest | some 'E' :: rest =>
      let (negative, rest) :=
        match rest with
        | some '-' :: rest => (true, rest)
        | some '+' :: rest => (false, rest)
        | rest => (false, rest)
      match readDigits rest with
      | ([], rest) => .error (missingDigit rest)
      | (digits, rest) =>
          let size : Int := Int.ofNat (digits.foldl (fun total digit => total * 10 + digit) 0)
          .ok (some (if negative then -size else size), rest)
  | rest => .ok (none, rest)

def readFraction (cells : List Cell) : Except Break (Option (List Nat) × List Cell) :=
  match cells with
  | some '.' :: rest =>
      match readDigits rest with
      | ([], rest) => .error (missingDigit rest)
      | (digits, rest) => .ok (some digits, rest)
  | rest => .ok (none, rest)

/-- A number after its sign. A zero is not followed by another digit. -/
def readNumeral (negative : Bool) (cells : List Cell) : Except Break (Numeral × List Cell) := do
  match readDigits cells with
  | ([], rest) => .error (missingDigit rest)
  | (0 :: _ :: _, _) => .error Fault.malformed.both
  | (whole, rest) =>
      let (fraction, rest) ← readFraction rest
      let (exponent, rest) ← readExponent rest
      return (⟨negative, whole, fraction, exponent⟩, rest)

def ofWord (document : Document) (letters : String) (cells : List Cell) :
    Document × Option (List Cell) :=
  match readWord letters.toList cells with
  | .ok rest => (document, some rest)
  | .error fault => (.unreadable fault.both, none)

def ofNumeral (negative : Bool) (cells : List Cell) : Document × Option (List Cell) :=
  match readNumeral negative cells with
  | .error fault => (.unreadable fault, none)
  | .ok (numeral, rest) =>
      match numeral.number? with
      | some number => (.number number, some rest)
      | none => (.hugeNumber, some rest)

/-- An ending that nothing reaches, behind an entry that is itself incomplete. -/
def unreached : Ending :=
  .broken Fault.truncated.both

mutual

def readDocument : Nat → List Cell → Document × Option (List Cell)
  | 0, _ => (.unreadable Fault.malformed.both, none)
  | fuel + 1, cells =>
      match skipSpace cells with
      | [] => (.absent, none)
      | some 'n' :: rest => ofWord .null "ull" rest
      | some 't' :: rest => ofWord (.bool true) "rue" rest
      | some 'f' :: rest => ofWord (.bool false) "alse" rest
      | some '-' :: rest => ofNumeral true rest
      | some '"' :: rest =>
          match readString rest with
          | .error fault => (.brokenText fault, none)
          | .ok (some value, rest) => (.text value, some rest)
          | .ok (none, rest) => (.garbledText, some rest)
      | some '[' :: rest =>
          let (items, ending, rest) := readItems fuel true rest
          (.array items ending, rest)
      | some '\x7b' :: rest =>
          let (members, ending, rest) := readMembers fuel true rest
          (.object members ending, rest)
      | cell :: rest =>
          if (digitValue? cell).isSome then ofNumeral false (cell :: rest)
          else (.unreadable Fault.malformed.both, none)

/-- The items of an array from the place before an item or its closing bracket; `first` says
that no separator is needed. -/
def readItems : Nat → Bool → List Cell → List Document × Ending × Option (List Cell)
  | 0, _, _ => ([], .broken Fault.malformed.both, none)
  | fuel + 1, first, cells =>
      match skipSpace cells with
      | [] => ([], .broken Fault.truncated.both, none)
      | some ']' :: rest => ([], .closed, some rest)
      | cell :: rest =>
          if first then readItem fuel (cell :: rest)
          else if cell = some ',' then
            match skipSpace rest with
            | [] => ([], .dangling Fault.truncated.both, none)
            | some ']' :: _ => ([], .dangling Fault.malformed.both, none)
            | rest => readItem fuel rest
          else ([], .broken Fault.malformed.both, none)

/-- An item and those after it. -/
def readItem : Nat → List Cell → List Document × Ending × Option (List Cell)
  | 0, _ => ([], .broken Fault.malformed.both, none)
  | fuel + 1, cells =>
      match readDocument fuel cells with
      | (item, none) => ([item], unreached, none)
      | (item, some rest) =>
          let (items, ending, rest) := readItems fuel false rest
          (item :: items, ending, rest)

def readMembers : Nat → Bool → List Cell →
    List (Option String × Document) × Ending × Option (List Cell)
  | 0, _, _ => ([], .broken Fault.malformed.both, none)
  | fuel + 1, first, cells =>
      match skipSpace cells with
      | [] => ([], .broken Fault.truncated.both, none)
      | some '\x7d' :: rest => ([], .closed, some rest)
      | cell :: rest =>
          if first then readMember fuel .broken (cell :: rest)
          else if cell = some ',' then
            match skipSpace rest with
            | [] => ([], .dangling Fault.truncated.both, none)
            | rest => readMember fuel .dangling rest
          else ([], .broken Fault.malformed.both, none)

/-- A member and those after it; a key that cannot be read becomes the ending. -/
def readMember : Nat → (Break → Ending) → List Cell →
    List (Option String × Document) × Ending × Option (List Cell)
  | 0, _, _ => ([], .broken Fault.malformed.both, none)
  | fuel + 1, unkeyed, cells =>
      match cells with
      | some '"' :: rest =>
          match readString rest with
          | .error fault => ([], unkeyed fault, none)
          | .ok (key, rest) =>
              match skipSpace rest with
              | [] => ([(key, .unreadable Fault.truncated.both)], unreached, none)
              | some ':' :: rest =>
                  match readDocument fuel rest with
                  | (item, none) => ([(key, item)], unreached, none)
                  | (item, some rest) =>
                      let (members, ending, rest) := readMembers fuel false rest
                      ((key, item) :: members, ending, rest)
              | _ => ([(key, .unreadable Fault.malformed.both)], unreached, none)
      | _ => ([], unkeyed Fault.malformed.both, none)

end

/-- The document at the start of a text, and whether anything but blanks follows it. -/
def read (cells : List Cell) : Document × Bool :=
  match readDocument (3 * cells.length + 3) cells with
  | (document, none) => (document, false)
  | (document, some rest) => (document, !(skipSpace rest).isEmpty)

/-- The value of a text that holds one document without any fault. -/
def readValue? (text : String) : Option Value :=
  match read (Text.cells text) with
  | (document, false) => document.value?
  | (_, true) => none

end CertSteward.Json
