import CertSteward.Text.Blank
import CertSteward.Timestamp

/-!
# Reading instants

A date, a separator, a time of day and an offset from universal time. Blanks
may stand before every number and sign of the date and the time, numbers may
be shorter than their full width, and a year of more than four digits needs
its sign.
-/

namespace CertSteward.Timestamp

set_option autoImplicit false

open CertSteward.Text (isBlank)

abbrev Reading (α : Type) := List Char → Option (α × List Char)

def skipBlanks (input : List Char) : List Char :=
  input.dropWhile isBlank

/-- The value of at most `width` digits in front, and the rest. -/
def takeDigits : Nat → Nat → List Char → Nat × List Char
  | 0, total, input => (total, input)
  | _ + 1, total, [] => (total, [])
  | width + 1, total, c :: rest =>
      if c.isDigit then takeDigits width (total * 10 + (c.toNat - 0x30)) rest
      else (total, c :: rest)

def startsWithDigit : List Char → Bool
  | [] => false
  | c :: _ => c.isDigit

/-- A number of one to `width` digits. -/
def readNumber (width : Nat) : Reading Nat := fun input =>
  if startsWithDigit input then some (takeDigits width 0 input) else none

def readField (width : Nat) : Reading Nat := fun input =>
  readNumber width (skipBlanks input)

/-- A year: four digits at most, or a sign and any number of digits. -/
def readYear : Reading Int := fun input =>
  match skipBlanks input with
  | '-' :: rest => (readNumber rest.length rest).map fun (year, rest) => (-(year : Int), rest)
  | '+' :: rest => (readNumber rest.length rest).map fun (year, rest) => ((year : Int), rest)
  | rest => (readNumber 4 rest).map fun (year, rest) => ((year : Int), rest)

def readMark (mark : Char) : Reading Unit := fun input =>
  match skipBlanks input with
  | c :: rest => if c = mark then some ((), rest) else none
  | [] => none

/-- The nanoseconds of a decimal fraction; digits beyond the ninth are dropped. -/
def readFraction : Reading Nat := fun input =>
  match input with
  | '.' :: rest =>
      if startsWithDigit rest then
        let digits := rest.takeWhile Char.isDigit
        let (value, _) := takeDigits 9 0 digits
        some (value * Nat.pow 10 (9 - digits.length), rest.dropWhile Char.isDigit)
      else none
  | rest => some (0, rest)

def readSeparator : Reading Unit := fun input =>
  match input with
  | 'T' :: rest | 't' :: rest | ' ' :: rest => some ((), rest)
  | _ => none

def digit? (c : Char) : Option Nat :=
  if c.isDigit then some (c.toNat - 0x30) else none

def readTwoDigits : Reading Nat := fun input =>
  match input with
  | a :: b :: rest => do
      let a ← digit? a
      let b ← digit? b
      return (a * 10 + b, rest)
  | _ => none

/-- Hours and minutes, with any colons and blanks between them. -/
def readSpan : Reading Nat := fun input => do
  let (hours, rest) ← readTwoDigits input
  let (minutes, rest) ← readTwoDigits (rest.dropWhile fun c => c == ':' || isBlank c)
  if minutes < 60 then some (hours * 60 + minutes, rest) else none

def matchesWord (word : List Char) (input : List Char) : Bool :=
  (input.take word.length).map Char.toUpper == word

/-- The offset in minutes: a letter for none, the name of universal time, or a signed span. -/
def readOffset : Reading Int := fun input =>
  let input := skipBlanks input
  if matchesWord ['U', 'T', 'C'] input then some (0, input.drop 3)
  else
    match input with
    | 'Z' :: rest | 'z' :: rest => some (0, rest)
    | '+' :: rest => (readSpan rest).map fun (span, rest) => ((span : Int), rest)
    | '-' :: rest | '−' :: rest => (readSpan rest).map fun (span, rest) => (-(span : Int), rest)
    | _ => none

def read (input : List Char) : Option Timestamp := do
  let (year, rest) ← readYear input
  let (_, rest) ← readMark '-' rest
  let (month, rest) ← readField 2 rest
  let (_, rest) ← readMark '-' rest
  let (day, rest) ← readField 2 rest
  let (_, rest) ← readSeparator rest
  let (hour, rest) ← readField 2 rest
  let (_, rest) ← readMark ':' rest
  let (minute, rest) ← readField 2 rest
  let (_, rest) ← readMark ':' rest
  let (second, rest) ← readField 2 rest
  let (nanosecond, rest) ← readFraction rest
  let (offset, rest) ← readOffset rest
  let written : CalendarTime := ⟨year, month, day, hour, minute, second, nanosecond⟩
  if (skipBlanks rest).isEmpty && offset.natAbs < 1440 then
    let _ ← written.timestamp?
    (written.minusMinutes offset).timestamp?
  else none

def ofText? (text : String) : Option Timestamp :=
  read text.toList

end CertSteward.Timestamp
