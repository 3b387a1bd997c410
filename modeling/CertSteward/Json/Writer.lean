import CertSteward.Decimal.Shortest
import CertSteward.Json.Value

/-!
# Written JSON

One line without blanks. A text spells out the double quote, the backslash
and the controls, and keeps every other character. A double has the fewest
digits that read back, with the point in place from `0.00001` up to sixteen
digits before it and with an exponent outside.
-/

namespace CertSteward.Json

set_option autoImplicit false

def hexDigit (n : Nat) : Char :=
  Char.ofNat (if n < 10 then 0x30 + n else 0x57 + n)

/-- A character number as the four digits of an escape. -/
def hexFour (n : Nat) : List Char :=
  [hexDigit (n / 4096 % 16), hexDigit (n / 256 % 16), hexDigit (n / 16 % 16), hexDigit (n % 16)]

/-- The letter behind the backslash, for a character with an escape of its own. -/
def escapeLetter? (c : Char) : Option Char :=
  if c = '"' ∨ c = '\\' then some c
  else if c = '\x08' then some 'b'
  else if c = '\x0c' then some 'f'
  else if c = '\n' then some 'n'
  else if c = '\r' then some 'r'
  else if c = '\t' then some 't'
  else none

def writeChar (c : Char) : List Char :=
  match escapeLetter? c with
  | some letter => ['\\', letter]
  | none => if c.toNat < 0x20 then '\\' :: 'u' :: hexFour c.toNat else [c]

def writeText (text : String) : List Char :=
  '"' :: (text.toList.flatMap writeChar ++ ['"'])

/-- The text of a double. -/
def realText (negative : Bool) (size : Decimal.Binary64) : String :=
  let number := size.shortest
  let plain :=
    if -5 ≤ number.leading ∧ number.leading ≤ 15 then Decimal.positional number
    else
      let mantissa :=
        match Nat.toDigits 10 number.digits with
        | first :: second :: rest => first :: '.' :: second :: rest
        | digits => digits
      let sign := if number.leading < 0 then "-" else "+"
      String.ofList mantissa ++ "e" ++ sign ++ toString number.leading.natAbs
  if negative then "-" ++ plain else plain

def Number.text : Number → String
  | .int value => toString value
  | .real negative size => realText negative size

mutual

def Value.write : Value → List Char
  | .null => "null".toList
  | .bool value => (if value then "true" else "false").toList
  | .number value => value.text.toList
  | .text value => writeText value
  | .array items => '[' :: (writeItems items ++ [']'])
  | .object members => '\x7b' :: (writeMembers members ++ ['\x7d'])

def writeItems : List Value → List Char
  | [] => []
  | [item] => item.write
  | item :: rest => item.write ++ ',' :: writeItems rest

def writeMembers : List (String × Value) → List Char
  | [] => []
  | [(key, value)] => writeText key ++ ':' :: value.write
  | (key, value) :: rest => writeText key ++ ':' :: (value.write ++ ',' :: writeMembers rest)

end

def Value.toText (value : Value) : String :=
  String.ofList value.write

end CertSteward.Json
