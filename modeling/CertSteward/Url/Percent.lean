import CertSteward.Text.Utf8

/-!
# Percent encoding

A character that must not stand for itself is written as its UTF-8 bytes,
each a percent sign and two upper-case hexadecimal digits. Which characters
those are depends on the part of the URL; a character above ASCII never
stands for itself.
-/

namespace CertSteward.Percent

set_option autoImplicit false

def digit (n : Nat) : Char :=
  Char.ofNat (if n < 10 then 0x30 + n else 0x37 + n)

def encodeByte (byte : UInt8) : List Char :=
  ['%', digit (byte.toNat / 16), digit (byte.toNat % 16)]

/-- The written form of a character, for a set of ASCII characters to be encoded. -/
def encodeChar (escaped : Char → Bool) (c : Char) : List Char :=
  if c.toNat < 0x80 ∧ escaped c = false then [c]
  else (String.utf8EncodeChar c).flatMap encodeByte

def encode (escaped : Char → Bool) (text : List Char) : List Char :=
  text.flatMap (encodeChar escaped)

def value? (c : Char) : Option Nat :=
  let n := c.toNat
  if 0x30 ≤ n ∧ n ≤ 0x39 then some (n - 0x30)
  else if 0x41 ≤ n ∧ n ≤ 0x46 then some (n - 0x37)
  else if 0x61 ≤ n ∧ n ≤ 0x66 then some (n - 0x57)
  else none

/-- The bytes that a text stands for. A percent sign without two digits is itself. -/
def decodeBytes : List Char → List UInt8
  | [] => []
  | '%' :: a :: b :: rest =>
      match value? a, value? b with
      | some high, some low => UInt8.ofNat (high * 16 + low) :: decodeBytes rest
      | _, _ => UInt8.ofNat 0x25 :: decodeBytes (a :: b :: rest)
  | c :: rest => String.utf8EncodeChar c ++ decodeBytes rest

/-- The text that a percent-encoded text stands for, if its bytes are one. -/
def decode? (text : List Char) : Option String :=
  Text.Utf8.decode? (decodeBytes text)

def isControl (c : Char) : Bool :=
  c.toNat < 0x20 || c.toNat == 0x7F

def inFragment (c : Char) : Bool :=
  isControl c || c == ' ' || c == '"' || c == '<' || c == '>' || c.toNat == 0x60

def inQuery (c : Char) : Bool :=
  isControl c || c == ' ' || c == '"' || c == '#' || c == '<' || c == '>'

def inSpecialQuery (c : Char) : Bool :=
  inQuery c || c == '\''

def inPath (c : Char) : Bool :=
  inFragment c || c == '#' || c == '?' || c == '\x7b' || c == '\x7d'

def inPathSegment (c : Char) : Bool :=
  inPath c || c == '/' || c == '%'

def inSpecialPathSegment (c : Char) : Bool :=
  inPathSegment c || c == '\\'

def inUserinfo (c : Char) : Bool :=
  inPath c || c == '/' || c == ':' || c == ';' || c == '=' || c == '@' || c == '[' ||
    c == '\\' || c == ']' || c == '^' || c == '|'

def standsInForm (c : Char) : Bool :=
  c.isAlphanum || c == '*' || c == '-' || c == '.' || c == '_'

/-- A value in a form: a blank is a plus sign. -/
def encodeForm (text : List Char) : List Char :=
  text.flatMap fun c => if c = ' ' then ['+'] else encodeChar (fun c => !standsInForm c) c

/-- The text that a value in a form stands for. -/
def decodeForm? (text : List Char) : Option String :=
  decode? (text.map fun c => if c = '+' then ' ' else c)

end CertSteward.Percent
