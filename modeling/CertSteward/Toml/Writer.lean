import CertSteward.Toml.Text

/-!
# Written TOML

A string is written between double quotes if nothing in it needs an escape,
else as a literal, else on several lines, and with escapes only where nothing
else is left. A tab never decides the style; a line break calls for a style
of several lines, and a break right after the opening then keeps the first
one in the text.
-/

namespace CertSteward.Toml

set_option autoImplicit false

/-- A control other than the tab and the line break. -/
def needsEscape (c : Char) : Bool :=
  (c.toNat < 0x20 && c != '\t' && c != '\n') || c.toNat == 0x7F

/-- The longest run of a character; `run` is the length of the run that ends here. -/
def longestRun (mark : Char) : Nat → List Char → Nat
  | run, [] => run
  | run, c :: rest =>
      if c = mark then longestRun mark (run + 1) rest else max run (longestRun mark 0 rest)

inductive Style where
  | basic
  | literal
  | basicLines
  | literalLines
deriving DecidableEq, Repr

/-- The style of a string as a value. -/
def valueStyle (text : List Char) : Style :=
  let controls := text.any needsEscape
  let backslash := text.contains '\\'
  let breaks := text.contains '\n'
  let double := longestRun '"' 0 text
  let single := longestRun '\'' 0 text
  if !controls && !backslash && double == 0 && !breaks then .basic
  else if !controls && single == 0 && !breaks then .literal
  else if !controls && !backslash && double ≤ 2 then .basicLines
  else if !controls && single ≤ 2 then .literalLines
  else if breaks then .basicLines
  else .basic

def upperHexDigit (n : Nat) : Char :=
  Char.ofNat (if n < 10 then 0x30 + n else 0x37 + n)

/-- A character below 256 as an escape. -/
def numberedEscape (c : Char) : List Char :=
  ['\\', 'u', '0', '0', upperHexDigit (c.toNat / 16), upperHexDigit (c.toNat % 16)]

/-- A character of a basic string other than the double quote. -/
def basicChar (lines : Bool) (c : Char) : List Char :=
  if c = '\x08' then ['\\', 'b']
  else if c = '\t' then ['\\', 't']
  else if c = '\n' then (if lines then ['\n'] else ['\\', 'n'])
  else if c = '\x0c' then ['\\', 'f']
  else if c = '\r' then ['\\', 'r']
  else if c = '\\' then ['\\', '\\']
  else if needsEscape c then numberedEscape c
  else [c]

/-- The inside of a basic string. Of quotes in a row, so many stay as they are before one is
escaped; `run` counts those just written. -/
def basicChars (lines : Bool) (allowed : Nat) : Nat → List Char → List Char
  | _, [] => []
  | run, c :: rest =>
      if c = '"' then
        if run < allowed then '"' :: basicChars lines allowed (run + 1) rest
        else '\\' :: '"' :: basicChars lines allowed 0 rest
      else basicChar lines c ++ basicChars lines allowed 0 rest

/-- The line break behind an opening, for a text with line breaks. -/
def openingBreak (text : List Char) : List Char :=
  if text.contains '\n' then ['\n'] else []

def writeStyled (style : Style) (text : List Char) : List Char :=
  match style with
  | .basic => '"' :: (basicChars false 0 0 text ++ ['"'])
  | .literal => '\'' :: (text ++ ['\''])
  | .basicLines =>
      ['"', '"', '"'] ++ openingBreak text ++ basicChars true 2 0 text ++ ['"', '"', '"']
  | .literalLines => ['\'', '\'', '\''] ++ openingBreak text ++ text ++ ['\'', '\'', '\'']

def writeText (text : String) : List Char :=
  writeStyled (valueStyle text.toList) text.toList

/-- The style of a quoted key, always on one line. -/
def keyStyle (text : List Char) : Style :=
  let controls := text.any needsEscape || text.contains '\n'
  if !controls && !text.contains '\\' && !text.contains '"' then .basic
  else if !controls && !text.contains '\'' then .literal
  else .basic

def isBareChar (c : Char) : Bool :=
  c.isAlphanum || c == '_' || c == '-'

def writeKey (name : String) : List Char :=
  let text := name.toList
  if !text.isEmpty && text.all isBareChar then text else writeStyled (keyStyle text) text

end CertSteward.Toml
