import CertSteward.Url.Domain.Direction
import CertSteward.Url.Domain.Joining
import CertSteward.Url.Domain.Table
import CertSteward.Url.Punycode

/-!
# Domain names

A domain name in its one form of letters below ASCII: capitals and other variants of a character
are replaced by the one that stands for them, and a label with characters above ASCII is written
in Punycode behind `xn--`. What holds of the characters of a label has to hold of a label in
Punycode as well, and the labels of a name have to fit together.
-/

namespace CertSteward.Domain

set_option autoImplicit false

open CertSteward.Text (isAscii)

def splitOn (mark : Char) : List Char → List (List Char)
  | [] => [[]]
  | c :: rest =>
      if c = mark then [] :: splitOn mark rest
      else
        match splitOn mark rest with
        | [] => [[c]]
        | part :: parts => (c :: part) :: parts

/-- Characters that no name contains. -/
def isForbidden (c : Char) : Bool :=
  c.toNat ≤ 0x20 || c.toNat == 0x7F || c == '#' || c == '%' || c == '/' || c == ':' ||
    c == '<' || c == '>' || c == '?' || c == '@' || c == '[' || c == '\\' || c == ']' ||
    c == '^' || c == '|'

def known : List Text.Packed.Stretch :=
  Text.Packed.stretches knownRows

/-- The characters that stand for a character, by its number. -/
def targets : List (Nat × List Nat) :=
  Text.Packed.placed targetRows

def shifts : List (Nat × List Nat) :=
  Text.Packed.placed shiftRows

/-- The character that stands for one of a row of evenly spaced ones. -/
def shifted? (n : Nat) (row : Nat × List Nat) : Option Nat :=
  match row.2 with
  | [step, count, up, down] =>
      if row.1 ≤ n ∧ (n - row.1) % step = 0 ∧ (n - row.1) / step < count then some (n + up - down)
      else none
  | _ => none

/-- The characters that stand for a character, if a name may be given with it. -/
def folded? (c : Char) : Option (List Char) :=
  if isAscii c then some [c.toLower]
  else
    match targets.lookup c.toNat with
    | some numbers => some (numbers.map Char.ofNat)
    | none =>
        match shifts.findSome? (shifted? c.toNat) with
        | some n => some [.ofNat n]
        | none => if (Text.Packed.find? known c.toNat).isSome then some [c] else none

def foldAll? : List Char → Option (List Char)
  | [] => some []
  | c :: rest => do
      let front ← folded? c
      let back ← foldAll? rest
      return front ++ back

def normal? (name : List Char) : Option (List Char) :=
  (foldAll? name).map Text.composed

/-- How many characters a label with characters above ASCII may have. -/
def longestLabel : Nat := 1000

/-- How many characters of a label in Punycode are read, behind what stands in front. -/
def longestCode : Nat := 2000

/-- Whether a label with characters above ASCII is as it has to be. -/
def isLabel (label : List Char) : Bool :=
  match label with
  | [] => false
  | first :: _ =>
      !label.all isAscii && normal? label == some label && !Text.isMark first &&
        !label.contains '.' && Joining.fits [] label && label.length ≤ longestLabel

/-- What stands in front of a label in Punycode. -/
def mark : List Char := ['x', 'n', '-', '-']

/-- The text of a label: one in Punycode is read, any other one is its own. -/
def opened? (label : List Char) : Option (List Char) :=
  if mark.isPrefixOf label then
    let code := label.drop mark.length
    if code.length ≤ longestCode then (Punycode.decode? code).filter isLabel else none
  else if label.all isAscii || isLabel label then some label
  else none

/-- A label without characters above ASCII. -/
def closed (label : List Char) : List Char :=
  if label.all isAscii then label else mark ++ Punycode.encode label

/-- A character of a name in its one form. -/
def isPlain (c : Char) : Bool :=
  isAscii c && !c.isUpper

/-- The one form of a name. -/
def ascii? (name : List Char) : Option (List Char) := do
  let labels := splitOn '.' (← normal? name)
  let texts ← labels.mapM opened?
  let name := ['.'].intercalate (labels.map closed)
  if Direction.fits texts && name.all isPlain && !name.any isForbidden then some name else none

end CertSteward.Domain
