/-!
# Punycode

A text in letters, digits and hyphens. The characters that are such already stand in front; the
others follow in the order of their numbers, each as the number of steps from the one before to
its place, where a step goes on by one place and at the end of the text on to the next number.
The steps are numbers of varying length whose digits adapt to the sizes seen so far.
-/

namespace CertSteward.Punycode

set_option autoImplicit false

def digitChar (n : Nat) : Char :=
  .ofNat (if n < 26 then 0x61 + n else 0x16 + n)

def digitValue? (c : Char) : Option Nat :=
  let n := c.toNat
  if 0x61 ≤ n ∧ n ≤ 0x7A then some (n - 0x61)
  else if 0x41 ≤ n ∧ n ≤ 0x5A then some (n - 0x41)
  else if 0x30 ≤ n ∧ n ≤ 0x39 then some (n - 0x16)
  else none

/-- The least digit that is followed by another one; `place` counts in thirty-sixes. -/
def threshold (place bias : Nat) : Nat :=
  max 1 (min 26 (place - bias))

def shrink : Nat → Nat → Nat → Nat
  | 0, place, _ => place
  | fuel + 1, place, size =>
      if 455 < size then shrink fuel (place + 36) (size / 35) else place + 36 * size / (size + 38)

/-- The bias after so many steps, with so many characters in place. -/
def adapt (first : Bool) (steps count : Nat) : Nat :=
  let size := if first then steps / 700 else steps / 2
  let size := size + size / count
  shrink size 0 size

def digitsWithin : Nat → Nat → Nat → Nat → List Char
  | 0, _, _, n => [digitChar n]
  | fuel + 1, bias, place, n =>
      let least := threshold place bias
      if n < least then [digitChar n]
      else
        digitChar (least + (n - least) % (36 - least)) ::
          digitsWithin fuel bias (place + 36) ((n - least) / (36 - least))

def digits (bias n : Nat) : List Char :=
  digitsWithin n bias 36 n

/-- The number at the start, and what follows it. -/
def readDigits (bias : Nat) : Nat → Nat → List Char → Option (Nat × List Char)
  | _, _, [] => none
  | place, weight, c :: rest => do
      let digit ← digitValue? c
      let least := threshold place bias
      if digit < least then return (digit * weight, rest)
      let (more, rest) ← readDigits bias (place + 36) (weight * (36 - least)) rest
      return (digit * weight + more, rest)

def isBasic (c : Char) : Bool :=
  c.toNat < 0x80

/-- Where the writing stands. -/
structure Writer where
  bias : Nat
  /-- The steps since the character last written. -/
  steps : Nat
  /-- How many characters are in place. -/
  count : Nat
  first : Bool

/-- Passes one place of the text, and writes the character there if it has the number. -/
def Writer.pass (writer : Writer) (number : Nat) (c : Char) : Writer × List Char :=
  if c.toNat < number then ({ writer with steps := writer.steps + 1 }, [])
  else if c.toNat = number then
    (⟨adapt writer.first writer.steps (writer.count + 1), 0, writer.count + 1, false⟩,
      digits writer.bias writer.steps)
  else (writer, [])

def Writer.passAll (writer : Writer) (number : Nat) : List Char → Writer × List Char
  | [] => (writer, [])
  | c :: rest =>
      let (writer, front) := writer.pass number c
      let (writer, back) := writer.passAll number rest
      (writer, front ++ back)

/-- Writes the characters with the numbers given, in ascending order; `next` is the first number
not yet passed. -/
def Writer.write (text : List Char) (writer : Writer) (next : Nat) : List Nat → List Char
  | [] => []
  | number :: rest =>
      let steps := writer.steps + (number - next) * (writer.count + 1)
      let (writer, front) := { writer with steps := steps }.passAll number text
      front ++ write text { writer with steps := writer.steps + 1 } (number + 1) rest

def encode (text : List Char) : List Char :=
  let basic := text.filter isBasic
  let numbers := ((text.filter fun c => !isBasic c).map Char.toNat).mergeSort.eraseDups
  let back := Writer.write text ⟨72, 0, basic.length, true⟩ 0x80 numbers
  if basic.isEmpty then back else basic ++ '-' :: back

def char? (n : Nat) : Option Char :=
  if n < 0xD800 ∨ (0xDFFF < n ∧ n < 0x110000) then some (.ofNat n) else none

/-- Puts characters into their places, at most so many; `position` is the place behind the last
one and `number` its number. -/
def place : Nat → Nat → Bool → Nat → Nat → List Char → List Char → Option (List Char)
  | _, _, _, _, _, text, [] => some text
  | 0, _, _, _, _, _, _ :: _ => none
  | fuel + 1, bias, first, number, position, text, code => do
      let (steps, rest) ← readDigits bias 36 1 code
      let count := text.length + 1
      let index := position + steps
      let number := number + index / count
      let c ← char? number
      place fuel (adapt first steps count) false number (index % count + 1)
        (text.take (index % count) ++ c :: text.drop (index % count)) rest

/-- The text before the last hyphen, and the text after it. A hyphen with nothing before it is not
one that divides. -/
def splitHyphen (code : List Char) : List Char × List Char :=
  let back := (code.reverse.takeWhile (· != '-')).reverse
  let front := code.take (code.length - back.length - 1)
  if front.isEmpty then ([], code) else (front, back)

def decode? (code : List Char) : Option (List Char) :=
  if code.all isBasic then
    let (basic, back) := splitHyphen code
    place code.length 72 true 0x80 0 basic back
  else none

end CertSteward.Punycode
