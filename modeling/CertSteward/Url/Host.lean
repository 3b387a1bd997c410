import CertSteward.Url
import CertSteward.Url.Domain

/-!
# Hosts

Names, numeric addresses and addresses in brackets. A name whose last part is
a number is a version 4 address in any of its short, octal and hexadecimal
spellings; an address in brackets is a version 6 address, written with its
longest run of zeros left out.
-/

namespace CertSteward.Host

set_option autoImplicit false

open CertSteward.Domain (splitOn)

def hexValue? (c : Char) : Option Nat :=
  Percent.value? c

def digitsValue (base : Nat) (digits : List Char) : Option Nat :=
  digits.foldl (fun total digit => do
    let total ← total
    let value ← hexValue? digit
    if value < base then return total * base + value else none) (some 0)

/-- A number in one of the spellings of a part: decimal, octal after a zero, hexadecimal after
`0x`; nothing at all after one of these marks is zero. -/
def part? : List Char → Option Nat
  | [] => none
  | '0' :: 'x' :: digits => digitsValue 16 digits
  | '0' :: 'X' :: digits => digitsValue 16 digits
  | ['0'] => some 0
  | '0' :: digits => digitsValue 8 digits
  | digits => digitsValue 10 digits

def withoutEmptyEnd (parts : List (List Char)) : List (List Char) :=
  if parts.getLast? = some [] then parts.dropLast else parts

def endsInNumber (host : List Char) : Bool :=
  let parts := splitOn '.' host
  if parts.length = 1 ∧ parts = [[]] then false
  else
    match (withoutEmptyEnd parts).getLast? with
    | none => false
    | some last => (!last.isEmpty && last.all Char.isDigit) || (part? last).isSome

/-- The number of an address: the last part fills what the parts before it leave. -/
def combine (numbers : List Nat) : Option Nat :=
  match numbers.reverse with
  | [] => none
  | last :: before =>
      let front := before.reverse
      if front.any (255 < ·) ∨ Nat.pow 256 (4 - front.length) ≤ last then none
      else
        some (front.foldl (fun total number => total * 256 + number) 0
          * Nat.pow 256 (4 - front.length) + last)

def ipv4? (host : List Char) : Option Nat := do
  let parts := withoutEmptyEnd (splitOn '.' host)
  if 4 < parts.length then none
  combine (← parts.mapM part?)

def ipv4Text (address : Nat) : String :=
  toString (address / Nat.pow 256 3 % 256) ++ "." ++
    toString (address / Nat.pow 256 2 % 256) ++ "." ++
    toString (address / 256 % 256) ++ "." ++ toString (address % 256)

/-- One to four hexadecimal digits. -/
def piece? (digits : List Char) : Option Nat :=
  if digits.isEmpty ∨ 4 < digits.length then none else digitsValue 16 digits

/-- A decimal number below 256 without a needless zero. -/
def octet? (digits : List Char) : Option Nat := do
  if digits.isEmpty ∨ 3 < digits.length ∨ (digits.head? = some '0' ∧ 1 < digits.length) then none
  if !digits.all Char.isDigit then none
  let value ← digitsValue 10 digits
  if value < 256 then some value else none

/-- The two pieces of an address in the version 4 spelling. -/
def embedded? (text : List Char) : Option (List Nat) := do
  match ← (splitOn '.' text).mapM octet? with
  | [a, b, c, d] => some [a * 256 + b, c * 256 + d]
  | _ => none

/-- The pieces between colons; only the last may be in the version 4 spelling. -/
def pieces? : List (List Char) → Option (List Nat)
  | [] => some []
  | [last] =>
      if last.contains '.' then embedded? last else (piece? last).map fun piece => [piece]
  | head :: rest => do
      let piece ← piece? head
      let pieces ← pieces? rest
      return piece :: pieces

def group? (text : List Char) : Option (List Nat) :=
  if text.isEmpty then some [] else pieces? (splitOn ':' text)

/-- The text before a double colon, and the text after it. -/
def splitGap : List Char → List Char × Option (List Char)
  | [] => ([], none)
  | ':' :: ':' :: rest => ([], some rest)
  | c :: rest =>
      let (before, after) := splitGap rest
      (c :: before, after)

def ipv6? (text : List Char) : Option (List Nat) := do
  match splitGap text with
  | (_, none) =>
      let pieces ← pieces? (splitOn ':' text)
      if pieces.length = 8 then some pieces else none
  | (before, some after) =>
      -- The version 4 spelling ends an address, so it cannot stand before the gap.
      if before.contains '.' then none
      let front ← group? before
      let back ← group? after
      if front.length + back.length < 8 then
        some (front ++ List.replicate (8 - front.length - back.length) 0 ++ back)
      else none

/-- How many zeros stand in front. -/
def zeros (pieces : List Nat) : Nat :=
  (pieces.takeWhile (· == 0)).length

/-- The start and the length of the first longest run of zeros; `index` numbers the pieces. -/
def longestZeros : Nat → List Nat → Nat × Nat
  | _, [] => (0, 0)
  | index, piece :: rest =>
      let here := zeros (piece :: rest)
      let (start, length) := longestZeros (index + 1) rest
      if length ≤ here then (index, here) else (start, length)

def pieceText (piece : Nat) : String :=
  String.ofList (Nat.toDigits 16 piece)

def ipv6Text (pieces : List Nat) : String :=
  let (start, length) := longestZeros 0 pieces
  let shown := pieces.map pieceText
  if length < 2 then ":".intercalate shown
  else
    ":".intercalate (shown.take start) ++ "::" ++ ":".intercalate (shown.drop (start + length))

/-- Characters that no opaque host contains. -/
def isForbiddenOpaque (c : Char) : Bool :=
  c == '\x00' || c == '\t' || c == '\n' || c == '\r' || c == ' ' || c == '#' || c == '/' ||
    c == ':' || c == '<' || c == '>' || c == '?' || c == '@' || c == '[' || c == '\\' ||
    c == ']' || c == '^' || c == '|'

def bracketed (host : List Char) : Option (Except UrlError String) :=
  match host with
  | '[' :: rest =>
      some (match rest.getLast?, ipv6? rest.dropLast with
        | some ']', some pieces => .ok ("[" ++ ipv6Text pieces ++ "]")
        | _, _ => .error .invalidIpv6)
  | _ => none

/-- The host of a special URL. -/
def read (host : List Char) : Except UrlError String :=
  match bracketed host with
  | some answer => answer
  | none =>
      match (Percent.decode? host).bind fun text => Domain.ascii? text.toList with
      | none => .error .invalidInternationalName
      | some name =>
          if name.isEmpty then .error .emptyHost
          else if endsInNumber name then
            match ipv4? name with
            | some address => .ok (ipv4Text address)
            | none => .error .invalidIpv4
          else .ok (String.ofList name)

/-- The host of any other URL. -/
def readOpaque (host : List Char) : Except UrlError String :=
  match bracketed host with
  | some answer => answer
  | none =>
      if host.any isForbiddenOpaque then .error .invalidDomainCharacter
      else .ok (String.ofList (Percent.encode Percent.isControl host))

end CertSteward.Host
