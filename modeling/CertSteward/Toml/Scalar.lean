import CertSteward.Timestamp
import CertSteward.Toml.Text
import CertSteward.Toml.Value

/-!
# TOML words

Booleans, numbers, dates and times. A word is read as a whole and then has to
be one of these from its first character to its last.
-/

namespace CertSteward.Toml

set_option autoImplicit false

def digitOf? (base : Nat) (c : Char) : Option Nat :=
  match hexValue? c with
  | some value => if value < base then some value else none
  | none => none

/-- Digits with single underscores between them; `open_` says that a digit has to come next. -/
def digits? (base : Nat) (open_ : Bool) : List Char → Option (List Nat)
  | [] => if open_ then none else some []
  | c :: rest =>
      if c = '_' then (if open_ then none else digits? base true rest)
      else do
        let digit ← digitOf? base c
        let digits ← digits? base false rest
        return digit :: digits

def ofDigits (base : Nat) (digits : List Nat) : Nat :=
  digits.foldl (fun total digit => total * base + digit) 0

/-- Decimal digits without a needless zero in front. -/
def whole? (word : List Char) : Option (List Nat) :=
  match digits? 10 true word with
  | some (0 :: _ :: _) => none
  | digits => digits

def splitSign : List Char → Bool × List Char
  | '-' :: rest => (true, rest)
  | '+' :: rest => (false, rest)
  | rest => (false, rest)

/-- The part before a mark, and the part after it if the mark is there. -/
def splitAt (isMark : Char → Bool) (word : List Char) : List Char × Option (List Char) :=
  match word.span fun c => !isMark c with
  | (before, _ :: after) => (before, some after)
  | (before, []) => (before, none)

/-- Integers reach from `-2 ^ 127` to `2 ^ 128 - 1`. -/
def integer (value : Int) : Value :=
  if -(Int.pow 2 127) ≤ value ∧ value < Int.pow 2 128 then .integer value else .hugeNumber

def integerWord? (word : List Char) : Option Value :=
  match word with
  | '0' :: 'x' :: rest => (digits? 16 true rest).map fun digits => integer (ofDigits 16 digits)
  | '0' :: 'o' :: rest => (digits? 8 true rest).map fun digits => integer (ofDigits 8 digits)
  | '0' :: 'b' :: rest => (digits? 2 true rest).map fun digits => integer (ofDigits 2 digits)
  | word =>
      let (negative, word) := splitSign word
      (whole? word).map fun digits =>
        let size : Int := ofDigits 10 digits
        integer (if negative then -size else size)

def exponent? (word : List Char) : Option Int :=
  let (negative, word) := splitSign word
  (digits? 10 true word).map fun digits =>
    let size : Int := ofDigits 10 digits
    if negative then -size else size

def realWord? (word : List Char) : Option Value := do
  let (negative, word) := splitSign word
  if word = ['i', 'n', 'f'] then return .real (.infinite negative)
  if word = ['n', 'a', 'n'] then return .real .notANumber
  let (mantissa, power) := splitAt (fun c => c == 'e' || c == 'E') word
  let (before, after) := splitAt (· == '.') mantissa
  if power.isNone && after.isNone then none
  let whole ← whole? before
  let fraction ← (after.map (digits? 10 true)).getD (some [])
  let power ← (power.map exponent?).getD (some 0)
  match Decimal.Binary64.ofDecimal (ofDigits 10 (whole ++ fraction)) (power - fraction.length) with
  | some size => return .real (.finite negative size)
  | none => return .hugeNumber

def twoDigits : Reading Nat
  | a :: b :: rest => do
      let a ← digitOf? 10 a
      let b ← digitOf? 10 b
      return (a * 10 + b, rest)
  | _ => none

def readMark (mark : Char) : Reading Unit
  | c :: rest => if c = mark then some ((), rest) else none
  | [] => none

def readDate : Reading Unit := fun input => do
  let (century, rest) ← twoDigits input
  let (year, rest) ← twoDigits rest
  let (_, rest) ← readMark '-' rest
  let (month, rest) ← twoDigits rest
  let (_, rest) ← readMark '-' rest
  let (day, rest) ← twoDigits rest
  let year : Int := century * 100 + year
  if 1 ≤ month ∧ month ≤ 12 ∧ 1 ≤ day ∧ day ≤ daysInMonth year month then some ((), rest)
  else none

def readSecond : Reading Unit
  | ':' :: rest => do
      let (second, rest) ← twoDigits rest
      if 60 < second then none
      else
        match rest with
        | '.' :: rest =>
            if (rest.takeWhile Char.isDigit).isEmpty then none
            else some ((), rest.dropWhile Char.isDigit)
        | rest => some ((), rest)
  | rest => some ((), rest)

def readTime : Reading Unit := fun input => do
  let (hour, rest) ← twoDigits input
  let (_, rest) ← readMark ':' rest
  let (minute, rest) ← twoDigits rest
  if hour < 24 ∧ minute < 60 then readSecond rest else none

def readOffset : Reading Unit
  | 'Z' :: rest | 'z' :: rest => some ((), rest)
  | '+' :: rest | '-' :: rest => do
      let (hour, rest) ← twoDigits rest
      let (_, rest) ← readMark ':' rest
      let (minute, rest) ← twoDigits rest
      if hour < 24 ∧ minute < 60 then some ((), rest) else none
  | rest => some ((), rest)

/-- Whether the word is a time of day, or a date with or without one. -/
def isDatetime (word : List Char) : Bool :=
  match readDate word with
  | some ((), []) => true
  | some ((), mark :: rest) =>
      (mark == 'T' || mark == 't' || mark == ' ') &&
        ((readTime rest).bind fun (_, rest) => readOffset rest) == some ((), [])
  | none => readTime word == some ((), [])

def datetimeWord? (word : List Char) : Option Value :=
  if isDatetime word then
    some (.datetime (String.ofList (word.map fun c => if c = ' ' then 'T' else c.toUpper)))
  else none

def isWordChar (c : Char) : Bool :=
  c.isAlphanum || c == '_' || c == '+' || c == '-' || c == '.' || c == ':'

def isDateWord (word : List Char) : Bool :=
  readDate word == some ((), [])

/-- A word and what follows it. A blank between a date and a time belongs to the word. -/
def splitWord (input : List Char) : List Char × List Char :=
  let word := input.takeWhile isWordChar
  let rest := input.dropWhile isWordChar
  match rest with
  | ' ' :: digit :: _ =>
      if isDateWord word && digit.isDigit then
        (word ++ ' ' :: (rest.drop 1).takeWhile isWordChar, (rest.drop 1).dropWhile isWordChar)
      else (word, rest)
  | _ => (word, rest)

def wordValue? (word : List Char) : Option Value :=
  if word = ['t', 'r', 'u', 'e'] then some (.boolean true)
  else if word = ['f', 'a', 'l', 's', 'e'] then some (.boolean false)
  else integerWord? word <|> realWord? word <|> datetimeWord? word

def readWord : Reading Value := fun input =>
  let (word, rest) := splitWord input
  (wordValue? word).map fun value => (value, rest)

end CertSteward.Toml
