/-!
# Instants

An instant in universal time by its calendar fields, from the year -262143 to
the year 262142 and to the nanosecond. Second 60 of a minute is a leap
second. The written form has the sign of a year outside `0000 … 9999` and no,
three, six or nine digits of a second, whichever is the shortest exact form.
-/

namespace CertSteward

set_option autoImplicit false

def isLeapYear (year : Int) : Bool :=
  year % 4 == 0 && (year % 100 != 0 || year % 400 == 0)

def daysInMonth (year : Int) (month : Nat) : Nat :=
  if month = 2 then (if isLeapYear year then 29 else 28)
  else if month = 4 ∨ month = 6 ∨ month = 9 ∨ month = 11 then 30
  else 31

/-- A date and a time of day that need not exist. -/
structure CalendarTime where
  year : Int
  month : Nat
  day : Nat
  hour : Nat
  minute : Nat
  second : Nat
  nanosecond : Nat
deriving DecidableEq, Repr

structure CalendarTime.Exists (time : CalendarTime) : Prop where
  year_low : -262143 ≤ time.year
  year_high : time.year ≤ 262142
  month_low : 1 ≤ time.month
  month_high : time.month ≤ 12
  day_low : 1 ≤ time.day
  day_high : time.day ≤ daysInMonth time.year time.month
  hour_high : time.hour < 24
  minute_high : time.minute < 60
  second_high : time.second ≤ 60
  nanosecond_high : time.nanosecond < 1000000000

instance (time : CalendarTime) : Decidable time.Exists :=
  decidable_of_iff
    (-262143 ≤ time.year ∧ time.year ≤ 262142 ∧ 1 ≤ time.month ∧ time.month ≤ 12 ∧
      1 ≤ time.day ∧ time.day ≤ daysInMonth time.year time.month ∧ time.hour < 24 ∧
      time.minute < 60 ∧ time.second ≤ 60 ∧ time.nanosecond < 1000000000)
    ⟨fun ⟨a, b, c, d, e, f, g, h, i, j⟩ => ⟨a, b, c, d, e, f, g, h, i, j⟩,
      fun ⟨a, b, c, d, e, f, g, h, i, j⟩ => ⟨a, b, c, d, e, f, g, h, i, j⟩⟩

abbrev Timestamp := { time : CalendarTime // time.Exists }

namespace CalendarTime

def previousDay (time : CalendarTime) : CalendarTime :=
  if 1 < time.day then { time with day := time.day - 1 }
  else if 1 < time.month then
    { time with month := time.month - 1, day := daysInMonth time.year (time.month - 1) }
  else { time with year := time.year - 1, month := 12, day := 31 }

def nextDay (time : CalendarTime) : CalendarTime :=
  if time.day < daysInMonth time.year time.month then { time with day := time.day + 1 }
  else if time.month < 12 then { time with month := time.month + 1, day := 1 }
  else { time with year := time.year + 1, month := 1, day := 1 }

/-- The time that many minutes earlier, less than a day away. -/
def minusMinutes (time : CalendarTime) (minutes : Int) : CalendarTime :=
  let total : Int := time.hour * 60 + time.minute - minutes
  let inDay := (total % 1440).toNat
  let moved := { time with hour := inDay / 60, minute := inDay % 60 }
  if total < 0 then moved.previousDay
  else if 1440 ≤ total then moved.nextDay
  else moved

def timestamp? (time : CalendarTime) : Option Timestamp :=
  if exists_ : time.Exists then some ⟨time, exists_⟩ else none

end CalendarTime

namespace Timestamp

/-- A number in at least the given count of digits. -/
def padded (width n : Nat) : List Char :=
  let digits := Nat.toDigits 10 n
  List.replicate (width - digits.length) '0' ++ digits

def yearText (year : Int) : List Char :=
  if year < 0 then '-' :: padded 4 year.natAbs
  else if 9999 < year then '+' :: padded 4 year.natAbs
  else padded 4 year.natAbs

def fractionText (nanosecond : Nat) : List Char :=
  if nanosecond = 0 then []
  else if nanosecond % 1000000 = 0 then '.' :: padded 3 (nanosecond / 1000000)
  else if nanosecond % 1000 = 0 then '.' :: padded 6 (nanosecond / 1000)
  else '.' :: padded 9 nanosecond

def write (stamp : Timestamp) : List Char :=
  let time := stamp.val
  yearText time.year ++ '-' :: padded 2 time.month ++ '-' :: padded 2 time.day ++
    'T' :: padded 2 time.hour ++ ':' :: padded 2 time.minute ++ ':' :: padded 2 time.second ++
    fractionText time.nanosecond ++ ['Z']

def toText (stamp : Timestamp) : String :=
  String.ofList stamp.write

end Timestamp

end CertSteward
