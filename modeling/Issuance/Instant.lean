import Issuance.Json.Decimal

/-! # Instants and their written form

    An instant is a second counted from the start of 1970 in universal time, and a part of a second.
    It is written as a date of the Gregorian calendar, carried on unchanged into all past and
    future, and a time of day; the part of the second is dropped. A year outside `0` to `9999` has a
    sign.

    Days are counted from the first of March of the year zero: with the leap day at the end, the
    year of a day and the day in its year follow from the lengths of 400, 100, 4 and 1 years. -/

namespace Issuance

/-- A second from the start of 1970 on, and the nanoseconds since it began; these reach `10 ^ 9`
    during a leap second. -/
structure Instant where
  seconds : Int
  nanoseconds : Nat
  deriving DecidableEq, Repr

/-- A day of the Gregorian calendar. -/
structure Date where
  year : Int
  month : Nat
  day : Nat
  deriving DecidableEq, Repr

namespace Date

/-- The days from the first of March of the year zero to the first of January of 1970. -/
def epochDay : Int := 719468

/-- The days in a cycle of 400 years. -/
def cycleDays : Int := 146097

/-- The year within its cycle that a day of the cycle falls in. -/
def yearOfCycle (day : Nat) : Nat := (day - day / 1460 + day / 36524 - day / 146096) / 365

/-- The first day of a year within its cycle. -/
def firstDayOfYear (year : Nat) : Nat := 365 * year + year / 4 - year / 100

/-- The date of a day counted from the first of March of the year zero. -/
def ofDay (n : Int) : Date :=
  let cycle := n / cycleDays
  let day := (n % cycleDays).toNat
  let year := yearOfCycle day
  let inYear := day - firstDayOfYear year
  let month := (5 * inYear + 2) / 153
  let inMonth := inYear - (153 * month + 2) / 5 + 1
  { year := cycle * 400 + year + (if month < 10 then 0 else 1)
    month := if month < 10 then month + 3 else month - 9
    day := inMonth }

end Date

/-- A number in at least so many digits. -/
def padded (width n : Nat) : List Char :=
  let digits := Json.digitsOf n
  List.replicate (width - digits.length) '0' ++ digits

/-- A year in four digits; with its sign if it is negative or needs more. -/
def yearText (year : Int) : List Char :=
  if 0 ≤ year ∧ year ≤ 9999 then padded 4 year.toNat
  else (if year < 0 then '-' else '+') :: padded 4 year.natAbs

/-- A date as year, month and day. -/
def Date.text (d : Date) : List Char :=
  yearText d.year ++ '-' :: padded 2 d.month ++ '-' :: padded 2 d.day

/-- A second of the day as hour, minute and second. -/
def clockText (second : Nat) : List Char :=
  padded 2 (second / 3600) ++ ':' :: padded 2 (second / 60 % 60) ++ ':' :: padded 2 (second % 60)

namespace Instant

/-- The date of an instant. -/
def date (t : Instant) : Date := .ofDay (t.seconds / 86400 + Date.epochDay)

/-- The seconds of the day that are over at an instant. -/
def secondOfDay (t : Instant) : Nat := (t.seconds % 86400).toNat

/-- An instant as a timestamp. -/
def text (t : Instant) : List Char := t.date.text ++ 'T' :: clockText t.secondOfDay ++ ['Z']

end Instant
end Issuance
