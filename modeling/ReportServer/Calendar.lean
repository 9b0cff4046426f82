/-!
# Dates and moments

Dates of the proleptic Gregorian calendar and moments of a day, in universal time, with the three
texts the server writes for them: a date, a date and a time, and the compact stamp in file names.
A fourth form, with a `T` and a `Z`, is what tracking records carry.

A leap second is a fraction of second 59 that has reached one second, so it prints as second 60.
Day numbers count from 1970-01-01; they are what a database sends for dates and moments.
-/

namespace ReportServer

/-- A date: year, month from 1, day from 1. -/
structure Date where
  year : Int
  month : Nat
  day : Nat
deriving DecidableEq, Repr

/-- A moment of a day. -/
structure Moment where
  date : Date
  hour : Nat
  minute : Nat
  second : Nat
  /-- At least `10 ^ 9` in a leap second. -/
  nanosecond : Nat
deriving DecidableEq, Repr

namespace Calendar

/-- A number with zeros in front up to a width. -/
def padded (width n : Nat) : List Char :=
  let ds := Nat.toDigits 10 n
  List.replicate (width - ds.length) '0' ++ ds

/-- A year: four digits at least, with a sign outside 0 to 9999. -/
def yearChars (y : Int) : List Char :=
  if y < 0 then '-' :: padded 4 y.natAbs
  else if 9999 < y then '+' :: padded 4 y.natAbs
  else padded 4 y.natAbs

/-- Days from 1970-01-01 to the first of March of year 0. -/
def epochShift : Int := 719468

/-- Days since 1970-01-01. Years begin in March here, so that a leap day ends one. -/
def dayNumber (d : Date) : Int :=
  let y := if d.month ≤ 2 then d.year - 1 else d.year
  let m : Int := if d.month ≤ 2 then d.month + 9 else d.month - 3
  365 * y + y / 4 - y / 100 + y / 400 + (153 * m + 2) / 5 + d.day - 1 - epochShift

/-- The date a number of days after 1970-01-01. -/
def ofDayNumber (n : Int) : Date :=
  let z := n + epochShift
  let era := z / 146097
  let dayOfEra := z % 146097
  let yearOfEra := (dayOfEra - dayOfEra / 1460 + dayOfEra / 36524 - dayOfEra / 146096) / 365
  let dayOfYear := dayOfEra - (365 * yearOfEra + yearOfEra / 4 - yearOfEra / 100)
  let shifted := (5 * dayOfYear + 2) / 153
  let day := dayOfYear - (153 * shifted + 2) / 5 + 1
  let month := if shifted < 10 then shifted + 3 else shifted - 9
  let year := yearOfEra + era * 400
  ⟨if month ≤ 2 then year + 1 else year, month.toNat, day.toNat⟩

/-- Day number of 2000-01-01. -/
def day2000 : Int := 10957

/-- Microseconds in a day. -/
def microsPerDay : Int := 86400000000

/-- Nanoseconds of a second. -/
def nanosPerSecond : Nat := 1000000000

end Calendar

namespace Date

open Calendar

/-- A date as year, month and day with hyphens. -/
def chars (d : Date) : List Char :=
  yearChars d.year ++ '-' :: padded 2 d.month ++ '-' :: padded 2 d.day

/-- The earliest date the server holds. -/
def earliest : Date := ⟨-262143, 1, 1⟩

/-- The latest date the server holds. -/
def latest : Date := ⟨262142, 12, 31⟩

/-- The date a number of days after 2000-01-01, if the server can hold it. -/
def ofDaysSince2000 (n : Int) : Option Date :=
  let z := n + day2000
  if dayNumber earliest ≤ z ∧ z ≤ dayNumber latest then some (ofDayNumber z) else none

end Date

namespace Moment

open Calendar

/-- The second as it prints: a leap second is one more. -/
def shownSecond (m : Moment) : Nat := m.second + m.nanosecond / nanosPerSecond

/-- A date and a time with a blank between them. -/
def chars (m : Moment) : List Char :=
  m.date.chars ++ ' ' :: padded 2 m.hour ++ ':' :: padded 2 m.minute ++ ':' :: padded 2 m.shownSecond

/-- The stamp in a file name: eight digits, an underscore, six digits. -/
def stamp (m : Moment) : List Char :=
  yearChars m.date.year ++ padded 2 m.date.month ++ padded 2 m.date.day ++ '_' :: padded 2 m.hour ++
    padded 2 m.minute ++ padded 2 m.shownSecond

/-- A fraction of a second in none, three, six or nine digits, whichever is the first to hold it. -/
def fractionChars (nanosecond : Nat) : List Char :=
  let n := nanosecond % nanosPerSecond
  if n = 0 then []
  else if n % 1000000 = 0 then '.' :: padded 3 (n / 1000000)
  else if n % 1000 = 0 then '.' :: padded 6 (n / 1000)
  else '.' :: padded 9 n

/-- A date and a time with a `T` between them, a fraction if there is one, and a `Z`. -/
def zulu (m : Moment) : String :=
  String.ofList (m.date.chars ++ 'T' :: padded 2 m.hour ++ ':' :: padded 2 m.minute ++
    ':' :: padded 2 m.shownSecond ++ fractionChars m.nanosecond ++ ['Z'])

/-- Microseconds since 2000-01-01. -/
def microsSince2000 (m : Moment) : Int :=
  (dayNumber m.date - day2000) * microsPerDay +
    ((m.hour * 60 + m.minute) * 60 + m.second : Nat) * 1000000 + (m.nanosecond / 1000 : Nat)

/-- The moment a number of microseconds after 2000-01-01, if the server can hold it. -/
def ofMicrosSince2000 (n : Int) : Option Moment :=
  (Date.ofDaysSince2000 (n / microsPerDay)).map fun date =>
    let rest := (n % microsPerDay).toNat
    let seconds := rest / 1000000
    ⟨date, seconds / 3600, seconds / 60 % 60, seconds % 60, rest % 1000000 * 1000⟩

end Moment

end ReportServer
