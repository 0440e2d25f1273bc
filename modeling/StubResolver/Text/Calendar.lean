/-!
# Dates

Instants are counted in seconds since the beginning of 1970, without leap seconds, and are shown
in the Gregorian calendar, which is carried on to all years.
-/

namespace StubResolver.Calendar

/-- A day of the Gregorian calendar. -/
structure Date where
  year : Int
  /-- From 1 to 12. -/
  month : Nat
  /-- From 1 to 31. -/
  day : Nat
  deriving DecidableEq, Repr

/-- The date of a day that is counted from the beginning of 1970. Years are counted from March on,
in eras of 400 years, so that leap days end a year. -/
def Date.ofDays (days : Int) : Date :=
  let shifted := days + 719468
  let era := shifted.fdiv 146097
  let dayOfEra := (shifted.fmod 146097).toNat
  let yearOfEra := (dayOfEra - dayOfEra / 1460 + dayOfEra / 36524 - dayOfEra / 146096) / 365
  let dayOfYear := dayOfEra - (365 * yearOfEra + yearOfEra / 4 - yearOfEra / 100)
  let shiftedMonth := (5 * dayOfYear + 2) / 153
  let day := dayOfYear - (153 * shiftedMonth + 2) / 5 + 1
  let month := if shiftedMonth < 10 then shiftedMonth + 3 else shiftedMonth - 9
  let year := era * 400 + yearOfEra + (if month ≤ 2 then 1 else 0)
  ⟨year, month, day⟩

/-- The short names of the days of the week, that of the first day of 1970 first. -/
def dayNames : List String := ["Thu", "Fri", "Sat", "Sun", "Mon", "Tue", "Wed"]

/-- The short names of the months. -/
def monthNames : List String :=
  ["Jan", "Feb", "Mar", "Apr", "May", "Jun", "Jul", "Aug", "Sep", "Oct", "Nov", "Dec"]

/-- A number in at least two digits. -/
def twoDigits (n : Nat) : String := if n < 10 then "0" ++ toString n else toString n

/-- A year, with a sign unless it has at most four digits. -/
def yearText (year : Int) : String :=
  if 9999 < year then "+" ++ toString year else toString year

/-- The instant in words, in universal time. -/
def text (seconds : Int) : String :=
  let days := seconds.fdiv 86400
  let time := (seconds.fmod 86400).toNat
  let date := Date.ofDays days
  dayNames.getD (days.fmod 7).toNat "" ++ " " ++ monthNames.getD (date.month - 1) "" ++ " "
    ++ toString date.day ++ " " ++ twoDigits (time / 3600) ++ ":" ++ twoDigits (time / 60 % 60)
    ++ ":" ++ twoDigits (time % 60) ++ " +0000 " ++ yearText date.year

end StubResolver.Calendar
