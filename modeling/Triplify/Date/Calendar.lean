/-!
# Calendar dates

Days of the Gregorian calendar, extended to all years, and their ISO 8601 text.
-/

namespace Triplify

/-- A day. -/
structure Date where
  year : Int
  month : Nat
  day : Nat
deriving Repr, DecidableEq

namespace Date

/-- Years divisible by 4, but not by 100 unless by 400. -/
def isLeap (year : Int) : Bool :=
  year % 4 == 0 && (year % 100 ≠ 0 || year % 400 == 0)

/-- The number of days of a month. -/
def daysIn (year : Int) (month : Nat) : Nat :=
  if month == 2 then (if isLeap year then 29 else 28)
  else if month == 4 || month == 6 || month == 9 || month == 11 then 30
  else 31

/-- The day of a year, month and day, if the calendar has it. Years have at most six digits. -/
def of? (year : Int) (month day : Nat) : Option Date :=
  if -262143 ≤ year && year ≤ 262142 && 1 ≤ month && month ≤ 12 && 1 ≤ day &&
      day ≤ daysIn year month then
    some ⟨year, month, day⟩
  else none

/-- A number with zeros in front up to a width. -/
def padded (width n : Nat) : String :=
  let digits := Nat.toDigits 10 n
  String.ofList (List.replicate (width - digits.length) '0' ++ digits)

/-- Year, month and day. A year that does not have four digits carries a sign. -/
def iso (d : Date) : String :=
  let year :=
    if 0 ≤ d.year && d.year < 10000 then padded 4 d.year.toNat
    else (if d.year < 0 then "-" else "+") ++ padded 4 d.year.natAbs
  s!"{year}-{padded 2 d.month}-{padded 2 d.day}"

end Date

end Triplify
