namespace TrackerQuery.Time

structure Date where
  year : Int
  month : Nat
  day : Nat
deriving DecidableEq, Repr

def isLeapYear (year : Int) : Bool :=
  year % 4 == 0 && (year % 100 != 0 || year % 400 == 0)

def daysInMonth (year : Int) (month : Nat) : Nat :=
  if month == 2 then if isLeapYear year then 29 else 28
  else if month == 4 || month == 6 || month == 9 || month == 11 then 30
  else 31

namespace Date

def isValid (d : Date) : Bool :=
  1 ≤ d.month && d.month ≤ 12 && 1 ≤ d.day && d.day ≤ daysInMonth d.year d.month

-- Days since the first of January 1970. The count goes by cycles of 400 years that start on a first of
-- March, so that the leap day comes last.
def dayNumber (d : Date) : Int :=
  let year := if d.month ≤ 2 then d.year - 1 else d.year
  let yearOfCycle := year % 400
  let dayOfYear : Int := (153 * ((d.month + 9) % 12 : Nat) + 2) / 5 + d.day - 1
  year / 400 * 146097 + yearOfCycle * 365 + yearOfCycle / 4 - yearOfCycle / 100 + dayOfYear - 719468

def ofDayNumber (n : Int) : Date :=
  let n := n + 719468
  let dayOfCycle := n % 146097
  let yearOfCycle :=
    (dayOfCycle - dayOfCycle / 1460 + dayOfCycle / 36524 - dayOfCycle / 146096) / 365
  let dayOfYear := dayOfCycle - (365 * yearOfCycle + yearOfCycle / 4 - yearOfCycle / 100)
  let month := (5 * dayOfYear + 2) / 153
  let day := dayOfYear - (153 * month + 2) / 5 + 1
  let year := n / 146097 * 400 + yearOfCycle
  if month < 10 then ⟨year, (month + 3).toNat, day.toNat⟩
  else ⟨year + 1, (month - 9).toNat, day.toNat⟩

end Date

example : Date.dayNumber ⟨1970, 1, 1⟩ = 0 := by decide
example : Date.dayNumber ⟨2000, 2, 29⟩ = 11016 := by decide
example : Date.ofDayNumber 11016 = ⟨2000, 2, 29⟩ := by decide
example : Date.ofDayNumber (-719529) = ⟨-1, 12, 31⟩ := by decide

end TrackerQuery.Time
